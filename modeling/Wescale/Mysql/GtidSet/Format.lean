import Wescale.Lib.GoBytes
import Wescale.Mysql.GtidSet.Parse

/-!
# `Mysql56GTIDSet.String` (`go/mysql/mysql56_gtid_set.go`, `go/mysql/mysql56_gtid.go`)

`String` writes the server ids in byte order, each as `SID.String` writes it and followed by
`:start` or `:start-end` for each of its intervals, and separates the server ids by commas.

## What is proved

`parse_string`: the parser reads back every set whose lists are non-empty and positive, each
list sorted again by the parser's sort, so the text means the same GTIDs
(`den_of_lookup_sort`). Nothing is said of a set with an empty list, which `String` prints as a
bare server id that the parser refuses, or with an interval that starts below 1.
-/

set_option autoImplicit false

namespace Wescale.Mysql

open GoString

/-! ## The printer -/

/-- `SID.String`: the 16 bytes in hex, in groups of 4, 2, 2, 2 and 6 bytes joined by dashes. -/
def SID.string (sid : SID) : List Char :=
  encodeHex (sid.toList.take 4) ++ '-' :: encodeHex ((sid.toList.drop 4).take 2) ++ '-' ::
    encodeHex ((sid.toList.drop 6).take 2) ++ '-' :: encodeHex ((sid.toList.drop 8).take 2) ++
      '-' :: encodeHex (sid.toList.drop 10)

/-- One interval as `String` writes it after its `:`: the start, then `-` and the end unless
the end is the start, each by `strconv.FormatInt(_, 10)`. -/
def formatInterval (iv : Interval) : List Char :=
  formatInt iv.start.toInt ++ if iv.stop ≠ iv.start then '-' :: formatInt iv.stop.toInt else []

/-- `sortSIDs`: by `bytes.Compare(a[:], b[:]) < 0`, the lexicographic order of the bytes. The
server ids of a map are distinct, so every sort returns the same list; insertion sort is one. -/
def sortSIDs (sids : List SID) : List SID :=
  sids.insertionSort fun a b => a.toList ≤ b.toList

namespace Mysql56GTIDSet

/-- `SIDs`: the server ids of the set in byte order. -/
def sids (set : Mysql56GTIDSet) : List SID := sortSIDs set.keys

/-- What `String` writes for one server id: the id, then `:` and each of its intervals. -/
def writeSID (set : Mysql56GTIDSet) (sid : SID) : List Char :=
  SID.string sid ++ (set.intervalsOf sid).flatMap fun iv => ':' :: formatInterval iv

/-- `String`: the server ids in order, separated by commas. -/
def string (set : Mysql56GTIDSet) : String :=
  String.ofList ([','].intercalate (set.sids.map set.writeSID))

end Mysql56GTIDSet

/-! ## Reading a server id back -/

/-- `ParseSID` reads back what `SID.String` writes. -/
theorem parseSID_string (sid : SID) : parseSID (SID.string sid) = .ok sid := by
  have hl : sid.toList.length = 16 := sid.length_toList
  -- the five groups of hex digits, of 8, 4, 4, 4 and 12 characters
  have h0 : (encodeHex (sid.toList.take 4)).length = 8 := by simp [length_encodeHex, hl]
  have h1 : (encodeHex ((sid.toList.drop 4).take 2)).length = 4 := by simp [length_encodeHex, hl]
  have h2 : (encodeHex ((sid.toList.drop 6).take 2)).length = 4 := by simp [length_encodeHex, hl]
  have h3 : (encodeHex ((sid.toList.drop 8).take 2)).length = 4 := by simp [length_encodeHex, hl]
  have h4 : (encodeHex (sid.toList.drop 10)).length = 12 := by simp [length_encodeHex, hl]
  have hdash : (SID.string sid).length = 36 ∧ (SID.string sid)[8]? = some '-' ∧
      (SID.string sid)[13]? = some '-' ∧ (SID.string sid)[18]? = some '-' ∧
      (SID.string sid)[23]? = some '-' := by
    simp [SID.string, h0, h1, h2, h3, h4]
  have hsplit : ∀ m n k, k = m + n →
      (sid.toList.drop m).take n ++ sid.toList.drop k = sid.toList.drop m := by
    rintro m n k rfl
    rw [← List.drop_drop, List.take_append_drop]
  -- the text between the dashes is the hex of the whole id
  have hgroups : (SID.string sid).take 8 ++ ((SID.string sid).drop 9).take 4 ++
      ((SID.string sid).drop 14).take 4 ++ ((SID.string sid).drop 19).take 4 ++
      (SID.string sid).drop 24 = encodeHex sid.toList := by
    simp only [SID.string]
    simp [h0, h1, h2, h3, List.drop_append, List.drop_of_length_le]
    rw [← encodeHex_append _ (sid.toList.drop 10), hsplit 8 2 10 rfl,
      ← encodeHex_append _ (sid.toList.drop 8), hsplit 6 2 8 rfl,
      ← encodeHex_append _ (sid.toList.drop 6), hsplit 4 2 6 rfl, ← encodeHex_append,
      List.take_append_drop]
  rw [parseSID, if_pos hdash, hgroups, decodeHex_encodeHex]
  simp only [dif_pos hl]
  rfl

/-- Every character of `SID.String` is a lowercase hex digit or a dash. -/
theorem mem_sidString {sid : SID} {c : Char} (h : c ∈ SID.string sid) :
    c = '-' ∨ ∃ n < 16, c = Nat.digitChar n := by
  simp only [SID.string, List.mem_append, List.mem_cons, or_assoc] at h
  rcases h with h | h | h | h | h | h | h | h | h
  all_goals first
    | exact .inl h
    | exact .inr (mem_encodeHex h)

/-- A server id as printed holds no space, no colon and no comma. -/
theorem sidString_chars {sid : SID} {c : Char} (h : c ∈ SID.string sid) :
    isSpace c = false ∧ c ≠ ':' ∧ c ≠ ',' := by
  rcases mem_sidString h with rfl | ⟨n, hn, rfl⟩
  · decide
  · obtain ⟨hcolon, hcomma, -, hspace⟩ := digitChar_ne_of_lt hn
    exact ⟨hspace, hcolon, hcomma⟩

/-! ## Reading an interval back -/

section Interval

variable {iv : Interval}

theorem formatInterval_eq (h : 1 ≤ iv.start.toInt ∧ iv.start.toInt ≤ iv.stop.toInt) :
    formatInterval iv = Nat.toDigits 10 iv.start.toInt.toNat ++
      if iv.stop ≠ iv.start then '-' :: Nat.toDigits 10 iv.stop.toInt.toNat else [] := by
  rw [formatInterval, formatInt_of_nonneg (by omega), formatInt_of_nonneg (by omega)]

/-- A positive interval is printed with decimal digits and at most one dash. -/
theorem formatInterval_chars (h : 1 ≤ iv.start.toInt ∧ iv.start.toInt ≤ iv.stop.toInt)
    {c : Char} (hc : c ∈ formatInterval iv) : isSpace c = false ∧ c ≠ ':' ∧ c ≠ ',' := by
  rw [formatInterval_eq h, List.mem_append] at hc
  have hdigit : c.isDigit = true ∨ c = '-' := by
    rcases hc with hc | hc
    · exact .inl (isDigit_of_mem_toDigits hc)
    · split at hc
      · rcases List.mem_cons.mp hc with rfl | hc
        · exact .inr rfl
        · exact .inl (isDigit_of_mem_toDigits hc)
      · cases hc
  rcases hdigit with hdigit | rfl
  · obtain ⟨hspace, hcolon, hcomma, -⟩ := isDigit_ne hdigit
    exact ⟨hspace, hcolon, hcomma⟩
  · decide

theorem formatInterval_ne_nil : formatInterval iv ≠ [] := by
  rw [formatInterval]
  exact List.append_ne_nil_of_left_ne_nil (by
    unfold formatInt
    split
    · exact List.cons_ne_nil _ _
    · exact List.ne_nil_of_length_pos Nat.length_toDigits_pos) _

/-- `parseInterval` reads back what `String` writes for a positive interval. -/
theorem parseInterval_formatInterval (h : 1 ≤ iv.start.toInt ∧ iv.start.toInt ≤ iv.stop.toInt) :
    parseInterval (formatInterval iv) = .ok iv := by
  have hdash : ∀ n, '-' ∉ Nat.toDigits 10 n :=
    fun n hm => (isDigit_ne (isDigit_of_mem_toDigits hm)).2.2.2 rfl
  have hbound : ∀ x : Int64, 0 ≤ x.toInt → x.toInt.toNat < 2 ^ 63 := by
    intro x hx
    have := x.toInt_lt
    omega
  have hstart := parseUint_toDigits (hbound iv.start (by omega))
  have hnot : ¬iv.start.toInt.toNat < 1 := by omega
  rw [formatInterval_eq h]
  by_cases heq : iv.stop = iv.start
  · -- `start`: the text has no dash
    rw [if_neg (not_not.mpr heq), List.append_nil]
    unfold parseInterval
    simp only [cut_of_not_mem (hdash _), hstart, if_neg hnot, Bool.false_eq_true, if_false]
    rw [Int64.ofNat_toNat_toInt (by omega)]
    cases iv
    simp only at heq
    rw [heq]
  · -- `start-end`
    rw [if_pos heq]
    unfold parseInterval
    simp only [cut_append _ (hdash _), hstart, if_neg hnot, if_true,
      parseUint_toDigits (hbound iv.stop (by omega)), Int64.ofNat_toNat_toInt (by omega : 0 ≤ iv.start.toInt),
      Int64.ofNat_toNat_toInt (by omega : 0 ≤ iv.stop.toInt)]

/-- The intervals of a positive list are read back in order, none discarded. -/
theorem parseIntervals_map_formatInterval :
    ∀ {ivs : List Interval}, Positive ivs → parseIntervals (ivs.map formatInterval) = .ok ivs
  | [], _ => rfl
  | iv :: ivs, h => by
    obtain ⟨hiv, hivs⟩ := positive_cons.mp h
    have hkeep : ¬iv.stop < iv.start := fun hlt => by
      rw [Int64.lt_iff_toInt_lt] at hlt
      omega
    rw [List.map_cons, parseIntervals, parseInterval_formatInterval hiv,
      parseIntervals_map_formatInterval hivs]
    simp only [bind, Except.bind, pure, Except.pure, if_neg hkeep]

end Interval

/-! ## Reading the set back -/

namespace Mysql56GTIDSet

variable {set acc : Mysql56GTIDSet} {sid : SID} {ivs : List Interval}

theorem writeSID_eq (hl : set.lookup sid = some ivs) (hne : ivs ≠ []) :
    set.writeSID sid = SID.string sid ++ ':' :: [':'].intercalate (ivs.map formatInterval) := by
  rw [writeSID, intervalsOf, hl, Option.getD_some, flatMap_cons_eq_intercalate _ hne]

/-- What `String` writes for a server id holds no space and no comma, and is not empty. -/
theorem writeSID_chars (hset : set.Positive) (c : Char) (hc : c ∈ set.writeSID sid) :
    isSpace c = false ∧ c ≠ ',' := by
  rw [writeSID, List.mem_append, List.mem_flatMap] at hc
  rcases hc with hc | ⟨iv, hiv, hc⟩
  · obtain ⟨hspace, -, hcomma⟩ := sidString_chars hc
    exact ⟨hspace, hcomma⟩
  · rcases List.mem_cons.mp hc with rfl | hc
    · decide
    · -- `iv` is one of the server id's intervals, so it is positive
      cases hl : set.lookup sid with
      | none => simp [intervalsOf, hl] at hiv
      | some ivs =>
        rw [intervalsOf, hl, Option.getD_some] at hiv
        obtain ⟨hspace, -, hcomma⟩ := formatInterval_chars ((hset sid ivs hl).2 iv hiv) hc
        exact ⟨hspace, hcomma⟩

theorem writeSID_ne_nil : set.writeSID sid ≠ [] := by
  rw [writeSID, SID.string]
  simp

/-- One round of the parser's outer loop reads back what `String` writes for a server id. -/
theorem parseUuidSet_writeSID (srt : IntervalSort) (s : List Char) (hset : set.Positive)
    (hl : set.lookup sid = some ivs) (hacc : acc.lookup sid = none) :
    parseUuidSet srt s acc (set.writeSID sid) = .ok (acc.insert sid (srt.sort ivs)) := by
  obtain ⟨hne, hpos⟩ := hset sid ivs hl
  have htrim : trimSpace (set.writeSID sid) = set.writeSID sid :=
    trimSpace_of_forall fun c hc => (writeSID_chars hset c hc).1
  have hsid : ':' ∉ SID.string sid := fun hc => (sidString_chars hc).2.1 rfl
  have hpieces : ∀ p ∈ ivs.map formatInterval, p ≠ [] ∧ ':' ∉ p := by
    intro p hp
    obtain ⟨iv, hiv, rfl⟩ := List.mem_map.mp hp
    exact ⟨formatInterval_ne_nil, fun hc => (formatInterval_chars (hpos iv hiv) hc).2.1 rfl⟩
  unfold parseUuidSet
  simp only [htrim, if_neg writeSID_ne_nil]
  rw [writeSID_eq hl hne, cut_append _ hsid]
  simp only [Bool.true_eq_false, if_false, parseSID_string, fields_intercalate hpieces,
    parseIntervals_map_formatInterval hpos, if_neg hne, hacc]

/-- The parser's outer loop over the printed server ids: each is read back in turn and stored
with its intervals sorted. -/
theorem foldlM_parseUuidSet_writeSID (srt : IntervalSort) (s : List Char) (hset : set.Positive) :
    ∀ (l : List SID) (acc : Mysql56GTIDSet), l.Nodup → (∀ sid ∈ l, sid ∈ set) →
      (∀ sid ∈ l, acc.lookup sid = none) →
      ∃ acc', (l.map set.writeSID).foldlM (parseUuidSet srt s) acc = .ok acc' ∧
        ∀ sid, acc'.lookup sid = if sid ∈ l then (set.lookup sid).map srt.sort else acc.lookup sid
  | [], acc, _, _, _ => ⟨acc, rfl, fun sid => by simp⟩
  | sid :: l, acc, hnd, hmem, hfresh => by
    obtain ⟨hsid, hnd⟩ := List.nodup_cons.mp hnd
    obtain ⟨ivs, hl⟩ := Option.isSome_iff_exists.mp
      (AList.lookup_isSome.mpr (hmem sid List.mem_cons_self))
    have hstep := parseUuidSet_writeSID srt s hset hl (hfresh sid List.mem_cons_self)
    -- the server ids still to come are not in the set read so far
    have hfresh' : ∀ x ∈ l, (acc.insert sid (srt.sort ivs)).lookup x = none := by
      intro x hx
      rw [AList.lookup_insert_ne (fun h : x = sid => hsid (h ▸ hx))]
      exact hfresh x (List.mem_cons_of_mem _ hx)
    obtain ⟨acc', hrun, hlook⟩ := foldlM_parseUuidSet_writeSID srt s hset l _ hnd
      (fun x hx => hmem x (List.mem_cons_of_mem _ hx)) hfresh'
    refine ⟨acc', ?_, fun x => ?_⟩
    · rw [List.map_cons, List.foldlM_cons, hstep]
      exact hrun
    · rw [hlook x]
      by_cases hx : x = sid
      · subst hx
        simp [hsid, hl]
      · simp [hx]

/-- The parser reads back what `String` writes for a positive set: the same server ids, each
with its intervals in the parser's order. -/
theorem parse_string (srt : IntervalSort) (hset : set.Positive) :
    ∃ parsed, parseMysql56GTIDSet srt set.string = .ok parsed ∧
      ∀ sid, parsed.lookup sid = (set.lookup sid).map srt.sort := by
  have hperm : set.sids.Perm set.keys := List.perm_insertionSort _ _
  have hentries : ∀ p ∈ set.sids.map set.writeSID, p ≠ [] ∧ ',' ∉ p := by
    intro p hp
    obtain ⟨sid, -, rfl⟩ := List.mem_map.mp hp
    exact ⟨writeSID_ne_nil, fun hc => (writeSID_chars hset ',' hc).2 rfl⟩
  obtain ⟨parsed, hrun, hlook⟩ := foldlM_parseUuidSet_writeSID srt _ hset set.sids ∅
    (hperm.nodup_iff.mpr set.keys_nodup) (fun sid h => AList.mem_keys.mp (hperm.mem_iff.mp h))
    (fun sid _ => AList.lookup_empty sid)
  refine ⟨parsed, ?_, fun sid => ?_⟩
  · rw [parseMysql56GTIDSet, string, String.toList_ofList, fields_intercalate hentries]
    exact hrun
  · rw [hlook sid]
    split_ifs with h
    · rfl
    · have hnot : sid ∉ set := fun hs => h (hperm.mem_iff.mpr (AList.mem_keys.mpr hs))
      rw [AList.lookup_empty, AList.lookup_eq_none.mpr hnot, Option.map_none]

/-- Sorting each list again does not change the GTIDs a set means. -/
theorem den_of_lookup_sort {srt : IntervalSort} {parsed : Mysql56GTIDSet}
    (h : ∀ sid, parsed.lookup sid = (set.lookup sid).map srt.sort) : parsed.den = set.den := by
  ext ⟨sid, n⟩
  rw [mem_den, mem_den, intervalsOf, intervalsOf, h sid]
  cases set.lookup sid with
  | none => rfl
  | some ivs => rw [Option.map_some, Option.getD_some, Option.getD_some, den_perm (srt.perm ivs)]

end Mysql56GTIDSet

end Wescale.Mysql
