import Wescale.Lib.LittleEndian
import Wescale.Mysql.GtidSet.Format
import Wescale.Mysql.GtidSet.Compare

/-!
# The binary SID block of a GTID set (`go/mysql/mysql56_gtid_set.go`)

`SIDBlock` writes a set as MySQL's `COM_BINLOG_DUMP_GTID` expects it: the number of server ids,
then for each, in byte order, its 16 bytes, the number of its intervals and each interval as its
start and its end plus one, every count and bound as eight little-endian bytes.
`NewMysql56GTIDSetFromSIDBlock` reads it back and subtracts the one. The end `2^63 - 1` is written
as `2^63 - 1 + 1`, which wraps to `-2^63` in `int64`; read as `uint64` it is `2^63`, and the
subtraction in `uint64` gives the end back: the model keeps these conversions as the source has
them (`Int64.toUInt64`, `UInt64.toInt64`).

## What is proved

`gtid_set_round_trips`: a set whose server ids each hold a non-empty list of intervals with
`1 ≤ start ≤ end` and strictly increasing starts comes back `Equal` from both of its forms, the
text `String` and the SID block, whatever sort the parser uses. The sizes of a Go map and of a
Go slice are `int`s (`GoSized`), which is what lets their counts fit the `uint64` fields.
-/

set_option autoImplicit false

namespace Wescale.Mysql

/-! ## The reader and the writer of `encoding/binary` -/

/-- `binary.Write(buf, binary.LittleEndian, v)` of a `uint64`: its eight bytes, low byte
first. -/
def putUint64 (v : UInt64) : List UInt8 := LittleEndian.encode 8 v.toNat

/-- `binary.Read(buf, binary.LittleEndian, &v)` of a `uint64` from the bytes the reader has
left; `none` when there are fewer than eight. -/
def binaryReadUint64 (buf : List UInt8) : Option (UInt64 × List UInt8) :=
  if 8 ≤ buf.length then some (UInt64.ofNat (LittleEndian.decode (buf.take 8)), buf.drop 8)
  else none

/-- `buf.Read(sid[:])`: the next sixteen bytes; `none` when the reader has fewer (`c != 16`). -/
def readSID (buf : List UInt8) : Option (SID × List UInt8) :=
  if h : 16 ≤ buf.length then some (⟨(buf.take 16).toArray, by simp [h]⟩, buf.drop 16) else none

theorem binaryReadUint64_putUint64 (v : UInt64) (rest : List UInt8) :
    binaryReadUint64 (putUint64 v ++ rest) = some (v, rest) := by
  have hlen : (putUint64 v).length = 8 := LittleEndian.length_encode 8 _
  have hval : LittleEndian.decode (putUint64 v) = v.toNat := by
    rw [putUint64, LittleEndian.decode_encode,
      Nat.mod_eq_of_lt (lt_of_lt_of_eq v.toNat_lt (by decide : (2 : ℕ) ^ 64 = 256 ^ 8))]
  rw [binaryReadUint64, if_pos (by simp [hlen]), List.take_left' hlen, List.drop_left' hlen, hval,
    UInt64.ofNat_toNat]

theorem readSID_append (sid : SID) (rest : List UInt8) :
    readSID (sid.toList ++ rest) = some (sid, rest) := by
  have hlen : sid.toList.length = 16 := sid.length_toList
  rw [readSID, dif_pos (by simp [hlen])]
  simp only [List.take_left' hlen, List.drop_left' hlen, Option.some.injEq, Prod.mk.injEq, and_true]
  exact Vector.ext fun i hi => by simp

/-! ## `NewMysql56GTIDSetFromSIDBlock` -/

/-- The errors of `NewMysql56GTIDSetFromSIDBlock`, with the loop indices their messages print. -/
inductive SIDBlockError where
  /-- `cannot read nSIDs` -/
  | nSIDs
  /-- `cannot read SID %v` -/
  | sid (i : Nat)
  /-- `cannot read nIntervals %v` -/
  | nIntervals (i : Nat)
  /-- `cannot read start %v/%v` -/
  | start (i j : Nat)
  /-- `cannot read end %v/%v` -/
  | stop (i j : Nat)
  deriving DecidableEq, Repr

/-- A read that fails with the given error. -/
def readOr {α : Type} (e : SIDBlockError) : Option (α × List UInt8) →
    Except SIDBlockError (α × List UInt8)
  | some p => .ok p
  | none => .error e

/-- The loop over the intervals of server `i`, from interval `j` on, `count` of them left: each is
appended to the server's list (`set[sid] = append(set[sid], interval{...})`). -/
def readIntervals (i : Nat) (sid : SID) : Nat → Nat → List UInt8 → Mysql56GTIDSet →
    Except SIDBlockError (List UInt8 × Mysql56GTIDSet)
  | 0, _, buf, set => .ok (buf, set)
  | count + 1, j, buf, set => do
    let (start, buf) ← readOr (.start i j) (binaryReadUint64 buf)
    let (stop, buf) ← readOr (.stop i j) (binaryReadUint64 buf)
    readIntervals i sid count (j + 1) buf
      (set.insert sid (set.intervalsOf sid ++ [⟨start.toInt64, (stop - 1).toInt64⟩]))

/-- The loop over the server ids, from server `i` on, `count` of them left. -/
def readSIDs : Nat → Nat → List UInt8 → Mysql56GTIDSet → Except SIDBlockError Mysql56GTIDSet
  | 0, _, _, set => .ok set
  | count + 1, i, buf, set => do
    let (sid, buf) ← readOr (.sid i) (readSID buf)
    let (nIntervals, buf) ← readOr (.nIntervals i) (binaryReadUint64 buf)
    let (buf, set) ← readIntervals i sid nIntervals.toNat 0 buf set
    readSIDs count (i + 1) buf set

/-- `NewMysql56GTIDSetFromSIDBlock`. -/
def newMysql56GTIDSetFromSIDBlock (data : List UInt8) : Except SIDBlockError Mysql56GTIDSet := do
  let (nSIDs, buf) ← readOr .nSIDs (binaryReadUint64 data)
  readSIDs nSIDs.toNat 0 buf ∅

/-! ## `SIDBlock` -/

/-- What `SIDBlock` writes for an interval: its start, and its end plus one, as MySQL keeps
it. -/
def intervalBytes (iv : Interval) : List UInt8 :=
  putUint64 iv.start.toUInt64 ++ putUint64 (iv.stop + 1).toUInt64

namespace Mysql56GTIDSet

/-- What `SIDBlock` writes for a server id: the id, the number of its intervals, and each of
them. -/
def sidEntry (set : Mysql56GTIDSet) (sid : SID) : List UInt8 :=
  sid.toList ++ putUint64 (UInt64.ofNat (set.intervalsOf sid).length) ++
    (set.intervalsOf sid).flatMap intervalBytes

/-- `SIDBlock`: the number of server ids, then each of them in byte order. -/
def sidBlock (set : Mysql56GTIDSet) : List UInt8 :=
  putUint64 (UInt64.ofNat set.entries.length) ++ set.sids.flatMap set.sidEntry

/-- The sizes of a Go map and of its slices are `int`s: below `2^63`. -/
def GoSized (set : Mysql56GTIDSet) : Prop :=
  set.entries.length < 2 ^ 63 ∧ ∀ e ∈ set.entries, e.2.length < 2 ^ 63

instance (set : Mysql56GTIDSet) : Decidable set.GoSized :=
  inferInstanceAs (Decidable (_ ∧ _))

instance (ivs : List Interval) : Decidable (Wescale.Mysql.Positive ivs) :=
  inferInstanceAs (Decidable (∀ iv ∈ ivs, _))

/-- The sets of the round trips: every server id holds a non-empty list of positive intervals
whose starts strictly increase. -/
def StrictlySorted (set : Mysql56GTIDSet) : Prop :=
  ∀ e ∈ set.entries, e.2 ≠ [] ∧ Wescale.Mysql.Positive e.2 ∧
    e.2.Pairwise fun a b => a.start.toInt < b.start.toInt

instance (set : Mysql56GTIDSet) : Decidable set.StrictlySorted :=
  inferInstanceAs (Decidable (∀ e ∈ set.entries, _))

theorem StrictlySorted.lookup {set : Mysql56GTIDSet} (h : set.StrictlySorted) {sid : SID}
    {ivs : List Interval} (hl : set.lookup sid = some ivs) :
    ivs ≠ [] ∧ Wescale.Mysql.Positive ivs ∧ ivs.Pairwise fun a b => a.start.toInt < b.start.toInt :=
  h ⟨sid, ivs⟩ (AList.mem_lookup_iff.mp hl)

theorem GoSized.length_intervalsOf {set : Mysql56GTIDSet} (h : set.GoSized) (sid : SID) :
    (set.intervalsOf sid).length < 2 ^ 63 := by
  cases hl : set.lookup sid with
  | none => simp [intervalsOf, hl]
  | some ivs =>
    rw [intervalsOf, hl, Option.getD_some]
    exact h.2 ⟨sid, ivs⟩ (AList.mem_lookup_iff.mp hl)

end Mysql56GTIDSet

/-! ## Reading the block back -/

/-- An interval read back: the start as written, and the end plus one less one. -/
theorem interval_of_intervalBytes (iv : Interval) :
    (⟨iv.start.toUInt64.toInt64, ((iv.stop + 1).toUInt64 - 1).toInt64⟩ : Interval) = iv := by
  simp

/-- The inner loop reads back the intervals of a server id, appended to what the set holds for
it. -/
theorem readIntervals_flatMap (i : Nat) (sid : SID) (rest : List UInt8) :
    ∀ (ivs : List Interval) (j : Nat) (set : Mysql56GTIDSet),
      readIntervals i sid ivs.length j (ivs.flatMap intervalBytes ++ rest) set =
        .ok (rest, if ivs = [] then set else set.insert sid (set.intervalsOf sid ++ ivs))
  | [], _, _ => rfl
  | iv :: ivs, j, set => by
    have hbytes : (iv :: ivs).flatMap intervalBytes ++ rest =
        putUint64 iv.start.toUInt64 ++ (putUint64 (iv.stop + 1).toUInt64 ++
          (ivs.flatMap intervalBytes ++ rest)) := by
      simp [intervalBytes]
    rw [List.length_cons, hbytes]
    simp only [readIntervals, binaryReadUint64_putUint64, readOr, Except.ok_bind,
      interval_of_intervalBytes]
    rw [readIntervals_flatMap i sid rest ivs]
    -- the later intervals append to the list the first one started
    by_cases hivs : ivs = []
    · simp [hivs]
    · simp [hivs, Mysql56GTIDSet.intervalsOf, AList.lookup_insert, AList.insert_insert]

section Blocks

variable {set : Mysql56GTIDSet}

/-- The outer loop reads back the server ids in turn, each with all its intervals. -/
theorem readSIDs_flatMap (hset : set.StrictlySorted) (hfit : set.GoSized) (rest : List UInt8) :
    ∀ (l : List SID) (i : Nat) (acc : Mysql56GTIDSet), l.Nodup → (∀ sid ∈ l, sid ∈ set) →
      (∀ sid ∈ l, acc.lookup sid = none) →
      ∃ acc', readSIDs l.length i (l.flatMap set.sidEntry ++ rest) acc = .ok acc' ∧
        ∀ sid, acc'.lookup sid = if sid ∈ l then set.lookup sid else acc.lookup sid
  | [], _, acc, _, _, _ => ⟨acc, rfl, fun sid => by simp⟩
  | sid :: l, i, acc, hnd, hmem, hfresh => by
    obtain ⟨hsid, hnd⟩ := List.nodup_cons.mp hnd
    obtain ⟨ivs, hl⟩ := Option.isSome_iff_exists.mp
      (AList.lookup_isSome.mpr (hmem sid List.mem_cons_self))
    have hivs : set.intervalsOf sid = ivs := by rw [Mysql56GTIDSet.intervalsOf, hl, Option.getD_some]
    have hne : ivs ≠ [] := (hset.lookup hl).1
    have hcount : (UInt64.ofNat ivs.length).toNat = ivs.length := by
      have := hfit.length_intervalsOf sid
      rw [hivs] at this
      rw [UInt64.toNat_ofNat', Nat.mod_eq_of_lt (by omega)]
    have hacc : acc.intervalsOf sid = [] := by
      rw [Mysql56GTIDSet.intervalsOf, hfresh sid List.mem_cons_self, Option.getD_none]
    -- the server ids still to come are not in the set read so far
    have hfresh' : ∀ x ∈ l, (acc.insert sid ivs).lookup x = none := by
      intro x hx
      rw [AList.lookup_insert_ne (fun h : x = sid => hsid (h ▸ hx))]
      exact hfresh x (List.mem_cons_of_mem _ hx)
    obtain ⟨acc', hrun, hlook⟩ := readSIDs_flatMap hset hfit rest l (i + 1) _ hnd
      (fun x hx => hmem x (List.mem_cons_of_mem _ hx)) hfresh'
    refine ⟨acc', ?_, fun x => ?_⟩
    · have hbytes : (sid :: l).flatMap set.sidEntry ++ rest =
          sid.toList ++ (putUint64 (UInt64.ofNat ivs.length) ++
            (ivs.flatMap intervalBytes ++ (l.flatMap set.sidEntry ++ rest))) := by
        simp [Mysql56GTIDSet.sidEntry, hivs]
      rw [List.length_cons, hbytes]
      simp only [readSIDs, readSID_append, binaryReadUint64_putUint64, readOr, Except.ok_bind]
      rw [hcount, readIntervals_flatMap, Except.ok_bind, if_neg hne, hacc, List.nil_append]
      exact hrun
    · rw [hlook x]
      by_cases hx : x = sid
      · subst hx
        simp [hsid, hl]
      · simp [hx]

/-- **The SID block reads back**: the same server ids with the same intervals. -/
theorem newMysql56GTIDSetFromSIDBlock_sidBlock (hset : set.StrictlySorted) (hfit : set.GoSized) :
    ∃ decoded, newMysql56GTIDSetFromSIDBlock set.sidBlock = .ok decoded ∧
      ∀ sid, decoded.lookup sid = set.lookup sid := by
  have hperm : set.sids.Perm set.keys := List.perm_insertionSort _ _
  obtain ⟨decoded, hrun, hlook⟩ := readSIDs_flatMap hset hfit [] set.sids 0 ∅
    (hperm.nodup_iff.mpr set.keys_nodup) (fun sid h => AList.mem_keys.mp (hperm.mem_iff.mp h))
    (fun sid _ => AList.lookup_empty sid)
  have hcount : (UInt64.ofNat set.entries.length).toNat = set.sids.length := by
    rw [UInt64.toNat_ofNat', Nat.mod_eq_of_lt (by have := hfit.1; omega), hperm.length_eq,
      AList.keys, List.keys, List.length_map]
  refine ⟨decoded, ?_, fun sid => ?_⟩
  · simp only [newMysql56GTIDSetFromSIDBlock, Mysql56GTIDSet.sidBlock, binaryReadUint64_putUint64,
      readOr, Except.ok_bind]
    rw [hcount, ← List.append_nil (set.sids.flatMap set.sidEntry)]
    exact hrun
  · rw [hlook sid]
    split_ifs with h
    · rfl
    · have hnot : sid ∉ set := fun hs => h (hperm.mem_iff.mpr (AList.mem_keys.mpr hs))
      rw [AList.lookup_empty, AList.lookup_eq_none.mpr hnot]

/-- **The text reads back** unchanged: the parser's sort leaves strictly increasing lists as
they are. -/
theorem parse_string_lookup (srt : IntervalSort) (hset : set.StrictlySorted) :
    ∃ parsed, parseMysql56GTIDSet srt set.string = .ok parsed ∧
      ∀ sid, parsed.lookup sid = set.lookup sid := by
  have hpos : set.Positive := fun sid ivs hl => ⟨(hset.lookup hl).1, (hset.lookup hl).2.1⟩
  obtain ⟨parsed, hrun, hlook⟩ := Mysql56GTIDSet.parse_string srt hpos
  refine ⟨parsed, hrun, fun sid => ?_⟩
  rw [hlook sid]
  cases hl : set.lookup sid with
  | none => rfl
  | some _ => rw [Option.map_some, srt.sort_eq_self (hset.lookup hl).2.2]

/-- A set read back with the lookups of `set` is `Equal` to it. -/
theorem equal_of_lookup_eq (hset : set.StrictlySorted) {other : Mysql56GTIDSet}
    (h : ∀ sid, other.lookup sid = set.lookup sid) : other.equal set = true :=
  (equal_iff_lookup fun sid _ hl => (hset.lookup ((h sid).symm.trans hl)).1).mpr h

/-- **Both forms of a set read back `Equal`**: for a set whose server ids each hold a non-empty
list of intervals with `1 ≤ start ≤ end` and strictly increasing starts,
`ParseMysql56GTIDSet(s.String())` and `NewMysql56GTIDSetFromSIDBlock(s.SIDBlock())` succeed and
are `Equal` to `s`, whatever sort the parser uses. -/
theorem gtid_set_round_trips (srt : IntervalSort) (set : Mysql56GTIDSet)
    (hset : set.StrictlySorted) (hfit : set.GoSized) :
    (∃ parsed, parseMysql56GTIDSet srt set.string = .ok parsed ∧ parsed.equal set = true) ∧
    (∃ decoded, newMysql56GTIDSetFromSIDBlock set.sidBlock = .ok decoded ∧
      decoded.equal set = true) := by
  obtain ⟨parsed, hparse, hp⟩ := parse_string_lookup srt hset
  obtain ⟨decoded, hdecode, hd⟩ := newMysql56GTIDSetFromSIDBlock_sidBlock hset hfit
  exact ⟨⟨parsed, hparse, equal_of_lookup_eq hset hp⟩,
    ⟨decoded, hdecode, equal_of_lookup_eq hset hd⟩⟩

end Blocks

/-- A server id whose last interval ends at `2^63 - 1`, the end that wraps in the SID block. -/
def maxEndSet : Mysql56GTIDSet :=
  AList.singleton (Vector.replicate 16 7) [⟨1, 5⟩, ⟨7, 9223372036854775807⟩]

theorem gtid_set_round_trips_maxEnd :
    (maxEndSet.StrictlySorted ∧ maxEndSet.GoSized) ∧
    (∃ parsed, parseMysql56GTIDSet insertionSortByStart maxEndSet.string = .ok parsed ∧
      parsed.equal maxEndSet = true) ∧
    (∃ decoded, newMysql56GTIDSetFromSIDBlock maxEndSet.sidBlock = .ok decoded ∧
      decoded.equal maxEndSet = true) :=
  ⟨by decide, gtid_set_round_trips insertionSortByStart maxEndSet (by decide) (by decide)⟩

end Wescale.Mysql
