import Mathlib
import Wescale.Lib.GoString
import Wescale.Lib.Loop
import Wescale.Mysql.GtidSet.Basic

/-! # Parsing GTIDs and GTID sets

`ParseSID`, `parseMysql56GTID`, `parseInterval` and `ParseMysql56GTIDSet`, over the text as a
list of characters. The set parser sorts each server's intervals with `slices.SortFunc`, an
unstable sort: `IntervalSort` stands for any sort that returns a permutation ordered by
start, and every result here holds for each of them.

What the parser guarantees is `parse_sorted`: each server id holds a non-empty list, sorted by
start, of intervals with `1 ≤ start ≤ end`. It does not merge: intervals of one server may
overlap or touch, also across repeated `uuid:` entries. -/

set_option autoImplicit false

namespace Wescale.Mysql

open GoString

/-- The errors of the parsers, one for each message the source builds; each keeps the text
the message quotes. -/
inductive ParseError where
  /-- `invalid interval (%q)`: a bound that `ParseUint` refuses. -/
  | invalidInterval (s : List Char)
  /-- `invalid interval (%q): start must be > 0`. -/
  | startNotPositive (s : List Char)
  /-- `invalid MySQL 5.6 GTID set (%q): expected uuid:interval`. -/
  | expectedUuidInterval (s : List Char)
  /-- `invalid MySQL 5.6 SID %q`. -/
  | invalidSID (s : List Char)
  /-- `invalid MySQL 5.6 GTID set (%q)`, wrapping the error of a server id or an interval. -/
  | invalidSet (s : List Char) (cause : ParseError)
  /-- `invalid MySQL 5.6 GTID (%v): expecting UUID:Sequence`. -/
  | expectingUuidSequence (s : List Char)
  /-- `invalid MySQL 5.6 GTID Server ID (%v)`, wrapping the error of `ParseSID`. -/
  | invalidServerID (s : List Char) (cause : ParseError)
  /-- `invalid MySQL 5.6 GTID Sequence number (%v)`. -/
  | invalidSequence (s : List Char)
  deriving DecidableEq, Repr

/-! ## Server ids and single GTIDs -/

/-- `ParseSID`: 36 characters with dashes at 8, 13, 18 and 23, the 32 others hex-decoded. -/
def parseSID (s : List Char) : Except ParseError SID :=
  if s.length = 36 ∧ s[8]? = some '-' ∧ s[13]? = some '-' ∧ s[18]? = some '-' ∧
      s[23]? = some '-' then
    match decodeHex (s.take 8 ++ (s.drop 9).take 4 ++ (s.drop 14).take 4 ++
        (s.drop 19).take 4 ++ s.drop 24) with
    | some bytes =>
      if h : bytes.length = 16 then .ok ⟨bytes.toArray, by simpa using h⟩
      else .error (.invalidSID s)
    | none => .error (.invalidSID s)
  else .error (.invalidSID s)

/-- `parseMysql56GTID`: `strings.Split(s, ":")` must give two parts, a server id and a
sequence number read by `strconv.ParseInt(parts[1], 10, 64)`. -/
def parseMysql56GTID (s : List Char) : Except ParseError Mysql56GTID :=
  match s.splitOn ':' with
  | [part0, part1] =>
    match parseSID part0 with
    | .error e => .error (.invalidServerID part0 e)
    | .ok sid =>
      match parseInt part1 with
      | none => .error (.invalidSequence part1)
      | some seq => .ok ⟨sid, Int64.ofInt seq⟩
  | _ => .error (.expectingUuidSequence s)

/-! ## Intervals -/

/-- `parseInterval`: `start` or `start-end`, each read by `strconv.ParseUint(_, 10, 63)`;
the start must be positive, the end may be anything in range. -/
def parseInterval (s : List Char) : Except ParseError Interval :=
  let part0 := (cut '-' s).1
  let part1 := (cut '-' s).2.1
  let twoParts := (cut '-' s).2.2
  match parseUint part0 63 with
  | none => .error (.invalidInterval s)
  | some start =>
    if start < 1 then .error (.startNotPositive s)
    else if twoParts then
      match parseUint part1 63 with
      | none => .error (.invalidInterval s)
      | some stop => .ok ⟨Int64.ofNat start, Int64.ofNat stop⟩
    else .ok ⟨Int64.ofNat start, Int64.ofNat start⟩

/-- The inner loop of `ParseMysql56GTIDSet` over the pieces of `uuid:interval[:interval]...`:
an error stops it, and an interval that ends before it starts is discarded. -/
def parseIntervals : List (List Char) → Except ParseError (List Interval)
  | [] => .ok []
  | head :: rest => do
    let iv ← parseInterval head
    let ivs ← parseIntervals rest
    pure (if iv.stop < iv.start then ivs else iv :: ivs)

/-- `slices.SortFunc(intervals, func(a, b) bool { return a.start < b.start })`: any sort that
returns a permutation ordered by start. The Go sort is not stable, so the order of intervals
with the same start is left open. -/
structure IntervalSort where
  sort : List Interval → List Interval
  perm : ∀ ivs, (sort ivs).Perm ivs
  sorted : ∀ ivs, SortedByStart (sort ivs)

/-- One round of the outer loop of `ParseMysql56GTIDSet`, on the piece `uuidSet` of the text
`s`: trim it, skip it if empty, cut the server id off, parse the intervals, and store them
after those the server id already has, sorted again. -/
def parseUuidSet (srt : IntervalSort) (s : List Char) (set : Mysql56GTIDSet)
    (uuidSet : List Char) : Except ParseError Mysql56GTIDSet :=
  let uuidSet := trimSpace uuidSet
  if uuidSet = [] then .ok set
  else
    let head := (cut ':' uuidSet).1
    let tail := (cut ':' uuidSet).2.1
    if (cut ':' uuidSet).2.2 = false then .error (.expectedUuidInterval s)
    else
      match parseSID head with
      | .error e => .error (.invalidSet s e)
      | .ok sid =>
        match parseIntervals (fields ':' tail) with
        | .error e => .error (.invalidSet s e)
        | .ok intervals =>
          -- every interval may have been discarded
          if intervals = [] then .ok set
          else
            let intervals :=
              match set.lookup sid with
              | some sidIntervals => sidIntervals ++ intervals
              | none => intervals
            .ok (set.insert sid (srt.sort intervals))

/-- `ParseMysql56GTIDSet`: the outer loop over the comma-separated pieces. -/
def parseMysql56GTIDSet (srt : IntervalSort) (s : String) : Except ParseError Mysql56GTIDSet :=
  (fields ',' s.toList).foldlM (parseUuidSet srt s.toList) ∅

/-! ## What the parser builds -/

theorem toInt_ofNat_of_parseUint {s : List Char} {n : Nat} (h : parseUint s 63 = some n) :
    (Int64.ofNat n).toInt = n :=
  Int64.toInt_ofNat_of_lt (parseUint_lt h)

/-- A parsed interval starts at 1 or later. -/
theorem parseInterval_start {s : List Char} {iv : Interval} (h : parseInterval s = .ok iv) :
    1 ≤ iv.start.toInt := by
  unfold parseInterval at h
  simp only at h
  split at h
  · cases h
  · rename_i start hstart
    have hval := toInt_ofNat_of_parseUint hstart
    split at h
    · cases h
    · have hpos : (1 : Int) ≤ start := by omega
      split at h
      · split at h
        · cases h
        · cases h
          rw [hval]
          exact hpos
      · cases h
        rw [hval]
        exact hpos

/-- Every interval the inner loop keeps has `1 ≤ start ≤ end`. -/
theorem parseIntervals_wf : ∀ {pieces : List (List Char)} {ivs : List Interval},
    parseIntervals pieces = .ok ivs →
      ∀ iv ∈ ivs, 1 ≤ iv.start.toInt ∧ iv.start.toInt ≤ iv.stop.toInt
  | [], ivs, h => by
    cases h
    simp
  | head :: rest, ivs, h => by
    obtain ⟨iv, hiv, h⟩ := Except.bind_eq_ok.mp h
    obtain ⟨ivs', hivs', h⟩ := Except.bind_eq_ok.mp h
    cases h
    have ih := parseIntervals_wf hivs'
    split
    · exact ih
    · rename_i hkeep
      intro jv hjv
      rcases List.mem_cons.mp hjv with rfl | hjv
      · refine ⟨parseInterval_start hiv, ?_⟩
        rw [Int64.lt_iff_toInt_lt] at hkeep
        omega
      · exact ih jv hjv

/-- One round of the outer loop keeps every list non-empty, sorted by start, and made of
intervals with `1 ≤ start ≤ end`. -/
theorem parseUuidSet_sorted {srt : IntervalSort} {s uuidSet : List Char}
    {set set' : Mysql56GTIDSet} (hset : set.Sorted)
    (h : parseUuidSet srt s set uuidSet = .ok set') : set'.Sorted := by
  unfold parseUuidSet at h
  simp only at h
  split at h
  · cases h
    exact hset
  split at h
  · cases h
  split at h
  · cases h
  rename_i sid _
  split at h
  · cases h
  rename_i intervals hintervals
  split at h
  · cases h
    exact hset
  rename_i hne
  cases h
  have hnew := parseIntervals_wf hintervals
  intro sid' ivs hlookup
  by_cases hsid : sid' = sid
  · subst hsid
    rw [AList.lookup_insert, Option.some.injEq] at hlookup
    subst hlookup
    -- the stored list is a sort of the old list followed by the new intervals
    set merged := (match set.lookup sid' with
      | some sidIntervals => sidIntervals ++ intervals
      | none => intervals) with hmerged
    have hmem : ∀ iv ∈ merged, 1 ≤ iv.start.toInt ∧ iv.start.toInt ≤ iv.stop.toInt := by
      intro iv hiv
      rw [hmerged] at hiv
      cases hold : set.lookup sid' with
      | none =>
        rw [hold] at hiv
        exact hnew iv hiv
      | some old =>
        rw [hold] at hiv
        rcases List.mem_append.mp hiv with hiv | hiv
        · exact (hset sid' old hold).2.2 iv hiv
        · exact hnew iv hiv
    have hmerged_ne : merged ≠ [] := by
      rw [hmerged]
      cases set.lookup sid' with
      | none => exact hne
      | some old => simp [hne]
    have hperm := srt.perm merged
    refine ⟨?_, srt.sorted merged, fun iv hiv => hmem iv (hperm.mem_iff.mp hiv)⟩
    intro hnil
    rw [hnil] at hperm
    exact hmerged_ne (List.Perm.nil_eq hperm).symm
  · rw [AList.lookup_insert_ne hsid] at hlookup
    exact hset sid' ivs hlookup

/-- What `ParseMysql56GTIDSet` accepts is sorted: every server id holds a non-empty list,
sorted by start, of intervals with `1 ≤ start ≤ end`. -/
theorem parse_sorted {srt : IntervalSort} {s : String} {set : Mysql56GTIDSet}
    (h : parseMysql56GTIDSet srt s = .ok set) : set.Sorted := by
  have hempty : (∅ : Mysql56GTIDSet).Sorted := by
    intro sid ivs hlookup
    rw [AList.lookup_empty] at hlookup
    cases hlookup
  exact List.foldlM_except_invariant Mysql56GTIDSet.Sorted
    (fun _ _ _ hset hstep => parseUuidSet_sorted hset hstep) _ hempty h

/-! ## A sort -/

/-- Intervals compared by start, the order `ParseMysql56GTIDSet` sorts by. -/
def StartLE (a b : Interval) : Prop := a.start.toInt ≤ b.start.toInt

instance : DecidableRel StartLE := fun _ _ => inferInstanceAs (Decidable (_ ≤ _))

instance : Std.Total StartLE := ⟨fun a b => le_total a.start.toInt b.start.toInt⟩

instance : IsTrans Interval StartLE := ⟨fun _ _ _ hab hbc => le_trans hab hbc⟩

/-- Insertion sort by start: one sort the parser may use, and one that evaluates. -/
def insertionSortByStart : IntervalSort where
  sort := List.insertionSort StartLE
  perm := List.perm_insertionSort StartLE
  sorted := List.pairwise_insertionSort StartLE

/-- On a list strictly increasing by start every sort is the identity: the order the Go
sort leaves open never shows up. -/
theorem IntervalSort.sort_eq_self (srt : IntervalSort) {ivs : List Interval}
    (h : ivs.Pairwise fun a b => a.start.toInt < b.start.toInt) : srt.sort ivs = ivs := by
  have hperm := srt.perm ivs
  -- the sorted output has no two equal starts, since the input has none
  have hnodup : ((srt.sort ivs).map fun iv => iv.start.toInt).Nodup :=
    (hperm.map _).nodup_iff.mpr
      (List.pairwise_map.mpr (h.imp fun hab => ne_of_lt hab))
  have hstrict : (srt.sort ivs).Pairwise fun a b => a.start.toInt < b.start.toInt := by
    have hne := List.pairwise_map.mp hnodup
    exact ((srt.sorted ivs).and hne).imp fun ⟨hle, hne⟩ => lt_of_le_of_ne hle hne
  exact hperm.eq_of_pairwise (fun a b _ _ hab hba => absurd (hab.trans hba) (lt_irrefl _))
    hstrict h

end Wescale.Mysql
