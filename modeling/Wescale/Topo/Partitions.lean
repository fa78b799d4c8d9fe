import Mathlib
import Wescale.Lib.InsertionSort
import Wescale.Lib.GoString
import Wescale.Lib.GoSlice
import Wescale.Key.Padding

/-!
# A keyspace's partitions (`OrderAndCheckPartitions` in `go/vt/topo/srv_keyspace.go`)

A `SrvKeyspace` lists, for each tablet type, the shards that serve it. `OrderAndCheckPartitions`
sorts each partition's shards by the start of their key ranges (`ShardReferenceArray.Sort` of
`go/vt/topo/topoproto/srvkeyspace.go`) and checks the partition: the first shard starts at the
beginning of the keyspace, the last ends at its end, and each shard's end is the next one's
start, compared padded to 8 bytes by `KeyRangeContiguous`. Shards without key ranges (custom
sharding) pass when all of them have none.

`sort.Sort` is a parameter of the model: any sort that returns a permutation ordered by start,
`SortsByStart`. `shardReferenceArraySort` is the insertion sort that `sort.Sort` runs on a slice
of at most twelve elements, with `ShardReferenceArray.Less`; that comparison answers `true` for
a range with an empty start even against itself, and the sort is one of them all the same
(`sortsByStart_shardReferenceArraySort`).

## What is proved

- `orderAndCheckPartitions_assigns_once`: in every partition that `OrderAndCheckPartitions`
  accepts, whose shards have key ranges and at most one of which ends at the end of the
  keyspace, every 8-byte keyspace id lies in exactly one shard. The sorted starts, padded, are
  the bounds of consecutive ranges (`map_toPadded_eq_chain`), which partition the ids
  (`HalfOpen.countP_mem_chain`). The example after it shows that the proviso on the ends is
  needed: a shard that ends at the end of the keyspace is contiguous with one that starts at
  `00`, and the id of zeros lies in both.
-/

set_option autoImplicit false

namespace Wescale.Topo

open Go Key

/-- `topodatapb.ShardReference`: a shard's name and its key range, nil for custom sharding. -/
structure ShardReference where
  name : String
  keyRange : Option KeyRange
  deriving DecidableEq, Repr

/-- The start of a shard's key range, empty for nil. -/
def ShardReference.start (r : ShardReference) : List UInt8 := (r.keyRange.map KeyRange.start).getD []

/-- The end of a shard's key range, empty for nil. -/
def ShardReference.stop (r : ShardReference) : List UInt8 := (r.keyRange.map KeyRange.stop).getD []

/-- `topodatapb.SrvKeyspace_KeyspacePartition`: the shards that serve one tablet type. -/
structure KeyspacePartition (τ : Type) where
  servedType : τ
  shardReferences : List ShardReference
  deriving DecidableEq, Repr

/-! ## Sorting by start -/

/-- `ShardReferenceArray.Less`: a range with no start comes first, then ranges by start. -/
def shardReferenceLess (a b : ShardReference) : Bool :=
  if a.keyRange.isNone || a.start.length = 0 then true
  else if b.keyRange.isNone || b.start.length = 0 then false
  else bytesCompare a.start b.start < 0

/-- `sort.Sort` of a `ShardReferenceArray` of at most twelve shards. -/
def shardReferenceArraySort (l : List ShardReference) : List ShardReference :=
  List.insertionSortLessFunc shardReferenceLess l

/-- What `sort.Sort` of a `ShardReferenceArray` gives: a permutation of the shards, ordered by
start. -/
structure SortsByStart (sort : List ShardReference → List ShardReference) : Prop where
  perm : ∀ l, List.Perm (sort l) l
  sorted : ∀ l, (sort l).Pairwise (fun a b => a.start ≤ b.start)

theorem start_eq_nil_of_less {a : ShardReference}
    (h : (a.keyRange.isNone || decide (a.start.length = 0)) = true) : a.start = [] := by
  rcases hk : a.keyRange with _ | kr
  · simp [ShardReference.start, hk]
  · simpa [hk] using h

theorem start_le_of_less_true {a b : ShardReference} (h : shardReferenceLess a b = true) :
    a.start ≤ b.start := by
  unfold shardReferenceLess at h
  split at h
  · rename_i ha
    rw [start_eq_nil_of_less ha]
    exact List.nil_le_lex _
  · split at h
    · cases h
    · exact le_of_lt ((bytesCompare_neg_iff _ _).mp (by simpa using h))

theorem start_le_of_less_false {a b : ShardReference} (h : shardReferenceLess a b = false) :
    b.start ≤ a.start := by
  unfold shardReferenceLess at h
  split at h
  · cases h
  · split at h
    · rename_i hb
      rw [start_eq_nil_of_less hb]
      exact List.nil_le_lex _
    · exact not_lt.mp fun hlt => by simp [(bytesCompare_neg_iff _ _).mpr hlt] at h

/-- The insertion sort of `sort.Sort` orders the shards by start, although `Less` is not an
order. -/
theorem sortsByStart_shardReferenceArraySort : SortsByStart shardReferenceArraySort where
  perm := List.perm_insertionSortLessFunc shardReferenceLess
  sorted _ := List.pairwise_insertionSortLessFunc shardReferenceLess (fun _ _ _ => le_trans)
    (fun _ _ _ _ h => start_le_of_less_true h) (fun _ _ _ _ h => start_le_of_less_false h)

/-! ## The checks -/

/-- The errors of `OrderAndCheckPartitions`, each with what its message prints. -/
inductive PartitionError (τ : Type) where
  /-- `keyspace partition for %v in cell %v does not start with min key` -/
  | notMinKey (tabletType : τ) (cell : String)
  /-- `keyspace partition for %v in cell %v does not end with max key` -/
  | notMaxKey (tabletType : τ) (cell : String)
  /-- `shards with inconsistent KeyRanges for %v in cell %v. shards: %v, %v` -/
  | inconsistentKeyRanges (tabletType : τ) (cell : String) (curr next : ShardReference)
  /-- `non-contiguous KeyRange values for %v in cell %v at shard %v to %v: %v != %v`, with the
  end of the one and the start of the other in hex. -/
  | nonContiguous (tabletType : τ) (cell : String) (i j : Nat) (stop start : List Char)
  deriving DecidableEq, Repr

/-- The loop over the shards but the last: each shard against the next, `i` its index. -/
def checkContiguous {τ : Type} (tabletType : τ) (cell : String) :
    Nat → List ShardReference → Except (PartitionError τ) Unit
  | i, curr :: next :: rest => do
    let currHasKeyRange := curr.keyRange.isSome
    let nextHasKeyRange := next.keyRange.isSome
    if currHasKeyRange ≠ nextHasKeyRange then
      throw (.inconsistentKeyRanges tabletType cell curr next)
    -- without key ranges, this is custom sharding and there is nothing to compare
    if currHasKeyRange ∧ !keyRangeContiguous curr.keyRange next.keyRange then
      throw (.nonContiguous tabletType cell i (i + 1) (GoString.encodeHex curr.stop)
        (GoString.encodeHex next.start))
    checkContiguous tabletType cell (i + 1) (next :: rest)
  | _, _ => pure ()

/-- The checks of one partition, on its sorted shards; indexing the first shard of none
panics. -/
def checkPartition {τ : Type} (cell : String) (tabletType : τ) :
    List ShardReference → ExceptT (PartitionError τ) (Except Panic) Unit
  | [] => ExceptT.lift (.error .indexOutOfRange)
  | first :: rest => do
    if first.keyRange.isSome ∧ first.start.length ≠ 0 then
      throw (.notMinKey tabletType cell)
    let last := (first :: rest).getLast (List.cons_ne_nil first rest)
    if last.keyRange.isSome ∧ last.stop.length ≠ 0 then
      throw (.notMaxKey tabletType cell)
    ExceptT.mk (pure (checkContiguous tabletType cell 0 (first :: rest)))

/-- `OrderAndCheckPartitions`: each partition sorted in place and checked; the partitions with
their shards in the new order. -/
def orderAndCheckPartitions {τ : Type} (sort : List ShardReference → List ShardReference)
    (cell : String) : List (KeyspacePartition τ) →
      ExceptT (PartitionError τ) (Except Panic) (List (KeyspacePartition τ))
  | [] => pure []
  | partition :: partitions => do
    let shardReferences := sort partition.shardReferences
    checkPartition cell partition.servedType shardReferences
    let rest ← orderAndCheckPartitions sort cell partitions
    pure ({ partition with shardReferences := shardReferences } :: rest)

/-! ## What an accepted partition satisfies -/

section Accepted

variable {τ : Type} {tabletType : τ} {cell : String}

/-- One round of the loop: the two shards both have key ranges or both not, two key ranges are
contiguous, and the loop goes on with the next shard. -/
theorem checkContiguous_cons_cons {i : Nat} {curr next : ShardReference}
    {rest : List ShardReference}
    (h : checkContiguous tabletType cell i (curr :: next :: rest) = .ok ()) :
    curr.keyRange.isSome = next.keyRange.isSome ∧
      (curr.keyRange.isSome → keyRangeContiguous curr.keyRange next.keyRange = true) ∧
      checkContiguous tabletType cell (i + 1) (next :: rest) = .ok () := by
  rw [checkContiguous] at h
  by_cases hsome : curr.keyRange.isSome = next.keyRange.isSome
  · rw [if_neg (not_not.mpr hsome)] at h
    by_cases hcont : curr.keyRange.isSome = true ∧ (!keyRangeContiguous curr.keyRange next.keyRange) = true
    · rw [if_pos hcont] at h
      cases h
    · rw [if_neg hcont] at h
      exact ⟨hsome, fun hc => by simpa [hc] using hcont, h⟩
  · rw [if_pos hsome] at h
    cases h

/-- Along an accepted loop all shards have key ranges, or none has. -/
theorem isSome_eq_of_checkContiguous :
    ∀ {i : Nat} {l : List ShardReference}, checkContiguous tabletType cell i l = .ok () →
      ∀ a ∈ l, ∀ b ∈ l, a.keyRange.isSome = b.keyRange.isSome
  | _, [], _ => by simp
  | _, [a], _ => by simp
  | _, curr :: next :: rest, h => by
    obtain ⟨hsome, -, hrest⟩ := checkContiguous_cons_cons h
    have ih := isSome_eq_of_checkContiguous hrest
    -- every shard has the key-range-ness of `next`
    have hnext : ∀ a ∈ curr :: next :: rest, a.keyRange.isSome = next.keyRange.isSome := by
      intro a ha
      rcases List.mem_cons.mp ha with rfl | ha
      · exact hsome
      · exact ih a ha next List.mem_cons_self
    intro a ha b hb
    rw [hnext a ha, hnext b hb]

theorem checkPartition_ok {shards : List ShardReference}
    (h : (checkPartition cell tabletType shards).run = .ok (.ok ())) :
    ∃ (hne : shards ≠ []),
      (∀ kr ∈ (shards.head hne).keyRange, kr.start = []) ∧
      (∀ kr ∈ (shards.getLast hne).keyRange, kr.stop = []) ∧
      checkContiguous tabletType cell 0 shards = .ok () := by
  cases shards with
  | nil => cases h
  | cons first rest =>
    refine ⟨List.cons_ne_nil first rest, ?_⟩
    rw [checkPartition] at h
    by_cases hmin : first.keyRange.isSome = true ∧ first.start.length ≠ 0
    · rw [if_pos hmin] at h
      cases h
    · rw [if_neg hmin] at h
      by_cases hmax : ((first :: rest).getLast (List.cons_ne_nil first rest)).keyRange.isSome = true ∧
          ((first :: rest).getLast (List.cons_ne_nil first rest)).stop.length ≠ 0
      · rw [if_pos hmax] at h
        cases h
      · rw [if_neg hmax] at h
        refine ⟨fun kr hkr => ?_, fun kr hkr => ?_, ?_⟩
        · have hk : first.keyRange = some kr := hkr
          simpa [ShardReference.start, hk] using hmin
        · have hk : ((first :: rest).getLast (List.cons_ne_nil first rest)).keyRange = some kr := hkr
          simpa [ShardReference.stop, hk] using hmax
        · injection h with h

theorem orderAndCheckPartitions_ok {sort : List ShardReference → List ShardReference} :
    ∀ {ps ps' : List (KeyspacePartition τ)},
      (orderAndCheckPartitions sort cell ps).run = .ok (.ok ps') →
      ∀ p ∈ ps, (checkPartition cell p.servedType (sort p.shardReferences)).run = .ok (.ok ())
  | [], _, _ => by simp
  | p :: ps, ps', h => by
    rw [orderAndCheckPartitions] at h
    obtain ⟨u, hcheck, h⟩ := run_bind_eq_ok h
    obtain ⟨rest, hrest, -⟩ := run_bind_eq_ok h
    intro q hq
    rcases List.mem_cons.mp hq with rfl | hq
    · exact hcheck
    · exact orderAndCheckPartitions_ok hrest q hq

end Accepted

/-! ## An accepted partition partitions the keyspace ids -/

/-- A shard's range of 8-byte ids, read off its padded bounds. -/
def ShardReference.toPadded (r : ShardReference) : HalfOpen (List UInt8) :=
  ⟨pad8 r.start, if r.stop = [] then none else some (pad8 r.stop)⟩

/-- A shard that ends at the end of the keyspace. -/
def endsAtMaxKey (r : ShardReference) : Bool := r.keyRange.isSome && r.stop.isEmpty

theorem contains_eq_toPadded {r : ShardReference} {kr : KeyRange} (hkr : r.keyRange = some kr)
    {id : List UInt8} (hid : id.length = 8) :
    keyRangeContains r.keyRange id = decide (id ∈ r.toPadded) := by
  rw [hkr, keyRangeContains_eq_toPadded kr hid, decide_eq_decide]
  simp [ShardReference.toPadded, KeyRange.toPadded, ShardReference.start, ShardReference.stop, hkr]

/-- If at most one element satisfies `p` and the last does, no other does. -/
theorem not_of_mem_dropLast {p : ShardReference → Bool} {l : List ShardReference} (hne : l ≠ [])
    (hcount : l.countP p ≤ 1) (hlast : p (l.getLast hne) = true) :
    ∀ r ∈ l.dropLast, p r = false := by
  rw [← List.dropLast_append_getLast hne, List.countP_append, List.countP_singleton,
    if_pos hlast] at hcount
  have hzero : l.dropLast.countP p = 0 := by omega
  intro r hr
  simpa using List.countP_eq_zero.mp hzero r hr

variable {τ : Type} {tabletType : τ} {cell : String}

/-- **The padded shards are consecutive ranges**: along an accepted loop over shards with key
ranges, where only the last ends at the end of the keyspace, each shard runs from its padded
start to the next one's. -/
theorem map_toPadded_eq_chain :
    ∀ {i : Nat} {first : ShardReference} {rest : List ShardReference},
      checkContiguous tabletType cell i (first :: rest) = .ok () →
      (∀ r ∈ first :: rest, r.keyRange.isSome) →
      (∀ r ∈ (first :: rest).dropLast, r.stop ≠ []) →
      ((first :: rest).getLast (List.cons_ne_nil first rest)).stop = [] →
      (first :: rest).map ShardReference.toPadded =
        HalfOpen.chain (pad8 first.start) (rest.map (pad8 ∘ ShardReference.start)) none
  | _, first, [], _, _, _, hlast => by
    rw [List.getLast_singleton] at hlast
    simp [ShardReference.toPadded, HalfOpen.chain, hlast]
  | _, curr, next :: rest, h, hsome, hstops, hlast => by
    obtain ⟨-, hcont, hrest⟩ := checkContiguous_cons_cons h
    obtain ⟨c, hc⟩ := Option.isSome_iff_exists.mp (hsome curr List.mem_cons_self)
    obtain ⟨n, hn⟩ := Option.isSome_iff_exists.mp
      (hsome next (List.mem_cons_of_mem _ List.mem_cons_self))
    -- the end of `curr` is not the end of the keyspace, and pads to the start of `next`
    have hstop : curr.stop ≠ [] := hstops curr (by simp)
    have hpad : pad8 curr.stop = pad8 next.start := by
      have := hcont (by simp [hc])
      simp only [hc, hn, keyRangeContiguous, beq_iff_eq, addPadding_eq_iff] at this
      simpa [ShardReference.stop, ShardReference.start, hc, hn] using this
    have ih := map_toPadded_eq_chain hrest (fun r hr => hsome r (List.mem_cons_of_mem _ hr))
      (fun r hr => hstops r (by rw [List.dropLast_cons_cons]; exact List.mem_cons_of_mem _ hr))
      (by rwa [List.getLast_cons_cons] at hlast)
    rw [List.map_cons, ih]
    simp [ShardReference.toPadded, HalfOpen.chain, hstop, hpad]

/-- **An accepted partition assigns every 8-byte keyspace id to exactly one shard**, when its
shards have key ranges and at most one of them ends at the end of the keyspace. -/
theorem orderAndCheckPartitions_assigns_once {sort : List ShardReference → List ShardReference}
    (hsort : SortsByStart sort) {ps ps' : List (KeyspacePartition τ)}
    (h : (orderAndCheckPartitions sort cell ps).run = .ok (.ok ps'))
    {p : KeyspacePartition τ} (hp : p ∈ ps) (hkr : ∃ r ∈ p.shardReferences, r.keyRange.isSome)
    (hmax : p.shardReferences.countP endsAtMaxKey ≤ 1) {id : List UInt8} (hid : id.length = 8) :
    p.shardReferences.countP (fun r => keyRangeContains r.keyRange id) = 1 := by
  have hperm := hsort.perm p.shardReferences
  obtain ⟨hne, hfirst, hlast, hloop⟩ := checkPartition_ok (orderAndCheckPartitions_ok h p hp)
  obtain ⟨first, rest, hsorted⟩ := List.exists_cons_of_ne_nil hne
  -- the sorted shards all have key ranges: one has, and the loop makes them agree
  have hsome : ∀ r ∈ first :: rest, r.keyRange.isSome := by
    obtain ⟨r, hr, hrsome⟩ := hkr
    intro a ha
    rw [hsorted] at hloop
    rw [isSome_eq_of_checkContiguous hloop a ha r (by rw [← hsorted]; exact hperm.mem_iff.mpr hr)]
    exact hrsome
  have hlast' : ((first :: rest).getLast (List.cons_ne_nil first rest)).stop = [] := by
    obtain ⟨kr, hkr'⟩ := Option.isSome_iff_exists.mp (hsome _ (List.getLast_mem _))
    have := hlast kr (by simp only [hsorted] at hkr' ⊢; exact hkr')
    simp [ShardReference.stop, hkr', this]
  -- only the last shard ends at the end of the keyspace
  have hstops : ∀ r ∈ (first :: rest).dropLast, r.stop ≠ [] := by
    have hcount : (first :: rest).countP endsAtMaxKey ≤ 1 := by
      rw [← hsorted, hperm.countP_eq]
      exact hmax
    intro r hr
    have hr' := not_of_mem_dropLast (List.cons_ne_nil first rest) hcount
      (by simp [endsAtMaxKey, hlast', hsome _ (List.getLast_mem _)]) r hr
    simpa [endsAtMaxKey, hsome r (List.mem_of_mem_dropLast hr)] using hr'
  have hstart : first.start = [] := by
    obtain ⟨kr, hkr'⟩ := Option.isSome_iff_exists.mp (hsome first List.mem_cons_self)
    have := hfirst kr (by simp only [hsorted] at hkr' ⊢; exact hkr')
    simp [ShardReference.start, hkr', this]
  have hchain := map_toPadded_eq_chain (hsorted ▸ hloop) hsome hstops hlast'
  -- the padded starts are in order, since the starts are
  have hbounds : List.IsChain (· ≤ ·)
      (pad8 first.start :: rest.map (pad8 ∘ ShardReference.start)) := by
    have hpair := hsort.sorted p.shardReferences
    rw [hsorted] at hpair
    have : (first :: rest).map (pad8 ∘ ShardReference.start) =
        pad8 first.start :: rest.map (pad8 ∘ ShardReference.start) := rfl
    rw [← this]
    exact (List.pairwise_map.mpr
      (hpair.imp fun hab => List.rightpad_le_rightpad zero_le_byte 8 hab)).isChain
  have hcount := @HalfOpen.countP_mem_chain _ _ id _ _ none hbounds (by simp)
  have hlo : pad8 first.start ≤ id := by
    rw [hstart, pad8_nil]
    exact List.replicate_le_of_le_length zero_le_byte hid.ge
  calc p.shardReferences.countP (fun r => keyRangeContains r.keyRange id)
      = (first :: rest).countP (fun r => keyRangeContains r.keyRange id) := by
        rw [← hsorted, hperm.countP_eq]
    _ = ((first :: rest).map ShardReference.toPadded).countP (fun r => decide (id ∈ r)) := by
        rw [List.countP_map]
        refine List.countP_congr fun r hr => ?_
        obtain ⟨kr, hkr'⟩ := Option.isSome_iff_exists.mp (hsome r hr)
        rw [contains_eq_toPadded hkr' hid]
        rfl
    _ = 1 := by
        rw [hchain, hcount, if_pos ⟨hlo, HalfOpen.below_none id⟩]

/-- The two halves of a keyspace, given in the wrong order. -/
theorem orderAndCheckPartitions_assigns_once_halves :
    SortsByStart shardReferenceArraySort ∧
      (orderAndCheckPartitions shardReferenceArraySort "zone1"
          [(⟨(), [⟨"80-", some ⟨[0x80], []⟩⟩, ⟨"-80", some ⟨[], [0x80]⟩⟩]⟩ :
            KeyspacePartition Unit)]).run =
        .ok (.ok [⟨(), [⟨"-80", some ⟨[], [0x80]⟩⟩, ⟨"80-", some ⟨[0x80], []⟩⟩]⟩]) ∧
      (⟨(), [⟨"80-", some ⟨[0x80], []⟩⟩, ⟨"-80", some ⟨[], [0x80]⟩⟩]⟩ : KeyspacePartition Unit) ∈
        [⟨(), [⟨"80-", some ⟨[0x80], []⟩⟩, ⟨"-80", some ⟨[], [0x80]⟩⟩]⟩] ∧
      (∃ r ∈ [(⟨"80-", some ⟨[0x80], []⟩⟩ : ShardReference), ⟨"-80", some ⟨[], [0x80]⟩⟩],
        r.keyRange.isSome) ∧
      [(⟨"80-", some ⟨[0x80], []⟩⟩ : ShardReference), ⟨"-80", some ⟨[], [0x80]⟩⟩].countP
        endsAtMaxKey ≤ 1 ∧
      [0x7f, 0, 0, 0, 0, 0, 0, 1].length = 8 ∧
      [(⟨"80-", some ⟨[0x80], []⟩⟩ : ShardReference), ⟨"-80", some ⟨[], [0x80]⟩⟩].countP
        (fun r => keyRangeContains r.keyRange [0x7f, 0, 0, 0, 0, 0, 0, 1]) = 1 := by
  have h : (orderAndCheckPartitions shardReferenceArraySort "zone1"
      [(⟨(), [⟨"80-", some ⟨[0x80], []⟩⟩, ⟨"-80", some ⟨[], [0x80]⟩⟩]⟩ :
        KeyspacePartition Unit)]).run =
      .ok (.ok [⟨(), [⟨"-80", some ⟨[], [0x80]⟩⟩, ⟨"80-", some ⟨[0x80], []⟩⟩]⟩]) := rfl
  exact ⟨sortsByStart_shardReferenceArraySort, h, List.mem_singleton_self _, by decide, by decide,
    rfl, orderAndCheckPartitions_assigns_once sortsByStart_shardReferenceArraySort h
      (List.mem_singleton_self _) (by decide) (by decide) rfl⟩

/-- Two shards that end at the end of the keyspace: the whole keyspace and `00-`, contiguous
since the empty end pads like `00`, and the id of zeros lies in both. -/
example :
    (∃ ps', (orderAndCheckPartitions shardReferenceArraySort "zone1"
        [(⟨(), [⟨"-", some ⟨[], []⟩⟩, ⟨"00-", some ⟨[0], []⟩⟩]⟩ :
          KeyspacePartition Unit)]).run = .ok (.ok ps')) ∧
      [(⟨"-", some ⟨[], []⟩⟩ : ShardReference), ⟨"00-", some ⟨[0], []⟩⟩].countP
        (fun r => keyRangeContains r.keyRange (List.replicate 8 0)) = 2 :=
  ⟨⟨_, rfl⟩, by decide⟩

end Wescale.Topo
