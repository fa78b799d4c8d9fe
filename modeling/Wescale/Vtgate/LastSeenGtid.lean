import Wescale.Mysql.GtidSet.AddGtid
import Wescale.Mysql.GtidSet.Intersect
import Wescale.Mysql.GtidSet.Trim
import Wescale.Mysql.GtidSet.Parsed

/-!
# `LastSeenGtid` (`go/vt/vtgate/last_seen_gtid.go`)

The gate keeps the GTIDs its sessions have written. `AddGtid` parses a GTID and adds it;
`CompressWithGtidSets` intersects the sets the tablets report and merges into the tracked set
the part of the intersection that does not reach past the tracked set's last GTID of each
server (`TrimGTIDSet`, then `Union`). Each operation holds the tracker's lock for the whole of
its effect on the tracked set (the intersection reads only its arguments), so a run of the
tracker is a sequence of operations: `step` is one operation and `run` folds it.

The tracker is modelled for the MySQL 5.6 flavour; the MariaDB flavour is left out.

## What is proved

`Op.effect` says what each operation should do to the GTIDs tracked. `step_spec`: from a
canonical state, every well-formed operation succeeds, keeps the state canonical and has
exactly its effect; `run_canonical` lifts it to whole runs from the empty tracker. -/

set_option autoImplicit false

namespace Wescale.Vtgate

open Wescale.Mysql

/-- A tracker of the MySQL 5.6 flavour: the GTID set seen so far. -/
structure LastSeenGtid where
  gtidSet : Mysql56GTIDSet

namespace LastSeenGtid

/-- `NewLastSeenGtid(mysql.Mysql56FlavorID)`: an empty set. -/
def empty : LastSeenGtid := ⟨∅⟩

/-- `AddGtid`: parse, then `AddGTID`; a parse error is returned and the set is kept. -/
def addGtid (g : LastSeenGtid) (gtidStr : String) : Except ParseError LastSeenGtid :=
  match parseMysql56GTID gtidStr.toList with
  | .error err => .error err
  | .ok parsedGtid => .ok ⟨g.gtidSet.addGTID parsedGtid⟩

/-- `MergeGtidSets`: trim the set against the tracked one, then take the union; `none` when
the trim panics. -/
def mergeGtidSets (g : LastSeenGtid) (set : Mysql56GTIDSet) : Option LastSeenGtid :=
  (g.gtidSet.trimGTIDSet set).map fun remainSets => ⟨g.gtidSet.union remainSets⟩

/-- `CompressWithGtidSets`: nothing for no sets; otherwise intersect them in order and merge
the intersection. -/
def compressWithGtidSets (g : LastSeenGtid) (sets : List Mysql56GTIDSet) : Option LastSeenGtid :=
  match sets with
  | [] => some g
  | first :: rest => g.mergeGtidSets (rest.foldl Mysql56GTIDSet.intersect first)

/-- The operations on a tracker. -/
inductive Op where
  | addGtid (gtidStr : String)
  | compressWithGtidSets (sets : List Mysql56GTIDSet)

/-- One operation under the lock. A parse error leaves the tracker as it was; `none` is a
panic. -/
def step (g : LastSeenGtid) : Op → Option LastSeenGtid
  | .addGtid gtidStr =>
    match g.addGtid gtidStr with
    | .ok g' => some g'
    | .error _ => some g
  | .compressWithGtidSets sets => g.compressWithGtidSets sets

/-- A run: the operations one after the other. -/
def run (g : LastSeenGtid) (ops : List Op) : Option LastSeenGtid := ops.foldlM step g

/-! ## What each operation should do -/

/-- The operations the tracker is specified for: a GTID `uuid:n` with `n ≥ 1`, and a non-empty
list of canonical sets. -/
def Op.WellFormed : Op → Prop
  | .addGtid gtidStr => ∃ gtid, parseMysql56GTID gtidStr.toList = .ok gtid ∧ 1 ≤ gtid.sequence.toInt
  | .compressWithGtidSets sets => sets ≠ [] ∧ ∀ set ∈ sets, set.Canonical

/-- What an operation does to the GTIDs tracked: `AddGtid` adds its GTID; compression adds the
GTIDs every set has that do not pass the tracked set's largest GTID of their server. -/
def Op.effect (tracked : Set (SID × Int)) : Op → Set (SID × Int)
  | .addGtid gtidStr =>
    match parseMysql56GTID gtidStr.toList with
    | .ok gtid => tracked ∪ {(gtid.server, gtid.sequence.toInt)}
    | .error _ => tracked
  | .compressWithGtidSets [] => tracked
  | .compressWithGtidSets sets =>
    tracked ∪ {p | (∀ set ∈ sets, p ∈ set.den) ∧ ∃ m, (p.1, m) ∈ tracked ∧ p.2 ≤ m}

/-! ## Each operation meets its effect -/

/-- Merging a canonical set into a canonical tracker: no panic, a canonical result, and the
GTIDs of the set that the tracker reaches added. -/
theorem mergeGtidSets_spec {g : LastSeenGtid} (hg : g.gtidSet.Canonical) {set : Mysql56GTIDSet}
    (hset : set.Canonical) :
    ∃ g', g.mergeGtidSets set = some g' ∧ g'.gtidSet.Canonical ∧
      g'.gtidSet.den = g.gtidSet.den ∪
        {p | p ∈ set.den ∧ ∃ m, (p.1, m) ∈ g.gtidSet.den ∧ p.2 ≤ m} := by
  obtain ⟨remain, htrim, hgap, hpos, hsub, hden⟩ :=
    trimGTIDSet_spec hg (Mysql56GTIDSet.gapped_of_canonical hset)
      fun _ _ hn => Mysql56GTIDSet.one_le_of_mem_den hset hn
  obtain ⟨hcan, hunion⟩ := union_canonical_of_sub hg hgap hpos hsub
  refine ⟨⟨g.gtidSet.union remain⟩, ?_, hcan, ?_⟩
  · rw [mergeGtidSets, htrim]
    rfl
  · rw [hunion, hden]

/-- From a canonical tracker, every well-formed operation succeeds, keeps the tracker
canonical, and changes the GTIDs tracked exactly by its effect. -/
theorem step_spec {g : LastSeenGtid} (hg : g.gtidSet.Canonical) {op : Op} (hop : op.WellFormed) :
    ∃ g', g.step op = some g' ∧ g'.gtidSet.Canonical ∧
      g'.gtidSet.den = op.effect g.gtidSet.den := by
  cases op with
  | addGtid gtidStr =>
    obtain ⟨gtid, hparse, hseq⟩ := hop
    obtain ⟨hcan, hden⟩ := addGTID_canonical hg hseq
    refine ⟨⟨g.gtidSet.addGTID gtid⟩, ?_, hcan, ?_⟩
    · simp only [step, addGtid, hparse]
    · simp only [Op.effect, hparse, hden]
  | compressWithGtidSets sets =>
    obtain ⟨hne, hsets⟩ := hop
    obtain ⟨first, rest, rfl⟩ := List.exists_cons_of_ne_nil hne
    obtain ⟨hjoin, hjoinden⟩ := foldl_intersect_canonical (hsets first List.mem_cons_self)
      fun set hset => hsets set (List.mem_cons_of_mem _ hset)
    obtain ⟨g', hmerge, hcan, hden⟩ := mergeGtidSets_spec hg hjoin
    refine ⟨g', hmerge, hcan, ?_⟩
    rw [hden, hjoinden]
    ext p
    simp only [Op.effect, Set.mem_union, Set.mem_ofPred_eq, List.mem_cons, forall_eq_or_imp]

/-- Every run of well-formed operations from a canonical tracker succeeds and ends canonical. -/
theorem run_canonical : ∀ {ops : List Op} {g : LastSeenGtid}, (∀ op ∈ ops, op.WellFormed) →
    g.gtidSet.Canonical → ∃ g', g.run ops = some g' ∧ g'.gtidSet.Canonical
  | [], g, _, hg => ⟨g, rfl, hg⟩
  | op :: ops, g, hops, hg => by
    obtain ⟨g1, hstep, hcan1, -⟩ := step_spec hg (hops op List.mem_cons_self)
    obtain ⟨g2, hrun, hcan2⟩ :=
      run_canonical (fun op' hop' => hops op' (List.mem_cons_of_mem _ hop')) hcan1
    refine ⟨g2, ?_, hcan2⟩
    rw [run, List.foldlM_cons, hstep]
    exact hrun

/-- The tracker's contract: every run of well-formed operations from the empty tracker
succeeds and reaches a canonical set, from which every further well-formed operation
succeeds, keeps the set canonical, and changes the GTIDs tracked exactly by its effect. -/
theorem tracker_run_effect {ops : List Op} (hops : ∀ op ∈ ops, op.WellFormed) :
    ∃ g, empty.run ops = some g ∧ g.gtidSet.Canonical ∧
      ∀ op : Op, op.WellFormed → ∃ g', g.step op = some g' ∧ g'.gtidSet.Canonical ∧
        g'.gtidSet.den = op.effect g.gtidSet.den := by
  obtain ⟨g, hrun, hcan⟩ := run_canonical hops Mysql56GTIDSet.canonical_empty
  exact ⟨g, hrun, hcan, fun op hop => step_spec hcan hop⟩

/-- A run that adds `u:5` and then compresses with one tablet's `u:1-7`. -/
def sampleOps : List Op :=
  [.addGtid "00000000-0000-0000-0000-000000000001:5",
    .compressWithGtidSets [AList.singleton sidOne [⟨1, 7⟩]]]

theorem tracker_run_effect_sample :
    ∃ g, empty.run sampleOps = some g ∧ g.gtidSet.Canonical ∧
      ∀ op : Op, op.WellFormed → ∃ g', g.step op = some g' ∧ g'.gtidSet.Canonical ∧
        g'.gtidSet.den = op.effect g.gtidSet.den := by
  apply tracker_run_effect
  intro op hop
  simp only [sampleOps, List.mem_cons, List.not_mem_nil, or_false] at hop
  rcases hop with rfl | rfl
  · exact ⟨⟨sidOne, 5⟩, rfl, by decide⟩
  · exact ⟨List.cons_ne_nil _ _, fun set hset => by
      rw [List.mem_singleton.mp hset]
      decide⟩

end LastSeenGtid

end Wescale.Vtgate
