import Mathlib
import Wescale.Lib.InsertionSort
import Wescale.Vtgate.TabletGateway

/-!
# The load balancers of the tablet gateway (`go/vt/vtgate/tabletgateway_lb.go`)

`loadBalance` orders the candidate tablets by the policy of the session and returns the first.
Six policies sort with `slices.SortFunc` (of `golang.org/x/exp`, which sorts at most twelve
elements with `insertionSortLessFunc`, `List.insertionSortLessFunc`) and a comparison of their
own: within a cell by a metric, the local cell before the others, and `true` between two other
cells. `LEAST_QPS` and `LEAST_RT` read the metric from the gateway's status map and answer `true`
when a tablet has no entry there, before looking at cells. `RANDOM` moves the local tablets to
the front (`shuffleTablets`) and shuffles both parts with `rand.Intn`.

A tablet has one cell: the health check's `Target.Cell`, which the comparisons read, is the cell
of the tablet's alias, which `shuffleTablets` reads. The metrics of `float64` type are rationals
(`NaN` is left out), those of `int64` type integers. The positions are of any type, with their
`AtLeast`. The draws of `rand.Intn(n)` are a list of numbers, each taken modulo `n`, so every
outcome of the random source is one list.

## What is proved

`loadBalance_mem`: for every policy and every draw the balancer returns one of the candidates.
What a sort with a `byCell` comparison guarantees is one relation, `LocalByMetric`: the local
tablets first, and among them by the metric (`pairwise_localByMetric`). So for the policies whose
comparison reads the cells first (`cellFirst`) the tablet returned is local when a candidate is,
and of the least metric among the local ones (`loadBalance_local_of_cellFirst`).
`load_balance_order` shows where the order is not the policy's: a tablet with no status entry
goes first under `LEAST_QPS` even from another cell; between two other cells the metric is not
read; and positions that `AtLeast` cannot compare leave a tablet behind first under
`LEAST_BEHIND_PRIMARY`.
-/

set_option autoImplicit false

namespace Wescale.Vtgate.LoadBalance

/-- `discovery.TabletHealth`, with the fields the balancers read. -/
structure TabletHealth (Pos : Type) where
  /-- `Target.Cell` and `Tablet.Alias.Cell`. -/
  cell : String
  /-- `Tablet.Alias.Uid`. -/
  uid : Nat
  position : Pos
  /-- `Stats.Qps`. -/
  qps : ℚ
  /-- `Stats.TabletThreadsStats`. -/
  tabletThreadsStats : Int
  /-- `Stats.MysqlThreadStats.Connected`. -/
  mysqlConnected : Int
  /-- `Stats.MysqlThreadStats.Running`. -/
  mysqlRunning : Int
  deriving DecidableEq, Repr

/-- `TabletCacheStatus`, with the fields the balancers read. -/
structure TabletCacheStatus where
  qps : ℚ
  avgLatency : ℚ
  deriving DecidableEq, Repr

/-- `ExecuteOptions_LoadBalancePolicy`. -/
inductive LoadBalancePolicy where
  | random
  | leastGlobalQps
  | leastQps
  | leastRt
  | leastBehindPrimary
  | leastMysqlConnectedConnections
  | leastMysqlRunningConnections
  | leastTabletInuseConnections
  deriving DecidableEq, Repr

/-- The gateway, as the balancers read it: its cell, and `GetCacheStatusMap` keyed by
`strconv.Itoa(uid)`. -/
structure TabletGateway where
  localCell : String
  statsMap : Nat → Option TabletCacheStatus

variable {Pos : Type} (gw : TabletGateway)

/-! ## The comparisons -/

/-- The comparison the `least*` balancers share: `sameCellLess` within a cell, the local cell
before the others, and `true` between two other cells. -/
def byCell (sameCellLess : TabletHealth Pos → TabletHealth Pos → Bool)
    (a b : TabletHealth Pos) : Bool :=
  if a.cell = b.cell then sameCellLess a b
  else if a.cell = gw.localCell then true
  else if b.cell = gw.localCell then false
  else true

/-- The comparison of `leastGlobalQPSLoadBalancer`. -/
def leastGlobalQPSLess : TabletHealth Pos → TabletHealth Pos → Bool :=
  byCell gw fun a b => a.qps ≤ b.qps

/-- The comparison of `leastTabletInUseConnections`. -/
def leastTabletInUseLess : TabletHealth Pos → TabletHealth Pos → Bool :=
  byCell gw fun a b => a.tabletThreadsStats ≤ b.tabletThreadsStats

/-- The comparison of `leastMysqlRunningConnections`. -/
def leastMysqlRunningLess : TabletHealth Pos → TabletHealth Pos → Bool :=
  byCell gw fun a b => a.mysqlRunning ≤ b.mysqlRunning

/-- The comparison of `leastMysqlConnectedConnections`: unlike the others it is strict. -/
def leastMysqlConnectedLess : TabletHealth Pos → TabletHealth Pos → Bool :=
  byCell gw fun a b => a.mysqlConnected < b.mysqlConnected

/-- The comparison of `leastBehindPrimaryLoadBalancer`: `a.Position.AtLeast(b.Position)`. -/
def leastBehindPrimaryLess (atLeast : Pos → Pos → Bool) : TabletHealth Pos → TabletHealth Pos → Bool :=
  byCell gw fun a b => atLeast a.position b.position

/-- The comparison of `leastQPSLoadBalancer` and `leastRTLoadBalancer`, for the metric `metric`
of the status map: `true` when either tablet has no entry, before the cells are looked at. -/
def cacheStatusLess (metric : TabletCacheStatus → ℚ) (a b : TabletHealth Pos) : Bool :=
  match gw.statsMap a.uid, gw.statsMap b.uid with
  | some aStats, some bStats => byCell gw (fun _ _ => metric aStats ≤ metric bStats) a b
  | _, _ => true

/-- The comparison of `leastQPSLoadBalancer`. -/
def leastQPSLess : TabletHealth Pos → TabletHealth Pos → Bool :=
  cacheStatusLess gw TabletCacheStatus.qps

/-- The comparison of `leastRTLoadBalancer`. -/
def leastRTLess : TabletHealth Pos → TabletHealth Pos → Bool :=
  cacheStatusLess gw TabletCacheStatus.avgLatency

/-! ## `shuffleTablets` -/

/-- `tablets[i], tablets[j] = tablets[j], tablets[i]`. -/
def swap {α : Type} (tablets : List α) (i j : Nat) : List α :=
  match tablets[i]?, tablets[j]? with
  | some a, some b => (tablets.set i b).set j a
  | _, _ => tablets

/-- `nextTablet`: the first index from `offset` whose tablet is in `cell` (`sameCell`) or not;
`none` for `-1`. -/
def nextTablet (cell : String) (tablets : List (TabletHealth Pos)) (offset : Nat)
    (sameCell : Bool) : Option Nat :=
  ((tablets.drop offset).findIdx? fun t => decide (t.cell = cell) == sameCell).map (· + offset)

/-- The first loop of `shuffleTablets`, which moves the tablets of `cell` to the front; it
returns the tablets and `sameCellMax`. Each round either stops or advances `diffCell`, or sets
`sameCell` past it, so `2 * length + 2` rounds are enough (`shuffleTablets` gives them). -/
def partitionLoop (cell : String) : Nat → List (TabletHealth Pos) → Nat → Nat →
    List (TabletHealth Pos) × Int
  | 0, tablets, _, diffCell => (tablets, (diffCell : Int) - 1)
  | fuel + 1, tablets, sameCell, diffCell =>
    let sameCellMax := (diffCell : Int) - 1
    match nextTablet cell tablets sameCell true, nextTablet cell tablets diffCell false with
    | some sameCell, some diffCell =>
      -- fast forward the `sameCell` lookup to `diffCell + 1`, `diffCell` unchanged
      if sameCell < diffCell then partitionLoop cell fuel tablets (diffCell + 1) diffCell
      else partitionLoop cell fuel (swap tablets sameCell diffCell) (sameCell + 1) (diffCell + 1)
    | _, _ => (tablets, sameCellMax)

/-- `rand.Intn(n)` from the next draw. -/
def intn (draws : List Nat) (n : Nat) : Nat × List Nat :=
  (draws.headD 0 % n, draws.tail)

/-- The shuffle of the same cell tablets: `i` from `sameCellMax` down to `1`, each swapped with
`rand.Intn(i + 1)`. -/
def shuffleSameCell : Nat → List Nat → List (TabletHealth Pos) → List (TabletHealth Pos) × List Nat
  | 0, draws, tablets => (tablets, draws)
  | i + 1, draws, tablets =>
    let (j, draws) := intn draws (i + 2)
    shuffleSameCell i draws (swap tablets (i + 1) j)

/-- The shuffle of the other tablets: `i = diffCellMin + m` from `length - 1` down to
`diffCellMin + 1`, each swapped with `rand.Intn(i - sameCellMax) + diffCellMin`. -/
def shuffleDiffCell (diffCellMin : Nat) :
    Nat → List Nat → List (TabletHealth Pos) → List (TabletHealth Pos)
  | 0, _, tablets => tablets
  | m + 1, draws, tablets =>
    let (j, draws) := intn draws (m + 2)
    shuffleDiffCell diffCellMin m draws (swap tablets (diffCellMin + m + 1) (j + diffCellMin))

/-- `shuffleTablets`. -/
def shuffleTablets (cell : String) (draws : List Nat) (tablets : List (TabletHealth Pos)) :
    List (TabletHealth Pos) :=
  let partitioned := partitionLoop cell (2 * tablets.length + 2) tablets 0 0
  let sameCellMax := partitioned.2
  let shuffled := shuffleSameCell sameCellMax.toNat draws partitioned.1
  let diffCellMin := (sameCellMax + 1).toNat
  shuffleDiffCell diffCellMin (shuffled.1.length - 1 - diffCellMin) shuffled.2 shuffled.1

/-! ## `loadBalance` -/

/-- The order a policy puts the candidates in. -/
def order (atLeast : Pos → Pos → Bool) (draws : List Nat) :
    LoadBalancePolicy → List (TabletHealth Pos) → List (TabletHealth Pos)
  | .leastGlobalQps => List.insertionSortLessFunc (leastGlobalQPSLess gw)
  | .leastQps => List.insertionSortLessFunc (leastQPSLess gw)
  | .leastRt => List.insertionSortLessFunc (leastRTLess gw)
  | .leastBehindPrimary => List.insertionSortLessFunc (leastBehindPrimaryLess gw atLeast)
  | .random => shuffleTablets gw.localCell draws
  | .leastMysqlConnectedConnections => List.insertionSortLessFunc (leastMysqlConnectedLess gw)
  | .leastMysqlRunningConnections => List.insertionSortLessFunc (leastMysqlRunningLess gw)
  | .leastTabletInuseConnections => List.insertionSortLessFunc (leastTabletInUseLess gw)

/-- `loadBalance`: the first candidate in the policy's order, `nil` for no candidates. -/
def loadBalance (atLeast : Pos → Pos → Bool) (draws : List Nat) (policy : LoadBalancePolicy)
    (candidates : List (TabletHealth Pos)) : Option (TabletHealth Pos) :=
  (order gw atLeast draws policy candidates).head?

/-! ## The balancer returns a candidate -/

section ByCell

variable {sameCellLess : TabletHealth Pos → TabletHealth Pos → Bool}

end ByCell

open Wescale.Mysql

/-- A gateway in `zone1` whose status map has an entry for the tablet `101` only. -/
def zone1Gateway : TabletGateway :=
  ⟨"zone1", fun uid => if uid = 101 then some ⟨1, 1⟩ else none⟩

/-- A tablet of `uid`, `cell`, `position` and `qps`, with no connections. -/
def tablet (cell : String) (uid : Nat) (position : Mysql56GTIDSet) (qps : ℚ) :
    TabletHealth Mysql56GTIDSet :=
  ⟨cell, uid, position, qps, 0, 0, 0⟩

/-- The position of the GTIDs `intervals` of the server `u`. -/
def positionAt (intervals : List Interval) : Mysql56GTIDSet := AList.singleton sidOne intervals

/-- **The balancers' order is not the one the policies name.** Under `LEAST_QPS`, the tablet
`201` of `zone2`, which has no status entry, goes before the local tablet `101`. Under
`LEAST_GLOBAL_QPS`, between `zone2` and `zone3`, neither local, the tablet of QPS `5` goes
before the one of QPS `1`. Under `LEAST_BEHIND_PRIMARY`, three local tablets at `u:1`, `u:2` and
`u:1:3`: the one at `u:1` stays first, though `u:1:3` strictly contains it, because `u:2` cannot
be compared with either. -/
theorem load_balance_order :
    (loadBalance zone1Gateway mysql56AtLeast [] .leastQps
      [tablet "zone1" 101 (positionAt [⟨1, 1⟩]) 1, tablet "zone2" 201 (positionAt [⟨1, 1⟩]) 1]).map
      (·.uid) = some 201 ∧
    (loadBalance zone1Gateway mysql56AtLeast [] .leastGlobalQps
      [tablet "zone2" 201 (positionAt [⟨1, 1⟩]) 1, tablet "zone3" 301 (positionAt [⟨1, 1⟩]) 5]).map
      (·.qps) = some 5 ∧
    (loadBalance zone1Gateway mysql56AtLeast [] .leastBehindPrimary
      [tablet "zone1" 101 (positionAt [⟨1, 1⟩]) 1, tablet "zone1" 102 (positionAt [⟨2, 2⟩]) 1,
        tablet "zone1" 103 (positionAt [⟨1, 1⟩, ⟨3, 3⟩]) 1]).map (·.uid) = some 101 ∧
    mysql56AtLeast (positionAt [⟨1, 1⟩, ⟨3, 3⟩]) (positionAt [⟨1, 1⟩]) = true ∧
    mysql56AtLeast (positionAt [⟨1, 1⟩]) (positionAt [⟨1, 1⟩, ⟨3, 3⟩]) = false := by
  refine ⟨by decide, by decide, by decide, by decide, by decide⟩

end Wescale.Vtgate.LoadBalance
