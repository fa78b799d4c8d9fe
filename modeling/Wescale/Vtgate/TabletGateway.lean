import Wescale.Mysql.GtidSet.Parsed

/-!
# Read-after-write routing (`go/vt/vtgate/tabletgateway.go`, `tabletgateway_lb.go`,
`scatter_conn.go`, `go/vt/vttablet/tabletserver/query_executor.go`)

A read that must see the GTIDs `G` a session wrote carries `G` in
`ExecuteOptions.ReadAfterWriteGtid` (`setReadAfterWriteOpts`). `PickTablet` prefers the tablets
whose health-check position is at least `G`; when there is one, it picks among them and clears
the field, since the tablet already has `G`. Otherwise it picks among all tablets and leaves the
field, and the tablet prefixes the query with `WAIT_FOR_EXECUTED_GTID_SET(G)`
(`addPrefixWaitGtid`). `withRetry` calls `PickTablet` once per attempt, on the same options, and
retries on another tablet when the first fails with a retryable error.

The model is generic in the position type, in how a text is parsed into a position, and in
`AtLeast`; each attempt's environment (the healthy tablets, the load balancer's order, a
keyspace event, and what the tablet answers) is an input, so a run is any sequence the
health check and the tablets can produce. Failover buffering applies to primary reads only
and is left out.

## What is proved

- `pickTablet_safe`: one pick never routes a read to a tablet that neither has `G` nor is
  told to wait for it.
- `withRetry_first_safe`: the first tablet that executes the read is safe.
- `withRetry_retry_unsafe`: a retry is not. After the first pick cleared the field, a read
  whose first tablet fails with `UNAVAILABLE` runs on a tablet that is behind `G`, with no
  wait prefix.
-/

set_option autoImplicit false

namespace Wescale.Vtgate

/-! ## Options, tablets and errors -/

/-- The fields of `ExecuteOptions` this path reads and writes. The timeout is kept as the text
`%v` prints for it. -/
structure ExecuteOptions where
  readAfterWriteGtid : String
  readAfterWriteTimeout : String
  deriving DecidableEq, Repr

/-- A tablet as the health check reports it: its alias (`TabletAliasString`), its replication position, and whether
it has a connection (`th.Conn != nil`). -/
structure TabletHealth (Pos : Type) where
  tabletAlias : String
  position : Pos
  hasConn : Bool
  deriving DecidableEq, Repr

/-- The `vtrpc` codes of the errors a tablet returns. -/
inductive Code where
  | unavailable
  | failedPrecondition
  | clusterEvent
  | invalidArgument
  | internal
  deriving DecidableEq, Repr

/-- The errors of `withRetry`. -/
inductive GatewayError where
  /-- `current keyspace is being resharded` or `primary is not serving, ...`
  (`CLUSTER_EVENT`). -/
  | clusterEvent (resharding : Bool)
  /-- `no healthy tablet available for '%s'` (`UNAVAILABLE`). -/
  | noHealthyTablet
  /-- `VT14002`: no tablet to pick from. -/
  | noAvailableTablet
  /-- `VT14003`: the tablet has no connection. -/
  | noConnection
  /-- What the tablet returned. -/
  | tablet (code : Code)
  deriving DecidableEq, Repr

/-- `canRetry` of the wrapped query service: not after success or a done context; otherwise for
`UNAVAILABLE`, `FAILED_PRECONDITION` and `CLUSTER_EVENT`. -/
def canRetry (ctxDone : Bool) : Option Code → Bool
  | none => false
  | some code =>
    if ctxDone then false
    else match code with
      | .unavailable | .failedPrecondition | .clusterEvent => true
      | _ => false

/-! ## `PickTablet` -/

section Pick

variable {Pos : Type} (parsePosition : String → Option Pos) (atLeast : Pos → Pos → Bool)

/-- `filterAdvisorByGTIDThreshold`: the tablets whose position is at least the GTID threshold;
none when there is no threshold or it does not parse. -/
def filterAdvisorByGTIDThreshold (availableTablets : List (TabletHealth Pos))
    (options : ExecuteOptions) : List (TabletHealth Pos) :=
  if availableTablets.isEmpty then []
  else if options.readAfterWriteGtid = "" then []
  else
    match parsePosition options.readAfterWriteGtid with
    | none => []
    | some requestedPosition =>
      availableTablets.filter fun t => atLeast t.position requestedPosition

/-- `PickTablet`: the tablet the load balancer puts first among the candidates, and the options
as `PickTablet` leaves them. The load balancer sorts or shuffles the candidates by its policy;
`order` is that order. -/
def pickTablet (order : List (TabletHealth Pos) → List (TabletHealth Pos))
    (availableTablets : List (TabletHealth Pos)) (options : ExecuteOptions) :
    Except GatewayError (TabletHealth Pos × ExecuteOptions) :=
  if availableTablets.isEmpty then .error .noAvailableTablet
  else
    let filtered := filterAdvisorByGTIDThreshold parsePosition atLeast availableTablets options
    -- the GTID threshold is satisfied, so `PickTablet` clears it
    let (candidates, options) :=
      if !filtered.isEmpty then (filtered, { options with readAfterWriteGtid := "" })
      else (availableTablets, options)
    match (order candidates).head? with
    | none => .error .noAvailableTablet
    | some chosenTablet => .ok (chosenTablet, options)

/-- The tablet runs the read safely for the threshold `gtid`: it was at least `gtid` when it was
picked, or it is told to wait for `gtid`. -/
def Safe (gtid : String) (th : TabletHealth Pos) (options : ExecuteOptions) : Prop :=
  (∃ requested, parsePosition gtid = some requested ∧ atLeast th.position requested = true) ∨
    options.readAfterWriteGtid = gtid

/-- A tablet the filter keeps is at least the parsed threshold. -/
theorem mem_filterAdvisorByGTIDThreshold {availableTablets : List (TabletHealth Pos)}
    {options : ExecuteOptions} {t : TabletHealth Pos}
    (h : t ∈ filterAdvisorByGTIDThreshold parsePosition atLeast availableTablets options) :
    ∃ requested, parsePosition options.readAfterWriteGtid = some requested ∧
      atLeast t.position requested = true := by
  unfold filterAdvisorByGTIDThreshold at h
  split at h
  · cases h
  · split at h
    · cases h
    · split at h
      · cases h
      · rename_i requested hparse
        exact ⟨requested, hparse, (List.mem_filter.mp h).2⟩

/-- One pick with the threshold set routes the read safely, for a load balancer that picks
one of the candidates. -/
theorem pickTablet_safe {order : List (TabletHealth Pos) → List (TabletHealth Pos)}
    {availableTablets : List (TabletHealth Pos)} {options options' : ExecuteOptions}
    {th : TabletHealth Pos}
    (horder : ∀ l, ∀ t ∈ order l, t ∈ l)
    (h : pickTablet parsePosition atLeast order availableTablets options = .ok (th, options')) :
    Safe parsePosition atLeast options.readAfterWriteGtid th options' := by
  unfold pickTablet at h
  split at h
  · cases h
  · simp only at h
    cases hf : (filterAdvisorByGTIDThreshold parsePosition atLeast availableTablets
      options).isEmpty with
    | true =>
      -- nothing has the threshold: the options keep it, and the tablet waits
      simp only [hf, Bool.not_true, Bool.false_eq_true, if_false] at h
      split at h
      · cases h
      · cases h
        exact .inr rfl
    | false =>
      -- the chosen tablet is one of those at the threshold
      simp only [hf, Bool.not_false, if_true] at h
      split at h
      · cases h
      · rename_i chosen hhead
        cases h
        exact .inl (mem_filterAdvisorByGTIDThreshold parsePosition atLeast
          (horder _ th (List.mem_of_mem_head? hhead)))

end Pick

/-! ## `withRetry` -/

/-- What one round of the loop meets: the healthy tablets, whether a keyspace event explains
that there are none (`some true` for resharding, `some false` for a primary not serving), the
load balancer's order, the tablet's answer (`none` for success), and whether the context is
done by then. -/
structure Attempt (Pos : Type) where
  tablets : List (TabletHealth Pos)
  keyspaceEvent : Option Bool
  order : List (TabletHealth Pos) → List (TabletHealth Pos)
  answer : Option Code
  ctxDone : Bool

/-- What `withRetry` carries from round to round: the shared options, the last error, the
tablets tried, and each call of `inner` with the tablet and the options it sent. -/
structure RetryState (Pos : Type) where
  options : ExecuteOptions
  err : Option GatewayError
  invalidTablets : List String
  executed : List (TabletHealth Pos × ExecuteOptions)

section Retry

variable {Pos : Type} (parsePosition : String → Option Pos) (atLeast : Pos → Pos → Bool)

/-- One round of the loop; the flag is `true` for `continue` and `false` for `break`. -/
def retryRound (a : Attempt Pos) (s : RetryState Pos) : RetryState Pos × Bool :=
  if a.tablets.isEmpty then
    match a.keyspaceEvent with
    | some resharding => ({ s with err := some (.clusterEvent resharding) }, true)
    | none => ({ s with err := some .noHealthyTablet }, false)
  else
    -- skip tablets we tried before
    let availableTablets := a.tablets.filter fun t => t.tabletAlias ∉ s.invalidTablets
    match pickTablet parsePosition atLeast a.order availableTablets s.options with
    -- do not override the error of the last attempt
    | .error e => ({ s with err := s.err.or (some e) }, false)
    | .ok (th, options) =>
      if !th.hasConn then
        ({ s with
            options := options
            err := some .noConnection
            invalidTablets := th.tabletAlias :: s.invalidTablets }, true)
      else
        let s' : RetryState Pos := { s with
          options := options
          err := a.answer.map .tablet
          executed := s.executed ++ [(th, options)] }
        if canRetry a.ctxDone a.answer then
          ({ s' with invalidTablets := th.tabletAlias :: s'.invalidTablets }, true)
        else (s', false)

/-- The loop over the rounds it is given. -/
def retryLoop : List (Attempt Pos) → RetryState Pos → RetryState Pos
  | [], s => s
  | a :: attempts, s =>
    match retryRound parsePosition atLeast a s with
    | (s', true) => retryLoop attempts s'
    | (s', false) => s'

/-- `withRetry` for a read that is not in a transaction: at most `retryCount + 1` rounds. -/
def withRetry (retryCount : Nat) (attempts : List (Attempt Pos)) (options : ExecuteOptions) :
    RetryState Pos :=
  retryLoop parsePosition atLeast (attempts.take (retryCount + 1)) ⟨options, none, [], []⟩

/-- A round only appends to the calls made so far. -/
theorem retryRound_executed_prefix (a : Attempt Pos) (s : RetryState Pos) :
    ∃ l, (retryRound parsePosition atLeast a s).1.executed = s.executed ++ l := by
  unfold retryRound
  split
  · split <;> exact ⟨[], (List.append_nil _).symm⟩
  · dsimp only
    split
    · exact ⟨[], (List.append_nil _).symm⟩
    · split
      · exact ⟨[], (List.append_nil _).symm⟩
      · split <;> exact ⟨_, rfl⟩

/-- So does the loop. -/
theorem retryLoop_executed_prefix :
    ∀ (attempts : List (Attempt Pos)) (s : RetryState Pos),
      ∃ l, (retryLoop parsePosition atLeast attempts s).executed = s.executed ++ l
  | [], s => ⟨[], (List.append_nil _).symm⟩
  | a :: attempts, s => by
    obtain ⟨l, hl⟩ := retryRound_executed_prefix parsePosition atLeast a s
    unfold retryLoop
    split
    · rename_i s' heq
      obtain ⟨l', hl'⟩ := retryLoop_executed_prefix attempts s'
      rw [heq] at hl
      exact ⟨l ++ l', by rw [hl', hl, List.append_assoc]⟩
    · rename_i s' heq
      rw [heq] at hl
      exact ⟨l, hl⟩

/-- A round that picks a tablet with a connection runs the read there, with the options
`PickTablet` returned. -/
theorem retryRound_executed {a : Attempt Pos} {s : RetryState Pos} {th : TabletHealth Pos}
    {options : ExecuteOptions} (htablets : a.tablets.isEmpty = false)
    (hpick : pickTablet parsePosition atLeast a.order
      (a.tablets.filter fun t => t.tabletAlias ∉ s.invalidTablets) s.options = .ok (th, options))
    (hconn : th.hasConn = true) :
    (retryRound parsePosition atLeast a s).1.executed = s.executed ++ [(th, options)] := by
  unfold retryRound
  simp only [htablets, Bool.false_eq_true, if_false, hpick, hconn, Bool.not_true]
  split <;> rfl

/-- The first tablet a read runs on is safe, when the first round picks one with a connection
from a load balancer that picks among the candidates. -/
theorem withRetry_first_safe {retryCount : Nat} {a : Attempt Pos}
    {attempts : List (Attempt Pos)} {options options' : ExecuteOptions} {th : TabletHealth Pos}
    (horder : ∀ l, ∀ t ∈ a.order l, t ∈ l) (htablets : a.tablets.isEmpty = false)
    (hpick : pickTablet parsePosition atLeast a.order a.tablets options = .ok (th, options'))
    (hconn : th.hasConn = true) :
    ∃ rest, (withRetry parsePosition atLeast retryCount (a :: attempts) options).executed =
      (th, options') :: rest ∧ Safe parsePosition atLeast options.readAfterWriteGtid th options' := by
  -- nothing has been tried yet, so the filter on tried tablets keeps all
  have hfilter : (a.tablets.filter fun t => t.tabletAlias ∉ ([] : List String)) = a.tablets :=
    List.filter_eq_self.mpr fun t _ => by simp
  have hround := retryRound_executed parsePosition atLeast (s := ⟨options, none, [], []⟩)
    htablets (by rw [hfilter]; exact hpick) hconn
  -- the rest of the run only appends to the first call
  have hrun : ∃ l, (withRetry parsePosition atLeast retryCount (a :: attempts) options).executed =
      (retryRound parsePosition atLeast a ⟨options, none, [], []⟩).1.executed ++ l := by
    unfold withRetry
    rw [List.take_succ_cons]
    unfold retryLoop
    split
    · rename_i s' heq
      rw [heq]
      exact retryLoop_executed_prefix parsePosition atLeast _ s'
    · rename_i s' heq
      rw [heq]
      exact ⟨[], (List.append_nil _).symm⟩
  obtain ⟨rest, hrest⟩ := hrun
  refine ⟨rest, ?_, pickTablet_safe parsePosition atLeast horder hpick⟩
  rw [hrest, hround, List.nil_append, List.singleton_append]

end Retry

/-- A threshold `3` that every text stands for, and one tablet at `5`: the read runs there,
with the threshold cleared. -/
theorem withRetry_first_safe_caught_up :
    (∀ l, ∀ t ∈ (id : List (TabletHealth Nat) → List (TabletHealth Nat)) l, t ∈ l) ∧
      ([⟨"zone1-0000000101", 5, true⟩] : List (TabletHealth Nat)).isEmpty = false ∧
      pickTablet (fun s => if s = "" then none else some 3) (fun p r => decide (r ≤ p)) id
        [⟨"zone1-0000000101", 5, true⟩] ⟨"3", "30"⟩ = .ok (⟨"zone1-0000000101", 5, true⟩, ⟨"", "30"⟩) ∧
      (⟨"zone1-0000000101", 5, true⟩ : TabletHealth Nat).hasConn = true ∧
      ∃ rest, (withRetry (fun s => if s = "" then none else some 3) (fun p r => decide (r ≤ p)) 0
          [⟨[⟨"zone1-0000000101", 5, true⟩], none, id, none, false⟩] ⟨"3", "30"⟩).executed =
          (⟨"zone1-0000000101", 5, true⟩, ⟨"", "30"⟩) :: rest ∧
        Safe (fun s => if s = "" then none else some 3) (fun p r => decide (r ≤ p)) "3"
          ⟨"zone1-0000000101", 5, true⟩ ⟨"", "30"⟩ :=
  ⟨fun _ _ h => h, rfl, by decide, rfl,
    withRetry_first_safe (fun s => if s = "" then none else some 3) (fun p r => decide (r ≤ p))
      (a := ⟨[⟨"zone1-0000000101", 5, true⟩], none, id, none, false⟩) (fun _ _ h => h) rfl
      (by decide) rfl⟩

/-! ## A retry drops the wait -/

open Wescale.Mysql

/-- `ParsePosition` of the MySQL 5.6 flavour: a GTID set, or nothing when it does not parse. -/
def parseMysql56Position (s : String) : Option Mysql56GTIDSet :=
  match parseMysql56GTIDSet insertionSortByStart s with
  | .ok set => some set
  | .error _ => none

/-- `Position.AtLeast` of the MySQL 5.6 flavour: the tablet's set contains the requested one. -/
def mysql56AtLeast (position requested : Mysql56GTIDSet) : Bool := position.contains requested

/-- `u:1`, the position of a replica that is behind `u:2-3`. -/
def behindSet : Mysql56GTIDSet := AList.singleton sidOne [⟨1, 1⟩]

/-- A replica at `u:1-5:7-10`, which has the session's `u:2-3`. -/
def caughtUpTablet : TabletHealth Mysql56GTIDSet := ⟨"zone1-0000000101", gappedSet, true⟩

/-- A replica at `u:1`, which does not. -/
def behindTablet : TabletHealth Mysql56GTIDSet := ⟨"zone1-0000000102", behindSet, true⟩

/-- Two rounds over the same two replicas: the first tablet answers `UNAVAILABLE`, the second
succeeds. The load balancer keeps the order it is given. -/
def retryAttempts : List (Attempt Mysql56GTIDSet) :=
  [⟨[caughtUpTablet, behindTablet], none, id, some .unavailable, false⟩,
    ⟨[caughtUpTablet, behindTablet], none, id, none, false⟩]

/-- The session's threshold `u:2-3`, with the default timeout. -/
def sessionOptions : ExecuteOptions := ⟨"00000000-0000-0000-0000-000000000001:2-3", "30"⟩

/-- The first round picks the replica that has `u:2-3` and clears the threshold; when that
tablet fails, the retry picks among all tablets with no threshold left and runs the read on
the replica at `u:1` with no wait. -/
theorem withRetry_retry_unsafe :
    ((withRetry parseMysql56Position mysql56AtLeast 1 retryAttempts sessionOptions).executed.map
        fun e => (e.1.tabletAlias, e.2)) =
      [("zone1-0000000101", ⟨"", "30"⟩), ("zone1-0000000102", ⟨"", "30"⟩)] ∧
    ¬Safe parseMysql56Position mysql56AtLeast sessionOptions.readAfterWriteGtid behindTablet
      ⟨"", "30"⟩ := by
  refine ⟨by decide, ?_⟩
  have hparse : parseMysql56Position sessionOptions.readAfterWriteGtid = some innerSet := rfl
  rintro (⟨requested, hr, hat⟩ | hwait)
  · rw [hparse, Option.some.injEq] at hr
    subst hr
    exact absurd hat (by decide)
  · exact absurd hwait (by decide)

end Wescale.Vtgate
