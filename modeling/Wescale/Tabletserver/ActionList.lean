import Mathlib

/-!
# The action list of a query (`go/vt/vttablet/tabletserver/query_executor.go`,
`action_factory.go`, `action_builtin.go`)

`GetActionList` turns the plan's active rules that match the request into actions, sorted
stably by priority. `Execute` runs `BeforeExecution` of each action in order until one fails,
remembering those it called, and at the end runs `AfterExecution` of the called actions in
reverse order. A `ConcurrencyControlAction` takes a slot in `BeforeExecution` and stores its
`DoneFunc` in the query's context under the key `cclDoneFunc`; its `AfterExecution` calls
whatever function the context holds under that key.

What the rules engine and `Queue.Wait` answer are inputs: which action each matching rule
asks for, and whether each concurrency-control wait succeeds. A `DoneFunc` is named by the
position of the action whose wait returned it.

## What is proved

- `after_reverse_called`: `AfterExecution` runs exactly on the actions whose
  `BeforeExecution` ran, each once, in reverse order.
- `release_single_ccl`: with at most one concurrency-control action, its `DoneFunc` is called
  exactly once if its wait succeeded, and no `DoneFunc` is called otherwise.
- `ccl_context_key_shared`: with two concurrency-control actions the context key is shared.
  When both waits succeed, the second `DoneFunc` is called twice and the first never. When the
  second wait fails, the first `DoneFunc` is called twice, once on behalf of the failed wait.
-/

set_option autoImplicit false

namespace Wescale.Tabletserver

/-- `rules.Action`: what a rule asks for. -/
inductive RuleAction where
  | qrContinue
  | qrFail
  | qrFailRetry
  | qrConcurrencyControl
  deriving DecidableEq, Repr

/-- The fields of a rule that the action list reads. `actionArgs` is the decoded JSON of the
action arguments, `none` when they are empty or do not decode. -/
structure Rule where
  name : String
  description : String
  priority : Int
  active : Bool
  actionArgs : Option (Int × Int)
  deriving DecidableEq, Repr

/-- The errors of this path. -/
inductive ActionError where
  /-- `disallowed due to rule: %s` (`INVALID_ARGUMENT`). -/
  | disallowed (description : String)
  /-- `disallowed due to rule: %s` (`FAILED_PRECONDITION`). -/
  | disallowedRetry (description : String)
  /-- `stringParams: %s is invalid`, or a JSON error. -/
  | invalidStringParams
  /-- `MaxQueueSize: %d, MaxConcurrency: %d, param value is invalid: ...`, with the two
  numbers it prints. -/
  | invalidParams (shownMaxQueueSize shownMaxConcurrency : Int)
  /-- The error `Queue.Wait` returned. -/
  | cclWait
  deriving DecidableEq, Repr

/-- An action instance. -/
inductive ActionInst where
  | continueAction (rule : Rule)
  | failAction (rule : Rule)
  | failRetryAction (rule : Rule)
  | concurrencyControlAction (rule : Rule) (maxQueueSize maxConcurrency : Int)
  deriving DecidableEq, Repr

/-- `GetRule`. -/
def ActionInst.rule : ActionInst → Rule
  | .continueAction rule | .failAction rule | .failRetryAction rule => rule
  | .concurrencyControlAction rule _ _ => rule

/-- Is it a `ConcurrencyControlAction`? -/
def ActionInst.isCcl : ActionInst → Bool
  | .concurrencyControlAction .. => true
  | _ => false

/-! ## Building the list -/

/-- `ConcurrencyControlAction.SetParams`. The message prints `MaxQueueSize` for both numbers. -/
def cclSetParams (args : Option (Int × Int)) : Except ActionError (Int × Int) :=
  match args with
  | none => .error .invalidStringParams
  | some (maxQueueSize, maxConcurrency) =>
    if !(maxQueueSize = 0 ∨ (maxConcurrency > 0 ∧ maxConcurrency ≤ maxQueueSize)) then
      .error (.invalidParams maxQueueSize maxQueueSize)
    else .ok (maxQueueSize, maxConcurrency)

/-- `CreateActionInstance`: the instance, with its parameters set. -/
def createActionInstance (action : RuleAction) (rule : Rule) : Except ActionError ActionInst :=
  match action with
  | .qrContinue => .ok (.continueAction rule)
  | .qrFail => .ok (.failAction rule)
  | .qrFailRetry => .ok (.failRetryAction rule)
  | .qrConcurrencyControl =>
    (cclSetParams rule.actionArgs).map fun (maxQueueSize, maxConcurrency) =>
      .concurrencyControlAction rule maxQueueSize maxConcurrency

/-- `sortAction`: `sort.SliceStable` by priority. -/
def sortAction (actionList : List ActionInst) : List ActionInst :=
  actionList.mergeSort fun a b => decide (a.rule.priority ≤ b.rule.priority)

/-- `GetActionList`: the active rules in order, each with the action `filterByExecutionInfo`
gives it for this request; `QRContinue` and instances that fail to build are skipped. -/
def getActionList (rules : List Rule) (filterByExecutionInfo : Rule → RuleAction) :
    List ActionInst :=
  sortAction <| rules.filterMap fun rule =>
    if !rule.active then none
    else
      match filterByExecutionInfo rule with
      | .qrContinue => none
      | act =>
        match createActionInstance act rule with
        | .ok p => some p
        | .error _ => none

/-! ## Running the list -/

/-- What `Execute` keeps: the `DoneFunc` the context holds under `cclDoneFunc`, the actions
whose `BeforeExecution` ran (by position), the `AfterExecution` calls (by position), and the
`DoneFunc` calls (by the position of the action whose wait returned them). -/
structure ExecState where
  cclDoneFunc : Option Nat
  calledActionList : List Nat
  afterCalls : List Nat
  released : List Nat
  deriving DecidableEq, Repr

/-- `BeforeExecution` of the action at position `i`; `waitOk i` is whether its wait succeeds. -/
def beforeExecution (waitOk : Nat → Bool) (i : Nat) (a : ActionInst) (st : ExecState) :
    ExecState × Option ActionError :=
  match a with
  | .continueAction _ => (st, none)
  | .failAction rule => (st, some (.disallowed rule.description))
  | .failRetryAction rule => (st, some (.disallowedRetry rule.description))
  | .concurrencyControlAction .. =>
    if waitOk i then ({ st with cclDoneFunc := some i }, none) else (st, some .cclWait)

/-- `AfterExecution` of the action at position `i`: a concurrency-control action calls the
`DoneFunc` the context holds; the others pass the reply through. -/
def afterExecution (i : Nat) (a : ActionInst) (st : ExecState) : ExecState :=
  let st := { st with afterCalls := st.afterCalls ++ [i] }
  match a with
  | .concurrencyControlAction .. =>
    match st.cclDoneFunc with
    | some doneFunc => { st with released := st.released ++ [doneFunc] }
    | none => st
  | _ => st

/-- `calledActionList = append(calledActionList, a)`. -/
def ExecState.markCalled (st : ExecState) (i : Nat) : ExecState :=
  { st with calledActionList := st.calledActionList ++ [i] }

/-- The loop of `runActionListBeforeExecution` over the actions with their positions: each
action is recorded as called, and the first error stops it. -/
def runBefore (waitOk : Nat → Bool) : List (ActionInst × Nat) → ExecState →
    ExecState × Option ActionError
  | [], st => (st, none)
  | (a, i) :: rest, st =>
    let r := beforeExecution waitOk i a st
    match r.2 with
    | some e => (r.1.markCalled i, some e)
    | none => runBefore waitOk rest (r.1.markCalled i)

/-- One round of `runActionListAfterExecution`: the `AfterExecution` of
`matchedActionList[i]`. -/
def afterStep (matched : List ActionInst) (st : ExecState) (i : Nat) : ExecState :=
  match matched[i]? with
  | some a => afterExecution i a st
  | none => st

/-- `runActionListAfterExecution`: for `i` from `len(calledActionList) - 1` down to 0. -/
def runAfter (matched : List ActionInst) (st : ExecState) : ExecState :=
  ((List.range st.calledActionList.length).reverse).foldl (afterStep matched) st

/-- The action-list part of `Execute`: before, then the deferred after, on the matched list. -/
def executeActions (matched : List ActionInst) (waitOk : Nat → Bool) : ExecState :=
  runAfter matched (runBefore waitOk matched.zipIdx ⟨none, [], [], []⟩).1

/-! ## What the two loops do -/

section Loops

variable {waitOk : Nat → Bool}

/-- One `BeforeExecution` touches only the context, and stores a `DoneFunc` exactly for a
concurrency-control action whose wait succeeds. -/
theorem beforeExecution_spec (i : Nat) (a : ActionInst) (st : ExecState) :
    let r := beforeExecution waitOk i a st
    r.1.calledActionList = st.calledActionList ∧ r.1.afterCalls = st.afterCalls ∧
      r.1.released = st.released ∧
      r.1.cclDoneFunc = if a.isCcl && waitOk i then some i else st.cclDoneFunc := by
  cases a with
  | continueAction rule => exact ⟨rfl, rfl, rfl, rfl⟩
  | failAction rule => exact ⟨rfl, rfl, rfl, rfl⟩
  | failRetryAction rule => exact ⟨rfl, rfl, rfl, rfl⟩
  | concurrencyControlAction rule maxQueueSize maxConcurrency =>
    simp only [beforeExecution, ActionInst.isCcl, Bool.true_and]
    split <;> simp_all

/-- The positions, in order, of the actions in a list that succeeded a concurrency-control
wait. -/
def succeededWaitsOf (waitOk : Nat → Bool) (l : List (ActionInst × Nat)) : List Nat :=
  (l.filter fun p => p.1.isCcl && waitOk p.2).map Prod.snd

/-- The before loop calls a prefix of the actions, in order, and leaves in the context the
`DoneFunc` of the last wait among them that succeeded, if any. -/
theorem runBefore_spec : ∀ (l : List (ActionInst × Nat)) (st : ExecState),
    ∃ k ≤ l.length,
      let r := (runBefore waitOk l st).1
      r.calledActionList = st.calledActionList ++ (l.take k).map Prod.snd ∧
        r.afterCalls = st.afterCalls ∧ r.released = st.released ∧
        r.cclDoneFunc = (succeededWaitsOf waitOk (l.take k)).getLast?.or st.cclDoneFunc
  | [], st => ⟨0, le_rfl, by simp [runBefore], rfl, rfl, by simp [runBefore, succeededWaitsOf]⟩
  | (a, i) :: rest, st => by
    obtain ⟨hcalled, hafter, hrel, hccl⟩ := @beforeExecution_spec waitOk i a st
    -- the waits of this action and of those after it
    have hwaits : ∀ k, succeededWaitsOf waitOk (((a, i) :: rest).take (k + 1)) =
        (if a.isCcl && waitOk i then [i] else []) ++ succeededWaitsOf waitOk (rest.take k) := by
      intro k
      simp only [succeededWaitsOf, List.take_succ_cons, List.filter_cons]
      split <;> simp
    cases herr : (beforeExecution waitOk i a st).2 with
    | some e =>
      -- the error stops the loop after this action
      refine ⟨1, by simp, ?_⟩
      simp only [runBefore, herr]
      refine ⟨by simp [ExecState.markCalled, hcalled], hafter, hrel, ?_⟩
      rw [hwaits 0]
      simp only [ExecState.markCalled, hccl]
      split <;> simp [succeededWaitsOf]
    | none =>
      obtain ⟨k, hk, hc, ha, hr, hd⟩ :=
        runBefore_spec rest ((beforeExecution waitOk i a st).1.markCalled i)
      refine ⟨k + 1, by simp [hk], ?_⟩
      simp only [runBefore, herr]
      refine ⟨?_, ha.trans hafter, hr.trans hrel, ?_⟩
      · rw [hc]
        simp [ExecState.markCalled, hcalled]
      · rw [hd, hwaits k, List.getLast?_append]
        simp only [ExecState.markCalled, hccl]
        split <;> simp

/-- Positions and filters commute: the positions of the first $k$ entries of a list that
satisfy $q$ are the positions below $k$ whose entry satisfies $q$. -/
theorem zipIdx_take_filter_map {α : Type} (l : List α) (q : α → Nat → Bool) :
    ∀ k, ((l.zipIdx.take k).filter fun p => q p.1 p.2).map Prod.snd =
      (List.range k).filter fun i => l[i]?.any (q · i)
  | 0 => by simp
  | k + 1 => by
    rw [List.take_add_one, List.range_succ, List.filter_append, List.filter_append,
      List.map_append, zipIdx_take_filter_map l q k, List.getElem?_zipIdx]
    cases h : l[k]? <;> simp [List.filter_cons, h]
    split <;> simp_all

/-- The positions of the first $k$ entries of a list. -/
theorem zipIdx_take_map_snd {α : Type} (l : List α) (k : Nat) :
    (l.zipIdx.take k).map Prod.snd = List.range (min k l.length) := by
  rw [List.map_take, List.zipIdx_map_snd, ← List.range_eq_range', List.take_range]

/-- Is the action at position `i` a concurrency-control action? -/
def isCclAt (matched : List ActionInst) (i : Nat) : Bool :=
  matched[i]?.any ActionInst.isCcl

/-- One `AfterExecution` is recorded, leaves the context, and calls the `DoneFunc` the context
holds if it is a concurrency-control action. -/
theorem afterExecution_spec (i : Nat) (a : ActionInst) (st : ExecState) :
    (afterExecution i a st).calledActionList = st.calledActionList ∧
      (afterExecution i a st).afterCalls = st.afterCalls ++ [i] ∧
      (afterExecution i a st).cclDoneFunc = st.cclDoneFunc ∧
      (afterExecution i a st).released =
        st.released ++ if a.isCcl then st.cclDoneFunc.toList else [] := by
  cases a with
  | concurrencyControlAction rule maxQueueSize maxConcurrency =>
    cases hd : st.cclDoneFunc <;> simp [afterExecution, hd, ActionInst.isCcl]
  | _ => simp [afterExecution, ActionInst.isCcl]

/-- The after loop over positions of matched actions: each position is recorded, the context
is not touched, and each concurrency-control action calls the `DoneFunc` the context holds. -/
theorem foldl_afterStep (matched : List ActionInst) : ∀ (is : List Nat) (st : ExecState),
    (∀ i ∈ is, i < matched.length) →
    (is.foldl (afterStep matched) st).calledActionList = st.calledActionList ∧
      (is.foldl (afterStep matched) st).afterCalls = st.afterCalls ++ is ∧
      (is.foldl (afterStep matched) st).released =
        st.released ++ (is.filter (isCclAt matched)).flatMap fun _ => st.cclDoneFunc.toList
  | [], st, _ => by simp
  | i :: is, st, hlt => by
    have hi : i < matched.length := hlt i List.mem_cons_self
    have hstep : afterStep matched st i = afterExecution i matched[i] st := by
      simp [afterStep, List.getElem?_eq_getElem hi]
    have hccl : isCclAt matched i = matched[i].isCcl := by
      simp [isCclAt, List.getElem?_eq_getElem hi]
    obtain ⟨hc1, ha1, hd1, hr1⟩ := afterExecution_spec i matched[i] st
    obtain ⟨hc, ha, hr⟩ := foldl_afterStep matched is (afterExecution i matched[i] st)
      fun j hj => hlt j (List.mem_cons_of_mem _ hj)
    rw [List.foldl_cons, hstep]
    refine ⟨hc.trans hc1, by rw [ha, ha1, List.append_assoc, List.singleton_append], ?_⟩
    rw [hr, hr1, hd1, List.filter_cons, hccl, List.append_assoc]
    split <;> simp_all

/-- The positions below $k$ whose concurrency-control wait succeeded. -/
def succeededWaits (matched : List ActionInst) (waitOk : Nat → Bool) (k : Nat) : List Nat :=
  (List.range k).filter fun i => matched[i]?.any fun a => a.isCcl && waitOk i

/-- What the action-list part of `Execute` does: `BeforeExecution` runs on the first $k$
actions and `AfterExecution` on the same ones in reverse; every concurrency-control
`AfterExecution` calls the `DoneFunc` of the last of them whose wait succeeded. -/
theorem executeActions_spec (matched : List ActionInst) (waitOk : Nat → Bool) :
    ∃ k ≤ matched.length,
      (executeActions matched waitOk).calledActionList = List.range k ∧
        (executeActions matched waitOk).afterCalls = (List.range k).reverse ∧
        (executeActions matched waitOk).released =
          ((List.range k).filter (isCclAt matched)).reverse.flatMap
            fun _ => (succeededWaits matched waitOk k).getLast?.toList := by
  obtain ⟨k, hk, hc, ha, hr, hd⟩ := @runBefore_spec waitOk matched.zipIdx ⟨none, [], [], []⟩
  set r := (runBefore waitOk matched.zipIdx ⟨none, [], [], []⟩).1
  have hk' : k ≤ matched.length := by simpa using hk
  have hcalled : r.calledActionList = List.range k := by
    rw [hc, List.nil_append, zipIdx_take_map_snd, Nat.min_eq_left hk']
  -- the `DoneFunc` the context holds when the after loop starts
  have hdone : r.cclDoneFunc = (succeededWaits matched waitOk k).getLast? := by
    rw [hd, Option.or_none, succeededWaitsOf,
      zipIdx_take_filter_map matched (fun a i => a.isCcl && waitOk i), succeededWaits]
  have hlt : ∀ i ∈ (List.range r.calledActionList.length).reverse, i < matched.length := by
    intro i hi
    simp only [hcalled, List.length_range, List.mem_reverse, List.mem_range] at hi
    omega
  obtain ⟨hc', ha', hr'⟩ := foldl_afterStep matched _ r hlt
  refine ⟨k, hk', ?_, ?_, ?_⟩
  · rw [executeActions, runAfter, hc', hcalled]
  · rw [executeActions, runAfter, ha', ha, hcalled, List.length_range, List.nil_append]
  · rw [executeActions, runAfter, hr', hr, hcalled, hdone, List.length_range, List.nil_append,
      List.filter_reverse]

/-- `AfterExecution` runs exactly on the actions whose `BeforeExecution` ran, once each, in
reverse order. -/
theorem after_reverse_called (matched : List ActionInst) (waitOk : Nat → Bool) :
    (executeActions matched waitOk).afterCalls =
        (executeActions matched waitOk).calledActionList.reverse ∧
      (executeActions matched waitOk).calledActionList.Nodup ∧
      ∀ i ∈ (executeActions matched waitOk).calledActionList, i < matched.length := by
  obtain ⟨k, hk, hc, ha, -⟩ := executeActions_spec matched waitOk
  refine ⟨by rw [ha, hc], hc ▸ List.nodup_range, ?_⟩
  intro i hi
  rw [hc, List.mem_range] at hi
  omega

/-- A list without duplicates whose entries are all equal has at most one entry. -/
theorem length_le_one_of_nodup {α : Type} {l : List α} (hnd : l.Nodup)
    (heq : ∀ x ∈ l, ∀ y ∈ l, x = y) : l.length ≤ 1 := by
  match l, hnd, heq with
  | [], _, _ => simp
  | [_], _, _ => simp
  | x :: y :: _, hnd, heq =>
    have hxy : x ≠ y := fun h => (List.nodup_cons.mp hnd).1 (h ▸ List.mem_cons_self)
    exact absurd (heq x List.mem_cons_self y (List.mem_cons_of_mem _ List.mem_cons_self)) hxy

/-- With at most one concurrency-control action in the list, the `DoneFunc` calls are exactly
the successful waits among the called actions: each slot taken is given back once, and none is
given back for a failed wait. -/
theorem release_single_ccl (matched : List ActionInst) (waitOk : Nat → Bool)
    (hone : ∀ i j, isCclAt matched i = true → isCclAt matched j = true → i = j) :
    (executeActions matched waitOk).released =
      (executeActions matched waitOk).calledActionList.filter
        fun i => matched[i]?.any fun a => a.isCcl && waitOk i := by
  obtain ⟨k, -, hc, -, hr⟩ := executeActions_spec matched waitOk
  rw [hr, hc]
  -- the successful waits are among the concurrency-control positions, of which there is at
  -- most one
  have hsub : (succeededWaits matched waitOk k).Sublist ((List.range k).filter (isCclAt matched)) := by
    refine List.monotone_filter_right _ fun i h => ?_
    cases hm : matched[i]? <;> simp_all [isCclAt]
  have hlen : ((List.range k).filter (isCclAt matched)).length ≤ 1 :=
    length_le_one_of_nodup (List.nodup_range.filter _) fun x hx y hy =>
      hone x y (List.of_mem_filter hx) (List.of_mem_filter hy)
  change _ = succeededWaits matched waitOk k
  match hccl : (List.range k).filter (isCclAt matched), hsub, hlen with
  | [], hsub, _ => simp [List.sublist_nil.mp hsub]
  | [j], hsub, _ =>
    rcases List.sublist_singleton.mp hsub with h | h <;> simp [h]

/-- A continue action, then a concurrency-control action. -/
def continueThenCcl : List ActionInst :=
  [.continueAction ⟨"c", "go on", 1, true, none⟩,
    .concurrencyControlAction ⟨"ccl_a", "limit a", 2, true, some (10, 5)⟩ 10 5]

/-- The list `continueThenCcl`, with a wait that fails. -/
theorem release_single_ccl_failed_wait :
    (∀ i j, isCclAt continueThenCcl i = true → isCclAt continueThenCcl j = true → i = j) ∧
    (executeActions continueThenCcl (fun _ => false)).released =
      (executeActions continueThenCcl (fun _ => false)).calledActionList.filter fun i =>
        continueThenCcl[i]?.any fun a => a.isCcl && false := by
  -- the only concurrency-control action is at position 1
  have hat : ∀ i, isCclAt continueThenCcl i = true → i = 1 := by
    intro i hi
    rcases i with _ | _ | i
    · simp [isCclAt, continueThenCcl, ActionInst.isCcl] at hi
    · rfl
    · simp [isCclAt, continueThenCcl] at hi
  have hone : ∀ i j, isCclAt continueThenCcl i = true → isCclAt continueThenCcl j = true →
      i = j := fun i j hi hj => by rw [hat i hi, hat j hj]
  exact ⟨hone, release_single_ccl _ _ hone⟩

end Loops

/-! ## Two concurrency-control rules share the context key -/

/-- Two active concurrency-control rules that match every request, at priorities 1 and 2,
with parameters `SetParams` accepts. -/
def twoCclRules : List Rule :=
  [⟨"ccl_a", "limit a", 1, true, some (10, 5)⟩, ⟨"ccl_b", "limit b", 2, true, some (10, 5)⟩]

/-- The action list the two rules give: the first at position 0, the second at position 1. -/
theorem getActionList_twoCclRules :
    getActionList twoCclRules (fun _ => .qrConcurrencyControl) =
      [.concurrencyControlAction ⟨"ccl_a", "limit a", 1, true, some (10, 5)⟩ 10 5,
        .concurrencyControlAction ⟨"ccl_b", "limit b", 2, true, some (10, 5)⟩ 10 5] := by
  rw [getActionList, sortAction, List.mergeSort_of_pairwise (by decide)]
  rfl

/-- Both actions run and both `AfterExecution`s run, yet the `DoneFunc`s they call are not the
two slots taken. When both waits succeed, the slot of position 1 is given back twice and that
of position 0 never. When the wait of position 1 fails, the slot of position 0 is given back
twice, once by the `AfterExecution` of the action whose wait failed. -/
theorem ccl_context_key_shared :
    (executeActions (getActionList twoCclRules fun _ => .qrConcurrencyControl)
        fun _ => true).calledActionList = [0, 1] ∧
      (executeActions (getActionList twoCclRules fun _ => .qrConcurrencyControl)
        fun _ => true).released = [1, 1] ∧
      (executeActions (getActionList twoCclRules fun _ => .qrConcurrencyControl)
        fun i => i == 0).calledActionList = [0, 1] ∧
      (executeActions (getActionList twoCclRules fun _ => .qrConcurrencyControl)
        fun i => i == 0).released = [0, 0] := by
  rw [getActionList_twoCclRules]
  decide

end Wescale.Tabletserver
