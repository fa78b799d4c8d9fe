import Wescale.Tabletserver.Ccl

/-!
# The mutex of the concurrency controller (`go/vt/vttablet/tabletserver/ccl/concurrency_controller.go`)

Every operation of the controller takes `ConcurrencyController.mu`, and the helpers named
`...Locked` expect their caller to hold it. Go's `sync.Mutex` is not reentrant: a goroutine that
calls `Lock` while it holds the mutex blocks for ever. This module writes down the `Lock` and
`Unlock` calls each operation makes, in order, and runs them from an unlocked mutex
(`runMutex`):

- `Wait` locks, and `lockLocked` unlocks around its blocking `select` and locks again after it;
  the deferred `Unlock` of `Wait` ends it. A failed wait calls `unlockLocked`, which does not
  touch the mutex.
- The `DoneFunc` is `Queue.unlock`: one `Lock`, `unlockLocked`, one `Unlock`.
- `GetOrCreateQueue` locks, and calls `resizeQueue` when the queue of the key has other limits;
  `resizeQueue` begins with `q.txs.mu.Lock()`, on the mutex its caller holds.

## What is proved

`ccl_mutex_relocked`: `Wait` and the `DoneFunc` never lock the mutex they hold, from any state;
`GetOrCreateQueue` does exactly when the key's queue has other limits (`resizes`), the case the
step model of `Wescale.Tabletserver.Ccl` stops as a goroutine blocked for ever. Two requests of
one key with different `maxConcurrency` reach it.
-/

set_option autoImplicit false

namespace Wescale.Tabletserver.Ccl

/-- What a goroutine does to `ConcurrencyController.mu`. -/
inductive MutexOp where
  | lock
  | unlock
  deriving DecidableEq, Repr

/-- A goroutine's calls on the mutex, from whether it holds it; `none` at a `Lock` while it
already holds the mutex (it blocks for ever) or at an `Unlock` of a mutex it does not hold (a
fatal error in Go). -/
def runMutex : Bool → List MutexOp → Option Bool
  | held, [] => some held
  | false, .lock :: ops => runMutex true ops
  | true, .lock :: _ => none
  | true, .unlock :: ops => runMutex false ops
  | false, .unlock :: _ => none

/-- The mutex calls of `Wait`: `Lock`, the `Unlock`/`Lock` around the `select` when it blocks,
and the deferred `Unlock`. -/
def waitOps (blocks : Bool) : List MutexOp :=
  [.lock] ++ (if blocks then [.unlock, .lock] else []) ++ [.unlock]

/-- The mutex calls of the `DoneFunc`, `Queue.unlock`. -/
def doneOps : List MutexOp := [.lock, .unlock]

/-- The mutex calls of `resizeQueue`: its own `Lock` and deferred `Unlock`. -/
def resizeQueueOps : List MutexOp := [.lock, .unlock]

/-- Whether `GetOrCreateQueue` calls `resizeQueue`: the key's queue has other limits. A queue it
makes has the limits asked for. -/
def resizes (s : State) (key : String) (maxQueueSize maxConcurrency : Int) : Bool :=
  match s.queues.lookup key with
  | none => false
  | some addr =>
    match s.heap[addr]? with
    | none => false
    | some q => decide (q.maxQueueSize ≠ maxQueueSize ∨ q.maxConcurrency ≠ maxConcurrency)

/-- The mutex calls of `GetOrCreateQueue`. -/
def getOrCreateQueueOps (s : State) (key : String) (maxQueueSize maxConcurrency : Int) :
    List MutexOp :=
  [.lock] ++ (if resizes s key maxQueueSize maxConcurrency then resizeQueueOps else []) ++ [.unlock]

/-- `Wait` never locks the mutex it holds, blocked or not, and leaves it unlocked. -/
theorem runMutex_waitOps (blocks : Bool) : runMutex false (waitOps blocks) = some false := by
  cases blocks <;> rfl

theorem runMutex_doneOps : runMutex false doneOps = some false := rfl

/-- `GetOrCreateQueue` locks the mutex it holds exactly when it resizes. -/
theorem runMutex_getOrCreateQueueOps (s : State) (key : String) (maxQueueSize maxConcurrency : Int) :
    runMutex false (getOrCreateQueueOps s key maxQueueSize maxConcurrency) = none ↔
      resizes s key maxQueueSize maxConcurrency = true := by
  unfold getOrCreateQueueOps
  cases resizes s key maxQueueSize maxConcurrency <;> decide

/-- Request 0 makes the queue of `k` with `maxConcurrency = 5`; request 1 asks for it with `6`. -/
def twoLimits : State :=
  ⟨[], [], 0, [⟨"k", 10, 5, .start⟩, ⟨"k", 10, 6, .start⟩]⟩

/-- **A goroutine locks the controller's mutex again.** From every state, `Wait` (blocked or
not) and the `DoneFunc` never lock the mutex they hold; `GetOrCreateQueue` does exactly when the
key's queue has other limits. After request 0 of `twoLimits` made the queue of `k`, request 1
asks for it with another `maxConcurrency`: `GetOrCreateQueue` calls `resizeQueue`, which locks
the mutex its caller holds, and the step model has no step for request 1. -/
theorem ccl_mutex_relocked :
    (∀ blocks, runMutex false (waitOps blocks) = some false) ∧
    runMutex false doneOps = some false ∧
    (∀ s key maxQueueSize maxConcurrency,
      runMutex false (getOrCreateQueueOps s key maxQueueSize maxConcurrency) = none ↔
        resizes s key maxQueueSize maxConcurrency = true) ∧
    (∃ s, run defaultMaxGlobalQueueSize twoLimits [.getOrCreateQueue 0] = some s ∧
      runMutex false (getOrCreateQueueOps s "k" 10 6) = none ∧
      step defaultMaxGlobalQueueSize s (.getOrCreateQueue 1) = none) :=
  ⟨runMutex_waitOps, runMutex_doneOps, runMutex_getOrCreateQueueOps, _, rfl, by decide, by decide⟩

end Wescale.Tabletserver.Ccl
