import Mathlib

/-!
# The concurrency controller (`go/vt/vttablet/tabletserver/ccl/concurrency_controller.go`)

A query that a concurrency-control rule matches takes a slot of the rule key's `Queue`
before it runs: `GetOrCreateQueue(key, ...)` returns the queue of the key, making it if there
is none, and `Queue.Wait` admits the request at once if fewer than `maxConcurrency` are in
flight, queues it on a channel otherwise, and refuses it past `maxQueueSize`. The `DoneFunc`
that `Wait` returns gives the slot back (`unlock`): to the first waiter whose channel is
still open, or to nobody. When the queue's `size` drops to 0, the queue is deleted from the
map.

Every critical section under `ConcurrencyController.mu` is one step of `step`, and so is the
blocking `select` of a waiter; a run is any interleaving of the requests' steps. Dry-run mode,
the statistics and the log messages are left out.

## What is proved

`detached_queue_over_admission`: the bound fails. A request can hold the queue that
`GetOrCreateQueue` returned while the last request in flight deletes it from the map; a later
request then makes a second queue for the same key, and both queues admit one request: two
requests of a rule with `maxConcurrency = 1` are in flight together.
-/

set_option autoImplicit false

namespace Wescale.Tabletserver.Ccl

/-- A `Queue`: its key and limits, `size` (the requests queued or in flight), `onTheFlySize`
(those in flight) and the waiting requests' channels, named by their requests, front first. -/
structure Queue where
  key : String
  maxQueueSize : Int
  maxConcurrency : Int
  size : Int
  onTheFlySize : Int
  waitingRequest : List Nat
  deriving DecidableEq, Repr

/-- `newQueue`. -/
def newQueue (key : String) (maxQueueSize maxConcurrency : Int) : Queue :=
  ⟨key, maxQueueSize, maxConcurrency, 0, 0, []⟩

/-- Where a request is, with the address of the queue it holds. -/
inductive Pc where
  /-- before `GetOrCreateQueue` -/
  | start
  /-- holds the queue `GetOrCreateQueue` returned -/
  | gotQueue (q : Nat)
  /-- blocked in the `select` of `lockLocked`, its channel open -/
  | waiting (q : Nat)
  /-- its send went through; waits for the mutex to return from `Wait` -/
  | handedOff (q : Nat)
  /-- its context was done: it closed its channel and waits for the mutex to give up -/
  | cancelled (q : Nat)
  /-- `Wait` returned its `DoneFunc` -/
  | admitted (q : Nat)
  /-- `Wait` returned an error -/
  | failed
  /-- called its `DoneFunc` -/
  | finished
  deriving DecidableEq, Repr

/-- Returned from `Wait` without error and not yet done. -/
def Pc.isAdmitted : Pc → Bool
  | .admitted _ => true
  | _ => false

/-- A request of a rule: the rule key and its limits, and where the request is. -/
structure Request where
  key : String
  maxQueueSize : Int
  maxConcurrency : Int
  pc : Pc
  deriving DecidableEq, Repr

/-- The controller and the requests: `queues` maps a key to the address of its queue in `heap`,
which holds every queue made so far, also those no longer in the map. -/
structure State where
  queues : List (String × Nat)
  heap : List Queue
  currentGlobalSize : Int
  requests : List Request
  deriving DecidableEq, Repr

namespace State

/-- Write the queue at an address. -/
def setQueue (s : State) (addr : Nat) (q : Queue) : State := { s with heap := s.heap.set addr q }

/-- Move a request to a new place. -/
def setPc (s : State) (r : Nat) (pc : Pc) : State :=
  { s with requests := s.requests.modify r fun req => { req with pc := pc } }

/-- Where a request is; `finished` for a request that does not exist. -/
def pcOf (s : State) (r : Nat) : Pc := (s.requests[r]?.map Request.pc).getD .finished

variable (s : State)

@[simp] theorem setQueue_requests (addr : Nat) (q : Queue) :
    (s.setQueue addr q).requests = s.requests := rfl

@[simp] theorem setQueue_heap (addr : Nat) (q : Queue) : (s.setQueue addr q).heap = s.heap.set addr q :=
  rfl

@[simp] theorem setQueue_currentGlobalSize (addr : Nat) (q : Queue) :
    (s.setQueue addr q).currentGlobalSize = s.currentGlobalSize := rfl

@[simp] theorem setPc_heap (r : Nat) (pc : Pc) : (s.setPc r pc).heap = s.heap := rfl

@[simp] theorem setPc_currentGlobalSize (r : Nat) (pc : Pc) :
    (s.setPc r pc).currentGlobalSize = s.currentGlobalSize := rfl

@[simp] theorem length_setPc_requests (r : Nat) (pc : Pc) :
    (s.setPc r pc).requests.length = s.requests.length := List.length_modify _ _ _

@[simp] theorem pcOf_setQueue (addr : Nat) (q : Queue) (r : Nat) :
    (s.setQueue addr q).pcOf r = s.pcOf r := rfl

/-- An update of the controller's fields leaves where every request is. -/
@[simp] theorem pcOf_mk (queues : List (String × Nat)) (heap : List Queue) (currentGlobalSize : Int)
    (r : Nat) : (State.mk queues heap currentGlobalSize s.requests).pcOf r = s.pcOf r := rfl

theorem pcOf_setPc (r : Nat) (pc : Pc) (r' : Nat) :
    (s.setPc r pc).pcOf r' = if r = r' ∧ r < s.requests.length then pc else s.pcOf r' := by
  unfold pcOf setPc
  rw [List.getElem?_modify]
  by_cases h : r = r'
  · subst h
    by_cases hr : r < s.requests.length <;> simp [hr]
  · cases s.requests[r']? <;> simp [h]

theorem lt_length_of_pcOf_ne_finished {r : Nat} (h : s.pcOf r ≠ .finished) :
    r < s.requests.length := by
  by_contra hr
  exact h (by simp [pcOf, List.getElem?_eq_none (Nat.le_of_not_lt hr)])

end State

/-! ## The critical sections -/

section Controller

variable (maxGlobalQueueSize : Int)

/-- `GetOrCreateQueue`: the address of the key's queue, made if the map has none. A queue
with other limits would be resized, but `resizeQueue` locks the mutex that `GetOrCreateQueue`
already holds, and the goroutine blocks for ever: `none`. -/
def getOrCreateQueue (s : State) (key : String) (maxQueueSize maxConcurrency : Int) :
    Option (State × Nat) :=
  let (s, addr) :=
    match s.queues.lookup key with
    | some addr => (s, addr)
    | none =>
      ({ s with
          queues := (key, s.heap.length) :: s.queues
          heap := s.heap ++ [newQueue key maxQueueSize maxConcurrency] }, s.heap.length)
  match s.heap[addr]? with
  | none => none
  | some q =>
    if q.maxQueueSize ≠ maxQueueSize ∨ q.maxConcurrency ≠ maxConcurrency then none
    else some (s, addr)

/-- The loop of `unlockLocked` over the waiting channels: the first waiter whose channel is
open takes the slot; the closed channels before it are dropped. -/
def releaseWaiter (s : State) : List Nat → Option Nat × List Nat
  | [] => (none, [])
  | r :: rest =>
    match s.pcOf r with
    | .waiting _ => (some r, rest)
    | _ => releaseWaiter s rest

/-- `unlockLocked`: give up the request's place in the queue at `addr`, and its slot if
`returnSlot`. -/
def unlockLocked (s : State) (addr : Nat) (returnSlot : Bool) : State :=
  match s.heap[addr]? with
  | none => s
  | some q =>
    let q := { q with size := q.size - 1 }
    let s := { s.setQueue addr q with currentGlobalSize := s.currentGlobalSize - 1 }
    if q.size = 0 then
      -- the last transaction in flight: the queue leaves the map, with whatever the key maps to
      { s.setQueue addr { q with onTheFlySize := q.onTheFlySize - 1 } with
        queues := s.queues.filter fun e => e.1 ≠ q.key }
    else if !returnSlot then s
    else if q.onTheFlySize > q.maxConcurrency then
      s.setQueue addr { q with onTheFlySize := q.onTheFlySize - 1 }
    else
      match releaseWaiter s q.waitingRequest with
      | (some r, rest) => (s.setQueue addr { q with waitingRequest := rest }).setPc r (.handedOff addr)
      | (none, rest) =>
        s.setQueue addr { q with waitingRequest := rest, onTheFlySize := q.onTheFlySize - 1 }

/-- `lockLocked` for request `r` on the queue at `addr`, up to the blocking `select`. -/
def lockLocked (s : State) (addr r : Nat) : State :=
  match s.heap[addr]? with
  | none => s
  | some q =>
    if s.currentGlobalSize ≥ maxGlobalQueueSize then s.setPc r .failed
    else if q.size ≥ q.maxQueueSize then s.setPc r .failed
    else
      let q := { q with size := q.size + 1 }
      let s := { s with currentGlobalSize := s.currentGlobalSize + 1 }
      if q.onTheFlySize < q.maxConcurrency then
        (s.setQueue addr { q with onTheFlySize := q.onTheFlySize + 1 }).setPc r (.admitted addr)
      else
        (s.setQueue addr { q with waitingRequest := q.waitingRequest ++ [r] }).setPc r
          (.waiting addr)

/-- The steps of a request. -/
inductive Event where
  /-- `GetOrCreateQueue` under the mutex -/
  | getOrCreateQueue (r : Nat)
  /-- `Wait` up to the `select`, under the mutex -/
  | wait (r : Nat)
  /-- a waiter's context is done: it closes its channel -/
  | cancel (r : Nat)
  /-- the cancelled waiter takes the mutex again and gives up its place -/
  | giveUp (r : Nat)
  /-- a waiter that was handed a slot takes the mutex again and returns from `Wait` -/
  | wake (r : Nat)
  /-- the `DoneFunc`: `unlock` under the mutex -/
  | done (r : Nat)
  deriving DecidableEq, Repr

/-- One step; `none` when the request cannot take it, or blocks for ever. -/
def step (s : State) : Event → Option State
  | .getOrCreateQueue r =>
    match s.pcOf r, s.requests[r]? with
    | .start, some req =>
      (getOrCreateQueue s req.key req.maxQueueSize req.maxConcurrency).map fun (s, addr) =>
        s.setPc r (.gotQueue addr)
    | _, _ => none
  | .wait r =>
    match s.pcOf r with
    | .gotQueue addr => some (lockLocked maxGlobalQueueSize s addr r)
    | _ => none
  | .cancel r =>
    match s.pcOf r with
    | .waiting addr => some (s.setPc r (.cancelled addr))
    | _ => none
  | .giveUp r =>
    match s.pcOf r with
    | .cancelled addr => some ((unlockLocked s addr false).setPc r .failed)
    | _ => none
  | .wake r =>
    match s.pcOf r with
    | .handedOff addr => some (s.setPc r (.admitted addr))
    | _ => none
  | .done r =>
    match s.pcOf r with
    | .admitted addr => some ((unlockLocked s addr true).setPc r .finished)
    | _ => none

/-- A run: the steps one after the other. -/
def run (s : State) (events : List Event) : Option State := events.foldlM (step maxGlobalQueueSize) s

end Controller

/-- The requests of a key that returned from `Wait` without error and have not called their
`DoneFunc`. -/
def inFlight (s : State) (key : String) : Nat :=
  (s.requests.filter fun req => req.key == key && req.pc.isAdmitted).length

/-! ## A deleted queue still admits -/

/-- The default `concurrency_controller_max_global_queue_size`. -/
def defaultMaxGlobalQueueSize : Int := 10000000

/-- Three requests of one rule with `maxQueueSize = maxConcurrency = 1`. -/
def threeRequests : State :=
  ⟨[], [], 0, List.replicate 3 ⟨"k", 1, 1, .start⟩⟩

/-- Request 1 takes the queue and stalls; request 0 runs and finishes, so the queue is
deleted; request 2 makes a new queue and is admitted; request 1 waits on the deleted queue and
is admitted too. -/
def detachedQueueTrace : List Event :=
  [.getOrCreateQueue 0, .getOrCreateQueue 1, .wait 0, .done 0, .getOrCreateQueue 2, .wait 2,
    .wait 1]

theorem detached_queue_over_admission :
    (run defaultMaxGlobalQueueSize threeRequests detachedQueueTrace).map (inFlight · "k") =
      some 2 := by
  decide

end Wescale.Tabletserver.Ccl
