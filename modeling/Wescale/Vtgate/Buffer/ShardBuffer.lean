import Mathlib
import Wescale.Lib.Interleaving

/-!
# The failover buffer, goroutine by goroutine (`go/vt/vtgate/buffer`)

During a failover vtgate holds back the requests of a shard in that shard's `shardBuffer`
queue, and lets them go when the failover ends. All the shards of a `Buffer` share one
semaphore, `bufferSizeSema`, of `Size` slots: a request takes a slot when it is buffered.
Four kinds of goroutine touch an entry: the request itself, which waits in `wait` until its
`done` channel is closed or its context ends; the timeout thread, which evicts the oldest entry
when it leaves its window; the health-check callbacks, which stop buffering; and the drain,
which unblocks the entries of a stopped buffer one after the other. Whoever unblocks an entry
closes its `done` channel (`unblockAndWait`) and, unless it hands the slot on, releases the
slot once the request has finished with the retry (`waitForRequestFinish`).

The model is the interleaving semantics of `Interleaving`: the shared state is the `Buffer`
with its shards and every entry ever buffered, the threads are the goroutines, and each step is
one critical section of `shardBuffer.mu`, one channel operation or one send or receive on the
semaphore. An entry is named by its place in `Buffer.entries`, its pointer. The outside world
answers each step with the time and with the case a `select` takes when both are ready.

Two pieces of bookkeeping are not in the code: every close of an entry's `done` channel is
recorded with the goroutine that made it (`Entry.closes`; Go panics on a second close), and the
semaphore counts its successful `TryAcquire`s and its `Release`s.

Not modelled: the statistics, the logs, the timeout thread's timers (it may call
`evictOldestEntry` for any entry at any time), the `Buffer`-level map of shard buffers and its
`Shutdown`, and the entry's deadline.
-/

set_option autoImplicit false
-- `Buffer` is the package's name and its type's, as in the source
set_option linter.dupNamespace false

namespace Wescale.Vtgate.Buffer

/-- `bufferState`. -/
inductive BufferState where
  | idle
  | buffering
  | draining
  deriving DecidableEq, Repr

/-- `bufferMode`. -/
inductive BufferMode where
  | disabled
  | enabled
  | dryRun
  deriving DecidableEq, Repr

/-- `stopReason`, for the reasons that reach `stopBufferingLocked`. -/
inductive StopReason where
  | failoverEndDetected
  | shardMissing
  | maxFailoverDurationExceeded
  | shutdown
  deriving DecidableEq, Repr

/-- The errors a buffered request can be given. -/
inductive BufferError where
  /-- `ShardMissingError`. -/
  | shardMissing
  /-- `bufferFullError`. -/
  | bufferFull
  /-- `entryEvictedError`. -/
  | entryEvicted
  /-- `contextCanceledError`. -/
  | contextCanceled
  deriving DecidableEq, Repr

/-- Who closed an entry's `done` channel: the eviction of `bufferRequestLocked` for a full
buffer, `evictOldestEntry` for an entry out of its window, `remove` for a canceled request, or
the drain. -/
inductive Unblocker where
  | evictedBufferFull
  | evictedWindowExceeded
  | evictedContextDone
  | drained
  deriving DecidableEq, Repr

/-- `topodatapb.TabletAlias`. -/
structure TabletAlias where
  cell : String
  uid : UInt32
  deriving DecidableEq, Repr

variable {σ : Type} [DecidableEq σ]

/-- `entry`: one buffered request. `ctxDone` says that the request's context has ended,
`bufferDone` that its `bufferCtx`, a child of it, has; `closes` records every close of `done`. -/
structure Entry (σ : Type) where
  shard : σ
  ctxDone : Bool
  bufferDone : Bool
  err : Option BufferError
  closes : List Unblocker
  deriving DecidableEq, Repr

/-- `shardBuffer`, with the fields the buffering reads. `queue = none` is the `nil` queue of a
stopped buffer; times are those of `timeNow`, and `none` is the zero time. -/
structure ShardBuffer where
  mode : BufferMode
  state : BufferState
  queue : Option (List Nat)
  externallyReparented : Int
  lastEnd : Option Int
  lastReparent : Option Int
  currentPrimary : Option TabletAlias
  deriving DecidableEq, Repr

/-- `newShardBufferHealthCheck`: an idle buffer. -/
def newShardBuffer (mode : BufferMode) : ShardBuffer :=
  { mode := mode, state := .idle, queue := none, externallyReparented := 0, lastEnd := none,
    lastReparent := none, currentPrimary := none }

/-- `sync2.Semaphore`: the slots left in its channel. -/
structure Semaphore where
  slots : Nat
  deriving DecidableEq, Repr

/-- `TryAcquire`: takes a slot if one is left. -/
def Semaphore.tryAcquire (sem : Semaphore) : Bool × Semaphore :=
  if 0 < sem.slots then (true, ⟨sem.slots - 1⟩) else (false, sem)

/-- `Release` on a semaphore made with `count` slots: it puts a slot back, and blocks (`none`)
when the channel is full. -/
def Semaphore.release (count : Nat) (sem : Semaphore) : Option Semaphore :=
  if sem.slots < count then some ⟨sem.slots + 1⟩ else none

/-- The fields of `Config` the buffering reads. -/
structure Config where
  size : Nat
  minTimeBetweenFailovers : Int

/-- `Buffer`: the semaphore, its counts of successful `TryAcquire`s and of `Release`s, the
shard buffers, and every entry ever buffered. -/
structure Buffer (σ : Type) where
  bufferSizeSema : Semaphore
  acquired : Nat
  released : Nat
  buffers : σ → ShardBuffer
  entries : List (Entry σ)

/-- The goroutines, each at the step it takes next. -/
inductive Goroutine (σ : Type) where
  /-- A request that calls `WaitForFailoverEnd` for a shard, having seen a failover or not. -/
  | waitForFailoverEnd (shard : σ) (failoverDetected : Bool)
  /-- A buffered request in the `select` of `wait`. -/
  | wait (e : Nat)
  /-- A request whose context ended, about to call `remove`. -/
  | remove (e : Nat)
  /-- A request let go with its `RetryDoneFunc`, which it calls when its retry finishes. -/
  | retryDone (e : Nat)
  /-- The goroutine `unblockAndWait` starts: it waits for `bufferCtx`, then releases. -/
  | waitForRequestFinish (e : Nat) (releaseSlot : Bool)
  /-- `drain` of a shard: the entries still to unblock, their error, and the entry it waits
  for. -/
  | drain (shard : σ) (q : List Nat) (err : Option BufferError) (waiting : Option Nat)
  /-- The request's context is canceled, from outside. -/
  | cancelContext (e : Nat)
  /-- A call of the timeout thread. -/
  | evictOldestEntry (shard : σ) (e : Nat)
  /-- A health-check callback. -/
  | recordExternallyReparentedTimestamp (shard : σ) (timestamp : Int)
      (tabletAlias : Option TabletAlias)
  /-- A keyspace event. -/
  | recordKeyspaceEvent (shard : σ) (tabletAlias : Option TabletAlias) (stillServing : Bool)
  /-- The timeout thread, when the failover lasts too long. -/
  | stopBufferingDueToMaxDuration (shard : σ)
  /-- `shardBuffer.shutdown`. -/
  | shutdown (shard : σ)
  deriving DecidableEq, Repr

/-- What the outside world answers a step: the time `timeNow` returns, and the case a `select`
takes when both of its cases are ready. -/
structure World where
  now : Int
  pickCtx : Bool

namespace Buffer

/-- A buffer before any request: every slot free, every shard idle. -/
def Initial (cfg : Config) (b : Buffer σ) : Prop :=
  b.bufferSizeSema.slots = cfg.size ∧ b.acquired = 0 ∧ b.released = 0 ∧ b.entries = [] ∧
    ∀ s, b.buffers s = newShardBuffer (b.buffers s).mode

/-- The buffer with shard `s` replaced. -/
def setShard (b : Buffer σ) (s : σ) (sb : ShardBuffer) : Buffer σ :=
  { b with buffers := Function.update b.buffers s sb }

/-- The part of `unblockAndWait` under the lock: the entry's error is set and `done` is
closed, by `u`. -/
def unblock (b : Buffer σ) (e : Nat) (u : Unblocker) (err : Option BufferError) : Buffer σ :=
  { b with entries := b.entries.modify e fun x => { x with err := err, closes := x.closes ++ [u] } }

/-- `bufferCancel`, and the end of the request's context: `bufferCtx` is done. -/
def cancelBuffer (b : Buffer σ) (e : Nat) : Buffer σ :=
  { b with entries := b.entries.modify e fun x => { x with bufferDone := true } }

/-- Whether the `bufferCtx` of entry `e` is done; `<-e.bufferCtx.Done()` blocks until it is. -/
def bufferDone (b : Buffer σ) (e : Nat) : Bool :=
  (b.entries[e]?.map Entry.bufferDone).getD false

/-- `Release` of `waitForRequestFinish`: `none` while the semaphore's channel is full. -/
def releaseSlot (cfg : Config) (b : Buffer σ) : Option (Buffer σ) :=
  (b.bufferSizeSema.release cfg.size).map fun sem =>
    { b with bufferSizeSema := sem, released := b.released + 1 }

end Buffer

/-- `shouldBufferLocked`. -/
def shouldBufferLocked (state : BufferState) (failoverDetected : Bool) : Bool :=
  match state, failoverDetected with
  | .idle, failoverDetected => failoverDetected
  | .buffering, _ => true
  | .draining, _ => false

/-- The tests of `waitForFailoverEnd` that keep an idle buffer from starting: buffering stopped,
or a reparent was seen, less than `MinTimeBetweenFailovers` ago. -/
def tooRecent (cfg : Config) (sb : ShardBuffer) (now : Int) : Bool :=
  (match sb.lastEnd with
    | some lastEnd => decide (now - lastEnd < cfg.minTimeBetweenFailovers)
    | none => false) ||
  (match sb.lastReparent with
    | some lastReparent => decide (now - lastReparent < cfg.minTimeBetweenFailovers)
    | none => false)

/-- `startBufferingLocked`: the state becomes buffering, with an empty queue. -/
def ShardBuffer.startBufferingLocked (sb : ShardBuffer) : ShardBuffer :=
  { sb with state := .buffering, queue := some [] }

/-- A new entry of shard `s`. -/
def Entry.new (s : σ) : Entry σ :=
  { shard := s, ctxDone := false, bufferDone := false, err := none, closes := [] }

/-- `bufferRequestLocked` on a buffering shard: the new entry, or `bufferFullError`, and the
goroutine the eviction of a full buffer starts. When no slot is left, the oldest entry of the
shard is evicted and its slot goes to the new one: it is not released. -/
def bufferRequestLocked (b : Buffer σ) (s : σ) :
    Buffer σ × Except BufferError Nat × List (Goroutine σ) :=
  let sb := b.buffers s
  let queue := sb.queue.getD []
  let e := b.entries.length
  let (acquired, sem) := b.bufferSizeSema.tryAcquire
  if acquired then
    ({ b.setShard s { sb with queue := some (queue ++ [e]) } with
        bufferSizeSema := sem, acquired := b.acquired + 1, entries := b.entries ++ [Entry.new s] },
      .ok e, [])
  else
    match queue with
    | [] => (b, .error .bufferFull, [])
    | oldest :: rest =>
      let b := b.unblock oldest .evictedBufferFull (some .entryEvicted)
      ({ b.setShard s { sb with queue := some (rest ++ [e]) } with
          entries := b.entries ++ [Entry.new s] },
        .ok e, [.waitForRequestFinish oldest false])

/-- `waitForFailoverEnd`, its locked section, after the test of `Buffer.WaitForFailoverEnd` for
a disabled shard. -/
def waitForFailoverEnd (cfg : Config) (b : Buffer σ) (s : σ) (failoverDetected : Bool)
    (now : Int) : Buffer σ × List (Goroutine σ) :=
  let sb := b.buffers s
  if sb.mode = .disabled then (b, [])
  else if !shouldBufferLocked sb.state failoverDetected then (b, [])
  else if sb.state = .idle && tooRecent cfg sb now then (b, [])
  else
    let b := if sb.state = .idle then b.setShard s sb.startBufferingLocked else b
    if sb.mode = .dryRun then (b, [])
    else
      match bufferRequestLocked b s with
      | (b, .ok e, started) => (b, .wait e :: started)
      | (b, .error _, started) => (b, started)

/-- The `select` of `wait`: the context's end sends the request to `remove`, a closed `done`
lets it go with its `RetryDoneFunc`; when both are ready the world picks. -/
def wait (b : Buffer σ) (e : Nat) (pickCtx : Bool) : List (Goroutine σ) :=
  match b.entries[e]? with
  | none => []
  | some x =>
    if x.ctxDone && (pickCtx || x.closes.isEmpty) then [.remove e]
    else if !x.closes.isEmpty then [.retryDone e]
    else [.wait e]

/-- `remove`: an entry still in its shard's queue is taken out, its `bufferCtx` canceled, and it
is unblocked; the goroutine started releases its slot. -/
def remove (b : Buffer σ) (e : Nat) : Buffer σ × List (Goroutine σ) :=
  match b.entries[e]? with
  | none => (b, [])
  | some x =>
    let sb := b.buffers x.shard
    match sb.queue with
    | none => (b, [])
    | some queue =>
      if e ∈ queue then
        let b := b.setShard x.shard { sb with queue := some (queue.erase e) }
        ((b.cancelBuffer e).unblock e .evictedContextDone none, [.waitForRequestFinish e true])
      else (b, [])

/-- `waitForRequestFinish`: once `bufferCtx` is done, the slot is released if it is to be. -/
def waitForRequestFinish (cfg : Config) (b : Buffer σ) (e : Nat) (releaseSlot : Bool) :
    Buffer σ × List (Goroutine σ) :=
  if !b.bufferDone e then (b, [.waitForRequestFinish e releaseSlot])
  else if !releaseSlot then (b, [])
  else
    match b.releaseSlot cfg with
    | some b => (b, [])
    | none => (b, [.waitForRequestFinish e releaseSlot])

/-- `drain`: one entry after the other is unblocked, and waited for before its slot is
released; at the end the shard is idle again. -/
def drain (cfg : Config) (b : Buffer σ) (s : σ) (q : List Nat) (err : Option BufferError) :
    Option Nat → Buffer σ × List (Goroutine σ)
  | some e =>
    if !b.bufferDone e then (b, [.drain s q err (some e)])
    else
      match b.releaseSlot cfg with
      | some b => (b, [.drain s q err none])
      | none => (b, [.drain s q err (some e)])
  | none =>
    match q with
    | e :: rest => (b.unblock e .drained err, [.drain s rest err (some e)])
    | [] => (b.setShard s { b.buffers s with state := .idle }, [])

/-- `evictOldestEntry`: the entry is evicted if it is still the oldest of the shard. -/
def evictOldestEntry (b : Buffer σ) (s : σ) (e : Nat) : Buffer σ × List (Goroutine σ) :=
  let sb := b.buffers s
  match sb.queue with
  | some (oldest :: rest) =>
    if e = oldest then
      ((b.unblock e .evictedWindowExceeded none).setShard s { sb with queue := some rest },
        [.waitForRequestFinish e true])
    else (b, [])
  | _ => (b, [])

/-- `stopBufferingLocked`: a buffering shard starts draining; its queue goes to a new `drain`
goroutine and is cleared. -/
def stopBufferingLocked (b : Buffer σ) (s : σ) (reason : StopReason) (now : Int) :
    Buffer σ × List (Goroutine σ) :=
  let sb := b.buffers s
  if sb.state ≠ .buffering then (b, [])
  else
    let clientEntryError := if reason = .shardMissing then some .shardMissing else none
    (b.setShard s { sb with lastEnd := some now, state := .draining, queue := none },
      [.drain s (sb.queue.getD []) clientEntryError none])

/-- The new primary of `recordKeyspaceEvent` and `recordExternallyReparentedTimestamp`: a
change of a primary already known is a reparent. -/
def ShardBuffer.recordPrimary (sb : ShardBuffer) (tabletAlias : Option TabletAlias) (now : Int) :
    ShardBuffer :=
  if tabletAlias ≠ sb.currentPrimary then
    { sb with
      lastReparent := if sb.currentPrimary.isSome then some now else sb.lastReparent
      currentPrimary := tabletAlias }
  else sb

/-- `recordKeyspaceEvent`. -/
def recordKeyspaceEvent (b : Buffer σ) (s : σ) (tabletAlias : Option TabletAlias) (stillServing : Bool)
    (now : Int) : Buffer σ × List (Goroutine σ) :=
  let b := b.setShard s ((b.buffers s).recordPrimary tabletAlias now)
  stopBufferingLocked b s (if stillServing then .failoverEndDetected else .shardMissing) now

/-- `recordExternallyReparentedTimestamp`: only a timestamp higher than every one seen stops
buffering. -/
def recordExternallyReparentedTimestamp (b : Buffer σ) (s : σ) (timestamp : Int)
    (tabletAlias : Option TabletAlias) (now : Int) : Buffer σ × List (Goroutine σ) :=
  let sb := b.buffers s
  if timestamp ≤ sb.externallyReparented then (b, [])
  else
    let b := b.setShard s ({ sb with externallyReparented := timestamp }.recordPrimary tabletAlias now)
    stopBufferingLocked b s .failoverEndDetected now

/-- One atomic step of a goroutine. -/
def step (cfg : Config) (b : Buffer σ) : Goroutine σ → World → Buffer σ × List (Goroutine σ)
  | .waitForFailoverEnd s failoverDetected, w => waitForFailoverEnd cfg b s failoverDetected w.now
  | .wait e, w => (b, wait b e w.pickCtx)
  | .remove e, _ => remove b e
  | .retryDone e, _ => (b.cancelBuffer e, [])
  | .waitForRequestFinish e releaseSlot, _ => waitForRequestFinish cfg b e releaseSlot
  | .drain s q err waiting, _ => drain cfg b s q err waiting
  | .cancelContext e, _ =>
    ({ b.cancelBuffer e with
        entries := (b.cancelBuffer e).entries.modify e fun x => { x with ctxDone := true } }, [])
  | .evictOldestEntry s e, _ => evictOldestEntry b s e
  | .recordExternallyReparentedTimestamp s timestamp tabletAlias, w =>
    recordExternallyReparentedTimestamp b s timestamp tabletAlias w.now
  | .recordKeyspaceEvent s tabletAlias stillServing, w => recordKeyspaceEvent b s tabletAlias stillServing w.now
  | .stopBufferingDueToMaxDuration s, w => stopBufferingLocked b s .maxFailoverDurationExceeded w.now
  | .shutdown s, w => stopBufferingLocked b s .shutdown w.now

/-- The goroutines the outside world starts: requests, context cancellations, the timeout
thread's calls and the health-check callbacks. The others are only started by steps. -/
def Goroutine.fromOutside : Goroutine σ → Bool
  | .waitForFailoverEnd .. | .cancelContext _ | .evictOldestEntry .. |
    .recordExternallyReparentedTimestamp .. | .recordKeyspaceEvent .. |
    .stopBufferingDueToMaxDuration _ | .shutdown _ => true
  | _ => false

end Wescale.Vtgate.Buffer
