import Wescale.Vtgate.Buffer.Invariant

/-!
# Every interleaving of the buffer keeps the invariant

Each function of the buffer changes its core in one of the ways `Invariant` names, or not at
all: `bufferRequestLocked` pushes an entry or evicts the oldest one for it, `remove` and
`evictOldestEntry` unblock a queued entry, `stopBufferingLocked` hands the queue to a drain, and
`waitForRequestFinish` and `drain` release. So every step of a goroutine keeps `Inv`
(`step_inv`), every run from an initial buffer does (`Reachable.inv`), and what the buffer is to
keep follows (`buffer_unblocks_and_slots`): `done` is closed at most once and only for an entry
no longer waiting, and the slots are accounted for.
-/

set_option autoImplicit false
-- `Buffer` is the package's name and its type's, as in the source
set_option linter.dupNamespace false

namespace Wescale.Vtgate.Buffer

variable {σ : Type}

/-! ## The core of each change of the buffer -/

/-- `modify` at an index commutes with `map` when the function there does. -/
theorem map_modify {α β : Type} {f : α → α} {g : α → β} {u : β → β}
    (hfg : ∀ x, g (f x) = u (g x)) (l : List α) (i : Nat) :
    (l.modify i f).map g = (l.map g).modify i u := by
  refine List.ext_getElem? fun j => ?_
  simp only [List.getElem?_map, List.getElem?_modify]
  cases l[j]? with
  | none => rfl
  | some x => by_cases hij : i = j <;> simp [hij, hfg]

/-- A `modify` that `map` does not see. -/
theorem map_modify_eq_map {α β : Type} {f : α → α} {g : α → β} (hfg : ∀ x, g (f x) = g x)
    (l : List α) (i : Nat) : (l.modify i f).map g = l.map g :=
  (map_modify (u := id) hfg l i).trans (List.modify_id i _)

namespace Buffer

variable (b : Buffer σ)

/-- `unblock` closes the entry's `done`. -/
theorem core_unblock (e : Nat) (u : Unblocker) (err : Option BufferError) :
    (b.unblock e u err).core = b.core.close e u := by
  simp only [Buffer.core, Buffer.unblock, Core.close, Core.mk.injEq, true_and]
  apply map_modify
  intro x
  rfl

/-- `bufferCancel` is not read by the core. -/
theorem core_cancelBuffer (e : Nat) : (b.cancelBuffer e).core = b.core := by
  simp only [Buffer.core, Buffer.cancelBuffer, Core.mk.injEq, true_and]
  apply map_modify_eq_map
  intro x
  rfl

/-- A `Release` that returns puts a slot back. -/
theorem core_of_releaseSlot {cfg : Config} {b' : Buffer σ} (h : b.releaseSlot cfg = some b') :
    b'.core = b.core.release := by
  simp only [Buffer.releaseSlot, Semaphore.release] at h
  split_ifs at h
  · simp only [Option.map_some, Option.some.injEq] at h
    subst h
    rfl
  · cases h

/-- The end of the request's context is not read by the core. -/
theorem core_cancelContext (e : Nat) :
    ({ b.cancelBuffer e with
        entries := (b.cancelBuffer e).entries.modify e fun x => { x with ctxDone := true } }).core =
      b.core := by
  rw [← Buffer.core_cancelBuffer b e]
  simp only [Buffer.core, Core.mk.injEq, true_and]
  apply map_modify_eq_map
  intro x
  rfl

/-- The core reads an entry's shard and closes. -/
theorem core_entry {e : Nat} {x : Entry σ} (hx : b.entries[e]? = some x) :
    b.core.shardOf e = some x.shard ∧ b.core.closesOf e = some x.closes := by
  simp only [Core.shardOf, Core.closesOf, Buffer.core, List.getElem?_map, hx, Option.map_some,
    and_self]

variable [DecidableEq σ]

/-- The states after a shard buffer is replaced. -/
theorem states_update (bs : σ → ShardBuffer) (s : σ) (sb : ShardBuffer) :
    (fun s' => (Function.update bs s sb s').state) =
      Function.update (fun s' => (bs s').state) s sb.state :=
  funext fun s' => Function.apply_update (fun _ sb => ShardBuffer.state sb) bs s sb s'

/-- The queues after a shard buffer is replaced. -/
theorem queues_update (bs : σ → ShardBuffer) (s : σ) (sb : ShardBuffer) :
    (fun s' => (Function.update bs s sb s').queue) =
      Function.update (fun s' => (bs s').queue) s sb.queue :=
  funext fun s' => Function.apply_update (fun _ sb => ShardBuffer.queue sb) bs s sb s'

/-- A shard buffer replaced: its state and queue in the core. -/
theorem core_setShard (s : σ) (sb : ShardBuffer) :
    (b.setShard s sb).core = { b.core with
      states := Function.update b.core.states s sb.state
      queues := Function.update b.core.queues s sb.queue } := by
  simp only [Buffer.core, Buffer.setShard, states_update, queues_update]

/-- A shard buffer with its old state: only its queue changes in the core. -/
theorem core_setShard_of_state (s : σ) {sb : ShardBuffer} (hstate : sb.state = (b.buffers s).state) :
    (b.setShard s sb).core = { b.core with queues := Function.update b.core.queues s sb.queue } := by
  simp only [Buffer.core, Buffer.setShard, states_update, queues_update, hstate,
    Function.update_eq_self]

/-- A shard buffer with its old queue: only its state changes in the core. -/
theorem core_setShard_of_queue (s : σ) {sb : ShardBuffer} (hqueue : sb.queue = (b.buffers s).queue) :
    (b.setShard s sb).core = { b.core with states := Function.update b.core.states s sb.state } := by
  simp only [Buffer.core, Buffer.setShard, states_update, queues_update, hqueue,
    Function.update_eq_self]

/-- A shard buffer with its old state and queue leaves the core. -/
theorem core_setShard_of_eq (s : σ) {sb : ShardBuffer} (hstate : sb.state = (b.buffers s).state)
    (hqueue : sb.queue = (b.buffers s).queue) : (b.setShard s sb).core = b.core := by
  simp only [Buffer.core, Buffer.setShard, states_update, queues_update, hstate, hqueue,
    Function.update_eq_self]

end Buffer

variable {cfg : Config} {b : Buffer σ} {ts : List (Goroutine σ)}

/-- Recording a primary leaves the state. -/
theorem ShardBuffer.recordPrimary_state (sb : ShardBuffer) (tabletAlias : Option TabletAlias)
    (now : Int) : (sb.recordPrimary tabletAlias now).state = sb.state := by
  unfold ShardBuffer.recordPrimary
  split_ifs <;> rfl

/-- Recording a primary leaves the queue. -/
theorem ShardBuffer.recordPrimary_queue (sb : ShardBuffer) (tabletAlias : Option TabletAlias)
    (now : Int) : (sb.recordPrimary tabletAlias now).queue = sb.queue := by
  unfold ShardBuffer.recordPrimary
  split_ifs <;> rfl

/-- The goroutines the outside world starts hold nothing. -/
theorem Goroutine.fromOutside_passive {t : Goroutine σ} (ht : t.fromOutside = true) : t.Passive := by
  cases t <;> first | exact ⟨rfl, rfl⟩ | cases ht

/-- The `select` of `wait` leaves goroutines that hold nothing. -/
theorem wait_passive (e : Nat) (pickCtx : Bool) : ∀ t ∈ wait b e pickCtx, t.Passive := by
  unfold wait
  split
  · exact nofun
  · split_ifs <;> simp only [List.mem_singleton, forall_eq] <;> exact ⟨rfl, rfl⟩

variable [DecidableEq σ]

/-- `bufferRequestLocked` on a buffering shard: a slot taken, or the oldest entry evicted for
the new one, or nothing when the buffer is full and the queue empty. -/
theorem bufferRequestLocked_inv {s : σ} {q : List Nat} (h : Inv cfg b.core ts)
    (hq : (b.buffers s).queue = some q) :
    Inv cfg (bufferRequestLocked b s).1.core ((bufferRequestLocked b s).2.2 ++ ts) := by
  by_cases hslot : 0 < b.bufferSizeSema.slots
  · have hcore : (bufferRequestLocked b s).1.core = b.core.push s q := by
      simp only [bufferRequestLocked, Semaphore.tryAcquire, hslot, if_true, hq, Option.getD_some]
      simp only [Buffer.core, Buffer.setShard, Core.push, Core.appendEntry, Core.mk.injEq,
        List.map_append, List.length_map, List.map_cons, List.map_nil, true_and, Buffer.states_update,
        Buffer.queues_update, Function.update_eq_self]
      rfl
    have hthreads : (bufferRequestLocked b s).2.2 = [] := by
      simp only [bufferRequestLocked, Semaphore.tryAcquire, hslot, if_true]
    rw [hcore, hthreads]
    exact h.push hq hslot
  · cases q with
    | nil =>
      have hres : bufferRequestLocked b s = (b, .error .bufferFull, []) := by
        simp only [bufferRequestLocked, Semaphore.tryAcquire, hslot, if_false, hq, Option.getD_some,
          Bool.false_eq_true]
      rw [hres]
      exact h
    | cons o r =>
      have hcore : (bufferRequestLocked b s).1.core = b.core.evictFull s o r := by
        simp only [bufferRequestLocked, Semaphore.tryAcquire, hslot, if_false, hq, Option.getD_some,
          Bool.false_eq_true]
        rw [Core.evictFull, ← Buffer.core_unblock _ _ _ (some .entryEvicted)]
        simp only [Buffer.core, Buffer.setShard, Core.appendEntry, Core.mk.injEq,
          List.map_append, List.length_map, true_and, Buffer.states_update,
          Buffer.queues_update, Function.update_eq_self, Buffer.unblock, List.length_modify]
        rfl
      have hthreads : (bufferRequestLocked b s).2.2 = [.waitForRequestFinish o false] := by
        simp only [bufferRequestLocked, Semaphore.tryAcquire, hslot, if_false, hq, Option.getD_some,
          Bool.false_eq_true]
      rw [hcore, hthreads]
      exact (h.evictFull hq).cons_passive ⟨rfl, rfl⟩

/-- The end of `waitForFailoverEnd`: a buffered request waits. -/
theorem bufferRequestLocked_wait_inv {s : σ} {q : List Nat} (h : Inv cfg b.core ts)
    (hq : (b.buffers s).queue = some q) :
    Inv cfg (match bufferRequestLocked b s with
        | (b, .ok e, started) => (b, Goroutine.wait e :: started)
        | (b, .error _, started) => (b, started)).1.core
      ((match bufferRequestLocked b s with
        | (b, .ok e, started) => (b, Goroutine.wait e :: started)
        | (b, .error _, started) => (b, started)).2 ++ ts) := by
  have hb := bufferRequestLocked_inv h hq
  split
  · next b' e started heq =>
    rw [heq] at hb
    exact hb.cons_passive ⟨rfl, rfl⟩
  · next b' err started heq =>
    rw [heq] at hb
    exact hb

/-- `waitForFailoverEnd` keeps the invariant. -/
theorem waitForFailoverEnd_inv (h : Inv cfg b.core ts) (s : σ) (failoverDetected : Bool)
    (now : Int) :
    Inv cfg (waitForFailoverEnd cfg b s failoverDetected now).1.core
      ((waitForFailoverEnd cfg b s failoverDetected now).2 ++ ts) := by
  have hstart : (b.buffers s).state = .idle →
      (b.setShard s (b.buffers s).startBufferingLocked).core = b.core.start s := fun _ => by
    rw [Buffer.core_setShard]
    rfl
  unfold waitForFailoverEnd
  dsimp only
  split_ifs with hmode hshould hrecent hdry hidle hidle
  · exact h
  · exact h
  · exact h
  · rw [hstart hidle]
    exact h.start hidle
  · exact h
  · have h1 := h.start hidle
    rw [← hstart hidle] at h1
    exact bufferRequestLocked_wait_inv (q := []) h1
      (by simp only [Buffer.setShard, Function.update_self, ShardBuffer.startBufferingLocked])
  · -- the shard is buffering already, so it has a queue
    have hbuf : (b.buffers s).state = .buffering := by
      revert hshould hidle
      cases (b.buffers s).state <;> simp [shouldBufferLocked]
    obtain ⟨q, hq⟩ := Option.isSome_iff_exists.mp ((h.state s).mp hbuf)
    exact bufferRequestLocked_wait_inv h hq
/-- Goroutines that hold nothing can start together. -/
theorem Inv.append_passive {k : Core σ} {new : List (Goroutine σ)} (h : Inv cfg k ts)
    (hnew : ∀ t ∈ new, t.Passive) : Inv cfg k (new ++ ts) := by
  induction new with
  | nil => exact h
  | cons t new ih =>
    exact (ih fun t' ht' => hnew t' (List.mem_cons_of_mem t ht')).cons_passive
      (hnew t List.mem_cons_self)

/-- `remove` keeps the invariant. -/
theorem remove_inv (h : Inv cfg b.core ts) (e : Nat) :
    Inv cfg (remove b e).1.core ((remove b e).2 ++ ts) := by
  unfold remove
  split
  · exact h
  · next x hx =>
    dsimp only
    split
    · exact h
    · next queue hq =>
      split_ifs with he
      · have hcore : (((b.setShard x.shard { b.buffers x.shard with queue := some (queue.erase e) }).cancelBuffer
            e).unblock e .evictedContextDone none).core =
            b.core.unblockQueued x.shard queue e .evictedContextDone := by
          rw [Buffer.core_unblock, Buffer.core_cancelBuffer, Buffer.core_setShard_of_state _ _ ?_]
          all_goals rfl
        rw [hcore]
        exact h.unblockQueued hq he _
      · exact h
/-- `waitForRequestFinish` keeps the invariant. -/
theorem waitForRequestFinish_inv {e : Nat} {releaseSlot : Bool} {rest : List (Goroutine σ)}
    (h : Inv cfg b.core (.waitForRequestFinish e releaseSlot :: rest)) :
    Inv cfg (waitForRequestFinish cfg b e releaseSlot).1.core
      ((waitForRequestFinish cfg b e releaseSlot).2 ++ rest) := by
  unfold waitForRequestFinish
  split_ifs with hdone hrel
  · exact h
  · -- `releaseSlot` is false: the slot went to another entry
    simp only [Bool.not_eq_true'] at hrel
    subst hrel
    exact h.erase_passive ⟨rfl, rfl⟩
  · simp only [Bool.not_eq_true', Bool.not_eq_false] at hrel
    subst hrel
    split
    · next b' hb' =>
      rw [Buffer.core_of_releaseSlot b hb']
      exact h.releaseFinish
    · exact h

/-- `drain` keeps the invariant. -/
theorem drain_inv {s : σ} {q : List Nat} {err : Option BufferError} {w : Option Nat}
    {rest : List (Goroutine σ)} (h : Inv cfg b.core (.drain s q err w :: rest)) :
    Inv cfg (drain cfg b s q err w).1.core ((drain cfg b s q err w).2 ++ rest) := by
  cases w with
  | some e =>
    rw [drain]
    split_ifs with hdone
    · exact h
    · split
      · next b' hb' =>
        rw [Buffer.core_of_releaseSlot b hb']
        exact h.releaseDrain
      · exact h
  | none =>
    cases q with
    | cons e q =>
      show Inv cfg (b.unblock e .drained err).core (.drain s q err (some e) :: rest)
      rw [Buffer.core_unblock]
      exact h.drainNext
    | nil =>
      show Inv cfg (b.setShard s { b.buffers s with state := .idle }).core rest
      rw [Buffer.core_setShard_of_queue _ _ ?_]
      · exact h.drainEnd
      · rfl

/-- `evictOldestEntry` keeps the invariant. -/
theorem evictOldestEntry_inv (h : Inv cfg b.core ts) (s : σ) (e : Nat) :
    Inv cfg (evictOldestEntry b s e).1.core ((evictOldestEntry b s e).2 ++ ts) := by
  unfold evictOldestEntry
  dsimp only
  split
  · next oldest rest' hq =>
    split_ifs with he
    · subst he
      have hcore : ((b.unblock e .evictedWindowExceeded none).setShard s
          { b.buffers s with queue := some rest' }).core =
          b.core.unblockQueued s (e :: rest') e .evictedWindowExceeded := by
        rw [Buffer.core_setShard_of_state _ _ ?_, Buffer.core_unblock]
        · simp only [Core.unblockQueued, List.erase_cons_head]
          rfl
        · rfl
      rw [hcore]
      exact h.unblockQueued hq List.mem_cons_self _
    · exact h
  · exact h

/-- `stopBufferingLocked` keeps the invariant. -/
theorem stopBufferingLocked_inv (h : Inv cfg b.core ts) (s : σ) (reason : StopReason) (now : Int) :
    Inv cfg (stopBufferingLocked b s reason now).1.core ((stopBufferingLocked b s reason now).2 ++ ts) := by
  unfold stopBufferingLocked
  dsimp only
  by_cases hbuf : (b.buffers s).state = .buffering
  · obtain ⟨q, hq⟩ := Option.isSome_iff_exists.mp ((h.state s).mp hbuf)
    rw [if_neg (not_not.mpr hbuf)]
    dsimp only
    have hq' : (b.buffers s).queue = some q := hq
    rw [Buffer.core_setShard, hq', Option.getD_some]
    exact h.stop hq _
  · rw [if_pos hbuf]
    exact h

/-- `recordKeyspaceEvent` keeps the invariant. -/
theorem recordKeyspaceEvent_inv (h : Inv cfg b.core ts) (s : σ) (tabletAlias : Option TabletAlias)
    (stillServing : Bool) (now : Int) :
    Inv cfg (recordKeyspaceEvent b s tabletAlias stillServing now).1.core
      ((recordKeyspaceEvent b s tabletAlias stillServing now).2 ++ ts) := by
  have hcore : (b.setShard s ((b.buffers s).recordPrimary tabletAlias now)).core = b.core :=
    Buffer.core_setShard_of_eq b s (ShardBuffer.recordPrimary_state ..)
      (ShardBuffer.recordPrimary_queue ..)
  exact stopBufferingLocked_inv (hcore ▸ h) s _ now

/-- `recordExternallyReparentedTimestamp` keeps the invariant. -/
theorem recordExternallyReparentedTimestamp_inv (h : Inv cfg b.core ts) (s : σ) (timestamp : Int)
    (tabletAlias : Option TabletAlias) (now : Int) :
    Inv cfg (recordExternallyReparentedTimestamp b s timestamp tabletAlias now).1.core
      ((recordExternallyReparentedTimestamp b s timestamp tabletAlias now).2 ++ ts) := by
  unfold recordExternallyReparentedTimestamp
  dsimp only
  split_ifs
  · exact h
  · have hcore : (b.setShard s ({ b.buffers s with externallyReparented := timestamp }.recordPrimary
        tabletAlias now)).core = b.core :=
      Buffer.core_setShard_of_eq b s (ShardBuffer.recordPrimary_state ..)
        (ShardBuffer.recordPrimary_queue ..)
    exact stopBufferingLocked_inv (hcore ▸ h) s _ now

/-- **Every step keeps the invariant**, by the goroutine that takes it. -/
theorem step_inv {t : Goroutine σ} {rest : List (Goroutine σ)} (h : Inv cfg b.core (t :: rest))
    (w : World) : Inv cfg (step cfg b t w).1.core ((step cfg b t w).2 ++ rest) := by
  cases t with
  | waitForFailoverEnd s failoverDetected =>
    exact waitForFailoverEnd_inv (h.erase_passive ⟨rfl, rfl⟩) s failoverDetected w.now
  | wait e => exact (h.erase_passive ⟨rfl, rfl⟩).append_passive (wait_passive e w.pickCtx)
  | remove e => exact remove_inv (h.erase_passive ⟨rfl, rfl⟩) e
  | retryDone e =>
    show Inv cfg (b.cancelBuffer e).core rest
    rw [Buffer.core_cancelBuffer]
    exact h.erase_passive ⟨rfl, rfl⟩
  | waitForRequestFinish e releaseSlot => exact waitForRequestFinish_inv h
  | drain s q err waiting => exact drain_inv h
  | cancelContext e =>
    show Inv cfg ({ b.cancelBuffer e with
      entries := (b.cancelBuffer e).entries.modify e fun x => { x with ctxDone := true } }).core rest
    rw [Buffer.core_cancelContext]
    exact h.erase_passive ⟨rfl, rfl⟩
  | evictOldestEntry s e => exact evictOldestEntry_inv (h.erase_passive ⟨rfl, rfl⟩) s e
  | recordExternallyReparentedTimestamp s timestamp tabletAlias =>
    exact recordExternallyReparentedTimestamp_inv (h.erase_passive ⟨rfl, rfl⟩) s timestamp
      tabletAlias w.now
  | recordKeyspaceEvent s tabletAlias stillServing =>
    exact recordKeyspaceEvent_inv (h.erase_passive ⟨rfl, rfl⟩) s tabletAlias stillServing w.now
  | stopBufferingDueToMaxDuration s =>
    exact stopBufferingLocked_inv (h.erase_passive ⟨rfl, rfl⟩) s _ w.now
  | shutdown s => exact stopBufferingLocked_inv (h.erase_passive ⟨rfl, rfl⟩) s _ w.now

/-- An initial buffer, with no goroutine, has the invariant. -/
theorem Buffer.Initial.inv (hb : b.Initial cfg) : Inv cfg b.core [] := by
  obtain ⟨hslots, hacquired, hreleased, hentries, hshards⟩ := hb
  have hnone : ∀ e : Nat, b.core.entries[e]? = none := fun e => by
    simp only [Buffer.core, hentries, List.map_nil, List.getElem?_nil]
  have hqueue : ∀ s, b.core.queues s = none := fun s => by
    show (b.buffers s).queue = none
    rw [hshards s]
    rfl
  have hstate : ∀ s, b.core.states s = .idle := fun s => by
    show (b.buffers s).state = .idle
    rw [hshards s]
    rfl
  refine ⟨⟨?_, ?_, ?_, nofun, fun _ => Nat.zero_le 1, ?_⟩, ?_, ?_⟩
  · intro e c hc
    simp only [Core.closesOf, hnone, Option.map_none, reduceCtorEq] at hc
  · intro e c hc
    simp only [Core.closesOf, hnone, Option.map_none, reduceCtorEq] at hc
  · intro s q hq
    rw [hqueue s] at hq
    cases hq
  · intro s
    simp only [hstate s, hqueue s, reduceCtorEq, Option.isSome_none, Bool.false_eq_true]
  · show b.bufferSizeSema.slots + (b.entries.map _).countP _ + 0 = cfg.size
    rw [hentries, hslots]
    rfl
  · show b.bufferSizeSema.slots + b.acquired = cfg.size + b.released
    rw [hslots, hacquired, hreleased]

/-- A configuration reached from an initial buffer with no goroutine, by any schedule in which
the outside world starts only requests, cancellations, the timeout thread's calls and the
health-check callbacks. -/
def Reachable (cfg : Config) (c : Interleaving.Config (Buffer σ) (Goroutine σ)) : Prop :=
  ∃ (b : Buffer σ) (es : List (Interleaving.Event (Goroutine σ) World)), b.Initial cfg ∧
    (∀ t, Interleaving.Event.spawn t ∈ es → t.fromOutside = true) ∧
    c = (⟨b, []⟩ : Interleaving.Config (Buffer σ) (Goroutine σ)).run (step cfg) es

/-- **Every reachable configuration has the invariant.** -/
theorem Reachable.inv {c : Interleaving.Config (Buffer σ) (Goroutine σ)} (hc : Reachable cfg c) :
    Inv cfg c.shared.core c.threads := by
  obtain ⟨b, es, hb, hes, rfl⟩ := hc
  exact Interleaving.run_invariant_perm
    (fun (g : Buffer σ) (ts : List (Goroutine σ)) => Inv cfg g.core ts)
    (fun t => t.fromOutside = true) (fun _ _ _ hp h => h.perm hp)
    (fun _ _ _ ht h => h.cons_passive (Goroutine.fromOutside_passive ht))
    (fun _ _ _ w h => step_inv h w) es ⟨b, []⟩ hes hb.inv

/-- What every interleaving of the buffer is to keep, read on the buffer itself. -/
structure Safe (cfg : Config) (c : Interleaving.Config (Buffer σ) (Goroutine σ)) : Prop where
  /-- `done` is closed at most once, by one unblocker. -/
  closes_le : ∀ (e : Nat) (x : Entry σ), c.shared.entries[e]? = some x → x.closes.length ≤ 1
  /-- `done` is open exactly while the entry waits in its shard's queue or in the list of its
  shard's drain. -/
  closes_eq_nil : ∀ (e : Nat) (x : Entry σ), c.shared.entries[e]? = some x →
    (x.closes = [] ↔ (∃ q, (c.shared.buffers x.shard).queue = some q ∧ e ∈ q) ∨
      ∃ q err w, Goroutine.drain x.shard q err w ∈ c.threads ∧ e ∈ q)
  /-- The free slots, the open entries and the goroutines still to release make `Size`. -/
  slots : c.shared.bufferSizeSema.slots +
    c.shared.entries.countP (fun x : Entry σ => x.closes.isEmpty) +
    c.threads.countP Goroutine.releasesSlot = cfg.size
  /-- `Release` has not been called more often than `TryAcquire` succeeded. -/
  released_le : c.shared.released ≤ c.shared.acquired
  /-- A goroutine about to release finds a slot taken, so `Release` never blocks. -/
  release_lt : ∀ t ∈ c.threads, t.releasesSlot = true → c.shared.bufferSizeSema.slots < cfg.size

/-- **What every interleaving of the buffer keeps**, from the invariant. -/
theorem buffer_unblocks_and_slots {c : Interleaving.Config (Buffer σ) (Goroutine σ)}
    (hc : Reachable cfg c) : Safe cfg c := by
  have h := hc.inv
  have hopen : c.shared.core.openCount = c.shared.entries.countP (fun x => x.closes.isEmpty) := by
    simp only [Core.openCount, Buffer.core, List.countP_map]
    rfl
  have hslots : c.shared.bufferSizeSema.slots + c.shared.entries.countP (fun x => x.closes.isEmpty) +
      c.threads.countP Goroutine.releasesSlot = cfg.size := hopen ▸ h.slots
  have hcounts : c.shared.bufferSizeSema.slots + c.shared.acquired = cfg.size + c.shared.released :=
    h.counts
  refine ⟨fun e x hx => h.closes_le e _ (Buffer.core_entry _ hx).2, fun e x hx => ?_, hslots,
    by omega, fun t ht hrel => ?_⟩
  · obtain ⟨hshard, hcloses⟩ := Buffer.core_entry _ hx
    refine (h.closes_eq_nil e _ hcloses).trans ⟨?_, fun hwait => ⟨x.shard, hshard, hwait⟩⟩
    rintro ⟨s, hs, hwait⟩
    rw [hshard, Option.some.injEq] at hs
    subst hs
    exact hwait
  · have hpos : 0 < c.threads.countP Goroutine.releasesSlot := List.countP_pos_iff.mpr ⟨t, ht, hrel⟩
    omega

/-- A buffer of one slot and one shard, before any request. -/
def oneSlotBuffer : Buffer Unit :=
  { bufferSizeSema := ⟨1⟩, acquired := 0, released := 0,
    buffers := fun _ => newShardBuffer .enabled, entries := [] }

/-- The buffer after a request that saw a failover: buffering starts and the request waits in the
queue, holding the slot. -/
def oneRequest : Interleaving.Config (Buffer Unit) (Goroutine Unit) :=
  (⟨oneSlotBuffer, []⟩ : Interleaving.Config (Buffer Unit) (Goroutine Unit)).run (step ⟨1, 0⟩)
    [.spawn (.waitForFailoverEnd () true), .step 0 ⟨0, false⟩]

example : oneRequest.threads = [.wait 0] ∧ oneRequest.shared.bufferSizeSema.slots = 0 := ⟨rfl, rfl⟩

theorem buffer_unblocks_and_slots_oneRequest :
    Reachable ⟨1, 0⟩ oneRequest ∧ Safe ⟨1, 0⟩ oneRequest :=
  have hreach : Reachable ⟨1, 0⟩ oneRequest :=
    ⟨oneSlotBuffer, _, ⟨rfl, rfl, rfl, rfl, fun _ => rfl⟩, fun t ht => by
      simp only [List.mem_cons, Interleaving.Event.spawn.injEq, reduceCtorEq, List.not_mem_nil,
        or_false] at ht
      subst ht
      rfl, rfl⟩
  ⟨hreach, buffer_unblocks_and_slots hreach⟩
/-- The same request, after which buffering stops for the maximal failover duration: its entry
goes to the drain's list, out of the queue, and is not yet unblocked. -/
def stoppedRequest : Interleaving.Config (Buffer Unit) (Goroutine Unit) :=
  oneRequest.run (step ⟨1, 0⟩) [.spawn (.stopBufferingDueToMaxDuration ()), .step 1 ⟨0, false⟩]

/-- The slot of a request whose queue a drain took is held by no queued entry and by no
unblocked one. -/
theorem buffer_slots_held_by_drain :
    Reachable ⟨1, 0⟩ stoppedRequest ∧ stoppedRequest.shared.bufferSizeSema.slots = 0 ∧
      (stoppedRequest.shared.buffers ()).queue = none ∧
      stoppedRequest.shared.entries.map Entry.closes = [[]] ∧
      stoppedRequest.threads = [.wait 0, .drain () [0] none none] := by
  refine ⟨⟨oneSlotBuffer, [.spawn (.waitForFailoverEnd () true), .step 0 ⟨0, false⟩,
    .spawn (.stopBufferingDueToMaxDuration ()), .step 1 ⟨0, false⟩],
    ⟨rfl, rfl, rfl, rfl, fun _ => rfl⟩, fun t ht => ?_, rfl⟩, rfl, rfl, rfl, rfl⟩
  simp only [List.mem_cons, Interleaving.Event.spawn.injEq, reduceCtorEq, List.not_mem_nil,
    or_false, false_or] at ht
  rcases ht with rfl | rfl <;> rfl

end Wescale.Vtgate.Buffer
