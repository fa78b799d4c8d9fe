import Mathlib
import Wescale.Tabletserver.Ccl

/-!
# What one step of the concurrency controller does

Besides the requests' steps of `Wescale.Tabletserver.Ccl`, `resizeQueue` may run on any queue
(the tests call it directly): it takes the new limits and, when `maxConcurrency` grows, hands a
slot to as many waiters as it grew by (`drainWaiters`). An `Action` is either.

A request holds a place in a queue (`Pc.place`) from the increment of `size` in `lockLocked`
to the `unlockLocked` of its give-up or its `DoneFunc`; `State.places` counts them.

`Effect` says once what an action can do: move a request on, make a queue, count a request in
(`enter`), take one out while handing slots to waiters from the front of the list (`leave`,
whose `unlockLocked` is a `Releases`), or resize (`resize`, also a `Releases`). Every action from
a state of the right shape (`State.Shape`) is one of these (`State.Shape.act_effect`), and every
proof about runs goes through it.
-/

set_option autoImplicit false

namespace Wescale.Tabletserver.Ccl

/-! ## `resizeQueue` -/

/-- The loop of `resizeQueue` over the waiting channels: receive from up to `delta` open
channels, front first, dropping the closed ones. Gives the state with those waiters handed a
slot, how many there were, and the channels left. -/
def drainWaiters (addr : Nat) : Nat → State → List Nat → State × Nat × List Nat
  | 0, s, l => (s, 0, l)
  | _ + 1, s, [] => (s, 0, [])
  | delta + 1, s, r :: rest =>
    match s.pcOf r with
    | .waiting _ =>
      let (s, n, l) := drainWaiters addr delta (s.setPc r (.handedOff addr)) rest
      (s, n + 1, l)
    | _ => drainWaiters addr (delta + 1) s rest

/-- `resizeQueue` on the queue at `addr`, under the mutex. -/
def resizeQueue (s : State) (addr : Nat) (newMaxQueueSize newMaxConcurrency : Int) : State :=
  match s.heap[addr]? with
  | none => s
  | some q =>
    let q := { q with maxQueueSize := newMaxQueueSize }
    if newMaxConcurrency > q.maxConcurrency then
      let (s, n, rest) :=
        drainWaiters addr (newMaxConcurrency - q.maxConcurrency).toNat s q.waitingRequest
      s.setQueue addr
        { q with onTheFlySize := q.onTheFlySize + n, waitingRequest := rest,
                 maxConcurrency := newMaxConcurrency }
    else
      s.setQueue addr { q with maxConcurrency := newMaxConcurrency }

/-- What can happen next: a request's step, or `resizeQueue` of the queue at an address. -/
inductive Action where
  | event (e : Event)
  | resizeQueue (addr : Nat) (newMaxQueueSize newMaxConcurrency : Int)
  deriving DecidableEq, Repr

section Controller

variable (maxGlobalQueueSize : Int)

/-- One action; `none` when a request cannot take the step. -/
def act (s : State) : Action → Option State
  | .event e => step maxGlobalQueueSize s e
  | .resizeQueue addr newMaxQueueSize newMaxConcurrency =>
    some (resizeQueue s addr newMaxQueueSize newMaxConcurrency)

/-- A run of actions, one after the other. -/
def runActions (s : State) (actions : List Action) : Option State :=
  actions.foldlM (act maxGlobalQueueSize) s

end Controller

/-! ## Places -/

/-- The queue whose `size` counts the request: from the increment in `lockLocked` to the
`unlockLocked` of its give-up or its `DoneFunc`. -/
def Pc.place : Pc → Option Nat
  | .waiting q | .handedOff q | .cancelled q | .admitted q => some q
  | _ => none

/-- The queue the request holds. -/
def Pc.queue : Pc → Option Nat
  | .gotQueue q | .waiting q | .handedOff q | .cancelled q | .admitted q => some q
  | _ => none

/-- Before `Wait` queued the request: its channel is in no list. -/
def Pc.beforeWait : Pc → Bool
  | .start | .gotQueue _ => true
  | _ => false

theorem Pc.queue_of_place {pc : Pc} {addr : Nat} (h : pc.place = some addr) :
    pc.queue = some addr := by
  cases pc <;> simp_all [place, queue]

namespace State

/-- The requests with a place in the queue at `addr`. -/
def places (s : State) (addr : Nat) : Nat := s.requests.countP fun req => req.pc.place = some addr

/-- The requests with a place in some queue. -/
def placed (s : State) : Nat := s.requests.countP fun req => req.pc.place.isSome

variable (s : State)

@[simp] theorem places_mk (queues : List (String × Nat)) (heap : List Queue)
    (currentGlobalSize : Int) (addr : Nat) :
    (State.mk queues heap currentGlobalSize s.requests).places addr = s.places addr := rfl

@[simp] theorem placed_mk (queues : List (String × Nat)) (heap : List Queue)
    (currentGlobalSize : Int) : (State.mk queues heap currentGlobalSize s.requests).placed = s.placed :=
  rfl

@[simp] theorem places_setQueue (addr : Nat) (q : Queue) (b : Nat) :
    (s.setQueue addr q).places b = s.places b := rfl

@[simp] theorem placed_setQueue (addr : Nat) (q : Queue) : (s.setQueue addr q).placed = s.placed :=
  rfl

/-- Counting over a list in which one element is changed. -/
private theorem countP_modify_add {α : Type} (p : α → Bool) (f : α → α) (l : List α) {i : Nat}
    (hi : i < l.length) :
    (l.modify i f).countP p + (if p l[i] then 1 else 0) = l.countP p + (if p (f l[i]) then 1 else 0) := by
  have hpos : (if p l[i] then 1 else 0) ≤ l.countP p := by
    split_ifs with h
    · exact List.countP_pos_iff.mpr ⟨_, List.getElem_mem hi, h⟩
    · exact Nat.zero_le _
  rw [List.modify_eq_set_get f hi, List.countP_set (by simpa using hi)]
  simp only [List.get_eq_getElem]
  omega

private theorem pc_getElem {r : Nat} (hr : r < s.requests.length) : s.requests[r].pc = s.pcOf r := by
  simp [pcOf, List.getElem?_eq_getElem hr]

theorem places_setPc {r : Nat} (hr : r < s.requests.length) (pc : Pc) (addr : Nat) :
    (s.setPc r pc).places addr + (if (s.pcOf r).place = some addr then 1 else 0) =
      s.places addr + (if pc.place = some addr then 1 else 0) := by
  have h := countP_modify_add (fun req : Request => decide (req.pc.place = some addr))
    (fun req => { req with pc := pc }) s.requests hr
  simp only [pc_getElem s hr, decide_eq_true_eq] at h
  exact h

theorem placed_setPc {r : Nat} (hr : r < s.requests.length) (pc : Pc) :
    (s.setPc r pc).placed + (if (s.pcOf r).place.isSome then 1 else 0) =
      s.placed + (if pc.place.isSome then 1 else 0) := by
  have h := countP_modify_add (fun req : Request => req.pc.place.isSome)
    (fun req => { req with pc := pc }) s.requests hr
  simp only [pc_getElem s hr] at h
  exact h

/-- Two states whose requests sit at places alike count alike. -/
private theorem map_place_eq {s s' : State} (hlen : s'.requests.length = s.requests.length)
    (h : ∀ r, (s'.pcOf r).place = (s.pcOf r).place) :
    s'.requests.map (fun req => req.pc.place) = s.requests.map (fun req => req.pc.place) := by
  apply List.ext_getElem (by simp [hlen])
  intro i h₁ h₂
  have hi := h i
  simp only [List.length_map] at h₁ h₂
  simp only [List.getElem_map, ← pc_getElem s' h₁, ← pc_getElem s h₂] at hi ⊢
  exact hi

theorem places_eq_of_place_eq {s s' : State} (hlen : s'.requests.length = s.requests.length)
    (h : ∀ r, (s'.pcOf r).place = (s.pcOf r).place) (addr : Nat) : s'.places addr = s.places addr := by
  have hmap := map_place_eq hlen h
  have hp (t : State) : t.places addr =
      (t.requests.map fun req => req.pc.place).countP fun o => o = some addr := by
    rw [List.countP_map]; rfl
  rw [hp, hp, hmap]

theorem placed_eq_of_place_eq {s s' : State} (hlen : s'.requests.length = s.requests.length)
    (h : ∀ r, (s'.pcOf r).place = (s.pcOf r).place) : s'.placed = s.placed := by
  have hmap := map_place_eq hlen h
  have hp (t : State) : t.placed = (t.requests.map fun req => req.pc.place).countP Option.isSome := by
    rw [List.countP_map]; rfl
  rw [hp, hp, hmap]

/-- No request has a place in a queue that no request holds. -/
theorem places_eq_zero {addr : Nat} (h : ∀ r, (s.pcOf r).place ≠ some addr) : s.places addr = 0 := by
  refine List.countP_eq_zero.mpr fun req hreq => ?_
  obtain ⟨i, hi, rfl⟩ := List.getElem_of_mem hreq
  simpa [pc_getElem s hi] using h i

end State

/-! ## Handing slots to waiters -/

/-- `s'` is `s` with some requests of `l` that wait on the queue at `addr` handed a slot. -/
structure HandsOff (addr : Nat) (l : List Nat) (s s' : State) : Prop where
  length_eq : s'.requests.length = s.requests.length
  pcOf_eq : ∀ r, s'.pcOf r = s.pcOf r ∨ r ∈ l ∧ s.pcOf r = .waiting addr ∧ s'.pcOf r = .handedOff addr

namespace HandsOff

variable {addr : Nat} {l l' : List Nat} {s s' s'' : State}

theorem of_requests_eq (h : s'.requests = s.requests) : HandsOff addr l s s' :=
  ⟨by rw [h], fun r => .inl (by simp only [State.pcOf, h])⟩

theorem trans (h₁ : HandsOff addr l s s') (h₂ : HandsOff addr l' s' s'') :
    HandsOff addr (l ++ l') s s'' := by
  refine ⟨h₂.length_eq.trans h₁.length_eq, fun r => ?_⟩
  rcases h₁.pcOf_eq r with e₁ | ⟨hl, hw, e₁⟩ <;> rcases h₂.pcOf_eq r with e₂ | ⟨hl', hw', e₂⟩
  · exact .inl (e₂.trans e₁)
  · exact .inr ⟨List.mem_append_right l hl', e₁ ▸ hw', e₂⟩
  · exact .inr ⟨List.mem_append_left l' hl, hw, e₂.trans e₁⟩
  · -- a request handed a slot does not wait any more
    rw [e₁] at hw'
    cases hw'

/-- One more waiter handed a slot. -/
theorem setPc (h : HandsOff addr l s s') {r : Nat} (hr : s'.pcOf r = .waiting addr) :
    HandsOff addr (l ++ [r]) s (s'.setPc r (.handedOff addr)) := by
  have hlt := s'.lt_length_of_pcOf_ne_finished (by rw [hr]; simp : s'.pcOf r ≠ .finished)
  refine h.trans ⟨by simp, fun r' => ?_⟩
  rw [State.pcOf_setPc]
  by_cases h : r = r'
  · subst h
    exact .inr ⟨List.mem_singleton_self r, hr, by simp [hlt]⟩
  · exact .inl (by simp [h])

theorem setQueue (h : HandsOff addr l s s') (b : Nat) (q : Queue) :
    HandsOff addr l s (s'.setQueue b q) :=
  ⟨by simpa using h.length_eq, fun r => by simpa using h.pcOf_eq r⟩

theorem mono (h : HandsOff addr l s s') (hl : l ⊆ l') : HandsOff addr l' s s' :=
  ⟨h.length_eq, fun r => (h.pcOf_eq r).imp_right fun ⟨hr, h'⟩ => ⟨hl hr, h'⟩⟩

theorem place_eq (h : HandsOff addr l s s') (r : Nat) : (s'.pcOf r).place = (s.pcOf r).place := by
  rcases h.pcOf_eq r with e | ⟨-, hw, e⟩
  · rw [e]
  · rw [e, hw]; rfl

theorem places_eq (h : HandsOff addr l s s') (b : Nat) : s'.places b = s.places b :=
  State.places_eq_of_place_eq h.length_eq h.place_eq b

theorem placed_eq (h : HandsOff addr l s s') : s'.placed = s.placed :=
  State.placed_eq_of_place_eq h.length_eq h.place_eq

/-- A waiter after the hand-off waited before it. -/
theorem waiting_of (h : HandsOff addr l s s') {r a : Nat} (hr : s'.pcOf r = .waiting a) :
    s.pcOf r = .waiting a := by
  rcases h.pcOf_eq r with e | ⟨-, -, e⟩
  · rw [← e, hr]
  · rw [e] at hr; cases hr

theorem not_waiting (h : HandsOff addr l s s') {r : Nat} (hr : ∀ a, s.pcOf r ≠ .waiting a) (a : Nat) :
    s'.pcOf r ≠ .waiting a := fun hw => hr a (h.waiting_of hw)

end HandsOff

/-- The first open channel of the list: the channels before it are closed. -/
theorem releaseWaiter_some {s : State} {l rest : List Nat} {r : Nat}
    (h : releaseWaiter s l = (some r, rest)) :
    ∃ pre, l = pre ++ r :: rest ∧ (∀ x ∈ pre, ∀ a, s.pcOf x ≠ .waiting a) ∧
      ∃ a, s.pcOf r = .waiting a := by
  induction l with
  | nil => cases h
  | cons x l ih =>
    simp only [releaseWaiter] at h
    split at h
    · case h_1 a hx =>
      simp only [Prod.mk.injEq, Option.some.injEq] at h
      obtain ⟨rfl, rfl⟩ := h
      exact ⟨[], rfl, by simp, a, hx⟩
    · case h_2 hx =>
      obtain ⟨pre, rfl, hpre, hr⟩ := ih h
      refine ⟨x :: pre, rfl, ?_, hr⟩
      simp only [List.mem_cons, forall_eq_or_imp]
      exact ⟨hx, hpre⟩

/-- No open channel: the list is emptied. -/
theorem releaseWaiter_none {s : State} {l rest : List Nat} (h : releaseWaiter s l = (none, rest)) :
    rest = [] ∧ ∀ x ∈ l, ∀ a, s.pcOf x ≠ .waiting a := by
  induction l with
  | nil => exact ⟨(Prod.mk.inj h).2.symm, by simp⟩
  | cons x l ih =>
    simp only [releaseWaiter] at h
    split at h
    · cases h
    · case h_2 hx =>
      obtain ⟨hrest, hl⟩ := ih h
      simp only [List.mem_cons, forall_eq_or_imp]
      exact ⟨hrest, hx, hl⟩

/-- The loop of `resizeQueue` takes a front part of the channels, none of them left open, and
hands a slot to the waiters among them. -/
theorem drainWaiters_spec {addr delta n : Nat} {s s' : State} {l rest : List Nat}
    (hl : ∀ x ∈ l, ∀ a, s.pcOf x = .waiting a → a = addr)
    (h : drainWaiters addr delta s l = (s', n, rest)) :
    s'.heap = s.heap ∧ s'.currentGlobalSize = s.currentGlobalSize ∧
      ∃ pre, l = pre ++ rest ∧ (∀ x ∈ pre, ∀ a, s'.pcOf x ≠ .waiting a) ∧ HandsOff addr pre s s' := by
  induction l generalizing delta n s with
  | nil =>
    cases delta <;>
    · obtain ⟨rfl, -, rfl⟩ := h
      exact ⟨rfl, rfl, [], rfl, by simp, HandsOff.of_requests_eq rfl⟩
  | cons x l ih =>
    cases delta with
    | zero =>
      obtain ⟨rfl, -, rfl⟩ := h
      exact ⟨rfl, rfl, [], rfl, by simp, HandsOff.of_requests_eq rfl⟩
    | succ delta =>
      simp only [drainWaiters] at h
      split at h
      · case h_1 a hx =>
        -- the channel of a waiter: it is handed a slot
        have ha := hl x List.mem_cons_self a hx
        subst ha
        have hoff : HandsOff a [x] s _ := (HandsOff.of_requests_eq (l := []) rfl).setPc hx
        have hl' : ∀ y ∈ l, ∀ b, (s.setPc x (.handedOff a)).pcOf y = .waiting b → b = a := by
          intro y hy b hb
          rw [State.pcOf_setPc] at hb
          split_ifs at hb
          exact hl y (List.mem_cons_of_mem x hy) b hb
        rcases hd : drainWaiters a delta (s.setPc x (.handedOff a)) l with ⟨s₁, n₁, l₁⟩
        rw [hd] at h
        simp only [Prod.mk.injEq] at h
        obtain ⟨rfl, -, rfl⟩ := h
        obtain ⟨hheap, hg, pre, rfl, hpre, hoff'⟩ := ih hl' hd
        refine ⟨hheap, hg, x :: pre, rfl, ?_, hoff.trans hoff'⟩
        simp only [List.mem_cons, forall_eq_or_imp]
        have hlt := s.lt_length_of_pcOf_ne_finished (by rw [hx]; simp : s.pcOf x ≠ .finished)
        refine ⟨hoff'.not_waiting fun b hb => ?_, hpre⟩
        rw [State.pcOf_setPc, if_pos ⟨rfl, hlt⟩] at hb
        cases hb
      · case h_2 hx =>
        -- a closed channel: dropped
        obtain ⟨hheap, hg, pre, rfl, hpre, hoff⟩ :=
          ih (fun y hy => hl y (List.mem_cons_of_mem x hy)) h
        refine ⟨hheap, hg, x :: pre, rfl, ?_, hoff.mono (List.subset_cons_self x pre)⟩
        simp only [List.mem_cons, forall_eq_or_imp]
        exact ⟨hoff.not_waiting hx, hpre⟩

/-! ## The critical sections, said once -/

/-- What `unlockLocked` (`d = 1`) and `resizeQueue` (`d = 0`) do to the queue at `addr`, which
was `q`: its `size` and `currentGlobalSize` lose `d`; it loses a front part `pre` of its
channels, none of them left open, and the waiters among them are handed a slot. -/
structure Releases (addr : Nat) (q : Queue) (d : Int) (s s' : State) : Prop where
  currentGlobalSize_eq : s'.currentGlobalSize = s.currentGlobalSize - d
  queue : ∃ q' pre, s'.heap = s.heap.set addr q' ∧ q'.size = q.size - d ∧
    q.waitingRequest = pre ++ q'.waitingRequest ∧ (∀ x ∈ pre, ∀ a, s'.pcOf x ≠ .waiting a) ∧
    HandsOff addr pre s s'

theorem unlockLocked_releases {s : State} {addr : Nat} {q : Queue} (hq : s.heap[addr]? = some q)
    (hl : ∀ x ∈ q.waitingRequest, ∀ a, s.pcOf x = .waiting a → a = addr) (returnSlot : Bool) :
    Releases addr q 1 s (unlockLocked s addr returnSlot) := by
  simp only [unlockLocked, hq]
  split_ifs with hzero hslot hover
  · -- the last place: the queue leaves the map with its channels
    exact ⟨rfl, { q with size := q.size - 1, onTheFlySize := q.onTheFlySize - 1 }, [], by simp,
      rfl, rfl, by simp, HandsOff.of_requests_eq rfl⟩
  · exact ⟨rfl, { q with size := q.size - 1 }, [], rfl, rfl, rfl, by simp,
      HandsOff.of_requests_eq rfl⟩
  · exact ⟨rfl, { q with size := q.size - 1, onTheFlySize := q.onTheFlySize - 1 }, [], by simp,
      rfl, rfl, by simp, HandsOff.of_requests_eq rfl⟩
  · split
    · case h_1 r rest hrel =>
      -- the first open channel takes the slot
      obtain ⟨pre, hpre, hclosed, a, hw⟩ := releaseWaiter_some hrel
      simp only [State.pcOf_mk, State.pcOf_setQueue] at hclosed hw
      obtain rfl := hl r (by simp [hpre]) a hw
      refine ⟨rfl, { q with size := q.size - 1, waitingRequest := rest }, pre ++ [r], by simp, rfl,
        by simp [hpre], ?_, ((HandsOff.of_requests_eq (by rfl)).setQueue _ _).setPc (by simpa using hw)⟩
      simp only [List.mem_append, List.mem_singleton]
      rintro x (hx | rfl) b
      · rw [State.pcOf_setPc]
        split_ifs
        · simp
        · simpa using hclosed x hx b
      · have hlt := s.lt_length_of_pcOf_ne_finished (by rw [hw]; simp : s.pcOf x ≠ .finished)
        simp [State.pcOf_setPc, hlt]
    · case h_2 rest hrel =>
      -- every channel was closed: the slot goes back
      obtain ⟨rfl, hclosed⟩ := releaseWaiter_none hrel
      simp only [State.pcOf_mk, State.pcOf_setQueue] at hclosed
      refine ⟨rfl, { q with size := q.size - 1, waitingRequest := [], onTheFlySize := q.onTheFlySize - 1 },
        q.waitingRequest, by simp, rfl, by simp, by simpa using hclosed, HandsOff.of_requests_eq rfl⟩

theorem resizeQueue_releases {s : State} {addr : Nat} {q : Queue} (hq : s.heap[addr]? = some q)
    (hl : ∀ x ∈ q.waitingRequest, ∀ a, s.pcOf x = .waiting a → a = addr)
    (newMaxQueueSize newMaxConcurrency : Int) :
    Releases addr q 0 s (resizeQueue s addr newMaxQueueSize newMaxConcurrency) := by
  simp only [resizeQueue, hq]
  split_ifs with hgrow
  · rcases hd : drainWaiters addr (newMaxConcurrency - q.maxConcurrency).toNat s q.waitingRequest
      with ⟨s₁, n, rest⟩
    obtain ⟨hheap, hg, pre, hpre, hclosed, hoff⟩ := drainWaiters_spec hl hd
    exact ⟨by simp [hg],
      { q with
          maxQueueSize := newMaxQueueSize, onTheFlySize := q.onTheFlySize + n,
          waitingRequest := rest, maxConcurrency := newMaxConcurrency },
      pre, by simp [hheap], by simp, hpre, by simpa using hclosed, hoff.setQueue _ _⟩
  · exact ⟨by simp, { q with maxQueueSize := newMaxQueueSize, maxConcurrency := newMaxConcurrency },
      [], rfl, by simp, rfl, by simp, HandsOff.of_requests_eq rfl⟩

theorem getOrCreateQueue_some {s s₁ : State} {key : String} {maxQueueSize maxConcurrency : Int}
    {addr : Nat} (h : getOrCreateQueue s key maxQueueSize maxConcurrency = some (s₁, addr)) :
    s₁ = s ∧ addr < s.heap.length ∨
      s₁ = { s with
        queues := (key, s.heap.length) :: s.queues
        heap := s.heap ++ [newQueue key maxQueueSize maxConcurrency] } ∧ addr = s.heap.length := by
  unfold getOrCreateQueue at h
  cases hk : s.queues.lookup key with
  | none =>
    -- a new queue, with the limits asked for
    right
    simp only [hk, List.getElem?_concat_length, newQueue, ne_eq, not_true_eq_false, or_self,
      if_false, Option.some.injEq, Prod.mk.injEq] at h
    exact ⟨h.1.symm, h.2.symm⟩
  | some a =>
    left
    simp only [hk] at h
    split at h
    · cases h
    · case h_2 q hq =>
      split_ifs at h
      simp only [Option.some.injEq, Prod.mk.injEq] at h
      obtain ⟨rfl, rfl⟩ := h
      exact ⟨rfl, (List.getElem?_eq_some_iff.mp hq).1⟩

theorem lockLocked_cases (maxGlobalQueueSize : Int) {s : State} {addr r : Nat} {q : Queue}
    (hq : s.heap[addr]? = some q) :
    lockLocked maxGlobalQueueSize s addr r = s.setPc r .failed ∨
      ∃ q' pc, q'.size = q.size + 1 ∧
        (pc = .admitted addr ∧ q'.waitingRequest = q.waitingRequest ∨
          pc = .waiting addr ∧ q'.waitingRequest = q.waitingRequest ++ [r]) ∧
        lockLocked maxGlobalQueueSize s addr r =
          ({ s with currentGlobalSize := s.currentGlobalSize + 1 }.setQueue addr q').setPc r pc := by
  simp only [lockLocked, hq]
  split_ifs
  · exact .inl rfl
  · exact .inl rfl
  · exact .inr ⟨{ q with size := q.size + 1, onTheFlySize := q.onTheFlySize + 1 }, _, rfl,
      .inl ⟨rfl, rfl⟩, rfl⟩
  · exact .inr ⟨{ q with size := q.size + 1, waitingRequest := q.waitingRequest ++ [r] }, _, rfl,
      .inr ⟨rfl, rfl⟩, rfl⟩

/-- What one action can do. Every proof about runs goes through `State.Shape.act_effect`. -/
inductive Effect (s : State) : State → Prop where
  /-- nothing -/
  | stay : Effect s s
  /-- a request moves on without taking or giving up a place, to where it does not wait -/
  | move {r : Nat} {pc : Pc} :
      r < s.requests.length → pc.place = (s.pcOf r).place →
      (∀ a, pc.queue = some a → a < s.heap.length) → (∀ a, pc ≠ .waiting a) →
      (∀ a, pc ≠ .handedOff a) → (pc.beforeWait = true → (s.pcOf r).beforeWait = true) →
      Effect s (s.setPc r pc)
  /-- `GetOrCreateQueue` makes the key's queue -/
  | create {r : Nat} (queues : List (String × Nat)) (q : Queue) :
      s.pcOf r = .start → q.size = 0 → q.waitingRequest = [] →
      Effect s (({ s with queues := queues, heap := s.heap ++ [q] } : State).setPc r
        (.gotQueue s.heap.length))
  /-- `lockLocked` counts the request in its queue: admitted, or queued at the back -/
  | enter {r addr : Nat} {q : Queue} (q' : Queue) (pc : Pc) :
      s.pcOf r = .gotQueue addr → s.heap[addr]? = some q → q'.size = q.size + 1 →
      (pc = .admitted addr ∧ q'.waitingRequest = q.waitingRequest ∨
        pc = .waiting addr ∧ q'.waitingRequest = q.waitingRequest ++ [r]) →
      Effect s (({ s with currentGlobalSize := s.currentGlobalSize + 1 }.setQueue addr q').setPc r pc)
  /-- `unlockLocked` for a request that gives up or is done -/
  | leave {r addr : Nat} {q : Queue} {s₁ : State} {pc : Pc} :
      (s.pcOf r = .cancelled addr ∧ pc = .failed ∨ s.pcOf r = .admitted addr ∧ pc = .finished) →
      s.heap[addr]? = some q → Releases addr q 1 s s₁ → Effect s (s₁.setPc r pc)
  /-- `resizeQueue` -/
  | resize {addr : Nat} {q : Queue} {s' : State} :
      s.heap[addr]? = some q → Releases addr q 0 s s' → Effect s s'

/-! ## The invariant -/

/-- Where the requests and the channels are. -/
structure State.Shape (s : State) : Prop where
  /-- a queue a request holds is in the heap -/
  queue_lt : ∀ r addr : Nat, (s.pcOf r).queue = some addr → addr < s.heap.length
  /-- a waiter's channel is in its queue's list -/
  waiting_mem : ∀ r addr : Nat, s.pcOf r = .waiting addr →
    ∃ q : Queue, s.heap[addr]? = some q ∧ r ∈ q.waitingRequest
  /-- an open channel in a queue's list is one of that queue's waiters -/
  mem_waiting : ∀ (addr : Nat) (q : Queue), s.heap[addr]? = some q →
    ∀ r ∈ q.waitingRequest, ∀ a, s.pcOf r = .waiting a → a = addr
  /-- the channels in a list are of requests that `lockLocked` queued -/
  mem_beforeWait : ∀ (addr : Nat) (q : Queue), s.heap[addr]? = some q →
    ∀ r ∈ q.waitingRequest, (s.pcOf r).beforeWait = false
  /-- no list has a channel twice -/
  nodup : ∀ (addr : Nat) (q : Queue), s.heap[addr]? = some q → q.waitingRequest.Nodup

/-- The invariant: the shape, and each queue's `size` and `currentGlobalSize` count places. -/
structure State.Inv (s : State) : Prop extends State.Shape s where
  size_eq : ∀ (addr : Nat) (q : Queue), s.heap[addr]? = some q → q.size = s.places addr
  currentGlobalSize_eq : s.currentGlobalSize = s.placed

section Controller

variable (maxGlobalQueueSize : Int)

/-- **Inversion**: from a state of the right shape, every action is one of the effects. -/
theorem State.Shape.act_effect {s s' : State} (h : s.Shape) {a : Action}
    (ha : act maxGlobalQueueSize s a = some s') : Effect s s' := by
  have hlt {r : Nat} {pc : Pc} (hr : s.pcOf r = pc) (hpc : pc ≠ .finished) :
      r < s.requests.length := s.lt_length_of_pcOf_ne_finished (hr ▸ hpc)
  have hheap {r addr : Nat} {pc : Pc} (hr : s.pcOf r = pc) (hpc : pc.queue = some addr) :
      ∃ q, s.heap[addr]? = some q :=
    ⟨_, List.getElem?_eq_getElem (h.queue_lt r addr (hr ▸ hpc))⟩
  cases a with
  | resizeQueue addr newMaxQueueSize newMaxConcurrency =>
    simp only [act, Option.some.injEq] at ha
    subst ha
    cases hq : s.heap[addr]? with
    | none =>
      rw [show resizeQueue s addr newMaxQueueSize newMaxConcurrency = s by simp [resizeQueue, hq]]
      exact .stay
    | some q => exact .resize hq (resizeQueue_releases hq (h.mem_waiting addr q hq) _ _)
  | event e =>
    cases e with
    | getOrCreateQueue r =>
      simp only [act, step] at ha
      split at ha
      · case h_1 req hr hreq =>
        simp only [Option.map_eq_some_iff, Prod.exists] at ha
        obtain ⟨s₁, addr, hg, rfl⟩ := ha
        rcases getOrCreateQueue_some hg with ⟨rfl, haddr⟩ | ⟨rfl, rfl⟩
        · exact .move (hlt hr (by simp)) (by rw [hr]; rfl) (by simpa [Pc.queue] using haddr)
            (by simp) (by simp) (by simp [Pc.beforeWait, hr])
        · exact .create _ _ hr rfl rfl
      · cases ha
    | wait r =>
      simp only [act, step] at ha
      split at ha
      · case h_1 addr hr =>
        obtain rfl := Option.some.inj ha
        obtain ⟨q, hq⟩ := hheap hr rfl
        rcases lockLocked_cases maxGlobalQueueSize (r := r) hq with e | ⟨q', pc, hsize, hpc, e⟩
        · rw [e]
          exact .move (hlt hr (by simp)) (by rw [hr]; rfl) (by simp [Pc.queue]) (by simp) (by simp)
            (by simp [Pc.beforeWait])
        · rw [e]
          exact .enter q' pc hr hq hsize hpc
      · cases ha
    | cancel r =>
      simp only [act, step] at ha
      split at ha
      · case h_1 addr hr =>
        obtain rfl := Option.some.inj ha
        exact .move (hlt hr (by simp)) (by rw [hr]; rfl)
          (fun a ha => h.queue_lt r a (by rw [hr]; simpa [Pc.queue] using ha)) (by simp) (by simp)
          (by simp [Pc.beforeWait])
      · cases ha
    | giveUp r =>
      simp only [act, step] at ha
      split at ha
      · case h_1 addr hr =>
        obtain rfl := Option.some.inj ha
        obtain ⟨q, hq⟩ := hheap hr rfl
        exact .leave (.inl ⟨hr, rfl⟩) hq (unlockLocked_releases hq (h.mem_waiting _ _ hq) false)
      · cases ha
    | wake r =>
      simp only [act, step] at ha
      split at ha
      · case h_1 addr hr =>
        obtain rfl := Option.some.inj ha
        exact .move (hlt hr (by simp)) (by rw [hr]; rfl)
          (fun a ha => h.queue_lt r a (by rw [hr]; simpa [Pc.queue] using ha)) (by simp) (by simp)
          (by simp [Pc.beforeWait])
      · cases ha
    | done r =>
      simp only [act, step] at ha
      split at ha
      · case h_1 addr hr =>
        obtain rfl := Option.some.inj ha
        obtain ⟨q, hq⟩ := hheap hr rfl
        exact .leave (.inr ⟨hr, rfl⟩) hq (unlockLocked_releases hq (h.mem_waiting _ _ hq) true)
      · cases ha

end Controller

end Wescale.Tabletserver.Ccl
