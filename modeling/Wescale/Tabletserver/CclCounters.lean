import Mathlib
import Wescale.Tabletserver.CclEffect

/-!
# The counters of the concurrency controller

`lockLocked` counts an admitted request in its queue's `size` and in `currentGlobalSize`, and
the `unlockLocked` of its `DoneFunc`, or of its give-up when its context ends while it waits,
takes it out again. `State.Inv` says that these counters count the places
(`Wescale.Tabletserver.CclEffect`), with the shape that keeps them so: a waiter's channel is in
its queue's list, an open channel in a list is a waiter of that queue, and no list holds a
channel twice.

## What is proved

Every effect keeps `State.Inv` (`Effect.inv`), so every state that a run of actions reaches
from a `State.Initial` one satisfies it (`Reachable.inv`): under any interleaving of the
requests' steps and `resizeQueue`, each queue's `size` counts the requests with a place in it,
`currentGlobalSize` is the sum of these over all queues made (`Inv.currentGlobalSize_eq_sum`),
and neither is negative.

Every action treats a queue's list of channels as a queue (`Effect.takesFront`): it takes
channels from the front, adds at most one at the back, and hands a slot only to a waiter whose
channel it took, after every channel before it (`TakesFront.grants_in_order`).

`ccl_counters` adds that a `Wait` that returns an error does not always leave the counters as
they were: a waiter whose context ends while the request in flight finishes gives up a place in
an emptied queue, and `unlockLocked` then takes back a slot that was already given back, so the
queue's `onTheFlySize` ends at `-1`, where the run without that `Wait` leaves it at `0`.
-/

set_option autoImplicit false

namespace Wescale.Tabletserver.Ccl

/-! ## Every effect keeps the invariant -/

/-- A queue read after one was written. -/
private theorem getElem?_set_eq_some {l : List Queue} {i j : Nat} {a b : Queue}
    (h : (l.set i a)[j]? = some b) : i = j ∧ a = b ∨ i ≠ j ∧ l[j]? = some b := by
  rw [List.getElem?_set] at h
  split_ifs at h with hij
  · exact .inl ⟨hij, Option.some.inj h⟩
  · exact .inr ⟨hij, h⟩

/-- A queue read after one was made. -/
private theorem getElem?_push_eq_some {l : List Queue} {i : Nat} {a b : Queue}
    (h : (l ++ [a])[i]? = some b) : l[i]? = some b ∨ i = l.length ∧ a = b := by
  rcases Nat.lt_or_ge i l.length with hi | hi
  · exact .inl (by rwa [List.getElem?_append_left hi] at h)
  · rw [List.getElem?_append_right hi] at h
    have h0 : i - l.length = 0 := by
      by_contra hne
      rw [List.getElem?_eq_none (by simp; omega)] at h
      cases h
    rw [h0] at h
    exact .inr ⟨by omega, Option.some.inj h⟩

namespace State.Shape

variable {s : State}

theorem setPc (h : s.Shape) {r : Nat} {pc : Pc}
    (hqueue : ∀ a, pc.queue = some a → a < s.heap.length) (hwait : ∀ a, pc ≠ .waiting a)
    (hbefore : pc.beforeWait = true → (s.pcOf r).beforeWait = true) : (s.setPc r pc).Shape where
  queue_lt r' a ha := by
    rw [State.pcOf_setPc] at ha
    split_ifs at ha
    · exact hqueue a ha
    · exact h.queue_lt r' a ha
  waiting_mem r' a hw := by
    rw [State.pcOf_setPc] at hw
    split_ifs at hw
    · exact absurd hw (hwait a)
    · exact h.waiting_mem r' a hw
  mem_waiting addr q hq x hx a hw := by
    rw [State.pcOf_setPc] at hw
    split_ifs at hw
    · exact absurd hw (hwait a)
    · exact h.mem_waiting addr q hq x hx a hw
  mem_beforeWait addr q hq x hx := by
    rw [State.pcOf_setPc]
    split_ifs with hxr
    · -- `r`'s channel is in a list: `r` was queued, and so is where it goes
      obtain ⟨rfl, -⟩ := hxr
      cases hb : pc.beforeWait
      · rfl
      · have hq' := h.mem_beforeWait addr q hq _ hx
        rw [hbefore hb] at hq'
        cases hq'
    · exact h.mem_beforeWait addr q hq x hx
  nodup := h.nodup

theorem push (h : s.Shape) (queues : List (String × Nat)) {q : Queue} (hq : q.waitingRequest = []) :
    ({ s with queues := queues, heap := s.heap ++ [q] } : State).Shape where
  queue_lt r a ha := by
    have := h.queue_lt r a (by simpa using ha)
    simp only [List.length_append, List.length_singleton]
    omega
  waiting_mem r a hw := by
    obtain ⟨q', hq', hr⟩ := h.waiting_mem r a (by simpa using hw)
    exact ⟨q', by rw [List.getElem?_append_left (List.getElem?_eq_some_iff.mp hq').1]; exact hq', hr⟩
  mem_waiting addr q' hq' x hx a hw := by
    rcases getElem?_push_eq_some hq' with hq' | ⟨-, rfl⟩
    · exact h.mem_waiting addr q' hq' x hx a (by simpa using hw)
    · simp [hq] at hx
  mem_beforeWait addr q' hq' x hx := by
    rcases getElem?_push_eq_some hq' with hq' | ⟨-, rfl⟩
    · simpa using h.mem_beforeWait addr q' hq' x hx
    · simp [hq] at hx
  nodup addr q' hq' := by
    rcases getElem?_push_eq_some hq' with hq' | ⟨-, rfl⟩
    · exact h.nodup addr q' hq'
    · simp [hq]

theorem enter (h : s.Shape) {r addr : Nat} (hr : s.pcOf r = .gotQueue addr) {q : Queue}
    (hq : s.heap[addr]? = some q) (q' : Queue) {pc : Pc}
    (hpc : pc = .admitted addr ∧ q'.waitingRequest = q.waitingRequest ∨
      pc = .waiting addr ∧ q'.waitingRequest = q.waitingRequest ++ [r]) :
    (({ s with currentGlobalSize := s.currentGlobalSize + 1 }.setQueue addr q').setPc r pc).Shape := by
  have hlt : r < s.requests.length := s.lt_length_of_pcOf_ne_finished (by simp [hr])
  have haddr : addr < s.heap.length := (List.getElem?_eq_some_iff.mp hq).1
  -- `r` was not queued yet: its channel is in no list
  have hfresh : ∀ (b : Nat) (qb : Queue), s.heap[b]? = some qb → r ∉ qb.waitingRequest := by
    intro b qb hqb hmem
    have hb := h.mem_beforeWait b qb hqb r hmem
    rw [hr] at hb
    cases hb
  have hpcOf : ∀ x, (({ s with currentGlobalSize := s.currentGlobalSize + 1 }.setQueue addr q').setPc
      r pc).pcOf x = if r = x then pc else s.pcOf x := by
    intro x
    rw [State.pcOf_setPc]
    simp [hlt]
  have hmem : ∀ x ∈ q'.waitingRequest, x ∈ q.waitingRequest ∨ x = r ∧ pc = .waiting addr := by
    intro x hx
    rcases hpc with ⟨-, hl⟩ | ⟨hp, hl⟩
    · exact .inl (hl ▸ hx)
    · rw [hl, List.mem_append, List.mem_singleton] at hx
      exact hx.imp_right fun hx => ⟨hx, hp⟩
  have hsub : ∀ x ∈ q.waitingRequest, x ∈ q'.waitingRequest := by
    intro x hx
    rcases hpc with ⟨-, hl⟩ | ⟨-, hl⟩ <;> simp [hl, hx]
  have hheap : ∀ (b : Nat) (qb : Queue),
      (({ s with currentGlobalSize := s.currentGlobalSize + 1 }.setQueue addr q').setPc r pc).heap[b]? =
        some qb → addr = b ∧ q' = qb ∨ addr ≠ b ∧ s.heap[b]? = some qb := fun b qb hqb =>
    getElem?_set_eq_some hqb
  refine ⟨?_, ?_, ?_, ?_, ?_⟩
  · intro x a ha
    rw [hpcOf] at ha
    simp only [State.setPc_heap, State.setQueue_heap, List.length_set]
    split_ifs at ha
    · rcases hpc with ⟨rfl, -⟩ | ⟨rfl, -⟩ <;> cases ha <;> exact haddr
    · exact h.queue_lt x a ha
  · intro x a hw
    rw [hpcOf] at hw
    split_ifs at hw with hxr
    · -- `r` itself waits: its channel went to the back of the list
      subst hxr
      rcases hpc with ⟨rfl, -⟩ | ⟨rfl, hl⟩
      · cases hw
      · cases hw
        exact ⟨q', by simp [haddr], by simp [hl]⟩
    · obtain ⟨qa, hqa, hxa⟩ := h.waiting_mem x a hw
      by_cases hab : addr = a
      · subst hab
        rw [hq] at hqa
        cases hqa
        exact ⟨q', by simp [haddr], hsub x hxa⟩
      · exact ⟨qa, by simp [List.getElem?_set_ne hab, hqa], hxa⟩
  · intro b qb hqb x hx a hw
    rw [hpcOf] at hw
    rcases hheap b qb hqb with ⟨rfl, rfl⟩ | ⟨-, hqb⟩
    · rcases hmem x hx with hx | ⟨rfl, hw'⟩
      · split_ifs at hw with hxr
        · exact absurd (hxr ▸ hx) (hfresh _ _ hq)
        · exact h.mem_waiting _ q hq x hx a hw
      · rw [if_pos rfl, hw'] at hw
        cases hw
        rfl
    · split_ifs at hw with hxr
      · exact absurd (hxr ▸ hx) (hfresh _ _ hqb)
      · exact h.mem_waiting b qb hqb x hx a hw
  · intro b qb hqb x hx
    rw [hpcOf]
    have hpcb : pc.beforeWait = false := by rcases hpc with ⟨rfl, -⟩ | ⟨rfl, -⟩ <;> rfl
    split_ifs with hxr
    · exact hpcb
    · rcases hheap b qb hqb with ⟨rfl, rfl⟩ | ⟨-, hqb⟩
      · rcases hmem x hx with hx | ⟨hx, -⟩
        · exact h.mem_beforeWait _ q hq x hx
        · exact absurd hx.symm hxr
      · exact h.mem_beforeWait b qb hqb x hx
  · intro b qb hqb
    rcases hheap b qb hqb with ⟨rfl, rfl⟩ | ⟨-, hqb⟩
    · rcases hpc with ⟨-, hl⟩ | ⟨-, hl⟩
      · rw [hl]
        exact h.nodup _ q hq
      · rw [hl, List.nodup_append]
        refine ⟨h.nodup _ q hq, List.nodup_singleton r, fun x hx y hy => ?_⟩
        rw [List.mem_singleton] at hy
        rintro rfl
        exact hfresh _ _ hq (hy ▸ hx)
    · exact h.nodup b qb hqb

theorem releases (h : s.Shape) {addr : Nat} {q : Queue} {d : Int} {s' : State}
    (hq : s.heap[addr]? = some q) (hrel : Releases addr q d s s') : s'.Shape := by
  obtain ⟨q', pre, hheap, -, hlist, hclosed, hoff⟩ := hrel.queue
  have haddr : addr < s.heap.length := (List.getElem?_eq_some_iff.mp hq).1
  have hmem : ∀ x ∈ q'.waitingRequest, x ∈ q.waitingRequest := fun x hx => by
    rw [hlist]
    exact List.mem_append_right _ hx
  refine ⟨?_, ?_, ?_, ?_, ?_⟩
  · intro r a ha
    rw [hheap, List.length_set]
    rcases hoff.pcOf_eq r with e | ⟨-, -, e⟩
    · exact h.queue_lt r a (e ▸ ha)
    · rw [e] at ha
      cases ha
      exact haddr
  · intro r a hw
    obtain ⟨qa, hqa, hra⟩ := h.waiting_mem r a (hoff.waiting_of hw)
    rw [hheap]
    by_cases hab : addr = a
    · -- still waiting: its channel is behind the part taken
      subst hab
      rw [hq] at hqa
      cases hqa
      refine ⟨q', by simp [haddr], ?_⟩
      rw [hlist, List.mem_append] at hra
      exact hra.resolve_left fun hpre => hclosed r hpre _ hw
    · exact ⟨qa, by rw [List.getElem?_set_ne hab]; exact hqa, hra⟩
  · intro b qb hqb x hx a hw
    rw [hheap] at hqb
    rcases getElem?_set_eq_some hqb with ⟨rfl, rfl⟩ | ⟨-, hqb⟩
    · exact h.mem_waiting _ q hq x (hmem x hx) a (hoff.waiting_of hw)
    · exact h.mem_waiting b qb hqb x hx a (hoff.waiting_of hw)
  · intro b qb hqb x hx
    rw [hheap] at hqb
    have hb : ∀ x, (s.pcOf x).beforeWait = false → (s'.pcOf x).beforeWait = false := by
      intro x hx
      rcases hoff.pcOf_eq x with e | ⟨-, -, e⟩
      · rw [e]; exact hx
      · rw [e]; rfl
    rcases getElem?_set_eq_some hqb with ⟨rfl, rfl⟩ | ⟨-, hqb⟩
    · exact hb x (h.mem_beforeWait _ q hq x (hmem x hx))
    · exact hb x (h.mem_beforeWait b qb hqb x hx)
  · intro b qb hqb
    rw [hheap] at hqb
    rcases getElem?_set_eq_some hqb with ⟨rfl, rfl⟩ | ⟨-, hqb⟩
    · have hnd := h.nodup _ q hq
      rw [hlist] at hnd
      exact hnd.sublist (List.sublist_append_right pre _)
    · exact h.nodup b qb hqb

end State.Shape

namespace State.Inv

variable {s : State}

theorem move (h : s.Inv) {r : Nat} (hr : r < s.requests.length) {pc : Pc}
    (hplace : pc.place = (s.pcOf r).place) (hqueue : ∀ a, pc.queue = some a → a < s.heap.length)
    (hwait : ∀ a, pc ≠ .waiting a) (hbefore : pc.beforeWait = true → (s.pcOf r).beforeWait = true) :
    (s.setPc r pc).Inv where
  toShape := h.toShape.setPc hqueue hwait hbefore
  size_eq addr q hq := by
    have e := s.places_setPc hr pc addr
    rw [hplace] at e
    rw [h.size_eq addr q hq, Nat.add_right_cancel e]
  currentGlobalSize_eq := by
    have e := s.placed_setPc hr pc
    rw [hplace] at e
    rw [State.setPc_currentGlobalSize, h.currentGlobalSize_eq, Nat.add_right_cancel e]

theorem push (h : s.Inv) (queues : List (String × Nat)) {q : Queue} (hsize : q.size = 0)
    (hlist : q.waitingRequest = []) : ({ s with queues := queues, heap := s.heap ++ [q] } : State).Inv where
  toShape := h.toShape.push queues hlist
  size_eq addr q' hq' := by
    rcases getElem?_push_eq_some hq' with hq' | ⟨rfl, rfl⟩
    · simpa using h.size_eq addr q' hq'
    · -- nobody holds the queue just made
      have hzero : s.places s.heap.length = 0 := s.places_eq_zero fun r hp =>
        Nat.lt_irrefl _ (h.queue_lt r _ (Pc.queue_of_place hp))
      simp [hsize, hzero]
  currentGlobalSize_eq := h.currentGlobalSize_eq

theorem create (h : s.Inv) {r : Nat} (hr : s.pcOf r = .start) (queues : List (String × Nat))
    (q : Queue) (hsize : q.size = 0) (hlist : q.waitingRequest = []) :
    (({ s with queues := queues, heap := s.heap ++ [q] } : State).setPc r (.gotQueue s.heap.length)).Inv :=
  (h.push queues hsize hlist).move (s.lt_length_of_pcOf_ne_finished (by simp [hr]))
    (by simp [hr, Pc.place]) (by simp [Pc.queue]) (by simp) (by simp [hr, Pc.beforeWait])

theorem enter (h : s.Inv) {r addr : Nat} (hr : s.pcOf r = .gotQueue addr) {q : Queue}
    (hq : s.heap[addr]? = some q) (q' : Queue) {pc : Pc} (hsize : q'.size = q.size + 1)
    (hpc : pc = .admitted addr ∧ q'.waitingRequest = q.waitingRequest ∨
      pc = .waiting addr ∧ q'.waitingRequest = q.waitingRequest ++ [r]) :
    (({ s with currentGlobalSize := s.currentGlobalSize + 1 }.setQueue addr q').setPc r pc).Inv := by
  have hlt : r < s.requests.length := s.lt_length_of_pcOf_ne_finished (by simp [hr])
  have hplace : pc.place = some addr := by rcases hpc with ⟨rfl, -⟩ | ⟨rfl, -⟩ <;> rfl
  have hgot : (Pc.gotQueue addr).place = none := rfl
  refine ⟨h.toShape.enter hr hq q' hpc, ?_, ?_⟩
  · intro b qb hqb
    have e := ({ s with currentGlobalSize := s.currentGlobalSize + 1 }.setQueue addr q').places_setPc
      (by simpa using hlt) pc b
    rw [State.places_setQueue, State.places_mk, State.pcOf_setQueue, State.pcOf_mk, hr, hplace,
      hgot] at e
    rcases getElem?_set_eq_some hqb with ⟨rfl, rfl⟩ | ⟨hab, hqb⟩
    · -- the request is counted in its queue
      simp only [reduceCtorEq, if_false, if_true, Nat.add_zero] at e
      rw [hsize, h.size_eq _ q hq, e]
      push_cast
      rfl
    · simp only [reduceCtorEq, if_false, Option.some.injEq, hab, Nat.add_zero] at e
      rw [h.size_eq b qb hqb, e]
      rfl
  · have e := ({ s with currentGlobalSize := s.currentGlobalSize + 1 }.setQueue addr q').placed_setPc
      (by simpa using hlt) pc
    rw [State.placed_setQueue, State.placed_mk, State.pcOf_setQueue, State.pcOf_mk, hr, hplace,
      hgot] at e
    simp only [Option.isSome_none, Option.isSome_some, Bool.false_eq_true, if_false, if_true,
      Nat.add_zero] at e
    simp only [State.setPc_currentGlobalSize, State.setQueue_currentGlobalSize]
    rw [e, h.currentGlobalSize_eq]
    push_cast
    rfl

theorem leave (h : s.Inv) {r addr : Nat} {q : Queue} {s₁ : State} {pc : Pc}
    (hpc : s.pcOf r = .cancelled addr ∧ pc = .failed ∨ s.pcOf r = .admitted addr ∧ pc = .finished)
    (hq : s.heap[addr]? = some q) (hrel : Releases addr q 1 s s₁) : (s₁.setPc r pc).Inv := by
  obtain ⟨q', pre, hheap, hsize, -, -, hoff⟩ := hrel.queue
  have hplace : (s.pcOf r).place = some addr := by
    rcases hpc with ⟨e, -⟩ | ⟨e, -⟩ <;> rw [e] <;> rfl
  have hnot : ∀ a, s.pcOf r ≠ .waiting a := by
    rcases hpc with ⟨e, -⟩ | ⟨e, -⟩ <;> simp [e]
  -- the request gives up its place; nobody else moves out of a place
  have hr₁ : s₁.pcOf r = s.pcOf r := (hoff.pcOf_eq r).resolve_right fun hw => hnot _ hw.2.1
  have hlt : r < s₁.requests.length := by
    rw [hoff.length_eq]
    exact s.lt_length_of_pcOf_ne_finished (by rcases hpc with ⟨e, -⟩ | ⟨e, -⟩ <;> simp [e])
  have hgone : pc.place = none ∧ pc.queue = none ∧ (∀ a, pc ≠ .waiting a) ∧ pc.beforeWait = false := by
    rcases hpc with ⟨-, rfl⟩ | ⟨-, rfl⟩ <;> simp [Pc.place, Pc.queue, Pc.beforeWait]
  obtain ⟨hpl, hqu, hwa, hbe⟩ := hgone
  refine ⟨(h.toShape.releases hq hrel).setPc (by simp [hqu]) hwa (by simp [hbe]), ?_, ?_⟩
  · intro b qb hqb
    have e := s₁.places_setPc hlt pc b
    rw [hr₁, hplace, hpl, hoff.places_eq] at e
    rw [State.setPc_heap, hheap] at hqb
    rcases getElem?_set_eq_some hqb with ⟨rfl, rfl⟩ | ⟨hab, hqb⟩
    · simp only [if_true, reduceCtorEq, if_false, Nat.add_zero] at e
      rw [hsize, h.size_eq _ q hq, ← e]
      push_cast
      omega
    · simp only [Option.some.injEq, hab, if_false, reduceCtorEq, Nat.add_zero] at e
      rw [h.size_eq b qb hqb, e]
  · have e := s₁.placed_setPc hlt pc
    rw [hr₁, hplace, hpl, hoff.placed_eq] at e
    simp only [Option.isSome_some, Option.isSome_none, if_true, Bool.false_eq_true, if_false,
      Nat.add_zero] at e
    rw [State.setPc_currentGlobalSize, hrel.currentGlobalSize_eq, h.currentGlobalSize_eq, ← e]
    push_cast
    omega

theorem resize (h : s.Inv) {addr : Nat} {q : Queue} {s' : State} (hq : s.heap[addr]? = some q)
    (hrel : Releases addr q 0 s s') : s'.Inv := by
  obtain ⟨q', pre, hheap, hsize, -, -, hoff⟩ := hrel.queue
  refine ⟨h.toShape.releases hq hrel, ?_, ?_⟩
  · intro b qb hqb
    rw [hheap] at hqb
    rw [hoff.places_eq]
    rcases getElem?_set_eq_some hqb with ⟨rfl, rfl⟩ | ⟨-, hqb⟩
    · rw [hsize, h.size_eq _ q hq, Int.sub_zero]
    · exact h.size_eq b qb hqb
  · rw [hrel.currentGlobalSize_eq, hoff.placed_eq, h.currentGlobalSize_eq, Int.sub_zero]

end State.Inv

/-- **Every effect keeps the invariant.** -/
theorem Effect.inv {s s' : State} (he : Effect s s') (h : s.Inv) : s'.Inv := by
  cases he with
  | stay => exact h
  | move hr hplace hqueue hwait _ hbefore => exact h.move hr hplace hqueue hwait hbefore
  | create queues q hr hsize hlist => exact h.create hr queues q hsize hlist
  | enter q' pc hr hq hsize hpc => exact h.enter hr hq q' hsize hpc
  | leave hpc hq hrel => exact h.leave hpc hq hrel
  | resize hq hrel => exact h.resize hq hrel

/-! ## Every run keeps the invariant -/

/-- A controller that no request used yet: no queue, and every request at its start. -/
structure State.Initial (s : State) : Prop where
  queues_eq : s.queues = []
  heap_eq : s.heap = []
  currentGlobalSize_eq : s.currentGlobalSize = 0
  start : ∀ req ∈ s.requests, req.pc = .start

theorem State.Initial.inv {s : State} (h : s.Initial) : s.Inv := by
  have hpc : ∀ r, s.pcOf r = .start ∨ s.pcOf r = .finished := by
    intro r
    unfold State.pcOf
    cases hr : s.requests[r]? with
    | none => exact .inr rfl
    | some req => exact .inl (h.start req (List.mem_of_getElem? hr))
  have hnone : ∀ (addr : Nat) (q : Queue), s.heap[addr]? ≠ some q := by simp [h.heap_eq]
  refine ⟨⟨?_, ?_, ?_, ?_, ?_⟩, ?_, ?_⟩
  · intro r a ha
    rcases hpc r with e | e <;> rw [e] at ha <;> cases ha
  · intro r a hw
    rcases hpc r with e | e <;> rw [e] at hw <;> cases hw
  · exact fun addr q hq => absurd hq (hnone addr q)
  · exact fun addr q hq => absurd hq (hnone addr q)
  · exact fun addr q hq => absurd hq (hnone addr q)
  · exact fun addr q hq => absurd hq (hnone addr q)
  · rw [h.currentGlobalSize_eq, State.placed, List.countP_eq_zero.mpr]
    · rfl
    · intro req hreq
      simp [h.start req hreq, Pc.place]

section Controller

variable (maxGlobalQueueSize : Int)

theorem State.Inv.of_act {s s' : State} (h : s.Inv) {a : Action}
    (ha : act maxGlobalQueueSize s a = some s') : s'.Inv :=
  (h.toShape.act_effect maxGlobalQueueSize ha).inv h

/-- The run lemma: the invariant holds after every run of actions. -/
theorem State.Inv.of_runActions {s s' : State} (h : s.Inv) {actions : List Action}
    (hrun : runActions maxGlobalQueueSize s actions = some s') : s'.Inv := by
  induction actions generalizing s with
  | nil =>
    obtain rfl : s = s' := Option.some.inj hrun
    exact h
  | cons a actions ih =>
    simp only [runActions, List.foldlM_cons] at hrun ih
    cases ha : act maxGlobalQueueSize s a with
    | none => simp [ha] at hrun
    | some s₁ =>
      rw [ha] at hrun
      exact ih (h.of_act maxGlobalQueueSize ha) hrun

/-- A state that some run reaches from an initial one. -/
def Reachable (s : State) : Prop :=
  ∃ s₀ actions, s₀.Initial ∧ runActions maxGlobalQueueSize s₀ actions = some s

theorem Reachable.inv {s : State} (h : Reachable maxGlobalQueueSize s) : s.Inv := by
  obtain ⟨s₀, actions, h₀, hrun⟩ := h
  exact h₀.inv.of_runActions maxGlobalQueueSize hrun

end Controller

/-- Counting elements by the key each carries, over the keys below a bound. -/
private theorem countP_isSome_eq_sum {α : Type} (key : α → Option Nat) (n : Nat) (l : List α)
    (hlt : ∀ x ∈ l, ∀ a, key x = some a → a < n) :
    l.countP (fun x => (key x).isSome) = ∑ a ∈ Finset.range n, l.countP fun x => key x = some a := by
  induction l with
  | nil => simp
  | cons x l ih =>
    simp only [List.countP_cons]
    rw [ih fun y hy => hlt y (List.mem_cons_of_mem x hy), Finset.sum_add_distrib]
    congr 1
    cases hx : key x with
    | none => simp
    | some b =>
      have hb := hlt x List.mem_cons_self b hx
      simp [Finset.sum_ite_eq, hb]

/-- **`currentGlobalSize` sums the queues' places**: over every queue object made. -/
theorem State.Inv.currentGlobalSize_eq_sum {s : State} (h : s.Inv) :
    s.currentGlobalSize = ∑ addr ∈ Finset.range s.heap.length, (s.places addr : Int) := by
  rw [h.currentGlobalSize_eq, State.placed,
    countP_isSome_eq_sum (fun req => req.pc.place) s.heap.length s.requests ?_]
  · rw [Nat.cast_sum]
    rfl
  · intro req hreq a ha
    obtain ⟨i, hi, rfl⟩ := List.getElem_of_mem hreq
    exact h.queue_lt i a (Pc.queue_of_place (by simpa [State.pcOf, List.getElem?_eq_getElem hi] using ha))

/-! ## The waiting list is a queue -/

/-- How one action may change the channels of the queue at `addr`, which was `q`: it takes a
front part `pre`, leaves none of it open, adds at most one channel at the back, and hands a slot
only to waiters of `pre`. -/
def TakesFront (addr : Nat) (q : Queue) (s s' : State) : Prop :=
  ∃ q' pre rest new, s'.heap[addr]? = some q' ∧ q.waitingRequest = pre ++ rest ∧
    q'.waitingRequest = rest ++ new ∧ new.length ≤ 1 ∧ (∀ x ∈ pre, ∀ a, s'.pcOf x ≠ .waiting a) ∧
    ∀ x, s'.pcOf x = .handedOff addr → s.pcOf x = .handedOff addr ∨ x ∈ pre

namespace TakesFront

variable {addr : Nat} {q : Queue} {s s' : State}

/-- An action that leaves the queue and gives no slot. -/
theorem of_heap (hq : s.heap[addr]? = some q) (hheap : s'.heap[addr]? = s.heap[addr]?)
    (hoff : ∀ x, s'.pcOf x = .handedOff addr → s.pcOf x = .handedOff addr) : TakesFront addr q s s' :=
  ⟨q, [], q.waitingRequest, [], hheap.trans hq, rfl, by simp, by simp, by simp,
    fun x hx => .inl (hoff x hx)⟩

/-- A request that moves on, not to a waiter's place, changes nothing of it. -/
theorem setPc (h : TakesFront addr q s s') {r : Nat} {pc : Pc} (hwait : ∀ a, pc ≠ .waiting a)
    (hhand : ∀ a, pc ≠ .handedOff a) : TakesFront addr q s (s'.setPc r pc) := by
  obtain ⟨q', pre, rest, new, hq', hpre, hrest, hnew, hclosed, hoff⟩ := h
  refine ⟨q', pre, rest, new, hq', hpre, hrest, hnew, fun x hx a => ?_, fun x hx => ?_⟩
  · rw [State.pcOf_setPc]
    split_ifs
    · exact hwait a
    · exact hclosed x hx a
  · rw [State.pcOf_setPc] at hx
    split_ifs at hx
    · exact absurd hx (hhand addr)
    · exact hoff x hx

theorem releases {addr₀ : Nat} {q₀ : Queue} {d : Int} (hrel : Releases addr₀ q₀ d s s')
    (hq₀ : s.heap[addr₀]? = some q₀) (hq : s.heap[addr]? = some q) : TakesFront addr q s s' := by
  obtain ⟨q', pre, hheap, -, hlist, hclosed, hoff⟩ := hrel.queue
  by_cases hab : addr₀ = addr
  · subst hab
    rw [hq₀] at hq
    cases hq
    refine ⟨q', pre, q'.waitingRequest, [], ?_, hlist, by simp, by simp, hclosed, fun x hx => ?_⟩
    · rw [hheap, List.getElem?_set_self (List.getElem?_eq_some_iff.mp hq₀).1]
    · rcases hoff.pcOf_eq x with e | ⟨hm, -, -⟩
      · exact .inl (e ▸ hx)
      · exact .inr hm
  · refine of_heap hq (by rw [hheap, List.getElem?_set_ne hab]) fun x hx => ?_
    rcases hoff.pcOf_eq x with e | ⟨-, -, e⟩
    · exact e ▸ hx
    · rw [e] at hx
      cases hx
      exact absurd rfl hab

end TakesFront

/-- Every effect takes channels from the front of a list and adds at the back. -/
theorem Effect.takesFront {s s' : State} (he : Effect s s') {addr : Nat} {q : Queue}
    (hq : s.heap[addr]? = some q) : TakesFront addr q s s' := by
  have hlt : addr < s.heap.length := (List.getElem?_eq_some_iff.mp hq).1
  cases he with
  | stay => exact .of_heap hq rfl fun x hx => hx
  | move _ _ _ hwait hhand _ =>
    exact (TakesFront.of_heap hq rfl fun x hx => hx).setPc hwait hhand
  | create queues q₀ _ _ _ =>
    exact (TakesFront.of_heap hq (by simp [List.getElem?_append_left hlt]) fun x hx => by simpa using hx).setPc
      (by simp) (by simp)
  | @enter r addr₀ q₀ q' pc _ hq₀ _ hpc =>
    have hpcw : ∀ a, pc ≠ .handedOff a := by rcases hpc with ⟨rfl, -⟩ | ⟨rfl, -⟩ <;> simp
    by_cases hab : addr₀ = addr
    · -- `lockLocked` puts the channel at the back of this queue's list, or none
      subst hab
      rw [hq₀] at hq
      cases hq
      refine ⟨q', [], q.waitingRequest, ?_, by simp [List.getElem?_set_self hlt], rfl, ?_, ?_,
        by simp, fun x hx => .inl ?_⟩
      · exact if pc = .waiting addr₀ then [r] else []
      · rcases hpc with ⟨rfl, hl⟩ | ⟨rfl, hl⟩ <;> simp [hl]
      · split_ifs <;> simp
      · rw [State.pcOf_setPc] at hx
        split_ifs at hx
        · exact absurd hx (hpcw addr₀)
        · simpa using hx
    · refine ⟨q, [], q.waitingRequest, [], by simpa [List.getElem?_set_ne hab] using hq, rfl, by simp,
        by simp, by simp, fun x hx => .inl ?_⟩
      rw [State.pcOf_setPc] at hx
      split_ifs at hx
      · exact absurd hx (hpcw addr)
      · simpa using hx
  | leave hpc hq₀ hrel =>
    refine (TakesFront.releases hrel hq₀ hq).setPc ?_ ?_ <;>
      rcases hpc with ⟨-, rfl⟩ | ⟨-, rfl⟩ <;> simp
  | resize hq₀ hrel => exact .releases hrel hq₀ hq

/-- **Slots go to waiters in the order they queued**: when an action hands a slot to the
waiter `y`, the channels before `y`'s in its queue's list are all taken, so no request that
queued before `y` is left waiting. -/
theorem TakesFront.grants_in_order {addr : Nat} {q : Queue} {s s' : State}
    (ht : TakesFront addr q s s') (hnd : q.waitingRequest.Nodup) {i j x y : Nat} (hij : i < j)
    (hx : q.waitingRequest[i]? = some x) (hy : q.waitingRequest[j]? = some y)
    (hwait : s.pcOf y = .waiting addr) (hgrant : s'.pcOf y = .handedOff addr) (a : Nat) :
    s'.pcOf x ≠ .waiting a := by
  obtain ⟨q', pre, rest, new, -, hlist, -, -, hclosed, hoff⟩ := ht
  have hy_pre : y ∈ pre := (hoff y hgrant).resolve_left fun e => by rw [hwait] at e; cases e
  -- `y` has one place in the list, inside `pre`
  obtain ⟨k, hk⟩ := List.mem_iff_getElem?.mp hy_pre
  have hklt : k < pre.length := (List.getElem?_eq_some_iff.mp hk).1
  have hkj : k = j := by
    have hk' : q.waitingRequest[k]? = some y := by rw [hlist, List.getElem?_append_left hklt, hk]
    exact (List.getElem?_inj (by rw [hlist]; simp; omega) hnd).mp (hk'.trans hy.symm)
  have hx' : pre[i]? = some x := by rwa [hlist, List.getElem?_append_left (by omega)] at hx
  exact hclosed x (List.mem_of_getElem? hx') a

section Controller

variable (maxGlobalQueueSize : Int)

/-- **The waiting list is a queue** in every action, from a state of the right shape. -/
theorem State.Shape.act_takesFront {s s' : State} (h : s.Shape) {a : Action}
    (ha : act maxGlobalQueueSize s a = some s') {addr : Nat} {q : Queue}
    (hq : s.heap[addr]? = some q) : TakesFront addr q s s' :=
  (h.act_effect maxGlobalQueueSize ha).takesFront hq

end Controller

/-! ## A failed `Wait` moves `onTheFlySize` -/

/-- Two requests of one rule with `maxQueueSize = 10` and `maxConcurrency = 1`. -/
def twoRequests : State := ⟨[], [], 0, List.replicate 2 ⟨"k", 10, 1, .start⟩⟩

/-- Both requests take the queue, and request 0 is admitted. -/
def beforeWaitTrace : List Event := [.getOrCreateQueue 0, .getOrCreateQueue 1, .wait 0]

/-- Request 1's `Wait`: it queues; its context ends; request 0's `DoneFunc` finds only its
closed channel and gives the slot back; request 1 gives up, and its `Wait` returns an error. -/
def failedWaitTrace : List Event := [.wait 1, .cancel 1, .done 0, .giveUp 1]

/-- **The counters of the concurrency controller.** In every state that a run of requests'
steps and `resizeQueue` reaches, each queue's `size` counts the requests with a place in it,
`currentGlobalSize` sums these over all queues, and neither is negative. Each action takes
channels from the front of a queue's list and adds at most one at the back, and it hands a slot
to a waiter only once every waiter queued before it has had its slot or closed its channel.
But a `Wait` that returns an error does not leave `onTheFlySize` as it was: after request 1's
failed `Wait` in `failedWaitTrace` the queue ends with `size` 0 and `onTheFlySize` `-1`, where
request 0's `DoneFunc` alone leaves both at 0. -/
theorem ccl_counters :
    (∀ (maxGlobalQueueSize : Int) (s : State), Reachable maxGlobalQueueSize s →
      (∀ (addr : Nat) (q : Queue), s.heap[addr]? = some q →
        q.size = (s.places addr : Int) ∧ 0 ≤ q.size) ∧
      s.currentGlobalSize = ∑ addr ∈ Finset.range s.heap.length, (s.places addr : Int) ∧
      0 ≤ s.currentGlobalSize) ∧
    (∀ (maxGlobalQueueSize : Int) (s : State) (a : Action) (s' : State) (addr : Nat) (q : Queue),
      Reachable maxGlobalQueueSize s → act maxGlobalQueueSize s a = some s' →
      s.heap[addr]? = some q → TakesFront addr q s s' ∧
      ∀ i j x y : Nat, i < j → q.waitingRequest[i]? = some x → q.waitingRequest[j]? = some y →
        s.pcOf y = .waiting addr → s'.pcOf y = .handedOff addr → ∀ b, s'.pcOf x ≠ .waiting b) ∧
    ∃ s₁ s₂ s₃, run defaultMaxGlobalQueueSize twoRequests beforeWaitTrace = some s₁ ∧
      run defaultMaxGlobalQueueSize s₁ failedWaitTrace = some s₂ ∧
      run defaultMaxGlobalQueueSize s₁ [.done 0] = some s₃ ∧ s₂.pcOf 1 = .failed ∧
      s₂.heap.map Queue.size = s₃.heap.map Queue.size ∧
      s₂.heap.map Queue.onTheFlySize = [-1] ∧ s₃.heap.map Queue.onTheFlySize = [0] := by
  refine ⟨fun m s hs => ?_, fun m s a s' addr q hs ha hq => ?_, _, _, _, rfl, rfl, rfl, by decide,
    by decide, by decide, by decide⟩
  · have h := hs.inv
    refine ⟨fun addr q hq => ⟨h.size_eq addr q hq, ?_⟩, h.currentGlobalSize_eq_sum, ?_⟩
    · rw [h.size_eq addr q hq]
      exact Int.natCast_nonneg _
    · rw [h.currentGlobalSize_eq]
      exact Int.natCast_nonneg _
  · have h := hs.inv
    have ht := h.toShape.act_takesFront m ha hq
    exact ⟨ht, fun i j x y hij hx hy hw hg => ht.grants_in_order (h.nodup addr q hq) hij hx hy hw hg⟩

end Wescale.Tabletserver.Ccl
