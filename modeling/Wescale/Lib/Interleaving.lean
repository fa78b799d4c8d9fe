import Mathlib

/-!
# Threads interleaved over a shared state

A concurrent program is a shared state and a pool of threads. Each thread runs by atomic steps,
and the program's semantics is every order in which they can be taken. One atomic step of a
thread `t` gives the new shared state and the threads that take `t`'s place: its continuation,
if it goes on, then the threads it starts. The step may depend on an answer of the outside
world `ω` (whether a query succeeds, what time it is), so a schedule names, for each step, the
thread that takes it and the answer it gets. New threads also come from outside (a user's
call, a timer): a schedule may start one at any point.

A thread that continues keeps its place in the pool (`exec_step_continue`), so that a schedule
can follow one thread by its index. The rule for whole runs is `run_invariant`: what every
start of an allowed thread and every atomic step keeps holds after every run;
`shared_invariant` is its form for a property of the shared state alone.
-/

set_option autoImplicit false

namespace Interleaving

/-- The shared state and the threads that run over it. -/
structure Config (G L : Type) where
  shared : G
  threads : List L

/-- What happens next: a thread starts, or thread `i` takes one atomic step with the outside
world answering `ω`. -/
inductive Event (L Ω : Type) where
  | spawn (t : L)
  | step (i : Nat) (ω : Ω)

variable {G L Ω : Type} (atomic : G → L → Ω → G × List L)

/-- One event. A step of a thread that does not exist changes nothing. -/
def Config.exec (c : Config G L) : Event L Ω → Config G L
  | .spawn t => ⟨c.shared, c.threads ++ [t]⟩
  | .step i ω =>
    match c.threads[i]? with
    | some t =>
      let r := atomic c.shared t ω
      ⟨r.1, c.threads.take i ++ r.2 ++ c.threads.drop (i + 1)⟩
    | none => c

/-- A schedule, event after event. -/
def Config.run (c : Config G L) (es : List (Event L Ω)) : Config G L :=
  es.foldl (Config.exec atomic) c

variable {atomic}

@[simp] theorem run_nil (c : Config G L) : c.run atomic [] = c := rfl

@[simp] theorem run_cons (c : Config G L) (e : Event L Ω) (es : List (Event L Ω)) :
    c.run atomic (e :: es) = (c.exec atomic e).run atomic es := rfl

theorem exec_step_of_getElem? {c : Config G L} {i : Nat} {t : L} (ω : Ω)
    (h : c.threads[i]? = some t) :
    c.exec atomic (.step i ω) =
      ⟨(atomic c.shared t ω).1, c.threads.take i ++ (atomic c.shared t ω).2 ++ c.threads.drop (i + 1)⟩ := by
  simp only [Config.exec, h]

/-- A thread that goes on stays where it was. -/
theorem exec_step_continue {c : Config G L} {i : Nat} {t k : L} {ω : Ω} {g : G}
    (h : c.threads[i]? = some t) (hstep : atomic c.shared t ω = (g, [k])) :
    c.exec atomic (.step i ω) = ⟨g, c.threads.set i k⟩ := by
  have hi : i < c.threads.length := (List.getElem?_eq_some_iff.mp h).1
  rw [exec_step_of_getElem? ω h, hstep, List.set_eq_take_append_cons_drop, if_pos hi]
  simp

/-- **The rule of runs.** An invariant that holds at the start, is kept when an allowed thread
starts and is kept by every atomic step holds after every schedule that starts only allowed
threads. -/
theorem run_invariant (I : Config G L → Prop) (allowed : L → Prop)
    (hspawn : ∀ c t, allowed t → I c → I (c.exec atomic (.spawn t)))
    (hstep : ∀ c i ω, I c → I (c.exec atomic (.step i ω))) :
    ∀ (es : List (Event L Ω)) (c : Config G L), (∀ t, Event.spawn t ∈ es → allowed t) →
      I c → I (c.run atomic es)
  | [], _, _, hc => hc
  | e :: es, c, hes, hc => by
    rw [run_cons]
    refine run_invariant I allowed hspawn hstep es _
      (fun t ht => hes t (List.mem_cons_of_mem e ht)) ?_
    cases e with
    | spawn t => exact hspawn c t (hes t List.mem_cons_self) hc
    | step i ω => exact hstep c i ω hc

/-- A property of the shared state that every atomic step keeps holds after every run. -/
theorem shared_invariant (P : G → Prop) (hstep : ∀ g t ω, P g → P (atomic g t ω).1)
    (es : List (Event L Ω)) (c : Config G L) (hc : P c.shared) : P (c.run atomic es).shared := by
  refine run_invariant (fun c => P c.shared) (fun _ => True) (fun _ _ _ h => h) ?_ es c
    (fun _ _ => trivial) hc
  intro c i ω h
  cases ht : c.threads[i]? with
  | none => rw [Config.exec, ht]; exact h
  | some t => rw [exec_step_of_getElem? ω ht]; exact hstep _ t ω h

/-- The pool before a step of thread `i` is that thread and the others; after it, what the
step leaves in its place and the same others. -/
theorem exec_step_perm {c : Config G L} {i : Nat} {t : L} (ω : Ω) (h : c.threads[i]? = some t) :
    c.threads.Perm (t :: c.threads.eraseIdx i) ∧
      (c.exec atomic (.step i ω)).threads.Perm
        ((atomic c.shared t ω).2 ++ c.threads.eraseIdx i) := by
  obtain ⟨hi, hget⟩ := List.getElem?_eq_some_iff.mp h
  have hsplit : c.threads = c.threads.take i ++ t :: c.threads.drop (i + 1) := by
    conv => lhs; rw [← List.take_append_drop i c.threads]
    rw [List.drop_eq_getElem_cons hi, hget]
  rw [List.eraseIdx_eq_take_drop_succ, exec_step_of_getElem? ω h]
  constructor
  · conv => lhs; rw [hsplit]
    exact List.perm_middle
  · -- the threads the step leaves move to the front
    have hmove : ((c.threads.take i ++ (atomic c.shared t ω).2) ++ c.threads.drop (i + 1)).Perm
        (((atomic c.shared t ω).2 ++ c.threads.take i) ++ c.threads.drop (i + 1)) :=
      List.perm_append_comm.append_right _
    rwa [List.append_assoc (atomic c.shared t ω).2] at hmove

/-- **The rule of runs, for an invariant that does not read the order of the threads.** It is
enough that it holds at the start, is kept when an allowed thread starts, and is kept when one
thread, taken out of the pool, is replaced by what its step leaves. -/
theorem run_invariant_perm (I : G → List L → Prop) (allowed : L → Prop)
    (hperm : ∀ g ts ts', ts.Perm ts' → I g ts → I g ts')
    (hspawn : ∀ g ts t, allowed t → I g ts → I g (t :: ts))
    (hstep : ∀ g t rest ω, I g (t :: rest) → I (atomic g t ω).1 ((atomic g t ω).2 ++ rest))
    (es : List (Event L Ω)) (c : Config G L) (hes : ∀ t, Event.spawn t ∈ es → allowed t)
    (hc : I c.shared c.threads) : I (c.run atomic es).shared (c.run atomic es).threads := by
  refine run_invariant (fun c => I c.shared c.threads) allowed ?_ ?_ es c hes hc
  · intro c t ht hc
    exact hperm _ _ _ (List.perm_append_singleton t c.threads).symm (hspawn _ _ t ht hc)
  · intro c i ω hc
    cases ht : c.threads[i]? with
    | none =>
      rw [Config.exec, ht]
      exact hc
    | some t =>
      obtain ⟨hbefore, hafter⟩ := exec_step_perm ω ht
      have hshared : (c.exec atomic (.step i ω)).shared = (atomic c.shared t ω).1 := by
        rw [exec_step_of_getElem? ω ht]
      rw [hshared]
      exact hperm _ _ _ hafter.symm (hstep _ t _ ω (hperm _ _ _ hbefore hc))

end Interleaving
