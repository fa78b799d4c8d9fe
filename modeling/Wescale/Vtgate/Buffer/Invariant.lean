import Mathlib
import Wescale.Vtgate.Buffer.ShardBuffer

/-!
# What every interleaving of the failover buffer keeps

`Inv` is the invariant of the buffer's goroutines. It reads a buffer through its `Core`: the
semaphore's free slots and its counts, each shard's state and queue, and each entry's shard and
the closes of its `done` channel. Its fields say:

- every slot is free, held by an entry still to unblock, or held by a goroutine that will release
  it (`Inv.slots`), and the semaphore has released no more than it gave (`Inv.counts`);
- an entry's `done` is closed at most once (`Inv.closes_le`), and it is still open exactly while
  the entry waits in its shard's queue or in the list of its shard's drain (`Inv.closes_eq_nil`);
- a queue, and the list a drain holds, has each entry once, and only entries of its own shard;
  a shard has at most one drain, while it is draining, and a queue exactly while it is
  buffering.

Each step of a goroutine changes the core in one of a few ways (`Core.start`, `Core.push`,
`Core.evictFull`, `Core.unblockQueued`, `Core.release`, `Core.drainNext`, `Core.drainEnd`,
`Core.stop`), or not at all; each of them keeps `Inv` (`Inv.push` and the rest), so every step
does (`Inv.step`), and every run from an initial buffer does (`Reachable.inv`).
-/

set_option autoImplicit false
set_option linter.dupNamespace false

namespace Wescale.Vtgate.Buffer

open Interleaving

variable {σ : Type}

/-- What the invariant reads of a buffer. -/
structure Core (σ : Type) where
  slots : Nat
  acquired : Nat
  released : Nat
  states : σ → BufferState
  queues : σ → Option (List Nat)
  entries : List (σ × List Unblocker)

/-- The core of a buffer. -/
def Buffer.core (b : Buffer σ) : Core σ where
  slots := b.bufferSizeSema.slots
  acquired := b.acquired
  released := b.released
  states s := (b.buffers s).state
  queues s := (b.buffers s).queue
  entries := b.entries.map fun x => (x.shard, x.closes)

/-- A goroutine that will release a slot: `waitForRequestFinish` with `releaseSlot`, or a drain
waiting for an entry. -/
def Goroutine.releasesSlot : Goroutine σ → Bool
  | .waitForRequestFinish _ true => true
  | .drain _ _ _ (some _) => true
  | _ => false

/-- The shard of a drain goroutine. -/
def Goroutine.drainOf : Goroutine σ → Option σ
  | .drain s _ _ _ => some s
  | _ => none

/-- A goroutine that holds no slot and no entry to unblock. -/
def Goroutine.Passive (t : Goroutine σ) : Prop :=
  t.releasesSlot = false ∧ t.drainOf = none

namespace Core

/-- The shard of entry `e`. -/
def shardOf (k : Core σ) (e : Nat) : Option σ := k.entries[e]?.map Prod.fst

/-- The closes of entry `e`'s `done`. -/
def closesOf (k : Core σ) (e : Nat) : Option (List Unblocker) := k.entries[e]?.map Prod.snd

/-- Entry `e` is in the queue of shard `s`. -/
def InQueue (k : Core σ) (s : σ) (e : Nat) : Prop := ∃ q, k.queues s = some q ∧ e ∈ q

/-- An entry waits to be unblocked: it is in the queue of its shard or in the list of its
shard's drain. -/
def Waiting (k : Core σ) (ts : List (Goroutine σ)) (e : Nat) : Prop :=
  ∃ s, k.shardOf e = some s ∧ (k.InQueue s e ∨ ∃ q err w, Goroutine.drain s q err w ∈ ts ∧ e ∈ q)

/-- The entries whose `done` is still open. -/
def openCount (k : Core σ) : Nat :=
  k.entries.countP fun x => x.2.isEmpty

/-! ## How a step can change the core -/

section

variable [DecidableEq σ]

/-- `startBufferingLocked` on shard `s`. -/
def start (k : Core σ) (s : σ) : Core σ :=
  { k with
    states := Function.update k.states s .buffering
    queues := Function.update k.queues s (some []) }

/-- `done` of entry `e` closed by `u`. -/
def close (k : Core σ) (e : Nat) (u : Unblocker) : Core σ :=
  { k with entries := k.entries.modify e fun x => (x.1, x.2 ++ [u]) }

/-- A new entry of shard `s`, whose queue becomes `q` and the entry. -/
def appendEntry (k : Core σ) (s : σ) (q : List Nat) : Core σ :=
  { k with
    queues := Function.update k.queues s (some (q ++ [k.entries.length]))
    entries := k.entries ++ [(s, [])] }

/-- `bufferRequestLocked` with a slot taken. -/
def push (k : Core σ) (s : σ) (q : List Nat) : Core σ :=
  { k.appendEntry s q with slots := k.slots - 1, acquired := k.acquired + 1 }

/-- `bufferRequestLocked` on a full buffer: the oldest entry is evicted and the new one takes
its slot. -/
def evictFull (k : Core σ) (s : σ) (oldest : Nat) (rest : List Nat) : Core σ :=
  (k.close oldest .evictedBufferFull).appendEntry s rest

/-- An entry taken out of its shard's queue `q` and unblocked by `u`: `remove` and
`evictOldestEntry`. -/
def unblockQueued (k : Core σ) (s : σ) (q : List Nat) (e : Nat) (u : Unblocker) : Core σ :=
  { k.close e u with queues := Function.update k.queues s (some (q.erase e)) }

/-- `Release`. -/
def release (k : Core σ) : Core σ :=
  { k with slots := k.slots + 1, released := k.released + 1 }

/-- The end of a drain. -/
def drainEnd (k : Core σ) (s : σ) : Core σ :=
  { k with states := Function.update k.states s .idle }

/-- `stopBufferingLocked`: the shard drains, its queue cleared. -/
def stop (k : Core σ) (s : σ) : Core σ :=
  { k with
    states := Function.update k.states s .draining
    queues := Function.update k.queues s none }

end

end Core

/-! ## The entries under each change -/

namespace Core

variable {k : Core σ}

theorem shardOf_close (e : Nat) (u : Unblocker) (i : Nat) :
    (k.close e u).shardOf i = k.shardOf i := by
  unfold shardOf close
  rw [List.getElem?_modify]
  cases k.entries[i]? with
  | none => rfl
  | some x =>
    simp only [Option.map_some, Option.map_eq_map, Option.some.injEq]
    split <;> rfl

theorem closesOf_close (e : Nat) (u : Unblocker) (i : Nat) :
    (k.close e u).closesOf i = if e = i then (k.closesOf i).map (· ++ [u]) else k.closesOf i := by
  unfold closesOf close
  rw [List.getElem?_modify]
  cases k.entries[i]? with
  | none => split <;> rfl
  | some x =>
    simp only [Option.map_some, Option.map_eq_map]
    split <;> rfl

/-- Closing an open `done` leaves one open entry fewer. -/
theorem openCount_close {e : Nat} (u : Unblocker) (h : k.closesOf e = some []) :
    (k.close e u).openCount + 1 = k.openCount := by
  obtain ⟨x, hx, hx2⟩ : ∃ x, k.entries[e]? = some x ∧ x.2 = [] := by
    unfold closesOf at h
    cases hx : k.entries[e]? with
    | none => rw [hx] at h; cases h
    | some x => rw [hx] at h; exact ⟨x, rfl, Option.some.inj h⟩
  obtain ⟨hlt, hget⟩ := List.getElem?_eq_some_iff.mp hx
  have hset : k.entries.modify e (fun x => (x.1, x.2 ++ [u])) =
      k.entries.set e (x.1, x.2 ++ [u]) := by
    rw [List.modify_eq_set_getElem?, hx]
    rfl
  have hpos : 0 < k.entries.countP fun x => x.2.isEmpty :=
    List.countP_pos_iff.mpr ⟨x, hget ▸ List.getElem_mem hlt, by rw [hx2]; rfl⟩
  unfold openCount close
  rw [hset, List.countP_set hlt, hget, hx2]
  simp only [List.isEmpty_nil, List.nil_append, List.isEmpty_cons, ite_true,
    Bool.false_eq_true, ite_false]
  omega

/-- An entry with a shard is an entry. -/
theorem lt_of_shardOf {e : Nat} {s : σ} (h : k.shardOf e = some s) : e < k.entries.length := by
  unfold shardOf at h
  by_contra hge
  rw [List.getElem?_eq_none (by omega)] at h
  cases h

/-- An entry with a shard has closes. -/
theorem closesOf_of_shardOf {e : Nat} {s : σ} (h : k.shardOf e = some s) :
    ∃ c, k.closesOf e = some c := by
  unfold shardOf at h
  unfold closesOf
  cases hx : k.entries[e]? with
  | none => rw [hx] at h; cases h
  | some x => exact ⟨x.2, rfl⟩

end Core

/-! ## The goroutines the invariant reads -/

/-- The goroutines with a shard's drain are its drains. -/
theorem Goroutine.eq_drain_of_drainOf {t : Goroutine σ} {s : σ} (h : t.drainOf = some s) :
    ∃ q err w, t = .drain s q err w := by
  cases t <;> cases h
  exact ⟨_, _, _, rfl⟩

/-- A goroutine that does not release leaves the count of those that do. -/
theorem Goroutine.countP_releasesSlot_cons {t : Goroutine σ} (ht : t.releasesSlot = false)
    (ts : List (Goroutine σ)) :
    (t :: ts).countP Goroutine.releasesSlot = ts.countP Goroutine.releasesSlot :=
  List.countP_cons_of_neg (by rw [ht]; exact Bool.false_ne_true)

namespace Core

variable {k k' : Core σ}

/-- An entry waits in a pool as in one with the same drains, whatever they wait for. -/
theorem Waiting.mono {ts ts' : List (Goroutine σ)} {e : Nat}
    (hdrain : ∀ s q err w, Goroutine.drain s q err w ∈ ts → ∃ w', Goroutine.drain s q err w' ∈ ts')
    (h : k.Waiting ts e) : k.Waiting ts' e := by
  obtain ⟨s, hs, hq | ⟨q, err, w, hd, he⟩⟩ := h
  · exact ⟨s, hs, .inl hq⟩
  · obtain ⟨w', hd'⟩ := hdrain _ _ _ _ hd
    exact ⟨s, hs, .inr ⟨q, err, w', hd', he⟩⟩

/-- An entry waits in two cores alike if it has the same shard and the same queues. -/
theorem waiting_iff {ts : List (Goroutine σ)} {e : Nat} (hshard : k'.shardOf e = k.shardOf e)
    (hq : ∀ s, k'.InQueue s e ↔ k.InQueue s e) : k'.Waiting ts e ↔ k.Waiting ts e := by
  simp only [Waiting, hshard, hq]

/-- An entry waits in a pool whose first drain holds more of its shard's entries. -/
theorem Waiting.of_drain_cons {s : σ} {q q' : List Nat} {err err' : Option BufferError}
    {w w' : Option Nat} {rest : List (Goroutine σ)} {e : Nat} (he : e ∈ q → e ∈ q')
    (h : k.Waiting (.drain s q err w :: rest) e) : k.Waiting (.drain s q' err' w' :: rest) e := by
  obtain ⟨s₁, hs₁, hin | ⟨q₁, err₁, w₁, hd, hmem⟩⟩ := h
  · exact ⟨s₁, hs₁, .inl hin⟩
  · rcases List.mem_cons.mp hd with hd | hd
    · cases hd
      exact ⟨_, hs₁, .inr ⟨q', err', w', List.mem_cons_self, he hmem⟩⟩
    · exact ⟨s₁, hs₁, .inr ⟨q₁, err₁, w₁, List.mem_cons_of_mem _ hd, hmem⟩⟩

end Core

variable [DecidableEq σ]

/-- What the invariant says of the entries, the queues and the drains. -/
structure Shape (k : Core σ) (ts : List (Goroutine σ)) : Prop where
  closes_le : ∀ e c, k.closesOf e = some c → c.length ≤ 1
  closes_eq_nil : ∀ e c, k.closesOf e = some c → (c = [] ↔ k.Waiting ts e)
  queue : ∀ s q, k.queues s = some q → q.Nodup ∧ ∀ e ∈ q, k.shardOf e = some s
  drain : ∀ s q err w, Goroutine.drain s q err w ∈ ts →
    q.Nodup ∧ (∀ e ∈ q, k.shardOf e = some s) ∧ k.states s = .draining
  oneDrain : ∀ s, ts.countP (fun t => t.drainOf = some s) ≤ 1
  state : ∀ s, k.states s = .buffering ↔ (k.queues s).isSome

/-- The invariant of the buffer's goroutines, for a buffer of `cfg.size` slots: the shape, and
the count of the slots. -/
structure Inv (cfg : Config) (k : Core σ) (ts : List (Goroutine σ)) : Prop extends Shape k ts where
  slots : k.slots + k.openCount + ts.countP Goroutine.releasesSlot = cfg.size
  counts : k.slots + k.acquired = cfg.size + k.released

variable {cfg : Config} {k k' : Core σ} {ts : List (Goroutine σ)}

namespace Shape

/-- The shape reads the goroutines only through their drains. -/
theorem of_threads {ts' : List (Goroutine σ)} (h : Shape k ts)
    (hdrain : ∀ s q err w, Goroutine.drain s q err w ∈ ts' → ∃ w', Goroutine.drain s q err w' ∈ ts)
    (hdrain' : ∀ s q err w, Goroutine.drain s q err w ∈ ts → ∃ w', Goroutine.drain s q err w' ∈ ts')
    (hone : ∀ s, ts'.countP (fun t => t.drainOf = some s) ≤
      ts.countP (fun t => t.drainOf = some s)) :
    Shape k ts' where
  closes_le := h.closes_le
  closes_eq_nil e c hc :=
    (h.closes_eq_nil e c hc).trans ⟨Core.Waiting.mono hdrain', Core.Waiting.mono hdrain⟩
  queue := h.queue
  drain s q err w hd := by
    obtain ⟨w', hd'⟩ := hdrain s q err w hd
    exact h.drain s q err w' hd'
  oneDrain s := Nat.le_trans (hone s) (h.oneDrain s)
  state := h.state

/-- A shard that is not buffering has no queue. -/
theorem queue_eq_none (h : Shape k ts) {s : σ} (hs : k.states s ≠ .buffering) :
    k.queues s = none :=
  Option.not_isSome_iff_eq_none.mp fun hq => hs ((h.state s).mpr hq)

/-- A shard that is not draining has no drain. -/
theorem not_drain (h : Shape k ts) {s : σ} (hs : k.states s ≠ .draining) {q : List Nat}
    {err : Option BufferError} {w : Option Nat} : Goroutine.drain s q err w ∉ ts :=
  fun hd => hs (h.drain s q err w hd).2.2

/-- An entry of a queue is an open entry of its shard. -/
theorem closesOf_of_mem (h : Shape k ts) {s : σ} {q : List Nat} (hq : k.queues s = some q)
    {e : Nat} (he : e ∈ q) : k.shardOf e = some s ∧ k.closesOf e = some [] := by
  have hs : k.shardOf e = some s := (h.queue s q hq).2 e he
  obtain ⟨c, hc⟩ := Core.closesOf_of_shardOf hs
  have hnil : c = [] := (h.closes_eq_nil e c hc).mpr ⟨s, hs, .inl ⟨q, hq, he⟩⟩
  exact ⟨hs, hnil ▸ hc⟩

/-- An entry of a drain's list is an open entry of its shard. -/
theorem closesOf_of_drain (h : Shape k ts) {s : σ} {q : List Nat} {err : Option BufferError}
    {w : Option Nat} (hd : Goroutine.drain s q err w ∈ ts) {e : Nat} (he : e ∈ q) :
    k.shardOf e = some s ∧ k.closesOf e = some [] := by
  have hs : k.shardOf e = some s := (h.drain s q err w hd).2.1 e he
  obtain ⟨c, hc⟩ := Core.closesOf_of_shardOf hs
  have hnil : c = [] := (h.closes_eq_nil e c hc).mpr ⟨s, hs, .inr ⟨q, err, w, hd, he⟩⟩
  exact ⟨hs, hnil ▸ hc⟩

/-- The drains keep their shape when no state changes and every entry keeps its shard. -/
theorem drain_of_shard (h : Shape k ts) (hstates : k'.states = k.states)
    (hshard : ∀ e s', k.shardOf e = some s' → k'.shardOf e = some s') :
    ∀ s q err w, Goroutine.drain s q err w ∈ ts →
      q.Nodup ∧ (∀ e ∈ q, k'.shardOf e = some s) ∧ k'.states s = .draining := by
  intro s q err w hd
  obtain ⟨hnodup, hmem, hdraining⟩ := h.drain s q err w hd
  exact ⟨hnodup, fun e he => hshard e s (hmem e he), hstates ▸ hdraining⟩

/-- A goroutine that is no drain can end. -/
theorem erase {t : Goroutine σ} (h : Shape k (t :: ts)) (ht : t.drainOf = none) : Shape k ts := by
  refine h.of_threads (fun _ _ _ w hd => ⟨w, List.mem_cons_of_mem t hd⟩) ?_ fun s => ?_
  · intro s q err w hd
    rcases List.mem_cons.mp hd with hd | hd
    · subst hd
      cases ht
    · exact ⟨w, hd⟩
  · rw [List.countP_cons, ht]
    simp

/-- A goroutine that is no drain can start. -/
theorem cons {t : Goroutine σ} (h : Shape k ts) (ht : t.drainOf = none) : Shape k (t :: ts) := by
  refine h.of_threads ?_ (fun _ _ _ w hd => ⟨w, List.mem_cons_of_mem t hd⟩) fun s => ?_
  · intro s q err w hd
    rcases List.mem_cons.mp hd with hd | hd
    · subst hd
      cases ht
    · exact ⟨w, hd⟩
  · rw [List.countP_cons, ht]
    simp

/-- The drain of a shard is its only one. -/
theorem not_drain_of_cons {s : σ} {q : List Nat} {err : Option BufferError} {w : Option Nat}
    (h : Shape k (.drain s q err w :: ts)) (q' : List Nat)
    (err' : Option BufferError) (w' : Option Nat) : Goroutine.drain s q' err' w' ∉ ts := by
  intro hd
  have hone := h.oneDrain s
  have hpos : 0 < ts.countP (fun t => t.drainOf = some s) :=
    List.countP_pos_iff.mpr ⟨_, hd, by simp [Goroutine.drainOf]⟩
  rw [List.countP_cons_of_pos (by simp [Goroutine.drainOf])] at hone
  omega

/-- The shape reads no count of the semaphore. -/
theorem congr (h : Shape k ts) (hentries : k'.entries = k.entries) (hqueues : k'.queues = k.queues)
    (hstates : k'.states = k.states) : Shape k' ts := by
  obtain ⟨_, _, _, states, queues, entries⟩ := k
  obtain ⟨_, _, _, states', queues', entries'⟩ := k'
  dsimp only at hentries hqueues hstates
  subst hentries hqueues hstates
  exact ⟨h.closes_le, h.closes_eq_nil, h.queue, h.drain, h.oneDrain, h.state⟩

/-- The shape does not read which entry a drain waits for. -/
theorem drain_wait {s : σ} {q : List Nat} {err : Option BufferError} {w : Option Nat}
    (h : Shape k (.drain s q err w :: ts)) (w' : Option Nat) : Shape k (.drain s q err w' :: ts) := by
  refine h.of_threads ?_ ?_ fun s' => ?_
  · intro s₁ q₁ err₁ w₁ hd
    rcases List.mem_cons.mp hd with hd | hd
    · cases hd
      exact ⟨w, List.mem_cons_self⟩
    · exact ⟨w₁, List.mem_cons_of_mem _ hd⟩
  · intro s₁ q₁ err₁ w₁ hd
    rcases List.mem_cons.mp hd with hd | hd
    · cases hd
      exact ⟨w', List.mem_cons_self⟩
    · exact ⟨w₁, List.mem_cons_of_mem _ hd⟩
  · simp only [List.countP_cons, Goroutine.drainOf]
    exact Nat.le_refl _

end Shape

/-- The invariant reads the goroutines only through their drains and the number of those that
release. -/
theorem Inv.of_threads {ts' : List (Goroutine σ)} (h : Inv cfg k ts)
    (hdrain : ∀ s q err w, Goroutine.drain s q err w ∈ ts' → ∃ w', Goroutine.drain s q err w' ∈ ts)
    (hdrain' : ∀ s q err w, Goroutine.drain s q err w ∈ ts → ∃ w', Goroutine.drain s q err w' ∈ ts')
    (hone : ∀ s, ts'.countP (fun t => t.drainOf = some s) ≤
      ts.countP (fun t => t.drainOf = some s))
    (hrel : ts'.countP Goroutine.releasesSlot = ts.countP Goroutine.releasesSlot) :
    Inv cfg k ts' :=
  ⟨h.toShape.of_threads hdrain hdrain' hone, by rw [hrel]; exact h.slots, h.counts⟩

/-- The invariant does not read the order of the goroutines. -/
theorem Inv.perm {ts' : List (Goroutine σ)} (h : Inv cfg k ts) (hp : ts.Perm ts') :
    Inv cfg k ts' :=
  h.of_threads (fun _ _ _ w hd => ⟨w, hp.mem_iff.mpr hd⟩) (fun _ _ _ w hd => ⟨w, hp.mem_iff.mp hd⟩)
    (fun _ => Nat.le_of_eq (hp.countP_eq _).symm) (hp.countP_eq _).symm

/-- A goroutine that holds nothing can end. -/
theorem Inv.erase_passive {t : Goroutine σ} (h : Inv cfg k (t :: ts)) (ht : t.Passive) :
    Inv cfg k ts :=
  ⟨h.toShape.erase ht.2, Goroutine.countP_releasesSlot_cons ht.1 ts ▸ h.slots, h.counts⟩

/-- A goroutine that holds nothing can start. -/
theorem Inv.cons_passive {t : Goroutine σ} (h : Inv cfg k ts) (ht : t.Passive) :
    Inv cfg k (t :: ts) :=
  ⟨h.toShape.cons ht.2, (Goroutine.countP_releasesSlot_cons ht.1 ts).symm ▸ h.slots, h.counts⟩

/-! ## The new entries -/

namespace Core

theorem shardOf_appendEntry_of_lt {s : σ} {q : List Nat} {i : Nat} (h : i < k.entries.length) :
    (k.appendEntry s q).shardOf i = k.shardOf i := by
  simp only [shardOf, appendEntry, List.getElem?_append_left h]

theorem closesOf_appendEntry_of_lt {s : σ} {q : List Nat} {i : Nat} (h : i < k.entries.length) :
    (k.appendEntry s q).closesOf i = k.closesOf i := by
  simp only [closesOf, appendEntry, List.getElem?_append_left h]

theorem shardOf_appendEntry_length (s : σ) (q : List Nat) :
    (k.appendEntry s q).shardOf k.entries.length = some s := by
  simp only [shardOf, appendEntry, List.getElem?_append_right (Nat.le_refl _), Nat.sub_self,
    List.getElem?_cons_zero, Option.map_some]

theorem closesOf_appendEntry_length (s : σ) (q : List Nat) :
    (k.appendEntry s q).closesOf k.entries.length = some [] := by
  simp only [closesOf, appendEntry, List.getElem?_append_right (Nat.le_refl _), Nat.sub_self,
    List.getElem?_cons_zero, Option.map_some]

/-- Past the last entry there is none. -/
theorem closesOf_appendEntry_of_gt {s : σ} {q : List Nat} {i : Nat} (h : k.entries.length < i) :
    (k.appendEntry s q).closesOf i = none := by
  simp only [closesOf, appendEntry, Option.map_eq_none_iff, List.getElem?_eq_none_iff,
    List.length_append, List.length_singleton]
  omega

theorem openCount_appendEntry (s : σ) (q : List Nat) :
    (k.appendEntry s q).openCount = k.openCount + 1 := by
  simp only [openCount, appendEntry, List.countP_append, List.countP_singleton, List.isEmpty_nil,
    ite_true]

/-- A new queue `q'` of shard `s` holds an entry as the old one did. -/
theorem inQueue_update {s : σ} {q' : List Nat} {e : Nat}
    (hq : k'.queues = Function.update k.queues s (some q')) (he : e ∈ q' ↔ k.InQueue s e)
    (s' : σ) : k'.InQueue s' e ↔ k.InQueue s' e := by
  by_cases hs : s' = s
  · subst hs
    simp only [InQueue, hq, Function.update_self, Option.some.injEq, exists_eq_left']
    exact he
  · simp only [InQueue, hq, Function.update_of_ne hs]

end Core

namespace Shape

/-- The queues after shard `s`'s becomes `q'`, an entry keeping its shard. -/
theorem queue_update (h : Shape k ts) {s : σ} {q' : List Nat}
    (hq : k'.queues = Function.update k.queues s (some q')) (hnodup : q'.Nodup)
    (hmem : ∀ e ∈ q', k'.shardOf e = some s)
    (hshard : ∀ e s', k.shardOf e = some s' → k'.shardOf e = some s') :
    ∀ s' q, k'.queues s' = some q → q.Nodup ∧ ∀ e ∈ q, k'.shardOf e = some s' := by
  intro s' q hq'
  by_cases hs : s' = s
  · subst hs
    rw [hq, Function.update_self, Option.some.injEq] at hq'
    subst hq'
    exact ⟨hnodup, hmem⟩
  · rw [hq, Function.update_of_ne hs] at hq'
    obtain ⟨hnodup', hmem'⟩ := h.queue s' q hq'
    exact ⟨hnodup', fun e he => hshard e s' (hmem' e he)⟩

/-- A shard buffering with a new queue, the others as they were. -/
theorem state_update (h : Shape k ts) {s : σ} {q' : List Nat}
    (hq : k'.queues = Function.update k.queues s (some q')) (hs : k'.states s = .buffering)
    (hstates : ∀ s', s' ≠ s → k'.states s' = k.states s') :
    ∀ s', k'.states s' = .buffering ↔ (k'.queues s').isSome := by
  intro s'
  by_cases hs' : s' = s
  · subst hs'
    simp only [hs, hq, Function.update_self, Option.isSome_some]
  · rw [hstates s' hs', hq, Function.update_of_ne hs']
    exact h.state s'

/-- **`startBufferingLocked`** on an idle shard: an empty queue adds no waiting entry. -/
theorem start (h : Shape k ts) {s : σ} (hidle : k.states s = .idle) : Shape (k.start s) ts := by
  have hnone : k.queues s = none := h.queue_eq_none (by rw [hidle]; exact nofun)
  have hqueues : (k.start s).queues = Function.update k.queues s (some []) := rfl
  have hqueue : ∀ s' e, (k.start s).InQueue s' e ↔ k.InQueue s' e := fun s' e =>
    Core.inQueue_update hqueues (by simp only [List.not_mem_nil, Core.InQueue, hnone,
      reduceCtorEq, false_and, exists_false]) s'
  have hwait : ∀ e, (k.start s).Waiting ts e ↔ k.Waiting ts e := fun e =>
    Core.waiting_iff rfl (hqueue · e)
  refine ⟨h.closes_le, fun e c hc => (h.closes_eq_nil e c hc).trans (hwait e).symm, ?_, ?_,
    h.oneDrain, ?_⟩
  · exact h.queue_update hqueues List.nodup_nil nofun fun _ _ hs => hs
  · intro s' q err w hd
    obtain ⟨hnodup, hshard, hdraining⟩ := h.drain s' q err w hd
    have hs : s' ≠ s := by
      rintro rfl
      rw [hidle] at hdraining
      cases hdraining
    exact ⟨hnodup, hshard, by simpa only [Core.start, Function.update_of_ne hs] using hdraining⟩
  · exact h.state_update hqueues (Function.update_self ..)
      fun s' hs => Function.update_of_ne hs _ _

/-- A new entry at the end of the queue of a buffering shard: it waits there, and every other
entry waits as before. -/
theorem appendEntry (h : Shape k ts) {s : σ} {q : List Nat} (hq : k.queues s = some q) :
    Shape (k.appendEntry s q) ts := by
  -- the new entry is `k.entries.length`; every entry of the queues and drains is older
  have hlt : ∀ e s', k.shardOf e = some s' → e < k.entries.length := fun _ _ => Core.lt_of_shardOf
  have hshard : ∀ e s', k.shardOf e = some s' → (k.appendEntry s q).shardOf e = some s' :=
    fun e s' hs => (Core.shardOf_appendEntry_of_lt (hlt e s' hs)).trans hs
  have hnew : k.entries.length ∉ q := fun hn =>
    Nat.lt_irrefl _ (hlt _ s ((h.queue s q hq).2 _ hn))
  have hqueues : (k.appendEntry s q).queues =
      Function.update k.queues s (some (q ++ [k.entries.length])) := rfl
  have hwait : ∀ e, e < k.entries.length →
      ((k.appendEntry s q).Waiting ts e ↔ k.Waiting ts e) := by
    intro e he
    refine Core.waiting_iff (Core.shardOf_appendEntry_of_lt he) (Core.inQueue_update hqueues ?_)
    simp only [List.mem_append, List.mem_singleton, Nat.ne_of_lt he, or_false, Core.InQueue, hq,
      Option.some.injEq, exists_eq_left']
  have hbuf : k.states s = .buffering := (h.state s).mpr (by rw [hq]; rfl)
  refine ⟨?_, ?_, ?_, h.drain_of_shard rfl hshard, h.oneDrain,
    h.state_update hqueues hbuf fun _ _ => rfl⟩
  · intro e c hc
    rcases Nat.lt_trichotomy e k.entries.length with he | rfl | he
    · rw [Core.closesOf_appendEntry_of_lt he] at hc
      exact h.closes_le e c hc
    · rw [Core.closesOf_appendEntry_length, Option.some.injEq] at hc
      subst hc
      exact Nat.zero_le 1
    · rw [Core.closesOf_appendEntry_of_gt he] at hc
      cases hc
  · intro e c hc
    rcases Nat.lt_trichotomy e k.entries.length with he | rfl | he
    · rw [Core.closesOf_appendEntry_of_lt he] at hc
      exact (h.closes_eq_nil e c hc).trans (hwait e he).symm
    · rw [Core.closesOf_appendEntry_length, Option.some.injEq] at hc
      subst hc
      refine iff_of_true rfl
        ⟨s, Core.shardOf_appendEntry_length s q, .inl ⟨q ++ [k.entries.length], ?_, ?_⟩⟩
      · rw [hqueues, Function.update_self]
      · exact List.mem_append_right q (List.mem_singleton_self _)
    · rw [Core.closesOf_appendEntry_of_gt he] at hc
      cases hc
  · refine h.queue_update hqueues ?_ ?_ hshard
    · rw [← List.concat_eq_append]
      exact (h.queue s q hq).1.concat hnew
    · intro e he
      rcases List.mem_append.mp he with he | he
      · exact hshard e s ((h.queue s q hq).2 e he)
      · rw [List.mem_singleton.mp he]
        exact Core.shardOf_appendEntry_length s q

/-- An entry taken out of its buffering shard's queue and unblocked: it no longer waits, and
every other entry waits as before. -/
theorem unblockQueued (h : Shape k ts) {s : σ} {q : List Nat} (hq : k.queues s = some q)
    {e : Nat} (he : e ∈ q) (u : Unblocker) : Shape (k.unblockQueued s q e u) ts := by
  obtain ⟨hse, hce⟩ := h.closesOf_of_mem hq he
  have hnodup : q.Nodup := (h.queue s q hq).1
  have hbuf : k.states s = .buffering := (h.state s).mpr (by rw [hq]; rfl)
  have hqueues : (k.unblockQueued s q e u).queues =
      Function.update k.queues s (some (q.erase e)) := rfl
  have hshard : ∀ i, (k.unblockQueued s q e u).shardOf i = k.shardOf i := Core.shardOf_close e u
  have hcloses : ∀ i, (k.unblockQueued s q e u).closesOf i =
      if e = i then (k.closesOf i).map (· ++ [u]) else k.closesOf i := Core.closesOf_close e u
  refine ⟨?_, ?_, ?_, h.drain_of_shard rfl fun i s' hs => (hshard i).trans hs, h.oneDrain,
    h.state_update hqueues hbuf fun _ _ => rfl⟩
  · intro i c hc
    rw [hcloses] at hc
    split_ifs at hc with hei
    · subst hei
      simp only [hce, Option.map_some, List.nil_append, Option.some.injEq] at hc
      subst hc
      exact Nat.le_refl 1
    · exact h.closes_le i c hc
  · intro i c hc
    rw [hcloses] at hc
    split_ifs at hc with hei
    · subst hei
      simp only [hce, Option.map_some, List.nil_append, Option.some.injEq] at hc
      subst hc
      -- `e` left the queue, and its shard, buffering, has no drain
      refine iff_of_false (List.cons_ne_nil u []) ?_
      rintro ⟨s', hs', ⟨q', hq', hmem⟩ | ⟨q', err, w, hd, -⟩⟩
      · rw [hshard, hse, Option.some.injEq] at hs'
        subst hs'
        rw [hqueues, Function.update_self, Option.some.injEq] at hq'
        subst hq'
        exact hnodup.not_mem_erase hmem
      · rw [hshard, hse, Option.some.injEq] at hs'
        subst hs'
        exact h.not_drain (by rw [hbuf]; exact nofun) hd
    · have hwait : (k.unblockQueued s q e u).Waiting ts i ↔ k.Waiting ts i := by
        refine Core.waiting_iff (hshard i) (Core.inQueue_update hqueues ?_)
        simp only [List.mem_erase_of_ne (Ne.symm hei), Core.InQueue, hq, Option.some.injEq,
          exists_eq_left']
      exact (h.closes_eq_nil i c hc).trans hwait.symm
  · refine h.queue_update hqueues (hnodup.erase e) (fun i hi => ?_)
      fun i s' hs => (hshard i).trans hs
    exact (hshard i).trans ((h.queue s q hq).2 i (List.mem_of_mem_erase hi))

/-- **`stopBufferingLocked`** on a buffering shard: its queue goes to a new drain, where its
entries wait. -/
theorem stop (h : Shape k ts) {s : σ} {q : List Nat} (hq : k.queues s = some q)
    (err : Option BufferError) : Shape (k.stop s) (.drain s q err none :: ts) := by
  have hbuf : k.states s = .buffering := (h.state s).mpr (by rw [hq]; rfl)
  have hnodrain : ∀ q' err' w, Goroutine.drain s q' err' w ∉ ts := fun _ _ _ =>
    h.not_drain (by rw [hbuf]; exact nofun)
  have hqs : (k.stop s).queues s = none := Function.update_self ..
  have hss : (k.stop s).states s = .draining := Function.update_self ..
  have hstates : ∀ s', s' ≠ s → (k.stop s).states s' = k.states s' := fun _ hs =>
    Function.update_of_ne hs _ _
  have hqueues : ∀ s', s' ≠ s → (k.stop s).queues s' = k.queues s' := fun _ hs =>
    Function.update_of_ne hs _ _
  -- the entries of the queue now wait in the drain
  have hwait : ∀ e, (k.stop s).Waiting (.drain s q err none :: ts) e ↔ k.Waiting ts e := by
    intro e
    constructor
    · rintro ⟨s', hs', ⟨q', hq', he⟩ | ⟨q', err', w, hd, he⟩⟩
      · have hne : s' ≠ s := by
          rintro rfl
          rw [hqs] at hq'
          cases hq'
        exact ⟨s', hs', .inl ⟨q', (hqueues s' hne).symm.trans hq', he⟩⟩
      · rcases List.mem_cons.mp hd with hd | hd
        · cases hd
          exact ⟨_, hs', .inl ⟨q, hq, he⟩⟩
        · exact ⟨s', hs', .inr ⟨q', err', w, hd, he⟩⟩
    · rintro ⟨s', hs', ⟨q', hq', he⟩ | ⟨q', err', w, hd, he⟩⟩
      · by_cases hne : s' = s
        · subst hne
          rw [hq, Option.some.injEq] at hq'
          subst hq'
          exact ⟨s', hs', .inr ⟨q, err, none, List.mem_cons_self, he⟩⟩
        · exact ⟨s', hs', .inl ⟨q', (hqueues s' hne).trans hq', he⟩⟩
      · exact ⟨s', hs', .inr ⟨q', err', w, List.mem_cons_of_mem _ hd, he⟩⟩
  refine ⟨h.closes_le, fun e c hc => (h.closes_eq_nil e c hc).trans (hwait e).symm, ?_, ?_, ?_, ?_⟩
  · intro s' q' hq'
    have hne : s' ≠ s := by
      rintro rfl
      rw [hqs] at hq'
      cases hq'
    exact h.queue s' q' ((hqueues s' hne).symm.trans hq')
  · intro s' q' err' w hd
    rcases List.mem_cons.mp hd with hd' | hd'
    · cases hd'
      exact ⟨(h.queue s q hq).1, (h.queue s q hq).2, hss⟩
    · have hne : s' ≠ s := by
        rintro rfl
        exact hnodrain q' err' w hd'
      obtain ⟨hnodup, hmem, hdraining⟩ := h.drain s' q' err' w hd'
      exact ⟨hnodup, hmem, (hstates s' hne).trans hdraining⟩
  · intro s'
    rw [List.countP_cons]
    by_cases hne : s' = s
    · subst hne
      -- the shard had no drain before this one
      have hzero : ts.countP (fun t => t.drainOf = some s') = 0 := by
        refine List.countP_eq_zero.mpr fun t ht hdt => ?_
        obtain ⟨q', err', w, rfl⟩ := Goroutine.eq_drain_of_drainOf (of_decide_eq_true hdt)
        exact hnodrain q' err' w ht
      rw [hzero]
      simp [Goroutine.drainOf]
    · have hne' : (Goroutine.drain s q err none).drainOf ≠ some s' := fun hd =>
        hne (Option.some.inj hd).symm
      simpa [hne'] using h.oneDrain s'
  · intro s'
    by_cases hne : s' = s
    · subst hne
      simp only [hss, hqs, reduceCtorEq, Option.isSome_none, Bool.false_eq_true]
    · rw [hstates s' hne, hqueues s' hne]
      exact h.state s'

/-- The drain unblocks the next entry of its list, and waits for it. -/
theorem drainNext {s : σ} {e : Nat} {q : List Nat} {err : Option BufferError}
    {rest : List (Goroutine σ)} (h : Shape k (.drain s (e :: q) err none :: rest)) :
    Shape (k.close e .drained) (.drain s q err (some e) :: rest) := by
  have hd0 : Goroutine.drain s (e :: q) err none ∈ Goroutine.drain s (e :: q) err none :: rest :=
    List.mem_cons_self
  obtain ⟨hse, hce⟩ := h.closesOf_of_drain hd0 List.mem_cons_self
  obtain ⟨hnodup, hmem, hdraining⟩ := h.drain _ _ _ _ hd0
  have hnone : k.queues s = none := h.queue_eq_none (by rw [hdraining]; exact nofun)
  have hshard : ∀ i, (k.close e .drained).shardOf i = k.shardOf i := Core.shardOf_close e _
  have hwait : ∀ i, i ≠ e → ((k.close e .drained).Waiting (.drain s q err (some e) :: rest) i ↔
      k.Waiting (.drain s (e :: q) err none :: rest) i) := by
    intro i hi
    rw [Core.waiting_iff (hshard i) fun _ => Iff.rfl]
    exact ⟨Core.Waiting.of_drain_cons (List.mem_cons_of_mem e),
      Core.Waiting.of_drain_cons fun hm => (List.mem_cons.mp hm).resolve_left hi⟩
  refine ⟨?_, ?_, ?_, ?_, ?_, h.state⟩
  · intro i c hc
    rw [Core.closesOf_close] at hc
    split_ifs at hc with hei
    · subst hei
      simp only [hce, Option.map_some, List.nil_append, Option.some.injEq] at hc
      subst hc
      exact Nat.le_refl 1
    · exact h.closes_le i c hc
  · intro i c hc
    rw [Core.closesOf_close] at hc
    split_ifs at hc with hei
    · subst hei
      simp only [hce, Option.map_some, List.nil_append, Option.some.injEq] at hc
      subst hc
      -- `e` is neither in the drain's list any more nor in a queue or another drain
      refine iff_of_false (List.cons_ne_nil _ []) ?_
      rintro ⟨s', hs', ⟨q', hq', -⟩ | ⟨q', err', w, hd, he⟩⟩
      · rw [hshard, hse, Option.some.injEq] at hs'
        subst hs'
        cases hnone.symm.trans hq'
      · rw [hshard, hse, Option.some.injEq] at hs'
        subst hs'
        rcases List.mem_cons.mp hd with hd | hd
        · cases hd
          exact (List.nodup_cons.mp hnodup).1 he
        · exact h.not_drain_of_cons q' err' w hd
    · exact (h.closes_eq_nil i c hc).trans (hwait i (Ne.symm hei)).symm
  · intro s' q' hq'
    obtain ⟨hnodup', hmem'⟩ := h.queue s' q' hq'
    exact ⟨hnodup', fun i hi => (hshard i).trans (hmem' i hi)⟩
  · intro s' q' err' w hd
    rcases List.mem_cons.mp hd with hd | hd
    · cases hd
      exact ⟨hnodup.of_cons, fun i hi => (hshard i).trans (hmem i (List.mem_cons_of_mem e hi)),
        hdraining⟩
    · obtain ⟨hnodup', hmem', hdraining'⟩ := h.drain s' q' err' w (List.mem_cons_of_mem _ hd)
      exact ⟨hnodup', fun i hi => (hshard i).trans (hmem' i hi), hdraining'⟩
  · -- the drain keeps its shard
    exact h.oneDrain

/-- The drain of an emptied list ends, and its shard is idle again. -/
theorem drainEnd {s : σ} {err : Option BufferError} {rest : List (Goroutine σ)}
    (h : Shape k (.drain s [] err none :: rest)) : Shape (k.drainEnd s) rest := by
  have hdraining : k.states s = .draining := (h.drain s [] err none List.mem_cons_self).2.2
  have hnone : k.queues s = none := h.queue_eq_none (by rw [hdraining]; exact nofun)
  have hstates : ∀ s', s' ≠ s → (k.drainEnd s).states s' = k.states s' := fun _ hs =>
    Function.update_of_ne hs _ _
  -- the drain's list is empty, so no entry waits in it
  have hwait : ∀ e, (k.drainEnd s).Waiting rest e ↔ k.Waiting (.drain s [] err none :: rest) e := by
    intro e
    refine ⟨Core.Waiting.mono fun _ _ _ w hd => ⟨w, List.mem_cons_of_mem _ hd⟩, ?_⟩
    rintro ⟨s', hs', hin | ⟨q', err', w, hd, he⟩⟩
    · exact ⟨s', hs', .inl hin⟩
    · rcases List.mem_cons.mp hd with hd | hd
      · cases hd
        cases he
      · exact ⟨s', hs', .inr ⟨q', err', w, hd, he⟩⟩
  refine ⟨h.closes_le, fun e c hc => (h.closes_eq_nil e c hc).trans (hwait e).symm, h.queue,
    ?_, ?_, ?_⟩
  · intro s' q' err' w hd
    have hne : s' ≠ s := by
      rintro rfl
      exact h.not_drain_of_cons q' err' w hd
    obtain ⟨hnodup, hmem, hdraining'⟩ := h.drain s' q' err' w (List.mem_cons_of_mem _ hd)
    exact ⟨hnodup, hmem, (hstates s' hne).trans hdraining'⟩
  · intro s'
    refine Nat.le_trans ?_ (h.oneDrain s')
    rw [List.countP_cons]
    exact Nat.le_add_right _ _
  · intro s'
    by_cases hne : s' = s
    · subst hne
      have hidle : (k.drainEnd s').states s' = .idle := Function.update_self ..
      have hq : (k.drainEnd s').queues s' = none := hnone
      simp only [hidle, hq, reduceCtorEq, Option.isSome_none, Bool.false_eq_true]
    · rw [hstates s' hne]
      exact h.state s'

end Shape

/-! ## Each change keeps the invariant -/

/-- **`startBufferingLocked`** keeps the count of the slots. -/
theorem Inv.start (h : Inv cfg k ts) {s : σ} (hidle : k.states s = .idle) :
    Inv cfg (k.start s) ts :=
  ⟨h.toShape.start hidle, h.slots, h.counts⟩

/-- **`bufferRequestLocked`** with a slot taken: the new entry holds it. -/
theorem Inv.push (h : Inv cfg k ts) {s : σ} {q : List Nat} (hq : k.queues s = some q)
    (hslot : 0 < k.slots) : Inv cfg (k.push s q) ts := by
  have hopen : (k.push s q).openCount = k.openCount + 1 := Core.openCount_appendEntry s q
  have hslots : (k.push s q).slots = k.slots - 1 := rfl
  have hacquired : (k.push s q).acquired = k.acquired + 1 := rfl
  have hcount := h.slots
  have hcounts := h.counts
  refine ⟨(h.toShape.appendEntry hq).congr rfl rfl rfl, ?_, ?_⟩
  · rw [hopen, hslots]
    omega
  · show k.slots - 1 + (k.acquired + 1) = cfg.size + k.released
    omega

/-- **`bufferRequestLocked`** on a full buffer: the oldest entry of the shard is unblocked, and
its slot goes to the new entry. -/
theorem Inv.evictFull (h : Inv cfg k ts) {s : σ} {oldest : Nat} {rest : List Nat}
    (hq : k.queues s = some (oldest :: rest)) : Inv cfg (k.evictFull s oldest rest) ts := by
  -- the eviction is `unblockQueued` of the oldest entry, then a new entry
  have heq : k.evictFull s oldest rest =
      (k.unblockQueued s (oldest :: rest) oldest .evictedBufferFull).appendEntry s rest := by
    simp only [Core.evictFull, Core.unblockQueued, Core.appendEntry, Core.close,
      Function.update_idem]
  have hq' : (k.unblockQueued s (oldest :: rest) oldest .evictedBufferFull).queues s = some rest := by
    simp only [Core.unblockQueued, Function.update_self, List.erase_cons_head]
  have hopen : (k.unblockQueued s (oldest :: rest) oldest .evictedBufferFull).openCount + 1 =
      k.openCount :=
    Core.openCount_close _ (h.closesOf_of_mem hq List.mem_cons_self).2
  rw [heq]
  refine ⟨(h.toShape.unblockQueued hq List.mem_cons_self _).appendEntry hq', ?_, h.counts⟩
  rw [Core.openCount_appendEntry, ← h.slots, ← hopen]
  rfl

/-- **`remove`** and **`evictOldestEntry`**: an entry taken out of its queue and unblocked; the
goroutine started holds its slot until it releases it. -/
theorem Inv.unblockQueued (h : Inv cfg k ts) {s : σ} {q : List Nat} (hq : k.queues s = some q)
    {e : Nat} (he : e ∈ q) (u : Unblocker) :
    Inv cfg (k.unblockQueued s q e u) (.waitForRequestFinish e true :: ts) := by
  have hopen : (k.unblockQueued s q e u).openCount + 1 = k.openCount :=
    Core.openCount_close u (h.closesOf_of_mem hq he).2
  have hslots : (k.unblockQueued s q e u).slots = k.slots := rfl
  have hcount := h.slots
  refine ⟨(h.toShape.unblockQueued hq he u).cons rfl, ?_, h.counts⟩
  rw [List.countP_cons_of_pos rfl, hslots]
  omega

/-- **`stopBufferingLocked`**: the queue goes to a new drain, which holds no slot yet. -/
theorem Inv.stop (h : Inv cfg k ts) {s : σ} {q : List Nat} (hq : k.queues s = some q)
    (err : Option BufferError) : Inv cfg (k.stop s) (.drain s q err none :: ts) :=
  ⟨h.toShape.stop hq err,
    (Goroutine.countP_releasesSlot_cons (t := .drain s q err none) rfl ts).symm ▸ h.slots, h.counts⟩

/-- **`drain`** unblocks its next entry; it holds the entry's slot until it releases it. -/
theorem Inv.drainNext {s : σ} {e : Nat} {q : List Nat} {err : Option BufferError}
    {rest : List (Goroutine σ)} (h : Inv cfg k (.drain s (e :: q) err none :: rest)) :
    Inv cfg (k.close e .drained) (.drain s q err (some e) :: rest) := by
  have hopen : (k.close e .drained).openCount + 1 = k.openCount :=
    Core.openCount_close _ (h.closesOf_of_drain List.mem_cons_self List.mem_cons_self).2
  have hslots : (k.close e .drained).slots = k.slots := rfl
  have hcount := h.slots
  refine ⟨h.toShape.drainNext, ?_, h.counts⟩
  rw [List.countP_cons_of_pos rfl, hslots]
  rw [Goroutine.countP_releasesSlot_cons (t := .drain s (e :: q) err none) rfl] at hcount
  omega

/-- **`drain`** ends on an empty list. -/
theorem Inv.drainEnd {s : σ} {err : Option BufferError} {rest : List (Goroutine σ)}
    (h : Inv cfg k (.drain s [] err none :: rest)) : Inv cfg (k.drainEnd s) rest :=
  ⟨h.toShape.drainEnd,
    Goroutine.countP_releasesSlot_cons (t := .drain s [] err none) rfl rest ▸ h.slots, h.counts⟩

/-- **`Release`** by the goroutine of `unblockAndWait` that was to release. -/
theorem Inv.releaseFinish {e : Nat} {rest : List (Goroutine σ)}
    (h : Inv cfg k (.waitForRequestFinish e true :: rest)) : Inv cfg k.release rest := by
  have hcount := h.slots
  have hcounts := h.counts
  rw [List.countP_cons_of_pos rfl] at hcount
  refine ⟨(h.toShape.erase rfl).congr rfl rfl rfl, ?_, ?_⟩
  · show k.slots + 1 + k.openCount + _ = _
    omega
  · show k.slots + 1 + k.acquired = _ + (k.released + 1)
    omega

/-- **`Release`** by a drain, for the entry it waited for. -/
theorem Inv.releaseDrain {s : σ} {q : List Nat} {err : Option BufferError} {e : Nat}
    {rest : List (Goroutine σ)} (h : Inv cfg k (.drain s q err (some e) :: rest)) :
    Inv cfg k.release (.drain s q err none :: rest) := by
  have hcount := h.slots
  have hcounts := h.counts
  rw [List.countP_cons_of_pos rfl] at hcount
  refine ⟨(h.toShape.drain_wait none).congr rfl rfl rfl, ?_, ?_⟩
  · rw [Goroutine.countP_releasesSlot_cons (t := .drain s q err none) rfl]
    show k.slots + 1 + k.openCount + _ = _
    omega
  · show k.slots + 1 + k.acquired = _ + (k.released + 1)
    omega

end Wescale.Vtgate.Buffer
