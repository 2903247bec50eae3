import Mathlib.Algebra.Order.BigOperators.Group.List
import Mathlib.Algebra.Order.Group.Nat
import Mathlib.Algebra.Ring.Nat
import Mathlib.Data.List.Perm.Basic

/-!
# Queues with several consumers

Items are put into a queue. Each of several consumers takes the first item that waits,
has it in hand for a while and is done with it; what waits may be thrown away as a whole.
An item is known by its number in the order in which the items are taken.

Whatever the order of the steps, items are taken in the order in which they were put, and
every item that was taken is in one hand or done, once (`Served`). So what is spent on
the items that were taken is covered by what the items bring along (`Served.spent_le`).
-/

/-- A queue and its consumers. -/
structure WorkQueue (α : Type*) where
  /-- all that was put -/
  put : List α
  taken : List α := []
  waiting : List α := []
  /-- the number of the item each consumer has in hand -/
  hands : List (Option Nat)
  done : List Nat := []

namespace WorkQueue

variable {α : Type*}

inductive Act (α : Type*) where
  | put (a : α)
  | take (i : Nat)
  | finish (i : Nat)
  | discard

/-- One step. A consumer takes nothing before it is done. -/
def step (q : WorkQueue α) : Act α → WorkQueue α
  | .put a => { q with put := q.put ++ [a], waiting := q.waiting ++ [a] }
  | .take i =>
    match q.hands[i]?, q.waiting with
    | some none, a :: rest =>
      { q with
        taken := q.taken ++ [a]
        waiting := rest
        hands := q.hands.set i (some q.taken.length) }
    | _, _ => q
  | .finish i =>
    match q.hands[i]? with
    | some (some k) => { q with hands := q.hands.set i none, done := q.done ++ [k] }
    | _ => q
  | .discard => { q with waiting := [] }

def run (q : WorkQueue α) (acts : List (Act α)) : WorkQueue α := acts.foldl step q

/-- What the consumers have in hand. -/
def held (hands : List (Option Nat)) : List Nat := hands.filterMap id

/-- What happened to the items. -/
structure Served (q : WorkQueue α) : Prop where
  order : (q.taken ++ q.waiting).Sublist q.put
  once : (q.done ++ held q.hands).Perm (List.range q.taken.length)

/-! ## Hands -/

/-- One hand and the others. -/
theorem held_perm {hands : List (Option Nat)} {i : Nat} {o : Option Nat}
    (h : hands[i]? = some o) : (held hands).Perm (o.toList ++ held (hands.eraseIdx i)) := by
  obtain ⟨hi, rfl⟩ := List.getElem?_eq_some_iff.mp h
  have hperm := (List.getElem_cons_eraseIdx_perm hi).symm.filterMap id
  cases hhand : hands[i] with
  | none => simpa [held, hhand] using hperm
  | some k => simpa [held, hhand] using hperm

/-- What is held when one hand has changed: its new item and those of the others. -/
theorem held_set_perm {hands : List (Option Nat)} {i : Nat} {o : Option Nat}
    (h : hands[i]? = some o) (o' : Option Nat) :
    (held (hands.set i o')).Perm (o'.toList ++ held (hands.eraseIdx i)) := by
  obtain ⟨hi, -⟩ := List.getElem?_eq_some_iff.mp h
  have hset : (hands.set i o')[i]? = some o' := by simp [hi]
  have hperm := held_perm hset
  rwa [List.eraseIdx_set_eq] at hperm

theorem mem_held {hands : List (Option Nat)} {k : Nat} :
    k ∈ held hands ↔ ∃ i : Nat, hands[i]? = some (some k) := by
  rw [held, List.mem_filterMap]
  simp only [id, exists_eq_right, List.mem_iff_getElem?]

/-! ## Steps -/

/-- **One step**: an item is put, it is taken from the front, a consumer is done with
it, what waits is thrown away, or nothing changes. -/
theorem step_cases (q : WorkQueue α) (act : Act α) :
    (∃ a, act = .put a ∧ q.step act = { q with put := q.put ++ [a], waiting := q.waiting ++ [a] }) ∨
    (∃ i a rest, act = .take i ∧ q.hands[i]? = some none ∧ q.waiting = a :: rest ∧
      q.step act = { q with
        taken := q.taken ++ [a]
        waiting := rest
        hands := q.hands.set i (some q.taken.length) }) ∨
    (∃ i k, act = .finish i ∧ q.hands[i]? = some (some k) ∧
      q.step act = { q with hands := q.hands.set i none, done := q.done ++ [k] }) ∨
    (act = .discard ∧ q.step act = { q with waiting := [] }) ∨ q.step act = q := by
  cases act with
  | put a => exact .inl ⟨a, rfl, rfl⟩
  | take i =>
    rcases hhand : q.hands[i]? with _ | _ | k
    · simp [step, hhand]
    · rcases hwaiting : q.waiting with _ | ⟨a, rest⟩
      · simp [step, hhand, hwaiting]
      · exact .inr (.inl ⟨i, a, rest, rfl, hhand, rfl, by simp only [step, hhand, hwaiting]⟩)
    · simp [step, hhand]
  | finish i =>
    rcases hhand : q.hands[i]? with _ | _ | k
    · simp [step, hhand]
    · simp [step, hhand]
    · exact .inr (.inr (.inl ⟨i, k, rfl, hhand, by simp only [step, hhand]⟩))
  | discard => exact .inr (.inr (.inr (.inl ⟨rfl, rfl⟩)))

namespace Served

variable {q : WorkQueue α}

theorem start (hands : Nat) : Served { put := ([] : List α), hands := List.replicate hands none } where
  order := List.Sublist.refl []
  once := by simp [held]

/-- **Every step keeps the order, and the items.** -/
theorem step (h : q.Served) (act : Act α) : (q.step act).Served := by
  rcases q.step_cases act with ⟨a, -, heq⟩ | ⟨i, a, rest, -, hhand, hwaiting, heq⟩ |
    ⟨i, k, -, hhand, heq⟩ | ⟨-, heq⟩ | heq <;> rw [heq]
  · refine ⟨?_, h.once⟩
    rw [← List.append_assoc]
    exact h.order.append (List.Sublist.refl [a])
  · refine ⟨?_, ?_⟩
    · have horder := h.order
      rw [hwaiting] at horder
      simpa using horder
    · -- the new number is the next one
      have hbefore := (held_perm hhand).append_left q.done
      have hafter := (held_set_perm hhand (some q.taken.length)).append_left q.done
      have hnext : (q.done ++ ([q.taken.length] ++ held (q.hands.eraseIdx i))).Perm
          (q.done ++ held (q.hands.eraseIdx i) ++ [q.taken.length]) := by
        rw [List.append_assoc]
        exact List.perm_append_comm.append_left q.done
      have hrange : List.range (q.taken ++ [a]).length
          = List.range q.taken.length ++ [q.taken.length] := by
        rw [List.length_append, List.length_singleton, List.range_succ]
      rw [hrange]
      exact hafter.trans (hnext.trans ((hbefore.symm.trans h.once).append_right _))
  · refine ⟨h.order, ?_⟩
    have hbefore := (held_perm hhand).append_left q.done
    have hafter := (held_set_perm hhand none).append_left (q.done ++ [k])
    refine hafter.trans (List.Perm.trans ?_ (hbefore.symm.trans h.once))
    rw [List.append_assoc]
    rfl
  · refine ⟨?_, h.once⟩
    rw [List.append_nil]
    exact (List.sublist_append_left q.taken q.waiting).trans h.order
  · exact h

theorem run (h : q.Served) (acts : List (Act α)) : (q.run acts).Served :=
  List.foldlRecOn acts WorkQueue.step h fun _ hq act _ => hq.step act

/-- No item is done and in hand, or in two hands. -/
theorem nodup (h : q.Served) : (q.done ++ held q.hands).Nodup :=
  h.once.nodup_iff.mpr List.nodup_range

/-- Every item that was taken is done or in a hand. -/
theorem done_or_held (h : q.Served) (k : Nat) :
    k < q.taken.length ↔ k ∈ q.done ∨ ∃ i : Nat, q.hands[i]? = some (some k) := by
  rw [← mem_held, ← List.mem_append, h.once.mem_iff, List.mem_range]

/-- **What is spent on the items is covered by them**, where it is covered for each. -/
theorem spent_le (h : q.Served) {spent : Nat → Nat} {worth : α → Nat}
    (hle : ∀ (k : Nat) (a : α), q.taken[k]? = some a → spent k ≤ worth a) :
    ((List.range q.taken.length).map spent).sum ≤ (q.put.map worth).sum := by
  have htaken : (q.taken.map worth).sum ≤ (q.put.map worth).sum :=
    (((List.sublist_append_left q.taken q.waiting).trans h.order).map worth).sum_le_sum
      fun _ _ => Nat.zero_le _
  refine Nat.le_trans ?_ htaken
  have hforall : List.Forall₂ (· ≤ ·) ((List.range q.taken.length).map spent) (q.taken.map worth) := by
    refine List.forall₂_iff_get.mpr ⟨by simp, fun k hk hk' => ?_⟩
    have hbound : k < q.taken.length := by simpa using hk
    have htake := hle k _ (List.getElem?_eq_getElem hbound)
    simpa using htake
  exact hforall.sum_le_sum

end Served

/-- Nothing is lost as long as nothing is thrown away. -/
theorem order_of_no_discard (q : WorkQueue α) (h : q.put = q.taken ++ q.waiting)
    {acts : List (Act α)} (hacts : .discard ∉ acts) :
    (q.run acts).put = (q.run acts).taken ++ (q.run acts).waiting := by
  refine List.foldlRecOn (motive := fun q => q.put = q.taken ++ q.waiting) acts step h
    fun t ht act hmem => ?_
  rcases t.step_cases act with ⟨a, -, heq⟩ | ⟨i, a, rest, -, -, hwaiting, heq⟩ |
    ⟨i, k, -, -, heq⟩ | ⟨rfl, -⟩ | heq
  · rw [heq, ht, List.append_assoc]
  · rw [heq, ht, hwaiting, List.append_assoc]
    rfl
  · rw [heq]
    exact ht
  · exact absurd hmem hacts
  · rw [heq]
    exact ht

end WorkQueue
