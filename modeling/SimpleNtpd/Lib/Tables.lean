import Mathlib.Algebra.Ring.Nat
import Mathlib.Data.List.AList
import Mathlib.Data.List.Dedup

/-!
# The size of a table

How many entries an association list has after an insertion and a removal, what all of
them have in common, and what they come to together.
-/

namespace Tables

variable {α : Type*} {β : α → Type*}

/-- A table has as many entries as keys. -/
theorem length_entries (s : AList β) : s.entries.length = s.keys.length :=
  (List.length_map _).symm

variable [DecidableEq α] {s : AList β} {a : α} {b : β a}

/-- To replace an entry leaves the size. -/
theorem length_insert_of_mem (h : a ∈ s) : (s.insert a b).entries.length = s.entries.length := by
  rw [length_entries, length_entries, AList.keys_insert, List.length_cons,
    List.length_erase_of_mem h]
  exact Nat.succ_pred_eq_of_pos (List.length_pos_of_mem h)

/-- A new entry adds one. -/
theorem length_insert_of_notMem (h : a ∉ s) :
    (s.insert a b).entries.length = s.entries.length + 1 := by
  rw [AList.entries_insert_of_notMem h, List.length_cons]

/-- A removed entry takes one. -/
theorem length_erase_of_mem (h : a ∈ s) :
    (s.erase a).entries.length + 1 = s.entries.length := by
  rw [length_entries, length_entries, AList.keys_erase, List.length_erase_of_mem h]
  exact Nat.succ_pred_eq_of_pos (List.length_pos_of_mem h)

/-- A list with all the keys has at least as many different items as the table has
entries. -/
theorem length_entries_le (s : AList β) {l : List α} (h : ∀ e ∈ s.entries, e.1 ∈ l) :
    s.entries.length ≤ l.dedup.length := by
  rw [length_entries]
  refine (List.subperm_of_subset s.keys_nodup fun a ha => ?_).length_le
  obtain ⟨e, he, rfl⟩ := List.mem_map.mp ha
  exact List.mem_dedup.mpr (h e he)

/-- What holds of the old entries and of the inserted one holds of all. -/
theorem forall_insert {P : Sigma β → Prop} (h : ∀ e ∈ s.entries, P e) (hnew : P ⟨a, b⟩) :
    ∀ e ∈ (s.insert a b).entries, P e := by
  intro e he
  rw [AList.entries_insert, List.mem_cons] at he
  rcases he with rfl | hold
  · exact hnew
  · exact h e ((List.kerase_sublist a s.entries).subset hold)

/-- What the entries come to together. -/
def total (f : Sigma β → ℕ) (s : AList β) : ℕ := (s.entries.map f).sum

/-- A new entry is added. -/
theorem total_insert_of_notMem (f : Sigma β → ℕ) (h : a ∉ s) :
    total f (s.insert a b) = f ⟨a, b⟩ + total f s := by
  rw [total, AList.entries_insert_of_notMem h, List.map_cons, List.sum_cons, total]

/-- An entry that is replaced is taken away. -/
theorem total_insert_of_lookup (f : Sigma β → ℕ) {b₀ : β a} (h : s.lookup a = some b₀) :
    total f (s.insert a b) + f ⟨a, b₀⟩ = total f s + f ⟨a, b⟩ := by
  have hmem : a ∈ s.keys := AList.mem_keys.mp (AList.lookup_isSome.mp (by rw [h]; rfl))
  obtain ⟨b₁, pre, post, -, hentries, herase⟩ := List.exists_of_kerase hmem
  have hb : b₁ = b₀ := by
    have hlookup := AList.mem_lookup_iff.mpr (show (⟨a, b₁⟩ : Sigma β) ∈ s.entries by
      rw [hentries]; exact List.mem_append_right _ List.mem_cons_self)
    exact Option.some.inj (hlookup.symm.trans h)
  subst hb
  rw [total, AList.entries_insert, herase, total, hentries]
  simp only [List.map_cons, List.map_append, List.sum_cons, List.sum_append]
  omega

end Tables
