import Mathlib.Data.List.AList
import Mathlib.Data.List.Perm.Basic
import Mathlib.Logic.Function.Basic

/-!
# Assignments to the fields of a record

A program that fills in a record from several sources stores values in fields,
one after the other. Such a program is a list of assignments, and what it leaves
in a field is the last value assigned to it or, without one, what was there
before (`Fields.get_storeAll`). So the sources take precedence in the reverse of
the order they are read in (`last_append`), and the order does not matter where
no field is assigned twice (`last_perm`). A table that is filled entry by entry is the same: a key
has the last value inserted for it (`lookup_insertAll`).
-/

namespace Assignments

variable {ι : Type*} [DecidableEq ι] {β : ι → Type*}

/-! ## The last value -/

/-- The value an assignment gives a field. -/
def valueAt (i : ι) (a : Sigma β) : Option (β i) :=
  if h : a.1 = i then some (h ▸ a.2) else none

/-- The last value a list of assignments gives a field. -/
def last (i : ι) : List (Sigma β) → Option (β i)
  | [] => none
  | a :: as => (last i as).or (valueAt i a)

@[simp] theorem valueAt_self (i : ι) (v : β i) : valueAt i ⟨i, v⟩ = some v := dif_pos rfl

theorem valueAt_of_ne {i : ι} {a : Sigma β} (h : a.1 ≠ i) : valueAt i a = none := dif_neg h

@[simp] theorem last_nil (i : ι) : last i ([] : List (Sigma β)) = none := rfl

theorem last_singleton (i : ι) (a : Sigma β) : last i [a] = valueAt i a := rfl

/-- What comes later takes precedence. -/
theorem last_append (i : ι) (as bs : List (Sigma β)) :
    last i (as ++ bs) = (last i bs).or (last i as) := by
  induction as with
  | nil =>
    show last i bs = (last i bs).or none
    rw [Option.or_none]
  | cons a as ih =>
    show (last i (as ++ bs)).or (valueAt i a) = (last i bs).or ((last i as).or (valueAt i a))
    rw [ih, Option.or_assoc]

/-- A field without an assignment has no last value. -/
theorem last_eq_none_iff {i : ι} {as : List (Sigma β)} :
    last i as = none ↔ ∀ a ∈ as, a.1 ≠ i := by
  induction as with
  | nil => exact iff_of_true rfl fun a ha => by cases ha
  | cons a as ih =>
    show (last i as).or (valueAt i a) = none ↔ _
    rw [Option.or_eq_none_iff, ih, List.forall_mem_cons, and_comm]
    refine and_congr_left fun _ => ?_
    by_cases h : a.1 = i
    · obtain ⟨j, v⟩ := a
      cases h
      exact iff_of_false (by simp) fun hne => hne rfl
    · exact iff_of_true (valueAt_of_ne h) h

/-- Nothing is assigned to a field by items none of which assigns to it. -/
theorem last_flatMap_eq_none_iff {α : Type*} {i : ι} {l : List α} {g : α → List (Sigma β)} :
    last i (l.flatMap g) = none ↔ ∀ a ∈ l, last i (g a) = none := by
  induction l with
  | nil => exact iff_of_true rfl fun a ha => nomatch ha
  | cons a l ih =>
    rw [List.flatMap_cons, last_append, Option.or_eq_none_iff, ih, List.forall_mem_cons, and_comm]

/-- Items behind one that do not assign to a field do not matter to it. -/
theorem last_flatMap_append_cons {α : Type*} {i : ι} {g : α → List (Sigma β)} {after : List α}
    (h : ∀ b ∈ after, last i (g b) = none) (before : List α) (a : α) :
    last i ((before ++ a :: after).flatMap g)
      = (last i (g a)).or (last i (before.flatMap g)) := by
  rw [List.flatMap_append, List.flatMap_cons, last_append, last_append,
    last_flatMap_eq_none_iff.mpr h, Option.none_or]

/-- The last value stems from the last item that assigns to the field. -/
theorem exists_of_last_flatMap {α : Type*} {i : ι} {v : β i} {l : List α}
    {g : α → List (Sigma β)} (h : last i (l.flatMap g) = some v) :
    ∃ before a after, l = before ++ a :: after ∧ last i (g a) = some v ∧
      ∀ b ∈ after, last i (g b) = none := by
  induction l with
  | nil => nomatch h
  | cons a l ih =>
    rw [List.flatMap_cons, last_append] at h
    rcases Option.or_eq_some_iff.mp h with htail | ⟨hnone, hhead⟩
    · obtain ⟨before, b, after, rfl, hb, hafter⟩ := ih htail
      exact ⟨a :: before, b, after, rfl, hb, hafter⟩
    · exact ⟨[], a, l, rfl, hhead, last_flatMap_eq_none_iff.mp hnone⟩

/-- An item settles a field: it gives it the value, and no item behind it gives it one. -/
def Settles {α : Type*} (g : α → List (Sigma β)) (l : List α) (a : α) (i : ι) (v : β i) : Prop :=
  ∃ before after, l = before ++ a :: after ∧ last i (g a) = some v ∧
    ∀ b ∈ after, last i (g b) = none

theorem exists_settles_iff {α : Type*} {g : α → List (Sigma β)} {l : List α} {i : ι} {v : β i} :
    (∃ a, Settles g l a i v) ↔ last i (l.flatMap g) = some v := by
  constructor
  · rintro ⟨a, before, after, rfl, ha, hafter⟩
    rw [last_flatMap_append_cons hafter, ha, Option.some_or]
  · intro h
    obtain ⟨before, a, after, hl, ha, hafter⟩ := exists_of_last_flatMap h
    exact ⟨a, before, after, hl, ha, hafter⟩

/-- What settles a field under one reading of the items is matched under the other one: there
another item settles the field with the same value, or none gives it any, and the value is
the one from before. -/
def Matched {α : Type*} (g h : α → List (Sigma β)) (l : List α) (i : ι) (start : β i) : Prop :=
  ∀ a v, Settles g l a i v →
    (∃ b, b ≠ a ∧ Settles h l b i v) ∨ (∀ b ∈ l, last i (h b) = none) ∧ v = start

/-- The last value is one of the values assigned. -/
theorem mem_of_last_eq_some {i : ι} {v : β i} {as : List (Sigma β)} (h : last i as = some v) :
    ⟨i, v⟩ ∈ as := by
  induction as with
  | nil => cases h
  | cons a as ih =>
    rcases Option.or_eq_some_iff.mp h with htail | ⟨-, hhead⟩
    · exact List.mem_cons_of_mem a (ih htail)
    · obtain ⟨j, w⟩ := a
      by_cases hj : j = i
      · subst hj
        rw [valueAt_self] at hhead
        rw [Option.some.inj hhead]
        exact List.mem_cons_self
      · rw [valueAt_of_ne hj] at hhead
        cases hhead

/-- Where no field is assigned twice, the last value is the one assigned. -/
theorem last_eq_some_iff {as : List (Sigma β)} (h : (as.map (·.1)).Nodup) {i : ι} {v : β i} :
    last i as = some v ↔ ⟨i, v⟩ ∈ as := by
  refine ⟨mem_of_last_eq_some, ?_⟩
  induction as with
  | nil => exact fun hmem => by cases hmem
  | cons a as ih =>
    rw [List.map_cons, List.nodup_cons] at h
    intro hmem
    show (last i as).or (valueAt i a) = some v
    rcases List.mem_cons.mp hmem with rfl | htail
    · -- the head's field does not occur again
      have hnone : last i as = none := by
        rw [last_eq_none_iff]
        intro b hb hi
        exact h.1 (List.mem_map.mpr ⟨b, hb, hi⟩)
      rw [hnone, Option.none_or, valueAt_self]
    · rw [ih h.2 htail, Option.some_or]

/-- Where no field is assigned twice, the order of the assignments does not
matter. -/
theorem last_perm {as bs : List (Sigma β)} (hperm : as.Perm bs) (h : (as.map (·.1)).Nodup)
    (i : ι) : last i as = last i bs := by
  have h' : (bs.map (·.1)).Nodup := (hperm.map _).nodup_iff.mp h
  refine Option.ext fun v => ?_
  rw [last_eq_some_iff h, last_eq_some_iff h', hperm.mem_iff]

/-! ## Tables -/

/-- Insert one entry after the other. -/
def insertAll (entries : List (Sigma β)) (table : AList β) : AList β :=
  entries.foldl (fun table entry => table.insert entry.1 entry.2) table

theorem insertAll_cons (entry : Sigma β) (entries : List (Sigma β)) (table : AList β) :
    insertAll (entry :: entries) table = insertAll entries (table.insert entry.1 entry.2) := rfl

/-- A key has the last value inserted for it, or the one it had before. -/
theorem lookup_insertAll (entries : List (Sigma β)) (table : AList β) (i : ι) :
    (insertAll entries table).lookup i = (last i entries).or (table.lookup i) := by
  induction entries generalizing table with
  | nil => rfl
  | cons entry entries ih =>
    obtain ⟨j, v⟩ := entry
    rw [insertAll_cons, ih]
    show _ = ((last i entries).or (valueAt i ⟨j, v⟩)).or _
    rw [Option.or_assoc]
    congr 1
    by_cases h : j = i
    · subst h
      rw [AList.lookup_insert, valueAt_self, Option.some_or]
    · rw [AList.lookup_insert_ne (Ne.symm h), valueAt_of_ne h, Option.none_or]

/-- Two tables that differ in one key only are the same once it is inserted in both. -/
theorem insertAll_congr {i : ι} {entries : List (Sigma β)} (h : ∃ entry ∈ entries, entry.1 = i)
    {s t : AList β} (hst : s.entries.kerase i = t.entries.kerase i) :
    insertAll entries s = insertAll entries t := by
  induction entries generalizing s t with
  | nil =>
    obtain ⟨entry, hentry, -⟩ := h
    cases hentry
  | cons entry entries ih =>
    obtain ⟨j, v⟩ := entry
    rw [insertAll_cons, insertAll_cons]
    by_cases hj : j = i
    · subst hj
      congr 1
      refine AList.ext ?_
      rw [AList.entries_insert, AList.entries_insert, hst]
    · obtain ⟨entry, hentry, heq⟩ := h
      rcases List.mem_cons.mp hentry with rfl | hentry
      · exact absurd heq hj
      · refine ih ⟨entry, hentry, heq⟩ ?_
        rw [AList.entries_insert, AList.entries_insert, List.kerase_cons_ne (Ne.symm hj),
          List.kerase_cons_ne (Ne.symm hj), List.kerase_comm, hst, List.kerase_comm]

/-- **An entry in front makes no difference** exactly when its key is inserted again. -/
theorem insertAll_toList_append_iff {first : Option (Sigma β)} {entries : List (Sigma β)} :
    insertAll (first.toList ++ entries) ∅ = insertAll entries ∅ ↔
      ∀ entry ∈ first, ∃ later ∈ entries, later.1 = entry.1 := by
  cases first with
  | none => exact iff_of_true rfl fun entry h => by cases h
  | some entry =>
    rw [Option.toList_some, List.singleton_append, insertAll_cons]
    constructor
    · intro h entry' hentry
      cases hentry
      by_contra hnever
      have hlast : last entry.1 entries = none :=
        last_eq_none_iff.mpr fun later hlater heq => hnever ⟨later, hlater, heq⟩
      have hlookup := congrArg (AList.lookup entry.1) h
      rw [lookup_insertAll, lookup_insertAll, hlast, AList.lookup_insert, AList.lookup_empty]
        at hlookup
      cases hlookup
    · intro h
      refine insertAll_congr (h entry rfl) ?_
      rw [AList.entries_insert, List.kerase_cons_eq rfl]

/-! ## Records -/

/-- A record type with its fields: storing changes one, and a record is
determined by what its fields hold. -/
structure Fields (ρ : Type*) {ι : Type*} [DecidableEq ι] (β : ι → Type*) where
  get : ρ → (i : ι) → β i
  set : (i : ι) → β i → ρ → ρ
  get_set : ∀ i v r, get (set i v r) = Function.update (get r) i v
  get_injective : Function.Injective get

namespace Fields

variable {ρ : Type*} (F : Fields ρ β)

/-- Carry out an assignment. -/
def store (r : ρ) (a : Sigma β) : ρ := F.set a.1 a.2 r

/-- Carry out assignments in order. -/
def storeAll (r : ρ) (as : List (Sigma β)) : ρ := as.foldl F.store r

@[simp] theorem storeAll_nil (r : ρ) : F.storeAll r [] = r := rfl

theorem storeAll_cons (r : ρ) (a : Sigma β) (as : List (Sigma β)) :
    F.storeAll r (a :: as) = F.storeAll (F.store r a) as := rfl

theorem storeAll_append (r : ρ) (as bs : List (Sigma β)) :
    F.storeAll r (as ++ bs) = F.storeAll (F.storeAll r as) bs := List.foldl_append

theorem get_store (r : ρ) (a : Sigma β) (i : ι) :
    F.get (F.store r a) i = (valueAt i a).getD (F.get r i) := by
  obtain ⟨j, v⟩ := a
  rw [store, F.get_set]
  by_cases h : j = i
  · subst h
    rw [Function.update_self, valueAt_self, Option.getD_some]
  · rw [Function.update_of_ne (Ne.symm h), valueAt_of_ne h, Option.getD_none]

/-- **A field holds the last value assigned to it**, or what it held before. -/
theorem get_storeAll (r : ρ) (as : List (Sigma β)) (i : ι) :
    F.get (F.storeAll r as) i = (last i as).getD (F.get r i) := by
  induction as generalizing r with
  | nil => rfl
  | cons a as ih =>
    rw [storeAll_cons, ih, get_store]
    show (last i as).getD _ = ((last i as).or (valueAt i a)).getD _
    cases last i as <;> rfl

/-- Two lists of assignments have the same result when every field ends with the
same value. -/
theorem storeAll_eq_iff {r r' : ρ} {as bs : List (Sigma β)} :
    F.storeAll r as = F.storeAll r' bs ↔
      ∀ i, (last i as).getD (F.get r i) = (last i bs).getD (F.get r' i) := by
  rw [← F.get_injective.eq_iff, funext_iff]
  exact forall_congr' fun i => by rw [get_storeAll, get_storeAll]

/-- The same assignments lead two records to the same one when these agree on what
is not assigned. -/
theorem storeAll_inj_iff {r r' : ρ} {as : List (Sigma β)} :
    F.storeAll r as = F.storeAll r' as ↔ ∀ i, last i as = none → F.get r i = F.get r' i := by
  rw [storeAll_eq_iff]
  refine forall_congr' fun i => ?_
  cases last i as with
  | none => exact ⟨fun h _ => h, fun h => h rfl⟩
  | some v => exact iff_of_true rfl fun h => nomatch h

/-! ## Properties of single fields -/

section

variable {P : (i : ι) → β i → Prop} {r : ρ} {as : List (Sigma β)}

/-- What the values of a record and all values assigned have, the values afterwards
have. -/
theorem forall_get_storeAll (hr : ∀ i, P i (F.get r i)) (has : ∀ a ∈ as, P a.1 a.2) (i : ι) :
    P i (F.get (F.storeAll r as) i) := by
  rw [get_storeAll]
  cases hlast : last i as with
  | none => exact hr i
  | some v => exact has ⟨i, v⟩ (mem_of_last_eq_some hlast)

/-- Where no field is assigned twice, no value assigned may lack it. -/
theorem forall_get_storeAll_iff (hr : ∀ i, P i (F.get r i)) (h : (as.map (·.1)).Nodup) :
    (∀ i, P i (F.get (F.storeAll r as) i)) ↔ ∀ a ∈ as, P a.1 a.2 := by
  constructor
  · rintro hafter ⟨i, v⟩ hmem
    have hi := hafter i
    rw [get_storeAll, (last_eq_some_iff h).mpr hmem] at hi
    exact hi
  · exact fun has i => F.forall_get_storeAll hr has i

end

end Fields

end Assignments
