import Mathlib.Data.List.Flatten
import Mathlib.Data.List.Infix
import Mathlib.Logic.Function.Basic

/-!
# Rotating a family of files

A store maps names to contents; a family is a sequence of names, the current file
first. A rotation removes the last member, moves each of the others up by one, the
last first, and so makes room for a new current file. Where each move finds its
target free, the contents of the family after the rotation are those before, one
place on (`shiftUp_spec`, `holds_rotate_eraseIdx`).

Over a family that is filled from the front (`Holds`), the contents are a list,
newest first. What a bounded number of files retains of the items that are added
one by one is always the end of the whole sequence (`addItem_suffix`).
-/

namespace FileFamily

variable {ν γ α : Type*} [DecidableEq ν]

/-- The contents of the files, by name. -/
abbrev Store (ν γ : Type*) := ν → Option γ

/-- Remove a file, if there is one. -/
def remove (fs : Store ν γ) (x : ν) : Store ν γ := Function.update fs x none

/-- Rename a file; a file with the new name is replaced. -/
def rename (fs : Store ν γ) (src dst : ν) : Store ν γ :=
  Function.update (Function.update fs dst (fs src)) src none

/-- Rename the member of a family to the next, if it exists. -/
def moveUp (name : ℕ → ν) (fs : Store ν γ) (i : ℕ) : Store ν γ :=
  if (fs (name i)).isSome then rename fs (name i) (name (i + 1)) else fs

/-- Do so for the members from the given one down to the first behind the current
file. -/
def shiftUp (name : ℕ → ν) : ℕ → Store ν γ → Store ν γ
  | 0, fs => fs
  | i + 1, fs => shiftUp name i (moveUp name fs (i + 1))

/-! ## One rotation -/

section Rotation

variable {name : ℕ → ν} {fs : Store ν γ}

/-- A move to a free name leaves the old name free, whether there was a file or not. -/
theorem moveUp_eq {i : ℕ} (hfree : fs (name (i + 1)) = none) :
    moveUp name fs i = rename fs (name i) (name (i + 1)) := by
  unfold moveUp
  split
  · rfl
  · rename_i hnone
    rw [Option.not_isSome_iff_eq_none] at hnone
    unfold rename
    rw [hnone, ← hfree, Function.update_eq_self, hfree, ← hnone, Function.update_eq_self]

theorem rename_src (fs : Store ν γ) (src dst : ν) : rename fs src dst src = none :=
  Function.update_self _ _ _

theorem rename_dst {src dst : ν} (h : dst ≠ src) : rename fs src dst dst = fs src := by
  rw [rename, Function.update_of_ne h, Function.update_self]

theorem rename_other {src dst x : ν} (hsrc : x ≠ src) (hdst : x ≠ dst) :
    rename fs src dst x = fs x := by
  rw [rename, Function.update_of_ne hsrc, Function.update_of_ne hdst]

/-- **The shift.** Where the name behind the last of `n` files is free, the files
move up by one and the first name is free; induction on the number of files, the
last of which makes room for the others. -/
theorem shiftUp_spec (hname : Function.Injective name) (n : ℕ) (hfree : fs (name (n + 1)) = none) :
    shiftUp name n fs (name 1) = none ∧
      (∀ i, 1 ≤ i → i ≤ n → shiftUp name n fs (name (i + 1)) = fs (name i)) ∧
      ∀ x, (∀ i, 1 ≤ i → i ≤ n + 1 → x ≠ name i) → shiftUp name n fs x = fs x := by
  induction n generalizing fs with
  | zero =>
    refine ⟨hfree, ?_, fun x _ => rfl⟩
    intro i hpos hle
    omega
  | succ n ih =>
    have hmove := moveUp_eq hfree
    have hsrc : moveUp name fs (n + 1) (name (n + 1)) = none := by
      rw [hmove]
      exact rename_src _ _ _
    obtain ⟨hfirst, hshift, hother⟩ := ih hsrc
    refine ⟨hfirst, ?_, ?_⟩
    · intro i hpos hle
      show shiftUp name n (moveUp name fs (n + 1)) (name (i + 1)) = fs (name i)
      rcases Nat.lt_or_eq_of_le hle with hlt | rfl
      · -- a file below the last is not touched by the first move
        rw [hshift i hpos (by omega), hmove]
        exact rename_other (hname.ne (by omega)) (hname.ne (by omega))
      · rw [hother _ (fun j hj hjn => hname.ne (by omega)), hmove]
        exact rename_dst (hname.ne (by omega))
    · intro x hx
      show shiftUp name n (moveUp name fs (n + 1)) x = fs x
      rw [hother x fun i hpos hle => hx i hpos (by omega), hmove]
      exact rename_other (hx _ (by omega) (by omega)) (hx _ (by omega) (by omega))

/-- The files of the family hold the contents of the list, from the current file on. -/
def Holds (name : ℕ → ν) (fs : Store ν γ) (contents : List γ) : Prop :=
  ∀ i, fs (name i) = contents[i]?

/-- **A rotation** of `n + 1` files behind the current one: the last of them goes, those
behind it stay where they are, and the others move up. -/
theorem holds_rotate_eraseIdx (hname : Function.Injective name) {n : ℕ} {contents : List γ}
    (h : Holds name fs contents) (i : ℕ) :
    moveUp name (shiftUp name n (remove fs (name (n + 1)))) 0 (name (i + 1))
      = (contents.eraseIdx (n + 1))[i]? := by
  have hremoved : remove fs (name (n + 1)) (name (n + 1)) = none := Function.update_self _ _ _
  have hkept : ∀ j, j ≠ n + 1 → remove fs (name (n + 1)) (name j) = contents[j]? := fun j hj => by
    rw [remove, Function.update_of_ne (hname.ne hj)]
    exact h j
  obtain ⟨hfirst, hshift, hother⟩ := shiftUp_spec hname n hremoved
  rw [moveUp_eq hfirst, List.getElem?_eraseIdx]
  cases i with
  | zero =>
    rw [rename_dst (hname.ne (by omega)), hother _ fun j _ _ => hname.ne (by omega),
      hkept 0 (by omega), if_pos (Nat.succ_pos n)]
  | succ i =>
    rw [rename_other (hname.ne (by omega)) (hname.ne (by omega))]
    by_cases hle : i + 1 ≤ n
    · rw [hshift (i + 1) (by omega) hle, hkept _ (by omega), if_pos (by omega)]
    · rw [hother _ fun j _ _ => hname.ne (by omega), hkept _ (by omega), if_neg (by omega)]

/-- A new current file. -/
theorem holds_cons {contents : List γ} {c : γ} (hname : Function.Injective name)
    (h : ∀ i, fs (name (i + 1)) = contents[i]?) :
    Holds name (Function.update fs (name 0) (some c)) (c :: contents) := by
  intro i
  cases i with
  | zero => exact Function.update_self _ _ _
  | succ i =>
    rw [Function.update_of_ne (hname.ne (by omega)), h]
    rfl

/-- The contents of the first `n` names, the oldest first. -/
theorem flatMap_range_eq_flatten {β : Type*} {n : ℕ} {contents : List (List β)}
    (h : contents.length ≤ n) :
    (List.range n).reverse.flatMap (fun i => (contents[i]?).getD []) = contents.reverse.flatten := by
  induction n generalizing contents with
  | zero =>
    rw [List.eq_nil_of_length_eq_zero (Nat.le_zero.mp h)]
    rfl
  | succ n ih =>
    rw [List.range_succ, List.reverse_append, List.reverse_singleton, List.singleton_append,
      List.flatMap_cons]
    rcases Nat.lt_or_eq_of_le h with hlt | heq
    · rw [List.getElem?_eq_none (Nat.le_of_lt_succ hlt), ih (Nat.le_of_lt_succ hlt)]
      rfl
    · -- the last name holds the last of the contents
      rcases List.eq_nil_or_concat contents with rfl | ⟨front, last, rfl⟩
      · cases heq
      rw [List.concat_eq_append] at heq ⊢
      have hfront : front.length = n := by
        rw [List.length_append, List.length_singleton] at heq
        omega
      have hrest : (List.range n).reverse.flatMap (fun i => ((front ++ [last])[i]?).getD [])
          = (List.range n).reverse.flatMap (fun i => (front[i]?).getD []) := by
        refine List.flatMap_congr fun i hi => ?_
        rw [List.mem_reverse, List.mem_range] at hi
        rw [List.getElem?_append_left (by omega)]
      rw [hrest, ih (Nat.le_of_eq hfront), List.reverse_append, List.reverse_singleton,
        List.singleton_append, List.flatten_cons,
        List.getElem?_append_right (Nat.le_of_eq hfront), hfront, Nat.sub_self]
      rfl

end Rotation

/-! ## What is retained -/

/-- The items of the files, newest file first, when one more is added: to a new
file where the current one is full, with `keep` of the old ones. -/
def addItem (full : List α → Bool) (keep : ℕ) (a : α) : List (List α) → List (List α)
  | [] => [[a]]
  | current :: old =>
    if full current then [a] :: (current :: old).take keep else (current ++ [a]) :: old

variable {full : List α → Bool} {keep : ℕ}

theorem length_addItem (a : α) {files : List (List α)} (h : files.length ≤ keep + 1) :
    (addItem full keep a files).length ≤ keep + 1 := by
  cases files with
  | nil => exact Nat.succ_le_succ (Nat.zero_le keep)
  | cons current old =>
    rw [addItem]
    split
    · rw [List.length_cons, List.length_take]
      omega
    · exact h

/-- The oldest items may go, and nothing else. -/
theorem addItem_suffix (a : α) (files : List (List α)) :
    (addItem full keep a files).reverse.flatten <:+ files.reverse.flatten ++ [a] := by
  cases files with
  | nil => exact List.suffix_rfl
  | cons current old =>
    rw [addItem]
    split
    · -- the files that are kept are the newest
      have hsplit : (current :: old).reverse.flatten
          = ((current :: old).drop keep).reverse.flatten
            ++ ((current :: old).take keep).reverse.flatten := by
        rw [← List.flatten_append, ← List.reverse_append, List.take_append_drop]
      rw [hsplit, List.reverse_cons, List.flatten_append, List.append_assoc]
      exact List.suffix_append _ _
    · rw [List.reverse_cons, List.reverse_cons, List.flatten_append, List.flatten_append,
        List.append_assoc]
      simp only [List.flatten_cons, List.flatten_nil, List.append_nil]
      exact List.suffix_rfl

/-! ## When the number of files changes -/

/-- The items of the files when one more is added and the number of files may have been
another before: a full current file pushes out the one at the place of the last. -/
def pushItem (full : List α → Bool) (keep : ℕ) (a : α) : List (List α) → List (List α)
  | [] => [[a]]
  | current :: old =>
    if full current then [a] :: (current :: old).eraseIdx keep else (current ++ [a]) :: old

/-- Items may go, but those that stay keep their order. -/
theorem pushItem_sublist (a : α) (files : List (List α)) :
    (pushItem full keep a files).reverse.flatten.Sublist (files.reverse.flatten ++ [a]) := by
  cases files with
  | nil => exact List.Sublist.refl _
  | cons current old =>
    rw [pushItem]
    split
    · have hkept : ((current :: old).eraseIdx keep).reverse.flatten.Sublist
          (current :: old).reverse.flatten :=
        (List.eraseIdx_sublist _ _).reverse.flatten
      rw [List.reverse_cons, List.flatten_append, List.flatten_singleton]
      exact hkept.append_right [a]
    · rw [List.reverse_cons, List.reverse_cons, List.flatten_append, List.flatten_append,
        List.append_assoc]
      simp only [List.flatten_singleton]
      exact List.Sublist.refl _

/-- With no more files than there may be, only the last goes. -/
theorem pushItem_eq_addItem (a : α) {files : List (List α)} (h : files.length ≤ keep + 1) :
    pushItem full keep a files = addItem full keep a files := by
  cases files with
  | nil => rfl
  | cons current old =>
    rw [pushItem, addItem, List.eraseIdx_eq_take_drop_succ, List.drop_eq_nil_of_le h,
      List.append_nil]

end FileFamily
