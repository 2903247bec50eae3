import Mathlib.Logic.Function.Basic
import Mathlib.Tactic.TypeStar

/-!
# Files behind paths

Two paths can lead to one file: a path leads to a name, once links are followed, and a
name to a file, of which there may be several names. A file that is opened for writing
with truncation is empty from then on under all of its paths; one that is missing is
created first, under the name that the path leads to. `contentAt_put_of_open` says what
all the paths lead to when such a file has been written, by whether they lead to the
same file (`Same`).
-/

/-- A disk with files of `β`. -/
structure Disk (π ν β : Type*) where
  /-- the name a path leads to -/
  resolve : π → ν
  /-- the number of the file of a name -/
  file : ν → Option Nat
  /-- the number of the next file -/
  next : Nat
  allocated : ∀ x i, file x = some i → i < next
  content : Nat → List β
  readable : Nat → Bool
  writable : Nat → Bool
  /-- a file of that name can be created -/
  creatable : ν → Bool

namespace Disk

variable {π ν β : Type*} {d d' : Disk π ν β} {p q : π} {i : Nat}

/-- The file a path leads to. -/
def fileAt (d : Disk π ν β) (p : π) : Option Nat := d.file (d.resolve p)

/-- What is to be read there. -/
def contentAt (d : Disk π ν β) (p : π) : Option (List β) := (d.fileAt p).map d.content

/-- Open a file for reading. -/
def openRead (d : Disk π ν β) (p : π) : Option Nat := (d.fileAt p).filter d.readable

/-- Replace the content of a file. -/
def put (d : Disk π ν β) (i : Nat) (bytes : List β) : Disk π ν β :=
  { d with content := Function.update d.content i bytes }

/-- Two paths lead to the same file, or will once it is created. -/
def Same (d : Disk π ν β) (p q : π) : Prop :=
  d.resolve p = d.resolve q ∨ (d.fileAt p).isSome = true ∧ d.fileAt p = d.fileAt q

theorem Same.refl (d : Disk π ν β) (p : π) : d.Same p p := .inl rfl

theorem Same.fileAt_eq (h : d.Same p q) : d.fileAt p = d.fileAt q :=
  h.elim (congrArg d.file) (·.2)

theorem Same.contentAt_eq (h : d.Same p q) : d.contentAt p = d.contentAt q :=
  congrArg (Option.map d.content) h.fileAt_eq

theorem contentAt_put (d : Disk π ν β) (i : Nat) (bytes : List β) (q : π) :
    (d.put i bytes).contentAt q = if d.fileAt q = some i then some bytes else d.contentAt q := by
  show (d.fileAt q).map (Function.update d.content i bytes) = _
  unfold contentAt
  cases d.fileAt q with
  | none => rfl
  | some j =>
    simp only [Option.map_some, Option.some.injEq, Function.update_apply]
    split <;> rfl

theorem contentAt_of_fileAt (h : d.fileAt q = some i) : d.contentAt q = some (d.content i) := by
  rw [contentAt, h]
  rfl

/-- Where there is no file yet, the same name has to be opened. -/
theorem same_iff_of_none (h : d.fileAt p = none) : d.Same p q ↔ d.resolve p = d.resolve q := by
  rw [Same, h]
  simp

/-! ## Opened for writing -/

variable [DecidableEq ν]

/-- Create an empty file. -/
def create (d : Disk π ν β) (x : ν) : Disk π ν β :=
  { d with
    file := Function.update d.file x (some d.next)
    next := d.next + 1
    allocated := by
      intro y i hi
      by_cases hy : y = x
      · subst hy
        rw [Function.update_self] at hi
        cases hi
        exact Nat.lt_succ_self d.next
      · rw [Function.update_of_ne hy] at hi
        exact Nat.lt_succ_of_lt (d.allocated y i hi)
    content := Function.update d.content d.next [] }

/-- Open a file for writing, emptied or new. -/
def openTruncate (d : Disk π ν β) (p : π) : Option (Nat × Disk π ν β) :=
  match d.fileAt p with
  | some i => if d.writable i then some (i, d.put i []) else none
  | none => if d.creatable (d.resolve p) then some (d.next, d.create (d.resolve p)) else none

instance instDecidableSame (d : Disk π ν β) (p q : π) : Decidable (d.Same p q) :=
  inferInstanceAs (Decidable (_ ∨ _))

/-- The file that has been opened. -/
theorem openTruncate_cases (h : d.openTruncate p = some (i, d')) :
    d.fileAt p = some i ∧ d' = d.put i [] ∨
      d.fileAt p = none ∧ i = d.next ∧ d' = d.create (d.resolve p) := by
  unfold openTruncate at h
  cases hp : d.fileAt p with
  | some j =>
    simp only [hp, Option.ite_none_right_eq_some, Option.some.injEq, Prod.mk.injEq] at h
    obtain ⟨-, rfl, rfl⟩ := h
    exact .inl ⟨rfl, rfl⟩
  | none =>
    simp only [hp, Option.ite_none_right_eq_some, Option.some.injEq, Prod.mk.injEq] at h
    exact .inr ⟨rfl, h.2.1.symm, h.2.2.symm⟩

/-- The paths to the file that has been opened are those to the same file. -/
theorem fileAt_openTruncate_iff (h : d.openTruncate p = some (i, d')) (q : π) :
    d'.fileAt q = some i ↔ d.Same p q := by
  rcases openTruncate_cases h with ⟨hp, rfl⟩ | ⟨hp, rfl, rfl⟩
  · show d.fileAt q = some i ↔ _
    constructor
    · intro hq
      exact .inr ⟨by rw [hp]; rfl, hp.trans hq.symm⟩
    · intro hsame
      rw [← hsame.fileAt_eq, hp]
  · rw [same_iff_of_none hp]
    show Function.update d.file (d.resolve p) (some d.next) (d.resolve q) = some d.next ↔ _
    by_cases hq : d.resolve q = d.resolve p
    · rw [hq, Function.update_self]
      exact iff_of_true rfl rfl
    · rw [Function.update_of_ne hq]
      -- no file has the next number
      refine iff_of_false (fun hnext => ?_) (Ne.symm hq)
      exact absurd (d.allocated _ _ hnext) (Nat.lt_irrefl _)

/-- A file there was is empty if it has been opened, and else as it was. -/
theorem content_openTruncate (h : d.openTruncate p = some (i, d')) {j : Nat}
    (hq : d.fileAt q = some j) : d'.content j = if d.Same p q then [] else d.content j := by
  rcases openTruncate_cases h with ⟨hp, rfl⟩ | ⟨hp, rfl, rfl⟩
  · have hsame : d.Same p q ↔ j = i := by
      rw [← fileAt_openTruncate_iff h]
      show d.fileAt q = some i ↔ _
      rw [hq, Option.some.injEq]
    show Function.update d.content i [] j = _
    rw [Function.update_apply]
    exact if_congr hsame.symm rfl rfl
  · have hne : j ≠ d.next := Nat.ne_of_lt (d.allocated _ _ hq)
    have hnot : ¬d.Same p q := fun hsame => by
      rw [← hsame.fileAt_eq, hp] at hq
      cases hq
    show Function.update d.content d.next [] j = _
    rw [Function.update_of_ne hne, if_neg hnot]

/-- Behind a path to another file there is what there was. -/
theorem contentAt_openTruncate (h : d.openTruncate p = some (i, d')) (hnot : ¬d.Same p q) :
    d'.contentAt q = d.contentAt q := by
  have hfile : d'.fileAt q = d.fileAt q := by
    rcases openTruncate_cases h with ⟨-, rfl⟩ | ⟨hp, -, rfl⟩
    · rfl
    · rw [same_iff_of_none hp] at hnot
      exact Function.update_of_ne (Ne.symm hnot) _ _
  unfold contentAt
  rw [hfile]
  cases hq : d.fileAt q with
  | none => rfl
  | some j => rw [Option.map_some, Option.map_some, content_openTruncate h hq, if_neg hnot]

/-- **What is read after a file has been opened and written**: behind every path to it
what has been written, behind the others what there was. -/
theorem contentAt_put_of_open (h : d.openTruncate p = some (i, d')) (bytes : List β) (q : π) :
    (d'.put i bytes).contentAt q = if d.Same p q then some bytes else d.contentAt q := by
  rw [contentAt_put]
  by_cases hsame : d.Same p q
  · rw [if_pos ((fileAt_openTruncate_iff h q).mpr hsame), if_pos hsame]
  · rw [if_neg (mt (fileAt_openTruncate_iff h q).mp hsame), if_neg hsame,
      contentAt_openTruncate h hsame]

/-- An opened file that is not written is written with nothing. -/
theorem put_nil_of_open (h : d.openTruncate p = some (i, d')) : d'.put i [] = d' := by
  have hempty : d'.content i = [] := by
    rcases openTruncate_cases h with ⟨-, rfl⟩ | ⟨-, rfl, rfl⟩
    · exact Function.update_self _ _ _
    · exact Function.update_self _ _ _
  rw [put, ← hempty, Function.update_eq_self]

end Disk
