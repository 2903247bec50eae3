import Mathlib.Tactic.TypeStar

/-!
# Programs in steps

A program that shares a state with others, written step by step. Others come in
between any two steps. A step waits until it is ready, changes the state at once,
and goes on with a program that depends on the state it has found; a label names
what it looks at.

Run alone, from a state in which nothing waits, the program is a function on states
(`alone`), and running two programs one after the other composes them
(`alone_bind`). What every step keeps, whatever the others do, is `Keeps`.
-/

/-- A program with results in `α` over the states `σ`, with labels in `ο`. -/
inductive Steps (σ ο α : Type*) where
  | done (a : α)
  | step (ready : σ → Bool) (label : σ → Option ο) (act : σ → σ) (next : σ → Steps σ ο α)

namespace Steps

universe u

variable {σ ο : Type*} {α β : Type u}

/-- One program after the other. -/
def andThen (f : α → Steps σ ο β) : Steps σ ο α → Steps σ ο β
  | done a => f a
  | step ready label act next => step ready label act fun s => (next s).andThen f

instance instMonad : Monad (Steps σ ο) where
  pure := done
  bind p f := p.andThen f

/-- One step that is always ready. -/
def atomic (label : σ → Option ο) (f : σ → α × σ) : Steps σ ο α :=
  step (fun _ => true) label (fun s => (f s).2) fun s => done (f s).1

/-- A loop over a list. -/
def each {β : Type*} (body : β → Steps σ ο PUnit) : List β → Steps σ ο PUnit
  | [] => done ⟨⟩
  | b :: bs => (body b).andThen fun _ => each body bs

/-- The next step: the program that is left, the state, and the label. -/
def advance : Steps σ ο α → σ → Option (Steps σ ο α × σ × Option ο)
  | done _, _ => none
  | step ready label act next, s => if ready s then some (next s, act s, label s) else none

/-! ## Alone -/

/-- The whole program with nobody in between; `none` is to wait for ever. -/
def alone : Steps σ ο α → σ → Option (α × σ)
  | done a, s => some (a, s)
  | step ready _ act next, s => if ready s then (next s).alone (act s) else none

@[simp] theorem alone_pure (a : α) (s : σ) : (pure a : Steps σ ο α).alone s = some (a, s) := rfl

@[simp] theorem alone_atomic (label : σ → Option ο) (f : σ → α × σ) (s : σ) :
    (atomic label f).alone s = some (f s) := rfl

/-- Programs one after the other, alone; induction on the first. -/
@[simp] theorem alone_bind (p : Steps σ ο α) (f : α → Steps σ ο β) (s : σ) :
    (p >>= f).alone s = (p.alone s).bind fun r => (f r.1).alone r.2 := by
  show (p.andThen f).alone s = _
  induction p generalizing s with
  | done a => rfl
  | step ready label act next ih =>
    rw [andThen, alone, alone]
    by_cases hready : ready s = true
    · rw [if_pos hready, if_pos hready]
      exact ih s (act s)
    · rw [if_neg hready, if_neg hready]
      rfl

/-- A loop whose rounds are functions on the state is their composition; induction on
the list. -/
theorem alone_each {β : Type*} {body : β → Steps σ ο PUnit} {f : σ → β → σ}
    (h : ∀ b s, (body b).alone s = some (⟨⟩, f s b)) (bs : List β) (s : σ) :
    (each body bs).alone s = some (⟨⟩, bs.foldl f s) := by
  induction bs generalizing s with
  | nil => rfl
  | cons b bs ih =>
    show (body b >>= fun _ => each body bs).alone s = _
    rw [alone_bind, h, Option.bind_some, ih]
    rfl

/-- To run alone is to take the next step and to go on alone. -/
theorem alone_of_advance {p p' : Steps σ ο α} {s s' : σ} {l : Option ο}
    (h : p.advance s = some (p', s', l)) : p.alone s = p'.alone s' := by
  cases p with
  | done a => cases h
  | step ready label act next =>
    rw [advance] at h
    split at h
    · rename_i hready
      cases h
      rw [alone, if_pos hready]
    · cases h

/-! ## What every step keeps -/

/-- Every step of the program relates the states around it, whatever the others
have made of the state before. -/
def Keeps (P : σ → σ → Prop) : Steps σ ο α → Prop
  | done _ => True
  | step _ _ act next => ∀ s, P s (act s) ∧ (next s).Keeps P

variable {P : σ → σ → Prop}

theorem keeps_pure (a : α) : (pure a : Steps σ ο α).Keeps P := trivial

theorem keeps_atomic {label : σ → Option ο} {f : σ → α × σ} (h : ∀ s, P s (f s).2) :
    (atomic label f).Keeps P := fun s => ⟨h s, trivial⟩

/-- Induction on the first program. -/
theorem Keeps.bind {p : Steps σ ο α} {f : α → Steps σ ο β} (hp : p.Keeps P)
    (hf : ∀ a, (f a).Keeps P) : (p >>= f).Keeps P := by
  show (p.andThen f).Keeps P
  induction p with
  | done a => exact hf a
  | step ready label act next ih =>
    intro s
    exact ⟨(hp s).1, ih s (hp s).2⟩

/-- Every round of the loop keeps it. -/
theorem Keeps.each {β : Type*} {body : β → Steps σ ο PUnit} (h : ∀ b, (body b).Keeps P)
    (bs : List β) : (each body bs).Keeps P := by
  induction bs with
  | nil => trivial
  | cons b bs ih => exact (h b).bind fun _ => ih

theorem Keeps.advance {p p' : Steps σ ο α} {s s' : σ} {l : Option ο} (h : p.Keeps P)
    (hadvance : p.advance s = some (p', s', l)) : P s s' ∧ p'.Keeps P := by
  cases p with
  | done a => cases hadvance
  | step ready label act next =>
    rw [Steps.advance] at hadvance
    split at hadvance
    · cases hadvance
      exact h s
    · cases hadvance

end Steps
