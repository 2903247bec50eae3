import SimpleNtpd.Lib.Steps

/-!
# Programs beside others

While a program runs in steps, others change a part of the state. A step that does not
look at this part is a mover: it makes no difference whether the others come before or
behind it (`Commutes`). A program all of whose steps are movers ends alike wherever the
others come (`Ignores.alone_act`).

A program may also ask for the part, in steps that their labels tell (`Asks`). What the
others do before its first question could as well have been done before the program, and
behind its last question it ignores them (`Asks.advance`).
-/

namespace Steps

universe u

/-- Others beside a program: what they do, what this depends on, the labels of the steps that
ask for what they change, and those of a last question. -/
structure Others (σ ο ω κ : Type*) where
  act : ω → σ → σ
  view : σ → κ
  asks : ο → Bool
  last : ο → Bool
  asks_of_last : ∀ l, last l = true → asks l = true
  view_act : ∀ o s s', view s = view s' → view (act o s) = view (act o s')

variable {σ ο ω κ : Type*} {α β : Type u} (E : Others σ ο ω κ)

/-- What several of them do, one after the other. -/
def Others.acts (os : List ω) (s : σ) : σ := os.foldl (fun s o => E.act o s) s

/-- The program has ended. -/
def isDone : Steps σ ο α → Bool
  | done _ => true
  | step _ _ _ _ => false

/-- The next step comes to the same before and behind the others. -/
def Commutes (s : σ) : Steps σ ο α → Prop
  | done _ => True
  | step ready label act next => ∀ o, ready (E.act o s) = ready s ∧ label (E.act o s) = label s ∧
      act (E.act o s) = E.act o (act s) ∧ next (E.act o s) = next s

/-- No step of the program looks at what the others change, or changes what they depend on. -/
def Ignores : Steps σ ο α → Prop
  | done _ => True
  | step ready label act next => ∀ s, (step ready label act next).Commutes E s ∧
      E.view (act s) = E.view s ∧ (∀ l ∈ label s, E.asks l = false) ∧ (next s).Ignores

/-- The program looks at what the others change in steps that have a label for it, and ignores
the others behind its last question, which it may have if `final` holds. -/
def Asks (final : Prop) : Steps σ ο α → Prop
  | done _ => True
  | step ready label act next => ∀ s,
      ((∀ l ∈ label s, E.asks l = false) → (step ready label act next).Commutes E s) ∧
      E.view (act s) = E.view s ∧
      ((∃ l ∈ label s, E.last l = true) → final ∧ (next s).Ignores E) ∧ (next s).Asks final

variable {E} {p p' : Steps σ ο α} {f : α → Steps σ ο β} {s s' : σ} {l : Option ο}
  {first final : Prop}

theorem isDone_iff : p.isDone = true ↔ ∃ a, p = done a := by
  cases p with
  | done a => exact iff_of_true rfl ⟨a, rfl⟩
  | step ready label act next =>
    constructor
    · intro h
      cases h
    · rintro ⟨a, h⟩
      cases h

/-- Before a step it makes no difference what is done behind its program. -/
theorem Commutes.bind {ready : σ → Bool} {label : σ → Option ο} {act : σ → σ}
    {next : σ → Steps σ ο α} (h : (step ready label act next).Commutes E s)
    (f : α → Steps σ ο β) : (step ready label act next >>= f).Commutes E s := by
  intro o
  obtain ⟨hready, hlabel, hact, hnext⟩ := h o
  exact ⟨hready, hlabel, hact, congrArg (andThen f) hnext⟩

/-! ## Programs that ignore the others -/

theorem ignores_pure (a : α) : (pure a : Steps σ ο α).Ignores E := trivial

/-- One program after the other; induction on the first. -/
theorem Ignores.bind (hp : p.Ignores E) (hf : ∀ a, (f a).Ignores E) : (p >>= f).Ignores E := by
  show (p.andThen f).Ignores E
  induction p with
  | done a => exact hf a
  | step ready label act next ih =>
    intro s
    obtain ⟨hcommutes, hview, hlabel, hnext⟩ := hp s
    exact ⟨hcommutes.bind f, hview, hlabel, ih s hnext⟩

theorem Ignores.ite {c : Prop} [Decidable c] {q : Steps σ ο α} (hp : p.Ignores E)
    (hq : q.Ignores E) : (if c then p else q).Ignores E := by
  split
  · exact hp
  · exact hq

/-- **What the others do can be moved behind the program**; induction on the program. -/
theorem Ignores.alone_act (h : p.Ignores E) (o : ω) (s : σ) :
    p.alone (E.act o s) = (p.alone s).map fun r => (r.1, E.act o r.2) := by
  induction p generalizing s with
  | done a => rfl
  | step ready label act next ih =>
    obtain ⟨hcommutes, -, -, hrest⟩ := h s
    obtain ⟨hready, -, hact, hnext⟩ := hcommutes o
    rw [alone, alone, hready, hact, hnext]
    split
    · exact ih s hrest (act s)
    · rfl

theorem Ignores.advance (h : p.Ignores E) (hadvance : p.advance s = some (p', s', l)) :
    p'.Ignores E := by
  cases p with
  | done a => cases hadvance
  | step ready label act next =>
    rw [Steps.advance] at hadvance
    split at hadvance
    · cases hadvance
      exact (h s).2.2.2
    · cases hadvance

/-! ## Programs that ask -/

/-- Who ignores the others asks nothing; induction on the program. -/
theorem Ignores.asks (h : p.Ignores E) : p.Asks E final := by
  induction p with
  | done a => trivial
  | step ready label act next ih =>
    intro s
    obtain ⟨hcommutes, hview, hlabel, hnext⟩ := h s
    refine ⟨fun _ => hcommutes, hview, ?_, ih s hnext⟩
    rintro ⟨l, hl, hlast⟩
    have hquiet := hlabel l hl
    rw [E.asks_of_last l hlast] at hquiet
    cases hquiet

/-- A program that asks before another one, which ignores the others where the first may have
had the last question; induction on the first. -/
theorem Asks.bind (hp : p.Asks E first) (hf : ∀ a, (f a).Asks E final)
    (hlast : first → final ∧ ∀ a, (f a).Ignores E) : (p >>= f).Asks E final := by
  show (p.andThen f).Asks E final
  induction p with
  | done a => exact hf a
  | step ready label act next ih =>
    intro s
    obtain ⟨hcommutes, hview, hasked, hnext⟩ := hp s
    refine ⟨fun hquiet => (hcommutes hquiet).bind f, hview, ?_, ih s hnext⟩
    intro h
    obtain ⟨hfirst, hignores⟩ := hasked h
    exact ⟨(hlast hfirst).1, hignores.bind (hlast hfirst).2⟩

/-- A program that ignores the others before one that asks. -/
theorem Ignores.bind_asks (hp : p.Ignores E) (hf : ∀ a, (f a).Asks E final) :
    (p >>= f).Asks E final :=
  hp.asks.bind hf False.elim

theorem Asks.ite {c : Prop} [Decidable c] {q : Steps σ ο α} (hp : p.Asks E final)
    (hq : q.Asks E final) : (if c then p else q).Asks E final := by
  split
  · exact hp
  · exact hq

/-- A step that asks nothing makes no difference to the others before it; induction on what
they do. -/
theorem Asks.alone_acts {ready : σ → Bool} {label : σ → Option ο} {act : σ → σ}
    {next : σ → Steps σ ο α} (h : (step ready label act next).Asks E final)
    (hquiet : ∀ l ∈ label s, E.asks l = false) (hready : ready s = true) (os : List ω) :
    (step ready label act next).alone (E.acts os s) = (next s).alone (E.acts os (act s)) := by
  induction os generalizing s with
  | nil => exact if_pos hready
  | cons o os ih =>
    obtain ⟨hr, hl, hact, hnext⟩ := (h s).1 hquiet o
    have hrest := ih (s := E.act o s) (by rw [hl]; exact hquiet) (hr.trans hready)
    rw [hact, hnext] at hrest
    exact hrest

/-- **One step of a program that asks.** What the others depend on stays. Behind the last
question the program ignores them; before the first one they may come before the step. -/
theorem Asks.advance (h : p.Asks E final) (hadvance : p.advance s = some (p', s', l)) :
    E.view s' = E.view s ∧ p'.Asks E final ∧
      ((∃ a ∈ l, E.last a = true) → p'.Ignores E) ∧
      ((∀ a ∈ l, E.asks a = false) → ∀ os, p.alone (E.acts os s) = p'.alone (E.acts os s')) := by
  cases p with
  | done a => cases hadvance
  | step ready label act next =>
    rw [Steps.advance] at hadvance
    split at hadvance
    · rename_i hready
      cases hadvance
      obtain ⟨-, hview, hlast, hnext⟩ := h s
      exact ⟨hview, hnext, fun hasked => (hlast hasked).2, fun hquiet => h.alone_acts hquiet hready⟩
    · cases hadvance

end Steps
