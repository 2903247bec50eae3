import Mathlib.Data.List.Basic

/-!
# Systems of independent components

A system whose state has a part for each component, and whose events belong to
one component or to none. When an event changes only the part of the component
it belongs to, and that by a function of this part and the event, the part of a
component after a run is what the component's own events make of it
(`run_view`). So the events of one component cannot be told from the parts of
the others (`purge`).

Steps may fail; a run ends at the first failure.
-/

namespace Components

/-- A run that succeeds is a step and a run that do. -/
theorem foldlM_cons_iff {σ ε χ : Type*} {step : σ → ε → Except χ σ} {s s' : σ} {e : ε}
    {events : List ε} :
    (e :: events).foldlM step s = .ok s' ↔ ∃ t, step s e = .ok t ∧ events.foldlM step t = .ok s' := by
  rw [List.foldlM_cons]
  constructor
  · intro h
    cases hstep : step s e with
    | error x =>
      rw [hstep] at h
      cases h
    | ok t =>
      rw [hstep] at h
      exact ⟨t, rfl, h⟩
  · rintro ⟨t, hstep, hrest⟩
    rw [hstep]
    exact hrest

/-- The steps of the whole, the component an event belongs to, the part of a
component, and what an event makes of the part. -/
structure System (σ ε ι τ χ : Type*) where
  step : σ → ε → Except χ σ
  owner : ε → Option ι
  view : σ → ι → τ
  act : ι → τ → ε → Except χ τ

namespace System

variable {σ ε ι τ χ : Type*} (M : System σ ε ι τ χ)

/-- The steps for a list of events. -/
def run (s : σ) (events : List ε) : Except χ σ := events.foldlM M.step s

/-- What a component's own steps make of its part. -/
def runPart (i : ι) (part : τ) (events : List ε) : Except χ τ := events.foldlM (M.act i) part

/-- In the states of an invariant the parts do not depend on each other. -/
structure Separated (I : σ → Prop) : Prop where
  keep : ∀ {s s' e}, I s → M.step s e = .ok s' → I s'
  own : ∀ {s s' e i}, I s → M.owner e = some i → M.step s e = .ok s' →
    M.act i (M.view s i) e = .ok (M.view s' i)
  frame : ∀ {s s' e i}, I s → M.owner e ≠ some i → M.step s e = .ok s' → M.view s' i = M.view s i

variable {M}

/-- Where every step succeeds, every run does. -/
theorem run_total {I : σ → Prop} (keep : ∀ {s s' e}, I s → M.step s e = .ok s' → I s')
    (total : ∀ {s} e, I s → ∃ s', M.step s e = .ok s') (events : List ε) {s : σ} (h : I s) :
    ∃ s', M.run s events = .ok s' := by
  induction events generalizing s with
  | nil => exact ⟨s, rfl⟩
  | cons e events ih =>
    obtain ⟨t, hstep⟩ := total e h
    obtain ⟨s', hrest⟩ := ih (keep h hstep)
    exact ⟨s', foldlM_cons_iff.mpr ⟨t, hstep, hrest⟩⟩

section Owned

variable [DecidableEq ι]

/-- **A component's part is its own run.** -/
theorem run_view {I : σ → Prop} (sep : M.Separated I) {events : List ε} {s s' : σ} (h : I s)
    (hrun : M.run s events = .ok s') (i : ι) :
    M.runPart i (M.view s i) (events.filter fun e => M.owner e = some i) = .ok (M.view s' i) := by
  induction events generalizing s with
  | nil =>
    cases hrun
    rfl
  | cons e events ih =>
    obtain ⟨t, hstep, hrest⟩ := foldlM_cons_iff.mp hrun
    have htail := ih (sep.keep h hstep) hrest
    by_cases howner : M.owner e = some i
    · rw [List.filter_cons, if_pos (decide_eq_true howner)]
      exact foldlM_cons_iff.mpr ⟨_, sep.own h howner hstep, htail⟩
    · rw [List.filter_cons, if_neg (by rwa [decide_eq_true_eq]), ← sep.frame h howner hstep]
      exact htail

/-- **Purging a component.** Without the events of one component the parts of
the others are the same. -/
theorem purge {I : σ → Prop} (sep : M.Separated I) {events : List ε} {s s₁ s₂ : σ} (h : I s)
    {j : ι} (hrun : M.run s events = .ok s₁)
    (hpurged : M.run s (events.filter fun e => M.owner e ≠ some j) = .ok s₂) {i : ι} (hij : i ≠ j) :
    M.view s₁ i = M.view s₂ i := by
  have hfilter : (events.filter fun e => M.owner e ≠ some j).filter (fun e => M.owner e = some i)
      = events.filter fun e => M.owner e = some i := by
    rw [List.filter_filter]
    refine List.filter_congr ?_
    intro e _
    by_cases howner : M.owner e = some i
    · simp [howner, hij]
    · simp [howner]
  have hview := run_view sep h hrun i
  rw [← hfilter, run_view sep h hpurged i] at hview
  exact (Except.ok.inj hview).symm

end Owned

end System

end Components
