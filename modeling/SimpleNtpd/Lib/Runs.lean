import SimpleNtpd.Lib.Components

/-!
# Properties of runs

A run carries out events one after the other and ends at the first failure. What
every step keeps holds in the state reached (`foldlM_invariant`). A property of
the single steps holds along a run when each step that is taken has it
(`EveryStep`, `foldlM_of_everyStep`); a step may be told by the state it is taken
in, its event and the state it leads to. `everyStep_iff` turns a property of the
states reached into a condition on the events as they are met, where an invariant
shows that one step has the property exactly under the condition. Where steps
cannot fail, the same is `Along`, `foldl_of_along` and `along_iff`.
-/

namespace Runs

open Components

variable {σ ε χ : Type*} {step : σ → ε → Except χ σ}

/-- A run over two lists is a run over each. -/
theorem foldlM_append_iff {s s' : σ} {first second : List ε} :
    (first ++ second).foldlM step s = .ok s' ↔
      ∃ t, first.foldlM step s = .ok t ∧ second.foldlM step t = .ok s' := by
  induction first generalizing s with
  | nil =>
    constructor
    · exact fun h => ⟨s, rfl, h⟩
    · rintro ⟨t, hnil, h⟩
      cases hnil
      exact h
  | cons e first ih =>
    rw [List.cons_append, foldlM_cons_iff]
    constructor
    · rintro ⟨t, hstep, hrest⟩
      obtain ⟨u, hfirst, hsecond⟩ := ih.mp hrest
      exact ⟨u, foldlM_cons_iff.mpr ⟨t, hstep, hfirst⟩, hsecond⟩
    · rintro ⟨u, hfirst, hsecond⟩
      obtain ⟨t, hstep, hrest⟩ := foldlM_cons_iff.mp hfirst
      exact ⟨t, hstep, ih.mpr ⟨u, hrest, hsecond⟩⟩

/-- What the events of a run keep holds in the state reached. -/
theorem foldlM_invariant {I : σ → Prop} {events : List ε} {s s' : σ}
    (keep : ∀ e ∈ events, ∀ t t', I t → step t e = .ok t' → I t') (h : I s)
    (hrun : events.foldlM step s = .ok s') : I s' := by
  induction events generalizing s with
  | nil =>
    cases hrun
    exact h
  | cons e events ih =>
    obtain ⟨t, hstep, hrest⟩ := foldlM_cons_iff.mp hrun
    exact ih (fun e' he' => keep e' (List.mem_cons_of_mem e he'))
      (keep e List.mem_cons_self s t h hstep) hrest

/-! ## What an evaluation shows -/

/-- A computation of which something is found to follow another has ended well. -/
theorem exists_of_toOption_bind {α β : Type*} {x : Except χ α} {f : α → Except χ β} {b : β}
    (h : (x.bind f).toOption = some b) : ∃ a, x = .ok a ∧ (f a).toOption = some b := by
  cases x with
  | error e => cases h
  | ok a => exact ⟨a, rfl, h⟩

/-- A computation of which something is found has ended well, in a state with that. -/
theorem exists_of_toOption_map {α β : Type*} {x : Except χ α} {f : α → β} {b : β}
    (h : (x.map f).toOption = some b) : ∃ a, x = .ok a ∧ f a = b := by
  cases x with
  | error e => cases h
  | ok a => exact ⟨a, rfl, Option.some.inj h⟩

/-! ## Every step of a run -/

variable (step)

/-- Every step taken along a run has the property. -/
def EveryStep (P : σ → ε → σ → Prop) : σ → List ε → Prop
  | _, [] => True
  | s, e :: events => ∀ t, step s e = .ok t → P s e t ∧ EveryStep P t events

variable {step}

/-- Whether every step has a property that can be decided can be found out along the run. -/
instance EveryStep.decidable {P : σ → ε → σ → Prop} [∀ s e t, Decidable (P s e t)] :
    (s : σ) → (events : List ε) → Decidable (EveryStep step P s events)
  | _, [] => inferInstanceAs (Decidable True)
  | s, e :: events =>
    match hstep : step s e with
    | .error _ => isTrue fun t ht => by
      rw [hstep] at ht
      cases ht
    | .ok t =>
      have := EveryStep.decidable (P := P) t events
      decidable_of_iff (P s e t ∧ EveryStep step P t events) <| by
        constructor
        · intro h t' ht'
          rw [hstep] at ht'
          cases ht'
          exact h
        · intro h
          exact h t hstep

/-- What the steps that have the property keep holds in the state reached, where
every step has it. -/
theorem foldlM_of_everyStep {I : σ → Prop} {P : σ → ε → σ → Prop}
    (keep : ∀ {s e t}, I s → step s e = .ok t → P s e t → I t) {events : List ε} {s s' : σ}
    (h : I s) (hevery : EveryStep step P s events) (hrun : events.foldlM step s = .ok s') : I s' := by
  induction events generalizing s with
  | nil =>
    cases hrun
    exact h
  | cons e events ih =>
    obtain ⟨t, hstep, hrest⟩ := foldlM_cons_iff.mp hrun
    obtain ⟨hP, hevery⟩ := hevery t hstep
    exact ih (keep h hstep hP) hevery hrest

/-- **A condition on steps that an invariant makes exact.** Where the states of
an invariant are left by steps that have `P` exactly when they have `Q`, and `P`
leads back into the invariant, the runs whose steps all have `P` are those whose
steps all have `Q`; induction on the events. -/
theorem everyStep_iff {I : σ → Prop} {P Q : σ → ε → σ → Prop}
    (exact : ∀ {s e t}, I s → step s e = .ok t → (P s e t ↔ Q s e t))
    (keep : ∀ {s e t}, I s → step s e = .ok t → P s e t → I t) {s : σ} (h : I s)
    (events : List ε) : EveryStep step P s events ↔ EveryStep step Q s events := by
  induction events generalizing s with
  | nil => exact Iff.rfl
  | cons e events ih =>
    refine forall_congr' fun t => forall_congr' fun hstep => ?_
    constructor
    · rintro ⟨hP, hrest⟩
      exact ⟨(exact h hstep).mp hP, (ih (keep h hstep hP)).mp hrest⟩
    · rintro ⟨hQ, hrest⟩
      have hP : P s e t := (exact h hstep).mpr hQ
      exact ⟨hP, (ih (keep h hstep hP)).mpr hrest⟩

/-- A property of every step of a run is one of every step of its beginning. -/
theorem EveryStep.take {P : σ → ε → σ → Prop} {s : σ} {events : List ε}
    (h : EveryStep step P s events) (n : Nat) : EveryStep step P s (events.take n) := by
  induction n generalizing s events with
  | zero => trivial
  | succ n ih =>
    cases events with
    | nil => trivial
    | cons e events => exact fun t ht => ⟨(h t ht).1, ih (h t ht).2⟩

/-- A property of every step of a run is one of its last step. -/
theorem EveryStep.last {P : σ → ε → σ → Prop} {s t t' : σ} {events : List ε} {e : ε}
    (h : EveryStep step P s (events ++ [e])) (hrun : events.foldlM step s = .ok t)
    (hstep : step t e = .ok t') : P t e t' := by
  induction events generalizing s with
  | nil =>
    cases hrun
    exact (h t' hstep).1
  | cons e' events ih =>
    obtain ⟨u, hu, hrest⟩ := foldlM_cons_iff.mp hrun
    exact ih (h u hu).2 hrest

/-- What every step taken has it has for another reason. -/
theorem EveryStep.imp {P Q : σ → ε → σ → Prop}
    (himp : ∀ s e t, step s e = .ok t → P s e t → Q s e t) {s : σ} {events : List ε}
    (h : EveryStep step P s events) : EveryStep step Q s events := by
  induction events generalizing s with
  | nil => trivial
  | cons e events ih => exact fun t ht => ⟨himp s e t ht (h t ht).1, ih (h t ht).2⟩

/-- **A run seen through a map.** Where every step that is taken in the states of an
invariant is a step of another machine, a run is a run of that, with the property that the
steps have there; induction on the events. -/
theorem EveryStep.map {σ' ε' χ' : Type*} {step' : σ' → ε' → Except χ' σ'} (f : σ → σ')
    (g : ε → ε') {I : σ → Prop} {P : σ → ε → σ → Prop} (P' : σ' → ε' → σ' → Prop)
    (sim : ∀ {s e t}, I s → step s e = .ok t → step' (f s) (g e) = .ok (f t) ∧ I t)
    (himp : ∀ {s e t}, I s → P s e t → P' (f s) (g e) (f t)) {events : List ε} {s s' : σ} (h : I s)
    (hevery : EveryStep step P s events) (hrun : events.foldlM step s = .ok s') :
    (events.map g).foldlM step' (f s) = .ok (f s') ∧ EveryStep step' P' (f s) (events.map g) ∧
      I s' := by
  induction events generalizing s with
  | nil =>
    cases hrun
    exact ⟨rfl, trivial, h⟩
  | cons e events ih =>
    obtain ⟨t, hstep, hrest⟩ := foldlM_cons_iff.mp hrun
    obtain ⟨hP, hevery⟩ := hevery t hstep
    obtain ⟨hstep', ht⟩ := sim h hstep
    obtain ⟨hrest', hevery', hs'⟩ := ih ht hevery hrest
    refine ⟨foldlM_cons_iff.mpr ⟨f t, hstep', hrest'⟩, fun t' ht' => ?_, hs'⟩
    obtain rfl := Except.ok.inj (hstep'.symm.trans ht')
    exact ⟨himp h hP, hevery'⟩

/-! ## Two runs -/

/-- Two computations end in the same failure, or in results that are related. -/
def Both {α β : Type*} (R : α → β → Prop) : Except χ α → Except χ β → Prop
  | .ok a, .ok b => R a b
  | .error e, .error e' => e = e'
  | _, _ => False

section Both

variable {α β α' β' : Type*} {R : α → β → Prop} {x : Except χ α} {y : Except χ β}

theorem Both.refl {R : α → α → Prop} (h : ∀ a, R a a) (x : Except χ α) : Both R x x := by
  cases x with
  | error e => exact rfl
  | ok a => exact h a

theorem Both.imp {S : α → β → Prop} (h : Both R x y) (himp : ∀ a b, R a b → S a b) :
    Both S x y := by
  cases x <;> cases y <;> first | exact h | exact himp _ _ h

theorem Both.bind {S : α' → β' → Prop} {f : α → Except χ α'} {g : β → Except χ β'}
    (h : Both R x y) (hbind : ∀ a b, R a b → Both S (f a) (g b)) :
    Both S (x.bind f) (y.bind g) := by
  cases x with
  | error e =>
    cases y with
    | error e' => exact h
    | ok b => exact h.elim
  | ok a =>
    cases y with
    | error e' => exact h.elim
    | ok b => exact hbind a b h

theorem Both.map {S : α' → β' → Prop} {f : α → α'} {g : β → β'} (h : Both R x y)
    (hmap : ∀ a b, x = .ok a → y = .ok b → R a b → S (f a) (g b)) :
    Both S (x.map f) (y.map g) := by
  cases x <;> cases y <;> first | exact h | exact hmap _ _ rfl rfl h

theorem Both.ite {c : Prop} [Decidable c] {x' : Except χ α} {y' : Except χ β} (h : Both R x y)
    (h' : Both R x' y') : Both R (if c then x else x') (if c then y else y') := by
  split
  · exact h
  · exact h'

end Both

/-- **Two runs of related steps.** Where the steps of two runs are related as long as
each has the property, runs whose steps all have it end alike; induction on the events. -/
theorem both_foldlM {ε' : Type*} {step' : σ → ε' → Except χ σ} {R : σ → σ → Prop}
    {E : ε → ε' → Prop} {P : σ → ε → σ → Prop} {P' : σ → ε' → σ → Prop}
    (sim : ∀ s t e e', R s t → E e e' →
      Both (fun s' t' => P s e s' → P' t e' t' → R s' t') (step s e) (step' t e'))
    {events : List ε} {events' : List ε'} (hevents : List.Forall₂ E events events') {s t : σ}
    (h : R s t) (hP : EveryStep step P s events) (hP' : EveryStep step' P' t events') :
    Both R (events.foldlM step s) (events'.foldlM step' t) := by
  induction hevents generalizing s t with
  | nil => exact h
  | @cons e e' events events' he _ ih =>
    have hstep := sim s t e e' h he
    rw [List.foldlM_cons, List.foldlM_cons]
    cases hs : step s e with
    | error exn =>
      cases ht : step' t e' with
      | error exn' =>
        rw [hs, ht] at hstep
        exact hstep
      | ok t' =>
        rw [hs, ht] at hstep
        exact hstep.elim
    | ok s' =>
      cases ht : step' t e' with
      | error exn' =>
        rw [hs, ht] at hstep
        exact hstep.elim
      | ok t' =>
        rw [hs, ht] at hstep
        obtain ⟨hfirst, hrest⟩ := hP s' hs
        obtain ⟨hfirst', hrest'⟩ := hP' t' ht
        exact ih (hstep hfirst hfirst') hrest hrest'

/-! ## Steps that cannot fail -/

/-- Every step taken along the events has the property. -/
def Along (step : σ → ε → σ) (P : σ → ε → Prop) : σ → List ε → Prop
  | _, [] => True
  | s, e :: events => P s e ∧ Along step P (step s e) events

instance instDecidableAlong {step : σ → ε → σ} {P : σ → ε → Prop} [∀ s e, Decidable (P s e)] :
    (s : σ) → (events : List ε) → Decidable (Along step P s events)
  | _, [] => isTrue trivial
  | s, e :: events =>
    have : Decidable (Along step P (step s e) events) := instDecidableAlong (step s e) events
    inferInstanceAs (Decidable (P s e ∧ Along step P (step s e) events))

/-- What the steps that have the property keep holds in the state reached. -/
theorem foldl_of_along {step : σ → ε → σ} {I : σ → Prop} {P : σ → ε → Prop}
    (keep : ∀ {s e}, I s → P s e → I (step s e)) {events : List ε} {s : σ} (h : I s)
    (halong : Along step P s events) : I (events.foldl step s) := by
  induction events generalizing s with
  | nil => exact h
  | cons e events ih => exact ih (keep h halong.1) halong.2

/-- **A condition on events that an invariant makes exact.** Where in the states of an
invariant a step has `P` exactly when its event has `Q`, and `P` leads back into the
invariant, the runs whose steps all have `P` are those whose events all have `Q`;
induction on the events. -/
theorem along_iff {step : σ → ε → σ} {I : σ → Prop} {P : σ → ε → Prop} {Q : ε → Prop}
    (exact : ∀ {s e}, I s → (P s e ↔ Q e)) (keep : ∀ {s e}, I s → P s e → I (step s e)) {s : σ}
    (h : I s) (events : List ε) : Along step P s events ↔ ∀ e ∈ events, Q e := by
  induction events generalizing s with
  | nil => exact iff_of_true trivial fun e he => nomatch he
  | cons e events ih =>
    rw [List.forall_mem_cons]
    constructor
    · rintro ⟨hP, hrest⟩
      exact ⟨(exact h).mp hP, (ih (keep h hP)).mp hrest⟩
    · rintro ⟨hQ, hrest⟩
      have hP : P s e := (exact h).mpr hQ
      exact ⟨hP, (ih (keep h hP)).mpr hrest⟩

/-- What every step has it has for another reason. -/
theorem Along.imp {step : σ → ε → σ} {P Q : σ → ε → Prop} (himp : ∀ s e, P s e → Q s e) {s : σ}
    {events : List ε} (h : Along step P s events) : Along step Q s events := by
  induction events generalizing s with
  | nil => trivial
  | cons e events ih => exact ⟨himp s e h.1, ih h.2⟩

end Runs
