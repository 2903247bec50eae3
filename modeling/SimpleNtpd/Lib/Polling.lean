import Mathlib.Tactic.TypeStar

/-!
# Polling a source for changes

A poller looks at a source from time to time. The source has a version and a content,
or cannot be read. A version that is not the one the poller has seen last makes it take
the content, a little later, when the source may have changed once more; the version it
sees first it only remembers. Others may take the content too, and the poller may be
stopped and started again.

When the poller is at rest and has seen the version of the source, the content taken
last should be that of the source (`Current`). One act keeps this exactly when it is
`Noticed` (`current_step_iff`): a content is put under a version that was not seen, or
has been taken already, and the same goes for the version that is only remembered. The
poller never finds more changes than were put (`Accounted`).
-/

namespace Polling

/-- A poller and its source, with a record of what was done. -/
structure Poller (τ γ : Type*) where
  source : Option (τ × γ)
  /-- the version seen last -/
  seen : Option τ
  /-- a change was found, and the content is not taken yet -/
  pending : Bool
  /-- the content taken last -/
  taken : Option γ
  /-- the number of changes found -/
  found : Nat
  /-- the number of contents put into the source -/
  puts : Nat

/-- What can happen: to the source, in the poller, by others. -/
inductive Act (τ γ : Type*) where
  | put (version : τ) (content : γ)
  | drop
  | look
  | take
  | refresh
  | rebase

variable {τ γ : Type*}

/-- Take the content, where the source can be read. -/
def Poller.grab (p : Poller τ γ) : Poller τ γ :=
  { p with taken := (p.source.map Prod.snd).or p.taken }

/-- At rest, a version that was seen is one whose content was taken. -/
def Current (p : Poller τ γ) : Prop :=
  p.pending = false → ∀ v c, p.source = some (v, c) → p.seen = some v → p.taken = some c

/-- The content of the source was taken. -/
def Taken (p : Poller τ γ) : Prop := ∀ v c, p.source = some (v, c) → p.taken = some c

/-- An act after which a content cannot be missed. -/
def Noticed (p : Poller τ γ) : Act τ γ → Prop
  | .put v c => p.pending = false → p.seen = some v → p.taken = some c
  | .look => p.pending = false → p.seen = none → Taken p
  | .rebase => p.pending = false → Taken p
  | .drop | .take | .refresh => True

/-- A content that was just taken is that of the source. -/
theorem taken_grab (p : Poller τ γ) : Taken p.grab := by
  intro v c hsource
  change p.source = some (v, c) at hsource
  simp [Poller.grab, hsource]

/-- Take the content of a change that was found. -/
def Poller.take (p : Poller τ γ) : Poller τ γ :=
  if p.pending then { p.grab with pending := false } else p

/-- Stop and start again: the version that is there is remembered. -/
def Poller.rebase (p : Poller τ γ) : Poller τ γ :=
  if p.pending then p else { p with seen := p.source.map Prod.fst }

variable [DecidableEq τ]

/-- Look at the source, unless a change is not dealt with yet. -/
def Poller.look (p : Poller τ γ) : Poller τ γ :=
  if p.pending then p
  else match p.source, p.seen with
    | none, _ => p
    | some (v, _), none => { p with seen := some v }
    | some (v, _), some u =>
      if v = u then p else { p with seen := some v, pending := true, found := p.found + 1 }

/-- One act. -/
def step (p : Poller τ γ) : Act τ γ → Poller τ γ
  | .put v c => { p with source := some (v, c), puts := p.puts + 1 }
  | .drop => { p with source := none }
  | .look => p.look
  | .take => p.take
  | .refresh => p.grab
  | .rebase => p.rebase

/-! ## Nothing is missed -/

variable {p : Poller τ γ}

/-- A look of a poller at rest: nothing can be read or nothing is new, a version is
remembered, or a change is found. -/
theorem look_cases (h : p.pending = false) :
    (p.look = p ∧ ∀ v c, p.source = some (v, c) → p.seen = some v) ∨
      (∃ v c, p.source = some (v, c) ∧ p.seen = none ∧ p.look = { p with seen := some v }) ∨
      ∃ v c u, p.source = some (v, c) ∧ p.seen = some u ∧ v ≠ u ∧
        p.look = { p with seen := some v, pending := true, found := p.found + 1 } := by
  unfold Poller.look
  rw [h, if_neg Bool.false_ne_true]
  cases hsource : p.source with
  | none => exact .inl ⟨rfl, fun _ _ h => nomatch h⟩
  | some r =>
    obtain ⟨v, c⟩ := r
    cases hseen : p.seen with
    | none => exact .inr (.inl ⟨v, c, rfl, rfl, rfl⟩)
    | some u =>
      dsimp only
      by_cases hv : v = u
      · rw [if_pos hv]
        refine .inl ⟨rfl, fun v' c' heq => ?_⟩
        cases heq
        rw [hv]
      · rw [if_neg hv]
        exact .inr (.inr ⟨v, c, u, rfl, rfl, hv, rfl⟩)

/-- **One act keeps what is taken current exactly when it is noticed.** -/
theorem current_step_iff (h : Current p) (a : Act τ γ) : Current (step p a) ↔ Noticed p a := by
  cases a with
  | put v c =>
    constructor
    · exact fun hcurrent hrest hseen => hcurrent hrest v c rfl hseen
    · rintro hnoticed hrest v' c' hsource hseen
      cases hsource
      exact hnoticed hrest hseen
  | drop => exact iff_of_true (fun _ _ _ hsource => nomatch hsource) trivial
  | look =>
    change Current p.look ↔ _
    cases hpending : p.pending with
    | true =>
      have hstay : p.look = p := by
        unfold Poller.look
        rw [hpending, if_pos rfl]
      rw [hstay]
      refine iff_of_true h fun hrest => ?_
      rw [hpending] at hrest
      cases hrest
    | false =>
      rcases look_cases hpending with ⟨hstay, hnew⟩ | ⟨v, c, hsource, hseen, hstep⟩ |
        ⟨v, c, u, hsource, hseen, -, hstep⟩
      · rw [hstay]
        refine iff_of_true h fun hrest hnone v c hsource => ?_
        rw [hnew v c hsource] at hnone
        cases hnone
      · rw [hstep]
        constructor
        · intro hcurrent _ _ v' c' hsource'
          rw [hsource] at hsource'
          cases hsource'
          exact hcurrent hpending v c hsource rfl
        · intro hnoticed _ v' c' hsource' _
          exact hnoticed hpending hseen v' c' hsource'
      · rw [hstep]
        refine iff_of_true (fun hrest => nomatch hrest) fun _ hnone => ?_
        rw [hseen] at hnone
        cases hnone
  | take =>
    refine iff_of_true ?_ trivial
    show Current p.take
    unfold Poller.take
    split
    · exact fun _ v c hsource _ => taken_grab p v c hsource
    · exact h
  | refresh => exact iff_of_true (fun _ v c hsource _ => taken_grab p v c hsource) trivial
  | rebase =>
    change Current p.rebase ↔ (p.pending = false → Taken p)
    unfold Poller.rebase
    cases hpending : p.pending with
    | true =>
      rw [if_pos rfl]
      exact iff_of_true h fun hrest => nomatch hrest
    | false =>
      rw [if_neg Bool.false_ne_true]
      constructor
      · intro hcurrent _ v c hsource
        refine hcurrent rfl v c hsource ?_
        show p.source.map Prod.fst = some v
        rw [hsource]
        rfl
      · exact fun hnoticed _ v c hsource _ => hnoticed rfl v c hsource

/-- **The next look settles it.** A poller at rest that looks, and takes what it finds,
has taken the content of the source. -/
theorem taken_of_look (h : Current p) (hpending : p.pending = false) (hnoticed : Noticed p .look) :
    Taken p.look.take := by
  have hrest : ∀ q : Poller τ γ, q.pending = false → q.take = q := by
    intro q hq
    unfold Poller.take
    rw [hq, if_neg Bool.false_ne_true]
  rcases look_cases hpending with ⟨hstay, hnew⟩ | ⟨v, c, -, hseen, hstep⟩ |
    ⟨v, c, u, -, -, -, hstep⟩
  · rw [hstay, hrest p hpending]
    exact fun v c hsource => h hpending v c hsource (hnew v c hsource)
  · rw [hstep, hrest { p with seen := some v } hpending]
    exact hnoticed hpending hseen
  · rw [hstep]
    exact taken_grab { p with seen := some v, found := p.found + 1 }

/-! ## Nothing is found twice -/

/-- Whether the source has another version than the one seen. -/
def owed (p : Poller τ γ) : Nat :=
  match p.source, p.seen with
  | some (v, _), some u => if v = u then 0 else 1
  | _, _ => 0

theorem owed_le (p : Poller τ γ) : owed p ≤ 1 := by
  unfold owed
  split
  · split <;> decide
  · exact Nat.zero_le 1

/-- What is found and what can be found were put. -/
def Accounted (p : Poller τ γ) : Prop := p.found + owed p ≤ p.puts

/-- Every act keeps the account. -/
theorem Accounted.step (h : Accounted p) (a : Act τ γ) : Accounted (step p a) := by
  unfold Accounted at *
  cases a with
  | put v c =>
    have hle := owed_le (Polling.step p (.put v c))
    show p.found + owed (Polling.step p (.put v c)) ≤ p.puts + 1
    omega
  | drop =>
    show p.found + 0 ≤ p.puts
    omega
  | look =>
    show p.look.found + owed p.look ≤ p.look.puts
    cases hpending : p.pending with
    | true => simpa [Poller.look, hpending] using h
    | false =>
      rcases look_cases hpending with ⟨hstay, -⟩ | ⟨v, c, hsource, hseen, hstep⟩ |
        ⟨v, c, u, hsource, hseen, hne, hstep⟩
      · rwa [hstay]
      · rw [hstep]
        simp only [owed, hsource, if_true]
        omega
      · rw [hstep]
        simp only [owed, hsource, hseen, if_neg hne, if_true] at h ⊢
        omega
  | take =>
    show p.take.found + owed p.take ≤ p.take.puts
    unfold Poller.take
    split <;> exact h
  | refresh => exact h
  | rebase =>
    show p.rebase.found + owed p.rebase ≤ p.rebase.puts
    unfold Poller.rebase
    split
    · exact h
    · have hzero : owed { p with seen := p.source.map Prod.fst } = 0 := by
        unfold owed
        cases p.source <;> simp
      rw [hzero]
      show p.found + 0 ≤ p.puts
      omega

end Polling
