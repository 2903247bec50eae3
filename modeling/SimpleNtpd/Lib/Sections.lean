import Mathlib.Data.List.Forall2
import Mathlib.Logic.Function.Basic
import SimpleNtpd.Lib.Runs

/-!
# Actions in sections

Actions are cut into sections, and the sections of many actions come in any order. Each
action belongs to a key and works on the part of the state under that key. Only its last
section may also use what all actions share, and when an action ends is for its sections
to say.

If no two actions of one key are under way at once, such a run is one of whole actions:
each may be carried out at once where its last section stands (`serializes`). The whole
actions are in the trace of the run, with what their sections were given.
-/

namespace Sections

open Components Runs

/-- An action as far as it has come. -/
structure Action (τ ε : Type*) where
  first : τ
  /-- what its sections were given -/
  inputs : List ε := []
  now : τ

/-- What is done at once: an action with the inputs of its sections, or something else to
what is shared. -/
inductive Whole (ι τ ε ω : Type*) where
  | action (id : ι) (first : τ) (before : List ε) (last : ε)
  | other (o : ω)

/-- The action that is done. -/
def Whole.id {ι τ ε ω : Type*} : Whole ι τ ε ω → Option ι
  | action id _ _ _ => some id
  | other _ => none

inductive Event (ι τ ε ω : Type*) where
  | start (id : ι) (first : τ)
  /-- the next section of an action -/
  | act (id : ι) (input : ε)
  | other (o : ω)

/-- The key of an action, whether it has ended, what a section does to the action, what is
shared and the part of its key, and what else is done. -/
structure System (ι κ γ α τ ε ω χ : Type*) where
  key : ι → κ
  ended : τ → Bool
  act : ι → τ × γ × α → ε → Except χ (τ × γ × α)
  other : ω → γ → γ

variable {ι κ γ α τ ε ω χ : Type*}

/-- Before its last section an action neither reads nor changes what is shared. -/
def System.Local (M : System ι κ γ α τ ε ω χ) : Prop :=
  ∀ {id t g a e t' g' a'}, M.act id (t, g, a) e = .ok (t', g', a') → M.ended t' = false →
    g' = g ∧ ∀ h, M.act id (t, h, a) e = .ok (t', h, a')

/-- A state between sections, with the trace of what was completed. -/
@[ext]
structure State (ι κ γ α τ ε ω : Type*) where
  shared : γ
  parts : κ → α
  actions : ι → Option (Action τ ε) := fun _ => none
  trace : List (Whole ι τ ε ω) := []

/-- A state between whole actions. -/
structure Serial (κ γ α : Type*) where
  shared : γ
  parts : κ → α

section Machines

variable (M : System ι κ γ α τ ε ω χ) [DecidableEq ι] [DecidableEq κ]

namespace State

/-- The state after the start of an action. -/
def enter (s : State ι κ γ α τ ε ω) (id : ι) (first : τ) : State ι κ γ α τ ε ω :=
  { s with actions := Function.update s.actions id (some { first := first, now := first }) }

/-- The state after a section. -/
def put (s : State ι κ γ α τ ε ω) (id : ι) (a : Action τ ε) (input : ε) (after : τ × γ × α) :
    State ι κ γ α τ ε ω where
  shared := after.2.1
  parts := Function.update s.parts (M.key id) after.2.2
  actions := Function.update s.actions id
    (some { a with now := after.1, inputs := a.inputs ++ [input] })
  trace := if M.ended after.1 then s.trace ++ [.action id a.first a.inputs input] else s.trace

def step (s : State ι κ γ α τ ε ω) : Event ι τ ε ω → Except χ (State ι κ γ α τ ε ω)
  | .start id first =>
    match s.actions id with
    | some _ => .ok s
    | none => .ok (s.enter id first)
  | .act id input =>
    match s.actions id with
    | none => .ok s
    | some a =>
      if M.ended a.now then .ok s
      else match M.act id (a.now, s.shared, s.parts (M.key id)) input with
        | .error x => .error x
        | .ok after => .ok (s.put M id a input after)
  | .other o => .ok { s with shared := M.other o s.shared, trace := s.trace ++ [.other o] }

/-- The next section of an action. -/
theorem step_act {s : State ι κ γ α τ ε ω} {id : ι} {a : Action τ ε} {input : ε} {after : τ × γ × α}
    (ha : s.actions id = some a) (hopen : M.ended a.now = false)
    (hact : M.act id (a.now, s.shared, s.parts (M.key id)) input = .ok after) :
    s.step M (.act id input) = .ok (s.put M id a input after) := by
  simp only [step, ha, hopen, hact, Bool.false_eq_true, if_false]

/-- The action is under way: it has done a section, and it has not ended. -/
def Begun (s : State ι κ γ α τ ε ω) (id : ι) : Prop :=
  ∃ a, s.actions id = some a ∧ a.inputs ≠ [] ∧ M.ended a.now = false

/-- No other action of its key is under way when an action does a section. -/
def Apart (s : State ι κ γ α τ ε ω) : Event ι τ ε ω → Prop
  | .act id _ => ∀ other, M.key other = M.key id → s.Begun M other → other = id
  | _ => True

/-- What became of a whole action is what the action has come to in sections. -/
def Tells (s : State ι κ γ α τ ε ω) : Whole ι τ ε ω → Option τ → Prop
  | .action id first before last, result => ∃ a, s.actions id = some a ∧ a.first = first ∧
      a.inputs = before ++ [last] ∧ result = some a.now ∧ M.ended a.now = true
  | .other _, result => result = none

end State

/-- Sections of an action one after the other, none of them behind its end. -/
def System.Leads (id : ι) : List ε → τ × γ × α → τ × γ × α → Prop
  | [], a, b => b = a
  | e :: es, a, b => M.ended a.1 = false ∧ ∃ mid, M.act id a e = .ok mid ∧ Leads id es mid b

/-- What is done at once, and what becomes of the action. -/
inductive Serial.Step : Serial κ γ α → Whole ι τ ε ω → Option τ → Serial κ γ α → Prop
  | action {u : Serial κ γ α} {id : ι} {first : τ} {before : List ε} {last : ε}
      {after : τ × γ × α}
      (leads : M.Leads id (before ++ [last]) (first, u.shared, u.parts (M.key id)) after)
      (ends : M.ended after.1 = true) :
      Step u (.action id first before last) (some after.1)
        { shared := after.2.1, parts := Function.update u.parts (M.key id) after.2.2 }
  | other {u : Serial κ γ α} (o : ω) :
      Step u (.other o) none { u with shared := M.other o u.shared }

/-- A run of whole actions, with what becomes of each. -/
inductive Serial.Run : Serial κ γ α → List (Whole ι τ ε ω) → List (Option τ) → Serial κ γ α → Prop
  | nil (u : Serial κ γ α) : Run u [] [] u
  | concat {u v v' : Serial κ γ α} {whole : List (Whole ι τ ε ω)} {results : List (Option τ)}
      {w : Whole ι τ ε ω} {result : Option τ} (run : Run u whole results v)
      (step : Serial.Step M v w result v') : Run u (whole ++ [w]) (results ++ [result]) v'

end Machines

/-! ## The simulation -/

section Simulation

variable {M : System ι κ γ α τ ε ω χ}
  {s s' : State ι κ γ α τ ε ω} {u : Serial κ γ α} {results : List (Option τ)} {id : ι}
  {a : Action τ ε}

theorem leads_append_iff {xs ys : List ε} {a b : τ × γ × α} :
    M.Leads id (xs ++ ys) a b ↔ ∃ mid, M.Leads id xs a mid ∧ M.Leads id ys mid b := by
  induction xs generalizing a with
  | nil =>
    constructor
    · exact fun h => ⟨a, rfl, h⟩
    · rintro ⟨mid, rfl, h⟩
      exact h
  | cons e xs ih =>
    constructor
    · rintro ⟨hopen, mid, hact, hrest⟩
      obtain ⟨mid', hxs, hys⟩ := ih.mp hrest
      exact ⟨mid', ⟨hopen, mid, hact, hxs⟩, hys⟩
    · rintro ⟨mid', ⟨hopen, mid, hact, hxs⟩, hys⟩
      exact ⟨hopen, mid, hact, ih.mpr ⟨mid', hxs, hys⟩⟩

/-- The serial machine is where the last whole action has left it. It agrees on what is
shared and on the parts without an action under way. From the part of an action that is
under way, the sections done so far lead to where the action stands, whatever is shared.
The results are what the actions have come to. -/
structure Follows (M : System ι κ γ α τ ε ω χ) (s : State ι κ γ α τ ε ω) (u : Serial κ γ α)
    (results : List (Option τ)) : Prop where
  shared : u.shared = s.shared
  parts : ∀ k, (∀ id, M.key id = k → ¬s.Begun M id) → u.parts k = s.parts k
  fresh : ∀ id a, s.actions id = some a → a.inputs = [] → a.now = a.first
  begun : ∀ id a, s.actions id = some a → a.inputs ≠ [] → M.ended a.now = false → ∀ g,
    M.Leads id a.inputs (a.first, g, u.parts (M.key id)) (a.now, g, s.parts (M.key id))
  told : List.Forall₂ (s.Tells M) s.trace results
  alone : ∀ id id', s.Begun M id → s.Begun M id' → M.key id = M.key id' → id = id'
  traced : ∀ id a, s.actions id = some a → a.inputs ≠ [] → M.ended a.now = true →
    id ∈ s.trace.filterMap Whole.id
  once : (s.trace.filterMap Whole.id).Nodup

theorem Follows.idle (shared : γ) (parts : κ → α) :
    Follows M ({ shared := shared, parts := parts } : State ι κ γ α τ ε ω)
      { shared := shared, parts := parts } [] where
  shared := rfl
  parts _ _ := rfl
  fresh _ _ h := by cases h
  begun _ _ h := by cases h
  alone _ _ h := by
    obtain ⟨a, h, -⟩ := h
    cases h
  told := .nil
  traced _ _ h := by cases h
  once := .nil

/-- Up to its next section, an action has the serial machine's part to itself. -/
theorem Follows.so_far (h : Follows M s u results) {input : ε} (hapart : s.Apart M (.act id input))
    (ha : s.actions id = some a) (hopen : M.ended a.now = false) (g : γ) :
    M.Leads id a.inputs (a.first, g, u.parts (M.key id)) (a.now, g, s.parts (M.key id)) := by
  by_cases hinputs : a.inputs = []
  · have hrest : ∀ other, M.key other = M.key id → ¬s.Begun M other := by
      rintro other hkey hbegun
      obtain rfl := hapart other hkey hbegun
      obtain ⟨a', ha', hne, -⟩ := hbegun
      rw [ha] at ha'
      cases ha'
      exact hne hinputs
    rw [hinputs, h.fresh id a ha hinputs, h.parts _ hrest]
    rfl
  · exact h.begun id a ha hinputs hopen g

/-- What is in the trace has ended. -/
theorem ended_of_traced {trace : List (Whole ι τ ε ω)}
    (h : List.Forall₂ (s.Tells M) trace results) (hid : id ∈ trace.filterMap Whole.id) :
    ∃ a, s.actions id = some a ∧ M.ended a.now = true := by
  induction h with
  | nil => cases hid
  | @cons w result trace results hw _ ih =>
    cases w with
    | other o => exact ih hid
    | action id' first before last =>
      simp only [List.filterMap_cons, Whole.id, List.mem_cons] at hid
      rcases hid with rfl | hid
      · obtain ⟨a, ha, -, -, -, hended⟩ := hw
        exact ⟨a, ha, hended⟩
      · exact ih hid

/-- What else is done is done at once. -/
theorem Follows.other (h : Follows M s u results) (o : ω) :
    Follows M { s with shared := M.other o s.shared, trace := s.trace ++ [.other o] }
      { u with shared := M.other o u.shared } (results ++ [none]) where
  shared := congrArg (M.other o) h.shared
  parts := h.parts
  fresh := h.fresh
  begun := h.begun
  alone := h.alone
  told := by
    refine List.rel_append (h.told.imp fun w result hw => ?_) (.cons rfl .nil)
    cases w <;> exact hw
  traced id a ha hinputs hended := by
    rw [List.filterMap_append]
    exact List.mem_append_left _ (h.traced id a ha hinputs hended)
  once := by
    rw [List.filterMap_append]
    exact (List.append_nil _).symm ▸ h.once

variable [DecidableEq ι]

/-- An action that starts is not under way. -/
theorem Follows.start (h : Follows M s u results) (hid : s.actions id = none) (first : τ) :
    Follows M (s.enter id first) u results := by
  have hself : (s.enter id first).actions id = some { first := first, now := first } :=
    Function.update_self ..
  have hothers : ∀ {id'}, id' ≠ id → (s.enter id first).actions id' = s.actions id' :=
    fun hne => Function.update_of_ne hne _ _
  have hbegun : ∀ id', (s.enter id first).Begun M id' ↔ s.Begun M id' := by
    intro id'
    by_cases heq : id' = id
    · subst heq
      simp [State.Begun, hid, hself]
    · simp [State.Begun, hothers heq]
  have hold : ∀ id' a, a.inputs ≠ [] → (s.enter id first).actions id' = some a →
      s.actions id' = some a := by
    intro id' a hinputs ha
    by_cases heq : id' = id
    · subst heq
      rw [hself] at ha
      cases ha
      exact absurd rfl hinputs
    · exact (hothers heq).symm.trans ha
  constructor
  · exact h.shared
  · exact fun k hrest => h.parts k fun id' hid' hb => hrest id' hid' ((hbegun id').mpr hb)
  · intro id' a ha hinputs
    by_cases heq : id' = id
    · subst heq
      rw [hself] at ha
      cases ha
      rfl
    · exact h.fresh id' a ((hothers heq).symm.trans ha) hinputs
  · exact fun id' a ha hinputs => h.begun id' a (hold id' a hinputs ha) hinputs
  · refine h.told.imp fun w result hw => ?_
    cases w with
    | other o => exact hw
    | action id' first' before last =>
      obtain ⟨a, ha, hrest⟩ := hw
      have hne : id' ≠ id := by
        rintro rfl
        rw [hid] at ha
        cases ha
      exact ⟨a, (hothers hne).trans ha, hrest⟩
  · exact fun i j hi hj => h.alone i j ((hbegun i).mp hi) ((hbegun j).mp hj)
  · exact fun id' a ha hinputs => h.traced id' a (hold id' a hinputs ha) hinputs
  · exact h.once

variable [DecidableEq κ]

/-- What has ended stays as it is. -/
theorem Tells.put (hopen : M.ended a.now = false) (ha : s.actions id = some a) {input : ε}
    {after : τ × γ × α} {w : Whole ι τ ε ω} {result : Option τ} (h : s.Tells M w result) :
    (s.put M id a input after).Tells M w result := by
  cases w with
  | other o => exact h
  | action id' first before last =>
    obtain ⟨a', ha', hrest⟩ := h
    have hne : id' ≠ id := by
      rintro rfl
      rw [ha] at ha'
      cases ha'
      rw [hopen] at hrest
      exact absurd hrest.2.2.2 Bool.false_ne_true
    exact ⟨a', (Function.update_of_ne hne _ _).trans ha', hrest⟩

theorem actions_put_self (input : ε) (after : τ × γ × α) :
    (s.put M id a input after).actions id
      = some { a with now := after.1, inputs := a.inputs ++ [input] } := Function.update_self ..

theorem actions_put_of_ne {id' : ι} (hne : id' ≠ id) (input : ε) (after : τ × γ × α) :
    (s.put M id a input after).actions id' = s.actions id' := Function.update_of_ne hne _ _

theorem parts_put_self (input : ε) (after : τ × γ × α) :
    (s.put M id a input after).parts (M.key id) = after.2.2 := Function.update_self ..

theorem parts_put_of_ne {k : κ} (hne : k ≠ M.key id) (input : ε) (after : τ × γ × α) :
    (s.put M id a input after).parts k = s.parts k := Function.update_of_ne hne _ _

theorem begun_put_self {input : ε} {after : τ × γ × α} :
    (s.put M id a input after).Begun M id ↔ M.ended after.1 = false := by
  constructor
  · rintro ⟨a', ha', -, hopen⟩
    rw [actions_put_self] at ha'
    cases ha'
    exact hopen
  · exact fun hopen => ⟨_, actions_put_self .., List.concat_ne_nil _ _, hopen⟩

theorem begun_put_of_ne {id' : ι} (hne : id' ≠ id) {input : ε} {after : τ × γ × α} :
    (s.put M id a input after).Begun M id' ↔ s.Begun M id' := by
  simp only [State.Begun, actions_put_of_ne hne]

/-- **A section before the last one** is none of the serial machine's. -/
theorem Follows.before_end (hM : M.Local) (h : Follows M s u results) {input : ε}
    (hapart : s.Apart M (.act id input)) (ha : s.actions id = some a)
    (hopen : M.ended a.now = false) {after : τ × γ × α}
    (hact : M.act id (a.now, s.shared, s.parts (M.key id)) input = .ok after)
    (hgoes : M.ended after.1 = false) : Follows M (s.put M id a input after) u results := by
  obtain ⟨t, g, p⟩ := after
  obtain ⟨hshared, hanyway⟩ := hM hact hgoes
  have hbegun : ∀ id', (s.put M id a input (t, g, p)).Begun M id' → id' = id ∨ s.Begun M id' :=
    fun id' hid' => (eq_or_ne id' id).imp_right fun hne => (begun_put_of_ne hne).mp hid'
  -- nothing is completed, so the trace stays
  have htrace : (s.put M id a input (t, g, p)).trace = s.trace :=
    if_neg (by rw [hgoes]; exact Bool.false_ne_true)
  constructor
  · exact h.shared.trans hshared.symm
  · intro k hrest
    have hkey : k ≠ M.key id := fun heq => hrest id heq.symm (begun_put_self.mpr hgoes)
    refine (h.parts k fun id' hid' hold => hrest id' hid' ?_).trans
      (parts_put_of_ne hkey _ _).symm
    refine (begun_put_of_ne ?_).mpr hold
    rintro rfl
    exact hkey hid'.symm
  · intro id' a' ha' hinputs
    by_cases hid : id' = id
    · subst hid
      rw [actions_put_self] at ha'
      cases ha'
      exact absurd hinputs (List.concat_ne_nil _ _)
    · exact h.fresh id' a' ((actions_put_of_ne hid input _).symm.trans ha') hinputs
  · intro id' a' ha' hinputs hopen' g'
    by_cases hid : id' = id
    · subst hid
      rw [actions_put_self] at ha'
      cases ha'
      rw [parts_put_self]
      exact leads_append_iff.mpr ⟨_, h.so_far hapart ha hopen g', hopen, _, hanyway g', rfl⟩
    · have hold := (actions_put_of_ne hid input _).symm.trans ha'
      have hkey : M.key id' ≠ M.key id := fun heq =>
        hid (hapart id' heq ⟨a', hold, hinputs, hopen'⟩)
      rw [parts_put_of_ne hkey]
      exact h.begun id' a' hold hinputs hopen' g'
  · rw [htrace]
    exact h.told.imp fun w result hw => Tells.put hopen ha hw
  · intro i j hi hj hkey
    rcases hbegun i hi with rfl | hi' <;> rcases hbegun j hj with rfl | hj'
    · rfl
    · exact (hapart j hkey.symm hj').symm
    · exact hapart i hkey hi'
    · exact h.alone i j hi' hj' hkey
  · intro id' a' ha' hinputs hended
    rw [htrace]
    by_cases hid : id' = id
    · subst hid
      rw [actions_put_self] at ha'
      cases ha'
      rw [hgoes] at hended
      cases hended
    · exact h.traced id' a' ((actions_put_of_ne hid input _).symm.trans ha') hinputs hended
  · rw [htrace]
    exact h.once

/-- **The last section** is the whole action for the serial machine. -/
theorem Follows.at_end (h : Follows M s u results) {input : ε}
    (hapart : s.Apart M (.act id input)) (ha : s.actions id = some a)
    (hopen : M.ended a.now = false) {after : τ × γ × α}
    (hact : M.act id (a.now, s.shared, s.parts (M.key id)) input = .ok after)
    (hends : M.ended after.1 = true) :
    ∃ u', Serial.Step M u (.action id a.first a.inputs input) (some after.1) u' ∧
      Follows M (s.put M id a input after) u' (results ++ [some after.1]) := by
  have hwhole : M.Leads id (a.inputs ++ [input]) (a.first, u.shared, u.parts (M.key id)) after := by
    refine leads_append_iff.mpr ⟨_, h.so_far hapart ha hopen u.shared, hopen, after, ?_, rfl⟩
    rw [h.shared]
    exact hact
  refine ⟨_, .action hwhole hends, ?_⟩
  obtain ⟨t, g, p⟩ := after
  have hbegun : ∀ id', (s.put M id a input (t, g, p)).Begun M id' → id' ≠ id ∧ s.Begun M id' := by
    intro id' hid'
    have hne : id' ≠ id := by
      rintro rfl
      rw [begun_put_self, hends] at hid'
      cases hid'
    exact ⟨hne, (begun_put_of_ne hne).mp hid'⟩
  have htrace : (s.put M id a input (t, g, p)).trace
      = s.trace ++ [.action id a.first a.inputs input] := if_pos hends
  have hnew : id ∉ s.trace.filterMap Whole.id := by
    intro hmem
    obtain ⟨a', ha', hended⟩ := ended_of_traced h.told hmem
    rw [ha] at ha'
    cases ha'
    rw [hopen] at hended
    cases hended
  constructor
  · rfl
  · intro k hrest
    by_cases hkey : k = M.key id
    · subst hkey
      exact (Function.update_self ..).trans (parts_put_self input (t, g, p)).symm
    · rw [parts_put_of_ne hkey]
      refine (Function.update_of_ne hkey _ _).trans (h.parts k fun id' hid' hold => ?_)
      refine hrest id' hid' ((begun_put_of_ne ?_).mpr hold)
      rintro rfl
      exact hkey hid'.symm
  · intro id' a' ha' hinputs
    by_cases hid : id' = id
    · subst hid
      rw [actions_put_self] at ha'
      cases ha'
      exact absurd hinputs (List.concat_ne_nil _ _)
    · exact h.fresh id' a' ((actions_put_of_ne hid input _).symm.trans ha') hinputs
  · intro id' a' ha' hinputs hopen' g'
    obtain ⟨hid, hold⟩ := hbegun id' ⟨a', ha', hinputs, hopen'⟩
    have hkey : M.key id' ≠ M.key id := fun heq => hid (hapart id' heq hold)
    rw [parts_put_of_ne hkey]
    dsimp only
    rw [Function.update_of_ne hkey]
    exact h.begun id' a' ((actions_put_of_ne hid input _).symm.trans ha') hinputs hopen' g'
  · rw [htrace]
    refine List.rel_append (h.told.imp fun w result hw => Tells.put hopen ha hw) (.cons ?_ .nil)
    exact ⟨_, actions_put_self .., rfl, rfl, rfl, hends⟩
  · exact fun i j hi hj hkey => h.alone i j (hbegun i hi).2 (hbegun j hj).2 hkey
  · intro id' a' ha' hinputs hended
    rw [htrace, List.filterMap_append, List.mem_append]
    by_cases hid : id' = id
    · subst hid
      exact .inr List.mem_cons_self
    · exact .inl (h.traced id' a' ((actions_put_of_ne hid input _).symm.trans ha') hinputs hended)
  · rw [htrace, List.filterMap_append]
    refine List.nodup_append.mpr ⟨h.once, List.nodup_cons.mpr ⟨List.not_mem_nil, .nil⟩, ?_⟩
    intro i hi j hj
    rw [List.mem_singleton.mp hj]
    rintro rfl
    exact hnew hi

/-- The trace is carried out by the serial machine, which follows. -/
def Serialized (M : System ι κ γ α τ ε ω χ) (u₀ : Serial κ γ α) (s : State ι κ γ α τ ε ω) : Prop :=
  ∃ u results, Serial.Run M u₀ s.trace results u ∧ Follows M s u results

/-- **Every step** is matched by what it adds to the trace. -/
theorem Serialized.step (hM : M.Local) {u₀ : Serial κ γ α} (h : Serialized M u₀ s)
    {e : Event ι τ ε ω} (hapart : s.Apart M e) (hstep : s.step M e = .ok s') :
    Serialized M u₀ s' := by
  obtain ⟨u, results, hrun, hfollows⟩ := h
  cases e with
  | start id first =>
    cases hid : s.actions id with
    | some a =>
      simp only [State.step, hid] at hstep
      cases hstep
      exact ⟨u, results, hrun, hfollows⟩
    | none =>
      simp only [State.step, hid] at hstep
      cases hstep
      exact ⟨u, results, hrun, hfollows.start hid first⟩
  | act id input =>
    cases ha : s.actions id with
    | none =>
      simp only [State.step, ha] at hstep
      cases hstep
      exact ⟨u, results, hrun, hfollows⟩
    | some a =>
      cases hopen : M.ended a.now with
      | true =>
        simp only [State.step, ha, hopen, if_true] at hstep
        cases hstep
        exact ⟨u, results, hrun, hfollows⟩
      | false =>
        simp only [State.step, ha, hopen, Bool.false_eq_true, if_false] at hstep
        split at hstep
        · cases hstep
        · rename_i after hact
          cases hstep
          cases hends : M.ended after.1 with
          | false =>
            refine ⟨u, results, ?_, hfollows.before_end hM hapart ha hopen hact hends⟩
            rw [State.put, hends]
            exact hrun
          | true =>
            obtain ⟨u', hlast, hfollows'⟩ := hfollows.at_end hapart ha hopen hact hends
            refine ⟨u', _, ?_, hfollows'⟩
            rw [State.put, hends]
            exact hrun.concat hlast
  | other o =>
    simp only [State.step] at hstep
    cases hstep
    exact ⟨_, _, hrun.concat (.other o), hfollows.other o⟩

/-- **Runs of sections are runs of whole actions.** Where no two actions of one key are
ever under way at once, the trace is carried out with the same results, each action once,
and in the end the shared state and the parts without an action under way are the same. -/
theorem serializes (hM : M.Local) (shared : γ) (parts : κ → α) {events : List (Event ι τ ε ω)}
    (hrun : events.foldlM (State.step M) { shared := shared, parts := parts } = .ok s)
    (hapart : EveryStep (State.step M) (fun s e _ => s.Apart M e)
      { shared := shared, parts := parts } events) :
    Serialized M { shared := shared, parts := parts } s := by
  have hidle : Serialized M { shared := shared, parts := parts }
      { shared := shared, parts := parts } := ⟨_, _, .nil _, .idle shared parts⟩
  refine foldlM_of_everyStep ?_ hidle hapart hrun
  intro s e t h hstep hnext
  exact h.step hM hnext hstep

end Simulation

end Sections
