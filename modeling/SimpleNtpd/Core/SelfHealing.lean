import SimpleNtpd.Core.ServingSocket

/-!
# The self-healing budget

A worker whose `recvfrom` has failed compares `restart_count_` with
`service_restart_limit`, and only then adds one to it and restarts the socket. Other
workers come in between any two of these steps, so a `Healing` has the phase of every
worker beside what they share.

Workers that have passed the comparison and not yet added (`counting`) have spent what
the counter does not show. Where each passes it with room for all of them (`Room`),
`InBudget` is kept, and no more restarts are made than the limit allows. A worker alone
always has that room; two can pass with the last restart left for one.
`restart_budget` says both.
-/

namespace SimpleNtpd

/-! ## Workers that heal -/

/-- Where a worker is in the receive loop (server.cpp:394–420). -/
inductive HealingPhase where
  /-- about to call `recvfrom` -/
  | receiving
  /-- it has failed: about to look at the counter -/
  | testing
  /-- about to add to it -/
  | counting
  /-- about to close the socket -/
  | closing
  /-- about to create one -/
  | creating
  /-- about to bind it -/
  | binding
  deriving DecidableEq, Repr

/-- What the workers share, and where each of them is. -/
structure Healing where
  phases : List HealingPhase
  /-- `restart_count_` -/
  restartCount : UInt32 := 0
  /-- `server_socket_` -/
  socket : ServerSocket := .bound
  /-- how often a worker has closed the socket to restart it -/
  restarts : Nat := 0
  deriving DecidableEq, Repr

/-- The turn of a worker, and whether its system call succeeds. -/
structure HealingTurn where
  worker : Nat
  ok : Bool
  deriving DecidableEq, Repr

namespace Healing

/-- Some workers on a socket that `start` has bound. -/
def start (workers : Nat) : Healing where
  phases := List.replicate workers .receiving

/-- `config_->enable_self_healing && restart_count_.load() < config_->service_restart_limit`. -/
def mayRestart (c : NtpConfig) (s : Healing) : Bool :=
  c.enableSelfHealing && s.restartCount < c.serviceRestartLimit

/-- What a worker in a phase does, and its next phase (server.cpp:397–419). -/
def advance (c : NtpConfig) (s : Healing) (ok : Bool) : HealingPhase → HealingPhase × Healing
  | .receiving => (if ok then .receiving else .testing, s)
  | .testing => (if s.mayRestart c then .counting else .receiving, s)
  | .counting => (.closing, { s with restartCount := s.restartCount + 1 })
  | .closing => (.creating, { s with socket := .invalid, restarts := s.restarts + 1 })
  | .creating =>
    if ok then (.binding, { s with socket := .unbound })
    else (.receiving, { s with socket := .invalid })
  -- a socket that is bound, or none, cannot be bound
  | .binding => (.receiving, if ok && s.socket = .unbound then { s with socket := .bound } else s)

/-- One turn; who is no worker does nothing. -/
def step (c : NtpConfig) (s : Healing) (t : HealingTurn) : Healing :=
  match s.phases[t.worker]? with
  | none => s
  | some phase =>
    let (phase', s') := s.advance c t.ok phase
    { s' with phases := s.phases.set t.worker phase' }

/-- The turn of a worker leads to its next phase. -/
theorem step_of_phase {c : NtpConfig} {s : Healing} {t : HealingTurn} {phase : HealingPhase}
    (h : s.phases[t.worker]? = some phase) :
    s.step c t = { (s.advance c t.ok phase).2 with
      phases := s.phases.set t.worker (s.advance c t.ok phase).1 } := by
  rw [step, h]

/-- How many workers are in a phase when one of them has moved. -/
theorem count_set_add {phases : List HealingPhase} {i : Nat} {old : HealingPhase}
    (h : phases[i]? = some old) (new p : HealingPhase) :
    (phases.set i new).count p + (if old = p then 1 else 0)
      = phases.count p + (if new = p then 1 else 0) := by
  obtain ⟨hi, hold⟩ := List.getElem?_eq_some_iff.mp h
  have hpos : old = p → 0 < phases.count p := by
    rintro rfl
    exact List.count_pos_iff.mpr (List.mem_of_getElem? h)
  rw [List.count_set hi, hold]
  simp only [beq_iff_eq]
  split
  · have := hpos ‹_›
    omega
  · omega

/-! ## The budget -/

/-- No more restarts have been made, or counted, than the limit allows. -/
def WithinBudget (c : NtpConfig) (s : Healing) : Prop :=
  s.restarts ≤ c.serviceRestartLimit.toNat ∧ s.restartCount ≤ c.serviceRestartLimit

/-- A worker that passes the comparison finds room for itself and for all that have
passed it and not yet added. -/
def Room (c : NtpConfig) (s : Healing) (t : HealingTurn) : Prop :=
  s.phases[t.worker]? = some .testing → s.mayRestart c = true →
    s.restartCount.toNat + s.phases.count .counting < c.serviceRestartLimit.toNat

/-- The counter has the restarts that have been made and those that have been counted
only, and with those that will be counted it does not exceed the limit. -/
structure InBudget (c : NtpConfig) (s : Healing) : Prop where
  counted : s.restarts + s.phases.count .closing = s.restartCount.toNat
  spent : s.restartCount.toNat + s.phases.count .counting ≤ c.serviceRestartLimit.toNat

theorem InBudget.start (c : NtpConfig) (workers : Nat) : InBudget c (start workers) where
  counted := by
    show 0 + (List.replicate workers HealingPhase.receiving).count .closing = 0
    rw [List.count_replicate]
    rfl
  spent := by
    show 0 + (List.replicate workers HealingPhase.receiving).count .counting ≤ _
    rw [List.count_replicate]
    exact Nat.zero_le _

theorem InBudget.withinBudget {c : NtpConfig} {s : Healing} (h : InBudget c s) :
    WithinBudget c s := by
  have hcounted := h.counted
  have hspent := h.spent
  refine ⟨by omega, ?_⟩
  rw [UInt32.le_iff_toNat_le]
  omega

/-- A move between phases in which a worker has spent nothing. -/
theorem InBudget.idle {c : NtpConfig} {s : Healing} (h : InBudget c s) {i : Nat}
    {old : HealingPhase} (hphase : s.phases[i]? = some old)
    (hold : old ≠ .counting ∧ old ≠ .closing) (new : HealingPhase)
    (hnew : new ≠ .counting ∧ new ≠ .closing) (socket : ServerSocket) :
    InBudget c { s with phases := s.phases.set i new, socket := socket } := by
  have hclosing := count_set_add hphase new .closing
  have hcounting := count_set_add hphase new .counting
  rw [if_neg hold.2, if_neg hnew.2] at hclosing
  rw [if_neg hold.1, if_neg hnew.1] at hcounting
  constructor
  · show s.restarts + (s.phases.set i new).count .closing = _
    rw [← Nat.add_zero (List.count _ _), hclosing]
    exact h.counted
  · show _ + (s.phases.set i new).count .counting ≤ _
    rw [← Nat.add_zero (List.count _ _), hcounting]
    exact h.spent

/-- A counter that is below a limit is not the largest number. -/
theorem toNat_add_one {n m : UInt32} (h : n.toNat < m.toNat) :
    (n + 1).toNat = n.toNat + 1 := by
  have hlt := m.toNat_lt
  rw [UInt32.toNat_add, UInt32.toNat_one]
  exact Nat.mod_eq_of_lt (by omega)

/-- **One turn keeps the budget** when it passes the comparison with room. -/
theorem InBudget.step {c : NtpConfig} {s : Healing} {t : HealingTurn} (h : InBudget c s)
    (hroom : s.Room c t) : InBudget c (s.step c t) := by
  cases hphase : s.phases[t.worker]? with
  | none =>
    rw [Healing.step, hphase]
    exact h
  | some phase =>
    have hcounted := h.counted
    have hspent := h.spent
    have hcount := count_set_add hphase
    rw [step_of_phase hphase]
    cases phase with
    | receiving =>
      cases t.ok with
      | true => exact h.idle hphase (by decide) .receiving (by decide) s.socket
      | false => exact h.idle hphase (by decide) .testing (by decide) s.socket
    | testing =>
      rw [advance]
      split
      · -- the worker enters those that have passed, and there was room for it
        have hroom := hroom hphase ‹_›
        have hclosing := hcount .counting .closing
        have hcounting := hcount .counting .counting
        simp only [reduceCtorEq, if_false, if_true] at hclosing hcounting
        exact ⟨by dsimp only; omega, by dsimp only; omega⟩
      · exact h.idle hphase (by decide) .receiving (by decide) s.socket
    | counting =>
      have hclosing := hcount .closing .closing
      have hcounting := hcount .closing .counting
      simp only [reduceCtorEq, if_false, if_true] at hclosing hcounting
      have hnext : (s.restartCount + 1).toNat = s.restartCount.toNat + 1 :=
        toNat_add_one (m := c.serviceRestartLimit) (by omega)
      exact ⟨by dsimp only [advance]; omega, by dsimp only [advance]; omega⟩
    | closing =>
      have hclosing := hcount .creating .closing
      have hcounting := hcount .creating .counting
      simp only [reduceCtorEq, if_false, if_true] at hclosing hcounting
      exact ⟨by dsimp only [advance]; omega, by dsimp only [advance]; omega⟩
    | creating =>
      cases t.ok with
      | true => exact h.idle hphase (by decide) .binding (by decide) .unbound
      | false => exact h.idle hphase (by decide) .receiving (by decide) .invalid
    | binding =>
      rw [advance]
      split <;> exact h.idle hphase (by decide) .receiving (by decide) _

/-- What a run with room leads to. -/
theorem inBudget_of_room {c : NtpConfig} {workers : Nat} {turns : List HealingTurn}
    (hroom : Runs.Along (Healing.step c) (Room c) (start workers) turns) :
    InBudget c (turns.foldl (Healing.step c) (start workers)) :=
  Runs.foldl_of_along (fun h hroom => h.step hroom) (.start c workers) hroom

/-! ## Where there is always room -/

/-- There can be no two restarts at a time, or none at all. -/
def NoRace (c : NtpConfig) (workers : Nat) : Prop :=
  c.enableSelfHealing = false ∨ c.serviceRestartLimit = 0 ∨ workers ≤ 1

theorem length_step (c : NtpConfig) (s : Healing) (t : HealingTurn) :
    (s.step c t).phases.length = s.phases.length := by
  rw [step]
  split
  · rfl
  · exact List.length_set

/-- The counter is below the limit when a worker passes the comparison, and a worker
alone is the only one that does. -/
theorem room_of_noRace {c : NtpConfig} {s : Healing} (h : NoRace c s.phases.length) (t : HealingTurn) :
    s.Room c t := by
  intro hphase hmay
  obtain ⟨henabled, hbelow⟩ := Bool.and_eq_true _ _ ▸ hmay
  rw [decide_eq_true_iff, UInt32.lt_iff_toNat_lt] at hbelow
  rcases h with hoff | hzero | hone
  · rw [hoff] at henabled
    cases henabled
  · rw [hzero] at hbelow
    exact absurd hbelow (Nat.not_lt_zero _)
  · -- the worker is all there are, and it is not counting
    have hmem := List.mem_of_getElem? hphase
    have hphases : s.phases = [.testing] := by
      match s.phases, hone, hmem with
      | [_], _, hmem => rw [List.mem_singleton.mp hmem]
    rw [hphases]
    exact hbelow

theorem withinBudget_of_noRace {c : NtpConfig} {workers : Nat} (h : NoRace c workers)
    (turns : List HealingTurn) : WithinBudget c (turns.foldl (Healing.step c) (start workers)) := by
  have hinvariant : InBudget c (turns.foldl (Healing.step c) (start workers)) ∧
      (turns.foldl (Healing.step c) (start workers)).phases.length = workers := by
    refine List.foldlRecOn (motive := fun s => InBudget c s ∧ s.phases.length = workers) turns _
      ⟨.start c workers, List.length_replicate⟩ ?_
    rintro s ⟨hbudget, rfl⟩ t -
    exact ⟨hbudget.step (room_of_noRace h t), length_step c s t⟩
  exact hinvariant.1.withinBudget

/-! ## Two workers race -/

/-- A worker makes a restart that fails. -/
def failedRestart : List HealingTurn :=
  [⟨0, false⟩, ⟨0, true⟩, ⟨0, true⟩, ⟨0, true⟩, ⟨0, false⟩]

/-- Two workers pass the comparison before either adds to the counter. -/
def race : List HealingTurn :=
  [⟨0, false⟩, ⟨1, false⟩, ⟨0, true⟩, ⟨1, true⟩, ⟨0, true⟩, ⟨1, true⟩, ⟨0, true⟩, ⟨1, true⟩]

/-- All workers are receiving again. -/
theorem foldl_failedRestart {c : NtpConfig} {s : Healing} {phases : List HealingPhase}
    (hphases : s.phases = .receiving :: phases) (hmay : s.mayRestart c = true) :
    failedRestart.foldl (Healing.step c) s = { s with
      restartCount := s.restartCount + 1, socket := .invalid, restarts := s.restarts + 1 } := by
  obtain ⟨_, count, socket, restarts⟩ := s
  cases hphases
  change (c.enableSelfHealing && decide (count < c.serviceRestartLimit)) = true at hmay
  simp [failedRestart, step, advance, mayRestart, hmay]

/-- The race makes two restarts. -/
theorem foldl_race {c : NtpConfig} {s : Healing} {phases : List HealingPhase}
    (hphases : s.phases = .receiving :: .receiving :: phases) (hmay : s.mayRestart c = true) :
    (race.foldl (Healing.step c) s).restarts = s.restarts + 2 := by
  obtain ⟨_, count, socket, restarts⟩ := s
  cases hphases
  change (c.enableSelfHealing && decide (count < c.serviceRestartLimit)) = true at hmay
  simp [race, step, advance, mayRestart, hmay]

/-- Some restarts, up to the limit, one after the other; induction on how many. -/
theorem exists_restarts {c : NtpConfig} (henabled : c.enableSelfHealing = true) {workers n : Nat}
    (hworkers : 0 < workers) (hn : n ≤ c.serviceRestartLimit.toNat) :
    ∃ (turns : List HealingTurn) (s : Healing), turns.foldl (Healing.step c) (start workers) = s ∧
      s.phases = List.replicate workers .receiving ∧ s.restarts = n ∧ s.restartCount.toNat = n := by
  induction n with
  | zero => exact ⟨[], start workers, rfl, rfl, rfl, rfl⟩
  | succ n ih =>
    obtain ⟨turns, s, hrun, hphases, hrestarts, hcount⟩ := ih (by omega)
    obtain ⟨workers, rfl⟩ := Nat.exists_eq_succ_of_ne_zero hworkers.ne'
    have hmay : s.mayRestart c = true := by
      rw [mayRestart, henabled, Bool.true_and, decide_eq_true_iff, UInt32.lt_iff_toNat_lt]
      omega
    have hstep := foldl_failedRestart (hphases.trans List.replicate_succ) hmay
    refine ⟨turns ++ failedRestart, _, rfl, ?_⟩
    rw [List.foldl_append, hrun, hstep]
    refine ⟨hphases, congrArg (· + 1) hrestarts, ?_⟩
    rw [toNat_add_one (m := c.serviceRestartLimit) (by omega), hcount]

/-- Two workers make one restart too many when they race for the last. -/
theorem exists_overrun {c : NtpConfig} (henabled : c.enableSelfHealing = true)
    (hlimit : c.serviceRestartLimit ≠ 0) {workers : Nat} (hworkers : 1 < workers) :
    ∃ turns : List HealingTurn, c.serviceRestartLimit.toNat
      < (turns.foldl (Healing.step c) (start workers)).restarts := by
  have hpos : c.serviceRestartLimit.toNat ≠ 0 := fun hzero =>
    hlimit (UInt32.toNat_inj.mp hzero)
  obtain ⟨turns, s, hrun, hphases, hrestarts, hcount⟩ :=
    exists_restarts henabled (n := c.serviceRestartLimit.toNat - 1) (Nat.zero_lt_of_lt hworkers)
      (Nat.sub_le _ _)
  have hmay : s.mayRestart c = true := by
    rw [mayRestart, henabled, Bool.true_and, decide_eq_true_iff, UInt32.lt_iff_toNat_lt]
    omega
  have htwo : s.phases = .receiving :: .receiving :: List.replicate (workers - 2) .receiving := by
    rw [hphases, ← List.replicate_succ, ← List.replicate_succ]
    congr 1
    omega
  refine ⟨turns ++ race, ?_⟩
  rw [List.foldl_append, hrun, foldl_race htwo hmay]
  omega

/-- **When the self-healing budget is respected.** With any number of workers, whose
error handling is interleaved in any way: in every run in which each worker that passes
the comparison finds room for all that have passed it and not yet added. Every run is
one exactly where there is at most one worker, or no restart at all. -/
theorem restart_budget (c : NtpConfig) (workers : Nat) :
    (∀ turns, Runs.Along (Healing.step c) (Room c) (start workers) turns →
      WithinBudget c (turns.foldl (Healing.step c) (start workers))) ∧
    ((∀ turns : List HealingTurn, WithinBudget c (turns.foldl (Healing.step c) (start workers))) ↔
      NoRace c workers) := by
  refine ⟨fun turns hroom => (inBudget_of_room hroom).withinBudget, ?_, withinBudget_of_noRace⟩
  intro hall
  by_contra hrace
  rw [NoRace, not_or, not_or, Bool.not_eq_false, Nat.not_le] at hrace
  obtain ⟨turns, hover⟩ := exists_overrun hrace.1 hrace.2.1 hrace.2.2
  have hwithin := (hall turns).1
  omega

/-- Two workers with one restart left make two. -/
theorem two_restarts_of_one :
    let c := { NtpConfig.defaults with enableSelfHealing := true, serviceRestartLimit := 1 }
    ¬WithinBudget c (race.foldl (Healing.step c) (start 2)) := by
  intro c h
  have hrestarts : (race.foldl (Healing.step c) (start 2)).restarts = 2 :=
    foldl_race rfl rfl
  have hwithin := h.1
  rw [hrestarts] at hwithin
  exact absurd hwithin (by decide)

/-! ## The socket between two restarts -/

/-- A worker that binds a new socket succeeds. -/
def BindsNew (s : Healing) (t : HealingTurn) : Prop :=
  s.phases[t.worker]? = some .binding → s.socket = .unbound → t.ok = true

/-- A socket that is not bound is one that a worker is about to bind. -/
def Tended (s : Healing) : Prop := s.socket = .unbound → 0 < s.phases.count .binding

/-- A worker that is not about to bind leaves those that are. -/
theorem Tended.move {s : Healing} (h : s.Tended) {i : Nat} {old : HealingPhase}
    (hphase : s.phases[i]? = some old) (hold : old ≠ .binding) (new : HealingPhase)
    (count : UInt32) : Tended { s with phases := s.phases.set i new, restartCount := count } := by
  intro hsocket
  have hcount := count_set_add hphase new .binding
  have hpos := h hsocket
  rw [if_neg hold] at hcount
  show 0 < (s.phases.set i new).count .binding
  omega

theorem Tended.step {c : NtpConfig} {s : Healing} {t : HealingTurn} (h : s.Tended)
    (hbinds : s.BindsNew t) : (s.step c t).Tended := by
  cases hphase : s.phases[t.worker]? with
  | none =>
    rw [Healing.step, hphase]
    exact h
  | some phase =>
    rw [step_of_phase hphase]
    cases phase with
    | receiving => exact h.move hphase (by decide) _ s.restartCount
    | testing => exact h.move hphase (by decide) _ s.restartCount
    | counting => exact h.move hphase (by decide) _ _
    | closing => exact fun hsocket => nomatch hsocket
    | creating =>
      cases t.ok with
      | true =>
        -- the worker itself is about to bind it
        intro _
        have hcount := count_set_add hphase .binding .binding
        rw [if_pos rfl, if_neg (by decide)] at hcount
        show 0 < (s.phases.set t.worker .binding).count .binding
        omega
      | false => exact fun hsocket => nomatch hsocket
    | binding =>
      rw [advance]
      split
      · exact fun hsocket => nomatch hsocket
      · rename_i hfails
        intro hsocket
        rw [hbinds hphase hsocket, Bool.true_and, decide_eq_true_iff] at hfails
        exact absurd hsocket hfails

/-- **An unbound socket is being restarted**, with any number of workers and any
interleaving, where no bind of a new socket fails. -/
theorem tended_of_binds {c : NtpConfig} {workers : Nat} {turns : List HealingTurn}
    (hbinds : Runs.Along (Healing.step c) BindsNew (start workers) turns) :
    (turns.foldl (Healing.step c) (start workers)).Tended :=
  Runs.foldl_of_along (fun h hbinds => h.step hbinds) (fun hsocket => nomatch hsocket) hbinds

end Healing

end SimpleNtpd
