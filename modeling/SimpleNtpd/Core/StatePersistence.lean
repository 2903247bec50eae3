import SimpleNtpd.Core.Statistics

/-!
# The state file

`stop` writes three counters to the state file and `start` opens the file again
(server.cpp). What is written tells the counters: no two triples are written
alike (`stateText_injective`). `loadState` looks for the name of the first and
reports that the state is loaded, but takes nothing from the file. So a new
process begins at zero, and the counters survive when they were zero.
-/

namespace SimpleNtpd

open Cpp

/-- What `persistState` writes (server.cpp:853–857). -/
def stateText (stats : NtpServerStats) : Str :=
  lit "\x7b\n" ++
  (lit "  \"total_requests\": " ++ (toDecimal stats.totalRequests ++ lit ",\n")) ++
  (lit "  \"total_errors\": " ++ (toDecimal stats.totalErrors ++ lit ",\n")) ++
  (lit "  \"total_connections\": " ++ (toDecimal stats.totalConnections ++ lit "\n")) ++
  lit "\x7d\n"

/-- The configuration names a state file to be used. -/
def NtpConfig.keepsState (c : NtpConfig) : Bool :=
  c.enableStatePersistence && !c.stateFile.isEmpty

namespace NtpServer

/-- The file that is written, and its content, where it can be opened
(server.cpp:845–858). -/
def persistState (s : NtpServer) (writable : Bool) : Option (Str × Str) :=
  if s.currentConfig.keepsState && writable then
    some (s.currentConfig.stateFile, stateText s.stats)
  else none

/-- Whether the state is reported as loaded, and the server afterwards
(server.cpp:860–873). -/
def loadState (s : NtpServer) (files : Str → Option Str) : Bool × NtpServer :=
  if !s.currentConfig.keepsState then (false, s)
  else
    match files s.currentConfig.stateFile with
    | none => (false, s)
    | some content => ((findStr content (lit "total_requests")).isSome, s)

end NtpServer

namespace Daemon

/-- `start` with the load of the state behind `running_ = true`
(server.cpp:109–112). -/
def startLoading (d : Daemon) (env : StartEnv) (files : Str → Option Str) : Bool × Daemon :=
  let started := d.start env
  if started.1 then
    (true, { started.2 with server := (started.2.server.loadState files).2 })
  else started

/-- `stop` with the state it persists behind the clean-up of the connections
(server.cpp:202–204). -/
def stopPersisting (d : Daemon) (writable : Bool) : Option (Str × Str) × Daemon :=
  if !d.running then (none, d) else (d.stop.server.persistState writable, d.stop)

end Daemon

/-! ## What is written -/

/-- A number ends at the first byte that is no digit. -/
theorem toDecimal_append_inj {m n : Nat} {b : UInt8} (h : isDigit b = false) {x y : Str} :
    toDecimal m ++ b :: x = toDecimal n ++ b :: y ↔ m = n ∧ x = y := by
  have hdigits : ∀ (k : Nat) (z : Str), (toDecimal k ++ b :: z).takeWhile isDigit = toDecimal k := by
    intro k z
    rw [List.takeWhile_append_of_pos fun c hc => isDigit_of_mem_toDecimal hc,
      List.takeWhile_cons_of_neg (by rw [h]; exact Bool.false_ne_true), List.append_nil]
  constructor
  · intro heq
    have hnumber := congrArg (List.takeWhile isDigit) heq
    rw [hdigits, hdigits] at hnumber
    have hmn : m = n := toDecimal_injective hnumber
    rw [hmn] at heq
    exact ⟨hmn, (List.cons.inj (List.append_cancel_left heq)).2⟩
  · rintro ⟨rfl, rfl⟩
    rfl

/-- **The file tells the counters**, for all values of them. -/
theorem stateText_injective {st st' : NtpServerStats} (h : stateText st = stateText st') :
    st.totalRequests = st'.totalRequests ∧ st.totalErrors = st'.totalErrors ∧
      st.totalConnections = st'.totalConnections := by
  unfold stateText at h
  simp only [List.append_assoc, List.append_cancel_left_eq] at h
  have hcomma : ∀ s : Str, lit ",\n" ++ s = ','.toUInt8 :: (lit "\n" ++ s) := fun _ => rfl
  have hline : ∀ s : Str, lit "\n" ++ s = '\n'.toUInt8 :: s := fun _ => rfl
  -- each number ends at its comma, the last at the end of its line
  simp only [hcomma] at h
  rw [toDecimal_append_inj (by decide)] at h
  obtain ⟨hrequests, h⟩ := h
  simp only [List.append_cancel_left_eq] at h
  rw [toDecimal_append_inj (by decide)] at h
  obtain ⟨herrors, h⟩ := h
  simp only [List.append_cancel_left_eq] at h
  rw [hline, toDecimal_append_inj (by decide)] at h
  exact ⟨hrequests, herrors, h.1⟩

/-- A load of what was written is reported. -/
theorem NtpServer.loadState_stateText {s : NtpServer} {files : Str → Option Str}
    {st : NtpServerStats} (h : s.currentConfig.keepsState = true)
    (hfile : files s.currentConfig.stateFile = some (stateText st)) :
    (s.loadState files).1 = true := by
  unfold loadState
  rw [h, hfile, Bool.not_true, if_neg Bool.false_ne_true]
  dsimp only
  have hname : stateText st = (lit "\x7b\n" ++ lit "  \"") ++ lit "total_requests"
      ++ (lit "\": " ++ (toDecimal st.totalRequests ++ lit ",\n")
        ++ (lit "  \"total_errors\": " ++ (toDecimal st.totalErrors ++ lit ",\n"))
        ++ (lit "  \"total_connections\": " ++ (toDecimal st.totalConnections ++ lit "\n"))
        ++ lit "\x7d\n") := by
    have hkey : lit "  \"total_requests\": " = lit "  \"" ++ (lit "total_requests" ++ lit "\": ") :=
      rfl
    unfold stateText
    rw [hkey]
    simp only [List.append_assoc]
  rw [hname]
  exact isSome_findStr _ _ _

/-! ## What is loaded -/

/-- **Loading changes nothing.** -/
theorem NtpServer.loadState_snd (s : NtpServer) (files : Str → Option Str) :
    (s.loadState files).2 = s := by
  unfold loadState
  split
  · rfl
  · split <;> rfl

/-- The start of the upstream servers leaves the counters. -/
theorem Daemon.startUpstreams_stats (s : NtpServer) : (startUpstreams s).stats = s.stats := by
  obtain ⟨healthy, sync, ref, heq⟩ := startUpstreams_eq s
  rw [heq]

/-- A new process has all counters at zero when it has started. -/
theorem Daemon.startLoading_stats (c : NtpConfig) (logger : LoggerSettings) (env : StartEnv)
    (files : Str → Option Str) :
    ((Daemon.create c logger).startLoading env files).2.server.stats = {} := by
  unfold startLoading
  dsimp only
  rcases start_cases (create c logger) env with hstay | ⟨-, -, -, hstart⟩
  · rw [hstay]
    rfl
  · rw [hstart, if_pos rfl]
    dsimp only
    rw [NtpServer.loadState_snd, startUpstreams_stats]
    rfl

/-- What `stop` persists is the three counters of the stopped server. -/
theorem Daemon.stopPersisting_eq_some_iff {d : Daemon} {writable : Bool} {path content : Str} :
    (d.stopPersisting writable).1 = some (path, content) ↔
      d.running = true ∧ writable = true ∧ d.stop.currentConfig.keepsState = true ∧
        path = d.stop.currentConfig.stateFile ∧ content = stateText d.stop.server.stats := by
  unfold stopPersisting NtpServer.persistState
  cases d.running with
  | false => exact iff_of_false (fun h => by cases h) fun h => Bool.false_ne_true h.1
  | true =>
    rw [Bool.not_true, if_neg Bool.false_ne_true]
    dsimp only
    by_cases hkeeps : (d.stop.server.currentConfig.keepsState && writable) = true
    · rw [if_pos hkeeps]
      obtain ⟨hstate, hwritable⟩ := Bool.and_eq_true _ _ ▸ hkeeps
      constructor
      · intro h
        cases h
        exact ⟨rfl, hwritable, hstate, rfl, rfl⟩
      · rintro ⟨-, -, -, rfl, rfl⟩
        rfl
    · rw [if_neg hkeeps]
      refine iff_of_false (fun h => by cases h) ?_
      rintro ⟨-, hwritable, hstate, -, -⟩
      exact hkeeps (Bool.and_eq_true _ _ ▸ ⟨hstate, hwritable⟩)

/-- The three counters that are persisted are the same in both. -/
def SameTotals (st st' : NtpServerStats) : Prop :=
  st'.totalRequests = st.totalRequests ∧ st'.totalErrors = st.totalErrors ∧
    st'.totalConnections = st.totalConnections

/-- The files when a daemon has stopped. -/
def Daemon.filesAfterStop (d : Daemon) (writable : Bool) (files : Str → Option Str) :
    Str → Option Str :=
  match (d.stopPersisting writable).1 with
  | none => files
  | some (path, content) => Function.update files path (some content)

/-- The daemon stops and a new process starts with the files it has left. -/
def Daemon.restart (d : Daemon) (writable : Bool) (files : Str → Option Str) (c : NtpConfig)
    (logger : LoggerSettings) (env : StartEnv) : Bool × Daemon :=
  (Daemon.create c logger).startLoading env (d.filesAfterStop writable files)

/-- The new process finds what the old one has persisted, and reports so. -/
theorem Daemon.restart_reports {d : Daemon} {writable : Bool} {path content : Str}
    (hpersist : (d.stopPersisting writable).1 = some (path, content)) (files : Str → Option Str)
    {s : NtpServer} (hkeeps : s.currentConfig.keepsState = true)
    (hpath : s.currentConfig.stateFile = path) :
    (s.loadState (d.filesAfterStop writable files)).1 = true := by
  obtain ⟨-, -, -, -, rfl⟩ := stopPersisting_eq_some_iff.mp hpersist
  have hfile : d.filesAfterStop writable files s.currentConfig.stateFile
      = some (stateText d.stop.server.stats) := by
    unfold filesAfterStop
    rw [hpersist, hpath]
    exact Function.update_self _ _ _
  exact NtpServer.loadState_stateText hkeeps hfile

/-- **When persisted state survives a restart.** For every daemon that stops, all
files, and every new process with any configuration: the counters after the start
are those of the stopped daemon exactly when all three were zero. -/
theorem state_survives_iff (d : Daemon) (writable : Bool) (files : Str → Option Str)
    (c : NtpConfig) (logger : LoggerSettings) (env : StartEnv) :
    SameTotals (d.stopPersisting writable).2.server.stats
        (d.restart writable files c logger env).2.server.stats ↔
      (d.stopPersisting writable).2.server.stats.totalRequests = 0 ∧
        (d.stopPersisting writable).2.server.stats.totalErrors = 0 ∧
        (d.stopPersisting writable).2.server.stats.totalConnections = 0 := by
  unfold Daemon.restart
  rw [Daemon.startLoading_stats]
  constructor
  · rintro ⟨hrequests, herrors, hconnections⟩
    exact ⟨hrequests.symm, herrors.symm, hconnections.symm⟩
  · rintro ⟨hrequests, herrors, hconnections⟩
    exact ⟨hrequests.symm, herrors.symm, hconnections.symm⟩

/-- The default configuration with state persistence. -/
def persistingConfig : NtpConfig := { NtpConfig.defaults with enableStatePersistence := true }

/-- A daemon that has answered one request. -/
def answeredLife : List Daemon.Step :=
  [.start ⟨true, true⟩, .serve (.packet exampleRequest exampleClient exampleEnv)]

/-- What the restart of a daemon is about: whether its state is persisted, whether
the new process starts, and the requests it had answered. -/
def restartFacts (d : Daemon) : Bool × Bool × Nat :=
  ((d.stopPersisting true).1.isSome,
    (d.restart true (fun _ => none) persistingConfig (startupLogger persistingConfig)
      ⟨true, true⟩).1,
    (d.stopPersisting true).2.server.stats.totalRequests)

/-- A daemon that has answered one request persists it; the next process starts
with the same configuration and has answered none. -/
theorem answered_requests_forgotten :
    ¬ ∀ (evp : Evp) (c : NtpConfig) (events : List Daemon.Step) (d : Daemon)
      (files : Str → Option Str) (env : StartEnv),
      (Daemon.create c (startupLogger c)).run evp events = .ok d →
      (d.stopPersisting true).1.isSome = true →
      (d.restart true files c (startupLogger c) env).1 = true →
      SameTotals (d.stopPersisting true).2.server.stats
        (d.restart true files c (startupLogger c) env).2.server.stats := by
  intro h
  have hfacts : (((Daemon.create persistingConfig (startupLogger persistingConfig)).run
      (fun _ _ => none) answeredLife).map restartFacts).toOption = some (true, true, 1) := by
    decide +kernel
  obtain ⟨d, hrun, hall⟩ := Runs.exists_of_toOption_map hfacts
  obtain ⟨hpersisted, hrest⟩ := Prod.mk.inj hall
  obtain ⟨hstarted, hanswered⟩ := Prod.mk.inj hrest
  have hsame := (h _ _ _ d (fun _ => none) ⟨true, true⟩ hrun hpersisted hstarted).1
  unfold Daemon.restart at hsame
  rw [Daemon.startLoading_stats, hanswered] at hsame
  cases hsame

end SimpleNtpd
