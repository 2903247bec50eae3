import SimpleNtpd.Core.Daemon
import SimpleNtpd.Core.ReloadScope
import SimpleNtpd.Main.CommandLine

/-!
# Reload and restart

`main` loads the file over a fresh configuration and sets up the logger; a reload
loads it over a copy of the live configuration, whose stratum may have been
raised, and sets the logger again. Both are lists of assignments
(`loadAssignments`), so the results agree where the file or the environment
assigns a field, and elsewhere when the live configuration holds the default.

The two do not treat the logger alike. `main` never writes to file and console at
once, and never turns the system log on; a reload does both when the
configuration says so.

`LeavesNothing` says when nothing of this shows, and `reload_equals_restart_iff`
that it is exact.
-/

namespace SimpleNtpd

open Cpp Assignments

/-! ## The two ways -/

/-- The daemon `main` makes (production.cpp:298–330). -/
def mainDaemon (files getenv : Str → Option Str) (argv : List Str) : Option Daemon :=
  (parseCommandLine files getenv argv).started.map fun c => Daemon.create c (startupLogger c)

/-- The command line that names a configuration file and nothing else. -/
def configOnly (path : Str) : List Str := [lit "--config", path]

/-- The configuration a fresh start makes of a file. -/
def startedFrom (getenv : Str → Option Str) (path content : Str) : NtpConfig :=
  configFields.storeAll .defaults (loadAssignments getenv path content)

theorem mainDaemon_configOnly {files : Str → Option Str} {path content : Str}
    (h : files path = some content) (getenv : Str → Option Str) :
    mainDaemon files getenv (configOnly path)
      = some (Daemon.create (startedFrom getenv path content)
          (startupLogger (startedFrom getenv path content))) := by
  have hscan : scan files getenv { config := .defaults } [.config path]
      = .ok { config := startedFrom getenv path content } := by
    show Arg.run files getenv { config := .defaults } (.config path) >>= _ = _
    rw [Arg.run, h, NtpConfig.loadFromFile_some]
    rfl
  have hparse : parseCommandLine files getenv (configOnly path)
      = .accepted (startedFrom getenv path content) (lit "start") := by
    show parseArgs files getenv [.config path] = _
    unfold parseArgs
    rw [hscan]
    rfl
  rw [mainDaemon, hparse]
  rfl

/-- What a fresh start leaves in a field. -/
theorem startedFrom_field (getenv : Str → Option Str) (path content : Str) (f : Field) :
    (startedFrom getenv path content).field f
      = (last f (loadAssignments getenv path content)).getD (NtpConfig.defaults.field f) :=
  configFields.get_storeAll _ _ f

theorem startedFrom_lastConfigFile (getenv : Str → Option Str) (path content : Str) :
    (startedFrom getenv path content).lastConfigFile = path := by
  have hfield := startedFrom_field getenv path content .lastConfigFile
  rw [last_load_lastConfigFile] at hfield
  exact hfield

/-! ## The logger -/

/-- `main` and a reload set the logger alike when it does not write to console and
file at once, nor to the system log. -/
theorem loggerSettings_eq_startupLogger_iff {c : NtpConfig} :
    NtpServer.loggerSettings c = startupLogger c ↔
      (c.enableConsoleLogging = false ∨ c.logFile = []) ∧ c.enableSyslog = false := by
  unfold NtpServer.loggerSettings startupLogger
  rw [LoggerSettings.mk.injEq]
  simp only [true_and, and_true]
  refine and_congr_left fun _ => ?_
  cases c.enableConsoleLogging with
  | false => exact iff_of_true rfl (.inl rfl)
  | true =>
    cases hempty : c.logFile.isEmpty with
    | true => exact iff_of_true rfl (.inr (List.isEmpty_iff.mp hempty))
    | false =>
      -- the reload writes to both, `main` to the console
      refine iff_of_false (fun h => nomatch h) ?_
      rintro (hoff | hnil)
      · cases hoff
      · rw [hnil] at hempty
        cases hempty

/-! ## Lives without a reload -/

/-- Not a reload. -/
def Daemon.Step.NoReload : Daemon.Step → Prop
  | .serve e => e.NoReload
  | _ => True

open NtpServer (RulesOf)

/-- Without a reload the configuration changes its stratum only. -/
theorem Daemon.rulesOf_step {evp : Evp} {c : NtpConfig} {d d' : Daemon} {e : Daemon.Step}
    (h : RulesOf c d.server) (he : e.NoReload) (hstep : d.step evp e = .ok d') :
    RulesOf c d'.server := by
  obtain ⟨n, hn⟩ := h
  cases e with
  | start env =>
    cases hstep
    refine ⟨n, ?_⟩
    rcases d.start_cases env with hstay | ⟨-, -, -, hstart⟩
    · rw [hstay, hn]
    · rw [hstart]
      dsimp only
      rw [startUpstreams_currentConfig, hn]
  | serve e =>
    obtain ⟨s, out, hserve, rfl⟩ := step_serve hstep
    exact RulesOf.step ⟨n, hn⟩ he hserve
  | stop =>
    cases hstep
    exact ⟨n, (stop_currentConfig d).trans hn⟩

/-! ## The two daemons -/

/-- A daemon `d` that was started from a file, with no other option, and lived
without a reload; the files have changed since and it reloads successfully. And a
daemon `fresh`, started from the changed files in the same environment. -/
structure ReloadScenario (evp : Evp) (getenv files₀ files₁ : Str → Option Str) (path : Str)
    (d fresh : Daemon) : Prop where
  started : ∃ d₀ life, mainDaemon files₀ getenv (configOnly path) = some d₀ ∧
    (∀ e ∈ life, Daemon.Step.NoReload e) ∧ d₀.run evp life = .ok d
  reloads : (d.server.reloadConfig getenv (files₁ d.currentConfig.lastConfigFile)).1 = true
  restarted : mainDaemon files₁ getenv (configOnly path) = some fresh

/-- The reload leads to the configuration of the fresh daemon. -/
def ReloadsConfig (getenv files₁ : Str → Option Str) (d fresh : Daemon) : Prop :=
  (d.server.reloadConfig getenv (files₁ d.currentConfig.lastConfigFile)).2.currentConfig
    = fresh.currentConfig

/-- The reload leads to the logger settings of the fresh daemon. -/
def ReloadsLogger (getenv files₁ : Str → Option Str) (d fresh : Daemon) : Prop :=
  (d.server.reloadConfig getenv (files₁ d.currentConfig.lastConfigFile)).2.logger
    = fresh.server.logger

/-! ## What shows -/

/-- Nothing tells a reload of the new file from a restart. -/
structure LeavesNothing (getenv : Str → Option Str) (path old new : Str) (d : Daemon) : Prop where
  /-- where neither the new file nor the environment sets a field, the old file
  did not either, or to the default -/
  deleted : ∀ f, f ≠ .stratum → last f (loadAssignments getenv path new) = none →
    ∀ v, last f (fileAssignments old) = some v → v = NtpConfig.defaults.field f
  /-- the live stratum is the default, or the new file sets it -/
  stratum : last Field.stratum (loadAssignments getenv path new) = none →
    d.currentConfig.stratum = NtpConfig.defaults.stratum
  /-- console logging is off, or there is no log file -/
  destination :
    (last Field.enableConsoleLogging (loadAssignments getenv path new)).getD true = false ∨
      last Field.logFile (loadAssignments getenv path new) = some []
  /-- the system log is off; the default is on -/
  syslog : last Field.enableSyslog (loadAssignments getenv path new) = some false

section

variable {evp : Evp} {getenv : Str → Option Str} {path old new : Str} {d : Daemon}

/-- The fields other than the stratum are those of the start. -/
theorem NtpConfig.field_of_ne_stratum (c : NtpConfig) (n : UInt8) {f : Field} (hf : f ≠ .stratum) :
    { c with stratum := n : NtpConfig }.field f = c.field f := by
  cases f with
  | stratum => exact absurd rfl hf
  | _ => rfl

/-- The path is the one of the command line. -/
theorem lastConfigFile_of_rulesOf (h : RulesOf (startedFrom getenv path old) d.server) :
    d.currentConfig.lastConfigFile = path := by
  obtain ⟨n, hn⟩ := h
  show d.server.currentConfig.lastConfigFile = path
  rw [hn]
  exact startedFrom_lastConfigFile getenv path old

/-- The configuration a reload makes is that of a fresh start exactly when the
fields it does not set hold their defaults. -/
theorem reloaded_eq_startedFrom_iff (h : RulesOf (startedFrom getenv path old) d.server) :
    Daemon.reloaded d.server getenv new = startedFrom getenv path new ↔
      (∀ f, f ≠ .stratum → last f (loadAssignments getenv path new) = none →
        ∀ v, last f (fileAssignments old) = some v → v = NtpConfig.defaults.field f) ∧
      (last Field.stratum (loadAssignments getenv path new) = none →
        d.currentConfig.stratum = NtpConfig.defaults.stratum) := by
  have hpath : d.server.currentConfig.lastConfigFile = path := lastConfigFile_of_rulesOf h
  obtain ⟨n, hn⟩ := h
  rw [Daemon.reloaded, hpath, startedFrom, Fields.storeAll_inj_iff]
  -- a field that is not set keeps what the start or a raise has left there
  constructor
  · intro hlive
    refine ⟨?_, hlive .stratum⟩
    intro f hf hnone v hv
    have hfield : d.server.currentConfig.field f = NtpConfig.defaults.field f := hlive f hnone
    rw [hn, NtpConfig.field_of_ne_stratum _ _ hf, startedFrom_field, last_load_of_none hnone, hv]
      at hfield
    exact hfield
  · rintro ⟨hdeleted, hstratum⟩ f hnone
    show d.server.currentConfig.field f = NtpConfig.defaults.field f
    by_cases hf : f = .stratum
    · subst hf
      exact hstratum hnone
    · rw [hn, NtpConfig.field_of_ne_stratum _ _ hf, startedFrom_field, last_load_of_none hnone]
      cases hv : last f (fileAssignments old) with
      | none => rfl
      | some v => exact hdeleted f hf hnone v hv

/-- The reload sets the logger as the start does exactly when it writes to one place only,
and syslog is switched off. -/
theorem startedFrom_logger_iff :
    NtpServer.loggerSettings (startedFrom getenv path new)
        = startupLogger (startedFrom getenv path new) ↔
      ((last Field.enableConsoleLogging (loadAssignments getenv path new)).getD true = false ∨
        last Field.logFile (loadAssignments getenv path new) = some []) ∧
      last Field.enableSyslog (loadAssignments getenv path new) = some false := by
  have hconsole := startedFrom_field getenv path new .enableConsoleLogging
  have hfile := startedFrom_field getenv path new .logFile
  have hsyslog := startedFrom_field getenv path new .enableSyslog
  rw [loggerSettings_eq_startupLogger_iff]
  refine and_congr (or_congr ?_ ?_) ?_
  · show (startedFrom getenv path new).field .enableConsoleLogging = false ↔ _
    rw [hconsole]
    exact Iff.rfl
  · show (startedFrom getenv path new).field .logFile = [] ↔ _
    rw [hfile]
    have hdefault : NtpConfig.defaults.logFile ≠ [] := by decide
    cases last Field.logFile (loadAssignments getenv path new) with
    | none => exact iff_of_false hdefault fun h => nomatch h
    | some v => exact Option.some_inj.symm
  · show (startedFrom getenv path new).field .enableSyslog = false ↔ _
    rw [hsyslog]
    have hdefault : NtpConfig.defaults.enableSyslog ≠ false := by decide
    cases last Field.enableSyslog (loadAssignments getenv path new) with
    | none => exact iff_of_false hdefault fun h => nomatch h
    | some v => exact Option.some_inj.symm

end

/-- **When a reload equals a restart.** A daemon is started from a file, with no
other option; its life goes on without a reload, with any datagrams, sync rounds,
clean-ups, starts and stops; and it reloads successfully when the file has become
another. The configuration and the logger settings are those of a daemon freshly
started from the new file in the same environment exactly when nothing is left of
the old one. -/
theorem reload_equals_restart_iff {evp : Evp} {getenv files₀ files₁ : Str → Option Str}
    {path old new : Str} {d fresh : Daemon} (hold : files₀ path = some old)
    (hnew : files₁ path = some new) (h : ReloadScenario evp getenv files₀ files₁ path d fresh) :
    ReloadsConfig getenv files₁ d fresh ∧ ReloadsLogger getenv files₁ d fresh ↔
      LeavesNothing getenv path old new d := by
  obtain ⟨⟨d₀, life, hstart, hlife, hrun⟩, hreload, hfresh⟩ := h
  rw [mainDaemon_configOnly hold] at hstart
  rw [mainDaemon_configOnly hnew] at hfresh
  cases hstart
  cases hfresh
  -- the life has raised the stratum at most
  have hrules : RulesOf (startedFrom getenv path old) d.server :=
    Runs.foldlM_invariant (I := fun d : Daemon => RulesOf (startedFrom getenv path old) d.server)
      (fun e he _ _ ht hstep => Daemon.rulesOf_step ht (hlife e he) hstep)
      (RulesOf.currentConfig (Daemon.create _ _).server) hrun
  have hpath := lastConfigFile_of_rulesOf hrules
  rw [hpath, hnew] at hreload
  unfold ReloadsConfig ReloadsLogger
  rw [hpath, hnew]
  rcases Daemon.reloadConfig_cases d.server getenv (some new) with
    hstay | ⟨content, heq, -, -, haccepted⟩
  · rw [hstay] at hreload
    cases hreload
  · cases heq
    rw [haccepted]
    show (Daemon.putInForce d.server _).currentConfig = startedFrom getenv path new ∧
      NtpServer.loggerSettings (Daemon.reloaded d.server getenv new)
        = startupLogger (startedFrom getenv path new) ↔ _
    rw [Daemon.putInForce_currentConfig]
    constructor
    · rintro ⟨hconfig, hlogger⟩
      rw [hconfig] at hlogger
      obtain ⟨hdeleted, hstratum⟩ := (reloaded_eq_startedFrom_iff hrules).mp hconfig
      obtain ⟨hdestination, hsyslog⟩ := startedFrom_logger_iff.mp hlogger
      exact ⟨hdeleted, hstratum, hdestination, hsyslog⟩
    · rintro ⟨hdeleted, hstratum, hdestination, hsyslog⟩
      have hconfig := (reloaded_eq_startedFrom_iff hrules).mpr ⟨hdeleted, hstratum⟩
      refine ⟨hconfig, ?_⟩
      rw [hconfig]
      exact startedFrom_logger_iff.mpr ⟨hdestination, hsyslog⟩

/-- Every path leads to a file with this content. -/
def everyFile (content : Str) (_ : Str) : Option Str := some content

theorem mainDaemon_everyFile (getenv : Str → Option Str) (path content : Str) :
    mainDaemon (everyFile content) getenv (configOnly path)
      = some (Daemon.create (startedFrom getenv path content)
          (startupLogger (startedFrom getenv path content))) := by
  have hfile : everyFile content path = some content := rfl
  exact mainDaemon_configOnly hfile getenv

/-- A file with one setting that is not the default. -/
def oneSettingFile : Str := lit "max_connections=5\n"

/-- A daemon started from that file. -/
def oneSettingDaemon : Daemon :=
  ((Daemon.create (startedFrom (fun _ => none) (lit "ntpd.conf") oneSettingFile)
    (startupLogger (startedFrom (fun _ => none) (lit "ntpd.conf") oneSettingFile))).start
      ⟨true, true⟩).2

/-- A daemon started when the setting has been deleted from it. -/
def emptyFileDaemon : Daemon :=
  Daemon.create (startedFrom (fun _ => none) (lit "ntpd.conf") [])
    (startupLogger (startedFrom (fun _ => none) (lit "ntpd.conf") []))

/-- The first one reloads when the setting has been deleted. -/
theorem deletedSetting_scenario (evp : Evp) :
    ReloadScenario evp (fun _ => none) (everyFile oneSettingFile) (everyFile [])
      (lit "ntpd.conf") oneSettingDaemon emptyFileDaemon where
  started := ⟨_, [.start ⟨true, true⟩], mainDaemon_everyFile _ _ _, by
    rintro e he
    rw [List.mem_singleton.mp he]
    trivial, rfl⟩
  reloads := by decide +kernel
  restarted := mainDaemon_everyFile _ _ _

/-- What the reload leads to there is decided by what is left. -/
theorem reload_equals_restart_deleted :
    ReloadsConfig (fun _ => none) (everyFile []) oneSettingDaemon emptyFileDaemon ∧
        ReloadsLogger (fun _ => none) (everyFile []) oneSettingDaemon emptyFileDaemon ↔
      LeavesNothing (fun _ => none) (lit "ntpd.conf") oneSettingFile [] oneSettingDaemon :=
  reload_equals_restart_iff rfl rfl (deletedSetting_scenario fun _ _ => none)

/-- The deleted setting keeps its value, and the logger writes to console, file and
system log where `main` has it write to the console. -/
theorem deleted_setting_survives :
    (¬ ∀ evp getenv files₀ files₁ path d fresh,
      ReloadScenario evp getenv files₀ files₁ path d fresh → ReloadsConfig getenv files₁ d fresh) ∧
    ¬ ∀ evp getenv files₀ files₁ path d fresh,
      ReloadScenario evp getenv files₀ files₁ path d fresh →
        ReloadsLogger getenv files₁ d fresh := by
  constructor
  · intro h
    have hconfig := h (fun _ _ => none) _ _ _ _ _ _ (deletedSetting_scenario _)
    have hmax := congrArg NtpConfig.maxConnections hconfig
    exact absurd hmax (by decide +kernel)
  · intro h
    have hlogger := h (fun _ _ => none) _ _ _ _ _ _ (deletedSetting_scenario _)
    have hsyslog := congrArg LoggerSettings.enableSyslog hlogger
    exact absurd hsyslog (by decide +kernel)

end SimpleNtpd
