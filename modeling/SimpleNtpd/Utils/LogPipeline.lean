import Mathlib.Data.UInt
import SimpleNtpd.Utils.JsonLog
import SimpleNtpd.Utils.Logger

/-!
# The logger while its settings change

`Logger::Impl::log` drops what is below the level, formats the message and hands it to the
console, the log file and syslog, as the settings are at that moment (logger.cpp:150–178).
A reload sets all of them one after the other, the rotation too (`reloadCalls`).

A rotation removes one file and moves up those before it; behind the number of files in
force it looks at nothing. So once this number has been lowered, the older files stay, and
lines between them and the newer ones go. What the log files hold is at any time a part of
the lines, each once and in order, and the end of them as long as the number of files was
never lowered (`log_survives_changes`).
-/

namespace SimpleNtpd

open Cpp FileFamily

/-! ## Settings -/

namespace LoggerSettings

/-- logger.cpp:110–123, 131–148. -/
def setLevel (logger : LoggerSettings) (level : LogLevel) : LoggerSettings :=
  { logger with level := level }

def setDestination (logger : LoggerSettings) (destination : LogDestination) : LoggerSettings :=
  { logger with destination := destination }

def setLogFile (logger : LoggerSettings) (filename : Str) : LoggerSettings :=
  { logger with logFile := filename }

def setSyslog (logger : LoggerSettings) (enable : Bool) : LoggerSettings :=
  { logger with enableSyslog := enable }

def setStructuredJson (logger : LoggerSettings) (enable : Bool) : LoggerSettings :=
  { logger with structuredJson := enable }

/-- The console gets the message. -/
def writesConsole (logger : LoggerSettings) : Bool :=
  logger.destination = .console || logger.destination = .both

/-- The log file gets it. -/
def writesFile (logger : LoggerSettings) : Bool :=
  (logger.destination = .file || logger.destination = .both) && !logger.logFile.isEmpty

end LoggerSettings

/-! ## The logger -/

/-- What a message comes with. -/
structure LogRecord where
  level : LogLevel
  message : Str
  file : Str
  line : Int
  timestamp : Str
  threadId : Str

/-- logger.cpp:47–62, with the numbers of syslog. -/
def levelToSyslogPriority : LogLevel → Nat
  | .debug => 7
  | .info => 6
  | .warning => 4
  | .error => 3
  | .fatal => 2
  | .other _ => 6

/-- The colours of the console (logger.cpp:249–270). -/
def colorCode : LogLevel → Str
  | .debug => lit "\x1b[36m"
  | .info => lit "\x1b[32m"
  | .warning => lit "\x1b[33m"
  | .error => lit "\x1b[31m"
  | .fatal => lit "\x1b[35m"
  | .other _ => lit "\x1b[0m"

/-- A logger, and what it has written. -/
structure Logger where
  settings : LoggerSettings
  files : Store Str Str
  console : Str := []
  syslog : List (Nat × Str) := []

/-- What a logger is asked. -/
inductive LogCall where
  | setLevel (level : LogLevel)
  | setDestination (destination : LogDestination)
  | setLogFile (filename : Str)
  | setSyslog (enable : Bool)
  | setStructuredJson (enable : Bool)
  | setLogRotation (maxSizeBytes : UInt64) (maxFiles : UInt32)
  | log (r : LogRecord)

namespace LogCall

/-- The settings afterwards. -/
def settings (logger : LoggerSettings) : LogCall → LoggerSettings
  | setLevel level => logger.setLevel level
  | setDestination destination => logger.setDestination destination
  | setLogFile filename => logger.setLogFile filename
  | setSyslog enable => logger.setSyslog enable
  | setStructuredJson enable => logger.setStructuredJson enable
  | setLogRotation maxSizeBytes maxFiles => logger.setLogRotation maxSizeBytes maxFiles
  | log _ => logger

end LogCall

namespace LoggerSettings

/-- A message is as severe as the level. -/
def passes (logger : LoggerSettings) (r : LogRecord) : Bool := logger.level.code ≤ r.level.code

/-- The message as it is written to the console and the file. -/
def format (logger : LoggerSettings) (r : LogRecord) : Str :=
  logger.formatMessage r.timestamp r.threadId r.level r.message r.file r.line

end LoggerSettings

namespace Logger

/-- `Logger::Impl::log` (logger.cpp:150–178). syslog takes the message as a C string. -/
def log (l : Logger) (r : LogRecord) : Logger :=
  if !l.settings.passes r then l
  else
    let formatted := l.settings.format r
    { l with
      console := if l.settings.writesConsole
        then l.console ++ colorCode r.level ++ formatted ++ lit "\x1b[0m" ++ lit "\n" else l.console
      files := if l.settings.writesFile then l.settings.outputToFile l.files formatted else l.files
      syslog := if l.settings.enableSyslog
        then l.syslog ++ [(levelToSyslogPriority r.level, r.message.takeWhile (· != 0))]
        else l.syslog }

/-- One call. -/
def step (l : Logger) : LogCall → Logger
  | .log r => l.log r
  | call => { l with settings := call.settings l.settings }

/-- A sequence of calls. -/
def run (l : Logger) (calls : List LogCall) : Logger := calls.foldl step l

end Logger

/-- What `reloadConfig` asks of the logger (server.cpp:148–163). -/
def reloadCalls (c : NtpConfig) : List LogCall :=
  [.setLevel c.logLevel, .setLogFile c.logFile,
    .setDestination (NtpServer.loggerSettings c).destination, .setSyslog c.enableSyslog,
    .setStructuredJson c.logJson, .setLogRotation c.logMaxSizeBytes c.logMaxFiles]

/-- The calls of a reload set the logger as the configuration says. -/
theorem run_reloadCalls (l : Logger) (c : NtpConfig) :
    l.run (reloadCalls c) = { l with settings := NtpServer.loggerSettings c } := rfl

/-! ## What is meant for the log file -/

/-- The line of a call, as it is formatted then. -/
def LogCall.fileLine (logger : LoggerSettings) : LogCall → Option Str
  | .log r => if logger.passes r && logger.writesFile then some (logger.format r) else none
  | _ => none

/-- All lines for the log file. -/
def fileLines (logger : LoggerSettings) : List LogCall → List Str
  | [] => []
  | call :: calls => (call.fileLine logger).toList ++ fileLines (call.settings logger) calls

/-- The call leaves the name of the log file, and asks for no more files than an `int`
counts. -/
def LogCall.Steady (logFile : Str) : LogCall → Prop
  | .setLogFile filename => filename = logFile
  | .setLogRotation _ maxFiles => maxFiles < 2 ^ 31
  | _ => True

/-- No call lowers the number of files. -/
def NeverLowered (logger : LoggerSettings) : List LogCall → Prop
  | [] => True
  | call :: calls => logger.rotateMaxFiles ≤ (call.settings logger).rotateMaxFiles ∧
      NeverLowered (call.settings logger) calls

/-! ## All calls -/

namespace Logger

/-- The log files of a name hold the given lines, newest file first. -/
structure Keeps (logFile : Str) (files : List (List Str)) (l : Logger) : Prop where
  name : l.settings.logFile = logFile
  min : 1 ≤ l.settings.rotateMaxFiles
  max : l.settings.rotateMaxFiles < 2 ^ 31
  holds : Holds (logName logFile) l.files (files.map LoggerSettings.text)

variable {logFile : Str} {files : List (List Str)} {l : Logger}

/-- The settings after a call. -/
theorem step_settings (l : Logger) (call : LogCall) :
    (l.step call).settings = call.settings l.settings := by
  cases call with
  | log r =>
    show (l.log r).settings = l.settings
    unfold log
    split <;> rfl
  | _ => rfl

/-- A message is written to the file or it is not. -/
theorem step_files (l : Logger) (call : LogCall) :
    (l.step call).files
      = ((call.fileLine l.settings).map (l.settings.outputToFile l.files)).getD l.files := by
  cases call with
  | log r =>
    show (l.log r).files = ((if l.settings.passes r && l.settings.writesFile
      then some (l.settings.format r) else none).map (l.settings.outputToFile l.files)).getD l.files
    unfold log
    cases l.settings.passes r <;> cases l.settings.writesFile <;> rfl
  | _ => rfl

/-- A setting keeps the bounds. -/
theorem steady_settings (hname : l.settings.logFile = logFile) (hmin : 1 ≤ l.settings.rotateMaxFiles)
    (hmax : l.settings.rotateMaxFiles < 2 ^ 31) {call : LogCall} (hsteady : call.Steady logFile) :
    (call.settings l.settings).logFile = logFile ∧
      1 ≤ (call.settings l.settings).rotateMaxFiles ∧
      (call.settings l.settings).rotateMaxFiles < 2 ^ 31 := by
  cases call with
  | setLogFile filename => exact ⟨hsteady, hmin, hmax⟩
  | setLogRotation maxSizeBytes maxFiles =>
    have hone : (1 : UInt32) < 2 ^ 31 := by decide
    show _ ∧ 1 ≤ (if 1 ≤ maxFiles then maxFiles else 1) ∧ (if 1 ≤ maxFiles then maxFiles else 1) < _
    split
    · exact ⟨hname, ‹_›, hsteady⟩
    · exact ⟨hname, UInt32.le_refl 1, hone⟩
  | _ => exact ⟨hname, hmin, hmax⟩

/-- **One call**: a line is pushed into the files or nothing happens to them. -/
theorem Keeps.step (h : l.Keeps logFile files) (hname : logFile ≠ []) {call : LogCall}
    (hsteady : call.Steady logFile) :
    ∃ files', (l.step call).Keeps logFile files' ∧
      files'.reverse.flatten.Sublist (files.reverse.flatten ++ (call.fileLine l.settings).toList) ∧
      (files.length ≤ l.settings.rotateMaxFiles.toNat + 1 →
        files'.length ≤ l.settings.rotateMaxFiles.toNat + 1 ∧
        files'.reverse.flatten <:+ files.reverse.flatten ++ (call.fileLine l.settings).toList) := by
  obtain ⟨hname', hmin, hmax⟩ := steady_settings h.name h.min h.max hsteady
  have hfiles := l.step_files call
  rw [← l.step_settings call] at hname' hmin hmax
  cases hline : call.fileLine l.settings with
  | none =>
    rw [hline] at hfiles
    refine ⟨files, ⟨hname', hmin, hmax, ?_⟩, ?_, fun hlen => ⟨hlen, ?_⟩⟩
    · rw [hfiles]
      exact h.holds
    · exact List.sublist_append_left _ _
    · rw [Option.toList_none, List.append_nil]
  | some message =>
    rw [hline] at hfiles
    refine ⟨pushItem l.settings.rotatesAt l.settings.rotateMaxFiles.toNat message files,
      ⟨hname', hmin, hmax, ?_⟩, pushItem_sublist message files, fun hlen => ?_⟩
    · rw [hfiles, ← h.name]
      exact LoggerSettings.outputToFile_pushes (by rwa [h.name]) h.min h.max
        (by rw [h.name]; exact h.holds) message
    · rw [pushItem_eq_addItem message hlen]
      exact ⟨length_addItem message hlen, addItem_suffix message files⟩

/-- All calls; induction on them, with the files before them general. -/
theorem Keeps.run {calls : List LogCall} (h : l.Keeps logFile files) (hname : logFile ≠ [])
    (hsteady : ∀ call ∈ calls, call.Steady logFile) :
    ∃ files', (l.run calls).Keeps logFile files' ∧
      files'.reverse.flatten.Sublist (files.reverse.flatten ++ fileLines l.settings calls) ∧
      (files.length ≤ l.settings.rotateMaxFiles.toNat + 1 → NeverLowered l.settings calls →
        files'.reverse.flatten <:+ files.reverse.flatten ++ fileLines l.settings calls) := by
  induction calls generalizing l files with
  | nil =>
    refine ⟨files, h, List.sublist_append_left _ _, fun _ _ => ?_⟩
    rw [fileLines, List.append_nil]
  | cons call calls ih =>
    obtain ⟨mid, hmid, hsub, hsuffix⟩ := h.step hname (hsteady call List.mem_cons_self)
    obtain ⟨files', hfiles', hsub', hsuffix'⟩ :=
      ih hmid fun call' hcall' => hsteady call' (List.mem_cons_of_mem call hcall')
    rw [step_settings] at hsub' hsuffix'
    have hlines : files.reverse.flatten ++ fileLines l.settings (call :: calls)
        = files.reverse.flatten ++ (call.fileLine l.settings).toList
          ++ fileLines (call.settings l.settings) calls := by
      rw [fileLines, List.append_assoc]
    rw [hlines]
    refine ⟨files', hfiles', hsub'.trans (hsub.append_right _), fun hlen hnever => ?_⟩
    obtain ⟨hlen', hmidSuffix⟩ := hsuffix hlen
    have hgrown : l.settings.rotateMaxFiles.toNat
        ≤ (call.settings l.settings).rotateMaxFiles.toNat := UInt32.le_iff_toNat_le.mp hnever.1
    obtain ⟨lost, hlost⟩ := hmidSuffix
    refine (hsuffix' (by omega) hnever.2).trans ?_
    rw [← hlost, List.append_assoc]
    exact List.suffix_append _ _

end Logger

open Logger in
/-- **What the log files hold while the settings change.** For every sequence of calls that
leave the name of the log file, in any order and with any messages, on a logger without log
files: the files hold a part of the lines that were meant for them, each once and in order,
and no other text. As long as the number of files was never lowered, it is the end of these
lines. -/
theorem log_survives_changes (l : Logger) (hname : l.settings.logFile ≠ [])
    (hmin : 1 ≤ l.settings.rotateMaxFiles) (hmax : l.settings.rotateMaxFiles < 2 ^ 31)
    (hstart : ∀ i, l.files (logName l.settings.logFile i) = none) (calls : List LogCall)
    (hsteady : ∀ call ∈ calls, call.Steady l.settings.logFile) :
    ∃ files : List (List Str),
      Holds (logName l.settings.logFile) (l.run calls).files
        (files.map LoggerSettings.text) ∧
      files.reverse.flatten.Sublist (fileLines l.settings calls) ∧
      (NeverLowered l.settings calls →
        files.reverse.flatten <:+ fileLines l.settings calls) := by
  have hnone : l.Keeps l.settings.logFile [] := ⟨rfl, hmin, hmax, hstart⟩
  obtain ⟨files, hkeeps, hsub, hsuffix⟩ := hnone.run hname hsteady
  exact ⟨files, hkeeps.holds, hsub, hsuffix (Nat.zero_le _)⟩

/-- An error with the given text. -/
def errorCall (message : Str) : LogCall := .log ⟨.error, message, [], 0, lit "t", lit "0"⟩

/-- Two rotated files of one line each, and later only one. -/
def loweredCalls : List LogCall :=
  [.setLogRotation 1 2, errorCall (lit "a"), errorCall (lit "b"), errorCall (lit "c"),
    .setLogRotation 1 1, errorCall (lit "d")]

/-- A logger that writes to a file. -/
def fileLogger : Logger where
  settings := { NtpServer.loggerSettings .defaults with logFile := lit "l", destination := .file }
  files := fun _ => none

/-- The first line stays, and the one after it is gone. -/
theorem log_survives_changes_lowered :
    (List.range 4).map (fun i => (fileLogger.run loweredCalls).files (logName (lit "l") i))
      = [some (lit "[t] [ERROR] [0] d\n"), some (lit "[t] [ERROR] [0] c\n"),
        some (lit "[t] [ERROR] [0] a\n"), none] ∧
    ∃ files : List (List Str),
      Holds (logName (lit "l")) (fileLogger.run loweredCalls).files
        (files.map LoggerSettings.text) ∧
      files.reverse.flatten.Sublist (fileLines fileLogger.settings loweredCalls) ∧
      (NeverLowered fileLogger.settings loweredCalls →
        files.reverse.flatten <:+ fileLines fileLogger.settings loweredCalls) := by
  have htwo : (2 : UInt32) < 2 ^ 31 := by decide
  have hone : (1 : UInt32) < 2 ^ 31 := by decide
  refine ⟨by decide +kernel, log_survives_changes fileLogger (by decide) (by decide) (by decide)
    (fun _ => rfl) loweredCalls ?_⟩
  simp only [loweredCalls, List.forall_mem_cons]
  exact ⟨htwo, trivial, trivial, trivial, hone, trivial, fun _ h => nomatch h⟩

end SimpleNtpd
