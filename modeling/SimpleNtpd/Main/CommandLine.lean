import SimpleNtpd.Config.Fields
import SimpleNtpd.Lib.Components

/-!
# The command line

`parseCommandLine` and the exit status of `main` (production.cpp). The function
scans the arguments from left to right: an option stores its value, `--config`
loads a file and the environment over what is there, a command is remembered,
and a request to test the configuration, a request for help or an error ends the
scan. The return value `false` stands for all of these, and `main` then exits
with status 0.

The vector is read into arguments first (`readArgs`), each with the value it
takes, and the scan is a fold over them. The file system is a function from
paths to contents.
-/

namespace SimpleNtpd

open Cpp Assignments

/-! ## Arguments -/

/-- An argument of the vector, with the value behind it where it takes one. -/
inductive Arg where
  | help
  | version
  | config (path : Str)
  | verbose
  | daemon
  | foreground
  | listen (address : Str)
  | port (number : Str)
  | stratum (level : Str)
  | referenceId (identifier : Str)
  | testConfig
  | validate
  | command (name : Str)
  | unknown (arg : Str)
  /-- an option at the end of the vector, without its value -/
  | missing (error : Str)
  deriving DecidableEq, Repr

/-- The options without a value. -/
def flagOptions : List (List Str × Arg) := [
  ([lit "--help", lit "-h"], .help),
  ([lit "--version", lit "-v"], .version),
  ([lit "--verbose", lit "-V"], .verbose),
  ([lit "--daemon", lit "-d"], .daemon),
  ([lit "--foreground", lit "-f"], .foreground),
  ([lit "--test-config"], .testConfig),
  ([lit "--validate"], .validate) ]

/-- The options with a value, and the error where the value is missing. -/
def valueOptions : List (List Str × (Str → Arg) × Str) := [
  ([lit "--config", lit "-c"], .config, lit "Error: --config requires a file path"),
  ([lit "--listen"], .listen, lit "Error: --listen requires an address"),
  ([lit "--port"], .port, lit "Error: --port requires a port number"),
  ([lit "--stratum"], .stratum, lit "Error: --stratum requires a level"),
  ([lit "--reference-id"], .referenceId, lit "Error: --reference-id requires an identifier") ]

/-- What is no option is a command, unless it starts with a dash; the first
character of an empty text is the terminating zero. -/
def commandOrUnknown (arg : Str) : Arg :=
  if arg.head? = some '-'.toUInt8 then .unknown arg else .command arg

/-- The arguments of a vector, without the program's name. -/
def readArgs : List Str → List Arg
  | [] => []
  | arg :: rest =>
    match flagOptions.find? fun o => o.1.contains arg with
    | some o => o.2 :: readArgs rest
    | none =>
      match valueOptions.find? fun o => o.1.contains arg with
      | none => commandOrUnknown arg :: readArgs rest
      | some o =>
        match rest with
        | [] => [.missing o.2.2]
        | value :: rest => o.2.1 value :: readArgs rest

/-! ## The scan -/

/-- A line printed on the standard output or on the standard error. The texts
of `printUsage` and `printVersion` stand for themselves. -/
inductive Message where
  | usage
  | version
  | out (text : Str)
  | err (text : Str)
  deriving DecidableEq, Repr

/-- What the scan has made of the arguments so far. -/
structure Scan where
  config : NtpConfig
  command : Str := []

/-- `--test-config` and `--validate` (production.cpp:180–195). -/
def testVerdict (c : NtpConfig) : List Message :=
  if c.validate then [.out (lit "Configuration is valid")]
  else [.err (lit "Configuration validation failed")]

section

variable (files : Str → Option Str) (getenv : Str → Option Str)

/-- One iteration of the scan; an error is what is printed before `false` is
returned (production.cpp:108–204). -/
def Arg.run (s : Scan) : Arg → Except (List Message) Scan
  | help => .error [.usage]
  | version => .error [.version]
  | config path =>
    match NtpConfig.loadFromFile getenv path (files path) s.config with
    | (false, _) => .error [.err (lit "Error: Failed to load configuration file: " ++ path)]
    | (true, c) => .ok { s with config := c }
  | verbose => .ok { s with config := { s.config with logLevel := .debug } }
  | daemon => .ok { s with config := { s.config with enableConsoleLogging := false } }
  | foreground => .ok { s with config := { s.config with enableConsoleLogging := true } }
  | listen address => .ok { s with config := { s.config with listenAddress := address } }
  | port number =>
    match stoi number with
    | .error _ => .error [.err (lit "Error: Invalid port number: " ++ number)]
    | .ok n => .ok { s with config := { s.config with listenPort := toPort n } }
  | stratum level =>
    match stoi level with
    | .error _ => .error [.err (lit "Error: Invalid stratum level: " ++ level)]
    | .ok n =>
      if 1 ≤ n ∧ n ≤ 15 then .ok { s with config := { s.config with stratum := UInt8.ofInt n } }
      else .error [.err (lit "Error: Stratum must be between 1 and 15")]
  | referenceId identifier => .ok { s with config := { s.config with referenceId := identifier } }
  -- the verdict is on what the arguments in front of the option have made
  | testConfig => .error (testVerdict s.config)
  | validate => .error (testVerdict s.config)
  | command name => .ok { s with command := name }
  | unknown arg => .error [.err (lit "Error: Unknown option: " ++ arg), .usage]
  | missing error => .error [.err error]

/-- The scan of some arguments. -/
def scan (s : Scan) (args : List Arg) : Except (List Message) Scan :=
  args.foldlM (Arg.run files getenv) s

end

/-- What `parseCommandLine` returns: `false` and what it has printed, or `true`
and what it has made of the configuration and the start-up command. -/
inductive Parsed where
  | refused (output : List Message)
  | accepted (config : NtpConfig) (command : Str)

/-- The configuration the server is made with, when it is. -/
def Parsed.started : Parsed → Option NtpConfig
  | refused _ => none
  | accepted c _ => some c

/-- The commands that start the server. -/
def startCommands : List Str :=
  [lit "start", lit "status", lit "reload", lit "metrics", lit "health", lit "stats",
    lit "connections"]

/-- The command; without one the server is started (production.cpp:206–209). -/
def Scan.startupCommand (s : Scan) : Str := if s.command.isEmpty then lit "start" else s.command

/-- What becomes of the command, after the scan (production.cpp:211–254). -/
def Scan.dispatch (s : Scan) : Parsed :=
  if startCommands.contains s.startupCommand then .accepted s.config s.startupCommand
  else if s.startupCommand = lit "stop" then
    .refused [.out (lit "Stop requires a running daemon instance (use service manager)")]
  else if s.startupCommand = lit "restart" then
    .refused [.out (lit "Restart requires a running daemon instance (use service manager)")]
  else if s.startupCommand = lit "test" then
    if s.config.validate then .refused [.out (lit "Configuration test passed")]
    else .refused [.err (lit "Configuration test failed")]
  else .refused [.err (lit "Error: Unknown command: " ++ s.startupCommand), .usage]

/-- The server is started for the seven commands only. -/
theorem Scan.dispatch_eq_accepted_iff {s : Scan} {c : NtpConfig} {command : Str} :
    s.dispatch = .accepted c command ↔
      startCommands.contains s.startupCommand = true ∧ s.config = c ∧
        s.startupCommand = command := by
  unfold dispatch
  by_cases hstart : startCommands.contains s.startupCommand = true
  · rw [if_pos hstart, Parsed.accepted.injEq, and_iff_right hstart]
  · rw [if_neg hstart]
    refine iff_of_false ?_ fun h => hstart h.1
    split_ifs <;> exact fun h => by cases h

section

variable (files : Str → Option Str) (getenv : Str → Option Str)

/-- The arguments from a fresh configuration. -/
def parseArgs (args : List Arg) : Parsed :=
  match scan files getenv { config := .defaults } args with
  | .error output => .refused output
  | .ok s => s.dispatch

/-- production.cpp:104–257, with the configuration `main` makes
(production.cpp:299). -/
def parseCommandLine (argv : List Str) : Parsed := parseArgs files getenv (readArgs argv)

end

/-- What an option assigns. -/
def Arg.optionAssignments : Arg → List Assignment
  | verbose => [⟨.logLevel, LogLevel.debug⟩]
  | daemon => [⟨.enableConsoleLogging, false⟩]
  | foreground => [⟨.enableConsoleLogging, true⟩]
  | listen address => [⟨.listenAddress, address⟩]
  | port number =>
    match stoi number with
    | .ok n => [⟨.listenPort, toPort n⟩]
    | .error _ => []
  | stratum level =>
    match stoi level with
    | .ok n => [⟨.stratum, UInt8.ofInt n⟩]
    | .error _ => []
  | referenceId identifier => [⟨.referenceId, identifier⟩]
  | _ => []

/-- The path of a configuration file. -/
def Arg.configPath : Arg → Option Str
  | config path => some path
  | _ => none

section

variable (files : Str → Option Str) (getenv : Str → Option Str)

/-- What a file on the command line assigns: what its lines say, and the path. -/
def Arg.fileAssignments (a : Arg) : List Assignment :=
  match a.configPath with
  | none => []
  | some path =>
    match files path with
    | none => []
    | some content => SimpleNtpd.fileAssignments content ++ [⟨.lastConfigFile, path⟩]

/-- What loading the file assigns: what it says, and what the environment says. -/
def Arg.loadAssignments (a : Arg) : List Assignment :=
  match a.configPath with
  | none => []
  | some _ => a.fileAssignments files ++ environmentAssignments getenv

/-- What an argument assigns. -/
def Arg.assignments (a : Arg) : List Assignment :=
  a.optionAssignments ++ a.loadAssignments files getenv

variable {files getenv}

/-- An iteration that does not end the scan carries out the assignments of its
argument. -/
theorem Arg.run_config {s s' : Scan} {a : Arg} (h : a.run files getenv s = .ok s') :
    s'.config = configFields.storeAll s.config (a.assignments files getenv) := by
  cases a with
  | help | version | testConfig | validate | unknown | missing => cases h
  | verbose | daemon | foreground | listen | referenceId | command =>
    cases h
    rfl
  | config path =>
    rw [Arg.run] at h
    unfold Arg.assignments Arg.loadAssignments Arg.fileAssignments
    dsimp only [optionAssignments, configPath]
    cases hfile : files path with
    | none =>
      rw [hfile, NtpConfig.loadFromFile_none] at h
      cases h
    | some content =>
      rw [hfile, NtpConfig.loadFromFile_some] at h
      cases h
      show configFields.storeAll _ _ = _
      rw [SimpleNtpd.loadAssignments, List.nil_append, List.append_assoc]
      rfl
  | port number =>
    rw [Arg.run] at h
    unfold Arg.assignments
    dsimp only [optionAssignments]
    cases hn : stoi number with
    | error e =>
      rw [hn] at h
      cases h
    | ok n =>
      rw [hn] at h
      cases h
      rfl
  | stratum level =>
    rw [Arg.run] at h
    unfold Arg.assignments
    dsimp only [optionAssignments]
    cases hn : stoi level with
    | error e =>
      rw [hn] at h
      cases h
    | ok n =>
      rw [hn] at h
      dsimp only at h
      split at h
      · cases h
        rfl
      · cases h

/-- **The scan carries out the assignments of its arguments**, in their order. -/
theorem scan_config {s s' : Scan} {args : List Arg} (h : scan files getenv s args = .ok s') :
    s'.config = configFields.storeAll s.config (args.flatMap (Arg.assignments files getenv)) := by
  induction args generalizing s with
  | nil =>
    cases h
    rfl
  | cons a args ih =>
    obtain ⟨t, hstep, hrest⟩ := Components.foldlM_cons_iff.mp h
    rw [ih hrest, List.flatMap_cons, Fields.storeAll_append, Arg.run_config hstep]

/-- The server is started with what the scan leaves. -/
theorem parseArgs_eq_accepted_iff {args : List Arg} {c : NtpConfig} {command : Str} :
    parseArgs files getenv args = .accepted c command ↔
      ∃ s, scan files getenv { config := .defaults } args = .ok s ∧
        startCommands.contains s.startupCommand = true ∧ s.config = c ∧
        s.startupCommand = command := by
  unfold parseArgs
  cases scan files getenv { config := .defaults } args with
  | error output => exact iff_of_false (fun h => by cases h) fun ⟨_, h, _⟩ => by cases h
  | ok s =>
    simp only [Scan.dispatch_eq_accepted_iff, Except.ok.injEq, exists_eq_left']

end

end SimpleNtpd
