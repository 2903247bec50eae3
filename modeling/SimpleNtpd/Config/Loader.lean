import SimpleNtpd.Config.Settings

/-!
# Loading a configuration

`NtpConfig::parseConfigFile` reads a file line by line, `loadFromFile` records
the path and lets the `SIMPLE_NTPD_*` environment variables override what the
file said. The file system and the environment are parameters: the content of
the file when it can be opened, and `std::getenv`.
-/

namespace SimpleNtpd

open Cpp

/-! ## The file -/

/-- `value.substr(1, value.length() - 2)` when the text starts and ends with a
double quote (config.cpp:289–293). -/
def stripQuotes (value : Str) : Str :=
  if 2 ≤ value.length ∧ value.head? = some '"'.toUInt8 ∧ value.getLast? = some '"'.toUInt8 then
    (value.drop 1).take (value.length - 2)
  else value

/-- `[section]` (config.cpp:280). -/
def isSectionHeader (line : Str) : Bool :=
  line.head? == some '['.toUInt8 && line.getLast? == some ']'.toUInt8

namespace NtpConfig

/-- A line that is not skipped: trimmed, cut at the first `=`, and dispatched
(config.cpp:276–301). -/
def readSetting (c : NtpConfig) (line : Str) : NtpConfig :=
  let line := trimRight (trimLeft line)
  if isSectionHeader line then c
  else match find line '='.toUInt8 with
    | none => c
    | some pos =>
      -- the verdict of the dispatcher is ignored
      (c.parseCommandLineArg (line.take pos) (stripQuotes (line.drop (pos + 1)))).2

/-- One iteration of the loop over the lines (config.cpp:270–302). -/
def readLine (c : NtpConfig) (line : Str) : NtpConfig :=
  match line with
  | [] => c
  | ch :: _ =>
    if ch = '#'.toUInt8 ∨ ch = ';'.toUInt8 then c else c.readSetting line

theorem readLine_of_head (c : NtpConfig) {line : Str} {ch : UInt8} (h : line.head? = some ch)
    (hhash : ch ≠ '#'.toUInt8) (hsemi : ch ≠ ';'.toUInt8) :
    c.readLine line = c.readSetting line := by
  cases line with
  | nil => cases h
  | cons d t =>
    cases h
    exact if_neg (not_or.mpr ⟨hhash, hsemi⟩)

/-- Read a file; `none` is a file that cannot be opened (config.cpp:262–305). -/
def parseConfigFile (c : NtpConfig) (file : Option Str) : Bool × NtpConfig :=
  match file with
  | none => (false, c)
  | some content => (true, (getlines '\n'.toUInt8 content).foldl readLine c)

end NtpConfig

/-! ## The environment -/

/-- `static_cast<int>` of a 64-bit integer. -/
def toInt (n : Int) : Int := n.bmod (2 ^ 32)

/-- An override that stores the text (`apply_string`). -/
def envString (set : Str → NtpConfig → NtpConfig) (value : Str) : NtpConfig → NtpConfig :=
  set value

/-- An override that stores a truth value (`apply_bool`). -/
def envBool (set : Bool → NtpConfig → NtpConfig) (value : Str) : NtpConfig → NtpConfig :=
  let s := lower value
  set (s == lit "1" || s == lit "true" || s == lit "yes" || s == lit "on")

/-- An override that converts a number and ignores a text it cannot convert
(`apply_int` and the three intervals). -/
def envInt {α β : Type} (convert : Str → Except Exn α) (cast : α → β)
    (set : β → NtpConfig → NtpConfig) (value : Str) : NtpConfig → NtpConfig :=
  match convert value with
  | .ok n => set (cast n)
  | .error _ => id

/-- The overrides, in the order of the source (config.cpp:622–693). -/
def environmentSettings : List (Str × (Str → NtpConfig → NtpConfig)) := [
  (lit "SIMPLE_NTPD_LISTEN_ADDRESS", envString fun v c => { c with listenAddress := v }),
  (lit "SIMPLE_NTPD_LISTEN_PORT",
    envInt stoull UInt64.toUInt16 fun v c => { c with listenPort := v }),
  (lit "SIMPLE_NTPD_MAX_CONNECTIONS",
    envInt stoll toInt fun v c => { c with maxConnections := v }),
  (lit "SIMPLE_NTPD_WORKER_THREADS", envInt stoull id fun v c => { c with workerThreads := v }),
  (lit "SIMPLE_NTPD_MAX_PACKET_SIZE",
    envInt stoull id fun v c => { c with maxPacketSize := v }),
  (lit "SIMPLE_NTPD_REFERENCE_ID", envString fun v c => { c with referenceId := v }),
  (lit "SIMPLE_NTPD_REFERENCE_CLOCK", envString fun v c => { c with referenceClock := v }),
  (lit "SIMPLE_NTPD_ENABLE_STATISTICS", envBool fun v c => { c with enableStatistics := v }),
  (lit "SIMPLE_NTPD_STATS_INTERVAL_SEC",
    envInt stoll id fun v c => { c with statsInterval := v }),
  (lit "SIMPLE_NTPD_SYNC_INTERVAL_SEC",
    envInt stoll id fun v c => { c with syncInterval := v }),
  (lit "SIMPLE_NTPD_TIMEOUT_MS", envInt stoll id fun v c => { c with timeout := v }),
  (lit "SIMPLE_NTPD_LOG_FILE", envString fun v c => { c with logFile := v }),
  (lit "SIMPLE_NTPD_LOG_LEVEL",
    envInt stoi LogLevel.ofCode fun v c => { c with logLevel := v }),
  (lit "SIMPLE_NTPD_LOG_JSON", envBool fun v c => { c with logJson := v }),
  (lit "SIMPLE_NTPD_LOG_MAX_SIZE_BYTES",
    envInt stoull id fun v c => { c with logMaxSizeBytes := v }),
  (lit "SIMPLE_NTPD_LOG_MAX_FILES",
    envInt stoull UInt64.toUInt32 fun v c => { c with logMaxFiles := v }),
  (lit "SIMPLE_NTPD_ENABLE_SYSLOG", envBool fun v c => { c with enableSyslog := v }),
  (lit "SIMPLE_NTPD_ENABLE_CONSOLE_LOGGING",
    envBool fun v c => { c with enableConsoleLogging := v }),
  (lit "SIMPLE_NTPD_ENABLE_AUTHENTICATION",
    envBool fun v c => { c with enableAuthentication := v }),
  (lit "SIMPLE_NTPD_AUTH_KEY", envString fun v c => { c with authenticationKey := v }),
  (lit "SIMPLE_NTPD_AUTH_ALGORITHM",
    envInt stoi AuthAlgorithm.ofCode fun v c => { c with authenticationAlgorithm := v }),
  (lit "SIMPLE_NTPD_ENABLE_ACL", envBool fun v c => { c with enableAcl := v }),
  (lit "SIMPLE_NTPD_RESTRICT_QUERIES", envBool fun v c => { c with restrictQueries := v }),
  (lit "SIMPLE_NTPD_ENABLE_RATE_LIMITING",
    envBool fun v c => { c with enableRateLimiting := v }),
  (lit "SIMPLE_NTPD_CONN_RATE_LIMIT_PER_MIN",
    envInt stoull UInt64.toUInt32 fun v c => { c with connectionRateLimitPerMinute := v }),
  (lit "SIMPLE_NTPD_REQ_RATE_LIMIT_PER_MIN",
    envInt stoull UInt64.toUInt32 fun v c => { c with requestRateLimitPerMinute := v }),
  (lit "SIMPLE_NTPD_ENABLE_DDOS_PROTECTION",
    envBool fun v c => { c with enableDdosProtection := v }),
  (lit "SIMPLE_NTPD_DDOS_THRESHOLD_PER_SEC",
    envInt stoull UInt64.toUInt32 fun v c => { c with ddosAnomalyThresholdPerSecond := v }),
  (lit "SIMPLE_NTPD_ENABLE_TLS", envBool fun v c => { c with enableTls := v }),
  (lit "SIMPLE_NTPD_ENABLE_ENCRYPTED_CHANNELS",
    envBool fun v c => { c with enableEncryptedChannels := v }),
  (lit "SIMPLE_NTPD_ENABLE_CERT_VALIDATION",
    envBool fun v c => { c with enableCertificateValidation := v }),
  (lit "SIMPLE_NTPD_ENABLE_CERT_AUTH",
    envBool fun v c => { c with enableCertificateAuthentication := v }),
  (lit "SIMPLE_NTPD_TLS_CERT_FILE", envString fun v c => { c with tlsCertFile := v }),
  (lit "SIMPLE_NTPD_TLS_KEY_FILE", envString fun v c => { c with tlsKeyFile := v }),
  (lit "SIMPLE_NTPD_TLS_CA_FILE", envString fun v c => { c with tlsCaFile := v }),
  (lit "SIMPLE_NTPD_ENABLE_LEAP_SECOND_HANDLING",
    envBool fun v c => { c with enableLeapSecondHandling := v }),
  (lit "SIMPLE_NTPD_LEAP_SECOND_FILE", envString fun v c => { c with leapSecondFile := v }),
  (lit "SIMPLE_NTPD_ENABLE_AUTO_FAILOVER",
    envBool fun v c => { c with enableAutomaticFailover := v }),
  (lit "SIMPLE_NTPD_ENABLE_SELF_HEALING", envBool fun v c => { c with enableSelfHealing := v }),
  (lit "SIMPLE_NTPD_ENABLE_GRACEFUL_DEGRADATION",
    envBool fun v c => { c with enableGracefulDegradation := v }),
  (lit "SIMPLE_NTPD_DEGRADATION_MODE",
    envInt stoi DegradationMode.ofCode fun v c => { c with degradationMode := v }),
  (lit "SIMPLE_NTPD_ENABLE_STATE_PERSISTENCE",
    envBool fun v c => { c with enableStatePersistence := v }),
  (lit "SIMPLE_NTPD_STATE_FILE", envString fun v c => { c with stateFile := v }),
  (lit "SIMPLE_NTPD_BACKUP_CONFIG_FILE", envString fun v c => { c with backupConfigFile := v }),
  (lit "SIMPLE_NTPD_SERVICE_RESTART_LIMIT",
    envInt stoull UInt64.toUInt32 fun v c => { c with serviceRestartLimit := v }),
  (lit "SIMPLE_NTPD_UPSTREAM_SELECTION_ALGORITHM",
    envInt stoi UpstreamSelectionAlgorithm.ofCode fun v c => { c with upstreamSelectionAlgorithm := v }),
  (lit "SIMPLE_NTPD_ENABLE_UPSTREAM_LOAD_BALANCING",
    envBool fun v c => { c with enableUpstreamLoadBalancing := v }),
  (lit "SIMPLE_NTPD_ENABLE_UPSTREAM_FAILOVER",
    envBool fun v c => { c with enableUpstreamFailover := v }),
  (lit "SIMPLE_NTPD_ENABLE_DYNAMIC_STRATUM",
    envBool fun v c => { c with enableDynamicStratumAdjustment := v }),
  (lit "SIMPLE_NTPD_ENABLE_REFERENCE_CLOCK_SUPPORT",
    envBool fun v c => { c with enableReferenceClockSupport := v }),
  (lit "SIMPLE_NTPD_REFERENCE_CLOCK_SOURCE",
    envString fun v c => { c with referenceClockSource := v }) ]

namespace NtpConfig

/-- config.cpp:584–694. -/
def applyEnvironmentOverrides (getenv : Str → Option Str) (c : NtpConfig) : NtpConfig :=
  environmentSettings.foldl (fun c entry => ((getenv entry.1).map entry.2).getD id c) c

/-- config.cpp:92–99. -/
def loadFromFile (getenv : Str → Option Str) (configFile : Str) (file : Option Str)
    (c : NtpConfig) : Bool × NtpConfig :=
  match c.parseConfigFile file with
  | (false, c) => (false, c)
  | (true, c) => (true, applyEnvironmentOverrides getenv { c with lastConfigFile := configFile })

end NtpConfig

end SimpleNtpd
