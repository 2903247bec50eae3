import Mathlib.Data.List.AList
import SimpleNtpd.Lib.CppString

/-!
# The configuration record

`NtpConfig` (config.hpp) with its defaults and its validator. A `std::string`
is a `Cpp.Str`; `int`, `std::chrono::seconds` and `std::chrono::milliseconds`
are integers, the fixed-width unsigned fields keep their widths.

The four `enum class` types have underlying type `int`, and an environment
override stores any integer in three of them and in the log level, so each has
a constructor for an undeclared value. `NtpStratum` has underlying type
`uint8_t` and is that byte.
-/

namespace SimpleNtpd

open Cpp

/-- `enum class LogLevel` (logger.hpp:21). -/
inductive LogLevel where
  | debug | info | warning | error | fatal
  | other (code : Int)
  deriving DecidableEq, Repr

/-- `static_cast<LogLevel>`. -/
def LogLevel.ofCode (code : Int) : LogLevel :=
  if code = 0 then .debug else if code = 1 then .info else if code = 2 then .warning
  else if code = 3 then .error else if code = 4 then .fatal else .other code

/-- `NtpConfig::AuthAlgorithm` (config.hpp:29–34). -/
inductive AuthAlgorithm where
  | none | md5 | sha1 | sha256
  | other (code : Int)
  deriving DecidableEq, Repr

/-- `static_cast<AuthAlgorithm>`. -/
def AuthAlgorithm.ofCode (code : Int) : AuthAlgorithm :=
  if code = 0 then .none else if code = 1 then .md5 else if code = 2 then .sha1
  else if code = 3 then .sha256 else .other code

/-- `NtpConfig::UpstreamSelectionAlgorithm` (config.hpp:36–40). -/
inductive UpstreamSelectionAlgorithm where
  | roundRobin | random | leastErrors
  | other (code : Int)
  deriving DecidableEq, Repr

/-- `static_cast<UpstreamSelectionAlgorithm>`. -/
def UpstreamSelectionAlgorithm.ofCode (code : Int) : UpstreamSelectionAlgorithm :=
  if code = 0 then .roundRobin else if code = 1 then .random
  else if code = 2 then .leastErrors else .other code

/-- `NtpConfig::DegradationMode` (config.hpp:42–46). -/
inductive DegradationMode where
  | normal | reducedFunctionality | prioritizeTrusted
  | other (code : Int)
  deriving DecidableEq, Repr

/-- `static_cast<DegradationMode>`. -/
def DegradationMode.ofCode (code : Int) : DegradationMode :=
  if code = 0 then .normal else if code = 1 then .reducedFunctionality
  else if code = 2 then .prioritizeTrusted else .other code

/-- All configuration parameters of the daemon (config.hpp:91–173). -/
structure NtpConfig where
  listenAddress : Str
  listenPort : UInt16
  enableIpv6 : Bool
  maxConnections : Int
  stratum : UInt8
  referenceId : Str
  referenceClock : Str
  upstreamServers : List Str
  syncInterval : Int
  timeout : Int
  logFile : Str
  logLevel : LogLevel
  enableConsoleLogging : Bool
  enableSyslog : Bool
  logJson : Bool
  logMaxSizeBytes : UInt64
  logMaxFiles : UInt32
  enableAuthentication : Bool
  authenticationKey : Str
  authenticationAlgorithm : AuthAlgorithm
  authenticationKeys : AList fun _ : UInt32 => Str
  restrictQueries : Bool
  allowedClients : List Str
  deniedClients : List Str
  enableAcl : Bool
  enableRateLimiting : Bool
  connectionRateLimitPerMinute : UInt32
  requestRateLimitPerMinute : UInt32
  enableDdosProtection : Bool
  ddosAnomalyThresholdPerSecond : UInt32
  enableEncryptedChannels : Bool
  enableCertificateValidation : Bool
  enableCertificateAuthentication : Bool
  enableTls : Bool
  tlsCertFile : Str
  tlsKeyFile : Str
  tlsCaFile : Str
  workerThreads : UInt64
  maxPacketSize : UInt64
  enableStatistics : Bool
  statsInterval : Int
  driftFile : Str
  enableDriftCompensation : Bool
  leapSecondFile : Str
  enableLeapSecondHandling : Bool
  enableAutomaticFailover : Bool
  enableSelfHealing : Bool
  enableGracefulDegradation : Bool
  degradationMode : DegradationMode
  enableStatePersistence : Bool
  stateFile : Str
  backupConfigFile : Str
  serviceRestartLimit : UInt32
  upstreamSelectionAlgorithm : UpstreamSelectionAlgorithm
  enableUpstreamLoadBalancing : Bool
  enableUpstreamFailover : Bool
  enableDynamicStratumAdjustment : Bool
  enableReferenceClockSupport : Bool
  referenceClockSource : Str
  lastConfigFile : Str

namespace NtpConfig

/-- The values the constructor sets (config.cpp:21–90). -/
def defaults : NtpConfig where
  listenAddress := lit "0.0.0.0"
  listenPort := 123
  enableIpv6 := true
  maxConnections := 1000
  stratum := 2
  referenceClock := lit "LOCAL"
  referenceId := lit "LOCL"
  upstreamServers := [lit "pool.ntp.org", lit "time.nist.gov"]
  syncInterval := 64
  timeout := 1000
  logLevel := .info
  logFile := lit "/var/log/simple-ntpd/simple-ntpd.log"
  enableConsoleLogging := true
  enableSyslog := true
  logJson := false
  logMaxSizeBytes := 0
  logMaxFiles := 5
  enableAuthentication := false
  authenticationKey := []
  authenticationAlgorithm := .none
  authenticationKeys := ∅
  restrictQueries := false
  allowedClients := [lit "0.0.0.0/0"]
  deniedClients := []
  enableAcl := false
  enableRateLimiting := false
  connectionRateLimitPerMinute := 120
  requestRateLimitPerMinute := 600
  enableDdosProtection := false
  ddosAnomalyThresholdPerSecond := 200
  enableEncryptedChannels := false
  enableCertificateValidation := false
  enableCertificateAuthentication := false
  enableTls := false
  tlsCertFile := []
  tlsKeyFile := []
  tlsCaFile := []
  workerThreads := 4
  maxPacketSize := 1024
  enableStatistics := true
  statsInterval := 60
  driftFile := lit "/var/lib/simple-ntpd/drift"
  enableDriftCompensation := true
  leapSecondFile := lit "/var/lib/simple-ntpd/leap-seconds.list"
  enableLeapSecondHandling := true
  enableAutomaticFailover := false
  enableSelfHealing := false
  enableGracefulDegradation := false
  degradationMode := .normal
  enableStatePersistence := false
  stateFile := lit "/var/lib/simple-ntpd/state.json"
  backupConfigFile := lit "/var/lib/simple-ntpd/config.backup"
  serviceRestartLimit := 3
  upstreamSelectionAlgorithm := .roundRobin
  enableUpstreamLoadBalancing := false
  enableUpstreamFailover := false
  enableDynamicStratumAdjustment := false
  enableReferenceClockSupport := false
  referenceClockSource := lit "local"
  lastConfigFile := []

/-- The conditions the validator rejects on, in the order of the source, each
with the message it reports (config.cpp:128–219). -/
def rejections (c : NtpConfig) : List (Bool × String) :=
  -- the comparisons no `uint16_t` port (`> 65535`) or `uint8_t` stratum (`< 0`) can
  -- satisfy are left out
  [ (c.listenPort < 1, "listen_port must be in range 1-65535"),
    (c.stratum > 15, "stratum must be in range 0-15"),
    (c.workerThreads < 1 || c.workerThreads > 64, "worker_threads must be in range 1-64"),
    (c.maxConnections < 1 || c.maxConnections > 100000,
      "max_connections must be in range 1-100000"),
    (c.maxPacketSize < 48 || c.maxPacketSize > 8192,
      "max_packet_size must be in range 48-8192"),
    (c.syncInterval < 1 || c.syncInterval > 86400,
      "sync_interval must be in range 1-86400 seconds"),
    (c.timeout < 10 || c.timeout > 60000, "timeout must be in range 10-60000 milliseconds"),
    (c.statsInterval < 1 || c.statsInterval > 3600,
      "stats_interval must be in range 1-3600 seconds"),
    (c.referenceId.length != 4, "reference_id must be exactly 4 characters"),
    (c.logMaxSizeBytes > 0 && c.logMaxSizeBytes < 1024,
      "log_max_size_bytes must be 0 or >= 1024"),
    (c.logMaxFiles < 1 || c.logMaxFiles > 1000, "log_max_files must be in range 1-1000"),
    (c.enableAuthentication && c.authenticationKey.isEmpty,
      "authentication_key is required when enable_authentication=true"),
    (!c.enableAuthentication && !c.authenticationKey.isEmpty,
      "authentication_key set while enable_authentication=false"),
    (c.enableLeapSecondHandling && c.leapSecondFile.isEmpty,
      "leap_second_file is required when enable_leap_second_handling=true"),
    (c.enableStatistics && c.statsInterval ≤ 0,
      "stats_interval must be > 0 when enable_statistics=true"),
    (c.restrictQueries && c.allowedClients.isEmpty,
      "allowed_clients must be set when restrict_queries=true"),
    (c.enableRateLimiting && c.connectionRateLimitPerMinute == 0,
      "connection_rate_limit_per_minute must be > 0 when rate limiting is enabled"),
    (c.enableRateLimiting && c.requestRateLimitPerMinute == 0,
      "request_rate_limit_per_minute must be > 0 when rate limiting is enabled"),
    (c.enableDdosProtection && c.ddosAnomalyThresholdPerSecond == 0,
      "ddos_anomaly_threshold_per_second must be > 0 when DDoS protection is enabled"),
    ((c.enableTls || c.enableCertificateAuthentication)
        && (c.tlsCertFile.isEmpty || c.tlsKeyFile.isEmpty),
      "tls_cert_file and tls_key_file are required when TLS/certificate authentication is enabled"),
    (c.enableCertificateValidation && c.tlsCaFile.isEmpty,
      "tls_ca_file is required when certificate validation is enabled"),
    (c.enableStatePersistence && c.stateFile.isEmpty,
      "state_file is required when state persistence is enabled"),
    (c.enableAutomaticFailover && c.upstreamServers.isEmpty,
      "upstream_servers must not be empty when automatic failover is enabled") ]

/-- The messages of the conditions that apply; the verdict is that there are
none (config.cpp:125–222). -/
def validateDetailed (c : NtpConfig) : Bool × List String :=
  let errors := (c.rejections.filter (·.1)).map (·.2)
  (errors.isEmpty, errors)

/-- config.cpp:120–123. -/
def validate (c : NtpConfig) : Bool := c.validateDetailed.1

/-- A configuration is accepted when no rejection condition applies. -/
theorem validate_iff (c : NtpConfig) :
    c.validate = true ↔ ∀ r ∈ c.rejections, r.1 = false := by
  simp only [validate, validateDetailed, List.isEmpty_iff, List.map_eq_nil_iff,
    List.filter_eq_nil_iff, Bool.not_eq_true]

/-- The stratum of an accepted configuration is in range. -/
theorem stratum_le_of_validate {c : NtpConfig} (h : c.validate = true) : c.stratum ≤ 15 := by
  have hrej := c.validate_iff.mp h
    (c.stratum > 15, "stratum must be in range 0-15") (by simp [rejections])
  exact UInt8.not_lt.mp (of_decide_eq_false hrej)

/-- An accepted configuration that authenticates has a key. -/
theorem authenticationKey_ne_nil_of_validate {c : NtpConfig} (h : c.validate = true)
    (hauth : c.enableAuthentication = true) : c.authenticationKey ≠ [] := by
  have hrej := c.validate_iff.mp h
    (c.enableAuthentication && c.authenticationKey.isEmpty,
      "authentication_key is required when enable_authentication=true") (by simp [rejections])
  intro hnil
  rw [hauth, hnil] at hrej
  exact Bool.noConfusion hrej

/-- The defaults pass their own validator. -/
theorem defaults_validate : defaults.validate = true := by decide

end NtpConfig

end SimpleNtpd
