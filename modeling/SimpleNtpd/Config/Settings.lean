import Mathlib.Data.Int.Basic
import SimpleNtpd.Config.Config

/-!
# Settings

`NtpConfig::parseCommandLineArg` is a chain of comparisons of the lower-cased
key with the names of about seventy settings; each arm reads the value text and
stores what it read in one field. Here an arm is a `Setting`: a reader, a field
and the proof that storing in the field and reading it back agree. The chain is
the table `settings`, in the order of the source, and the dispatcher looks the
key up in it.

There are seven ways an arm reads its text (`Reader`). Because an arm is
determined by what its reader makes of the text, `Setting.apply_congr_iff`
decides when two texts have the same effect, once for all settings.
-/

namespace SimpleNtpd

open Cpp

/-! ## Conversions -/

/-- `value == "true" || value == "1" || value == "yes"`. -/
def readFlag (value : Str) : Bool :=
  value == lit "true" || value == lit "1" || value == lit "yes"

/-- The comma-separated list loop: each field trimmed, empty fields dropped
(config.cpp:343–355, 432–455). -/
def readList (value : Str) : List Str :=
  ((getlines ','.toUInt8 value).map fun item => trimRight (trimLeft item)).filter
    (!·.isEmpty)

/-- A chain of comparisons of the lower-cased text with some names, and what
the last `else` stores. -/
def choose {α : Type} (names : List (Str × α)) (default : α) (value : Str) : α :=
  ((names.find? (·.1 == lower value)).map (·.2)).getD default

/-- One `id:key` entry of a key table: the verdict and the table afterwards
(config.cpp:696–712). -/
def parseAuthenticationKeySpec (keys : AList fun _ : UInt32 => Str) (spec : Str) :
    Bool × AList fun _ : UInt32 => Str :=
  match find spec ':'.toUInt8 with
  | none => (false, keys)
  | some colon =>
    if colon = 0 ∨ colon = spec.length - 1 then (false, keys)
    else match stoull (spec.take colon) with
      | .error _ => (false, keys)
      | .ok keyId =>
        let keyValue := spec.drop (colon + 1)
        if keyValue.isEmpty then (false, keys)
        else (true, keys.insert keyId.toUInt32 keyValue)

/-- The table is cleared, then filled entry by entry; the verdicts of the
entries are ignored (config.cpp:417–427). -/
def readAuthenticationKeys (value : Str) : AList fun _ : UInt32 => Str :=
  (readList value).foldl (fun keys item => (parseAuthenticationKeySpec keys item).2) ∅

/-- A letter of the names an arm compares with: a small letter, a digit or an
underscore. -/
def isNameChar (c : UInt8) : Bool :=
  isDigit c || ('a'.toUInt8 ≤ c && c ≤ 'z'.toUInt8) || c == '_'.toUInt8

/-- Names can be checked character by character. -/
theorem isNameChar_of_all {names : List Str} (h : names.all (·.all isNameChar) = true) :
    ∀ name ∈ names, ∀ c ∈ name, isNameChar c = true := fun name hname =>
  List.all_eq_true.mp (List.all_eq_true.mp h name hname)

/-! ## Readers -/

/-- What an arm makes of a value text: a value to store, a value that is read
but not stored (out of the accepted range), or a conversion that throws. -/
inductive Reading (α : Type) where
  | store (a : α)
  | skip
  | fail
  deriving DecidableEq, Repr

/-- The value an arm stores, if any. -/
def Reading.stored {α : Type} : Reading α → Option α
  | store a => some a
  | skip => none
  | fail => none

/-- A conversion of the `sto*` family inside the `try` block of an arm, storing
only values that satisfy the arm's range test. -/
def Reading.ofExcept {α β : Type} (inRange : α → Bool) (f : α → β) :
    Except Exn α → Reading β
  | .ok a => if inRange a then store (f a) else skip
  | .error _ => fail

/-- The ways the arms read their text. -/
inductive Reader : Type → Type 1 where
  /-- the text itself -/
  | text : Reader Str
  /-- a truth value -/
  | flag : Reader Bool
  /-- a comma-separated list -/
  | list : Reader (List Str)
  /-- `std::stoi`, a range test and a cast -/
  | signed {α : Type} (inRange : Int → Bool) (f : Int → α) : Reader α
  /-- `std::stoul` or `std::stoull`, a range test and a cast -/
  | unsigned {α : Type} (inRange : UInt64 → Bool) (f : UInt64 → α) : Reader α
  /-- one of some names -/
  | choice {α : Type} (names : List (Str × α)) (default : α)
      (names_char : ∀ p ∈ names, ∀ c ∈ p.1, isNameChar c = true) : Reader α
  /-- a table of authentication keys -/
  | keys : Reader (AList fun _ : UInt32 => Str)

/-- Read a text. -/
def Reader.read : {α : Type} → Reader α → Str → Reading α
  | _, text, value => .store value
  | _, flag, value => .store (readFlag value)
  | _, list, value => .store (readList value)
  | _, signed inRange f, value => .ofExcept inRange f (stoi value)
  | _, unsigned inRange f, value => .ofExcept inRange f (stoull value)
  | _, choice names default _, value => .store (choose names default value)
  | _, keys, value => .store (readAuthenticationKeys value)

/-! ## Settings -/

/-- One arm of the chain. -/
structure Setting where
  Value : Type
  reader : Reader Value
  get : NtpConfig → Value
  set : Value → NtpConfig → NtpConfig
  /-- What is stored is what the field holds afterwards. -/
  get_set : ∀ v c, get (set v c) = v
  /-- The field is not constant. -/
  nontrivial : Nontrivial Value

namespace Setting

/-- The arm that reads with `reader` into the given field. -/
def of {α : Type} [h : Nontrivial α] (reader : Reader α) (get : NtpConfig → α)
    (set : α → NtpConfig → NtpConfig) (get_set : ∀ v c, get (set v c) = v) : Setting :=
  ⟨α, reader, get, set, get_set, h⟩

/-- What the arm stores of a text, if anything. -/
def stored (s : Setting) (value : Str) : Option s.Value := (s.reader.read value).stored

/-- Run an arm: the return value and the configuration afterwards. -/
def apply (s : Setting) (value : Str) (c : NtpConfig) : Bool × NtpConfig :=
  match s.reader.read value with
  | .store v => (true, s.set v c)
  | .skip => (true, c)
  | .fail => (false, c)

theorem apply_snd (s : Setting) (value : Str) (c : NtpConfig) :
    (s.apply value c).2 = ((s.stored value).map (s.set · c)).getD c := by
  unfold apply stored
  cases s.reader.read value <;> rfl

theorem apply_of_stored_eq_none (s : Setting) {value : Str} (h : s.stored value = none)
    (c : NtpConfig) : (s.apply value c).2 = c := by
  rw [apply_snd, h]
  rfl

theorem apply_of_stored_eq_some (s : Setting) {value : Str} {v : s.Value}
    (h : s.stored value = some v) (c : NtpConfig) : (s.apply value c).2 = s.set v c := by
  rw [apply_snd, h]
  rfl

/-- No stored value leaves every configuration as it is. -/
theorem exists_set_ne (s : Setting) (v : s.Value) : ∃ c, s.set v c ≠ c := by
  obtain ⟨a, b, hab⟩ := s.nontrivial
  -- one of the two values differs from `v`; start from a configuration that holds it
  by_cases hav : a = v
  · refine ⟨s.set b .defaults, fun h => hab ?_⟩
    rw [hav, ← s.get_set v (s.set b .defaults), h, s.get_set]
  · refine ⟨s.set a .defaults, fun h => hav ?_⟩
    rw [← s.get_set v (s.set a .defaults), h, s.get_set]

/-- A text has no effect on any configuration exactly when nothing is stored. -/
theorem apply_eq_self_iff (s : Setting) (x : Str) :
    (∀ c, (s.apply x c).2 = c) ↔ s.stored x = none := by
  constructor
  · intro h
    cases hx : s.stored x with
    | none => rfl
    | some v =>
      obtain ⟨c, hc⟩ := s.exists_set_ne v
      have hset := h c
      rw [s.apply_of_stored_eq_some hx] at hset
      exact absurd hset hc
  · exact fun h c => s.apply_of_stored_eq_none h c

/-- Two texts have the same effect on every configuration exactly when the arm
stores the same of both. -/
theorem apply_congr_iff (s : Setting) (x y : Str) :
    (∀ c, (s.apply x c).2 = (s.apply y c).2) ↔ s.stored x = s.stored y := by
  constructor
  · intro h
    cases hx : s.stored x with
    | none =>
      have hy : ∀ c, (s.apply y c).2 = c := by
        intro c
        rw [← h c, s.apply_of_stored_eq_none hx]
      exact ((s.apply_eq_self_iff y).mp hy).symm
    | some v =>
      cases hy : s.stored y with
      | none =>
        have hx' : ∀ c, (s.apply x c).2 = c := by
          intro c
          rw [h c, s.apply_of_stored_eq_none hy]
        rw [(s.apply_eq_self_iff x).mp hx'] at hx
        exact hx.symm
      | some w =>
        have hget := congrArg s.get (h .defaults)
        rw [s.apply_of_stored_eq_some hx, s.apply_of_stored_eq_some hy, s.get_set,
          s.get_set] at hget
        rw [hget]
  · intro h c
    rw [apply_snd, apply_snd, h]

end Setting

/-! ## The chain -/

/-- `static_cast<port_t>` of an `int`. -/
def toPort (n : Int) : UInt16 := UInt16.ofInt n

instance nontrivialUInt8 : Nontrivial UInt8 := ⟨0, 1, by decide⟩
instance nontrivialUInt16 : Nontrivial UInt16 := ⟨0, 1, by decide⟩
instance nontrivialUInt32 : Nontrivial UInt32 := ⟨0, 1, by decide⟩
instance nontrivialUInt64 : Nontrivial UInt64 := ⟨0, 1, by decide⟩
instance : Nontrivial LogLevel := ⟨.debug, .info, by decide⟩
instance : Nontrivial AuthAlgorithm := ⟨.none, .md5, by decide⟩
instance : Nontrivial DegradationMode := ⟨.normal, .reducedFunctionality, by decide⟩
instance : Nontrivial UpstreamSelectionAlgorithm := ⟨.roundRobin, .random, by decide⟩
instance : Nontrivial Str := ⟨[], [0], by decide⟩
instance : Nontrivial (List Str) := ⟨[], [[]], by decide⟩
instance : Nontrivial (AList fun _ : UInt32 => Str) :=
  ⟨∅, AList.singleton 0 [], fun h => List.cons_ne_nil _ _ (congrArg AList.entries h).symm⟩

/-- What `choice` asks of its names. -/
theorem isNameChar_of_choice {α : Type} {names : List (Str × α)}
    (h : (names.map (·.1)).all (·.all isNameChar) = true) :
    ∀ p ∈ names, ∀ c ∈ p.1, isNameChar c = true := fun p hp =>
  isNameChar_of_all h p.1 (List.mem_map_of_mem hp)

/-- config.cpp:407–416. -/
def authAlgorithmReader : Reader AuthAlgorithm :=
  .choice [(lit "md5", .md5), (lit "sha1", .sha1), (lit "sha256", .sha256)] .none
    (isNameChar_of_choice (by decide))

/-- config.cpp:537–546. -/
def degradationModeReader : Reader DegradationMode :=
  .choice [(lit "reduced", .reducedFunctionality),
    (lit "prioritize_trusted", .prioritizeTrusted)] .normal (isNameChar_of_choice (by decide))

/-- config.cpp:558–567. -/
def upstreamSelectionReader : Reader UpstreamSelectionAlgorithm :=
  .choice [(lit "random", .random), (lit "least_errors", .leastErrors)] .roundRobin
    (isNameChar_of_choice (by decide))

/-- The chain of arms, in the order of the source (config.cpp:314–579). -/
def settings : List (List Str × Setting) := [
  ([lit "listen_address", lit "bind_address"],
    .of .text (·.listenAddress) (fun v c => { c with listenAddress := v }) fun _ _ => rfl),
  ([lit "listen_port", lit "port"],
    .of (.signed (fun _ => true) toPort) (·.listenPort)
      (fun v c => { c with listenPort := v }) fun _ _ => rfl),
  ([lit "enable_ipv6", lit "ipv6"],
    .of .flag (·.enableIpv6) (fun v c => { c with enableIpv6 := v }) fun _ _ => rfl),
  ([lit "max_connections", lit "max_conn"],
    .of (.signed (fun _ => true) id) (·.maxConnections)
      (fun v c => { c with maxConnections := v }) fun _ _ => rfl),
  ([lit "stratum"],
    .of (.signed (fun n => 0 ≤ n && n ≤ 15) UInt8.ofInt) (·.stratum)
      (fun v c => { c with stratum := v }) fun _ _ => rfl),
  ([lit "reference_clock", lit "ref_clock"],
    .of .text (·.referenceClock) (fun v c => { c with referenceClock := v }) fun _ _ => rfl),
  ([lit "reference_id", lit "ref_id"],
    .of .text (·.referenceId) (fun v c => { c with referenceId := v }) fun _ _ => rfl),
  ([lit "upstream_servers", lit "servers"],
    .of .list (·.upstreamServers) (fun v c => { c with upstreamServers := v }) fun _ _ => rfl),
  ([lit "sync_interval"],
    .of (.signed (fun _ => true) id) (·.syncInterval)
      (fun v c => { c with syncInterval := v }) fun _ _ => rfl),
  ([lit "timeout"],
    .of (.signed (fun _ => true) id) (·.timeout)
      (fun v c => { c with timeout := v }) fun _ _ => rfl),
  ([lit "log_level", lit "loglevel"],
    .of (.signed (fun n => 0 ≤ n && n ≤ 4) LogLevel.ofCode) (·.logLevel)
      (fun v c => { c with logLevel := v }) fun _ _ => rfl),
  ([lit "log_file", lit "logfile"],
    .of .text (·.logFile) (fun v c => { c with logFile := v }) fun _ _ => rfl),
  ([lit "enable_console_logging", lit "console_log"],
    .of .flag (·.enableConsoleLogging)
      (fun v c => { c with enableConsoleLogging := v }) fun _ _ => rfl),
  ([lit "enable_syslog", lit "syslog"],
    .of .flag (·.enableSyslog) (fun v c => { c with enableSyslog := v }) fun _ _ => rfl),
  ([lit "log_json", lit "json_logs"],
    .of .flag (·.logJson) (fun v c => { c with logJson := v }) fun _ _ => rfl),
  ([lit "log_max_size_bytes", lit "log_max_size"],
    .of (.unsigned (fun _ => true) id) (·.logMaxSizeBytes)
      (fun v c => { c with logMaxSizeBytes := v }) fun _ _ => rfl),
  ([lit "log_max_files"],
    .of (.unsigned (fun _ => true) UInt64.toUInt32) (·.logMaxFiles)
      (fun v c => { c with logMaxFiles := v }) fun _ _ => rfl),
  ([lit "enable_authentication", lit "auth"],
    .of .flag (·.enableAuthentication)
      (fun v c => { c with enableAuthentication := v }) fun _ _ => rfl),
  ([lit "authentication_key", lit "auth_key"],
    .of .text (·.authenticationKey)
      (fun v c => { c with authenticationKey := v }) fun _ _ => rfl),
  ([lit "authentication_algorithm", lit "auth_algorithm"],
    .of authAlgorithmReader (·.authenticationAlgorithm)
      (fun v c => { c with authenticationAlgorithm := v }) fun _ _ => rfl),
  ([lit "authentication_keys", lit "auth_keys"],
    .of .keys (·.authenticationKeys)
      (fun v c => { c with authenticationKeys := v }) fun _ _ => rfl),
  ([lit "restrict_queries", lit "restrict"],
    .of .flag (·.restrictQueries) (fun v c => { c with restrictQueries := v }) fun _ _ => rfl),
  ([lit "enable_acl", lit "acl"],
    .of .flag (·.enableAcl) (fun v c => { c with enableAcl := v }) fun _ _ => rfl),
  ([lit "allowed_clients", lit "allow"],
    .of .list (·.allowedClients) (fun v c => { c with allowedClients := v }) fun _ _ => rfl),
  ([lit "denied_clients", lit "deny"],
    .of .list (·.deniedClients) (fun v c => { c with deniedClients := v }) fun _ _ => rfl),
  ([lit "enable_rate_limiting", lit "rate_limit"],
    .of .flag (·.enableRateLimiting)
      (fun v c => { c with enableRateLimiting := v }) fun _ _ => rfl),
  ([lit "connection_rate_limit_per_minute", lit "conn_rate_limit"],
    .of (.unsigned (fun _ => true) UInt64.toUInt32) (·.connectionRateLimitPerMinute)
      (fun v c => { c with connectionRateLimitPerMinute := v }) fun _ _ => rfl),
  ([lit "request_rate_limit_per_minute", lit "req_rate_limit"],
    .of (.unsigned (fun _ => true) UInt64.toUInt32) (·.requestRateLimitPerMinute)
      (fun v c => { c with requestRateLimitPerMinute := v }) fun _ _ => rfl),
  ([lit "enable_ddos_protection", lit "ddos_protection"],
    .of .flag (·.enableDdosProtection)
      (fun v c => { c with enableDdosProtection := v }) fun _ _ => rfl),
  ([lit "ddos_anomaly_threshold_per_second", lit "ddos_threshold"],
    .of (.unsigned (fun _ => true) UInt64.toUInt32) (·.ddosAnomalyThresholdPerSecond)
      (fun v c => { c with ddosAnomalyThresholdPerSecond := v }) fun _ _ => rfl),
  ([lit "enable_tls", lit "tls"],
    .of .flag (·.enableTls) (fun v c => { c with enableTls := v }) fun _ _ => rfl),
  ([lit "enable_encrypted_channels", lit "encrypted_channels"],
    .of .flag (·.enableEncryptedChannels)
      (fun v c => { c with enableEncryptedChannels := v }) fun _ _ => rfl),
  ([lit "enable_certificate_validation", lit "cert_validation"],
    .of .flag (·.enableCertificateValidation)
      (fun v c => { c with enableCertificateValidation := v }) fun _ _ => rfl),
  ([lit "enable_certificate_authentication", lit "cert_auth"],
    .of .flag (·.enableCertificateAuthentication)
      (fun v c => { c with enableCertificateAuthentication := v }) fun _ _ => rfl),
  ([lit "tls_cert_file"],
    .of .text (·.tlsCertFile) (fun v c => { c with tlsCertFile := v }) fun _ _ => rfl),
  ([lit "tls_key_file"],
    .of .text (·.tlsKeyFile) (fun v c => { c with tlsKeyFile := v }) fun _ _ => rfl),
  ([lit "tls_ca_file"],
    .of .text (·.tlsCaFile) (fun v c => { c with tlsCaFile := v }) fun _ _ => rfl),
  ([lit "worker_threads", lit "threads"],
    .of (.unsigned (fun n => 1 ≤ n && n ≤ 64) id) (·.workerThreads)
      (fun v c => { c with workerThreads := v }) fun _ _ => rfl),
  ([lit "max_packet_size", lit "packet_size"],
    .of (.unsigned (fun n => 48 ≤ n && n ≤ 8192) id) (·.maxPacketSize)
      (fun v c => { c with maxPacketSize := v }) fun _ _ => rfl),
  ([lit "enable_statistics", lit "stats"],
    .of .flag (·.enableStatistics) (fun v c => { c with enableStatistics := v }) fun _ _ => rfl),
  ([lit "stats_interval"],
    .of (.signed (fun _ => true) id) (·.statsInterval)
      (fun v c => { c with statsInterval := v }) fun _ _ => rfl),
  ([lit "drift_file", lit "drift"],
    .of .text (·.driftFile) (fun v c => { c with driftFile := v }) fun _ _ => rfl),
  ([lit "enable_drift_compensation", lit "drift_comp"],
    .of .flag (·.enableDriftCompensation)
      (fun v c => { c with enableDriftCompensation := v }) fun _ _ => rfl),
  ([lit "leap_second_file", lit "leap_seconds"],
    .of .text (·.leapSecondFile) (fun v c => { c with leapSecondFile := v }) fun _ _ => rfl),
  ([lit "enable_leap_second_handling", lit "leap_handling"],
    .of .flag (·.enableLeapSecondHandling)
      (fun v c => { c with enableLeapSecondHandling := v }) fun _ _ => rfl),
  ([lit "enable_automatic_failover", lit "auto_failover"],
    .of .flag (·.enableAutomaticFailover)
      (fun v c => { c with enableAutomaticFailover := v }) fun _ _ => rfl),
  ([lit "enable_self_healing", lit "self_healing"],
    .of .flag (·.enableSelfHealing)
      (fun v c => { c with enableSelfHealing := v }) fun _ _ => rfl),
  ([lit "enable_graceful_degradation", lit "graceful_degradation"],
    .of .flag (·.enableGracefulDegradation)
      (fun v c => { c with enableGracefulDegradation := v }) fun _ _ => rfl),
  ([lit "degradation_mode"],
    .of degradationModeReader (·.degradationMode)
      (fun v c => { c with degradationMode := v }) fun _ _ => rfl),
  ([lit "enable_state_persistence", lit "state_persistence"],
    .of .flag (·.enableStatePersistence)
      (fun v c => { c with enableStatePersistence := v }) fun _ _ => rfl),
  ([lit "state_file"],
    .of .text (·.stateFile) (fun v c => { c with stateFile := v }) fun _ _ => rfl),
  ([lit "backup_config_file"],
    .of .text (·.backupConfigFile) (fun v c => { c with backupConfigFile := v }) fun _ _ => rfl),
  ([lit "service_restart_limit"],
    .of (.unsigned (fun _ => true) UInt64.toUInt32) (·.serviceRestartLimit)
      (fun v c => { c with serviceRestartLimit := v }) fun _ _ => rfl),
  ([lit "upstream_selection_algorithm", lit "upstream_algorithm"],
    .of upstreamSelectionReader (·.upstreamSelectionAlgorithm)
      (fun v c => { c with upstreamSelectionAlgorithm := v }) fun _ _ => rfl),
  ([lit "enable_upstream_load_balancing", lit "upstream_load_balancing"],
    .of .flag (·.enableUpstreamLoadBalancing)
      (fun v c => { c with enableUpstreamLoadBalancing := v }) fun _ _ => rfl),
  ([lit "enable_upstream_failover", lit "upstream_failover"],
    .of .flag (·.enableUpstreamFailover)
      (fun v c => { c with enableUpstreamFailover := v }) fun _ _ => rfl),
  ([lit "enable_dynamic_stratum_adjustment", lit "dynamic_stratum"],
    .of .flag (·.enableDynamicStratumAdjustment)
      (fun v c => { c with enableDynamicStratumAdjustment := v }) fun _ _ => rfl),
  ([lit "enable_reference_clock_support", lit "reference_clock_support"],
    .of .flag (·.enableReferenceClockSupport)
      (fun v c => { c with enableReferenceClockSupport := v }) fun _ _ => rfl),
  ([lit "reference_clock_source"],
    .of .text (·.referenceClockSource)
      (fun v c => { c with referenceClockSource := v }) fun _ _ => rfl) ]

/-- The arm a key selects. -/
def findSetting (key : Str) : Option Setting :=
  (settings.find? fun entry => entry.1.contains (lower key)).map (·.2)

/-- Store one setting: the return value and the configuration afterwards. A key
no arm knows is accepted and changes nothing (config.cpp:307–582). -/
def NtpConfig.parseCommandLineArg (c : NtpConfig) (key value : Str) : Bool × NtpConfig :=
  match findSetting key with
  | none => (true, c)
  | some s => s.apply value c

theorem NtpConfig.parseCommandLineArg_of_none {key : Str} (h : findSetting key = none)
    (c : NtpConfig) (value : Str) : c.parseCommandLineArg key value = (true, c) := by
  rw [parseCommandLineArg, h]

theorem NtpConfig.parseCommandLineArg_of_some {key : Str} {s : Setting}
    (h : findSetting key = some s) (c : NtpConfig) (value : Str) :
    c.parseCommandLineArg key value = s.apply value c := by
  rw [parseCommandLineArg, h]

/-- The names of the arms are made of small letters, digits and underscores. -/
theorem settingNames_spec {entry : List Str × Setting} (he : entry ∈ settings) {name : Str}
    (hname : name ∈ entry.1) : name ≠ [] ∧ ∀ ch ∈ name, isNameChar ch = true := by
  have hall : ∀ name ∈ settings.flatMap (·.1), (!name.isEmpty && name.all isNameChar) = true := by
    unfold settings
    simp only [List.flatMap_cons, List.flatMap_nil, List.cons_append, List.nil_append]
    -- the characters of a literal, without decoding it
    repeat refine List.forall_mem_cons.mpr ⟨by rw [lit_ofList]; decide +kernel, ?_⟩
    exact List.forall_mem_nil _
  have hboth := hall name (List.mem_flatMap_of_mem he hname)
  rw [Bool.and_eq_true, Bool.not_eq_true', List.isEmpty_eq_false_iff] at hboth
  exact ⟨hboth.1, List.all_eq_true.mp hboth.2⟩

/-- The empty key selects no arm. -/
theorem findSetting_nil : findSetting [] = none := by
  rw [findSetting, Option.map_eq_none_iff, List.find?_eq_none]
  exact fun entry he hcontains =>
    (settingNames_spec he (List.contains_iff_mem.mp hcontains)).1 rfl

/-- Lower-casing gives a letter of the names only from a letter, a digit or an
underscore, so a key with any other character selects no arm. -/
theorem findSetting_eq_none {key : Str} {ch : UInt8} (hmem : ch ∈ key)
    (hch : isNameChar (toLower ch) = false) : findSetting key = none := by
  rw [findSetting, Option.map_eq_none_iff, List.find?_eq_none]
  intro entry he hcontains
  have hchar := (settingNames_spec he (List.contains_iff_mem.mp hcontains)).2 (toLower ch)
    (List.mem_map_of_mem hmem)
  rw [hch] at hchar
  exact Bool.noConfusion hchar

end SimpleNtpd
