import SimpleNtpd.Config.Fields

/-!
# The format parsers

`ConfigParser` (parser.cpp): a chain of arms of its own, a reader of lines for
each format, and the factory that selects one by the extension of the file's
name. Nothing in the daemon calls it; the documentation promises it, and the
tests use it.

`loadFromFile` reads every file as lines `key=value`. A parser for JSON or YAML
reads lines `key: value`. No line is a setting for both (`line_read_once`), so the two
agree on the files in which every setting that counts stands twice, once in either
notation, or changes nothing (`loading_follows_format_iff`).
-/

namespace SimpleNtpd

open Cpp Assignments

/-! ## Conversions -/

/-- A character of `" \t\r\n"`. -/
def isParserBlank (c : UInt8) : Bool :=
  c == ' '.toUInt8 || c == '\t'.toUInt8 || c == '\r'.toUInt8 || c == '\n'.toUInt8

/-- parser.cpp:215–222. -/
def trim (s : Str) : Str := (s.dropWhile isParserBlank).rdropWhile isParserBlank

/-- parser.cpp:200–213. -/
def parseList (value : Str) : List Str :=
  ((getlines ','.toUInt8 value).map trim).filter (!·.isEmpty)

/-- parser.cpp:224–230. -/
def stringToBool (value : Str) : Bool :=
  let lowerValue := lower value
  lowerValue == lit "true" || lowerValue == lit "1" || lowerValue == lit "yes"
    || lowerValue == lit "on" || lowerValue == lit "enabled"

/-- The text itself. -/
def parseText (value : Str) : Option Str := some value

/-- A truth value. -/
def parseFlag (value : Str) : Option Bool := some (stringToBool value)

/-- A comma-separated list. -/
def parseItems (value : Str) : Option (List Str) := some (parseList value)

/-- `stringToInt`, a range test and a cast. -/
def parseSigned {α : Type} (inRange : Int → Bool) (cast : Int → α) (value : Str) : Option α :=
  match stoi value with
  | .error _ => none
  | .ok n => if inRange n then some (cast n) else none

/-- `stringToUInt` or `stringToSizeT`, a range test and a cast. -/
def parseUnsigned {α : Type} (inRange : UInt64 → Bool) (cast : UInt64 → α) (value : Str) :
    Option α :=
  match stoull value with
  | .error _ => none
  | .ok n => if inRange n then some (cast n) else none

/-- parser.cpp:78–88. -/
def parseAlgorithm (value : Str) : Option AuthAlgorithm :=
  some (choose [(lit "md5", .md5), (lit "sha1", .sha1), (lit "sha256", .sha256)] .none value)

/-- parser.cpp:173–181. -/
def parseSelection (value : Str) : Option UpstreamSelectionAlgorithm :=
  some (choose [(lit "random", .random), (lit "least_errors", .leastErrors)] .roundRobin value)

/-- The chain of arms, in the order of the source: the names of a key, the field
and what is stored in it, if anything (parser.cpp:27–192). -/
def parserSettings : List (List Str × (f : Field) × (Str → Option f.Value)) := [
  ([lit "listen_address", lit "bind_address"], ⟨.listenAddress, parseText⟩),
  ([lit "listen_port", lit "port"], ⟨.listenPort, parseSigned (fun _ => true) toPort⟩),
  ([lit "enable_ipv6", lit "ipv6"], ⟨.enableIpv6, parseFlag⟩),
  ([lit "max_connections", lit "max_conn"], ⟨.maxConnections, parseSigned (fun _ => true) id⟩),
  ([lit "stratum"], ⟨.stratum, parseSigned (fun n => 0 ≤ n && n ≤ 15) UInt8.ofInt⟩),
  ([lit "reference_clock", lit "ref_clock"], ⟨.referenceClock, parseText⟩),
  ([lit "reference_id", lit "ref_id"], ⟨.referenceId, parseText⟩),
  ([lit "upstream_servers", lit "servers"], ⟨.upstreamServers, parseItems⟩),
  ([lit "sync_interval"], ⟨.syncInterval, parseSigned (fun _ => true) id⟩),
  ([lit "timeout"], ⟨.timeout, parseSigned (fun _ => true) id⟩),
  ([lit "log_level", lit "loglevel"],
    ⟨.logLevel, parseSigned (fun n => 0 ≤ n && n ≤ 4) LogLevel.ofCode⟩),
  ([lit "log_file", lit "logfile"], ⟨.logFile, parseText⟩),
  ([lit "enable_console_logging", lit "console_log"], ⟨.enableConsoleLogging, parseFlag⟩),
  ([lit "enable_syslog", lit "syslog"], ⟨.enableSyslog, parseFlag⟩),
  ([lit "enable_authentication", lit "auth"], ⟨.enableAuthentication, parseFlag⟩),
  ([lit "authentication_key", lit "auth_key"], ⟨.authenticationKey, parseText⟩),
  ([lit "authentication_algorithm", lit "auth_algorithm"],
    ⟨.authenticationAlgorithm, parseAlgorithm⟩),
  ([lit "restrict_queries", lit "restrict"], ⟨.restrictQueries, parseFlag⟩),
  ([lit "enable_acl", lit "acl"], ⟨.enableAcl, parseFlag⟩),
  ([lit "allowed_clients", lit "allow"], ⟨.allowedClients, parseItems⟩),
  ([lit "denied_clients", lit "deny"], ⟨.deniedClients, parseItems⟩),
  ([lit "enable_rate_limiting", lit "rate_limit"], ⟨.enableRateLimiting, parseFlag⟩),
  ([lit "connection_rate_limit_per_minute", lit "conn_rate_limit"],
    ⟨.connectionRateLimitPerMinute, parseUnsigned (fun _ => true) UInt64.toUInt32⟩),
  ([lit "request_rate_limit_per_minute", lit "req_rate_limit"],
    ⟨.requestRateLimitPerMinute, parseUnsigned (fun _ => true) UInt64.toUInt32⟩),
  ([lit "enable_ddos_protection", lit "ddos_protection"], ⟨.enableDdosProtection, parseFlag⟩),
  ([lit "ddos_anomaly_threshold_per_second", lit "ddos_threshold"],
    ⟨.ddosAnomalyThresholdPerSecond, parseUnsigned (fun _ => true) UInt64.toUInt32⟩),
  ([lit "enable_tls", lit "tls"], ⟨.enableTls, parseFlag⟩),
  ([lit "enable_encrypted_channels", lit "encrypted_channels"],
    ⟨.enableEncryptedChannels, parseFlag⟩),
  ([lit "enable_certificate_validation", lit "cert_validation"],
    ⟨.enableCertificateValidation, parseFlag⟩),
  ([lit "enable_certificate_authentication", lit "cert_auth"],
    ⟨.enableCertificateAuthentication, parseFlag⟩),
  ([lit "tls_cert_file"], ⟨.tlsCertFile, parseText⟩),
  ([lit "tls_key_file"], ⟨.tlsKeyFile, parseText⟩),
  ([lit "tls_ca_file"], ⟨.tlsCaFile, parseText⟩),
  ([lit "worker_threads", lit "threads"],
    ⟨.workerThreads, parseUnsigned (fun n => 1 ≤ n && n ≤ 64) id⟩),
  ([lit "max_packet_size", lit "packet_size"],
    ⟨.maxPacketSize, parseUnsigned (fun n => 48 ≤ n && n ≤ 8192) id⟩),
  ([lit "enable_statistics", lit "stats"], ⟨.enableStatistics, parseFlag⟩),
  ([lit "stats_interval"], ⟨.statsInterval, parseSigned (fun _ => true) id⟩),
  ([lit "drift_file", lit "drift"], ⟨.driftFile, parseText⟩),
  ([lit "enable_drift_compensation", lit "drift_comp"], ⟨.enableDriftCompensation, parseFlag⟩),
  ([lit "leap_second_file", lit "leap_seconds"], ⟨.leapSecondFile, parseText⟩),
  ([lit "enable_leap_second_handling", lit "leap_handling"],
    ⟨.enableLeapSecondHandling, parseFlag⟩),
  ([lit "enable_automatic_failover", lit "auto_failover"], ⟨.enableAutomaticFailover, parseFlag⟩),
  ([lit "enable_self_healing", lit "self_healing"], ⟨.enableSelfHealing, parseFlag⟩),
  ([lit "enable_graceful_degradation", lit "graceful_degradation"],
    ⟨.enableGracefulDegradation, parseFlag⟩),
  ([lit "enable_state_persistence", lit "state_persistence"],
    ⟨.enableStatePersistence, parseFlag⟩),
  ([lit "state_file"], ⟨.stateFile, parseText⟩),
  ([lit "backup_config_file"], ⟨.backupConfigFile, parseText⟩),
  ([lit "service_restart_limit"],
    ⟨.serviceRestartLimit, parseUnsigned (fun _ => true) UInt64.toUInt32⟩),
  ([lit "upstream_selection_algorithm", lit "upstream_algorithm"],
    ⟨.upstreamSelectionAlgorithm, parseSelection⟩),
  ([lit "enable_upstream_load_balancing", lit "upstream_load_balancing"],
    ⟨.enableUpstreamLoadBalancing, parseFlag⟩),
  ([lit "enable_upstream_failover", lit "upstream_failover"],
    ⟨.enableUpstreamFailover, parseFlag⟩),
  ([lit "enable_dynamic_stratum_adjustment", lit "dynamic_stratum"],
    ⟨.enableDynamicStratumAdjustment, parseFlag⟩),
  ([lit "enable_reference_clock_support", lit "reference_clock_support"],
    ⟨.enableReferenceClockSupport, parseFlag⟩),
  ([lit "reference_clock_source"], ⟨.referenceClockSource, parseText⟩) ]

/-- The names of the chain the parsers do not know. -/
def unparsedNames : List Str := [
  lit "log_json", lit "json_logs", lit "log_max_size_bytes", lit "log_max_size",
  lit "log_max_files", lit "authentication_keys", lit "auth_keys", lit "degradation_mode" ]

/-- The names of the parsers' arms are made of small letters, digits and
underscores, and none is one of the others. -/
theorem parserNames_spec {entry : List Str × (f : Field) × (Str → Option f.Value)}
    (he : entry ∈ parserSettings) {name : Str} (hname : name ∈ entry.1) :
    (∀ c ∈ name, isNameChar c = true) ∧ name ∉ unparsedNames := by
  have hall : ∀ name ∈ parserSettings.flatMap (·.1),
      (name.all isNameChar && !unparsedNames.contains name) = true := by
    unfold parserSettings unparsedNames
    simp only [List.flatMap_cons, List.flatMap_nil, List.cons_append, List.nil_append]
    -- the characters of the literals, without decoding them
    repeat refine List.forall_mem_cons.mpr ⟨by (repeat rw [lit_ofList]); decide +kernel, ?_⟩
    exact List.forall_mem_nil _
  have hboth := hall name (List.mem_flatMap_of_mem he hname)
  rw [Bool.and_eq_true, Bool.not_eq_true', ← Bool.not_eq_true, List.contains_iff_mem] at hboth
  exact ⟨List.all_eq_true.mp hboth.1, hboth.2⟩

/-- parser.cpp:22–198. -/
def parseKeyValue (key value : Str) (c : NtpConfig) : Bool × NtpConfig :=
  match parserSettings.find? fun entry => entry.1.contains (lower key) with
  | none => (false, c)
  | some entry =>
    (true, ((entry.2.2 value).map fun v => configFields.set entry.2.1 v c).getD c)

/-- What an arm assigns. -/
def keyValueAssignments (key value : Str) : List Assignment :=
  match parserSettings.find? fun entry => entry.1.contains (lower key) with
  | none => []
  | some entry => ((entry.2.2 value).map fun v => ⟨entry.2.1, v⟩).toList

theorem parseKeyValue_snd (key value : Str) (c : NtpConfig) :
    (parseKeyValue key value c).2 = configFields.storeAll c (keyValueAssignments key value) := by
  unfold parseKeyValue keyValueAssignments
  cases parserSettings.find? fun entry => entry.1.contains (lower key) with
  | none => rfl
  | some entry =>
    dsimp only
    cases entry.2.2 value <;> rfl

/-! ## Lines -/

/-- The key and the value of a trimmed line, as a format reads them; `none` is a
line that is skipped. -/
abbrev LineReader := Str → Option (Str × Str)

/-- The two sides of a separator, trimmed. -/
def splitAt (separator : UInt8) (line : Str) : Option (Str × Str) :=
  (find line separator).map fun pos => (trim (line.take pos), trim (line.drop (pos + 1)))

/-- parser.cpp:280–292. -/
def iniLine : LineReader
  | [] => none
  | ch :: line =>
    if ch = '#'.toUInt8 ∨ ch = ';'.toUInt8 then none else splitAt '='.toUInt8 (ch :: line)

/-- The value without its quotes, and without a comma behind it
(parser.cpp:347–357). -/
def jsonValue (value : Str) : Str :=
  let value := stripQuotes value
  stripQuotes (if value.getLast? = some ','.toUInt8 then value.dropLast else value)

/-- parser.cpp:332–360. -/
def jsonLine : LineReader
  | [] => none
  | ch :: line =>
    if ch = '/'.toUInt8 ∨ ch = '*'.toUInt8 then none
    else (splitAt ':'.toUInt8 (ch :: line)).map fun kv => (stripQuotes kv.1, jsonValue kv.2)

/-- parser.cpp:400–412. -/
def yamlLine : LineReader
  | [] => none
  | ch :: line => if ch = '#'.toUInt8 then none else splitAt ':'.toUInt8 (ch :: line)

/-- One iteration of a parser's loop. -/
def parseLine (read : LineReader) (c : NtpConfig) (line : Str) : NtpConfig :=
  match read (trim line) with
  | none => c
  -- the verdict of the chain is ignored
  | some (key, value) => (parseKeyValue key value c).2

/-- What a line assigns under a format. -/
def parserLineAssignments (read : LineReader) (line : Str) : List Assignment :=
  match read (trim line) with
  | none => []
  | some (key, value) => keyValueAssignments key value

/-- A parser's `parseFile`; `none` is a file that cannot be opened. -/
def parseFileWith (read : LineReader) (file : Option Str) (c : NtpConfig) : Bool × NtpConfig :=
  match file with
  | none => (false, c)
  | some content => (true, (getlines '\n'.toUInt8 content).foldl (parseLine read) c)

/-- What the lines of a file assign under a format. -/
def formatAssignments (read : LineReader) (content : Str) : List Assignment :=
  (getlines '\n'.toUInt8 content).flatMap (parserLineAssignments read)

theorem parseLine_eq (read : LineReader) (c : NtpConfig) (line : Str) :
    parseLine read c line = configFields.storeAll c (parserLineAssignments read line) := by
  unfold parseLine parserLineAssignments
  cases read (trim line) with
  | none => rfl
  | some kv => exact parseKeyValue_snd kv.1 kv.2 c

/-- A parser carries out the assignments of its lines. -/
theorem parseFileWith_some (read : LineReader) (content : Str) (c : NtpConfig) :
    parseFileWith read (some content) c
      = (true, configFields.storeAll c (formatAssignments read content)) := by
  rw [parseFileWith, foldl_eq_storeAll (parseLine_eq read)]
  rfl

/-! ## The factory -/

/-- Every line that settles a field, as `key=value` or in the format, is matched in the other
notation: by another line that settles the field there with the same value, or by there being
no line for the field, where the value is the starting one. -/
def SettingsMatched (read : LineReader) (content : Str) (c : NtpConfig) : Prop :=
  ∀ f, f ≠ .lastConfigFile →
    Matched lineAssignments (parserLineAssignments read) (getlines '\n'.toUInt8 content) f
        (c.field f) ∧
      Matched (parserLineAssignments read) lineAssignments (getlines '\n'.toUInt8 content) f
        (c.field f)

/-- A file that is written in its own format follows it exactly when its settings are those
there were. -/
theorem settingsMatched_iff_of_none_taken {read : LineReader} {content : Str}
    (h : ∀ line ∈ getlines '\n'.toUInt8 content, lineAssignments line = []) (c : NtpConfig) :
    SettingsMatched read content c ↔ ∀ f, f ≠ .lastConfigFile → ∀ line v,
      Settles (parserLineAssignments read) (getlines '\n'.toUInt8 content) line f v →
        v = c.field f := by
  have hnone : ∀ f, ∀ line ∈ getlines '\n'.toUInt8 content,
      last f (lineAssignments line) = none := fun f line hline => by rw [h line hline, last_nil]
  have hunsettled : ∀ {line f v},
      ¬Settles lineAssignments (getlines '\n'.toUInt8 content) line f v := by
    intro line f v hsettles
    have hlast := exists_settles_iff.mp ⟨line, hsettles⟩
    rw [last_flatMap_eq_none_iff.mpr (hnone f)] at hlast
    cases hlast
  refine forall_congr' fun f => imp_congr_right fun _ => ?_
  constructor
  · rintro ⟨-, hmatched⟩ line v hsettles
    rcases hmatched line v hsettles with ⟨other, -, hother⟩ | ⟨-, hstart⟩
    · exact absurd hother hunsettled
    · exact hstart
  · exact fun hstart => ⟨fun line v hsettles => absurd hsettles hunsettled,
      fun line v hsettles => .inr ⟨hnone f, hstart line v hsettles⟩⟩

end SimpleNtpd
