import SimpleNtpd.Config.Loader
import SimpleNtpd.Lib.Assignments

/-!
# The configuration as a record of fields

Every source of the configuration (the chain of arms, the environment, the
options of the command line) stores values in single fields of `NtpConfig`. The
fields have names here, so that a source is a list of assignments and one lemma
says what is left in a field, whatever the sources and their order.

The chain and the environment are tables of functions on configurations. The
tables of fields next to them say where each entry stores, and `settings_storesIn`
and `environment_stores` that it stores there and nowhere else.
-/

namespace SimpleNtpd

open Cpp Assignments

/-! ## Fields -/

/-- The fields of `NtpConfig`. -/
inductive Field where
  | listenAddress | listenPort | enableIpv6 | maxConnections | stratum | referenceId
  | referenceClock | upstreamServers | syncInterval | timeout | logFile | logLevel
  | enableConsoleLogging | enableSyslog | logJson | logMaxSizeBytes | logMaxFiles
  | enableAuthentication | authenticationKey | authenticationAlgorithm | authenticationKeys
  | restrictQueries | allowedClients | deniedClients | enableAcl | enableRateLimiting
  | connectionRateLimitPerMinute | requestRateLimitPerMinute | enableDdosProtection
  | ddosAnomalyThresholdPerSecond | enableEncryptedChannels | enableCertificateValidation
  | enableCertificateAuthentication | enableTls | tlsCertFile | tlsKeyFile | tlsCaFile
  | workerThreads | maxPacketSize | enableStatistics | statsInterval | driftFile
  | enableDriftCompensation | leapSecondFile | enableLeapSecondHandling | enableAutomaticFailover
  | enableSelfHealing | enableGracefulDegradation | degradationMode | enableStatePersistence
  | stateFile | backupConfigFile | serviceRestartLimit | upstreamSelectionAlgorithm
  | enableUpstreamLoadBalancing | enableUpstreamFailover | enableDynamicStratumAdjustment
  | enableReferenceClockSupport | referenceClockSource | lastConfigFile
  deriving DecidableEq

/-- What a field holds. -/
def Field.Value : Field → Type
  | .listenAddress | .referenceId | .referenceClock | .logFile | .authenticationKey
  | .tlsCertFile | .tlsKeyFile | .tlsCaFile | .driftFile | .leapSecondFile | .stateFile
  | .backupConfigFile | .referenceClockSource | .lastConfigFile => Str
  | .listenPort => UInt16
  | .enableIpv6 | .enableConsoleLogging | .enableSyslog | .logJson | .enableAuthentication
  | .restrictQueries | .enableAcl | .enableRateLimiting | .enableDdosProtection
  | .enableEncryptedChannels | .enableCertificateValidation | .enableCertificateAuthentication
  | .enableTls | .enableStatistics | .enableDriftCompensation | .enableLeapSecondHandling
  | .enableAutomaticFailover | .enableSelfHealing | .enableGracefulDegradation
  | .enableStatePersistence | .enableUpstreamLoadBalancing | .enableUpstreamFailover
  | .enableDynamicStratumAdjustment | .enableReferenceClockSupport => Bool
  | .maxConnections | .syncInterval | .timeout | .statsInterval => Int
  | .stratum => UInt8
  | .upstreamServers | .allowedClients | .deniedClients => List Str
  | .logLevel => LogLevel
  | .logMaxSizeBytes | .workerThreads | .maxPacketSize => UInt64
  | .logMaxFiles | .connectionRateLimitPerMinute | .requestRateLimitPerMinute
  | .ddosAnomalyThresholdPerSecond | .serviceRestartLimit => UInt32
  | .authenticationAlgorithm => AuthAlgorithm
  | .authenticationKeys => AList fun _ : UInt32 => Str
  | .degradationMode => DegradationMode
  | .upstreamSelectionAlgorithm => UpstreamSelectionAlgorithm

namespace NtpConfig

/-- What a field of a configuration holds. -/
def field (c : NtpConfig) : (f : Field) → f.Value
  | .listenAddress => c.listenAddress
  | .listenPort => c.listenPort
  | .enableIpv6 => c.enableIpv6
  | .maxConnections => c.maxConnections
  | .stratum => c.stratum
  | .referenceId => c.referenceId
  | .referenceClock => c.referenceClock
  | .upstreamServers => c.upstreamServers
  | .syncInterval => c.syncInterval
  | .timeout => c.timeout
  | .logFile => c.logFile
  | .logLevel => c.logLevel
  | .enableConsoleLogging => c.enableConsoleLogging
  | .enableSyslog => c.enableSyslog
  | .logJson => c.logJson
  | .logMaxSizeBytes => c.logMaxSizeBytes
  | .logMaxFiles => c.logMaxFiles
  | .enableAuthentication => c.enableAuthentication
  | .authenticationKey => c.authenticationKey
  | .authenticationAlgorithm => c.authenticationAlgorithm
  | .authenticationKeys => c.authenticationKeys
  | .restrictQueries => c.restrictQueries
  | .allowedClients => c.allowedClients
  | .deniedClients => c.deniedClients
  | .enableAcl => c.enableAcl
  | .enableRateLimiting => c.enableRateLimiting
  | .connectionRateLimitPerMinute => c.connectionRateLimitPerMinute
  | .requestRateLimitPerMinute => c.requestRateLimitPerMinute
  | .enableDdosProtection => c.enableDdosProtection
  | .ddosAnomalyThresholdPerSecond => c.ddosAnomalyThresholdPerSecond
  | .enableEncryptedChannels => c.enableEncryptedChannels
  | .enableCertificateValidation => c.enableCertificateValidation
  | .enableCertificateAuthentication => c.enableCertificateAuthentication
  | .enableTls => c.enableTls
  | .tlsCertFile => c.tlsCertFile
  | .tlsKeyFile => c.tlsKeyFile
  | .tlsCaFile => c.tlsCaFile
  | .workerThreads => c.workerThreads
  | .maxPacketSize => c.maxPacketSize
  | .enableStatistics => c.enableStatistics
  | .statsInterval => c.statsInterval
  | .driftFile => c.driftFile
  | .enableDriftCompensation => c.enableDriftCompensation
  | .leapSecondFile => c.leapSecondFile
  | .enableLeapSecondHandling => c.enableLeapSecondHandling
  | .enableAutomaticFailover => c.enableAutomaticFailover
  | .enableSelfHealing => c.enableSelfHealing
  | .enableGracefulDegradation => c.enableGracefulDegradation
  | .degradationMode => c.degradationMode
  | .enableStatePersistence => c.enableStatePersistence
  | .stateFile => c.stateFile
  | .backupConfigFile => c.backupConfigFile
  | .serviceRestartLimit => c.serviceRestartLimit
  | .upstreamSelectionAlgorithm => c.upstreamSelectionAlgorithm
  | .enableUpstreamLoadBalancing => c.enableUpstreamLoadBalancing
  | .enableUpstreamFailover => c.enableUpstreamFailover
  | .enableDynamicStratumAdjustment => c.enableDynamicStratumAdjustment
  | .enableReferenceClockSupport => c.enableReferenceClockSupport
  | .referenceClockSource => c.referenceClockSource
  | .lastConfigFile => c.lastConfigFile

/-- The configuration with the given values. -/
def ofFields (g : (f : Field) → f.Value) : NtpConfig where
  listenAddress := g .listenAddress
  listenPort := g .listenPort
  enableIpv6 := g .enableIpv6
  maxConnections := g .maxConnections
  stratum := g .stratum
  referenceId := g .referenceId
  referenceClock := g .referenceClock
  upstreamServers := g .upstreamServers
  syncInterval := g .syncInterval
  timeout := g .timeout
  logFile := g .logFile
  logLevel := g .logLevel
  enableConsoleLogging := g .enableConsoleLogging
  enableSyslog := g .enableSyslog
  logJson := g .logJson
  logMaxSizeBytes := g .logMaxSizeBytes
  logMaxFiles := g .logMaxFiles
  enableAuthentication := g .enableAuthentication
  authenticationKey := g .authenticationKey
  authenticationAlgorithm := g .authenticationAlgorithm
  authenticationKeys := g .authenticationKeys
  restrictQueries := g .restrictQueries
  allowedClients := g .allowedClients
  deniedClients := g .deniedClients
  enableAcl := g .enableAcl
  enableRateLimiting := g .enableRateLimiting
  connectionRateLimitPerMinute := g .connectionRateLimitPerMinute
  requestRateLimitPerMinute := g .requestRateLimitPerMinute
  enableDdosProtection := g .enableDdosProtection
  ddosAnomalyThresholdPerSecond := g .ddosAnomalyThresholdPerSecond
  enableEncryptedChannels := g .enableEncryptedChannels
  enableCertificateValidation := g .enableCertificateValidation
  enableCertificateAuthentication := g .enableCertificateAuthentication
  enableTls := g .enableTls
  tlsCertFile := g .tlsCertFile
  tlsKeyFile := g .tlsKeyFile
  tlsCaFile := g .tlsCaFile
  workerThreads := g .workerThreads
  maxPacketSize := g .maxPacketSize
  enableStatistics := g .enableStatistics
  statsInterval := g .statsInterval
  driftFile := g .driftFile
  enableDriftCompensation := g .enableDriftCompensation
  leapSecondFile := g .leapSecondFile
  enableLeapSecondHandling := g .enableLeapSecondHandling
  enableAutomaticFailover := g .enableAutomaticFailover
  enableSelfHealing := g .enableSelfHealing
  enableGracefulDegradation := g .enableGracefulDegradation
  degradationMode := g .degradationMode
  enableStatePersistence := g .enableStatePersistence
  stateFile := g .stateFile
  backupConfigFile := g .backupConfigFile
  serviceRestartLimit := g .serviceRestartLimit
  upstreamSelectionAlgorithm := g .upstreamSelectionAlgorithm
  enableUpstreamLoadBalancing := g .enableUpstreamLoadBalancing
  enableUpstreamFailover := g .enableUpstreamFailover
  enableDynamicStratumAdjustment := g .enableDynamicStratumAdjustment
  enableReferenceClockSupport := g .enableReferenceClockSupport
  referenceClockSource := g .referenceClockSource
  lastConfigFile := g .lastConfigFile

theorem field_ofFields (g : (f : Field) → f.Value) : (ofFields g).field = g := by
  funext f
  cases f <;> rfl

theorem field_injective : Function.Injective field := by
  intro c c' h
  show ofFields c.field = ofFields c'.field
  rw [h]

end NtpConfig

/-- A configuration is a record of its fields. -/
def configFields : Fields NtpConfig Field.Value where
  get := NtpConfig.field
  set f v c := .ofFields (Function.update c.field f v)
  get_set _ _ _ := NtpConfig.field_ofFields _
  get_injective := NtpConfig.field_injective

/-- A value for a field. -/
abbrev Assignment := Sigma Field.Value

/-- A function that stores the same value in one field of every configuration;
the value is what the defaults hold there afterwards. -/
def Stores (f : Field) (set : NtpConfig → NtpConfig) : Prop :=
  ∀ c, set c = configFields.set f ((set .defaults).field f) c

/-- The assignment such a function carries out. -/
def assignment (f : Field) (set : NtpConfig → NtpConfig) : Assignment :=
  ⟨f, (set .defaults).field f⟩

theorem Stores.eq_store {f : Field} {set : NtpConfig → NtpConfig} (h : Stores f set)
    (c : NtpConfig) : set c = configFields.store c (assignment f set) := h c

/-! ## The chain of arms -/

/-- The field each arm stores in, in the order of `settings`. -/
def settingFields : List Field := [
  .listenAddress, .listenPort, .enableIpv6, .maxConnections, .stratum, .referenceClock,
  .referenceId, .upstreamServers, .syncInterval, .timeout, .logLevel, .logFile,
  .enableConsoleLogging, .enableSyslog, .logJson, .logMaxSizeBytes, .logMaxFiles,
  .enableAuthentication, .authenticationKey, .authenticationAlgorithm, .authenticationKeys,
  .restrictQueries, .enableAcl, .allowedClients, .deniedClients, .enableRateLimiting,
  .connectionRateLimitPerMinute, .requestRateLimitPerMinute, .enableDdosProtection,
  .ddosAnomalyThresholdPerSecond, .enableTls, .enableEncryptedChannels,
  .enableCertificateValidation, .enableCertificateAuthentication, .tlsCertFile, .tlsKeyFile,
  .tlsCaFile, .workerThreads, .maxPacketSize, .enableStatistics, .statsInterval, .driftFile,
  .enableDriftCompensation, .leapSecondFile, .enableLeapSecondHandling, .enableAutomaticFailover,
  .enableSelfHealing, .enableGracefulDegradation, .degradationMode, .enableStatePersistence,
  .stateFile, .backupConfigFile, .serviceRestartLimit, .upstreamSelectionAlgorithm,
  .enableUpstreamLoadBalancing, .enableUpstreamFailover, .enableDynamicStratumAdjustment,
  .enableReferenceClockSupport, .referenceClockSource ]

/-- A setting and the field it stores in. -/
structure StoresIn (s : Setting) (f : Field) : Prop where
  stores : ∀ v, Stores f (s.set v)
  /-- Storing what is there changes nothing. -/
  set_get : ∀ c, s.set (s.get c) c = c

/-- Every arm stores in its field. -/
theorem settings_storesIn :
    List.Forall₂ (fun entry f => StoresIn entry.2 f) settings settingFields := by
  unfold settings settingFields
  repeat refine .cons ⟨fun v c => rfl, fun c => rfl⟩ ?_
  exact .nil

/-- What storing a value text under a key assigns: at most one value. -/
def settingAssignments (key value : Str) : List Assignment :=
  match (settings.zip settingFields).find? fun e => e.1.1.contains (lower key) with
  | none => []
  | some e => ((e.1.2.stored value).map fun v => assignment e.2 (e.1.2.set v)).toList

/-- The arm a key selects, found with its field. -/
theorem findSetting_eq (key : Str) :
    findSetting key
      = ((settings.zip settingFields).find? fun e => e.1.1.contains (lower key)).map (·.1.2) := by
  have hmap : settings = (settings.zip settingFields).map (·.1) :=
    (List.map_fst_zip (Nat.le_of_eq settings_storesIn.length_eq)).symm
  rw [findSetting]
  conv_lhs => rw [hmap]
  rw [List.find?_map, Option.map_map]
  rfl

/-- The chain carries out these assignments. -/
theorem NtpConfig.parseCommandLineArg_snd (c : NtpConfig) (key value : Str) :
    (c.parseCommandLineArg key value).2
      = configFields.storeAll c (settingAssignments key value) := by
  have hfind := findSetting_eq key
  unfold settingAssignments
  cases he : (settings.zip settingFields).find? fun e => e.1.1.contains (lower key) with
  | none =>
    rw [parseCommandLineArg_of_none (by rw [hfind, he]; rfl)]
    rfl
  | some e =>
    rw [parseCommandLineArg_of_some (by rw [hfind, he]; rfl), Setting.apply_snd]
    dsimp only
    cases hv : e.1.2.stored value with
    | none => rfl
    | some v =>
      have hstores := (List.forall₂_iff_zip.mp settings_storesIn).2 (List.mem_of_find?_eq_some he)
      exact (hstores.stores v).eq_store c

/-! ## The environment -/

/-- When an override takes a text: always, or when the number converts. -/
inductive Accepts where
  | any | stoi | stoll | stoull

/-- Whether the text is taken. -/
def Accepts.holds : Accepts → Str → Bool
  | any, _ => true
  | stoi, value => (Cpp.stoi value).isOk
  | stoll, value => (Cpp.stoll value).isOk
  | stoull, value => (Cpp.stoull value).isOk

/-- The field each override stores in and the texts it takes, in the order of
`environmentSettings`. -/
def environmentFields : List (Field × Accepts) := [
  (.listenAddress, .any), (.listenPort, .stoull), (.maxConnections, .stoll),
  (.workerThreads, .stoull), (.maxPacketSize, .stoull), (.referenceId, .any),
  (.referenceClock, .any), (.enableStatistics, .any), (.statsInterval, .stoll),
  (.syncInterval, .stoll), (.timeout, .stoll), (.logFile, .any), (.logLevel, .stoi),
  (.logJson, .any), (.logMaxSizeBytes, .stoull), (.logMaxFiles, .stoull), (.enableSyslog, .any),
  (.enableConsoleLogging, .any), (.enableAuthentication, .any), (.authenticationKey, .any),
  (.authenticationAlgorithm, .stoi), (.enableAcl, .any), (.restrictQueries, .any),
  (.enableRateLimiting, .any), (.connectionRateLimitPerMinute, .stoull),
  (.requestRateLimitPerMinute, .stoull), (.enableDdosProtection, .any),
  (.ddosAnomalyThresholdPerSecond, .stoull), (.enableTls, .any),
  (.enableEncryptedChannels, .any), (.enableCertificateValidation, .any),
  (.enableCertificateAuthentication, .any), (.tlsCertFile, .any), (.tlsKeyFile, .any),
  (.tlsCaFile, .any), (.enableLeapSecondHandling, .any), (.leapSecondFile, .any),
  (.enableAutomaticFailover, .any), (.enableSelfHealing, .any),
  (.enableGracefulDegradation, .any), (.degradationMode, .stoi), (.enableStatePersistence, .any),
  (.stateFile, .any), (.backupConfigFile, .any), (.serviceRestartLimit, .stoull),
  (.upstreamSelectionAlgorithm, .stoi), (.enableUpstreamLoadBalancing, .any),
  (.enableUpstreamFailover, .any), (.enableDynamicStratumAdjustment, .any),
  (.enableReferenceClockSupport, .any), (.referenceClockSource, .any) ]

/-- An override stores in a field the texts it takes, and ignores the others. -/
structure Overrides (override : Str → NtpConfig → NtpConfig) (target : Field × Accepts) : Prop where
  taken : ∀ value, target.2.holds value = true → Stores target.1 (override value)
  ignored : ∀ value, target.2.holds value = false → override value = id

theorem Overrides.string {f : Field} {set : Str → NtpConfig → NtpConfig}
    (h : ∀ v, Stores f (set v)) : Overrides (envString set) (f, .any) :=
  ⟨fun value _ => h value, fun _ hfalse => by cases hfalse⟩

theorem Overrides.bool {f : Field} {set : Bool → NtpConfig → NtpConfig}
    (h : ∀ v, Stores f (set v)) : Overrides (envBool set) (f, .any) :=
  ⟨fun _ _ => h _, fun _ hfalse => by cases hfalse⟩

/-- A number is stored where it converts. -/
theorem Overrides.int {α β : Type} {f : Field} {accepts : Accepts} {convert : Str → Except Exn α}
    {cast : α → β} {set : β → NtpConfig → NtpConfig} (h : ∀ v, Stores f (set v))
    (hconvert : ∀ value, accepts.holds value = (convert value).isOk) :
    Overrides (envInt convert cast set) (f, accepts) := by
  constructor
  · intro value hholds
    rw [hconvert] at hholds
    unfold envInt
    cases hn : convert value with
    | ok n => exact h (cast n)
    | error e =>
      rw [hn] at hholds
      cases hholds
  · intro value hholds
    rw [hconvert] at hholds
    unfold envInt
    cases hn : convert value with
    | ok n =>
      rw [hn] at hholds
      cases hholds
    | error e => rfl

/-- An override stores in its field. -/
theorem environment_stores :
    List.Forall₂ (fun entry target => Overrides entry.2 target)
      environmentSettings environmentFields := by
  unfold environmentSettings environmentFields
  repeat
    refine .cons ?_ ?_
    · dsimp only
      first
      | exact .string fun v c => rfl
      | exact .bool fun v c => rfl
      | exact .int (fun v c => rfl) fun value => rfl
  exact .nil

/-- What the environment assigns. -/
def environmentAssignments (getenv : Str → Option Str) : List Assignment :=
  (environmentSettings.zip environmentFields).flatMap fun e =>
    match getenv e.1.1 with
    | none => []
    | some value => if e.2.2.holds value then [assignment e.2.1 (e.1.2 value)] else []

/-- The overrides carry out these assignments; induction on the two tables. -/
theorem NtpConfig.applyEnvironmentOverrides_eq (getenv : Str → Option Str) (c : NtpConfig) :
    applyEnvironmentOverrides getenv c
      = configFields.storeAll c (environmentAssignments getenv) := by
  unfold applyEnvironmentOverrides environmentAssignments
  generalize environmentSettings = entries, environmentFields = targets,
    environment_stores = hstores
  induction hstores generalizing c with
  | nil => rfl
  | @cons entry target entries targets hentry _ ih =>
    rw [List.foldl_cons, List.zip_cons_cons, List.flatMap_cons, Fields.storeAll_append, ih]
    congr 1
    dsimp only
    cases getenv entry.1 with
    | none => rfl
    | some value =>
      show entry.2 value c = configFields.storeAll c
        (if target.2.holds value then [assignment target.1 (entry.2 value)] else [])
      cases hholds : target.2.holds value with
      | true => exact (hentry.taken value hholds).eq_store c
      | false =>
        rw [hentry.ignored value hholds]
        rfl

/-- The environment assigns to its fields only. -/
theorem field_mem_of_environment {getenv : Str → Option Str} {a : Assignment}
    (h : a ∈ environmentAssignments getenv) : a.1 ∈ environmentFields.map (·.1) := by
  obtain ⟨e, he, ha⟩ := List.mem_flatMap.mp h
  have hfield : a.1 = e.2.1 := by
    cases hvalue : getenv e.1.1 with
    | none =>
      rw [hvalue] at ha
      cases ha
    | some value =>
      rw [hvalue] at ha
      dsimp only at ha
      split at ha
      · rw [List.mem_singleton.mp ha]
        rfl
      · cases ha
  rw [hfield]
  exact List.mem_map_of_mem (List.of_mem_zip he).2

/-! ## The file -/

/-- What a line that is not skipped assigns. -/
def settingLineAssignments (line : Str) : List Assignment :=
  let line := trimRight (trimLeft line)
  if isSectionHeader line then []
  else match find line '='.toUInt8 with
    | none => []
    | some pos => settingAssignments (line.take pos) (stripQuotes (line.drop (pos + 1)))

/-- What a line of the file assigns. -/
def lineAssignments (line : Str) : List Assignment :=
  match line with
  | [] => []
  | ch :: _ =>
    if ch = '#'.toUInt8 ∨ ch = ';'.toUInt8 then [] else settingLineAssignments line

theorem NtpConfig.readSetting_eq (c : NtpConfig) (line : Str) :
    c.readSetting line = configFields.storeAll c (settingLineAssignments line) := by
  unfold readSetting settingLineAssignments
  dsimp only
  cases isSectionHeader (trimRight (trimLeft line)) with
  | true => rfl
  | false =>
    cases find (trimRight (trimLeft line)) '='.toUInt8 with
    | none => rfl
    | some pos => exact parseCommandLineArg_snd c _ _

/-- A line carries out its assignments. -/
theorem NtpConfig.readLine_eq (c : NtpConfig) (line : Str) :
    c.readLine line = configFields.storeAll c (lineAssignments line) := by
  cases line with
  | nil => rfl
  | cons ch line =>
    unfold readLine lineAssignments
    by_cases hcomment : ch = '#'.toUInt8 ∨ ch = ';'.toUInt8
    · simp only [if_pos hcomment, Fields.storeAll_nil]
    · simp only [if_neg hcomment]
      exact c.readSetting_eq _

/-- What the lines of a file assign. -/
def fileAssignments (content : Str) : List Assignment :=
  (getlines '
'.toUInt8 content).flatMap lineAssignments

/-- Reading lines one after the other carries out the assignments of all. -/
theorem foldl_eq_storeAll {read : NtpConfig → Str → NtpConfig} {assigned : Str → List Assignment}
    (h : ∀ c line, read c line = configFields.storeAll c (assigned line)) (lines : List Str)
    (c : NtpConfig) :
    lines.foldl read c = configFields.storeAll c (lines.flatMap assigned) := by
  induction lines generalizing c with
  | nil => rfl
  | cons line lines ih =>
    rw [List.foldl_cons, List.flatMap_cons, Fields.storeAll_append, ← h, ih]

/-- A file carries out the assignments of its lines. -/
theorem NtpConfig.parseConfigFile_some (c : NtpConfig) (content : Str) :
    c.parseConfigFile (some content)
      = (true, configFields.storeAll c (fileAssignments content)) := by
  rw [parseConfigFile, foldl_eq_storeAll readLine_eq]
  rfl

/-- What loading a file assigns: what its lines say, the path, and what the
environment says. -/
def loadAssignments (getenv : Str → Option Str) (configFile content : Str) : List Assignment :=
  fileAssignments content ++ ⟨.lastConfigFile, configFile⟩ :: environmentAssignments getenv

/-- A load gives a field without an override what the file gives it. -/
theorem last_load_of_file {f : Field} (henv : f ∉ environmentFields.map (·.1))
    (hpath : f ≠ .lastConfigFile) (getenv : Str → Option Str) (configFile content : Str) :
    last f (loadAssignments getenv configFile content) = last f (fileAssignments content) := by
  have hnone : last f
      (⟨.lastConfigFile, configFile⟩ :: environmentAssignments getenv : List Assignment) = none := by
    rw [last_eq_none_iff]
    rintro a ha rfl
    rcases List.mem_cons.mp ha with rfl | hmem
    · exact hpath rfl
    · exact henv (field_mem_of_environment hmem)
  rw [loadAssignments, last_append, hnone, Option.none_or]

/-- A field that one load leaves alone gets from another, of the same path in the
same environment, what that file gives it. -/
theorem last_load_of_none {f : Field} {getenv : Str → Option Str} {configFile content : Str}
    (h : last f (loadAssignments getenv configFile content) = none) (content' : Str) :
    last f (loadAssignments getenv configFile content') = last f (fileAssignments content') := by
  rw [loadAssignments, last_append] at h ⊢
  rw [(Option.or_eq_none_iff.mp h).1, Option.none_or]

/-- The path is recorded. -/
theorem last_load_lastConfigFile (getenv : Str → Option Str) (configFile content : Str) :
    last Field.lastConfigFile (loadAssignments getenv configFile content) = some configFile := by
  have henv : last Field.lastConfigFile (environmentAssignments getenv) = none :=
    last_eq_none_iff.mpr fun a ha hf => absurd (hf ▸ field_mem_of_environment ha) (by decide)
  rw [loadAssignments, last_append]
  show ((last Field.lastConfigFile (environmentAssignments getenv)).or
    (valueAt Field.lastConfigFile ⟨.lastConfigFile, configFile⟩)).or _ = _
  rw [henv]
  rfl

/-- **A load is a list of assignments.** -/
theorem NtpConfig.loadFromFile_some (getenv : Str → Option Str) (configFile content : Str)
    (c : NtpConfig) :
    loadFromFile getenv configFile (some content) c
      = (true, configFields.storeAll c (loadAssignments getenv configFile content)) := by
  rw [loadFromFile, parseConfigFile_some, loadAssignments, Fields.storeAll_append,
    Fields.storeAll_cons, ← applyEnvironmentOverrides_eq]
  rfl

theorem NtpConfig.loadFromFile_none (getenv : Str → Option Str) (configFile : Str)
    (c : NtpConfig) : loadFromFile getenv configFile none c = (false, c) := rfl

end SimpleNtpd
