import SimpleNtpd.Config.Fields
import SimpleNtpd.Lib.Runs

/-!
# Enumerated settings

Four fields of the configuration are of an enumeration type, and the stratum is a number
up to 15. The arms of `NtpConfig::parseCommandLineArg` store declared values only: they
test the number, or choose among names. `NtpConfig::applyEnvironmentOverrides` casts any
integer a variable converts to, and the validator does not look at the four fields.

A configuration is loaded in steps, from files, from command lines and from the
environment, in any order (`LoadStep`). `Field.Declared` is what every step keeps, as
long as the four variables convert to codes of declared values or to nothing
(`EnvDeclared`); `load_declared_iff` says that this is exact.
-/

namespace SimpleNtpd

open Cpp Assignments

/-! ## Loading -/

namespace NtpConfig

/-- One argument: `--key=value` is stored, anything else is passed over
(config.cpp:104–113). -/
def readArgument (c : NtpConfig) (arg : Str) : NtpConfig :=
  if arg.take 2 = lit "--" then
    match find arg '='.toUInt8 with
    | none => c
    | some pos => (c.parseCommandLineArg ((arg.drop 2).take (pos - 2)) (arg.drop (pos + 1))).2
  else c

/-- Load the arguments behind the program's name (config.cpp:101–118). -/
def loadFromCommandLine (getenv : Str → Option Str) (argv : List Str) (c : NtpConfig) :
    Bool × NtpConfig :=
  (true, applyEnvironmentOverrides getenv ((argv.drop 1).foldl readArgument c))

end NtpConfig

/-- The ways to load a configuration, each with the environment it finds. -/
inductive LoadStep where
  | file (getenv : Str → Option Str) (configFile : Str) (file : Option Str)
  | commandLine (getenv : Str → Option Str) (argv : List Str)
  | environment (getenv : Str → Option Str)

/-- The configuration after a step. -/
def NtpConfig.load (c : NtpConfig) : LoadStep → NtpConfig
  | .file getenv configFile file => (loadFromFile getenv configFile file c).2
  | .commandLine getenv argv => (loadFromCommandLine getenv argv c).2
  | .environment getenv => applyEnvironmentOverrides getenv c

/-! ## Declared values -/

/-- `enum class LogLevel` declares the value. -/
def LogLevel.Declared : LogLevel → Prop
  | other _ => False
  | _ => True

/-- `enum class AuthAlgorithm` declares the value. -/
def AuthAlgorithm.Declared : AuthAlgorithm → Prop
  | other _ => False
  | _ => True

/-- `enum class DegradationMode` declares the value. -/
def DegradationMode.Declared : DegradationMode → Prop
  | other _ => False
  | _ => True

/-- `enum class UpstreamSelectionAlgorithm` declares the value. -/
def UpstreamSelectionAlgorithm.Declared : UpstreamSelectionAlgorithm → Prop
  | other _ => False
  | _ => True

theorem LogLevel.declared_ofCode_iff (code : Int) :
    (ofCode code).Declared ↔ 0 ≤ code ∧ code < 5 := by
  unfold ofCode
  split_ifs
  all_goals first
    | exact iff_of_true trivial (by omega)
    | exact iff_of_false id (by omega)

theorem AuthAlgorithm.declared_ofCode_iff (code : Int) :
    (ofCode code).Declared ↔ 0 ≤ code ∧ code < 4 := by
  unfold ofCode
  split_ifs
  all_goals first
    | exact iff_of_true trivial (by omega)
    | exact iff_of_false id (by omega)

theorem DegradationMode.declared_ofCode_iff (code : Int) :
    (ofCode code).Declared ↔ 0 ≤ code ∧ code < 3 := by
  unfold ofCode
  split_ifs
  all_goals first
    | exact iff_of_true trivial (by omega)
    | exact iff_of_false id (by omega)

theorem UpstreamSelectionAlgorithm.declared_ofCode_iff (code : Int) :
    (ofCode code).Declared ↔ 0 ≤ code ∧ code < 3 := by
  unfold ofCode
  split_ifs
  all_goals first
    | exact iff_of_true trivial (by omega)
    | exact iff_of_false id (by omega)

/-- A field of an enumeration type, or the stratum, holds a declared value; of the
other fields nothing is asked. -/
def Field.Declared : (f : Field) → f.Value → Prop
  | .logLevel, v => LogLevel.Declared v
  | .authenticationAlgorithm, v => AuthAlgorithm.Declared v
  | .degradationMode, v => DegradationMode.Declared v
  | .upstreamSelectionAlgorithm, v => UpstreamSelectionAlgorithm.Declared v
  | .stratum, v => (show UInt8 from v) ≤ 15
  | _, _ => True

/-- All of them do. -/
structure NtpConfig.EnumsDeclared (c : NtpConfig) : Prop where
  logLevel : c.logLevel.Declared
  authenticationAlgorithm : c.authenticationAlgorithm.Declared
  degradationMode : c.degradationMode.Declared
  upstreamSelectionAlgorithm : c.upstreamSelectionAlgorithm.Declared
  stratum : c.stratum ≤ 15

theorem NtpConfig.enumsDeclared_iff (c : NtpConfig) :
    c.EnumsDeclared ↔ ∀ f, Field.Declared f (c.field f) := by
  constructor
  · intro h f
    cases f with
    | logLevel => exact h.logLevel
    | authenticationAlgorithm => exact h.authenticationAlgorithm
    | degradationMode => exact h.degradationMode
    | upstreamSelectionAlgorithm => exact h.upstreamSelectionAlgorithm
    | stratum => exact h.stratum
    | _ => trivial
  · exact fun h => ⟨h .logLevel, h .authenticationAlgorithm, h .degradationMode,
      h .upstreamSelectionAlgorithm, h .stratum⟩

/-! ## The arms -/

/-- A choice gives the default, or the value of one of its names. -/
theorem choose_mem {α : Type} (names : List (Str × α)) (default : α) (value : Str) :
    choose names default value ∈ default :: names.map (·.2) := by
  rw [choose]
  cases hfind : names.find? (·.1 == lower value) with
  | none => exact List.mem_cons_self
  | some entry =>
    exact List.mem_cons_of_mem _ (List.mem_map_of_mem (List.mem_of_find?_eq_some hfind))

/-- An arm stores declared values only. -/
def Setting.StoresDeclared (s : Setting) (f : Field) : Prop :=
  ∀ value v, s.stored value = some v → Field.Declared f (assignment f (s.set v)).2

section

variable {α : Type} [Nontrivial α] {get : NtpConfig → α} {set : α → NtpConfig → NtpConfig}
  {get_set : ∀ v c, get (set v c) = v}

/-- An arm that converts to `int` stores what its test lets through. -/
theorem stored_signed_inRange {inRange : Int → Bool} {f : Int → α} {value : Str} {v : α}
    (h : (Setting.of (.signed inRange f) get set get_set).stored value = some v) :
    ∃ n, inRange n = true ∧ v = f n := by
  change (Reading.ofExcept inRange f (stoi value)).stored = some v at h
  cases hn : stoi value with
  | error e =>
    rw [hn] at h
    cases h
  | ok n =>
    rw [hn, Reading.ofExcept] at h
    split at h
    · rename_i hrange
      exact ⟨n, hrange, (Option.some.inj h).symm⟩
    · cases h

/-- An arm that chooses stores the default or the value of a name. -/
theorem stored_choice_mem {names : List (Str × α)} {default : α}
    {names_char : ∀ p ∈ names, ∀ c ∈ p.1, isNameChar c = true} {P : α → Prop}
    (hP : ∀ a ∈ default :: names.map (·.2), P a) {value : Str} {v : α}
    (h : (Setting.of (.choice names default names_char) get set get_set).stored value = some v) :
    P v := by
  change some (choose names default value) = some v at h
  rw [← Option.some.inj h]
  exact hP _ (choose_mem names default value)

end

/-- **The arms store declared values.** -/
theorem settings_storeDeclared :
    List.Forall₂ (fun entry f => entry.2.StoresDeclared f) settings settingFields := by
  unfold settings settingFields
  repeat
    refine .cons (fun value v hv => ?_) ?_
    · first
      -- of most fields nothing is asked
      | exact trivial
      -- the arm tests the number
      | obtain ⟨n, hn, rfl⟩ := stored_signed_inRange hv
        rw [Bool.and_eq_true, decide_eq_true_iff, decide_eq_true_iff] at hn
        first
        | exact (LogLevel.declared_ofCode_iff n).mpr ⟨hn.1, by omega⟩
        | show UInt8.ofInt n ≤ 15
          rw [UInt8.le_iff_toNat_le, UInt8.ofInt, UInt8.toNat_ofNat']
          show _ ≤ 15
          omega
      -- the arm chooses among names
      | exact stored_choice_mem (P := AuthAlgorithm.Declared) (by simp [AuthAlgorithm.Declared]) hv
      | exact stored_choice_mem (P := DegradationMode.Declared) (by simp [DegradationMode.Declared]) hv
      | exact stored_choice_mem (P := UpstreamSelectionAlgorithm.Declared)
          (by simp [UpstreamSelectionAlgorithm.Declared]) hv
  exact .nil

/-! ## Files and arguments -/

/-- A key and a value text assign declared values. -/
theorem declared_of_setting {key value : Str} :
    ∀ a ∈ settingAssignments key value, Field.Declared a.1 a.2 := by
  intro a ha
  unfold settingAssignments at ha
  cases he : (settings.zip settingFields).find? fun e => e.1.1.contains (lower key) with
  | none =>
    rw [he] at ha
    cases ha
  | some e =>
    rw [he] at ha
    obtain ⟨v, hv, rfl⟩ := Option.map_eq_some_iff.mp (Option.mem_toList.mp ha)
    have hstores := (List.forall₂_iff_zip.mp settings_storeDeclared).2 (List.mem_of_find?_eq_some he)
    exact hstores value v hv

/-- A line of a file assigns declared values only. -/
theorem declared_of_line {line : Str} : ∀ a ∈ lineAssignments line, Field.Declared a.1 a.2 := by
  intro a ha
  unfold lineAssignments at ha
  cases line with
  | nil => cases ha
  | cons ch line =>
    dsimp only at ha
    split at ha
    · cases ha
    · unfold settingLineAssignments at ha
      dsimp only at ha
      split at ha
      · cases ha
      · split at ha
        · cases ha
        · exact declared_of_setting a ha

/-- What an argument assigns. -/
def argumentAssignments (arg : Str) : List Assignment :=
  if arg.take 2 = lit "--" then
    match find arg '='.toUInt8 with
    | none => []
    | some pos => settingAssignments ((arg.drop 2).take (pos - 2)) (arg.drop (pos + 1))
  else []

theorem NtpConfig.readArgument_eq (c : NtpConfig) (arg : Str) :
    c.readArgument arg = configFields.storeAll c (argumentAssignments arg) := by
  unfold readArgument argumentAssignments
  split
  · split
    · rfl
    · exact parseCommandLineArg_snd c _ _
  · rfl

theorem declared_of_argument {arg : Str} :
    ∀ a ∈ argumentAssignments arg, Field.Declared a.1 a.2 := by
  intro a ha
  unfold argumentAssignments at ha
  split at ha
  · split at ha
    · cases ha
    · exact declared_of_setting a ha
  · cases ha

/-! ## The environment -/

/-- How many codes of an enumeration are declared, for its fields that a variable is
cast for. -/
def Field.codes : Field → Option Int
  | .logLevel => some 5
  | .authenticationAlgorithm => some 4
  | .degradationMode | .upstreamSelectionAlgorithm => some 3
  | _ => none

/-- The variables that are cast, each with the number of codes. -/
def enumVariables : List (Str × Int) := [
  (lit "SIMPLE_NTPD_LOG_LEVEL", 5), (lit "SIMPLE_NTPD_AUTH_ALGORITHM", 4),
  (lit "SIMPLE_NTPD_DEGRADATION_MODE", 3), (lit "SIMPLE_NTPD_UPSTREAM_SELECTION_ALGORITHM", 3) ]

/-- Each of them is unset, converts to no integer, or to the code of a declared value. -/
def EnvDeclared (getenv : Str → Option Str) : Prop :=
  ∀ entry ∈ enumVariables, ∀ value code, getenv entry.1 = some value → stoi value = .ok code →
    0 ≤ code ∧ code < entry.2

/-- The enumerated variables are those of the enumerated fields. -/
theorem enumVariables_eq :
    ((environmentSettings.zip environmentFields).filterMap fun e =>
      e.2.1.codes.map fun count => (e.1.1, count)) = enumVariables := rfl

/-- A text that is cast for a field is the code of a declared value. -/
def CodeDeclared (f : Field) (value : Str) : Prop :=
  ∀ count, f.codes = some count → ∀ code, stoi value = .ok code → 0 ≤ code ∧ code < count

/-- An override stores a declared value exactly when its text is the code of one. -/
structure OverridesDeclared (override : Str → NtpConfig → NtpConfig) (target : Field × Accepts) :
    Prop where
  taken : ∀ value, target.2.holds value = true →
    (Field.Declared target.1 (assignment target.1 (override value)).2 ↔
      CodeDeclared target.1 value)
  ignored : ∀ value, target.2.holds value = false → CodeDeclared target.1 value

/-- Of a field of another type nothing is asked. -/
theorem OverridesDeclared.of_none {override : Str → NtpConfig → NtpConfig} {f : Field}
    {accepts : Accepts} (hcodes : f.codes = none) (hdeclared : ∀ v, Field.Declared f v) :
    OverridesDeclared override (f, accepts) := by
  have hcode (value : Str) : CodeDeclared f value := by
    intro count hcount
    rw [hcodes] at hcount
    cases hcount
  exact ⟨fun value _ => iff_of_true (hdeclared _) (hcode value), fun value _ => hcode value⟩

/-- A cast gives a declared value of its codes. -/
theorem OverridesDeclared.of_cast {α : Type} {f : Field} {cast : Int → α}
    {set : α → NtpConfig → NtpConfig} {count : Int} (hcodes : f.codes = some count)
    (hcast : ∀ code, Field.Declared f ((set (cast code) .defaults).field f) ↔
      0 ≤ code ∧ code < count) :
    OverridesDeclared (envInt stoi cast set) (f, .stoi) := by
  constructor
  · intro value hholds
    change (stoi value).isOk = true at hholds
    cases hcode : stoi value with
    | error e =>
      rw [hcode] at hholds
      cases hholds
    | ok code =>
      have hstore : envInt stoi cast set value = set (cast code) := by
        rw [envInt, hcode]
      show Field.Declared f ((envInt stoi cast set value .defaults).field f) ↔ _
      rw [hstore, hcast]
      constructor
      · intro hrange count' hcount' code' hcode'
        rw [hcodes] at hcount'
        rw [hcode] at hcode'
        cases hcount'
        cases hcode'
        exact hrange
      · exact fun hdeclared => hdeclared count hcodes code hcode
  · intro value hholds count' hcount' code hcode
    change (stoi value).isOk = false at hholds
    rw [hcode] at hholds
    cases hholds

/-- **The overrides.** -/
theorem environment_overridesDeclared :
    List.Forall₂ (fun entry target => OverridesDeclared entry.2 target)
      environmentSettings environmentFields := by
  unfold environmentSettings environmentFields
  repeat
    refine .cons ?_ ?_
    · dsimp only
      first
      | exact .of_none rfl fun _ => trivial
      | exact .of_cast rfl LogLevel.declared_ofCode_iff
      | exact .of_cast rfl AuthAlgorithm.declared_ofCode_iff
      | exact .of_cast rfl DegradationMode.declared_ofCode_iff
      | exact .of_cast rfl UpstreamSelectionAlgorithm.declared_ofCode_iff
  exact .nil

/-- What the environment assigns is declared exactly when its variables say so. -/
theorem environment_declared_iff (getenv : Str → Option Str) :
    (∀ a ∈ environmentAssignments getenv, Field.Declared a.1 a.2) ↔ EnvDeclared getenv := by
  have hrows : ∀ e ∈ environmentSettings.zip environmentFields, OverridesDeclared e.1.2 e.2 :=
    fun _ he => (List.forall₂_iff_zip.mp environment_overridesDeclared).2 he
  unfold EnvDeclared environmentAssignments
  rw [← enumVariables_eq]
  constructor
  · intro h entry hentry value code hvalue hcode
    obtain ⟨e, he, hmap⟩ := List.mem_filterMap.mp hentry
    obtain ⟨count, hcount, rfl⟩ := Option.map_eq_some_iff.mp hmap
    have hcoded : CodeDeclared e.2.1 value := by
      cases hholds : e.2.2.holds value with
      | false => exact (hrows e he).ignored value hholds
      | true =>
        refine ((hrows e he).taken value hholds).mp
          (h (assignment e.2.1 (e.1.2 value)) (List.mem_flatMap.mpr ⟨e, he, ?_⟩))
        dsimp only at hvalue
        rw [hvalue]
        simp only [hholds, if_true, List.mem_singleton]
    exact hcoded count hcount code hcode
  · intro h a ha
    obtain ⟨e, he, ha⟩ := List.mem_flatMap.mp ha
    cases hvalue : getenv e.1.1 with
    | none =>
      rw [hvalue] at ha
      cases ha
    | some value =>
      rw [hvalue] at ha
      dsimp only at ha
      split at ha
      · rename_i hholds
        rw [List.mem_singleton.mp ha]
        refine ((hrows e he).taken value hholds).mpr fun count hcount code hcode => ?_
        exact h (e.1.1, count) (List.mem_filterMap.mpr ⟨e, he, by rw [hcount]; rfl⟩) value code
          hvalue hcode
      · cases ha

/-- Each variable has a field of its own. -/
theorem environmentAssignments_nodup (getenv : Str → Option Str) :
    ((environmentAssignments getenv).map (·.1)).Nodup := by
  have hfields : ((environmentSettings.zip environmentFields).map (·.2.1)).Nodup := by decide
  refine hfields.sublist ?_
  unfold environmentAssignments
  generalize environmentSettings.zip environmentFields = entries
  induction entries with
  | nil => exact .slnil
  | cons e entries ih =>
    rw [List.flatMap_cons, List.map_append, List.map_cons]
    cases getenv e.1.1 with
    | none => exact ih.cons _
    | some value =>
      dsimp only
      split
      · exact ih.cons_cons _
      · exact ih.cons _

namespace NtpConfig

/-- From declared values the overrides lead to declared values exactly when their
variables say so. -/
theorem EnumsDeclared.applyEnvironmentOverrides_iff {c : NtpConfig} (h : c.EnumsDeclared)
    (getenv : Str → Option Str) :
    (applyEnvironmentOverrides getenv c).EnumsDeclared ↔ EnvDeclared getenv := by
  rw [enumsDeclared_iff, applyEnvironmentOverrides_eq, ← environment_declared_iff]
  exact configFields.forall_get_storeAll_iff ((enumsDeclared_iff c).mp h)
    (environmentAssignments_nodup getenv)

/-- Declared values are all that is assigned, so they are all that is left. -/
theorem EnumsDeclared.storeAll {c : NtpConfig} (h : c.EnumsDeclared) {as : List Assignment}
    (has : ∀ a ∈ as, Field.Declared a.1 a.2) : (configFields.storeAll c as).EnumsDeclared :=
  (enumsDeclared_iff _).mpr
    fun f => configFields.forall_get_storeAll ((enumsDeclared_iff c).mp h) has f

end NtpConfig

/-! ## Runs -/

/-- The environment a step applies says declared values; a file that cannot be opened
changes nothing. -/
def LoadStep.Declared : LoadStep → Prop
  | .file _ _ none => True
  | .file getenv _ (some _) => EnvDeclared getenv
  | .commandLine getenv _ => EnvDeclared getenv
  | .environment getenv => EnvDeclared getenv

namespace NtpConfig

/-- **One step** from declared values. -/
theorem load_declared_iff {c : NtpConfig} (h : c.EnumsDeclared) (e : LoadStep) :
    (c.load e).EnumsDeclared ↔ e.Declared := by
  cases e with
  | file getenv configFile file =>
    cases file with
    | none => exact iff_of_true h trivial
    | some content =>
      have hfile : (configFields.storeAll c
          (fileAssignments content ++ [⟨.lastConfigFile, configFile⟩])).EnumsDeclared := by
        refine h.storeAll fun a ha => ?_
        rcases List.mem_append.mp ha with hline | hpath
        · obtain ⟨line, -, hline⟩ := List.mem_flatMap.mp hline
          exact declared_of_line a hline
        · rw [List.mem_singleton.mp hpath]
          trivial
      show (loadFromFile getenv configFile (some content) c).2.EnumsDeclared ↔ EnvDeclared getenv
      rw [loadFromFile_some, loadAssignments, List.append_cons, Assignments.Fields.storeAll_append,
        ← applyEnvironmentOverrides_eq]
      exact hfile.applyEnvironmentOverrides_iff getenv
  | commandLine getenv argv =>
    have hargs : ((argv.drop 1).foldl readArgument c).EnumsDeclared := by
      rw [foldl_eq_storeAll readArgument_eq]
      refine h.storeAll fun a ha => ?_
      obtain ⟨arg, -, harg⟩ := List.mem_flatMap.mp ha
      exact declared_of_argument a harg
    exact hargs.applyEnvironmentOverrides_iff getenv
  | environment getenv => exact h.applyEnvironmentOverrides_iff getenv

theorem enumsDeclared_defaults : defaults.EnumsDeclared :=
  ⟨trivial, trivial, trivial, trivial, by decide⟩

/-- The values are declared, or the validator refuses the configuration. -/
def DeclaredOrRefused (c : NtpConfig) : Prop := c.EnumsDeclared ∨ c.validate = false

end NtpConfig

/-- **When enumerated settings stay in range.** For all files, command lines and
environments, loaded in any order from the defaults: the values are declared behind every
step exactly when every step finds an environment that says declared values; and in a
run of such steps every state has declared values or is refused. -/
theorem enumerated_settings_iff (steps : List LoadStep) :
    (Runs.Along NtpConfig.load (fun c e => (c.load e).EnumsDeclared) .defaults steps ↔
      ∀ e ∈ steps, e.Declared) ∧
    ((∀ e ∈ steps, e.Declared) → NtpConfig.defaults.DeclaredOrRefused ∧
      Runs.Along NtpConfig.load (fun c e => (c.load e).DeclaredOrRefused) .defaults steps) := by
  have hiff : Runs.Along NtpConfig.load (fun c e => (c.load e).EnumsDeclared) .defaults steps ↔
      ∀ e ∈ steps, e.Declared := by
    refine Runs.along_iff ?_ ?_ NtpConfig.enumsDeclared_defaults steps
    · exact fun {c e} h => NtpConfig.load_declared_iff h e
    · exact fun _ hstep => hstep
  exact ⟨hiff, fun hsteps => ⟨.inl NtpConfig.enumsDeclared_defaults,
    (hiff.mpr hsteps).imp fun _ _ => .inl⟩⟩

/-- An environment that sets one variable applies its override, and no other. -/
theorem NtpConfig.applyEnvironmentOverrides_single {getenv : Str → Option Str} {name value : Str}
    {override : Str → NtpConfig → NtpConfig} {before after : List (Str × (Str → NtpConfig → NtpConfig))}
    (hrows : environmentSettings = before ++ (name, override) :: after)
    (hvalue : getenv name = some value) (hothers : ∀ e ∈ before ++ after, getenv e.1 = none)
    (c : NtpConfig) : applyEnvironmentOverrides getenv c = override value c := by
  have hkept : ∀ rows : List (Str × (Str → NtpConfig → NtpConfig)),
      (∀ e ∈ rows, getenv e.1 = none) → ∀ c : NtpConfig,
        rows.foldl (fun c e => ((getenv e.1).map e.2).getD id c) c = c := by
    intro rows hrows
    induction rows with
    | nil => exact fun _ => rfl
    | cons e rows ih =>
      intro c
      rw [List.foldl_cons, hrows e List.mem_cons_self]
      exact ih (fun e he => hrows e (List.mem_cons_of_mem _ he)) c
  obtain ⟨hbefore, hafter⟩ := List.forall_mem_append.mp hothers
  rw [applyEnvironmentOverrides, hrows, List.foldl_append, List.foldl_cons, hkept before hbefore,
    hkept after hafter, hvalue]
  rfl

/-- An environment that names an algorithm nobody declares. -/
def strayAlgorithm (name : Str) : Option Str :=
  if name = lit "SIMPLE_NTPD_AUTH_ALGORITHM" then some (lit "7") else none

theorem strayAlgorithm_undeclared : ¬ EnvDeclared strayAlgorithm := by
  intro h
  have hrange := h (lit "SIMPLE_NTPD_AUTH_ALGORITHM", 4) (.tail _ (.head _)) (lit "7") 7
    (if_pos rfl) (by decide)
  exact absurd hrange.2 (by decide)

/-- The stray algorithm is all that its environment sets. -/
theorem applyEnvironmentOverrides_strayAlgorithm (c : NtpConfig) :
    c.applyEnvironmentOverrides strayAlgorithm = { c with authenticationAlgorithm := .other 7 } := by
  have hrows : environmentSettings = environmentSettings.take 20 ++
      (lit "SIMPLE_NTPD_AUTH_ALGORITHM", envInt stoi AuthAlgorithm.ofCode
        fun v c => { c with authenticationAlgorithm := v }) :: environmentSettings.drop 21 := rfl
  have hothers : ∀ e ∈ environmentSettings.take 20 ++ environmentSettings.drop 21,
      strayAlgorithm e.1 = none := by
    unfold environmentSettings strayAlgorithm
    simp only [List.take_succ_cons, List.take_zero, List.drop_succ_cons, List.drop_zero,
      List.cons_append, List.nil_append]
    repeat
      refine List.forall_mem_cons.mpr
        ⟨if_neg (by rw [lit_ofList, lit_ofList]; decide +kernel), ?_⟩
    exact List.forall_mem_nil _
  rw [NtpConfig.applyEnvironmentOverrides_single hrows (if_pos rfl) hothers]
  have hseven : stoi (lit "7") = .ok 7 := by decide
  rw [envInt, hseven]
  rfl

/-- The stray algorithm is stored in the defaults, and the validator accepts them. -/
theorem strayAlgorithm_accepted :
    ¬ ∀ steps : List LoadStep, (steps.foldl NtpConfig.load .defaults).DeclaredOrRefused := by
  intro h
  have hvalid : (NtpConfig.applyEnvironmentOverrides strayAlgorithm .defaults).validate = true := by
    rw [applyEnvironmentOverrides_strayAlgorithm]
    decide +kernel
  have hrun := h [.environment strayAlgorithm]
  rw [List.foldl_cons, List.foldl_nil] at hrun
  unfold NtpConfig.load at hrun
  rcases hrun with hdeclared | hrefused
  · exact strayAlgorithm_undeclared
      ((NtpConfig.enumsDeclared_defaults.applyEnvironmentOverrides_iff _).mp hdeclared)
  · rw [hvalid] at hrefused
    cases hrefused

end SimpleNtpd
