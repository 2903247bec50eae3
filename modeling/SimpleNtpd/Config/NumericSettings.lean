import SimpleNtpd.Config.Fields
import SimpleNtpd.Lib.IntegerText

/-!
# Numeric settings

Fifteen arms of `NtpConfig::parseCommandLineArg` convert their text to a number. They
return false when the conversion throws. What the conversion gives is cast to the type
of the field, whatever was left of the text behind the number; four of the arms test a
range first, and store nothing, but return true all the same, when the test fails.

`Field.numeric` has for each of these fields how its arm converts, the number the field
holds and the numbers it is to hold: those the arm tests for or the validator accepts,
or else all of the type. Every arm stores these as they are (`Reads`), and
`numeric_setting_iff` says that a text is stored exactly or refused when the conversion
throws, or all of the text is one of them; any other text is taken and goes wrong.
-/

namespace SimpleNtpd

open Cpp

/-! ## Conversions -/

/-- How a numeric arm converts; `std::stoul` is as wide as `std::stoull`. -/
inductive Conversion where
  | stoi | stoull
  deriving DecidableEq, Repr

/-- What it makes of a text. -/
def Conversion.convert : Conversion → Str → Except Exn Int
  | stoi, value => Cpp.stoi value
  | stoull, value => (Cpp.stoull value).map fun n => n.toNat

/-- The integers it can give. -/
def Conversion.Holds : Conversion → Int → Prop
  | stoi, i => -2 ^ 31 ≤ i ∧ i ≤ 2 ^ 31 - 1
  | stoull, i => 0 ≤ i ∧ i < 2 ^ 64

/-- A text that is one of them converts to it. -/
theorem Conversion.convert_of_denotes {conversion : Conversion} {value : Str} {i : Int}
    (h : DenotesInteger value i) (hi : conversion.Holds i) :
    conversion.convert value = .ok i := by
  cases conversion with
  | stoi => exact stoi_of_denotes h hi.1 hi.2
  | stoull =>
    have hlt : i.toNat < 2 ^ 64 := by
      have hhi := hi.2
      omega
    show (Cpp.stoull value).map _ = _
    rw [stoull_of_denotes h hi.1 hi.2]
    show Except.ok ((UInt64.ofNat i.toNat).toNat : Int) = _
    rw [UInt64.toNat_ofNat_of_lt' hlt, Int.toNat_of_nonneg hi.1]

/-! ## Fields -/

/-- A field that holds a number. -/
structure NumericField where
  /-- how its arm converts -/
  conversion : Conversion
  /-- the number it holds -/
  number : NtpConfig → Int
  /-- the numbers it is to hold -/
  permits : Int → Bool

/-- `lo ≤ i ≤ hi`. -/
def within (lo hi i : Int) : Bool := decide (lo ≤ i) && decide (i ≤ hi)

theorem within_iff {lo hi i : Int} : within lo hi i = true ↔ lo ≤ i ∧ i ≤ hi := by
  rw [within, Bool.and_eq_true, decide_eq_true_iff, decide_eq_true_iff]

/-- The code of a log level. -/
def LogLevel.code : LogLevel → Int
  | debug => 0
  | info => 1
  | warning => 2
  | error => 3
  | fatal => 4
  | other code => code

/-- The fields the numeric arms store in (config.cpp:316–557); the ranges are those
the arms test and the validator reports (config.cpp:128–170). -/
def Field.numeric : Field → Option NumericField
  | .listenPort => some ⟨.stoi, (·.listenPort.toNat), within 1 65535⟩
  | .maxConnections => some ⟨.stoi, (·.maxConnections), within 1 100000⟩
  | .stratum => some ⟨.stoi, (·.stratum.toNat), within 0 15⟩
  | .syncInterval => some ⟨.stoi, (·.syncInterval), within 1 86400⟩
  | .timeout => some ⟨.stoi, (·.timeout), within 10 60000⟩
  | .logLevel => some ⟨.stoi, (·.logLevel.code), within 0 4⟩
  | .logMaxSizeBytes =>
    some ⟨.stoull, (·.logMaxSizeBytes.toNat), fun i => i == 0 || within 1024 (2 ^ 64 - 1) i⟩
  | .logMaxFiles => some ⟨.stoull, (·.logMaxFiles.toNat), within 1 1000⟩
  | .connectionRateLimitPerMinute =>
    some ⟨.stoull, (·.connectionRateLimitPerMinute.toNat), within 0 (2 ^ 32 - 1)⟩
  | .requestRateLimitPerMinute =>
    some ⟨.stoull, (·.requestRateLimitPerMinute.toNat), within 0 (2 ^ 32 - 1)⟩
  | .ddosAnomalyThresholdPerSecond =>
    some ⟨.stoull, (·.ddosAnomalyThresholdPerSecond.toNat), within 0 (2 ^ 32 - 1)⟩
  | .workerThreads => some ⟨.stoull, (·.workerThreads.toNat), within 1 64⟩
  | .maxPacketSize => some ⟨.stoull, (·.maxPacketSize.toNat), within 48 8192⟩
  | .statsInterval => some ⟨.stoi, (·.statsInterval), within 1 3600⟩
  | .serviceRestartLimit => some ⟨.stoull, (·.serviceRestartLimit.toNat), within 0 (2 ^ 32 - 1)⟩
  | _ => none

/-- An arm that converts its text. -/
def Reader.isNumeric : {α : Type} → Reader α → Bool
  | _, signed _ _ => true
  | _, unsigned _ _ => true
  | _, _ => false

/-- The numeric fields are those of all arms that convert. -/
theorem numeric_isSome (entry : (List Str × Setting) × Field)
    (h : entry ∈ settings.zip settingFields) :
    entry.2.numeric.isSome = entry.1.2.reader.isNumeric := by
  have hall : (settings.zip settingFields).all
      (fun entry => entry.2.numeric.isSome == entry.1.2.reader.isNumeric) = true := by
    rfl
  exact eq_of_beq (List.all_eq_true.mp hall entry h)

/-- A configuration the validator accepts holds permitted numbers; it does not look at
the log level. -/
theorem permits_of_validate {c : NtpConfig} (h : c.validate = true) {f : Field}
    {n : NumericField} (hf : f.numeric = some n) (hlevel : f ≠ .logLevel) :
    n.permits (n.number c) = true := by
  have hrejections := c.validate_iff.mp h
  simp only [NtpConfig.rejections, List.forall_mem_cons, Bool.or_eq_false_iff,
    decide_eq_false_iff_not, Bool.and_eq_false_iff] at hrejections
  obtain ⟨hport, hstratum, hthreads, hconnections, hpacket, hsync, htimeout, hstats, -, hsize,
    hfiles, -⟩ := hrejections
  simp only [UInt16.lt_iff_toNat_lt, UInt8.lt_iff_toNat_lt, UInt32.lt_iff_toNat_lt, gt_iff_lt,
    UInt64.lt_iff_toNat_lt, UInt16.reduceToNat, UInt8.reduceToNat, UInt32.reduceToNat,
    UInt64.reduceToNat] at hport hstratum hthreads hpacket hsize hfiles
  -- the other bounds are those of the type
  have hport16 := c.listenPort.toNat_lt
  have hsize64 := c.logMaxSizeBytes.toNat_lt
  have hconnection32 := c.connectionRateLimitPerMinute.toNat_lt
  have hrequest32 := c.requestRateLimitPerMinute.toNat_lt
  have hddos32 := c.ddosAnomalyThresholdPerSecond.toNat_lt
  have hrestart32 := c.serviceRestartLimit.toNat_lt
  cases f <;> cases hf
  all_goals
    first
    | exact absurd rfl hlevel
    | simp only [within_iff, Bool.or_eq_true, beq_iff_eq]
      omega

/-! ## Arms -/

/-- An arm refuses what does not convert, accepts what does, and stores a permitted
number as it is. -/
structure NumericField.Reads (n : NumericField) (s : Setting) : Prop where
  apply : ∀ (value : Str) (c : NtpConfig), match n.conversion.convert value with
    | .error _ => s.apply value c = (false, c)
    | .ok i => (s.apply value c).1 = true ∧
        (n.permits i = true → n.number (s.apply value c).2 = i)
  holds : ∀ i, n.permits i = true → n.conversion.Holds i

namespace NumericField

variable {number : NtpConfig → Int} {permits : Int → Bool}

/-- An arm that converts, tests and casts; `toInt` is the number that the conversion
gives. -/
theorem Reads.of_convert {s : Setting} {β : Type} {conversion : Conversion}
    {convert : Str → Except Exn β} {toInt : β → Int} {inRange : β → Bool} {f : β → s.Value}
    (hread : ∀ value, s.reader.read value = .ofExcept inRange f (convert value))
    (hconvert : ∀ value, conversion.convert value = (convert value).map toInt)
    (hholds : ∀ i, permits i = true → conversion.Holds i)
    (h : ∀ b, permits (toInt b) = true → inRange b = true ∧
      ∀ c, number (s.set (f b) c) = toInt b) :
    Reads ⟨conversion, number, permits⟩ s := by
  refine ⟨fun value c => ?_, hholds⟩
  rw [Setting.apply, hread]
  dsimp only
  rw [hconvert]
  cases convert value with
  | error e => rfl
  | ok b =>
    rw [Reading.ofExcept]
    constructor
    · -- out of the arm's range the number is not stored, but accepted
      cases inRange b <;> rfl
    · intro hpermits
      rw [(h b hpermits).1]
      exact (h b hpermits).2 c

variable {α : Type} [Nontrivial α] {get : NtpConfig → α} {set : α → NtpConfig → NtpConfig}
  {get_set : ∀ v c, get (set v c) = v} {lo hi : Int}

/-- An arm that converts to `int`. -/
theorem Reads.signed {inRange : Int → Bool} {f : Int → α} (hlo : -2 ^ 31 ≤ lo)
    (hhi : hi ≤ 2 ^ 31 - 1)
    (h : ∀ i, lo ≤ i → i ≤ hi → inRange i = true ∧ ∀ c, number (set (f i) c) = i) :
    Reads ⟨.stoi, number, within lo hi⟩ (.of (.signed inRange f) get set get_set) := by
  have hconvert (value : Str) : Conversion.stoi.convert value = (stoi value).map id := by
    show stoi value = _
    cases stoi value <;> rfl
  refine .of_convert (fun _ => rfl) hconvert (fun i hmem => ?_) fun i hmem => ?_
  · rw [within_iff] at hmem
    exact ⟨by omega, by omega⟩
  · rw [within_iff] at hmem
    exact h i hmem.1 hmem.2

/-- An arm that converts to a 64-bit unsigned number. -/
theorem Reads.unsigned {inRange : UInt64 → Bool} {f : UInt64 → α}
    (hholds : ∀ i, permits i = true → Conversion.stoull.Holds i)
    (h : ∀ n : UInt64, permits n.toNat = true → inRange n = true ∧
      ∀ c, number (set (f n) c) = n.toNat) :
    Reads ⟨.stoull, number, permits⟩ (.of (.unsigned inRange f) get set get_set) :=
  .of_convert (fun _ => rfl) (fun _ => rfl) hholds h

/-- An unsigned arm whose arm test and field allow one range of numbers. -/
theorem Reads.unsigned_within {inRange : UInt64 → Bool} {f : UInt64 → α} (hlo : 0 ≤ lo)
    (hhi : hi < 2 ^ 64)
    (h : ∀ n : UInt64, lo ≤ n.toNat → n.toNat ≤ hi → inRange n = true ∧
      ∀ c, number (set (f n) c) = n.toNat) :
    Reads ⟨.stoull, number, within lo hi⟩ (.of (.unsigned inRange f) get set get_set) := by
  refine .unsigned (fun i hmem => ?_) fun n hmem => ?_
  · rw [within_iff] at hmem
    exact ⟨by omega, by omega⟩
  · rw [within_iff] at hmem
    exact h n hmem.1 hmem.2

end NumericField

/-! ## Casts -/

theorem toNat_toPort {i : Int} (hlo : 0 ≤ i) (hhi : i ≤ 65535) : ((toPort i).toNat : Int) = i := by
  rw [toPort, UInt16.ofInt, UInt16.toNat_ofNat']
  omega

theorem toNat_ofInt_stratum {i : Int} (hlo : 0 ≤ i) (hhi : i ≤ 15) :
    ((UInt8.ofInt i).toNat : Int) = i := by
  rw [UInt8.ofInt, UInt8.toNat_ofNat']
  omega

theorem LogLevel.code_ofCode (i : Int) : (LogLevel.ofCode i).code = i := by
  unfold LogLevel.ofCode
  split_ifs with h0 h1 h2 h3 h4
  · exact h0.symm
  · exact h1.symm
  · exact h2.symm
  · exact h3.symm
  · exact h4.symm
  · rfl

theorem toNat_toUInt32 {n : UInt64} (h : (n.toNat : Int) ≤ 2 ^ 32 - 1) :
    (n.toUInt32.toNat : Int) = n.toNat := by
  rw [UInt64.toNat_toUInt32]
  omega

/-- The range test of an unsigned arm. -/
theorem word_within {lo hi n : UInt64} (hlo : (lo.toNat : Int) ≤ n.toNat)
    (hhi : (n.toNat : Int) ≤ hi.toNat) : (decide (lo ≤ n) && decide (n ≤ hi)) = true := by
  rw [Bool.and_eq_true, decide_eq_true_iff, decide_eq_true_iff, UInt64.le_iff_toNat_le,
    UInt64.le_iff_toNat_le]
  exact ⟨Int.ofNat_le.mp hlo, Int.ofNat_le.mp hhi⟩

/-- The size of a log file is 0 or some kilobytes. -/
theorem holds_logMaxSizeBytes {i : Int} (h : (i == 0 || within 1024 (2 ^ 64 - 1) i) = true) :
    Conversion.stoull.Holds i := by
  rw [Bool.or_eq_true, beq_iff_eq, within_iff] at h
  exact ⟨by omega, by omega⟩

/-- **The numeric arms.** -/
theorem settings_reads :
    List.Forall₂ (fun entry f => ∀ n, f.numeric = some n → n.Reads entry.2)
      settings settingFields := by
  unfold settings settingFields
  repeat
    refine .cons (fun n hn => ?_) ?_
    · cases hn <;> first
      -- the field is as wide as what is converted
      | exact .signed (by decide) (by decide) fun i _ _ => ⟨rfl, fun _ => rfl⟩
      | exact .unsigned (fun _ => holds_logMaxSizeBytes) fun n _ => ⟨rfl, fun _ => rfl⟩
      -- the field is narrower, and the cast loses nothing of a permitted number
      | exact .signed (by decide) (by decide) fun i hlo hhi =>
          ⟨rfl, fun _ => toNat_toPort (by omega) hhi⟩
      | exact .unsigned_within (by decide) (by decide) fun n _ hhi =>
          ⟨rfl, fun _ => toNat_toUInt32 (by omega)⟩
      -- the arm tests the range
      | exact .signed (by decide) (by decide) fun i hlo hhi =>
          ⟨within_iff.mpr ⟨hlo, hhi⟩, fun _ => toNat_ofInt_stratum hlo hhi⟩
      | exact .signed (by decide) (by decide) fun i hlo hhi =>
          ⟨within_iff.mpr ⟨hlo, hhi⟩, fun _ => LogLevel.code_ofCode i⟩
      | exact .unsigned_within (by decide) (by decide) fun n hlo hhi =>
          ⟨word_within hlo hhi, fun _ => rfl⟩
  exact .nil

/-! ## Keys -/

/-- The field of the arm a key selects. -/
def keyField (key : Str) : Option Field :=
  ((settings.zip settingFields).find? fun entry => entry.1.1.contains (lower key)).map (·.2)

/-- A key selects the arm of its field, and what holds of all arms holds of this one. -/
theorem exists_setting_of_key {P : Setting → Field → Prop}
    (h : List.Forall₂ (fun entry f => P entry.2 f) settings settingFields) {key : Str} {f : Field}
    (hkey : keyField key = some f) : ∃ s, findSetting key = some s ∧ P s f := by
  obtain ⟨entry, hfind, rfl⟩ := Option.map_eq_some_iff.mp hkey
  refine ⟨entry.1.2, ?_, (List.forall₂_iff_zip.mp h).2 (List.mem_of_find?_eq_some hfind)⟩
  rw [findSetting_eq, hfind]
  rfl

/-- A key of a numeric field selects a numeric arm. -/
theorem exists_reads_of_key {key : Str} {f : Field} {n : NumericField}
    (hkey : keyField key = some f) (hf : f.numeric = some n) :
    ∃ s, findSetting key = some s ∧ n.Reads s := by
  obtain ⟨s, hs, hreads⟩ := exists_setting_of_key
    (P := fun s f => ∀ n, f.numeric = some n → n.Reads s) settings_reads hkey
  exact ⟨s, hs, hreads n hf⟩

/-- The call stores exactly the integer that all of the text is, one that the field is
to hold, or returns false and changes nothing. -/
def ExactOrRefused (c : NtpConfig) (key value : Str) (n : NumericField) : Prop :=
  let result := c.parseCommandLineArg key value
  (result.1 = true ∧
    ∃ i, DenotesInteger value i ∧ n.permits i = true ∧ n.number result.2 = i) ∨
  (result.1 = false ∧ result.2 = c)

/-- **When a numeric setting is exact or refused.** For every key of a numeric field,
every text and every configuration: exactly when the conversion of the arm throws, or all
of the text is an integer that the field is to hold. -/
theorem numeric_setting_iff {key : Str} {f : Field} {n : NumericField}
    (hkey : keyField key = some f) (hf : f.numeric = some n) (c : NtpConfig) (value : Str) :
    ExactOrRefused c key value n ↔
      (∃ e, n.conversion.convert value = .error e) ∨
        ∃ i, DenotesInteger value i ∧ n.permits i = true := by
  obtain ⟨s, hs, hreads⟩ := exists_reads_of_key hkey hf
  have happly := hreads.apply value c
  unfold ExactOrRefused
  rw [NtpConfig.parseCommandLineArg_of_some hs]
  dsimp only
  cases hconvert : n.conversion.convert value with
  | error e =>
    rw [hconvert] at happly
    dsimp only at happly
    rw [happly]
    exact iff_of_true (.inr ⟨rfl, rfl⟩) (.inl ⟨e, rfl⟩)
  | ok j =>
    rw [hconvert] at happly
    obtain ⟨htrue, hexact⟩ := happly
    constructor
    · rintro (⟨-, i, hdenotes, hpermits, -⟩ | ⟨hfalse, -⟩)
      · exact .inr ⟨i, hdenotes, hpermits⟩
      · rw [htrue] at hfalse
        cases hfalse
    · rintro (⟨e, he⟩ | ⟨i, hdenotes, hpermits⟩)
      · cases he
      · -- a permitted number converts to itself
        have hij := Conversion.convert_of_denotes hdenotes (hreads.holds i hpermits)
        rw [hconvert] at hij
        cases hij
        exact .inl ⟨htrue, j, hdenotes, hpermits, hexact hpermits⟩

/-- A port that is stored. -/
theorem numeric_setting_example :
    ExactOrRefused .defaults (lit "PORT") (lit "1123")
      ⟨.stoi, (·.listenPort.toNat), within 1 65535⟩ :=
  (numeric_setting_iff (f := .listenPort) (by decide +kernel) rfl .defaults (lit "1123")).mpr
    (.inr ⟨1123, denotesInteger_of_digits (by decide) (List.all_eq_true.mp (by decide)), by decide⟩)

/-- Port 70000 is taken, and becomes 4464. -/
theorem port_wraps :
    ¬ ∀ c key value f n, keyField key = some f → f.numeric = some n →
      ExactOrRefused c key value n := by
  intro h
  have hdenotes : DenotesInteger (lit "70000") 70000 :=
    denotesInteger_of_digits (by decide) (List.all_eq_true.mp (by decide))
  rcases h .defaults (lit "port") (lit "70000") .listenPort _ (by decide +kernel) rfl with
    ⟨-, i, hi, hpermits, -⟩ | ⟨hfalse, -⟩
  · rw [hi.unique hdenotes] at hpermits
    cases hpermits
  · have htrue : (NtpConfig.defaults.parseCommandLineArg (lit "port") (lit "70000")).1 = true := by
      decide +kernel
    rw [htrue] at hfalse
    cases hfalse

end SimpleNtpd
