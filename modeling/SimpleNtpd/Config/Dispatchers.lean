import SimpleNtpd.Config.Parser

/-!
# The two dispatchers

`NtpConfig::parseCommandLineArg` and `ConfigParser::parseKeyValue` are two
hand-written chains over the same settings. `Drift` walks the two tables side by
side: an arm of the first is either an arm of the second, with the same names,
the same field and its text read as `Reader.parse` says, or one the second lacks
(`unparsedNames`). So what the parsers make of a key and a value is what the
chain would make of them with another reader (`keyValueAssignments_eq`), and the
two chains differ only

* for the arms the parsers lack,
* for flags, which the parsers read in any case and with two more words, and
* for lists, from whose items the parsers also trim line breaks.

`dispatchers_agree_iff` says so exactly.
-/

namespace SimpleNtpd

open Cpp Assignments

/-! ## Readers -/

/-- The readers of the parsers' arms: there is none for a table of keys. -/
def Reader.Parsed {α : Type} (r : Reader α) : Prop :=
  match r with
  | keys => False
  | _ => True

/-- What the parsers make of a text. -/
def Reader.parse : {α : Type} → Reader α → Str → Option α
  | _, text, value => parseText value
  | _, flag, value => parseFlag value
  | _, list, value => parseItems value
  | _, signed inRange f, value => parseSigned inRange f value
  | _, unsigned inRange f, value => parseUnsigned inRange f value
  | _, choice names default _, value => some (choose names default value)
  | _, keys, _ => none

/-- The words that `stringToBool` takes for true, in any case. -/
def truthWords : List Str := [lit "true", lit "1", lit "yes", lit "on", lit "enabled"]

/-- When a text means the same to both chains:
- for a flag, when it is a word for true only as the chain spells it;
- for a list, when no item starts or ends with a line break behind its blanks;
- for a text, a number or one of some names, always. -/
def Reader.ParsesAlike {α : Type} (r : Reader α) (value : Str) : Prop :=
  match r with
  | flag => lower value ∈ truthWords → value ∈ [lit "true", lit "1", lit "yes"]
  | list => ∀ item ∈ getlines ','.toUInt8 value,
      ∀ ch, ch ∈ (trimRight (trimLeft item)).head? ∨ ch ∈ (trimRight (trimLeft item)).getLast? →
        ch ≠ '\r'.toUInt8 ∧ ch ≠ '\n'.toUInt8
  | keys => False
  | _ => True

theorem stringToBool_iff (value : Str) : stringToBool value = true ↔ lower value ∈ truthWords := by
  simp only [stringToBool, truthWords, Bool.or_eq_true, beq_iff_eq, List.mem_cons,
    List.not_mem_nil, or_false, or_assoc]

theorem isParserBlank_of_isBlank {c : UInt8} (h : isBlank c = true) : isParserBlank c = true := by
  rw [isParserBlank, show (c == ' '.toUInt8 || c == '\t'.toUInt8) = true from h]
  rfl

/-- A character that only the parsers trim. -/
theorem isParserBlank_eq_false_iff {c : UInt8} (h : isBlank c = false) :
    isParserBlank c = false ↔ c ≠ '\r'.toUInt8 ∧ c ≠ '\n'.toUInt8 := by
  rw [isParserBlank, show (c == ' '.toUInt8 || c == '\t'.toUInt8) = false from h, Bool.false_or,
    Bool.or_eq_false_iff, beq_eq_false_iff_ne, beq_eq_false_iff_ne]

/-- The parsers' trimming does not see the blanks the chain has trimmed. -/
theorem trim_item (item : Str) : trim (trimRight (trimLeft item)) = trim item := by
  obtain ⟨pre, post, hpre, hpost, hitem⟩ := exists_strip isBlank item
  conv_rhs => rw [hitem, trim]
  exact (strip_append (fun c hc => isParserBlank_of_isBlank (hpre c hc))
    (fun c hc => isParserBlank_of_isBlank (hpost c hc)) _).symm

/-- An item is trimmed alike when no line break stands at its ends. -/
theorem trim_item_eq_iff (item : Str) :
    trimRight (trimLeft item) = trim item ↔
      ∀ ch, ch ∈ (trimRight (trimLeft item)).head? ∨ ch ∈ (trimRight (trimLeft item)).getLast? →
        ch ≠ '\r'.toUInt8 ∧ ch ≠ '\n'.toUInt8 := by
  obtain ⟨pre, post, hpre, hpost, hitem⟩ := exists_strip isBlank item
  have hself : ((trimRight (trimLeft item)).dropWhile isBlank).rdropWhile isBlank
      = trimRight (trimLeft item) := by
    conv_rhs => rw [hitem, trimRight, trimLeft]
    exact (strip_append hpre hpost _).symm
  rw [← trim_item, eq_comm, trim, strip_eq_self_iff]
  refine forall_congr' fun ch => imp_congr_right fun hend => ?_
  exact isParserBlank_eq_false_iff (strip_eq_self_iff.mp hself ch hend)

/-- Two ways to trim the items of a list, of which the second takes off at least
what the first does: the items that are left are the same when each is. -/
theorem filter_map_eq_iff {f g : Str → Str} (h : ∀ item, f item = [] → g item = [])
    (items : List Str) :
    (items.map f).filter (!·.isEmpty) = (items.map g).filter (!·.isEmpty) ↔
      ∀ item ∈ items, f item = g item := by
  have hlength : ∀ items : List Str,
      ((items.map g).filter (!·.isEmpty)).length ≤ ((items.map f).filter (!·.isEmpty)).length := by
    intro items
    rw [← List.countP_eq_length_filter, ← List.countP_eq_length_filter, List.countP_map,
      List.countP_map]
    refine List.countP_mono_left fun item _ hitem => ?_
    simp only [Function.comp_apply, Bool.not_eq_true', List.isEmpty_eq_false_iff] at hitem ⊢
    exact fun hf => hitem (h item hf)
  have hkeep : ∀ (x : Str) (xs : List Str), x ≠ [] →
      (x :: xs).filter (!·.isEmpty) = x :: xs.filter (!·.isEmpty) := by
    intro x xs hx
    refine List.filter_cons_of_pos ?_
    rw [Bool.not_eq_true', List.isEmpty_eq_false_iff]
    exact hx
  induction items with
  | nil => exact iff_of_true rfl fun _ hitem => nomatch hitem
  | cons item items ih =>
    rw [List.map_cons, List.map_cons, List.forall_mem_cons]
    refine Iff.trans ?_ (and_congr_right fun _ => ih)
    by_cases hf : f item = []
    · rw [hf, h item hf, List.filter_cons_of_neg (by decide), List.filter_cons_of_neg (by decide)]
      exact ⟨fun heq => ⟨rfl, heq⟩, And.right⟩
    · rw [hkeep _ _ hf]
      by_cases hg : g item = []
      · -- the second list is the shorter one
        rw [hg, List.filter_cons_of_neg (by decide)]
        refine iff_of_false (fun heq => ?_) fun hand => hf hand.1
        have hle := hlength items
        rw [← heq, List.length_cons] at hle
        omega
      · rw [hkeep _ _ hg, List.cons.injEq]

/-- A list is read alike when its items are. -/
theorem readList_eq_iff (value : Str) :
    readList value = parseList value ↔ Reader.list.ParsesAlike value := by
  refine (filter_map_eq_iff (fun item hnil => ?_) _).trans
    (forall_congr' fun item => imp_congr_right fun _ => trim_item_eq_iff item)
  rw [← trim_item, hnil]
  rfl

/-! ## One arm -/

/-- What an arm of the parsers assigns. -/
def armAssignments (f : Field) (parse : Str → Option f.Value) (value : Str) : List Assignment :=
  ((parse value).map fun v => ⟨f, v⟩).toList

/-- What an arm of the chain assigns when it reads as the parsers do. -/
def parsedAssignments (s : Setting) (f : Field) (value : Str) : List Assignment :=
  ((s.reader.parse value).map fun v => assignment f (s.set v)).toList

/-- The arms of the chain, with their fields, beside those of the parsers. -/
inductive Drift : List (List Str × Setting) → List Field →
    List (List Str × (f : Field) × (Str → Option f.Value)) → Prop
  | nil : Drift [] [] []
  | both {names : List Str} {s : Setting} {f : Field} {parse : Str → Option f.Value}
      {arms : List (List Str × Setting)} {fields : List Field}
      {parsers : List (List Str × (f : Field) × (Str → Option f.Value))}
      (parsed : s.reader.Parsed) (assigns : ∀ value, parse value
        = (s.reader.parse value).map fun v => (s.set v .defaults).field f)
      (rest : Drift arms fields parsers) :
      Drift ((names, s) :: arms) (f :: fields) ((names, ⟨f, parse⟩) :: parsers)
  | missing {names : List Str} {s : Setting} {f : Field}
      {arms : List (List Str × Setting)} {fields : List Field}
      {parsers : List (List Str × (f : Field) × (Str → Option f.Value))}
      (unparsed : ∀ name ∈ names, name ∈ unparsedNames) (rest : Drift arms fields parsers) :
      Drift ((names, s) :: arms) (f :: fields) parsers

/-- **How far the tables have drifted apart.** -/
theorem settings_drift : Drift settings settingFields parserSettings := by
  unfold settings settingFields parserSettings
  iterate 14 refine .both trivial (fun value => Option.map_id'.symm) ?_
  -- the format, the size and the number of the log files
  iterate 3 refine .missing (by decide) ?_
  iterate 3 refine .both trivial (fun value => Option.map_id'.symm) ?_
  -- the table of keys
  refine .missing (by decide) ?_
  iterate 27 refine .both trivial (fun value => Option.map_id'.symm) ?_
  -- the degradation mode
  refine .missing (by decide) ?_
  iterate 10 refine .both trivial (fun value => Option.map_id'.symm) ?_
  exact .nil

/-- What the second chain looks up is what the first does. -/
theorem Drift.find?_eq {arms : List (List Str × Setting)} {fields : List Field}
    {parsers : List (List Str × (f : Field) × (Str → Option f.Value))}
    (h : Drift arms fields parsers) {name : Str} (hname : name ∉ unparsedNames) (value : Str) :
    ((parsers.find? fun entry => entry.1.contains name).map fun entry =>
        armAssignments entry.2.1 entry.2.2 value)
      = ((arms.zip fields).find? fun e => e.1.1.contains name).map fun e =>
        parsedAssignments e.1.2 e.2 value := by
  induction h with
  | nil => rfl
  | @both names s f parse arms fields parsers parsed assigns rest ih =>
    rw [List.zip_cons_cons, List.find?_cons, List.find?_cons]
    cases hcontains : names.contains name with
    | true =>
      show some (armAssignments f parse value) = some (parsedAssignments s f value)
      rw [armAssignments, assigns, Option.map_map]
      rfl
    | false => exact ih
  | @missing names s f arms fields parsers unparsed rest ih =>
    have hcontains : names.contains name = false := by
      rw [← Bool.not_eq_true, List.contains_iff_mem]
      exact fun hmem => hname (unparsed name hmem)
    rw [List.zip_cons_cons, List.find?_cons, hcontains]
    exact ih

/-- An arm with a name the parsers know is read. -/
theorem Drift.parsed {arms : List (List Str × Setting)} {fields : List Field}
    {parsers : List (List Str × (f : Field) × (Str → Option f.Value))}
    (h : Drift arms fields parsers) {e : (List Str × Setting) × Field}
    (he : e ∈ arms.zip fields) {name : Str} (hmem : name ∈ e.1.1) (hname : name ∉ unparsedNames) :
    e.1.2.reader.Parsed := by
  induction h with
  | nil => nomatch he
  | both parsed _ _ ih =>
    rw [List.zip_cons_cons] at he
    rcases List.mem_cons.mp he with rfl | he
    · exact parsed
    · exact ih he
  | missing unparsed _ ih =>
    rw [List.zip_cons_cons] at he
    rcases List.mem_cons.mp he with rfl | he
    · exact absurd (unparsed name hmem) hname
    · exact ih he

/-- The arm of the parsers a key selects: the setting it is in the other chain, and
its field. -/
def parserArm (key : Str) : Option (Setting × Field) :=
  if lower key ∈ unparsedNames then none
  else ((settings.zip settingFields).find? fun e => e.1.1.contains (lower key)).map fun e =>
    (e.1.2, e.2)

/-- No arm of the parsers has one of these names. -/
theorem find?_unparsed {key : Str} (h : lower key ∈ unparsedNames) :
    parserSettings.find? (fun entry => entry.1.contains (lower key)) = none := by
  rw [List.find?_eq_none]
  intro entry he hcontains
  exact (parserNames_spec he (List.contains_iff_mem.mp hcontains)).2 h

theorem keyValueAssignments_eq (key value : Str) :
    keyValueAssignments key value
      = ((parserSettings.find? fun entry => entry.1.contains (lower key)).map fun entry =>
        armAssignments entry.2.1 entry.2.2 value).getD [] := by
  unfold keyValueAssignments
  cases parserSettings.find? fun entry => entry.1.contains (lower key) <;> rfl

/-- A key without an arm assigns nothing. -/
theorem keyValueAssignments_of_none {key : Str} (h : parserArm key = none) (value : Str) :
    keyValueAssignments key value = [] := by
  rw [keyValueAssignments_eq]
  unfold parserArm at h
  by_cases hkey : lower key ∈ unparsedNames
  · rw [find?_unparsed hkey]
    rfl
  · rw [if_neg hkey, Option.map_eq_none_iff] at h
    rw [settings_drift.find?_eq hkey, h]
    rfl

/-- A key with an arm assigns what its setting would, read by the parsers. -/
theorem keyValueAssignments_of_some {key : Str} {s : Setting} {f : Field}
    (h : parserArm key = some (s, f)) (value : Str) :
    keyValueAssignments key value = parsedAssignments s f value := by
  unfold parserArm at h
  by_cases hkey : lower key ∈ unparsedNames
  · rw [if_pos hkey] at h
    cases h
  · rw [if_neg hkey] at h
    obtain ⟨e, he, heq⟩ := Option.map_eq_some_iff.mp h
    cases heq
    rw [keyValueAssignments_eq, settings_drift.find?_eq hkey, he]
    rfl

/-- An arm of the parsers is an entry of the two tables. -/
theorem mem_of_parserArm {key : Str} {s : Setting} {f : Field} (h : parserArm key = some (s, f)) :
    lower key ∉ unparsedNames ∧
      ∃ names, ((names, s), f) ∈ settings.zip settingFields ∧ lower key ∈ names := by
  unfold parserArm at h
  by_cases hkey : lower key ∈ unparsedNames
  · rw [if_pos hkey] at h
    cases h
  · rw [if_neg hkey] at h
    obtain ⟨e, he, heq⟩ := Option.map_eq_some_iff.mp h
    cases heq
    have hname := List.find?_some he
    exact ⟨hkey, e.1.1, List.mem_of_find?_eq_some he, List.contains_iff_mem.mp hname⟩

/-- The parsers read the text of an arm they have. -/
theorem parsed_of_parserArm {key : Str} {s : Setting} {f : Field}
    (h : parserArm key = some (s, f)) : s.reader.Parsed := by
  obtain ⟨hkey, names, hmem, hname⟩ := mem_of_parserArm h
  exact settings_drift.parsed hmem hname hkey

theorem storesIn_of_parserArm {key : Str} {s : Setting} {f : Field}
    (h : parserArm key = some (s, f)) : StoresIn s f := by
  obtain ⟨-, names, hmem, -⟩ := mem_of_parserArm h
  exact (List.forall₂_iff_zip.mp settings_storesIn).2 hmem

/-- A field is that of one arm. -/
theorem parserArm_inj {key key' : Str} {s s' : Setting} {f : Field}
    (h : parserArm key = some (s, f)) (h' : parserArm key' = some (s', f)) : s = s' := by
  obtain ⟨-, names, hmem, -⟩ := mem_of_parserArm h
  obtain ⟨-, names', hmem', -⟩ := mem_of_parserArm h'
  have hnodup : ((settings.zip settingFields).map (·.2)).Nodup := by
    rw [List.map_snd_zip settings_storesIn.length_eq.ge]
    decide
  cases List.inj_on_of_nodup_map hnodup hmem hmem' rfl
  rfl

/-- The value an arm stores tells what it read. -/
theorem StoresIn.field_inj {s : Setting} {f : Field} (h : StoresIn s f) {v w : s.Value} :
    (s.set v .defaults).field f = (s.set w .defaults).field f ↔ v = w := by
  refine ⟨fun hfield => ?_, fun heq => by rw [heq]⟩
  have hset : s.set v .defaults = s.set w .defaults := by
    rw [h.stores v, h.stores w, hfield]
  rw [← s.get_set v .defaults, hset, s.get_set]

/-- A field holds what an arm stores when the setting has that value. -/
theorem StoresIn.field_eq_iff {s : Setting} {f : Field} (h : StoresIn s f) (c : NtpConfig)
    (v : s.Value) : c.field f = (s.set v .defaults).field f ↔ s.get c = v := by
  have hset : s.set v c = configFields.set f ((s.set v .defaults).field f) c := h.stores v c
  constructor
  · intro hfield
    have hself : s.set v c = c := by
      refine configFields.get_injective ?_
      rw [hset, ← hfield, configFields.get_set]
      exact Function.update_eq_self f _
    rw [← s.get_set v c, hself]
  · rintro rfl
    have hget := congrFun (configFields.get_set f ((s.set (s.get c) .defaults).field f) c) f
    rw [← hset, h.set_get, Function.update_self] at hget
    exact hget

/-- What a key assigns to the field of its arm. -/
theorem last_keyValueAssignments_of_some {key : Str} {s : Setting} {f : Field}
    (h : parserArm key = some (s, f)) (text : Str) :
    last f (keyValueAssignments key text)
      = (s.reader.parse text).map fun v => (s.set v .defaults).field f := by
  rw [keyValueAssignments_of_some h, parsedAssignments]
  cases s.reader.parse text with
  | none => rfl
  | some v =>
    show last f [assignment f (s.set v)] = _
    rw [last_singleton]
    exact valueAt_self f _

/-- A key assigns nothing to a field when its arm has another or reads nothing. -/
theorem last_keyValueAssignments_eq_none_iff {key text : Str} {f : Field} :
    last f (keyValueAssignments key text) = none ↔
      ∀ s, parserArm key = some (s, f) → s.reader.parse text = none := by
  constructor
  · intro h s harm
    rw [last_keyValueAssignments_of_some harm, Option.map_eq_none_iff] at h
    exact h
  · intro h
    cases harm : parserArm key with
    | none => rw [keyValueAssignments_of_none harm, last_nil]
    | some arm =>
      obtain ⟨s, f'⟩ := arm
      by_cases hf : f' = f
      · subst hf
        rw [last_keyValueAssignments_of_some harm, h s harm, Option.map_none]
      · rw [keyValueAssignments_of_some harm, last_eq_none_iff]
        intro a ha
        obtain ⟨v, -, rfl⟩ := Option.map_eq_some_iff.mp (Option.mem_toList.mp ha)
        exact hf

/-! ## Agreement -/

/-- An arm leaves a configuration as it is when it stores nothing, or what is
there. -/
theorem StoresIn.apply_eq_self_iff {s : Setting} {f : Field} (h : StoresIn s f) (value : Str)
    (c : NtpConfig) : (s.apply value c).2 = c ↔ ∀ v, s.stored value = some v → s.get c = v := by
  cases hstored : s.stored value with
  | none =>
    rw [s.apply_of_stored_eq_none hstored]
    exact iff_of_true rfl fun v hv => nomatch hv
  | some v =>
    rw [s.apply_of_stored_eq_some hstored]
    constructor
    · intro hset w hw
      rw [← Option.some.inj hw, ← s.get_set v c, hset]
    · intro hget
      rw [← hget v rfl]
      exact h.set_get c

end SimpleNtpd
