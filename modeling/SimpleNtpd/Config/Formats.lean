import SimpleNtpd.Config.Dispatchers
import SimpleNtpd.Config.LineGrammar

/-!
# The same settings in three formats

The shipped examples write a setting as `key = value` in an INI file, as a member
`"key": "value"` of a JSON object and as `key: "value"` in a YAML file. The
parsers take different things off such a line before they hand it to the common
chain: the INI parser trims the value, the JSON parser takes off the quotes and
the comma behind them, or else a comma in front of them, and the YAML parser takes
off neither. So of one value the chain reads three texts (`read_ini`, `read_json`,
`read_yaml`).

`Reader.SameInFormats` says, for each way to read a text, when that is harmless,
and `formats_agree_iff` that files of settings mean the same exactly when it is
for every setting that no later one replaces.
-/

namespace SimpleNtpd

open Cpp Assignments

/-! ## Settings and their files -/

/-- A setting with the name of an arm, and a value without line feeds and double
quotes. -/
structure PlainSetting where
  key : Str
  value : Str
  supported : findSetting key ≠ none
  no_break : '\n'.toUInt8 ∉ value
  no_quote : '"'.toUInt8 ∉ value

/-- A text in double quotes. -/
def quote (s : Str) : Str := '"'.toUInt8 :: (s ++ ['"'.toUInt8])

/-- `key = value`. -/
def PlainSetting.ini (s : PlainSetting) : Str := s.key ++ lit " = " ++ s.value

/-- `key: "value"`. -/
def PlainSetting.yaml (s : PlainSetting) : Str := s.key ++ lit ": " ++ quote s.value

/-- What follows a member of a JSON object. -/
def comma (isLast : Bool) : Str := if isLast then [] else lit ","

/-- `  "key": "value"`, with a comma unless it is the last member. -/
def PlainSetting.json (s : PlainSetting) (isLast : Bool) : Str :=
  lit "  " ++ quote s.key ++ lit ": " ++ quote s.value ++ comma isLast

/-- The elements of a list, each with whether it is the last. -/
def markLast {α : Type} : List α → List (α × Bool)
  | [] => []
  | [a] => [(a, true)]
  | a :: b :: rest => (a, false) :: markLast (b :: rest)

theorem map_fst_markLast {α : Type} (l : List α) : (markLast l).map (·.1) = l := by
  induction l with
  | nil => rfl
  | cons a l ih =>
    cases l with
    | nil => rfl
    | cons b rest => exact congrArg (a :: ·) ih

/-- A text of lines. -/
def unlines (lines : List Str) : Str := lines.flatMap (· ++ ['\n'.toUInt8])

/-- The settings as an INI file. -/
def renderIni (settings : List PlainSetting) : Str := unlines (settings.map (·.ini))

/-- The settings as a YAML file. -/
def renderYaml (settings : List PlainSetting) : Str := unlines (settings.map (·.yaml))

/-- A JSON object, a member to a line between the lines of its braces. -/
def jsonLines (settings : List PlainSetting) : List Str :=
  lit "\x7b" :: (markLast settings).map (fun p => p.1.json p.2) ++ [lit "\x7d"]

/-- The settings as a JSON file. -/
def renderJson (settings : List PlainSetting) : Str :=
  unlines (jsonLines settings)

/-- A parser's `parseString`: its `parseFile` on what the file holds. -/
def parseString (read : LineReader) (content : Str) (c : NtpConfig) : Bool × NtpConfig :=
  parseFileWith read (some content) c

/-! ## Keys -/

namespace PlainSetting

variable (s : PlainSetting)

/-- A supported key is made of letters, digits and underscores. -/
theorem key_ident : ∀ ch ∈ s.key, isIdent ch = true := by
  intro ch hch
  by_contra hnot
  exact s.supported (findSetting_eq_none hch (Bool.eq_false_iff.mpr hnot))

/-- A supported key starts with a letter, a digit or an underscore. -/
theorem exists_key_eq : ∃ ch key, s.key = ch :: key ∧ isIdent ch = true := by
  have hne : s.key ≠ [] := fun hnil => s.supported (hnil ▸ findSetting_nil)
  obtain ⟨ch, key, hkey⟩ := List.exists_cons_of_ne_nil hne
  exact ⟨ch, key, hkey, s.key_ident ch (hkey ▸ List.mem_cons_self)⟩

end PlainSetting

/-- A character of a key is no blank and none the parsers look for. -/
theorem isIdent_plain {ch : UInt8} (h : isIdent ch = true) :
    isParserBlank ch = false ∧ ch ≠ '='.toUInt8 ∧ ch ≠ ':'.toUInt8 ∧ ch ≠ '#'.toUInt8 ∧
      ch ≠ ';'.toUInt8 ∧ ch ≠ '"'.toUInt8 ∧ ch ≠ '\n'.toUInt8 := by
  revert h
  exact forall_uint8 (by decide +kernel) ch

/-- A text of such characters is not trimmed. -/
theorem trim_of_ident {s : Str} (h : ∀ ch ∈ s, isIdent ch = true) : trim s = s := by
  refine strip_eq_self_iff.mpr fun ch hend => (isIdent_plain (h ch ?_)).1
  rcases hend with hhead | hlast
  · exact List.mem_of_mem_head? hhead
  · exact List.mem_of_mem_getLast? hlast

/-! ## Lines -/

theorem trim_cons {ch : UInt8} (h : isParserBlank ch = false) (s : Str) :
    trim (ch :: s) = (ch :: s).rdropWhile isParserBlank := by
  rw [trim, List.dropWhile_cons_of_neg (by rw [h]; exact Bool.false_ne_true)]

theorem trim_append_left {pre : Str} (h : ∀ ch ∈ pre, isParserBlank ch = true) (s : Str) :
    trim (pre ++ s) = trim s := by
  rw [trim, dropWhile_append_of_all h, trim]

theorem trim_append_right {post : Str} (h : ∀ ch ∈ post, isParserBlank ch = true) (s : Str) :
    trim (s ++ post) = trim s :=
  strip_append_right h s

theorem trim_rdropWhile (s : Str) : trim (s.rdropWhile isParserBlank) = trim s := by
  conv_rhs => rw [← List.rdropWhile_append_rtakeWhile (p := isParserBlank) (l := s)]
  exact (trim_append_right (fun _ hmem => List.mem_rtakeWhile_imp hmem) _).symm

theorem isParserBlank_of_mem_lit : ∀ ch ∈ lit " ", isParserBlank ch = true :=
  List.all_eq_true.mp (by decide)

/-- A text between characters that are no blanks is not trimmed. -/
theorem trim_eq_self {s : Str} {first last : UInt8} (hfirst : s.head? = some first)
    (hlast : s.getLast? = some last) (h : isParserBlank first = false ∧ isParserBlank last = false) :
    trim s = s := by
  refine strip_eq_self_iff.mpr ?_
  rintro ch (hch | hch)
  · rw [hfirst, Option.mem_some] at hch
    exact hch ▸ h.1
  · rw [hlast, Option.mem_some] at hch
    exact hch ▸ h.2

theorem splitAt_append {separator : UInt8} {a : Str} (h : separator ∉ a) (b : Str) :
    splitAt separator (a ++ separator :: b) = some (trim a, trim b) := by
  rw [splitAt, find_append h, Option.map_some, List.take_left, List.drop_append,
    List.drop_eq_nil_of_le (Nat.le_succ _), Nat.add_sub_cancel_left, List.nil_append,
    List.drop_one, List.tail_cons]

theorem getLast?_quote (s : Str) : (quote s).getLast? = some '"'.toUInt8 := by
  rw [quote, ← List.cons_append, List.getLast?_concat]

theorem trim_quote (s : Str) : trim (quote s) = quote s :=
  trim_eq_self rfl (getLast?_quote s) (by decide)

theorem stripQuotes_quote (s : Str) : stripQuotes (quote s) = s := stripQuotes_quoted s

theorem stripQuotes_of_notMem {s : Str} (h : '"'.toUInt8 ∉ s) : stripQuotes s = s :=
  stripQuotes_of_head fun hhead => h (List.mem_of_mem_head? hhead)

/-- The value without a comma at its end. -/
def withoutComma (value : Str) : Str :=
  if value.getLast? = some ','.toUInt8 then value.dropLast else value

/-- What the JSON parser makes of the value of a member. -/
def jsonText (isLast : Bool) (value : Str) : Str := if isLast then withoutComma value else value

theorem jsonValue_quote {value : Str} (h : '"'.toUInt8 ∉ value) :
    jsonValue (quote value) = withoutComma value := by
  have hnot : '"'.toUInt8 ∉ withoutComma value := by
    unfold withoutComma
    split
    · exact fun hmem => h (List.mem_of_mem_dropLast hmem)
    · exact h
  have hvalue : jsonValue (quote value) = stripQuotes (withoutComma (stripQuotes (quote value))) :=
    rfl
  rw [hvalue, stripQuotes_quote, stripQuotes_of_notMem hnot]

theorem jsonValue_quote_comma (value : Str) : jsonValue (quote value ++ lit ",") = value := by
  have hlast : (quote value ++ lit ",").getLast? = some ','.toUInt8 := List.getLast?_concat
  have hquotes : stripQuotes (quote value ++ lit ",") = quote value ++ lit "," := by
    refine stripQuotes_of_last ?_
    rw [hlast]
    decide
  have hcomma : withoutComma (quote value ++ lit ",") = quote value := by
    rw [withoutComma, if_pos hlast]
    exact List.dropLast_concat
  have hvalue : jsonValue (quote value ++ lit ",")
      = stripQuotes (withoutComma (stripQuotes (quote value ++ lit ","))) := rfl
  rw [hvalue, hquotes, hcomma, stripQuotes_quote]

namespace PlainSetting

variable (s : PlainSetting)

theorem notMem_key {ch : UInt8} (h : isIdent ch = false) : ch ∉ s.key := by
  intro hmem
  rw [s.key_ident ch hmem] at h
  cases h

/-- The INI parser trims the value. -/
theorem iniLine_ini : iniLine (trim s.ini) = some (s.key, trim s.value) := by
  obtain ⟨ch, key, hkey, hident⟩ := s.exists_key_eq
  have hch := isIdent_plain hident
  have hline : trim s.ini
      = s.key ++ lit " " ++ '='.toUInt8 :: (lit " " ++ s.value).rdropWhile isParserBlank := by
    have heq : s.ini = s.key ++ lit " " ++ '='.toUInt8 :: (lit " " ++ s.value) := by
      rw [ini, List.append_assoc, List.append_assoc]
      rfl
    rw [heq, hkey, List.cons_append, List.cons_append, trim_cons hch.1, ← List.cons_append,
      ← List.cons_append, rdropWhile_append_cons (by decide)]
  have hseparator : '='.toUInt8 ∉ s.key ++ lit " " := by
    rw [List.mem_append, not_or]
    exact ⟨s.notMem_key (by decide), by decide⟩
  have hleft : trim (s.key ++ lit " ") = s.key := by
    rw [trim_append_right isParserBlank_of_mem_lit, trim_of_ident s.key_ident]
  have hright : trim ((lit " " ++ s.value).rdropWhile isParserBlank) = trim s.value := by
    rw [trim_rdropWhile, trim_append_left isParserBlank_of_mem_lit]
  rw [hline, hkey, List.cons_append, List.cons_append, iniLine,
    if_neg (not_or.mpr ⟨hch.2.2.2.1, hch.2.2.2.2.1⟩), ← List.cons_append, ← List.cons_append,
    ← hkey, splitAt_append hseparator, hleft, hright]

/-- The YAML parser leaves the quotes. -/
theorem yamlLine_yaml : yamlLine (trim s.yaml) = some (s.key, quote s.value) := by
  obtain ⟨ch, key, hkey, hident⟩ := s.exists_key_eq
  have hch := isIdent_plain hident
  have heq : s.yaml = s.key ++ ':'.toUInt8 :: (lit " " ++ quote s.value) := by
    rw [yaml, List.append_assoc]
    rfl
  have hlast : s.yaml.getLast? = some '"'.toUInt8 := by
    rw [yaml, List.getLast?_append, getLast?_quote, Option.some_or]
  have htrim : trim s.yaml = s.yaml := by
    have hfirst : s.yaml.head? = some ch := by
      rw [heq, hkey]
      rfl
    exact trim_eq_self hfirst hlast ⟨hch.1, by decide⟩
  rw [htrim, heq, hkey, List.cons_append, yamlLine, if_neg hch.2.2.2.1, ← List.cons_append,
    ← hkey, splitAt_append (s.notMem_key (by decide)), trim_of_ident s.key_ident,
    trim_append_left isParserBlank_of_mem_lit, trim_quote]

/-- A member ends with a quote or a comma. -/
theorem getLast?_json (isLast : Bool) (pre value : Str) :
    ∃ ch, (pre ++ (quote value ++ comma isLast)).getLast? = some ch ∧ isParserBlank ch = false := by
  cases isLast with
  | true =>
    refine ⟨'"'.toUInt8, ?_, by decide⟩
    show (pre ++ (quote value ++ [])).getLast? = _
    rw [List.append_nil, List.getLast?_append, getLast?_quote, Option.some_or]
  | false =>
    refine ⟨','.toUInt8, ?_, by decide⟩
    rw [← List.append_assoc]
    exact List.getLast?_concat

/-- The JSON parser takes off the quotes and the comma behind them or, in the last
member, a comma in front of them. -/
theorem jsonLine_json (isLast : Bool) :
    jsonLine (trim (s.json isLast)) = some (s.key, jsonText isLast s.value) := by
  have hblank : ∀ ch ∈ lit "  ", isParserBlank ch = true := List.all_eq_true.mp (by decide)
  have heq : s.json isLast = lit "  " ++ (quote s.key ++ ':'.toUInt8 ::
      (lit " " ++ (quote s.value ++ comma isLast))) := by
    simp only [json, List.append_assoc]
    rfl
  have hkeep : trim (quote s.value ++ comma isLast) = quote s.value ++ comma isLast := by
    obtain ⟨ch, hlast, hch⟩ := getLast?_json isLast [] s.value
    exact trim_eq_self rfl hlast ⟨by decide, hch⟩
  have htrim : trim (s.json isLast)
      = quote s.key ++ ':'.toUInt8 :: (lit " " ++ (quote s.value ++ comma isLast)) := by
    obtain ⟨ch, hlast, hch⟩ := getLast?_json isLast (quote s.key ++ lit ": ") s.value
    rw [heq, trim_append_left hblank]
    refine trim_eq_self rfl ?_ ⟨by decide, hch⟩
    rw [← hlast, List.append_assoc]
    rfl
  have hseparator : ':'.toUInt8 ∉ quote s.key := by
    rw [quote, List.mem_cons, List.mem_append, not_or, not_or]
    exact ⟨by decide, s.notMem_key (by decide), by decide⟩
  have hvalue : jsonValue (quote s.value ++ comma isLast) = jsonText isLast s.value := by
    cases isLast with
    | true =>
      show jsonValue (quote s.value ++ []) = withoutComma s.value
      rw [List.append_nil, jsonValue_quote s.no_quote]
    | false => exact jsonValue_quote_comma s.value
  rw [htrim]
  -- the line starts with a quote, so it is no comment
  show (splitAt ':'.toUInt8 (quote s.key ++ ':'.toUInt8 :: _)).map _ = _
  rw [splitAt_append hseparator, Option.map_some, trim_quote,
    trim_append_left isParserBlank_of_mem_lit, hkeep, stripQuotes_quote, hvalue]

end PlainSetting

/-! ## Files -/

/-- A parser reads a file of lines line by line. -/
theorem parseString_unlines (read : LineReader) {lines : List Str}
    (h : ∀ line ∈ lines, '\n'.toUInt8 ∉ line) (c : NtpConfig) :
    parseString read (unlines lines) c
      = (true, configFields.storeAll c (lines.flatMap (parserLineAssignments read))) := by
  rw [parseString, parseFileWith_some, formatAssignments, unlines, getlines_flatMap h]

namespace PlainSetting

variable (s : PlainSetting)

theorem lineFeed_notMem_quote {t : Str} (h : '\n'.toUInt8 ∉ t) : '\n'.toUInt8 ∉ quote t := by
  rw [quote, List.mem_cons, List.mem_append, not_or, not_or]
  exact ⟨by decide, h, by decide⟩

theorem lineFeed_notMem_ini : '\n'.toUInt8 ∉ s.ini := by
  simp only [ini, List.mem_append, not_or]
  exact ⟨⟨s.notMem_key (by decide), by decide⟩, s.no_break⟩

theorem lineFeed_notMem_yaml : '\n'.toUInt8 ∉ s.yaml := by
  simp only [yaml, List.mem_append, not_or]
  exact ⟨⟨s.notMem_key (by decide), by decide⟩, lineFeed_notMem_quote s.no_break⟩

theorem lineFeed_notMem_json (isLast : Bool) : '\n'.toUInt8 ∉ s.json isLast := by
  simp only [json, List.mem_append, not_or]
  refine ⟨⟨⟨⟨by decide, lineFeed_notMem_quote (s.notMem_key (by decide))⟩, by decide⟩,
    lineFeed_notMem_quote s.no_break⟩, ?_⟩
  cases isLast <;> decide

end PlainSetting

/-- What the settings of a file assign, when the chain reads of each the text a
format leaves it. -/
def assignedBy (text : Bool → Str → Str) (settings : List PlainSetting) : List Assignment :=
  (markLast settings).flatMap fun p => keyValueAssignments p.1.key (text p.2 p.1.value)

/-- The INI parser reads the trimmed values. -/
theorem read_ini (settings : List PlainSetting) (c : NtpConfig) :
    parseString iniLine (renderIni settings) c
      = (true, configFields.storeAll c (assignedBy (fun _ => trim) settings)) := by
  have hlines : ∀ line ∈ settings.map (·.ini), '\n'.toUInt8 ∉ line := by
    intro line hline
    obtain ⟨s, -, rfl⟩ := List.mem_map.mp hline
    exact s.lineFeed_notMem_ini
  rw [renderIni, parseString_unlines iniLine hlines]
  conv_lhs => rw [← map_fst_markLast settings]
  rw [List.map_map, List.flatMap_map, assignedBy]
  simp only [parserLineAssignments, Function.comp_apply, PlainSetting.iniLine_ini]

/-- The YAML parser reads the quoted values. -/
theorem read_yaml (settings : List PlainSetting) (c : NtpConfig) :
    parseString yamlLine (renderYaml settings) c
      = (true, configFields.storeAll c (assignedBy (fun _ => quote) settings)) := by
  have hlines : ∀ line ∈ settings.map (·.yaml), '\n'.toUInt8 ∉ line := by
    intro line hline
    obtain ⟨s, -, rfl⟩ := List.mem_map.mp hline
    exact s.lineFeed_notMem_yaml
  rw [renderYaml, parseString_unlines yamlLine hlines]
  conv_lhs => rw [← map_fst_markLast settings]
  rw [List.map_map, List.flatMap_map, assignedBy]
  simp only [parserLineAssignments, Function.comp_apply, PlainSetting.yamlLine_yaml]

/-- The JSON parser reads the values, the last without a comma at its end. -/
theorem read_json (settings : List PlainSetting) (c : NtpConfig) :
    parseString jsonLine (renderJson settings) c
      = (true, configFields.storeAll c (assignedBy jsonText settings)) := by
  have hlines : ∀ line ∈ jsonLines settings, '\n'.toUInt8 ∉ line := by
    intro line hline
    rw [jsonLines, List.mem_append, List.mem_cons, List.mem_singleton] at hline
    rcases hline with (rfl | hline) | rfl
    · decide
    · obtain ⟨p, -, rfl⟩ := List.mem_map.mp hline
      exact p.1.lineFeed_notMem_json p.2
    · decide
  have hopen : parserLineAssignments jsonLine (lit "\x7b") = [] := by decide +kernel
  have hclose : parserLineAssignments jsonLine (lit "\x7d") = [] := by decide +kernel
  rw [renderJson, parseString_unlines jsonLine hlines, jsonLines, List.flatMap_append,
    List.flatMap_cons,
    List.flatMap_singleton, hopen, hclose, List.nil_append, List.append_nil, List.flatMap_map,
    assignedBy]
  simp only [parserLineAssignments, PlainSetting.jsonLine_json]

/-! ## What each kind of setting makes of the texts -/

/-- When a setting means the same in the three formats, where it ends with what it
is given:
- a text or a list never, since the YAML parser leaves the quotes in it;
- a flag or one of some names when neither the trimmed value nor, in the last
  member, the value without its comma is the name of anything, since what is stored
  is then the default three times;
- a number when it is not one the arm stores, or the one the field holds, since
  with quotes nothing is stored. -/
def Reader.SameInFormats : {α : Type} → Reader α → α → Bool → Str → Prop
  | _, text, _, _, _ => False
  | _, flag, _, isLast, value =>
    stringToBool (trim value) = false ∧
      (isLast = true → stringToBool (withoutComma value) = false)
  | _, list, _, _, _ => False
  | _, signed inRange f, held, _, value => ∀ n, parseSigned inRange f value = some n → n = held
  | _, unsigned inRange f, held, _, value =>
    ∀ n, parseUnsigned inRange f value = some n → n = held
  | _, choice names default _, _, isLast, value =>
    choose names default (trim value) = default ∧
      (isLast = true → choose names default (withoutComma value) = default)
  | _, keys, _, _, _ => False

theorem quote_not_ident (s : Str) : ∃ ch ∈ quote s, isIdent ch = false :=
  ⟨'"'.toUInt8, List.mem_cons_self, by decide⟩

/-- A text with a character no word has is no truth value. -/
theorem stringToBool_eq_false {x : Str} (h : ∃ ch ∈ x, isIdent ch = false) :
    stringToBool x = false := by
  obtain ⟨ch, hch, hident⟩ := h
  have hwords : truthWords.all (·.all isNameChar) = true := by decide
  rw [← Bool.not_eq_true, stringToBool_iff]
  intro hmem
  have hname := isNameChar_of_all hwords _ hmem (toLower ch) (List.mem_map_of_mem hch)
  rw [isIdent, hname] at hident
  cases hident

/-- Something that tells words apart and is the default of every other text is the
same of the three texts exactly when it is the default of all. -/
theorem word_iff {β : Type} {g : Str → β} {d : β}
    (hg : ∀ x : Str, (∃ ch ∈ x, isIdent ch = false) → g x = d) (isLast : Bool) (value : Str) :
    g (jsonText isLast value) = g (trim value) ∧ g (quote value) = g (trim value) ↔
      g (trim value) = d ∧ (isLast = true → g (withoutComma value) = d) := by
  rw [hg (quote value) (quote_not_ident value)]
  constructor
  · rintro ⟨hjson, hyaml⟩
    refine ⟨hyaml.symm, ?_⟩
    rintro rfl
    exact hjson.trans hyaml.symm
  · rintro ⟨htrim, hcomma⟩
    refine ⟨?_, htrim.symm⟩
    rw [htrim]
    cases isLast with
    | true => exact hcomma rfl
    | false =>
      show g value = d
      by_cases hident : ∀ ch ∈ value, isIdent ch = true
      · rwa [trim_of_ident hident] at htrim
      · refine hg value ?_
        simpa only [not_forall, Bool.not_eq_true, exists_prop] using hident

theorem isSpace_of_isParserBlank {ch : UInt8} (h : isParserBlank ch = true) :
    isSpace ch = true := by
  revert h
  exact forall_uint8 (by decide +kernel) ch

theorem scanInteger_trim (value : Str) : scanInteger (trim value) = scanInteger value := by
  obtain ⟨pre, post, hpre, hpost, hvalue⟩ := exists_strip isParserBlank value
  conv_rhs => rw [hvalue]
  exact (scanInteger_append (fun ch hch => isSpace_of_isParserBlank (hpre ch hch))
    (fun ch hch => isSpace_of_isParserBlank (hpost ch hch)) _).symm

theorem scanInteger_quote (value : Str) : scanInteger (quote value) = none := by
  rw [← List.nil_append (quote value)]
  exact scanInteger_eq_none (fun _ hnil => absurd hnil List.not_mem_nil) (by decide) (by decide)
    (by decide) (by decide) _

theorem scanInteger_jsonText (isLast : Bool) (value : Str) :
    scanInteger (jsonText isLast value) = scanInteger value := by
  have hcomma : scanInteger (withoutComma value) = scanInteger value := by
    unfold withoutComma
    split
    · rename_i hlast
      obtain ⟨front, hfront⟩ := List.getLast?_eq_some_iff.mp hlast
      rw [hfront, List.dropLast_concat]
      exact (scanInteger_append_cons (by decide) (by decide) (by decide) (by decide) front []).symm
    · rfl
  cases isLast with
  | true => exact hcomma
  | false => rfl

/-- A number is read of the trimmed and the JSON text alike, and not of the quoted
one. -/
theorem number_iff {β : Type} {g : Str → Option β}
    (hcongr : ∀ {x y}, scanInteger x = scanInteger y → g x = g y)
    (hnone : ∀ {x}, scanInteger x = none → g x = none) {isLast : Bool} {value : Str} {a held : β}
    (ha : g (trim value) = some a) :
    g (jsonText isLast value) = some a ∧ (g (quote value)).getD held = a ↔
      ∀ n, g value = some n → n = held := by
  have hvalue : g value = some a := (hcongr (scanInteger_trim value)).symm.trans ha
  rw [hcongr (scanInteger_jsonText isLast value), hnone (scanInteger_quote value), hvalue,
    Option.getD_none]
  constructor
  · rintro ⟨-, rfl⟩ n hn
    exact (Option.some.inj hn).symm
  · exact fun h => ⟨rfl, (h a rfl).symm⟩

theorem parseSigned_congr {α : Type} (inRange : Int → Bool) (f : Int → α) {x y : Str}
    (h : scanInteger x = scanInteger y) : parseSigned inRange f x = parseSigned inRange f y := by
  rw [parseSigned, parseSigned, stoi_congr h]

theorem parseSigned_eq_none {α : Type} (inRange : Int → Bool) (f : Int → α) {x : Str}
    (h : scanInteger x = none) : parseSigned inRange f x = none := by
  rw [parseSigned, stoi_eq_error h]

theorem parseUnsigned_congr {α : Type} (inRange : UInt64 → Bool) (f : UInt64 → α) {x y : Str}
    (h : scanInteger x = scanInteger y) :
    parseUnsigned inRange f x = parseUnsigned inRange f y := by
  rw [parseUnsigned, parseUnsigned, stoull_congr h]

theorem parseUnsigned_eq_none {α : Type} (inRange : UInt64 → Bool) (f : UInt64 → α) {x : Str}
    (h : scanInteger x = none) : parseUnsigned inRange f x = none := by
  rw [parseUnsigned, stoull_eq_error h]

/-- The quotes around a list stay in its items. -/
theorem parseList_quote_ne {value : Str} (h : '"'.toUInt8 ∉ value) :
    parseList (quote value) ≠ parseList (trim value) :=
  items_ne rfl (by decide) (mem_strip_iff (by decide)) List.mem_cons_self
    fun hmem => h ((mem_strip_iff (by decide) value).mp hmem)

/-- **Where the trimmed value is stored, the condition is exact.** -/
theorem Reader.sameInFormats_iff {α : Type} {r : Reader α} (h : r.Parsed) {value : Str}
    (hquote : '"'.toUInt8 ∉ value) (isLast : Bool) {held a : α}
    (ha : r.parse (trim value) = some a) :
    r.parse (jsonText isLast value) = some a ∧ (r.parse (quote value)).getD held = a ↔
      r.SameInFormats held isLast value := by
  cases r with
  | text =>
    cases ha
    refine iff_of_false (fun hboth => ?_) id
    have hmem : '"'.toUInt8 ∈ trim value := by
      rw [← show quote value = trim value from hboth.2]
      exact List.mem_cons_self
    exact hquote ((mem_strip_iff (by decide) value).mp hmem)
  | flag =>
    cases ha
    exact (and_congr_left' Option.some_inj).trans
      (word_iff (fun _ => stringToBool_eq_false) isLast value)
  | list =>
    cases ha
    exact iff_of_false (fun hboth => parseList_quote_ne hquote hboth.2) id
  | signed inRange f =>
    exact number_iff (parseSigned_congr inRange f) (parseSigned_eq_none inRange f) ha
  | unsigned inRange f =>
    exact number_iff (parseUnsigned_congr inRange f) (parseUnsigned_eq_none inRange f) ha
  | choice names default hnames =>
    cases ha
    exact (and_congr_left' Option.some_inj).trans
      (word_iff (fun _ => choose_eq_default hnames) isLast value)
  | keys => exact h.elim

/-- A value of which nothing is stored means the same. -/
theorem Reader.sameInFormats_of_none {α : Type} {r : Reader α} {value : Str}
    (h : r.parse (trim value) = none) (hparsed : r.Parsed) (isLast : Bool) (held : α) :
    r.SameInFormats held isLast value := by
  cases r with
  | text | flag | list | choice => cases h
  | signed inRange f =>
    intro n hn
    rw [← parseSigned_congr inRange f (scanInteger_trim value)] at hn
    cases h.symm.trans hn
  | unsigned inRange f =>
    intro n hn
    rw [← parseUnsigned_congr inRange f (scanInteger_trim value)] at hn
    cases h.symm.trans hn
  | keys => exact hparsed.elim

/-- The JSON parser's text is stored where the INI parser's is. -/
theorem Reader.isSome_parse_jsonText {α : Type} (r : Reader α) (isLast : Bool) (value : Str) :
    (r.parse (jsonText isLast value)).isSome = (r.parse (trim value)).isSome := by
  cases r with
  | text | flag | list | choice | keys => rfl
  | signed inRange f =>
    exact congrArg Option.isSome (parseSigned_congr inRange f
      ((scanInteger_jsonText isLast value).trans (scanInteger_trim value).symm))
  | unsigned inRange f =>
    exact congrArg Option.isSome (parseUnsigned_congr inRange f
      ((scanInteger_jsonText isLast value).trans (scanInteger_trim value).symm))

/-- A kind of setting of which one quoted value is not stored stores none. -/
theorem Reader.parse_quote_eq_none {α : Type} {r : Reader α} {value : Str}
    (h : r.parse (quote value) = none) (other : Str) : r.parse (quote other) = none := by
  cases r with
  | text | flag | list | choice => cases h
  | signed inRange f => exact parseSigned_eq_none inRange f (scanInteger_quote other)
  | unsigned inRange f => exact parseUnsigned_eq_none inRange f (scanInteger_quote other)
  | keys => rfl

/-- A quoted value is not stored where the trimmed one is not. -/
theorem Reader.parse_quote_of_none {α : Type} {r : Reader α} {value : Str}
    (h : r.parse (trim value) = none) : r.parse (quote value) = none := by
  cases r with
  | text | flag | list | choice => cases h
  | signed inRange f => exact parseSigned_eq_none inRange f (scanInteger_quote value)
  | unsigned inRange f => exact parseUnsigned_eq_none inRange f (scanInteger_quote value)
  | keys => rfl

/-! ## Files that mean the same -/

/-- The setting stores a value in the field. -/
def PlainSetting.AssignsTo (s : PlainSetting) (f : Field) : Prop :=
  ∃ setting, parserArm s.key = some (setting, f) ∧ (setting.reader.parse s.value).isSome = true

/-- Every setting of a file that no later one replaces means the same in the three
formats. -/
def FormatsAgree (settings : List PlainSetting) (c : NtpConfig) : Prop :=
  ∀ before s isLast after, markLast settings = before ++ (s, isLast) :: after →
    ∀ setting f, parserArm s.key = some (setting, f) →
      (∀ later ∈ after, ¬later.1.AssignsTo f) →
        setting.reader.SameInFormats (setting.get c) isLast s.value

namespace PlainSetting

variable {s : PlainSetting} {f : Field}

/-- A setting stores nothing in a field when its arm has another or does not store
the trimmed value. -/
theorem not_assignsTo_iff :
    ¬s.AssignsTo f ↔ last f (keyValueAssignments s.key (trim s.value)) = none := by
  rw [last_keyValueAssignments_eq_none_iff, AssignsTo, not_exists]
  refine forall_congr' fun setting => ?_
  rw [not_and, ← Option.not_isSome_iff_eq_none,
    ← setting.reader.isSome_parse_jsonText false s.value]
  exact Iff.rfl

/-- What the INI parser does not store the others do not. -/
theorem last_of_not_assignsTo (h : ¬s.AssignsTo f) (isLast : Bool) :
    last f (keyValueAssignments s.key (jsonText isLast s.value)) = none ∧
      last f (keyValueAssignments s.key (quote s.value)) = none := by
  rw [not_assignsTo_iff, last_keyValueAssignments_eq_none_iff] at h
  constructor
  · refine last_keyValueAssignments_eq_none_iff.mpr fun setting harm => ?_
    rw [← Option.not_isSome_iff_eq_none, setting.reader.isSome_parse_jsonText, h setting harm]
    exact Bool.false_ne_true
  · exact last_keyValueAssignments_eq_none_iff.mpr fun setting harm =>
      Reader.parse_quote_of_none (h setting harm)

end PlainSetting

/-- The setting behind which nothing is stored in its field decides about the
field. -/
theorem agree_at_iff {settings : List PlainSetting}
    {before after : List (PlainSetting × Bool)} {s : PlainSetting} {isLast : Bool}
    (hsettings : markLast settings = before ++ (s, isLast) :: after) {setting : Setting} {f : Field}
    (harm : parserArm s.key = some (setting, f)) (hafter : ∀ later ∈ after, ¬later.1.AssignsTo f)
    {a : setting.Value} (ha : setting.reader.parse (trim s.value) = some a) (c : NtpConfig) :
    ((last f (assignedBy (fun _ => trim) settings)).getD (c.field f)
        = (last f (assignedBy jsonText settings)).getD (c.field f) ∧
      (last f (assignedBy (fun _ => trim) settings)).getD (c.field f)
        = (last f (assignedBy (fun _ => quote) settings)).getD (c.field f)) ↔
      setting.reader.SameInFormats (setting.get c) isLast s.value := by
  have hstores := storesIn_of_parserArm harm
  have hini : last f (assignedBy (fun _ => trim) settings)
      = some ((setting.set a .defaults).field f) := by
    rw [assignedBy, hsettings,
      last_flatMap_append_cons fun b hb => PlainSetting.not_assignsTo_iff.mp (hafter b hb),
      last_keyValueAssignments_of_some harm, ha]
    rfl
  obtain ⟨b, hb⟩ : ∃ b, setting.reader.parse (jsonText isLast s.value) = some b := by
    rw [← Option.isSome_iff_exists, setting.reader.isSome_parse_jsonText, ha]
    rfl
  have hjson : last f (assignedBy jsonText settings)
      = some ((setting.set b .defaults).field f) := by
    rw [assignedBy, hsettings, last_flatMap_append_cons fun later hmem =>
        (PlainSetting.last_of_not_assignsTo (hafter later hmem) later.2).1,
      last_keyValueAssignments_of_some harm, hb]
    rfl
  have hyaml : last f (assignedBy (fun _ => quote) settings)
      = (setting.reader.parse (quote s.value)).map
        fun v => (setting.set v .defaults).field f := by
    rw [assignedBy, hsettings, last_flatMap_append_cons fun later hmem =>
        (PlainSetting.last_of_not_assignsTo (hafter later hmem) later.2).2,
      last_keyValueAssignments_of_some harm]
    cases hquote : setting.reader.parse (quote s.value) with
    | some v => rfl
    | none =>
      -- a number: with quotes the settings in front assign nothing to the field either
      rw [Option.map_none, Option.none_or, last_flatMap_eq_none_iff]
      intro earlier _
      refine last_keyValueAssignments_eq_none_iff.mpr fun setting' harm' => ?_
      rw [parserArm_inj harm' harm]
      exact Reader.parse_quote_eq_none hquote earlier.1.value
  rw [← Reader.sameInFormats_iff (parsed_of_parserArm harm) s.no_quote isLast ha, hini, hjson,
    hyaml, Option.getD_some]
  refine and_congr ?_ ?_
  · rw [hb, Option.getD_some, hstores.field_inj, Option.some_inj, eq_comm]
  · cases setting.reader.parse (quote s.value) with
    | some v => rw [Option.map_some, Option.getD_some, hstores.field_inj, Option.getD_some, eq_comm]
    | none => rw [Option.map_none, Option.getD_none, eq_comm, hstores.field_eq_iff, Option.getD_none]

/-- **The three formats mean the same exactly there.** -/
theorem formats_agree_iff (settings : List PlainSetting) (c : NtpConfig) :
    (parseString iniLine (renderIni settings) c = parseString jsonLine (renderJson settings) c ∧
      parseString iniLine (renderIni settings) c = parseString yamlLine (renderYaml settings) c) ↔
      FormatsAgree settings c := by
  rw [read_ini, read_json, read_yaml, Prod.mk.injEq, Prod.mk.injEq, Fields.storeAll_eq_iff,
    Fields.storeAll_eq_iff]
  simp only [true_and, ← forall_and]
  constructor
  · intro h before s isLast after hsettings setting f harm hafter
    cases ha : setting.reader.parse (trim s.value) with
    | none => exact Reader.sameInFormats_of_none ha (parsed_of_parserArm harm) isLast _
    | some a => exact (agree_at_iff hsettings harm hafter ha c).mp (h f)
  · intro h f
    cases hini : last f (assignedBy (fun _ => trim) settings) with
    | none =>
      have hnot : ∀ p ∈ markLast settings, ¬p.1.AssignsTo f := fun p hp =>
        PlainSetting.not_assignsTo_iff.mpr (last_flatMap_eq_none_iff.mp hini p hp)
      have hjson : last f (assignedBy jsonText settings) = none :=
        last_flatMap_eq_none_iff.mpr fun p hp =>
          (PlainSetting.last_of_not_assignsTo (hnot p hp) p.2).1
      have hyaml : last f (assignedBy (fun _ => quote) settings) = none :=
        last_flatMap_eq_none_iff.mpr fun p hp =>
          (PlainSetting.last_of_not_assignsTo (hnot p hp) p.2).2
      rw [hjson, hyaml]
      exact ⟨rfl, rfl⟩
    | some x =>
      obtain ⟨before, ⟨s, isLast⟩, after, hsettings, hs, hafter⟩ := exists_of_last_flatMap hini
      have hassigns : s.AssignsTo f := by
        by_contra hnot
        rw [PlainSetting.not_assignsTo_iff.mp hnot] at hs
        cases hs
      obtain ⟨setting, harm, -⟩ := hassigns
      rw [last_keyValueAssignments_of_some harm, Option.map_eq_some_iff] at hs
      obtain ⟨a, ha, -⟩ := hs
      have hlater : ∀ later ∈ after, ¬later.1.AssignsTo f := fun later hmem =>
        PlainSetting.not_assignsTo_iff.mpr (hafter later hmem)
      rw [← hini]
      exact (agree_at_iff hsettings harm hlater ha c).mpr
        (h before s isLast after hsettings setting f harm hlater)

/-- The address of the shipped examples. -/
def listenAddressSetting : PlainSetting where
  key := lit "listen_address"
  value := lit "0.0.0.0"
  supported := by decide +kernel
  no_break := by decide
  no_quote := by decide

/-- The YAML parser leaves the quotes around it. -/
theorem yaml_keeps_quotes :
    ¬ ∀ (settings : List PlainSetting) (c : NtpConfig),
      parseString iniLine (renderIni settings) c = parseString jsonLine (renderJson settings) c ∧
        parseString iniLine (renderIni settings) c
          = parseString yamlLine (renderYaml settings) c := by
  intro h
  have haddress := congrArg (fun result => result.2.listenAddress)
    (h [listenAddressSetting] .defaults).2
  revert haddress
  decide +kernel

end SimpleNtpd
