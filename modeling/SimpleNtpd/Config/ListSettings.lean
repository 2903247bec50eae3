import SimpleNtpd.Config.Dispatchers
import SimpleNtpd.Config.KeyTables
import SimpleNtpd.Lib.DelimitedText

/-!
# List settings

Three settings hold lists: the upstream servers, the allowed and the denied clients. Each
has its own copy of one loop in `parseCommandLineArg`, and `ConfigParser::parseList` is
another. The copies take blanks and tabs off an item by erasing up to the position of the
first character to keep, and from behind the last, which wraps around for an item of blanks
only (`trimInPlace`); the parser cuts out what stands between the two (`trimBySubstr`), and
its blanks are also carriage returns and line feeds.

`list_settings` says what the four loops leave: the items of the text, in order. On a text
without line breaks they are the same, and a list of plain entries comes back from any way
of writing it with commas and blanks. `parseList_trims_line_break` is where they differ.
-/

namespace SimpleNtpd

open Cpp

/-! ## The loops -/

/-- The body of the three copies (config.cpp:349–350, 437–438, 450–451). -/
def trimInPlace (item : Str) : Str :=
  let item := erase item 0 (findFirstNotOf isBlank item)
  erase item (u64 (findLastNotOf isBlank item + 1)) npos

/-- The body of `ConfigParser::trim` (parser.cpp:215–222). -/
def trimBySubstr (s : Str) : Str :=
  let first := findFirstNotOf isParserBlank s
  if first = npos then []
  else
    let last := findLastNotOf isParserBlank s
    substr s first (u64 ((last : Int) - first + 1))

/-- The loop: the items are trimmed one after the other, and the nonempty ones pushed back. -/
def collectItems (trimItem : Str → Str) (value : Str) : List Str :=
  (getlines ','.toUInt8 value).foldl (fun items item =>
    let item := trimItem item
    if item.isEmpty then items else items ++ [item]) []

theorem trimInPlace_eq {item : Str} (h : item.length ≤ npos) :
    trimInPlace item = trimRight (trimLeft item) := by
  have hle : (item.dropWhile isBlank).length ≤ npos :=
    Nat.le_trans (List.dropWhile_sublist isBlank).length_le h
  rw [trimInPlace, erase_findFirstNotOf h, erase_findLastNotOf hle]
  rfl

theorem trimBySubstr_eq {s : Str} (h : s.length ≤ npos) : trimBySubstr s = trim s :=
  substr_findNotOf h

/-- What the loop collects; induction on the items, with those already collected. -/
theorem collectItems_eq (trimItem : Str → Str) (value : Str) :
    collectItems trimItem value
      = ((getlines ','.toUInt8 value).map trimItem).filter (!·.isEmpty) := by
  have hloop : ∀ items done : List Str,
      items.foldl (fun items item =>
        let item := trimItem item
        if item.isEmpty then items else items ++ [item]) done
        = done ++ (items.map trimItem).filter (!·.isEmpty) := by
    intro items
    induction items with
    | nil => exact fun done => (List.append_nil done).symm
    | cons item items ih =>
      intro done
      rw [List.foldl_cons, ih, List.map_cons]
      dsimp only
      cases hempty : (trimItem item).isEmpty with
      | true => rw [if_pos rfl, List.filter_cons_of_neg (by rw [hempty]; decide)]
      | false =>
        rw [if_neg Bool.false_ne_true, List.filter_cons_of_pos (by rw [hempty]; decide),
          List.append_assoc]
        rfl
  exact hloop _ []

/-- Two ways to trim that agree on every item collect the same. -/
theorem collectItems_congr {f g : Str → Str} {value : Str}
    (h : ∀ item ∈ getlines ','.toUInt8 value, f item = g item) :
    collectItems f value = ((getlines ','.toUInt8 value).map g).filter (!·.isEmpty) := by
  rw [collectItems_eq, List.map_congr_left h]

/-- The copies, for every text there can be. -/
theorem collectItems_trimInPlace {value : Str} (h : value.length ≤ npos) :
    collectItems trimInPlace value = readList value :=
  collectItems_congr fun _ hitem =>
    trimInPlace_eq (Nat.le_trans (length_le_of_mem_getlines hitem) h)

theorem collectItems_trimBySubstr {value : Str} (h : value.length ≤ npos) :
    collectItems trimBySubstr value = parseList value :=
  collectItems_congr fun _ hitem =>
    trimBySubstr_eq (Nat.le_trans (length_le_of_mem_getlines hitem) h)

/-! ## The arms -/

/-- A configuration with a list stored in one of its list fields. -/
def Field.storeList : Field → Option (NtpConfig → List Str → NtpConfig)
  | .upstreamServers => some fun c items => { c with upstreamServers := items }
  | .allowedClients => some fun c items => { c with allowedClients := items }
  | .deniedClients => some fun c items => { c with deniedClients := items }
  | _ => none

/-- The arms of the three lists store what they read and return true. -/
theorem settings_readList :
    List.Forall₂ (fun entry f => ∀ store, f.storeList = some store → ∀ value c,
      entry.2.apply value c = (true, store c (readList value)))
      settings settingFields := by
  unfold settings settingFields
  repeat
    refine .cons (fun store hstore => ?_) ?_
    · cases hstore <;> exact fun value c => rfl
  exact .nil

theorem parseCommandLineArg_of_list {key : Str} {f : Field}
    {store : NtpConfig → List Str → NtpConfig} (hkey : keyField key = some f)
    (hf : f.storeList = some store) (c : NtpConfig) (value : Str) :
    c.parseCommandLineArg key value = (true, store c (readList value)) := by
  obtain ⟨s, hs, happly⟩ := exists_setting_of_key
    (P := fun s f => ∀ store, f.storeList = some store → ∀ value c,
      s.apply value c = (true, store c (readList value)))
    settings_readList hkey
  rw [NtpConfig.parseCommandLineArg_of_some hs]
  exact happly store hf value c

/-! ## Texts and lists -/

/-- An entry that can be written into a list: some characters, none of them a comma or a
line break, and no blank at its ends. -/
structure PlainEntry (entry : Str) : Prop where
  nonempty : entry ≠ []
  comma_notMem : ','.toUInt8 ∉ entry
  trimmed : trimRight (trimLeft entry) = entry
  return_notMem : '\r'.toUInt8 ∉ entry
  newline_notMem : '\n'.toUInt8 ∉ entry

/-- A field is an entry with blanks and tabs around it. -/
def BlanksAround (entry field : Str) : Prop :=
  ∃ pre post, (∀ c ∈ pre, isBlank c = true) ∧ (∀ c ∈ post, isBlank c = true) ∧
    field = pre ++ entry ++ post

/-- A field of an entry between blanks holds the entry, as the copies trim it. -/
theorem PlainEntry.trimsTo {entry field : Str} (h : PlainEntry entry)
    (hfield : BlanksAround entry field) : TrimsTo isBlank field entry := by
  obtain ⟨pre, post, hpre, hpost, rfl⟩ := hfield
  exact ⟨pre, post, hpre, hpost, rfl, strip_eq_self_iff.mp h.trimmed⟩

/-- The same field holds the entry as the parser trims it. -/
theorem PlainEntry.trimsTo_parser {entry field : Str} (h : PlainEntry entry)
    (hfield : BlanksAround entry field) : TrimsTo isParserBlank field entry := by
  obtain ⟨pre, post, hpre, hpost, rfl⟩ := hfield
  refine ⟨pre, post, fun c hc => isParserBlank_of_isBlank (hpre c hc),
    fun c hc => isParserBlank_of_isBlank (hpost c hc), rfl, fun c hc => ?_⟩
  have hmem : c ∈ entry := hc.elim List.mem_of_mem_head? List.mem_of_mem_getLast?
  rw [isParserBlank_eq_false_iff (strip_eq_self_iff.mp h.trimmed c hc)]
  constructor
  · rintro rfl
    exact h.return_notMem hmem
  · rintro rfl
    exact h.newline_notMem hmem

/-- A list of plain entries comes back. -/
theorem readList_intercalate {entries fields : List Str} (h : ∀ e ∈ entries, PlainEntry e)
    (hfields : List.Forall₂ BlanksAround entries fields) :
    readList ([','.toUInt8].intercalate fields) = entries ∧
      parseList ([','.toUInt8].intercalate fields) = entries := by
  have hitems : ∀ e ∈ entries, e ≠ [] ∧ ','.toUInt8 ∉ e :=
    fun e he => ⟨(h e he).nonempty, (h e he).comma_notMem⟩
  have hboth := (List.forall₂_and_left _ _).mpr ⟨h, hfields⟩
  have htrims : List.Forall₂ (TrimsTo isBlank) fields entries :=
    List.Forall₂.flip (hboth.imp fun _ _ ⟨he, hfield⟩ => he.trimsTo hfield)
  have hparser : List.Forall₂ (TrimsTo isParserBlank) fields entries :=
    List.Forall₂.flip (hboth.imp fun _ _ ⟨he, hfield⟩ => he.trimsTo_parser hfield)
  exact ⟨items_intercalate (by decide) hitems htrims, items_intercalate (by decide) hitems hparser⟩

/-- Without line breaks the parser's blanks are the copies'. -/
theorem readList_eq_parseList {value : Str} (hreturn : '\r'.toUInt8 ∉ value)
    (hnewline : '\n'.toUInt8 ∉ value) : readList value = parseList value := by
  refine (readList_eq_iff value).mpr fun item hitem ch hch => ?_
  have hend : ch ∈ trimRight (trimLeft item) :=
    hch.elim List.mem_of_mem_head? List.mem_of_mem_getLast?
  have hsublist : (trimRight (trimLeft item)).Sublist item :=
    (List.rdropWhile_prefix isBlank _).sublist.trans (List.dropWhile_sublist isBlank)
  have hmem : ch ∈ value := mem_of_mem_getlines hitem (hsublist.subset hend)
  constructor
  · rintro rfl
    exact hreturn hmem
  · rintro rfl
    exact hnewline hmem

/-- **The list settings.** For every key of a list setting, every configuration and every
text, what is stored are the items of the text, trimmed of blanks and tabs; the parser's
list has the items trimmed of line breaks too; and the loops, with their positions that
wrap around, are these. Plain entries with commas between them and blanks around come back
from both, and on a text without line breaks both are the same. -/
theorem list_settings :
    (∀ (key : Str) (f : Field) (store : NtpConfig → List Str → NtpConfig),
      keyField key = some f → f.storeList = some store → ∀ (c : NtpConfig) (value : Str),
      c.parseCommandLineArg key value = (true, store c (readList value))) ∧
    (∀ (value : Str) (items : List Str),
      (ItemsOf ','.toUInt8 isBlank value items ↔ items = readList value) ∧
      (ItemsOf ','.toUInt8 isParserBlank value items ↔ items = parseList value)) ∧
    (∀ value : Str, value.length ≤ npos →
      collectItems trimInPlace value = readList value ∧
      collectItems trimBySubstr value = parseList value) ∧
    (∀ entries fields : List Str, (∀ e ∈ entries, PlainEntry e) →
      List.Forall₂ BlanksAround entries fields →
      readList ([','.toUInt8].intercalate fields) = entries ∧
      parseList ([','.toUInt8].intercalate fields) = entries) ∧
    ∀ value : Str, '\r'.toUInt8 ∉ value → '\n'.toUInt8 ∉ value →
      readList value = parseList value :=
  ⟨fun _ _ _ hkey hf c value => parseCommandLineArg_of_list hkey hf c value,
    fun _ _ => ⟨itemsOf_iff, itemsOf_iff⟩,
    fun _ h => ⟨collectItems_trimInPlace h, collectItems_trimBySubstr h⟩,
    fun _ _ => readList_intercalate, fun _ => readList_eq_parseList⟩

/-- The key in capitals, blanks on both sides of the comma, and an empty field. -/
theorem list_settings_example :
    (NtpConfig.defaults.parseCommandLineArg (lit "Deny") (lit " 10.0.0.0/8 ,, ::1")).2.deniedClients
      = [lit "10.0.0.0/8", lit "::1"] := by
  rw [list_settings.1 (lit "Deny") .deniedClients _ (by decide +kernel) rfl]
  decide

/-- The parser takes off the carriage return at the end of a line. -/
theorem parseList_trims_line_break :
    ¬ ∀ value : Str, ItemsOf ','.toUInt8 isBlank value (parseList value) := by
  intro h
  have hread := itemsOf_iff.mp (h (lit "a\r"))
  exact absurd hread (by decide)

end SimpleNtpd
