import SimpleNtpd.Config.KeyFields
import SimpleNtpd.Config.Loader

/-!
# The line grammar of the configuration file

The documentation writes a setting as `key = value`: blanks around the equals
sign, an optional pair of double quotes, either line ending. An `Entry` is a key
and a value, a `Layout` the spacing, quoting and line ending it is written with,
and `Layout.render` the line.

The loader trims the ends of a line but neither side of the equals sign, and a
carriage return counts as a part of the value. So the key it dispatches ends
with the blanks in front of the equals sign, which no setting's name does, and
the value is `Layout.rest`: what follows the equals sign up to the trimmed end,
without quotes only when they are the first and the last character
(`readLine_render`). A line is read as documented when it is `Tight`; every
other line depends on what the setting's conversion makes of the extra
characters. `Honoured` says when that is harmless, kind by kind, and
`honours_grammar` that it says so exactly.
-/

namespace SimpleNtpd

open Cpp

/-! ## Entries and layouts -/

/-- A letter of either case, a digit or an underscore. -/
def isIdent (c : UInt8) : Bool := isNameChar (toLower c)

/-- A character of a value: no line break, no double quote. -/
def isValueChar (c : UInt8) : Bool :=
  c != '\n'.toUInt8 && c != '\r'.toUInt8 && c != '"'.toUInt8

/-- A setting of a configuration file: an identifier and a value without line
breaks, double quotes and surrounding blanks. -/
structure Entry where
  key : Str
  value : Str
  key_ne_nil : key ≠ []
  key_ident : ∀ c ∈ key, isIdent c = true
  value_char : ∀ c ∈ value, isValueChar c = true
  value_trimmed : Trimmed value

/-- A run of blanks and tabs. -/
structure Blanks where
  text : Str
  blank : ∀ c ∈ text, isBlank c = true

/-- How a setting is written: the blanks in front of the key, on both sides of
the equals sign and behind the value, the quotes and the line ending. -/
structure Layout where
  before : Blanks
  beforeEq : Blanks
  afterEq : Blanks
  after : Blanks
  quoted : Bool
  crlf : Bool

/-- The value as it stands in the line. -/
def Layout.quote (l : Layout) (value : Str) : Str :=
  if l.quoted then '"'.toUInt8 :: (value ++ ['"'.toUInt8]) else value

/-- The end of the line in front of the line feed. -/
def Layout.ending (l : Layout) : Str := if l.crlf then ['\r'.toUInt8] else []

/-- The line, without its line feed. -/
def Layout.render (l : Layout) (e : Entry) : Str :=
  l.before.text ++ (e.key ++ l.beforeEq.text ++ '='.toUInt8 ::
    (l.afterEq.text ++ l.quote e.value ++ (l.after.text ++ l.ending)))

/-- What follows the equals sign in the trimmed line. -/
def Layout.rest (l : Layout) (value : Str) : Str :=
  if l.crlf then l.afterEq.text ++ l.quote value ++ (l.after.text ++ l.ending)
  else if l.quote value = [] then []
  else l.afterEq.text ++ l.quote value

/-! ## Characters -/

/-- Where an identifier's character cannot stand. -/
theorem isIdent_spec {c : UInt8} (h : isIdent c = true) :
    isBlank c = false ∧ c ≠ '='.toUInt8 ∧ c ≠ '#'.toUInt8 ∧ c ≠ ';'.toUInt8 ∧
      c ≠ '['.toUInt8 ∧ c ≠ '\n'.toUInt8 := by
  revert h
  exact forall_uint8 (by decide +kernel) c

/-- A blank is a space, and none of the characters the loader looks for. -/
theorem isBlank_spec {c : UInt8} (h : isBlank c = true) :
    isIdent c = false ∧ c ≠ '='.toUInt8 ∧ c ≠ '#'.toUInt8 ∧ c ≠ ';'.toUInt8 ∧
      c ≠ '"'.toUInt8 ∧ c ≠ '\n'.toUInt8 ∧ c ≠ ','.toUInt8 := by
  revert h
  exact forall_uint8 (by decide +kernel) c

theorem Blanks.ne_of_mem (b : Blanks) {c : UInt8} (h : c ∈ b.text) :
    c ≠ ','.toUInt8 ∧ c ≠ ':'.toUInt8 := by
  have hblank := b.blank c h
  constructor <;> rintro rfl <;> exact absurd hblank (by decide)

theorem isValueChar_spec {c : UInt8} (h : isValueChar c = true) :
    c ≠ '\n'.toUInt8 ∧ c ≠ '\r'.toUInt8 ∧ c ≠ '"'.toUInt8 := by
  simpa only [isValueChar, Bool.and_eq_true, bne_iff_ne, and_assoc] using h

namespace Entry

variable (e : Entry)

theorem return_notMem_value : '\r'.toUInt8 ∉ e.value :=
  fun h => (isValueChar_spec (e.value_char _ h)).2.1 rfl

theorem quote_notMem_value : '"'.toUInt8 ∉ e.value :=
  fun h => (isValueChar_spec (e.value_char _ h)).2.2 rfl

end Entry

namespace Layout

variable (l : Layout) (e : Entry)

/-! ## The trimmed line -/

theorem last_quote {c : UInt8} (h : c ∈ (l.quote e.value).getLast?) : isBlank c = false := by
  unfold quote at h
  cases hq : l.quoted with
  | true =>
    rw [hq, if_pos rfl, ← List.cons_append, List.getLast?_concat, Option.mem_some] at h
    rw [← h]
    rfl
  | false =>
    rw [hq, if_neg Bool.false_ne_true] at h
    exact e.value_trimmed.last c h

/-- Trimming the end of the line leaves `rest` behind the equals sign. -/
theorem trimRight_render (a : Str) :
    trimRight (a ++ '='.toUInt8 ::
        (l.afterEq.text ++ l.quote e.value ++ (l.after.text ++ l.ending)))
      = a ++ '='.toUInt8 :: l.rest e.value := by
  unfold rest
  cases hcr : l.crlf with
  | true =>
    -- the carriage return ends the line and is no blank
    have hend : l.ending = ['\r'.toUInt8] := by rw [ending, hcr, if_pos rfl]
    have hline : a ++ '='.toUInt8 ::
          (l.afterEq.text ++ l.quote e.value ++ (l.after.text ++ l.ending))
        = (a ++ '='.toUInt8 :: (l.afterEq.text ++ l.quote e.value ++ l.after.text))
          ++ ['\r'.toUInt8] := by
      simp only [hend, List.append_assoc, List.cons_append]
    rw [if_pos rfl, hline, trimRight_concat_of_not (by decide)]
  | false =>
    have hend : l.ending = [] := by rw [ending, hcr, if_neg Bool.false_ne_true]
    have hline : a ++ '='.toUInt8 ::
          (l.afterEq.text ++ l.quote e.value ++ (l.after.text ++ l.ending))
        = (a ++ '='.toUInt8 :: (l.afterEq.text ++ l.quote e.value)) ++ l.after.text := by
      simp only [hend, List.append_assoc, List.cons_append, List.append_nil]
    rw [if_neg Bool.false_ne_true, hline, trimRight_append l.after.blank]
    rcases List.eq_nil_or_concat' (l.quote e.value) with hq | ⟨t, c, hq⟩
    · -- a bare empty value: the blanks behind the equals sign go too
      have hline : a ++ '='.toUInt8 :: (l.afterEq.text ++ [])
          = (a ++ ['='.toUInt8]) ++ l.afterEq.text := by
        simp only [List.append_assoc, List.cons_append, List.nil_append, List.append_nil]
      rw [hq, if_pos rfl, hline, trimRight_append l.afterEq.blank,
        trimRight_concat_of_not (by decide)]
    · have hc : isBlank c = false := l.last_quote e (by rw [hq, List.getLast?_concat]; rfl)
      have hline : a ++ '='.toUInt8 :: (l.afterEq.text ++ (t ++ [c]))
          = (a ++ '='.toUInt8 :: (l.afterEq.text ++ t)) ++ [c] := by
        simp only [List.append_assoc, List.cons_append]
      rw [hq, if_neg (List.concat_ne_nil _ _), hline, trimRight_concat_of_not hc]

/-- The key starts the trimmed line. -/
theorem trim_render :
    trimRight (trimLeft (l.render e))
      = e.key ++ l.beforeEq.text ++ '='.toUInt8 :: l.rest e.value := by
  obtain ⟨c, key, hkey⟩ := List.exists_cons_of_ne_nil e.key_ne_nil
  have hc : isBlank c = false :=
    (isIdent_spec (e.key_ident c (by rw [hkey]; exact List.mem_cons_self))).1
  rw [← trimRight_render, render, trimLeft_append l.before.blank, hkey, List.cons_append,
    List.cons_append, trimLeft_cons_of_not hc]

/-- The line starts with a blank or an identifier's character. -/
theorem head_render : ∃ ch, (l.render e).head? = some ch ∧
    ch ≠ '#'.toUInt8 ∧ ch ≠ ';'.toUInt8 := by
  rw [render]
  cases hb : l.before.text with
  | nil =>
    obtain ⟨ch, key, hkey⟩ := List.exists_cons_of_ne_nil e.key_ne_nil
    obtain ⟨-, -, hhash, hsemi, -⟩ :=
      isIdent_spec (e.key_ident ch (by rw [hkey]; exact List.mem_cons_self))
    exact ⟨ch, by rw [hkey]; rfl, hhash, hsemi⟩
  | cons ch t =>
    obtain ⟨-, -, hhash, hsemi, -⟩ :=
      isBlank_spec (l.before.blank ch (by rw [hb]; exact List.mem_cons_self))
    exact ⟨ch, rfl, hhash, hsemi⟩

/-- **What the loader dispatches**: the key with the blanks in front of the
equals sign, and the rest of the line. -/
theorem readLine_render (c : NtpConfig) :
    c.readLine (l.render e)
      = (c.parseCommandLineArg (e.key ++ l.beforeEq.text) (stripQuotes (l.rest e.value))).2 := by
  have hsection : isSectionHeader
      (e.key ++ l.beforeEq.text ++ '='.toUInt8 :: l.rest e.value) = false := by
    obtain ⟨ch, key, hkey⟩ := List.exists_cons_of_ne_nil e.key_ne_nil
    obtain ⟨-, -, -, -, hbracket, -⟩ :=
      isIdent_spec (e.key_ident ch (by rw [hkey]; exact List.mem_cons_self))
    have hhead : (some ch == some '['.toUInt8) = false :=
      beq_eq_false_iff_ne.mpr fun h => hbracket (Option.some.inj h)
    rw [isSectionHeader, hkey, List.cons_append, List.cons_append, List.head?_cons, hhead,
      Bool.false_and]
  have heq : '='.toUInt8 ∉ e.key ++ l.beforeEq.text := by
    intro hmem
    rcases List.mem_append.mp hmem with hk | hb
    · exact (isIdent_spec (e.key_ident _ hk)).2.1 rfl
    · exact (isBlank_spec (l.beforeEq.blank _ hb)).2.1 rfl
  have hdrop : (e.key ++ l.beforeEq.text ++ '='.toUInt8 :: l.rest e.value).drop
      ((e.key ++ l.beforeEq.text).length + 1) = l.rest e.value := by
    rw [← List.drop_drop, List.drop_left, List.drop_one, List.tail_cons]
  obtain ⟨ch, hhead, hhash, hsemi⟩ := l.head_render e
  rw [c.readLine_of_head hhead hhash hsemi, NtpConfig.readSetting, trim_render]
  simp only [hsection, Bool.false_eq_true, if_false, find_append heq, List.take_left, hdrop]

/-! ## The value -/

/-- The value stands directly behind the equals sign and in front of the line
feed. -/
def ValueTight (value : Str) : Prop :=
  l.crlf = false ∧ (l.afterEq.text = [] ∨ l.quote value = [])

/-- No blanks around the equals sign, and a line feed only. -/
def Tight (value : Str) : Prop := l.beforeEq.text = [] ∧ l.ValueTight value

theorem quote_of_quoted (h : l.quoted = true) (value : Str) :
    l.quote value = '"'.toUInt8 :: (value ++ ['"'.toUInt8]) := by
  rw [quote, if_pos h]

theorem quote_of_bare (h : l.quoted = false) (value : Str) : l.quote value = value := by
  rw [quote, if_neg (by rw [h]; exact Bool.false_ne_true)]

theorem rest_of_crlf (h : l.crlf = true) (value : Str) :
    l.rest value
      = l.afterEq.text ++ l.quote value ++ (l.after.text ++ ['\r'.toUInt8]) := by
  rw [rest, if_pos h, ending, if_pos h]

theorem rest_of_nil (h : l.crlf = false) {value : Str} (hq : l.quote value = []) :
    l.rest value = [] := by
  rw [rest, if_neg (by rw [h]; exact Bool.false_ne_true), if_pos hq]

theorem rest_of_ne_nil (h : l.crlf = false) {value : Str} (hq : l.quote value ≠ []) :
    l.rest value = l.afterEq.text ++ l.quote value := by
  rw [rest, if_neg (by rw [h]; exact Bool.false_ne_true), if_neg hq]

end Layout

theorem stripQuotes_of_head {s : Str} (h : s.head? ≠ some '"'.toUInt8) : stripQuotes s = s :=
  if_neg fun hq => h hq.2.1

theorem stripQuotes_of_last {s : Str} (h : s.getLast? ≠ some '"'.toUInt8) : stripQuotes s = s :=
  if_neg fun hq => h hq.2.2

theorem stripQuotes_quoted (s : Str) :
    stripQuotes ('"'.toUInt8 :: (s ++ ['"'.toUInt8])) = s := by
  have hlen : ('"'.toUInt8 :: (s ++ ['"'.toUInt8])).length = s.length + 2 := by
    rw [List.length_cons, List.length_append, List.length_singleton]
  rw [stripQuotes, hlen, if_pos ⟨Nat.le_add_left 2 _, rfl, by rw [← List.cons_append,
    List.getLast?_concat]⟩, List.drop_one, List.tail_cons, Nat.add_sub_cancel, List.take_left]

namespace Layout

variable (l : Layout) (e : Entry)

/-- A tight value is dispatched as it is. -/
theorem stripQuotes_rest_of_tight (h : l.ValueTight e.value) :
    stripQuotes (l.rest e.value) = e.value := by
  obtain ⟨hcr, hafter⟩ := h
  cases hq : l.quoted with
  | true =>
    have hquote := l.quote_of_quoted hq e.value
    have hne : l.quote e.value ≠ [] := by
      rw [hquote]
      exact List.cons_ne_nil _ _
    rw [l.rest_of_ne_nil hcr hne, hafter.resolve_right hne, List.nil_append, hquote,
      stripQuotes_quoted]
  | false =>
    have hquote := l.quote_of_bare hq e.value
    have hrest : l.rest e.value = e.value := by
      by_cases hnil : l.quote e.value = []
      · rw [l.rest_of_nil hcr hnil, ← hquote, hnil]
      · rw [l.rest_of_ne_nil hcr hnil, hafter.resolve_right hnil, List.nil_append, hquote]
    rw [hrest, stripQuotes_of_head]
    exact fun hhead => e.quote_notMem_value (List.mem_of_head? hhead)

/-- A value that is not tight is dispatched with a carriage return at its end,
or with a blank or tab at its start. -/
theorem rest_of_not_tight (h : ¬l.ValueTight e.value) :
    (l.rest e.value).getLast? = some '\r'.toUInt8 ∨
      ∃ c, (l.rest e.value).head? = some c ∧ isBlank c = true := by
  cases hcr : l.crlf with
  | true =>
    left
    rw [l.rest_of_crlf hcr, ← List.append_assoc, List.getLast?_concat]
  | false =>
    right
    have hloose := not_or.mp (not_and.mp h hcr)
    obtain ⟨c, t, hafter⟩ := List.exists_cons_of_ne_nil hloose.1
    refine ⟨c, ?_, l.afterEq.blank c (by rw [hafter]; exact List.mem_cons_self)⟩
    rw [l.rest_of_ne_nil hcr hloose.2, hafter]
    rfl

/-- A value that is not tight keeps its quotes, if any. -/
theorem stripQuotes_rest_of_not_tight (h : ¬l.ValueTight e.value) :
    stripQuotes (l.rest e.value) = l.rest e.value := by
  rcases l.rest_of_not_tight e h with hlast | ⟨c, hhead, hc⟩
  · exact stripQuotes_of_last (by rw [hlast]; decide)
  · refine stripQuotes_of_head ?_
    rw [hhead]
    exact fun hq => (isBlank_spec hc).2.2.2.2.1 (Option.some.inj hq)

/-- What is dispatched for a value that is not tight is not the value. -/
theorem rest_ne_of_not_tight (h : ¬l.ValueTight e.value) : l.rest e.value ≠ e.value := by
  intro heq
  rcases l.rest_of_not_tight e h with hlast | ⟨c, hhead, hc⟩
  · rw [heq] at hlast
    exact e.return_notMem_value (List.mem_of_getLast? hlast)
  · rw [heq] at hhead
    rw [e.value_trimmed.head c hhead] at hc
    exact Bool.noConfusion hc

/-- What is dispatched for a value that is not tight has a character no name has. -/
theorem exists_not_ident_of_not_tight (h : ¬l.ValueTight e.value) :
    ∃ c ∈ l.rest e.value, isIdent c = false := by
  rcases l.rest_of_not_tight e h with hlast | ⟨c, hhead, hc⟩
  · exact ⟨_, List.mem_of_getLast? hlast, by decide⟩
  · exact ⟨c, List.mem_of_head? hhead, (isBlank_spec hc).1⟩

/-- Around a bare value there is only white space. -/
theorem scanInteger_rest_of_bare (h : l.quoted = false) (value : Str) :
    scanInteger (l.rest value) = scanInteger value := by
  have hpre : ∀ c ∈ l.afterEq.text, isSpace c = true :=
    fun c hc => isSpace_of_isBlank (l.afterEq.blank c hc)
  have hquote := l.quote_of_bare h value
  cases hcr : l.crlf with
  | true =>
    have hpost : ∀ c ∈ l.after.text ++ ['\r'.toUInt8], isSpace c = true := by
      intro c hc
      rcases List.mem_append.mp hc with hc | hc
      · exact isSpace_of_isBlank (l.after.blank c hc)
      · rw [List.mem_singleton.mp hc]
        decide
    rw [l.rest_of_crlf hcr, hquote, scanInteger_append hpre hpost]
  | false =>
    by_cases hnil : l.quote value = []
    · rw [l.rest_of_nil hcr hnil, ← hquote, hnil]
    · rw [l.rest_of_ne_nil hcr hnil, hquote, ← List.append_nil (_ ++ value),
        scanInteger_append hpre fun c hc => absurd hc List.not_mem_nil]

/-- Quotes reach the rest of the line. -/
theorem quote_mem_rest (h : l.quoted = true) (value : Str) :
    '"'.toUInt8 ∈ l.rest value := by
  have hquote := l.quote_of_quoted h value
  have hmem : '"'.toUInt8 ∈ l.afterEq.text ++ l.quote value := by
    rw [hquote]
    exact List.mem_append_right _ List.mem_cons_self
  cases hcr : l.crlf with
  | true =>
    rw [l.rest_of_crlf hcr]
    exact List.mem_append_left _ hmem
  | false =>
    have hne : l.quote value ≠ [] := by
      rw [hquote]
      exact List.cons_ne_nil _ _
    rwa [l.rest_of_ne_nil hcr hne]

/-- No number starts with a quote. -/
theorem scanInteger_rest_of_quoted (h : l.quoted = true) (value : Str) :
    scanInteger (l.rest value) = none := by
  have hpre : ∀ c ∈ l.afterEq.text, isSpace c = true :=
    fun c hc => isSpace_of_isBlank (l.afterEq.blank c hc)
  have hnone : ∀ t, scanInteger (l.afterEq.text ++ '"'.toUInt8 :: t) = none :=
    scanInteger_eq_none hpre (by decide) (by decide) (by decide) (by decide)
  have hquote := l.quote_of_quoted h value
  cases hcr : l.crlf with
  | true =>
    rw [l.rest_of_crlf hcr, hquote, List.append_assoc, List.cons_append]
    exact hnone _
  | false =>
    have hne : l.quote value ≠ [] := by
      rw [hquote]
      exact List.cons_ne_nil _ _
    rw [l.rest_of_ne_nil hcr hne, hquote]
    exact hnone _

end Layout

/-! ## Lists and key tables -/

/-- Blanks in front of a list are trimmed. -/
theorem readList_append {pre : Str} (h : ∀ c ∈ pre, isBlank c = true) (s : Str) :
    readList (pre ++ s) = readList s := by
  have hcomma : ','.toUInt8 ∉ pre := fun hc => (isBlank_spec (h _ hc)).2.2.2.2.2.2 rfl
  obtain ⟨part, parts, hs⟩ := List.exists_cons_of_ne_nil (List.splitOn_ne_nil ','.toUInt8 s)
  rw [readList, readList, items_eq rfl, items_eq rfl, splitOn_append_of_notMem hcomma, hs,
    List.modifyHead_cons, List.map_cons, List.map_cons, trimLeft_append h]

/-- A character of one text only separates the two lists. -/
theorem readList_ne {c : UInt8} (hcomma : c ≠ ','.toUInt8) (hblank : isBlank c = false)
    {x y : Str} (hx : c ∈ x) (hy : c ∉ y) : readList x ≠ readList y :=
  items_ne rfl hcomma (mem_strip_iff hblank) hx hy

theorem readAuthenticationKeys_blanks {pre : Str} (h : ∀ c ∈ pre, isBlank c = true) (s : Str) :
    readAuthenticationKeys (pre ++ s) = readAuthenticationKeys s := by
  rw [readAuthenticationKeys, readAuthenticationKeys, readList_append h]

/-- The rest of a line with a quoted value ends with more characters behind it. -/
theorem Layout.exists_rest_of_quoted (l : Layout) (h : l.quoted = true) (value : Str) :
    ∃ tail, Tail tail ∧ '"'.toUInt8 ∈ tail ∧
      l.rest value = l.afterEq.text ++ '"'.toUInt8 :: (value ++ tail) := by
  have hquote := l.quote_of_quoted h value
  cases hcr : l.crlf with
  | true =>
    refine ⟨'"'.toUInt8 :: l.after.text ++ ['\r'.toUInt8],
      tail_concat ?_ (by decide) (by decide), List.mem_cons_self, ?_⟩
    · rintro d hd
      rcases List.mem_cons.mp hd with rfl | hd
      · decide
      · exact l.after.ne_of_mem hd
    · rw [l.rest_of_crlf hcr, hquote]
      simp only [List.append_assoc, List.cons_append, List.nil_append]
  | false =>
    have hne : l.quote value ≠ [] := by
      rw [hquote]
      exact List.cons_ne_nil _ _
    refine ⟨[] ++ ['"'.toUInt8], tail_concat (List.forall_mem_nil _) (by decide) (by decide),
      List.mem_cons_self, ?_⟩
    rw [l.rest_of_ne_nil hcr hne, hquote, List.nil_append]

/-- **The rest of a line gives the table of its value** exactly when there are only
blanks around the value, or its fields keep the table. -/
theorem readAuthenticationKeys_rest_iff (l : Layout) (e : Entry) :
    readAuthenticationKeys (l.rest e.value) = readAuthenticationKeys e.value ↔
      (l.quoted = false ∧ l.crlf = false) ∨ KeysKept l.quoted (e.value.splitOn ','.toUInt8) := by
  cases hq : l.quoted with
  | true =>
    obtain ⟨tail, htail, hmem, hrest⟩ := l.exists_rest_of_quoted hq e.value
    rw [hrest, readAuthenticationKeys_blanks l.afterEq.blank,
      readAuthenticationKeys_quote_iff htail ⟨_, hmem, e.quote_notMem_value⟩]
    exact (or_iff_right fun hbare => Bool.noConfusion hbare.1).symm
  | false =>
    have hquote := l.quote_of_bare hq e.value
    cases hcr : l.crlf with
    | true =>
      have htail : Tail (l.after.text ++ ['\r'.toUInt8]) :=
        tail_concat (fun _ => l.after.ne_of_mem) (by decide) (by decide)
      have hother : ∃ c ∈ l.after.text ++ ['\r'.toUInt8], c ∉ e.value :=
        ⟨_, List.mem_append_right _ List.mem_cons_self, e.return_notMem_value⟩
      rw [l.rest_of_crlf hcr, hquote, List.append_assoc,
        readAuthenticationKeys_blanks l.afterEq.blank,
        readAuthenticationKeys_append_iff htail hother]
      exact (or_iff_right fun hbare => Bool.noConfusion hbare.2).symm
    | false =>
      refine iff_of_true ?_ (.inl ⟨rfl, rfl⟩)
      by_cases hnil : l.quote e.value = []
      · rw [l.rest_of_nil hcr hnil, ← hquote, hnil]
      · rw [l.rest_of_ne_nil hcr hnil, hquote, readAuthenticationKeys_blanks l.afterEq.blank]

/-! ## What each kind of setting tolerates -/

/-- When a setting of the given kind stores the same of the rest of a line and
of the value, although the value is not tight:
- a text never;
- a flag or one of some names when the value is not the name of anything, since
  what is stored is then the default both times;
- a number when it is not quoted, or when the value is not one the arm stores;
- a list when it is not quoted and the line ends with a line feed;
- a key table when it is not quoted and the line ends with a line feed, or when
  the fields that have the extra characters have no say in it: there is no number
  in the last, and the first, if it is quoted, is overwritten. -/
def Reader.Tolerates {α : Type} (r : Reader α) (l : Layout) (value : Str) : Prop :=
  match r with
  | text => False
  | flag => readFlag value = false
  | list => l.quoted = false ∧ l.crlf = false
  | signed inRange f =>
    l.quoted = false ∨ (Reading.ofExcept inRange f (stoi value)).stored = none
  | unsigned inRange f =>
    l.quoted = false ∨ (Reading.ofExcept inRange f (stoull value)).stored = none
  | choice names default _ => choose names default value = default
  | keys =>
    (l.quoted = false ∧ l.crlf = false) ∨ KeysKept l.quoted (value.splitOn ','.toUInt8)

/-- A text with a character no name has is no truth value. -/
theorem readFlag_eq_false {x : Str} (h : ∃ c ∈ x, isIdent c = false) : readFlag x = false := by
  obtain ⟨c, hc, hident⟩ := h
  have hne : ∀ name : Str, name.all isIdent = true → (x == name) = false := by
    intro name hname
    rw [beq_eq_false_iff_ne]
    rintro rfl
    rw [List.all_eq_true.mp hname c hc] at hident
    exact Bool.noConfusion hident
  rw [readFlag, hne _ (by decide), hne _ (by decide), hne _ (by decide)]
  rfl

/-- A text with a character no name has selects no name. -/
theorem choose_eq_default {α : Type} {names : List (Str × α)} {default : α}
    (hnames : ∀ p ∈ names, ∀ c ∈ p.1, isNameChar c = true) {x : Str}
    (h : ∃ c ∈ x, isIdent c = false) : choose names default x = default := by
  obtain ⟨c, hc, hident⟩ := h
  have hfind : names.find? (·.1 == lower x) = none := by
    rw [List.find?_eq_none]
    intro p hp heq
    rw [beq_iff_eq] at heq
    have hchar := hnames p hp (toLower c) (by rw [heq]; exact List.mem_map_of_mem hc)
    rw [isIdent, hchar] at hident
    exact Bool.noConfusion hident
  rw [choose, hfind]
  rfl

/-- A number is read the same unless it is quoted, and then nothing is read. -/
theorem stored_ofExcept_rest_iff {α β : Type} (inRange : α → Bool) (f : α → β)
    {convert : Str → Except Exn α}
    (hcongr : ∀ {x y}, scanInteger x = scanInteger y → convert x = convert y)
    (hnone : ∀ {x}, scanInteger x = none → convert x = .error .invalidArgument)
    (l : Layout) (value : Str) :
    (Reading.ofExcept inRange f (convert (l.rest value))).stored
        = (Reading.ofExcept inRange f (convert value)).stored
      ↔ l.quoted = false ∨ (Reading.ofExcept inRange f (convert value)).stored = none := by
  cases hq : l.quoted with
  | true =>
    rw [hnone (l.scanInteger_rest_of_quoted hq value), or_iff_right (by decide)]
    exact eq_comm
  | false =>
    rw [hcongr (l.scanInteger_rest_of_bare hq value)]
    exact iff_of_true rfl (.inl rfl)

/-- **Tolerance is exact.** -/
theorem Reader.stored_rest_iff {α : Type} (r : Reader α) {l : Layout} {e : Entry}
    (h : ¬l.ValueTight e.value) :
    (r.read (l.rest e.value)).stored = (r.read e.value).stored ↔ r.Tolerates l e.value := by
  have hident := l.exists_not_ident_of_not_tight e h
  cases r with
  | text => exact iff_of_false (fun heq => l.rest_ne_of_not_tight e h (Option.some.inj heq)) id
  | flag =>
    show some (readFlag (l.rest e.value)) = some (readFlag e.value) ↔ readFlag e.value = false
    rw [readFlag_eq_false hident, Option.some_inj]
    exact eq_comm
  | list =>
    show some (readList (l.rest e.value)) = some (readList e.value) ↔ _
    rw [Option.some_inj]
    constructor
    · intro heq
      refine ⟨Bool.eq_false_iff.mpr fun hq => ?_, Bool.eq_false_iff.mpr fun hcr => ?_⟩
      · refine readList_ne (c := '"'.toUInt8) (by decide) (by decide) ?_ e.quote_notMem_value heq
        exact l.quote_mem_rest hq e.value
      · refine readList_ne (c := '\r'.toUInt8) (by decide) (by decide) ?_ e.return_notMem_value heq
        rw [l.rest_of_crlf hcr, ← List.append_assoc]
        exact List.mem_append_right _ List.mem_cons_self
    · -- blanks around a list are trimmed with its items
      rintro ⟨hq, hcr⟩
      have hquote := l.quote_of_bare hq e.value
      by_cases hnil : l.quote e.value = []
      · rw [l.rest_of_nil hcr hnil, ← hquote, hnil]
      · rw [l.rest_of_ne_nil hcr hnil, hquote, readList_append l.afterEq.blank]
  | signed inRange f => exact stored_ofExcept_rest_iff inRange f stoi_congr stoi_eq_error l _
  | unsigned inRange f => exact stored_ofExcept_rest_iff inRange f stoull_congr stoull_eq_error l _
  | choice names default hnames =>
    show some (choose names default (l.rest e.value)) = some (choose names default e.value) ↔
      choose names default e.value = default
    rw [choose_eq_default hnames hident, Option.some_inj]
    exact eq_comm
  | keys => exact Option.some_inj.trans (readAuthenticationKeys_rest_iff l e)

/-! ## The grammar -/

/-- When a line is read as the documentation says: it is tight, or its key is
not the name of a setting, or the setting tolerates the extra characters. With
blanks in front of the equals sign no setting is found at all, so there the
value must be one the setting would not store either. -/
def Honoured (l : Layout) (e : Entry) : Prop :=
  l.Tight e.value ∨ findSetting e.key = none ∨
    ∃ s, findSetting e.key = some s ∧
      if l.beforeEq.text = [] then s.reader.Tolerates l e.value else s.stored e.value = none

/-- A key followed by blanks is not the name of a setting. -/
theorem findSetting_append_blank {b : Blanks} (h : b.text ≠ []) (key : Str) :
    findSetting (key ++ b.text) = none := by
  obtain ⟨c, t, hb⟩ := List.exists_cons_of_ne_nil h
  have hmem : c ∈ b.text := by
    rw [hb]
    exact List.mem_cons_self
  exact findSetting_eq_none (List.mem_append_right _ hmem) (isBlank_spec (b.blank c hmem)).1

/-- A line has exactly the effect of its key and value when it is honoured. -/
theorem readLine_iff_honoured (l : Layout) (e : Entry) :
    (∀ c : NtpConfig, c.readLine (l.render e) = (c.parseCommandLineArg e.key e.value).2)
      ↔ Honoured l e := by
  by_cases hb : l.beforeEq.text = []
  · have hread : ∀ c : NtpConfig, c.readLine (l.render e)
        = (c.parseCommandLineArg e.key (stripQuotes (l.rest e.value))).2 := fun c => by
      rw [l.readLine_render, hb, List.append_nil]
    simp only [hread]
    by_cases hv : l.ValueTight e.value
    · rw [l.stripQuotes_rest_of_tight e hv]
      exact iff_of_true (fun _ => rfl) (.inl ⟨hb, hv⟩)
    · rw [l.stripQuotes_rest_of_not_tight e hv]
      cases hs : findSetting e.key with
      | none =>
        simp only [NtpConfig.parseCommandLineArg_of_none hs, implies_true, true_iff]
        exact .inr (.inl hs)
      | some s =>
        simp only [NtpConfig.parseCommandLineArg_of_some hs]
        rw [s.apply_congr_iff, Setting.stored, Setting.stored, s.reader.stored_rest_iff hv,
          Honoured, hs]
        simp only [Layout.Tight, hv, and_false, reduceCtorEq, false_or, Option.some.injEq,
          exists_eq_left', hb, if_true]
  · -- the blanks become part of the key, which then names no setting
    have hread : ∀ c : NtpConfig, c.readLine (l.render e) = c := fun c => by
      rw [l.readLine_render,
        NtpConfig.parseCommandLineArg_of_none (findSetting_append_blank hb e.key)]
    simp only [hread]
    cases hs : findSetting e.key with
    | none =>
      simp only [NtpConfig.parseCommandLineArg_of_none hs, implies_true, true_iff]
      exact .inr (.inl hs)
    | some s =>
      have hself : (∀ c, c = (s.apply e.value c).2) ↔ s.stored e.value = none := by
        rw [← s.apply_eq_self_iff]
        exact forall_congr' fun c => eq_comm
      simp only [NtpConfig.parseCommandLineArg_of_some hs, hself, Honoured, hs, Layout.Tight, hb,
        false_and, reduceCtorEq, false_or, Option.some.injEq, exists_eq_left', if_false]

/-- A file of settings, each in its layout, one to a line. -/
def fileText (lines : List (Entry × Layout)) : Str :=
  (lines.map fun p => p.2.render p.1).flatMap (· ++ ['\n'.toUInt8])

/-- The settings of a file, stored in order. -/
def storeAll (c : NtpConfig) (entries : List Entry) : NtpConfig :=
  entries.foldl (fun c e => (c.parseCommandLineArg e.key e.value).2) c

/-- A rendered line has no line feed in it. -/
theorem lineFeed_notMem_render (l : Layout) (e : Entry) : '\n'.toUInt8 ∉ l.render e := by
  have hblank : ∀ b : Blanks, '\n'.toUInt8 ∉ b.text :=
    fun b hb => (isBlank_spec (b.blank _ hb)).2.2.2.2.2.1 rfl
  have hkey : '\n'.toUInt8 ∉ e.key :=
    fun hk => (isIdent_spec (e.key_ident _ hk)).2.2.2.2.2 rfl
  have hvalue : '\n'.toUInt8 ∉ e.value := fun hv => (isValueChar_spec (e.value_char _ hv)).1 rfl
  have hquote : '\n'.toUInt8 ∉ l.quote e.value := by
    cases hq : l.quoted with
    | true =>
      rw [l.quote_of_quoted hq, List.mem_cons, List.mem_append, List.mem_singleton]
      rintro (h | h | h)
      · exact absurd h (by decide)
      · exact hvalue h
      · exact absurd h (by decide)
    | false => rwa [l.quote_of_bare hq]
  have hending : '\n'.toUInt8 ∉ l.ending := by
    unfold Layout.ending
    cases l.crlf <;> decide
  simp only [Layout.render, List.mem_append, List.mem_cons, hblank, hkey, hquote, hending,
    or_false, false_or]
  decide

/-- A file of honoured lines stores its settings in order. -/
theorem parseConfigFile_fileText {lines : List (Entry × Layout)}
    (h : ∀ p ∈ lines, Honoured p.2 p.1) (c : NtpConfig) :
    c.parseConfigFile (some (fileText lines)) = (true, storeAll c (lines.map (·.1))) := by
  have hlines : getlines '\n'.toUInt8 (fileText lines) = lines.map fun p => p.2.render p.1 := by
    refine getlines_flatMap ?_
    intro line hline
    obtain ⟨p, -, rfl⟩ := List.mem_map.mp hline
    exact lineFeed_notMem_render p.2 p.1
  rw [NtpConfig.parseConfigFile, hlines]
  refine congrArg (Prod.mk true) ?_
  clear hlines
  induction lines generalizing c with
  | nil => rfl
  | cons p lines ih =>
    have hp := (readLine_iff_honoured p.2 p.1).mpr (h p List.mem_cons_self) c
    rw [List.map_cons, List.foldl_cons, hp, List.map_cons, storeAll, List.foldl_cons]
    exact ih (fun q hq => h q (List.mem_cons_of_mem p hq)) _

/-- **The line grammar the loader honours.** A line has the effect of its key
and value on every configuration exactly when it is honoured; and two files of
honoured lines with the same settings give the same configuration, whatever
their spacing, quotes and line endings. -/
theorem honours_grammar (l : Layout) (e : Entry) (lines lines' : List (Entry × Layout))
    (c : NtpConfig) :
    ((∀ c : NtpConfig, c.readLine (l.render e) = (c.parseCommandLineArg e.key e.value).2)
      ↔ Honoured l e) ∧
    ((∀ p ∈ lines ++ lines', Honoured p.2 p.1) → lines.map (·.1) = lines'.map (·.1) →
      c.parseConfigFile (some (fileText lines)) = (true, storeAll c (lines.map (·.1))) ∧
        c.parseConfigFile (some (fileText lines)) = c.parseConfigFile (some (fileText lines')))
    := by
  refine ⟨readLine_iff_honoured l e, fun h heq => ?_⟩
  have hfile := parseConfigFile_fileText (fun p hp => h p (List.mem_append_left _ hp)) c
  refine ⟨hfile, ?_⟩
  rw [hfile, parseConfigFile_fileText (fun p hp => h p (List.mem_append_right _ hp)), heq]

/-- `enable_authentication`, `true`. -/
def enableAuthenticationEntry : Entry where
  key := lit "enable_authentication"
  value := lit "true"
  key_ne_nil := by decide
  key_ident := List.all_eq_true.mp (by decide)
  value_char := List.all_eq_true.mp (by decide)
  value_trimmed :=
    { head := by
        rintro c hc
        rw [← Option.some.inj (show some 't'.toUInt8 = some c from hc)]
        rfl
      last := by
        rintro c hc
        rw [← Option.some.inj (show some 'e'.toUInt8 = some c from hc)]
        rfl }

/-- The layout of the shipped example file: one blank on both sides of the
equals sign. -/
def documentedLayout : Layout where
  before := ⟨[], List.all_eq_true.mp (by decide)⟩
  beforeEq := ⟨lit " ", List.all_eq_true.mp (by decide)⟩
  afterEq := ⟨lit " ", List.all_eq_true.mp (by decide)⟩
  after := ⟨[], List.all_eq_true.mp (by decide)⟩
  quoted := false
  crlf := false

/-- A layout with nothing around the equals sign. -/
def tightLayout : Layout where
  before := ⟨lit "  ", List.all_eq_true.mp (by decide)⟩
  beforeEq := ⟨[], List.all_eq_true.mp (by decide)⟩
  afterEq := ⟨[], List.all_eq_true.mp (by decide)⟩
  after := ⟨lit "\t", List.all_eq_true.mp (by decide)⟩
  quoted := true
  crlf := false

/-- The grammar on a file of one tight, quoted line. -/
theorem honours_grammar_tight :
    NtpConfig.defaults.parseConfigFile (some (fileText [(enableAuthenticationEntry, tightLayout)]))
      = (true, storeAll .defaults [enableAuthenticationEntry]) :=
  ((honours_grammar tightLayout enableAuthenticationEntry
    [(enableAuthenticationEntry, tightLayout)] [(enableAuthenticationEntry, tightLayout)]
    .defaults).2
    (by
      intro p hp
      left
      rcases List.mem_append.mp hp with hp | hp <;> rw [List.mem_singleton.mp hp] <;>
        exact ⟨rfl, rfl, .inl rfl⟩)
    rfl).1

/-- The line `enable_authentication = true` of a configuration file leaves
authentication switched off, where the same setting on the command line
switches it on. -/
theorem documented_line_ignored :
    ¬ ∀ (l : Layout) (e : Entry) (c : NtpConfig),
      c.readLine (l.render e) = (c.parseCommandLineArg e.key e.value).2 := by
  intro h
  have hkept : NtpConfig.defaults.readLine (documentedLayout.render enableAuthenticationEntry)
      = .defaults := by
    rw [documentedLayout.readLine_render,
      NtpConfig.parseCommandLineArg_of_none (findSetting_append_blank (by decide) _)]
  have hstored : (NtpConfig.defaults.parseCommandLineArg enableAuthenticationEntry.key
      enableAuthenticationEntry.value).2.enableAuthentication = true := by
    decide +kernel
  rw [← h, hkept] at hstored
  cases hstored

end SimpleNtpd
