import Mathlib.Algebra.Ring.Int.Defs
import Mathlib.Algebra.Ring.Nat
import Mathlib.Data.List.DropRight
import Mathlib.Data.List.Infix
import SimpleNtpd.Lib.CppInt

/-!
# C++ strings and their numeric conversions

`std::string` is a list of bytes. This file has the operations a program makes
on one (search, trimming, `std::getline` over a delimiter, the `sto*` family
and `std::to_string`), with the documented behaviour of the C locale, and the
lemmas that let a proof move through them without unfolding: trimming removes
exactly the surrounding blanks (`trimLeft_append`, `trimRight_append`), a search
finds the first occurrence (`find_append`, `isSome_findStr`), reading the terminated lines of a
text gives the lines back (`getlines_flatMap`), white space around a number does
not change what is read (`scanInteger_append`), a decimal rendering denotes its
number (`digitsValue_toDecimal`), and digits without a leading zero are one
(`toDecimal_digitsValue`).
-/

namespace Cpp

/-- `std::string`. -/
abbrev Str := List UInt8

/-- A string literal. -/
def lit (s : String) : Str := s.toList.map Char.toUInt8

/-- Lean reads a literal as the `String.ofList` of its characters. -/
theorem lit_ofList (cs : List Char) : lit (String.ofList cs) = cs.map Char.toUInt8 := by
  rw [lit, String.toList_ofList]

/-! ## Characters -/

/-- `isspace` in the C locale. -/
def isSpace (c : UInt8) : Bool := c == ' '.toUInt8 || (9 ≤ c && c ≤ 13)

/-- `isdigit`. -/
def isDigit (c : UInt8) : Bool := '0'.toUInt8 ≤ c && c ≤ '9'.toUInt8

/-- `tolower` in the C locale. -/
def toLower (c : UInt8) : UInt8 := if 'A'.toUInt8 ≤ c ∧ c ≤ 'Z'.toUInt8 then c + 32 else c

/-- A blank or a tab: the set `" \t"`. -/
def isBlank (c : UInt8) : Bool := c == ' '.toUInt8 || c == '\t'.toUInt8

/-- A string transformed by `::tolower`. -/
def lower (s : Str) : Str := s.map toLower

/-! ## Trimming -/

/-- `s.erase(0, s.find_first_not_of(" \t"))`. -/
def trimLeft (s : Str) : Str := s.dropWhile isBlank

/-- `s.erase(s.find_last_not_of(" \t") + 1)`. -/
def trimRight (s : Str) : Str := s.rdropWhile isBlank

/-- No blank or tab at either end. -/
structure Trimmed (s : Str) : Prop where
  head : ∀ c ∈ s.head?, isBlank c = false
  last : ∀ c ∈ s.getLast?, isBlank c = false

theorem dropWhile_append_of_all {p : UInt8 → Bool} {pre : Str} (h : ∀ c ∈ pre, p c = true)
    (s : Str) : (pre ++ s).dropWhile p = s.dropWhile p := by
  induction pre with
  | nil => rfl
  | cons c pre ih =>
    rw [List.cons_append, List.dropWhile_cons_of_pos (h c List.mem_cons_self)]
    exact ih fun d hd => h d (List.mem_cons_of_mem c hd)

theorem rdropWhile_append_of_all {p : UInt8 → Bool} {post : Str}
    (h : ∀ c ∈ post, p c = true) (s : Str) : (s ++ post).rdropWhile p = s.rdropWhile p := by
  rw [List.rdropWhile, List.rdropWhile, List.reverse_append,
    dropWhile_append_of_all fun c hc => h c (List.mem_reverse.mp hc)]

theorem trimLeft_append {pre : Str} (h : ∀ c ∈ pre, isBlank c = true) (s : Str) :
    trimLeft (pre ++ s) = trimLeft s :=
  dropWhile_append_of_all h s

theorem trimRight_append {post : Str} (h : ∀ c ∈ post, isBlank c = true) (s : Str) :
    trimRight (s ++ post) = trimRight s :=
  rdropWhile_append_of_all h s

theorem trimLeft_cons_of_not {c : UInt8} (h : isBlank c = false) (s : Str) :
    trimLeft (c :: s) = c :: s :=
  List.dropWhile_cons_of_neg (by rw [h]; exact Bool.false_ne_true)

theorem trimRight_concat_of_not {c : UInt8} (h : isBlank c = false) (s : Str) :
    trimRight (s ++ [c]) = s ++ [c] :=
  List.rdropWhile_concat_neg _ _ _ (by rw [h]; exact Bool.false_ne_true)

/-- Trimming takes off no other character. -/
theorem mem_dropWhile_iff {p : UInt8 → Bool} {c : UInt8} (h : p c = false) (s : Str) :
    c ∈ s.dropWhile p ↔ c ∈ s := by
  induction s with
  | nil => rfl
  | cons d s ih =>
    by_cases hd : p d = true
    · have hne : c ≠ d := by
        rintro rfl
        rw [h] at hd
        cases hd
      rw [List.dropWhile_cons_of_pos hd, List.mem_cons, or_iff_right hne]
      exact ih
    · rw [List.dropWhile_cons_of_neg hd]

theorem mem_rdropWhile_iff {p : UInt8 → Bool} {c : UInt8} (h : p c = false) (s : Str) :
    c ∈ s.rdropWhile p ↔ c ∈ s := by
  rw [List.rdropWhile, List.mem_reverse, mem_dropWhile_iff h, List.mem_reverse]

theorem mem_strip_iff {p : UInt8 → Bool} {c : UInt8} (h : p c = false) (s : Str) :
    c ∈ (s.dropWhile p).rdropWhile p ↔ c ∈ s := by
  rw [mem_rdropWhile_iff h, mem_dropWhile_iff h]

/-- Nothing in front of a character that is kept is dropped from the end. -/
theorem rdropWhile_append_cons {p : UInt8 → Bool} {c : UInt8} (h : p c = false) (a b : Str) :
    (a ++ c :: b).rdropWhile p = a ++ c :: b.rdropWhile p := by
  induction b using List.reverseRecOn with
  | nil => exact List.rdropWhile_concat_neg _ _ _ (by rw [h]; exact Bool.false_ne_true)
  | append_singleton b d ih =>
    have hassoc : a ++ c :: (b ++ [d]) = (a ++ c :: b) ++ [d] := by
      rw [List.append_assoc, List.cons_append]
    rw [hassoc, List.rdropWhile_concat, List.rdropWhile_concat]
    cases p d with
    | true => exact ih
    | false => exact hassoc.symm

/-- A text between what trimming its ends takes off. -/
theorem exists_strip (p : UInt8 → Bool) (s : Str) :
    ∃ pre post, (∀ c ∈ pre, p c = true) ∧ (∀ c ∈ post, p c = true) ∧
      s = pre ++ (s.dropWhile p).rdropWhile p ++ post := by
  refine ⟨s.takeWhile p, (s.dropWhile p).rtakeWhile p, fun c hc => List.mem_takeWhile_imp hc,
    fun c hc => List.mem_rtakeWhile_imp hc, ?_⟩
  rw [List.append_assoc, List.rdropWhile_append_rtakeWhile, List.takeWhile_append_dropWhile]

theorem strip_append_right {p : UInt8 → Bool} {post : Str} (hpost : ∀ c ∈ post, p c = true)
    (s : Str) : ((s ++ post).dropWhile p).rdropWhile p = (s.dropWhile p).rdropWhile p := by
  rw [List.dropWhile_append]
  cases hs : (s.dropWhile p).isEmpty with
  | true =>
    rw [List.isEmpty_iff] at hs
    rw [if_pos rfl, hs, List.dropWhile_eq_nil_iff.mpr hpost]
  | false => rw [if_neg Bool.false_ne_true, rdropWhile_append_of_all hpost]

/-- What trimming both ends takes off may be put back. -/
theorem strip_append {p : UInt8 → Bool} {pre post : Str} (hpre : ∀ c ∈ pre, p c = true)
    (hpost : ∀ c ∈ post, p c = true) (s : Str) :
    ((pre ++ s ++ post).dropWhile p).rdropWhile p = (s.dropWhile p).rdropWhile p := by
  rw [List.append_assoc, dropWhile_append_of_all hpre, strip_append_right hpost]

/-- Trimming both ends changes nothing when they are to be kept. -/
theorem strip_eq_self_iff {p : UInt8 → Bool} {s : Str} :
    (s.dropWhile p).rdropWhile p = s ↔
      ∀ c, c ∈ s.head? ∨ c ∈ s.getLast? → p c = false := by
  constructor
  · intro h
    have hprefix : (s.dropWhile p).rdropWhile p <+: s.dropWhile p := List.rdropWhile_prefix p _
    rw [h] at hprefix
    have hdrop : s.dropWhile p = s :=
      (List.dropWhile_sublist p).antisymm hprefix.sublist
    rw [hdrop] at h
    rintro c (hc | hc)
    · have hnot := List.head?_dropWhile_not p s
      rw [hdrop, Option.mem_def.mp hc] at hnot
      exact hnot
    · obtain ⟨hne, hlast⟩ := List.mem_getLast?_eq_getLast hc
      rw [hlast]
      exact Bool.eq_false_iff.mpr (List.rdropWhile_eq_self_iff.mp h hne)
  · intro h
    have hdrop : s.dropWhile p = s := by
      cases s with
      | nil => rfl
      | cons c s =>
        rw [List.dropWhile_cons_of_neg]
        rw [h c (.inl rfl)]
        exact Bool.false_ne_true
    rw [hdrop, List.rdropWhile_eq_self_iff]
    intro hne
    rw [h _ (.inr (List.getLast?_eq_some_getLast hne))]
    exact Bool.false_ne_true

/-! ## Searching -/

/-- `s.find(c)`; `none` is `npos`. -/
def find (s : Str) (c : UInt8) : Option Nat := s.findIdx? (· == c)

/-- `s.find(pattern)` of a string. -/
def findStr (s pattern : Str) : Option Nat := s.tails.findIdx? pattern.isPrefixOf

/-- What stands somewhere in a string is found. -/
theorem isSome_findStr (pre pattern post : Str) :
    (findStr (pre ++ pattern ++ post) pattern).isSome = true := by
  rw [findStr, List.findIdx?_isSome, List.any_eq_true]
  refine ⟨pattern ++ post, ?_, ?_⟩
  · rw [List.mem_tails, List.append_assoc]
    exact List.suffix_append pre _
  · exact List.isPrefixOf_iff_prefix.mpr (List.prefix_append pattern post)

/-- The first occurrence is found behind a part that does not contain it. -/
theorem find_append {a b : Str} {c : UInt8} (h : c ∉ a) : find (a ++ c :: b) c = some a.length := by
  induction a with
  | nil =>
    rw [find, List.nil_append, List.findIdx?_cons, beq_self_eq_true]
    rfl
  | cons d a ih =>
    have hd : (d == c) = false := by
      rw [beq_eq_false_iff_ne]
      exact fun he => h (he ▸ List.mem_cons_self)
    have ha := ih fun hc => h (List.mem_cons_of_mem d hc)
    rw [find] at ha ⊢
    rw [List.cons_append, List.findIdx?_cons, hd, ha]
    rfl

theorem find_eq_none {s : Str} {c : UInt8} (h : c ∉ s) : find s c = none :=
  List.findIdx?_eq_none_iff.mpr fun _ hd => beq_eq_false_iff_ne.mpr fun heq => h (heq ▸ hd)

/-! ## Lines -/

/-- The strings successive `std::getline` calls return: the text split at the
delimiter, where nothing follows a final delimiter. -/
def getlines (delim : UInt8) (s : Str) : List Str :=
  let parts := s.splitOn delim
  if parts.getLast? = some [] then parts.dropLast else parts

/-- A part without the delimiter goes in front of the first field. -/
theorem splitOn_append_of_notMem {delim : UInt8} {pre : Str} (h : delim ∉ pre) (s : Str) :
    (pre ++ s).splitOn delim = (s.splitOn delim).modifyHead (pre ++ ·) := by
  induction pre with
  | nil =>
    rw [List.nil_append]
    cases s.splitOn delim <;> rfl
  | cons c pre ih =>
    have hc : ¬(c == delim) = true := by
      rw [beq_iff_eq]
      exact fun he => h (he ▸ List.mem_cons_self)
    rw [List.cons_append, List.splitOn_cons_eq_if_modifyHead, if_neg hc,
      ih fun hd => h (List.mem_cons_of_mem c hd), List.modifyHead_modifyHead]
    rfl

/-- A part without the delimiter goes behind the last field. -/
theorem splitOn_append_right {delim : UInt8} {post : Str} (h : delim ∉ post) (s : Str) :
    ∃ front field, s.splitOn delim = front ++ [field] ∧
      (s ++ post).splitOn delim = front ++ [field ++ post] := by
  induction s with
  | nil =>
    have hpost := splitOn_append_of_notMem h []
    rw [List.append_nil] at hpost
    refine ⟨[], [], rfl, ?_⟩
    rw [List.nil_append, hpost, List.splitOn_nil, List.modifyHead_cons, List.append_nil]
    rfl
  | cons c s ih =>
    obtain ⟨front, field, hs, hpost⟩ := ih
    rw [List.cons_append, List.splitOn_cons_eq_if_modifyHead, List.splitOn_cons_eq_if_modifyHead,
      hs, hpost]
    by_cases hc : (c == delim) = true
    · rw [if_pos hc, if_pos hc]
      exact ⟨[] :: front, field, rfl, rfl⟩
    · rw [if_neg hc, if_neg hc]
      cases front with
      | nil => exact ⟨[], c :: field, rfl, rfl⟩
      | cons first front => exact ⟨(c :: first) :: front, field, rfl, rfl⟩

/-- The characters of the fields are those of the text but the delimiter. -/
theorem exists_mem_splitOn_iff {delim c : UInt8} (s : Str) :
    (∃ part ∈ s.splitOn delim, c ∈ part) ↔ c ∈ s ∧ c ≠ delim := by
  induction s with
  | nil => simp [List.splitOn_nil]
  | cons d s ih =>
    obtain ⟨part, parts, hs⟩ := List.exists_cons_of_ne_nil (List.splitOn_ne_nil delim s)
    rw [List.splitOn_cons_eq_if_modifyHead]
    rw [hs] at ih ⊢
    by_cases hd : (d == delim) = true
    · rw [beq_iff_eq] at hd
      simp only [hd, beq_self_eq_true, if_true, List.mem_cons, exists_eq_or_imp,
        List.not_mem_nil, false_or] at ih ⊢
      rw [ih]
      constructor
      · exact fun ⟨hc, hne⟩ => ⟨.inr hc, hne⟩
      · exact fun ⟨hc, hne⟩ => ⟨hc.resolve_left hne, hne⟩
    · have hne : d ≠ delim := fun he => hd (beq_iff_eq.mpr he)
      simp only [hd, Bool.false_eq_true, if_false, List.modifyHead_cons, List.mem_cons,
        exists_eq_or_imp] at ih ⊢
      rw [or_assoc, ih]
      constructor
      · rintro (rfl | ⟨hc, hcd⟩)
        · exact ⟨.inl rfl, hne⟩
        · exact ⟨.inr hc, hcd⟩
      · rintro ⟨rfl | hc, hcd⟩
        · exact .inl rfl
        · exact .inr ⟨hc, hcd⟩

/-- The fields that are left of a list, with or without the one after a final
delimiter. -/
theorem items_eq {f : Str → Str} (hnil : f [] = []) (delim : UInt8) (s : Str) :
    ((getlines delim s).map f).filter (!·.isEmpty)
      = ((s.splitOn delim).map f).filter (!·.isEmpty) := by
  rw [getlines]
  by_cases h : (s.splitOn delim).getLast? = some []
  · have hsplit := List.dropLast_append_getLast? _ h
    rw [if_pos h]
    conv_rhs => rw [← hsplit, List.map_append, List.filter_append, List.map_singleton, hnil]
    exact (List.append_nil _).symm
  · rw [if_neg h]

/-- The characters of the fields are those of the text but the delimiter and what
is taken off them. -/
theorem exists_mem_items_iff {f : Str → Str} (hnil : f [] = []) {delim c : UInt8}
    (hdelim : c ≠ delim) (hf : ∀ part, c ∈ f part ↔ c ∈ part) (s : Str) :
    (∃ item ∈ ((getlines delim s).map f).filter (!·.isEmpty), c ∈ item) ↔ c ∈ s := by
  rw [items_eq hnil, ← and_iff_left (a := c ∈ s) hdelim, ← exists_mem_splitOn_iff]
  constructor
  · rintro ⟨item, hitem, hc⟩
    obtain ⟨part, hpart, rfl⟩ := List.mem_map.mp (List.mem_of_mem_filter hitem)
    exact ⟨part, hpart, (hf part).mp hc⟩
  · rintro ⟨part, hpart, hc⟩
    refine ⟨f part, List.mem_filter.mpr ⟨List.mem_map_of_mem hpart, ?_⟩, (hf part).mpr hc⟩
    rw [Bool.not_eq_true', ← Bool.not_eq_true, List.isEmpty_iff]
    exact List.ne_nil_of_mem ((hf part).mpr hc)

/-- A character of one text only separates the two lists. -/
theorem items_ne {f : Str → Str} (hnil : f [] = []) {delim c : UInt8} (hdelim : c ≠ delim)
    (hf : ∀ part, c ∈ f part ↔ c ∈ part) {x y : Str} (hx : c ∈ x) (hy : c ∉ y) :
    ((getlines delim x).map f).filter (!·.isEmpty)
      ≠ ((getlines delim y).map f).filter (!·.isEmpty) := by
  intro heq
  have hmem := (exists_mem_items_iff hnil hdelim hf x).mpr hx
  rw [heq] at hmem
  exact hy ((exists_mem_items_iff hnil hdelim hf y).mp hmem)

theorem splitOn_flatMap {delim : UInt8} {ls : List Str} (h : ∀ l ∈ ls, delim ∉ l) :
    (ls.flatMap (· ++ [delim])).splitOn delim = ls ++ [[]] := by
  induction ls with
  | nil => rfl
  | cons l ls ih =>
    have hl := h l List.mem_cons_self
    rw [List.flatMap_cons, List.append_assoc, List.singleton_append,
      List.splitOn_append_cons_self_of_not_mem hl,
      ih fun m hm => h m (List.mem_cons_of_mem l hm), List.cons_append]

/-- Reading the terminated lines of a text gives the lines. -/
theorem getlines_flatMap {delim : UInt8} {ls : List Str} (h : ∀ l ∈ ls, delim ∉ l) :
    getlines delim (ls.flatMap (· ++ [delim])) = ls := by
  simp only [getlines, splitOn_flatMap h, List.getLast?_append, List.getLast?_singleton,
    Option.some_or, if_true, List.dropLast_concat]

/-! ## Numbers -/

/-- The exceptions of the `sto*` family. -/
inductive Exn where
  | invalidArgument
  | outOfRange
  deriving DecidableEq, Repr

/-- The number a run of decimal digits denotes. -/
def digitsValue (ds : Str) : Nat :=
  ds.foldl (fun n c => 10 * n + (c.toNat - '0'.toUInt8.toNat)) 0

/-- An optional sign (`true` for a minus) and the rest. -/
def splitSign : Str → Bool × Str
  | [] => (false, [])
  | c :: s =>
    if c = '-'.toUInt8 then (true, s) else if c = '+'.toUInt8 then (false, s)
    else (false, c :: s)

/-- What the `strto*` family reads: leading white space, an optional sign and
the longest run of digits, at least one. The result is the sign and the
magnitude; `none` when there is no digit. -/
def scanInteger (s : Str) : Option (Bool × Nat) :=
  let body := splitSign (s.dropWhile isSpace)
  let digits := body.2.takeWhile isDigit
  if digits.isEmpty then none else some (body.1, digitsValue digits)

theorem isSpace_of_isBlank {c : UInt8} (h : isBlank c = true) : isSpace c = true := by
  revert h
  exact forall_uint8 (by decide +kernel) c

theorem isDigit_of_isSpace {c : UInt8} (h : isSpace c = true) : isDigit c = false := by
  revert h
  exact forall_uint8 (by decide +kernel) c

/-- A run of digits ends in front of another character. -/
theorem takeWhile_isDigit_append {post : Str} (h : ∀ c ∈ post.head?, isDigit c = false)
    (s : Str) : (s ++ post).takeWhile isDigit = s.takeWhile isDigit := by
  induction s with
  | nil =>
    cases post with
    | nil => rfl
    | cons c post =>
      rw [List.nil_append, List.takeWhile_cons_of_neg (by rw [h c rfl]; exact Bool.false_ne_true)]
      rfl
  | cons d s ih =>
    rw [List.cons_append, List.takeWhile_cons, List.takeWhile_cons, ih]

/-- What is left of a text behind its leading white space, when more white
space follows. -/
theorem dropWhile_isSpace_append {post : Str} (h : ∀ c ∈ post, isSpace c = true) (s : Str) :
    (s ++ post).dropWhile isSpace = [] ∧ s.dropWhile isSpace = [] ∨
      ∃ c t, s.dropWhile isSpace = c :: t ∧ (s ++ post).dropWhile isSpace = c :: (t ++ post) := by
  induction s with
  | nil =>
    left
    exact ⟨List.dropWhile_eq_nil_iff.mpr h, rfl⟩
  | cons d s ih =>
    by_cases hd : isSpace d = true
    · rw [List.cons_append, List.dropWhile_cons_of_pos hd, List.dropWhile_cons_of_pos hd]
      exact ih
    · rw [List.cons_append, List.dropWhile_cons_of_neg hd, List.dropWhile_cons_of_neg hd]
      exact .inr ⟨d, s, rfl, rfl⟩

theorem splitSign_append (c : UInt8) (s post : Str) :
    splitSign (c :: (s ++ post)) = ((splitSign (c :: s)).1, (splitSign (c :: s)).2 ++ post) := by
  by_cases hminus : c = '-'.toUInt8
  · simp only [splitSign, if_pos hminus]
  · by_cases hplus : c = '+'.toUInt8
    · simp only [splitSign, if_neg hminus, if_pos hplus]
    · simp only [splitSign, if_neg hminus, if_neg hplus, List.cons_append]

/-- White space around a number does not change what is read. -/
theorem scanInteger_append {pre post : Str} (hpre : ∀ c ∈ pre, isSpace c = true)
    (hpost : ∀ c ∈ post, isSpace c = true) (s : Str) :
    scanInteger (pre ++ s ++ post) = scanInteger s := by
  have hdrop : (pre ++ s ++ post).dropWhile isSpace = (s ++ post).dropWhile isSpace := by
    rw [List.append_assoc, dropWhile_append_of_all hpre]
  have hdigit : ∀ c ∈ post.head?, isDigit c = false :=
    fun c hc => isDigit_of_isSpace (hpost c (List.mem_of_mem_head? hc))
  rcases dropWhile_isSpace_append hpost s with ⟨hl, hr⟩ | ⟨c, t, hr, hl⟩
  · simp only [scanInteger, hdrop, hl, hr]
  · simp only [scanInteger, hdrop, hl, hr, splitSign_append, takeWhile_isDigit_append hdigit]

/-- Nothing is read from a text whose first character behind the white space
can start no number. -/
theorem scanInteger_eq_none {pre : Str} (hpre : ∀ c ∈ pre, isSpace c = true) {c : UInt8}
    (hspace : isSpace c = false) (hdigit : isDigit c = false) (hminus : c ≠ '-'.toUInt8)
    (hplus : c ≠ '+'.toUInt8) (s : Str) : scanInteger (pre ++ c :: s) = none := by
  have hdrop : (pre ++ c :: s).dropWhile isSpace = c :: s := by
    rw [dropWhile_append_of_all hpre,
      List.dropWhile_cons_of_neg (by rw [hspace]; exact Bool.false_ne_true)]
  have hdigits : (c :: s).takeWhile isDigit = [] :=
    List.takeWhile_cons_of_neg (by rw [hdigit]; exact Bool.false_ne_true)
  simp only [scanInteger, hdrop, splitSign, if_neg hminus, if_neg hplus, hdigits]
  rfl

/-- What follows a number in front of a character that can be in none is not
read. -/
theorem scanInteger_append_cons {c : UInt8} (hspace : isSpace c = false)
    (hdigit : isDigit c = false) (hminus : c ≠ '-'.toUInt8) (hplus : c ≠ '+'.toUInt8) (s t : Str) :
    scanInteger (s ++ c :: t) = scanInteger s := by
  obtain ⟨pre, hpre, hs⟩ : ∃ pre, (∀ d ∈ pre, isSpace d = true) ∧ s = pre ++ s.dropWhile isSpace :=
    ⟨s.takeWhile isSpace, fun d hd => List.mem_takeWhile_imp hd,
      List.takeWhile_append_dropWhile.symm⟩
  cases hdrop : s.dropWhile isSpace with
  | nil =>
    rw [hdrop, List.append_nil] at hs
    rw [hs, scanInteger_eq_none hpre hspace hdigit hminus hplus, scanInteger,
      List.dropWhile_eq_nil_iff.mpr hpre]
    rfl
  | cons d u =>
    have happend : (s ++ c :: t).dropWhile isSpace = d :: (u ++ c :: t) := by
      rw [List.dropWhile_append, hdrop]
      rfl
    have hhead : ∀ e ∈ (c :: t).head?, isDigit e = false := by
      rintro e he
      rw [← Option.some.inj he]
      exact hdigit
    simp only [scanInteger, hdrop, happend, splitSign_append, takeWhile_isDigit_append hhead]

/-- A signed conversion with the given range. -/
def stoSigned (lo hi : Int) (s : Str) : Except Exn Int :=
  match scanInteger s with
  | none => .error .invalidArgument
  | some (neg, n) =>
    let value : Int := if neg then -n else n
    if lo ≤ value ∧ value ≤ hi then .ok value else .error .outOfRange

/-- `std::stoi`. -/
def stoi (s : Str) : Except Exn Int := stoSigned (-2 ^ 31) (2 ^ 31 - 1) s

/-- `std::stoll`. -/
def stoll (s : Str) : Except Exn Int := stoSigned (-2 ^ 63) (2 ^ 63 - 1) s

/-- `std::stoul` and `std::stoull` (both 64 bits wide): a minus sign negates
the result in the unsigned type. -/
def stoull (s : Str) : Except Exn UInt64 :=
  match scanInteger s with
  | none => .error .invalidArgument
  | some (neg, n) =>
    if n < 2 ^ 64 then .ok (if neg then -UInt64.ofNat n else UInt64.ofNat n)
    else .error .outOfRange

theorem stoi_congr {x y : Str} (h : scanInteger x = scanInteger y) : stoi x = stoi y := by
  rw [stoi, stoi, stoSigned, stoSigned, h]

theorem stoull_congr {x y : Str} (h : scanInteger x = scanInteger y) : stoull x = stoull y := by
  rw [stoull, stoull, h]

theorem stoi_eq_error {x : Str} (h : scanInteger x = none) :
    stoi x = .error .invalidArgument := by
  rw [stoi, stoSigned, h]

theorem stoull_eq_error {x : Str} (h : scanInteger x = none) :
    stoull x = .error .invalidArgument := by
  rw [stoull, h]

/-- `std::to_string` of an unsigned number. -/
def toDecimal (n : Nat) : Str := (Nat.toDigits 10 n).map Char.toUInt8

/-- `std::to_string` of a signed value. -/
def toDecimalInt (i : Int) : Str :=
  if i < 0 then '-'.toUInt8 :: toDecimal i.natAbs else toDecimal i.natAbs

theorem toUInt8_toNat_of_isDigit {c : Char} (h : c.isDigit = true) :
    c.toUInt8.toNat = c.toNat := by
  have hle : c.toNat ≤ 57 := (Char.isDigit_iff_toNat.mp h).2
  show c.toNat % 256 = c.toNat
  omega

/-- The bytes of a decimal rendering are digits. -/
theorem isDigit_of_mem_toDecimal {n : Nat} {b : UInt8} (h : b ∈ toDecimal n) :
    isDigit b = true := by
  obtain ⟨c, hc, rfl⟩ := List.mem_map.mp h
  have hd := Nat.isDigit_of_mem_toDigits (by decide) (by decide) hc
  have hn := toUInt8_toNat_of_isDigit hd
  rw [Char.isDigit_iff_toNat] at hd
  simp only [isDigit, Bool.and_eq_true, decide_eq_true_eq, UInt8.le_iff_toNat_le, hn]
  exact hd

/-! ## Digits and their rendering -/

theorem toDecimal_of_lt {n : Nat} (h : n < 10) : toDecimal n = [n.digitChar.toUInt8] := by
  rw [toDecimal, Nat.toDigits_of_lt_base h]
  rfl

theorem toDecimal_of_le {n : Nat} (h : 10 ≤ n) :
    toDecimal n = toDecimal (n / 10) ++ [(n % 10).digitChar.toUInt8] := by
  rw [toDecimal, Nat.toDigits_of_base_le (by decide) h, List.map_append]
  rfl

theorem digitsValue_append_singleton (ds : Str) (c : UInt8) :
    digitsValue (ds ++ [c]) = 10 * digitsValue ds + (c.toNat - '0'.toUInt8.toNat) := by
  rw [digitsValue, List.foldl_append]
  rfl

/-- A rendering denotes its number; induction on the number, by its last digit. -/
theorem digitsValue_toDecimal (n : Nat) : digitsValue (toDecimal n) = n := by
  have hdigit : ∀ m < 10, m.digitChar.toUInt8.toNat - '0'.toUInt8.toNat = m := by decide
  induction n using Nat.strong_induction_on with
  | _ n ih =>
    by_cases h : n < 10
    · rw [toDecimal_of_lt h]
      show 10 * 0 + _ = n
      rw [hdigit n h, Nat.mul_zero, Nat.zero_add]
    · rw [Nat.not_lt] at h
      rw [toDecimal_of_le h, digitsValue_append_singleton, ih (n / 10) (by omega),
        hdigit (n % 10) (by omega)]
      omega

/-- A decimal rendering determines its number. -/
theorem toDecimal_injective : Function.Injective toDecimal :=
  Function.LeftInverse.injective digitsValue_toDecimal

theorem toDecimal_ne_nil (n : Nat) : toDecimal n ≠ [] := by
  by_cases h : n < 10
  · rw [toDecimal_of_lt h]
    exact List.cons_ne_nil _ _
  · rw [toDecimal_of_le (Nat.le_of_not_lt h)]
    exact List.append_ne_nil_of_right_ne_nil _ (List.cons_ne_nil _ _)

/-- A digit is written as itself. -/
theorem digitChar_of_isDigit {c : UInt8} (h : isDigit c = true) :
    c.toNat - '0'.toUInt8.toNat < 10 ∧
      (c.toNat - '0'.toUInt8.toNat).digitChar.toUInt8 = c := by
  revert h
  exact forall_uint8 (by decide +kernel) c

/-- Digits without a leading zero are the rendering of their value; induction on them
from the last. -/
theorem toDecimal_digitsValue {ds : Str} (hne : ds ≠ []) (hdigits : ∀ c ∈ ds, isDigit c = true)
    (hlead : ds.head? = some '0'.toUInt8 → ds.length = 1) : toDecimal (digitsValue ds) = ds := by
  induction ds using List.reverseRecOn with
  | nil => exact absurd rfl hne
  | append_singleton ds c ih =>
    have hc := hdigits c (List.mem_append_right _ List.mem_cons_self)
    obtain ⟨hlt, hchar⟩ := digitChar_of_isDigit hc
    rw [digitsValue_append_singleton]
    cases ds with
    | nil =>
      show toDecimal (10 * 0 + _) = _
      rw [Nat.mul_zero, Nat.zero_add, toDecimal_of_lt hlt, hchar]
      rfl
    | cons d ds =>
      have hd : d ≠ '0'.toUInt8 := by
        rintro rfl
        have hlength := hlead rfl
        rw [List.length_append, List.length_cons, List.length_singleton] at hlength
        omega
      have hfront := ih (List.cons_ne_nil d ds)
        (fun e he => hdigits e (List.mem_append_left _ he))
        fun h => absurd (Option.some.inj h) hd
      have hpos : 0 < digitsValue (d :: ds) := by
        refine Nat.pos_of_ne_zero fun hzero => ?_
        rw [hzero] at hfront
        exact hd (List.cons.inj hfront).1.symm
      rw [toDecimal_of_le (by omega)]
      have hdiv : (10 * digitsValue (d :: ds) + (c.toNat - '0'.toUInt8.toNat)) / 10
          = digitsValue (d :: ds) := by omega
      have hmod : (10 * digitsValue (d :: ds) + (c.toNat - '0'.toUInt8.toNat)) % 10
          = c.toNat - '0'.toUInt8.toNat := by omega
      rw [hdiv, hmod, hchar, hfront]

end Cpp
