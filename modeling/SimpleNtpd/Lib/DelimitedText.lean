import Mathlib.Data.List.Forall2
import SimpleNtpd.Lib.CppString

/-!
# Lists in one text

A text holds fields with a delimiter between them (`FieldsOf`), a field holds an item with
blanks around it (`TrimsTo`), and the fields of blanks only hold none: these are the items
of the text (`ItemsOf`). There is exactly one list of them, and the loop over
`std::getline` finds it (`itemsOf_iff`). Items that have no blank at their ends, no
delimiter and some character can be written into a text and come out again
(`items_intercalate`).

A program takes the blanks off with the positions `find_first_not_of` and
`find_last_not_of` return, and on a field of blanks only these are `npos`. Erasing from the
front up to `npos` leaves nothing, and one more than `npos` is zero, so erasing from there
on leaves nothing either (`erase_findFirstNotOf`, `erase_findLastNotOf`).
-/

namespace Cpp

variable {delim : UInt8} {p : UInt8 → Bool}

/-! ## Fields and items -/

/-- A text is the fields, with the delimiter between them. -/
def FieldsOf (delim : UInt8) (s : Str) (fields : List Str) : Prop :=
  fields ≠ [] ∧ (∀ field ∈ fields, delim ∉ field) ∧ [delim].intercalate fields = s

theorem fieldsOf_iff {s : Str} {fields : List Str} :
    FieldsOf delim s fields ↔ fields = s.splitOn delim := by
  constructor
  · rintro ⟨hne, hdelim, rfl⟩
    exact (List.splitOn_intercalate _ hdelim hne).symm
  · rintro rfl
    refine ⟨List.splitOn_ne_nil _ _, fun field hfield hmem => ?_, List.intercalate_splitOn _⟩
    exact ((exists_mem_splitOn_iff s).mp ⟨field, hfield, hmem⟩).2 rfl

/-- No field is longer than the text; induction on the fields. -/
theorem length_le_intercalate {fields : List Str} {field : Str} (h : field ∈ fields) :
    field.length ≤ ([delim].intercalate fields).length := by
  induction fields with
  | nil => exact absurd h List.not_mem_nil
  | cons first fields ih =>
    cases fields with
    | nil =>
      rw [List.mem_singleton] at h
      rw [h, List.intercalate_singleton]
    | cons second fields =>
      rw [List.intercalate_cons_cons, List.length_append, List.length_append]
      rcases List.mem_cons.mp h with rfl | h
      · omega
      · exact Nat.le_trans (ih h) (Nat.le_add_left _ _)

theorem mem_splitOn_of_mem_getlines {s line : Str} (h : line ∈ getlines delim s) :
    line ∈ s.splitOn delim := by
  unfold getlines at h
  dsimp only at h
  split at h
  · exact List.mem_of_mem_dropLast h
  · exact h

theorem length_le_of_mem_getlines {s line : Str} (h : line ∈ getlines delim s) :
    line.length ≤ s.length := by
  have hle : line.length ≤ ([delim].intercalate (s.splitOn delim)).length :=
    length_le_intercalate (mem_splitOn_of_mem_getlines h)
  rwa [List.intercalate_splitOn] at hle

theorem mem_of_mem_getlines {s line : Str} (h : line ∈ getlines delim s) {c : UInt8}
    (hc : c ∈ line) : c ∈ s :=
  ((exists_mem_splitOn_iff s).mp ⟨line, mem_splitOn_of_mem_getlines h, hc⟩).1

/-- A field holds an item, with blanks around it and none at its ends. -/
def TrimsTo (p : UInt8 → Bool) (field item : Str) : Prop :=
  ∃ pre post, (∀ c ∈ pre, p c = true) ∧ (∀ c ∈ post, p c = true) ∧ field = pre ++ item ++ post ∧
    ∀ c, c ∈ item.head? ∨ c ∈ item.getLast? → p c = false

theorem trimsTo_iff {field item : Str} :
    TrimsTo p field item ↔ item = (field.dropWhile p).rdropWhile p := by
  constructor
  · rintro ⟨pre, post, hpre, hpost, rfl, hends⟩
    rw [strip_append hpre hpost, strip_eq_self_iff.mpr hends]
  · rintro rfl
    obtain ⟨pre, post, hpre, hpost, hfield⟩ := exists_strip p field
    refine ⟨pre, post, hpre, hpost, hfield, strip_eq_self_iff.mp ?_⟩
    conv_rhs => rw [hfield, strip_append hpre hpost]

/-- The items of a text: those of its fields, in order, without the empty ones. -/
def ItemsOf (delim : UInt8) (p : UInt8 → Bool) (s : Str) (items : List Str) : Prop :=
  ∃ fields trimmed, FieldsOf delim s fields ∧ List.Forall₂ (TrimsTo p) fields trimmed ∧
    items = trimmed.filter (!·.isEmpty)

theorem forall₂_trimsTo_iff {fields trimmed : List Str} :
    List.Forall₂ (TrimsTo p) fields trimmed ↔
      trimmed = fields.map fun field => (field.dropWhile p).rdropWhile p := by
  have hrel : TrimsTo p = fun field item => (field.dropWhile p).rdropWhile p = item := by
    funext field item
    exact propext (trimsTo_iff.trans eq_comm)
  rw [hrel, ← List.forall₂_map_left_iff, List.forall₂_eq_eq_eq, eq_comm]

/-- **The items of a text are those the loop leaves.** -/
theorem itemsOf_iff {s : Str} {items : List Str} :
    ItemsOf delim p s items ↔ items =
      ((getlines delim s).map fun item => (item.dropWhile p).rdropWhile p).filter
        (!·.isEmpty) := by
  rw [items_eq rfl]
  constructor
  · rintro ⟨fields, trimmed, hfields, htrimmed, rfl⟩
    rw [forall₂_trimsTo_iff.mp htrimmed, fieldsOf_iff.mp hfields]
  · rintro rfl
    exact ⟨_, _, fieldsOf_iff.mpr rfl, forall₂_trimsTo_iff.mpr rfl, rfl⟩

/-- Items in a text, with blanks around each, are the items of the text. -/
theorem items_intercalate {items fields : List Str} (hdelim : p delim = false)
    (hitems : ∀ item ∈ items, item ≠ [] ∧ delim ∉ item)
    (hfields : List.Forall₂ (TrimsTo p) fields items) :
    ((getlines delim ([delim].intercalate fields)).map
      fun item => (item.dropWhile p).rdropWhile p).filter (!·.isEmpty) = items := by
  have hstrip := forall₂_trimsTo_iff.mp hfields
  rw [items_eq rfl]
  cases fields with
  | nil =>
    rw [hstrip]
    rfl
  | cons field fields =>
    have hnot : ∀ part ∈ field :: fields, delim ∉ part := by
      intro part hpart hmem
      have hitem : (part.dropWhile p).rdropWhile p ∈ items := by
        rw [hstrip]
        exact List.mem_map_of_mem hpart
      exact (hitems _ hitem).2 ((mem_strip_iff hdelim part).mpr hmem)
    rw [List.splitOn_intercalate _ hnot (List.cons_ne_nil _ _), ← hstrip]
    refine List.filter_eq_self.mpr fun item hitem => ?_
    rw [Bool.not_eq_true', List.isEmpty_eq_false_iff]
    exact (hitems item hitem).1

/-! ## Trimming by positions -/

/-- `std::string::npos`. -/
def npos : Nat := 2 ^ 64 - 1

/-- `s.find_first_not_of(…)`. -/
def findFirstNotOf (p : UInt8 → Bool) (s : Str) : Nat := (s.findIdx? (!p ·)).getD npos

/-- `s.find_last_not_of(…)`. -/
def findLastNotOf (p : UInt8 → Bool) (s : Str) : Nat :=
  ((s.reverse.findIdx? (!p ·)).map (s.length - 1 - ·)).getD npos

/-- `s.erase(pos, n)`. -/
def erase (s : Str) (pos n : Nat) : Str := s.take pos ++ s.drop (pos + n)

/-- `s.substr(pos, n)`. -/
def substr (s : Str) (pos n : Nat) : Str := (s.drop pos).take n

/-- The first character to keep is in front of what is left; without one, nothing is. -/
theorem dropWhile_eq_of_findFirstNotOf (p : UInt8 → Bool) (s : Str) :
    (findFirstNotOf p s = npos ∧ s.dropWhile p = []) ∨
      (findFirstNotOf p s < s.length ∧ s.dropWhile p = s.drop (findFirstNotOf p s)) := by
  rw [List.dropWhile_eq_drop_findIdx_not, findFirstNotOf]
  cases hfind : s.findIdx? (!p ·) with
  | none =>
    rw [List.findIdx?_eq_none_iff_findIdx_eq] at hfind
    rw [hfind]
    exact .inl ⟨rfl, List.drop_length⟩
  | some i =>
    obtain ⟨hlt, hi⟩ := List.findIdx?_eq_some_iff_findIdx_eq.mp hfind
    rw [hi]
    exact .inr ⟨hlt, rfl⟩

/-- The last character to keep is behind what is left; without one, nothing is. -/
theorem rdropWhile_eq_of_findLastNotOf (p : UInt8 → Bool) (s : Str) :
    (findLastNotOf p s = npos ∧ s.rdropWhile p = []) ∨
      (findLastNotOf p s < s.length ∧ s.rdropWhile p = s.take (findLastNotOf p s + 1)) := by
  rw [List.rdropWhile, findLastNotOf]
  cases hfind : s.reverse.findIdx? (!p ·) with
  | none =>
    rw [List.findIdx?_eq_none_iff_findIdx_eq] at hfind
    rw [List.dropWhile_eq_drop_findIdx_not, hfind, List.drop_length]
    exact .inl ⟨rfl, rfl⟩
  | some i =>
    obtain ⟨hlt, hi⟩ := List.findIdx?_eq_some_iff_findIdx_eq.mp hfind
    rw [List.length_reverse] at hlt
    have hlast : s.length - 1 - i < s.length := by omega
    have hkeep : s.length - 1 - i + 1 = s.length - i := by omega
    rw [List.dropWhile_eq_drop_findIdx_not, hi, List.drop_reverse, List.reverse_reverse]
    show _ ∨ s.length - 1 - i < s.length ∧ _ = s.take (s.length - 1 - i + 1)
    rw [hkeep]
    exact .inr ⟨hlast, rfl⟩

/-- Erasing up to the first character to keep. -/
theorem erase_findFirstNotOf {s : Str} (h : s.length ≤ npos) :
    erase s 0 (findFirstNotOf p s) = s.dropWhile p := by
  rw [erase, List.take_zero, List.nil_append, Nat.zero_add]
  obtain ⟨hnpos, hnil⟩ | ⟨-, hdrop⟩ := dropWhile_eq_of_findFirstNotOf p s
  · rw [hnpos, hnil, List.drop_of_length_le h]
  · exact hdrop.symm

/-- Erasing from behind the last character to keep, which wraps to zero when there is
none. -/
theorem erase_findLastNotOf {s : Str} (h : s.length ≤ npos) :
    erase s (u64 (findLastNotOf p s + 1)) npos = s.rdropWhile p := by
  rw [erase, List.drop_of_length_le (Nat.le_trans h (Nat.le_add_left _ _)), List.append_nil]
  obtain ⟨hnpos, hnil⟩ | ⟨hlt, htake⟩ := rdropWhile_eq_of_findLastNotOf p s
  · rw [hnpos, hnil]
    rfl
  · have hu64 : u64 (findLastNotOf p s + 1) = findLastNotOf p s + 1 := by
      rw [npos] at h
      have hcast := u64_eq (x := findLastNotOf p s + 1) (by omega) (by omega)
      omega
    rw [hu64, htake]

/-- Cutting out what stands from the first character to keep to the last. -/
theorem substr_findNotOf {s : Str} (h : s.length ≤ npos) :
    (if findFirstNotOf p s = npos then []
      else substr s (findFirstNotOf p s)
        (u64 ((findLastNotOf p s : Int) - findFirstNotOf p s + 1)))
      = (s.dropWhile p).rdropWhile p := by
  obtain ⟨hnpos, hnil⟩ | ⟨hlt, hdrop⟩ := dropWhile_eq_of_findFirstNotOf p s
  · rw [if_pos hnpos, hnil]
    rfl
  · generalize findFirstNotOf p s = first at hlt hdrop
    have hne : first ≠ npos := by omega
    rw [if_neg hne]
    -- the character at the first position is kept from both ends
    cases hkept : s.dropWhile p with
    | nil =>
      rw [hkept] at hdrop
      have hlength := congrArg List.length hdrop
      rw [List.length_nil, List.length_drop] at hlength
      omega
    | cons c rest =>
      have hc : p c = false := by
        have hnot := List.head?_dropWhile_not p s
        rw [hkept] at hnot
        exact hnot
      have hs : s = s.take first ++ c :: rest := by
        rw [← hkept, hdrop, List.take_append_drop]
      have hright := rdropWhile_append_cons hc (s.take first) rest
      rw [← hs] at hright
      have hfront : (c :: rest).rdropWhile p = c :: rest.rdropWhile p :=
        rdropWhile_append_cons hc [] rest
      obtain ⟨-, hnil⟩ | ⟨hlast, htake⟩ := rdropWhile_eq_of_findLastNotOf p s
      · rw [hnil] at hright
        exact absurd hright.symm (List.append_ne_nil_of_right_ne_nil _ (List.cons_ne_nil _ _))
      · generalize findLastNotOf p s = last at hlast htake
        rw [htake] at hright
        have hlength := congrArg List.length hright
        rw [List.length_append, List.length_take, List.length_take, List.length_cons] at hlength
        have hu64 : u64 ((last : Int) - first + 1) = last + 1 - first := by
          rw [npos] at h
          have hcast := u64_eq (x := (last : Int) - first + 1) (by omega) (by omega)
          omega
        have hfirst : (s.take first).length = first :=
          List.length_take_of_le (Nat.le_of_lt hlt)
        rw [hfront, hu64, substr, ← List.drop_take, hright]
        exact List.drop_left' hfirst

end Cpp
