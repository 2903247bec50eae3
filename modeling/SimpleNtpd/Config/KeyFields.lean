import SimpleNtpd.Config.Settings
import SimpleNtpd.Lib.Assignments

/-!
# The fields of a key table

The text of a key table is cut at the commas; a field is trimmed, and an identifier, a colon
and a key in it are an entry. What is not an entry is passed over. So the table that is read
has the entries of the fields (`readAuthenticationKeys_eq`), the last one of an identifier
taking precedence.

A text with characters behind it, or with a quote in front, has other fields: the last key
becomes another one, and the first field no entry (`fieldEntry_append`,
`fieldEntry_quote`). `KeysKept` says of the fields when the table is the same all the same,
and `readAuthenticationKeys_append_iff` and `readAuthenticationKeys_quote_iff` that it says
so exactly.
-/

namespace SimpleNtpd

open Cpp Assignments

/-- A table of keys. -/
abbrev KeyTable := AList fun _ : UInt32 => Str

/-- An entry of the table. -/
abbrev KeyEntry := Sigma fun _ : UInt32 => Str

/-! ## Fields -/

/-- The number in front of the first colon of a text. -/
def specNumber (spec : Str) : Option UInt64 :=
  (find spec ':'.toUInt8).bind fun colon => (stoull (spec.take colon)).toOption

/-- What stands behind the first colon. -/
def specKey (spec : Str) : Str := spec.drop ((find spec ':'.toUInt8).getD spec.length + 1)

/-- The entry of a text. -/
def specEntry (spec : Str) : Option KeyEntry :=
  if (specKey spec).isEmpty then none
  else (specNumber spec).map fun number => ⟨number.toUInt32, specKey spec⟩

/-- The number in front of the first colon of a field. -/
def fieldNumber (field : Str) : Option UInt64 := specNumber (trimRight (trimLeft field))

/-- The entry of a field. -/
def fieldEntry (field : Str) : Option KeyEntry := specEntry (trimRight (trimLeft field))

section Specs

variable {number key : Str}

theorem specNumber_of_colon (h : ':'.toUInt8 ∉ number) :
    specNumber (number ++ ':'.toUInt8 :: key) = (stoull number).toOption := by
  rw [specNumber, find_append h, Option.bind_some, List.take_left]

theorem specKey_of_colon (h : ':'.toUInt8 ∉ number) :
    specKey (number ++ ':'.toUInt8 :: key) = key := by
  rw [specKey, find_append h, Option.getD_some, List.drop_length_add_append, List.drop_succ_cons,
    List.drop_zero]

/-- Without a colon there is no number. -/
theorem specNumber_of_notMem {spec : Str} (h : ':'.toUInt8 ∉ spec) : specNumber spec = none := by
  rw [specNumber, find_eq_none h]
  rfl

theorem specEntry_of_number {spec : Str} (h : specNumber spec = none) : specEntry spec = none := by
  rw [specEntry, h, Option.map_none, ite_self]

/-- Every text either has no colon or is cut at the first. -/
theorem colon_cases (spec : Str) :
    ':'.toUInt8 ∉ spec ∨
      ∃ number key, spec = number ++ ':'.toUInt8 :: key ∧ ':'.toUInt8 ∉ number := by
  by_cases h : ':'.toUInt8 ∈ spec
  · exact .inr (List.eq_append_cons_of_mem h)
  · exact .inl h

/-- An entry is entered, and what is none is passed over. -/
theorem parseAuthenticationKeySpec_snd (keys : KeyTable) (spec : Str) :
    (parseAuthenticationKeySpec keys spec).2
      = (specEntry spec).elim keys fun entry => keys.insert entry.1 entry.2 := by
  rcases colon_cases spec with hnone | ⟨number, key, rfl, hcolon⟩
  · rw [specEntry_of_number (specNumber_of_notMem hnone), parseAuthenticationKeySpec,
      find_eq_none hnone]
    rfl
  · rw [specEntry, specNumber_of_colon hcolon, specKey_of_colon hcolon, parseAuthenticationKeySpec,
      find_append hcolon]
    dsimp only
    rw [List.take_left, List.drop_length_add_append, List.drop_succ_cons, List.drop_zero]
    by_cases hends : number.length = 0 ∨
        number.length = (number ++ ':'.toUInt8 :: key).length - 1
    · -- without a number or a key there is no entry
      rw [if_pos hends]
      rcases hends with hzero | hlast
      · rw [List.length_eq_zero_iff.mp hzero]
        split <;> rfl
      · rw [List.length_append, List.length_cons] at hlast
        rw [List.length_eq_zero_iff.mp (by omega : key.length = 0)]
        rfl
    · rw [if_neg hends]
      cases stoull number <;> cases key.isEmpty <;> rfl

end Specs

/-! ## Tables -/

/-- **The table that is read** has the entries of the fields. -/
theorem readAuthenticationKeys_eq (value : Str) :
    readAuthenticationKeys value
      = insertAll ((value.splitOn ','.toUInt8).filterMap fieldEntry) ∅ := by
  rw [readAuthenticationKeys, readList, items_eq rfl, List.foldl_filter, List.foldl_map]
  generalize (∅ : KeyTable) = keys
  induction value.splitOn ','.toUInt8 generalizing keys with
  | nil => rfl
  | cons field fields ih =>
    have hfield : (if (!(trimRight (trimLeft field)).isEmpty) = true then
        (parseAuthenticationKeySpec keys (trimRight (trimLeft field))).2 else keys)
          = (fieldEntry field).elim keys fun entry => keys.insert entry.1 entry.2 := by
      unfold fieldEntry
      rw [← parseAuthenticationKeySpec_snd]
      -- the reader passes over an empty text itself
      cases trimRight (trimLeft field) <;> rfl
    rw [List.foldl_cons, hfield, ih]
    cases hentry : fieldEntry field with
    | none => rw [List.filterMap_cons_none hentry, Option.elim_none]
    | some entry =>
      rw [List.filterMap_cons_some hentry, Option.elim_some]
      rfl

/-! ## Other characters around the text -/

/-- What stands behind the text of a table in a line: no comma, no colon, and not a blank in the
end. -/
structure Tail (tail : Str) : Prop where
  comma : ','.toUInt8 ∉ tail
  colon : ':'.toUInt8 ∉ tail
  last : ∃ c ∈ tail.getLast?, isBlank c = false

theorem tail_concat {front : Str} {c : UInt8}
    (hfront : ∀ d ∈ front, d ≠ ','.toUInt8 ∧ d ≠ ':'.toUInt8)
    (hc : c ≠ ','.toUInt8 ∧ c ≠ ':'.toUInt8) (hblank : isBlank c = false) :
    Tail (front ++ [c]) where
  comma := fun hmem => (List.mem_append.mp hmem).elim (fun h => (hfront _ h).1 rfl)
    fun h => hc.1 (List.mem_singleton.mp h).symm
  colon := fun hmem => (List.mem_append.mp hmem).elim (fun h => (hfront _ h).2 rfl)
    fun h => hc.2 (List.mem_singleton.mp h).symm
  last := ⟨c, by rw [List.getLast?_concat]; rfl, hblank⟩

/-- In front of a colon only blanks on the left are trimmed, and behind it those on the right. -/
theorem trim_of_colon (number key : Str) :
    trimRight (trimLeft (number ++ ':'.toUInt8 :: key))
      = trimLeft number ++ ':'.toUInt8 :: trimRight key := by
  have hcolon : isBlank ':'.toUInt8 = false := by decide
  have hleft : trimLeft (number ++ ':'.toUInt8 :: key) = trimLeft number ++ ':'.toUInt8 :: key := by
    unfold trimLeft
    rw [List.dropWhile_append]
    split
    · rename_i hempty
      rw [List.isEmpty_iff.mp hempty]
      exact trimLeft_cons_of_not hcolon key
    · rfl
  rw [hleft]
  exact rdropWhile_append_cons hcolon _ _

section Around

variable {field tail value : Str}

theorem colon_notMem_trimLeft {number : Str} (h : ':'.toUInt8 ∉ number) :
    ':'.toUInt8 ∉ trimLeft number := fun hmem =>
  h ((mem_dropWhile_iff (by decide) number).mp hmem)

theorem fieldNumber_of_notMem (h : ':'.toUInt8 ∉ field) : fieldNumber field = none :=
  specNumber_of_notMem fun hmem => h ((mem_strip_iff (by decide) field).mp hmem)

theorem fieldEntry_of_number (h : fieldNumber field = none) : fieldEntry field = none :=
  specEntry_of_number h

/-- More characters behind a field make another key of its key. -/
theorem fieldEntry_append (htail : Tail tail) (field : Str) :
    fieldEntry (field ++ tail)
      = (fieldNumber field).map fun number => ⟨number.toUInt32, specKey field ++ tail⟩ := by
  rcases colon_cases field with hnone | ⟨number, key, rfl, hcolon⟩
  · have hboth : ':'.toUInt8 ∉ field ++ tail := fun hmem =>
      (List.mem_append.mp hmem).elim hnone htail.colon
    rw [fieldNumber_of_notMem hnone, fieldEntry_of_number (fieldNumber_of_notMem hboth)]
    rfl
  · obtain ⟨c, hlast, hblank⟩ := htail.last
    obtain ⟨front, rfl⟩ := List.getLast?_eq_some_iff.mp hlast
    have hkept : trimRight (key ++ (front ++ [c])) = key ++ (front ++ [c]) := by
      rw [← List.append_assoc]
      exact trimRight_concat_of_not hblank _
    have hne : (key ++ (front ++ [c])).isEmpty = false := by
      rw [List.isEmpty_eq_false_iff, ← List.append_assoc]
      exact List.concat_ne_nil _ _
    rw [List.append_assoc, List.cons_append, fieldEntry, fieldNumber, trim_of_colon, trim_of_colon,
      specEntry, specNumber_of_colon (colon_notMem_trimLeft hcolon),
      specNumber_of_colon (colon_notMem_trimLeft hcolon),
      specKey_of_colon (colon_notMem_trimLeft hcolon), specKey_of_colon hcolon, hkept, hne]
    rfl

/-- A field with a quote in front has no number. -/
theorem fieldEntry_quote (field : Str) : fieldEntry ('"'.toUInt8 :: field) = none := by
  rcases colon_cases field with hnone | ⟨number, key, rfl, hcolon⟩
  · refine fieldEntry_of_number (fieldNumber_of_notMem fun hmem => ?_)
    exact (List.mem_cons.mp hmem).elim (fun h => absurd h (by decide)) hnone
  · have hquoted : ':'.toUInt8 ∉ '"'.toUInt8 :: number := fun hmem =>
      (List.mem_cons.mp hmem).elim (fun h => absurd h (by decide)) hcolon
    have hnumber : scanInteger ('"'.toUInt8 :: number) = none :=
      scanInteger_eq_none (List.forall_mem_nil _) (by decide) (by decide) (by decide) (by decide)
        number
    refine fieldEntry_of_number ?_
    rw [fieldNumber, ← List.cons_append, trim_of_colon,
      specNumber_of_colon (colon_notMem_trimLeft hquoted), trimLeft_cons_of_not (by decide),
      stoull_eq_error hnumber]
    rfl

/-- The keys of a table stand in its text. -/
theorem mem_of_lookup {id : UInt32} {key : Str}
    (h : (readAuthenticationKeys value).lookup id = some key) {c : UInt8} (hc : c ∈ key) :
    c ∈ value := by
  rw [readAuthenticationKeys_eq, lookup_insertAll, AList.lookup_empty, Option.or_none] at h
  obtain ⟨field, hfield, hentry⟩ := List.mem_filterMap.mp (mem_of_last_eq_some h)
  have hkey : key = specKey (trimRight (trimLeft field)) := by
    unfold fieldEntry specEntry at hentry
    split at hentry
    · cases hentry
    · obtain ⟨number, -, heq⟩ := Option.map_eq_some_iff.mp hentry
      cases heq
      rfl
  have hmem : c ∈ field := by
    rw [hkey] at hc
    exact List.dropWhile_subset _ ((List.rdropWhile_prefix _ _).subset (List.mem_of_mem_drop hc))
  exact ((exists_mem_splitOn_iff value).mp ⟨field, hfield, hmem⟩).1

/-- With more characters behind the last field there is another table, where it has a number. -/
theorem fieldNumber_of_table_eq (htail : Tail tail) (hother : ∃ c ∈ tail, c ∉ value)
    {front : List Str}
    (h : insertAll ((front ++ [field ++ tail]).filterMap fieldEntry) ∅
      = readAuthenticationKeys value) : fieldNumber field = none := by
  obtain ⟨c, hc, hnot⟩ := hother
  have hentry := fieldEntry_append htail field
  cases hnumber : fieldNumber field with
  | none => rfl
  | some number =>
    rw [hnumber, Option.map_some] at hentry
    have hlookup : (readAuthenticationKeys value).lookup number.toUInt32
        = some (specKey field ++ tail) := by
      rw [← h, lookup_insertAll, List.filterMap_append, List.filterMap_cons_some hentry,
        List.filterMap_nil, last_append, last_singleton, valueAt_self, Option.some_or,
        Option.some_or]
    exact absurd (mem_of_lookup hlookup (List.mem_append_right _ hc)) hnot

/-- A last field without a number has no entry, with more characters behind it or not. -/
theorem entries_append (htail : Tail tail) (hnone : fieldNumber field = none) (front : List Str) :
    (front ++ [field ++ tail]).filterMap fieldEntry = (front ++ [field]).filterMap fieldEntry := by
  have hentry := fieldEntry_append htail field
  rw [hnone, Option.map_none] at hentry
  rw [List.filterMap_append, List.filterMap_append, List.filterMap_cons_none hentry,
    List.filterMap_cons_none (fieldEntry_of_number hnone)]

end Around

/-! ## When the table is the same -/

/-- No number stands in front of a colon in the last of the fields. -/
def LastWithoutNumber (fields : List Str) : Prop :=
  ∀ field ∈ fields.getLast?, fieldNumber field = none

/-- A later field has an entry with the identifier of the first one's, if that has an entry. -/
def FirstOverwritten (fields : List Str) : Prop :=
  ∀ entry ∈ fields.head?.bind fieldEntry, ∃ later ∈ fields.tail.filterMap fieldEntry,
    later.1 = entry.1

/-- The fields of a table that stays the same with more characters behind its text and, with
`quoted`, a quote in front: the last field, unless it is the quoted one, has no number, and the
quoted one is overwritten. -/
def KeysKept (quoted : Bool) (fields : List Str) : Prop :=
  if quoted then LastWithoutNumber fields.tail ∧ FirstOverwritten fields
  else LastWithoutNumber fields

theorem lastWithoutNumber_concat {front : List Str} {field : Str} :
    LastWithoutNumber (front ++ [field]) ↔ fieldNumber field = none := by
  unfold LastWithoutNumber
  rw [List.getLast?_concat]
  exact ⟨fun h => h field rfl, fun h f hf => Option.some.inj hf ▸ h⟩

/-- The first field makes no difference exactly when it is overwritten. -/
theorem table_cons_iff {first : Str} {rest : List Str} :
    insertAll (rest.filterMap fieldEntry) ∅ = insertAll ((first :: rest).filterMap fieldEntry) ∅ ↔
      FirstOverwritten (first :: rest) := by
  have hcons : (first :: rest).filterMap fieldEntry
      = (fieldEntry first).toList ++ rest.filterMap fieldEntry := by
    rw [List.filterMap_cons]
    cases fieldEntry first <;> rfl
  rw [hcons, eq_comm]
  exact insertAll_toList_append_iff

section Kept

variable {tail value : Str}

/-- **More characters behind the text** leave the table exactly when the last field has no
number. -/
theorem readAuthenticationKeys_append_iff (htail : Tail tail) (hother : ∃ c ∈ tail, c ∉ value) :
    readAuthenticationKeys (value ++ tail) = readAuthenticationKeys value ↔
      KeysKept false (value.splitOn ','.toUInt8) := by
  obtain ⟨front, field, hsplit, happend⟩ := splitOn_append_right htail.comma value
  show _ ↔ LastWithoutNumber _
  rw [hsplit, lastWithoutNumber_concat, readAuthenticationKeys_eq (value ++ tail), happend]
  constructor
  · exact fieldNumber_of_table_eq htail hother
  · intro hnone
    rw [entries_append htail hnone, ← hsplit, readAuthenticationKeys_eq]

/-- **A quote in front and more characters behind the text** leave the table exactly when the last
field has no number and the first one is overwritten. -/
theorem readAuthenticationKeys_quote_iff (htail : Tail tail) (hother : ∃ c ∈ tail, c ∉ value) :
    readAuthenticationKeys ('"'.toUInt8 :: (value ++ tail)) = readAuthenticationKeys value ↔
      KeysKept true (value.splitOn ','.toUInt8) := by
  obtain ⟨front, field, hsplit, happend⟩ := splitOn_append_right htail.comma value
  have hquoted : readAuthenticationKeys ('"'.toUInt8 :: (value ++ tail))
      = insertAll (((front ++ [field ++ tail]).modifyHead ('"'.toUInt8 :: ·)).filterMap fieldEntry)
          ∅ := by
    rw [readAuthenticationKeys_eq, ← happend, ← List.singleton_append,
      splitOn_append_of_notMem (by decide)]
    rfl
  show _ ↔ LastWithoutNumber _ ∧ FirstOverwritten _
  rw [hquoted, hsplit]
  cases front with
  | nil =>
    -- the only field has the quote, so the table is empty
    rw [List.nil_append, List.nil_append, List.modifyHead_cons,
      List.filterMap_cons_none (fieldEntry_quote _), readAuthenticationKeys_eq, hsplit,
      List.nil_append, table_cons_iff]
    exact (and_iff_right fun _ hfield => by cases hfield).symm
  | cons first mid =>
    rw [List.cons_append, List.cons_append, List.modifyHead_cons,
      List.filterMap_cons_none (fieldEntry_quote _), List.tail_cons, lastWithoutNumber_concat]
    constructor
    · intro h
      have hnone := fieldNumber_of_table_eq htail hother h
      rw [entries_append htail hnone, readAuthenticationKeys_eq, hsplit] at h
      exact ⟨hnone, table_cons_iff.mp h⟩
    · rintro ⟨hnone, hover⟩
      rw [entries_append htail hnone, readAuthenticationKeys_eq, hsplit]
      exact table_cons_iff.mpr hover

end Kept

end SimpleNtpd
