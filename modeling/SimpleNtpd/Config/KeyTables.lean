import SimpleNtpd.Config.KeyFields
import SimpleNtpd.Config.NumericSettings

/-!
# Key tables

The arm of `authentication_keys` clears the table and then reads the entries of its
text one by one. The reader of an entry says whether it could read it, and the arm
does not look; it returns true whatever the entries are. The identifier is converted
by `std::stoul` and cast to 32 bits.

An entry is well formed when it is an identifier and a key (`KeySpec`). These the
reader enters (`parseAuthenticationKeySpec_of_spec`), so a text of well-formed entries
gives the table it lists, the last entry of an identifier taking precedence, as with
the fields of a record (`lookup_insertAll`). With one entry that is not, the table
before is lost all the same, and `authentication_keys_iff` says that there is no other
way to lose it.
-/

namespace SimpleNtpd

open Cpp Assignments

/-! ## Well-formed entries -/

/-- An entry `id:key`: the identifier a decimal number of 32 bits, the key not empty. -/
def KeySpec (item : Str) (entry : KeyEntry) : Prop :=
  ∃ idText, item = idText ++ ':'.toUInt8 :: entry.2 ∧ ':'.toUInt8 ∉ idText ∧
    DenotesInteger idText entry.1.toNat ∧ entry.2 ≠ []

/-- No number without a digit. -/
theorem ne_nil_of_denotes {s : Str} {i : Int} (h : DenotesInteger s i) : s ≠ [] := by
  rintro rfl
  obtain ⟨pre, sign, digits, post, neg, htext, -⟩ := h
  have hnil := htext.text.symm
  rw [List.append_eq_nil_iff, List.append_eq_nil_iff, List.append_eq_nil_iff] at hnil
  exact htext.nonempty hnil.1.2.2

/-- **A well-formed entry is entered**, whatever the table holds. -/
theorem parseAuthenticationKeySpec_of_spec {item : Str} {entry : KeyEntry}
    (h : KeySpec item entry) (keys : KeyTable) :
    parseAuthenticationKeySpec keys item = (true, keys.insert entry.1 entry.2) := by
  obtain ⟨id, key⟩ := entry
  obtain ⟨idText, rfl, hcolon, hid, hkey⟩ := h
  change key ≠ [] at hkey
  have hlength : idText.length ≠ 0 := fun hzero =>
    ne_nil_of_denotes hid (List.length_eq_zero_iff.mp hzero)
  have hlast : key.length ≠ 0 := fun hzero => hkey (List.length_eq_zero_iff.mp hzero)
  have hends : ¬(idText.length = 0 ∨
      idText.length = (idText ++ ':'.toUInt8 :: key).length - 1) := by
    rw [List.length_append, List.length_cons]
    omega
  have hlt : id.toNat < 2 ^ 64 := Nat.lt_trans id.toNat_lt (by decide)
  have hstoull : stoull idText = .ok (UInt64.ofNat id.toNat) :=
    stoull_of_denotes hid (Int.natCast_nonneg _) (Int.ofNat_lt.mpr hlt)
  have hcast : (UInt64.ofNat id.toNat).toUInt32 = id := by
    rw [← UInt32.toNat_inj, UInt64.toNat_toUInt32, UInt64.toNat_ofNat_of_lt' hlt]
    exact Nat.mod_eq_of_lt id.toNat_lt
  rw [parseAuthenticationKeySpec, find_append hcolon]
  dsimp only
  rw [if_neg hends, List.take_left, hstoull]
  dsimp only
  rw [List.drop_length_add_append, List.drop_succ_cons, List.drop_zero,
    if_neg (Bool.not_eq_true _ ▸ List.isEmpty_eq_false_iff.mpr hkey), hcast]

/-! ## Tables -/

/-- The table maps the identifiers listed to the keys listed, and nothing else; the
last entry of an identifier takes precedence. -/
def ListsKeys (value : Str) (keys : KeyTable) : Prop :=
  ∃ entries : List KeyEntry, List.Forall₂ KeySpec (readList value) entries ∧
    ∀ id, keys.lookup id = last id entries

/-- Reading well-formed entries inserts them. -/
theorem foldl_parseAuthenticationKeySpec {items : List Str} {entries : List KeyEntry}
    (h : List.Forall₂ KeySpec items entries) (keys : KeyTable) :
    items.foldl (fun keys item => (parseAuthenticationKeySpec keys item).2) keys
      = insertAll entries keys := by
  induction h generalizing keys with
  | nil => rfl
  | cons hspec _ ih =>
    rw [List.foldl_cons, parseAuthenticationKeySpec_of_spec hspec]
    exact ih _

/-- Each item has an entry exactly when the items have entries in a row. -/
theorem exists_forall₂_iff {α β : Type*} {R : α → β → Prop} {as : List α} :
    (∃ bs, List.Forall₂ R as bs) ↔ ∀ a ∈ as, ∃ b, R a b := by
  induction as with
  | nil => exact iff_of_true ⟨[], .nil⟩ nofun
  | cons a as ih =>
    rw [List.forall_mem_cons, ← ih]
    constructor
    · rintro ⟨_, hb | ⟨hb, hbs⟩⟩
      exact ⟨⟨_, hb⟩, _, hbs⟩
    · rintro ⟨⟨b, hb⟩, bs, hbs⟩
      exact ⟨b :: bs, .cons hb hbs⟩

/-- **The table read is the table listed** exactly when the text lists one. -/
theorem listsKeys_readAuthenticationKeys_iff (value : Str) :
    ListsKeys value (readAuthenticationKeys value) ↔
      ∀ item ∈ readList value, ∃ entry, KeySpec item entry := by
  rw [← exists_forall₂_iff]
  constructor
  · exact fun ⟨entries, hspecs, _⟩ => ⟨entries, hspecs⟩
  · rintro ⟨entries, hspecs⟩
    refine ⟨entries, hspecs, fun id => ?_⟩
    rw [readAuthenticationKeys, foldl_parseAuthenticationKeySpec hspecs, lookup_insertAll,
      AList.lookup_empty, Option.or_none]

/-! ## The arm -/

/-- The arm of the key table stores what it reads and returns true. -/
theorem settings_readKeys :
    List.Forall₂ (fun entry f => f = Field.authenticationKeys → ∀ value c,
      entry.2.apply value c
        = (true, { c with authenticationKeys := readAuthenticationKeys value }))
      settings settingFields := by
  unfold settings settingFields
  repeat
    refine .cons (fun hfield => ?_) ?_
    · first
      | exact fun value c => rfl
      | cases hfield
  exact .nil

theorem parseCommandLineArg_of_keys {key : Str} (hkey : keyField key = some .authenticationKeys)
    (c : NtpConfig) (value : Str) :
    c.parseCommandLineArg key value
      = (true, { c with authenticationKeys := readAuthenticationKeys value }) := by
  obtain ⟨s, hs, happly⟩ := exists_setting_of_key
    (P := fun s f => f = .authenticationKeys → ∀ value c,
      s.apply value c = (true, { c with authenticationKeys := readAuthenticationKeys value }))
    settings_readKeys hkey
  rw [NtpConfig.parseCommandLineArg_of_some hs]
  exact happly rfl value c

/-- The call stores the table listed, or returns false and leaves the table. -/
def ListedOrRefused (c : NtpConfig) (key value : Str) : Prop :=
  let result := c.parseCommandLineArg key value
  (result.1 = true ∧ ListsKeys value result.2.authenticationKeys) ∨
  (result.1 = false ∧ result.2.authenticationKeys = c.authenticationKeys)

/-- **When a key table is listed or refused.** For both names of the setting in any
case, every text and every configuration: exactly when each entry of the text is well
formed. -/
theorem authentication_keys_iff {key : Str} (hkey : keyField key = some .authenticationKeys)
    (c : NtpConfig) (value : Str) :
    ListedOrRefused c key value ↔ ∀ item ∈ readList value, ∃ entry, KeySpec item entry := by
  unfold ListedOrRefused
  rw [parseCommandLineArg_of_keys hkey, ← listsKeys_readAuthenticationKeys_iff]
  constructor
  · rintro (⟨-, h⟩ | ⟨hfalse, -⟩)
    · exact h
    · cases hfalse
  · exact fun h => .inl ⟨rfl, h⟩

theorem authentication_keys_two :
    keyField (lit "Auth_Keys") = some .authenticationKeys ∧
      (ListedOrRefused .defaults (lit "Auth_Keys") (lit "1:alpha, 2:beta") ↔
        ∀ item ∈ readList (lit "1:alpha, 2:beta"), ∃ entry, KeySpec item entry) :=
  ⟨by rfl, authentication_keys_iff (by rfl) _ _⟩

/-- An item that is not well formed is not listed. -/
theorem not_listedOrRefused {key : Str} (hkey : keyField key = some .authenticationKeys)
    (c : NtpConfig) {value : Str} (item : Str) (hitem : item ∈ readList value)
    (hnot : ∀ entry, ¬KeySpec item entry) : ¬ListedOrRefused c key value := by
  unfold ListedOrRefused
  rw [parseCommandLineArg_of_keys hkey]
  rintro (⟨-, hlists⟩ | ⟨hfalse, -⟩)
  · obtain ⟨entry, hspec⟩ := (listsKeys_readAuthenticationKeys_iff value).mp hlists item hitem
    exact hnot entry hspec
  · cases hfalse

/-- An identifier of digits whose value is too large is not well formed. -/
theorem not_keySpec_of_large {digits key : Str} (hne : digits ≠ [])
    (hdigits : ∀ c ∈ digits, isDigit c = true) (hlarge : 2 ^ 32 ≤ digitsValue digits)
    (entry : KeyEntry) : ¬KeySpec (digits ++ ':'.toUInt8 :: key) entry := by
  rintro ⟨idText, htext, hcolon, hid, -⟩
  have hdigit : ':'.toUInt8 ∉ digits := fun hmem => nomatch hdigits _ hmem
  -- both identifiers end at the first colon
  have hfind := find_append (b := key) hdigit
  rw [htext, find_append hcolon] at hfind
  have heq : idText = digits := List.append_inj_left htext.symm (Option.some.inj hfind)
  rw [heq] at hid
  have hvalue := hid.unique (denotesInteger_of_digits hne hdigits)
  have hlt := entry.1.toNat_lt
  omega

/-- A text with an entry that has no colon takes the old key away, and an identifier
of more than 32 bits overwrites the key of another. -/
theorem authentication_keys_lost :
    let c := { NtpConfig.defaults with authenticationKeys := AList.singleton 5 (lit "old") }
    ¬ListedOrRefused c (lit "authentication_keys") (lit "oops") ∧
      ¬ListedOrRefused c (lit "authentication_keys") (lit "5:first,4294967301:second") := by
  constructor
  · refine not_listedOrRefused (by rfl) _ (lit "oops") (by decide) ?_
    rintro entry ⟨idText, htext, -⟩
    have hcolon : ':'.toUInt8 ∈ lit "oops" := by
      rw [htext]
      exact List.mem_append_right _ List.mem_cons_self
    revert hcolon
    decide
  · refine not_listedOrRefused (by rfl) _ (lit "4294967301" ++ ':'.toUInt8 :: lit "second")
      (by decide) ?_
    exact not_keySpec_of_large (by decide) (List.all_eq_true.mp (by decide)) (by decide)

end SimpleNtpd
