import SimpleNtpd.Lib.CppString

/-!
# UTF-8 texts

A byte string is UTF-8 when it is the encoding of some characters. All bytes of a
character outside ASCII are from `0x80` on, so an ASCII byte is always a character
of its own: it splits a text into two that are UTF-8 or not by themselves
(`utf8_append_cons`).
-/

namespace Cpp

/-- An ASCII byte. -/
def isAscii (c : UInt8) : Bool := c < 0x80

/-- A string is UTF-8. -/
def Utf8 (s : Str) : Prop := ∃ cs : List Char, s = cs.flatMap String.utf8EncodeChar

theorem utf8_nil : Utf8 [] := ⟨[], rfl⟩

theorem Utf8.append {a b : Str} (ha : Utf8 a) (hb : Utf8 b) : Utf8 (a ++ b) := by
  obtain ⟨cs, rfl⟩ := ha
  obtain ⟨ds, rfl⟩ := hb
  exact ⟨cs ++ ds, List.flatMap_append.symm⟩

theorem ofNat_not_ascii {n : Nat} (hlow : 0x80 ≤ n) (hhigh : n < 0x100) :
    isAscii (UInt8.ofNat n) = false := by
  rw [isAscii, decide_eq_false_iff_not, UInt8.lt_iff_toNat_lt, UInt8.toNat_ofNat']
  show ¬n % 256 < 128
  omega

/-- An ASCII byte in the encoding of a character is all of it. -/
theorem utf8EncodeChar_of_ascii {c : UInt8} (hc : isAscii c = true) {d : Char}
    (hmem : c ∈ String.utf8EncodeChar d) : String.utf8EncodeChar d = [c] := by
  have hnot : ∀ n, 0x80 ≤ n → n < 0x100 → c ≠ UInt8.ofNat n := by
    rintro n hlow hhigh rfl
    rw [ofNat_not_ascii hlow hhigh] at hc
    cases hc
  revert hmem
  fun_cases String.utf8EncodeChar d with
  | case1 v =>
    intro hmem
    rw [List.mem_singleton.mp hmem]
  | case2 v =>
    intro hmem
    simp only [List.mem_cons, List.not_mem_nil, or_false] at hmem
    obtain h | h := hmem
    all_goals exact absurd h (hnot _ (by omega) (by omega))
  | case3 v =>
    intro hmem
    simp only [List.mem_cons, List.not_mem_nil, or_false] at hmem
    obtain h | h | h := hmem
    all_goals exact absurd h (hnot _ (by omega) (by omega))
  | case4 v =>
    intro hmem
    simp only [List.mem_cons, List.not_mem_nil, or_false] at hmem
    obtain h | h | h | h := hmem
    all_goals exact absurd h (hnot _ (by omega) (by omega))

/-- An ASCII byte is a text. -/
theorem utf8_singleton {c : UInt8} (hc : isAscii c = true) : Utf8 [c] := by
  have hlt : c.toNat < 0x80 := UInt8.lt_iff_toNat_lt.mp (of_decide_eq_true hc)
  have hval : (Char.ofUInt8 c).val.toNat = c.toNat := UInt8.toNat_toUInt32 c
  refine ⟨[Char.ofUInt8 c], ?_⟩
  rw [List.flatMap_singleton, String.utf8EncodeChar, hval]
  show [c] = if c.toNat ≤ 0x7f then _ else _
  rw [if_pos (by omega), UInt8.ofNat_toNat]

/-- The first part of a text that an ASCII byte splits; induction on the characters. -/
theorem Utf8.split {a b : Str} {c : UInt8} (hc : isAscii c = true) (h : Utf8 (a ++ c :: b)) :
    Utf8 a ∧ Utf8 b := by
  obtain ⟨cs, hcs⟩ := h
  induction cs generalizing a with
  | nil => exact absurd hcs (List.append_ne_nil_of_right_ne_nil a (List.cons_ne_nil c b))
  | cons d ds ih =>
    rw [List.flatMap_cons, List.append_eq_append_iff] at hcs
    obtain ⟨rest, hd, hrest⟩ | ⟨rest, rfl, hrest⟩ := hcs
    · cases rest with
      | nil =>
        rw [List.append_nil] at hd
        obtain ⟨-, hb⟩ := ih (a := []) hrest
        exact ⟨⟨[d], by rw [List.flatMap_singleton, hd]⟩, hb⟩
      | cons e rest =>
        obtain ⟨rfl, rfl⟩ := List.cons.inj hrest
        have hone := utf8EncodeChar_of_ascii hc (hd ▸ List.mem_append_right a List.mem_cons_self)
        rw [hd] at hone
        obtain ⟨rfl, hrest⟩ | ⟨-, hnil⟩ := List.append_eq_singleton_iff.mp hone
        · obtain ⟨-, rfl⟩ := List.cons.inj hrest
          exact ⟨utf8_nil, ds, rfl⟩
        · cases hnil
    · obtain ⟨ha, hb⟩ := ih hrest.symm
      exact ⟨Utf8.append ⟨[d], (List.flatMap_singleton _ _).symm⟩ ha, hb⟩

/-- An ASCII byte splits a text. -/
theorem utf8_append_cons {a b : Str} {c : UInt8} (hc : isAscii c = true) :
    Utf8 (a ++ c :: b) ↔ Utf8 a ∧ Utf8 b := by
  constructor
  · exact Utf8.split hc
  · rintro ⟨ha, hb⟩
    exact ha.append ((utf8_singleton hc).append hb)

/-- ASCII in front of a string changes nothing. -/
theorem utf8_ascii_append {pre : Str} (h : ∀ c ∈ pre, isAscii c = true) (s : Str) :
    Utf8 (pre ++ s) ↔ Utf8 s := by
  induction pre with
  | nil => rfl
  | cons c pre ih =>
    have hrest := ih fun d hd => h d (List.mem_cons_of_mem c hd)
    rw [← hrest]
    exact (utf8_append_cons (h c List.mem_cons_self)).trans (and_iff_right utf8_nil)

theorem utf8_of_ascii {s : Str} (h : ∀ c ∈ s, isAscii c = true) : Utf8 s := by
  rw [← List.append_nil s, utf8_ascii_append h]
  exact utf8_nil

end Cpp
