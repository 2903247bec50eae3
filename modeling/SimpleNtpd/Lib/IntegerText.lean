import SimpleNtpd.Lib.CppString

/-!
# Texts that are integers

A text denotes an integer when all of it is one: an optional sign and decimal
digits, with nothing but white space around them (`DenotesInteger`). The `sto*`
family asks for less, they read a number at the front of a text and leave the rest,
so on a text that denotes an integer they give that integer whenever it is in their
range (`stoi_of_denotes`, `stoull_of_denotes`), and a number as well on many others.
-/

namespace Cpp

/-- An optional sign, `true` for a minus. -/
inductive SignText : Str → Bool → Prop
  | none : SignText [] false
  | plus : SignText ['+'.toUInt8] false
  | minus : SignText ['-'.toUInt8] true

/-- The integer of a sign and a magnitude. -/
def signedValue (neg : Bool) (n : Nat) : Int := if neg then -n else n

/-- The whole text is an integer, but for the white space around it. -/
structure IntegerText (s pre sign digits post : Str) (neg : Bool) : Prop where
  text : s = pre ++ (sign ++ digits) ++ post
  sign : SignText sign neg
  nonempty : digits ≠ []
  digits : ∀ c ∈ digits, isDigit c = true
  pre : ∀ c ∈ pre, isSpace c = true
  post : ∀ c ∈ post, isSpace c = true

/-- A text denotes an integer. -/
def DenotesInteger (s : Str) (i : Int) : Prop :=
  ∃ pre sign digits post neg, IntegerText s pre sign digits post neg ∧
    i = signedValue neg (digitsValue digits)

/-- Digits alone denote their value. -/
theorem denotesInteger_of_digits {digits : Str} (hne : digits ≠ [])
    (hdigits : ∀ c ∈ digits, isDigit c = true) : DenotesInteger digits (digitsValue digits) :=
  ⟨[], [], digits, [], false,
    ⟨(List.append_nil digits).symm, .none, hne, hdigits, nofun, nofun⟩, rfl⟩

/-- A digit is no sign. -/
theorem splitSign_of_digit {c : UInt8} (h : isDigit c = true) (s : Str) :
    splitSign (c :: s) = (false, c :: s) := by
  have hminus : c ≠ '-'.toUInt8 := by
    rintro rfl
    cases h
  have hplus : c ≠ '+'.toUInt8 := by
    rintro rfl
    cases h
  rw [splitSign, if_neg hminus, if_neg hplus]

/-- In front of digits the sign is told apart, and nothing of it is white space. -/
theorem SignText.splitSign_dropWhile {sign digits : Str} {neg : Bool} (h : SignText sign neg)
    (hne : digits ≠ []) (hdigits : ∀ c ∈ digits, isDigit c = true) :
    splitSign ((sign ++ digits).dropWhile isSpace) = (neg, digits) := by
  obtain ⟨c, t, rfl⟩ := List.exists_cons_of_ne_nil hne
  cases h with
  | none =>
    have hc := hdigits c List.mem_cons_self
    have hspace : ¬isSpace c = true := fun hs => by
      rw [isDigit_of_isSpace hs] at hc
      cases hc
    rw [List.nil_append, List.dropWhile_cons_of_neg hspace, splitSign_of_digit hc]
  | plus => rfl
  | minus => rfl

/-- **All of it is read.** -/
theorem IntegerText.scanInteger_eq {s pre sign digits post : Str} {neg : Bool}
    (h : IntegerText s pre sign digits post neg) :
    scanInteger s = some (neg, digitsValue digits) := by
  rw [h.text, scanInteger_append h.pre h.post, scanInteger,
    h.sign.splitSign_dropWhile h.nonempty h.digits, List.takeWhile_eq_self_iff.mpr h.digits]
  exact if_neg fun hempty => h.nonempty (List.isEmpty_iff.mp hempty)

/-- A text denotes at most one integer. -/
theorem DenotesInteger.unique {s : Str} {i j : Int} (hi : DenotesInteger s i)
    (hj : DenotesInteger s j) : i = j := by
  obtain ⟨_, _, digits, _, neg, htext, rfl⟩ := hi
  obtain ⟨_, _, digits', _, neg', htext', rfl⟩ := hj
  have hscan := htext.scanInteger_eq
  rw [htext'.scanInteger_eq] at hscan
  obtain ⟨hneg, hn⟩ := Prod.mk.inj (Option.some.inj hscan)
  rw [hneg, hn]

/-- In the range of `int` it is what `std::stoi` gives. -/
theorem stoi_of_denotes {s : Str} {i : Int} (h : DenotesInteger s i) (hlo : -2 ^ 31 ≤ i)
    (hhi : i ≤ 2 ^ 31 - 1) : stoi s = .ok i := by
  obtain ⟨_, _, digits, _, neg, htext, rfl⟩ := h
  rw [stoi, stoSigned, htext.scanInteger_eq]
  exact if_pos ⟨hlo, hhi⟩

/-- In the range of a 64-bit unsigned type it is what `std::stoull` gives. -/
theorem stoull_of_denotes {s : Str} {i : Int} (h : DenotesInteger s i) (hlo : 0 ≤ i)
    (hhi : i < 2 ^ 64) : stoull s = .ok (UInt64.ofNat i.toNat) := by
  obtain ⟨_, _, digits, _, neg, htext, rfl⟩ := h
  rw [stoull, htext.scanInteger_eq]
  cases neg with
  | false =>
    have hlt : digitsValue digits < 2 ^ 64 := by
      rw [signedValue] at hhi
      simp only [Bool.false_eq_true, if_false] at hhi
      omega
    exact if_pos hlt
  | true =>
    -- the only number with a minus sign that is not negative
    have hzero : digitsValue digits = 0 := by
      rw [signedValue, if_pos rfl] at hlo
      omega
    rw [hzero]
    rfl

end Cpp
