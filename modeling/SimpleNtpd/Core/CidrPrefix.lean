import SimpleNtpd.Core.AccessBlocks

/-!
# Prefix matching

An entry `address/prefix` asks whether two addresses begin with the same bits. The code
builds a mask by a shift, which is undefined for 32 bits and avoided by a test for the
prefix 0 (`isIpInCidrChecked_eq`), and compares under the mask.

`cidr_prefix_equality` puts the answer in terms of the numbers the addresses are, for
every two addresses and every prefix; the entries of one prefix part the addresses into
networks, and a longer prefix gives a smaller one.
-/

namespace SimpleNtpd

open Cpp AddressBlock

/-- The decimal digits of a prefix, as they may stand behind the slash. -/
def PrefixText (digits : Str) (p : Nat) : Prop :=
  digits ≠ [] ∧ (∀ c ∈ digits, isDigit c = true) ∧ digitsValue digits = p

theorem prefixText_toDecimal (p : Nat) : PrefixText (toDecimal p) p :=
  ⟨toDecimal_ne_nil p, fun _ => isDigit_of_mem_toDecimal, digitsValue_toDecimal p⟩

/-! ## The shift -/

/-- `prefix == 0 ? 0u : 0xFFFFFFFFu << (32 - prefix)` (net.cpp:33), where the shift is defined. -/
def cidrMaskChecked (prefixLength : Int) : Option UInt32 :=
  if prefixLength = 0 then some 0 else shiftLeft32 0xFFFFFFFF (32 - prefixLength)

theorem cidrMaskChecked_eq {prefixLength : Int} (h0 : 0 ≤ prefixLength) (h1 : prefixLength ≤ 32) :
    cidrMaskChecked prefixLength = some (cidrMask prefixLength) := by
  rw [cidrMaskChecked, cidrMask]
  by_cases hzero : prefixLength = 0
  · rw [if_pos hzero, if_pos hzero]
  · rw [if_neg hzero, if_neg hzero, shiftLeft32_eq (by omega) (by omega)]
    congr 3
    omega

/-- `isIpInCidr` with `none` for the verdict where the shift is undefined. -/
def isIpInCidrChecked (ip cidr : Str) : Except Exn (Option Bool) :=
  match find cidr '/'.toUInt8 with
  | none => .ok (some (ip == cidr))
  | some slash =>
    match stoi (cidr.drop (slash + 1)) with
    | .error e => .error e
    | .ok prefixLength =>
      if prefixLength < 0 ∨ 32 < prefixLength then .ok (some false)
      else match inetPton ip, inetPton (cidr.take slash) with
        | some ipU, some baseU =>
          .ok ((cidrMaskChecked prefixLength).map fun mask => (ipU &&& mask) == (baseU &&& mask))
        | _, _ => .ok (some false)

/-- No prefix that gets as far as the shift makes it undefined, whatever the two texts. -/
theorem isIpInCidrChecked_eq (ip cidr : Str) :
    isIpInCidrChecked ip cidr = (isIpInCidr ip cidr).map some := by
  rw [isIpInCidrChecked, isIpInCidr]
  cases find cidr '/'.toUInt8 with
  | none => rfl
  | some slash =>
    dsimp only
    cases stoi (cidr.drop (slash + 1)) with
    | error e => rfl
    | ok prefixLength =>
      dsimp only
      by_cases hrange : prefixLength < 0 ∨ 32 < prefixLength
      · rw [if_pos hrange, if_pos hrange]
        rfl
      · rw [if_neg hrange, if_neg hrange, cidrMaskChecked_eq (by omega) (by omega)]
        cases inetPton ip <;> cases inetPton (cidr.take slash) <;> rfl

/-! ## The verdict -/

/-- The verdict on two addresses in dotted form and a prefix behind the second. -/
theorem isIpInCidr_of_texts {s t digits : Str} {a b : UInt32} {p : Nat} (hs : AddressText s a)
    (ht : AddressText t b) (hdigits : PrefixText digits p) (hp : p ≤ 32) :
    isIpInCidr s (t ++ '/'.toUInt8 :: digits)
      = .ok (decide (a.toNat / 2 ^ (32 - p) = b.toNat / 2 ^ (32 - p))) := by
  obtain rfl := addressText_iff.mp hs
  obtain rfl := addressText_iff.mp ht
  obtain ⟨hne, hall, hvalue⟩ := hdigits
  let block : Block 32 := ⟨b.toBitVec, p, hp⟩
  have hdenotes : DenotesBlock (inetNtop b ++ '/'.toUInt8 :: digits) block :=
    ⟨digits, hne, hall, hvalue, rfl⟩
  rw [isIpInCidr_of_denotes hdenotes]
  exact congrArg Except.ok (decide_eq_decide.mpr mem_iff)

/-- The address `a` matches `b/p`. -/
def InPrefix (p : Nat) (a b : UInt32) : Prop :=
  isIpInCidr (inetNtop a) (inetNtop b ++ '/'.toUInt8 :: toDecimal p) = .ok true

theorem inPrefix_iff {p : Nat} (hp : p ≤ 32) {a b : UInt32} :
    InPrefix p a b ↔ a.toBitVec ∈ (⟨b.toBitVec, p, hp⟩ : Block 32) := by
  have ha : AddressText (inetNtop a) a := addressText_iff.mpr rfl
  have hb : AddressText (inetNtop b) b := addressText_iff.mpr rfl
  rw [InPrefix, isIpInCidr_of_texts ha hb (prefixText_toDecimal p) hp, Except.ok.injEq,
    decide_eq_true_iff, mem_iff, UInt32.toNat_toBitVec, UInt32.toNat_toBitVec]

/-- **Prefix matching.** For every two addresses in dotted form and every prefix up to 32
in decimal digits, the verdict is whether their leading bits are the same. No shift is
undefined, for any two texts. Every prefix makes an equivalence of the addresses, and the
network of an address gets no larger when the prefix gets longer. -/
theorem cidr_prefix_equality :
    (∀ (s t digits : Str) (a b : UInt32) (p : Nat), AddressText s a → AddressText t b →
      PrefixText digits p → p ≤ 32 →
      isIpInCidr s (t ++ '/'.toUInt8 :: digits)
        = .ok (decide (a.toNat / 2 ^ (32 - p) = b.toNat / 2 ^ (32 - p)))) ∧
    (∀ ip cidr : Str, isIpInCidrChecked ip cidr = (isIpInCidr ip cidr).map some) ∧
    (∀ (a b : UInt32) (p q : Nat), p ≤ q → q ≤ 32 → InPrefix q a b → InPrefix p a b) ∧
    ∀ p ≤ 32, Equivalence (InPrefix p) := by
  refine ⟨fun s t digits a b p => isIpInCidr_of_texts, isIpInCidrChecked_eq,
    fun a b p q hpq hq ha => ?_, fun p hp => ?_⟩
  · have hp := Nat.le_trans hpq hq
    exact (inPrefix_iff hp).mpr (mem_of_length_le hpq hq ((inPrefix_iff hq).mp ha))
  · have heq := (mem_equivalence hp).comap UInt32.toBitVec
    exact ⟨fun a => (inPrefix_iff hp).mpr (heq.refl a),
      fun hab => (inPrefix_iff hp).mpr (heq.symm ((inPrefix_iff hp).mp hab)),
      fun hab hbc => (inPrefix_iff hp).mpr
        (heq.trans ((inPrefix_iff hp).mp hab) ((inPrefix_iff hp).mp hbc))⟩

theorem cidr_prefix_equality_example :
    isIpInCidr (lit "10.1.2.3") (lit "10.0.0.0/8")
      = .ok (decide (0x0A010203 / 2 ^ (32 - 8) = 0x0A000000 / 2 ^ (32 - 8))) := by
  have hclient : AddressText (lit "10.1.2.3") 0x0A010203 := by decide +kernel
  have hbase : AddressText (lit "10.0.0.0") 0x0A000000 := by decide +kernel
  have hdigits : PrefixText (lit "8") 8 :=
    ⟨by decide, List.all_eq_true.mp (by decide), by decide⟩
  exact cidr_prefix_equality.1 _ _ _ _ _ _ hclient hbase hdigits (by decide)

end SimpleNtpd
