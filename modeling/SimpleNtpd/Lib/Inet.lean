import Mathlib.Data.List.Basic
import SimpleNtpd.Lib.CppString
import SimpleNtpd.Lib.Word

/-!
# IPv4 addresses as text

`inet_ntop` and `inet_pton` for `AF_INET`. An address is the 32-bit number
`ntohl(s_addr)`. The parser takes exactly four dot-separated decimal numbers
below 256 without leading zeros, up to a terminating NUL byte (it is handed a
C string); the renderer writes such a text, so parsing what was rendered gives
the address back (`inetPton_inetNtop`) and no two addresses are written alike.
There is no other text for an address (`addressText_iff`).
-/

namespace Cpp

/-- The four octets of an address, first to last. -/
def octets (addr : UInt32) : List UInt8 := Word.toBytes addr

/-- `inet_ntop(AF_INET, …)`. -/
def inetNtop (addr : UInt32) : Str :=
  ['.'.toUInt8].intercalate ((octets addr).map fun o => toDecimal o.toNat)

/-- One octet: decimal digits, no leading zero, at most 255. -/
def parseOctet (s : Str) : Option UInt8 :=
  if s.isEmpty || !s.all isDigit || (s.head? == some '0'.toUInt8 && 1 < s.length)
      || 255 < digitsValue s then none
  else some (UInt8.ofNat (digitsValue s))

/-- `inet_pton(AF_INET, …)`; `none` is a return value other than 1. -/
def inetPton (s : Str) : Option UInt32 :=
  match ((s.takeWhile (· != 0)).splitOn '.'.toUInt8).map parseOctet with
  | [some a, some b, some c, some d] => some (Word.ofBytes a b c d)
  | _ => none

theorem parseOctet_toDecimal (o : UInt8) : parseOctet (toDecimal o.toNat) = some o :=
  forall_uint8 (by decide +kernel) o

/-- The dot is not a digit. -/
theorem dot_notMem_toDecimal (n : Nat) : '.'.toUInt8 ∉ toDecimal n :=
  fun h => Bool.false_ne_true (isDigit_of_mem_toDecimal h)

/-- A rendered address holds digits and dots only. -/
theorem mem_inetNtop {addr : UInt32} {b : UInt8} (h : b ∈ inetNtop addr) :
    isDigit b = true ∨ b = '.'.toUInt8 := by
  simp only [inetNtop, octets, Word.toBytes, List.map_cons, List.map_nil,
    List.intercalate_cons_cons, List.intercalate_singleton, List.mem_append,
    List.mem_singleton, or_assoc] at h
  rcases h with h | h | h | h | h | h | h
  all_goals first
    | exact .inl (isDigit_of_mem_toDecimal h)
    | exact .inr h

theorem nul_notMem_inetNtop (addr : UInt32) : 0 ∉ inetNtop addr := by
  intro h
  rcases mem_inetNtop h with hdigit | hdot
  · exact Bool.false_ne_true hdigit
  · exact absurd hdot (by decide)

/-- A text without a NUL byte is the C string it is handed over as. -/
theorem takeWhile_nul {s : Str} (h : 0 ∉ s) : s.takeWhile (· != 0) = s := by
  refine List.takeWhile_eq_self_iff.mpr fun b hb => bne_iff_ne.mpr ?_
  rintro rfl
  exact h hb

/-- Parsing a rendered address gives the address back. -/
theorem inetPton_inetNtop (addr : UInt32) : inetPton (inetNtop addr) = some addr := by
  have hnul := takeWhile_nul (nul_notMem_inetNtop addr)
  have hsplit : (inetNtop addr).splitOn '.'.toUInt8
      = (octets addr).map fun o => toDecimal o.toNat := by
    refine List.splitOn_intercalate _ ?_ (by simp [octets, Word.toBytes])
    intro l hl
    obtain ⟨o, -, rfl⟩ := List.mem_map.mp hl
    exact dot_notMem_toDecimal _
  simp only [inetPton, hnul, hsplit, octets, Word.toBytes, List.map_cons, List.map_nil,
    parseOctet_toDecimal, Word.ofBytes_byte]

/-- No two addresses are written alike. -/
theorem inetNtop_injective : Function.Injective inetNtop := by
  intro a b h
  have hsome : some a = some b := by
    rw [← inetPton_inetNtop a, ← inetPton_inetNtop b, h]
  exact Option.some.inj hsome

/-- An octet is read from its rendering only. -/
theorem parseOctet_eq_some {s : Str} {o : UInt8} (h : parseOctet s = some o) :
    s = toDecimal o.toNat := by
  unfold parseOctet at h
  split at h
  · cases h
  · next hbad =>
    simp only [Bool.or_eq_true, Bool.and_eq_true, Bool.not_eq_true', decide_eq_true_eq,
      beq_iff_eq, not_or, not_and, Nat.not_lt, List.isEmpty_iff, Bool.not_eq_false] at hbad
    obtain ⟨⟨⟨hne, hdigits⟩, hlead⟩, hle⟩ := hbad
    have hpos := List.length_pos_iff.mpr hne
    have hvalue : (UInt8.ofNat (digitsValue s)).toNat = digitsValue s :=
      Nat.mod_eq_of_lt (Nat.lt_succ_of_le hle)
    rw [← Option.some.inj h, hvalue]
    refine (toDecimal_digitsValue hne (List.all_eq_true.mp hdigits) fun hzero => ?_).symm
    have hlength := hlead hzero
    omega

/-- Octets are read from their decimals only; induction on the octets. -/
theorem map_parseOctet_eq {parts : List Str} {os : List UInt8}
    (h : parts.map parseOctet = os.map some) : parts = os.map fun o => toDecimal o.toNat := by
  induction os generalizing parts with
  | nil => exact List.map_eq_nil_iff.mp h
  | cons o os ih =>
    obtain ⟨part, rest, rfl, hpart, hrest⟩ := List.map_eq_cons_iff.mp h
    rw [List.map_cons, ← parseOctet_eq_some hpart, ← ih hrest]

/-- A text is the dotted form of an address. -/
def AddressText (s : Str) (addr : UInt32) : Prop := 0 ∉ s ∧ inetPton s = some addr

instance instDecidableAddressText (s : Str) (addr : UInt32) : Decidable (AddressText s addr) :=
  inferInstanceAs (Decidable (0 ∉ s ∧ inetPton s = some addr))

/-- An address is written in one way. -/
theorem addressText_iff {s : Str} {addr : UInt32} : AddressText s addr ↔ s = inetNtop addr := by
  constructor
  · rintro ⟨h, hread⟩
    rw [inetPton, takeWhile_nul h] at hread
    split at hread
    · next a b c d hparts =>
      have hsplit : s.splitOn '.'.toUInt8 = [a, b, c, d].map fun o => toDecimal o.toNat :=
        map_parseOctet_eq hparts
      rw [← Option.some.inj hread, inetNtop, octets, Word.toBytes_ofBytes, ← hsplit,
        List.intercalate_splitOn]
    · cases hread
  · rintro rfl
    exact ⟨nul_notMem_inetNtop addr, inetPton_inetNtop addr⟩

end Cpp
