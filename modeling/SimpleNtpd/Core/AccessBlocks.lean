import SimpleNtpd.Core.AccessControl
import SimpleNtpd.Lib.AddressBlock
import SimpleNtpd.Lib.IntegerText

/-!
# The access lists as blocks of addresses

The entries an operator writes are blocks: a dotted address, a slash and the number
of leading bits (`DenotesBlock`). On such entries `isIpInCidr` is membership
(`isIpInCidr_of_denotes`), and the access check admits what the two lists admit
(`isClientAllowed_of_blocks`): it walks the denied list first, and a client in it is
refused whatever the other list says.

The shipped templates restrict the service to some networks the other way round:
these are the allowed list, and the denied list is `0.0.0.0/0`
(config/templates/high-security.conf:23–26, config/examples/simple/simple-ntpd.conf.example:29–33).
That block holds every address, so they serve nobody.
-/

namespace SimpleNtpd

open Cpp AddressBlock

/-- A text is written for a block: an address, a slash and decimal digits. -/
def DenotesBlock (entry : Str) (block : Block 32) : Prop :=
  ∃ digits, digits ≠ [] ∧ (∀ c ∈ digits, isDigit c = true) ∧
    digitsValue digits = block.length ∧
    entry = inetNtop (.ofBitVec block.base) ++ '/'.toUInt8 :: digits

/-! ## One entry -/

/-- The code's mask is the mask of a prefix. -/
theorem toBitVec_cidrMask {length : Nat} (h : length ≤ 32) :
    (cidrMask length).toBitVec = mask 32 length := by
  have hall : ∀ length ≤ 32, (cidrMask (length : Nat)).toBitVec = mask 32 length := by
    decide +kernel
  exact hall length h

/-- On an entry for a block the test is membership, and nothing is thrown. -/
theorem isIpInCidr_of_denotes {entry : Str} {block : Block 32} (h : DenotesBlock entry block)
    (client : UInt32) :
    isIpInCidr (inetNtop client) entry = .ok (decide (client.toBitVec ∈ block)) := by
  obtain ⟨digits, hne, hdigits, hlength, rfl⟩ := h
  have hle := block.length_le
  have hstoi := stoi_of_denotes (denotesInteger_of_digits hne hdigits) (by omega) (by omega)
  rw [hlength] at hstoi
  have hdrop : (inetNtop (.ofBitVec block.base) ++ '/'.toUInt8 :: digits).drop
      ((inetNtop (.ofBitVec block.base)).length + 1) = digits := by
    rw [← List.drop_drop, List.drop_left]
    rfl
  have hrange : ¬((block.length : Int) < 0 ∨ 32 < (block.length : Int)) := by omega
  rw [isIpInCidr, find_append (slash_notMem_inetNtop _)]
  simp only [hdrop, hstoi, if_neg hrange, List.take_left, inetPton_inetNtop]
  congr 1
  rw [Bool.eq_iff_iff, beq_iff_eq, decide_eq_true_iff, mem_iff, ← and_mask_eq_iff,
    ← UInt32.toBitVec_inj, UInt32.toBitVec_and, UInt32.toBitVec_and, toBitVec_cidrMask hle]

/-! ## The lists -/

/-- On entries for blocks the loop says whether one of them holds the client;
induction on the two lists. -/
theorem anyCidr_of_denotes {entries : List Str} {blocks : List (Block 32)}
    (h : List.Forall₂ DenotesBlock entries blocks) (client : UInt32) :
    anyCidr (inetNtop client) entries = .ok (decide (Covered blocks client.toBitVec)) := by
  induction h with
  | nil => rw [anyCidr, decide_eq_false (covered_nil _)]
  | @cons entry block entries blocks hentry _ ih =>
    rw [anyCidr, isIpInCidr_of_denotes hentry]
    by_cases hmem : client.toBitVec ∈ block
    · rw [decide_eq_true hmem, decide_eq_true (covered_cons_iff.mpr (.inl hmem))]
    · rw [decide_eq_false hmem]
      dsimp only
      rw [ih]
      congr 1
      rw [decide_eq_decide, covered_cons_iff, or_iff_right hmem]

/-- **The access check on lists of blocks** admits what the lists admit. -/
theorem isClientAllowed_of_blocks {c : NtpConfig} {lists : Lists 32} (hon : ¬AclOff c)
    (hdenied : List.Forall₂ DenotesBlock c.deniedClients lists.denied)
    (hallowed : List.Forall₂ DenotesBlock c.allowedClients lists.allowed)
    (hne : c.allowedClients ≠ []) (client : UInt32) :
    isClientAllowed c (inetNtop client) = .ok (decide (lists.Admits client.toBitVec)) := by
  have hempty : ¬c.allowedClients.isEmpty = true := fun h => hne (List.isEmpty_iff.mp h)
  rw [isClientAllowed_of_on hon, anyCidr_of_denotes hdenied, anyCidr_of_denotes hallowed,
    if_neg hempty]
  by_cases hcovered : Covered lists.denied client.toBitVec
  · have hrefused : ¬lists.Admits client.toBitVec := fun hadmits => hadmits.1 hcovered
    rw [decide_eq_true hcovered, decide_eq_false hrefused]
  · rw [decide_eq_false hcovered]
    dsimp only
    congr 1
    rw [decide_eq_decide, Lists.Admits, and_iff_right hcovered]

/-! ## The templates -/

/-- The block `0.0.0.0/0`. -/
def anyAddress : Block 32 := ⟨0, 0, by decide⟩

theorem denotesBlock_anyAddress : DenotesBlock (lit "0.0.0.0/0") anyAddress :=
  ⟨lit "0", by decide, List.all_eq_true.mp (by decide), by decide, by decide⟩

/-- **The shipped shape of the lists.** For every configuration with the access list on,
some blocks allowed and `0.0.0.0/0` denied, and every client: the verdict is that of
the allowed list exactly when the client is in none of its blocks. -/
theorem shipped_acl_iff {c : NtpConfig} {blocks : List (Block 32)} (hacl : c.enableAcl = true)
    (hne : c.allowedClients ≠ [])
    (hallowed : List.Forall₂ DenotesBlock c.allowedClients blocks)
    (hdenied : c.deniedClients = [lit "0.0.0.0/0"]) (client : UInt32) :
    (isClientAllowed c (inetNtop client) = .ok true ↔ Covered blocks client.toBitVec) ↔
      ¬Covered blocks client.toBitVec := by
  have hon : ¬AclOff c := fun hoff => by
    rw [hoff.1] at hacl
    cases hacl
  have hall : Covered [anyAddress] client.toBitVec :=
    covered_cons_iff.mpr (.inl (mem_of_length_zero rfl _))
  let lists : Lists 32 := ⟨[anyAddress], blocks⟩
  have hlists : List.Forall₂ DenotesBlock c.deniedClients lists.denied := by
    rw [hdenied]
    exact .cons denotesBlock_anyAddress .nil
  rw [isClientAllowed_of_blocks hon hlists (show List.Forall₂ _ _ lists.allowed from hallowed) hne,
    Except.ok.injEq, decide_eq_true_iff, Lists.admits_agrees_iff, and_iff_right hall]

/-- The lists of config/templates/high-security.conf. -/
def highSecurityAcl : NtpConfig :=
  { NtpConfig.defaults with
    enableAcl := true
    restrictQueries := true
    allowedClients := [lit "10.10.0.0/16"]
    deniedClients := [lit "0.0.0.0/0"] }

/-- The network the template is restricted to. -/
def highSecurityNetwork : Block 32 := ⟨0x0A0A0000, 16, by decide⟩

theorem denotesBlock_highSecurityNetwork :
    DenotesBlock (lit "10.10.0.0/16") highSecurityNetwork :=
  ⟨lit "16", by decide, List.all_eq_true.mp (by decide), by decide, by decide⟩

theorem shipped_acl_example :
    (isClientAllowed highSecurityAcl (inetNtop 0x08080808) = .ok true ↔
        Covered [highSecurityNetwork] 0x08080808) ↔
      ¬Covered [highSecurityNetwork] 0x08080808 :=
  shipped_acl_iff rfl (List.cons_ne_nil _ _)
    (.cons denotesBlock_highSecurityNetwork .nil) rfl 0x08080808

/-- The template refuses 10.10.0.1. -/
theorem highSecurityAcl_refuses :
    ¬ ∀ (c : NtpConfig) (blocks : List (Block 32)), c.enableAcl = true →
      c.restrictQueries = true → c.allowedClients ≠ [] →
      List.Forall₂ DenotesBlock c.allowedClients blocks → c.deniedClients = [lit "0.0.0.0/0"] →
      ∀ client : UInt32,
        isClientAllowed c (inetNtop client) = .ok true ↔ Covered blocks client.toBitVec := by
  intro h
  have hserved := (h highSecurityAcl [highSecurityNetwork] rfl rfl (List.cons_ne_nil _ _)
    (.cons denotesBlock_highSecurityNetwork .nil) rfl 0x0A0A0001).mpr (by decide)
  have hrefused : isClientAllowed highSecurityAcl (inetNtop 0x0A0A0001) = .ok false := by
    decide +kernel
  rw [hrefused] at hserved
  cases hserved

end SimpleNtpd
