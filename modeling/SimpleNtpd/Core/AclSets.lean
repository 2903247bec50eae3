import Mathlib.Data.Set.Basic
import Mathlib.Logic.Relation
import SimpleNtpd.Core.AccessBlocks

/-!
# The access lists as sets of addresses

What an access list says is a set of addresses (`aclSet`): each entry names a block, as
an address on its own, which is compared as text, or as an address with a prefix, which is
compared under a mask. The verdict on a client depends on the two switches and the two
sets only (`isClientAllowed_of_sets`): a well-formed entry never throws, and where the
walk over a list stops early it does so with the same verdict.

So two lists of the same set are as good as each other (`isClientAllowed_extensional`).
`Rewritten` are the ways to write a set anew: in another order, an entry twice, a block as
its two halves, without its host bits, an address with the prefix 32.
-/

namespace SimpleNtpd

open Cpp AddressBlock

/-- A text is a well-formed entry for a block: a plain address, or an address with a
prefix. -/
inductive EntryFor : Str → Block 32 → Prop
  | address {s : Str} {a : UInt32} (h : AddressText s a) : EntryFor s ⟨a.toBitVec, 32, le_rfl⟩
  | range {s : Str} {block : Block 32} (h : DenotesBlock s block) : EntryFor s block

def WellFormed (entry : Str) : Prop := ∃ block, EntryFor entry block

/-- The addresses an entry names. -/
def entrySet (entry : Str) : Set UInt32 := {a | ∃ block, EntryFor entry block ∧ a.toBitVec ∈ block}

/-- The addresses a list names. -/
def aclSet (entries : List Str) : Set UInt32 := {a | ∃ entry ∈ entries, a ∈ entrySet entry}

/-! ## One entry -/

/-- The test on a well-formed entry is membership, whether it compares texts or bits. -/
theorem isIpInCidr_of_entryFor {entry : Str} {block : Block 32} (h : EntryFor entry block)
    (client : UInt32) :
    isIpInCidr (inetNtop client) entry = .ok (decide (client.toBitVec ∈ block)) := by
  cases h with
  | @address a h =>
    obtain rfl := addressText_iff.mp h
    rw [isIpInCidr, find_slash_inetNtop]
    refine congrArg Except.ok ?_
    rw [Bool.eq_iff_iff, beq_iff_eq, decide_eq_true_iff, mem_full_iff, UInt32.toBitVec_inj,
      inetNtop_injective.eq_iff]
  | range h => exact isIpInCidr_of_denotes h client

/-- An entry names the addresses of its block. -/
theorem mem_entrySet_iff {entry : Str} {block : Block 32} (h : EntryFor entry block)
    {a : UInt32} : a ∈ entrySet entry ↔ a.toBitVec ∈ block := by
  refine ⟨?_, fun hmem => ⟨block, h, hmem⟩⟩
  rintro ⟨other, hother, hmem⟩
  have hverdict := isIpInCidr_of_entryFor h a
  rw [isIpInCidr_of_entryFor hother, Except.ok.injEq, decide_eq_decide] at hverdict
  exact hverdict.mp hmem

theorem cidrReadable_of_wellFormed {entry : Str} (h : WellFormed entry) : CidrReadable entry := by
  obtain ⟨block, hentry⟩ := h
  by_contra hbad
  obtain ⟨e, he⟩ := isIpInCidr_of_not_readable hbad (inetNtop 0)
  rw [isIpInCidr_of_entryFor hentry] at he
  cases he

theorem cidrCovers_iff {entry : Str} (h : WellFormed entry) {client : UInt32} :
    cidrCovers (inetNtop client) entry = true ↔ client ∈ entrySet entry := by
  obtain ⟨block, hentry⟩ := h
  rw [cidrCovers, isIpInCidr_of_entryFor hentry, mem_entrySet_iff hentry]
  exact decide_eq_true_iff

/-- Every well-formed entry names some address. -/
theorem entrySet_nonempty {entry : Str} (h : WellFormed entry) : (entrySet entry).Nonempty := by
  obtain ⟨block, hentry⟩ := h
  exact ⟨.ofBitVec block.base, (mem_entrySet_iff hentry).mpr (base_mem block)⟩

/-! ## The lists -/

def WellFormedList (entries : List Str) : Prop := ∀ entry ∈ entries, WellFormed entry

theorem wellFormedList_cons_iff {entry : Str} {entries : List Str} :
    WellFormedList (entry :: entries) ↔ WellFormed entry ∧ WellFormedList entries :=
  List.forall_mem_cons

theorem mem_aclSet_cons_iff {entry : Str} {entries : List Str} {a : UInt32} :
    a ∈ aclSet (entry :: entries) ↔ a ∈ entrySet entry ∨ a ∈ aclSet entries := by
  show (∃ e ∈ entry :: entries, a ∈ entrySet e) ↔ _
  rw [List.exists_mem_cons_iff]
  rfl

theorem aclSet_eq_empty_iff {entries : List Str} (h : WellFormedList entries) :
    aclSet entries = ∅ ↔ entries = [] := by
  constructor
  · intro hempty
    cases entries with
    | nil => rfl
    | cons entry entries =>
      obtain ⟨a, ha⟩ := entrySet_nonempty (h entry List.mem_cons_self)
      have hmem : a ∈ aclSet (entry :: entries) := mem_aclSet_cons_iff.mpr (.inl ha)
      rw [hempty] at hmem
      exact absurd hmem (Set.notMem_empty a)
  · rintro rfl
    exact Set.eq_empty_of_forall_notMem fun a ⟨_, hmem, _⟩ => List.not_mem_nil hmem

theorem readableUpToMatch_of_wellFormed {entries : List Str} (h : WellFormedList entries)
    (ip : Str) : ReadableUpToMatch ip entries := by
  intro pre entry post heq hbad
  have hmem : entry ∈ entries := by
    rw [heq]
    exact List.mem_append_right _ List.mem_cons_self
  exact absurd (cidrReadable_of_wellFormed (h entry hmem)) hbad

theorem any_cidrCovers_iff {entries : List Str} (h : WellFormedList entries) {client : UInt32} :
    entries.any (cidrCovers (inetNtop client)) = true ↔ client ∈ aclSet entries := by
  rw [List.any_eq_true]
  exact exists_congr fun entry => and_congr_right fun hmem => cidrCovers_iff (h entry hmem)

/-- Every entry of the two lists is well-formed. -/
def WellFormedLists (c : NtpConfig) : Prop :=
  WellFormedList c.deniedClients ∧ WellFormedList c.allowedClients

/-- What the two switches and the two sets say about a client. An empty set is that of an
empty list. -/
def Admitted (acl restrict : Bool) (denied allowed : Set UInt32) (client : UInt32) : Prop :=
  (acl = false ∧ restrict = false) ∨
    client ∉ denied ∧ ((allowed = ∅ ∧ restrict = false) ∨ client ∈ allowed)

/-- The access check on well-formed lists has a verdict, and it is that of the sets. -/
theorem isClientAllowed_of_sets {c : NtpConfig} (h : WellFormedLists c) (client : UInt32) :
    ∃ verdict, isClientAllowed c (inetNtop client) = .ok verdict ∧
      (verdict = true ↔ Admitted c.enableAcl c.restrictQueries (aclSet c.deniedClients)
        (aclSet c.allowedClients) client) := by
  by_cases hoff : AclOff c
  · exact ⟨true, isClientAllowed_of_off hoff _, iff_of_true rfl (.inl hoff)⟩
  · have hread : ReadableUpToMatch (inetNtop client) (c.deniedClients ++ c.allowedClients) :=
      readableUpToMatch_of_wellFormed (List.forall_mem_append.mpr h) _
    have hswitch : ¬(c.enableAcl = false ∧ c.restrictQueries = false) := hoff
    refine ⟨_, isClientAllowed_of_readable hoff hread, ?_⟩
    rw [Admitted, or_iff_right hswitch, Bool.and_eq_true, Bool.not_eq_true', ← Bool.not_eq_true,
      any_cidrCovers_iff h.1, aclSet_eq_empty_iff h.2]
    refine and_congr_right fun _ => ?_
    by_cases hempty : c.allowedClients = []
    · have hnot : client ∉ aclSet c.allowedClients := by
        rw [(aclSet_eq_empty_iff h.2).mpr hempty]
        exact Set.notMem_empty client
      rw [if_pos (List.isEmpty_iff.mpr hempty), Bool.not_eq_true', and_iff_right hempty,
        or_iff_left hnot]
    · rw [if_neg fun h => hempty (List.isEmpty_iff.mp h), any_cidrCovers_iff h.2,
        or_iff_right fun h => hempty h.1]

/-! ## Other ways to write a set -/

/-- One list is another way to write the other. -/
inductive Rewritten : List Str → List Str → Prop
  | reorder {entries entries' : List Str} (h : entries.Perm entries') : Rewritten entries entries'
  | duplicate (entry : Str) (entries : List Str) :
      Rewritten (entry :: entries) (entry :: entry :: entries)
  | halves {entry lower upper : Str} {block : Block 32} (h : block.length < 32)
      (hentry : EntryFor entry block) (hlower : EntryFor lower (block.lower h))
      (hupper : EntryFor upper (block.upper h)) (entries : List Str) :
      Rewritten (entry :: entries) (lower :: upper :: entries)
  | clearHostBits {entry cleared : Str} {block : Block 32} (hentry : EntryFor entry block)
      (hcleared : EntryFor cleared block.cleared) (entries : List Str) :
      Rewritten (entry :: entries) (cleared :: entries)
  | fullPrefix {s : Str} {a : UInt32} (h : AddressText s a) (entries : List Str) :
      Rewritten (s :: entries) ((s ++ lit "/32") :: entries)

/-- Two lists are well-formed together, and of the same set. -/
def SameSet (entries entries' : List Str) : Prop :=
  (WellFormedList entries ↔ WellFormedList entries') ∧ aclSet entries = aclSet entries'

theorem sameSet_equivalence : Equivalence SameSet where
  refl _ := ⟨Iff.rfl, rfl⟩
  symm h := ⟨h.1.symm, h.2.symm⟩
  trans h h' := ⟨h.1.trans h'.1, h.2.trans h'.2⟩

/-- Lists whose first entries are well-formed name the same set when these entries do. -/
theorem sameSet_cons {entry entry' : Str} (h : WellFormed entry) (h' : WellFormed entry')
    (hset : entrySet entry = entrySet entry') (entries : List Str) :
    SameSet (entry :: entries) (entry' :: entries) := by
  refine ⟨?_, Set.ext fun a => ?_⟩
  · rw [wellFormedList_cons_iff, wellFormedList_cons_iff, and_iff_right h, and_iff_right h']
  · rw [mem_aclSet_cons_iff, mem_aclSet_cons_iff, hset]

theorem entryFor_fullPrefix {s : Str} {a : UInt32} (h : AddressText s a) :
    EntryFor (s ++ lit "/32") ⟨a.toBitVec, 32, le_rfl⟩ := by
  obtain rfl := addressText_iff.mp h
  have hvalue : digitsValue (lit "32") = 32 := by decide
  exact .range ⟨lit "32", by decide, List.all_eq_true.mp (by decide), hvalue, rfl⟩

/-- One rewriting step leaves the set as it is. -/
theorem Rewritten.sameSet {entries entries' : List Str} (h : Rewritten entries entries') :
    SameSet entries entries' := by
  cases h with
  | reorder h =>
    refine ⟨forall_congr' fun entry => by rw [h.mem_iff], Set.ext fun a => ?_⟩
    exact exists_congr fun entry => and_congr_left fun _ => h.mem_iff
  | duplicate entry entries =>
    refine ⟨?_, Set.ext fun a => ?_⟩
    · rw [wellFormedList_cons_iff, wellFormedList_cons_iff, wellFormedList_cons_iff, ← and_assoc,
        and_self]
    · rw [mem_aclSet_cons_iff, mem_aclSet_cons_iff, mem_aclSet_cons_iff, ← or_assoc, or_self]
  | @halves entry lower upper block h hentry hlower hupper entries =>
    refine ⟨?_, Set.ext fun a => ?_⟩
    · rw [wellFormedList_cons_iff, wellFormedList_cons_iff, wellFormedList_cons_iff,
        and_iff_right ⟨_, hentry⟩, and_iff_right ⟨_, hlower⟩, and_iff_right ⟨_, hupper⟩]
    · rw [mem_aclSet_cons_iff, mem_aclSet_cons_iff, mem_aclSet_cons_iff, mem_entrySet_iff hentry,
        mem_entrySet_iff hlower, mem_entrySet_iff hupper, ← or_assoc, mem_halves_iff]
  | clearHostBits hentry hcleared entries =>
    refine sameSet_cons ⟨_, hentry⟩ ⟨_, hcleared⟩ (Set.ext fun a => ?_) entries
    rw [mem_entrySet_iff hentry, mem_entrySet_iff hcleared, mem_cleared_iff]
  | fullPrefix h entries =>
    refine sameSet_cons ⟨_, .address h⟩ ⟨_, entryFor_fullPrefix h⟩ (Set.ext fun a => ?_) entries
    rw [mem_entrySet_iff (.address h), mem_entrySet_iff (entryFor_fullPrefix h)]

/-- Any number of rewriting steps, either way round, keep the set. -/
theorem sameSet_of_eqvGen {entries entries' : List Str}
    (h : Relation.EqvGen Rewritten entries entries') : SameSet entries entries' :=
  sameSet_equivalence.eqvGen_iff.mp (h.mono fun _ _ => Rewritten.sameSet)

/-- Lists of the same sets give the same verdicts. -/
theorem isClientAllowed_congr {c c' : NtpConfig} (hacl : c.enableAcl = c'.enableAcl)
    (hrestrict : c.restrictQueries = c'.restrictQueries) (hc : WellFormedLists c)
    (hc' : WellFormedLists c') (hdenied : aclSet c.deniedClients = aclSet c'.deniedClients)
    (hallowed : aclSet c.allowedClients = aclSet c'.allowedClients) (client : UInt32) :
    ∃ verdict, isClientAllowed c (inetNtop client) = .ok verdict ∧
      isClientAllowed c' (inetNtop client) = .ok verdict := by
  obtain ⟨verdict, hverdict, hiff⟩ := isClientAllowed_of_sets hc client
  obtain ⟨verdict', hverdict', hiff'⟩ := isClientAllowed_of_sets hc' client
  rw [hacl, hrestrict, hdenied, hallowed] at hiff
  obtain rfl := Bool.eq_iff_iff.mpr (hiff.trans hiff'.symm)
  exact ⟨verdict, hverdict, hverdict'⟩

/-- **The access check depends on the sets only.** Two configurations with the same
switches, and well-formed lists of the same sets, give every client the same verdict. So
does every way to rewrite the two lists. -/
theorem isClientAllowed_extensional :
    (∀ c c' : NtpConfig, c.enableAcl = c'.enableAcl → c.restrictQueries = c'.restrictQueries →
      WellFormedLists c → WellFormedLists c' →
      aclSet c.deniedClients = aclSet c'.deniedClients →
      aclSet c.allowedClients = aclSet c'.allowedClients →
      ∀ client : UInt32, ∃ verdict, isClientAllowed c (inetNtop client) = .ok verdict ∧
        isClientAllowed c' (inetNtop client) = .ok verdict) ∧
    ∀ (c : NtpConfig) (denied allowed : List Str), WellFormedLists c →
      Relation.EqvGen Rewritten c.deniedClients denied →
      Relation.EqvGen Rewritten c.allowedClients allowed →
      ∀ client : UInt32, ∃ verdict, isClientAllowed c (inetNtop client) = .ok verdict ∧
        isClientAllowed { c with deniedClients := denied, allowedClients := allowed }
          (inetNtop client) = .ok verdict := by
  refine ⟨fun c c' => isClientAllowed_congr, fun c denied allowed hc hdenied hallowed => ?_⟩
  have hd := sameSet_of_eqvGen hdenied
  have ha := sameSet_of_eqvGen hallowed
  let c' : NtpConfig := { c with deniedClients := denied, allowedClients := allowed }
  have hc' : WellFormedLists c' := ⟨hd.1.mp hc.1, ha.1.mp hc.2⟩
  exact isClientAllowed_congr rfl rfl hc hc' hd.2 ha.2

/-- The lists of config/templates/high-security.conf, the denied block as its two halves. -/
def highSecurityHalves : NtpConfig :=
  { highSecurityAcl with deniedClients := [lit "0.0.0.0/1", lit "128.0.0.0/1"] }

theorem anyAddress_length_lt : anyAddress.length < 32 := by decide

theorem isClientAllowed_extensional_example :
    ∃ verdict, isClientAllowed highSecurityAcl (inetNtop 0x0A0A0001) = .ok verdict ∧
      isClientAllowed highSecurityHalves (inetNtop 0x0A0A0001) = .ok verdict := by
  have hany : EntryFor (lit "0.0.0.0/0") anyAddress := .range denotesBlock_anyAddress
  have hlower : EntryFor (lit "0.0.0.0/1") (anyAddress.lower anyAddress_length_lt) :=
    .range ⟨lit "1", by decide, List.all_eq_true.mp (by decide), by decide, by decide⟩
  have hupper : EntryFor (lit "128.0.0.0/1") (anyAddress.upper anyAddress_length_lt) :=
    .range ⟨lit "1", by decide, List.all_eq_true.mp (by decide), by decide, by decide +kernel⟩
  have hlists : WellFormedLists highSecurityAcl :=
    ⟨List.forall_mem_singleton.mpr ⟨_, hany⟩,
      List.forall_mem_singleton.mpr ⟨_, .range denotesBlock_highSecurityNetwork⟩⟩
  have hhalves : Rewritten [lit "0.0.0.0/0"] [lit "0.0.0.0/1", lit "128.0.0.0/1"] :=
    .halves anyAddress_length_lt hany hlower hupper []
  exact isClientAllowed_extensional.2 highSecurityAcl [lit "0.0.0.0/1", lit "128.0.0.0/1"]
    highSecurityAcl.allowedClients hlists (.rel _ _ hhalves) (.refl _) 0x0A0A0001

end SimpleNtpd
