import SimpleNtpd.Lib.Inet

/-!
# Address ranges

`isIpInCidr` (net.cpp): an entry of an access list is an address, compared as
text, or `address/prefix`. The prefix is converted with `std::stoi`, which
throws when there is no number; the exception leaves the function, so the model
returns an `Except`.

The two questions the function answers are kept apart: `CidrReadable` says that
the conversion succeeds, `cidrCovers` what the verdict is when it does.
-/

namespace SimpleNtpd

open Cpp

/-- `prefix == 0 ? 0 : 0xFFFFFFFFu << (32 - prefix)`, for a prefix up to 32. -/
def cidrMask (prefixLength : Int) : UInt32 :=
  if prefixLength = 0 then 0 else 0xFFFFFFFF <<< UInt32.ofNat (32 - prefixLength.toNat)

/-- Whether an address lies in the range of an entry (net.cpp:12–35). -/
def isIpInCidr (ip cidr : Str) : Except Exn Bool :=
  match find cidr '/'.toUInt8 with
  | none => .ok (ip == cidr)
  | some slash =>
    match stoi (cidr.drop (slash + 1)) with
    | .error e => .error e
    | .ok prefixLength =>
      if prefixLength < 0 ∨ 32 < prefixLength then .ok false
      else match inetPton ip, inetPton (cidr.take slash) with
        | some ipU, some baseU =>
          let mask := cidrMask prefixLength
          .ok ((ipU &&& mask) == (baseU &&& mask))
        | _, _ => .ok false

/-- An entry without a slash, or with a number behind its first slash that
fits an `int`. -/
def CidrReadable (cidr : Str) : Prop :=
  match find cidr '/'.toUInt8 with
  | none => True
  | some slash => ∃ n, stoi (cidr.drop (slash + 1)) = .ok n

/-- The verdict on a readable entry; `false` on any other. -/
def cidrCovers (ip cidr : Str) : Bool :=
  match isIpInCidr ip cidr with
  | .ok verdict => verdict
  | .error _ => false

/-- On a readable entry there is a verdict. -/
theorem isIpInCidr_of_readable {cidr : Str} (h : CidrReadable cidr) (ip : Str) :
    isIpInCidr ip cidr = .ok (cidrCovers ip cidr) := by
  unfold CidrReadable at h
  have hok : ∃ verdict, isIpInCidr ip cidr = .ok verdict := by
    unfold isIpInCidr
    cases hslash : find cidr '/'.toUInt8 with
    | none => exact ⟨_, rfl⟩
    | some slash =>
      rw [hslash] at h
      obtain ⟨n, hn⟩ := h
      simp only [hn]
      by_cases hrange : n < 0 ∨ 32 < n
      · exact ⟨false, if_pos hrange⟩
      · rw [if_neg hrange]
        cases inetPton ip <;> cases inetPton (cidr.take slash) <;> exact ⟨_, rfl⟩
  obtain ⟨verdict, hverdict⟩ := hok
  rw [cidrCovers, hverdict]

/-- On any other entry the conversion throws. -/
theorem isIpInCidr_of_not_readable {cidr : Str} (h : ¬CidrReadable cidr) (ip : Str) :
    ∃ e, isIpInCidr ip cidr = .error e := by
  unfold CidrReadable at h
  unfold isIpInCidr
  cases hslash : find cidr '/'.toUInt8 with
  | none =>
    rw [hslash] at h
    exact absurd trivial h
  | some slash =>
    rw [hslash] at h
    cases hn : stoi (cidr.drop (slash + 1)) with
    | error e => exact ⟨e, by simp only [hn]⟩
    | ok n => exact absurd ⟨n, hn⟩ h

/-- There is no slash in an address. -/
theorem slash_notMem_inetNtop (addr : UInt32) : '/'.toUInt8 ∉ inetNtop addr := by
  intro h
  rcases mem_inetNtop h with hdigit | hdot
  · exact absurd hdigit (by decide)
  · exact absurd hdot (by decide)

theorem find_slash_inetNtop (addr : UInt32) : find (inetNtop addr) '/'.toUInt8 = none := by
  rw [find, List.findIdx?_eq_none_iff]
  intro b hb
  rw [beq_eq_false_iff_ne]
  rintro rfl
  exact slash_notMem_inetNtop addr hb

/-- A plain address is readable. -/
theorem cidrReadable_inetNtop (addr : UInt32) : CidrReadable (inetNtop addr) := by
  rw [CidrReadable, find_slash_inetNtop]
  trivial

/-- An address with a prefix length is readable. -/
theorem cidrReadable_prefix (addr : UInt32) {n : Nat} (h : n ≤ 32) :
    CidrReadable (inetNtop addr ++ '/'.toUInt8 :: toDecimal n) := by
  have hstoi : ∀ n ≤ 32, (stoi (toDecimal n)).isOk = true := by decide +kernel
  have hdrop : (inetNtop addr ++ '/'.toUInt8 :: toDecimal n).drop ((inetNtop addr).length + 1)
      = toDecimal n := by
    rw [← List.drop_drop, List.drop_left]
    rfl
  rw [CidrReadable, find_append (slash_notMem_inetNtop addr)]
  dsimp only
  rw [hdrop]
  cases hread : stoi (toDecimal n) with
  | ok value => exact ⟨value, rfl⟩
  | error e =>
    have hok := hstoi n h
    rw [hread] at hok
    cases hok

/-! ## Walking an access list -/

/-- The loop over a list of entries: stop at the first one that contains the
address, or at the first exception. -/
def anyCidr (ip : Str) : List Str → Except Exn Bool
  | [] => .ok false
  | entry :: entries =>
    match isIpInCidr ip entry with
    | .error e => .error e
    | .ok true => .ok true
    | .ok false => anyCidr ip entries

/-- The loop reaches no unreadable entry: each has one that covers the address
in front of it. -/
def ReadableUpToMatch (ip : Str) (entries : List Str) : Prop :=
  ∀ pre entry post, entries = pre ++ entry :: post → ¬CidrReadable entry →
    ∃ earlier ∈ pre, cidrCovers ip earlier = true

theorem readableUpToMatch_cons_iff {ip entry : Str} {entries : List Str} :
    ReadableUpToMatch ip (entry :: entries) ↔
      CidrReadable entry ∧ (cidrCovers ip entry = true ∨ ReadableUpToMatch ip entries) := by
  constructor
  · intro h
    have hentry : CidrReadable entry := by
      by_contra hbad
      obtain ⟨earlier, hmem, -⟩ := h [] entry entries rfl hbad
      exact List.not_mem_nil hmem
    refine ⟨hentry, or_iff_not_imp_left.mpr fun hcovers pre e post heq hbad => ?_⟩
    obtain ⟨earlier, hmem, hearlier⟩ := h (entry :: pre) e post (by rw [heq]; rfl) hbad
    rcases List.mem_cons.mp hmem with rfl | hmem
    · exact absurd hearlier hcovers
    · exact ⟨earlier, hmem, hearlier⟩
  · rintro ⟨hentry, hrest⟩ pre e post heq hbad
    cases pre with
    | nil =>
      cases heq
      exact absurd hentry hbad
    | cons d pre =>
      cases heq
      rcases hrest with hcovers | hrest
      · exact ⟨entry, List.mem_cons_self, hcovers⟩
      · obtain ⟨earlier, hmem, hearlier⟩ := hrest pre e post rfl hbad
        exact ⟨earlier, List.mem_cons_of_mem _ hmem, hearlier⟩

/-- A loop that reaches readable entries only says whether one covers the
address. -/
theorem anyCidr_of_readable {ip : Str} {entries : List Str} (h : ReadableUpToMatch ip entries) :
    anyCidr ip entries = .ok (entries.any (cidrCovers ip)) := by
  induction entries with
  | nil => rfl
  | cons entry entries ih =>
    obtain ⟨hentry, hrest⟩ := readableUpToMatch_cons_iff.mp h
    rw [anyCidr, isIpInCidr_of_readable hentry, List.any_cons]
    cases hcovers : cidrCovers ip entry with
    | true => rfl
    | false =>
      rw [hcovers] at hrest
      exact ih (hrest.resolve_left Bool.false_ne_true)

/-- A loop that reaches an unreadable entry throws. -/
theorem anyCidr_of_not_readable {ip : Str} {entries : List Str}
    (h : ¬ReadableUpToMatch ip entries) : ∃ e, anyCidr ip entries = .error e := by
  induction entries with
  | nil => exact absurd (fun pre entry post heq => by cases pre <;> cases heq) h
  | cons entry entries ih =>
    rw [anyCidr]
    by_cases hentry : CidrReadable entry
    · rw [isIpInCidr_of_readable hentry]
      cases hcovers : cidrCovers ip entry with
      | true => exact absurd (readableUpToMatch_cons_iff.mpr ⟨hentry, .inl hcovers⟩) h
      | false =>
        exact ih fun hrest => h (readableUpToMatch_cons_iff.mpr ⟨hentry, .inr hrest⟩)
    · obtain ⟨e, he⟩ := isIpInCidr_of_not_readable hentry ip
      rw [he]
      exact ⟨e, rfl⟩

end SimpleNtpd
