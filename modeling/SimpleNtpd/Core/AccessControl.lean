import SimpleNtpd.Config.Config
import SimpleNtpd.Utils.Net

/-!
# The access list

`NtpServer::isClientAllowed` runs on every datagram, in a worker thread that
catches no exception. It walks the denied entries, then the allowed ones, up to
the first entry that contains the client, and every entry it reaches is
converted anew. The validator looks at neither list beyond asking whether the
second is empty, so an entry such as `10.0.0.0/x` is accepted, and throws when
a client's walk gets there.

`isClientAllowed_returns_iff` says for which configurations and clients it does
not: the walk over both lists reaches readable entries only.
-/

namespace SimpleNtpd

open Cpp

/-- The verdict of the access lists on a client (server.cpp:786–805). -/
def isClientAllowed (c : NtpConfig) (clientIp : Str) : Except Exn Bool :=
  if !c.enableAcl && !c.restrictQueries then .ok true
  else match anyCidr clientIp c.deniedClients with
    | .error e => .error e
    | .ok true => .ok false
    | .ok false =>
      if c.allowedClients.isEmpty then .ok (!c.restrictQueries)
      else anyCidr clientIp c.allowedClients

/-- Neither switch that makes the server look at the lists is on. -/
def AclOff (c : NtpConfig) : Prop := c.enableAcl = false ∧ c.restrictQueries = false

theorem isClientAllowed_of_off {c : NtpConfig} (h : AclOff c) (clientIp : Str) :
    isClientAllowed c clientIp = .ok true := by
  rw [isClientAllowed, h.1, h.2]
  rfl

theorem isClientAllowed_of_on {c : NtpConfig} (h : ¬AclOff c) (clientIp : Str) :
    isClientAllowed c clientIp = match anyCidr clientIp c.deniedClients with
      | .error e => .error e
      | .ok true => .ok false
      | .ok false =>
        if c.allowedClients.isEmpty then .ok (!c.restrictQueries)
        else anyCidr clientIp c.allowedClients := by
  refine if_neg fun hoff => h ?_
  rwa [Bool.and_eq_true, Bool.not_eq_true', Bool.not_eq_true'] at hoff

/-- The walk over two lists gets to the second when the first has no match. -/
theorem readableUpToMatch_append_iff {ip : Str} {xs ys : List Str} :
    ReadableUpToMatch ip (xs ++ ys) ↔
      ReadableUpToMatch ip xs ∧
        (xs.any (cidrCovers ip) = true ∨ ReadableUpToMatch ip ys) := by
  induction xs with
  | nil =>
    have hnil : ReadableUpToMatch ip [] := fun pre entry post heq => by cases pre <;> cases heq
    rw [List.nil_append, List.any_nil, and_iff_right hnil, or_iff_right Bool.false_ne_true]
  | cons entry xs ih =>
    rw [List.cons_append, readableUpToMatch_cons_iff, readableUpToMatch_cons_iff, ih,
      List.any_cons, Bool.or_eq_true]
    constructor
    · rintro ⟨hentry, hcovers | ⟨hxs, hys⟩⟩
      · exact ⟨⟨hentry, .inl hcovers⟩, .inl (.inl hcovers)⟩
      · exact ⟨⟨hentry, .inr hxs⟩, hys.imp_left .inr⟩
    · rintro ⟨⟨hentry, hcovers | hxs⟩, hys⟩
      · exact ⟨hentry, .inl hcovers⟩
      · rcases hys with (hcovers | hany) | hys
        · exact ⟨hentry, .inl hcovers⟩
        · exact ⟨hentry, .inr ⟨hxs, .inl hany⟩⟩
        · exact ⟨hentry, .inr ⟨hxs, .inr hys⟩⟩

/-- A walk over readable entries gives the verdict of the first match. -/
theorem isClientAllowed_of_readable {c : NtpConfig} {clientIp : Str} (hon : ¬AclOff c)
    (h : ReadableUpToMatch clientIp (c.deniedClients ++ c.allowedClients)) :
    isClientAllowed c clientIp = .ok (!c.deniedClients.any (cidrCovers clientIp) &&
      if c.allowedClients.isEmpty then !c.restrictQueries
      else c.allowedClients.any (cidrCovers clientIp)) := by
  obtain ⟨hdenied, hallowed⟩ := readableUpToMatch_append_iff.mp h
  rw [isClientAllowed_of_on hon, anyCidr_of_readable hdenied]
  cases hany : c.deniedClients.any (cidrCovers clientIp) with
  | true => rfl
  | false =>
    rw [hany, or_iff_right Bool.false_ne_true] at hallowed
    rw [Bool.not_false, Bool.true_and]
    cases hempty : c.allowedClients.isEmpty with
    | true => rfl
    | false => exact anyCidr_of_readable hallowed

/-- A walk that reaches an unreadable entry throws. -/
theorem isClientAllowed_of_not_readable {c : NtpConfig} {clientIp : Str} (hon : ¬AclOff c)
    (h : ¬ReadableUpToMatch clientIp (c.deniedClients ++ c.allowedClients)) :
    ∃ e, isClientAllowed c clientIp = .error e := by
  rw [isClientAllowed_of_on hon]
  by_cases hdenied : ReadableUpToMatch clientIp c.deniedClients
  · rw [anyCidr_of_readable hdenied]
    have hnot := fun hrest => h (readableUpToMatch_append_iff.mpr ⟨hdenied, hrest⟩)
    rw [Bool.eq_false_iff.mpr fun hany => hnot (.inl hany)]
    have hallowed : ¬ReadableUpToMatch clientIp c.allowedClients := fun ha => hnot (.inr ha)
    cases hempty : c.allowedClients.isEmpty with
    | true =>
      rw [List.isEmpty_iff.mp hempty] at hallowed
      exact absurd (fun pre entry post heq => by cases pre <;> cases heq) hallowed
    | false =>
      exact anyCidr_of_not_readable hallowed
  · obtain ⟨e, he⟩ := anyCidr_of_not_readable hdenied
    rw [he]
    exact ⟨e, rfl⟩

/-- **When the access check returns.** For every configuration, accepted by the
validator or not, and every client address: exactly when access control is off,
or each unreadable entry of the denied list followed by the allowed list has an
entry that covers the client in front of it. -/
theorem isClientAllowed_returns_iff (c : NtpConfig) (client : UInt32) :
    (∃ verdict, isClientAllowed c (inetNtop client) = .ok verdict) ↔
      AclOff c ∨ ReadableUpToMatch (inetNtop client) (c.deniedClients ++ c.allowedClients) := by
  by_cases hoff : AclOff c
  · exact iff_of_true ⟨true, isClientAllowed_of_off hoff _⟩ (.inl hoff)
  · by_cases hread : ReadableUpToMatch (inetNtop client) (c.deniedClients ++ c.allowedClients)
    · exact iff_of_true ⟨_, isClientAllowed_of_readable hoff hread⟩ (.inr hread)
    · refine iff_of_false ?_ (not_or.mpr ⟨hoff, hread⟩)
      obtain ⟨e, he⟩ := isClientAllowed_of_not_readable hoff hread
      rintro ⟨verdict, hverdict⟩
      rw [he] at hverdict
      cases hverdict

/-- The defaults with the access list switched on and one mistyped entry. -/
def mistypedAcl : NtpConfig :=
  { NtpConfig.defaults with enableAcl := true, allowedClients := [lit "10.0.0.0/x"] }

/-- The validator accepts `allowed_clients = 10.0.0.0/x`, and every client's
first datagram then raises an exception. -/
theorem mistypedAcl_throws :
    ¬ ∀ c : NtpConfig, c.validate = true → ∀ client : UInt32,
      ∃ verdict, isClientAllowed c (inetNtop client) = .ok verdict := by
  intro h
  obtain ⟨verdict, hverdict⟩ := h mistypedAcl (by decide +kernel) 0x0A000001
  have hthrows : isClientAllowed mistypedAcl (inetNtop 0x0A000001) = .error .invalidArgument := by
    decide +kernel
  rw [hthrows] at hverdict
  cases hverdict

end SimpleNtpd
