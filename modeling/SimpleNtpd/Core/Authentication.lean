import SimpleNtpd.Core.Connection

/-!
# Authentication

A request carries a 32-bit tag, in the reference identifier. With one of the
three digest algorithms the connection compares it with the first four bytes of
the digest of a prefix, the datagram and the key, unless the tag is zero: a
client that sends none is let through. Without a digest algorithm any configured
key is enough.

`authentication_soundness` says exactly what is accepted under every
configuration that passes validation, and what follows: under a digest algorithm
a tag other than zero ties the datagram to the key. The digests are a parameter,
so nothing is assumed about them.
-/

namespace SimpleNtpd

open Cpp

/-- The first four bytes of the keyed digest of a datagram; `none` without a
digest algorithm, or when the digest fails or is too short. -/
def keyedMarker (evp : Evp) (c : NtpConfig) (data : Bytes) : Option UInt32 :=
  match c.authenticationAlgorithm.digest with
  | none => none
  | some (md, algoPrefix) =>
    match evp md (algoPrefix ++ data ++ c.authenticationKey) with
    | none => none
    | some digest => if digest.length < 4 then none else some (readU32Be digest 0)

/-- What a validated configuration asks of the tag: under a digest algorithm
there is a marker other than zero, and the tag is zero or the marker. -/
def TagAccepted (evp : Evp) (c : NtpConfig) (data : Bytes) : Prop :=
  c.authenticationAlgorithm.digest = none ∨
    ∃ marker, keyedMarker evp c data = some marker ∧ marker ≠ 0 ∧
      ((NtpPacket.decode data).referenceId = 0 ∨ (NtpPacket.decode data).referenceId = marker)

variable {evp : Evp} {c : NtpConfig}

/-- A validated configuration that authenticates uses its own key. -/
theorem keyMaterial_of_validate (hvalid : c.validate = true)
    (hauth : c.enableAuthentication = true) :
    keyMaterial c = c.authenticationKey ∧ (keyMaterial c).isEmpty = false := by
  have hne : c.authenticationKey.isEmpty = false := by
    rw [List.isEmpty_eq_false_iff]
    exact c.authenticationKey_ne_nil_of_validate hvalid hauth
  have hkey : keyMaterial c = c.authenticationKey := by
    rw [keyMaterial, hne]
    rfl
  exact ⟨hkey, by rw [hkey, hne]⟩

/-- The check of the tag, under a validated configuration. -/
theorem validateAuthentication_iff (hvalid : c.validate = true)
    (hauth : c.enableAuthentication = true) (data : Bytes) :
    validateAuthentication evp c (NtpPacket.decode data) data = true ↔ TagAccepted evp c data := by
  obtain ⟨hkey, hne⟩ := keyMaterial_of_validate hvalid hauth
  rw [validateAuthentication, hauth, Bool.not_true, if_neg Bool.false_ne_true, hne,
    if_neg Bool.false_ne_true, hkey]
  unfold TagAccepted keyedMarker
  cases c.authenticationAlgorithm.digest with
  | none => exact iff_of_true rfl (.inl rfl)
  | some selected =>
    obtain ⟨md, algoPrefix⟩ := selected
    rw [or_iff_right (by exact fun h => by cases h)]
    cases hdigest : evp md (algoPrefix ++ data ++ c.authenticationKey) with
    | none =>
      simp only [hdigest]
      refine iff_of_false Bool.false_ne_true ?_
      rintro ⟨_, h, _⟩
      cases h
    | some digest =>
      simp only [hdigest]
      by_cases hshort : digest.length < 4
      · rw [if_pos hshort, if_pos hshort]
        refine iff_of_false Bool.false_ne_true ?_
        rintro ⟨_, h, _⟩
        cases h
      · -- the marker is the first four bytes of the digest
        rw [if_neg hshort, if_neg hshort]
        simp only [Bool.and_eq_true, bne_iff_ne, Bool.or_eq_true, beq_iff_eq,
          Option.some.injEq, exists_eq_left']

/-- Switching authentication off leaves the limiter as it is. -/
theorem NtpConnection.applyLimiter_authentication (conn : NtpConnection) (now : SteadyTime) :
    conn.applyLimiter { c with enableAuthentication := false } now = conn.applyLimiter c now :=
  rfl

/-- Under a validated configuration that authenticates, a datagram is accepted
when it would be without authentication and its tag is. -/
theorem handlePacket_authenticated_iff (hvalid : c.validate = true)
    (hauth : c.enableAuthentication = true) (conn : NtpConnection) (now : SteadyTime)
    (data : Bytes) :
    (conn.handlePacket evp c now data).1 = true ↔
      (conn.handlePacket evp { c with enableAuthentication := false } now data).1 = true ∧
        TagAccepted evp c data := by
  rw [NtpConnection.handlePacket_fst_iff, NtpConnection.handlePacket_fst_iff,
    conn.applyLimiter_authentication, and_assoc]
  refine and_congr_right ?_
  intro _
  constructor
  · rintro ⟨packet, hrequest, hlimit, htag⟩
    obtain ⟨-, -, -, rfl⟩ := clientRequest_eq_some_iff.mp hrequest
    exact ⟨⟨_, hrequest, hlimit, NtpConnection.validateAuthentication_of_off rfl _⟩,
      (validateAuthentication_iff hvalid hauth data).mp htag⟩
  · rintro ⟨⟨packet, hrequest, hlimit, -⟩, htag⟩
    obtain ⟨-, -, -, rfl⟩ := clientRequest_eq_some_iff.mp hrequest
    exact ⟨_, hrequest, hlimit, (validateAuthentication_iff hvalid hauth data).mpr htag⟩

/-- Under a digest algorithm a tag other than zero is the marker. -/
theorem marker_eq_of_accepted (hvalid : c.validate = true) (hauth : c.enableAuthentication = true)
    {conn : NtpConnection} {now : SteadyTime} {data : Bytes}
    (hdigest : c.authenticationAlgorithm.digest ≠ none)
    (htag : (NtpPacket.decode data).referenceId ≠ 0)
    (haccept : (conn.handlePacket evp c now data).1 = true) :
    keyedMarker evp c data = some (NtpPacket.decode data).referenceId := by
  obtain ⟨-, hnone | ⟨marker, hmarker, -, hzero | heq⟩⟩ :=
    (handlePacket_authenticated_iff hvalid hauth conn now data).mp haccept
  · exact absurd hnone hdigest
  · exact absurd hzero htag
  · rw [hmarker, heq]

/-- **Authentication, exactly.** For every digest function and every validated
configuration with authentication enabled: `handlePacket` accepts a datagram
exactly when it would accept it without authentication and, under a digest
algorithm, the first four bytes of the keyed digest are not zero and the tag is
zero or equal to them. So under a digest algorithm an accepted tag other than
zero is those four bytes, and no such datagram is accepted under two keys whose
digests of it differ there. -/
theorem authentication_soundness (evp : Evp) (c : NtpConfig) (hvalid : c.validate = true)
    (hauth : c.enableAuthentication = true) (data : Bytes) :
    (∀ (conn : NtpConnection) (now : SteadyTime),
      (conn.handlePacket evp c now data).1 = true ↔
        (conn.handlePacket evp { c with enableAuthentication := false } now data).1 = true ∧
          TagAccepted evp c data) ∧
    (c.authenticationAlgorithm.digest ≠ none → (NtpPacket.decode data).referenceId ≠ 0 →
      (∀ (conn : NtpConnection) (now : SteadyTime),
        (conn.handlePacket evp c now data).1 = true →
          keyedMarker evp c data = some (NtpPacket.decode data).referenceId) ∧
      ∀ c' : NtpConfig, c'.validate = true → c'.enableAuthentication = true →
        c'.authenticationAlgorithm = c.authenticationAlgorithm →
        ∀ (conn conn' : NtpConnection) (now now' : SteadyTime),
          (conn.handlePacket evp c now data).1 = true →
          (conn'.handlePacket evp c' now' data).1 = true →
            keyedMarker evp c data = keyedMarker evp c' data) := by
  refine ⟨fun conn now => handlePacket_authenticated_iff hvalid hauth conn now data,
    fun hdigest htag => ⟨fun conn now => marker_eq_of_accepted hvalid hauth hdigest htag, ?_⟩⟩
  intro c' hvalid' hauth' halg conn conn' now now' h h'
  rw [marker_eq_of_accepted hvalid hauth hdigest htag h,
    marker_eq_of_accepted hvalid' hauth' (by rw [halg]; exact hdigest) htag h']

/-- MD5 authentication under the key `secret`. -/
def md5Config : NtpConfig :=
  { NtpConfig.defaults with
    enableAuthentication := true
    authenticationKey := lit "secret"
    authenticationAlgorithm := .md5 }

/-- A digest function: the four bytes 1, 2, 3, 4 for every input. -/
def constantDigest : Evp := fun _ _ => some [1, 2, 3, 4]

/-- A client's connection. -/
def exampleConnection : NtpConnection := { clientAddress := lit "192.0.2.7", config := 0 }

/-- A client request with the given tag. -/
def taggedRequest (tag : UInt32) : Bytes :=
  NtpPacket.serializeToData { NtpPacket.createClientRequest 0 with referenceId := tag }

/-- A tag other than zero that is accepted is the digest. -/
theorem authentication_soundness_md5 :
    (exampleConnection.handlePacket constantDigest md5Config 0 (taggedRequest 0x01020304)).1
        = true ∧
      keyedMarker constantDigest md5Config (taggedRequest 0x01020304) = some 0x01020304 := by
  have haccept : (exampleConnection.handlePacket constantDigest md5Config 0
      (taggedRequest 0x01020304)).1 = true := by
    decide +kernel
  have htag : (NtpPacket.decode (taggedRequest 0x01020304)).referenceId = 0x01020304 := by
    decide +kernel
  have hsound := authentication_soundness constantDigest md5Config (by decide +kernel) rfl
    (taggedRequest 0x01020304)
  have hmarker := (hsound.2 (by decide) (by rw [htag]; decide)).1 exampleConnection 0 haccept
  rw [htag] at hmarker
  exact ⟨haccept, hmarker⟩

/-- A request without a tag is accepted under MD5, whatever the digest is. -/
theorem untagged_request_accepted :
    ¬ ∀ (evp : Evp), (∀ md x, ∃ digest, evp md x = some digest ∧ 4 ≤ digest.length) →
      ∀ c : NtpConfig, c.validate = true → c.enableAuthentication = true →
        ∀ (conn : NtpConnection) (now : SteadyTime) (data : Bytes),
          (conn.handlePacket evp c now data).1 = true →
            keyedMarker evp c data = some (NtpPacket.decode data).referenceId := by
  intro h
  have hmarker := h constantDigest (fun _ _ => ⟨_, rfl, by decide⟩) md5Config (by decide +kernel)
    rfl exampleConnection 0 (taggedRequest 0) (by decide +kernel)
  revert hmarker
  decide +kernel

end SimpleNtpd
