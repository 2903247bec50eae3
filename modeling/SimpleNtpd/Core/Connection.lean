import SimpleNtpd.Config.Config
import SimpleNtpd.Core.Packet

/-!
# Connections

`NtpConnection` (connection.cpp) is what the server keeps for one client address
and port: a request limiter with one counter for each minute, statistics, and a
pointer to the configuration object that was current when the connection was
made. A configuration object is named by a number here (`ConfigRef`); whoever
calls a connection's method looks the object up.

`handlePacket` decides whether a datagram is answered. The parts that the worker
threads interleave in (the checks on the datagram, the limiter under its mutex,
the authentication) are definitions of their own.
-/

namespace SimpleNtpd

open Cpp

/-- Which configuration object a `std::shared_ptr<NtpConfig>` points to. -/
abbrev ConfigRef := Nat

/-- A reading of the steady clock, in nanoseconds since its epoch. -/
abbrev SteadyTime := Nat

/-- `duration_cast<minutes>(now.time_since_epoch()).count()`. -/
def minuteBucket (now : SteadyTime) : Nat := now / 60000000000

/-- `duration_cast<seconds>(now.time_since_epoch()).count()`. -/
def secondBucket (now : SteadyTime) : Nat := now / 1000000000

/-! ## Authentication -/

/-- The OpenSSL digests the daemon uses. -/
inductive Md where
  | md5 | sha1 | sha256
  deriving DecidableEq, Repr

/-- The digest calls (`EVP_DigestInit_ex`, `…Update`, `…Final_ex`) on a byte
string; `none` is a failure of one of them. -/
abbrev Evp := Md → Bytes → Option Bytes

/-- The digest an algorithm selects and the text it is prefixed with; `none`
for `NONE` and every value without an enumerator (connection.cpp:244–274). -/
def AuthAlgorithm.digest : AuthAlgorithm → Option (Md × Str)
  | .md5 => some (.md5, lit "md5:")
  | .sha1 => some (.sha1, lit "sha1:")
  | .sha256 => some (.sha256, lit "sha256:")
  | .none => Option.none
  | .other _ => Option.none

/-- The key, or without one the first entry of the key table; which entry of an
`unordered_map` comes first is not specified (connection.cpp:234–237). -/
def keyMaterial (c : NtpConfig) : Str :=
  if c.authenticationKey.isEmpty then
    match c.authenticationKeys.entries.head? with
    | none => c.authenticationKey
    | some entry => entry.2
  else c.authenticationKey

/-- Whether the tag of a packet is accepted (connection.cpp:226–295). -/
def validateAuthentication (evp : Evp) (c : NtpConfig) (packet : NtpPacket)
    (rawData : Bytes) : Bool :=
  if !c.enableAuthentication then true
  else if (keyMaterial c).isEmpty then false
  else match c.authenticationAlgorithm.digest with
    | none => !(keyMaterial c).isEmpty
    | some (md, algoPrefix) =>
      match evp md (algoPrefix ++ rawData ++ keyMaterial c) with
      | none => false
      | some digest =>
        if digest.length < 4 then false
        else
          let marker := readU32Be digest 0
          marker != 0 && (packet.referenceId == 0 || packet.referenceId == marker)

/-! ## The connection -/

/-- The counters `handlePacket` keeps (connection.hpp:29–41). -/
structure NtpConnectionStats where
  packetsReceived : Nat := 0
  bytesReceived : Nat := 0
  deriving DecidableEq, Repr

/-- connection.hpp:176–190. -/
structure NtpConnection where
  clientAddress : Str
  config : ConfigRef
  active : Bool := true
  stats : NtpConnectionStats := {}
  trustedClient : Bool := false
  requestBuckets : AList fun _ : Nat => UInt32 := ∅

/-- The checks on the datagram itself: length, parse, validity, and that it is a
client's request; the packet when it passes (connection.cpp:88–113). -/
def clientRequest (data : Bytes) : Option NtpPacket :=
  if data.length < ntpPacketSize then none
  else
    let parsed := NtpPacket.new.parseFromData data
    if !parsed.1 then none
    else if !parsed.2.isValid then none
    else if parsed.2.mode != NtpMode.client then none
    else some parsed.2

namespace NtpConnection

/-- The section under `rate_limit_mutex_`: count the request in its minute
(connection.cpp:120–126). -/
def limitRequest (conn : NtpConnection) (limit : UInt32) (bucket : Nat) :
    Bool × NtpConnection :=
  let count := (conn.requestBuckets.lookup bucket).getD 0 + 1
  (!(count > limit), { conn with requestBuckets := conn.requestBuckets.insert bucket count })

/-- The limiter, where it is enabled (connection.cpp:116–127). -/
def applyLimiter (conn : NtpConnection) (c : NtpConfig) (now : SteadyTime) :
    Bool × NtpConnection :=
  if c.enableRateLimiting then
    conn.limitRequest c.requestRateLimitPerMinute (minuteBucket now)
  else (true, conn)

/-- connection.cpp:137–138. -/
def recordPacket (conn : NtpConnection) (bytes : Nat) : NtpConnection :=
  { conn with stats := ⟨conn.stats.packetsReceived + 1, conn.stats.bytesReceived + bytes⟩ }

/-- Decide on a datagram. `c` is the configuration the connection points to and
`now` the steady clock when the limiter reads it (connection.cpp:83–142). -/
def handlePacket (evp : Evp) (conn : NtpConnection) (c : NtpConfig) (now : SteadyTime)
    (data : Bytes) : Bool × NtpConnection :=
  if !conn.active then (false, conn)
  else match clientRequest data with
    | none => (false, conn)
    | some packet =>
      let limited := conn.applyLimiter c now
      if !limited.1 then (false, limited.2)
      else if c.enableAuthentication && !validateAuthentication evp c packet data then
        (false, limited.2)
      else (true, limited.2.recordPacket data.length)

end NtpConnection

/-- A datagram is a client's request when it has 48 bytes that decode to a
valid packet of mode 3. -/
theorem clientRequest_eq_some_iff {data : Bytes} {packet : NtpPacket} :
    clientRequest data = some packet ↔
      ntpPacketSize ≤ data.length ∧ (NtpPacket.decode data).isValid = true ∧
        (NtpPacket.decode data).mode = NtpMode.client ∧ packet = NtpPacket.decode data := by
  unfold clientRequest
  by_cases hshort : data.length < ntpPacketSize
  · rw [if_pos hshort]
    exact iff_of_false (fun h => by cases h) fun h => absurd h.1 (Nat.not_le.mpr hshort)
  · rw [if_neg hshort, NtpPacket.parseFromData_of_le _ (Nat.not_lt.mp hshort),
      and_iff_right (Nat.not_lt.mp hshort)]
    simp only [Bool.not_true, Bool.false_eq_true, if_false, Bool.not_eq_true']
    cases hvalid : (NtpPacket.decode data).isValid with
    | false => exact iff_of_false (fun h => by cases h) fun h => Bool.false_ne_true h.1
    | true =>
      by_cases hmode : (NtpPacket.decode data).mode = NtpMode.client
      · rw [if_neg (by decide), hmode, bne_self_eq_false, if_neg Bool.false_ne_true]
        exact ⟨fun h => ⟨rfl, rfl, (Option.some.inj h).symm⟩, fun h => by rw [h.2.2]⟩
      · rw [if_neg (by decide), if_pos (bne_iff_ne.mpr hmode)]
        exact iff_of_false (fun h => by cases h) fun h => hmode h.2.1

namespace NtpConnection

variable {evp : Evp} {conn : NtpConnection} {c : NtpConfig} {now : SteadyTime} {data : Bytes}

/-- With authentication off the check is vacuous. -/
theorem validateAuthentication_of_off (h : c.enableAuthentication = false)
    (packet : NtpPacket) : validateAuthentication evp c packet data = true := by
  rw [validateAuthentication, h]
  rfl

/-- A datagram that is no client request leaves the connection as it is. -/
theorem handlePacket_of_none (h : clientRequest data = none) :
    conn.handlePacket evp c now data = (false, conn) := by
  unfold handlePacket
  cases conn.active with
  | false => rfl
  | true => rw [h]; rfl

theorem handlePacket_of_inactive (h : conn.active = false) :
    conn.handlePacket evp c now data = (false, conn) := by
  rw [handlePacket, h]
  rfl

/-- A client request passes the limiter and the authentication, or not. -/
theorem handlePacket_of_request {packet : NtpPacket} (hactive : conn.active = true)
    (h : clientRequest data = some packet) :
    conn.handlePacket evp c now data =
      if (conn.applyLimiter c now).1 && validateAuthentication evp c packet data then
        (true, (conn.applyLimiter c now).2.recordPacket data.length)
      else (false, (conn.applyLimiter c now).2) := by
  have hauth : (c.enableAuthentication && !validateAuthentication evp c packet data)
      = !validateAuthentication evp c packet data := by
    cases hon : c.enableAuthentication with
    | false => rw [validateAuthentication_of_off hon]; rfl
    | true => rw [Bool.true_and]
  simp only [handlePacket, hactive, h, hauth, Bool.not_true, Bool.false_eq_true, if_false]
  cases (conn.applyLimiter c now).1 <;> cases validateAuthentication evp c packet data <;> rfl

/-- **What `handlePacket` accepts.** -/
theorem handlePacket_fst_iff :
    (conn.handlePacket evp c now data).1 = true ↔
      conn.active = true ∧ ∃ packet, clientRequest data = some packet ∧
        (conn.applyLimiter c now).1 = true ∧
        validateAuthentication evp c packet data = true := by
  cases hactive : conn.active with
  | false =>
    rw [handlePacket_of_inactive hactive]
    exact iff_of_false Bool.false_ne_true fun h => Bool.false_ne_true h.1
  | true =>
    cases hrequest : clientRequest data with
    | none =>
      rw [handlePacket_of_none hrequest]
      exact iff_of_false Bool.false_ne_true fun ⟨_, _, h, _⟩ => by cases h
    | some packet =>
      rw [handlePacket_of_request hactive hrequest]
      simp only [Option.some.injEq, exists_eq_left', true_and, ← Bool.and_eq_true]
      split
      · rename_i h
        exact iff_of_true rfl h
      · rename_i h
        exact iff_of_false Bool.false_ne_true h

end NtpConnection

end SimpleNtpd
