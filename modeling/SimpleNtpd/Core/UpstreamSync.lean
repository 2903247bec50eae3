import SimpleNtpd.Lib.CppString
import SimpleNtpd.Core.Packet

/-!
# Upstream synchronization

`queryUpstreamServer` sends one request to one upstream server and waits for one
datagram; `UpstreamSyncManager::syncOnce` queries all configured servers and
keeps the answer with the lowest delay.

What the resolver, the socket, the two clocks and the network do during a query
is a `QueryEnv`. In particular the datagram `recvfrom` returns, and the address
it came from, are arbitrary: the reply to this request, the reply to an earlier
one, or anything somebody else sent to the port.
-/

namespace SimpleNtpd

open Cpp

/-! ## One query -/

/-- `struct sockaddr_in`: address and port in host byte order. -/
structure SockAddr where
  ip : UInt32
  port : UInt16
  deriving DecidableEq, Repr

/-- One entry of the resolver's list: whether it is an `AF_INET` address, the
address, and whether `sendto` to it sends the whole request. -/
structure AddrInfo where
  inet : Bool
  addr : SockAddr
  sends : Bool
  deriving DecidableEq, Repr

/-- What happens outside the program during one query. -/
structure QueryEnv where
  /-- the resolver's list; `none` is an error -/
  resolved : Option (List AddrInfo)
  /-- whether the socket can be created -/
  socketOk : Bool
  /-- the clock when the request is stamped -/
  requestTime : Int
  /-- the datagram `recvfrom` returns and its sender; `none` is a timeout -/
  received : Option (Bytes × SockAddr)
  /-- the clock when the reply is stamped -/
  replyTime : Int

/-- upstream_sync.hpp:21–27. -/
structure UpstreamSyncResult where
  success : Bool := false
  server : Str := []
  offsetUs : Int := 0
  delayUs : Int := 0
  stratum : UInt8 := 0
  deriving DecidableEq, Repr

/-- The request of a query. -/
def QueryEnv.request (env : QueryEnv) : NtpPacket := .createClientRequest env.requestTime

/-- The first address the request can be sent to (upstream_sync.cpp:63–74). -/
def QueryEnv.target (env : QueryEnv) : Option SockAddr :=
  match env.resolved with
  | none => none
  | some infos =>
    if env.socketOk then (infos.find? fun ai => ai.inet && ai.sends).map (·.addr) else none

/-- The packet a received datagram is taken for: `recvfrom` keeps the first 48
bytes, and fewer than 48, an invalid packet or a packet that is not from a
server is refused (upstream_sync.cpp:81–101). -/
def acceptReply (datagram : Bytes) : Option NtpPacket :=
  let buffer := datagram.take ntpPacketSize
  if buffer.length < ntpPacketSize then none
  else
    let parsed := NtpPacket.new.parseFromData buffer
    if !parsed.1 || !parsed.2.isValid then none
    else if parsed.2.mode != NtpMode.server then none
    else some parsed.2

/-- Query one server (upstream_sync.cpp:38–115). The address the datagram came
from is received and not used. -/
def queryUpstreamServer (host : Str) (env : QueryEnv) : UpstreamSyncResult :=
  let result : UpstreamSyncResult := { server := host }
  match env.target with
  | none => result
  | some _ =>
    match env.received with
    | none => result
    | some (datagram, _) =>
      match acceptReply datagram with
      | none => result
      | some response =>
        let t1 := env.request.transmitTs
        let t4 := NtpTimestamp.fromSystemTime env.replyTime
        { result with
          offsetUs :=
            NtpPacketHandler.calculateOffset t1 response.receiveTs response.transmitTs t4
          delayUs :=
            NtpPacketHandler.calculateRoundTripDelay t1 response.receiveTs response.transmitTs t4
          stratum := response.stratum
          success := true }

/-- A datagram passes the tests when it has 48 bytes that decode to a valid
packet from a server. -/
theorem acceptReply_eq_some_iff {datagram : Bytes} {response : NtpPacket} :
    acceptReply datagram = some response ↔
      ntpPacketSize ≤ datagram.length ∧ (NtpPacket.decode datagram).isValid = true ∧
        (NtpPacket.decode datagram).mode = NtpMode.server ∧
        response = NtpPacket.decode datagram := by
  have hlen : (datagram.take ntpPacketSize).length < ntpPacketSize
      ↔ datagram.length < ntpPacketSize := by
    rw [List.length_take, Nat.min_def]
    split <;> omega
  unfold acceptReply
  by_cases hshort : datagram.length < ntpPacketSize
  · rw [if_pos (hlen.mpr hshort)]
    exact iff_of_false (fun h => by cases h) fun h => absurd h.1 (Nat.not_le.mpr hshort)
  · have hbuf : ntpPacketSize ≤ (datagram.take ntpPacketSize).length :=
      Nat.not_lt.mp fun h => hshort (hlen.mp h)
    have hparse : NtpPacket.new.parseFromData (datagram.take ntpPacketSize)
        = (true, NtpPacket.decode datagram) := by
      rw [NtpPacket.parseFromData_of_le _ hbuf, NtpPacket.decode_take]
    rw [if_neg fun h => hshort (hlen.mp h), hparse, and_iff_right (Nat.not_lt.mp hshort)]
    simp only [Bool.not_true, Bool.false_or, Bool.not_eq_true']
    cases hvalid : (NtpPacket.decode datagram).isValid with
    | false => simp only [if_true, reduceCtorEq, Bool.false_eq_true, false_and]
    | true =>
      by_cases hmode : (NtpPacket.decode datagram).mode = NtpMode.server
      · rw [if_neg (by decide), hmode, bne_self_eq_false, if_neg Bool.false_ne_true]
        exact ⟨fun h => ⟨rfl, rfl, (Option.some.inj h).symm⟩, fun h => by rw [h.2.2]⟩
      · rw [if_neg (by decide), if_pos (bne_iff_ne.mpr hmode)]
        exact iff_of_false (fun h => by cases h) fun h => hmode h.2.1

/-- A query succeeds when the request was sent and some datagram passes the
tests. -/
theorem queryUpstreamServer_success_iff {host : Str} {env : QueryEnv} :
    (queryUpstreamServer host env).success = true ↔
      ∃ target datagram sender response, env.target = some target ∧
        env.received = some (datagram, sender) ∧ acceptReply datagram = some response := by
  unfold queryUpstreamServer
  cases htarget : env.target with
  | none => exact iff_of_false Bool.false_ne_true fun ⟨_, _, _, _, h, _⟩ => by cases h
  | some target =>
    cases hreceived : env.received with
    | none => exact iff_of_false Bool.false_ne_true fun ⟨_, _, _, _, _, h, _⟩ => by cases h
    | some received =>
      obtain ⟨datagram, sender⟩ := received
      cases hreply : acceptReply datagram with
      | none =>
        simp only [hreply]
        refine iff_of_false Bool.false_ne_true ?_
        rintro ⟨_, _, _, _, -, h, hnone⟩
        cases h
        rw [hreply] at hnone
        cases hnone
      | some response =>
        simp only [hreply]
        exact iff_of_true trivial ⟨target, datagram, sender, response, rfl, rfl, hreply⟩

/-! ## The manager -/

/-- The state the manager guards with its mutex (upstream_sync.hpp:65–71). -/
structure UpstreamSyncManager where
  clockOffsetUs : Int := 0
  lastDelayUs : Int := 0
  upstreamStratum : UInt8 := 0
  syncedUpstream : Str := []
  lastSyncTime : Int := 0
  synced : Bool := false
  deriving DecidableEq, Repr

/-- Keep the answer with the lowest delay, the earlier one on a tie
(upstream_sync.cpp:150–153). -/
def keepBest (best attempt : UpstreamSyncResult) : UpstreamSyncResult :=
  if attempt.success && (!best.success || attempt.delayUs < best.delayUs) then attempt else best

/-- The answers of one round: the `i`-th server is queried in `world i`. -/
def attempts (servers : List Str) (world : Nat → QueryEnv) : List UpstreamSyncResult :=
  servers.zipIdx.map fun (host, i) => queryUpstreamServer host (world i)

namespace UpstreamSyncManager

/-- One round: the state afterwards and the answer kept. The clock is read when
an answer is committed (upstream_sync.cpp:139–177). -/
def syncOnce (m : UpstreamSyncManager) (servers : List Str) (world : Nat → QueryEnv)
    (now : Int) : UpstreamSyncManager × UpstreamSyncResult :=
  if servers.isEmpty then (m, {})
  else
    let best := (attempts servers world).foldl keepBest {}
    if best.success then
      ({ clockOffsetUs := best.offsetUs
         lastDelayUs := best.delayUs
         upstreamStratum := best.stratum
         syncedUpstream := best.server
         lastSyncTime := now
         synced := true }, best)
    else (m, best)

/-- The stratum of the replies (upstream_sync.cpp:199–206). -/
def effectiveStratum (m : UpstreamSyncManager) (configured : UInt8) : UInt8 :=
  if !m.synced || m.upstreamStratum == 0 then configured
  else
    let derived : Int := m.upstreamStratum.toNat + 1
    UInt8.ofInt (max 1 (min derived 15))

/-- A derived stratum is in range, and the configured one stays what it is. -/
theorem effectiveStratum_le (m : UpstreamSyncManager) {configured : UInt8}
    (h : configured ≤ 15) : m.effectiveStratum configured ≤ 15 := by
  unfold effectiveStratum
  split
  · exact h
  · generalize m.upstreamStratum = upstream
    exact forall_uint8 (by decide +kernel) upstream

end UpstreamSyncManager

/-- What is kept is what was there before, or a successful answer of the list. -/
theorem foldl_keepBest (answers : List UpstreamSyncResult) (init : UpstreamSyncResult) :
    answers.foldl keepBest init = init ∨
      ∃ a ∈ answers, a.success = true ∧ answers.foldl keepBest init = a := by
  induction answers generalizing init with
  | nil => exact .inl rfl
  | cons a answers ih =>
    rw [List.foldl_cons]
    rcases ih (keepBest init a) with hkeep | ⟨b, hb, hsuccess, heq⟩
    · rw [hkeep]
      unfold keepBest
      split
      · rename_i hbetter
        exact .inr ⟨a, List.mem_cons_self, (Bool.and_eq_true _ _ ▸ hbetter).1, rfl⟩
      · exact .inl rfl
    · exact .inr ⟨b, List.mem_cons_of_mem a hb, hsuccess, heq⟩

/-- **A round commits an answer of one of its own queries or nothing.** -/
theorem UpstreamSyncManager.syncOnce_cases (m : UpstreamSyncManager) (servers : List Str)
    (world : Nat → QueryEnv) (now : Int) :
    (m.syncOnce servers world now).1 = m ∨
      ∃ host i, (host, i) ∈ servers.zipIdx ∧
        (queryUpstreamServer host (world i)).success = true ∧
        (m.syncOnce servers world now).1.clockOffsetUs
          = (queryUpstreamServer host (world i)).offsetUs := by
  unfold syncOnce
  by_cases hempty : servers.isEmpty = true
  · rw [if_pos hempty]
    exact .inl rfl
  · rw [if_neg hempty]
    rcases foldl_keepBest (attempts servers world) {} with hnone | ⟨a, ha, hsuccess, heq⟩
    · rw [hnone]
      exact .inl rfl
    · obtain ⟨⟨host, i⟩, hmem, rfl⟩ := List.mem_map.mp ha
      refine .inr ⟨host, i, hmem, hsuccess, ?_⟩
      simp only [heq]
      rw [if_pos hsuccess]

end SimpleNtpd
