import SimpleNtpd.Core.Frame
import SimpleNtpd.Lib.Runs

/-!
# Well-formed replies

What the server hands to `sendto` over whole runs. The stratum of a reply is
that of the current configuration or one derived from the upstream; the first is
raised by `applyDynamicStratum`, carried over by reloads and replaced by what a
file says. `StratumInRange` is the invariant all of these keep. The packet is
built with leap indicator 0, version 4 and mode 4, and rewriting its timestamps
for a clock offset touches none of its other fields, so the codec takes it
through the 48 bytes unchanged.
-/

namespace SimpleNtpd

open Cpp

/-! ## The stratum -/

/-- The stratum of every configuration object is in range. -/
def StratumInRange (s : NtpServer) : Prop := ∀ ref, (s.configs ref).stratum ≤ 15

namespace StratumInRange

variable {s s' : NtpServer}

theorem start {c : NtpConfig} (h : c.stratum ≤ 15) (logger : LoggerSettings) :
    StratumInRange (NtpServer.start c logger) :=
  fun _ => h

theorem of_same (h : StratumInRange s) (hsame : SameSettings s s') : StratumInRange s' := by
  intro ref
  rw [hsame.configs]
  exact h ref

/-- A new object in range leaves the others. -/
theorem update (h : StratumInRange s) (ref : ConfigRef) {c : NtpConfig} (hc : c.stratum ≤ 15) :
    ∀ ref', (Function.update s.configs ref c ref').stratum ≤ 15 := by
  intro ref'
  by_cases hr : ref' = ref
  · rw [hr, Function.update_self]
    exact hc
  · rw [Function.update_of_ne hr]
    exact h ref'

theorem applyDynamicStratum (h : StratumInRange s) : StratumInRange s.applyDynamicStratum := by
  rcases s.applyDynamicStratum_cases with hsame | ⟨hlt, hraise⟩
  · rw [hsame]
    exact h
  · rw [hraise]
    exact h.update s.config (NtpServer.stratum_succ_le hlt)

theorem reloadConfig (h : StratumInRange s) (getenv : Str → Option Str) (file : Option Str) :
    StratumInRange (s.reloadConfig getenv file).2 := by
  unfold NtpServer.reloadConfig
  dsimp only
  split
  · exact h
  · split
    · exact h
    · rename_i hok
      rw [Bool.or_eq_true, not_or, Bool.not_eq_true', Bool.not_eq_true',
        Bool.not_eq_false, Bool.not_eq_false] at hok
      exact h.update s.nextConfig (NtpConfig.stratum_le_of_validate hok.2)

/-- One event keeps the strata in range. -/
theorem step {pick : NtpServer → NtpConnection → NtpConfig} {evp : Evp} {e : Event}
    {out : Option (Verdict × Option Bytes)} (h : StratumInRange s)
    (hstep : s.stepWith pick evp e = .ok (s', out)) : StratumInRange s' := by
  cases e with
  | packet data client env =>
    obtain ⟨p, hp, rfl, -⟩ := NtpServer.stepWith_packet hstep
    rcases NtpServer.processPacketWith_cases hp with ⟨-, -, hsame⟩ | ⟨t, packet, hsame, hreq, rfl⟩
    · exact h.of_same hsame
    · exact (h.of_same hsame).applyDynamicStratum.of_same
        (NtpServer.finishPacket_of_request hreq t env).2.2
  | sync world now =>
    cases hstep
    exact h
  | reload getenv file =>
    cases hstep
    exact h.reloadConfig getenv file
  | cleanup =>
    cases hstep
    exact h.of_same s.cleanupConnections_same

/-- A run keeps the strata in range. -/
theorem run {pick : NtpServer → NtpConnection → NtpConfig} {evp : Evp} {events : List Event}
    {outs : List (Option (Verdict × Option Bytes))} (h : StratumInRange s)
    (hrun : s.runWith pick evp events = .ok (s', outs)) : StratumInRange s' :=
  NtpServer.runWith_invariant (fun _ _ _ _ _ ht hstep => ht.step hstep) h hrun

end StratumInRange

/-- The stratum of a reply is in range. -/
theorem NtpServer.responseStratum_le {s : NtpServer} (h : StratumInRange s) :
    s.responseStratum ≤ 15 := by
  have hconfig : s.currentConfig.stratum ≤ 15 := h s.config
  unfold NtpServer.responseStratum
  split
  · exact hconfig
  · split
    · exact UpstreamSyncManager.effectiveStratum_le _ hconfig
    · exact hconfig

/-! ## The packet -/

/-- The fields of a reply packet that do not depend on a clock. -/
structure ReplyTo (request : NtpPacket) (p : NtpPacket) : Prop where
  leapIndicator : p.leapIndicator = 0
  version : p.version = 4
  mode : p.mode = NtpMode.server
  stratum : p.stratum ≤ 15
  poll : p.poll = 4
  precision : p.precision = -6
  originateTs : p.originateTs = request.transmitTs

namespace ReplyTo

variable {request p : NtpPacket}

theorem createServerResponse {stratum : UInt8} (h : stratum ≤ 15) (request : NtpPacket)
    (referenceId : Bytes) (t₁ t₂ t₃ : Int) :
    ReplyTo request (.createServerResponse request stratum referenceId t₁ t₂ t₃) :=
  ⟨rfl, rfl, rfl, h, rfl, rfl, rfl⟩

/-- A clock offset rewrites two timestamps only. -/
theorem applyClockOffset (h : ReplyTo request p) (sync : Option UpstreamSyncManager) :
    ReplyTo request (applyClockOffset sync p) := by
  unfold SimpleNtpd.applyClockOffset
  split
  · exact h
  · split
    · exact ⟨h.leapIndicator, h.version, h.mode, h.stratum, h.poll, h.precision, h.originateTs⟩
    · exact h

theorem isValid (h : ReplyTo request p) : p.isValid = true := by
  rw [NtpPacket.isValid_iff, h.version, h.mode, h.poll, h.precision, h.leapIndicator]
  exact ⟨.inr rfl, by decide, h.stratum, by decide, by decide, by decide⟩

end ReplyTo

/-- The reply built in a state is the serialized form of a reply packet. -/
theorem NtpServer.buildReply_fst {s : NtpServer} (h : StratumInRange s) (request : NtpPacket)
    (env : PacketEnv) :
    ∃ p, ReplyTo request p ∧ (s.buildReply request env).1 = p.serializeToData := by
  have hreply := (ReplyTo.createServerResponse (responseStratum_le h) request
    (effectiveReferenceId s.currentConfig) env.receiveTime env.transmitTime
    env.referenceTime).applyClockOffset s.applyDynamicStratum.upstreamSync
  exact ⟨_, hreply, by rw [buildReply]⟩

/-! ## The bytes -/

theorem byteAt_drop (data : Bytes) (n i : Nat) : byteAt (data.drop n) i = byteAt data (n + i) := by
  rw [byteAt, byteAt, List.getD_eq_getElem?_getD, List.getD_eq_getElem?_getD,
    List.getElem?_drop]

/-- Eight bytes are the two words of the timestamp that is read there. -/
theorem take_drop_eq_timestamp {data : Bytes} {p : Nat} (h : p + 8 ≤ data.length) :
    (data.drop p).take 8 = Word.toBytes (readTimestamp data p).seconds
      ++ Word.toBytes (readTimestamp data p).fraction := by
  have hlen : 8 ≤ (data.drop p).length := by
    rw [List.length_drop]
    omega
  rw [NtpPacket.take_eq_map hlen, readTimestamp, readU32Be, readU32Be, Word.toBytes_ofBytes,
    Word.toBytes_ofBytes]
  simp only [List.range_succ, List.range_zero, List.nil_append, List.cons_append, List.map_cons,
    List.map_nil, byteAt_drop, Nat.add_assoc, Nat.add_zero, Nat.reduceAdd]

/-- What the clients may rely on: a reply of 48 bytes to a request that is a
valid packet of mode 3; it parses as a valid packet with leap indicator 0,
version 4, mode 4 and a stratum up to 15, and echoes the eight bytes of the
request's transmit timestamp. -/
structure WellFormedReply (request reply : Bytes) : Prop where
  length : reply.length = 48
  request_length : 48 ≤ request.length
  request_valid : (NtpPacket.decode request).isValid = true
  request_mode : (NtpPacket.decode request).mode = NtpMode.client
  parses : ∀ q : NtpPacket, q.parseFromData reply = (true, NtpPacket.decode reply)
  valid : (NtpPacket.decode reply).isValid = true
  leapIndicator : (NtpPacket.decode reply).leapIndicator = 0
  version : (NtpPacket.decode reply).version = 4
  mode : (NtpPacket.decode reply).mode = NtpMode.server
  stratum : (NtpPacket.decode reply).stratum ≤ 15
  echo : (reply.drop 24).take 8 = (request.drop 40).take 8

/-- A serialized reply packet to a client's request is well formed. -/
theorem wellFormedReply_serializeToData {data : Bytes} {request p : NtpPacket}
    (hrequest : clientRequest data = some request) (h : ReplyTo request p) :
    WellFormedReply data p.serializeToData := by
  obtain ⟨hlen, hvalid, hmode, rfl⟩ := clientRequest_eq_some_iff.mp hrequest
  obtain ⟨hli, hv, hm⟩ := NtpPacket.packed_of_isValid h.isValid
  have hdecode : NtpPacket.decode p.serializeToData = p := by
    have happ := NtpPacket.decode_serializeToData hli hv hm []
    rwa [List.append_nil] at happ
  have hlength : p.serializeToData.length = 48 := p.serializeToData_length
  have hecho : readTimestamp p.serializeToData 24 = readTimestamp data 40 := by
    have horiginate : (NtpPacket.decode p.serializeToData).originateTs
        = (NtpPacket.decode data).transmitTs := by
      rw [hdecode]
      exact h.originateTs
    exact horiginate
  exact
    { length := hlength
      request_length := hlen
      request_valid := hvalid
      request_mode := hmode
      parses := fun q => q.parseFromData_of_le (Nat.le_of_eq hlength.symm)
      valid := by rw [hdecode]; exact h.isValid
      leapIndicator := by rw [hdecode]; exact h.leapIndicator
      version := by rw [hdecode]; exact h.version
      mode := by rw [hdecode]; exact h.mode
      stratum := by rw [hdecode]; exact h.stratum
      echo := by
        rw [take_drop_eq_timestamp (by rw [hlength]; decide), take_drop_eq_timestamp hlen, hecho] }

/-- A datagram processed while the strata are in range gets a well-formed reply
or none. -/
theorem processPacket_reply {evp : Evp} {s : NtpServer} {data : Bytes} {client : SockAddr}
    {env : PacketEnv} {p : Processed} {reply : Bytes} (hs : StratumInRange s)
    (h : s.processPacket evp data client env = .ok p) (hreply : p.reply = some reply) :
    WellFormedReply data reply := by
  rcases NtpServer.processPacketWith_cases h with ⟨-, hnone, -⟩ | ⟨t, packet, hsame, hreq, rfl⟩
  · rw [hnone] at hreply
    cases hreply
  · obtain ⟨q, hq, heq⟩ := NtpServer.buildReply_fst (hs.of_same hsame) packet env
    rw [(NtpServer.finishPacket_of_request hreq t env).2.1, heq, Option.some_inj] at hreply
    rw [← hreply]
    exact wellFormedReply_serializeToData hreq hq

/-- **Well-formed replies over whole runs.** From a configuration with stratum
0 to 15, after any run of datagrams, sync rounds, reloads and clean-ups, every
datagram handed to `sendto` for a further one is well formed. -/
theorem replies_well_formed (evp : Evp) (c : NtpConfig) (logger : LoggerSettings)
    (hc : c.stratum ≤ 15) (events : List Event) (s : NtpServer)
    (outs : List (Option (Verdict × Option Bytes)))
    (hrun : (NtpServer.start c logger).run evp events = .ok (s, outs))
    (data : Bytes) (client : SockAddr) (env : PacketEnv) (p : Processed) (reply : Bytes)
    (h : s.processPacket evp data client env = .ok p) (hreply : p.reply = some reply) :
    WellFormedReply data reply :=
  processPacket_reply ((StratumInRange.start hc logger).run hrun) h hreply

/-- A client at 192.0.2.7. -/
def exampleClient : SockAddr := ⟨0xC0000207, 40000⟩

/-- A datagram processed one second after the epoch of both clocks. -/
def exampleEnv : PacketEnv where
  startTime := 1000000000
  rateTime := 1000000000
  ddosTime := 1000000000
  requestTime := 1000000000
  endTime := 1000000000
  receiveTime := 1000000000
  transmitTime := 1000000000
  referenceTime := 1000000000
  randomIndex := 0
  sendOk := true

/-- A client's request. -/
def exampleRequest : Bytes := (NtpPacket.createClientRequest 0).serializeToData

/-- A server with the default configuration. -/
def defaultServer : NtpServer := .start .defaults (NtpServer.loggerSettings .defaults)

/-- A datagram, a reload that fails and a clean-up. -/
def exampleEvents : List Event :=
  [.packet exampleRequest exampleClient exampleEnv, .reload (fun _ => none) none, .cleanup]

/-- After them, the default server answers the request with a well-formed reply. -/
theorem replies_well_formed_example :
    ∃ s outs p reply, defaultServer.run (fun _ _ => none) exampleEvents = .ok (s, outs) ∧
      s.processPacket (fun _ _ => none) exampleRequest exampleClient exampleEnv = .ok p ∧
      p.reply = some reply ∧ WellFormedReply exampleRequest reply := by
  have hanswered : ((defaultServer.run (fun _ _ => none) exampleEvents).bind fun r =>
      (r.1.processPacket (fun _ _ => none) exampleRequest exampleClient exampleEnv).map
        (·.reply.isSome)).toOption = some true := by
    decide +kernel
  obtain ⟨⟨s, outs⟩, hrun, hserved⟩ := Runs.exists_of_toOption_bind hanswered
  obtain ⟨p, hp, hsome⟩ := Runs.exists_of_toOption_map hserved
  obtain ⟨reply, hreply⟩ := Option.isSome_iff_exists.mp hsome
  exact ⟨s, outs, p, reply, hrun, hp, hreply,
    replies_well_formed _ .defaults _ (by decide) exampleEvents s outs hrun _ _ _ p reply hp hreply⟩

end SimpleNtpd
