import SimpleNtpd.Core.ConnectionTable

/-!
# Which requests are served

`handlePacket` puts a client's request through the checks that are made on a server's
reply as well (`NtpPacket::validateDetailed`): the stratum is at most 15, the poll
interval between 4 and 17, the precision not positive. A server has no use for these
fields of a request, and a client may leave them zero; the checks refuse what is
outside, with a message, also where nothing else restricts the service.

`request_served_iff` says that nothing else matters: with access lists, limiters and
authentication off, a request of version 3 or 4 is answered exactly when these three
fields are in range (`FieldsInRange`).
-/

namespace SimpleNtpd

open Cpp

/-! ## The request -/

/-- The fields of a packet that the checks bound whatever its mode and version. -/
def NtpPacket.FieldsInRange (p : NtpPacket) : Prop :=
  p.stratum ≤ 15 ∧ (4 ≤ p.poll ∧ p.poll ≤ 17) ∧ p.precision ≤ 0

instance decidableFieldsInRange (p : NtpPacket) : Decidable p.FieldsInRange :=
  inferInstanceAs (Decidable (_ ∧ _))

/-- A datagram that is a client's request of a supported version. -/
structure IsRequest (data : Bytes) : Prop where
  length : ntpPacketSize ≤ data.length
  mode : (NtpPacket.decode data).mode = NtpMode.client
  version : (NtpPacket.decode data).version = 3 ∨ (NtpPacket.decode data).version = 4

/-- The two bits of the leap indicator are in range. -/
theorem NtpPacket.leapIndicator_decode_le (data : Bytes) : (decode data).leapIndicator ≤ 3 := by
  show (byteAt data 0 >>> 6) &&& 0x3 ≤ 3
  rw [UInt8.le_iff_toNat_le, UInt8.toNat_and]
  exact Nat.and_le_right

/-- The checks on a request are those on its three fields. -/
theorem IsRequest.clientRequest_eq_some_iff {data : Bytes} (h : IsRequest data)
    {packet : NtpPacket} :
    clientRequest data = some packet ↔
      (NtpPacket.decode data).FieldsInRange ∧ packet = NtpPacket.decode data := by
  have hmode : (NtpPacket.decode data).mode < 8 := by
    rw [h.mode]
    decide
  rw [SimpleNtpd.clientRequest_eq_some_iff, NtpPacket.isValid_iff, and_iff_right h.length,
    and_iff_right h.version, and_iff_right hmode, and_iff_right h.mode,
    and_iff_left (NtpPacket.leapIndicator_decode_le data), NtpPacket.FieldsInRange]

/-! ## The connection -/

/-- Access lists, limiters and authentication are off. -/
structure Unrestricted (c : NtpConfig) : Prop where
  acl : AclOff c
  rateLimiting : c.enableRateLimiting = false
  ddosProtection : c.enableDdosProtection = false
  authentication : c.enableAuthentication = false

variable {evp : Evp} {c : NtpConfig} {data : Bytes}

/-- A connection accepts a request whose fields are in range, and no other. -/
theorem NtpConnection.handlePacket_unrestricted_iff {conn : NtpConnection} {now : SteadyTime}
    (hactive : conn.active = true) (hc : Unrestricted c) (hreq : IsRequest data) :
    (conn.handlePacket evp c now data).1 = true ↔ (NtpPacket.decode data).FieldsInRange := by
  have hlimit : (conn.applyLimiter c now).1 = true := by
    rw [applyLimiter, hc.rateLimiting]
    rfl
  rw [handlePacket_fst_iff, and_iff_right hactive]
  constructor
  · rintro ⟨packet, hpacket, -, -⟩
    exact (hreq.clientRequest_eq_some_iff.mp hpacket).1
  · exact fun hfields => ⟨_, hreq.clientRequest_eq_some_iff.mpr ⟨hfields, rfl⟩, hlimit,
      validateAuthentication_of_off hc.authentication _⟩

/-! ## The server -/

namespace NtpServer

variable {s : NtpServer} {client : SockAddr}

/-- The connection of a client, where it has one, was made with a configuration of
which something holds. -/
def CapturedBy (s : NtpServer) (client : SockAddr) (P : NtpConfig → Prop) : Prop :=
  ∀ conn, s.activeConnections.lookup (connectionKey (inetNtop client.ip) client.port) = some conn →
    P (s.captured conn)

/-- Without restrictions a datagram gets to a connection without restrictions. -/
theorem getOrCreateConnection_unrestricted (hactive : s.AllActive)
    (hcurrent : Unrestricted s.currentConfig) (hcaptured : s.CapturedBy client Unrestricted) :
    ∃ t conn, s.getOrCreateConnection (inetNtop client.ip) client.port = .ok t ∧
      t.activeConnections.lookup (connectionKey (inetNtop client.ip) client.port) = some conn ∧
      conn.active = true ∧ Unrestricted (t.captured conn) := by
  unfold getOrCreateConnection
  dsimp only
  cases hlookup : s.activeConnections.lookup
    (connectionKey (inetNtop client.ip) client.port) with
  | some conn =>
    exact ⟨s, conn, rfl, hlookup, hactive _ (AList.mem_lookup_iff.mp hlookup),
      hcaptured conn hlookup⟩
  | none =>
    rw [isClientAllowed_of_off hcurrent.acl]
    exact ⟨_, { clientAddress := inetNtop client.ip, config := s.config, trustedClient := true },
      rfl, AList.lookup_insert _, rfl, hcurrent⟩

/-- No exception is raised, and the connection accepts the request or not. -/
theorem processPacket_unrestricted (hactive : s.AllActive)
    (hcurrent : Unrestricted s.currentConfig) (hcaptured : s.CapturedBy client Unrestricted)
    (hreq : IsRequest data) (evp : Evp) (env : PacketEnv) :
    ∃ (t : NtpServer) (accepted : Bool),
      s.processPacket evp data client env = .ok (t.finishPacket accepted data env) ∧
      (accepted = true ↔ (NtpPacket.decode data).FieldsInRange) := by
  obtain ⟨t, conn, hconn, hlookup, hconnActive, hconnCaptured⟩ :=
    getOrCreateConnection_unrestricted hactive hcurrent hcaptured
  have hrate : s.isRateLimitExceeded (inetNtop client.ip) env.rateTime = (false, s) := by
    rw [isRateLimitExceeded, hcurrent.rateLimiting]
    rfl
  have hddos : s.isDdosAnomaly (inetNtop client.ip) env.ddosTime = (false, s) := by
    rw [isDdosAnomaly, hcurrent.ddosProtection]
    rfl
  let handled := t.handleOn captured evp (connectionKey (inetNtop client.ip) client.port)
    env.requestTime data
  refine ⟨handled.2, handled.1, ?_, ?_⟩
  · simp only [processPacket, processPacketWith, isClientAllowed_of_off hcurrent.acl, hrate, hddos,
      hconn, Bool.false_and, Bool.false_eq_true, if_false]
    rfl
  · show (t.handleOn captured evp _ env.requestTime data).1 = true ↔ _
    rw [handleOn, onConnection, hlookup]
    exact NtpConnection.handlePacket_unrestricted_iff hconnActive hconnCaptured hreq

end NtpServer

open Daemon

/-- A connection of a life is active. -/
theorem Daemon.allActive_run {c : NtpConfig} {logger : LoggerSettings} {events : List Step}
    {d : Daemon} (hrun : (create c logger).run evp events = .ok d) : d.server.AllActive :=
  Runs.foldlM_invariant (I := fun d => d.server.AllActive)
    (fun _ _ _ _ ht hstep => allActive_step ht hstep)
    (fun _ hentry => (List.not_mem_nil hentry).elim) hrun

/-- **Which requests are served.** In every life of a server, with access lists,
limiters and authentication off in the configuration in force and in the one the
client's connection was made with: a request of at least 48 bytes of version 3 or 4 is
accepted and a reply built exactly when its stratum, poll interval and precision are in
range, whatever its other fields. Any other one is refused. -/
theorem request_served_iff {c : NtpConfig} {logger : LoggerSettings} {events : List Step}
    {d : Daemon} {client : SockAddr} (hrun : (create c logger).run evp events = .ok d)
    (hcurrent : Unrestricted d.currentConfig)
    (hcaptured : d.server.CapturedBy client Unrestricted) (hreq : IsRequest data)
    (env : PacketEnv) :
    (∀ (conn : NtpConnection) (now : SteadyTime), conn.active = true →
      Unrestricted (d.server.captured conn) →
      ((conn.handlePacket evp (d.server.captured conn) now data).1 = true ↔
        (NtpPacket.decode data).FieldsInRange)) ∧
    ∃ p, d.server.processPacket evp data client env = .ok p ∧
      ((NtpPacket.decode data).FieldsInRange →
        p.verdict = .answered ∧ ∃ reply, p.reply = some reply) ∧
      (¬(NtpPacket.decode data).FieldsInRange → p.verdict = .refused ∧ p.reply = none) := by
  refine ⟨fun conn now hactive hconn =>
    NtpConnection.handlePacket_unrestricted_iff hactive hconn hreq, ?_⟩
  obtain ⟨t, accepted, hprocess, haccepted⟩ := NtpServer.processPacket_unrestricted
    (allActive_run hrun) hcurrent hcaptured hreq evp env
  refine ⟨_, hprocess, fun hfields => ?_, fun hfields => ?_⟩
  · have hpacket := hreq.clientRequest_eq_some_iff.mpr ⟨hfields, rfl⟩
    obtain ⟨hverdict, hreply, -⟩ := NtpServer.finishPacket_of_request hpacket t env
    rw [haccepted.mpr hfields]
    exact ⟨hverdict, _, hreply⟩
  · rw [Bool.eq_false_iff.mpr fun htrue => hfields (haccepted.mp htrue)]
    exact ⟨rfl, rfl⟩

theorem unrestricted_defaults : Unrestricted .defaults := ⟨⟨rfl, rfl⟩, rfl, rfl, rfl⟩

/-- A server with the defaults answers the request the daemon sends itself. -/
theorem request_served_example :
    ∃ p, (create NtpConfig.defaults (startupLogger .defaults)).server.processPacket
        (fun _ _ => none) exampleRequest exampleClient exampleEnv = .ok p ∧
      p.verdict = .answered ∧ ∃ reply, p.reply = some reply := by
  have hreq : IsRequest exampleRequest := ⟨by decide, by decide, by decide⟩
  have hrun : (create .defaults (startupLogger .defaults)).run (fun _ _ => none) []
      = .ok (create .defaults (startupLogger .defaults)) := rfl
  obtain ⟨-, p, hp, hserved, -⟩ := request_served_iff hrun unrestricted_defaults
    (fun _ hconn => nomatch hconn) hreq exampleEnv
  exact ⟨p, hp, hserved (by decide)⟩

/-- The request of an SNTP client: all zero behind the first byte. -/
def sntpRequest : Bytes := 0x23 :: List.replicate 47 0

/-- The request of an SNTP client is refused: its poll interval is 0. -/
theorem sntpRequest_refused :
    ¬ ∀ evp c logger events d data client env, (create c logger).run evp events = .ok d →
      Unrestricted d.currentConfig → d.server.CapturedBy client Unrestricted → IsRequest data →
      ∃ p, d.server.processPacket evp data client env = .ok p ∧ p.verdict = .answered := by
  intro h
  obtain ⟨p, hp, hanswered⟩ := h (fun _ _ => none) .defaults (startupLogger .defaults) [] _
    sntpRequest exampleClient exampleEnv rfl unrestricted_defaults
    (fun _ hconn => nomatch hconn) ⟨by decide, by decide, by decide⟩
  have hrefused : (((create .defaults (startupLogger .defaults)).server.processPacket
      (fun _ _ => none) sntpRequest exampleClient exampleEnv).map (·.verdict)).toOption
        = some .refused := by
    decide +kernel
  rw [hp] at hrefused
  cases hanswered.symm.trans (Option.some.inj hrefused)

end SimpleNtpd
