import SimpleNtpd.Core.Server

/-!
# What a datagram leaves alone

Everything the processing of a datagram does to the server, step by step, is
about counters, buckets and connections. The settings (the configuration
objects, the pointers to them, the logger and the sync manager) change in one
place only: `applyDynamicStratum` may raise the stratum of the current
configuration. `processPacketWith_cases` says this together with where a reply
comes from; every invariant of the settings is derived from it. So a reply is
told by the settings alone (`decode_reply`).
-/

namespace SimpleNtpd

open Cpp

/-- The settings of two states agree. -/
structure SameSettings (s s' : NtpServer) : Prop where
  configs : s'.configs = s.configs
  nextConfig : s'.nextConfig = s.nextConfig
  config : s'.config = s.config
  logger : s'.logger = s.logger
  upstreamSync : s'.upstreamSync = s.upstreamSync
  syncConfig : s'.syncConfig = s.syncConfig

namespace SameSettings

variable {s s' s'' : NtpServer}

theorem refl (s : NtpServer) : SameSettings s s := ⟨rfl, rfl, rfl, rfl, rfl, rfl⟩

theorem trans (h : SameSettings s s') (h' : SameSettings s' s'') : SameSettings s s'' :=
  ⟨h'.configs.trans h.configs, h'.nextConfig.trans h.nextConfig, h'.config.trans h.config,
    h'.logger.trans h.logger, h'.upstreamSync.trans h.upstreamSync,
    h'.syncConfig.trans h.syncConfig⟩

theorem currentConfig (h : SameSettings s s') : s'.currentConfig = s.currentConfig := by
  rw [NtpServer.currentConfig, NtpServer.currentConfig, h.configs, h.config]

end SameSettings

namespace NtpServer

variable {s s' : NtpServer}

/-! ## One lemma for each step -/

theorem countError_same (s : NtpServer) : SameSettings s s.countError :=
  ⟨rfl, rfl, rfl, rfl, rfl, rfl⟩

theorem isRateLimitExceeded_same (s : NtpServer) (clientIp : Str) (now : SteadyTime) :
    SameSettings s (s.isRateLimitExceeded clientIp now).2 := by
  unfold isRateLimitExceeded
  split <;> exact ⟨rfl, rfl, rfl, rfl, rfl, rfl⟩

theorem isDdosAnomaly_same (s : NtpServer) (clientIp : Str) (now : SteadyTime) :
    SameSettings s (s.isDdosAnomaly clientIp now).2 := by
  unfold isDdosAnomaly
  split <;> exact ⟨rfl, rfl, rfl, rfl, rfl, rfl⟩

theorem isRateLimitExceeded_connections (s : NtpServer) (clientIp : Str) (now : SteadyTime) :
    (s.isRateLimitExceeded clientIp now).2.activeConnections = s.activeConnections := by
  unfold isRateLimitExceeded
  split <;> rfl

theorem isDdosAnomaly_connections (s : NtpServer) (clientIp : Str) (now : SteadyTime) :
    (s.isDdosAnomaly clientIp now).2.activeConnections = s.activeConnections := by
  unfold isDdosAnomaly
  split <;> rfl

/-- A connection is there already, or made with the current configuration. -/
theorem getOrCreateConnection_cases {clientIp : Str} {clientPort : UInt16}
    (h : s.getOrCreateConnection clientIp clientPort = .ok s') :
    (s' = s ∧ ∃ conn, s.activeConnections.lookup (connectionKey clientIp clientPort) = some conn) ∨
      s.activeConnections.lookup (connectionKey clientIp clientPort) = none ∧
        ∃ trusted, isClientAllowed s.currentConfig clientIp = .ok trusted ∧
          s' = { s with
            activeConnections := s.activeConnections.insert (connectionKey clientIp clientPort)
              { clientAddress := clientIp, config := s.config, trustedClient := trusted }
            stats := { s.stats with
              totalConnections := s.stats.totalConnections + 1
              activeConnections := s.stats.activeConnections + 1 } } := by
  unfold getOrCreateConnection at h
  cases hlookup : s.activeConnections.lookup (connectionKey clientIp clientPort) with
  | some conn =>
    simp only [hlookup, Except.ok.injEq] at h
    exact .inl ⟨h.symm, conn, rfl⟩
  | none =>
    simp only [hlookup] at h
    cases hallowed : isClientAllowed s.currentConfig clientIp with
    | error e =>
      rw [hallowed] at h
      cases h
    | ok trusted =>
      rw [hallowed] at h
      exact .inr ⟨rfl, trusted, rfl, (Except.ok.inj h).symm⟩

theorem getOrCreateConnection_same {clientIp : Str} {clientPort : UInt16}
    (h : s.getOrCreateConnection clientIp clientPort = .ok s') : SameSettings s s' := by
  rcases getOrCreateConnection_cases h with ⟨rfl, -⟩ | ⟨-, trusted, -, rfl⟩
  · exact .refl s'
  · exact ⟨rfl, rfl, rfl, rfl, rfl, rfl⟩

theorem onConnection_same (s : NtpServer) (clientKey : Str)
    (method : NtpConnection → Bool × NtpConnection) :
    SameSettings s (s.onConnection clientKey method).2 := by
  unfold onConnection
  split <;> exact ⟨rfl, rfl, rfl, rfl, rfl, rfl⟩

theorem handleOn_same (pick : NtpServer → NtpConnection → NtpConfig) (evp : Evp)
    (s : NtpServer) (clientKey : Str) (now : SteadyTime) (data : Bytes) :
    SameSettings s (s.handleOn pick evp clientKey now data).2 :=
  onConnection_same s clientKey _

/-- A connection refuses what is no client's request. -/
theorem handleOn_of_none {data : Bytes} (h : clientRequest data = none)
    (pick : NtpServer → NtpConnection → NtpConfig) (evp : Evp) (s : NtpServer)
    (clientKey : Str) (now : SteadyTime) :
    (s.handleOn pick evp clientKey now data).1 = false := by
  unfold handleOn onConnection
  split
  · rfl
  · simp only [NtpConnection.handlePacket_of_none h]

theorem selectUpstreamServer_same (s : NtpServer) (randomIndex : Nat) :
    SameSettings s (s.selectUpstreamServer randomIndex).2 := by
  unfold selectUpstreamServer
  dsimp only
  generalize (if s.healthyUpstreams.isEmpty then s.currentConfig.upstreamServers
    else s.healthyUpstreams) = healthy
  split
  · exact .refl s
  · split
    · exact ⟨rfl, rfl, rfl, rfl, rfl, rfl⟩
    · split <;> exact ⟨rfl, rfl, rfl, rfl, rfl, rfl⟩

theorem recordReply_same (s : NtpServer) (bytes : Nat) : SameSettings s (s.recordReply bytes) :=
  ⟨rfl, rfl, rfl, rfl, rfl, rfl⟩

theorem recordSendFailure_same (s : NtpServer) (selected : Str) :
    SameSettings s (s.recordSendFailure selected) := by
  unfold recordSendFailure
  dsimp only
  split <;> exact ⟨rfl, rfl, rfl, rfl, rfl, rfl⟩

theorem recordTime_same (s : NtpServer) (env : PacketEnv) : SameSettings s (s.recordTime env) :=
  ⟨rfl, rfl, rfl, rfl, rfl, rfl⟩

theorem cleanupConnections_same (s : NtpServer) : SameSettings s s.cleanupConnections := by
  unfold cleanupConnections
  dsimp only
  generalize s.activeConnections.entries.filter (fun entry => !entry.2.active) = inactive
  induction inactive generalizing s with
  | nil => exact .refl s
  | cons entry inactive ih =>
    rw [List.foldl_cons]
    have herase : SameSettings s (s.eraseConnection entry.1) := ⟨rfl, rfl, rfl, rfl, rfl, rfl⟩
    exact herase.trans (ih _)

/-- A stratum that may be raised stays in range. -/
theorem stratum_succ_le {n : UInt8} (h : n < 15) : n + 1 ≤ 15 := by
  rw [UInt8.le_iff_toNat_le, UInt8.toNat_add]
  have hnat : n.toNat < 15 := UInt8.lt_iff_toNat_lt.mp h
  show (n.toNat + 1) % 256 ≤ 15
  omega

/-- The one change of the settings: the current configuration's stratum goes up
by one, from below fifteen. -/
theorem applyDynamicStratum_cases (s : NtpServer) :
    s.applyDynamicStratum = s ∨
      s.currentConfig.stratum < 15 ∧ s.applyDynamicStratum =
        { s with
          configs := Function.update s.configs s.config
            { s.currentConfig with stratum := s.currentConfig.stratum + 1 } } := by
  unfold applyDynamicStratum
  dsimp only
  split
  · rename_i h
    rw [Bool.and_eq_true] at h
    exact .inr ⟨of_decide_eq_true h.2, rfl⟩
  · exact .inl rfl

/-- The current configuration is the given one but for its stratum. -/
def RulesOf (c : NtpConfig) (s : NtpServer) : Prop := ∃ n, s.currentConfig = { c with stratum := n }

namespace RulesOf

variable {c : NtpConfig}

theorem currentConfig (s : NtpServer) : RulesOf s.currentConfig s := ⟨s.currentConfig.stratum, rfl⟩

theorem of_same (h : RulesOf c s) (hsame : SameSettings s s') : RulesOf c s' := by
  obtain ⟨n, hn⟩ := h
  exact ⟨n, by rw [hsame.currentConfig, hn]⟩

theorem applyDynamicStratum (h : RulesOf c s) : RulesOf c s.applyDynamicStratum := by
  rcases s.applyDynamicStratum_cases with hstay | ⟨-, hraise⟩
  · rwa [hstay]
  · obtain ⟨n, hn⟩ := h
    refine ⟨n + 1, ?_⟩
    rw [hraise, NtpServer.currentConfig]
    dsimp only
    rw [Function.update_self, hn]

end RulesOf

/-! ## The whole -/

/-- What comes behind `handlePacket` changes the settings by `applyDynamicStratum`
at most. -/
theorem finishPacket_same (s : NtpServer) (accepted : Bool) (data : Bytes) (env : PacketEnv) :
    SameSettings s (s.finishPacket accepted data env).server ∨
      SameSettings s.applyDynamicStratum (s.finishPacket accepted data env).server := by
  unfold finishPacket
  split
  · split
    · exact .inl (countError_same s)
    · rename_i request _
      right
      have hbuild : SameSettings s.applyDynamicStratum (s.buildReply request env).2.2 :=
        selectUpstreamServer_same s.applyDynamicStratum env.randomIndex
      dsimp only
      split
      · exact hbuild.trans ((recordReply_same _ _).trans (recordTime_same _ _))
      · exact hbuild.trans (recordSendFailure_same _ _)
  · exact .inl ((countError_same s).trans (recordTime_same _ env))

theorem RulesOf.finishPacket {c : NtpConfig} (h : RulesOf c s) (accepted : Bool) (data : Bytes)
    (env : PacketEnv) : RulesOf c (s.finishPacket accepted data env).server := by
  rcases s.finishPacket_same accepted data env with hsame | hsame
  · exact h.of_same hsame
  · exact h.applyDynamicStratum.of_same hsame

/-- A reply is built from the parsed request. -/
theorem finishPacket_of_request {data : Bytes} {packet : NtpPacket}
    (h : clientRequest data = some packet) (s : NtpServer) (env : PacketEnv) :
    (s.finishPacket true data env).verdict = .answered ∧
      (s.finishPacket true data env).reply = some (s.buildReply packet env).1 ∧
      SameSettings s.applyDynamicStratum (s.finishPacket true data env).server := by
  obtain ⟨hlen, -, -, rfl⟩ := clientRequest_eq_some_iff.mp h
  unfold finishPacket
  rw [if_pos rfl, NtpPacket.parseFromData_of_le _ hlen]
  have hbuild : SameSettings s.applyDynamicStratum
      (s.buildReply (NtpPacket.decode data) env).2.2 :=
    selectUpstreamServer_same s.applyDynamicStratum env.randomIndex
  dsimp only
  split
  · exact ⟨rfl, rfl, hbuild.trans ((recordReply_same _ _).trans (recordTime_same _ _))⟩
  · exact ⟨rfl, rfl, hbuild.trans (recordSendFailure_same _ _)⟩

/-! ## The stages of a datagram -/

/-- Only the rate buckets differ. -/
def SameButBuckets (s s' : NtpServer) : Prop :=
  ∃ rate second, s' = { s with connectionRateBuckets := rate, requestSecondBuckets := second }

theorem SameButBuckets.settings (h : SameButBuckets s s') : SameSettings s s' := by
  obtain ⟨rate, second, rfl⟩ := h
  exact ⟨rfl, rfl, rfl, rfl, rfl, rfl⟩

/-- The access lists, the connection limiter or the anomaly detector drop a
datagram of the client. -/
def dropsClient (s : NtpServer) (client : SockAddr) (env : PacketEnv) : Bool :=
  match isClientAllowed s.currentConfig (inetNtop client.ip) with
  | .error _ => false
  | .ok false => true
  | .ok true =>
    (s.isRateLimitExceeded (inetNtop client.ip) env.rateTime).1 ||
      ((s.isDdosAnomaly (inetNtop client.ip) env.ddosTime).1
        && s.currentConfig.enableGracefulDegradation)

theorem isRateLimitExceeded_snd (s : NtpServer) (clientIp : Str) (now : SteadyTime) :
    ∃ rate, (s.isRateLimitExceeded clientIp now).2 = { s with connectionRateBuckets := rate } := by
  unfold isRateLimitExceeded
  split
  · exact ⟨s.connectionRateBuckets, rfl⟩
  · exact ⟨_, rfl⟩

theorem isDdosAnomaly_snd (s : NtpServer) (clientIp : Str) (now : SteadyTime) :
    ∃ second, (s.isDdosAnomaly clientIp now).2 = { s with requestSecondBuckets := second } := by
  unfold isDdosAnomaly
  split
  · exact ⟨s.requestSecondBuckets, rfl⟩
  · exact ⟨_, rfl⟩

/-- The anomaly detector does not look at the buckets of the limiter. -/
theorem isDdosAnomaly_fst (s : NtpServer) (rate : AList fun _ : Str => Nat × UInt32)
    (clientIp : Str) (now : SteadyTime) :
    ({ s with connectionRateBuckets := rate }.isDdosAnomaly clientIp now).1
      = (s.isDdosAnomaly clientIp now).1 := by
  show ((if !s.currentConfig.enableDdosProtection then (false, _) else (_, _)) :
    Bool × NtpServer).1 = ((if !s.currentConfig.enableDdosProtection then (false, _) else (_, _)) :
    Bool × NtpServer).1
  split <;> rfl

/-- **The stages of a datagram.** It is dropped, which counts an error and
nothing else; or it gets a connection, whose method decides, and is answered or
refused. Up to there only the rate buckets have changed. -/
theorem processPacketWith_stages {pick : NtpServer → NtpConnection → NtpConfig} {evp : Evp}
    {data : Bytes} {client : SockAddr} {env : PacketEnv} {p : Processed}
    (h : s.processPacketWith pick evp data client env = .ok p) :
    (s.dropsClient client env = true ∧
      ∃ t verdict, SameButBuckets s t ∧ verdict ≠ .answered ∧ p = ⟨t.countError, verdict, none⟩) ∨
    (s.dropsClient client env = false ∧
      ∃ t u, SameButBuckets s t ∧
        t.getOrCreateConnection (inetNtop client.ip) client.port = .ok u ∧
        p = (u.handleOn pick evp (connectionKey (inetNtop client.ip) client.port)
          env.requestTime data).2.finishPacket (u.handleOn pick evp
            (connectionKey (inetNtop client.ip) client.port) env.requestTime data).1 data env) := by
  unfold processPacketWith at h
  unfold dropsClient
  dsimp only at h
  cases hallowed : isClientAllowed s.currentConfig (inetNtop client.ip) with
  | error e =>
    rw [hallowed] at h
    cases h
  | ok allowed =>
    rw [hallowed] at h
    cases allowed with
    | false =>
      cases h
      exact .inl ⟨rfl, s, .aclDenied, ⟨_, _, rfl⟩, by simp, rfl⟩
    | true =>
      obtain ⟨rate, hrate⟩ := isRateLimitExceeded_snd s (inetNtop client.ip) env.rateTime
      dsimp only at h ⊢
      rw [hrate] at h
      cases hexceeded : (s.isRateLimitExceeded (inetNtop client.ip) env.rateTime).1 with
      | true =>
        rw [hexceeded] at h
        cases h
        exact .inl ⟨rfl, _, .rateLimited, ⟨rate, _, rfl⟩, by simp, rfl⟩
      | false =>
        rw [hexceeded, if_neg Bool.false_ne_true] at h
        obtain ⟨second, hsecond⟩ := isDdosAnomaly_snd { s with connectionRateBuckets := rate }
          (inetNtop client.ip) env.ddosTime
        -- the detector judges the server as it was before the limiter counted
        rw [hsecond, isDdosAnomaly_fst] at h
        have hbuckets : SameButBuckets s
            { s with connectionRateBuckets := rate, requestSecondBuckets := second } :=
          ⟨rate, second, rfl⟩
        generalize { s with connectionRateBuckets := rate, requestSecondBuckets := second } = t
          at h hbuckets
        rw [hbuckets.settings.currentConfig] at h
        cases hanomaly : (s.isDdosAnomaly (inetNtop client.ip) env.ddosTime).1
            && s.currentConfig.enableGracefulDegradation with
        | true =>
          rw [if_pos hanomaly] at h
          cases h
          exact .inl ⟨rfl, t, .ddosAnomaly, hbuckets, by simp, rfl⟩
        | false =>
          rw [if_neg (Bool.eq_false_iff.mp hanomaly)] at h
          cases hconn : t.getOrCreateConnection (inetNtop client.ip) client.port with
          | error e =>
            rw [hconn] at h
            cases h
          | ok u =>
            rw [hconn] at h
            cases h
            exact .inr ⟨rfl, t, u, hbuckets, hconn, rfl⟩

/-- **What processing a datagram does to the settings, and where a reply comes
from.** Without a reply the settings stay. A reply is the one built, in a state
with the same settings, for a datagram that is a client's request; then the
settings are those after `applyDynamicStratum`. -/
theorem processPacketWith_cases {pick : NtpServer → NtpConnection → NtpConfig} {evp : Evp}
    {data : Bytes} {client : SockAddr} {env : PacketEnv} {p : Processed}
    (h : s.processPacketWith pick evp data client env = .ok p) :
    (p.verdict ≠ .answered ∧ p.reply = none ∧ SameSettings s p.server) ∨
      ∃ s' packet, SameSettings s s' ∧ clientRequest data = some packet ∧
        p = s'.finishPacket true data env := by
  rcases processPacketWith_stages h with
    ⟨-, t, verdict, hbuckets, hverdict, rfl⟩ | ⟨-, t, u, hbuckets, hconn, rfl⟩
  · exact .inl ⟨hverdict, rfl, hbuckets.settings.trans (countError_same t)⟩
  · have hhandle := (hbuckets.settings.trans (getOrCreateConnection_same hconn)).trans
      (handleOn_same pick evp u (connectionKey (inetNtop client.ip) client.port)
        env.requestTime data)
    have hnone := fun hreq : clientRequest data = none => handleOn_of_none hreq pick evp u
      (connectionKey (inetNtop client.ip) client.port) env.requestTime
    generalize u.handleOn pick evp (connectionKey (inetNtop client.ip) client.port)
      env.requestTime data = handled at hhandle hnone
    obtain ⟨accepted, v⟩ := handled
    -- a connection that accepts has parsed a client's request
    cases accepted with
    | false =>
      exact .inl ⟨by simp [finishPacket], rfl, hhandle.trans
        ((countError_same v).trans (recordTime_same _ env))⟩
    | true =>
      cases hrequest : clientRequest data with
      | none => cases hnone hrequest
      | some packet => exact .inr ⟨v, packet, hhandle, rfl, rfl⟩

/-! ## The reply -/

/-- The packet a reply is made from. Only the settings of the server enter. -/
def replyPacket (s : NtpServer) (request : NtpPacket) (env : PacketEnv) : NtpPacket :=
  applyClockOffset s.upstreamSync (.createServerResponse request s.responseStratum
    (effectiveReferenceId s.currentConfig) env.receiveTime env.transmitTime env.referenceTime)

theorem replyPacket_same (h : SameSettings s s') (request : NtpPacket) (env : PacketEnv) :
    s'.replyPacket request env = s.replyPacket request env := by
  have hstratum : s'.responseStratum = s.responseStratum := by
    unfold responseStratum
    rw [h.upstreamSync, h.currentConfig]
  unfold replyPacket
  rw [h.upstreamSync, h.currentConfig, hstratum]

/-- The stratum of the packet is the one the server answers with. -/
theorem replyPacket_stratum (s : NtpServer) (request : NtpPacket) (env : PacketEnv) :
    (s.replyPacket request env).stratum = s.responseStratum := by
  unfold replyPacket applyClockOffset
  split
  · rfl
  · split <;> rfl

/-- The bytes built for a reply decode to its packet. -/
theorem decode_buildReply (s : NtpServer) (request : NtpPacket) (env : PacketEnv) :
    NtpPacket.decode (s.buildReply request env).1 = s.replyPacket request env := by
  have hsync : s.applyDynamicStratum.upstreamSync = s.upstreamSync := by
    rcases s.applyDynamicStratum_cases with hstay | ⟨-, hraise⟩
    · rw [hstay]
    · rw [hraise]
  have hpacked : (s.replyPacket request env).leapIndicator = 0 ∧
      (s.replyPacket request env).version = ntpVersion ∧
      (s.replyPacket request env).mode = NtpMode.server := by
    unfold replyPacket applyClockOffset
    split
    · exact ⟨rfl, rfl, rfl⟩
    · split <;> exact ⟨rfl, rfl, rfl⟩
  obtain ⟨hli, hv, hm⟩ := hpacked
  have happ := NtpPacket.decode_serializeToData (p := s.replyPacket request env)
    (by rw [hli]; decide) (by rw [hv]; decide) (by rw [hm]; decide) []
  rw [List.append_nil] at happ
  rw [← happ]
  unfold buildReply replyPacket
  dsimp only
  rw [hsync]

/-- **What is handed to `sendto` decodes to the reply packet** of the server as it
was when the datagram came in. -/
theorem decode_reply {pick : NtpServer → NtpConnection → NtpConfig} {evp : Evp} {data : Bytes}
    {client : SockAddr} {env : PacketEnv} {p : Processed} {reply : Bytes}
    (h : s.processPacketWith pick evp data client env = .ok p) (hreply : p.reply = some reply) :
    ∃ request, clientRequest data = some request ∧
      NtpPacket.decode reply = s.replyPacket request env := by
  rcases processPacketWith_cases h with ⟨-, hnone, -⟩ | ⟨t, request, hsame, hreq, rfl⟩
  · rw [hnone] at hreply
    cases hreply
  · rw [(finishPacket_of_request hreq t env).2.1, Option.some_inj] at hreply
    refine ⟨request, hreq, ?_⟩
    rw [← hreply, decode_buildReply, replyPacket_same hsame]

/-! ## Runs -/

section Runs

variable {pick : NtpServer → NtpConnection → NtpConfig} {evp : Evp}

theorem stepWith_packet {data : Bytes} {client : SockAddr} {env : PacketEnv}
    {out : Option (Verdict × Option Bytes)}
    (h : s.stepWith pick evp (.packet data client env) = .ok (s', out)) :
    ∃ p, s.processPacketWith pick evp data client env = .ok p ∧ s' = p.server ∧
      out = some (p.verdict, p.reply) := by
  rw [stepWith] at h
  cases hp : s.processPacketWith pick evp data client env with
  | error e =>
    rw [hp] at h
    cases h
  | ok p =>
    rw [hp] at h
    cases h
    exact ⟨p, rfl, rfl, rfl⟩

/-- A run is a step and a run. -/
theorem runWith_cons {e : Event} {events : List Event}
    {outs : List (Option (Verdict × Option Bytes))}
    (h : s.runWith pick evp (e :: events) = .ok (s', outs)) :
    ∃ t out outs', s.stepWith pick evp e = .ok (t, out) ∧
      t.runWith pick evp events = .ok (s', outs') ∧ outs = out :: outs' := by
  rw [runWith] at h
  cases hstep : s.stepWith pick evp e with
  | error exn =>
    rw [hstep] at h
    cases h
  | ok r =>
    obtain ⟨t, out⟩ := r
    rw [hstep] at h
    dsimp only at h
    cases hrest : t.runWith pick evp events with
    | error exn =>
      rw [hrest] at h
      cases h
    | ok r =>
      obtain ⟨u, outs'⟩ := r
      rw [hrest] at h
      cases h
      exact ⟨t, out, outs', rfl, hrest, rfl⟩

/-- What every event of a run keeps holds in the state reached. -/
theorem runWith_invariant {I : NtpServer → Prop} {events : List Event}
    {outs : List (Option (Verdict × Option Bytes))}
    (hstep : ∀ e ∈ events, ∀ t t' out, I t → t.stepWith pick evp e = .ok (t', out) → I t')
    (h : I s) (hrun : s.runWith pick evp events = .ok (s', outs)) : I s' := by
  induction events generalizing s outs with
  | nil =>
    cases hrun
    exact h
  | cons e events ih =>
    obtain ⟨t, out, outs', hfirst, hrest, -⟩ := runWith_cons hrun
    exact ih (fun e' he' => hstep e' (List.mem_cons_of_mem e he'))
      (hstep e List.mem_cons_self s t out h hfirst) hrest

end Runs

end NtpServer

end SimpleNtpd
