import SimpleNtpd.Core.Clients
import SimpleNtpd.Core.Snapshots
import SimpleNtpd.Core.UpstreamFollow

/-!
# The health of the upstream servers

A round of the sync manager learns which upstream servers answer and does not look at
`healthy_upstreams_`. A server is taken off the list in one place only: where the reply
to a client cannot be sent, failover is enabled, and the server is the one selected for
the reply, although it was not asked anything (`NtpServer.LosesUpstream`).

In two runs that differ in which replies can be sent the counters differ, and with them
the stratum that `applyDynamicStratum` makes of them; nothing else does as long as no
server is taken off (`Alike`). So the list is the same in both, and keeps its servers
(`healthy_unaffected`).
-/

namespace SimpleNtpd

open Cpp Assignments

/-! ## Configurations that are alike -/

/-- The configurations differ in the stratum at most, and where they do both have a
valid one. -/
structure SameButStratum (c c' : NtpConfig) : Prop where
  field : ∀ f, f ≠ Field.stratum → c'.field f = c.field f
  stratum : c'.stratum = c.stratum ∨ c.stratum ≤ 15 ∧ c'.stratum ≤ 15

namespace SameButStratum

variable {c c' c'' : NtpConfig}

theorem refl (c : NtpConfig) : SameButStratum c c := ⟨fun _ _ => rfl, .inl rfl⟩

theorem symm (h : SameButStratum c c') : SameButStratum c' c :=
  ⟨fun f hf => (h.field f hf).symm, h.stratum.imp Eq.symm And.symm⟩

theorem trans (h : SameButStratum c c') (h' : SameButStratum c' c'') : SameButStratum c c'' where
  field f hf := (h'.field f hf).trans (h.field f hf)
  stratum := by
    rcases h.stratum, h'.stratum with ⟨heq | ⟨hle, hle'⟩, heq' | ⟨hle₂, hle''⟩⟩
    · exact .inl (heq'.trans heq)
    · exact .inr ⟨heq ▸ hle₂, hle''⟩
    · exact .inr ⟨hle, heq' ▸ hle'⟩
    · exact .inr ⟨hle, hle''⟩

theorem eq_with (h : SameButStratum c c') : c' = { c with stratum := c'.stratum } := by
  refine NtpConfig.field_injective (funext fun f => ?_)
  by_cases hf : f = .stratum
  · subst hf
    rfl
  · rw [h.field f hf]
    cases f <;> first | rfl | exact absurd rfl hf

/-- What does not look at the stratum finds the same. -/
theorem read {α : Type} (h : SameButStratum c c') {f : NtpConfig → α}
    (hf : ∀ n, f { c with stratum := n } = f c) : f c' = f c :=
  (congrArg f h.eq_with).trans (hf _)

theorem storeAll (h : SameButStratum c c') (as : List Assignment) :
    SameButStratum (configFields.storeAll c as) (configFields.storeAll c' as) where
  field f hf := by
    show configFields.get _ f = configFields.get _ f
    rw [configFields.get_storeAll, configFields.get_storeAll]
    exact congrArg _ (h.field f hf)
  stratum := by
    have hget : ∀ c : NtpConfig, (configFields.storeAll c as).stratum
        = (last Field.stratum as).getD c.stratum := fun c => configFields.get_storeAll c as .stratum
    rw [hget, hget]
    cases last Field.stratum as with
    | none => exact h.stratum
    | some n => exact .inl rfl

/-- The validator rejects both or neither. -/
theorem validate (h : SameButStratum c c') : c'.validate = c.validate := by
  have hrange : decide (c'.stratum > 15) = decide (c.stratum > 15) := by
    rcases h.stratum with heq | ⟨hle, hle'⟩
    · rw [heq]
    · rw [decide_eq_false (UInt8.not_lt.mpr hle), decide_eq_false (UInt8.not_lt.mpr hle')]
  have hrejections : c'.rejections = c.rejections := by
    rw [h.eq_with]
    unfold NtpConfig.rejections
    dsimp only
    rw [hrange]
  unfold NtpConfig.validate NtpConfig.validateDetailed
  rw [hrejections]

end SameButStratum

/-! ## Servers that are alike -/

/-- The servers differ in the statistics and the strata at most. -/
structure Alike (s t : NtpServer) : Prop where
  configs : ∀ ref, SameButStratum (s.configs ref) (t.configs ref)
  rest : ∃ configs stats, t = { s with configs := configs, stats := stats }

namespace Alike

variable {s t u : NtpServer}

theorem refl (s : NtpServer) : Alike s s := ⟨fun _ => .refl _, _, _, rfl⟩

theorem symm (h : Alike s t) : Alike t s := by
  obtain ⟨hconfigs, _, _, rfl⟩ := h
  exact ⟨fun ref => (hconfigs ref).symm, s.configs, s.stats, rfl⟩

theorem trans (h : Alike s t) (h' : Alike t u) : Alike s u := by
  obtain ⟨hconfigs, _, _, rfl⟩ := h
  obtain ⟨hconfigs', _, _, rfl⟩ := h'
  exact ⟨fun ref => (hconfigs ref).trans (hconfigs' ref), _, _, rfl⟩

/-- Statistics do not matter. -/
theorem of_stats (s : NtpServer) (stats : NtpServerStats) : Alike s { s with stats := stats } :=
  ⟨fun _ => .refl _, _, _, rfl⟩

theorem current (h : Alike s t) : SameButStratum s.currentConfig t.currentConfig := by
  obtain ⟨hconfigs, _, _, rfl⟩ := h
  exact hconfigs s.config

theorem healthy (h : Alike s t) : t.healthyUpstreams = s.healthyUpstreams := by
  obtain ⟨-, _, _, rfl⟩ := h
  rfl

/-- A stratum that is raised leaves the server alike. -/
theorem applyDynamicStratum (s : NtpServer) : Alike s s.applyDynamicStratum := by
  rcases s.applyDynamicStratum_cases with hstay | ⟨hlt, hraise⟩
  · rw [hstay]
    exact .refl s
  · rw [hraise]
    refine ⟨fun ref => ?_, _, s.stats, rfl⟩
    dsimp only
    by_cases href : ref = s.config
    · rw [href, Function.update_self]
      refine ⟨fun f hf => ?_, .inr ⟨?_, ?_⟩⟩
      · cases f <;> first | rfl | exact absurd rfl hf
      · exact UInt8.le_of_lt hlt
      · exact NtpServer.stratum_succ_le hlt
    · rw [Function.update_of_ne href]
      exact .refl _

/-! ### Each step of a datagram -/

theorem isClientAllowed (h : Alike s t) (clientIp : Str) :
    SimpleNtpd.isClientAllowed t.currentConfig clientIp
      = SimpleNtpd.isClientAllowed s.currentConfig clientIp :=
  h.current.read (f := fun c => SimpleNtpd.isClientAllowed c clientIp) fun _ => rfl

theorem isRateLimitExceeded (h : Alike s t) (clientIp : Str) (now : SteadyTime) :
    (t.isRateLimitExceeded clientIp now).1 = (s.isRateLimitExceeded clientIp now).1 ∧
      Alike (s.isRateLimitExceeded clientIp now).2 (t.isRateLimitExceeded clientIp now).2 := by
  have henabled : t.currentConfig.enableRateLimiting = s.currentConfig.enableRateLimiting :=
    h.current.field .enableRateLimiting nofun
  have hlimit : t.currentConfig.connectionRateLimitPerMinute
      = s.currentConfig.connectionRateLimitPerMinute :=
    h.current.field .connectionRateLimitPerMinute nofun
  unfold NtpServer.isRateLimitExceeded
  rw [henabled, hlimit]
  obtain ⟨hconfigs, _, _, rfl⟩ := h
  split <;> exact ⟨rfl, hconfigs, _, _, rfl⟩

theorem isDdosAnomaly (h : Alike s t) (clientIp : Str) (now : SteadyTime) :
    (t.isDdosAnomaly clientIp now).1 = (s.isDdosAnomaly clientIp now).1 ∧
      Alike (s.isDdosAnomaly clientIp now).2 (t.isDdosAnomaly clientIp now).2 := by
  have henabled : t.currentConfig.enableDdosProtection = s.currentConfig.enableDdosProtection :=
    h.current.field .enableDdosProtection nofun
  have hlimit : t.currentConfig.ddosAnomalyThresholdPerSecond
      = s.currentConfig.ddosAnomalyThresholdPerSecond :=
    h.current.field .ddosAnomalyThresholdPerSecond nofun
  unfold NtpServer.isDdosAnomaly
  rw [henabled, hlimit]
  obtain ⟨hconfigs, _, _, rfl⟩ := h
  split <;> exact ⟨rfl, hconfigs, _, _, rfl⟩

/-- The connection reads its configuration, but not the stratum. -/
theorem handleOn (h : Alike s t) (evp : Evp) (clientKey : Str) (now : SteadyTime) (data : Bytes) :
    (t.handleOn NtpServer.captured evp clientKey now data).1
        = (s.handleOn NtpServer.captured evp clientKey now data).1 ∧
      Alike (s.handleOn NtpServer.captured evp clientKey now data).2
        (t.handleOn NtpServer.captured evp clientKey now data).2 := by
  obtain ⟨hconfigs, configs, _, rfl⟩ := h
  unfold NtpServer.handleOn NtpServer.onConnection
  dsimp only
  cases s.activeConnections.lookup clientKey with
  | none => exact ⟨rfl, hconfigs, _, _, rfl⟩
  | some conn =>
    have hhandle : conn.handlePacket evp (configs conn.config) now data
        = conn.handlePacket evp (s.configs conn.config) now data :=
      (hconfigs conn.config).read (f := fun c => conn.handlePacket evp c now data) fun _ => rfl
    unfold NtpServer.captured
    dsimp only
    rw [hhandle]
    exact ⟨rfl, hconfigs, _, _, rfl⟩

/-- The choice of an upstream server. -/
theorem selectUpstreamServer (h : Alike s t) (randomIndex : Nat) :
    (t.selectUpstreamServer randomIndex).1 = (s.selectUpstreamServer randomIndex).1 ∧
      Alike (s.selectUpstreamServer randomIndex).2 (t.selectUpstreamServer randomIndex).2 := by
  have hservers : t.currentConfig.upstreamServers = s.currentConfig.upstreamServers :=
    h.current.field .upstreamServers nofun
  have halgorithm : t.currentConfig.upstreamSelectionAlgorithm
      = s.currentConfig.upstreamSelectionAlgorithm :=
    h.current.field .upstreamSelectionAlgorithm nofun
  unfold NtpServer.selectUpstreamServer
  dsimp only
  rw [hservers, halgorithm]
  obtain ⟨hconfigs, _, _, rfl⟩ := h
  dsimp only
  generalize (if s.healthyUpstreams.isEmpty then s.currentConfig.upstreamServers
    else s.healthyUpstreams) = healthy
  split
  · exact ⟨rfl, hconfigs, _, _, rfl⟩
  · split
    · exact ⟨rfl, hconfigs, _, _, rfl⟩
    · split <;> exact ⟨rfl, hconfigs, _, _, rfl⟩

theorem getOrCreateConnection (h : Alike s t) (clientIp : Str) (clientPort : UInt16) :
    Runs.Both Alike (s.getOrCreateConnection clientIp clientPort)
      (t.getOrCreateConnection clientIp clientPort) := by
  rw [NtpServer.getOrCreateConnection_eq, NtpServer.getOrCreateConnection_eq, h.isClientAllowed]
  obtain ⟨hconfigs, configs, stats, rfl⟩ := h
  dsimp only
  split
  · exact ⟨hconfigs, _, _, rfl⟩
  · cases SimpleNtpd.isClientAllowed s.currentConfig clientIp with
    | error e => rfl
    | ok trusted => exact ⟨hconfigs, _, _, rfl⟩

theorem eraseConnection (h : Alike s t) (clientKey : Str) :
    Alike (s.eraseConnection clientKey) (t.eraseConnection clientKey) := by
  obtain ⟨hconfigs, _, _, rfl⟩ := h
  exact ⟨hconfigs, _, _, rfl⟩

theorem cleanupConnections (h : Alike s t) :
    Alike s.cleanupConnections t.cleanupConnections := by
  have hentries : t.activeConnections = s.activeConnections := by
    obtain ⟨-, _, _, rfl⟩ := h
    rfl
  unfold NtpServer.cleanupConnections
  dsimp only
  rw [hentries]
  generalize s.activeConnections.entries.filter (fun entry => !entry.2.active) = inactive
  induction inactive generalizing s t with
  | nil => exact h
  | cons entry inactive ih =>
    have herased := h.eraseConnection entry.1
    refine ih herased ?_
    obtain ⟨-, _, _, rfl⟩ := h
    rfl

theorem syncOnce (h : Alike s t) (world : Nat → QueryEnv) (now : Int) :
    Alike (s.syncOnce world now) (t.syncOnce world now) := by
  have hqueried : (t.configs t.syncConfig).upstreamServers
      = (s.configs s.syncConfig).upstreamServers := by
    obtain ⟨hconfigs, _, _, rfl⟩ := h
    exact (hconfigs s.syncConfig).field .upstreamServers nofun
  unfold NtpServer.syncOnce
  rw [hqueried]
  obtain ⟨hconfigs, _, _, rfl⟩ := h
  exact ⟨hconfigs, _, _, rfl⟩

/-! ### A reload -/

theorem reloaded (h : Alike s t) (getenv : Str → Option Str) (content : Str) :
    SameButStratum (Daemon.reloaded s getenv content) (Daemon.reloaded t getenv content) := by
  have hpath : t.currentConfig.lastConfigFile = s.currentConfig.lastConfigFile :=
    h.current.field .lastConfigFile nofun
  unfold Daemon.reloaded
  rw [hpath]
  exact h.current.storeAll _

theorem putInForce (h : Alike s t) {c c' : NtpConfig} (hc : SameButStratum c c') :
    Alike (Daemon.putInForce s c) (Daemon.putInForce t c') := by
  have hlogger : NtpServer.loggerSettings c' = NtpServer.loggerSettings c :=
    hc.read fun _ => rfl
  obtain ⟨hconfigs, configs, stats, rfl⟩ := h
  refine ⟨fun ref => ?_, Function.update configs s.nextConfig c', stats, ?_⟩
  · show SameButStratum (Function.update s.configs s.nextConfig c ref)
      (Function.update configs s.nextConfig c' ref)
    by_cases href : ref = s.nextConfig
    · rw [href, Function.update_self, Function.update_self]
      exact hc
    · rw [Function.update_of_ne href, Function.update_of_ne href]
      exact hconfigs ref
  · unfold Daemon.putInForce
    rw [hlogger]

/-- A reload that is accepted is accepted over a configuration that is alike. -/
theorem reload_accepted (h : Alike s t) {getenv : Str → Option Str} {content : Str}
    (hpath : s.currentConfig.lastConfigFile ≠ [])
    (hvalid : (Daemon.reloaded s getenv content).validate = true) :
    t.reloadConfig getenv (some content)
      = (true, Daemon.putInForce t (Daemon.reloaded t getenv content)) := by
  refine Daemon.reloadConfig_of_valid ?_ ((h.reloaded getenv content).validate.trans hvalid)
  have hsame : t.currentConfig.lastConfigFile = s.currentConfig.lastConfigFile :=
    h.current.field .lastConfigFile nofun
  rwa [hsame]

/-- A reload reads the same file over configurations that are alike. -/
theorem reloadConfig (h : Alike s t) (getenv : Str → Option Str) (file : Option Str) :
    Alike (s.reloadConfig getenv file).2 (t.reloadConfig getenv file).2 := by
  rcases Daemon.reloadConfig_cases s getenv file with
    hstay | ⟨content, rfl, hpath, hvalid, hload⟩
  · rcases Daemon.reloadConfig_cases t getenv file with
      hstay' | ⟨content, rfl, hpath, hvalid, -⟩
    · rw [hstay, hstay']
      exact h
    · rw [h.symm.reload_accepted hpath hvalid] at hstay
      cases hstay
  · rw [hload, h.reload_accepted hpath hvalid]
    exact h.putInForce (h.reloaded getenv content)

end Alike

/-! ## A datagram -/

namespace NtpServer

variable {evp : Evp} {s t u : NtpServer} {data : Bytes} {client : SockAddr} {env : PacketEnv}

/-- What comes before the reply: the verdict on a datagram that is dropped, or whether the
connection accepts it (server.cpp:435–475). -/
def screen (evp : Evp) (s : NtpServer) (data : Bytes) (client : SockAddr) (env : PacketEnv) :
    Except Exn ((Verdict ⊕ Bool) × NtpServer) :=
  (isClientAllowed s.currentConfig (inetNtop client.ip)).bind fun allowed =>
    if !allowed then .ok (.inl .aclDenied, s)
    else
      let rate := s.isRateLimitExceeded (inetNtop client.ip) env.rateTime
      if rate.1 then .ok (.inl .rateLimited, rate.2)
      else
        let ddos := rate.2.isDdosAnomaly (inetNtop client.ip) env.ddosTime
        if ddos.1 && ddos.2.currentConfig.enableGracefulDegradation then
          .ok (.inl .ddosAnomaly, ddos.2)
        else (ddos.2.getOrCreateConnection (inetNtop client.ip) client.port).map fun s =>
          let handled := s.handleOn captured evp (connectionKey (inetNtop client.ip) client.port)
            env.requestTime data
          (.inr handled.1, handled.2)

/-- What follows. -/
def settle (data : Bytes) (env : PacketEnv) : (Verdict ⊕ Bool) × NtpServer → Processed
  | (.inl verdict, s) => ⟨s.countError, verdict, none⟩
  | (.inr accepted, s) => s.finishPacket accepted data env

theorem processPacket_eq_settle (evp : Evp) (s : NtpServer) (data : Bytes) (client : SockAddr)
    (env : PacketEnv) :
    s.processPacket evp data client env = (s.screen evp data client env).map (settle data env) := by
  rw [processPacket, processPacketWith_eq]
  unfold screen
  cases isClientAllowed s.currentConfig (inetNtop client.ip) with
  | error e => rfl
  | ok allowed =>
    cases allowed with
    | false => rfl
    | true =>
      show (if _ then _ else if _ then _ else _) = Except.map _ (if _ then _ else if _ then _ else _)
      rw [apply_ite (Except.map _), apply_ite (Except.map _)]
      refine if_congr Iff.rfl rfl (if_congr Iff.rfl rfl ?_)
      unfold serveWith
      cases getOrCreateConnection _ (inetNtop client.ip) client.port <;> rfl

/-- The admission does not touch what an upstream server is selected by. -/
structure SameSelection (s t : NtpServer) : Prop where
  current : t.currentConfig = s.currentConfig
  healthy : t.healthyUpstreams = s.healthyUpstreams
  index : t.upstreamRrIndex = s.upstreamRrIndex

theorem SameSelection.trans (h : SameSelection s t) (h' : SameSelection t u) :
    SameSelection s u :=
  ⟨h'.current.trans h.current, h'.healthy.trans h.healthy, h'.index.trans h.index⟩

theorem SameSelection.selected (h : SameSelection s t) (randomIndex : Nat) :
    (t.selectUpstreamServer randomIndex).1 = (s.selectUpstreamServer randomIndex).1 ∧
      (t.selectUpstreamServer randomIndex).2.healthyUpstreams
        = (s.selectUpstreamServer randomIndex).2.healthyUpstreams := by
  unfold selectUpstreamServer
  dsimp only
  rw [h.current, h.healthy, h.index]
  generalize (if s.healthyUpstreams.isEmpty then s.currentConfig.upstreamServers
    else s.healthyUpstreams) = healthy
  split
  · exact ⟨rfl, h.healthy⟩
  · split
    · exact ⟨rfl, rfl⟩
    · split <;> exact ⟨rfl, rfl⟩

theorem screen_sameSelection {a : (Verdict ⊕ Bool) × NtpServer}
    (h : s.screen evp data client env = .ok a) :
    SameSelection s a.2 ∧ a.1 ≠ .inl .answered := by
  have hrate : SameSelection s (s.isRateLimitExceeded (inetNtop client.ip) env.rateTime).2 := by
    obtain ⟨rate, heq⟩ := isRateLimitExceeded_snd s (inetNtop client.ip) env.rateTime
    rw [heq]
    exact ⟨rfl, rfl, rfl⟩
  have hddos (t : NtpServer) :
      SameSelection t (t.isDdosAnomaly (inetNtop client.ip) env.ddosTime).2 := by
    obtain ⟨second, heq⟩ := isDdosAnomaly_snd t (inetNtop client.ip) env.ddosTime
    rw [heq]
    exact ⟨rfl, rfl, rfl⟩
  have hmade (t u : NtpServer)
      (h : t.getOrCreateConnection (inetNtop client.ip) client.port = .ok u) :
      SameSelection t u := by
    rcases getOrCreateConnection_cases h with ⟨rfl, -⟩ | ⟨-, trusted, -, rfl⟩ <;>
      exact ⟨rfl, rfl, rfl⟩
  have hhandled (t : NtpServer) : SameSelection t (t.handleOn captured evp
      (connectionKey (inetNtop client.ip) client.port) env.requestTime data).2 := by
    unfold handleOn onConnection
    split <;> exact ⟨rfl, rfl, rfl⟩
  unfold screen at h
  cases hallowed : isClientAllowed s.currentConfig (inetNtop client.ip) with
  | error e =>
    rw [hallowed] at h
    cases h
  | ok allowed =>
    rw [hallowed] at h
    dsimp only [Except.bind] at h
    split at h
    · cases h
      exact ⟨⟨rfl, rfl, rfl⟩, nofun⟩
    · split at h
      · cases h
        exact ⟨hrate, nofun⟩
      · split at h
        · cases h
          exact ⟨hrate.trans (hddos _), nofun⟩
        · cases hv : getOrCreateConnection _ (inetNtop client.ip) client.port with
          | error e =>
            rw [hv] at h
            cases h
          | ok v =>
            rw [hv] at h
            cases h
            exact ⟨((hrate.trans (hddos _)).trans (hmade _ v hv)).trans (hhandled v), nofun⟩

/-- Admission takes the same decisions on servers that are alike. -/
theorem screen_alike (h : Alike s t) (evp : Evp) (data : Bytes)
    (client : SockAddr) (env : PacketEnv) :
    Runs.Both (fun a b => b.1 = a.1 ∧ Alike a.2 b.2) (s.screen evp data client env)
      (t.screen evp data client env) := by
  unfold screen
  rw [h.isClientAllowed]
  refine (Runs.Both.refl (R := Eq) (fun _ => rfl) _).bind ?_
  rintro allowed _ rfl
  obtain ⟨hexceeded, hcounted⟩ := h.isRateLimitExceeded (inetNtop client.ip) env.rateTime
  obtain ⟨hanomaly, hscreened⟩ := hcounted.isDdosAnomaly (inetNtop client.ip) env.ddosTime
  have hdegraded := hscreened.current.read (f := fun c => c.enableGracefulDegradation) fun _ => rfl
  dsimp only at hdegraded ⊢
  rw [hexceeded, hanomaly, hdegraded]
  refine .ite ⟨rfl, h⟩ (.ite ⟨rfl, hcounted⟩ (.ite ⟨rfl, hscreened⟩ ?_))
  refine (hscreened.getOrCreateConnection (inetNtop client.ip) client.port).map fun u v _ _ huv => ?_
  obtain ⟨haccepted, hhandled⟩ := huv.handleOn evp
    (connectionKey (inetNtop client.ip) client.port) env.requestTime data
  exact ⟨congrArg Sum.inr haccepted, hhandled⟩

/-- The reply to the datagram cannot be sent, while failover is enabled and an upstream
server has been selected for it. -/
def LosesUpstream (s : NtpServer) (env : PacketEnv) (verdict : Verdict) : Prop :=
  verdict = .answered ∧ env.sendOk = false ∧ s.currentConfig.enableUpstreamFailover = true ∧
    (s.selectUpstreamServer env.randomIndex).1 ≠ []

theorem SameSelection.losesUpstream_iff (h : SameSelection s t) (verdict : Verdict) :
    t.LosesUpstream env verdict ↔ s.LosesUpstream env verdict := by
  unfold LosesUpstream
  rw [h.current, (h.selected env.randomIndex).1]

/-- What a datagram does but for the statistics and the stratum: a server is selected for
its reply. -/
def attributed (u : NtpServer) (env : PacketEnv) (verdict : Verdict) : NtpServer :=
  if verdict = .answered then (u.selectUpstreamServer env.randomIndex).2 else u

theorem attributed_alike (h : Alike s t) (env : PacketEnv) (verdict : Verdict) :
    Alike (s.attributed env verdict) (t.attributed env verdict) := by
  unfold attributed
  split
  · exact (h.selectUpstreamServer env.randomIndex).2
  · exact h

/-- What a failed send looks at is what the datagram found. -/
theorem buildReply_selected (u : NtpServer) (request : NtpPacket) (env : PacketEnv) :
    (u.buildReply request env).2.1 = (u.selectUpstreamServer env.randomIndex).1 ∧
      (u.buildReply request env).2.2.healthyUpstreams
        = (u.selectUpstreamServer env.randomIndex).2.healthyUpstreams ∧
      (u.buildReply request env).2.2.countError.currentConfig.enableUpstreamFailover
        = u.currentConfig.enableUpstreamFailover := by
  obtain ⟨hselected, hselect⟩ := (Alike.applyDynamicStratum u).selectUpstreamServer env.randomIndex
  refine ⟨hselected, hselect.healthy, ?_⟩
  rw [← (selectUpstreamServer_same u env.randomIndex).currentConfig]
  exact hselect.current.field .enableUpstreamFailover nofun

/-- A failed send takes nothing off the list where no upstream server is lost. -/
theorem recordSendFailure_kept (u : NtpServer) (request : NtpPacket)
    (hkept : ¬(u.currentConfig.enableUpstreamFailover = true ∧
      (u.selectUpstreamServer env.randomIndex).1 ≠ [])) :
    (u.buildReply request env).2.2.recordSendFailure (u.buildReply request env).2.1
      = (u.buildReply request env).2.2.countError := by
  obtain ⟨hname, -, hfailover⟩ := u.buildReply_selected request env
  unfold recordSendFailure
  dsimp only
  rw [hfailover, hname, if_neg]
  intro hlost
  obtain ⟨hon, hnamed⟩ := Bool.and_eq_true_iff.mp hlost
  refine hkept ⟨hon, fun hnil => ?_⟩
  rw [hnil] at hnamed
  cases hnamed

/-- A send that fails takes the server selected off the healthy ones, where failover is
enabled and there is one. -/
theorem recordSendFailure_lost (u : NtpServer) (request : NtpPacket)
    (hon : u.currentConfig.enableUpstreamFailover = true)
    (hnamed : (u.selectUpstreamServer env.randomIndex).1 ≠ []) :
    ((u.buildReply request env).2.2.recordSendFailure
        (u.buildReply request env).2.1).healthyUpstreams
      = (u.selectUpstreamServer env.randomIndex).2.healthyUpstreams.erase
        (u.selectUpstreamServer env.randomIndex).1 := by
  obtain ⟨hname, hhealthy, hfailover⟩ := u.buildReply_selected request env
  unfold recordSendFailure
  dsimp only
  rw [hfailover, hname, hon, if_pos, ← hhealthy]
  · rfl
  · rw [Bool.true_and, Bool.not_eq_true']
    exact List.isEmpty_eq_false_iff.mpr hnamed

/-- Where no upstream server is lost, the datagram leaves the server like one that only
selects for it. -/
theorem finishPacket_attributed (u : NtpServer) (accepted : Bool) (data : Bytes) (env : PacketEnv)
    (hkept : ¬u.LosesUpstream env (u.finishPacket accepted data env).verdict) :
    Alike (u.attributed env (u.finishPacket accepted data env).verdict)
      (u.finishPacket accepted data env).server := by
  have hselect := ((Alike.applyDynamicStratum u).selectUpstreamServer env.randomIndex).2
  unfold finishPacket at hkept ⊢
  cases accepted with
  | false => exact .of_stats u _
  | true =>
    simp only [if_true] at hkept ⊢
    generalize NtpPacket.new.parseFromData data = parse at hkept ⊢
    obtain ⟨parsed, request⟩ := parse
    cases parsed with
    | false => exact .of_stats u _
    | true =>
      dsimp only at hkept ⊢
      cases hsend : env.sendOk with
      | true => exact hselect.trans (.of_stats _ _)
      | false =>
        rw [hsend] at hkept
        rw [if_neg Bool.false_ne_true]
        dsimp only
        rw [recordSendFailure_kept u request fun hlost => hkept ⟨rfl, hsend, hlost⟩]
        exact hselect.trans (.of_stats _ _)

/-- Where a datagram loses no upstream server, it leaves the screened server like one that
only selects for it. -/
theorem processPacket_attributed {p : Processed}
    (h : s.processPacket evp data client env = .ok p) (hkept : ¬s.LosesUpstream env p.verdict) :
    ∃ a, s.screen evp data client env = .ok a ∧
      Alike (a.2.attributed env p.verdict) p.server := by
  rw [processPacket_eq_settle] at h
  cases hscreen : s.screen evp data client env with
  | error e =>
    rw [hscreen] at h
    cases h
  | ok a =>
    rw [hscreen] at h
    cases h
    refine ⟨a, rfl, ?_⟩
    obtain ⟨hsame, hdropped⟩ := screen_sameSelection hscreen
    rw [← hsame.losesUpstream_iff] at hkept
    obtain ⟨verdict | accepted, u⟩ := a
    · show Alike (u.attributed env verdict) u.countError
      rw [attributed, if_neg fun hanswered => hdropped (congrArg Sum.inl hanswered)]
      exact .of_stats u _
    · exact finishPacket_attributed u accepted data env hkept

/-- **A reply that cannot be sent takes a server off the list**: the one selected for it. -/
theorem processPacket_loses {p : Processed} (h : s.processPacket evp data client env = .ok p)
    (hlost : s.LosesUpstream env p.verdict) :
    (s.selectUpstreamServer env.randomIndex).1 ∈ s.candidates ∧
      p.server.healthyUpstreams = s.candidates.erase (s.selectUpstreamServer env.randomIndex).1 := by
  obtain ⟨hanswered, hsend, hon, hnamed⟩ := hlost
  have hchosen : (s.selectUpstreamServer env.randomIndex).1 ∈ s.candidates ∧
      (s.selectUpstreamServer env.randomIndex).2.healthyUpstreams = s.candidates := by
    rcases s.selectUpstreamServer_cases env.randomIndex with ⟨-, hnone⟩ | ⟨-, hchosen⟩
    · rw [hnone] at hnamed
      exact absurd rfl hnamed
    · exact hchosen
  refine ⟨hchosen.1, ?_⟩
  rw [processPacket_eq_settle] at h
  cases hscreen : s.screen evp data client env with
  | error e =>
    rw [hscreen] at h
    cases h
  | ok a =>
    rw [hscreen] at h
    cases h
    obtain ⟨hsame, hdropped⟩ := screen_sameSelection hscreen
    obtain ⟨verdict | accepted, u⟩ := a
    · exact absurd (congrArg Sum.inl hanswered) hdropped
    · obtain ⟨hselected, hhealthy⟩ := hsame.selected env.randomIndex
      rw [← hchosen.2, ← hhealthy, ← hselected]
      rw [← hselected] at hnamed
      rw [← hsame.current] at hon
      change (u.finishPacket accepted data env).verdict = .answered at hanswered
      show (u.finishPacket accepted data env).server.healthyUpstreams = _
      unfold finishPacket at hanswered ⊢
      cases accepted with
      | false => cases hanswered
      | true =>
        simp only [if_true, hsend, Bool.false_eq_true, if_false] at hanswered ⊢
        generalize NtpPacket.new.parseFromData data = parse at hanswered ⊢
        obtain ⟨parsed, request⟩ := parse
        cases parsed with
        | false => cases hanswered
        | true => exact recordSendFailure_lost u request hon hnamed

/-- Whether the reply can be sent does not decide on the datagram. -/
theorem settle_verdict (data : Bytes) (env : PacketEnv) (sendOk : Bool)
    {a b : (Verdict ⊕ Bool) × NtpServer} (h : b.1 = a.1) :
    (settle data { env with sendOk := sendOk } b).verdict = (settle data env a).verdict := by
  obtain ⟨first, u⟩ := a
  obtain ⟨_, v⟩ := b
  cases h
  cases first with
  | inl verdict => rfl
  | inr accepted =>
    show (v.finishPacket _ _ _).verdict = (u.finishPacket _ _ _).verdict
    rw [(finishPacket_verdict _ _ _ _).1, (finishPacket_verdict _ _ _ _).1]

/-- **A datagram in two runs**, whose reply may be sent in one and not in the other. -/
theorem processPacket_alike (h : Alike s t) (evp : Evp) (data : Bytes) (client : SockAddr)
    (env : PacketEnv) (sendOk : Bool) :
    Runs.Both (fun p q => ¬s.LosesUpstream env p.verdict →
        ¬t.LosesUpstream { env with sendOk := sendOk } q.verdict → Alike p.server q.server)
      (s.processPacket evp data client env)
      (t.processPacket evp data client { env with sendOk := sendOk }) := by
  rw [processPacket_eq_settle, processPacket_eq_settle]
  refine (screen_alike h evp data client env).map fun a b ha hb hab hkept hkept' => ?_
  have hs : s.processPacket evp data client env = .ok (settle data env a) := by
    rw [processPacket_eq_settle, ha]
    rfl
  have ht : t.processPacket evp data client { env with sendOk := sendOk }
      = .ok (settle data { env with sendOk := sendOk } b) := by
    rw [processPacket_eq_settle]
    exact congrArg (Except.map _) hb
  obtain ⟨_, ha', hleft⟩ := processPacket_attributed hs hkept
  obtain ⟨_, hb', hright⟩ := processPacket_attributed ht hkept'
  cases ha.symm.trans ha'
  cases hb.symm.trans hb'
  rw [settle_verdict data env sendOk hab.1] at hright
  exact hleft.symm.trans ((attributed_alike hab.2 env _).trans hright)

/-- Where it loses none, a datagram keeps every upstream server. -/
theorem processPacket_keeps_healthy {p : Processed}
    (h : s.processPacket evp data client env = .ok p) (hkept : ¬s.LosesUpstream env p.verdict) :
    ∀ host ∈ s.healthyUpstreams, host ∈ p.server.healthyUpstreams := by
  obtain ⟨a, hscreen, halike⟩ := processPacket_attributed h hkept
  rw [halike.healthy, ← (screen_sameSelection hscreen).1.healthy]
  intro host hhost
  unfold attributed
  split
  · rcases a.2.selectUpstreamServer_cases env.randomIndex with ⟨-, hnone⟩ | ⟨-, -, hhealthy⟩
    · rwa [hnone]
    · rw [hhealthy, candidates, if_neg]
      · exact hhost
      · intro hempty
        rw [List.isEmpty_iff.mp hempty] at hhost
        cases hhost
  · exact hhost

end NtpServer

/-! ## Lives -/

namespace Daemon

variable {evp : Evp} {d d' : Daemon}

/-- The daemons differ in the statistics and the strata at most. -/
structure AlikeDaemons (d d' : Daemon) : Prop where
  server : Alike d.server d'.server
  running : d'.running = d.running
  serverAddress : d'.serverAddress = d.serverAddress

theorem startUpstreams_alike {s t : NtpServer} (h : Alike s t) :
    Alike (startUpstreams s) (startUpstreams t) := by
  have hservers : t.currentConfig.upstreamServers = s.currentConfig.upstreamServers :=
    h.current.field .upstreamServers nofun
  have hstart (s : NtpServer) : startUpstreams s =
      if s.currentConfig.upstreamServers.isEmpty then
        { s with healthyUpstreams := s.currentConfig.upstreamServers }
      else { s with
        healthyUpstreams := s.currentConfig.upstreamServers
        upstreamSync := some {}
        syncConfig := s.config } := rfl
  rw [hstart, hstart, hservers]
  obtain ⟨hconfigs, _, _, rfl⟩ := h
  split <;> exact ⟨hconfigs, _, _, rfl⟩

namespace AlikeDaemons

theorem start (h : AlikeDaemons d d') (env : StartEnv) :
    AlikeDaemons (d.start env).2 (d'.start env).2 := by
  have hfiles : secureFilesMissing d'.currentConfig = secureFilesMissing d.currentConfig :=
    h.server.current.read (f := secureFilesMissing) fun _ => rfl
  unfold Daemon.start bindSocket
  rw [h.running, hfiles, h.serverAddress]
  split
  · exact h
  · split
    · exact h
    · split
      · exact h
      · split
        · exact h
        · exact ⟨startUpstreams_alike h.server, rfl, rfl⟩

theorem stop (h : AlikeDaemons d d') : AlikeDaemons d.stop d'.stop := by
  unfold Daemon.stop
  rw [h.running]
  split
  · exact h
  · refine ⟨Alike.cleanupConnections ?_, rfl, h.serverAddress⟩
    obtain ⟨hconfigs, configs, stats, hrest⟩ := h.server
    exact ⟨hconfigs, configs, stats, by rw [hrest]⟩

end AlikeDaemons

/-- The events differ in whether the reply to a datagram can be sent, at most. -/
inductive SameButSend : Step → Step → Prop
  | refl (e : Step) : SameButSend e e
  | packet (data : Bytes) (client : SockAddr) (env : PacketEnv) (sendOk : Bool) :
    SameButSend (.serve (.packet data client env))
      (.serve (.packet data client { env with sendOk := sendOk }))

/-- The event is a datagram whose reply loses an upstream server. -/
def LosesUpstream (evp : Evp) (d : Daemon) : Step → Prop
  | .serve (.packet data client env) => ∃ p,
    d.server.processPacket evp data client env = .ok p ∧ d.server.LosesUpstream env p.verdict
  | _ => False

/-- **One event in two lives.** -/
theorem step_alike (evp : Evp) (h : AlikeDaemons d d') {e e' : Step} (he : SameButSend e e') :
    Runs.Both (fun t t' => ¬d.LosesUpstream evp e → ¬d'.LosesUpstream evp e' → AlikeDaemons t t')
      (step evp d e) (step evp d' e') := by
  have hserved {t t' : NtpServer} (ht : Alike t t') :
      AlikeDaemons { d with server := t } { d' with server := t' } :=
    ⟨ht, h.running, h.serverAddress⟩
  have hpacket (data : Bytes) (client : SockAddr) (env : PacketEnv) (sendOk : Bool) :
      Runs.Both (fun t t' => ¬d.LosesUpstream evp (.serve (.packet data client env)) →
          ¬d'.LosesUpstream evp (.serve (.packet data client { env with sendOk := sendOk })) →
          AlikeDaemons t t') (step evp d (.serve (.packet data client env)))
        (step evp d' (.serve (.packet data client { env with sendOk := sendOk }))) := by
    rw [step_packet, step_packet]
    refine (NtpServer.processPacket_alike h.server evp data client env sendOk).map
      fun p q hp hq hpq hkept hkept' => hserved (hpq ?_ ?_)
    · exact fun hlost => hkept ⟨p, hp, hlost⟩
    · exact fun hlost => hkept' ⟨q, hq, hlost⟩
  cases he with
  | packet data client env sendOk => exact hpacket data client env sendOk
  | refl =>
    cases e with
    | start env => exact fun _ _ => h.start env
    | stop => exact fun _ _ => h.stop
    | serve event =>
      cases event with
      | packet data client env => exact hpacket data client env env.sendOk
      | sync world now => exact fun _ _ => hserved (h.server.syncOnce world now)
      | reload getenv file => exact fun _ _ => hserved (h.server.reloadConfig getenv file)
      | cleanup => exact fun _ _ => hserved h.server.cleanupConnections

/-- **One event keeps the upstream servers**, but a start, which takes them from the
configuration. -/
theorem step_keeps_healthy {e : Step} (h : step evp d e = .ok d')
    (hkept : ¬d.LosesUpstream evp e) (hstart : ∀ env, e ≠ .start env) :
    ∀ host ∈ d.server.healthyUpstreams, host ∈ d'.server.healthyUpstreams := by
  cases e with
  | start env => exact absurd rfl (hstart env)
  | stop =>
    cases h
    have hsame : d.stop.server.healthyUpstreams = d.server.healthyUpstreams := by
      unfold stop
      split
      · rfl
      · exact NtpServer.cleanupConnections_healthy _
    rw [hsame]
    exact fun host hhost => hhost
  | serve event =>
    cases event with
    | packet data client env =>
      rw [step_packet] at h
      cases hp : d.server.processPacket evp data client env with
      | error exn =>
        rw [hp] at h
        cases h
      | ok p =>
        rw [hp] at h
        cases h
        exact NtpServer.processPacket_keeps_healthy hp fun hlost => hkept ⟨p, hp, hlost⟩
    | sync world now =>
      cases h
      exact fun host hhost => hhost
    | cleanup =>
      cases h
      show ∀ host ∈ _, host ∈ d.server.cleanupConnections.healthyUpstreams
      rw [NtpServer.cleanupConnections_healthy]
      exact fun host hhost => hhost
    | reload getenv file =>
      cases h
      rcases reloadConfig_cases d.server getenv file with hstay | ⟨content, -, -, -, hload⟩
      · show ∀ host ∈ _, host ∈ (d.server.reloadConfig getenv file).2.healthyUpstreams
        rw [hstay]
        exact fun host hhost => hhost
      · show ∀ host ∈ _, host ∈ (d.server.reloadConfig getenv file).2.healthyUpstreams
        rw [hload]
        exact fun host hhost => hhost

/-- **When clients do not influence the health of upstream servers.** Two lives that
differ in which replies to clients cannot be sent have the same healthy servers after
every step, and no step but a start takes one of them away, where no reply that an
upstream server has been selected for fails to be sent while failover is enabled. -/
theorem healthy_unaffected (evp : Evp) (d : Daemon) (events events' : List Step)
    (hevents : List.Forall₂ SameButSend events events')
    (hkept : Runs.EveryStep (step evp) (fun d e _ => ¬d.LosesUpstream evp e) d events)
    (hkept' : Runs.EveryStep (step evp) (fun d e _ => ¬d.LosesUpstream evp e) d events') :
    (∀ n, Runs.Both (fun t t' => t'.server.healthyUpstreams = t.server.healthyUpstreams)
        (d.run evp (events.take n)) (d.run evp (events'.take n))) ∧
      Runs.EveryStep (step evp) (fun t e t' => (∀ env, e ≠ .start env) →
        ∀ host ∈ t.server.healthyUpstreams, host ∈ t'.server.healthyUpstreams) d events := by
  have hkeep : ∀ t e t', step evp t e = .ok t' → ¬t.LosesUpstream evp e →
      (∀ env, e ≠ .start env) →
        ∀ host ∈ t.server.healthyUpstreams, host ∈ t'.server.healthyUpstreams :=
    fun _ _ _ hstep hlost => step_keeps_healthy hstep hlost
  refine ⟨fun n => ?_, hkept.imp hkeep⟩
  have hsim : ∀ s t e e', AlikeDaemons s t → SameButSend e e' →
      Runs.Both (fun s' t' => ¬s.LosesUpstream evp e → ¬t.LosesUpstream evp e' →
        AlikeDaemons s' t') (step evp s e) (step evp t e') :=
    fun _ _ _ _ h he => step_alike evp h he
  have hruns := Runs.both_foldlM hsim (List.forall₂_take n hevents)
    ⟨.refl d.server, rfl, rfl⟩ (hkept.take n) (hkept'.take n)
  exact hruns.imp fun _ _ halike => halike.server.healthy

/-- Two upstream servers, with failover or without. -/
def upstreamConfig (failover : Bool) : NtpConfig :=
  { NtpConfig.defaults with
    upstreamServers := [lit "a", lit "b"]
    enableUpstreamFailover := failover }

/-- The life of a daemon that is started and gets a request. -/
def requestLife (sendOk : Bool) : List Step :=
  [.start ⟨true, true⟩,
    .serve (.packet exampleRequest exampleClient { exampleEnv with sendOk := sendOk })]

theorem requestLife_sameButSend (sendOk sendOk' : Bool) :
    List.Forall₂ SameButSend (requestLife sendOk) (requestLife sendOk') :=
  .cons (.refl _) (.cons (.packet _ _ { exampleEnv with sendOk := sendOk } sendOk') .nil)

/-- The daemon in its initial state. -/
def upstreamDaemon (failover : Bool) : Daemon :=
  create (upstreamConfig failover) (NtpServer.loggerSettings (upstreamConfig failover))

/-- Without failover a request leaves both servers. -/
theorem healthy_unaffected_request (sendOk : Bool) :
    Runs.EveryStep (step fun _ _ => none) (fun d e _ => ¬d.LosesUpstream (fun _ _ => none) e)
      (upstreamDaemon false) (requestLife sendOk) := by
  intro d hstart
  cases hstart
  refine ⟨nofun, fun d' hserve => ⟨?_, trivial⟩⟩
  rintro ⟨p, -, -, -, hon, -⟩
  revert hon
  decide +kernel

/-- Whether the reply can be sent does not matter to them. -/
theorem healthy_unaffected_without_failover :
    (∀ n, Runs.Both (fun t t' => t'.server.healthyUpstreams = t.server.healthyUpstreams)
        ((upstreamDaemon false).run (fun _ _ => none) ((requestLife true).take n))
        ((upstreamDaemon false).run (fun _ _ => none) ((requestLife false).take n))) ∧
      Runs.EveryStep (step fun _ _ => none) (fun t e t' => (∀ env, e ≠ .start env) →
        ∀ host ∈ t.server.healthyUpstreams, host ∈ t'.server.healthyUpstreams)
        (upstreamDaemon false) (requestLife true) :=
  healthy_unaffected (fun _ _ => none) (upstreamDaemon false) (requestLife true)
    (requestLife false) (requestLife_sameButSend true false) (healthy_unaffected_request true)
    (healthy_unaffected_request false)

/-- With failover the selected server is taken off the list, although it has not been asked
anything, where the reply to the client cannot be sent. -/
theorem client_takes_upstream :
    ¬ ∀ (evp : Evp) (c : NtpConfig) (logger : LoggerSettings) (events events' : List Step),
      List.Forall₂ SameButSend events events' →
        Runs.Both (fun t t' => t'.server.healthyUpstreams = t.server.healthyUpstreams)
          ((create c logger).run evp events) ((create c logger).run evp events') := by
  intro h
  have hboth := h (fun _ _ => none) (upstreamConfig true)
    (NtpServer.loggerSettings (upstreamConfig true)) _ _ (requestLife_sameButSend true false)
  have hsent : (((upstreamDaemon true).run (fun _ _ => none) (requestLife true)).map fun d =>
      d.server.healthyUpstreams).toOption = some [lit "a", lit "b"] := by decide +kernel
  have hlost : (((upstreamDaemon true).run (fun _ _ => none) (requestLife false)).map fun d =>
      d.server.healthyUpstreams).toOption = some [lit "b"] := by decide +kernel
  obtain ⟨d, hd, hhealthy⟩ := Runs.exists_of_toOption_map hsent
  obtain ⟨d', hd', hhealthy'⟩ := Runs.exists_of_toOption_map hlost
  change Runs.Both _ ((upstreamDaemon true).run _ _) ((upstreamDaemon true).run _ _) at hboth
  rw [hd, hd'] at hboth
  have hsame : [lit "b"] = [lit "a", lit "b"] := hhealthy'.symm.trans (hboth.trans hhealthy)
  cases congrArg List.length hsame

end Daemon

end SimpleNtpd
