import SimpleNtpd.Core.Daemon
import SimpleNtpd.Core.ReloadScope

/-!
# The upstream servers and the configuration

The list of upstream servers is there three times: in the configuration in force,
in `healthy_upstreams_`, and in the configuration the sync manager was made with.
`start` makes them agree. A reload changes the first one only: the manager keeps
querying the old list, and the healthy servers are those left of the old list
until none is.

`NtpServer.Anchored` is what keeps the three together: the manager's list is the
one the server was started with, and the other two are within it or have the same
servers. Datagrams, sync rounds and clean-ups keep it. A reload does exactly when
its file leaves the list out or has the servers of the start on it
(`upstreams_follow_iff`).
-/

namespace SimpleNtpd

open Cpp Assignments

namespace NtpServer

variable {s s' : NtpServer}

/-! ## The three lists -/

/-- The servers a round of the sync manager queries, if there is one: those of the
configuration it was made with. -/
def queriedServers (s : NtpServer) : List Str :=
  match s.upstreamSync with
  | none => []
  | some _ => (s.configs s.syncConfig).upstreamServers

/-- A round queries these servers. -/
theorem syncOnce_queried (s : NtpServer) (world : Nat → QueryEnv) (now : Int) :
    s.syncOnce world now = { s with
      upstreamSync := s.upstreamSync.map fun m => (m.syncOnce s.queriedServers world now).1 } := by
  unfold syncOnce queriedServers
  cases s.upstreamSync <;> rfl

/-- What the server attributes replies to and what it queries is the list of the
configuration in force. -/
structure FollowsConfig (s : NtpServer) : Prop where
  /-- a server that is selected is on the list; without a list none is -/
  selected : s.currentConfig.upstreamServers ≠ [] →
    ∀ randomIndex, (s.selectUpstreamServer randomIndex).1 ∈ s.currentConfig.upstreamServers
  /-- a server that is queried is on the list -/
  queried : ∀ host ∈ s.queriedServers, host ∈ s.currentConfig.upstreamServers
  /-- every server on the list is queried -/
  complete : ∀ host ∈ s.currentConfig.upstreamServers, host ∈ s.queriedServers

/-- A member of a list that is found by an index modulo its length. -/
theorem getD_mod_mem {l : List Str} (h : l ≠ []) (n : Nat) : l.getD (n % l.length) [] ∈ l := by
  have hlt : n % l.length < l.length := Nat.mod_lt n (List.length_pos_iff.mpr h)
  rw [List.getD_eq_getElem _ _ hlt]
  exact List.getElem_mem hlt

/-- The servers a selection chooses from: the healthy ones or, when there are none,
the current list. -/
def candidates (s : NtpServer) : List Str :=
  if s.healthyUpstreams.isEmpty then s.currentConfig.upstreamServers else s.healthyUpstreams

theorem candidates_ne_nil (hne : s.currentConfig.upstreamServers ≠ []) : s.candidates ≠ [] := by
  unfold candidates
  split
  · exact hne
  · rename_i hnonempty
    exact fun hnil => hnonempty (List.isEmpty_iff.mpr hnil)

theorem mem_candidates {host : Str} (h : host ∈ s.candidates) :
    host ∈ s.healthyUpstreams ∨ host ∈ s.currentConfig.upstreamServers := by
  unfold candidates at h
  split at h
  · exact .inr h
  · exact .inl h

/-- Without a list nothing is selected; else one of the candidates is, and these
are the healthy servers afterwards. -/
theorem selectUpstreamServer_cases (s : NtpServer) (randomIndex : Nat) :
    s.currentConfig.upstreamServers = [] ∧ s.selectUpstreamServer randomIndex = ([], s) ∨
      s.currentConfig.upstreamServers ≠ [] ∧
        (s.selectUpstreamServer randomIndex).1 ∈ s.candidates ∧
        (s.selectUpstreamServer randomIndex).2.healthyUpstreams = s.candidates := by
  unfold selectUpstreamServer
  dsimp only
  by_cases hnil : s.currentConfig.upstreamServers = []
  · rw [if_pos (List.isEmpty_iff.mpr hnil)]
    exact .inl ⟨hnil, rfl⟩
  · right
    have hne := candidates_ne_nil hnil
    rw [if_neg (fun hempty => hnil (List.isEmpty_iff.mp hempty)), ← candidates]
    refine ⟨hnil, ?_⟩
    generalize s.candidates = healthy at hne ⊢
    split
    · obtain ⟨host, rest, rfl⟩ := List.exists_cons_of_ne_nil hne
      exact ⟨List.mem_cons_self, rfl⟩
    · split
      · exact ⟨getD_mod_mem hne _, rfl⟩
      · exact ⟨getD_mod_mem hne _, rfl⟩

/-! ## What a datagram does to the lists -/

/-- The lists of the configurations and the sync manager are the same; the healthy
servers were healthy before, or are on the current list. -/
structure SameUpstreams (s s' : NtpServer) : Prop where
  lists : ∀ ref, (s'.configs ref).upstreamServers = (s.configs ref).upstreamServers
  nextConfig : s'.nextConfig = s.nextConfig
  config : s'.config = s.config
  manager : s'.upstreamSync.isSome = s.upstreamSync.isSome
  syncConfig : s'.syncConfig = s.syncConfig
  healthy : ∀ host ∈ s'.healthyUpstreams,
    host ∈ s.healthyUpstreams ∨ host ∈ s.currentConfig.upstreamServers

namespace SameUpstreams

variable {s'' : NtpServer}

theorem current (h : SameUpstreams s s') :
    s'.currentConfig.upstreamServers = s.currentConfig.upstreamServers := by
  rw [currentConfig, currentConfig, h.config]
  exact h.lists s.config

theorem trans (h : SameUpstreams s s') (h' : SameUpstreams s' s'') : SameUpstreams s s'' where
  lists ref := (h'.lists ref).trans (h.lists ref)
  nextConfig := h'.nextConfig.trans h.nextConfig
  config := h'.config.trans h.config
  manager := h'.manager.trans h.manager
  syncConfig := h'.syncConfig.trans h.syncConfig
  healthy := by
    intro host hhost
    rcases h'.healthy host hhost with hhealthy | hcurrent
    · exact h.healthy host hhealthy
    · rw [h.current] at hcurrent
      exact .inr hcurrent

/-- Steps that leave the settings leave the lists, as far as the healthy servers
allow. -/
theorem of_same (h : SameSettings s s') (hhealthy : ∀ host ∈ s'.healthyUpstreams,
    host ∈ s.healthyUpstreams ∨ host ∈ s.currentConfig.upstreamServers) : SameUpstreams s s' where
  lists ref := by rw [h.configs]
  nextConfig := h.nextConfig
  config := h.config
  manager := by rw [h.upstreamSync]
  syncConfig := h.syncConfig
  healthy := hhealthy

/-- A step that keeps the settings and the healthy servers keeps all of the upstreams. -/
theorem of_eq (h : SameSettings s s') (hhealthy : s'.healthyUpstreams = s.healthyUpstreams) :
    SameUpstreams s s' :=
  of_same h fun _ hhost => .inl (hhealthy ▸ hhost)

end SameUpstreams

/-- The stratum is not one of the lists. -/
theorem applyDynamicStratum_upstreams (s : NtpServer) :
    SameUpstreams s s.applyDynamicStratum := by
  rcases s.applyDynamicStratum_cases with hstay | ⟨-, hraise⟩
  · rw [hstay]
    exact .of_eq (.refl s) rfl
  · rw [hraise]
    refine ⟨?_, rfl, rfl, rfl, rfl, fun host hhost => .inl hhost⟩
    intro ref
    dsimp only
    by_cases href : ref = s.config
    · rw [href, Function.update_self]
      rfl
    · rw [Function.update_of_ne href]

/-- Where no server is healthy, all on the list become so. -/
theorem selectUpstreamServer_upstreams (s : NtpServer) (randomIndex : Nat) :
    SameUpstreams s (s.selectUpstreamServer randomIndex).2 := by
  refine .of_same (selectUpstreamServer_same s randomIndex) ?_
  rcases s.selectUpstreamServer_cases randomIndex with ⟨-, hnone⟩ | ⟨-, -, hhealthy⟩
  · rw [hnone]
    exact fun host hhost => .inl hhost
  · rw [hhealthy]
    exact fun host hhost => mem_candidates hhost

/-- A failed reply may cost its server the health. -/
theorem recordSendFailure_upstreams (s : NtpServer) (selected : Str) :
    SameUpstreams s (s.recordSendFailure selected) := by
  refine .of_same (recordSendFailure_same s selected) ?_
  unfold recordSendFailure
  dsimp only
  split
  · exact fun host hhost => .inl (List.mem_of_mem_erase hhost)
  · exact fun host hhost => .inl hhost

theorem finishPacket_upstreams (s : NtpServer) (accepted : Bool) (data : Bytes) (env : PacketEnv) :
    SameUpstreams s (s.finishPacket accepted data env).server := by
  unfold finishPacket
  split
  · split
    · exact .of_eq (countError_same s) rfl
    · rename_i request _
      have hbuild : SameUpstreams s (s.buildReply request env).2.2 :=
        (applyDynamicStratum_upstreams s).trans
          (selectUpstreamServer_upstreams s.applyDynamicStratum env.randomIndex)
      dsimp only
      split
      · exact hbuild.trans (.of_eq ((recordReply_same _ _).trans (recordTime_same _ _)) rfl)
      · exact hbuild.trans (recordSendFailure_upstreams _ _)
  · exact .of_eq ((countError_same s).trans (recordTime_same _ env)) rfl

/-- The admission of a datagram does not look at the upstream servers. -/
theorem processPacketWith_upstreams {pick : NtpServer → NtpConnection → NtpConfig} {evp : Evp}
    {data : Bytes} {client : SockAddr} {env : PacketEnv} {p : Processed}
    (h : s.processPacketWith pick evp data client env = .ok p) : SameUpstreams s p.server := by
  rcases processPacketWith_stages h with
    ⟨-, t, verdict, ⟨rate, second, rfl⟩, -, rfl⟩ | ⟨-, t, u, hbuckets, hconn, rfl⟩
  · exact .of_eq ⟨rfl, rfl, rfl, rfl, rfl, rfl⟩ rfl
  · have hcreated : SameUpstreams s u := by
      refine .of_eq (hbuckets.settings.trans (getOrCreateConnection_same hconn)) ?_
      obtain ⟨rate, second, rfl⟩ := hbuckets
      rcases getOrCreateConnection_cases hconn with ⟨rfl, -⟩ | ⟨-, trusted, -, rfl⟩ <;> rfl
    refine (hcreated.trans (.of_eq (handleOn_same pick evp u _ env.requestTime data) ?_)).trans
      (finishPacket_upstreams _ _ data env)
    unfold handleOn onConnection
    split <;> rfl

theorem cleanupConnections_healthy (s : NtpServer) :
    s.cleanupConnections.healthyUpstreams = s.healthyUpstreams := by
  unfold cleanupConnections
  dsimp only
  generalize s.activeConnections.entries.filter (fun entry => !entry.2.active) = inactive
  induction inactive generalizing s with
  | nil => rfl
  | cons entry inactive ih => exact ih (s.eraseConnection entry.1)

theorem cleanupConnections_upstreams (s : NtpServer) : SameUpstreams s s.cleanupConnections :=
  .of_eq (cleanupConnections_same s) (cleanupConnections_healthy s)

/-- **No event but a reload moves a list.** -/
theorem stepWith_upstreams {pick : NtpServer → NtpConnection → NtpConfig} {evp : Evp} {e : Event}
    {out : Option (Verdict × Option Bytes)} (h : s.stepWith pick evp e = .ok (s', out)) :
    (∀ getenv file, e ≠ .reload getenv file) ∧ SameUpstreams s s' ∨
      ∃ getenv file, e = .reload getenv file ∧ s' = (s.reloadConfig getenv file).2 := by
  cases e with
  | packet data client env =>
    obtain ⟨p, hp, rfl, -⟩ := stepWith_packet h
    exact .inl ⟨fun _ _ => nofun, processPacketWith_upstreams hp⟩
  | sync world now =>
    cases h
    left
    rw [syncOnce_queried]
    refine ⟨fun _ _ => nofun, ?_⟩
    exact ⟨fun _ => rfl, rfl, rfl, Option.isSome_map, rfl, fun host hhost => .inl hhost⟩
  | reload getenv file =>
    cases h
    exact .inr ⟨getenv, file, rfl, rfl⟩
  | cleanup =>
    cases h
    exact .inl ⟨fun _ _ => nofun, cleanupConnections_upstreams s⟩

/-! ## The list the server was started with -/

/-- Between the lists of a server that was started with the given one: the manager
queries it, and the others have its servers. -/
structure Anchored (servers : List Str) (s : NtpServer) : Prop where
  manager : s.upstreamSync.isSome = !servers.isEmpty
  captured : (s.configs s.syncConfig).upstreamServers = servers
  /-- the manager's configuration is not one that a reload will make -/
  fresh : s.syncConfig < s.nextConfig
  healthy : ∀ host ∈ s.healthyUpstreams, host ∈ servers
  current : ∀ host, host ∈ s.currentConfig.upstreamServers ↔ host ∈ servers

namespace Anchored

variable {servers : List Str}

theorem start (c : NtpConfig) (logger : LoggerSettings) :
    Anchored c.upstreamServers (.start c logger) where
  manager := by
    show (if c.upstreamServers.isEmpty then none else some _ : Option _).isSome = _
    cases c.upstreamServers.isEmpty <;> rfl
  captured := rfl
  fresh := Nat.zero_lt_one
  healthy _ hhost := hhost
  current _ := Iff.rfl

/-- The manager queries the list of the start. -/
theorem queriedServers (h : Anchored servers s) : s.queriedServers = servers := by
  have hmanager := h.manager
  unfold NtpServer.queriedServers
  cases hsync : s.upstreamSync with
  | none =>
    -- no manager was made, since there was no server
    rw [hsync] at hmanager
    cases hempty : servers.isEmpty with
    | true => exact (List.isEmpty_iff.mp hempty).symm
    | false =>
      rw [hempty] at hmanager
      cases hmanager
  | some m => exact h.captured

theorem followsConfig (h : Anchored servers s) : s.FollowsConfig where
  selected hne randomIndex := by
    rcases s.selectUpstreamServer_cases randomIndex with ⟨hnil, -⟩ | ⟨-, hmem, -⟩
    · exact absurd hnil hne
    · rcases mem_candidates hmem with hhealthy | hcurrent
      · exact (h.current _).mpr (h.healthy _ hhealthy)
      · exact hcurrent
  queried host hhost := (h.current host).mpr (h.queriedServers ▸ hhost)
  complete host hhost := h.queriedServers ▸ (h.current host).mp hhost

theorem of_same (h : Anchored servers s) (hsame : SameUpstreams s s') : Anchored servers s' where
  manager := hsame.manager.trans h.manager
  captured := by rw [hsame.lists, hsame.syncConfig, h.captured]
  fresh := by
    rw [hsame.syncConfig, hsame.nextConfig]
    exact h.fresh
  healthy host hhost := by
    rcases hsame.healthy host hhost with hhealthy | hcurrent
    · exact h.healthy host hhealthy
    · exact (h.current host).mp hcurrent
  current host := by
    rw [hsame.current]
    exact h.current host

section Reload

variable {c : NtpConfig}

/-- A configuration with the servers of the start can be put in force. -/
theorem putInForce (h : Anchored servers s)
    (hc : ∀ host, host ∈ c.upstreamServers ↔ host ∈ servers) :
    Anchored servers (Daemon.putInForce s c) where
  manager := h.manager
  captured := by
    show (Function.update s.configs s.nextConfig c s.syncConfig).upstreamServers = servers
    rw [Function.update_of_ne h.fresh.ne]
    exact h.captured
  fresh := Nat.lt_succ_of_lt h.fresh
  healthy := h.healthy
  current host := by
    rw [Daemon.putInForce_currentConfig]
    exact hc host

/-- The manager queries what it has queried before. -/
theorem putInForce_queriedServers (h : Anchored servers s) :
    (Daemon.putInForce s c).queriedServers = servers := by
  rw [← h.queriedServers]
  show (match s.upstreamSync with
    | none => []
    | some _ => (Function.update s.configs s.nextConfig c s.syncConfig).upstreamServers) = _
  rw [Function.update_of_ne h.fresh.ne]
  rfl

/-- A server put in force follows its configuration exactly when the new list has the same
servers. -/
theorem followsConfig_putInForce_iff (h : Anchored servers s) :
    (Daemon.putInForce s c).FollowsConfig ↔ ∀ host, host ∈ c.upstreamServers ↔ host ∈ servers := by
  constructor
  · rintro ⟨-, hqueried, hcomplete⟩ host
    rw [h.putInForce_queriedServers, Daemon.putInForce_currentConfig] at hqueried hcomplete
    exact ⟨hcomplete host, hqueried host⟩
  · exact fun hc => (h.putInForce hc).followsConfig

end Reload

end Anchored

end NtpServer

/-! ## Reloads -/

/-- The environment has no override for the list of upstream servers: it is what
the last line of the file says, or stays. -/
theorem Daemon.reloaded_upstreamServers (s : NtpServer) (getenv : Str → Option Str)
    (content : Str) :
    (reloaded s getenv content).upstreamServers
      = (last Field.upstreamServers (fileAssignments content)).getD
          s.currentConfig.upstreamServers := by
  rw [← last_load_of_file (by decide) (by decide) getenv s.currentConfig.lastConfigFile]
  exact configFields.get_storeAll _ _ .upstreamServers

/-- The reload is accepted. -/
def Event.accepted (s : NtpServer) : Event → Bool
  | .reload getenv file => (s.reloadConfig getenv file).1
  | _ => false

/-- Where an event is a reload whose file leads to a valid configuration, a list
of upstream servers in the file has the given servers. -/
def Event.KeepsUpstreams (servers : List Str) (s : NtpServer) : Event → Prop
  | .reload getenv file => ∀ content, file = some content →
      s.currentConfig.lastConfigFile ≠ [] → (Daemon.reloaded s getenv content).validate = true →
        ∀ listed : List Str, last Field.upstreamServers (fileAssignments content) = some listed →
          ∀ host, host ∈ listed ↔ host ∈ servers
  | _ => True

namespace NtpServer

/-- A server and whether a reload has been accepted. -/
structure Observed where
  server : NtpServer
  reloaded : Bool

/-- One event of an observed server. -/
def Observed.step (evp : Evp) (o : Observed) (e : Event) : Except Exn Observed :=
  (o.server.stepWith captured evp e).map fun r => ⟨r.1, o.reloaded || e.accepted o.server⟩

/-- In every state of the run that comes after an accepted reload, the server
follows the configuration in force. -/
def FollowsAfterReload (evp : Evp) (s : NtpServer) (events : List Event) : Prop :=
  Runs.EveryStep (Observed.step evp) (fun _ _ o => o.reloaded = true → o.server.FollowsConfig)
    ⟨s, false⟩ events

variable {servers : List Str} {evp : Evp} {o o' : Observed} {e : Event}

theorem Observed.step_cases (h : o.step evp e = .ok o') :
    ∃ out, o.server.stepWith captured evp e = .ok (o'.server, out) ∧
      o'.reloaded = (o.reloaded || e.accepted o.server) := by
  unfold Observed.step at h
  cases hstep : o.server.stepWith captured evp e with
  | error exn =>
    rw [hstep] at h
    cases h
  | ok r =>
    rw [hstep] at h
    cases h
    exact ⟨r.2, rfl, rfl⟩

/-- What one event does to a server that follows its configuration: unless it is an
accepted reload, the lists still agree; an accepted reload puts another
configuration in force. -/
theorem Observed.step_upstreams (h : Anchored servers o.server) (hstep : o.step evp e = .ok o') :
    (Anchored servers o'.server ∧ e.KeepsUpstreams servers o.server) ∨
      ∃ c : NtpConfig, o'.reloaded = true ∧ o'.server = Daemon.putInForce o.server c ∧
        (e.KeepsUpstreams servers o.server ↔ ∀ host, host ∈ c.upstreamServers ↔ host ∈ servers) := by
  obtain ⟨out, hserver, hreloaded⟩ := step_cases hstep
  rcases stepWith_upstreams hserver with ⟨hother, hsame⟩ | ⟨getenv, file, rfl, hreload⟩
  · left
    refine ⟨h.of_same hsame, ?_⟩
    cases e with
    | reload getenv file => exact absurd rfl (hother getenv file)
    | _ => trivial
  · rcases Daemon.reloadConfig_cases o.server getenv file with
      hstay | ⟨content, rfl, hpath, hvalid, haccepted⟩
    · -- a reload that is refused has no file that would be accepted
      left
      rw [hreload, hstay]
      refine ⟨h, ?_⟩
      rintro content rfl hpath hvalid
      rw [Daemon.reloadConfig_of_valid hpath hvalid] at hstay
      cases hstay
    · right
      refine ⟨Daemon.reloaded o.server getenv content, ?_, ?_, ?_⟩
      · rw [hreloaded, Event.accepted, haccepted, Bool.or_true]
      · rw [hreload, haccepted]
      · rw [Daemon.reloaded_upstreamServers]
        constructor
        · intro hkeeps
          cases hlast : last Field.upstreamServers (fileAssignments content) with
          -- without a line for it the list stays
          | none => exact h.current
          | some listed => exact hkeeps content rfl hpath hvalid listed hlast
        · rintro hmembers content' heq - - listed hlast
          cases heq
          rw [hlast] at hmembers
          exact hmembers

/-- After one event the server follows its configuration, as far as it has to,
exactly when a reload keeps the servers. -/
theorem Observed.follows_iff (h : Anchored servers o.server) (hstep : o.step evp e = .ok o') :
    (o'.reloaded = true → o'.server.FollowsConfig) ↔ e.KeepsUpstreams servers o.server := by
  rcases step_upstreams h hstep with ⟨hnext, hkeeps⟩ | ⟨c, hreloaded, hserver, hkeeps⟩
  · exact iff_of_true (fun _ => hnext.followsConfig) hkeeps
  · rw [forall_prop_of_true hreloaded, hkeeps, hserver]
    exact h.followsConfig_putInForce_iff

/-- Where the server follows its configuration after a reload, the lists agree again. -/
theorem Observed.anchored_step (h : Anchored servers o.server) (hstep : o.step evp e = .ok o')
    (hfollows : o'.reloaded = true → o'.server.FollowsConfig) : Anchored servers o'.server := by
  rcases step_upstreams h hstep with ⟨hnext, -⟩ | ⟨c, hreloaded, hserver, -⟩
  · exact hnext
  · have hnew := hfollows hreloaded
    rw [hserver] at hnew ⊢
    exact h.putInForce (h.followsConfig_putInForce_iff.mp hnew)

end NtpServer

open NtpServer

/-- **When the upstream servers follow the configuration.** In every run of a
started server, with datagrams, sync rounds, clean-ups and reloads in any order:
after an accepted reload every server that is selected or queried is on the list
in force, and all of them are queried, exactly when every accepted reload's file
leaves the list out or has the servers of the start on it. -/
theorem upstreams_follow_iff (evp : Evp) (c : NtpConfig) (logger : LoggerSettings)
    (events : List Event) :
    FollowsAfterReload evp (.start c logger) events ↔
      Runs.EveryStep (Observed.step evp)
        (fun o e _ => e.KeepsUpstreams c.upstreamServers o.server) ⟨.start c logger, false⟩
        events := by
  unfold FollowsAfterReload
  refine Runs.everyStep_iff (I := fun o => Anchored c.upstreamServers o.server) ?_ ?_
    (.start c logger) events
  · exact fun h hstep => Observed.follows_iff h hstep
  · exact fun h hstep hfollows => Observed.anchored_step h hstep hfollows

/-- A file with another upstream server than the defaults. -/
def otherUpstreamFile : Str := lit "servers=b.example\n"

/-- After the reload the manager queries the servers of the defaults, which are not
on the new list, and not the one that is. -/
theorem old_upstreams_queried :
    ¬ ∀ evp c logger events, c.validate = true → FollowsAfterReload evp (.start c logger) events := by
  intro h
  have hvalid : fileConfig.validate = true := by decide +kernel
  have haccepted : (Daemon.reloaded fileServer (fun _ => none) otherUpstreamFile).validate
      = true := by
    decide +kernel
  have hfollows := (h (fun _ _ => none) fileConfig (loggerSettings fileConfig)
    [.reload (fun _ => none) (some otherUpstreamFile)] hvalid _ rfl).1
  change (false || (fileServer.reloadConfig (fun _ => none) (some otherUpstreamFile)).1) = true →
    (fileServer.reloadConfig (fun _ => none) (some otherUpstreamFile)).2.FollowsConfig at hfollows
  rw [Daemon.reloadConfig_of_valid (by decide) haccepted] at hfollows
  -- the new list would have the same servers as the old one
  have hmembers := (Anchored.start fileConfig _).followsConfig_putInForce_iff.mp (hfollows rfl)
    (lit "b.example")
  have hlisted : (Daemon.reloaded fileServer (fun _ => none) otherUpstreamFile).upstreamServers
      = [lit "b.example"] := by
    decide +kernel
  rw [hlisted] at hmembers
  exact absurd (hmembers.mp List.mem_cons_self) (by decide)

end SimpleNtpd
