import SimpleNtpd.Core.SaneSources
import SimpleNtpd.Core.UpstreamFollow

/-!
# What a run leaves in the sync manager

The manager's state after a run of the server is what the manager's own rounds
make of it (`runWith_upstreamSync`): its list of upstream servers is that of the
start, and nothing but a round touches the state. A round in which every server
fails commits nothing (`Failed`), and nothing is ever taken back. So the manager
counts as synchronised from its first answer on (`run_synced_iff`), and however
many rounds fail, the strata of the replies, the metrics and the health report
stay those of the last answer.
-/

namespace SimpleNtpd

open Cpp

/-! ## Rounds that fail -/

/-- Every query of the round fails. -/
def SyncRound.Failed (r : SyncRound) : Prop :=
  ∀ q ∈ r.servers.zipIdx, (r.query q).success = false

/-- A round fails exactly when it keeps no answer. -/
theorem SyncRound.failed_iff (r : SyncRound) : r.Failed ↔ r.chosen = none := by
  unfold Failed chosen firstLeast
  rw [List.argmin_eq_none, successful, List.filter_eq_nil_iff]
  refine forall₂_congr fun q _ => ?_
  rw [Bool.not_eq_true]

namespace UpstreamSyncManager

/-- A round that fails leaves the state. -/
theorem syncOnce_of_failed {r : SyncRound} (h : r.Failed) (m : UpstreamSyncManager) :
    m.syncOnce r.servers r.world r.now = (m, {}) := by
  rw [r.syncOnce_eq, r.failed_iff.mp h]

/-- A round that does not is committed. -/
theorem syncOnce_of_not_failed {r : SyncRound} (h : ¬r.Failed) (m : UpstreamSyncManager) :
    ∃ q, r.chosen = some q ∧ m.syncOnce r.servers r.world r.now = (r.commit q, r.query q) := by
  rw [r.failed_iff] at h
  obtain ⟨q, hq⟩ := Option.ne_none_iff_exists'.mp h
  refine ⟨q, hq, ?_⟩
  rw [r.syncOnce_eq, hq]

theorem run_append (m : UpstreamSyncManager) (rounds rounds' : List SyncRound) :
    m.run (rounds ++ rounds') = (m.run rounds).run rounds' := by
  rw [run, run, run, List.foldl_append]

/-- Rounds that fail leave the state, however many; induction on the rounds. -/
theorem run_of_failed {rounds : List SyncRound} (h : ∀ r ∈ rounds, r.Failed)
    (m : UpstreamSyncManager) : m.run rounds = m := by
  induction rounds with
  | nil => rfl
  | cons r rounds ih =>
    show (m.syncOnce r.servers r.world r.now).1.run rounds = m
    rw [syncOnce_of_failed (h r List.mem_cons_self)]
    exact ih fun r' hr' => h r' (List.mem_cons_of_mem r hr')

/-- **The manager is synchronised once a round has been answered**; induction on
the rounds from the last. -/
theorem run_synced_iff (rounds : List SyncRound) (m : UpstreamSyncManager) :
    (m.run rounds).synced = true ↔ m.synced = true ∨ ∃ r ∈ rounds, ¬r.Failed := by
  induction rounds using List.reverseRecOn with
  | nil => exact ⟨.inl, fun h => h.resolve_right fun ⟨_, hr, _⟩ => nomatch hr⟩
  | append_singleton rounds r ih =>
    rw [run_append]
    show ((m.run rounds).syncOnce r.servers r.world r.now).1.synced = true ↔ _
    by_cases hfailed : r.Failed
    · rw [syncOnce_of_failed hfailed, ih]
      refine or_congr_right ?_
      constructor
      · rintro ⟨r', hr', hne⟩
        exact ⟨r', List.mem_append_left _ hr', hne⟩
      · rintro ⟨r', hr', hne⟩
        rcases List.mem_append.mp hr' with hbefore | hlast
        · exact ⟨r', hbefore, hne⟩
        · rw [List.mem_singleton.mp hlast] at hne
          exact absurd hfailed hne
    · obtain ⟨q, -, hcommit⟩ := syncOnce_of_not_failed hfailed (m.run rounds)
      rw [hcommit]
      refine iff_of_true rfl (.inr ⟨r, ?_, hfailed⟩)
      exact List.mem_append_right _ List.mem_cons_self

end UpstreamSyncManager

/-! ## The manager in a run of the server -/

/-- The round of an event, where it is one. -/
def Event.round (servers : List Str) : Event → Option SyncRound
  | .sync world now => some ⟨servers, world, now⟩
  | _ => none

/-- The rounds of a run. -/
def syncRounds (servers : List Str) (events : List Event) : List SyncRound :=
  events.filterMap (Event.round servers)

namespace NtpServer

/-- The manager points to a configuration with the given upstream servers, which
no reload replaces. -/
structure Queries (servers : List Str) (s : NtpServer) : Prop where
  captured : (s.configs s.syncConfig).upstreamServers = servers
  fresh : s.syncConfig < s.nextConfig

variable {s s' : NtpServer} {servers : List Str} {pick : NtpServer → NtpConnection → NtpConfig}
  {evp : Evp}

theorem Queries.start (c : NtpConfig) (logger : LoggerSettings) :
    Queries c.upstreamServers (.start c logger) := ⟨rfl, Nat.zero_lt_one⟩

/-- A new configuration object is not the manager's. -/
theorem Queries.putInForce (h : Queries servers s) (c : NtpConfig) :
    Queries servers (Daemon.putInForce s c) := by
  constructor
  · show (Function.update s.configs s.nextConfig c s.syncConfig).upstreamServers = servers
    rw [Function.update_of_ne h.fresh.ne]
    exact h.captured
  · exact Nat.lt_succ_of_lt h.fresh

/-- Every event leaves the manager its servers. -/
theorem Queries.step (h : Queries servers s) {e : Event} {out : Option (Verdict × Option Bytes)}
    (hstep : s.stepWith pick evp e = .ok (s', out)) : Queries servers s' := by
  rcases stepWith_upstreams hstep with ⟨-, hsame⟩ | ⟨getenv, file, rfl, rfl⟩
  · refine ⟨?_, ?_⟩
    · rw [hsame.syncConfig, hsame.lists, h.captured]
    · rw [hsame.syncConfig, hsame.nextConfig]
      exact h.fresh
  · rcases Daemon.reloadConfig_cases s getenv file with hstay | ⟨content, -, -, -, hreload⟩
    · rw [hstay]
      exact h
    · rw [hreload]
      exact h.putInForce _

/-- **Nothing but a round touches the manager.** -/
theorem stepWith_upstreamSync (h : (s.configs s.syncConfig).upstreamServers = servers) {e : Event}
    {out : Option (Verdict × Option Bytes)} (hstep : s.stepWith pick evp e = .ok (s', out)) :
    s'.upstreamSync = s.upstreamSync.map fun m => m.run (e.round servers).toList := by
  have hid : s.upstreamSync.map (fun m => m.run []) = s.upstreamSync := Option.map_id_apply
  cases e with
  | packet data client env =>
    obtain ⟨p, hp, rfl, -⟩ := stepWith_packet hstep
    show p.server.upstreamSync = s.upstreamSync.map fun m => m.run []
    rw [hid]
    rcases processPacketWith_cases hp with ⟨-, -, hsame⟩ | ⟨t, packet, hsame, -, rfl⟩
    · exact hsame.upstreamSync
    · rcases t.finishPacket_same true data env with hstay | hraise
      · exact hstay.upstreamSync.trans hsame.upstreamSync
      · rw [hraise.upstreamSync]
        rcases t.applyDynamicStratum_cases with hno | ⟨-, hyes⟩
        · rw [hno]
          exact hsame.upstreamSync
        · rw [hyes]
          exact hsame.upstreamSync
  | sync world now =>
    cases hstep
    show s.upstreamSync.map _ = _
    rw [h]
    rfl
  | reload getenv file =>
    cases hstep
    show (s.reloadConfig getenv file).2.upstreamSync = s.upstreamSync.map fun m => m.run []
    rw [hid]
    rcases Daemon.reloadConfig_cases s getenv file with hstay | ⟨content, -, -, -, hreload⟩
    · rw [hstay]
    · rw [hreload]
      rfl
  | cleanup =>
    cases hstep
    show s.cleanupConnections.upstreamSync = s.upstreamSync.map fun m => m.run []
    rw [hid]
    exact s.cleanupConnections_same.upstreamSync

/-- **The manager's state is its own run**, over the rounds among the events;
induction on the events. -/
theorem runWith_upstreamSync (h : Queries servers s) {events : List Event}
    {outs : List (Option (Verdict × Option Bytes))}
    (hrun : s.runWith pick evp events = .ok (s', outs)) :
    Queries servers s' ∧
      s'.upstreamSync = s.upstreamSync.map fun m => m.run (syncRounds servers events) := by
  induction events generalizing s outs with
  | nil =>
    cases hrun
    exact ⟨h, Option.map_id_apply.symm⟩
  | cons e events ih =>
    obtain ⟨t, out, outs', hstep, hrest, -⟩ := runWith_cons hrun
    obtain ⟨hqueries, hsync⟩ := ih (h.step hstep) hrest
    refine ⟨hqueries, ?_⟩
    rw [hsync, stepWith_upstreamSync h.captured hstep, Option.map_map]
    congr 1
    funext m
    have hrounds : syncRounds servers (e :: events)
        = (e.round servers).toList ++ syncRounds servers events := by
      unfold syncRounds
      cases hround : e.round servers with
      | none => rw [List.filterMap_cons_none hround]; rfl
      | some r => rw [List.filterMap_cons_some hround]; rfl
    rw [hrounds, UpstreamSyncManager.run_append]
    rfl

end NtpServer

/-! ## What is reported -/

/-- upstream_sync.cpp:223–234. -/
def UpstreamSyncManager.statusSummary (m : UpstreamSyncManager) : Str :=
  lit "  Upstream Sync: " ++ (if m.synced then lit "Synced" else lit "Not synced") ++ lit "\n" ++
  if m.synced then
    lit "  Synced Upstream: " ++ m.syncedUpstream ++ lit "\n" ++
    lit "  Clock Offset (us): " ++ toDecimalInt m.clockOffsetUs ++ lit "\n" ++
    lit "  Last RTT (us): " ++ toDecimalInt m.lastDelayUs ++ lit "\n" ++
    lit "  Upstream Stratum: " ++ toDecimal m.upstreamStratum.toNat ++ lit "\n"
  else []

namespace NtpServer

/-- `upstream_sync_ && upstream_sync_->isSynced()`. -/
def isSynced (s : NtpServer) : Bool := s.upstreamSync.any (·.synced)

/-- The part of the metrics that is about the upstream servers
(server.cpp:702–710). -/
def upstreamMetrics (s : NtpServer) : Str :=
  match s.upstreamSync with
  | none => []
  | some m =>
    lit "# HELP simple_ntpd_upstream_synced Whether upstream sync succeeded\n" ++
    lit "# TYPE simple_ntpd_upstream_synced gauge\n" ++
    lit "simple_ntpd_upstream_synced " ++ (if m.synced then lit "1" else lit "0") ++ lit "\n" ++
    lit "# HELP simple_ntpd_clock_offset_us Estimated clock offset from upstream\n" ++
    lit "# TYPE simple_ntpd_clock_offset_us gauge\n" ++
    lit "simple_ntpd_clock_offset_us " ++ toDecimalInt m.clockOffsetUs ++ lit "\n"

/-- The part of the status that is about the manager (server.cpp:663–665). -/
def upstreamStatus (s : NtpServer) : Str := (s.upstreamSync.map (·.statusSummary)).getD []

/-- The part of the health check that is about the manager: whether it leaves the server
healthy, and the lines of the report (server.cpp:747–754). -/
def upstreamHealth (s : NtpServer) : Bool × Str :=
  if s.currentConfig.upstreamServers.isEmpty then (true, [])
  else if s.isSynced then (true, lit "upstream_synced: true\n")
  else (false, lit "upstream_synced: false\n"
    ++ lit "warning: upstream time synchronization not established\n")

variable {s s' : NtpServer}

/-- With an answer of stratum 1 or more, the stratum of the replies is that of the
manager. -/
theorem responseStratum_of_synced {m : UpstreamSyncManager} (h : s.upstreamSync = some m)
    (hsynced : m.synced = true) (hstratum : m.upstreamStratum ≠ 0) :
    s.responseStratum = UInt8.ofInt (max 1 (min ((m.upstreamStratum.toNat : Int) + 1) 15)) := by
  unfold responseStratum UpstreamSyncManager.effectiveStratum
  rw [h]
  dsimp only
  rw [if_pos hsynced, hsynced, beq_false_of_ne hstratum]
  rfl

/-- The reports on the upstream servers agree, as far as they do not depend on
the configuration in force. -/
structure SameReports (s s' : NtpServer) : Prop where
  isSynced : s'.isSynced = s.isSynced
  metrics : s'.upstreamMetrics = s.upstreamMetrics
  status : s'.upstreamStatus = s.upstreamStatus
  health : s'.upstreamHealth.1 = (s'.currentConfig.upstreamServers.isEmpty || s.isSynced)
  stratum : ∀ m, s.upstreamSync = some m → m.synced = true → m.upstreamStratum ≠ 0 →
    s'.responseStratum = s.responseStratum

/-- Two servers with the same manager report the same on the upstream servers. -/
theorem SameReports.of_upstreamSync (h : s'.upstreamSync = s.upstreamSync) : SameReports s s' := by
  have hsynced : s'.isSynced = s.isSynced := by
    unfold NtpServer.isSynced
    rw [h]
  constructor
  · exact hsynced
  · unfold upstreamMetrics
    rw [h]
  · unfold upstreamStatus
    rw [h]
  · unfold upstreamHealth
    rw [hsynced]
    cases s'.currentConfig.upstreamServers.isEmpty <;> cases s.isSynced <;> rfl
  · intro m hm hsync hstratum
    rw [responseStratum_of_synced (h.trans hm) hsync hstratum,
      responseStratum_of_synced hm hsync hstratum]

end NtpServer

/-- **The loss of synchronisation is not noticed.** For every run of a server and
every continuation of it in which all rounds fail, however many: the server
counts as synchronised exactly when some round of the first run was answered; its
metrics, its status and its health check present the synchronisation as they did
before; and replies are sent with the stratum derived then. -/
theorem lost_sync_unnoticed (evp : Evp) (c : NtpConfig) (logger : LoggerSettings)
    (before : List Event) (s : NtpServer) (outs : List (Option (Verdict × Option Bytes)))
    (hrun : (NtpServer.start c logger).run evp before = .ok (s, outs)) (failing : List Event)
    (hfailed : ∀ r ∈ syncRounds c.upstreamServers failing, r.Failed) (s' : NtpServer)
    (outs' : List (Option (Verdict × Option Bytes)))
    (hrun' : s.run evp failing = .ok (s', outs')) :
    (s'.isSynced = true ↔ ∃ r ∈ syncRounds c.upstreamServers before, ¬r.Failed) ∧
      NtpServer.SameReports s s' ∧
      ∀ data client env p reply, s'.processPacket evp data client env = .ok p →
        p.reply = some reply → (∃ m, s.upstreamSync = some m ∧ m.synced = true ∧
          m.upstreamStratum ≠ 0) → (NtpPacket.decode reply).stratum = s.responseStratum := by
  obtain ⟨hqueries, hsync⟩ := NtpServer.runWith_upstreamSync (.start c logger) hrun
  have hstay : s'.upstreamSync = s.upstreamSync := by
    rw [(NtpServer.runWith_upstreamSync hqueries hrun').2]
    have hid : (fun m : UpstreamSyncManager => m.run (syncRounds c.upstreamServers failing)) = id :=
      funext (UpstreamSyncManager.run_of_failed hfailed)
    rw [hid, Option.map_id_apply]
  have hreports := NtpServer.SameReports.of_upstreamSync hstay
  refine ⟨?_, hreports, ?_⟩
  · rw [hreports.isSynced, NtpServer.isSynced, hsync]
    show (Option.map _ (if c.upstreamServers.isEmpty then none else some _)).any _ = true ↔ _
    cases hempty : c.upstreamServers.isEmpty with
    | true =>
      -- without servers there is no manager and no answer
      refine iff_of_false Bool.false_ne_true ?_
      rintro ⟨r, hr, hanswered⟩
      obtain ⟨e, -, hround⟩ := List.mem_filterMap.mp hr
      cases e with
      | sync world now =>
        cases hround
        refine hanswered fun q hq => ?_
        rw [List.isEmpty_iff.mp hempty] at hq
        cases hq
      | packet | reload | cleanup => cases hround
    | false =>
      show (UpstreamSyncManager.run {} _).synced = true ↔ _
      rw [UpstreamSyncManager.run_synced_iff]
      exact or_iff_right Bool.false_ne_true
  · rintro data client env p reply hp hreply ⟨m, hm, hsynced, hstratum⟩
    obtain ⟨request, -, hdecode⟩ := NtpServer.decode_reply hp hreply
    rw [hdecode, NtpServer.replyPacket_stratum, hreports.stratum m hm hsynced hstratum]

/-- A query that is not answered. -/
def silentQuery : QueryEnv := { exampleQuery exampleReply exampleServer with received := none }

/-- A round of the server of the example in which it does not answer. -/
def silentRound : SyncRound := { exampleRound with world := fun _ => silentQuery }

theorem silentRound_failed : silentRound.Failed := fun _ _ => rfl

theorem exampleRound_not_failed : ¬exampleRound.Failed := by
  intro h
  have hanswered : (exampleRound.query (lit "a", 0)).success = true := by decide +kernel
  rw [h (lit "a", 0) List.mem_cons_self] at hanswered
  cases hanswered

/-- A server with one upstream server. -/
def followingConfig : NtpConfig := { NtpConfig.defaults with upstreamServers := [lit "a"] }

/-- A server is synced by a round that was answered, and reports the same after one that
was not. -/
theorem lost_sync_unnoticed_example :
    ∃ s s', (NtpServer.start followingConfig (NtpServer.loggerSettings followingConfig)).run
        (fun _ _ => none) [.sync exampleRound.world 0] = .ok (s, [none]) ∧
      s.run (fun _ _ => none) [.sync silentRound.world 64] = .ok (s', [none]) ∧
      ((s'.isSynced = true ↔
          ∃ r ∈ syncRounds followingConfig.upstreamServers [.sync exampleRound.world 0],
            ¬r.Failed) ∧
        NtpServer.SameReports s s' ∧
        ∀ data client env p reply, s'.processPacket (fun _ _ => none) data client env = .ok p →
          p.reply = some reply → (∃ m, s.upstreamSync = some m ∧ m.synced = true ∧
            m.upstreamStratum ≠ 0) → (NtpPacket.decode reply).stratum = s.responseStratum) := by
  refine ⟨_, _, rfl, rfl, lost_sync_unnoticed _ followingConfig _ _ _ _ rfl
    [.sync silentRound.world 64] ?_ _ _ rfl⟩
  intro r hr
  cases List.mem_singleton.mp hr
  exact fun _ _ => rfl

/-- One answer, and any number of rounds without. -/
theorem synced_for_good :
    ¬ ∃ N : Nat, ∀ rounds failing : List SyncRound, N ≤ failing.length →
      (∀ r ∈ failing, r.Failed) →
      (UpstreamSyncManager.run {} (rounds ++ failing)).synced = false := by
  rintro ⟨N, h⟩
  have hfalse := h [exampleRound] (List.replicate N silentRound)
    (Nat.le_of_eq List.length_replicate.symm) fun r hr => by
      rw [(List.mem_replicate.mp hr).2]
      exact silentRound_failed
  have hsynced : (UpstreamSyncManager.run {}
      ([exampleRound] ++ List.replicate N silentRound)).synced = true :=
    (UpstreamSyncManager.run_synced_iff _ _).mpr
      (.inr ⟨exampleRound, List.mem_cons_self, exampleRound_not_failed⟩)
  rw [hfalse] at hsynced
  cases hsynced

end SimpleNtpd
