import SimpleNtpd.Core.Snapshots
import SimpleNtpd.Core.WorkerSections
import SimpleNtpd.Lib.Movers

/-!
# One worker thread

With one worker thread a datagram is in `processPacket` while no other one is, and the next
one is received, or the connections are cleaned up, behind it (server.cpp:362–433). Only the
rounds of the sync thread come in between. The worker asks the manager for the stratum of the
reply and, under another lock, for its clock offset; before and behind the two it does not
look at it (`processPacket_asks`).

So where no round commits an answer between the two, and there is no reload, the worker is a
serial server: it does what `processPacket` does on the datagrams in the order in which they
are received, with the rounds between them (`one_worker_serial`).
-/

namespace SimpleNtpd

open Cpp Runs

/-! ## Rounds beside a worker -/

namespace Work

/-- The rounds of the sync thread. They depend on the manager and on the servers that it
queries; a worker asks for the stratum of the reply, and last for its clock offset. -/
def rounds : Steps.Others Shared Access ((Nat → QueryEnv) × Int)
    (Option UpstreamSyncManager × List Str) where
  act round w := { w with server := w.server.syncOnce round.1 round.2 }
  view w := (w.server.upstreamSync, (w.server.configs w.server.syncConfig).upstreamServers)
  asks
    | .stratum => true
    | .offset => true
    | _ => false
  last
    | .offset => true
    | _ => false
  asks_of_last access h := by
    cases access with
    | offset => rfl
    | config | connection | stratum => cases h
  view_act round w w' h := by
    obtain ⟨hmanager, hservers⟩ := Prod.mk.inj h
    show (Option.map _ w.server.upstreamSync, _) = (Option.map _ w'.server.upstreamSync, _)
    rw [hmanager]
    exact Prod.ext (by rw [hservers]) hservers

variable {α : Type}

/-- A step on the server that does not look at the manager, and keeps the servers that this
queries. -/
theorem ignores_onServer {access : Option Access} {f : NtpServer → α × NtpServer}
    (haccess : access = none ∨ access = some .config)
    (hmanager : ∀ s m, f { s with upstreamSync := m } = ((f s).1, { (f s).2 with upstreamSync := m }))
    (hservers : ∀ s, ((f s).2.configs (f s).2.syncConfig).upstreamServers
      = (s.configs s.syncConfig).upstreamServers) : (onServer access f).Ignores rounds := by
  intro w
  have hkept : (f w.server).2.upstreamSync = w.server.upstreamSync :=
    congrArg (fun r => r.2.upstreamSync) (hmanager w.server w.server.upstreamSync)
  have hview : rounds.view { w with server := (f w.server).2 } = rounds.view w :=
    Prod.ext hkept (hservers w.server)
  refine ⟨fun round => ⟨rfl, rfl, ?_, ?_⟩, hview, ?_, trivial⟩
  · -- the round makes the same of the manager before and behind the step
    have hround := rounds.view_act round _ _ hview
    show ({ w with server := (f (w.server.syncOnce round.1 round.2)).2 } : Shared)
      = { w with server := (f w.server).2.syncOnce round.1 round.2 }
    have hmade : ((f w.server).2.syncOnce round.1 round.2).upstreamSync
        = (w.server.syncOnce round.1 round.2).upstreamSync := congrArg Prod.fst hround
    rw [show w.server.syncOnce round.1 round.2 = { w.server with
      upstreamSync := (w.server.syncOnce round.1 round.2).upstreamSync } from rfl, hmanager,
      ← hmade]
    rfl
  · have hboth := hmanager w.server (w.server.syncOnce round.1 round.2).upstreamSync
    have hresult : (f (w.server.syncOnce round.1 round.2)).1 = (f w.server).1 :=
      (Prod.ext_iff.mp hboth).1
    exact congrArg Steps.done hresult
  · intro a ha
    rcases haccess with rfl | rfl
    · cases ha
    · cases ha
      rfl

theorem ignores_config (f : NtpConfig → α) : (config f).Ignores rounds :=
  ignores_onServer (.inr rfl) (fun _ _ => rfl) fun _ => rfl

theorem ignores_update {f : NtpServer → NtpServer}
    (hmanager : ∀ s m, f { s with upstreamSync := m } = { f s with upstreamSync := m })
    (hservers : ∀ s, ((f s).configs (f s).syncConfig).upstreamServers
      = (s.configs s.syncConfig).upstreamServers) : (update f).Ignores rounds :=
  ignores_onServer (.inl rfl) (fun s m => Prod.ext rfl (hmanager s m)) hservers

/-! ## The steps of a worker -/

theorem walkClients_ignores (clientIp : Str) : (walkClients clientIp).Ignores rounds := by
  refine (ignores_config _).bind fun denied => ?_
  rcases anyCidr clientIp denied with e | denied
  · exact Steps.ignores_pure _
  · cases denied with
    | true => exact Steps.ignores_pure _
    | false =>
      refine (ignores_config _).bind fun _ => .ite ?_ ?_
      · exact (ignores_config _).bind fun _ => Steps.ignores_pure _
      · exact (ignores_config _).bind fun _ => Steps.ignores_pure _

theorem isClientAllowed_ignores (clientIp : Str) : (isClientAllowed clientIp).Ignores rounds := by
  refine (ignores_config _).bind fun _ => .ite (walkClients_ignores _) ?_
  exact (ignores_config _).bind fun _ => .ite (walkClients_ignores _) (Steps.ignores_pure _)

theorem isRateLimitExceeded_ignores (clientIp : Str) (now : SteadyTime) :
    (isRateLimitExceeded clientIp now).Ignores rounds :=
  (ignores_config _).bind fun _ =>
    .ite (ignores_onServer (.inr rfl) (fun _ _ => rfl) fun _ => rfl) (Steps.ignores_pure _)

theorem isDegraded_ignores (clientIp : Str) (now : SteadyTime) :
    (isDegraded clientIp now).Ignores rounds := by
  have hanomaly : (isDdosAnomaly clientIp now).Ignores rounds :=
    (ignores_config _).bind fun _ =>
      .ite (ignores_onServer (.inr rfl) (fun _ _ => rfl) fun _ => rfl) (Steps.ignores_pure _)
  exact hanomaly.bind fun _ => .ite (ignores_config _) (Steps.ignores_pure _)

/-- A step of the table of connections takes its mutex, and has no question for the
manager. -/
theorem getOrCreateConnection_ignores (clientIp : Str) (clientPort : UInt16) :
    (getOrCreateConnection clientIp clientPort).Ignores rounds := by
  have hfind : ∀ clientKey, (findConnection clientKey).Ignores rounds := by
    refine fun clientKey w => ⟨fun _ => ⟨rfl, rfl, rfl, rfl⟩, rfl, fun a ha => ?_, trivial⟩
    obtain ⟨conn, -, rfl⟩ := Option.map_eq_some_iff.mp ha
    rfl
  have hadd : ∀ clientKey conn, (addConnection clientKey conn).Ignores rounds :=
    fun _ _ _ => ⟨fun _ => ⟨rfl, rfl, rfl, rfl⟩, rfl, fun _ ha => (by cases ha), trivial⟩
  refine (hfind _).bind fun found => ?_
  cases found with
  | some conn => exact Steps.ignores_pure _
  | none =>
    refine (ignores_onServer (.inr rfl) (fun _ _ => rfl) fun _ => rfl).bind fun ref =>
      (isClientAllowed_ignores _).bind fun allowed => ?_
    cases allowed with
    | error e => exact Steps.ignores_pure _
    | ok trusted => exact (hadd _ _).bind fun _ => Steps.ignores_pure _

/-- A round leaves a manager that is synced synced. -/
theorem synced_syncOnce {m : UpstreamSyncManager} (h : m.synced = true) (servers : List Str)
    (world : Nat → QueryEnv) (now : Int) : (m.syncOnce servers world now).1.synced = true := by
  unfold UpstreamSyncManager.syncOnce
  split
  · exact h
  · dsimp only
    split
    · rfl
    · exact h

/-- A step that reads the manager and nothing else. Where it is not labelled as a question, no
round may make a difference to it. -/
theorem asks_manager {final : Prop} (access : Option UpstreamSyncManager → Option Access)
    (read : Option UpstreamSyncManager → α)
    (hsteady : ∀ m servers world now, (∀ l ∈ access m, rounds.asks l = false) →
      access (m.map fun m => (m.syncOnce servers world now).1) = access m ∧
        read (m.map fun m => (m.syncOnce servers world now).1) = read m)
    (hlast : ∀ m, (∃ l ∈ access m, rounds.last l = true) → final) :
    (Steps.atomic (fun w => access w.server.upstreamSync)
      fun w => (read w.server.upstreamSync, w) : Work α).Asks rounds final := by
  intro w
  refine ⟨fun hquiet round => ?_, rfl, fun h => ⟨hlast _ h, trivial⟩, trivial⟩
  obtain ⟨haccess, hread⟩ := hsteady w.server.upstreamSync _ round.1 round.2 hquiet
  exact ⟨rfl, haccess, rfl, congrArg Steps.done hread⟩

/-- The manager is asked whether it is synced. The answer yes has no label, for no round takes
it back. -/
theorem isSynced_asks : isSynced.Asks rounds False := by
  refine asks_manager (fun sync => sync.bind fun m => if m.synced then none else some .stratum)
    (fun sync => sync.any (·.synced)) ?_ ?_
  · intro sync servers world now hquiet
    cases sync with
    | none => exact ⟨rfl, rfl⟩
    | some m =>
      have hsynced : m.synced = true := by
        by_contra hnot
        have hasked := hquiet .stratum (by rw [Option.bind_some, if_neg hnot]; rfl)
        cases hasked
      have hstill := synced_syncOnce hsynced servers world now
      rw [Option.map_some, Option.bind_some, Option.bind_some, if_pos hstill, if_pos hsynced,
        Option.any_some, Option.any_some, hstill, hsynced]
      exact ⟨rfl, rfl⟩
  · rintro sync ⟨access, haccess, hlast⟩
    obtain ⟨m, -, hlabel⟩ := Option.bind_eq_some_iff.mp haccess
    split at hlabel
    · cases hlabel
    · cases hlabel
      cases hlast

theorem responseStratum_asks : responseStratum.Asks rounds False := by
  have heffective : ∀ configured, (effectiveStratum configured).Asks rounds False := by
    intro configured
    refine asks_manager (fun _ => some .stratum)
      (fun sync => (sync.map (·.effectiveStratum configured)).getD configured) ?_ ?_
    · intro sync servers world now hquiet
      have hasked := hquiet .stratum rfl
      cases hasked
    · rintro sync ⟨access, haccess, hlast⟩
      cases haccess
      cases hlast
  refine (ignores_config _).bind_asks fun _ => isSynced_asks.bind (fun synced => ?_) False.elim
  exact .ite ((ignores_config _).bind_asks fun _ => heffective _) trivial

theorem effectiveReferenceId_ignores : effectiveReferenceId.Ignores rounds := by
  refine (ignores_config _).bind fun _ => .ite (ignores_config _) ?_
  refine (ignores_config _).bind fun _ => .ite (Steps.ignores_pure _) ?_
  refine .ite (Steps.ignores_pure _) (.ite (Steps.ignores_pure _) ?_)
  exact (ignores_config _).bind fun _ => .ite (Steps.ignores_pure _) (ignores_config _)

/-- A new stratum leaves the servers of the configuration it is written into. -/
theorem putStratum_upstreamServers (s : NtpServer) (stratum : UInt8) (ref : ConfigRef) :
    ((s.putStratum stratum).configs ref).upstreamServers = (s.configs ref).upstreamServers := by
  show (Function.update s.configs s.config { s.currentConfig with stratum := stratum }
    ref).upstreamServers = _
  by_cases href : ref = s.config
  · rw [href, Function.update_self]
    rfl
  · rw [Function.update_of_ne href]

theorem applyDynamicStratum_ignores : applyDynamicStratum.Ignores rounds := by
  refine (ignores_config _).bind fun _ => .ite ?_ (Steps.ignores_pure _)
  refine (ignores_onServer (.inl rfl) (fun _ _ => rfl) fun _ => rfl).bind fun _ =>
    .ite ?_ (Steps.ignores_pure _)
  refine (ignores_config _).bind fun _ => .ite ?_ (Steps.ignores_pure _)
  refine (ignores_config _).bind fun stratum => ?_
  exact ignores_onServer (.inr rfl) (fun _ _ => rfl) fun s => putStratum_upstreamServers s _ _

theorem selectUpstreamServer_ignores (randomIndex : Nat) :
    (selectUpstreamServer randomIndex).Ignores rounds := by
  refine (ignores_config _).bind fun _ => .ite (Steps.ignores_pure _) ?_
  have hfill : fillHealthy.Ignores rounds :=
    (ignores_onServer (.inl rfl) (fun _ _ => rfl) fun _ => rfl).bind fun _ =>
      .ite (ignores_onServer (.inr rfl) (fun _ _ => rfl) fun _ => rfl) (Steps.ignores_pure _)
  refine hfill.bind fun _ =>
    (ignores_onServer (.inl rfl) (fun _ _ => rfl) fun _ => rfl).bind fun healthy =>
      .ite (Steps.ignores_pure _) ((ignores_config _).bind fun algorithm => ?_)
  cases algorithm
  case random => exact Steps.ignores_pure _
  all_goals exact ignores_onServer (.inl rfl) (fun _ _ => rfl) fun _ => rfl

/-- The clock offset is the last question. Without a manager there is nothing to ask, now and
after any round. -/
theorem applyClockOffset_asks (response : NtpPacket) :
    (applyClockOffset response).Asks rounds True := by
  refine asks_manager (fun sync => sync.map fun _ => .offset)
    (fun sync => SimpleNtpd.applyClockOffset sync response) ?_ fun _ _ => trivial
  intro sync servers world now hquiet
  cases sync with
  | none => exact ⟨rfl, rfl⟩
  | some m =>
    have hasked := hquiet .offset rfl
    cases hasked

theorem buildReply_asks (request : NtpPacket) (env : PacketEnv) :
    (buildReply request env).Asks rounds True := by
  refine responseStratum_asks.bind (fun _ => ?_) False.elim
  refine effectiveReferenceId_ignores.bind_asks fun _ =>
    applyDynamicStratum_ignores.bind_asks fun _ => ?_
  have hselect : ∀ response : NtpPacket,
      (selectUpstreamServer env.randomIndex >>= fun selected =>
        pure (response.serializeToData, selected) : Work (Bytes × Str)).Ignores rounds :=
    fun _ => (selectUpstreamServer_ignores _).bind fun _ => Steps.ignores_pure _
  exact (applyClockOffset_asks _).bind (fun _ => (hselect _).asks) fun _ =>
    ⟨trivial, fun _ => hselect _⟩

/-- The counters are updated, and that is the end. -/
theorem update_pure_ignores {f : NtpServer → NtpServer} (result : α)
    (hmanager : ∀ s m, f { s with upstreamSync := m } = { f s with upstreamSync := m })
    (hservers : ∀ s, ((f s).configs (f s).syncConfig).upstreamServers
      = (s.configs s.syncConfig).upstreamServers) :
    (update f >>= fun _ => pure result : Work α).Ignores rounds :=
  (ignores_update hmanager hservers).bind fun _ => Steps.ignores_pure _

theorem recordSendFailure_ignores (selected : Str) :
    (recordSendFailure selected).Ignores rounds := by
  have hcount : (update (·.countError)).Ignores rounds :=
    ignores_update (fun _ _ => rfl) fun _ => rfl
  refine hcount.bind fun _ => (ignores_config _).bind fun _ => .ite ?_ (Steps.ignores_pure _)
  exact .ite (Steps.ignores_pure _) (ignores_update (fun _ _ => rfl) fun _ => rfl)

theorem finishPacket_asks (accepted : Bool) (data : Bytes) (env : PacketEnv) :
    (finishPacket accepted data env).Asks rounds True := by
  refine .ite ?_ (Steps.Ignores.asks (update_pure_ignores _ (fun _ _ => rfl) fun _ => rfl))
  obtain ⟨parsed, request⟩ := NtpPacket.new.parseFromData data
  cases parsed with
  | false => exact Steps.Ignores.asks (update_pure_ignores _ (fun _ _ => rfl) fun _ => rfl)
  | true =>
    -- what is done when the reply is built has no question
    have hsend : ∀ reply : Bytes × Str, (do
        if env.sendOk then
          update fun s => (s.recordReply data.length).recordTime env
          return (.answered, some reply.1)
        else
          recordSendFailure reply.2
          return (.answered, some reply.1) : Work (Verdict × Option Bytes)).Ignores rounds := by
      intro reply
      refine .ite (update_pure_ignores _ (fun _ _ => rfl) fun _ => rfl) ?_
      exact (recordSendFailure_ignores _).bind fun _ => Steps.ignores_pure _
    exact (buildReply_asks request env).bind (fun reply => (hsend reply).asks) fun _ =>
      ⟨trivial, hsend⟩

/-- **What a worker asks the sync manager**: in the end the clock offset, before it whatever is
labelled, and nothing behind it. -/
theorem processPacket_asks (evp : Evp) (data : Bytes) (client : SockAddr) (env : PacketEnv) :
    (processPacket evp data client env).Asks rounds True := by
  have hrefuse : ∀ r : Except Exn (Verdict × Option Bytes),
      (update (·.countError) >>= fun _ => pure r : Work _).Asks rounds True := fun _ =>
    Steps.Ignores.asks (update_pure_ignores _ (fun _ _ => rfl) fun _ => rfl)
  have hhandle : (onServer none fun s => s.handleOn NtpServer.captured evp
      (NtpServer.connectionKey (inetNtop client.ip) client.port) env.requestTime data).Ignores
        rounds := by
    refine ignores_onServer (.inl rfl) (fun s m => ?_) fun s => ?_
    · unfold NtpServer.handleOn NtpServer.onConnection
      dsimp only
      cases s.activeConnections.lookup
        (NtpServer.connectionKey (inetNtop client.ip) client.port) <;> rfl
    · unfold NtpServer.handleOn NtpServer.onConnection
      cases s.activeConnections.lookup
        (NtpServer.connectionKey (inetNtop client.ip) client.port) <;> rfl
  have hserve : (serve evp data client env).Asks rounds True := by
    refine (getOrCreateConnection_ignores _ _).bind_asks fun connected => ?_
    cases connected with
    | error e => trivial
    | ok _ =>
      exact hhandle.bind_asks fun _ => (finishPacket_asks _ _ _).bind (fun _ => trivial) fun _ =>
        ⟨trivial, fun _ => trivial⟩
  refine (isClientAllowed_ignores _).bind_asks fun allowed => ?_
  rcases allowed with e | allowed
  · trivial
  · cases allowed with
    | false => exact hrefuse _
    | true =>
      exact (isRateLimitExceeded_ignores _ _).bind_asks fun _ => .ite (hrefuse _)
        ((isDegraded_ignores _ _).bind_asks fun _ => .ite (hrefuse _) hserve)

end Work

/-! ## Serial servers -/

/-- A round of the sync thread. -/
def Event.isRound : Event → Bool
  | sync _ _ => true
  | _ => false

/-- The rounds come in the same order, and so does all else. -/
def SameOrder (events events' : List Event) : Prop :=
  events.filter Event.isRound = events'.filter Event.isRound ∧
    events.filter (!·.isRound) = events'.filter (!·.isRound)

section SerialRuns

variable {evp : Evp} {s₀ s s' : NtpServer} {events events' : List Event} {e : Event}
  {answers : List (Verdict × Option Bytes)} {out : Option (Verdict × Option Bytes)}

theorem SameOrder.concat (h : SameOrder events events') (e : Event) :
    SameOrder (events ++ [e]) (events' ++ [e]) := by
  obtain ⟨hrounds, hothers⟩ := h
  constructor
  · rw [List.filter_append, List.filter_append, hrounds]
  · rw [List.filter_append, List.filter_append, hothers]

/-- A round may come before what is not a round, and behind it. -/
theorem SameOrder.round (h : SameOrder (events ++ [e]) events') (he : e.isRound = false)
    (world : Nat → QueryEnv) (now : Int) :
    SameOrder (events ++ [.sync world now] ++ [e]) (events' ++ [.sync world now]) := by
  obtain ⟨hrounds, hothers⟩ := h
  have hnone : [e].filter Event.isRound = [] := by
    rw [List.filter_singleton, he]
    rfl
  have hkept : [e].filter (!·.isRound) = [e] := by
    rw [List.filter_singleton, he]
    rfl
  rw [List.filter_append, hnone, List.append_nil] at hrounds
  rw [List.filter_append, hkept] at hothers
  constructor
  · rw [List.filter_append, List.filter_append, List.filter_append, hnone, List.append_nil, hrounds]
  · rw [List.filter_append, List.filter_append, List.filter_append, hkept]
    show (_ ++ []) ++ [e] = _ ++ []
    rw [List.append_nil, List.append_nil, hothers]

/-- A serial server comes to a state, with some answers to the datagrams, by the given events up
to the places of the rounds. -/
def Reached (evp : Evp) (s₀ : NtpServer) (events : List Event) (s : NtpServer)
    (answers : List (Verdict × Option Bytes)) : Prop :=
  ∃ serial outs, s₀.run evp serial = .ok (s, outs) ∧ SameOrder serial events ∧
    outs.filterMap id = answers

theorem Reached.start (evp : Evp) (s : NtpServer) : Reached evp s [] s [] :=
  ⟨[], [], rfl, ⟨rfl, rfl⟩, rfl⟩

theorem Reached.concat (h : Reached evp s₀ events s answers)
    (hstep : s.stepWith NtpServer.captured evp e = .ok (s', out)) :
    Reached evp s₀ (events ++ [e]) s' (answers ++ out.toList) := by
  obtain ⟨serial, outs, hrun, horder, rfl⟩ := h
  refine ⟨serial ++ [e], outs ++ [out], NtpServer.run_concat hrun hstep, horder.concat e, ?_⟩
  rw [List.filterMap_append]
  cases out <;> rfl

theorem Reached.reorder (h : Reached evp s₀ events s answers) (horder : SameOrder events events') :
    Reached evp s₀ events' s answers := by
  obtain ⟨serial, outs, hrun, hsame, hanswers⟩ := h
  exact ⟨serial, outs, hrun, ⟨hsame.1.trans horder.1, hsame.2.trans horder.2⟩, hanswers⟩

end SerialRuns

/-! ## The threads with one worker -/

/-- The work on a datagram has asked the manager. -/
def LogEntry.asked (id : Nat) (access : Access) : LogEntry → Bool
  | read i a _ => i == id && a == access
  | _ => false

/-- The event of a serial server. -/
def Turn.event : Turn → Option Event
  | receive data client env => some (.packet data client env)
  | sync world now => some (.sync world now)
  | cleanup => some .cleanup
  | _ => none

namespace Threads

/-- The work on a datagram has asked for something. -/
def hasAsked (n : Threads) (id : Nat) (access : Access) : Bool := n.log.any (LogEntry.asked id access)

/-- No datagram is under way. -/
def idle (n : Threads) : Bool := n.work.all Steps.isDone

/-- For the last datagram the stratum of the reply has been asked for, and its clock offset has
not. -/
def insideReply (n : Threads) : Bool :=
  n.hasAsked (n.work.length - 1) .stratum && !n.hasAsked (n.work.length - 1) .offset

/-- What the daemon does with one worker thread, where there is no reload and no round commits
an answer inside a reply. -/
def OneWorker (n : Threads) : Turn → Prop
  | .receive _ _ _ => n.idle = true
  | .worker _ => True
  | .sync world now => n.insideReply = true → commits? n.shared.server world now = false
  | .replace _ => False
  | .cleanup => n.idle = true

instance OneWorker.decidable (n : Threads) (turn : Turn) : Decidable (n.OneWorker turn) := by
  unfold OneWorker
  cases turn <;> infer_instance

/-! ## Rounds that commit nothing -/

section Rounds

variable {s : NtpServer} {world : Nat → QueryEnv} {now : Int}

/-- A round without a commit leaves the server as it is. -/
theorem syncOnce_of_not_commits (h : commits? s world now = false) : s.syncOnce world now = s := by
  unfold commits? at h
  unfold NtpServer.syncOnce
  cases hmanager : s.upstreamSync with
  | none =>
    rw [Option.map_none, ← hmanager]
  | some m =>
    rw [hmanager, Option.any_some] at h
    have hkept : (m.syncOnce (s.configs s.syncConfig).upstreamServers world now).1 = m := by
      unfold UpstreamSyncManager.syncOnce at h ⊢
      split at h
      · rename_i hempty
        rw [if_pos hempty]
      · rename_i hservers
        rw [if_neg hservers]
        dsimp only at h ⊢
        split at h
        · rename_i hsuccess
          rw [hsuccess] at h
          cases h
        · rename_i hfailed
          rw [if_neg hfailed]
    rw [Option.map_some, hkept, ← hmanager]

/-- Whether a round commits an answer depends on what the rounds look at. -/
theorem commits_congr {w w' : Shared} (h : Work.rounds.view w = Work.rounds.view w') :
    commits? w.server world now = commits? w'.server world now := by
  obtain ⟨hmanager, hservers⟩ := Prod.mk.inj h
  unfold commits?
  rw [hmanager, hservers]

end Rounds

/-! ## One turn -/

/-- The work on a datagram that has been answered. -/
def ended (answer : Verdict × Option Bytes) : Work (Except Exn (Verdict × Option Bytes)) :=
  .done (.ok answer)

section Turns

variable {evp : Evp} {s₀ s : NtpServer} {n n' : Threads} {events : List Event} {id : Nat}
  {p p' q : Work (Except Exn (Verdict × Option Bytes))} {w : Shared} {label : Option Access}
  {answers : List (Verdict × Option Bytes)}

/-- A step of the work on a datagram, if there is one, is logged. -/
theorem step_worker_cases (h : n.step evp (.worker id) = .ok n') :
    n' = n ∨ ∃ p p' label, n.work[id]? = some p ∧
      p.advance n.shared = some (p', n'.shared, label) ∧ (∀ e, p' ≠ .done (.error e)) ∧
      n'.work = n.work.set id p' ∧
      ∀ i access, n'.hasAsked i access
        = (n.hasAsked i access || (decide (i = id) && decide (label = some access))) := by
  rw [step] at h
  split at h
  · cases h
    exact .inl rfl
  · cases h
  · rename_i p' w label hok hadvance
    cases h
    obtain ⟨p, hp, hadvance⟩ := Option.bind_eq_some_iff.mp hadvance
    refine .inr ⟨p, p', label, hp, hadvance, hok, rfl, ?_⟩
    intro i access
    unfold hasAsked
    rw [List.any_append]
    congr 1
    cases label with
    | none => simp
    | some a => simp [LogEntry.asked, eq_comm, Bool.beq_eq_decide_eq]

/-- A datagram is under way, behind those that are answered. -/
structure Serving (n : Threads) (answers : List (Verdict × Option Bytes))
    (p : Work (Except Exn (Verdict × Option Bytes))) : Prop where
  work : n.work = answers.map ended ++ [p]
  unfinished : p.isDone = false

/-- The work that goes on is that on the datagram. -/
theorem Serving.current (h : n.Serving answers p) (hq : n.work[id]? = some q)
    {r : Work (Except Exn (Verdict × Option Bytes)) × Shared × Option Access}
    (hadvance : q.advance n.shared = some r) : id = answers.length ∧ q = p := by
  rw [h.work] at hq
  rcases Nat.lt_or_ge id (answers.map ended).length with hlt | hge
  · -- what is answered takes no more step
    rw [List.getElem?_append_left hlt, List.getElem?_map] at hq
    obtain ⟨answer, -, rfl⟩ := Option.map_eq_some_iff.mp hq
    cases hadvance
  · rw [List.getElem?_append_right hge] at hq
    rw [List.getElem?_singleton] at hq
    split at hq
    · rename_i hzero
      rw [List.length_map] at hge hzero
      exact ⟨by omega, (Option.some.inj hq).symm⟩
    · cases hq

theorem Serving.set (h : n.Serving answers p)
    (p' : Work (Except Exn (Verdict × Option Bytes))) :
    n.work.set answers.length p' = answers.map ended ++ [p'] := by
  rw [h.work, List.set_append_right _ _ (by rw [List.length_map]), List.length_map, Nat.sub_self]
  rfl

theorem Serving.not_idle (h : n.Serving answers p) : n.idle = false := by
  rw [idle, h.work, List.all_append, List.all_cons, h.unfinished]
  exact Bool.and_false _

/-! ## What holds between two turns -/

/-- The worker may still ask the manager. What it has done so far could be done, with what is
to come, by the serial server alone; and behind any rounds as long as it has not asked for the
stratum. -/
structure Asking (n : Threads) (s : NtpServer) (q p : Work (Except Exn (Verdict × Option Bytes)))
    (id : Nat) : Prop where
  asks : p.Asks Work.rounds True
  view : Work.rounds.view n.shared = Work.rounds.view { server := s }
  alone : p.alone n.shared = q.alone { server := s }
  early : n.hasAsked id .stratum = false → ∀ os,
    p.alone (Work.rounds.acts os n.shared) = q.alone (Work.rounds.acts os { server := s })
  offset : n.hasAsked id .offset = false

/-- The threads with one worker and a serial server at the same events. -/
inductive InOrder (evp : Evp) (s₀ : NtpServer) (events : List Event) (n : Threads) : Prop where
  /-- between datagrams they share a state -/
  | idle {answers : List (Verdict × Option Bytes)}
    (reached : Reached evp s₀ events n.shared.server answers)
    (unlocked : n.shared.connectionsLocked = false) (work : n.work = answers.map ended)
  /-- until its last question a datagram is still to come for the serial server -/
  | asking {answers : List (Verdict × Option Bytes)} {before : List Event} {s : NtpServer}
    {data : Bytes} {client : SockAddr} {env : PacketEnv}
    {p : Work (Except Exn (Verdict × Option Bytes))} (reached : Reached evp s₀ before s answers)
    (order : SameOrder (before ++ [.packet data client env]) events) (serving : n.Serving answers p)
    (asking : n.Asking s (Work.processPacket evp data client env) p answers.length)
  /-- behind its last question it has been answered there -/
  | answered {answers : List (Verdict × Option Bytes)} {s : NtpServer}
    {answer : Verdict × Option Bytes} {p : Work (Except Exn (Verdict × Option Bytes))}
    (reached : Reached evp s₀ events s (answers ++ [answer])) (serving : n.Serving answers p)
    (ignores : p.Ignores Work.rounds) (alone : p.alone n.shared = some (.ok answer, { server := s }))
  /-- or it is going to throw -/
  | failing {answers : List (Verdict × Option Bytes)} {e : Exn} {w : Shared}
    {p : Work (Except Exn (Verdict × Option Bytes))} (serving : n.Serving answers p)
    (ignores : p.Ignores Work.rounds) (alone : p.alone n.shared = some (.error e, w))

/-- What `processPacket` does alone is what the serial server does. -/
theorem processPacket_result (evp : Evp) (s : NtpServer) (data : Bytes) (client : SockAddr)
    (env : PacketEnv) :
    (∃ e w, (Work.processPacket evp data client env).alone { server := s } = some (.error e, w)) ∨
      ∃ answer s', (Work.processPacket evp data client env).alone { server := s }
          = some (.ok answer, { server := s' }) ∧
        s.stepWith NtpServer.captured evp (.packet data client env) = .ok (s', some answer) := by
  have hends := Work.processPacket_alone { server := s } rfl evp data client env
  unfold NtpServer.processPacket at hends
  unfold NtpServer.stepWith
  dsimp only at hends ⊢
  cases hpacket : s.processPacketWith NtpServer.captured evp data client env with
  | error e =>
    rw [hpacket] at hends
    obtain ⟨w, hw⟩ := hends
    exact .inl ⟨e, w, hw⟩
  | ok p =>
    rw [hpacket] at hends
    exact .inr ⟨(p.verdict, p.reply), p.server, hends, rfl⟩

/-- **The work on a datagram has ended**, and the serial server has come to the same. -/
theorem InOrder.of_ended {answer : Verdict × Option Bytes}
    (hreached : Reached evp s₀ events s (answers ++ [answer]))
    (hwork : n.work = answers.map ended ++ [p]) (hdone : p.isDone = true)
    (halone : p.alone n.shared = some (.ok answer, { server := s })) : InOrder evp s₀ events n := by
  obtain ⟨r, rfl⟩ := Steps.isDone_iff.mp hdone
  obtain ⟨rfl, hshared⟩ := Prod.mk.inj (Option.some.inj halone)
  have hended : n.work = (answers ++ [answer]).map ended := by
    rw [hwork, List.map_append]
    rfl
  exact .idle (by rwa [hshared]) (by rw [hshared]) hended

/-! ## The worker goes on -/

/-- A step of the worker that is not its last question. -/
theorem Asking.advance (h : n.Asking s q p id)
    (hadvance : p.advance n.shared = some (p', n'.shared, label))
    (hasked : ∀ access, n'.hasAsked id access
      = (n.hasAsked id access || decide (label = some access)))
    (hlast : label ≠ some .offset) : n'.Asking s q p' id := by
  obtain ⟨hview, hasks, -, hquiet⟩ := h.asks.advance hadvance
  constructor
  · exact hasks
  · exact hview.trans h.view
  · exact (Steps.alone_of_advance hadvance).symm.trans h.alone
  · intro hearly os
    rw [hasked, Bool.or_eq_false_iff, decide_eq_false_iff_not] at hearly
    obtain ⟨hbefore, hstratum⟩ := hearly
    rw [← h.early hbefore os]
    refine (hquiet (fun access haccess => ?_) os).symm
    cases access with
    | stratum => exact absurd haccess hstratum
    | offset => exact absurd haccess hlast
    | config | connection => rfl
  · rw [hasked, h.offset, Bool.false_or]
    exact decide_eq_false hlast

/-- **A step of the worker.** -/
theorem InOrder.worker (h : InOrder evp s₀ events n) (hstep : n.step evp (.worker id) = .ok n') :
    InOrder evp s₀ events n' := by
  rcases step_worker_cases hstep with rfl | ⟨p, p', label, hp, hadvance, hok, hwork, hasked⟩
  · exact h
  have hsame := Steps.alone_of_advance hadvance
  have hthrows : ∀ {e w}, p'.isDone = true → p'.alone n'.shared ≠ some (.error e, w) := by
    intro e w hdone halone
    obtain ⟨r, rfl⟩ := Steps.isDone_iff.mp hdone
    exact hok e (congrArg _ (Prod.mk.inj (Option.some.inj halone)).1)
  cases h with
  | idle hreached hunlocked hall =>
    rw [hall, List.getElem?_map] at hp
    obtain ⟨answer, -, rfl⟩ := Option.map_eq_some_iff.mp hp
    cases hadvance
  | @asking answers before s data client env q hreached horder hserving hasking =>
    obtain ⟨rfl, rfl⟩ := hserving.current hp hadvance
    rw [hserving.set] at hwork
    have halone := hsame.symm.trans hasking.alone
    cases hdone : p'.isDone with
    | true =>
      rcases processPacket_result evp _ data client env with ⟨e, w, herror⟩ |
        ⟨answer, s', hanswer, hserver⟩
      · exact absurd (halone.trans herror) (hthrows hdone)
      · exact .of_ended ((hreached.concat hserver).reorder horder) hwork hdone
          (halone.trans hanswer)
    | false =>
      by_cases hlast : label = some .offset
      · have hignores := (hasking.asks.advance hadvance).2.2.1 ⟨.offset, hlast, rfl⟩
        rcases processPacket_result evp _ data client env with ⟨e, w, herror⟩ |
          ⟨answer, s', hanswer, hserver⟩
        · exact .failing ⟨hwork, hdone⟩ hignores (halone.trans herror)
        · exact .answered ((hreached.concat hserver).reorder horder) ⟨hwork, hdone⟩ hignores
            (halone.trans hanswer)
      · refine .asking hreached horder ⟨hwork, hdone⟩ (hasking.advance hadvance ?_ hlast)
        intro access
        rw [hasked, decide_eq_true rfl, Bool.true_and]
  | answered hreached hserving hignores halone =>
    obtain ⟨rfl, rfl⟩ := hserving.current hp hadvance
    rw [hserving.set] at hwork
    cases hdone : p'.isDone with
    | true => exact .of_ended hreached hwork hdone (hsame.symm.trans halone)
    | false =>
      exact .answered hreached ⟨hwork, hdone⟩ (hignores.advance hadvance) (hsame.symm.trans halone)
  | failing hserving hignores halone =>
    obtain ⟨rfl, rfl⟩ := hserving.current hp hadvance
    rw [hserving.set] at hwork
    cases hdone : p'.isDone with
    | true => exact absurd (hsame.symm.trans halone) (hthrows hdone)
    | false => exact .failing ⟨hwork, hdone⟩ (hignores.advance hadvance) (hsame.symm.trans halone)

/-! ## The others go on -/

theorem step_sync {world : Nat → QueryEnv} {now : Int} (h : n.step evp (.sync world now) = .ok n') :
    n'.shared = Work.rounds.act (world, now) n.shared ∧ n'.work = n.work ∧
      ∀ i access, n'.hasAsked i access = n.hasAsked i access := by
  rw [step] at h
  split at h
  · cases h
    refine ⟨rfl, rfl, fun i access => ?_⟩
    show (n.log ++ [LogEntry.committed]).any _ = n.log.any _
    rw [List.any_append]
    exact Bool.or_false _
  · cases h
    exact ⟨rfl, rfl, fun _ _ => rfl⟩

/-- A round comes before the datagram as long as the stratum has not been asked for. Behind that
it commits nothing, and is nothing. -/
theorem Asking.sync (h : n.Asking s q p id) {world : Nat → QueryEnv} {now : Int}
    (hcommits : n.hasAsked id .stratum = true → commits? n.shared.server world now = false)
    (hshared : n'.shared = Work.rounds.act (world, now) n.shared)
    (hasked : ∀ access, n'.hasAsked id access = n.hasAsked id access) :
    n'.Asking (s.syncOnce world now) q p id := by
  constructor
  · exact h.asks
  · rw [hshared]
    exact Work.rounds.view_act (world, now) _ _ h.view
  · rw [hshared]
    cases hstratum : n.hasAsked id .stratum with
    | false => exact h.early hstratum [(world, now)]
    | true =>
      have hquiet := hcommits hstratum
      have hserial : commits? n.shared.server world now = commits? s world now :=
        commits_congr h.view
      rw [hquiet] at hserial
      rw [syncOnce_of_not_commits hserial.symm]
      show p.alone { n.shared with server := n.shared.server.syncOnce world now } = _
      rw [syncOnce_of_not_commits hquiet]
      exact h.alone
  · intro hearly os
    rw [hasked] at hearly
    rw [hshared]
    exact h.early hearly ((world, now) :: os)
  · rw [hasked]
    exact h.offset

/-- **A round of the sync thread.** -/
theorem InOrder.sync (h : InOrder evp s₀ events n) {world : Nat → QueryEnv} {now : Int}
    (hcommits : n.insideReply = true → commits? n.shared.server world now = false)
    (hstep : n.step evp (.sync world now) = .ok n') :
    InOrder evp s₀ (events ++ [.sync world now]) n' := by
  obtain ⟨hshared, hwork, hasked⟩ := step_sync hstep
  have hround : ∀ s : NtpServer, s.stepWith NtpServer.captured evp (.sync world now)
      = .ok (s.syncOnce world now, none) := fun _ => rfl
  have hserves : ∀ {answers p}, n.Serving answers p → n'.Serving answers p :=
    fun hserving => ⟨hwork.trans hserving.work, hserving.unfinished⟩
  cases h with
  | @idle answers hreached hunlocked hall =>
    have hnext := hreached.concat (hround n.shared.server)
    rw [Option.toList_none, List.append_nil] at hnext
    refine .idle ?_ ?_ (hwork.trans hall)
    · rw [hshared]
      exact hnext
    · rw [hshared]
      exact hunlocked
  | @asking answers before s data client env p hreached horder hserving hasking =>
    have hlast : n.work.length - 1 = answers.length := by
      rw [hserving.work, List.length_append, List.length_map]
      rfl
    have hinside : n.insideReply = n.hasAsked answers.length .stratum := by
      rw [insideReply, hlast, hasking.offset]
      exact Bool.and_true _
    have hnext := hreached.concat (hround s)
    rw [Option.toList_none, List.append_nil] at hnext
    exact .asking hnext (horder.round rfl world now) (hserves hserving)
      (hasking.sync (hinside ▸ hcommits) hshared (hasked _))
  | @answered answers s answer p hreached hserving hignores halone =>
    have hnext := hreached.concat (hround s)
    rw [Option.toList_none, List.append_nil] at hnext
    refine .answered hnext (hserves hserving) hignores ?_
    rw [hshared, hignores.alone_act, halone]
    rfl
  | failing hserving hignores halone =>
    have hthrows := hignores.alone_act (world, now) n.shared
    rw [← hshared, halone] at hthrows
    exact .failing (hserves hserving) hignores hthrows

/-- No datagram is under way. -/
theorem InOrder.of_idle (h : InOrder evp s₀ events n) (hidle : n.idle = true) :
    ∃ answers, Reached evp s₀ events n.shared.server answers ∧
      n.shared.connectionsLocked = false ∧ n.work = answers.map ended := by
  have hnot : ∀ {answers p}, ¬n.Serving answers p := fun hserving => by
    rw [hserving.not_idle] at hidle
    cases hidle
  cases h with
  | idle hreached hunlocked hall => exact ⟨_, hreached, hunlocked, hall⟩
  | asking _ _ hserving _ => exact absurd hserving hnot
  | answered _ hserving _ _ => exact absurd hserving hnot
  | failing hserving _ _ => exact absurd hserving hnot

/-- What a datagram has asked for it has been received for. -/
def Numbered (n : Threads) : Prop := ∀ i access, n.work.length ≤ i → n.hasAsked i access = false

theorem Numbered.step (h : n.Numbered) {turn : Turn} (hstep : n.step evp turn = .ok n') :
    n'.Numbered := by
  intro i access hi
  cases turn with
  | receive data client env =>
    cases hstep
    rw [List.length_append] at hi
    exact h i access (Nat.le_of_succ_le hi)
  | worker id =>
    rcases step_worker_cases hstep with rfl | ⟨p, p', label, hp, -, -, hwork, hasked⟩
    · exact h i access hi
    · rw [hwork, List.length_set] at hi
      have hid := (List.getElem?_eq_some_iff.mp hp).1
      rw [hasked, h i access hi, decide_eq_false (by omega : ¬i = id)]
      rfl
  | sync world now =>
    obtain ⟨-, hwork, hasked⟩ := step_sync hstep
    rw [hwork] at hi
    rw [hasked]
    exact h i access hi
  | replace c =>
    cases hstep
    show (n.log ++ [LogEntry.replaced]).any _ = false
    rw [List.any_append]
    exact (Bool.or_false _).trans (h i access hi)
  | cleanup =>
    rw [Threads.step] at hstep
    split at hstep
    · cases hstep
      exact h i access hi
    · cases hstep
      exact h i access hi

/-- **A datagram is received**, while no other one is under way. -/
theorem InOrder.receive (h : InOrder evp s₀ events n) (hnumbered : n.Numbered)
    (hidle : n.idle = true) (data : Bytes) (client : SockAddr) (env : PacketEnv) :
    InOrder evp s₀ (events ++ [.packet data client env])
      { n with work := n.work ++ [Work.processPacket evp data client env] } := by
  obtain ⟨answers, hreached, hunlocked, hall⟩ := h.of_idle hidle
  have hshared : n.shared = { server := n.shared.server } := by rw [← hunlocked]
  have hnone : ∀ access, n.hasAsked answers.length access = false := by
    intro access
    refine hnumbered _ access ?_
    rw [hall, List.length_map]
  refine .asking hreached ⟨rfl, rfl⟩ ⟨congrArg (· ++ _) hall, rfl⟩ ?_
  constructor
  · exact Work.processPacket_asks evp data client env
  · exact congrArg Work.rounds.view hshared
  · exact congrArg _ hshared
  · intro _ os
    exact congrArg (fun w => Steps.alone _ (Work.rounds.acts os w)) hshared
  · exact hnone .offset

/-- **A clean-up**, while no datagram is under way. -/
theorem InOrder.cleanup (h : InOrder evp s₀ events n) (hidle : n.idle = true)
    (hstep : n.step evp .cleanup = .ok n') : InOrder evp s₀ (events ++ [.cleanup]) n' := by
  obtain ⟨answers, hreached, hunlocked, hall⟩ := h.of_idle hidle
  have hclean : n.shared.server.stepWith NtpServer.captured evp .cleanup
      = .ok (n.shared.server.cleanupConnections, none) := rfl
  have hnext := hreached.concat hclean
  rw [Option.toList_none, List.append_nil] at hnext
  rw [step, hunlocked, if_neg Bool.false_ne_true] at hstep
  cases hstep
  exact .idle hnext hunlocked hall

/-- **A run with one worker**; induction on the turns. -/
theorem InOrder.run (h : InOrder evp s₀ events n) (hnumbered : n.Numbered) {turns : List Turn}
    (hworker : EveryStep (step evp) (fun n turn _ => n.OneWorker turn) n turns)
    (hrun : n.run evp turns = .ok n') :
    InOrder evp s₀ (events ++ turns.filterMap Turn.event) n' := by
  induction turns generalizing n events with
  | nil =>
    cases hrun
    rwa [List.filterMap_nil, List.append_nil]
  | cons turn turns ih =>
    obtain ⟨m, hstep, hrest⟩ := Components.foldlM_cons_iff.mp hrun
    obtain ⟨hturn, hturns⟩ := hworker m hstep
    have hnumbered' := hnumbered.step hstep
    have hafter : ∀ e, InOrder evp s₀ (events ++ [e]) m →
        InOrder evp s₀ (events ++ e :: turns.filterMap Turn.event) n' := by
      intro e hnext
      have hend := ih hnext hnumbered' hturns hrest
      rwa [List.append_assoc] at hend
    cases turn with
    | receive data client env =>
      cases hstep
      exact hafter _ (h.receive hnumbered hturn data client env)
    | worker id => exact ih (h.worker hstep) hnumbered' hturns hrest
    | sync world now => exact hafter _ (h.sync hturn hstep)
    | replace c => exact hturn.elim
    | cleanup => exact hafter _ (h.cleanup hturn hstep)

end Turns

/-- **With one worker thread the daemon is a serial server.** On every run without a reload in
which no round commits an answer between the questions for the stratum and the clock offset of
one reply, and which ends between two datagrams: the server that processes each datagram at
once and does the same rounds, the datagrams in the order in which they were received and the
rounds in theirs, ends in the same state and gives the same answers, bytes of the replies
included. -/
theorem one_worker_serial (evp : Evp) (c : NtpConfig) (logger : LoggerSettings)
    (turns : List Turn) (n : Threads) (hrun : (start c logger).run evp turns = .ok n)
    (hworker : EveryStep (step evp) (fun n turn _ => n.OneWorker turn) (start c logger) turns)
    (hidle : n.idle = true) :
    ∃ events outs, (NtpServer.start c logger).run evp events = .ok (n.shared.server, outs) ∧
      events.filter (!·.isRound) = (turns.filterMap Turn.event).filter (!·.isRound) ∧
      events.filter Event.isRound = (turns.filterMap Turn.event).filter Event.isRound ∧
      n.work = (outs.filterMap id).map fun answer => .done (.ok answer) := by
  have hstart : InOrder evp (NtpServer.start c logger) [] (start c logger) :=
    .idle (.start evp _) rfl (List.map_nil).symm
  have hnumbered : (start c logger).Numbered := fun _ _ _ => rfl
  obtain ⟨answers, ⟨events, outs, hserial, ⟨hrounds, hothers⟩, rfl⟩, -, hall⟩ :=
    (hstart.run hnumbered hworker hrun).of_idle hidle
  exact ⟨events, outs, hserial, hothers, hrounds, hall⟩

/-- The first round commits its answer while a first datagram is checked, and a second one finds
it. -/
def roundBetweenChecks : List Turn :=
  receiveAndWork 5 ++ .sync exampleRound.world 0 :: List.replicate 20 (.worker 0) ++
    .receive exampleRequest exampleClient exampleEnv :: List.replicate 25 (.worker 1)

/-- Both datagrams are answered as by a server that does the round first. -/
theorem one_worker_serial_two :
    ∃ (n : Threads) (events : List Event) (outs : List (Option (Verdict × Option Bytes))),
      followingThreads.run (fun _ _ => none) roundBetweenChecks = .ok n ∧ n.work.length = 2 ∧
      (NtpServer.start followingConfig (NtpServer.loggerSettings followingConfig)).run
        (fun _ _ => none) events = .ok (n.shared.server, outs) ∧
      events.filter (!·.isRound) = List.replicate 2
        (.packet exampleRequest exampleClient exampleEnv) ∧
      n.work = (outs.filterMap id).map fun answer => .done (.ok answer) := by
  have hrun : ((followingThreads.run (fun _ _ => none) roundBetweenChecks).map fun n =>
      (n.idle, n.work.length)).toOption = some (true, 2) := by
    decide +kernel
  have hworker : EveryStep (step fun _ _ => none) (fun n turn _ => n.OneWorker turn)
      followingThreads roundBetweenChecks := by
    decide +kernel
  obtain ⟨n, hn, hboth⟩ := Runs.exists_of_toOption_map hrun
  obtain ⟨hidle, hlength⟩ := Prod.mk.inj hboth
  obtain ⟨events, outs, hserial, hothers, -, hall⟩ :=
    one_worker_serial _ _ _ _ n hn hworker hidle
  exact ⟨n, events, outs, hn, hlength, hserial, hothers, hall⟩

end Threads

end SimpleNtpd
