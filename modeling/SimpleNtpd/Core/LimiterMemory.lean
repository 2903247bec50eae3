import SimpleNtpd.Core.Authentication
import SimpleNtpd.Core.Clients
import SimpleNtpd.Core.ConnectionTable
import SimpleNtpd.Core.RateLimits

/-!
# What the limiters remember

The limiters keep a window for each client address in two tables of the server, and
every minute of a client in a table of its connection. Nothing takes an entry out of
any of them: an address that sends one datagram is remembered as long as the server
lives, and so is every minute in which its connection counted.

A datagram makes entries for its own client in its own windows, and only those
(`processPacketWith_keeps` has the steps that make them). So in every reachable state
the entries are those of datagrams there were (`LimiterEntries`), and their number is
bounded by the addresses and the minutes of these.
-/

namespace SimpleNtpd

open Cpp

namespace NtpServer

variable {s s' : NtpServer} {pick : NtpServer → NtpConnection → NtpConfig} {evp : Evp}
  {data : Bytes} {client : SockAddr} {env : PacketEnv}

/-! ## The steps that count -/

/-- What every step of a datagram that looks at a table keeps, and every step that does
not, the datagram keeps. -/
theorem processPacketWith_keeps {I : NtpServer → Prop}
    (hrate : ∀ t, I t → I (t.isRateLimitExceeded (inetNtop client.ip) env.rateTime).2)
    (hsecond : ∀ t, I t → I (t.isDdosAnomaly (inetNtop client.ip) env.ddosTime).2)
    (hmake : ∀ t t', I t → t.getOrCreateConnection (inetNtop client.ip) client.port = .ok t' → I t')
    (hhandle : ∀ t, I t → I (t.handleOn pick evp (connectionKey (inetNtop client.ip) client.port)
      env.requestTime data).2)
    (hsame : ∀ t t', SameTables t t' → I t → I t') (h : I s) {p : Processed}
    (hp : s.processPacketWith pick evp data client env = .ok p) : I p.server := by
  have herror (t : NtpServer) (ht : I t) : I t.countError := hsame t _ ⟨rfl, rfl, rfl⟩ ht
  unfold processPacketWith at hp
  dsimp only at hp
  split at hp
  · cases hp
  · cases hp
    exact herror s h
  · have hcounted := hrate s h
    split at hp
    · cases hp
      exact herror _ hcounted
    · have hscreened := hsecond _ hcounted
      split at hp
      · cases hp
        exact herror _ hscreened
      · split at hp
        · cases hp
        · rename_i t hconn
          cases hp
          exact hsame _ _ (finishPacket_sameTables _ _ data env) (hhandle t (hmake _ t hscreened hconn))

/-- The request limiter counts in its minute, or does not count. -/
theorem handlePacket_requestBuckets (evp : Evp) (conn : NtpConnection) (c : NtpConfig)
    (now : SteadyTime) (data : Bytes) :
    (conn.handlePacket evp c now data).2.requestBuckets = conn.requestBuckets ∨
      ∃ n, (conn.handlePacket evp c now data).2.requestBuckets
        = conn.requestBuckets.insert (minuteBucket now) n := by
  have hlimit : (conn.applyLimiter c now).2.requestBuckets = conn.requestBuckets ∨
      ∃ n, (conn.applyLimiter c now).2.requestBuckets
        = conn.requestBuckets.insert (minuteBucket now) n := by
    unfold NtpConnection.applyLimiter
    split
    · exact .inr ⟨_, rfl⟩
    · exact .inl rfl
  cases hactive : conn.active with
  | false => exact .inl (by rw [NtpConnection.handlePacket_of_inactive hactive])
  | true =>
    cases hrequest : clientRequest data with
    | none => exact .inl (by rw [NtpConnection.handlePacket_of_none hrequest])
    | some packet =>
      rw [NtpConnection.handlePacket_of_request hactive hrequest]
      split
      · exact hlimit
      · exact hlimit

/-! ## Where the entries come from -/

/-- Every entry of a limiter has a property that says whose it is and in which window. -/
structure LimiterEntries (rate second : Str → Nat → Prop) (request : Str → Nat → Prop)
    (s : NtpServer) : Prop where
  rate : ∀ entry ∈ s.connectionRateBuckets.entries, rate entry.1 entry.2.1
  second : ∀ entry ∈ s.requestSecondBuckets.entries, second entry.1 entry.2.1
  request : ∀ entry ∈ s.activeConnections.entries, ∀ bucket ∈ entry.2.requestBuckets.entries,
    request entry.1 bucket.1

namespace LimiterEntries

variable {rate second request : Str → Nat → Prop}

theorem of_empty (hrate : s.connectionRateBuckets.entries = [])
    (hsecond : s.requestSecondBuckets.entries = []) (hconn : s.activeConnections.entries = []) :
    LimiterEntries rate second request s where
  rate := by simp [hrate]
  second := by simp [hsecond]
  request := by simp [hconn]

theorem of_same (h : LimiterEntries rate second request s) (hsame : SameTables s s') :
    LimiterEntries rate second request s' where
  rate := hsame.rate ▸ h.rate
  second := hsame.second ▸ h.second
  request := hsame.connections ▸ h.request

theorem isRateLimitExceeded (h : LimiterEntries rate second request s) {clientIp : Str}
    {now : SteadyTime} (hnew : rate clientIp (minuteBucket now)) :
    LimiterEntries rate second request (s.isRateLimitExceeded clientIp now).2 := by
  unfold NtpServer.isRateLimitExceeded
  split
  · exact h
  · refine ⟨Tables.forall_insert h.rate ?_, h.second, h.request⟩
    rw [countInBucket_eq]
    exact hnew

theorem isDdosAnomaly (h : LimiterEntries rate second request s) {clientIp : Str}
    {now : SteadyTime} (hnew : second clientIp (secondBucket now)) :
    LimiterEntries rate second request (s.isDdosAnomaly clientIp now).2 := by
  unfold NtpServer.isDdosAnomaly
  split
  · exact h
  · refine ⟨h.rate, Tables.forall_insert h.second ?_, h.request⟩
    rw [countInBucket_eq]
    exact hnew

/-- A new connection has counted nothing. -/
theorem getOrCreateConnection (h : LimiterEntries rate second request s) {clientIp : Str}
    {clientPort : UInt16} (hmade : s.getOrCreateConnection clientIp clientPort = .ok s') :
    LimiterEntries rate second request s' := by
  rcases getOrCreateConnection_cases hmade with ⟨rfl, -⟩ | ⟨-, trusted, -, rfl⟩
  · exact h
  · exact ⟨h.rate, h.second, Tables.forall_insert h.request nofun⟩

theorem handleOn (h : LimiterEntries rate second request s) {clientKey : Str} {now : SteadyTime}
    (hnew : request clientKey (minuteBucket now)) :
    LimiterEntries rate second request (s.handleOn pick evp clientKey now data).2 := by
  unfold NtpServer.handleOn onConnection
  cases hlookup : s.activeConnections.lookup clientKey with
  | none => exact h
  | some conn =>
    refine ⟨h.rate, h.second, Tables.forall_insert h.request ?_⟩
    have hold := h.request ⟨clientKey, conn⟩ (AList.mem_lookup_iff.mp hlookup)
    rcases handlePacket_requestBuckets evp conn (pick s conn) now data with hsame | ⟨n, hinsert⟩
    · exact hsame ▸ hold
    · rw [hinsert]
      exact Tables.forall_insert hold hnew

/-- **A datagram** makes entries of its client in its windows. -/
theorem processPacketWith (h : LimiterEntries rate second request s)
    (hrate : rate (inetNtop client.ip) (minuteBucket env.rateTime))
    (hsecond : second (inetNtop client.ip) (secondBucket env.ddosTime))
    (hrequest : request (connectionKey (inetNtop client.ip) client.port)
      (minuteBucket env.requestTime)) {p : Processed}
    (hp : s.processPacketWith pick evp data client env = .ok p) :
    LimiterEntries rate second request p.server :=
  processPacketWith_keeps (fun _ ht => ht.isRateLimitExceeded hrate)
    (fun _ ht => ht.isDdosAnomaly hsecond) (fun _ _ ht hmade => ht.getOrCreateConnection hmade)
    (fun _ ht => ht.handleOn hrequest) (fun _ _ hsame ht => ht.of_same hsame) h hp

end LimiterEntries

/-! ## No entry is taken out -/

/-- What one limiter remembers the other does, too. -/
structure Remembers (s s' : NtpServer) : Prop where
  rate : ∀ clientIp ∈ s.connectionRateBuckets, clientIp ∈ s'.connectionRateBuckets
  second : ∀ clientIp ∈ s.requestSecondBuckets, clientIp ∈ s'.requestSecondBuckets
  request : ∀ clientKey conn, s.activeConnections.lookup clientKey = some conn →
    ∃ conn', s'.activeConnections.lookup clientKey = some conn' ∧
      ∀ minute ∈ conn.requestBuckets, minute ∈ conn'.requestBuckets

namespace Remembers

variable {s'' : NtpServer}

theorem of_same (hsame : SameTables s s') : Remembers s s' where
  rate _ hmem := hsame.rate ▸ hmem
  second _ hmem := hsame.second ▸ hmem
  request clientKey conn hlookup := ⟨conn, by rw [hsame.connections, hlookup], fun _ hmem => hmem⟩

theorem trans (h : Remembers s s') (h' : Remembers s' s'') : Remembers s s'' where
  rate clientIp hmem := h'.rate clientIp (h.rate clientIp hmem)
  second clientIp hmem := h'.second clientIp (h.second clientIp hmem)
  request clientKey conn hlookup := by
    obtain ⟨conn', hlookup', hminutes⟩ := h.request clientKey conn hlookup
    obtain ⟨conn'', hlookup'', hminutes'⟩ := h'.request clientKey conn' hlookup'
    exact ⟨conn'', hlookup'', fun minute hmem => hminutes' minute (hminutes minute hmem)⟩

theorem isRateLimitExceeded (s : NtpServer) (clientIp : Str) (now : SteadyTime) :
    Remembers s (s.isRateLimitExceeded clientIp now).2 := by
  unfold NtpServer.isRateLimitExceeded
  split
  · exact of_same ⟨rfl, rfl, rfl⟩
  · exact ⟨fun _ hmem => (AList.mem_insert _).mpr (.inr hmem), fun _ hmem => hmem,
      fun _ conn hlookup => ⟨conn, hlookup, fun _ hmem => hmem⟩⟩

theorem isDdosAnomaly (s : NtpServer) (clientIp : Str) (now : SteadyTime) :
    Remembers s (s.isDdosAnomaly clientIp now).2 := by
  unfold NtpServer.isDdosAnomaly
  split
  · exact of_same ⟨rfl, rfl, rfl⟩
  · exact ⟨fun _ hmem => hmem, fun _ hmem => (AList.mem_insert _).mpr (.inr hmem),
      fun _ conn hlookup => ⟨conn, hlookup, fun _ hmem => hmem⟩⟩

/-- A connection is replaced by one that has counted more, or is new. -/
theorem putConnection {clientKey : Str} {conn' : NtpConnection}
    (h : ∀ conn, s.activeConnections.lookup clientKey = some conn →
      ∀ minute ∈ conn.requestBuckets, minute ∈ conn'.requestBuckets)
    (hrate : s'.connectionRateBuckets = s.connectionRateBuckets)
    (hsecond : s'.requestSecondBuckets = s.requestSecondBuckets)
    (hconn : s'.activeConnections = s.activeConnections.insert clientKey conn') :
    Remembers s s' where
  rate _ hmem := hrate ▸ hmem
  second _ hmem := hsecond ▸ hmem
  request key conn hlookup := by
    rw [hconn]
    by_cases hkey : key = clientKey
    · subst hkey
      exact ⟨conn', AList.lookup_insert _, h conn hlookup⟩
    · exact ⟨conn, by rw [AList.lookup_insert_ne hkey, hlookup], fun _ hmem => hmem⟩

theorem getOrCreateConnection {clientIp : Str} {clientPort : UInt16}
    (hmade : s.getOrCreateConnection clientIp clientPort = .ok s') : Remembers s s' := by
  rcases getOrCreateConnection_cases hmade with ⟨rfl, -⟩ | ⟨hnone, trusted, -, rfl⟩
  · exact of_same ⟨rfl, rfl, rfl⟩
  · refine putConnection (fun conn hlookup => ?_) rfl rfl rfl
    rw [hnone] at hlookup
    cases hlookup

theorem handleOn (s : NtpServer) (clientKey : Str) (now : SteadyTime) :
    Remembers s (s.handleOn pick evp clientKey now data).2 := by
  unfold NtpServer.handleOn onConnection
  cases hlookup : s.activeConnections.lookup clientKey with
  | none => exact of_same ⟨rfl, rfl, rfl⟩
  | some conn =>
    refine putConnection (fun conn' hlookup' minute hmem => ?_) rfl rfl rfl
    rw [hlookup] at hlookup'
    cases hlookup'
    rcases handlePacket_requestBuckets evp conn (pick s conn) now data with hsame | ⟨n, hinsert⟩
    · rw [hsame]
      exact hmem
    · rw [hinsert]
      exact (AList.mem_insert _).mpr (.inr hmem)

theorem processPacketWith {p : Processed}
    (hp : s.processPacketWith pick evp data client env = .ok p) : Remembers s p.server :=
  processPacketWith_keeps (I := Remembers s) (fun t ht => ht.trans (isRateLimitExceeded t _ _))
    (fun t ht => ht.trans (isDdosAnomaly t _ _))
    (fun _ _ ht hmade => ht.trans (getOrCreateConnection hmade))
    (fun t ht => ht.trans (handleOn t _ _)) (fun _ _ hsame ht => ht.trans (of_same hsame))
    (of_same ⟨rfl, rfl, rfl⟩) hp

end Remembers

end NtpServer

/-! ## Lives -/

namespace Daemon

open NtpServer

variable {evp : Evp} {d d' : Daemon}

/-- An event is a datagram, or leaves the tables. -/
theorem step_tables {e : Step} (h : d.server.AllActive) (hstep : d.step evp e = .ok d') :
    (∃ data client env p, e = .serve (.packet data client env) ∧
      d.server.processPacketWith captured evp data client env = .ok p ∧ d'.server = p.server) ∨
    SameTables d.server d'.server := by
  cases e with
  | start env =>
    cases hstep
    right
    rcases d.start_cases env with hstay | ⟨-, -, -, hstart⟩
    · rw [hstay]
      exact ⟨rfl, rfl, rfl⟩
    · obtain ⟨healthy, sync, ref, heq⟩ := startUpstreams_eq d.server
      rw [hstart, heq]
      exact ⟨rfl, rfl, rfl⟩
  | serve e =>
    obtain ⟨s, out, hserve, rfl⟩ := step_serve hstep
    cases e with
    | packet data client env =>
      obtain ⟨p, hp, rfl, -⟩ := stepWith_packet hserve
      exact .inl ⟨data, client, env, p, rfl, hp, rfl⟩
    | sync world now =>
      cases hserve
      exact .inr ⟨rfl, rfl, rfl⟩
    | reload getenv file =>
      cases hserve
      right
      rcases reloadConfig_cases d.server getenv file with hstay | ⟨content, -, -, -, hreload⟩
      · rw [hstay]
        exact ⟨rfl, rfl, rfl⟩
      · rw [hreload]
        exact ⟨rfl, rfl, rfl⟩
    | cleanup =>
      cases hserve
      right
      rw [h.cleanupConnections]
      exact ⟨rfl, rfl, rfl⟩
  | stop =>
    cases hstep
    right
    unfold stop
    split
    · exact ⟨rfl, rfl, rfl⟩
    · have hactive : ({ d.server with upstreamSync := none } : NtpServer).AllActive := h
      show SameTables d.server (NtpServer.cleanupConnections _)
      rw [hactive.cleanupConnections]
      exact ⟨rfl, rfl, rfl⟩

/-- A datagram of the client is among the events, with these clocks. -/
def Received (events : List Step) (client : SockAddr) (env : PacketEnv) : Prop :=
  ∃ data, .serve (.packet data client env) ∈ events

/-- The entries of the limiters are those of datagrams among the events, in windows of
the given minutes and seconds. -/
def Remembered (minute second : Nat → Prop) (events : List Step) : NtpServer → Prop :=
  LimiterEntries
    (fun clientIp bucket => minute bucket ∧ ∃ client env, Received events client env ∧
      clientIp = inetNtop client.ip ∧ bucket = minuteBucket env.rateTime)
    (fun clientIp bucket => second bucket ∧ ∃ client env, Received events client env ∧
      clientIp = inetNtop client.ip ∧ bucket = secondBucket env.ddosTime)
    (fun clientKey bucket => minute bucket ∧ ∃ client env, Received events client env ∧
      clientKey = connectionKey (inetNtop client.ip) client.port ∧
      bucket = minuteBucket env.requestTime)

/-- The addresses of the datagrams. -/
def clientsOf (events : List Step) : List Str :=
  events.filterMap fun
    | .serve (.packet _ client _) => some (inetNtop client.ip)
    | _ => none

/-- The minutes in which the request limiter has read the clock for a connection. -/
def minutesOf (clientKey : Str) (events : List Step) : List Nat :=
  events.filterMap fun
    | .serve (.packet _ client env) =>
      if connectionKey (inetNtop client.ip) client.port = clientKey then
        some (minuteBucket env.requestTime) else none
    | _ => none

/-- As many entries as addresses, and as many minutes of a connection as there were. -/
structure BoundedByTraffic (events : List Step) (s : NtpServer) : Prop where
  rate : s.connectionRateBuckets.entries.length ≤ (clientsOf events).dedup.length
  second : s.requestSecondBuckets.entries.length ≤ (clientsOf events).dedup.length
  request : ∀ entry ∈ s.activeConnections.entries,
    entry.2.requestBuckets.entries.length ≤ (minutesOf entry.1 events).dedup.length

theorem boundedByTraffic_of_remembered {minute second : Nat → Prop} {events : List Step}
    {s : NtpServer} (h : Remembered minute second events s) : BoundedByTraffic events s where
  rate := by
    refine Tables.length_entries_le _ fun entry hentry => ?_
    obtain ⟨-, client, env, ⟨data, hmem⟩, hclient, -⟩ := h.rate entry hentry
    exact List.mem_filterMap.mpr ⟨_, hmem, congrArg some hclient.symm⟩
  second := by
    refine Tables.length_entries_le _ fun entry hentry => ?_
    obtain ⟨-, client, env, ⟨data, hmem⟩, hclient, -⟩ := h.second entry hentry
    exact List.mem_filterMap.mpr ⟨_, hmem, congrArg some hclient.symm⟩
  request entry hentry := by
    refine Tables.length_entries_le _ fun bucket hbucket => ?_
    obtain ⟨-, client, env, ⟨data, hmem⟩, hclient, hminute⟩ := h.request entry hentry bucket hbucket
    refine List.mem_filterMap.mpr ⟨_, hmem, ?_⟩
    dsimp only
    rw [if_pos hclient.symm, hminute]

/-- One event of a run makes entries of the run. -/
theorem remembered_step {events : List Step} {e : Step} (he : e ∈ events)
    (hactive : d.server.AllActive)
    (h : Remembered (fun _ => True) (fun _ => True) events d.server)
    (hstep : d.step evp e = .ok d') :
    Remembered (fun _ => True) (fun _ => True) events d'.server := by
  rcases step_tables hactive hstep with ⟨data, client, env, p, rfl, hp, heq⟩ | hsame
  · rw [heq]
    have hreceived : Received events client env := ⟨data, he⟩
    exact LimiterEntries.processPacketWith h ⟨trivial, client, env, hreceived, rfl, rfl⟩
      ⟨trivial, client, env, hreceived, rfl, rfl⟩ ⟨trivial, client, env, hreceived, rfl, rfl⟩ hp
  · exact LimiterEntries.of_same h hsame

/-- One event takes no entry out. -/
theorem remembers_step {e : Step} (hactive : d.server.AllActive) (hstep : d.step evp e = .ok d') :
    Remembers d.server d'.server := by
  rcases step_tables hactive hstep with ⟨data, client, env, p, -, hp, heq⟩ | hsame
  · rw [heq]
    exact .processPacketWith hp
  · exact .of_same hsame

/-- **What the limiters remember.** In every reachable state the entries of the three
tables are those of datagrams there were, one for each address or minute, and none is
taken out as the run goes on. -/
theorem limiters_remember {c : NtpConfig} {logger : LoggerSettings} {events : List Step}
    (hrun : (create c logger).run evp events = .ok d) :
    Remembered (fun _ => True) (fun _ => True) events d.server ∧
      BoundedByTraffic events d.server ∧
      ∀ more d', d.run evp more = .ok d' → Remembers d.server d'.server := by
  have hinvariant : d.server.AllActive ∧
      Remembered (fun _ => True) (fun _ => True) events d.server := by
    refine Runs.foldlM_invariant
      (I := fun d => d.server.AllActive ∧ Remembered (fun _ => True) (fun _ => True) events d.server)
      (fun e he t t' ht hstep => ?_) ⟨nofun, .of_empty rfl rfl rfl⟩ hrun
    exact ⟨allActive_step ht.1 hstep, remembered_step he ht.1 ht.2 hstep⟩
  refine ⟨hinvariant.2, boundedByTraffic_of_remembered hinvariant.2, fun more d' hmore => ?_⟩
  have hgoes : d'.server.AllActive ∧ Remembers d.server d'.server := by
    refine Runs.foldlM_invariant (I := fun t => t.server.AllActive ∧ Remembers d.server t.server)
      (fun e _ t t' ht hstep => ?_) ⟨hinvariant.1, .of_same ⟨rfl, rfl, rfl⟩⟩ hmore
    exact ⟨allActive_step ht.1 hstep, ht.2.trans (remembers_step ht.1 hstep)⟩
  exact hgoes.2

/-- The clocks some minutes after the start. -/
def atMinute (minutes : Nat) : PacketEnv :=
  let now := minutes * 60000000000
  ⟨now, now, now, now, now, 0, 0, 0, 0, true⟩

/-- A request of a client at the start, and one of another client ten minutes later. -/
def tenMinutesApart : List Step :=
  [.start ⟨true, true⟩, .serve (.packet exampleRequest ⟨0xC0000201, 123⟩ (atMinute 0)),
    .serve (.packet exampleRequest ⟨0xC0000202, 123⟩ (atMinute 10))]

/-- A server with all limiters on. -/
def limitingDaemon : Daemon :=
  let c := { NtpConfig.defaults with enableRateLimiting := true, enableDdosProtection := true }
  .create c (startupLogger c)

/-- The first client has an entry in each of the three tables. -/
theorem limitingDaemon_run :
    ∃ d, limitingDaemon.run constantDigest tenMinutesApart = .ok d ∧ d.running = true ∧
      d.server.connectionRateBuckets.lookup (lit "192.0.2.1") = some (0, 1) ∧
      d.server.requestSecondBuckets.lookup (lit "192.0.2.1") = some (0, 1) ∧
      (d.server.activeConnections.lookup (lit "192.0.2.1:123")).bind
        (·.requestBuckets.lookup 0) = some 1 := by
  have htables : ((limitingDaemon.run constantDigest tenMinutesApart).map fun d =>
      (d.running, d.server.connectionRateBuckets.lookup (lit "192.0.2.1"),
        d.server.requestSecondBuckets.lookup (lit "192.0.2.1"),
        (d.server.activeConnections.lookup (lit "192.0.2.1:123")).bind
          (·.requestBuckets.lookup 0))).toOption
      = some (true, some (0, 1), some (0, 1), some 1) := by
    decide +kernel
  obtain ⟨d, hrun, hfound⟩ := Runs.exists_of_toOption_map htables
  simp only [Prod.mk.injEq] at hfound
  exact ⟨d, hrun, hfound⟩

theorem limiters_remember_two :
    ∃ d, limitingDaemon.run constantDigest tenMinutesApart = .ok d ∧
      (d.server.activeConnections.lookup (lit "192.0.2.1:123")).bind
        (·.requestBuckets.lookup 0) = some 1 ∧
      Remembered (fun _ => True) (fun _ => True) tenMinutesApart d.server ∧
      BoundedByTraffic tenMinutesApart d.server ∧
      ∀ more d', d.run constantDigest more = .ok d' → Remembers d.server d'.server := by
  obtain ⟨d, hrun, -, -, -, hrequests⟩ := limitingDaemon_run
  exact ⟨d, hrun, hrequests, limiters_remember hrun⟩

/-- In the tenth minute the server runs, and there are entries of minute zero and of
second zero, those of the first client. -/
theorem old_client_remembered :
    ∃ d, limitingDaemon.run constantDigest tenMinutesApart = .ok d ∧ d.running = true ∧
      ¬Remembered (fun minute => minuteBucket (atMinute 10).rateTime ≤ minute + 1)
        (fun _ => True) tenMinutesApart d.server ∧
      ¬Remembered (fun _ => True)
        (fun second => secondBucket (atMinute 10).ddosTime ≤ second + 1) tenMinutesApart
        d.server := by
  obtain ⟨d, hrun, hrunning, hrate, hsecond, -⟩ := limitingDaemon_run
  refine ⟨d, hrun, hrunning, fun h => ?_, fun h => ?_⟩
  · have hrecent := (h.rate ⟨lit "192.0.2.1", (0, 1)⟩ (AList.mem_lookup_iff.mp hrate)).1
    exact absurd hrecent (by decide)
  · have hrecent := (h.second ⟨lit "192.0.2.1", (0, 1)⟩ (AList.mem_lookup_iff.mp hsecond)).1
    exact absurd hrecent (by decide)

end Daemon

end SimpleNtpd
