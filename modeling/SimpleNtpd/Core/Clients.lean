import SimpleNtpd.Core.Workers

/-!
# One client's share of the server

What the server decides on the datagrams of one address depends on the
configuration and on three things it keeps for the address: the two entries in
the limiters' maps and the connections of its ports. `Books` are these, and
`Books.advance` is what a step on a datagram makes of them, with no server
around: the abstract model of the decisions.

The server's tables are keyed by text. As no two addresses are written alike,
and no two pairs of address and port, a step on a datagram changes the books of
its client only (`advance_books`).
-/

namespace SimpleNtpd

open Cpp

/-- The text of an address holds no colon, so a connection's key determines the
address and the port. -/
theorem connectionKey_injective {client client' : SockAddr}
    (h : NtpServer.connectionKey (inetNtop client.ip) client.port
      = NtpServer.connectionKey (inetNtop client'.ip) client'.port) : client = client' := by
  have hcolon : ∀ addr : UInt32, ':'.toUInt8 ∉ inetNtop addr := by
    intro addr hmem
    rcases mem_inetNtop hmem with hdigit | hdot
    · exact absurd hdigit (by decide)
    · exact absurd hdot (by decide)
  have hdigits : ∀ n : Nat, ':'.toUInt8 ∉ toDecimal n := fun n hmem =>
    absurd (isDigit_of_mem_toDecimal hmem) (by decide)
  obtain ⟨hip, -, hport⟩ :=
    (List.append_cons_inj_of_notMem (hcolon client.ip) (hdigits client.port.toNat)).mp h
  obtain ⟨ip, port⟩ := client
  obtain ⟨ip', port'⟩ := client'
  cases inetNtop_injective hip
  cases UInt16.toNat_inj.mp (toDecimal_injective hport)
  rfl

/-! ## Books -/

/-- What the server keeps for one address. -/
structure Books where
  rate : Nat × UInt32 := (0, 0)
  second : Nat × UInt32 := (0, 0)
  connection : UInt16 → Option NtpConnection := fun _ => none

namespace Books

/-- A connection of the address after one of its methods. -/
def putConnection (b : Books) (port : UInt16) (conn : NtpConnection) : Books :=
  { b with connection := Function.update b.connection port (some conn) }

theorem putConnection_self {b : Books} {port : UInt16} {conn : NtpConnection}
    (h : b.connection port = some conn) : b.putConnection port conn = b := by
  rw [putConnection, ← h, Function.update_eq_self]

/-- The limit on the datagrams of the address in a minute. -/
def isRateLimitExceeded (c : NtpConfig) (b : Books) (now : SteadyTime) : Bool × Books :=
  if !c.enableRateLimiting then (false, b)
  else
    let entry := countInBucket b.rate (minuteBucket now)
    (entry.2 > c.connectionRateLimitPerMinute, { b with rate := entry })

/-- The threshold on its datagrams in a second. -/
def isDdosAnomaly (c : NtpConfig) (b : Books) (now : SteadyTime) : Bool × Books :=
  if !c.enableDdosProtection then (false, b)
  else
    let entry := countInBucket b.second (secondBucket now)
    (entry.2 > c.ddosAnomalyThresholdPerSecond, { b with second := entry })

/-- A connection for a port of the address. -/
def getOrCreateConnection (c : NtpConfig) (b : Books) (client : SockAddr) : Except Exn Books :=
  match b.connection client.port with
  | some _ => .ok b
  | none =>
    match isClientAllowed c (inetNtop client.ip) with
    | .error e => .error e
    | .ok trusted =>
      .ok (b.putConnection client.port
        { clientAddress := inetNtop client.ip, config := 0, trustedClient := trusted })

end Books

/-- The result of a step on a datagram, for its client. -/
structure Accounted where
  books : Books
  task : Task
  observed : Option Observation := none

namespace Books

section Steps

variable (evp : Evp) (c : NtpConfig) (b : Books) (id : TaskId) (t : Task) (env : PacketEnv)

def access : Except Exn Accounted :=
  match isClientAllowed c (inetNtop id.client.ip) with
  | .error e => .error e
  | .ok false => .ok { books := b, task := t.goto (.done .aclDenied) }
  | .ok true => .ok { books := b, task := t.goto .allowed }

def limitConnections : Accounted :=
  let (exceeded, b) := b.isRateLimitExceeded c env.rateTime
  let observed := some (.connection id env.rateTime !exceeded)
  if exceeded then { books := b, task := t.goto (.done .rateLimited), observed := observed }
  else
    { books := b, task := { t with stage := .admitted, admittedAt := env.rateTime },
      observed := observed }

def detectAnomaly : Accounted :=
  let (anomaly, b) := b.isDdosAnomaly c env.ddosTime
  if anomaly && c.enableGracefulDegradation then
    { books := b, task := t.goto (.done .ddosAnomaly) }
  else { books := b, task := t.goto .screened }

def connect : Except Exn Accounted :=
  match b.getOrCreateConnection c id.client with
  | .error e => .error e
  | .ok b => .ok { books := b, task := t.goto .connected }

/-- An accepted datagram is answered when it can be parsed, which it can be when
`handlePacket` has accepted it. -/
def finish (accepted : Bool) : Accounted :=
  if accepted && (NtpPacket.new.parseFromData t.data).1 then
    { books := b, task := t.goto (.done .answered), observed := some (.reply id t.admittedAt) }
  else { books := b, task := t.goto (.done .refused) }

def check : Accounted :=
  match b.connection id.client.port, clientRequest t.data with
  | some _, some packet =>
    if c.enableRateLimiting then
      { books := b, task := t.goto (.timed packet (minuteBucket env.requestTime)) }
    else { books := b, task := t.goto (.limited packet) }
  | _, _ => b.finish id t false

def limitRequests (packet : NtpPacket) (bucket : Nat) : Accounted :=
  match b.connection id.client.port with
  | none => b.finish id t false
  | some conn =>
    let (passed, conn) := conn.limitRequest c.requestRateLimitPerMinute bucket
    let b := b.putConnection id.client.port conn
    let observed := some (.request id bucket passed)
    if passed then { books := b, task := t.goto (.limited packet), observed := observed }
    else { b.finish id t false with observed := observed }

def authenticate (packet : NtpPacket) : Accounted :=
  match b.connection id.client.port with
  | none => b.finish id t false
  | some conn =>
    if c.enableAuthentication && !validateAuthentication evp c packet t.data then
      b.finish id t false
    else
      { books := b.putConnection id.client.port (conn.recordPacket t.data.length),
        task := t.goto .accepted }

/-- A step on a datagram of the address, under a configuration. -/
def advance : Except Exn Accounted :=
  match t.stage with
  | .received => b.access c id t
  | .allowed => .ok (b.limitConnections c id t env)
  | .admitted => .ok (b.detectAnomaly c t env)
  | .screened => b.connect c id t
  | .connected => .ok (b.check c id t env)
  | .timed packet bucket => .ok (b.limitRequests c id t packet bucket)
  | .limited packet => .ok (b.authenticate evp c id t packet)
  | .accepted => .ok (b.finish id t true)
  | .done _ => .ok { books := b, task := t }

end Steps

end Books

/-! ## The books of a server -/

namespace NtpServer

/-- What a server keeps for an address. -/
def books (s : NtpServer) (ip : UInt32) : Books where
  rate := (s.connectionRateBuckets.lookup (inetNtop ip)).getD (0, 0)
  second := (s.requestSecondBuckets.lookup (inetNtop ip)).getD (0, 0)
  connection port := s.connectionOf ⟨ip, port⟩

/-- The server has one configuration, but for the stratum, and every connection
has it and is active. -/
structure Uniform (c : NtpConfig) (s : NtpServer) : Prop where
  rules : RulesOf c s
  config : s.config = 0
  connections : ∀ clientKey conn, s.activeConnections.lookup clientKey = some conn →
    conn.config = 0 ∧ conn.active = true

variable {c : NtpConfig} {s s' : NtpServer}

theorem Uniform.start (c : NtpConfig) (logger : LoggerSettings) : Uniform c (.start c logger) where
  rules := RulesOf.currentConfig (.start c logger)
  config := rfl
  connections := by
    intro clientKey conn h
    rw [NtpServer.start, AList.lookup_empty] at h
    cases h

/-- The tables agree. -/
structure SameTables (s s' : NtpServer) : Prop where
  rate : s'.connectionRateBuckets = s.connectionRateBuckets
  second : s'.requestSecondBuckets = s.requestSecondBuckets
  connections : s'.activeConnections = s.activeConnections

theorem SameTables.books (h : SameTables s s') : s'.books = s.books := by
  funext ip
  simp only [NtpServer.books, connectionOf, h.rate, h.second, h.connections]

theorem selectUpstreamServer_sameTables (s : NtpServer) (randomIndex : Nat) :
    SameTables s (s.selectUpstreamServer randomIndex).2 := by
  unfold selectUpstreamServer
  dsimp only
  generalize (if s.healthyUpstreams.isEmpty then s.currentConfig.upstreamServers
    else s.healthyUpstreams) = healthy
  split
  · exact ⟨rfl, rfl, rfl⟩
  · split
    · exact ⟨rfl, rfl, rfl⟩
    · split <;> exact ⟨rfl, rfl, rfl⟩

theorem applyDynamicStratum_sameTables (s : NtpServer) : SameTables s s.applyDynamicStratum := by
  rcases s.applyDynamicStratum_cases with hstay | ⟨-, hraise⟩
  · rw [hstay]
    exact ⟨rfl, rfl, rfl⟩
  · rw [hraise]
    exact ⟨rfl, rfl, rfl⟩

/-- Behind `handlePacket` no table changes. -/
theorem finishPacket_sameTables (s : NtpServer) (accepted : Bool) (data : Bytes) (env : PacketEnv) :
    SameTables s (s.finishPacket accepted data env).server := by
  unfold finishPacket
  split
  · split
    · exact ⟨rfl, rfl, rfl⟩
    · rename_i request _
      have hbuild : SameTables s (s.buildReply request env).2.2 := by
        have hraise := s.applyDynamicStratum_sameTables
        have hselect := s.applyDynamicStratum.selectUpstreamServer_sameTables env.randomIndex
        exact ⟨hselect.rate.trans hraise.rate, hselect.second.trans hraise.second,
          hselect.connections.trans hraise.connections⟩
      dsimp only
      split
      · exact ⟨hbuild.rate, hbuild.second, hbuild.connections⟩
      · unfold recordSendFailure
        dsimp only
        split <;> exact ⟨hbuild.rate, hbuild.second, hbuild.connections⟩
  · exact ⟨rfl, rfl, rfl⟩

/-- What becomes of a datagram there. -/
theorem finishPacket_verdict (s : NtpServer) (accepted : Bool) (data : Bytes) (env : PacketEnv) :
    (s.finishPacket accepted data env).verdict
        = (if accepted && (NtpPacket.new.parseFromData data).1 then .answered else .refused) ∧
      (s.finishPacket accepted data env).reply.isSome
        = (accepted && (NtpPacket.new.parseFromData data).1) := by
  unfold finishPacket
  cases accepted with
  | false => exact ⟨rfl, rfl⟩
  | true =>
    rw [if_pos rfl]
    obtain ⟨parsed, request⟩ := NtpPacket.new.parseFromData data
    cases parsed with
    | false => exact ⟨rfl, rfl⟩
    | true =>
      dsimp only
      split <;> exact ⟨rfl, rfl⟩

/-- A connection put back changes the books of its address only. -/
theorem books_putConnection (s : NtpServer) (client : SockAddr) (conn : NtpConnection) :
    (s.putConnection client conn).books
      = Function.update s.books client.ip ((s.books client.ip).putConnection client.port conn) := by
  have hother : ∀ client', client' ≠ client →
      (s.putConnection client conn).connectionOf client' = s.connectionOf client' :=
    fun client' hne => AList.lookup_insert_ne fun hkey => hne (connectionKey_injective hkey)
  obtain ⟨ip, port⟩ := client
  funext ip'
  by_cases hip : ip' = ip
  · subst hip
    rw [Function.update_self, Books.putConnection, books]
    congr 1
    funext port'
    by_cases hport : port' = port
    · subst hport
      rw [Function.update_self, connectionOf_putConnection]
    · rw [Function.update_of_ne hport]
      exact hother _ fun h => hport (congrArg SockAddr.port h)
  · rw [Function.update_of_ne hip, books]
    congr 1
    funext port'
    exact hother _ fun h => hip (congrArg SockAddr.ip h)

/-- The connection limiter works on the books of one address. -/
theorem books_isRateLimitExceeded (h : RulesOf c s) (ip : UInt32) (now : SteadyTime) :
    (s.isRateLimitExceeded (inetNtop ip) now).1 = ((s.books ip).isRateLimitExceeded c now).1 ∧
      (s.isRateLimitExceeded (inetNtop ip) now).2.books
        = Function.update s.books ip ((s.books ip).isRateLimitExceeded c now).2 := by
  obtain ⟨n, hn⟩ := h
  unfold isRateLimitExceeded Books.isRateLimitExceeded
  rw [hn]
  cases c.enableRateLimiting with
  | false => exact ⟨rfl, (Function.update_eq_self ip s.books).symm⟩
  | true =>
    refine ⟨rfl, funext fun ip' => ?_⟩
    by_cases hip : ip' = ip
    · subst hip
      simp [books, connectionOf]
    · rw [Function.update_of_ne hip]
      simp [books, connectionOf, AList.lookup_insert_ne (inetNtop_injective.ne hip)]

/-- The anomaly detector looks at and changes the books of one address only. -/
theorem books_isDdosAnomaly (h : RulesOf c s) (ip : UInt32) (now : SteadyTime) :
    (s.isDdosAnomaly (inetNtop ip) now).1 = ((s.books ip).isDdosAnomaly c now).1 ∧
      (s.isDdosAnomaly (inetNtop ip) now).2.books
        = Function.update s.books ip ((s.books ip).isDdosAnomaly c now).2 := by
  obtain ⟨n, hn⟩ := h
  unfold isDdosAnomaly Books.isDdosAnomaly
  rw [hn]
  cases c.enableDdosProtection with
  | false => exact ⟨rfl, (Function.update_eq_self ip s.books).symm⟩
  | true =>
    refine ⟨rfl, funext fun ip' => ?_⟩
    by_cases hip : ip' = ip
    · subst hip
      simp [books, connectionOf]
    · rw [Function.update_of_ne hip]
      simp [books, connectionOf, AList.lookup_insert_ne (inetNtop_injective.ne hip)]

/-- The stratum is nothing to the access lists. -/
theorem RulesOf.isClientAllowed (h : RulesOf c s) (clientIp : Str) :
    isClientAllowed s.currentConfig clientIp = SimpleNtpd.isClientAllowed c clientIp := by
  obtain ⟨n, hn⟩ := h
  rw [hn]
  rfl

/-- The table of connections looks at and changes the books of one address only. -/
theorem books_getOrCreateConnection (h : Uniform c s) (client : SockAddr) :
    (s.getOrCreateConnection (inetNtop client.ip) client.port).map books
      = ((s.books client.ip).getOrCreateConnection c client).map
        (Function.update s.books client.ip) := by
  have hbook : (s.books client.ip).connection client.port = s.connectionOf client := rfl
  have hlookup : s.activeConnections.lookup (connectionKey (inetNtop client.ip) client.port)
      = s.connectionOf client := rfl
  unfold getOrCreateConnection Books.getOrCreateConnection
  dsimp only
  rw [hbook, hlookup, h.rules.isClientAllowed]
  cases s.connectionOf client with
  | some conn => exact congrArg Except.ok (Function.update_eq_self client.ip s.books).symm
  | none =>
    cases SimpleNtpd.isClientAllowed c (inetNtop client.ip) with
    | error e => rfl
    | ok trusted =>
      dsimp only
      rw [h.config]
      exact congrArg Except.ok (books_putConnection s client _)

end NtpServer

/-! ## A step on a datagram -/

/-- What a step means to the clients: all books, the datagram and the record. -/
def Advanced.account (a : Advanced) : (UInt32 → Books) × Task × Option Observation :=
  (a.server.books, a.task, a.observed)

/-- The books after a step on the books of one address. -/
def Accounted.within (books : UInt32 → Books) (ip : UInt32) (l : Accounted) :
    (UInt32 → Books) × Task × Option Observation :=
  (Function.update books ip l.books, l.task, l.observed)

/-- A step that leaves the books as they are. -/
theorem Accounted.within_self (books : UInt32 → Books) (ip : UInt32) (t : Task)
    (observed : Option Observation) :
    Accounted.within books ip { books := books ip, task := t, observed := observed }
      = (books, t, observed) := by
  rw [Accounted.within, Function.update_eq_self]

section Account

variable {evp : Evp} {c : NtpConfig} {s : NtpServer} {id : TaskId} {t : Task} {env : PacketEnv}

theorem account_finish (s : NtpServer) (id : TaskId) (t : Task) (env : PacketEnv)
    (accepted : Bool) :
    (t.finish s id env accepted).account
      = ((s.books id.client.ip).finish id t accepted).within s.books id.client.ip := by
  obtain ⟨hverdict, hreply⟩ := s.finishPacket_verdict accepted t.data env
  have hbooks := (s.finishPacket_sameTables accepted t.data env).books
  unfold Task.finish Books.finish
  dsimp only [Advanced.account]
  rw [hbooks, hverdict]
  cases hanswered : accepted && (NtpPacket.new.parseFromData t.data).1 with
  | true =>
    rw [hanswered, Option.isSome_iff_exists] at hreply
    obtain ⟨reply, hreply⟩ := hreply
    rw [hreply]
    exact (Accounted.within_self ..).symm
  | false =>
    rw [hanswered, Option.isSome_eq_false_iff, Option.isNone_iff_eq_none] at hreply
    rw [hreply]
    exact (Accounted.within_self ..).symm

/-- The configuration a connection has, as far as `handlePacket` reads it. -/
theorem captured_eq (h : NtpServer.Uniform c s) {conn : NtpConnection}
    (hconn : s.connectionOf id.client = some conn) :
    ∃ n, s.captured conn = { c with stratum := n } := by
  obtain ⟨n, hn⟩ := h.rules
  refine ⟨n, ?_⟩
  rw [NtpServer.captured, (h.connections _ conn hconn).1, ← h.config]
  exact hn

theorem account_access (h : NtpServer.Uniform c s) :
    (t.access s id).map Advanced.account
      = ((s.books id.client.ip).access c id t).map (Accounted.within s.books id.client.ip) := by
  unfold Task.access Books.access
  rw [h.rules.isClientAllowed]
  cases SimpleNtpd.isClientAllowed c (inetNtop id.client.ip) with
  | error e => rfl
  | ok allowed =>
    cases allowed with
    | false => exact congrArg Except.ok (Accounted.within_self ..).symm
    | true => exact congrArg Except.ok (Accounted.within_self ..).symm

theorem account_limitConnections (h : NtpServer.Uniform c s) :
    (t.limitConnections s id env).account
      = ((s.books id.client.ip).limitConnections c id t env).within s.books id.client.ip := by
  obtain ⟨hexceeded, hbooks⟩ :=
    NtpServer.books_isRateLimitExceeded h.rules id.client.ip env.rateTime
  unfold Task.limitConnections Books.limitConnections
  generalize s.isRateLimitExceeded (inetNtop id.client.ip) env.rateTime = whole at hexceeded hbooks ⊢
  generalize (s.books id.client.ip).isRateLimitExceeded c env.rateTime = own at hexceeded hbooks ⊢
  obtain ⟨exceeded, s'⟩ := whole
  obtain ⟨exceeded', b⟩ := own
  cases hexceeded
  cases exceeded with
  | false => exact Prod.ext hbooks rfl
  | true => exact Prod.ext hbooks rfl

theorem account_detectAnomaly (h : NtpServer.Uniform c s) :
    (t.detectAnomaly s id env).account
      = ((s.books id.client.ip).detectAnomaly c t env).within s.books id.client.ip := by
  obtain ⟨hanomaly, hbooks⟩ := NtpServer.books_isDdosAnomaly h.rules id.client.ip env.ddosTime
  have hrules := h.rules.of_same (s.isDdosAnomaly_same (inetNtop id.client.ip) env.ddosTime)
  unfold Task.detectAnomaly Books.detectAnomaly
  generalize s.isDdosAnomaly (inetNtop id.client.ip) env.ddosTime = whole at hanomaly hbooks hrules ⊢
  generalize (s.books id.client.ip).isDdosAnomaly c env.ddosTime = own at hanomaly hbooks ⊢
  obtain ⟨anomaly, s'⟩ := whole
  obtain ⟨anomaly', b⟩ := own
  cases hanomaly
  obtain ⟨n, hn⟩ := hrules
  dsimp only at hn hbooks ⊢
  rw [hn]
  dsimp only
  split
  · exact Prod.ext hbooks rfl
  · exact Prod.ext hbooks rfl

theorem account_connect (h : NtpServer.Uniform c s) :
    (t.connect s id).map Advanced.account
      = ((s.books id.client.ip).connect c id t).map (Accounted.within s.books id.client.ip) := by
  have hbooks := NtpServer.books_getOrCreateConnection h id.client
  unfold Task.connect Books.connect
  cases hwhole : s.getOrCreateConnection (inetNtop id.client.ip) id.client.port with
  | error e =>
    cases hown : (s.books id.client.ip).getOrCreateConnection c id.client with
    | error e' =>
      rw [hwhole, hown] at hbooks
      cases hbooks
      rfl
    | ok b =>
      rw [hwhole, hown] at hbooks
      cases hbooks
  | ok s' =>
    cases hown : (s.books id.client.ip).getOrCreateConnection c id.client with
    | error e' =>
      rw [hwhole, hown] at hbooks
      cases hbooks
    | ok b =>
      rw [hwhole, hown] at hbooks
      exact congrArg Except.ok (Prod.ext (Except.ok.inj hbooks) rfl)

/-- A datagram is refused when `handlePacket` has put the connection back as it was. -/
theorem account_refuse {conn : NtpConnection} (hconn : s.connectionOf id.client = some conn) :
    (t.finish (s.putConnection id.client conn) id env false).account
      = ((s.books id.client.ip).finish id t false).within s.books id.client.ip := by
  have hsame : (s.putConnection id.client conn).books = s.books := by
    rw [NtpServer.books_putConnection, Books.putConnection_self hconn, Function.update_eq_self]
  rw [account_finish, hsame]

theorem account_check (h : NtpServer.Uniform c s) :
    (t.check s id env).account
      = ((s.books id.client.ip).check c id t env).within s.books id.client.ip := by
  have hbook : (s.books id.client.ip).connection id.client.port = s.connectionOf id.client := rfl
  unfold Task.check Books.check
  rw [hbook]
  cases hconn : s.connectionOf id.client with
  | none => exact account_finish ..
  | some conn =>
    obtain ⟨n, hn⟩ := captured_eq h hconn
    dsimp only
    rw [(h.connections _ conn hconn).2, Bool.not_true, if_neg Bool.false_ne_true, hn]
    cases clientRequest t.data with
    | none => exact account_refuse hconn
    | some packet =>
      dsimp only
      split
      · exact (Accounted.within_self ..).symm
      · exact (Accounted.within_self ..).symm

theorem account_limitRequests (h : NtpServer.Uniform c s) (packet : NtpPacket) (bucket : Nat) :
    (t.limitRequests s id env packet bucket).account
      = ((s.books id.client.ip).limitRequests c id t packet bucket).within s.books
        id.client.ip := by
  have hbook : (s.books id.client.ip).connection id.client.port = s.connectionOf id.client := rfl
  unfold Task.limitRequests Books.limitRequests
  rw [hbook]
  cases hconn : s.connectionOf id.client with
  | none => exact account_finish ..
  | some conn =>
    obtain ⟨n, hn⟩ := captured_eq h hconn
    dsimp only
    rw [hn]
    dsimp only
    generalize conn.limitRequest c.requestRateLimitPerMinute bucket = limited
    obtain ⟨passed, conn'⟩ := limited
    have hbooks := s.books_putConnection id.client conn'
    cases passed with
    | true => exact Prod.ext hbooks rfl
    | false => exact Prod.ext hbooks rfl

theorem account_authenticate (h : NtpServer.Uniform c s) (packet : NtpPacket) :
    (t.authenticate evp s id env packet).account
      = ((s.books id.client.ip).authenticate evp c id t packet).within s.books id.client.ip := by
  have hbook : (s.books id.client.ip).connection id.client.port = s.connectionOf id.client := rfl
  unfold Task.authenticate Books.authenticate
  rw [hbook]
  cases hconn : s.connectionOf id.client with
  | none => exact account_finish ..
  | some conn =>
    obtain ⟨n, hn⟩ := captured_eq h hconn
    have hauth : validateAuthentication evp (s.captured conn) packet t.data
        = validateAuthentication evp c packet t.data := by
      rw [hn]
      rfl
    dsimp only
    rw [hauth, hn]
    dsimp only
    split
    · exact account_refuse hconn
    · exact Prod.ext (s.books_putConnection id.client _) rfl

/-- **A step on a datagram, for the clients.** It fails when the step on the
books does; else it changes the books of its client as that does, and no others'. -/
theorem advance_books (evp : Evp) (h : NtpServer.Uniform c s) (id : TaskId) (t : Task)
    (env : PacketEnv) :
    (t.advance evp s id env).map Advanced.account
      = ((s.books id.client.ip).advance evp c id t env).map
        (Accounted.within s.books id.client.ip) := by
  unfold Task.advance Books.advance
  cases t.stage with
  | received => exact account_access h
  | allowed => exact congrArg Except.ok (account_limitConnections h)
  | admitted => exact congrArg Except.ok (account_detectAnomaly h)
  | screened => exact account_connect h
  | connected => exact congrArg Except.ok (account_check h)
  | timed packet bucket => exact congrArg Except.ok (account_limitRequests h packet bucket)
  | limited packet => exact congrArg Except.ok (account_authenticate h packet)
  | accepted => exact congrArg Except.ok (account_finish ..)
  | done verdict => exact congrArg Except.ok (Accounted.within_self ..).symm

end Account

/-! ## What every step keeps -/

namespace NtpServer

variable {c : NtpConfig} {s s' : NtpServer}

theorem Uniform.of_same (h : Uniform c s) (hsame : SameSettings s s')
    (hconn : s'.activeConnections = s.activeConnections) : Uniform c s' where
  rules := h.rules.of_same hsame
  config := hsame.config.trans h.config
  connections := by
    rw [hconn]
    exact h.connections

theorem Uniform.finishPacket (h : Uniform c s) (accepted : Bool) (data : Bytes) (env : PacketEnv) :
    Uniform c (s.finishPacket accepted data env).server where
  rules := h.rules.finishPacket accepted data env
  config := by
    rcases s.finishPacket_same accepted data env with hsame | hsame
    · exact hsame.config.trans h.config
    · rcases s.applyDynamicStratum_cases with hstay | ⟨-, hraise⟩
      · rw [hsame.config, hstay, h.config]
      · rw [hsame.config, hraise]
        exact h.config
  connections := by
    rw [(s.finishPacket_sameTables accepted data env).connections]
    exact h.connections

theorem Uniform.putConnection (h : Uniform c s) {client : SockAddr} {conn conn' : NtpConnection}
    (hconn : s.connectionOf client = some conn) (hconfig : conn'.config = conn.config)
    (hactive : conn'.active = conn.active) : Uniform c (s.putConnection client conn') where
  rules := h.rules
  config := h.config
  connections := by
    intro clientKey conn'' h''
    by_cases hkey : clientKey = connectionKey (inetNtop client.ip) client.port
    · subst hkey
      have hself := (s.connectionOf_putConnection client conn').symm.trans h''
      cases hself
      rw [hconfig, hactive]
      exact h.connections _ conn hconn
    · rw [NtpServer.putConnection, AList.lookup_insert_ne hkey] at h''
      exact h.connections clientKey conn'' h''

theorem Uniform.getOrCreateConnection (h : Uniform c s) {clientIp : Str} {clientPort : UInt16}
    (hcreate : s.getOrCreateConnection clientIp clientPort = .ok s') : Uniform c s' := by
  rcases getOrCreateConnection_cases hcreate with ⟨rfl, -⟩ | ⟨-, trusted, -, rfl⟩
  · exact h
  · refine ⟨h.rules, h.config, ?_⟩
    intro clientKey conn hconn
    by_cases hkey : clientKey = connectionKey clientIp clientPort
    · subst hkey
      rw [AList.lookup_insert] at hconn
      cases hconn
      exact ⟨h.config, rfl⟩
    · rw [AList.lookup_insert_ne hkey] at hconn
      exact h.connections clientKey conn hconn

/-- With active connections only there is nothing to clean up. -/
theorem Uniform.cleanupConnections (h : Uniform c s) : s.cleanupConnections = s := by
  have hnone : s.activeConnections.entries.filter (fun entry => !entry.2.active) = [] := by
    rw [List.filter_eq_nil_iff]
    rintro ⟨clientKey, conn⟩ hentry
    have hactive := (h.connections clientKey conn (AList.mem_lookup_iff.mpr hentry)).2
    rw [hactive]
    exact Bool.false_ne_true
  rw [NtpServer.cleanupConnections, hnone]
  rfl

end NtpServer

/-- A step on a datagram keeps the server uniform. -/
theorem uniform_advance {evp : Evp} {c : NtpConfig} {s : NtpServer} {id : TaskId} {t : Task}
    {env : PacketEnv} {a : Advanced} (h : NtpServer.Uniform c s)
    (hadvance : t.advance evp s id env = .ok a) : NtpServer.Uniform c a.server := by
  unfold Task.advance at hadvance
  cases hstage : t.stage with
  | received =>
    rw [hstage] at hadvance
    simp only [Task.access] at hadvance
    split at hadvance
    · cases hadvance
    · cases hadvance
      exact h.of_same s.countError_same rfl
    · cases hadvance
      exact h
  | allowed =>
    rw [hstage] at hadvance
    have hlimited := h.of_same (s.isRateLimitExceeded_same (inetNtop id.client.ip) env.rateTime)
      (s.isRateLimitExceeded_connections (inetNtop id.client.ip) env.rateTime)
    simp only [Task.limitConnections, Except.ok.injEq] at hadvance
    split at hadvance
    · subst hadvance
      exact hlimited.of_same (NtpServer.countError_same _) rfl
    · subst hadvance
      exact hlimited
  | admitted =>
    rw [hstage] at hadvance
    have hdetected := h.of_same (s.isDdosAnomaly_same (inetNtop id.client.ip) env.ddosTime)
      (s.isDdosAnomaly_connections (inetNtop id.client.ip) env.ddosTime)
    simp only [Task.detectAnomaly, Except.ok.injEq] at hadvance
    split at hadvance
    · subst hadvance
      exact hdetected.of_same (NtpServer.countError_same _) rfl
    · subst hadvance
      exact hdetected
  | screened =>
    -- a new connection points to the one configuration there is
    rw [hstage] at hadvance
    simp only [Task.connect] at hadvance
    split at hadvance
    · cases hadvance
    · rename_i s' hcreate
      cases hadvance
      exact h.getOrCreateConnection hcreate
  | connected =>
    rw [hstage] at hadvance
    cases hadvance
    unfold Task.check
    split
    · exact h.finishPacket false t.data env
    · rename_i conn hconn
      have hput : NtpServer.Uniform c (s.putConnection id.client conn) :=
        h.putConnection hconn rfl rfl
      -- a request that is not put to the limiter is finished here
      split
      · exact hput.finishPacket false t.data env
      · split
        · exact hput.finishPacket false t.data env
        · split
          · exact h
          · exact h
  | timed packet bucket =>
    rw [hstage] at hadvance
    cases hadvance
    unfold Task.limitRequests
    split
    · exact h.finishPacket false t.data env
    · rename_i conn hconn
      have hput : NtpServer.Uniform c (s.putConnection id.client
          (conn.limitRequest (s.captured conn).requestRateLimitPerMinute bucket).2) :=
        h.putConnection hconn rfl rfl
      dsimp only
      split
      · exact hput
      · exact hput.finishPacket false t.data env
  | limited packet =>
    rw [hstage] at hadvance
    cases hadvance
    unfold Task.authenticate
    split
    · exact h.finishPacket false t.data env
    · rename_i conn hconn
      have hput : NtpServer.Uniform c (s.putConnection id.client conn) :=
        h.putConnection hconn rfl rfl
      split
      · exact hput.finishPacket false t.data env
      · exact h.putConnection hconn rfl rfl
  | accepted =>
    -- the reply may raise the stratum, which no connection reads
    rw [hstage] at hadvance
    cases hadvance
    exact h.finishPacket true t.data env
  | done verdict =>
    rw [hstage] at hadvance
    cases hadvance
    exact h

end SimpleNtpd
