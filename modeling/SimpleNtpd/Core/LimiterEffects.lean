import SimpleNtpd.Core.Separation

/-!
# What a step does to the limiters

The record of a client's decisions, divided by limiters, and one inversion for the
steps on its datagrams: `effect_advance` says which counters a step can change and
what it can add to the record. Everything about the limiters is derived from it.
-/

namespace SimpleNtpd

open Cpp

/-! ## The record -/

/-- The decisions of the connection limiter, each with its minute. -/
def connectionLog (log : List Observation) : List (Nat × Bool) :=
  log.filterMap fun
    | .connection _ now passed => some (minuteBucket now, passed)
    | _ => none

/-- The readings of the clock in the sections of the connection limiter. -/
def limiterReadings (log : List Observation) : List SteadyTime :=
  log.filterMap fun
    | .connection _ now _ => some now
    | _ => none

/-- The decisions of the request limiters, each with its port and minute. -/
def requestLog (log : List Observation) : List ((UInt16 × Nat) × Bool) :=
  log.filterMap fun
    | .request id bucket passed => some ((id.client.port, bucket), passed)
    | _ => none

/-- The datagrams the connection limiter let pass, each with the clock's reading. -/
def passedLog (log : List Observation) : List (TaskId × SteadyTime) :=
  log.filterMap fun
    | .connection id now true => some (id, now)
    | _ => none

/-- The datagrams answered, each with the reading that let it pass. -/
def replyLog (log : List Observation) : List (TaskId × SteadyTime) :=
  log.filterMap fun
    | .reply id admittedAt => some (id, admittedAt)
    | _ => none

theorem mem_passedLog_iff {log : List Observation} {id : TaskId} {now : SteadyTime} :
    (id, now) ∈ passedLog log ↔ .connection id now true ∈ log := by
  rw [passedLog, List.mem_filterMap]
  constructor
  · rintro ⟨o, ho, heq⟩
    split at heq
    · cases heq
      exact ho
    · cases heq
  · intro h
    exact ⟨_, h, rfl⟩

/-! ## Steps -/

/-- A datagram is past the connection limiter, and not done. -/
def Stage.Admitted : Stage → Prop
  | received => False
  | allowed => False
  | done _ => False
  | _ => True

/-- The counter a connection has for a minute. -/
def Books.requestCount (b : Books) (key : UInt16 × Nat) : UInt32 :=
  match b.connection key.1 with
  | none => 0
  | some conn => (conn.requestBuckets.lookup key.2).getD 0

/-- What a step on a datagram can do to the counters and the record. -/
inductive Effect (c : NtpConfig) (b : Books) (id : TaskId) (t : Task) (env : PacketEnv)
    (l : Accounted) : Prop where
  /-- nothing -/
  | quiet (observed : l.observed = none) (rate : l.books.rate = b.rate)
      (count : l.books.requestCount = b.requestCount)
      (admitted : l.task.stage.Admitted → t.stage.Admitted ∧ l.task.admittedAt = t.admittedAt)
      (done : ∀ verdict, t.stage = .done verdict → l.task.stage = .done verdict)
  /-- the connection limiter -/
  | connection (stage : t.stage = .allowed) (passed : Bool)
      (decision : passed = !((countInBucket b.rate (minuteBucket env.rateTime)).2
        > c.connectionRateLimitPerMinute))
      (observed : l.observed = some (.connection id env.rateTime passed))
      (rate : l.books.rate = countInBucket b.rate (minuteBucket env.rateTime))
      (count : l.books.requestCount = b.requestCount)
      (admitted : l.task.stage.Admitted → passed = true ∧ l.task.admittedAt = env.rateTime)
  /-- the request limiter -/
  | request (packet : NtpPacket) (bucket : Nat) (stage : t.stage = .timed packet bucket)
      (passed : Bool)
      (decision : passed = !(b.requestCount (id.client.port, bucket) + 1
        > c.requestRateLimitPerMinute))
      (observed : l.observed = some (.request id bucket passed))
      (rate : l.books.rate = b.rate)
      (count : l.books.requestCount = Function.update b.requestCount (id.client.port, bucket)
        (b.requestCount (id.client.port, bucket) + 1))
      (admitted : l.task.admittedAt = t.admittedAt)
  /-- the reply -/
  | reply (stage : t.stage = .accepted) (verdict : Verdict)
      (observed : l.observed = some (.reply id t.admittedAt)) (books : l.books = b)
      (done : l.task.stage = .done verdict)

namespace Books

variable {b : Books} {port : UInt16} {conn conn' : NtpConnection}

/-- A connection put back with the same counters. -/
theorem requestCount_putConnection (h : b.connection port = some conn)
    (hbuckets : conn'.requestBuckets = conn.requestBuckets) :
    (b.putConnection port conn').requestCount = b.requestCount := by
  funext key
  by_cases hport : key.1 = port
  · simp only [requestCount, putConnection, hport, Function.update_self, h, hbuckets]
  · simp only [requestCount, putConnection, Function.update_of_ne hport]

/-- A new connection has counted nothing. -/
theorem requestCount_putConnection_new (h : b.connection port = none)
    (hbuckets : conn'.requestBuckets = ∅) :
    (b.putConnection port conn').requestCount = b.requestCount := by
  funext key
  by_cases hport : key.1 = port
  · simp [requestCount, putConnection, hport, h, hbuckets]
  · simp only [requestCount, putConnection, Function.update_of_ne hport]

/-- The section of the request limiter counts in one minute. -/
theorem requestCount_limitRequest (h : b.connection port = some conn) (limit : UInt32)
    (bucket : Nat) :
    (b.putConnection port (conn.limitRequest limit bucket).2).requestCount
      = Function.update b.requestCount (port, bucket) (b.requestCount (port, bucket) + 1) := by
  have hcount : b.requestCount (port, bucket) = (conn.requestBuckets.lookup bucket).getD 0 := by
    simp only [requestCount, h]
  funext key
  obtain ⟨port', bucket'⟩ := key
  by_cases hkey : (port', bucket') = (port, bucket)
  · cases hkey
    rw [Function.update_self, hcount]
    simp [requestCount, putConnection, NtpConnection.limitRequest]
  · rw [Function.update_of_ne hkey]
    by_cases hport : port' = port
    · subst hport
      have hbucket : bucket' ≠ bucket := fun heq => hkey (by rw [heq])
      simp [requestCount, putConnection, NtpConnection.limitRequest, h,
        AList.lookup_insert_ne hbucket]
    · simp only [requestCount, putConnection, Function.update_of_ne hport]

end Books

section Effects

variable {evp : Evp} {c : NtpConfig} {b : Books} {id : TaskId} {t : Task} {env : PacketEnv}
  {l : Accounted}

/-- A step that changes the stage only, from one that is not the last. -/
theorem Effect.goto {stage : Stage} (hadmitted : stage.Admitted → t.stage.Admitted)
    (hdone : ∀ verdict, t.stage ≠ .done verdict) :
    Effect c b id t env { books := b, task := t.goto stage } :=
  .quiet rfl rfl rfl (fun h => ⟨hadmitted h, rfl⟩) fun verdict h => absurd h (hdone verdict)

/-- A refusal. -/
theorem Effect.refuse (hdone : ∀ verdict, t.stage ≠ .done verdict) :
    Effect c b id t env (b.finish id t false) :=
  .goto (fun h => h.elim) hdone

theorem effect_limitConnections (hon : c.enableRateLimiting = true) (hstage : t.stage = .allowed) :
    Effect c b id t env (b.limitConnections c id t env) := by
  have hlimited : b.isRateLimitExceeded c env.rateTime
      = (decide ((countInBucket b.rate (minuteBucket env.rateTime)).2
          > c.connectionRateLimitPerMinute),
        { b with rate := countInBucket b.rate (minuteBucket env.rateTime) }) := by
    rw [Books.isRateLimitExceeded, hon]
    rfl
  unfold Books.limitConnections
  rw [hlimited]
  dsimp only
  split
  · rename_i hexceeded
    exact .connection hstage _ (by rw [hexceeded]) rfl rfl rfl fun h => h.elim
  · rename_i hexceeded
    rw [Bool.not_eq_true] at hexceeded
    exact .connection hstage _ (by rw [hexceeded]) rfl rfl rfl fun _ => ⟨by rw [hexceeded]; rfl, rfl⟩

theorem effect_connect (hstage : t.stage = .screened) (h : b.connect c id t = .ok l) :
    Effect c b id t env l := by
  have hadmitted : t.stage.Admitted := by
    rw [hstage]
    trivial
  have hdone : ∀ verdict, t.stage = .done verdict → l.task.stage = .done verdict := by
    intro verdict hverdict
    rw [hstage] at hverdict
    cases hverdict
  unfold Books.connect Books.getOrCreateConnection at h
  cases hconn : b.connection id.client.port with
  | some conn =>
    simp only [hconn] at h
    cases h
    exact .quiet rfl rfl rfl (fun _ => ⟨hadmitted, rfl⟩) hdone
  | none =>
    simp only [hconn] at h
    cases hallowed : isClientAllowed c (inetNtop id.client.ip) with
    | error e =>
      rw [hallowed] at h
      cases h
    | ok trusted =>
      rw [hallowed] at h
      cases h
      exact .quiet rfl rfl (Books.requestCount_putConnection_new hconn rfl)
        (fun _ => ⟨hadmitted, rfl⟩) hdone

theorem effect_limitRequests {packet : NtpPacket} {bucket : Nat}
    (hstage : t.stage = .timed packet bucket) :
    Effect c b id t env (b.limitRequests c id t packet bucket) := by
  unfold Books.limitRequests
  cases hconn : b.connection id.client.port with
  | none =>
    refine .refuse ?_
    intro verdict h
    rw [hstage] at h
    cases h
  | some conn =>
    have hcount : b.requestCount (id.client.port, bucket)
        = (conn.requestBuckets.lookup bucket).getD 0 := by
      simp only [Books.requestCount, hconn]
    have hcounted := Books.requestCount_limitRequest hconn c.requestRateLimitPerMinute bucket
    have hpassed : (conn.limitRequest c.requestRateLimitPerMinute bucket).1
        = !(b.requestCount (id.client.port, bucket) + 1 > c.requestRateLimitPerMinute) := by
      rw [hcount]
      rfl
    dsimp only
    split
    · exact .request packet bucket hstage _ hpassed rfl rfl hcounted rfl
    · exact .request packet bucket hstage _ hpassed rfl rfl hcounted rfl

theorem effect_authenticate {packet : NtpPacket} (hstage : t.stage = .limited packet) :
    Effect c b id t env (b.authenticate evp c id t packet) := by
  have hdone : ∀ verdict, t.stage ≠ .done verdict := by
    intro verdict h
    rw [hstage] at h
    cases h
  have hadmitted : t.stage.Admitted := by
    rw [hstage]
    trivial
  unfold Books.authenticate
  cases hconn : b.connection id.client.port with
  | none => exact .refuse hdone
  | some conn =>
    dsimp only
    split
    · exact .refuse hdone
    · exact .quiet rfl rfl (Books.requestCount_putConnection hconn rfl) (fun _ => ⟨hadmitted, rfl⟩)
        fun verdict h => absurd h (hdone verdict)

/-- **What a step can do**, with the limiters on. -/
theorem effect_advance (hon : c.enableRateLimiting = true)
    (h : b.advance evp c id t env = .ok l) : Effect c b id t env l := by
  unfold Books.advance at h
  cases hstage : t.stage with
  | received =>
    rw [hstage] at h
    have hdone : ∀ verdict, t.stage ≠ .done verdict := by simp [hstage]
    simp only [Books.access] at h
    split at h
    · cases h
    · cases h
      exact .goto (fun h => h.elim) hdone
    · cases h
      exact .goto (fun h => h.elim) hdone
  | allowed =>
    rw [hstage] at h
    cases h
    exact effect_limitConnections hon hstage
  | admitted =>
    rw [hstage] at h
    cases h
    have hdone : ∀ verdict, t.stage ≠ .done verdict := by simp [hstage]
    have hadmitted : t.stage.Admitted := by
      rw [hstage]
      trivial
    -- the detector counts in buckets of its own
    have hsame : (b.isDdosAnomaly c env.ddosTime).2.rate = b.rate ∧
        (b.isDdosAnomaly c env.ddosTime).2.requestCount = b.requestCount := by
      unfold Books.isDdosAnomaly
      split <;> exact ⟨rfl, rfl⟩
    unfold Books.detectAnomaly
    dsimp only
    split
    · exact .quiet rfl hsame.1 hsame.2 (fun h => h.elim) fun verdict h => absurd h (hdone verdict)
    · exact .quiet rfl hsame.1 hsame.2 (fun _ => ⟨hadmitted, rfl⟩)
        fun verdict h => absurd h (hdone verdict)
  | screened =>
    rw [hstage] at h
    exact effect_connect hstage h
  | connected =>
    rw [hstage] at h
    cases h
    have hdone : ∀ verdict, t.stage ≠ .done verdict := by simp [hstage]
    have hadmitted : t.stage.Admitted := by
      rw [hstage]
      trivial
    unfold Books.check
    split
    · split
      · exact .goto (fun _ => hadmitted) hdone
      · exact .goto (fun _ => hadmitted) hdone
    · exact .refuse hdone
  | timed packet bucket =>
    rw [hstage] at h
    cases h
    exact effect_limitRequests hstage
  | limited packet =>
    rw [hstage] at h
    cases h
    exact effect_authenticate hstage
  | accepted =>
    rw [hstage] at h
    cases h
    -- the server parses the datagram once more, and refuses it if that fails
    unfold Books.finish
    split
    · exact .reply hstage .answered rfl rfl rfl
    · exact .goto (fun h => h.elim) (by simp [hstage])
  | done verdict =>
    rw [hstage] at h
    cases h
    exact .quiet rfl rfl rfl (fun h => ⟨h, rfl⟩) fun _ h => h

end Effects

end SimpleNtpd
