import Mathlib.Data.List.Nodup
import SimpleNtpd.Core.LimiterEffects
import SimpleNtpd.Core.WellFormedReplies
import SimpleNtpd.Lib.Window

/-!
# Rate limits

Two limiters stand in a datagram's way: one for its address, which keeps a counter
for the latest minute and reads the clock inside its critical section, and one for
its connection, which keeps a counter for each minute and is given the minute by a
worker that read the clock before. Both are exact in every interleaving of the
workers (`rate_limits_hold`). What is limited is the datagrams that come to a
limiter: a worker may be late with a reply, and the replies of several minutes can
go out in one (`late_replies_exceed_limits`).

`Limited` is the invariant of one client: its counters agree with the record of
decisions, and nothing is answered that has not been let through. The limiter with
one counter needs the clock of its sections not to go back (`SteadyClock`), the
other one does not.
-/

namespace SimpleNtpd

open Cpp Window

/-! ## The invariant of one client -/

/-- The counters of a client agree with the record, and nothing is answered that
was not let through, or twice. -/
structure Limited (c : NtpConfig) (k : Client) : Prop where
  latest : Latest k.books.rate (connectionLog k.log)
  connections : Follows (withinLimit c.connectionRateLimitPerMinute) (connectionLog k.log)
  reading : k.books.rate.1 = 0 ∨ ∃ now ∈ limiterReadings k.log, k.books.rate.1 = minuteBucket now
  counted : Counted k.books.requestCount (requestLog k.log)
  requests : Follows (withinLimit c.requestRateLimitPerMinute) (requestLog k.log)
  admitted : ∀ id t, k.tasks id = some t → t.stage.Admitted →
    (id, t.admittedAt) ∈ passedLog k.log
  replied : ∀ p ∈ replyLog k.log, p ∈ passedLog k.log ∧
    ∃ t verdict, k.tasks p.1 = some t ∧ t.stage = .done verdict
  nodup : ((replyLog k.log).map Prod.fst).Nodup

theorem countInBucket_eq (entry : Nat × UInt32) (bucket : Nat) :
    countInBucket entry bucket = (bucket, (if entry.1 = bucket then entry.2 else 0) + 1) := by
  unfold countInBucket
  by_cases h : entry.1 = bucket
  · simp [h]
  · simp [h]

namespace Limited

variable {c : NtpConfig} {k : Client} {id : TaskId} {t : Task} {env : PacketEnv} {l : Accounted}

/-- Clean books, and no datagram yet. -/
theorem init (c : NtpConfig) : Limited c {} where
  latest := ⟨rfl, fun _ h => absurd h List.not_mem_nil⟩
  connections := .nil _
  reading := .inl rfl
  counted := fun _ => rfl
  requests := .nil _
  admitted := by
    intro id t h
    cases h
  replied := fun _ h => absurd h List.not_mem_nil
  nodup := List.nodup_nil

/-- A new datagram. -/
theorem receive (h : Limited c k) (ht : k.tasks id = none) (data : Bytes) :
    Limited c { k with tasks := Function.update k.tasks id (some { data := data }) } where
  latest := h.latest
  connections := h.connections
  reading := h.reading
  counted := h.counted
  requests := h.requests
  admitted := by
    intro id' t' ht' hadmitted
    dsimp only at ht'
    by_cases hid : id' = id
    · subst hid
      rw [Function.update_self] at ht'
      cases ht'
      exact hadmitted.elim
    · rw [Function.update_of_ne hid] at ht'
      exact h.admitted id' t' ht' hadmitted
  replied := by
    intro p hp
    obtain ⟨hpassed, t', verdict, ht', hdone⟩ := h.replied p hp
    refine ⟨hpassed, t', verdict, ?_, hdone⟩
    have hne : p.1 ≠ id := by
      intro heq
      rw [heq, ht] at ht'
      cases ht'
    exact (Function.update_of_ne hne ..).trans ht'
  nodup := h.nodup

/-- What has been let through stays in the record. -/
theorem passedLog_record {p : TaskId × SteadyTime} (hp : p ∈ passedLog k.log) :
    p ∈ passedLog (k.record id l).log := by
  rw [Client.record, passedLog, List.filterMap_append]
  exact List.mem_append_left _ hp

/-- The datagrams in work are in the record when the one of the step is. -/
theorem admitted_record (h : Limited c k)
    (hnew : l.task.stage.Admitted → (id, l.task.admittedAt) ∈ passedLog (k.record id l).log) :
    ∀ id' t', (k.record id l).tasks id' = some t' → t'.stage.Admitted →
      (id', t'.admittedAt) ∈ passedLog (k.record id l).log := by
  intro id' t' ht' hadmitted
  by_cases hid : id' = id
  · subst hid
    rw [Client.record] at ht'
    dsimp only at ht'
    rw [Function.update_self] at ht'
    cases ht'
    exact hnew hadmitted
  · rw [Client.record] at ht'
    dsimp only at ht'
    rw [Function.update_of_ne hid] at ht'
    exact passedLog_record (h.admitted id' t' ht' hadmitted)

/-- The datagrams answered before stay done when a step on one that is done
leaves it so. -/
theorem replied_record (h : Limited c k) (ht : k.tasks id = some t)
    (hdone : ∀ verdict, t.stage = .done verdict → l.task.stage = .done verdict) :
    ∀ p ∈ replyLog k.log, p ∈ passedLog (k.record id l).log ∧
      ∃ t' verdict, (k.record id l).tasks p.1 = some t' ∧ t'.stage = .done verdict := by
  intro p hp
  obtain ⟨hpassed, t', verdict, ht', hverdict⟩ := h.replied p hp
  refine ⟨passedLog_record hpassed, ?_⟩
  by_cases hid : p.1 = id
  · rw [hid, ht] at ht'
    cases ht'
    exact ⟨l.task, verdict, by rw [hid]; exact Function.update_self .., hdone verdict hverdict⟩
  · exact ⟨t', verdict, (Function.update_of_ne hid ..).trans ht', hverdict⟩

/-- A step that shows in no counter and not in the record. -/
theorem record_quiet (h : Limited c k) (ht : k.tasks id = some t) (observed : l.observed = none)
    (rate : l.books.rate = k.books.rate) (count : l.books.requestCount = k.books.requestCount)
    (admitted : l.task.stage.Admitted → t.stage.Admitted ∧ l.task.admittedAt = t.admittedAt)
    (done : ∀ verdict, t.stage = .done verdict → l.task.stage = .done verdict) :
    Limited c (k.record id l) := by
  have hlog : (k.record id l).log = k.log := by
    rw [Client.record, observed]
    exact List.append_nil _
  -- the record is the same, and so are the counters it is compared with
  refine ⟨?_, ?_, ?_, ?_, ?_, ?_, ?_, ?_⟩
  · rw [hlog, Client.record, rate]
    exact h.latest
  · rw [hlog]
    exact h.connections
  · rw [hlog, Client.record, rate]
    exact h.reading
  · rw [hlog, Client.record, count]
    exact h.counted
  · rw [hlog]
    exact h.requests
  · refine h.admitted_record ?_
    intro hadmitted
    obtain ⟨hstage, hat⟩ := admitted hadmitted
    rw [hat]
    exact passedLog_record (h.admitted id t ht hstage)
  · have hreplied := h.replied_record ht done
    rwa [← hlog] at hreplied
  · rw [hlog]
    exact h.nodup

/-- The connection limiter decides by the number of earlier decisions in its minute. -/
theorem record_connection (h : Limited c k) (ht : k.tasks id = some t) (stage : t.stage = .allowed)
    (hclock : k.books.rate.1 ≤ minuteBucket env.rateTime) {passed : Bool}
    (decision : passed = !((countInBucket k.books.rate (minuteBucket env.rateTime)).2
      > c.connectionRateLimitPerMinute))
    (observed : l.observed = some (.connection id env.rateTime passed))
    (rate : l.books.rate = countInBucket k.books.rate (minuteBucket env.rateTime))
    (count : l.books.requestCount = k.books.requestCount)
    (admitted : l.task.stage.Admitted → passed = true ∧ l.task.admittedAt = env.rateTime) :
    Limited c (k.record id l) := by
  have hlog : (k.record id l).log = k.log ++ [.connection id env.rateTime passed] := by
    rw [Client.record, observed]
    rfl
  have hconnections : connectionLog (k.record id l).log
      = connectionLog k.log ++ [(minuteBucket env.rateTime, passed)] := by
    rw [hlog, connectionLog, List.filterMap_append]
    rfl
  have hrequests : requestLog (k.record id l).log = requestLog k.log := by
    rw [hlog, requestLog, List.filterMap_append]
    exact List.append_nil _
  have hreplies : replyLog (k.record id l).log = replyLog k.log := by
    rw [hlog, replyLog, List.filterMap_append]
    exact List.append_nil _
  -- the count compared is one more than the number of decisions in this minute
  have hrule : passed = withinLimit c.connectionRateLimitPerMinute
      (decisions (minuteBucket env.rateTime) (connectionLog k.log)).length := by
    rw [decision, countInBucket_eq, h.latest.value hclock]
    rfl
  refine ⟨?_, ?_, ?_, ?_, ?_, ?_, ?_, ?_⟩
  · rw [hconnections, Client.record, rate, countInBucket_eq]
    exact h.latest.concat hclock passed
  · rw [hconnections, hrule]
    exact h.connections.concat (minuteBucket env.rateTime)
  · rw [hlog, limiterReadings, List.filterMap_append, Client.record, rate, countInBucket_eq]
    exact .inr ⟨env.rateTime, List.mem_append_right _ List.mem_cons_self, rfl⟩
  · rw [hrequests, Client.record, count]
    exact h.counted
  · rw [hrequests]
    exact h.requests
  · refine h.admitted_record ?_
    intro hadmitted
    obtain ⟨hpassed, hat⟩ := admitted hadmitted
    rw [mem_passedLog_iff, hlog, hat, hpassed]
    exact List.mem_append_right _ List.mem_cons_self
  · rw [hreplies]
    refine h.replied_record ht ?_
    intro verdict hdone
    rw [stage] at hdone
    cases hdone
  · rw [hreplies]
    exact h.nodup

/-- The request limiter decides by the number of earlier decisions for its
connection and minute. -/
theorem record_request (h : Limited c k) (ht : k.tasks id = some t) {packet : NtpPacket}
    {bucket : Nat} (stage : t.stage = .timed packet bucket) {passed : Bool}
    (decision : passed = !(k.books.requestCount (id.client.port, bucket) + 1
      > c.requestRateLimitPerMinute))
    (observed : l.observed = some (.request id bucket passed))
    (rate : l.books.rate = k.books.rate)
    (count : l.books.requestCount = Function.update k.books.requestCount (id.client.port, bucket)
      (k.books.requestCount (id.client.port, bucket) + 1))
    (admitted : l.task.admittedAt = t.admittedAt) : Limited c (k.record id l) := by
  have hlog : (k.record id l).log = k.log ++ [.request id bucket passed] := by
    rw [Client.record, observed]
    rfl
  -- of the four logs only that of the requests grows
  have hconnections : connectionLog (k.record id l).log = connectionLog k.log := by
    rw [hlog, connectionLog, List.filterMap_append]
    exact List.append_nil _
  have hrequests : requestLog (k.record id l).log
      = requestLog k.log ++ [((id.client.port, bucket), passed)] := by
    rw [hlog, requestLog, List.filterMap_append]
    rfl
  have hreplies : replyLog (k.record id l).log = replyLog k.log := by
    rw [hlog, replyLog, List.filterMap_append]
    exact List.append_nil _
  have hreadings : limiterReadings (k.record id l).log = limiterReadings k.log := by
    rw [hlog, limiterReadings, List.filterMap_append]
    exact List.append_nil _
  have hrule : passed = withinLimit c.requestRateLimitPerMinute
      (decisions (id.client.port, bucket) (requestLog k.log)).length := by
    rw [decision, h.counted]
    rfl
  refine ⟨?_, ?_, ?_, ?_, ?_, ?_, ?_, ?_⟩
  · rw [hconnections, Client.record, rate]
    exact h.latest
  · rw [hconnections]
    exact h.connections
  · rw [hreadings, Client.record, rate]
    exact h.reading
  · rw [hrequests, Client.record, count]
    exact h.counted.concat (id.client.port, bucket) passed
  · rw [hrequests, hrule]
    exact h.requests.concat (id.client.port, bucket)
  · refine h.admitted_record ?_
    intro _
    rw [admitted]
    refine passedLog_record (h.admitted id t ht ?_)
    rw [stage]
    trivial
  · rw [hreplies]
    refine h.replied_record ht ?_
    intro verdict hdone
    rw [stage] at hdone
    cases hdone
  · rw [hreplies]
    exact h.nodup

/-- A datagram that is answered has been let through, and was not done. -/
theorem record_reply (h : Limited c k) (ht : k.tasks id = some t) (stage : t.stage = .accepted)
    {verdict : Verdict} (observed : l.observed = some (.reply id t.admittedAt))
    (books : l.books = k.books) (done : l.task.stage = .done verdict) :
    Limited c (k.record id l) := by
  have hlog : (k.record id l).log = k.log ++ [.reply id t.admittedAt] := by
    rw [Client.record, observed]
    rfl
  have hconnections : connectionLog (k.record id l).log = connectionLog k.log := by
    rw [hlog, connectionLog, List.filterMap_append]
    exact List.append_nil _
  have hrequests : requestLog (k.record id l).log = requestLog k.log := by
    rw [hlog, requestLog, List.filterMap_append]
    exact List.append_nil _
  have hreplies : replyLog (k.record id l).log = replyLog k.log ++ [(id, t.admittedAt)] := by
    rw [hlog, replyLog, List.filterMap_append]
    rfl
  have hreadings : limiterReadings (k.record id l).log = limiterReadings k.log := by
    rw [hlog, limiterReadings, List.filterMap_append]
    exact List.append_nil _
  have hadmitted : t.stage.Admitted := by
    rw [stage]
    trivial
  refine ⟨?_, ?_, ?_, ?_, ?_, ?_, ?_, ?_⟩
  · rw [hconnections, Client.record, books]
    exact h.latest
  · rw [hconnections]
    exact h.connections
  · rw [hreadings, Client.record, books]
    exact h.reading
  · rw [hrequests, Client.record, books]
    exact h.counted
  · rw [hrequests]
    exact h.requests
  · refine h.admitted_record ?_
    intro hnew
    rw [done] at hnew
    exact hnew.elim
  · intro p hp
    rw [hreplies] at hp
    rcases List.mem_append.mp hp with hold | hnew
    · refine h.replied_record ht (fun verdict hdone => ?_) p hold
      rw [stage] at hdone
      cases hdone
    · cases List.mem_singleton.mp hnew
      exact ⟨passedLog_record (h.admitted id t ht hadmitted), l.task, verdict,
        Function.update_self .., done⟩
  · rw [hreplies, List.map_append]
    refine List.nodup_append.mpr ⟨h.nodup, List.nodup_singleton _, ?_⟩
    -- a datagram answered before is done, and this one was not
    intro id' hid' id'' hid'' heq
    cases List.mem_singleton.mp hid''
    subst heq
    obtain ⟨p, hp, hpid⟩ := List.mem_map.mp hid'
    obtain ⟨-, t', verdict', ht', hdone⟩ := h.replied p hp
    rw [hpid] at ht'
    cases ht.symm.trans ht'
    rw [stage] at hdone
    cases hdone

/-- The counter's minute is not later than a reading that is not earlier than
those before. -/
theorem rate_le (h : Limited c k) {now : SteadyTime}
    (hsteady : ∀ earlier ∈ limiterReadings k.log, earlier ≤ now) :
    k.books.rate.1 ≤ minuteBucket now := by
  rcases h.reading with hzero | ⟨earlier, hmem, hminute⟩
  · rw [hzero]
    exact Nat.zero_le _
  · rw [hminute]
    exact Nat.div_le_div_right (hsteady earlier hmem)

/-- A step on a datagram, after which the readings are still in order. -/
theorem record (h : Limited c k) (ht : k.tasks id = some t) (heffect : Effect c k.books id t env l)
    (hsteady : (limiterReadings (k.record id l).log).Pairwise (· ≤ ·)) :
    Limited c (k.record id l) := by
  cases heffect with
  | quiet observed rate count admitted done =>
    exact h.record_quiet ht observed rate count admitted done
  | connection stage passed decision observed rate count admitted =>
    have hclock : k.books.rate.1 ≤ minuteBucket env.rateTime := by
      refine h.rate_le ?_
      intro earlier hmem
      rw [Client.record, observed, limiterReadings, List.filterMap_append,
        List.pairwise_append] at hsteady
      exact hsteady.2.2 earlier hmem env.rateTime List.mem_cons_self
    exact h.record_connection ht stage hclock decision observed rate count admitted
  | request packet bucket stage passed decision observed rate count admitted =>
    exact h.record_request ht stage decision observed rate count admitted
  | reply stage verdict observed books done => exact h.record_reply ht stage observed books done

end Limited

/-! ## Runs -/

section Runs

variable {evp : Evp} {c : NtpConfig} {k k' : Client} {e : WorkerEvent}

/-- The record only grows. -/
theorem log_prefix_step (hstep : k.step evp c e = .ok k') : k.log <+: k'.log := by
  cases e with
  | receive id data =>
    simp only [Client.step] at hstep
    split at hstep
    · cases hstep
      exact List.prefix_refl _
    · cases hstep
      exact List.prefix_refl _
  | advance id env =>
    simp only [Client.step] at hstep
    split at hstep
    · cases hstep
      exact List.prefix_refl _
    · split at hstep
      · cases hstep
      · cases hstep
        exact List.prefix_append _ _
  | sync world now =>
    cases hstep
    exact List.prefix_refl _
  | cleanup =>
    cases hstep
    exact List.prefix_refl _

theorem log_prefix_run {events : List WorkerEvent}
    (hrun : events.foldlM (Client.step evp c) k = .ok k') : k.log <+: k'.log := by
  induction events generalizing k with
  | nil =>
    cases hrun
    exact List.prefix_refl _
  | cons e events ih =>
    obtain ⟨k₁, hstep, hrest⟩ := Components.foldlM_cons_iff.mp hrun
    exact (log_prefix_step hstep).trans (ih hrest)

/-- A step of a client keeps the invariant when the readings are in order after it. -/
theorem Limited.step (hon : c.enableRateLimiting = true) (h : Limited c k)
    (hstep : k.step evp c e = .ok k') (hsteady : (limiterReadings k'.log).Pairwise (· ≤ ·)) :
    Limited c k' := by
  cases e with
  | receive id data =>
    simp only [Client.step] at hstep
    cases ht : k.tasks id with
    | some t =>
      rw [ht] at hstep
      cases hstep
      exact h
    | none =>
      rw [ht] at hstep
      cases hstep
      exact h.receive ht data
  | advance id env =>
    simp only [Client.step] at hstep
    cases ht : k.tasks id with
    | none =>
      rw [ht] at hstep
      cases hstep
      exact h
    | some t =>
      rw [ht] at hstep
      dsimp only at hstep
      cases hadvance : k.books.advance evp c id t env with
      | error exn =>
        rw [hadvance] at hstep
        cases hstep
      | ok l =>
        rw [hadvance] at hstep
        cases hstep
        exact h.record ht (effect_advance hon hadvance) hsteady
  | sync world now =>
    cases hstep
    exact h
  | cleanup =>
    cases hstep
    exact h

/-- The invariant over a run of a client: induction on the steps; the readings at
the end are in order, so those after each step are. -/
theorem Limited.run (hon : c.enableRateLimiting = true) {events : List WorkerEvent}
    (h : Limited c k) (hrun : events.foldlM (Client.step evp c) k = .ok k')
    (hsteady : (limiterReadings k'.log).Pairwise (· ≤ ·)) : Limited c k' := by
  induction events generalizing k with
  | nil =>
    cases hrun
    exact h
  | cons e events ih =>
    obtain ⟨k₁, hstep, hrest⟩ := Components.foldlM_cons_iff.mp hrun
    have hprefix : (limiterReadings k₁.log).Sublist (limiterReadings k'.log) :=
      (log_prefix_run hrest).sublist.filterMap _
    exact ih (h.step hon hstep (hsteady.sublist hprefix)) hrest

end Runs

/-! ## What the limiters guarantee -/

section Guarantees

variable {c : NtpConfig} {k : Client}

/-- The datagrams let through in a minute are the positive decisions in it. -/
theorem countP_passedLog (log : List Observation) (bucket : Nat) :
    (passedLog log).countP (fun p => minuteBucket p.2 = bucket)
      = (decisions bucket (connectionLog log)).count true := by
  induction log with
  | nil => rfl
  | cons o log ih =>
    cases o with
    | connection id now passed =>
      have htail : decisions bucket (connectionLog (.connection id now passed :: log))
          = (if minuteBucket now = bucket then [passed] else [])
            ++ decisions bucket (connectionLog log) := by
        by_cases hbucket : minuteBucket now = bucket <;>
          simp [connectionLog, decisions, hbucket]
      rw [htail, List.count_append, ← ih]
      -- a positive decision is in both counts, a negative one in neither
      cases passed with
      | true =>
        show ((id, now) :: passedLog log).countP _ = _
        rw [List.countP_cons]
        by_cases hbucket : minuteBucket now = bucket <;> simp [hbucket, Nat.add_comm]
      | false =>
        show (passedLog log).countP _ = _
        by_cases hbucket : minuteBucket now = bucket <;> simp [hbucket]
    | request id now passed => exact ih
    | reply id now => exact ih

/-- In a minute no more datagrams are answered than are let through. -/
theorem Limited.replies_le (h : Limited c k) {bucket : Nat}
    (hfew : (decisions bucket (connectionLog k.log)).length < 2 ^ 32) :
    ((replyLog k.log).map Prod.snd).countP (fun now => minuteBucket now = bucket)
      ≤ c.connectionRateLimitPerMinute.toNat := by
  have hsubset : (replyLog k.log).filter (fun p => minuteBucket p.2 = bucket)
      ⊆ (passedLog k.log).filter fun p => minuteBucket p.2 = bucket := by
    intro p hp
    obtain ⟨hmem, hbucket⟩ := List.mem_filter.mp hp
    exact List.mem_filter.mpr ⟨(h.replied p hmem).1, hbucket⟩
  have hnodup : ((replyLog k.log).filter fun p => minuteBucket p.2 = bucket).Nodup :=
    (List.Nodup.of_map Prod.fst h.nodup).filter _
  calc ((replyLog k.log).map Prod.snd).countP (fun now => minuteBucket now = bucket)
      = ((replyLog k.log).filter fun p => minuteBucket p.2 = bucket).length := by
        rw [List.countP_map, List.countP_eq_length_filter]
        rfl
    _ ≤ ((passedLog k.log).filter fun p => minuteBucket p.2 = bucket).length :=
        hnodup.length_le_of_subset hsubset
    _ = (decisions bucket (connectionLog k.log)).count true := by
        rw [← countP_passedLog, List.countP_eq_length_filter]
    _ ≤ c.connectionRateLimitPerMinute.toNat :=
        (h.connections.firstPass_withinLimit hfew).count_true_le

end Guarantees

/-- The decisions of the connection limiter on the datagrams of an address in a
minute of the steady clock, in the order of its critical sections. -/
def connectionDecisions (w : Workers) (ip : UInt32) (bucket : Nat) : List Bool :=
  decisions bucket (connectionLog (w.client ip).log)

/-- The decisions of the request limiter of a connection on the requests in a
minute, in the order of its critical sections. -/
def requestDecisions (w : Workers) (client : SockAddr) (bucket : Nat) : List Bool :=
  decisions (client.port, bucket) (requestLog (w.client client.ip).log)

/-- The replies to an address, each as the reading with which the connection
limiter let its datagram pass. -/
def repliesTo (w : Workers) (ip : UInt32) : List SteadyTime :=
  (replyLog (w.client ip).log).map Prod.snd

/-- The steady clock does not go back from one section of the connection limiter
to a later one; they are all under one mutex. -/
def SteadyClock (w : Workers) : Prop := (limiterReadings w.log).Pairwise (· ≤ ·)

/-- Fewer than 2^32 datagrams of an address come to a limiter in a minute. -/
def FewDatagrams (w : Workers) (ip : UInt32) : Prop :=
  ∀ bucket, (connectionDecisions w ip bucket).length < 2 ^ 32 ∧
    ∀ port, (requestDecisions w ⟨ip, port⟩ bucket).length < 2 ^ 32

/-- **The rate limits hold in every interleaving.** With the limiters on, in every
state the workers reach with a steady clock: in each minute exactly
the first datagrams of an address, up to the limit, are let through, and exactly
the first requests of each connection; so no more replies than the limit go to an
address for the datagrams of a minute, and at most twice as many for those of any
sixty seconds. -/
theorem rate_limits_hold (evp : Evp) (c : NtpConfig) (logger : LoggerSettings)
    (hon : c.enableRateLimiting = true) (events : List WorkerEvent) (w : Workers)
    (hrun : (Workers.start c logger).run evp events = .ok w) (hclock : SteadyClock w)
    (ip : UInt32) (hfew : FewDatagrams w ip) :
    (∀ bucket, FirstPass c.connectionRateLimitPerMinute.toNat (connectionDecisions w ip bucket)) ∧
    (∀ port bucket,
      FirstPass c.requestRateLimitPerMinute.toNat (requestDecisions w ⟨ip, port⟩ bucket)) ∧
    (∀ bucket, (repliesTo w ip).countP (fun now => minuteBucket now = bucket)
      ≤ c.connectionRateLimitPerMinute.toNat) ∧
    (∀ start, (repliesTo w ip).countP (fun now => start ≤ now ∧ now ≤ start + 60000000000)
      ≤ 2 * c.connectionRateLimitPerMinute.toNat) := by
  have hlimited : Limited c (w.client ip) := by
    refine Limited.run hon (Limited.init c) (client_run hrun ip) ?_
    exact hclock.sublist (List.filter_sublist.filterMap _)
  have hreplies := fun bucket => hlimited.replies_le (hfew bucket).1
  refine ⟨?_, ?_, hreplies, ?_⟩
  · intro bucket
    exact hlimited.connections.firstPass_withinLimit (hfew bucket).1
  · intro port bucket
    exact hlimited.requests.firstPass_withinLimit ((hfew bucket).2 port)
  · intro start
    calc (repliesTo w ip).countP (fun now => start ≤ now ∧ now ≤ start + 60000000000)
        ≤ _ := countP_span_le 60000000000 start (repliesTo w ip)
      _ ≤ _ := Nat.add_le_add (hreplies (minuteBucket start)) (hreplies (minuteBucket start + 1))
      _ = 2 * c.connectionRateLimitPerMinute.toNat := (Nat.two_mul _).symm

/-- A step decides at most once. -/
theorem log_length_le {evp : Evp} {events : List WorkerEvent} {w w' : Workers}
    (hrun : w.run evp events = .ok w') : w'.log.length ≤ w.log.length + events.length := by
  induction events generalizing w with
  | nil =>
    cases hrun
    exact Nat.le_refl _
  | cons e events ih =>
    obtain ⟨w₁, hstep, hrest⟩ := Components.foldlM_cons_iff.mp hrun
    -- only a step on a datagram records anything
    have hone : w₁.log.length ≤ w.log.length + 1 := by
      cases e with
      | receive id data =>
        simp only [Workers.step] at hstep
        split at hstep <;> cases hstep <;> exact Nat.le_succ _
      | advance id env =>
        simp only [Workers.step] at hstep
        split at hstep
        · cases hstep
          exact Nat.le_succ _
        · split at hstep
          · cases hstep
          · rename_i a _
            cases hstep
            show (w.log ++ a.observed.toList).length ≤ _
            rw [List.length_append]
            cases a.observed <;> simp
      | sync world now =>
        cases hstep
        exact Nat.le_succ _
      | cleanup =>
        cases hstep
        exact Nat.le_succ _
    have htail := ih hrest
    rw [List.length_cons]
    omega

/-- In a run of fewer than 2^32 steps there are few enough datagrams. -/
theorem fewDatagrams_of_run {evp : Evp} {c : NtpConfig} {logger : LoggerSettings}
    {events : List WorkerEvent} {w : Workers}
    (hrun : (Workers.start c logger).run evp events = .ok w) (hshort : events.length < 2 ^ 32)
    (ip : UInt32) : FewDatagrams w ip := by
  have hlog : (w.client ip).log.length < 2 ^ 32 := by
    have hall := log_length_le hrun
    have hown : (w.client ip).log.length ≤ w.log.length := List.length_filter_le ..
    have hzero : (Workers.start c logger).log.length = 0 := rfl
    omega
  intro bucket
  constructor
  · exact Nat.lt_of_le_of_lt
      ((List.length_filterMap_le ..).trans (List.length_filterMap_le ..)) hlog
  · intro port
    exact Nat.lt_of_le_of_lt
      ((List.length_filterMap_le ..).trans (List.length_filterMap_le ..)) hlog

/-- The defaults with the limiters on, and one datagram a minute for an address. -/
def oneAMinute : NtpConfig :=
  { NtpConfig.defaults with enableRateLimiting := true, connectionRateLimitPerMinute := 1 }

/-- Two requests of one client in one minute, the second between the steps of the
first. -/
def twoRequests : List WorkerEvent :=
  .receive ⟨exampleClient, 0⟩ exampleRequest :: Workers.alone ⟨exampleClient, 1⟩ exampleRequest exampleEnv
    ++ List.replicate 8 (.advance ⟨exampleClient, 0⟩ exampleEnv)

/-- The one whose section comes first is let through. -/
theorem rate_limits_hold_two :
    ∃ w, (Workers.start oneAMinute (NtpServer.loggerSettings oneAMinute)).run (fun _ _ => none)
        twoRequests = .ok w ∧
      connectionDecisions w exampleClient.ip 0 = [true, false] ∧
      (∀ bucket, FirstPass 1 (connectionDecisions w exampleClient.ip bucket)) ∧
      (∀ port bucket, FirstPass oneAMinute.requestRateLimitPerMinute.toNat
        (requestDecisions w ⟨exampleClient.ip, port⟩ bucket)) ∧
      (∀ bucket, (repliesTo w exampleClient.ip).countP (fun now => minuteBucket now = bucket) ≤ 1) ∧
      (∀ start, (repliesTo w exampleClient.ip).countP
        (fun now => start ≤ now ∧ now ≤ start + 60000000000) ≤ 2) := by
  have hrecord : (((Workers.start oneAMinute (NtpServer.loggerSettings oneAMinute)).run
      (fun _ _ => none) twoRequests).map fun w =>
        (connectionDecisions w exampleClient.ip 0, limiterReadings w.log)).toOption
      = some ([true, false], [1000000000, 1000000000]) := by
    decide +kernel
  obtain ⟨w, hrun, hpair⟩ := Runs.exists_of_toOption_map hrecord
  obtain ⟨hdecisions, hreadings⟩ := Prod.mk.inj hpair
  have hsteady : SteadyClock w := by
    rw [SteadyClock, hreadings]
    decide
  exact ⟨w, hrun, hdecisions,
    rate_limits_hold _ oneAMinute _ rfl twoRequests w hrun hsteady exampleClient.ip
      (fewDatagrams_of_run hrun (by decide) _)⟩

/-! ## When the replies go out -/

/-- The reading of the clock behind `sendto` in a step that sends a reply to an
address (server.cpp:508–531). -/
def sendTime (evp : Evp) (ip : UInt32) (w : Workers) : WorkerEvent → Option SteadyTime
  | .advance id env =>
    match w.tasks id with
    | none => none
    | some t =>
      match t.advance evp w.server id env with
      | .error _ => none
      | .ok a => if id.client.ip = ip ∧ a.reply.isSome ∧ env.sendOk then some env.endTime else none
  | _ => none

/-- The replies that go out to an address in a run, each as the reading of the clock
behind its `sendto`. -/
def sendTimes (evp : Evp) (ip : UInt32) (w : Workers) : List WorkerEvent → List SteadyTime
  | [] => []
  | e :: events =>
    match w.step evp e with
    | .error _ => []
    | .ok w' => (sendTime evp ip w e).toList ++ sendTimes evp ip w' events

/-- A step at a time of the steady clock, on a datagram taken from the socket before. -/
def envAt (received now : SteadyTime) : PacketEnv :=
  { exampleEnv with
    startTime := received, rateTime := now, ddosTime := now, requestTime := now, endTime := now }

/-- Three requests of one client come to the limiters in three minutes, and their
workers answer all of them in the third. -/
def lateReplies : List WorkerEvent :=
  [0, 1, 2].flatMap (fun n =>
    .receive ⟨exampleClient, n⟩ exampleRequest :: List.replicate 7
      (.advance ⟨exampleClient, n⟩ (envAt (n * 60000000000) (n * 60000000000)))) ++
  [0, 1, 2].map fun n =>
    .advance ⟨exampleClient, n⟩ (envAt (n * 60000000000) (121000000000 + n * 1000))

/-- **The limits are not on the instants of sending.** At one datagram a minute, three
replies go out to an address in one minute, and three in sixty seconds. -/
theorem late_replies_exceed_limits :
    ∃ w, (Workers.start oneAMinute (NtpServer.loggerSettings oneAMinute)).run (fun _ _ => none)
        lateReplies = .ok w ∧
      oneAMinute.enableRateLimiting = true ∧ oneAMinute.connectionRateLimitPerMinute = 1 ∧
      SteadyClock w ∧ FewDatagrams w exampleClient.ip ∧
      (limiterReadings w.log ++ sendTimes (fun _ _ => none) exampleClient.ip
        (Workers.start oneAMinute (NtpServer.loggerSettings oneAMinute)) lateReplies).Pairwise
          (· ≤ ·) ∧
      ¬(∀ bucket, (sendTimes (fun _ _ => none) exampleClient.ip
        (Workers.start oneAMinute (NtpServer.loggerSettings oneAMinute)) lateReplies).countP
          (fun now => minuteBucket now = bucket) ≤ 1) ∧
      ¬(∀ start, (sendTimes (fun _ _ => none) exampleClient.ip
        (Workers.start oneAMinute (NtpServer.loggerSettings oneAMinute)) lateReplies).countP
          (fun now => start ≤ now ∧ now ≤ start + 60000000000) ≤ 2) := by
  have hreadings : (((Workers.start oneAMinute (NtpServer.loggerSettings oneAMinute)).run
      (fun _ _ => none) lateReplies).map fun w => limiterReadings w.log).toOption
      = some [0, 60000000000, 120000000000] := by
    decide +kernel
  have hsends : sendTimes (fun _ _ => none) exampleClient.ip
      (Workers.start oneAMinute (NtpServer.loggerSettings oneAMinute)) lateReplies
      = [121000000000, 121000001000, 121000002000] := by
    decide +kernel
  obtain ⟨w, hrun, hlimiter⟩ := Runs.exists_of_toOption_map hreadings
  refine ⟨w, hrun, rfl, rfl, ?_, fewDatagrams_of_run hrun (by decide) _, ?_, ?_, ?_⟩
  · rw [SteadyClock, hlimiter]
    decide
  · rw [hlimiter, hsends]
    decide
  · -- all three are in the minute of the last datagram
    intro hle
    have hthird := hle 2
    rw [hsends] at hthird
    revert hthird
    decide
  · intro hle
    have hspan := hle 121000000000
    rw [hsends] at hspan
    revert hspan
    decide

end SimpleNtpd
