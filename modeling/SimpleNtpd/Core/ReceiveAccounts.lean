import Mathlib.Data.Finset.Card
import Mathlib.Data.Finset.Range
import SimpleNtpd.Core.LimiterEffects
import SimpleNtpd.Core.ReceiveLoop

/-!
# What the receive loop counts and sends

A datagram is counted once, in the step in which its processing ends, so the answers and
the errors are the datagrams that were processed (`Accounts`), and when no worker has
one in hand, all datagrams with any bytes. The counters are plain integers without a
lock: of two workers that count at once one can overwrite what the other has counted,
where the steps of this model come one after the other. What is said of the counters is
said of a server with one worker thread (`datagrams_counted`).

A reply has 48 bytes, and only a datagram of at least as many is answered, once. So no
address is ever sent more bytes than have come from it (`no_amplification`): who writes a
victim's address into his datagrams sends as much as the victim gets. No counter has a
part in this, and there may be any number of workers.
-/

namespace SimpleNtpd

open Cpp

namespace ReceiveLoop

/-- The processing of datagram `k` has ended. -/
def isProcessed (l : ReceiveLoop) (k : Nat) : Bool :=
  (l.taken[k]?).any fun d => (l.workers.tasks ⟨d.client, k⟩).any fun t => t.stage.isDone

/-- The datagrams whose processing has ended. -/
def processed (l : ReceiveLoop) : Finset Nat :=
  (Finset.range l.taken.length).filter fun k => l.isProcessed k

/-- The datagrams that were answered, one for each call of `sendto`. -/
def answered (l : ReceiveLoop) : List TaskId := (replyLog l.workers.log).map Prod.fst

variable {evp : Evp} {l l' : ReceiveLoop} {m : ReceiveMove}

theorem mem_processed {k : Nat} : k ∈ l.processed ↔
    ∃ d t, l.taken[k]? = some d ∧ l.workers.tasks ⟨d.client, k⟩ = some t ∧ t.stage.isDone = true := by
  simp only [processed, isProcessed, Finset.mem_filter, Finset.mem_range, Option.any_eq_true]
  constructor
  · rintro ⟨-, d, hd, t, ht, hdone⟩
    exact ⟨d, t, hd, ht, hdone⟩
  · rintro ⟨d, t, hd, ht, hdone⟩
    exact ⟨(List.getElem?_eq_some_iff.mp hd).1, d, hd, t, ht, hdone⟩

/-- A task counts as processed when its last section is over. -/
theorem Fed.mem_processed (h : l.Fed) {id : TaskId} {t : Task} (ht : l.workers.tasks id = some t) :
    id.number ∈ l.processed ↔ t.stage.isDone = true := by
  obtain ⟨d, hd, hclient, -⟩ := h.tasks id t ht
  have hid : (⟨d.client, id.number⟩ : TaskId) = id := by rw [hclient]
  rw [ReceiveLoop.mem_processed]
  constructor
  · rintro ⟨d', t', hd', ht', hdone⟩
    rw [hd] at hd'
    cases hd'
    rw [hid, ht] at ht'
    cases ht'
    exact hdone
  · exact fun hdone => ⟨d, t, hd, by rw [hid, ht], hdone⟩

/-- What was counted, and what was sent. -/
structure Accounts (l : ReceiveLoop) : Prop where
  counted : NtpServerStats.Accounted l.processed.card l.workers.server.stats
  replies : ∀ id reply, l.workers.sent id = some reply → reply.length = ntpPacketSize ∧
    ∃ t, l.workers.tasks id = some t ∧ t.stage.isDone = true ∧ ntpPacketSize ≤ t.data.length

/-- A datagram that was just taken is not processed. -/
theorem processed_concat {l l' : ReceiveLoop} {d : Datagram} (htaken : l'.taken = l.taken ++ [d])
    (htasks : ∀ (k : Nat) d', l.taken[k]? = some d' →
      l'.workers.tasks ⟨d'.client, k⟩ = l.workers.tasks ⟨d'.client, k⟩)
    (hnew : ∀ t, l'.workers.tasks ⟨d.client, l.taken.length⟩ = some t → t.stage.isDone = false) :
    l'.processed = l.processed := by
  ext k
  rw [mem_processed, mem_processed, htaken]
  constructor
  · rintro ⟨d', t, hd', ht, hdone⟩
    rcases of_getElem?_concat hd' with hold | ⟨rfl, rfl⟩
    · exact ⟨d', t, hold, by rw [← htasks k d' hold, ht], hdone⟩
    · rw [hnew t ht] at hdone
      cases hdone
  · rintro ⟨d', t, hd', ht, hdone⟩
    exact ⟨d', t, getElem?_concat hd' d, by rw [htasks k d' hd', ht], hdone⟩

theorem Accounts.counted_concat (h : l.Accounts) {d : Datagram}
    (hserver : l'.workers.server = l.workers.server) (htaken : l'.taken = l.taken ++ [d])
    (htasks : ∀ (k : Nat) d', l.taken[k]? = some d' →
      l'.workers.tasks ⟨d'.client, k⟩ = l.workers.tasks ⟨d'.client, k⟩)
    (hnew : ∀ t, l'.workers.tasks ⟨d.client, l.taken.length⟩ = some t → t.stage.isDone = false) :
    NtpServerStats.Accounted l'.processed.card l'.workers.server.stats := by
  rw [processed_concat htaken htasks hnew, hserver]
  exact h.counted

/-- A step of one task changes the others by nothing. -/
theorem mem_processed_record {id : TaskId} {a : Advanced} {k : Nat} (hk : k ≠ id.number) :
    k ∈ processed { l with workers := l.workers.record id a } ↔ k ∈ l.processed := by
  have hne : ∀ d : Datagram, (⟨d.client, k⟩ : TaskId) ≠ id := by
    rintro d rfl
    exact hk rfl
  simp only [mem_processed, Workers.record_tasks_of_ne (hne _)]

theorem sent_record {w : Workers} {id id' : TaskId} {a : Advanced} {reply : Bytes}
    (h : (w.record id a).sent id' = some reply) :
    w.sent id' = some reply ∨ id' = id ∧ a.reply = some reply := by
  cases hreply : a.reply with
  | none =>
    simp only [Workers.record, hreply] at h
    exact .inl h
  | some sent =>
    simp only [Workers.record, hreply] at h
    by_cases hid : id' = id
    · subst hid
      rw [Function.update_self] at h
      exact .inr ⟨rfl, h⟩
    · rw [Function.update_of_ne hid] at h
      exact .inl h

/-- **Every step keeps the accounts.** -/
theorem Accounts.step (h : l.Accounts) (hfed : l.Fed) (hstep : Happens evp l m l') :
    l'.Accounts := by
  cases hstep with
  | arrives | again | ends | reopens => exact ⟨h.counted, h.replies⟩
  | @empty i buffer d rest hreceiver hsocket hempty =>
    refine ⟨h.counted_concat rfl rfl (fun _ _ _ => rfl) fun t ht => ?_, h.replies⟩
    rw [hfed.fresh d.client] at ht
    cases ht
  | @takes i buffer d rest w hreceiver hsocket hbytes hstep =>
    have hfresh := hfed.fresh d.client
    simp only [Workers.step, hfresh] at hstep
    cases hstep
    refine ⟨h.counted_concat rfl rfl (fun k d' hd' => ?_) fun t ht => ?_, fun id reply hsent => ?_⟩
    · have hlt := (List.getElem?_eq_some_iff.mp hd').1
      refine Function.update_of_ne (fun heq => ?_) _ _
      exact Nat.ne_of_lt hlt (TaskId.mk.inj heq).2
    · dsimp only at ht
      rw [Function.update_self] at ht
      cases ht
      rfl
    · obtain ⟨hlength, t, ht, hrest⟩ := h.replies id reply hsent
      refine ⟨hlength, t, ?_, hrest⟩
      dsimp only
      rw [Function.update_of_ne, ht]
      rintro rfl
      rw [hfresh] at ht
      cases ht
  | @works i env buffer id t a hreceiver htask hopen hadvance =>
    obtain ⟨hdata, hstage⟩ := Task.advance_counted hadvance hopen
    have hnot : id.number ∉ l.processed := fun hmem => by
      rw [hfed.mem_processed htask, hopen] at hmem
      cases hmem
    have hfed' : Fed { l with workers := l.workers.record id a } :=
      hfed.step (show Happens evp l (.work i env) _ from .works hreceiver htask hopen hadvance)
    have hmem := hfed'.mem_processed (l.workers.record_tasks_self id a)
    refine ⟨?_, fun id' reply hsent => ?_⟩
    · rcases hstage with ⟨hgoes, -, hstats⟩ | ⟨hends, houtcome, -⟩
      · have hsame : processed { l with workers := l.workers.record id a } = l.processed := by
          ext k
          by_cases hk : k = id.number
          · subst hk
            rw [hmem, hgoes]
            exact iff_of_false Bool.false_ne_true hnot
          · exact mem_processed_record hk
        rw [hsame]
        show NtpServerStats.Accounted _ a.server.stats
        rcases hstats with heq | heq
        · rw [heq]
          exact h.counted
        · rw [heq]
          exact h.counted.countConnection
      · have hinsert : processed { l with workers := l.workers.record id a }
            = insert id.number l.processed := by
          ext k
          rw [Finset.mem_insert]
          by_cases hk : k = id.number
          · subst hk
            rw [hmem]
            exact ⟨fun _ => .inl rfl, fun _ => hends⟩
          · rw [mem_processed_record hk]
            exact ⟨.inr, fun hor => hor.resolve_left hk⟩
        rw [hinsert, Finset.card_insert_of_notMem hnot]
        -- what is counted fits into the buffer
        obtain ⟨d, -, -, -, hbytes⟩ := hfed.tasks id t htask
        refine h.counted.outcome houtcome ?_
        rw [hbytes, List.length_take]
        exact Nat.min_le_left _ _
    · rcases sent_record hsent with hold | ⟨rfl, hnew⟩
      · obtain ⟨hlength, t', ht', hdone, hlong⟩ := h.replies id' reply hold
        have hne : id' ≠ id := by
          rintro rfl
          rw [htask] at ht'
          cases ht'
          rw [hopen] at hdone
          cases hdone
        exact ⟨hlength, t', by rw [Workers.record_tasks_of_ne hne, ht'], hdone, hlong⟩
      · rcases hstage with ⟨-, hnone, -⟩ | ⟨hends, -, hreply⟩
        · rw [hnone] at hnew
          cases hnew
        · obtain ⟨hlength, hlong⟩ := hreply reply hnew
          refine ⟨hlength, a.task, l.workers.record_tasks_self id' a, hends, ?_⟩
          rw [hdata]
          exact hlong
  | @around _ s running hstats hworkers =>
    obtain ⟨active, hstats⟩ := hstats
    refine ⟨?_, h.replies⟩
    show NtpServerStats.Accounted l.processed.card s.stats
    rw [hstats]
    exact ⟨h.counted.datagrams, h.counted.requests, h.counted.bytes, h.counted.fastest,
      h.counted.slowest, h.counted.ordered⟩

theorem Accounts.run (h : l.Accounts) (hfed : l.Fed) {moves : List ReceiveMove}
    (hrun : l.run evp moves = .ok l') : l'.Accounts :=
  (Runs.foldlM_invariant (I := fun l => l.Fed ∧ l.Accounts)
    (fun _ _ _ _ ht hstep => ⟨ht.1.step (step_happens hstep), ht.2.step ht.1 (step_happens hstep)⟩)
    ⟨hfed, h⟩ hrun).2

theorem Accounts.start (c : NtpConfig) (logger : LoggerSettings) (threads : Nat) :
    (start c logger threads).Accounts := ⟨.new, nofun⟩

/-- The positions of what is counted; induction on the list from its end. -/
theorem card_positions {α : Type*} (xs : List α) (p : α → Bool) :
    ((Finset.range xs.length).filter fun k => (xs[k]?).any p).card = xs.countP p := by
  induction xs using List.reverseRecOn with
  | nil => rfl
  | append_singleton xs a ih =>
    have hold : ((Finset.range xs.length).filter fun k => ((xs ++ [a])[k]?).any p)
        = (Finset.range xs.length).filter fun k => (xs[k]?).any p := by
      refine Finset.filter_congr fun k hk => ?_
      rw [List.getElem?_append_left (Finset.mem_range.mp hk)]
    rw [List.length_append, List.length_singleton, Finset.range_add_one, Finset.filter_insert,
      hold, List.countP_append, ← ih]
    cases ha : p a <;> simp [ha]

/-- When all workers wait, every datagram with any bytes is processed. -/
theorem Fed.card_processed (h : l.Fed) (hidle : ∀ r ∈ l.receivers, r.current = none) :
    l.processed.card = l.taken.countP fun d => d.bytes ≠ [] := by
  rw [← card_positions, processed]
  refine congrArg Finset.card (Finset.filter_congr fun k hk => ?_)
  have hfinished : k ∈ l.finished := by
    refine ((h.served.done_or_held k).mp (Finset.mem_range.mp hk)).resolve_right ?_
    rintro ⟨i, hi⟩
    simp only [queue, List.getElem?_map, Option.map_eq_some_iff] at hi
    obtain ⟨r, hr, hcurrent⟩ := hi
    rw [hidle r (List.mem_of_getElem? hr)] at hcurrent
    simp at hcurrent
  simp only [isProcessed, Option.any_eq_true]
  constructor
  · rintro ⟨d, hd, t, ht, -⟩
    obtain ⟨d', hd', -, hne, -⟩ := h.tasks _ t ht
    rw [hd] at hd'
    cases hd'
    exact ⟨d, hd, decide_eq_true hne⟩
  · rintro ⟨d, hd, hne⟩
    obtain ⟨t, ht⟩ := h.known k d hd (of_decide_eq_true hne)
    exact ⟨d, hd, t, ht, h.ended _ t ht hfinished⟩

/-- **The counters.** With one worker thread, whatever goes on around it, the answers and
the errors are as many as the datagrams whose processing has ended: when the worker waits,
as those that were received with any bytes. The bytes that were counted are 48 for each
answer. -/
theorem datagrams_counted (evp : Evp) (c : NtpConfig) (logger : LoggerSettings)
    (moves : List ReceiveMove) (l : ReceiveLoop)
    (hrun : (start c logger 1).run evp moves = .ok l) :
    NtpServerStats.Accounted l.processed.card l.workers.server.stats ∧
    ((∀ r ∈ l.receivers, r.current = none) →
      l.workers.server.stats.totalResponses + l.workers.server.stats.totalErrors
        = l.taken.countP fun d => d.bytes ≠ []) := by
  have hfed := (Fed.start c logger 1).run hrun
  have haccounts := (Accounts.start c logger 1).run (Fed.start c logger 1) hrun
  refine ⟨haccounts.counted, fun hidle => ?_⟩
  rw [← hfed.card_processed hidle]
  exact haccounts.counted.datagrams.symm

/-- The two datagrams, both processed. -/
def bothProcessed : List ReceiveMove := longThenShort ++ List.replicate 9 (.work 0 exampleEnv)

/-- One is answered and one is an error. -/
theorem datagrams_counted_both :
    ∃ l, (start NtpConfig.defaults (NtpServer.loggerSettings NtpConfig.defaults) 1).run
        (fun _ _ => none) bothProcessed = .ok l ∧
      l.workers.server.stats.totalResponses + l.workers.server.stats.totalErrors = 2 := by
  have hrecord : (((start NtpConfig.defaults (NtpServer.loggerSettings NtpConfig.defaults) 1).run
      (fun _ _ => none) bothProcessed).map fun l =>
        (l.receivers.map Receiver.current, l.taken.countP fun d => d.bytes ≠ [])).toOption
      = some ([none], 2) := by
    decide +kernel
  obtain ⟨l, hrun, hpair⟩ := Runs.exists_of_toOption_map hrecord
  obtain ⟨hcurrent, htaken⟩ := Prod.mk.inj hpair
  have hidle : ∀ r ∈ l.receivers, r.current = none := fun r hr => by
    have hmem := List.mem_map_of_mem (f := Receiver.current) hr
    rw [hcurrent] at hmem
    exact List.mem_singleton.mp hmem
  exact ⟨l, hrun, ((datagrams_counted _ _ _ _ l hrun).2 hidle).trans htaken⟩

/-! ## Amplification -/

/-- The step of a datagram that calls `sendto` is the one that is on the record. -/
theorem advance_replyLog {t : Task} {s : NtpServer} {id : TaskId} {env : PacketEnv} {a : Advanced}
    (h : t.advance evp s id env = .ok a) :
    (replyLog a.observed.toList).map Prod.fst = (a.reply.map fun _ => id).toList := by
  have hfinish (s : NtpServer) (accepted : Bool) :
      (replyLog (t.finish s id env accepted).observed.toList).map Prod.fst
        = ((t.finish s id env accepted).reply.map fun _ => id).toList := by
    rw [Task.finish]
    cases (s.finishPacket accepted t.data env).reply <;> rfl
  -- a datagram that is refused by the request limiter is not answered
  have hrefused (s : NtpServer) : (t.finish s id env false).reply = none := rfl
  unfold Task.advance at h
  cases hstage : t.stage with
  | received =>
    simp only [hstage, Task.access] at h
    split at h <;> cases h <;> rfl
  | allowed =>
    simp only [hstage, Task.limitConnections, Except.ok.injEq] at h
    split at h <;> subst h <;> rfl
  | admitted =>
    simp only [hstage, Task.detectAnomaly, Except.ok.injEq] at h
    split at h <;> subst h <;> rfl
  | screened =>
    simp only [hstage, Task.connect] at h
    split at h <;> cases h
    rfl
  | connected =>
    simp only [hstage, Task.check, Except.ok.injEq] at h
    subst h
    split
    · exact hfinish _ _
    · split
      · exact hfinish _ _
      · split
        · exact hfinish _ _
        · split <;> rfl
  | timed packet bucket =>
    simp only [hstage, Task.limitRequests, Except.ok.injEq] at h
    subst h
    split
    · exact hfinish _ _
    · split
      · rfl
      · rw [hrefused]
        rfl
  | limited packet =>
    simp only [hstage, Task.authenticate, Except.ok.injEq] at h
    subst h
    split
    · exact hfinish _ _
    · split
      · exact hfinish _ _
      · rfl
  | accepted =>
    simp only [hstage, Except.ok.injEq] at h
    subst h
    exact hfinish _ _
  | done verdict =>
    simp only [hstage, Except.ok.injEq] at h
    subst h
    rfl

/-- What is on the record after a step. -/
theorem answered_record {id : TaskId} {t : Task} {env : PacketEnv} {a : Advanced}
    (h : t.advance evp l.workers.server id env = .ok a) :
    answered { l with workers := l.workers.record id a }
      = l.answered ++ (a.reply.map fun _ => id).toList := by
  rw [← advance_replyLog h, answered, Workers.record, replyLog, List.filterMap_append,
    List.map_append]
  rfl

/-- A datagram is answered at most once, and what was sent is on the record. -/
structure AnsweredOnce (l : ReceiveLoop) : Prop where
  once : l.answered.Nodup
  sent : ∀ id, id ∈ l.answered ↔ (l.workers.sent id).isSome

theorem AnsweredOnce.step (h : l.AnsweredOnce) (haccounts : l.Accounts)
    (hstep : Happens evp l m l') : l'.AnsweredOnce := by
  cases hstep with
  | arrives | again | empty | ends | reopens | around => exact ⟨h.once, h.sent⟩
  | takes hreceiver hsocket hbytes hstep =>
    simp only [Workers.step] at hstep
    split at hstep <;> cases hstep <;> exact ⟨h.once, h.sent⟩
  | @works i env buffer id t a hreceiver htask hopen hadvance =>
    have hlog := answered_record hadvance
    -- what was answered before is done
    have hnew : id ∉ l.answered := fun hmem => by
      obtain ⟨reply, hreply⟩ := Option.isSome_iff_exists.mp ((h.sent id).mp hmem)
      obtain ⟨-, t', ht', hdone, -⟩ := haccounts.replies id reply hreply
      rw [htask] at ht'
      cases ht'
      rw [hopen] at hdone
      cases hdone
    constructor
    · rw [hlog]
      cases a.reply with
      | none => simpa using h.once
      | some reply =>
        refine List.nodup_append.mpr ⟨h.once, List.nodup_singleton _, ?_⟩
        rintro id' hid' _ hid'' rfl
        cases List.mem_singleton.mp hid''
        exact hnew hid'
    · intro id'
      rw [hlog, List.mem_append, h.sent id', Workers.record]
      cases a.reply with
      | none => simp
      | some reply =>
        by_cases hid : id' = id
        · subst hid
          simp
        · simp [hid]

/-- The invariant of a run. -/
theorem AnsweredOnce.run (c : NtpConfig) (logger : LoggerSettings) (threads : Nat)
    {moves : List ReceiveMove} (hrun : (start c logger threads).run evp moves = .ok l) :
    l.AnsweredOnce :=
  (Runs.foldlM_invariant (I := fun l => (l.Fed ∧ l.Accounts) ∧ l.AnsweredOnce)
    (fun _ _ _ _ ht hstep => by
      have hhappens := step_happens hstep
      exact ⟨⟨ht.1.1.step hhappens, ht.1.2.step ht.1.1 hhappens⟩, ht.2.step ht.1.2 hhappens⟩)
    ⟨⟨Fed.start c logger threads, Accounts.start c logger threads⟩,
      ⟨List.nodup_nil, fun _ => by simp [answered, ReceiveLoop.start, Workers.idle, replyLog]⟩⟩
    hrun).2

/-- The bytes that were sent to an address. -/
def bytesTo (l : ReceiveLoop) (client : SockAddr) : Nat :=
  ((List.range l.taken.length).map fun k => ((l.workers.sent ⟨client, k⟩).getD []).length).sum

/-- The bytes that have come from it. -/
def bytesFrom (l : ReceiveLoop) (client : SockAddr) : Nat :=
  (l.arrived.map fun d => if d.client = client then d.bytes.length else 0).sum

/-- **No amplification.** In every interleaving, every reply has 48 bytes and goes to the
sender of a datagram of at least as many; a datagram is answered by one call of `sendto`
at most, and by the reply that was sent for it; and no address is sent more bytes than
have come from it. -/
theorem no_amplification (evp : Evp) (c : NtpConfig) (logger : LoggerSettings) (threads : Nat)
    (moves : List ReceiveMove) (l : ReceiveLoop)
    (hrun : (start c logger threads).run evp moves = .ok l) :
    (∀ id reply, l.workers.sent id = some reply → reply.length = ntpPacketSize ∧
      ∃ d, l.taken[id.number]? = some d ∧ d.client = id.client ∧ ntpPacketSize ≤ d.bytes.length) ∧
    l.answered.Nodup ∧ (∀ id, id ∈ l.answered ↔ (l.workers.sent id).isSome) ∧
    ∀ client, l.bytesTo client ≤ l.bytesFrom client := by
  have hfed := (Fed.start c logger threads).run hrun
  have haccounts := (Accounts.start c logger threads).run (Fed.start c logger threads) hrun
  have hreplies : ∀ id reply, l.workers.sent id = some reply → reply.length = ntpPacketSize ∧
      ∃ d, l.taken[id.number]? = some d ∧ d.client = id.client ∧ ntpPacketSize ≤ d.bytes.length := by
    intro id reply hsent
    obtain ⟨hlength, t, ht, -, hlong⟩ := haccounts.replies id reply hsent
    obtain ⟨d, hd, hclient, -, hdata⟩ := hfed.tasks id t ht
    refine ⟨hlength, d, hd, hclient, ?_⟩
    rw [hdata, List.length_take] at hlong
    exact Nat.le_trans hlong (Nat.min_le_right _ _)
  have hanswered := AnsweredOnce.run c logger threads hrun
  refine ⟨hreplies, hanswered.once, hanswered.sent, fun client => hfed.served.spent_le fun k d hd => ?_⟩
  cases hsent : l.workers.sent ⟨client, k⟩ with
  | none => exact Nat.zero_le _
  | some reply =>
    obtain ⟨hlength, d', hd', hclient, hlong⟩ := hreplies _ reply hsent
    obtain rfl : d = d' := Option.some.inj (hd.symm.trans hd')
    rw [if_pos hclient]
    exact hlength.trans_le hlong

/-- 48 bytes for 64. -/
theorem no_amplification_both :
    ∃ l, (start NtpConfig.defaults (NtpServer.loggerSettings NtpConfig.defaults) 1).run
        (fun _ _ => none) bothProcessed = .ok l ∧
      l.bytesTo exampleClient = 48 ∧ l.bytesTo exampleClient ≤ l.bytesFrom exampleClient := by
  have hrecord : (((start NtpConfig.defaults (NtpServer.loggerSettings NtpConfig.defaults) 1).run
      (fun _ _ => none) bothProcessed).map fun l => l.bytesTo exampleClient).toOption = some 48 := by
    decide +kernel
  obtain ⟨l, hrun, hbytes⟩ := Runs.exists_of_toOption_map hrecord
  exact ⟨l, hrun, hbytes, (no_amplification _ _ _ _ _ l hrun).2.2.2 exampleClient⟩

end ReceiveLoop

end SimpleNtpd
