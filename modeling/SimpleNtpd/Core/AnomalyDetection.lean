import SimpleNtpd.Core.RateLimits

/-!
# The anomaly detector

Behind the connection limiter a datagram comes to `isDdosAnomaly` (server.cpp:826–843),
which counts the datagrams of an address in the latest second, under the mutex the
limiter has too. Above the threshold it only warns, and with
`enable_graceful_degradation` the datagram is dropped (server.cpp:456–462).

The record of what the detector decides is kept beside the workers (`Detecting`). In
every interleaving exactly the first datagrams of an address in a second, up to the
threshold, are no anomalies, a datagram is examined once, and with the degradation
nothing else gets a connection or a reply (`anomalies_detected`).
-/

namespace SimpleNtpd

open Cpp Window

/-- What the detector has decided on a datagram. -/
structure Detection where
  id : TaskId
  /-- the clock in its section -/
  now : SteadyTime
  passed : Bool
  deriving DecidableEq, Repr

/-- The workers, and the record of the detector. -/
structure Detecting where
  workers : Workers
  detected : List Detection := []

/-- Behind the detector, and not dropped by it. -/
def Stage.Screened : Stage → Prop
  | received => False
  | allowed => False
  | admitted => False
  | done .aclDenied => False
  | done .rateLimited => False
  | done .ddosAnomaly => False
  | _ => True

/-- The detector has seen the datagram. -/
def Stage.Examined (stage : Stage) : Prop := stage.Screened ∨ stage = .done .ddosAnomaly

namespace Detecting

/-- A server with no datagram in work. -/
def start (c : NtpConfig) (logger : LoggerSettings) : Detecting := { workers := .start c logger }

/-- What the detector decides in a step. -/
def detection (w : Workers) : WorkerEvent → Option Detection
  | .advance id env =>
    match w.tasks id with
    | some t =>
      if t.stage = .admitted then
        some ⟨id, env.ddosTime,
          !(w.server.isDdosAnomaly (inetNtop id.client.ip) env.ddosTime).1⟩
      else none
    | none => none
  | _ => none

def step (evp : Evp) (d : Detecting) (e : WorkerEvent) : Except Exn Detecting :=
  (d.workers.step evp e).map fun w => ⟨w, d.detected ++ (detection d.workers e).toList⟩

/-- The steps of a list of events. -/
def run (evp : Evp) (d : Detecting) (events : List WorkerEvent) : Except Exn Detecting :=
  events.foldlM (step evp) d

/-- The decisions on the datagrams of an address, each with its second. -/
def detectorLog (detected : List Detection) (ip : UInt32) : List (Nat × Bool) :=
  (detected.filter fun x => x.id.client.ip = ip).map fun x => (secondBucket x.now, x.passed)

/-- The readings of the clock in the sections of the detector. -/
def readings (detected : List Detection) : List SteadyTime := detected.map Detection.now

end Detecting

/-! ## What a step does to the detector -/

/-- **A step on a datagram** changes the counter of the detector when the datagram is at
it, and takes it behind the detector only from there. -/
theorem Books.advance_detects {evp : Evp} {c : NtpConfig} {b : Books} {id : TaskId} {t : Task}
    {env : PacketEnv} {l : Accounted} (h : b.advance evp c id t env = .ok l) :
    (t.stage = .admitted ∧ l.books.second = (b.isDdosAnomaly c env.ddosTime).2.second ∧
      l.task.stage = if (b.isDdosAnomaly c env.ddosTime).1 && c.enableGracefulDegradation
        then .done .ddosAnomaly else .screened) ∨
    (t.stage ≠ .admitted ∧ l.books.second = b.second ∧
      (l.task.stage.Screened ↔ t.stage.Screened) ∧
      (l.task.stage = .done .ddosAnomaly ↔ t.stage = .done .ddosAnomaly)) := by
  have hfinish : ∀ (b' : Books) (accepted : Bool), b'.second = b.second → t.stage.Screened →
      t.stage ≠ .done .ddosAnomaly → (b'.finish id t accepted).books.second = b.second ∧
      ((b'.finish id t accepted).task.stage.Screened ↔ t.stage.Screened) ∧
      ((b'.finish id t accepted).task.stage = .done .ddosAnomaly
        ↔ t.stage = .done .ddosAnomaly) := by
    intro b' accepted hsecond hscreened hne
    unfold Books.finish
    split
    · exact ⟨hsecond, ⟨fun _ => hscreened, fun _ => trivial⟩, iff_of_false (by simp [Task.goto]) hne⟩
    · exact ⟨hsecond, ⟨fun _ => hscreened, fun _ => trivial⟩, iff_of_false (by simp [Task.goto]) hne⟩
  unfold Books.advance at h
  cases hstage : t.stage with
  | received =>
    simp only [hstage, access] at h
    split at h <;> cases h
    · exact .inr ⟨by simp, rfl, Iff.rfl, by simp [Task.goto]⟩
    · exact .inr ⟨by simp, rfl, Iff.rfl, by simp [Task.goto]⟩
  | allowed =>
    simp only [hstage, limitConnections, Except.ok.injEq] at h
    have hsecond : (b.isRateLimitExceeded c env.rateTime).2.second = b.second := by
      unfold Books.isRateLimitExceeded
      split <;> rfl
    split at h <;> subst h <;> exact .inr ⟨by simp, hsecond, Iff.rfl, by simp [Task.goto]⟩
  | admitted =>
    simp only [hstage, detectAnomaly, Except.ok.injEq] at h
    left
    split at h <;> subst h <;> rename_i hdrop
    · exact ⟨rfl, rfl, (if_pos hdrop).symm⟩
    · exact ⟨rfl, rfl, (if_neg hdrop).symm⟩
  | screened =>
    have hsecond : ∀ {b'}, b.getOrCreateConnection c id.client = .ok b' → b'.second = b.second := by
      intro b' hcreate
      unfold Books.getOrCreateConnection at hcreate
      split at hcreate
      · cases hcreate
        rfl
      · split at hcreate <;> cases hcreate
        rfl
    simp only [hstage, connect] at h
    split at h <;> cases h
    rename_i hcreate
    exact .inr ⟨by simp, hsecond hcreate, Iff.rfl, by simp [Task.goto]⟩
  | connected =>
    simp only [hstage, Except.ok.injEq] at h
    subst h
    rw [hstage] at hfinish
    unfold check
    split
    · split <;> exact .inr ⟨by simp, rfl, Iff.rfl, by simp [Task.goto]⟩
    · exact .inr ⟨by simp, hfinish b false rfl trivial (by simp)⟩
  | timed packet bucket =>
    simp only [hstage, Except.ok.injEq] at h
    subst h
    rw [hstage] at hfinish
    unfold limitRequests
    split
    · exact .inr ⟨by simp, hfinish b false rfl trivial (by simp)⟩
    · dsimp only
      split
      · exact .inr ⟨by simp, rfl, Iff.rfl, by simp [Task.goto]⟩
      · exact .inr ⟨by simp, hfinish _ false rfl trivial (by simp)⟩
  | limited packet =>
    simp only [hstage, Except.ok.injEq] at h
    subst h
    rw [hstage] at hfinish
    unfold authenticate
    split
    · exact .inr ⟨by simp, hfinish b false rfl trivial (by simp)⟩
    · split
      · exact .inr ⟨by simp, hfinish b false rfl trivial (by simp)⟩
      · exact .inr ⟨by simp, rfl, Iff.rfl, by simp [Task.goto]⟩
  | accepted =>
    simp only [hstage, Except.ok.injEq] at h
    subst h
    rw [hstage] at hfinish
    exact .inr ⟨by simp, hfinish b true rfl trivial (by simp)⟩
  | done verdict =>
    simp only [hstage, Except.ok.injEq] at h
    subst h
    exact .inr ⟨by simp, rfl, by rw [hstage], by rw [hstage]⟩

namespace Detecting

variable {evp : Evp} {c : NtpConfig} {d d' : Detecting} {e : WorkerEvent}

/-- What a step does to the counters of the detector, the tasks and the record: a
datagram is examined, or none is. -/
inductive Examines (c : NtpConfig) (d : Detecting) : WorkerEvent → Detecting → Prop
  | examined {id : TaskId} {env : PacketEnv} {t t' : Task} {w : Workers}
      (htask : d.workers.tasks id = some t) (hstage : t.stage = .admitted)
      (hsecond : ∀ ip, (w.server.books ip).second = if ip = id.client.ip
        then ((d.workers.server.books ip).isDdosAnomaly c env.ddosTime).2.second
        else (d.workers.server.books ip).second)
      (htasks : w.tasks = Function.update d.workers.tasks id (some t'))
      (hnext : t'.stage = if ((d.workers.server.books id.client.ip).isDdosAnomaly c env.ddosTime).1
        && c.enableGracefulDegradation then .done .ddosAnomaly else .screened) :
      Examines c d (.advance id env) ⟨w, d.detected ++ [⟨id, env.ddosTime,
        !((d.workers.server.books id.client.ip).isDdosAnomaly c env.ddosTime).1⟩]⟩
  | other {e : WorkerEvent} {w : Workers}
      (hsecond : ∀ ip, (w.server.books ip).second = (d.workers.server.books ip).second)
      (htasks : ∀ id t', w.tasks id = some t' →
        (d.workers.tasks id = none ∧ t'.stage = .received) ∨
        ∃ t, d.workers.tasks id = some t ∧ (t'.stage.Screened ↔ t.stage.Screened) ∧
          (t'.stage = .done .ddosAnomaly ↔ t.stage = .done .ddosAnomaly))
      (hkeeps : ∀ id t, d.workers.tasks id = some t → ∃ t', w.tasks id = some t') :
      Examines c d e ⟨w, d.detected⟩

/-- **One step.** -/
theorem step_examines (h : NtpServer.Uniform c d.workers.server) (hstep : d.step evp e = .ok d') :
    Examines c d e d' := by
  unfold step at hstep
  cases hworkers : d.workers.step evp e with
  | error x => rw [hworkers] at hstep; cases hstep
  | ok w =>
  rw [hworkers] at hstep
  cases hstep
  have hsame : ∀ id t', d.workers.tasks id = some t' →
      (d.workers.tasks id = none ∧ t'.stage = .received) ∨
      ∃ t, d.workers.tasks id = some t ∧ (t'.stage.Screened ↔ t.stage.Screened) ∧
        (t'.stage = .done .ddosAnomaly ↔ t.stage = .done .ddosAnomaly) :=
    fun id t' ht' => .inr ⟨t', ht', Iff.rfl, Iff.rfl⟩
  have hkept : ∀ id t, d.workers.tasks id = some t → ∃ t', d.workers.tasks id = some t' :=
    fun id t ht => ⟨t, ht⟩
  cases e with
  | receive id data =>
    show Examines c d _ ⟨w, d.detected ++ []⟩
    rw [List.append_nil]
    simp only [Workers.step] at hworkers
    cases ht : d.workers.tasks id with
    | some t =>
      rw [ht] at hworkers
      cases hworkers
      exact .other (fun _ => rfl) hsame hkept
    | none =>
      rw [ht] at hworkers
      cases hworkers
      refine .other (fun _ => rfl) (fun id' t' ht' => ?_) fun id' t' ht' => ?_ <;> dsimp only at ht' ⊢
      · by_cases hid : id' = id
        · subst hid
          rw [Function.update_self] at ht'
          cases ht'
          exact .inl ⟨ht, rfl⟩
        · rw [Function.update_of_ne hid] at ht'
          exact hsame id' t' ht'
      · refine ⟨t', ?_⟩
        rw [Function.update_of_ne, ht']
        rintro rfl
        rw [ht] at ht'
        cases ht'
  | advance id env =>
    cases ht : d.workers.tasks id with
    | none =>
      have hnone : detection d.workers (.advance id env) = none := by simp only [detection, ht]
      rw [hnone, Option.toList_none, List.append_nil]
      simp only [Workers.step, ht] at hworkers
      cases hworkers
      exact .other (fun _ => rfl) hsame hkept
    | some t =>
      obtain ⟨a, l, -, rfl, hown, hbooks, htask, -⟩ := step_advance h ht hworkers
      rcases Books.advance_detects hown with ⟨hstage, hsecond, hnext⟩ |
        ⟨hstage, hsecond, hscreened, hdropped⟩
      · have hdecision := (NtpServer.books_isDdosAnomaly h.rules id.client.ip env.ddosTime).1
        simp only [detection, ht, hstage, if_true, hdecision, Option.toList_some]
        refine .examined ht hstage (fun ip => ?_) rfl (htask ▸ hnext)
        rw [Workers.record_server, hbooks]
        by_cases hip : ip = id.client.ip
        · subst hip
          rw [Function.update_self, if_pos rfl, hsecond]
        · rw [Function.update_of_ne hip, if_neg hip]
      · simp only [detection, ht, hstage, if_false, Option.toList_none, List.append_nil]
        refine .other (fun ip => ?_) (fun id' t' ht' => ?_) fun id' t' ht' => ?_
        · rw [Workers.record_server, hbooks]
          by_cases hip : ip = id.client.ip
          · subst hip
            rw [Function.update_self, hsecond]
          · rw [Function.update_of_ne hip]
        · by_cases hid : id' = id
          · subst hid
            rw [Workers.record_tasks_self] at ht'
            cases ht'
            rw [htask]
            exact .inr ⟨t, ht, hscreened, hdropped⟩
          · rw [Workers.record_tasks_of_ne hid] at ht'
            exact hsame id' t' ht'
        · by_cases hid : id' = id
          · subst hid
            exact ⟨a.task, Workers.record_tasks_self ..⟩
          · exact ⟨t', by rw [Workers.record_tasks_of_ne hid, ht']⟩
  | sync world now =>
    cases hworkers
    show Examines c d _ ⟨_, d.detected ++ []⟩
    rw [List.append_nil]
    exact .other (fun _ => rfl) hsame hkept
  | cleanup =>
    -- every connection is active, so none is erased
    cases hworkers
    show Examines c d _ ⟨_, d.detected ++ []⟩
    rw [List.append_nil, h.cleanupConnections]
    exact .other (fun _ => rfl) hsame hkept

/-! ## The invariant -/

/-- The counters agree with the record; a datagram in the record has been examined, and
with the degradation it depends on the record what becomes of it. -/
structure Detects (c : NtpConfig) (d : Detecting) : Prop where
  uniform : NtpServer.Uniform c d.workers.server
  latest : ∀ ip, Latest (d.workers.server.books ip).second (detectorLog d.detected ip)
  reading : ∀ ip, (d.workers.server.books ip).second.1 = 0 ∨
    ∃ x ∈ d.detected, (d.workers.server.books ip).second.1 = secondBucket x.now
  follows : ∀ ip, Follows (withinLimit c.ddosAnomalyThresholdPerSecond) (detectorLog d.detected ip)
  examined : ∀ x ∈ d.detected, ∃ t, d.workers.tasks x.id = some t ∧ t.stage.Examined
  nodup : (d.detected.map Detection.id).Nodup
  screened : c.enableGracefulDegradation = true → ∀ id t, d.workers.tasks id = some t →
    t.stage.Screened → ∃ now, ⟨id, now, true⟩ ∈ d.detected
  dropped : ∀ id t, d.workers.tasks id = some t → t.stage = .done .ddosAnomaly →
    c.enableGracefulDegradation = true ∧ ∃ now, ⟨id, now, false⟩ ∈ d.detected

theorem Detects.start (c : NtpConfig) (logger : LoggerSettings) : Detects c (start c logger) where
  uniform := NtpServer.Uniform.start c logger
  latest _ := ⟨rfl, fun _ h => absurd h List.not_mem_nil⟩
  reading _ := .inl rfl
  follows _ := .nil _
  examined := nofun
  nodup := List.nodup_nil
  screened := nofun
  dropped := nofun

theorem detectorLog_concat (detected : List Detection) (x : Detection) (ip : UInt32) :
    detectorLog (detected ++ [x]) ip = detectorLog detected ip ++
      if x.id.client.ip = ip then [(secondBucket x.now, x.passed)] else [] := by
  rw [detectorLog, List.filter_append, List.map_append]
  by_cases hip : x.id.client.ip = ip <;> simp [detectorLog, hip]

/-- The seconds go on with the clock. -/
theorem Detects.second_le (h : Detects c d) {x : Detection}
    (hsteady : (readings (d.detected ++ [x])).Pairwise (· ≤ ·)) (ip : UInt32) :
    (d.workers.server.books ip).second.1 ≤ secondBucket x.now := by
  rcases h.reading ip with hzero | ⟨y, hy, heq⟩
  · rw [hzero]
    exact Nat.zero_le _
  · rw [heq]
    rw [readings, List.map_append, List.pairwise_append] at hsteady
    exact Nat.div_le_div_right
      (hsteady.2.2 y.now (List.mem_map_of_mem hy) x.now (List.mem_singleton.mpr rfl))

theorem isDdosAnomaly_of_on (hon : c.enableDdosProtection = true) (b : Books) (now : SteadyTime) :
    b.isDdosAnomaly c now = (decide ((countInBucket b.second (secondBucket now)).2
      > c.ddosAnomalyThresholdPerSecond),
      { b with second := countInBucket b.second (secondBucket now) }) := by
  simp [Books.isDdosAnomaly, hon]

/-- What the detector decides is the rule's decision on the number of those before. -/
theorem Detects.decision (h : Detects c d) (hon : c.enableDdosProtection = true) {ip : UInt32}
    {now : SteadyTime} (hle : (d.workers.server.books ip).second.1 ≤ secondBucket now) :
    (!((d.workers.server.books ip).isDdosAnomaly c now).1)
      = withinLimit c.ddosAnomalyThresholdPerSecond
        (decisions (secondBucket now) (detectorLog d.detected ip)).length := by
  rw [isDdosAnomaly_of_on hon, countInBucket_eq, (h.latest ip).value hle]
  rfl

/-- **Every step keeps the record right.** -/
theorem Detects.step (hon : c.enableDdosProtection = true) (h : Detects c d)
    (hstep : d.step evp e = .ok d') (hsteady : (readings d'.detected).Pairwise (· ≤ ·)) :
    Detects c d' := by
  have huniform : NtpServer.Uniform c d'.workers.server := by
    unfold Detecting.step at hstep
    cases hworkers : d.workers.step evp e with
    | error x => rw [hworkers] at hstep; cases hstep
    | ok w =>
      rw [hworkers] at hstep
      cases hstep
      exact uniform_step h.uniform hworkers
  cases step_examines h.uniform hstep with
  | @other e w hsecond htasks hkeeps =>
    refine ⟨huniform, fun ip => ?_, fun ip => ?_, h.follows, fun x hx => ?_, h.nodup, ?_, ?_⟩
    · rw [hsecond ip]
      exact h.latest ip
    · rw [hsecond ip]
      exact h.reading ip
    · obtain ⟨t, ht, hexamined⟩ := h.examined x hx
      obtain ⟨t', ht'⟩ := hkeeps x.id t ht
      refine ⟨t', ht', ?_⟩
      rcases htasks x.id t' ht' with ⟨hnone, -⟩ | ⟨t₀, ht₀, hscreened, hdropped⟩
      · rw [hnone] at ht
        cases ht
      · rw [ht] at ht₀
        cases ht₀
        exact hexamined.imp hscreened.mpr hdropped.mpr
    · intro hdegrades id t' ht' hstage
      rcases htasks id t' ht' with ⟨-, hreceived⟩ | ⟨t, ht, hscreened, -⟩
      · rw [hreceived] at hstage
        exact hstage.elim
      · exact h.screened hdegrades id t ht (hscreened.mp hstage)
    · intro id t' ht' hstage
      rcases htasks id t' ht' with ⟨-, hreceived⟩ | ⟨t, ht, -, hdropped⟩
      · rw [hreceived] at hstage
        cases hstage
      · exact h.dropped id t ht (hdropped.mp hstage)
  | @examined id env t t' w htask hstage hsecond htasks hnext =>
    have hle := h.second_le hsteady
    have hfresh : ∀ x ∈ d.detected, x.id ≠ id := by
      rintro x hx rfl
      obtain ⟨t₀, ht₀, hexamined⟩ := h.examined x hx
      rw [htask] at ht₀
      cases ht₀
      rw [Stage.Examined, hstage] at hexamined
      rcases hexamined with hscreened | hdropped
      · exact hscreened
      · cases hdropped
    refine ⟨huniform, fun ip => ?_, fun ip => ?_, fun ip => ?_, fun x hx => ?_, ?_, ?_, ?_⟩
    · rw [hsecond, detectorLog_concat]
      by_cases hip : ip = id.client.ip
      · subst hip
        rw [if_pos rfl, if_pos rfl, isDdosAnomaly_of_on hon, countInBucket_eq]
        exact (h.latest _).concat (hle _) _
      · rw [if_neg hip, if_neg (Ne.symm hip), List.append_nil]
        exact h.latest ip
    · rw [hsecond]
      by_cases hip : ip = id.client.ip
      · right
        refine ⟨_, List.mem_append_right _ (List.mem_singleton.mpr rfl), ?_⟩
        simp only [if_pos hip, isDdosAnomaly_of_on hon, countInBucket_eq]
      · rw [if_neg hip]
        exact (h.reading ip).imp_right fun ⟨x, hx, heq⟩ => ⟨x, List.mem_append_left _ hx, heq⟩
    · rw [detectorLog_concat]
      by_cases hip : id.client.ip = ip
      · subst hip
        rw [if_pos rfl, h.decision hon (hle _)]
        exact (h.follows _).concat _
      · rw [if_neg hip, List.append_nil]
        exact h.follows ip
    · rw [htasks]
      rcases List.mem_append.mp hx with hold | hnew
      · rw [Function.update_of_ne (hfresh x hold)]
        exact h.examined x hold
      · rw [List.mem_singleton.mp hnew, Function.update_self]
        refine ⟨t', rfl, ?_⟩
        rw [Stage.Examined, hnext]
        split
        · exact .inr rfl
        · exact .inl trivial
    · rw [List.map_append, List.nodup_append]
      refine ⟨h.nodup, List.nodup_singleton _, fun a ha b hb => ?_⟩
      obtain ⟨x, hx, rfl⟩ := List.mem_map.mp ha
      rw [List.mem_singleton.mp hb]
      exact hfresh x hx
    · intro hdegrades id' t₁ ht₁ hscreened
      rw [htasks] at ht₁
      by_cases hid : id' = id
      · subst hid
        rw [Function.update_self] at ht₁
        cases ht₁
        refine ⟨env.ddosTime, List.mem_append_right _ (List.mem_singleton.mpr ?_)⟩
        -- an anomaly would have been dropped
        rw [hnext, hdegrades, Bool.and_true] at hscreened
        split at hscreened
        · exact hscreened.elim
        · rename_i hpassed
          rw [Bool.not_eq_true] at hpassed
          rw [hpassed]
          rfl
      · rw [Function.update_of_ne hid] at ht₁
        obtain ⟨now, hmem⟩ := h.screened hdegrades id' t₁ ht₁ hscreened
        exact ⟨now, List.mem_append_left _ hmem⟩
    · intro id' t₁ ht₁ hdropped
      rw [htasks] at ht₁
      by_cases hid : id' = id
      · subst hid
        rw [Function.update_self] at ht₁
        cases ht₁
        rw [hnext] at hdropped
        split at hdropped
        · rename_i hanomaly
          rw [Bool.and_eq_true] at hanomaly
          refine ⟨hanomaly.2, env.ddosTime, List.mem_append_right _ (List.mem_singleton.mpr ?_)⟩
          rw [hanomaly.1]
          rfl
        · cases hdropped
      · rw [Function.update_of_ne hid] at ht₁
        obtain ⟨hdegrades, now, hmem⟩ := h.dropped id' t₁ ht₁ hdropped
        exact ⟨hdegrades, now, List.mem_append_left _ hmem⟩

/-- The record only grows. -/
theorem detected_prefix_run {events : List WorkerEvent} (hrun : d.run evp events = .ok d') :
    d.detected <+: d'.detected := by
  refine Runs.foldlM_invariant (I := fun t => d.detected <+: t.detected)
    (fun e _ t t' ht hstep => ?_) (List.prefix_refl _) hrun
  unfold step at hstep
  cases hworkers : t.workers.step evp e with
  | error x => rw [hworkers] at hstep; cases hstep
  | ok w =>
    rw [hworkers] at hstep
    cases hstep
    exact ht.trans (List.prefix_append _ _)

/-- **Detection along a run**; induction on the events. -/
theorem Detects.run (hon : c.enableDdosProtection = true) {events : List WorkerEvent}
    (h : Detects c d) (hrun : d.run evp events = .ok d')
    (hsteady : (readings d'.detected).Pairwise (· ≤ ·)) : Detects c d' := by
  induction events generalizing d with
  | nil =>
    cases hrun
    exact h
  | cons e events ih =>
    obtain ⟨d₁, hstep, hrest⟩ := Components.foldlM_cons_iff.mp hrun
    have hprefix := ((detected_prefix_run hrest).map Detection.now).sublist
    exact ih (h.step hon hstep (hsteady.sublist hprefix)) hrest

/-! ## What the detector guarantees -/

/-- The datagrams of an address that were no anomalies, with the readings. -/
def passed (detected : List Detection) (ip : UInt32) : List SteadyTime :=
  (detected.filter fun x => x.id.client.ip = ip ∧ x.passed = true).map Detection.now

theorem count_passed (detected : List Detection) (ip : UInt32) (second : Nat) :
    (passed detected ip).countP (fun now => secondBucket now = second)
      = (decisions second (detectorLog detected ip)).count true := by
  induction detected with
  | nil => rfl
  | cons x detected ih =>
    obtain ⟨id, now, verdict⟩ := x
    by_cases hip : id.client.ip = ip
    · by_cases hsecond : secondBucket now = second <;> cases verdict <;>
        simp_all [passed, detectorLog, decisions]
    · simp_all [passed, detectorLog, decisions]

/-- **The anomaly detection holds in every interleaving.** With the protection on, in every
state the workers reach with a steady clock: in each second exactly the first datagrams of
an address that come to the detector, up to the threshold, are no anomalies; so in any
time of one second at most twice as many. A datagram is examined once. With the degradation
on, what has a connection or a reply was examined and is no anomaly; without it, the
detector drops nothing. -/
theorem anomalies_detected (evp : Evp) (c : NtpConfig) (logger : LoggerSettings)
    (hon : c.enableDdosProtection = true) (events : List WorkerEvent) (d : Detecting)
    (hrun : (start c logger).run evp events = .ok d)
    (hsteady : (readings d.detected).Pairwise (· ≤ ·)) (ip : UInt32)
    (hfew : ∀ second, (decisions second (detectorLog d.detected ip)).length < 2 ^ 32) :
    (∀ second, FirstPass c.ddosAnomalyThresholdPerSecond.toNat
      (decisions second (detectorLog d.detected ip))) ∧
    (∀ start, (passed d.detected ip).countP (fun now => start ≤ now ∧ now ≤ start + 1000000000)
      ≤ 2 * c.ddosAnomalyThresholdPerSecond.toNat) ∧
    (d.detected.map Detection.id).Nodup ∧
    (c.enableGracefulDegradation = true → ∀ id t, d.workers.tasks id = some t →
      t.stage.Screened → ∃ now, ⟨id, now, true⟩ ∈ d.detected) ∧
    (c.enableGracefulDegradation = false → ∀ id t, d.workers.tasks id = some t →
      t.stage ≠ .done .ddosAnomaly) := by
  have hdetects := Detects.run hon (Detects.start c logger) hrun hsteady
  have hfirst := fun second => (hdetects.follows ip).firstPass_withinLimit (hfew second)
  refine ⟨hfirst, fun start => ?_, hdetects.nodup, hdetects.screened, fun hoff id t ht hstage => ?_⟩
  · have hsecond := fun second =>
      (count_passed d.detected ip second).trans_le (hfirst second).count_true_le
    calc (passed d.detected ip).countP (fun now => start ≤ now ∧ now ≤ start + 1000000000)
        ≤ _ := countP_span_le 1000000000 start (passed d.detected ip)
      _ ≤ _ := Nat.add_le_add (hsecond (secondBucket start)) (hsecond (secondBucket start + 1))
      _ = 2 * c.ddosAnomalyThresholdPerSecond.toNat := (Nat.two_mul _).symm
  · have hon := (hdetects.dropped id t ht hstage).1
    rw [hoff] at hon
    cases hon

/-- The protection with the degradation, and one datagram a second. -/
def oneASecond : NtpConfig :=
  { NtpConfig.defaults with
    enableDdosProtection := true
    enableGracefulDegradation := true
    ddosAnomalyThresholdPerSecond := 1 }

/-- The one whose section comes second is dropped. -/
theorem anomalies_detected_two :
    ∃ d, (start oneASecond (NtpServer.loggerSettings oneASecond)).run (fun _ _ => none)
        twoRequests = .ok d ∧
      d.detected.map (fun x => (x.id.number, x.passed)) = [(1, true), (0, false)] ∧
      (∀ second, FirstPass 1 (decisions second (detectorLog d.detected exampleClient.ip))) ∧
      ∀ id t, d.workers.tasks id = some t → t.stage.Screened →
        ∃ now, ⟨id, now, true⟩ ∈ d.detected := by
  have hrecord : (((start oneASecond (NtpServer.loggerSettings oneASecond)).run
      (fun _ _ => none) twoRequests).map Detecting.detected).toOption
      = some [⟨⟨exampleClient, 1⟩, exampleEnv.ddosTime, true⟩,
        ⟨⟨exampleClient, 0⟩, exampleEnv.ddosTime, false⟩] := by
    decide +kernel
  obtain ⟨d, hrun, hdetected⟩ := Runs.exists_of_toOption_map hrecord
  have hall := anomalies_detected _ oneASecond _ rfl twoRequests d hrun
    (by rw [hdetected]; decide) exampleClient.ip
    (fun second => by
      rw [hdetected]
      exact Nat.lt_of_le_of_lt (List.length_filterMap_le ..) (by decide))
  exact ⟨d, hrun, by rw [hdetected]; rfl, hall.1, hall.2.2.2.1 rfl⟩

end Detecting

end SimpleNtpd
