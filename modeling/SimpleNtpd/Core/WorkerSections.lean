import SimpleNtpd.Core.ReceiveLoop
import SimpleNtpd.Core.Separation
import SimpleNtpd.Lib.Sections

/-!
# Datagrams in sections

The workers process datagrams in sections. What a datagram does before its last section
is in the books of its address; the counters, the synchronization, the stratum and the
upstream servers are used in the last one only (`advance_act`). So the workers are a system
of actions in sections (`workerActions`).

The sections of a datagram with nothing in between are one `processPacket`, with the clocks
as the sections read them (`processPacket_of_leads`), and so whole datagrams one after the
other are a run of the server (`run_of_wholes`).
-/

namespace SimpleNtpd

open Cpp

/-! ## What all datagrams share -/

namespace NtpServer

/-- The server without what it keeps for single addresses, and without the counts of
their connections. -/
def common (s : NtpServer) : NtpServer :=
  { s with
    activeConnections := ∅
    connectionRateBuckets := ∅
    requestSecondBuckets := ∅
    stats := { s.stats with totalConnections := 0, activeConnections := 0 } }

variable (s : NtpServer)

theorem common_syncOnce (world : Nat → QueryEnv) (now : Int) :
    (s.syncOnce world now).common = s.common.syncOnce world now := rfl

theorem common_applyDynamicStratum :
    s.applyDynamicStratum.common = s.common.applyDynamicStratum := by
  unfold applyDynamicStratum
  dsimp only
  split
  · rename_i hraise
    exact (if_pos hraise).symm
  · rename_i hstay
    exact (if_neg hstay).symm

theorem common_selectUpstreamServer (randomIndex : Nat) :
    (s.common.selectUpstreamServer randomIndex).1 = (s.selectUpstreamServer randomIndex).1 ∧
      (s.selectUpstreamServer randomIndex).2.common
        = (s.common.selectUpstreamServer randomIndex).2 := by
  have hconfig : s.common.currentConfig = s.currentConfig := rfl
  have hhealthy : s.common.healthyUpstreams = s.healthyUpstreams := rfl
  unfold selectUpstreamServer
  dsimp only
  rw [hconfig, hhealthy]
  generalize (if s.healthyUpstreams.isEmpty then s.currentConfig.upstreamServers
    else s.healthyUpstreams) = healthy
  cases s.currentConfig.upstreamServers.isEmpty with
  | true => exact ⟨rfl, rfl⟩
  | false =>
    rw [if_neg Bool.false_ne_true, if_neg Bool.false_ne_true]
    by_cases hone : healthy.length = 1
    · rw [if_pos hone, if_pos hone]
      exact ⟨rfl, rfl⟩
    · rw [if_neg hone, if_neg hone]
      cases s.currentConfig.upstreamSelectionAlgorithm <;> exact ⟨rfl, rfl⟩

theorem common_buildReply (request : NtpPacket) (env : PacketEnv) :
    (s.common.buildReply request env).1 = (s.buildReply request env).1 ∧
      (s.common.buildReply request env).2.1 = (s.buildReply request env).2.1 ∧
      (s.buildReply request env).2.2.common = (s.common.buildReply request env).2.2 := by
  have hraise := s.common_applyDynamicStratum
  obtain ⟨hselected, hserver⟩ := s.applyDynamicStratum.common_selectUpstreamServer env.randomIndex
  have hsync : s.common.applyDynamicStratum.upstreamSync = s.applyDynamicStratum.upstreamSync := by
    rw [← hraise]
    rfl
  unfold buildReply
  dsimp only
  rw [hsync, ← hraise, hselected, hserver]
  exact ⟨rfl, rfl, rfl⟩

theorem common_recordSendFailure (selected : Str) :
    (s.recordSendFailure selected).common = s.common.recordSendFailure selected := by
  unfold recordSendFailure
  dsimp only
  split
  · rename_i hfailover
    exact (if_pos hfailover).symm
  · rename_i hstays
    exact (if_neg hstays).symm

/-- Behind `handlePacket` nothing is read but what all datagrams share. -/
theorem common_finishPacket (accepted : Bool) (data : Bytes) (env : PacketEnv) :
    (s.common.finishPacket accepted data env).reply = (s.finishPacket accepted data env).reply ∧
      (s.finishPacket accepted data env).server.common
        = (s.common.finishPacket accepted data env).server := by
  unfold finishPacket
  cases accepted with
  | false => exact ⟨rfl, rfl⟩
  | true =>
    rw [if_pos rfl, if_pos rfl]
    obtain ⟨parsed, request⟩ := NtpPacket.new.parseFromData data
    cases parsed with
    | false => exact ⟨rfl, rfl⟩
    | true =>
      obtain ⟨hreply, hselected, hserver⟩ := s.common_buildReply request env
      dsimp only
      rw [hreply, hselected, ← hserver]
      cases env.sendOk with
      | true => exact ⟨rfl, rfl⟩
      | false => exact ⟨rfl, common_recordSendFailure _ _⟩

end NtpServer

/-! ## The sections of a datagram -/

/-- What the last section of a datagram does to what is shared, and the reply: a datagram
that is dropped is an error, and one that has a connection comes to the end of
`processPacket`. -/
def NtpServer.conclude (s : NtpServer) (t : Task) (after : Stage) (env : PacketEnv) :
    NtpServer × Option Bytes :=
  match after with
  | .done .aclDenied | .done .rateLimited | .done .ddosAnomaly => (s.countError, none)
  | .done _ =>
    let p := s.finishPacket (t.stage = .accepted) t.data env
    (p.server, p.reply)
  | _ => (s, none)

/-- The rounds of the sync thread and the clean-ups. -/
inductive Background where
  | sync (world : Nat → QueryEnv) (now : Int)
  | cleanup

def Background.apply (s : NtpServer) : Background → NtpServer
  | .sync world now => s.syncOnce world now
  | .cleanup => s

/-- The workers' datagrams, with the address as the key of each. An action is a datagram
with the reply that was sent. -/
def workerActions (evp : Evp) (c : NtpConfig) : Sections.System TaskId UInt32 NtpServer Books
    (Task × Option Bytes) PacketEnv Background Exn where
  key id := id.client.ip
  ended a := a.1.stage.isDone
  act id a env :=
    match a.2.2.advance evp c id a.1.1 env with
    | .error e => .error e
    | .ok l =>
      let concluded := a.2.1.conclude a.1.1 l.task.stage env
      .ok ((l.task, concluded.2), concluded.1, l.books)
  other o s := o.apply s

theorem workerActions_local (evp : Evp) (c : NtpConfig) : (workerActions evp c).Local := by
  intro id a g b env a' g' b' hact hopen
  simp only [workerActions] at hact hopen ⊢
  cases hadvance : b.advance evp c id a.1 env with
  | error e =>
    rw [hadvance] at hact
    cases hact
  | ok l =>
    rw [hadvance] at hact
    cases hact
    -- before the end `conclude` does nothing
    have hconclude : ∀ h : NtpServer, h.conclude a.1 l.task.stage env = (h, none) := by
      intro h
      unfold NtpServer.conclude
      cases hstage : l.task.stage with
      | done verdict =>
        dsimp only at hopen
        rw [hstage] at hopen
        cases hopen
      | _ => rfl
    simp only [hconclude, and_self, implies_true]

section Act

variable {evp : Evp} {c : NtpConfig} {s : NtpServer} {id : TaskId} {t : Task} {env : PacketEnv}
  {a : Advanced}

/-- What a section does to what is shared. -/
def Concludes (s : NtpServer) (t : Task) (env : PacketEnv) (a : Advanced) : Prop :=
  s.common.conclude t a.task.stage env = (a.server.common, a.reply)

theorem concludes_finish (id : TaskId) {accepted : Bool}
    (haccepted : accepted = decide (t.stage = .accepted)) {s' : NtpServer}
    (hsame : s'.common = s.common) : Concludes s t env (t.finish s' id env accepted) := by
  obtain ⟨hreply, hserver⟩ := s'.common_finishPacket accepted t.data env
  obtain ⟨hverdict, -⟩ := s'.finishPacket_verdict accepted t.data env
  have hconclude : s.common.conclude t (.done (s'.finishPacket accepted t.data env).verdict) env
      = ((s.common.finishPacket (t.stage = .accepted) t.data env).server,
        (s.common.finishPacket (t.stage = .accepted) t.data env).reply) := by
    rw [hverdict]
    split <;> rfl
  refine hconclude.trans (Prod.ext ?_ ?_)
  · rw [← haccepted, ← hsame]
    exact hserver.symm
  · rw [← haccepted, ← hsame]
    exact hreply

/-- **A section** does to what is shared what `conclude` says. -/
theorem concludes_advance (h : t.advance evp s id env = .ok a) (hopen : t.stage.isDone = false) :
    Concludes s t env a := by
  unfold Task.advance at h
  cases hstage : t.stage with
  | received =>
    simp only [hstage, Task.access] at h
    split at h <;> cases h <;> rfl
  | allowed =>
    obtain ⟨rate, hrate⟩ := s.isRateLimitExceeded_snd (inetNtop id.client.ip) env.rateTime
    simp only [hstage, Task.limitConnections, hrate, Except.ok.injEq] at h
    split at h <;> subst h <;> rfl
  | admitted =>
    obtain ⟨second, hsecond⟩ := s.isDdosAnomaly_snd (inetNtop id.client.ip) env.ddosTime
    simp only [hstage, Task.detectAnomaly, hsecond, Except.ok.injEq] at h
    split at h <;> subst h <;> rfl
  | screened =>
    simp only [hstage, Task.connect] at h
    split at h
    · cases h
    · rename_i s' hcreate
      cases h
      rcases NtpServer.getOrCreateConnection_cases hcreate with
        ⟨rfl, -⟩ | ⟨-, trusted, -, rfl⟩ <;> rfl
  | connected =>
    simp only [hstage, Except.ok.injEq] at h
    subst h
    have hnot : false = decide (t.stage = .accepted) := by simp [hstage]
    unfold Task.check
    split
    · exact concludes_finish id hnot rfl
    · split
      · exact concludes_finish id hnot rfl
      · split
        · exact concludes_finish id hnot rfl
        · split <;> rfl
  | timed packet bucket =>
    simp only [hstage, Except.ok.injEq] at h
    subst h
    have hnot : false = decide (t.stage = .accepted) := by simp [hstage]
    unfold Task.limitRequests
    split
    · exact concludes_finish id hnot rfl
    · dsimp only
      split
      · rfl
      · exact concludes_finish id hnot rfl
  | limited packet =>
    simp only [hstage, Except.ok.injEq] at h
    subst h
    have hnot : false = decide (t.stage = .accepted) := by simp [hstage]
    unfold Task.authenticate
    split
    · exact concludes_finish id hnot rfl
    · split
      · exact concludes_finish id hnot rfl
      · rfl
  | accepted =>
    simp only [hstage, Except.ok.injEq] at h
    subst h
    exact concludes_finish id (by rw [hstage]; rfl) rfl
  | done verdict =>
    rw [hstage] at hopen
    cases hopen

/-- **A section of a datagram** is the section of its action. -/
theorem advance_act (h : NtpServer.Uniform c s) (hopen : t.stage.isDone = false)
    (hadvance : t.advance evp s id env = .ok a) (reply : Option Bytes) :
    (workerActions evp c).act id ((t, reply), s.common, s.books id.client.ip) env
        = .ok ((a.task, a.reply), a.server.common, a.server.books id.client.ip) ∧
      ∀ ip, ip ≠ id.client.ip → a.server.books ip = s.books ip := by
  have hbooks := advance_books evp h id t env
  have hconcludes := concludes_advance hadvance hopen
  rw [hadvance] at hbooks
  cases hown : (s.books id.client.ip).advance evp c id t env with
  | error e =>
    rw [hown] at hbooks
    cases hbooks
  | ok l =>
    rw [hown] at hbooks
    have heq := Except.ok.inj hbooks
    simp only [Advanced.account, Accounted.within, Prod.mk.injEq] at heq
    obtain ⟨hserver, htask, -⟩ := heq
    unfold Concludes at hconcludes
    rw [htask] at hconcludes
    simp only [workerActions, hown, hconcludes, hserver, htask, Function.update_self, true_and]
    exact fun ip hip => Function.update_of_ne hip _ _

/-- A section of a datagram succeeds when the action on its books does. -/
theorem exists_advance (h : NtpServer.Uniform c s) {reply : Option Bytes}
    {after : (Task × Option Bytes) × NtpServer × Books}
    (hact : (workerActions evp c).act id ((t, reply), s.common, s.books id.client.ip) env
      = .ok after) : ∃ a, t.advance evp s id env = .ok a := by
  have hbooks := advance_books evp h id t env
  cases hadvance : t.advance evp s id env with
  | ok a => exact ⟨a, rfl⟩
  | error e =>
    cases hown : (s.books id.client.ip).advance evp c id t env with
    | error e' =>
      simp only [workerActions, hown] at hact
      cases hact
    | ok l =>
      rw [hadvance, hown] at hbooks
      cases hbooks

end Act

/-! ## The readings of a datagram -/

/-- The readings of the sections of a datagram as those of one `processPacket`: the
connection limiter is in the second section, the anomaly detector in the third, the checks
of `handlePacket` are in the fifth, and the rest is read in the last one. -/
def PacketEnv.ofSections (before : List PacketEnv) (last : PacketEnv) : PacketEnv :=
  { last with
    rateTime := (before[1]?.getD last).rateTime
    ddosTime := (before[2]?.getD last).ddosTime
    requestTime := (before[4]?.getD last).requestTime }

/-- The sections before a stage, up to those of `handlePacket`. -/
def Stage.position : Stage → Nat
  | .received => 0
  | .allowed => 1
  | .admitted => 2
  | .screened => 3
  | .connected => 4
  | _ => 5

section Readings

variable {evp : Evp} {c : NtpConfig} {b : Books} {id : TaskId} {t : Task} {env env' : PacketEnv}
  {l : Accounted}

theorem finish_isDone (b : Books) (id : TaskId) (t : Task) (accepted : Bool) :
    (b.finish id t accepted).task.stage.isDone = true := by
  unfold Books.finish
  split <;> rfl

/-- The sections come in order. -/
theorem position_advance (h : b.advance evp c id t env = .ok l)
    (hopen : t.stage.isDone = false) (hgoes : l.task.stage.isDone = false) :
    l.task.stage.position = min 5 (t.stage.position + 1) := by
  have hfinish : ∀ (b : Books) (accepted : Bool) {n : Nat},
      (b.finish id t accepted).task.stage.isDone = false →
        (b.finish id t accepted).task.stage.position = n := by
    intro b accepted n hnot
    rw [finish_isDone] at hnot
    cases hnot
  unfold Books.advance at h
  cases hstage : t.stage with
  | received =>
    simp only [hstage, Books.access] at h
    split at h <;> cases h
    · cases hgoes
    · rfl
  | allowed =>
    simp only [hstage, Books.limitConnections, Except.ok.injEq] at h
    split at h <;> subst h
    · cases hgoes
    · rfl
  | admitted =>
    simp only [hstage, Books.detectAnomaly, Except.ok.injEq] at h
    split at h <;> subst h
    · cases hgoes
    · rfl
  | screened =>
    simp only [hstage, Books.connect] at h
    split at h <;> cases h
    rfl
  | connected =>
    simp only [hstage, Except.ok.injEq] at h
    subst h
    revert hgoes
    unfold Books.check
    split
    · split <;> exact fun _ => rfl
    · exact hfinish b false
  | timed packet bucket =>
    simp only [hstage, Except.ok.injEq] at h
    subst h
    revert hgoes
    unfold Books.limitRequests
    split
    · exact hfinish b false
    · rename_i conn _
      dsimp only
      split
      · exact fun _ => rfl
      · exact hfinish (b.putConnection id.client.port
          (conn.limitRequest c.requestRateLimitPerMinute bucket).2) false
  | limited packet =>
    simp only [hstage, Except.ok.injEq] at h
    subst h
    revert hgoes
    unfold Books.authenticate
    split
    · exact hfinish b false
    · split
      · exact hfinish b false
      · exact fun _ => rfl
  | accepted =>
    simp only [hstage, Except.ok.injEq] at h
    subst h
    exact hfinish b true hgoes
  | done verdict =>
    rw [hstage] at hopen
    cases hopen

/-- A section reads a clock when it is its turn. -/
theorem advance_congr (hrate : t.stage = .allowed → env.rateTime = env'.rateTime)
    (hddos : t.stage = .admitted → env.ddosTime = env'.ddosTime)
    (hrequest : t.stage = .connected → env.requestTime = env'.requestTime) :
    b.advance evp c id t env = b.advance evp c id t env' := by
  unfold Books.advance
  cases hstage : t.stage with
  | allowed => simp only [Books.limitConnections, hrate hstage]
  | admitted => simp only [Books.detectAnomaly, hddos hstage]
  | connected => simp only [Books.check, hrequest hstage]
  | _ => rfl

/-- The last section reads the rest. -/
theorem conclude_congr (s : NtpServer) (t : Task) {after : Stage}
    (hend : after.isDone = true → env' = { env with
      rateTime := env'.rateTime, ddosTime := env'.ddosTime, requestTime := env'.requestTime }) :
    s.conclude t after env = s.conclude t after env' := by
  unfold NtpServer.conclude
  cases after with
  | done verdict =>
    rw [hend rfl]
    cases verdict <;> rfl
  | _ => rfl

theorem act_congr {a : Task × Option Bytes} {s : NtpServer}
    {mid : (Task × Option Bytes) × NtpServer × Books}
    (hact : (workerActions evp c).act id (a, s, b) env = .ok mid)
    (hrate : a.1.stage = .allowed → env.rateTime = env'.rateTime)
    (hddos : a.1.stage = .admitted → env.ddosTime = env'.ddosTime)
    (hrequest : a.1.stage = .connected → env.requestTime = env'.requestTime)
    (hend : mid.1.1.stage.isDone = true → env' = { env with
      rateTime := env'.rateTime, ddosTime := env'.ddosTime, requestTime := env'.requestTime }) :
    (workerActions evp c).act id (a, s, b) env' = .ok mid := by
  simp only [workerActions] at hact ⊢
  rw [← advance_congr hrate hddos hrequest]
  cases hadvance : b.advance evp c id a.1 env with
  | error e =>
    rw [hadvance] at hact
    cases hact
  | ok l =>
    rw [hadvance] at hact
    cases hact
    dsimp only at hend ⊢
    rw [conclude_congr s a.1 hend]

theorem position_act {a mid : (Task × Option Bytes) × NtpServer × Books}
    (hact : (workerActions evp c).act id a env = .ok mid) (hopen : a.1.1.stage.isDone = false)
    (hgoes : mid.1.1.stage.isDone = false) :
    mid.1.1.stage.position = min 5 (a.1.1.stage.position + 1) := by
  simp only [workerActions] at hact
  cases hadvance : a.2.2.advance evp c id a.1.1 env with
  | error e =>
    rw [hadvance] at hact
    cases hact
  | ok l =>
    rw [hadvance] at hact
    cases hact
    exact position_advance hadvance hopen hgoes

/-- **The sections with their own readings** are those with the readings of all. -/
theorem leads_ofSections {before : List PacketEnv} {last : PacketEnv} {pre rest : List PacketEnv}
    (hbefore : before = pre ++ rest) {a a' : (Task × Option Bytes) × NtpServer × Books}
    (hposition : a.1.1.stage.position = min 5 pre.length)
    (h : (workerActions evp c).Leads id (rest ++ [last]) a a') :
    (workerActions evp c).Leads id (List.replicate (rest.length + 1)
      (PacketEnv.ofSections before last)) a a' := by
  induction rest generalizing pre a with
  | nil =>
    obtain ⟨hopen, mid, hact, hlast⟩ := h
    -- what the last section reads is its own
    have hlength : before.length = pre.length := by rw [hbefore, List.append_nil]
    have hnone : ∀ {n : Nat}, a.1.1.stage.position = n → n < 5 → before[n]? = none := by
      intro n hn hlt
      exact List.getElem?_eq_none (by omega)
    refine ⟨hopen, mid, act_congr hact ?_ ?_ ?_ fun _ => rfl, hlast⟩ <;> intro hstage
    · have hpos : before[1]? = none := hnone (by rw [hstage]; rfl) (by omega)
      simp [PacketEnv.ofSections, hpos]
    · have hpos : before[2]? = none := hnone (by rw [hstage]; rfl) (by omega)
      simp [PacketEnv.ofSections, hpos]
    · have hpos : before[4]? = none := hnone (by rw [hstage]; rfl) (by omega)
      simp [PacketEnv.ofSections, hpos]
  | cons env rest ih =>
    obtain ⟨hopen, mid, hact, hrest⟩ := h
    have hsome : ∀ {n : Nat}, a.1.1.stage.position = n → n < 5 → before[n]? = some env := by
      intro n hn hlt
      obtain rfl : n = pre.length := by omega
      rw [hbefore, List.getElem?_append_right le_rfl, Nat.sub_self]
      rfl
    have hgoes : mid.1.1.stage.isDone = false := by
      cases rest <;> exact hrest.1
    have hact' : (workerActions evp c).act id a (PacketEnv.ofSections before last) = .ok mid := by
      refine act_congr hact ?_ ?_ ?_ fun hdone => absurd (hgoes.symm.trans hdone) (by simp) <;>
        intro hstage
      · have hpos : before[1]? = some env := hsome (by rw [hstage]; rfl) (by omega)
        simp [PacketEnv.ofSections, hpos]
      · have hpos : before[2]? = some env := hsome (by rw [hstage]; rfl) (by omega)
        simp [PacketEnv.ofSections, hpos]
      · have hpos : before[4]? = some env := hsome (by rw [hstage]; rfl) (by omega)
        simp [PacketEnv.ofSections, hpos]
    have hnext : mid.1.1.stage.position = min 5 (pre ++ [env]).length := by
      rw [position_act hact hopen hgoes, hposition, List.length_append, List.length_singleton]
      omega
    refine ⟨hopen, mid, hact', ih ?_ hnext hrest⟩
    rw [hbefore, List.append_assoc]
    rfl

end Readings

/-! ## A datagram at once -/

section Whole

variable {evp : Evp} {c : NtpConfig} {id : TaskId} {t : Task} {env : PacketEnv}
  {after : (Task × Option Bytes) × NtpServer × Books}

/-- The workers have come to the end of some sections of a datagram. -/
structure Reaches (c : NtpConfig) (s : NtpServer) (id : TaskId) (w : Workers)
    (after : (Task × Option Bytes) × NtpServer × Books) : Prop where
  uniform : NtpServer.Uniform c w.server
  task : w.tasks id = some after.1.1
  sent : w.sent id = after.1.2
  common : w.server.common = after.2.1
  books : w.server.books = Function.update s.books id.client.ip after.2.2

/-- The sections of a datagram with one set of readings are steps of the workers. -/
theorem run_of_leads {w : Workers} (h : NtpServer.Uniform c w.server) (ht : w.tasks id = some t)
    (hsent : w.sent id = none) {n : Nat}
    (hleads : (workerActions evp c).Leads id (List.replicate n env)
      ((t, none), w.server.common, w.server.books id.client.ip) after) :
    ∃ w', w.run evp (List.replicate n (.advance id env)) = .ok w' ∧
      Reaches c w.server id w' after := by
  induction n generalizing w t with
  | zero =>
    cases hleads
    exact ⟨w, rfl, h, ht, hsent, rfl, (Function.update_eq_self ..).symm⟩
  | succ n ih =>
    obtain ⟨hopen, mid, hact, hrest⟩ := hleads
    obtain ⟨a, hadvance⟩ := exists_advance h hact
    obtain ⟨hsection, hothers⟩ := advance_act h hopen hadvance none
    obtain rfl := Except.ok.inj (hact.symm.trans hsection)
    rw [Workers.run_advance ht hadvance]
    have huniform := uniform_advance h hadvance
    have hrecorded : (w.record id a).sent id = a.reply := by
      rw [Workers.record_sent_self]
      cases a.reply with
      | none => exact hsent
      | some reply => rfl
    have hbooks : a.server.books
        = Function.update w.server.books id.client.ip (a.server.books id.client.ip) :=
      Function.eq_update_iff.mpr ⟨rfl, hothers⟩
    cases n with
    | zero =>
      cases hrest
      exact ⟨w.record id a, rfl, huniform, w.record_tasks_self id a, hrecorded, rfl, hbooks⟩
    | succ n =>
      -- only the last section sends a reply
      have hnone : a.reply = none := by
        rcases (Task.advance_counted hadvance hopen).2 with hgoes | hends
        · exact hgoes.2.1
        · exact absurd (hends.1.symm.trans hrest.1) (by simp)
      rw [hnone] at hrest hrecorded
      obtain ⟨w', hrun, hreaches⟩ := ih huniform (w.record_tasks_self id a) hrecorded hrest
      refine ⟨w', hrun, hreaches.uniform, hreaches.task, hreaches.sent, hreaches.common, ?_⟩
      rw [hreaches.books, Workers.record_server, hbooks, Function.update_idem]

/-- **A datagram at once.** What the sections of a new datagram make of the server, with one
set of readings, is what `processPacket` makes of it. -/
theorem processPacket_of_leads {s : NtpServer} (h : NtpServer.Uniform c s) {data : Bytes} {n : Nat}
    (hleads : (workerActions evp c).Leads id (List.replicate n env)
      (({ data := data }, none), s.common, s.books id.client.ip) after)
    (hends : after.1.1.stage.isDone = true) :
    ∃ p, s.processPacket evp data id.client env = .ok p ∧ after.1.1.stage = .done p.verdict ∧
      p.reply = after.1.2 ∧ NtpServer.Uniform c p.server ∧ p.server.common = after.2.1 ∧
      p.server.books = Function.update s.books id.client.ip after.2.2 := by
  obtain ⟨w, rfl, ht, hsent⟩ : ∃ w : Workers, w.server = s ∧
      w.tasks id = some { data := data } ∧ w.sent id = none :=
    ⟨{ server := s, tasks := Function.update (fun _ => none) id (some { data := data }) }, rfl,
      by simp, rfl⟩
  obtain ⟨w', hrun, hreaches⟩ := run_of_leads h ht hsent hleads
  obtain ⟨verdict, hverdict⟩ : ∃ verdict, after.1.1.stage = .done verdict := by
    cases hstage : after.1.1.stage with
    | done verdict => exact ⟨verdict, rfl⟩
    | _ =>
      rw [hstage] at hends
      cases hends
  -- the steps that are left over do nothing
  have hwhole : (w.run evp (List.replicate (n + 8) (.advance id env))).map (Workers.outcome id)
      = .ok (w'.server, some (.done verdict), w'.sent id) := by
    rw [List.replicate_add, Workers.run, List.foldlM_append]
    show (w.run evp (List.replicate n (.advance id env)) >>= _).map _ = _
    rw [hrun]
    exact Workers.run_done hreaches.task hverdict
  rw [Workers.run_received rfl ht rfl rfl hsent] at hwhole
  cases hp : w.server.processPacket evp data id.client env with
  | error e =>
    rw [hp] at hwhole
    cases hwhole
  | ok p =>
    rw [hp] at hwhole
    have houtcome := Except.ok.inj hwhole
    simp only [Processed.outcome, Prod.mk.injEq, Option.some.injEq, Stage.done.injEq] at houtcome
    obtain ⟨hserver, rfl, hreply⟩ := houtcome
    refine ⟨p, rfl, hverdict, hreply.trans hreaches.sent, ?_, ?_, ?_⟩ <;> rw [hserver]
    · exact hreaches.uniform
    · exact hreaches.common
    · exact hreaches.books

end Whole

/-! ## The serial server -/

/-- What is done at once, as an event of the server. -/
def wholeEvent : Sections.Whole TaskId (Task × Option Bytes) PacketEnv Background → Event
  | .action id first before last =>
    .packet first.1.data id.client (PacketEnv.ofSections before last)
  | .other (.sync world now) => .sync world now
  | .other .cleanup => .cleanup

/-- A datagram's action starts with its bytes. -/
def startsFresh : Sections.Whole TaskId (Task × Option Bytes) PacketEnv Background → Prop
  | .action _ first _ _ => first = ({ data := first.1.data }, none)
  | .other _ => True

/-- What became of an action is what `processPacket` tells. -/
def Means : Option (Task × Option Bytes) → Option (Verdict × Option Bytes) → Prop
  | some a, some out => a.1.stage = .done out.1 ∧ a.2 = out.2
  | none, none => True
  | _, _ => False

/-- A server in a state of the serial machine. -/
structure Serves (c : NtpConfig) (u : Sections.Serial UInt32 NtpServer Books) (s : NtpServer) :
    Prop where
  uniform : NtpServer.Uniform c s
  shared : u.shared = s.common
  parts : u.parts = s.books

section SerialServer

variable {evp : Evp} {c : NtpConfig} {s : NtpServer}

/-- A run and one more event. -/
theorem NtpServer.run_concat {s s' t : NtpServer} {events : List Event} {e : Event}
    {outs : List (Option (Verdict × Option Bytes))} {out : Option (Verdict × Option Bytes)}
    (hrun : s.run evp events = .ok (t, outs))
    (hstep : t.stepWith NtpServer.captured evp e = .ok (s', out)) :
    s.run evp (events ++ [e]) = .ok (s', outs ++ [out]) := by
  induction events generalizing s outs with
  | nil =>
    cases hrun
    simp only [NtpServer.run, List.nil_append, NtpServer.runWith, hstep]
  | cons e' events ih =>
    obtain ⟨r, out', outs', hfirst, hrest, rfl⟩ := NtpServer.runWith_cons hrun
    have htail := ih hrest
    unfold NtpServer.run at htail
    simp only [NtpServer.run, List.cons_append, NtpServer.runWith, hfirst, htail]

theorem serves_step {u u' : Sections.Serial UInt32 NtpServer Books} (h : Serves c u s)
    {w : Sections.Whole TaskId (Task × Option Bytes) PacketEnv Background}
    {result : Option (Task × Option Bytes)} (hfresh : startsFresh w)
    (hstep : Sections.Serial.Step (workerActions evp c) u w result u') :
    ∃ s' out, s.stepWith NtpServer.captured evp (wholeEvent w) = .ok (s', out) ∧
      Serves c u' s' ∧ Means result out := by
  cases hstep with
  | @action id first before last after hleads hends =>
    have hfirst : first = ({ data := first.1.data }, none) := hfresh
    have hposition : first.1.stage.position = min 5 ([] : List PacketEnv).length := by
      rw [hfirst]
      rfl
    have hbefore : before = [] ++ before := rfl
    have hwhole := leads_ofSections hbefore hposition hleads
    rw [h.shared, h.parts] at hwhole
    rw [hfirst] at hwhole
    obtain ⟨p, hp, hverdict, hreply, huniform, hcommon, hbooks⟩ :=
      processPacket_of_leads h.uniform hwhole hends
    have hp' : s.processPacketWith NtpServer.captured evp first.1.data id.client
        (PacketEnv.ofSections before last) = .ok p := hp
    refine ⟨p.server, some (p.verdict, p.reply), ?_, ⟨huniform, hcommon.symm, ?_⟩,
      hverdict, hreply.symm⟩
    · simp only [wholeEvent, NtpServer.stepWith, hp']
    · rw [hbooks, h.parts]
      rfl
  | other o =>
    cases o with
    | sync world now =>
      refine ⟨s.syncOnce world now, none, rfl, ⟨?_, ?_, h.parts⟩, trivial⟩
      · exact ⟨h.uniform.rules, h.uniform.config, h.uniform.connections⟩
      · exact (congrArg (fun g : NtpServer => g.syncOnce world now) h.shared).trans
          (s.common_syncOnce world now).symm
    | cleanup =>
      refine ⟨s.cleanupConnections, none, rfl, ?_, trivial⟩
      rw [h.uniform.cleanupConnections]
      exact ⟨h.uniform, h.shared, h.parts⟩

/-- **A run of whole actions** is a run of the server. -/
theorem run_of_wholes (hs : NtpServer.Uniform c s)
    {wholes : List (Sections.Whole TaskId (Task × Option Bytes) PacketEnv Background)}
    {results : List (Option (Task × Option Bytes))} {u : Sections.Serial UInt32 NtpServer Books}
    (hrun : Sections.Serial.Run (workerActions evp c) { shared := s.common, parts := s.books }
      wholes results u) (hfresh : ∀ w ∈ wholes, startsFresh w) :
    ∃ s' outs, s.run evp (wholes.map wholeEvent) = .ok (s', outs) ∧ Serves c u s' ∧
      List.Forall₂ Means results outs := by
  generalize hu : ({ shared := s.common, parts := s.books } :
    Sections.Serial UInt32 NtpServer Books) = u₀ at hrun
  induction hrun with
  | nil =>
    subst hu
    exact ⟨s, [], rfl, ⟨hs, rfl, rfl⟩, .nil⟩
  | concat _ hstep ih =>
    obtain ⟨t, outs, hrun, hserves, hmeans⟩ :=
      ih fun w hw => hfresh w (List.mem_append_left _ hw)
    obtain ⟨s', out, hlast, hserves', hmeans'⟩ :=
      serves_step hserves (hfresh _ (List.mem_append_right _ List.mem_cons_self)) hstep
    refine ⟨s', outs ++ [out], ?_, hserves', List.rel_append hmeans (.cons hmeans' .nil)⟩
    rw [List.map_append]
    exact NtpServer.run_concat hrun hlast

end SerialServer

end SimpleNtpd
