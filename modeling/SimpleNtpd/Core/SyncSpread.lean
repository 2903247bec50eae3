import SimpleNtpd.Core.RequestValidation
import SimpleNtpd.Core.StratumOrder
import SimpleNtpd.Core.StratumRatchet

/-!
# How the time spreads

Servers without restrictions are both sides of the protocol for each other: what
`queryUpstreamServer` sends is served by `processPacket`, and what this sends is taken by
the query (`exchange_accepted`). So time spreads through a network of them.

A server has a round: its queries send their requests to the servers it has as upstream
servers, each of these answers, and some replies get back before the query gives up. The
servers are in layers, and every server asks the layer above. If the rounds of the layers
come in order and no round loses all its replies, every server that has had its round is
synchronized and tells the stratum of its layer, up to 15 (`time_spreads`), whatever the
clocks show, which query is the fastest, and which replies are lost.
-/

namespace SimpleNtpd

open Cpp

/-! ## One exchange -/

/-- The request of a query is one that every server takes for a client's. -/
theorem QueryEnv.isRequest (env : QueryEnv) : IsRequest env.request.serializeToData ∧
    (NtpPacket.decode env.request.serializeToData).FieldsInRange := by
  have hdecode : NtpPacket.decode env.request.serializeToData = env.request := by
    have hli : env.request.leapIndicator < 4 := by show (0 : UInt8) < 4; decide
    have hversion : env.request.version < 8 := by show (4 : UInt8) < 8; decide
    have hmode : env.request.mode < 8 := by show (3 : UInt8) < 8; decide
    have happ := NtpPacket.decode_serializeToData hli hversion hmode []
    rwa [List.append_nil] at happ
  have hlength : ntpPacketSize ≤ env.request.serializeToData.length := by
    rw [NtpPacket.serializeToData_length]
  refine ⟨⟨hlength, ?_, ?_⟩, ?_⟩ <;> rw [hdecode]
  · rfl
  · exact .inr rfl
  · show (0 : UInt8) ≤ 15 ∧ ((4 : UInt8) ≤ 4 ∧ (4 : UInt8) ≤ 17) ∧ (-6 : Int8) ≤ 0
    decide

/-- A well-formed reply is one that every query takes. -/
theorem WellFormedReply.acceptReply {request reply : Bytes} (h : WellFormedReply request reply) :
    acceptReply reply = some (NtpPacket.decode reply) :=
  acceptReply_eq_some_iff.mpr ⟨Nat.le_of_eq h.length.symm, h.valid, h.mode, rfl⟩

namespace NtpServer

/-- A server as it was started, but for the synchronization and the connections: it has one
configuration, and no datagram has failed. -/
structure Ready (c : NtpConfig) (s : NtpServer) : Prop where
  configs : ∀ ref, s.configs ref = c
  active : s.AllActive
  errors : s.stats.totalErrors = 0

variable {c : NtpConfig} {s s' : NtpServer} {evp : Evp}

theorem Ready.start (c : NtpConfig) (logger : LoggerSettings) : Ready c (.start c logger) where
  configs _ := rfl
  active := nofun
  errors := rfl

theorem Ready.currentConfig (h : Ready c s) : s.currentConfig = c := h.configs s.config

/-- The stratum that is told is a matter of the synchronization. -/
theorem Ready.responseStratum_eq (h : Ready c s) (h' : Ready c s')
    (hsync : s'.upstreamSync = s.upstreamSync) : s'.responseStratum = s.responseStratum := by
  unfold responseStratum
  rw [hsync, h.currentConfig, h'.currentConfig]

/-- While nothing has failed, no datagram raises the stratum. -/
theorem processPacket_same {data : Bytes} {client : SockAddr} {env : PacketEnv} {p : Processed}
    (herrors : s.stats.totalErrors = 0) (h : s.processPacket evp data client env = .ok p) :
    SameSettings s p.server := by
  have hno : s.raisesStratum = false := by
    have hratio : errorRatioHigh 0 s.stats.totalRequests = false := by simp [errorRatioHigh]
    rw [raisesStratum, herrors, hratio, Bool.and_false, Bool.false_and]
  have hstratum : p.server.currentConfig.stratum = s.currentConfig.stratum := by
    rcases processPacket_totals h with ⟨-, hanswered⟩ | ⟨-, hunanswered⟩
    · rw [hanswered.stratum, hno, if_neg Bool.false_ne_true]
    · exact hunanswered.stratum
  rcases processPacketWith_cases h with ⟨-, -, hsame⟩ | ⟨t, packet, hsame, -, rfl⟩
  · exact hsame
  · rcases t.finishPacket_same true data env with hstay | hraise
    · exact hsame.trans hstay
    · rcases t.applyDynamicStratum_cases with hno | ⟨-, hyes⟩
      · rw [hno] at hraise
        exact hsame.trans hraise
      · -- a raise would show
        rw [hraise.currentConfig, hyes, currentConfig] at hstratum
        dsimp only at hstratum
        rw [Function.update_self, hsame.currentConfig] at hstratum
        have hne : ∀ n : UInt8, n + 1 ≠ n := forall_uint8 (by decide +kernel)
        exact absurd hstratum (hne _)

/-- **One exchange.** A server without restrictions answers the request of a query, and a
query takes the answer; it has the stratum of the server, which stays ready. -/
theorem exchange_accepted (evp : Evp) (h : Ready c s) (hc : Unrestricted c) (hstratum : c.stratum ≤ 15)
    (query : QueryEnv) (client : SockAddr) (env : PacketEnv) (hsend : env.sendOk = true) :
    ∃ s' verdict reply,
      s.stepWith captured evp (.packet query.request.serializeToData client env)
        = .ok (s', some (verdict, some reply)) ∧
      acceptReply reply = some (NtpPacket.decode reply) ∧
      (NtpPacket.decode reply).stratum = s.responseStratum ∧
      Ready c s' ∧ s'.upstreamSync = s.upstreamSync := by
  obtain ⟨hreq, hfields⟩ := query.isRequest
  have hcurrent : Unrestricted s.currentConfig := by
    rw [h.currentConfig]
    exact hc
  have hcaptured : s.CapturedBy client Unrestricted := fun conn _ => by
    rw [captured, h.configs]
    exact hc
  obtain ⟨t, accepted, hprocess, haccepted⟩ :=
    processPacket_unrestricted h.active hcurrent hcaptured hreq evp env
  rw [haccepted.mpr hfields] at hprocess
  have hpacket := hreq.clientRequest_eq_some_iff.mpr ⟨hfields, rfl⟩
  obtain ⟨reply, hverdict, hreply⟩ : ∃ reply,
      (t.finishPacket true query.request.serializeToData env).verdict = .answered ∧
      (t.finishPacket true query.request.serializeToData env).reply = some reply := by
    obtain ⟨hverdict, hreply, -⟩ := finishPacket_of_request hpacket t env
    exact ⟨_, hverdict, hreply⟩
  generalize t.finishPacket true query.request.serializeToData env = p at *
  have hstep : s.stepWith captured evp (.packet query.request.serializeToData client env)
      = .ok (p.server, some (p.verdict, some reply)) := by
    rw [stepWith, ← processPacket, hprocess, ← hreply]
  have hsame := processPacket_same h.errors hprocess
  have hrange : StratumInRange s := fun ref => by rw [h.configs]; exact hstratum
  have herrors : p.server.stats.totalErrors = 0 := by
    rcases processPacket_totals hprocess with ⟨-, hanswered⟩ | ⟨hno, -⟩
    · rw [hanswered.errors, h.errors, hsend]
      rfl
    · exact absurd hverdict hno
  refine ⟨p.server, p.verdict, reply, hstep, ?_, (stepWith_reply hstep).1, ⟨?_, ?_, herrors⟩,
    hsame.upstreamSync⟩
  · exact (processPacket_reply hrange hprocess hreply).acceptReply
  · rw [hsame.configs]
    exact h.configs
  · exact h.active.processPacketWith hprocess

end NtpServer

/-! ## Rounds -/

/-- One query of a round: the server that is asked, the address the request comes from,
what the server and the query meet, and the address the reply comes from; `none` is a reply
that is lost. -/
structure Contact (ι : Type*) where
  server : ι
  client : SockAddr
  answer : PacketEnv
  query : QueryEnv
  arrives : Option SockAddr

/-- A round of a server, with a query for each of its upstream servers. -/
structure Round (ι : Type*) where
  client : ι
  contacts : List (Contact ι)
  now : Int

/-- What a query without a contact would meet. -/
def noQuery : QueryEnv where
  resolved := none
  socketOk := false
  requestTime := 0
  received := none
  replyTime := 0

section

variable {ι : Type*}

/-- What a query of a round meets, before a reply gets back. -/
def Round.query (r : Round ι) (k : Nat) : QueryEnv :=
  { ((r.contacts[k]?).map Contact.query).getD noQuery with received := none }

/-- Without one it has no reply. -/
theorem Round.reply_query (r : Round ι) (k : Nat) : (r.query k).reply = none := by
  unfold QueryEnv.reply
  cases (r.query k).target <;> rfl

/-- The queries of a round are sent to servers of the layer above that have had their own
round, or are of the first layer, each of them answers, and some reply gets back. -/
structure Round.Honest (c : ι → NtpConfig) (level : ι → Nat) (done : List ι) (r : Round ι) :
    Prop where
  names : (c r.client).upstreamServers.length = r.contacts.length
  layer : ∀ x ∈ r.contacts, level x.server + 1 = level r.client
  settled : ∀ x ∈ r.contacts, level x.server = 0 ∨ x.server ∈ done
  sends : ∀ x ∈ r.contacts, x.query.target.isSome = true ∧ x.answer.sendOk = true
  arrives : ∃ x ∈ r.contacts, x.arrives.isSome = true

end

namespace Network

variable {ι : Type*}

/-- A server is asked. -/
def ask (x : Contact ι) : Act ι :=
  ⟨x.server, .packet x.query.request.serializeToData x.client x.answer, fun _ => none⟩

/-- The round, when the replies have been sent after the given number of others. -/
def collect (base : Nat) (r : Round ι) : Act ι where
  server := r.client
  event := .sync r.query r.now
  delivered k := (r.contacts[k]?).bind fun x => x.arrives.map fun sender => (base + k, sender)

def roundActs (base : Nat) (r : Round ι) : List (Act ι) := r.contacts.map ask ++ [collect base r]

/-- Rounds one after the other. -/
def rounds (base : Nat) : List (Round ι) → List (Act ι)
  | [] => []
  | r :: rs => roundActs base r ++ rounds (base + r.contacts.length) rs

/-- The servers are as they were started. -/
def AllReady (c : ι → NtpConfig) (n : Network ι) : Prop := ∀ i, NtpServer.Ready (c i) (n.servers i)

/-- A reply to a contact: a query takes it, and it tells the stratum of the server. -/
structure AnswerTo (n : Network ι) (x : Contact ι) (m : SentReply ι) : Prop where
  accepted : acceptReply m.datagram = some (NtpPacket.decode m.datagram)
  stratum : (NtpPacket.decode m.datagram).stratum = (n.servers x.server).responseStratum

variable {c : ι → NtpConfig} {n : Network ι} {evp : Evp}

/-- The strata that are told are a matter of the synchronizations. -/
theorem AllReady.responseStratum_eq {n' : Network ι} (h : n.AllReady c) (h' : n'.AllReady c)
    (hsync : ∀ i, (n'.servers i).upstreamSync = (n.servers i).upstreamSync) (i : ι) :
    (n'.servers i).responseStratum = (n.servers i).responseStratum :=
  (h i).responseStratum_eq (h' i) (hsync i)

/-- The reply that a query of a round receives. -/
theorem received_collect {base k : Nat} {r : Round ι} {m : SentReply ι} {sender : SockAddr}
    (h : n.received (collect base r) k = some (m, sender)) :
    ∃ x, r.contacts[k]? = some x ∧ x.arrives = some sender ∧ n.sent[base + k]? = some m := by
  obtain ⟨d, hd, hm⟩ := Option.bind_eq_some_iff.mp h
  obtain ⟨x, hx, harrives⟩ := Option.bind_eq_some_iff.mp hd
  obtain ⟨sender', hsender, rfl⟩ := Option.map_eq_some_iff.mp harrives
  obtain ⟨m', hm', heq⟩ := Option.map_eq_some_iff.mp hm
  cases heq
  exact ⟨x, hx, hsender, hm'⟩

theorem received_of_arrives {base k : Nat} {r : Round ι} {x : Contact ι} {m : SentReply ι}
    {sender : SockAddr} (hx : r.contacts[k]? = some x) (harrives : x.arrives = some sender)
    (hm : n.sent[base + k]? = some m) : n.received (collect base r) k = some (m, sender) := by
  unfold received collect
  simp only [hx, harrives, hm, Option.bind_some, Option.map_some]

/-- Where one list has an item, the other has the one that belongs to it. -/
theorem answer_at {xs : List (Contact ι)} {replies : List (SentReply ι)} {k : Nat} {x : Contact ι}
    (h : List.Forall₂ n.AnswerTo xs replies) (hx : xs[k]? = some x) :
    ∃ m, replies[k]? = some m ∧ n.AnswerTo x m := by
  obtain ⟨hlength, hzip⟩ := List.forall₂_iff_zip.mp h
  have hk : k < replies.length := hlength ▸ (List.getElem?_eq_some_iff.mp hx).1
  refine ⟨replies[k], List.getElem?_eq_getElem hk, hzip ?_⟩
  exact List.mem_iff_getElem?.mpr
    ⟨k, List.getElem?_zip_eq_some.mpr ⟨hx, List.getElem?_eq_getElem hk⟩⟩

/-- **A query whose reply gets back succeeds.** -/
theorem query_succeeds {base k : Nat} {r : Round ι} {x : Contact ι} {m : SentReply ι}
    {sender : SockAddr} (hx : r.contacts[k]? = some x) (htarget : x.query.target.isSome = true)
    (hreceived : n.received (collect base r) k = some (m, sender))
    (haccepted : acceptReply m.datagram = some (NtpPacket.decode m.datagram)) (host : Str) :
    (queryUpstreamServer host (receive (r.query k) (n.received (collect base r) k))).success
      = true := by
  obtain ⟨target, htarget⟩ := Option.isSome_iff_exists.mp htarget
  rw [Round.query, hx, hreceived]
  exact queryUpstreamServer_success_iff.mpr
    ⟨target, m.datagram, sender, NtpPacket.decode m.datagram, htarget, rfl, haccepted⟩

variable {level : ι → Nat} {first : Nat} {done : List ι}

/-- **The round commits.** A server that has a reply to its round derives its stratum from
one of the servers it has asked. -/
theorem committed_of_honest {t : Network ι} {r : Round ι} {replies : List (SentReply ι)}
    (hready : n.AllReady c) (hr : r.Honest c level done)
    (hmanager : ∃ m, (n.servers r.client).upstreamSync = some m)
    {base : Nat} (hreplies : ∀ k, n.sent[base + k]? = replies[k]?)
    (hanswers : List.Forall₂ t.AnswerTo r.contacts replies)
    {s : NtpServer} {out : Option (Verdict × Option Bytes)}
    (hstep : (n.servers r.client).stepWith NtpServer.captured evp
      (n.eventOf (collect base r)) = .ok (s, out)) :
    ∃ x ∈ r.contacts, ∃ m, s.upstreamSync = some m ∧ m.synced = true ∧
      m.upstreamStratum = (t.servers x.server).responseStratum := by
  rcases NtpServer.stepWith_committed hstep with
    ⟨hnone, -⟩ | ⟨k, result, m, hcommit, hm, hsynced, hstratum⟩
  · -- the reply that gets back is one to choose
    exfalso
    obtain ⟨x, hmem, harrives⟩ := hr.arrives
    obtain ⟨k, hx⟩ := List.mem_iff_getElem?.mp hmem
    obtain ⟨reply, hreply, hanswer⟩ := answer_at hanswers hx
    obtain ⟨sender, harrives⟩ := Option.isSome_iff_exists.mp harrives
    have hreceived := received_of_arrives (n := n) hx harrives ((hreplies k).trans hreply)
    obtain ⟨m, hm⟩ := hmanager
    let round : SyncRound :=
      ⟨((n.servers r.client).configs (n.servers r.client).syncConfig).upstreamServers,
        fun k => receive (r.query k) (n.received (collect base r) k), r.now⟩
    have hchosen : ((n.servers r.client).upstreamSync.bind fun _ =>
        round.chosen.map fun q => (q.2, round.query q)) = none := hnone
    rw [hm, Option.bind_some, Option.map_eq_none_iff] at hchosen
    have hk : k < round.servers.length := by
      show k < ((n.servers r.client).configs _).upstreamServers.length
      rw [(hready r.client).configs, hr.names]
      exact (List.getElem?_eq_some_iff.mp hx).1
    have hfalse := round.failed_iff.mpr hchosen (round.servers[k], k)
      (List.mk_mem_zipIdx_iff_getElem?.mpr (List.getElem?_eq_getElem hk))
    have htrue := query_succeeds hx (hr.sends x hmem).1 hreceived hanswer.accepted round.servers[k]
    exact Bool.false_ne_true (hfalse.symm.trans htrue)
  · -- what is committed was received
    cases hreceived : n.received (collect base r) k with
    | none =>
      exfalso
      obtain ⟨world, now, response, hevent, hreply, -⟩ := NtpServer.committed_eq_some hcommit
      cases hevent
      dsimp only at hreply
      rw [hreceived, receive, r.reply_query] at hreply
      cases hreply
    | some received =>
      obtain ⟨reply, sender⟩ := received
      obtain ⟨x, hx, -, hsent⟩ := received_collect hreceived
      obtain ⟨reply', hreply', hanswer⟩ := answer_at hanswers hx
      have heq : reply = reply' :=
        Option.some.inj (hsent.symm.trans ((hreplies k).trans hreply'))
      subst heq
      refine ⟨x, List.mem_of_getElem? hx, m, hm, hsynced, ?_⟩
      rw [hstratum, committed_received hcommit hreceived, hanswer.stratum]

section Steps

variable [DecidableEq ι]

/-- An event of a server is one of the network. -/
theorem step_of_server {a : Act ι} {s : NtpServer} {out : Option (Verdict × Option Bytes)}
    (h : (n.servers a.server).stepWith NtpServer.captured evp (n.eventOf a) = .ok (s, out)) :
    n.step evp a = .ok { n.commit a ((n.servers a.server).committed (n.eventOf a)) with
      servers := Function.update n.servers a.server s
      sent := n.sent ++ n.replies a.server out } := by
  rw [step, h]

/-- One server is asked. -/
theorem step_ask (evp : Evp) (hc : ∀ i, Unrestricted (c i)) (hrange : ∀ i, (c i).stratum ≤ 15)
    (h : n.AllReady c) {x : Contact ι} (hsend : x.answer.sendOk = true) :
    ∃ n' m, n.step evp (ask x) = .ok n' ∧ n'.AllReady c ∧
      (∀ i, (n'.servers i).upstreamSync = (n.servers i).upstreamSync) ∧
      n'.sent = n.sent ++ [m] ∧ n.AnswerTo x m := by
  obtain ⟨s, verdict, reply, hstep, haccept, hstratum, hready, hsync⟩ :=
    NtpServer.exchange_accepted evp (h x.server) (hc x.server) (hrange x.server) x.query
      x.client x.answer hsend
  refine ⟨{ n with
      servers := Function.update n.servers x.server s
      sent := n.sent ++ [⟨x.server, reply, n.hops x.server⟩] }, ⟨x.server, reply, n.hops x.server⟩,
    ?_, fun i => ?_, fun i => ?_, rfl, haccept, hstratum⟩
  · have hserver : (n.servers (ask x).server).stepWith NtpServer.captured evp (n.eventOf (ask x))
        = .ok (s, some (verdict, some reply)) := hstep
    exact step_of_server hserver
  · by_cases hi : i = x.server
    · subst hi
      show NtpServer.Ready _ (Function.update n.servers x.server s x.server)
      rw [Function.update_self]
      exact hready
    · show NtpServer.Ready _ (Function.update n.servers x.server s i)
      rw [Function.update_of_ne hi]
      exact h i
  · by_cases hi : i = x.server
    · subst hi
      show (Function.update n.servers x.server s x.server).upstreamSync = _
      rw [Function.update_self]
      exact hsync
    · show (Function.update n.servers x.server s i).upstreamSync = _
      rw [Function.update_of_ne hi]

/-- All are asked; induction on the contacts. -/
theorem run_asks (evp : Evp) (hc : ∀ i, Unrestricted (c i)) (hrange : ∀ i, (c i).stratum ≤ 15)
    (xs : List (Contact ι)) (hsend : ∀ x ∈ xs, x.answer.sendOk = true) (h : n.AllReady c) :
    ∃ n' replies, n.run evp (xs.map ask) = .ok n' ∧ n'.AllReady c ∧
      (∀ i, (n'.servers i).upstreamSync = (n.servers i).upstreamSync) ∧
      n'.sent = n.sent ++ replies ∧ List.Forall₂ n.AnswerTo xs replies := by
  induction xs generalizing n with
  | nil => exact ⟨n, [], rfl, h, fun _ => rfl, (List.append_nil _).symm, .nil⟩
  | cons x xs ih =>
    obtain ⟨t, m, hstep, hready, hsync, hsent, hanswer⟩ :=
      step_ask evp hc hrange h (hsend x List.mem_cons_self)
    obtain ⟨n', replies, hrun, hready', hsync', hsent', hanswers⟩ :=
      ih (fun y hy => hsend y (List.mem_cons_of_mem x hy)) hready
    refine ⟨n', m :: replies, Components.foldlM_cons_iff.mpr ⟨t, hstep, hrun⟩, hready',
      fun i => (hsync' i).trans (hsync i), ?_, .cons hanswer ?_⟩
    · rw [hsent', hsent, List.append_assoc]
      rfl
    · refine hanswers.imp fun y m' hm' => ⟨hm'.accepted, ?_⟩
      rw [hm'.stratum, h.responseStratum_eq hready hsync]

/-! ## One round -/

/-- Servers of which some have had their round: these are synchronized, and like those of
the first layer they tell the stratum of their layer. -/
structure Settled (c : ι → NtpConfig) (level : ι → Nat) (first : Nat) (done : List ι)
    (n : Network ι) : Prop where
  ready : n.AllReady c
  manager : ∀ i, (c i).upstreamServers ≠ [] → ∃ m, (n.servers i).upstreamSync = some m
  told : ∀ i, level i = 0 ∨ i ∈ done →
    (n.servers i).responseStratum.toNat = min (first + level i) 15
  synced : ∀ i ∈ done, (n.servers i).isSynced = true

/-- **One round.** Every server of the round answers, and the round is committed. -/
theorem run_round (evp : Evp) (hc : ∀ i, Unrestricted (c i)) (hrange : ∀ i, (c i).stratum ≤ 15)
    (hfirst : 1 ≤ first) {r : Round ι} (hr : r.Honest c level done)
    (h : n.Settled c level first done) :
    ∃ n', n.run evp (roundActs n.sent.length r) = .ok n' ∧
      n'.Settled c level first (r.client :: done) ∧
      n'.sent.length = n.sent.length + r.contacts.length := by
  obtain ⟨t, replies, hrun, hready, hsync, hsent, hanswers⟩ :=
    run_asks evp hc hrange r.contacts (fun x hx => (hr.sends x hx).2) h.ready
  obtain ⟨x₀, hx₀, -⟩ := hr.arrives
  have hnames : (c r.client).upstreamServers ≠ [] := by
    rw [← List.length_pos_iff, hr.names]
    exact List.length_pos_of_mem hx₀
  have hmanager : ∃ m, (t.servers r.client).upstreamSync = some m := by
    rw [hsync]
    exact h.manager r.client hnames
  have hreplies : ∀ k, t.sent[n.sent.length + k]? = replies[k]? := fun k => by
    rw [hsent, List.getElem?_append_right (Nat.le_add_right _ _), Nat.add_sub_cancel_left]
  let s := (t.servers r.client).syncOnce
    (fun k => receive (r.query k) (t.received (collect n.sent.length r) k)) r.now
  have hstep : (t.servers (collect n.sent.length r).server).stepWith NtpServer.captured evp
      (t.eventOf (collect n.sent.length r)) = .ok (s, none) := rfl
  obtain ⟨x, hx, m, hm, hsynced, hstratum⟩ :=
    committed_of_honest hready hr hmanager hreplies hanswers hstep
  have hs : NtpServer.Ready (c r.client) s :=
    ⟨(hready r.client).configs, (hready r.client).active, (hready r.client).errors⟩
  -- the server that was chosen is of the layer above
  have htold := h.told x.server (hr.settled x hx)
  have hupstream : m.upstreamStratum.toNat = min (first + level x.server) 15 := by
    rw [hstratum, htold]
  have hderives : s.Derives m.upstreamStratum := by
    refine ⟨m, hm, hsynced, rfl, fun hzero => ?_⟩
    rw [hzero, UInt8.toNat_zero] at hupstream
    omega
  have hlayer := hr.layer x hx
  have hresponse : s.responseStratum.toNat = min (first + level r.client) 15 := by
    rw [hderives.responseStratum, derivedStratum_toNat, hupstream]
    omega
  have hothers : ∀ i, i ≠ r.client → Function.update t.servers r.client s i = t.servers i :=
    fun i hi => Function.update_of_ne hi _ _
  have hself : Function.update t.servers r.client s r.client = s := Function.update_self _ _ _
  refine ⟨_, Runs.foldlM_append_iff.mpr ⟨t, hrun, Components.foldlM_cons_iff.mpr
    ⟨_, step_of_server hstep, rfl⟩⟩, ⟨fun i => ?_, fun i hi => ?_, fun i hi => ?_, fun i hi => ?_⟩,
    ?_⟩
  · show NtpServer.Ready (c i) (Function.update t.servers r.client s i)
    by_cases heq : i = r.client
    · rw [heq, hself]
      exact hs
    · rw [hothers i heq]
      exact hready i
  · show ∃ m, (Function.update t.servers r.client s i).upstreamSync = some m
    by_cases heq : i = r.client
    · rw [heq, hself]
      exact ⟨m, hm⟩
    · rw [hothers i heq, hsync]
      exact h.manager i hi
  · show (Function.update t.servers r.client s i).responseStratum.toNat = _
    by_cases heq : i = r.client
    · rw [heq, hself]
      exact hresponse
    · rw [hothers i heq, h.ready.responseStratum_eq hready hsync]
      exact h.told i (hi.imp_right fun hi => (List.mem_cons.mp hi).resolve_left heq)
  · show (Function.update t.servers r.client s i).isSynced = true
    by_cases heq : i = r.client
    · rw [heq, hself, NtpServer.isSynced, hm]
      exact hsynced
    · rw [hothers i heq, NtpServer.isSynced, hsync]
      exact h.synced i ((List.mem_cons.mp hi).resolve_left heq)
  · show (t.sent ++ []).length = _
    rw [List.append_nil, hsent, List.length_append, hanswers.length_eq]

/-- Rounds in order: each of them is honest once those before it have been. -/
def InOrder (c : ι → NtpConfig) (level : ι → Nat) (done : List ι) : List (Round ι) → Prop
  | [] => True
  | r :: rs => r.Honest c level done ∧ InOrder c level (r.client :: done) rs

/-- Rounds one after the other; induction on the rounds. -/
theorem run_rounds (evp : Evp) (hc : ∀ i, Unrestricted (c i)) (hrange : ∀ i, (c i).stratum ≤ 15)
    (hfirst : 1 ≤ first) {rs : List (Round ι)} (hrs : InOrder c level done rs)
    (h : n.Settled c level first done) :
    ∃ n', n.run evp (rounds n.sent.length rs) = .ok n' ∧
      n'.Settled c level first ((rs.map Round.client).reverse ++ done) := by
  induction rs generalizing n done with
  | nil => exact ⟨n, rfl, h⟩
  | cons r rs ih =>
    obtain ⟨t, hrun, hsettled, hlength⟩ := run_round evp hc hrange hfirst hrs.1 h
    obtain ⟨n', hrun', hsettled'⟩ := ih hrs.2 hsettled
    rw [hlength] at hrun'
    refine ⟨n', Runs.foldlM_append_iff.mpr ⟨t, hrun, hrun'⟩, ?_⟩
    rw [List.map_cons, List.reverse_cons, List.append_assoc]
    exact hsettled'

end Steps

/-- Servers that have been started. -/
theorem Settled.start (c : ι → NtpConfig) (logger : ι → LoggerSettings)
    (hrange : ∀ i, (c i).stratum ≤ 15) (hroots : ∀ i, level i = 0 → (c i).stratum.toNat = first) :
    Settled c level first [] (Network.start c logger) where
  ready i := .start (c i) (logger i)
  manager i hi := by
    refine ⟨{}, ?_⟩
    show (if (c i).upstreamServers.isEmpty then none else some _) = _
    rw [if_neg fun hempty => hi (List.isEmpty_iff.mp hempty)]
  told i hi := by
    have hzero : level i = 0 := hi.resolve_right (List.not_mem_nil)
    have hstratum : (NtpServer.start (c i) (logger i)).responseStratum = (c i).stratum := by
      unfold NtpServer.responseStratum NtpServer.start
      cases (c i).upstreamServers.isEmpty <;> rfl
    have hle := UInt8.le_iff_toNat_le.mp (hrange i)
    show (NtpServer.start (c i) (logger i)).responseStratum.toNat = _
    rw [hstratum, hzero, ← hroots i hzero, Nat.add_zero]
    exact (Nat.min_eq_left hle).symm
  synced _ hi := nomatch hi

end Network

/-- **How the time spreads.** In every network of servers without restrictions, in layers of
which the first has one stratum: after rounds in order, in each of which a server asks the
layer above and some reply gets back, every server that has had its round is synchronized
and tells the stratum of its layer, up to 15. -/
theorem time_spreads {ι : Type*} [DecidableEq ι] (evp : Evp) (c : ι → NtpConfig)
    (logger : ι → LoggerSettings) (hc : ∀ i, Unrestricted (c i))
    (hrange : ∀ i, (c i).stratum ≤ 15) (level : ι → Nat) (first : Nat) (hfirst : 1 ≤ first)
    (hroots : ∀ i, level i = 0 → (c i).stratum.toNat = first) (rs : List (Round ι))
    (hrs : Network.InOrder c level [] rs) :
    ∃ n, (Network.start c logger).run evp (Network.rounds 0 rs) = .ok n ∧
      ∀ r ∈ rs, (n.servers r.client).isSynced = true ∧
        (n.servers r.client).responseStratum.toNat = min (first + level r.client) 15 := by
  obtain ⟨n, hrun, hsettled⟩ := Network.run_rounds evp hc hrange hfirst hrs
    (Network.Settled.start c logger hrange hroots)
  refine ⟨n, hrun, fun r hr => ?_⟩
  have hdone : r.client ∈ (rs.map Round.client).reverse ++ [] := by
    rw [List.append_nil, List.mem_reverse]
    exact List.mem_map_of_mem hr
  exact ⟨hsettled.synced r.client hdone, hsettled.told r.client (.inr hdone)⟩

/-- A server of a chain asks the one before it. -/
def chainRound (client server : Fin 3) : Round (Fin 3) where
  client := client
  contacts := [⟨server, exampleClient, exampleEnv, silentQuery, some exampleServer⟩]
  now := 0

theorem chainRound_honest {level : Fin 3 → Nat} {done : List (Fin 3)} {client server : Fin 3}
    (hlayer : level server + 1 = level client) (hsettled : level server = 0 ∨ server ∈ done) :
    (chainRound client server).Honest (fun _ => followingConfig) level done where
  names := rfl
  layer x hx := by
    rw [List.mem_singleton.mp hx]
    exact hlayer
  settled x hx := by
    rw [List.mem_singleton.mp hx]
    exact hsettled
  sends x hx := by
    have htarget : silentQuery.target.isSome = true := by decide +kernel
    rw [List.mem_singleton.mp hx]
    exact ⟨htarget, rfl⟩
  arrives := ⟨_, List.mem_cons_self, rfl⟩

/-- A chain of three servers, the first of stratum 2. -/
theorem time_spreads_chain :
    ∃ n, (Network.start (fun _ : Fin 3 => followingConfig)
        fun _ => NtpServer.loggerSettings followingConfig).run (fun _ _ => none)
        (Network.rounds 0 [chainRound 1 0, chainRound 2 1]) = .ok n ∧
      (n.servers 2).isSynced = true ∧ (n.servers 2).responseStratum.toNat = 4 := by
  have hopen : Unrestricted followingConfig := ⟨⟨rfl, rfl⟩, rfl, rfl, rfl⟩
  obtain ⟨n, hrun, hall⟩ := time_spreads (fun _ _ => none) (fun _ : Fin 3 => followingConfig)
    (fun _ => NtpServer.loggerSettings followingConfig) (fun _ => hopen)
    (fun _ => by decide +kernel) Fin.val 2 (by decide) (fun _ _ => by decide +kernel)
    [chainRound 1 0, chainRound 2 1]
    ⟨chainRound_honest rfl (.inl rfl), chainRound_honest rfl (.inr List.mem_cons_self), trivial⟩
  obtain ⟨hsynced, hstratum⟩ := hall (chainRound 2 1) (List.mem_cons_of_mem _ List.mem_cons_self)
  exact ⟨n, hrun, hsynced, hstratum⟩

end SimpleNtpd
