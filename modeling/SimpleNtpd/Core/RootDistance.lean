import SimpleNtpd.Lib.Clocks
import SimpleNtpd.Core.Accuracy
import SimpleNtpd.Core.ServedTime
import SimpleNtpd.Core.StratumOrder

/-!
# The error of the clocks in a network of servers

Servers that run this code take their time from each other, in true time. Every
server has a clock of its own that drifts (`Clocks`); it stamps requests with it, and
replies with it and the offset it has committed. Replies may be lost or come late, a
round may fail or be answered by any of the servers, and the servers go through their
own events in any order.

The root distance of a server is how far its time may be from true time: that of its
own clock at first, and with every answer it commits that of the reply, half the
delay it has measured, and what is lost on the way (`TimedNetwork.distanceOf`). No
server's time is further away than that (`clock_errors`), as long as the answers that
are committed were stamped while the query waited for them (`Timely`): the code does
not check this itself.
-/

namespace SimpleNtpd

open Cpp NtpTimestamp

/-! ## What a round commits -/

namespace NtpServer

variable {s s' : NtpServer} {evp : Evp} {pick : NtpServer → NtpConnection → NtpConfig}

/-- **One event and the manager**: it stays, or it is what the round commits. -/
theorem stepWith_commit {e : Event} {out : Option (Verdict × Option Bytes)}
    (h : s.stepWith pick evp e = .ok (s', out)) :
    s.committed e = none ∧ s'.upstreamSync = s.upstreamSync ∨
      ∃ (r : SyncRound) (q : Str × Nat), e = .sync r.world r.now ∧ r.chosen = some q ∧
        s.committed e = some (q.2, r.query q) ∧ s'.upstreamSync = some (r.commit q) := by
  have hsync := stepWith_upstreamSync rfl h
  have hid : s.upstreamSync.map (fun m => m.run []) = s.upstreamSync := Option.map_id_apply
  cases e with
  | packet | reload | cleanup => exact .inl ⟨rfl, hsync.trans hid⟩
  | sync world now =>
    unfold committed
    cases hmanager : s.upstreamSync with
    | none =>
      rw [hmanager] at hsync
      exact .inl ⟨rfl, hsync⟩
    | some m =>
      let r : SyncRound := ⟨(s.configs s.syncConfig).upstreamServers, world, now⟩
      have hround : s'.upstreamSync = some (m.syncOnce r.servers r.world r.now).1 := by
        rw [hsync, hmanager]
        rfl
      show r.chosen.map _ = none ∧ _ ∨ _
      cases hchosen : r.chosen with
      | none =>
        rw [hround, r.syncOnce_eq, hchosen]
        exact .inl ⟨rfl, rfl⟩
      | some q =>
        refine .inr ⟨r, q, rfl, hchosen, ?_, ?_⟩
        · show r.chosen.map _ = _
          rw [hchosen]
          rfl
        · rw [hround, r.syncOnce_eq, hchosen]

/-- What is committed is computed from the packet the query takes for the reply. -/
theorem reply_of_chosen {r : SyncRound} {q : Str × Nat} (h : r.chosen = some q) :
    ∃ response, (r.world q.2).reply = some response ∧
      (r.query q).offsetUs = NtpPacketHandler.calculateOffset (r.world q.2).request.transmitTs
        response.receiveTs response.transmitTs (fromSystemTime (r.world q.2).replyTime) ∧
      (r.query q).delayUs = (r.world q.2).roundTrip response := by
  obtain ⟨-, response, hreply⟩ := SyncRound.reply_of_mem (List.argmin_mem h)
  refine ⟨response, hreply, ?_, (SyncRound.query_of_reply hreply).2.2⟩
  rw [SyncRound.query, queryUpstreamServer_eq, hreply]

end NtpServer

/-! ## Stamps -/

/-- A reading that is told with an offset, decoded, is at most 2 µs early. -/
theorem served_micros {offsetUs time : Int} (h : Servable time)
    (hmoved : Servable (time + offsetUs * 1000)) :
    0 ≤ time + offsetUs * 1000 - (servedTimestamp offsetUs time).micros * 1000 ∧
      time + offsetUs * 1000 - (servedTimestamp offsetUs time).micros * 1000 ≤ 2000 := by
  obtain ⟨hlow, hhigh⟩ := toSystemTime_fromSystemTime h.inEra
  rw [← toSystemTime_eq]
  unfold servedTimestamp
  split
  · rename_i hzero
    omega
  · obtain ⟨hlow', hhigh'⟩ := toSystemTime_fromSystemTime (inEra_shifted h hmoved)
    rw [shift]
    omega

/-! ## The network -/

/-- A reply on its way: the instants at which its sender read the clock for it, and how
far from them its timestamps may be. -/
structure TimedReply (ι : Type*) where
  sender : ι
  datagram : Bytes
  arrived : Int
  left : Int
  distance : ℚ

/-- The servers, every reply that was sent, and for each server its root distance
and the instant it is given for, both in nanoseconds. -/
structure TimedNetwork (ι : Type*) where
  servers : ι → NtpServer
  sent : List (TimedReply ι)
  distance : ι → ℚ
  since : ι → Int

/-- The instants at which a query stamps its request and the reply, and which of the
replies that were sent it receives, from which address. -/
structure Delivery where
  stamped : Int
  received : Int
  reply : Option (Nat × SockAddr)

/-- An event of a server, with the instants at which it reads its clock: a datagram
arrives and its reply leaves, and the queries of a round. -/
structure TimedAct (ι : Type*) where
  server : ι
  event : Event
  arrived : Int
  left : Int
  deliveries : Nat → Delivery

section

variable {ι : Type*} (clocks : Clocks ι)

/-- A query waits for a reply: it was stamped in between. -/
def Delivery.WaitsFor (i : ι) (d : Delivery) (m : TimedReply ι) : Prop :=
  d.stamped ≤ m.arrived ∧ m.left ≤ d.received ∧
    InEra (clocks.reading i d.stamped) ∧ InEra (clocks.reading i d.received)

instance instDecidableWaitsFor (i : ι) (d : Delivery) (m : TimedReply ι) :
    Decidable (d.WaitsFor clocks i m) :=
  inferInstanceAs (Decidable (_ ∧ _ ∧ _ ∧ _))

/-- The timestamps of a reply are readings of its sender's clock with an offset, at its
instants, and these are in error by its root distance at most. -/
structure TimedReply.Tells (m : TimedReply ι) (offsetUs : Int) : Prop where
  inOrder : m.arrived ≤ m.left
  arrived : |(clocks.error m.sender (offsetUs * 1000) m.arrived : ℚ)| ≤ m.distance
  left : |(clocks.error m.sender (offsetUs * 1000) m.left : ℚ)| ≤ m.distance
  receiveTs : 0 ≤ m.arrived + clocks.error m.sender (offsetUs * 1000) m.arrived
      - (NtpPacket.decode m.datagram).receiveTs.micros * 1000 ∧
    m.arrived + clocks.error m.sender (offsetUs * 1000) m.arrived
      - (NtpPacket.decode m.datagram).receiveTs.micros * 1000 ≤ 2000
  transmitTs : 0 ≤ m.left + clocks.error m.sender (offsetUs * 1000) m.left
      - (NtpPacket.decode m.datagram).transmitTs.micros * 1000 ∧
    m.left + clocks.error m.sender (offsetUs * 1000) m.left
      - (NtpPacket.decode m.datagram).transmitTs.micros * 1000 ≤ 2000

end

namespace TimedNetwork

variable {ι : Type*}

section Definitions

variable (clocks : Clocks ι)

/-- Servers that have been started. -/
def start (c : ι → NtpConfig) (logger : ι → LoggerSettings) (t : Int) : TimedNetwork ι where
  servers i := .start (c i) (logger i)
  sent := []
  distance i := |(clocks.ahead i t : ℚ)|
  since _ := t

/-- The reply a query receives. -/
def received (n : TimedNetwork ι) (a : TimedAct ι) (k : Nat) : Option (TimedReply ι × SockAddr) :=
  (a.deliveries k).reply.bind fun d => (n.sent[d.1]?).map fun m => (m, d.2)

/-- A query that reads the server's clock and receives the reply. -/
def queryEnv (n : TimedNetwork ι) (a : TimedAct ι) (k : Nat) (env : QueryEnv) : QueryEnv :=
  { env with
    requestTime := clocks.reading a.server (a.deliveries k).stamped
    replyTime := clocks.reading a.server (a.deliveries k).received
    received := (n.received a k).map fun r => (r.1.datagram, r.2) }

/-- The event, with what the clock shows and the replies that are received. -/
def eventOf (n : TimedNetwork ι) (a : TimedAct ι) : Event :=
  match a.event with
  | .packet data client env =>
    .packet data client { env with
      receiveTime := clocks.reading a.server a.arrived
      transmitTime := clocks.reading a.server a.left }
  | .sync world now => .sync (fun k => n.queryEnv clocks a k (world k)) now
  | e => e

/-- The root distance of a server at a later instant. -/
def distanceAt (n : TimedNetwork ι) (i : ι) (t : Int) : ℚ :=
  n.distance i + clocks.rate * (t - n.since i)

/-- The reply an event sends. -/
def replies (n : TimedNetwork ι) (a : TimedAct ι) :
    Option (Verdict × Option Bytes) → List (TimedReply ι)
  | some (_, some reply) =>
    [⟨a.server, reply, a.arrived, a.left, n.distanceAt clocks a.server a.left⟩]
  | _ => []

/-- The root distance with which an answer is committed: that of the reply, half the
delay that was measured, the drift while the query waited, and 4 µs for what the
stamps and the division lose. -/
def distanceOf (m : TimedReply ι) (d : Delivery) (delayUs : Int) : ℚ :=
  m.distance + 500 * delayUs + clocks.rate * (d.received - d.stamped) + 4000

/-- The commit of an answer. -/
def commit [DecidableEq ι] (n : TimedNetwork ι) (a : TimedAct ι) :
    Option (Nat × UpstreamSyncResult) → TimedNetwork ι
  | none => n
  | some (k, result) =>
    match n.received a k with
    | none => n
    | some (m, _) =>
      { n with
        distance := Function.update n.distance a.server
          (distanceOf clocks m (a.deliveries k) result.delayUs)
        since := Function.update n.since a.server (a.deliveries k).received }

/-- One event of a server. -/
def step [DecidableEq ι] (evp : Evp) (n : TimedNetwork ι) (a : TimedAct ι) :
    Except Exn (TimedNetwork ι) :=
  match (n.servers a.server).stepWith NtpServer.captured evp (n.eventOf clocks a) with
  | .error exn => .error exn
  | .ok (s, out) => .ok
      { n.commit clocks a ((n.servers a.server).committed (n.eventOf clocks a)) with
        servers := Function.update n.servers a.server s
        sent := n.sent ++ n.replies clocks a out }

/-- The network after some events. -/
def run [DecidableEq ι] (evp : Evp) (n : TimedNetwork ι) (acts : List (TimedAct ι)) :
    Except Exn (TimedNetwork ι) :=
  acts.foldlM (step clocks evp) n

/-- A reading at which a server stamps a reply can be told, with the offset too. -/
def Tellable (n : TimedNetwork ι) (i : ι) (t : Int) : Prop :=
  Servable (clocks.reading i t) ∧
    Servable (clocks.reading i t + (n.servers i).clockOffsetUs * 1000)

instance instDecidableTellable (n : TimedNetwork ι) (i : ι) (t : Int) :
    Decidable (n.Tellable clocks i t) :=
  inferInstanceAs (Decidable (_ ∧ _))

/-- A reply is stamped after what its server has committed, and in order. -/
def StampsInOrder (n : TimedNetwork ι) (a : TimedAct ι) : Event → Prop
  | .packet _ _ _ =>
    n.since a.server ≤ a.arrived ∧ a.arrived ≤ a.left ∧
      n.Tellable clocks a.server a.arrived ∧ n.Tellable clocks a.server a.left
  | _ => True

instance instDecidableStampsInOrder (n : TimedNetwork ι) (a : TimedAct ι) :
    (e : Event) → Decidable (n.StampsInOrder clocks a e)
  | .packet _ _ _ => inferInstanceAs (Decidable (_ ∧ _ ∧ _ ∧ _))
  | .sync _ _ | .reload _ _ | .cleanup => isTrue trivial

/-- The instants of an event are in order: a reply is stamped after what its server has
committed, and an answer that is committed was stamped while the query waited. -/
def Timely (n : TimedNetwork ι) (a : TimedAct ι) : Prop :=
  n.StampsInOrder clocks a a.event ∧
    ∀ q ∈ (n.servers a.server).committed (n.eventOf clocks a),
      ∀ r ∈ n.received a q.1, (a.deliveries q.1).WaitsFor clocks a.server r.1

instance instDecidableTimely (n : TimedNetwork ι) (a : TimedAct ι) :
    Decidable (n.Timely clocks a) :=
  inferInstanceAs (Decidable (_ ∧ _))

end Definitions

/-! ## One event -/

variable {clocks : Clocks ι} {n n' : TimedNetwork ι} {a : TimedAct ι} {evp : Evp}

/-- **One event**, with the server it is one of. -/
theorem step_cases [DecidableEq ι] (h : n.step clocks evp a = .ok n') :
    ∃ s out, (n.servers a.server).stepWith NtpServer.captured evp (n.eventOf clocks a)
        = .ok (s, out) ∧
      n' = { n.commit clocks a ((n.servers a.server).committed (n.eventOf clocks a)) with
        servers := Function.update n.servers a.server s
        sent := n.sent ++ n.replies clocks a out } := by
  unfold step at h
  cases hstep : (n.servers a.server).stepWith NtpServer.captured evp (n.eventOf clocks a) with
  | error exn =>
    rw [hstep] at h
    cases h
  | ok r =>
    rw [hstep] at h
    cases h
    exact ⟨r.1, r.2, rfl, rfl⟩

/-! ## The error along a run -/

/-- **One exchange**: a server that commits the answer computed from a reply its query
has waited for is in error by the root distance of the answer at most. -/
theorem commit_error {i : ι} {d : Delivery} {m : TimedReply ι} {offsetUs : Int}
    (hm : m.Tells clocks offsetUs) (hwaits : d.WaitsFor clocks i m) :
    |(clocks.error i (NtpPacketHandler.calculateOffset
        (fromSystemTime (clocks.reading i d.stamped)) (NtpPacket.decode m.datagram).receiveTs
        (NtpPacket.decode m.datagram).transmitTs
        (fromSystemTime (clocks.reading i d.received)) * 1000) d.received : ℚ)|
      ≤ distanceOf clocks m d (NtpPacketHandler.calculateRoundTripDelay
        (fromSystemTime (clocks.reading i d.stamped)) (NtpPacket.decode m.datagram).receiveTs
        (NtpPacket.decode m.datagram).transmitTs
        (fromSystemTime (clocks.reading i d.received))) := by
  obtain ⟨hasked, hreceived, hera1, hera4⟩ := hwaits
  rw [NtpPacketHandler.calculateOffset_eq, NtpPacketHandler.calculateRoundTripDelay_eq]
  generalize hm1 : (fromSystemTime (clocks.reading i d.stamped)).micros = micros1
  generalize hm4 : (fromSystemTime (clocks.reading i d.received)).micros = micros4
  have h1 := Exchange.micros_error hera1
  have h4 := Exchange.micros_error hera4
  obtain ⟨h2, h2'⟩ := hm.receiveTs
  obtain ⟨h3, h3'⟩ := hm.transmitTs
  rw [hm1] at h1
  rw [hm4] at h4
  let x : Clocks.Stamps clocks i m.sender (offsetUs * 1000) d.stamped m.arrived m.left
      d.received 1000 2000 :=
    { t1 := (micros1 * 1000 : ℤ)
      t2 := ((NtpPacket.decode m.datagram).receiveTs.micros * 1000 : ℤ)
      t3 := ((NtpPacket.decode m.datagram).transmitTs.micros * 1000 : ℤ)
      t4 := (micros4 * 1000 : ℤ)
      asked := hasked
      answered := hm.inOrder
      received := hreceived
      t1_loss := ⟨by exact_mod_cast (by omega), by exact_mod_cast (by omega)⟩
      t4_loss := ⟨by exact_mod_cast (by omega), by exact_mod_cast (by omega)⟩
      t2_loss := ⟨by exact_mod_cast h2, by exact_mod_cast h2'⟩
      t3_loss := ⟨by exact_mod_cast h3, by exact_mod_cast h3'⟩ }
  have hhalf := Exchange.tdiv_two_error
    (((NtpPacket.decode m.datagram).receiveTs.micros - micros1)
      + ((NtpPacket.decode m.datagram).transmitTs.micros - micros4))
  generalize hhalved : (((NtpPacket.decode m.datagram).receiveTs.micros - micros1)
      + ((NtpPacket.decode m.datagram).transmitTs.micros - micros4)).tdiv 2 = half at hhalf ⊢
  have hrounding : |2 * ((half * 1000 : ℤ) : ℚ) - x.twiceOffset| ≤ 1000 := by
    have hlow : (-1 : ℚ) ≤ half * 2 - (((NtpPacket.decode m.datagram).receiveTs.micros - micros1)
        + ((NtpPacket.decode m.datagram).transmitTs.micros - micros4)) := by
      exact_mod_cast hhalf.1
    have hhigh : (half * 2 - (((NtpPacket.decode m.datagram).receiveTs.micros - micros1)
        + ((NtpPacket.decode m.datagram).transmitTs.micros - micros4)) : ℚ) ≤ 1 := by
      exact_mod_cast hhalf.2
    unfold Clocks.Stamps.twiceOffset
    dsimp only [x]
    push_cast
    exact abs_le.mpr ⟨by linarith, by linarith⟩
  refine (x.error_of_exchange (by norm_num) hrounding hm.arrived hm.left).trans (le_of_eq ?_)
  unfold distanceOf Clocks.Stamps.delay
  dsimp only [x]
  push_cast
  ring

variable (clocks) in
/-- No server is in error by more than its root distance, and no reply that was sent. -/
structure Bounded (n : TimedNetwork ι) : Prop where
  clock : ∀ i, |(clocks.error i ((n.servers i).clockOffsetUs * 1000) (n.since i) : ℚ)|
    ≤ n.distance i
  sent : ∀ m ∈ n.sent, ∃ offsetUs, m.Tells clocks offsetUs

/-- A server that has just been started tells its own clock. -/
theorem Bounded.start (c : ι → NtpConfig) (logger : ι → LoggerSettings) (t : Int) :
    (TimedNetwork.start clocks c logger t).Bounded clocks where
  clock i := by
    have hzero : ((TimedNetwork.start clocks c logger t).servers i).clockOffsetUs = 0 := by
      unfold TimedNetwork.start NtpServer.start NtpServer.clockOffsetUs
      dsimp only
      split
      · rfl
      · rename_i m hm
        split at hm
        · cases hm
        · cases hm
          rfl
    rw [hzero]
    simp [Clocks.error, TimedNetwork.start]
  sent _ hm := nomatch hm

/-- The reply a query receives was sent. -/
theorem mem_of_received {k : Nat} {m : TimedReply ι} {sender : SockAddr}
    (h : n.received a k = some (m, sender)) : m ∈ n.sent := by
  obtain ⟨d, -, hd⟩ := Option.bind_eq_some_iff.mp h
  obtain ⟨m', hm', heq⟩ := Option.map_eq_some_iff.mp hd
  cases heq
  exact List.mem_of_getElem? hm'

/-- What a round commits is computed from a reply its query has received. -/
theorem received_of_chosen {r : SyncRound} {q : Str × Nat}
    (hevent : n.eventOf clocks a = .sync r.world r.now) (hchosen : r.chosen = some q) :
    ∃ m sender, n.received a q.2 = some (m, sender) ∧
      (r.query q).offsetUs = NtpPacketHandler.calculateOffset
        (fromSystemTime (clocks.reading a.server (a.deliveries q.2).stamped))
        (NtpPacket.decode m.datagram).receiveTs (NtpPacket.decode m.datagram).transmitTs
        (fromSystemTime (clocks.reading a.server (a.deliveries q.2).received)) ∧
      (r.query q).delayUs = NtpPacketHandler.calculateRoundTripDelay
        (fromSystemTime (clocks.reading a.server (a.deliveries q.2).stamped))
        (NtpPacket.decode m.datagram).receiveTs (NtpPacket.decode m.datagram).transmitTs
        (fromSystemTime (clocks.reading a.server (a.deliveries q.2).received)) := by
  obtain ⟨response, hreply, hoffset, hdelay⟩ := NtpServer.reply_of_chosen hchosen
  -- the query is one that reads the server's clock
  have hworld : ∃ env, r.world q.2 = n.queryEnv clocks a q.2 env := by
    unfold eventOf at hevent
    split at hevent
    · cases hevent
    · rename_i world now heq
      injection hevent with hworld
      exact ⟨world q.2, (congrFun hworld q.2).symm⟩
    · rename_i hno
      exact absurd hevent (hno _ _)
  obtain ⟨env, henv⟩ := hworld
  rw [henv] at hreply hoffset hdelay
  unfold QueryEnv.reply at hreply
  split at hreply
  · rename_i datagram sender htarget hdatagram
    obtain ⟨⟨m, address⟩, hreceived, hpair⟩ := Option.map_eq_some_iff.mp hdatagram
    cases hpair
    rw [(acceptReply_eq_some_iff.mp hreply).2.2.2] at hoffset hdelay
    exact ⟨m, address, hreceived, hoffset, hdelay⟩
  · cases hreply

/-- **The reply of an event** tells its server's time. -/
theorem Bounded.reply (h : n.Bounded clocks) (htimely : n.Timely clocks a) {s : NtpServer}
    {out : Option (Verdict × Option Bytes)}
    (hserver : (n.servers a.server).stepWith NtpServer.captured evp (n.eventOf clocks a)
      = .ok (s, out)) {m : TimedReply ι} (hm : m ∈ n.replies clocks a out) :
    ∃ offsetUs, m.Tells clocks offsetUs := by
  unfold replies at hm
  split at hm
  · rename_i verdict reply
    rw [List.mem_singleton.mp hm]
    have hin := htimely.1
    unfold eventOf at hserver
    split at hserver
    · rename_i data client env hevent
      rw [hevent] at hin
      obtain ⟨hsince, hinOrder, harrived, hleft⟩ := hin
      obtain ⟨p, hp, -, hout⟩ := NtpServer.stepWith_packet hserver
      obtain ⟨-, hreply⟩ := Prod.mk.inj (Option.some.inj hout)
      obtain ⟨request, -, hdecode⟩ := NtpServer.decode_reply hp hreply.symm
      refine ⟨(n.servers a.server).clockOffsetUs, hinOrder, ?_, ?_, ?_, ?_⟩
      · refine (Clocks.error_le hsince (h.clock a.server)).trans ?_
        exact add_le_add le_rfl (Clocks.drift_mono hinOrder)
      · exact Clocks.error_le (hsince.trans hinOrder) (h.clock a.server)
      · have hloss := served_micros harrived.1 harrived.2
        rw [hdecode, NtpServer.replyPacket_receiveTs]
        dsimp only
        unfold Clocks.reading at hloss
        unfold Clocks.error Clocks.reading
        omega
      · have hloss := served_micros hleft.1 hleft.2
        have htransmitTs := NtpServer.replyPacket_transmitTs (n.servers a.server) request
          { env with
            receiveTime := clocks.reading a.server a.arrived
            transmitTime := clocks.reading a.server a.left }
        rw [← servedTimestamp] at htransmitTs
        rw [hdecode, htransmitTs]
        dsimp only
        unfold Clocks.reading at hloss
        unfold Clocks.error Clocks.reading
        omega
    · cases hserver
    · rename_i hpacket hsync
      cases hevent : a.event with
      | packet data client env => exact absurd hevent (hpacket data client env)
      | sync world now => exact absurd hevent (hsync world now)
      | reload getenv file =>
        rw [hevent] at hserver
        cases hserver
      | cleanup =>
        rw [hevent] at hserver
        cases hserver
  · cases hm

/-- What a reply tells is away from the true instant by its error and what is lost. -/
theorem tells_error {m : TimedReply ι} {ts : NtpTimestamp} {t error : Int}
    (herror : |(error : ℚ)| ≤ m.distance) (hearly : 0 ≤ t + error - ts.micros * 1000)
    (hloss : t + error - ts.micros * 1000 ≤ 2000) :
    |((ts.toSystemTime - t : ℤ) : ℚ)| ≤ m.distance + 2000 := by
  have hbound := abs_le.mp herror
  have hearly' : (0 : ℚ) ≤ t + error - ts.micros * 1000 := by exact_mod_cast hearly
  have hloss' : (t + error - ts.micros * 1000 : ℚ) ≤ 2000 := by exact_mod_cast hloss
  rw [toSystemTime_eq]
  push_cast
  exact abs_le.mpr ⟨by linarith, by linarith⟩

section Steps

variable [DecidableEq ι]

/-- **One event keeps the bounds.** -/
theorem Bounded.step (h : n.Bounded clocks) (htimely : n.Timely clocks a)
    (hstep : n.step clocks evp a = .ok n') : n'.Bounded clocks := by
  obtain ⟨s, out, hserver, rfl⟩ := step_cases hstep
  have hsent : ∀ m ∈ n.sent ++ n.replies clocks a out, ∃ offsetUs, m.Tells clocks offsetUs := by
    intro m hm
    rcases List.mem_append.mp hm with hold | hnew
    · exact h.sent m hold
    · exact h.reply htimely hserver hnew
  rcases NtpServer.stepWith_commit hserver with ⟨hnone, hstay⟩ | ⟨r, q, hevent, hchosen, hcommit,
    hmanager⟩
  · -- nothing is committed, and the offset is what it was
    have hoffset : s.clockOffsetUs = (n.servers a.server).clockOffsetUs := by
      unfold NtpServer.clockOffsetUs
      rw [hstay]
    rw [hnone]
    refine ⟨fun i => ?_, hsent⟩
    by_cases hi : i = a.server
    · subst hi
      dsimp only [commit]
      rw [Function.update_self, hoffset]
      exact h.clock a.server
    · dsimp only [commit]
      rw [Function.update_of_ne hi]
      exact h.clock i
  · obtain ⟨m, sender, hreceived, hoffset, hdelay⟩ := received_of_chosen hevent hchosen
    obtain ⟨offsetUs, htells⟩ := h.sent m (mem_of_received hreceived)
    have hwaits := htimely.2 _ hcommit _ hreceived
    rw [hcommit]
    unfold commit
    dsimp only
    rw [hreceived]
    refine ⟨fun i => ?_, hsent⟩
    by_cases hi : i = a.server
    · subst hi
      have hserved : s.clockOffsetUs = (r.query q).offsetUs := by
        unfold NtpServer.clockOffsetUs
        rw [hmanager]
        rfl
      dsimp only
      rw [Function.update_self, Function.update_self, Function.update_self, hserved, hoffset,
        hdelay]
      exact commit_error htells hwaits
    · dsimp only
      rw [Function.update_of_ne hi, Function.update_of_ne hi, Function.update_of_ne hi]
      exact h.clock i

open Runs in
/-- Where the instants of a run are in order, the run keeps the bounds. -/
theorem Bounded.run {acts : List (TimedAct ι)} (h : n.Bounded clocks)
    (htimely : EveryStep (TimedNetwork.step clocks evp) (fun n a _ => n.Timely clocks a) n acts)
    (hrun : n.run clocks evp acts = .ok n') : n'.Bounded clocks := by
  refine foldlM_of_everyStep ?_ h htimely hrun
  intro n a n' hbounded hstep htimelyStep
  exact hbounded.step htimelyStep hstep

open Runs in
/-- **The error of the clocks.** In every run of servers that take their time from each
other, with the instants in order, the time of every server is away from true time by
its root distance at most, from the last commit on, and so is what every reply tells,
up to 2 µs. -/
theorem clock_errors (clocks : Clocks ι) (evp : Evp) (c : ι → NtpConfig)
    (logger : ι → LoggerSettings) (t : Int) (acts : List (TimedAct ι)) (n : TimedNetwork ι)
    (hrun : (TimedNetwork.start clocks c logger t).run clocks evp acts = .ok n)
    (htimely : EveryStep (TimedNetwork.step clocks evp) (fun n a _ => n.Timely clocks a)
      (TimedNetwork.start clocks c logger t) acts) :
    (∀ i t', n.since i ≤ t' →
      |(clocks.error i ((n.servers i).clockOffsetUs * 1000) t' : ℚ)| ≤ n.distanceAt clocks i t') ∧
    ∀ m ∈ n.sent,
      |(((NtpPacket.decode m.datagram).receiveTs.toSystemTime - m.arrived : ℤ) : ℚ)|
        ≤ m.distance + 2000 ∧
      |(((NtpPacket.decode m.datagram).transmitTs.toSystemTime - m.left : ℤ) : ℚ)|
        ≤ m.distance + 2000 := by
  have hbounded := (Bounded.start c logger t).run htimely hrun
  constructor
  · intro i t' hlater
    exact Clocks.error_le hlater (hbounded.clock i)
  · intro m hm
    obtain ⟨offsetUs, htells⟩ := hbounded.sent m hm
    exact ⟨tells_error htells.arrived htells.receiveTs.1 htells.receiveTs.2,
      tells_error htells.left htells.transmitTs.1 htells.transmitTs.2⟩

end Steps

/-- Two clocks that do not drift, the second one three seconds fast. -/
def fastClock : Clocks Bool where
  ahead i _ := if i then 3000000000 else 0
  rate := 0
  rate_nonneg := le_rfl
  drift _ _ _ _ := by simp

/-- The first server answers a request. -/
def timedAnswer : TimedAct Bool where
  server := false
  event := .packet exampleRequest exampleClient exampleEnv
  arrived := 5000000000
  left := 5000001000
  deliveries _ := ⟨0, 0, none⟩

/-- The second one has asked 10 ms before, and receives the answer 15 ms later. -/
def timedFollow : TimedAct Bool where
  server := true
  event := .sync (fun _ => silentQuery) 0
  arrived := 0
  left := 0
  deliveries _ := ⟨4990000000, 5015001000, some (0, exampleServer)⟩

/-- The two servers. -/
def clockPair : TimedNetwork Bool :=
  start fastClock (fun _ => followingConfig) (fun _ => NtpServer.loggerSettings followingConfig) 0

/-- The second server's clock is corrected by about three seconds, and in error by less than
13 ms. -/
theorem clock_errors_example :
    ∃ n, clockPair.run fastClock (fun _ _ => none) [timedAnswer, timedFollow] = .ok n ∧
      (n.servers true).clockOffsetUs = -3002499 ∧
      |(fastClock.error true (-3002499 * 1000) 5015001000 : ℚ)| ≤ 12504500 := by
  have hanswer : clockPair.Timely fastClock timedAnswer := by decide +kernel
  have hfollow : ((clockPair.step fastClock (fun _ _ => none) timedAnswer).map fun n =>
      decide (n.Timely fastClock timedFollow)).toOption = some true := by
    decide +kernel
  have hends : ((clockPair.run fastClock (fun _ _ => none) [timedAnswer, timedFollow]).map fun n =>
      ((n.servers true).clockOffsetUs, decide (n.since true ≤ 5015001000 ∧
        n.distanceAt fastClock true 5015001000 ≤ 12504500))).toOption = some (-3002499, true) := by
    decide +kernel
  obtain ⟨n, hrun, hboth⟩ := Runs.exists_of_toOption_map hends
  obtain ⟨hoffset, hbound⟩ := Prod.mk.inj hboth
  obtain ⟨hsince, hdistance⟩ := of_decide_eq_true hbound
  have htimely : Runs.EveryStep (TimedNetwork.step fastClock fun _ _ => none)
      (fun n a _ => n.Timely fastClock a) clockPair [timedAnswer, timedFollow] := by
    refine fun t ht => ⟨hanswer, fun t' _ => ⟨?_, trivial⟩⟩
    rw [ht] at hfollow
    exact of_decide_eq_true (Option.some.inj hfollow)
  have herror := (clock_errors _ _ _ _ _ _ n hrun htimely).1 true 5015001000 hsince
  rw [hoffset] at herror
  exact ⟨n, hrun, hoffset, herror.trans hdistance⟩

end TimedNetwork

end SimpleNtpd
