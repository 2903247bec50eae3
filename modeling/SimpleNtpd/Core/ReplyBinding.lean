import SimpleNtpd.Core.UpstreamSync

/-!
# Reply binding of upstream queries

A reply is bound to a query when it echoes the transmit timestamp of the request
and comes from the address and port the request was sent to. The documentation
lists source verification and replay protection among the response checks; the
query receives the sender's address and parses the originate timestamp, and
compares neither with anything.

`QueryEnv.Trustworthy` is the condition on the network under which that does no
harm, and `reply_binding` shows that it is exact for one query, and that over
runs whose queries all meet it the committed clock offset is always the one it
started with or that of a bound reply.
-/

namespace SimpleNtpd

open Cpp

/-- The datagram answers the request of this query: it carries the request's
transmit timestamp as its originate timestamp and comes from the address the
request was sent to. -/
def QueryEnv.Bound (env : QueryEnv) (datagram : Bytes) (sender : SockAddr) : Prop :=
  (NtpPacket.decode datagram).originateTs = env.request.transmitTs ∧ env.target = some sender

/-- A successful query took a bound datagram. -/
def ReplyBound (host : Str) (env : QueryEnv) : Prop :=
  (queryUpstreamServer host env).success = true →
    ∃ datagram sender, env.received = some (datagram, sender) ∧ env.Bound datagram sender

/-- Nothing is sent, nothing is received, or what is received is too short, not
a valid packet, not from a server, or bound. -/
def QueryEnv.Trustworthy (env : QueryEnv) : Prop :=
  env.target = none ∨ env.received = none ∨
    ∃ datagram sender, env.received = some (datagram, sender) ∧
      (datagram.length < ntpPacketSize ∨ (NtpPacket.decode datagram).isValid = false ∨
        (NtpPacket.decode datagram).mode ≠ NtpMode.server ∨ env.Bound datagram sender)

/-- One query is bound exactly when its environment is trustworthy. -/
theorem replyBound_iff_trustworthy (host : Str) (env : QueryEnv) :
    ReplyBound host env ↔ env.Trustworthy := by
  unfold ReplyBound QueryEnv.Trustworthy
  rw [queryUpstreamServer_success_iff]
  constructor
  · intro h
    by_cases htarget : env.target = none
    · exact .inl htarget
    · obtain ⟨target, htarget⟩ := Option.ne_none_iff_exists'.mp htarget
      cases hreceived : env.received with
      | none => exact .inr (.inl rfl)
      | some received =>
        obtain ⟨datagram, sender⟩ := received
        refine .inr (.inr ⟨datagram, sender, rfl, ?_⟩)
        -- a datagram that fails none of the three tests makes the query succeed
        by_contra hnone
        obtain ⟨hlen, hvalid, hmode, hbound⟩ : ntpPacketSize ≤ datagram.length ∧
            (NtpPacket.decode datagram).isValid = true ∧
            (NtpPacket.decode datagram).mode = NtpMode.server ∧ ¬env.Bound datagram sender := by
          simpa only [not_or, Nat.not_lt, Bool.not_eq_false, not_not] using hnone
        obtain ⟨d, s, heq, hd⟩ := h ⟨target, datagram, sender, _, htarget, hreceived,
          acceptReply_eq_some_iff.mpr ⟨hlen, hvalid, hmode, rfl⟩⟩
        rw [hreceived] at heq
        cases heq
        exact hbound hd
  · rintro h ⟨target, datagram, sender, response, htarget, hreceived, hreply⟩
    obtain ⟨hlen, hvalid, hmode, -⟩ := acceptReply_eq_some_iff.mp hreply
    rcases h with h | h | ⟨d, s, heq, hd⟩
    · rw [h] at htarget
      cases htarget
    · rw [h] at hreceived
      cases hreceived
    · rw [heq] at hreceived
      cases hreceived
      refine ⟨datagram, sender, heq, ?_⟩
      rcases hd with hd | hd | hd | hd
      · exact absurd hlen (Nat.not_le.mpr hd)
      · rw [hvalid] at hd
        cases hd
      · exact absurd hmode hd
      · exact hd

/-! ## Runs -/

/-- One call of `syncOnce`: the configured servers, what happens during their
queries, and the clock when the answer is committed. -/
structure SyncRound where
  servers : List Str
  world : Nat → QueryEnv
  now : Int

/-- The manager after some rounds. -/
def UpstreamSyncManager.run (m : UpstreamSyncManager) (rounds : List SyncRound) :
    UpstreamSyncManager :=
  rounds.foldl (fun m r => (m.syncOnce r.servers r.world r.now).1) m

/-- The offset `offset` was computed in this round from a bound datagram. -/
def SyncRound.OffsetFromBound (r : SyncRound) (offset : Int) : Prop :=
  ∃ host i, (host, i) ∈ r.servers.zipIdx ∧ (queryUpstreamServer host (r.world i)).success = true ∧
    offset = (queryUpstreamServer host (r.world i)).offsetUs ∧
    ∃ datagram sender, (r.world i).received = some (datagram, sender) ∧
      (r.world i).Bound datagram sender

/-- Every query of the round is trustworthy. -/
def SyncRound.Trustworthy (r : SyncRound) : Prop :=
  ∀ i < r.servers.length, (r.world i).Trustworthy

/-- A trustworthy round keeps the offset or commits that of a bound reply. -/
theorem SyncRound.offset_cases {r : SyncRound} (h : r.Trustworthy) (m : UpstreamSyncManager) :
    (m.syncOnce r.servers r.world r.now).1.clockOffsetUs = m.clockOffsetUs ∨
      r.OffsetFromBound (m.syncOnce r.servers r.world r.now).1.clockOffsetUs := by
  rcases m.syncOnce_cases r.servers r.world r.now with hsame | ⟨host, i, hmem, hsuccess, hoffset⟩
  · exact .inl (by rw [hsame])
  · have hlt : i < r.servers.length := by
      have hi := List.snd_lt_of_mem_zipIdx hmem
      omega
    exact .inr ⟨host, i, hmem, hsuccess, hoffset,
      (replyBound_iff_trustworthy host (r.world i)).mpr (h i hlt) hsuccess⟩

/-- Over trustworthy rounds, induction on the run: the last round either keeps
the offset of the run before it or commits one of its own. -/
theorem UpstreamSyncManager.run_offset_cases {rounds : List SyncRound}
    (h : ∀ r ∈ rounds, r.Trustworthy) (m : UpstreamSyncManager) :
    (m.run rounds).clockOffsetUs = m.clockOffsetUs ∨
      ∃ r ∈ rounds, r.OffsetFromBound (m.run rounds).clockOffsetUs := by
  induction rounds using List.reverseRecOn with
  | nil => exact .inl rfl
  | append_singleton rounds r ih =>
    have hrun : m.run (rounds ++ [r]) = ((m.run rounds).syncOnce r.servers r.world r.now).1 := by
      rw [run, run, List.foldl_append]
      rfl
    rw [hrun]
    have hmem : r ∈ rounds ++ [r] := List.mem_append_right _ List.mem_cons_self
    rcases SyncRound.offset_cases (h r hmem) (m.run rounds) with hsame | hnew
    · rw [hsame]
      rcases ih fun q hq => h q (List.mem_append_left _ hq) with hinit | ⟨q, hq, hbound⟩
      · exact .inl hinit
      · exact .inr ⟨q, List.mem_append_left _ hq, hbound⟩
    · exact .inr ⟨r, hmem, hnew⟩

/-- **Reply binding.** For every query, whatever is received from whomever: a
success comes from a bound datagram exactly when the environment is
trustworthy. For every run of rounds whose queries are: the committed offset is
the initial one or that of a bound datagram. -/
theorem reply_binding (host : Str) (env : QueryEnv) (rounds : List SyncRound)
    (m : UpstreamSyncManager) :
    (ReplyBound host env ↔ env.Trustworthy) ∧
    ((∀ r ∈ rounds, r.Trustworthy) →
      (m.run rounds).clockOffsetUs = m.clockOffsetUs ∨
        ∃ r ∈ rounds, r.OffsetFromBound (m.run rounds).clockOffsetUs) :=
  ⟨replyBound_iff_trustworthy host env, m.run_offset_cases⟩

/-- A server at 192.0.2.1. -/
def exampleServer : SockAddr := ⟨0xC0000201, 123⟩

/-- A query at the epoch that receives the given datagram. -/
def exampleQuery (datagram : Bytes) (sender : SockAddr) : QueryEnv where
  resolved := some [⟨true, exampleServer, true⟩]
  socketOk := true
  requestTime := 0
  received := some (datagram, sender)
  replyTime := 0

/-- The server's reply to that query, one second ahead. -/
def exampleReply : Bytes :=
  (NtpPacket.createServerResponse (.createClientRequest 0) 1 (lit "GPS ") 1000000000 1000000000
    1000000000).serializeToData

/-- A reply to nobody in particular. -/
def forgedReply : Bytes :=
  (NtpPacket.createServerResponse .new 1 (lit "GPS ") 1000000000 1000000000
    1000000000).serializeToData

/-- A round that receives the genuine reply. -/
def exampleRound : SyncRound := ⟨[lit "a"], fun _ => exampleQuery exampleReply exampleServer, 0⟩

/-- The round with the genuine reply commits the offset of a bound datagram, one second. -/
theorem reply_binding_example :
    (UpstreamSyncManager.run {} [exampleRound]).clockOffsetUs = 1000000 ∧
      ((UpstreamSyncManager.run {} [exampleRound]).clockOffsetUs = 0 ∨
        ∃ r ∈ [exampleRound],
          r.OffsetFromBound (UpstreamSyncManager.run {} [exampleRound]).clockOffsetUs) := by
  refine ⟨by decide +kernel, (reply_binding (lit "a") (exampleQuery exampleReply exampleServer)
    [exampleRound] {}).2 fun r hr i _ => ?_⟩
  rw [List.mem_singleton.mp hr]
  show (exampleQuery exampleReply exampleServer).Trustworthy
  exact .inr (.inr ⟨_, _, rfl, .inr (.inr (.inr ⟨by decide +kernel, by decide⟩))⟩)

/-- A reply to nobody, from 198.51.100.7, is accepted. -/
theorem forged_reply_accepted : ¬ ∀ host env, ReplyBound host env := by
  intro h
  have hsuccess : (queryUpstreamServer (lit "a")
      (exampleQuery forgedReply ⟨0xC6336407, 123⟩)).success = true := by
    decide +kernel
  obtain ⟨datagram, sender, heq, -, htarget⟩ := h _ _ hsuccess
  cases heq
  exact absurd htarget (by decide)

end SimpleNtpd
