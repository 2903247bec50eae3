import SimpleNtpd.Core.TimestampCodec
import SimpleNtpd.Core.WellFormedReplies

/-!
# The order of the timestamps in a reply

`createServerResponse` reads the clock for the receive, the transmit and, last,
the reference timestamp. A clock offset then moves the first two. So whether the
reference timestamp, which tells when the clock was last set, lies at or before
the transmit timestamp is a matter of the readings and the offset
(`ReferenceFirst`): in the era, timestamps are ordered as the readings they are
made from.
-/

namespace SimpleNtpd

open Cpp

open NtpTimestamp

/-! ## The timestamps of a reply -/

namespace NtpServer

/-- The offset the sync manager holds; none is as good as zero. -/
def clockOffsetUs (s : NtpServer) : Int :=
  match s.upstreamSync with
  | none => 0
  | some m => m.clockOffsetUs

/-- A reply is moved by the offset. -/
theorem applyClockOffset_eq (s : NtpServer) (response : NtpPacket) :
    applyClockOffset s.upstreamSync response =
      if s.clockOffsetUs = 0 then response
      else { response with
        receiveTs := response.receiveTs.shift s.clockOffsetUs
        transmitTs := response.transmitTs.shift s.clockOffsetUs } := by
  unfold applyClockOffset clockOffsetUs
  cases s.upstreamSync with
  | none => rfl
  | some m => exact ite_not _ _ _

theorem replyPacket_referenceTs (s : NtpServer) (request : NtpPacket) (env : PacketEnv) :
    (s.replyPacket request env).referenceTs = fromSystemTime env.referenceTime := by
  rw [replyPacket, applyClockOffset_eq]
  split <;> rfl

theorem replyPacket_transmitTs (s : NtpServer) (request : NtpPacket) (env : PacketEnv) :
    (s.replyPacket request env).transmitTs
      = if s.clockOffsetUs = 0 then fromSystemTime env.transmitTime
        else (fromSystemTime env.transmitTime).shift s.clockOffsetUs := by
  rw [replyPacket, applyClockOffset_eq]
  split <;> rfl

/-- The clock has been read for the reference timestamp no later than the time
the transmit timestamp tells. -/
def ReferenceFirst (s : NtpServer) (env : PacketEnv) : Prop :=
  if s.clockOffsetUs = 0 then env.referenceTime ≤ env.transmitTime
  else env.referenceTime ≤ readBack env.transmitTime + s.clockOffsetUs * 1000

instance instDecidableReferenceFirst (s : NtpServer) (env : PacketEnv) :
    Decidable (s.ReferenceFirst env) :=
  inferInstanceAs (Decidable (if s.clockOffsetUs = 0 then _ else _))

end NtpServer

/-- **When the timestamps of a reply are in causal order.** For every state of
the server and every datagram that is answered, with the readings and the adjusted
transmit time in the era: the reply has its reference timestamp at or before its
transmit timestamp exactly when the reading for the first was taken no later than
the time the second tells. Without an offset, and as the clock does not go back,
this is when both readings are the same. -/
theorem causal_order_iff (evp : Evp) (s : NtpServer) (data : Bytes) (client : SockAddr)
    (env : PacketEnv) (p : Processed) (reply : Bytes)
    (h : s.processPacket evp data client env = .ok p) (hreply : p.reply = some reply)
    (htransmit : InEra env.transmitTime) (hreference : InEra env.referenceTime)
    (hadjusted : InEra (readBack env.transmitTime + s.clockOffsetUs * 1000)) :
    (NtpPacket.decode reply).referenceTs ≤ (NtpPacket.decode reply).transmitTs ↔
      s.ReferenceFirst env := by
  obtain ⟨request, -, hdecode⟩ := NtpServer.decode_reply h hreply
  rw [hdecode, NtpServer.replyPacket_referenceTs, NtpServer.replyPacket_transmitTs,
    NtpServer.ReferenceFirst]
  split
  · exact fromSystemTime_le_iff hreference htransmit
  · rw [NtpTimestamp.shift, toSystemTime_fromSystemTime_eq htransmit]
    exact fromSystemTime_le_iff hreference hadjusted

/-- A reply built within a nanosecond. -/
theorem causal_order_example :
    ∃ p reply, defaultServer.processPacket (fun _ _ => none) exampleRequest exampleClient
        exampleEnv = .ok p ∧ p.reply = some reply ∧
      ((NtpPacket.decode reply).referenceTs ≤ (NtpPacket.decode reply).transmitTs ↔
        defaultServer.ReferenceFirst exampleEnv) := by
  have hanswered : ((defaultServer.processPacket (fun _ _ => none) exampleRequest exampleClient
      exampleEnv).map (·.reply.isSome)).toOption = some true := by
    decide +kernel
  obtain ⟨p, hp, hsome⟩ := Runs.exists_of_toOption_map hanswered
  obtain ⟨reply, hreply⟩ := Option.isSome_iff_exists.mp hsome
  exact ⟨p, reply, hp, hreply, causal_order_iff _ _ _ _ _ p reply hp hreply (by decide)
    (by decide) (by decide)⟩

/-- The clock ticks between the second and the third reading. -/
def tickingEnv : PacketEnv := { exampleEnv with referenceTime := 1000000001 }

/-- The timestamps of the reply to a client's request. -/
def repliedInOrder (p : Processed) : Option Bool :=
  p.reply.map fun reply => decide
    ((NtpPacket.decode reply).referenceTs ≤ (NtpPacket.decode reply).transmitTs)

/-- A server without upstream servers tells that its clock was set a nanosecond
after the reply left. -/
theorem reference_after_transmit :
    ¬ ∀ (evp : Evp) (s : NtpServer) (data : Bytes) (client : SockAddr) (env : PacketEnv)
      (p : Processed) (reply : Bytes),
      s.processPacket evp data client env = .ok p → p.reply = some reply →
      env.receiveTime ≤ env.transmitTime → env.transmitTime ≤ env.referenceTime →
      InEra env.receiveTime → InEra env.transmitTime → InEra env.referenceTime →
      InEra (readBack env.receiveTime + s.clockOffsetUs * 1000) →
      InEra (readBack env.transmitTime + s.clockOffsetUs * 1000) →
      (NtpPacket.decode reply).referenceTs ≤ (NtpPacket.decode reply).transmitTs := by
  intro h
  have hlate : ((defaultServer.processPacket (fun _ _ => none) exampleRequest exampleClient
      tickingEnv).map repliedInOrder).toOption = some (some false) := by
    decide +kernel
  obtain ⟨p, hp, hordered⟩ := Runs.exists_of_toOption_map hlate
  obtain ⟨reply, hreply, hfalse⟩ := Option.map_eq_some_iff.mp hordered
  exact of_decide_eq_false hfalse (h _ _ _ _ _ p reply hp hreply (by decide) (by decide)
    (by decide) (by decide) (by decide) (by decide) (by decide))

end SimpleNtpd
