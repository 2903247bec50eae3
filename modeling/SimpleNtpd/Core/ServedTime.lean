import SimpleNtpd.Core.CausalOrder

/-!
# The time a reply tells

The receive and transmit timestamps of a reply are readings of the clock, encoded;
with a clock offset they are decoded, moved and encoded again. Both ways the instant
a timestamp denotes is the reading with the offset, less at most 1001 ns
(`served_bounds`), and two readings keep their order (`served_mono`).
-/

namespace SimpleNtpd

open NtpTimestamp

/-- At least a second behind 1970, and in the era: decoding what has been encoded does
not lead out of the era. -/
def Servable (time : Int) : Prop := 1000000000 ≤ time ∧ time < 2085978496 * 1000000000

instance instDecidableServable (time : Int) : Decidable (Servable time) :=
  inferInstanceAs (Decidable (1000000000 ≤ time ∧ time < 2085978496 * 1000000000))

theorem Servable.inEra {time : Int} (h : Servable time) : InEra time :=
  ⟨by have := h.1; omega, h.2⟩

/-- The timestamp a reading is told with, under a clock offset. -/
def servedTimestamp (offsetUs time : Int) : NtpTimestamp :=
  if offsetUs = 0 then fromSystemTime time else (fromSystemTime time).shift offsetUs

theorem NtpServer.replyPacket_receiveTs (s : NtpServer) (request : NtpPacket) (env : PacketEnv) :
    (s.replyPacket request env).receiveTs = servedTimestamp s.clockOffsetUs env.receiveTime := by
  rw [replyPacket, applyClockOffset_eq, servedTimestamp]
  split <;> rfl

section

variable {offsetUs time time' : Int}

/-- What has been encoded and decoded can be moved, and is in the era again. -/
theorem inEra_shifted (h : Servable time) (hmoved : Servable (time + offsetUs * 1000)) :
    InEra ((fromSystemTime time).toSystemTime + offsetUs * 1000) := by
  obtain ⟨hlow, hhigh⟩ := toSystemTime_fromSystemTime h.inEra
  have hmin := hmoved.1
  have hmax := hmoved.2
  exact ⟨by omega, by omega⟩

/-- **One timestamp.** -/
theorem served_bounds (h : Servable time) (hmoved : Servable (time + offsetUs * 1000)) :
    0 ≤ ((time + offsetUs * 1000 : ℤ) : ℚ) - (servedTimestamp offsetUs time).instant ∧
      ((time + offsetUs * 1000 : ℤ) : ℚ) - (servedTimestamp offsetUs time).instant ≤ 1001 := by
  unfold servedTimestamp
  split
  · rename_i hzero
    obtain ⟨hle, hlt⟩ := instant_fromSystemTime h.inEra
    rw [hzero, Int.zero_mul, Int.add_zero]
    constructor
    · linarith
    · linarith
  · -- a microsecond is lost by decoding, and less than a nanosecond by encoding again
    obtain ⟨hlow, hhigh⟩ := toSystemTime_fromSystemTime h.inEra
    obtain ⟨hle, hlt⟩ := instant_fromSystemTime (inEra_shifted h hmoved)
    have hlow' : ((time + offsetUs * 1000 : ℤ) : ℚ) - 1000
        ≤ ((fromSystemTime time).toSystemTime + offsetUs * 1000 : ℤ) := by
      exact_mod_cast (by omega : time + offsetUs * 1000 - 1000
        ≤ (fromSystemTime time).toSystemTime + offsetUs * 1000)
    have hhigh' : (((fromSystemTime time).toSystemTime + offsetUs * 1000 : ℤ) : ℚ)
        ≤ (time + offsetUs * 1000 : ℤ) := by
      exact_mod_cast (by omega : (fromSystemTime time).toSystemTime + offsetUs * 1000
        ≤ time + offsetUs * 1000)
    rw [shift]
    constructor
    · linarith
    · linarith

/-- **Two timestamps.** -/
theorem served_mono (hle : time ≤ time') (h : Servable time)
    (hmoved : Servable (time + offsetUs * 1000)) (h' : Servable time')
    (hmoved' : Servable (time' + offsetUs * 1000)) :
    servedTimestamp offsetUs time ≤ servedTimestamp offsetUs time' := by
  have hencoded := (fromSystemTime_le_iff h.inEra h'.inEra).mpr hle
  unfold servedTimestamp
  split
  · exact hencoded
  · have hdecoded := toSystemTime_mono hencoded
    rw [shift, shift, fromSystemTime_le_iff (inEra_shifted h hmoved) (inEra_shifted h' hmoved')]
    omega

end

/-- **The time a reply tells.** For every state of the server, every datagram that is
answered and every clock offset, with the two readings in order and the times before
and after the offset servable: both timestamps denote the reading with the offset, less
at most 1001 ns, and they are in order. -/
theorem served_time (evp : Evp) (s : NtpServer) (data : Bytes) (client : SockAddr)
    (env : PacketEnv) (p : Processed) (reply : Bytes)
    (h : s.processPacket evp data client env = .ok p) (hreply : p.reply = some reply)
    (hordered : env.receiveTime ≤ env.transmitTime)
    (hreceive : Servable env.receiveTime) (htransmit : Servable env.transmitTime)
    (hreceived : Servable (env.receiveTime + s.clockOffsetUs * 1000))
    (htransmitted : Servable (env.transmitTime + s.clockOffsetUs * 1000)) :
    (0 ≤ ((env.receiveTime + s.clockOffsetUs * 1000 : ℤ) : ℚ)
        - (NtpPacket.decode reply).receiveTs.instant ∧
      ((env.receiveTime + s.clockOffsetUs * 1000 : ℤ) : ℚ)
        - (NtpPacket.decode reply).receiveTs.instant ≤ 1001) ∧
    (0 ≤ ((env.transmitTime + s.clockOffsetUs * 1000 : ℤ) : ℚ)
        - (NtpPacket.decode reply).transmitTs.instant ∧
      ((env.transmitTime + s.clockOffsetUs * 1000 : ℤ) : ℚ)
        - (NtpPacket.decode reply).transmitTs.instant ≤ 1001) ∧
    (NtpPacket.decode reply).receiveTs.instant ≤ (NtpPacket.decode reply).transmitTs.instant := by
  obtain ⟨request, -, hdecode⟩ := NtpServer.decode_reply h hreply
  have htransmitTs : (s.replyPacket request env).transmitTs
      = servedTimestamp s.clockOffsetUs env.transmitTime := s.replyPacket_transmitTs request env
  rw [hdecode, NtpServer.replyPacket_receiveTs, htransmitTs]
  exact ⟨served_bounds hreceive hreceived, served_bounds htransmit htransmitted,
    instant_le_iff.mpr (served_mono hordered hreceive hreceived htransmit htransmitted)⟩

/-- A server whose clock is a quarter of a second fast. -/
def fastServer : NtpServer :=
  { defaultServer with upstreamSync := some { clockOffsetUs := -250000, synced := true } }

/-- A reply two seconds after the epoch, a microsecond after the request. -/
def laterEnv : PacketEnv :=
  { exampleEnv with receiveTime := 2000000000, transmitTime := 2000001000 }

theorem served_time_example :
    ∃ p reply, fastServer.processPacket (fun _ _ => none) exampleRequest exampleClient laterEnv
        = .ok p ∧ p.reply = some reply ∧
      (0 ≤ (1750000000 : ℚ) - (NtpPacket.decode reply).receiveTs.instant ∧
        (1750000000 : ℚ) - (NtpPacket.decode reply).receiveTs.instant ≤ 1001) ∧
      (NtpPacket.decode reply).receiveTs.instant
        ≤ (NtpPacket.decode reply).transmitTs.instant := by
  have hanswered : ((fastServer.processPacket (fun _ _ => none) exampleRequest exampleClient
      laterEnv).map (·.reply.isSome)).toOption = some true := by
    decide +kernel
  obtain ⟨p, hp, hsome⟩ := Runs.exists_of_toOption_map hanswered
  obtain ⟨reply, hreply⟩ := Option.isSome_iff_exists.mp hsome
  have htime := served_time _ fastServer _ _ laterEnv p reply hp hreply (by decide) (by decide)
    (by decide) (by decide) (by decide)
  exact ⟨p, reply, hp, hreply, by exact_mod_cast htime.1, htime.2.2⟩

end SimpleNtpd
