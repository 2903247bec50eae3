import SimpleNtpd.Core.Server

/-!
# Reference identifiers in replies

A reply carries its reference identifier in bytes 12 to 15. An identifier of ASCII
characters is to stand there left-justified, with zeros behind it (`spelledId`).
`createServerResponse` shifts the characters into a word one by one and the word is
written big-endian, so they stand right-justified, with zeros in front
(`referenceBytes_createServerResponse`). The two are the same for four characters or
more; the `GPS` of the shipped example (config/examples/simple/simple-ntpd.conf.example:12)
goes out as a zero and three letters.

The names `effectiveReferenceId` has for a reference clock are filled up to four
characters with a blank behind them, and are not touched by this
(`buildReply_spells_clock`).
-/

namespace SimpleNtpd

open Cpp

/-- Bytes 12 to 15 of a datagram. -/
def referenceBytes (data : Bytes) : Bytes := (data.drop 12).take 4

/-- An identifier as it is to stand in a reply: its first four characters, and zeros
behind them. -/
def spelledId (s : Str) : Bytes := s.take 4 ++ List.replicate (4 - s.length) 0

/-- An identifier as the shifts leave it: zeros, and the first four characters. -/
def shiftedId (s : Str) : Bytes := List.replicate (4 - s.length) 0 ++ s.take 4

/-! ## On the wire -/

theorem referenceBytes_serializeToData (p : NtpPacket) :
    referenceBytes p.serializeToData = Word.toBytes p.referenceId := by
  rw [NtpPacket.serializeToData_eq]
  rfl

/-- The loop starts from four zeros and shifts one out for each character. -/
theorem toBytes_referenceWord (s : Str) :
    Word.toBytes (NtpPacket.referenceWord s) = shiftedId s := by
  have hzero : Word.toBytes 0 = List.replicate 4 0 := rfl
  rw [NtpPacket.referenceWord, Word.toBytes_foldl_shiftLeft, hzero, List.length_take,
    List.drop_append_of_le_length (by rw [List.length_replicate]; omega), List.drop_replicate,
    shiftedId]
  congr 2
  omega

/-- **The identifier of a reply**, whatever the request, the stratum and the clock. -/
theorem referenceBytes_createServerResponse (clientPacket : NtpPacket) (stratum : UInt8)
    (s : Str) (nowReceive nowTransmit nowReference : Int) :
    referenceBytes (NtpPacket.createServerResponse clientPacket stratum s nowReceive nowTransmit
      nowReference).serializeToData = shiftedId s := by
  rw [referenceBytes_serializeToData]
  exact toBytes_referenceWord s

/-! ## Left-justified or right-justified -/

theorem shiftedId_of_length_le {s : Str} (h : 4 ≤ s.length) : shiftedId s = spelledId s := by
  rw [shiftedId, spelledId, Nat.sub_eq_zero_of_le h]
  exact (List.append_nil _).symm

/-- A short identifier in front of its zeros is the same as behind them when it is of
zeros itself: its last character is also the last byte. -/
theorem shiftedId_eq_spelledId_iff (s : Str) :
    shiftedId s = spelledId s ↔ 4 ≤ s.length ∨ ∀ c ∈ s, c = 0 := by
  constructor
  · intro h
    match s with
    | [] => exact .inr fun c hc => absurd hc List.not_mem_nil
    | [a] =>
      have hbytes : [0, 0, 0, a] = [a, 0, 0, 0] := h
      simp only [List.cons.injEq] at hbytes
      simp [← hbytes.1]
    | [a, b] =>
      have hbytes : [0, 0, a, b] = [a, b, 0, 0] := h
      simp only [List.cons.injEq] at hbytes
      simp [← hbytes.1, ← hbytes.2.1]
    | [a, b, c] =>
      have hbytes : [0, a, b, c] = [a, b, c, 0] := h
      simp only [List.cons.injEq] at hbytes
      simp [← hbytes.1, ← hbytes.2.1, ← hbytes.2.2.1]
    | _ :: _ :: _ :: _ :: s => exact .inl (by simp)
  · rintro (hlength | hzeros)
    · exact shiftedId_of_length_le hlength
    · rw [shiftedId, spelledId, List.eq_replicate_of_mem hzeros, List.take_replicate]
      simp only [List.length_replicate, List.replicate_append_replicate, Nat.add_comm]

/-- **When a reply spells its identifier.** For every request, stratum, identifier and
clock: exactly when the identifier has four characters or more, or nothing but zero
bytes. -/
theorem createServerResponse_spells_iff (clientPacket : NtpPacket) (stratum : UInt8) (s : Str)
    (nowReceive nowTransmit nowReference : Int) :
    referenceBytes (NtpPacket.createServerResponse clientPacket stratum s nowReceive nowTransmit
      nowReference).serializeToData = spelledId s ↔ 4 ≤ s.length ∨ ∀ c ∈ s, c = 0 := by
  rw [referenceBytes_createServerResponse]
  exact shiftedId_eq_spelledId_iff s

/-- The identifier of the shipped example goes out behind a zero. -/
theorem createServerResponse_misspells_gps :
    ¬ ∀ (clientPacket : NtpPacket) (stratum : UInt8) (s : Str)
      (nowReceive nowTransmit nowReference : Int),
      referenceBytes (NtpPacket.createServerResponse clientPacket stratum s nowReceive nowTransmit
        nowReference).serializeToData = spelledId s := by
  intro h
  have hspelled := h NtpPacket.new 1 (lit "GPS") 0 0 0
  rw [referenceBytes_serializeToData] at hspelled
  exact absurd hspelled (by decide +kernel)

/-! ## The server's replies -/

namespace NtpServer

theorem referenceId_applyClockOffset (sync : Option UpstreamSyncManager) (response : NtpPacket) :
    (applyClockOffset sync response).referenceId = response.referenceId := by
  unfold applyClockOffset
  cases sync with
  | none => rfl
  | some sync =>
    dsimp only
    by_cases hzero : sync.clockOffsetUs ≠ 0
    · rw [if_pos hzero]
    · rw [if_neg hzero]

/-- A reply of the server carries the identifier the configuration names. -/
theorem referenceBytes_buildReply (s : NtpServer) (request : NtpPacket) (env : PacketEnv) :
    referenceBytes (s.buildReply request env).1
      = shiftedId (effectiveReferenceId s.currentConfig) := by
  rw [buildReply, referenceBytes_serializeToData, referenceId_applyClockOffset]
  exact toBytes_referenceWord _

/-- The names of the three reference clocks are spelled. -/
theorem buildReply_spells_clock {s : NtpServer} (request : NtpPacket) (env : PacketEnv)
    (hclock : s.currentConfig.enableReferenceClockSupport = true)
    (hsource : lower s.currentConfig.referenceClockSource ∈
      [lit "gps", lit "atomic", lit "hardware"]) :
    referenceBytes (s.buildReply request env).1
      = spelledId (effectiveReferenceId s.currentConfig) := by
  rw [referenceBytes_buildReply]
  refine shiftedId_of_length_le ?_
  rw [effectiveReferenceId, hclock, Bool.not_true, if_neg Bool.false_ne_true]
  simp only [List.mem_cons, List.not_mem_nil, or_false] at hsource
  rcases hsource with hsource | hsource | hsource
  · rw [hsource, if_pos rfl]
    decide
  · rw [hsource, if_neg (by decide), if_pos rfl]
    decide
  · rw [hsource, if_neg (by decide), if_neg (by decide), if_pos rfl]
    decide

end NtpServer

end SimpleNtpd
