import SimpleNtpd.Lib.Word
import SimpleNtpd.Core.Timestamp

/-!
# NTP packets

The 48-byte packet of packet.hpp/packet.cpp: its fields, the parser, the
serializer, the validity check, and the two constructors the daemon sends
from. A datagram and a `std::string` are both a list of bytes.

`parseFromData` is a method that fills in the packet it is called on, so it
takes that packet and returns it next to the verdict; `serializeToData` writes
each field at its offset into a zeroed 48-byte buffer, as the source does.
-/

namespace SimpleNtpd

/-- A byte string: a datagram (`std::vector<uint8_t>`) or a `std::string`. -/
abbrev Bytes := List UInt8

/-- `NTP_PACKET_SIZE` (platform.hpp). -/
def ntpPacketSize : Nat := 48

/-- `NTP_VERSION` (platform.hpp). -/
def ntpVersion : UInt8 := 4

/-- The values of `enum class NtpMode` (platform.hpp) the daemon compares with. -/
def NtpMode.client : UInt8 := 3

/-- `NtpMode::SERVER`. -/
def NtpMode.server : UInt8 := 4

/-! ## Words and timestamps in a buffer -/

/-- Byte `i` of a buffer. -/
def byteAt (p : Bytes) (i : Nat) : UInt8 := p.getD i 0

/-- Big-endian word at offset `p` (packet.cpp:31–36). -/
def readU32Be (data : Bytes) (p : Nat) : UInt32 :=
  Word.ofBytes (byteAt data p) (byteAt data (p + 1)) (byteAt data (p + 2)) (byteAt data (p + 3))

/-- Write a big-endian word at offset `p` (packet.cpp:38–43). -/
def writeU32Be (data : Bytes) (p : Nat) (value : UInt32) : Bytes :=
  (((data.set p (Word.byte value 24)).set (p + 1) (Word.byte value 16)).set (p + 2)
    (Word.byte value 8)).set (p + 3) (Word.byte value 0)

/-- Two words: seconds, then fraction (packet.cpp:45–48). -/
def readTimestamp (data : Bytes) (p : Nat) : NtpTimestamp :=
  ⟨readU32Be data p, readU32Be data (p + 4)⟩

/-- packet.cpp:50–53. -/
def writeTimestamp (data : Bytes) (p : Nat) (ts : NtpTimestamp) : Bytes :=
  writeU32Be (writeU32Be data p ts.seconds) (p + 4) ts.fraction

/-! ## The packet -/

/-- The fields of a packet (packet.hpp:59–88). -/
structure NtpPacket where
  leapIndicator : UInt8
  version : UInt8
  mode : UInt8
  stratum : UInt8
  poll : UInt8
  precision : Int8
  rootDelay : UInt32
  rootDispersion : UInt32
  referenceId : UInt32
  referenceTs : NtpTimestamp
  originateTs : NtpTimestamp
  receiveTs : NtpTimestamp
  transmitTs : NtpTimestamp
  deriving DecidableEq, Repr

namespace NtpPacket

/-- The default constructor (packet.cpp:56–75). -/
def new : NtpPacket where
  leapIndicator := 0
  version := ntpVersion
  mode := 0
  stratum := 0
  poll := 0
  precision := 0
  rootDelay := 0
  rootDispersion := 0
  referenceId := 0
  referenceTs := .zero
  originateTs := .zero
  receiveTs := .zero
  transmitTs := .zero

/-- The request the upstream client sends; `now` is the clock reading it is
stamped with (packet.cpp:77–91). -/
def createClientRequest (now : Int) : NtpPacket :=
  { new with
    leapIndicator := 0
    version := ntpVersion
    mode := NtpMode.client
    stratum := 0
    poll := 4
    precision := -6
    transmitTs := NtpTimestamp.fromSystemTime now }

/-- The first four characters of the identifier, shifted in one by one. -/
def referenceWord (referenceId : Bytes) : UInt32 :=
  (referenceId.take 4).foldl (fun refId c => (refId <<< 8) ||| c.toUInt32) 0

/-- The reply to `clientPacket`. The clock is read three times, for the receive,
transmit and reference timestamps in this order (packet.cpp:93–123). -/
def createServerResponse (clientPacket : NtpPacket) (stratum : UInt8)
    (referenceId : Bytes) (nowReceive nowTransmit nowReference : Int) : NtpPacket :=
  { new with
    leapIndicator := 0
    version := ntpVersion
    mode := NtpMode.server
    stratum := stratum
    poll := 4
    precision := -6
    originateTs := clientPacket.transmitTs
    receiveTs := NtpTimestamp.fromSystemTime nowReceive
    transmitTs := NtpTimestamp.fromSystemTime nowTransmit
    referenceTs := NtpTimestamp.fromSystemTime nowReference
    referenceId := referenceWord referenceId }

/-- The fields as they stand in the first 48 bytes of a buffer. -/
def decode (data : Bytes) : NtpPacket where
  leapIndicator := (byteAt data 0 >>> 6) &&& 0x3
  version := (byteAt data 0 >>> 3) &&& 0x7
  mode := byteAt data 0 &&& 0x7
  stratum := byteAt data 1
  poll := byteAt data 2
  precision := (byteAt data 3).toInt8
  rootDelay := readU32Be data 4
  rootDispersion := readU32Be data 8
  referenceId := readU32Be data 12
  referenceTs := readTimestamp data 16
  originateTs := readTimestamp data 24
  receiveTs := readTimestamp data 32
  transmitTs := readTimestamp data 40

/-- Fill the packet in from a datagram: the verdict and the packet afterwards
(packet.cpp:125–148). -/
def parseFromData (p : NtpPacket) (data : Bytes) : Bool × NtpPacket :=
  if data.length < ntpPacketSize then (false, p)
  else (true, decode data)

/-- The byte that packs leap indicator, version and mode (packet.cpp:153–155). -/
def firstByte (leapIndicator version mode : UInt8) : UInt8 :=
  ((leapIndicator &&& 0x3) <<< 6) ||| ((version &&& 0x7) <<< 3) ||| (mode &&& 0x7)

/-- The 48 bytes of a packet, field by field into a zeroed buffer
(packet.cpp:150–171). -/
def serializeToData (p : NtpPacket) : Bytes :=
  let data := List.replicate ntpPacketSize 0
  let data := data.set 0 (firstByte p.leapIndicator p.version p.mode)
  let data := data.set 1 p.stratum
  let data := data.set 2 p.poll
  let data := data.set 3 p.precision.toUInt8
  let data := writeU32Be data 4 p.rootDelay
  let data := writeU32Be data 8 p.rootDispersion
  let data := writeU32Be data 12 p.referenceId
  let data := writeTimestamp data 16 p.referenceTs
  let data := writeTimestamp data 24 p.originateTs
  let data := writeTimestamp data 32 p.receiveTs
  let data := writeTimestamp data 40 p.transmitTs
  data

/-! ## Validity -/

/-- packet.cpp:238–241. -/
def validateVersion (p : NtpPacket) : Bool := p.version == 3 || p.version == ntpVersion

/-- The eight enumerators of `NtpMode` and nothing else (packet.cpp:243–258). -/
def validateMode (p : NtpPacket) : Bool :=
  [0, 1, 2, 3, 4, 5, 6, 7].contains p.mode

/-- The checks in the order of the source, each with the message it reports
when it fails (packet.cpp:178–224). -/
def checks (p : NtpPacket) : List (Bool × String) :=
  [ (p.validateVersion, "Invalid NTP version: " ++ toString p.version ++ " (expected: "
      ++ toString ntpVersion ++ ")"),
    (p.validateMode, "Invalid NTP mode: " ++ toString p.mode),
    (!(p.stratum > 15), "Invalid stratum: " ++ toString p.stratum ++ " (must be 0-15)"),
    (!(p.poll < 4 || p.poll > 17),
      "Invalid poll interval: " ++ toString p.poll ++ " (must be 4-17)"),
    (!(p.precision > 0),
      "Invalid precision: " ++ toString p.precision ++ " (should be negative)"),
    (!(p.leapIndicator > 3),
      "Invalid leap indicator: " ++ toString p.leapIndicator ++ " (must be 0-3)") ]

/-- The verdict and the messages of the failed checks (packet.cpp:178–224). -/
def validateDetailed (p : NtpPacket) : Bool × List String :=
  (p.checks.all (·.1), (p.checks.filter (!·.1)).map (·.2))

/-- packet.cpp:173–176. -/
def isValid (p : NtpPacket) : Bool := p.validateDetailed.1

/-- The verdict is positive exactly when no message is reported. -/
theorem validateDetailed_errors (p : NtpPacket) :
    p.validateDetailed.1 = true ↔ p.validateDetailed.2 = [] := by
  simp only [validateDetailed, List.all_eq_true, List.map_eq_nil_iff,
    List.filter_eq_nil_iff, Bool.not_eq_true', Bool.not_eq_false]

/-- The enumerators of `NtpMode` are the values of its three bits. -/
theorem validateMode_iff (p : NtpPacket) : p.validateMode = true ↔ p.mode < 8 := by
  simp only [validateMode, List.contains_iff_mem, List.mem_cons, List.not_mem_nil, or_false,
    ← UInt8.toNat_inj, UInt8.lt_iff_toNat_lt]
  show (p.mode.toNat = 0 ∨ p.mode.toNat = 1 ∨ p.mode.toNat = 2 ∨ p.mode.toNat = 3 ∨
    p.mode.toNat = 4 ∨ p.mode.toNat = 5 ∨ p.mode.toNat = 6 ∨ p.mode.toNat = 7) ↔
    p.mode.toNat < 8
  omega

/-- What `isValid` checks, field by field. -/
theorem isValid_iff (p : NtpPacket) :
    p.isValid = true ↔ (p.version = 3 ∨ p.version = 4) ∧ p.mode < 8 ∧ p.stratum ≤ 15 ∧
      (4 ≤ p.poll ∧ p.poll ≤ 17) ∧ p.precision ≤ 0 ∧ p.leapIndicator ≤ 3 := by
  simp only [isValid, validateDetailed, checks, List.all_cons, List.all_nil, Bool.and_true,
    Bool.and_eq_true, validateMode_iff, Bool.not_eq_true', decide_eq_false_iff_not,
    Bool.or_eq_false_iff, gt_iff_lt, UInt8.not_lt, Int8.not_lt]
  simp only [validateVersion, ntpVersion, Bool.or_eq_true, beq_iff_eq]

/-! ## The codec -/

/-- The serialized packet as one list. -/
theorem serializeToData_eq (p : NtpPacket) :
    p.serializeToData
      = [firstByte p.leapIndicator p.version p.mode, p.stratum, p.poll, p.precision.toUInt8]
        ++ Word.toBytes p.rootDelay ++ Word.toBytes p.rootDispersion
        ++ Word.toBytes p.referenceId
        ++ Word.toBytes p.referenceTs.seconds ++ Word.toBytes p.referenceTs.fraction
        ++ Word.toBytes p.originateTs.seconds ++ Word.toBytes p.originateTs.fraction
        ++ Word.toBytes p.receiveTs.seconds ++ Word.toBytes p.receiveTs.fraction
        ++ Word.toBytes p.transmitTs.seconds ++ Word.toBytes p.transmitTs.fraction := by
  simp only [serializeToData, writeTimestamp, writeU32Be, ntpPacketSize, List.replicate_succ,
    List.replicate_zero, List.set_cons_zero, List.set_cons_succ, Nat.reduceAdd, Word.toBytes,
    List.cons_append, List.nil_append]

@[simp] theorem serializeToData_length (p : NtpPacket) :
    p.serializeToData.length = ntpPacketSize := by
  rw [serializeToData_eq]
  rfl

/-- The packed byte, cut at its three fields and packed again, is itself. -/
theorem firstByte_split (b : UInt8) :
    firstByte ((b >>> 6) &&& 0x3) ((b >>> 3) &&& 0x7) (b &&& 0x7) = b :=
  Cpp.forall_uint8 (by decide +kernel) b

/-- Fields that fit their bits come back out of the packed byte. -/
theorem split_firstByte {li v m : UInt8} (hli : li < 4) (hv : v < 8) (hm : m < 8) :
    (firstByte li v m >>> 6) &&& 0x3 = li ∧ (firstByte li v m >>> 3) &&& 0x7 = v ∧
      firstByte li v m &&& 0x7 = m := by
  have hall : ∀ (a : Fin 4) (b c : Fin 8),
      (firstByte (.ofNat a) (.ofNat b) (.ofNat c) >>> 6) &&& 0x3 = .ofNat a ∧
      (firstByte (.ofNat a) (.ofNat b) (.ofNat c) >>> 3) &&& 0x7 = .ofNat b ∧
      firstByte (.ofNat a) (.ofNat b) (.ofNat c) &&& 0x7 = .ofNat c := by
    decide +kernel
  simpa using hall ⟨li.toNat, hli⟩ ⟨v.toNat, hv⟩ ⟨m.toNat, hm⟩

/-- The first bytes of a long enough buffer, one by one. -/
theorem take_eq_map {data : Bytes} {n : Nat} (h : n ≤ data.length) :
    data.take n = (List.range n).map (byteAt data) := by
  apply List.ext_getElem
  · simpa using h
  · intro i hi _
    have hlt : i < data.length := by
      rw [List.length_take] at hi
      omega
    rw [List.getElem_take, List.getElem_map, List.getElem_range, byteAt,
      List.getD_eq_getElem _ _ hlt]

/-- Parsing what was serialized gives the packet back, whatever follows it. -/
theorem decode_serializeToData {p : NtpPacket} (hli : p.leapIndicator < 4)
    (hv : p.version < 8) (hm : p.mode < 8) (rest : Bytes) :
    decode (p.serializeToData ++ rest) = p := by
  obtain ⟨h6, h3, h0⟩ := split_firstByte hli hv hm
  simp only [serializeToData_eq, decode, readTimestamp, readU32Be, byteAt, Word.toBytes,
    List.cons_append, List.nil_append, Nat.reduceAdd, List.getD_cons_zero,
    List.getD_cons_succ, Word.ofBytes_byte, Int8.toInt8_toUInt8, h6, h3, h0]

/-- Serializing what was parsed gives the first 48 bytes back. -/
theorem serializeToData_decode {data : Bytes} (h : ntpPacketSize ≤ data.length) :
    (decode data).serializeToData = data.take ntpPacketSize := by
  rw [take_eq_map h, serializeToData_eq]
  simp only [decode, readTimestamp, readU32Be, Nat.reduceAdd, firstByte_split,
    UInt8.toUInt8_toInt8, Word.toBytes_ofBytes, List.cons_append, List.nil_append]
  rfl

theorem byteAt_take {data : Bytes} {n i : Nat} (h : i < n) :
    byteAt (data.take n) i = byteAt data i := by
  rw [byteAt, byteAt, List.getD_eq_getElem?_getD, List.getD_eq_getElem?_getD,
    List.getElem?_take_of_lt h]

theorem readU32Be_take {data : Bytes} {n p : Nat} (h : p + 3 < n) :
    readU32Be (data.take n) p = readU32Be data p := by
  rw [readU32Be, readU32Be, byteAt_take (show p < n by omega),
    byteAt_take (show p + 1 < n by omega), byteAt_take (show p + 2 < n by omega),
    byteAt_take h]

theorem readTimestamp_take {data : Bytes} {n p : Nat} (h : p + 7 < n) :
    readTimestamp (data.take n) p = readTimestamp data p := by
  rw [readTimestamp, readTimestamp, readU32Be_take (show p + 3 < n by omega),
    readU32Be_take (show p + 4 + 3 < n by omega)]

/-- The decoded fields lie in the first 48 bytes. -/
theorem decode_take (data : Bytes) : decode (data.take ntpPacketSize) = decode data := by
  simp (disch := decide) only [decode, ntpPacketSize, byteAt_take, readU32Be_take,
    readTimestamp_take]

theorem parseFromData_of_le {data : Bytes} (q : NtpPacket)
    (h : ntpPacketSize ≤ data.length) : q.parseFromData data = (true, decode data) :=
  if_neg (Nat.not_lt.mpr h)

theorem parseFromData_of_lt {data : Bytes} (q : NtpPacket)
    (h : data.length < ntpPacketSize) : q.parseFromData data = (false, q) :=
  if_pos h

/-- A valid packet's packed fields fit their bits. -/
theorem packed_of_isValid {p : NtpPacket} (h : p.isValid = true) :
    p.leapIndicator < 4 ∧ p.version < 8 ∧ p.mode < 8 := by
  obtain ⟨hv, hm, -, -, -, hli⟩ := p.isValid_iff.mp h
  refine ⟨UInt8.lt_of_le_of_lt hli (by decide), ?_, hm⟩
  rcases hv with hv | hv <;> rw [hv] <;> decide

/-- **The codec is a bijection** between the packets whose packed fields fit
their bits and the 48-byte strings; the parser ignores what follows the first
48 bytes, and touches nothing when there are fewer. -/
theorem codec_bijection :
    (∀ (p q : NtpPacket) (rest : Bytes),
      p.leapIndicator < 4 → p.version < 8 → p.mode < 8 →
        p.serializeToData.length = 48 ∧
          q.parseFromData (p.serializeToData ++ rest) = (true, p)) ∧
    (∀ p : NtpPacket, p.isValid = true →
      p.leapIndicator < 4 ∧ p.version < 8 ∧ p.mode < 8) ∧
    (∀ (q q' : NtpPacket) (data : Bytes), 48 ≤ data.length →
      (q.parseFromData data).1 = true ∧
        q.parseFromData data = q'.parseFromData (data.take 48) ∧
        (q.parseFromData data).2.serializeToData = data.take 48) ∧
    (∀ (q : NtpPacket) (data : Bytes), data.length < 48 →
      q.parseFromData data = (false, q)) := by
  refine ⟨fun p q rest hli hv hm => ⟨p.serializeToData_length, ?_⟩,
    fun p => packed_of_isValid, fun q q' data h => ?_, fun q data h => parseFromData_of_lt q h⟩
  · have hlen : ntpPacketSize ≤ (p.serializeToData ++ rest).length := by
      rw [List.length_append, serializeToData_length]
      exact Nat.le_add_right _ _
    rw [parseFromData_of_le q hlen, decode_serializeToData hli hv hm]
  · have hlen : ntpPacketSize ≤ (data.take 48).length := by
      rw [List.length_take]
      exact Nat.le_min.mpr ⟨Nat.le_refl _, h⟩
    have hdec : decode (data.take 48) = decode data := decode_take data
    rw [parseFromData_of_le q h, parseFromData_of_le q' hlen, hdec]
    exact ⟨rfl, rfl, serializeToData_decode h⟩

/-- The codec on a client request, and on the bytes `0, 1, …, 49`. -/
theorem codec_bijection_request :
    (createClientRequest 0).serializeToData.length = 48 ∧
      new.parseFromData ((createClientRequest 0).serializeToData ++ [7])
        = (true, createClientRequest 0) ∧
      (new.parseFromData ((List.range 50).map UInt8.ofNat)).2.serializeToData
        = (List.range 48).map UInt8.ofNat := by
  have hreq := codec_bijection.1 (createClientRequest 0) new [7] (by decide) (by decide)
    (by decide)
  have hraw := codec_bijection.2.2.1 new new ((List.range 50).map UInt8.ofNat) (by decide)
  exact ⟨hreq.1, hreq.2, hraw.2.2⟩

end NtpPacket

end SimpleNtpd
