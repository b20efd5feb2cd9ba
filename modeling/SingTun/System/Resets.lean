import SingTun.System.Encoded

/-!
# Resets

A segment that finds no free port is answered with a reset.  The reset comes
from the destination of the segment, its numbers are those that RFC 9293 asks
for, and its checksums are valid, so that the peer accepts it.
-/

namespace SingTun.System

open Foundation Header

/-! ## Segments and their answers -/

/-- A segment that a reset answers, with its flags and its data offset. -/
structure Answerable (family : Family) (packet : Bytes) (tcpHdr : Slice)
    (flags offset : UInt8) : Prop where
  valid : isValid family packet packet.length = true
  transport : transportProtocol? family packet = some tcpProtocolNumber
  located : payload? family packet = some tcpHdr
  flags_eq : TCP.flags? packet tcpHdr = some flags
  noReset : flags &&& TCP.flagRst = 0
  dataOffset : TCP.dataOffset? packet tcpHdr = some offset
  header : TCP.minimumSize ≤ offset.toNat
  inside : offset.toNat ≤ tcpHdr.length

/-- What a flag takes of the sequence space. -/
def flagLength (flags flag : UInt8) : Nat :=
  if flags &&& flag ≠ 0 then 1 else 0

/--
The numbers and the flags of the reset that answers a segment: RFC 9293, for a
connection that does not exist.
-/
def ResetNumbers (packet : Bytes) (tcpHdr : Slice) (flags offset : UInt8)
    (reset : TCPFields) : Prop :=
  if flags &&& TCP.flagAck ≠ 0 then
    TCP.ackNumber? packet tcpHdr = some reset.seqNum ∧ reset.flags = TCP.flagRst
  else
    reset.seqNum = 0 ∧ reset.flags = TCP.flagRst ||| TCP.flagAck ∧ ∃ sequenceNumber,
        TCP.sequenceNumber? packet tcpHdr = some sequenceNumber ∧ reset.ackNum.toNat =
          (sequenceNumber.toNat + (tcpHdr.length - offset.toNat) +
            flagLength flags TCP.flagSyn + flagLength flags TCP.flagFin) % 4294967296

/-- The answer to a segment, as the peer reads it. -/
structure ResetOf (family : Family) (packet : Bytes) (tcpHdr : Slice)
    (flags offset : UInt8) (newPacket : Bytes)
    (source destination : Addr family) (reset : TCPFields) : Prop where
  peer : sourceAddr? family packet = some source
  origin : destinationAddr? family packet = some destination
  datagram : Datagram family newPacket tcpProtocolNumber
    ⟨family.minimumSize, TCP.minimumSize⟩ destination source
  fields : ReadsTCP newPacket ⟨family.minimumSize, TCP.minimumSize⟩ reset
  sourcePort : TCP.destinationPort? packet tcpHdr = some reset.srcPort
  destinationPort : TCP.sourcePort? packet tcpHdr = some reset.dstPort
  numbers : ResetNumbers packet tcpHdr flags offset reset
  headerSum : HeaderChecksumValid family newPacket ⟨family.minimumSize, TCP.minimumSize⟩
  segmentSum : TransportChecksumValid tcpProtocolNumber destination.octets
    source.octets (Slice.octets ⟨family.minimumSize, TCP.minimumSize⟩ newPacket)

section Answer

variable {family : Family} {packet : Bytes} {tcpHdr : Slice}
variable {flags offset : UInt8}

theorem resetFields?_spec (answerable : Answerable family packet tcpHdr flags offset) :
    ∃ reset, resetFields? packet tcpHdr = some reset ∧
      TCP.destinationPort? packet tcpHdr = some reset.srcPort ∧
      TCP.sourcePort? packet tcpHdr = some reset.dstPort ∧
      ResetNumbers packet tcpHdr flags offset reset := by
  have header := answerable.header
  have inside := answerable.inside
  unfold TCP.minimumSize at header
  have sourcePort : TCP.sourcePort? packet tcpHdr = some _ := Slice.readU16?_eq_some (by omega)
  have destinationPort : TCP.destinationPort? packet tcpHdr = some _ :=
    Slice.readU16?_eq_some (by omega)
  have sequenceNumber : TCP.sequenceNumber? packet tcpHdr = some _ :=
    Slice.readU32?_eq_some (by omega)
  have ackNumber : TCP.ackNumber? packet tcpHdr = some _ := Slice.readU32?_eq_some (by omega)
  have payload : TCP.payload? packet tcpHdr =
      some ⟨tcpHdr.start + offset.toNat, tcpHdr.length - offset.toNat⟩ := by
    unfold TCP.payload?
    rw [answerable.dataOffset]
    exact Slice.from?_eq_some inside
  unfold resetFields? ResetNumbers
  rw [sourcePort, destinationPort, answerable.flags_eq]
  simp only [some_bind]
  split
  · rw [ackNumber]
    exact ⟨_, rfl, rfl, rfl, rfl, rfl⟩
  · rw [sequenceNumber, payload]
    refine ⟨_, rfl, rfl, rfl, rfl, rfl, _, rfl, ?_⟩
    -- the flags are counted in the sequence space, modulo `2 ^ 32`
    unfold flagLength
    split <;> split <;>
      simp only [UInt32.toNat_add, UInt32.toNat_ofNat', UInt32.toNat_one] <;> omega

/-- The checksum of a segment that ends its packet. -/
def sealTCP {family : Family} (srcAddr dstAddr : Addr family) (b : Bytes) :
    Bytes :=
  writeU16 b (family.minimumSize + 16) (~~~checksum (window b (family.minimumSize + 18) 2)
      (checksum (window b family.minimumSize 16)
        (pseudoHeaderChecksum tcpProtocolNumber srcAddr.octets dstAddr.octets 20)))

theorem sealTCP_valid {b : Bytes} (srcAddr dstAddr : Addr family)
    (length : b.length = family.minimumSize + 20) :
    TransportChecksumValid tcpProtocolNumber srcAddr.octets dstAddr.octets
      (Slice.octets ⟨family.minimumSize, 20⟩ (sealTCP srcAddr dstAddr b)) := by
  set segment : Slice := ⟨family.minimumSize, 20⟩
  have octets : (segment.octets b).length = 20 :=
    Slice.length_octets (show family.minimumSize + 20 ≤ b.length by omega)
  have front : window b family.minimumSize 16 = (segment.octets b).take 16 := by
    unfold Slice.octets window
    rw [List.take_take]
    rfl
  have back : window b (family.minimumSize + 18) 2 = (segment.octets b).drop 18 := by
    unfold Slice.octets window
    rw [List.drop_take, List.drop_drop]
    rfl
  unfold sealTCP TransportChecksumValid
  rw [show family.minimumSize + 16 = segment.start + 16 from rfl,
    octets_writeU16, length_writeU16, octets, front, back]
  apply balanced_of_skipped_checksum _ _ _ 16 rfl (by omega)
  exact pseudoHeaderChecksum_toNat _ _ _ 20

theorem sealTCP_changed (srcAddr dstAddr : Addr family) (b : Bytes) :
    ChangedAt (fun k => family.minimumSize + 16 ≤ k) b (sealTCP srcAddr dstAddr b) := by
  apply ChangedAt.writeU16
  · exact le_rfl
  · exact Nat.le_succ _

/-- The reset is built, and the peer accepts it. -/
theorem resetTCP_answers (system : SystemStack) (env : Env)
    (software : system.txChecksumOffload = false)
    (answerable : Answerable family packet tcpHdr flags offset) :
    ∃ newPacket source destination reset,
      resetTCP family system env packet tcpHdr = some newPacket ∧
        ResetOf family packet tcpHdr flags offset newPacket source destination
          reset := by
  obtain ⟨long, -⟩ := payload?_of_isValid answerable.valid
  obtain ⟨source, peer⟩ := exists_sourceAddr? long
  obtain ⟨destination, origin⟩ := exists_destinationAddr? long
  obtain ⟨reset, built, sourcePort, destinationPort, numbers⟩ := resetFields?_spec answerable
  have fresh := env.length_fresh (family.minimumSize + TCP.minimumSize)
  have small : family.minimumSize + 20 < 65536 := by
    cases family <;> decide
  have encoded := encodeIP_datagram fresh (by rw [fresh]; exact small)
    tcpProtocolNumber destination source
  set plain := encodeIP (env.fresh (family.minimumSize + TCP.minimumSize))
    TCP.minimumSize tcpProtocolNumber destination source
  have plainLength : plain.length = family.minimumSize + 20 := encoded.whole.symm
  set segment := encodeTCP plain family.minimumSize reset with segment_eq
  have stored : ChangedAt (fun k => family.minimumSize ≤ k) plain segment :=
    encodeTCP_changed plain family.minimumSize reset
  have reads : ReadsTCP segment ⟨family.minimumSize, 20⟩ reset := encodeTCP_reads (by omega)
  have summed := sealTCP_changed destination source segment
  have sealed := sealIP_sum family (sealTCP destination source segment)
  set newPacket := sealIP family (sealTCP destination source segment)
  have header : ∀ k, HeaderSumOctet family k → k < family.minimumSize := by
    rintro k ⟨rfl, sum⟩
    change k < 20
    omega
  have result : resetTCP family system env packet tcpHdr = some newPacket := by
    unfold resetTCP
    rw [origin, peer, built, software]
    rfl
  refine ⟨newPacket, source, destination, reset, result, peer, origin, ?_, ?_,
    sourcePort, destinationPort, numbers, ?_, ?_⟩
  · apply Datagram.congr _ sealed fun k _ sum => sum
    apply Datagram.congr _ summed fun k low high => by omega
    exact encoded.congr stored fun k low high => by omega
  · apply ReadsTCP.congr _ sealed
    · intro k low _ sum
      have := header k sum
      omega
    · apply reads.congr summed
      intro k _ high
      omega
  · apply sealIP_valid
    rw [summed.length, stored.length]
    omega
  · have valid := sealTCP_valid destination source (stored.length.trans plainLength)
    have same : Slice.octets ⟨family.minimumSize, 20⟩ newPacket =
        Slice.octets ⟨family.minimumSize, 20⟩ (sealTCP destination source segment) := by
      apply sealed.window_eq
      · rw [summed.length, stored.length, plainLength]
      · intro k (low : family.minimumSize ≤ k) _ sum
        have := header k sum
        omega
    change TransportChecksumValid _ _ _ (Slice.octets ⟨_, 20⟩ newPacket)
    rw [same]
    exact valid

end Answer

/-- A SYN with one octet of data, at the end of the sequence space. -/
def synSegment : Bytes :=
  [0x45, 0, 0, 41, 0, 0, 0, 0, 64, 6, 0, 0, 10, 0, 0, 9, 1, 2, 3, 4,
    3, 232, 0, 80, 0xff, 0xff, 0xff, 0xff, 0, 0, 0, 0, 0x50, 2, 0, 0, 0, 0, 0, 0, 0x2a]

theorem resetTCP_answers_syn :
    ∃ newPacket source destination reset,
      resetTCP .v4 plainSystem (.filled 7) synSegment ⟨20, 21⟩ = some newPacket ∧
        ResetOf .v4 synSegment ⟨20, 21⟩ 2 20 newPacket source destination
          reset := by
  have answerable : Answerable .v4 synSegment ⟨20, 21⟩ 2 20 := by
    constructor <;> decide
  exact resetTCP_answers plainSystem (.filled 7) rfl answerable

end SingTun.System
