import SingTun.Header.Datagram
import SingTun.System.Replies

/-!
# Headers that the stack encodes

`Encode` stores the fields of a header one after the other.  The receiver
reads each of them as it was given, and the checksums that are stored behind
`Encode` make the sums over the header and over the segment all ones.
-/

namespace SingTun.System

open Foundation Header

/-! ## IP -/

section Network

variable {family : Family} {b : Bytes} {payloadLength : Nat}

/-- Two addresses that are stored one behind the other. -/
theorem addresses_read {fields : Bytes} {src dst : Nat} (srcAddr dstAddr : Addr family)
    (apart : src + family.addressSize ≤ dst)
    (inside : dst + family.addressSize ≤ fields.length) :
    addrAt? family (overwrite (overwrite fields src srcAddr.octets) dst
        dstAddr.octets) src = some srcAddr ∧
      addrAt? family (overwrite (overwrite fields src srcAddr.octets) dst
        dstAddr.octets) dst = some dstAddr ∧ ChangedAt (fun k => src ≤ k) fields
        (overwrite (overwrite fields src srcAddr.octets) dst dstAddr.octets) := by
  obtain ⟨middle, stored, read, change⟩ := @setAddrAt?_spec family fields src srcAddr (by omega)
  have first : src + family.addressSize ≤ fields.length := by omega
  cases (if_pos first).symm.trans stored
  have second : dst + family.addressSize ≤ (overwrite fields src srcAddr.octets).length := by
    rw [change.length]
    exact inside
  obtain ⟨after, stored', read', change'⟩ := setAddrAt?_spec dstAddr second
  cases (if_pos second).symm.trans stored'
  refine ⟨?_, read', ?_⟩
  · apply addrAt?_congr change' read
    rintro k low high ⟨low', -⟩
    omega
  · apply (change.mono ?_).trans (change'.mono ?_)
    · rintro k ⟨low, -⟩
      exact low
    · rintro k ⟨low, -⟩
      omega

/-- The fields in front of the addresses of an IPv4 header. -/
theorem encodeIP_front4 (protocol : UInt8) (length : b.length = 20 + payloadLength)
    (srcAddr dstAddr : Addr .v4) :
    let packet := encodeIP b payloadLength protocol srcAddr dstAddr
    byteAt packet 0 = 0x45 ∧ readU16 packet 2 = .ofNat (20 + payloadLength) ∧
      byteAt packet 9 = protocol ∧ sourceAddr? .v4 packet = some srcAddr ∧
      destinationAddr? .v4 packet = some dstAddr ∧ packet.length = b.length := by
  intro packet
  set lengths := writeU16 ((b.set 0 0x45).set 1 0) 2
    (.ofNat (20 + payloadLength)) with lengths_eq
  set fields := writeU16 ((((writeU16 (writeU16 lengths 4 0) 6 0).set 8 0).set
    9 protocol)) 10 0 with fields_eq
  have fieldsLength : fields.length = b.length := by
    simp [fields_eq, lengths_eq]
  obtain ⟨source, destination, change⟩ := @addresses_read .v4 fields 12 16
    srcAddr dstAddr (by decide) (show 20 ≤ fields.length by omega)
  change ChangedAt (fun k => 12 ≤ k) fields packet at change
  have rest : ChangedAt (fun k => 4 ≤ k) lengths packet := by
    refine .trans ?_ (change.mono fun k low => by omega)
    refine .trans ?_ (.writeU16 _ (by omega) (by omega))
    refine .trans ?_ (.set _ (by omega))
    refine .trans ?_ (.set _ (by omega))
    refine .trans ?_ (.writeU16 _ (by omega) (by omega))
    exact .writeU16 _ (by omega) (by omega)
  refine ⟨?_, ?_, ?_, source, destination, change.length.trans fieldsLength⟩
  · rw [rest.octets 0 (by omega), lengths_eq, byteAt_writeU16_of_ne (by omega),
      byteAt_set_ne (by omega), byteAt_set_self (by omega)]
  · rw [rest.readU16_eq (by omega) (by omega)]
    refine readU16_writeU16_self ?_
    rw [List.length_set, List.length_set]
    omega
  · rw [change.octets 9 (by omega), fields_eq, byteAt_writeU16_of_ne (by omega)]
    refine byteAt_set_self ?_
    rw [List.length_set, length_writeU16, length_writeU16, lengths_eq,
      length_writeU16, List.length_set, List.length_set]
    omega

/-- The fields of an IPv6 header. -/
theorem encodeIP_front6 (protocol : UInt8) (length : b.length = 40 + payloadLength)
    (srcAddr dstAddr : Addr .v6) :
    let packet := encodeIP b payloadLength protocol srcAddr dstAddr
    byteAt packet 0 = 0x60 ∧ readU16 packet 4 = .ofNat payloadLength ∧
      byteAt packet 6 = protocol ∧ sourceAddr? .v6 packet = some srcAddr ∧
      destinationAddr? .v6 packet = some dstAddr ∧ packet.length = b.length := by
  intro packet
  set lengths := writeU16 (writeU32 b 0 0x60000000) 4 (.ofNat payloadLength) with lengths_eq
  have lengthsLength : lengths.length = b.length := by
    simp [lengths_eq]
  obtain ⟨source, destination, change⟩ := @addresses_read .v6 (lengths.set 7 0)
    8 24 srcAddr dstAddr (by decide)
    (show 40 ≤ (lengths.set 7 0).length by rw [List.length_set]; omega)
  set addressed := overwrite (overwrite (lengths.set 7 0) 8 srcAddr.octets) 24 dstAddr.octets
  have addressedLength : addressed.length = b.length := by
    rw [change.length, List.length_set]
    exact lengthsLength
  have last : ChangedAt (fun k => k = 6) addressed packet := .set _ rfl
  have rest : ChangedAt (fun k => 6 ≤ k) lengths packet := by
    refine .trans ?_ (last.mono fun k here => by omega)
    exact .trans (.set _ (by omega)) (change.mono fun k low => by omega)
  refine ⟨?_, ?_, ?_, ?_, ?_, last.length.trans addressedLength⟩
  · rw [rest.octets 0 (by omega), lengths_eq, byteAt_writeU16_of_ne (by omega),
      writeU32, byteAt_writeU16_of_ne (by omega), byteAt_writeU16_high (by omega)]
    rfl
  · rw [rest.readU16_eq (by omega) (by omega)]
    refine readU16_writeU16_self ?_
    rw [length_writeU32]
    omega
  · exact @byteAt_set_self addressed 6 protocol (by omega)
  · refine addrAt?_congr last source ?_
    intro k (low : 8 ≤ k) _
    omega
  · refine addrAt?_congr last destination ?_
    intro k (low : 24 ≤ k) _
    omega

/-- The receiver reads the fields that `Encode` was given. -/
theorem encodeIP_datagram (length : b.length = family.minimumSize + payloadLength)
    (small : b.length < 65536) (protocol : UInt8) (srcAddr dstAddr : Addr family) :
    Datagram family (encodeIP b payloadLength protocol srcAddr dstAddr)
      protocol ⟨family.minimumSize, payloadLength⟩ srcAddr dstAddr := by
  cases family with
  | v4 =>
    change b.length = 20 + payloadLength at length
    obtain ⟨first, total, transport, source, destination, same⟩ :=
      encodeIP_front4 protocol length srcAddr dstAddr
    set packet := encodeIP b payloadLength protocol srcAddr dstAddr
    obtain ⟨valid, located⟩ := @located_of_lengths4 packet 20 payloadLength (by rw [first]; rfl)
        (by rw [first]; rfl) (by omega) (by rw [total, UInt16.toNat_ofNat']; omega) (by omega)
    refine ⟨⟨valid, ?_, located, source, destination⟩, length.symm.trans same.symm⟩
    exact (byteAt?_eq_some (by omega)).trans (congrArg some transport)
  | v6 =>
    change b.length = 40 + payloadLength at length
    obtain ⟨first, total, transport, source, destination, same⟩ :=
      encodeIP_front6 protocol length srcAddr dstAddr
    set packet := encodeIP b payloadLength protocol srcAddr dstAddr
    obtain ⟨valid, located⟩ := @located_of_lengths6 packet payloadLength (by rw [first]; rfl)
        (by rw [total, UInt16.toNat_ofNat']; omega) (by omega)
    refine ⟨⟨valid, ?_, located, source, destination⟩, length.symm.trans same.symm⟩
    exact (byteAt?_eq_some (by omega)).trans (congrArg some transport)

/-- The header checksum of a new packet is valid. -/
theorem sealIP_valid (long : family.minimumSize ≤ b.length) (length : Nat) :
    HeaderChecksumValid family (sealIP family b) ⟨family.minimumSize, length⟩ := by
  cases family with
  | v4 =>
    change 20 ≤ b.length at long
    change IPv4ChecksumValid ((writeU16 b 10 _).take 20)
    have front : window b 0 10 = (b.take 20).take 10 := by
      rw [List.take_take]
      rfl
    have back : window b 12 8 = (b.take 20).drop 12 := by
      rw [List.drop_take]
      rfl
    rw [take_writeU16, front, back]
    apply balanced_of_skipped_checksum 0 0 _ 10 rfl
    · rw [List.length_take]
      omega
    · rfl
  | v6 => trivial

/-- The header checksum is no part of what the receiver reads otherwise. -/
theorem sealIP_sum (family : Family) (b : Bytes) :
    ChangedAt (HeaderSumOctet family) b (sealIP family b) := by
  cases family with
  | v4 =>
    apply ChangedAt.writeU16
    · exact ⟨rfl, .inl rfl⟩
    · exact ⟨rfl, .inr rfl⟩
  | v6 => exact .refl

end Network

/-! ## TCP -/

/-- A segment that is a header with these fields and nothing else. -/
structure ReadsTCP (packet : Bytes) (tcpHdr : Slice) (t : TCPFields) :
    Prop where
  sourcePort : TCP.sourcePort? packet tcpHdr = some t.srcPort
  destinationPort : TCP.destinationPort? packet tcpHdr = some t.dstPort
  sequenceNumber : TCP.sequenceNumber? packet tcpHdr = some t.seqNum
  ackNumber : TCP.ackNumber? packet tcpHdr = some t.ackNum
  flags : TCP.flags? packet tcpHdr = some t.flags
  dataOffset : TCP.dataOffset? packet tcpHdr = some 20

section Transport

variable {b b' : Bytes} {start : Nat} {t : TCPFields}

/-- The checksum and what is outside of the segment may change. -/
theorem ReadsTCP.congr {changed : Nat → Prop} (reads : ReadsTCP b ⟨start, 20⟩ t)
    (change : ChangedAt changed b b')
    (kept : ∀ k, start ≤ k → k < start + 16 → ¬changed k) :
    ReadsTCP b' ⟨start, 20⟩ t := by
  have word : ∀ position, position + 2 ≤ 16 → Slice.readU16? ⟨start, 20⟩ b' position =
        Slice.readU16? ⟨start, 20⟩ b position := by
    intro position inside
    unfold Slice.readU16?
    dsimp only
    rw [change.readU16_eq (kept _ (by omega) (by omega)) (kept _ (by omega) (by omega))]
  have double : ∀ position, position + 4 ≤ 16 → Slice.readU32? ⟨start, 20⟩ b' position =
        Slice.readU32? ⟨start, 20⟩ b position := by
    intro position inside
    unfold Slice.readU32?
    dsimp only
    rw [readU32_congr fun k low =>
      change.octets _ (kept _ (by omega) (by omega))]
  have octet : ∀ position, position < 16 → Slice.byteAt? ⟨start, 20⟩ b' position =
        Slice.byteAt? ⟨start, 20⟩ b position := by
    intro position inside
    unfold Slice.byteAt?
    dsimp only
    rw [change.octets _ (kept _ (by omega) (by omega))]
  constructor
  · exact (word 0 (by omega)).trans reads.sourcePort
  · exact (word 2 (by omega)).trans reads.destinationPort
  · exact (double 4 (by omega)).trans reads.sequenceNumber
  · exact (double 8 (by omega)).trans reads.ackNumber
  · exact (octet 13 (by omega)).trans reads.flags
  · have same := octet 12 (by omega)
    unfold TCP.dataOffset?
    rw [same]
    exact reads.dataOffset

/-- `TCP.Encode` stores nothing in front of the TCP header. -/
theorem encodeTCP_changed (b : Bytes) (start : Nat) (t : TCPFields) :
    ChangedAt (fun k => start ≤ k) b (encodeTCP b start t) := by
  refine .trans ?_ (.writeU16 _ (by omega) (by omega))
  refine .trans ?_ (.writeU16 _ (by omega) (by omega))
  refine .trans ?_ (.set _ (by omega))
  refine .trans ?_ (.writeU16 _ (by omega) (by omega))
  refine .trans ?_ (.writeU16 _ (by omega) (by omega))
  refine .trans ?_ (.writeU16 _ (by omega) (by omega))
  refine .trans ?_ (.set _ (by omega))
  refine .trans ?_ (.trans (.writeU16 _ (by omega) (by omega)) (.writeU16 _ (by omega) (by omega)))
  exact .trans (.writeU16 _ (by omega) (by omega)) (.writeU16 _ (by omega) (by omega))

/-- The receiver reads the fields that `Encode` was given. -/
theorem encodeTCP_reads (inside : start + 20 ≤ b.length) :
    ReadsTCP (encodeTCP b start t) ⟨start, 20⟩ t := by
  -- The stores in the order of `Encode`; each field is read past the stores
  -- that come behind its own.
  set b1 := writeU32 b (start + 4) t.seqNum with eq1
  set b2 := writeU32 b1 (start + 8) t.ackNum with eq2
  set b3 := b2.set (start + 13) t.flags with eq3
  set b4 := writeU16 b3 (start + 14) 0 with eq4
  set b5 := writeU16 b4 start t.srcPort with eq5
  set b6 := writeU16 b5 (start + 2) t.dstPort with eq6
  set b7 := b6.set (start + 12) (((20 : UInt8) / 4) <<< 4) with eq7
  have length1 : b1.length = b.length := length_writeU32 _ _ _
  have length2 : b2.length = b.length := (length_writeU32 _ _ _).trans length1
  have length3 : b3.length = b.length := List.length_set.trans length2
  have length4 : b4.length = b.length := (length_writeU16 _ _ _).trans length3
  have length5 : b5.length = b.length := (length_writeU16 _ _ _).trans length4
  have length6 : b6.length = b.length := (length_writeU16 _ _ _).trans length5
  have last : ChangedAt (fun k => start + 16 ≤ k) b7 (encodeTCP b start t) :=
    .trans (.writeU16 _ (by omega) (by omega)) (.writeU16 _ (by omega) (by omega))
  have ports : ChangedAt (fun k => k < start + 4 ∨ start + 12 ≤ k) b2 (encodeTCP b start t) := by
    refine .trans ?_ (last.mono fun k low => by omega)
    refine .trans ?_ (.set _ (by omega))
    refine .trans ?_ (.writeU16 _ (by omega) (by omega))
    refine .trans ?_ (.writeU16 _ (by omega) (by omega))
    refine .trans ?_ (.writeU16 _ (by omega) (by omega))
    exact .set _ (by omega)
  have flags : ChangedAt (fun k => k ≠ start + 13) b3 (encodeTCP b start t) := by
    refine .trans ?_ (last.mono fun k low => by omega)
    refine .trans ?_ (.set _ (by omega))
    refine .trans ?_ (.writeU16 _ (by omega) (by omega))
    refine .trans ?_ (.writeU16 _ (by omega) (by omega))
    exact .writeU16 _ (by omega) (by omega)
  have source : ChangedAt (fun k => start + 2 ≤ k) b5 (encodeTCP b start t) := by
    refine .trans ?_ (last.mono fun k low => by omega)
    refine .trans ?_ (.set _ (by omega))
    exact .writeU16 _ (by omega) (by omega)
  have destination : ChangedAt (fun k => start + 4 ≤ k) b6 (encodeTCP b start t) :=
    .trans (.set _ (by omega)) (last.mono fun k low => by omega)
  constructor
  case sourcePort =>
    refine (Slice.readU16?_eq_some (by simp)).trans (congrArg some ?_)
    change readU16 _ start = _
    rw [source.readU16_eq (by omega) (by omega)]
    exact readU16_writeU16_self (by omega)
  case destinationPort =>
    refine (Slice.readU16?_eq_some (by simp)).trans (congrArg some ?_)
    change readU16 _ (start + 2) = _
    rw [destination.readU16_eq (by omega) (by omega)]
    exact readU16_writeU16_self (by omega)
  case sequenceNumber =>
    refine (Slice.readU32?_eq_some (by simp)).trans (congrArg some ?_)
    rw [readU32_congr fun k low => ports.octets (start + 4 + k) (by omega),
      eq2, readU32_congr fun k low => @byteAt_writeU32_of_ne b1 (start + 8)
        (start + 4 + k) t.ackNum (by omega)]
    exact readU32_writeU32_self (by omega)
  case ackNumber =>
    refine (Slice.readU32?_eq_some (by simp)).trans (congrArg some ?_)
    rw [readU32_congr fun k low => ports.octets (start + 8 + k) (by omega)]
    exact readU32_writeU32_self (by omega)
  case flags =>
    refine (Slice.byteAt?_eq_some (by simp)).trans (congrArg some ?_)
    change byteAt _ (start + 13) = _
    rw [flags.octets _ (by omega)]
    exact byteAt_set_self (by omega)
  case dataOffset =>
    change some ((byteAt _ (start + 12) >>> 4) * 4) = _
    rw [last.octets _ (by omega), eq7, byteAt_set_self (by omega)]
    rfl

end Transport

end SingTun.System
