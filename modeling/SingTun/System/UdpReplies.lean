import SingTun.System.Encoded
import SingTun.System.Safety

/-!
# Replies to UDP packets

A UDP packet that is delivered leaves a copy of its headers behind, on which
the replies are built: `systemUDPPacketWriter4` and `systemUDPPacketWriter6`.
The copy is cut off behind the UDP header, which for IPv4 is found from the
length of the IP header.  For IPv6 it is found from the end of the packet, and
is right only if the packet ends where its payload ends.
-/

namespace SingTun.System

open Foundation Header Option

/-! ## The packet writers -/

/-- `SetTotalLength` and `SetPayloadLength`. -/
def setPacketLength? : Family → Bytes → Nat → Option Bytes
  | .v4, newPacket, _ =>
    IPv4.setTotalLength? newPacket (UInt16.ofNat newPacket.length)
  | .v6, newPacket, udpLen =>
    IPv6.setPayloadLength? newPacket (UInt16.ofNat udpLen)

/-- The checksum of the UDP datagram in a packet. -/
def udpChecksum? (family : Family) (newPacket : Bytes) (udpHdr : Slice) : Option UInt16 := do
  let src ← sourceAddr? family newPacket
  let dst ← destinationAddr? family newPacket
  let payloadLength ← payloadLength? family newPacket
  let xsum ← UDP.calculateChecksum? newPacket udpHdr
    (pseudoHeaderChecksum udpProtocolNumber src.octets dst.octets payloadLength)
  let payload ← UDP.payload? udpHdr
  pure (normalizeUDPChecksum (~~~checksum (payload.octets newPacket) xsum))

/--
`systemUDPPacketWriter4.WritePacket` and `systemUDPPacketWriter6.WritePacket`:
the packet that is written.
-/
def writePacket (family : Family) (header : Bytes) (txChecksumOffload : Bool)
    (buffer : Bytes) (destination : AddrPort family) : Option Bytes := do
  let newPacket := header ++ buffer
  let newPacket ← setPacketLength? family newPacket (UDP.minimumSize + buffer.length)
  let sourceAddress ← sourceAddr? family newPacket
  let newPacket ← setDestinationAddr? newPacket sourceAddress
  let newPacket ← setSourceAddr? newPacket destination.addr
  let udpHdr ← payload? family newPacket
  let sourcePort ← UDP.sourcePort? newPacket udpHdr
  let newPacket ← UDP.setDestinationPort? newPacket udpHdr sourcePort
  let newPacket ← UDP.setSourcePort? newPacket udpHdr destination.port
  let newPacket ← UDP.setLength? newPacket udpHdr (UInt16.ofNat (buffer.length + UDP.minimumSize))
  let xsum ←
    if txChecksumOffload then pure 0
    else udpChecksum? family newPacket udpHdr
  let newPacket ← UDP.setChecksum? newPacket udpHdr xsum
  sealHeader? family newPacket

/-! ## Network headers -/

section Network

variable {family : Family} {b : Bytes} {start udpLen : Nat}
variable {source : Addr family}

/-- Where the header of a packet ends. -/
def headerEnd : Family → Bytes → Nat
  | .v4, b => ((byteAt b 0 &&& 0x0f) * 4).toNat
  | .v6, _ => 40

/-- The headers of a UDP packet, and what is put behind them. -/
structure Template
    (family : Family) (b : Bytes) (start : Nat) (source : Addr family) :
    Prop where
  version : byteAt b 0 >>> 4 = UInt8.ofNat family.version
  header : headerEnd family b = start
  behind : family.minimumSize ≤ start
  transport : transportProtocol? family b = some udpProtocolNumber
  sourceAddr : sourceAddr? family b = some source
  long : start + 8 ≤ b.length

/-- The length of the datagram, as the length field gives it. -/
def datagramLength : Family → Bytes → Nat → Nat → Nat
  | .v4, b, start, _ => b.length - start
  | .v6, _, _, udpLen => udpLen

/-- The length field can hold the length. -/
def LengthFits : Family → Bytes → Nat → Prop
  | .v4, b, _ => b.length < 65536
  | .v6, b, udpLen => udpLen < 65536 ∧ 40 + udpLen ≤ b.length

theorem setPacketLength?_spec (template : Template family b start source)
    (fits : LengthFits family b udpLen) :
    ∃ b', setPacketLength? family b udpLen = some b' ∧
      isValid family b' b'.length = true ∧
      payload? family b' = some ⟨start, datagramLength family b start udpLen⟩ ∧
      transportProtocol? family b' = some udpProtocolNumber ∧
      ChangedAt (fun k => k < family.srcAddr) b b' := by
  have long := template.long
  have behind := template.behind
  have version := template.version
  have header := template.header
  cases family with
  | v4 =>
    change b.length < 65536 at fits
    have change : ChangedAt (fun k => k = 2 ∨ k = 3) b (writeU16 b 2 (.ofNat b.length)) :=
      .writeU16 _ (.inl rfl) (.inr rfl)
    have total : (readU16 (writeU16 b 2 (.ofNat b.length)) 2).toNat =
        start + (b.length - start) := by
      rw [readU16_writeU16_self (by omega), UInt16.toNat_ofNat']
      omega
    have first := change.octets 0 (by omega)
    obtain ⟨valid, located⟩ := @located_of_lengths4
      (writeU16 b 2 (.ofNat b.length)) start (b.length - start)
      (by rw [first]; exact version) (by rw [first]; exact header) behind
      total (by rw [change.length]; omega)
    have octet := change.octets 9 (by omega)
    refine ⟨_, writeU16?_eq_some _ (by omega), valid, located, ?_, ?_⟩
    · rw [← template.transport]
      simp only [transportProtocol?, byteAt?, change.length, octet]
    · exact change.mono fun k here => show k < 12 by omega
  | v6 =>
    obtain ⟨small, inside⟩ := fits
    obtain rfl := header
    have change : ChangedAt (fun k => k = 4 ∨ k = 5) b (writeU16 b 4 (.ofNat udpLen)) :=
      .writeU16 _ (.inl rfl) (.inr rfl)
    have length : (readU16 (writeU16 b 4 (.ofNat udpLen)) 4).toNat =
        udpLen := by
      rw [readU16_writeU16_self (by omega), UInt16.toNat_ofNat']
      omega
    have first := change.octets 0 (by omega)
    obtain ⟨valid, located⟩ := @located_of_lengths6 (writeU16 b 4 (.ofNat udpLen)) udpLen
      (by rw [first]; exact version) length (by rw [change.length]; exact inside)
    have octet := change.octets 6 (by omega)
    refine ⟨_, writeU16?_eq_some _ (by omega), valid, located, ?_, ?_⟩
    · rw [← template.transport]
      simp only [transportProtocol?, byteAt?, change.length, octet]
    · exact change.mono fun k here => show k < 8 by omega

/-- The packet goes back to where the template came from. -/
theorem readdress_spec (template : Template family b start source)
    (fits : LengthFits family b udpLen) (addr : Addr family) :
    ∃ b1 b2 b3, setPacketLength? family b udpLen = some b1 ∧ sourceAddr? family b1 = some source ∧
      setDestinationAddr? b1 source = some b2 ∧
      setSourceAddr? b2 addr = some b3 ∧
      Addressed family b3 udpProtocolNumber
        ⟨start, datagramLength family b start udpLen⟩ addr source ∧
      ChangedAt (fun k => k < family.minimumSize) b b3 := by
  obtain ⟨apart, fields⟩ := srcAddr_before_dstAddr family
  have long := template.long
  have behind := template.behind
  obtain ⟨b1, stored1, valid1, located1, transport1, change1⟩ := setPacketLength?_spec template fits
  have source1 : sourceAddr? family b1 = some source :=
    addrAt?_congr change1 template.sourceAddr fun k low _ => by omega
  have length1 := change1.length
  obtain ⟨b2, stored2, destination2, change2⟩ :=
    @setAddrAt?_spec family b1 family.dstAddr source (by omega)
  have length2 := change2.length
  obtain ⟨b3, stored3, source3, change3⟩ :=
    @setAddrAt?_spec family b2 family.srcAddr addr (by omega)
  have addresses : ChangedAt (fun k => family.srcAddr ≤ k ∧ k < family.minimumSize) b1 b3 := by
    refine (change2.mono fun k here => ?_).trans (change3.mono fun k here => ?_)
    · omega
    · omega
  have kept : ∀ k, LayoutOctet family k → ¬(family.srcAddr ≤ k ∧ k < family.minimumSize) := by
    intro k layout
    have := layoutOctet_before_addresses layout
    omega
  refine ⟨b1, b2, b3, stored1, source1, stored2, stored3, ⟨?_, ?_, ?_, source3, ?_⟩, ?_⟩
  · rw [isValid_congr addresses kept]
    exact valid1
  · rw [transportProtocol?_congr addresses kept]
    exact transport1
  · rw [payload?_congr addresses kept]
    exact located1
  · exact addrAt?_congr change3 destination2 fun k low _ => by omega
  · exact (change1.mono fun k low => by omega).trans (addresses.mono fun k here => here.2)

end Network

/-! ## UDP headers -/

section Transport

variable {family : Family} {b : Bytes} {udpHdr : Slice}

/-- The ports and the length of the datagram. -/
theorem reportUDP_spec (inside : udpHdr.Inside b)
    (long : 8 ≤ udpHdr.length)
    (port length : UInt16) :
    ∃ b1 b2 b3, UDP.sourcePort? b udpHdr = some (readU16 b udpHdr.start) ∧
      UDP.setDestinationPort? b udpHdr (readU16 b udpHdr.start) = some b1 ∧
      UDP.setSourcePort? b1 udpHdr port = some b2 ∧ UDP.setLength? b2 udpHdr length = some b3 ∧
      UDP.sourcePort? b3 udpHdr = some port ∧
      UDP.destinationPort? b3 udpHdr = some (readU16 b udpHdr.start) ∧
      UDP.length? b3 udpHdr = some length ∧
      ChangedAt (fun k => udpHdr.start ≤ k ∧ k < udpHdr.start + 6) b b3 := by
  unfold Slice.Inside at inside
  set sourcePort := readU16 b udpHdr.start
  set b1 := writeU16 b (udpHdr.start + 2) sourcePort with eq1
  set b2 := writeU16 b1 udpHdr.start port with eq2
  set b3 := writeU16 b2 (udpHdr.start + 4) length with eq3
  have length1 : b1.length = b.length := length_writeU16 _ _ _
  have length2 : b2.length = b.length := (length_writeU16 _ _ _).trans length1
  have change3 : ChangedAt (fun k => udpHdr.start + 4 ≤ k) b2 b3 :=
    .writeU16 _ (by omega) (by omega)
  have change2 : ChangedAt (fun k => k < udpHdr.start + 2) b1 b2 :=
    .writeU16 _ (by omega) (by omega)
  refine ⟨b1, b2, b3, Slice.readU16?_eq_some (by omega),
    Slice.writeU16?_eq_some _ (by omega), Slice.writeU16?_eq_some _ (by omega),
    Slice.writeU16?_eq_some _ (by omega), ?_, ?_, ?_, ?_⟩
  · refine (Slice.readU16?_eq_some (by omega)).trans (congrArg some ?_)
    rw [change3.readU16_eq (by omega) (by omega)]
    exact readU16_writeU16_self (by omega)
  · refine (Slice.readU16?_eq_some (by omega)).trans (congrArg some ?_)
    rw [change3.readU16_eq (by omega) (by omega), change2.readU16_eq (by omega) (by omega)]
    exact readU16_writeU16_self (by omega)
  · refine (Slice.readU16?_eq_some (by omega)).trans (congrArg some ?_)
    exact readU16_writeU16_self (by omega)
  · refine .trans ?_ (.writeU16 _ (by omega) (by omega))
    exact .trans (.writeU16 _ (by omega) (by omega)) (.writeU16 _ (by omega) (by omega))

/-- The checksum of the datagram is valid, and it is not left out. -/
theorem sealUDP_spec {src dst : Addr family} (located : payload? family b = some udpHdr)
    (sourced : sourceAddr? family b = some src)
    (addressed : destinationAddr? family b = some dst)
    (long : 8 ≤ udpHdr.length) :
    ∃ xsum b', udpChecksum? family b udpHdr = some xsum ∧ xsum ≠ 0 ∧
      UDP.setChecksum? b udpHdr xsum = some b' ∧ UDP.checksum? b' udpHdr = some xsum ∧
      TransportChecksumValid udpProtocolNumber src.octets dst.octets (udpHdr.octets b') ∧
      ChangedAt (fun k => k = udpHdr.start + 6 ∨ k = udpHdr.start + 7) b b' := by
  obtain ⟨inside, payloadLength, header, length⟩ := payload?_cases located
  have octets := Slice.length_octets inside
  set pseudo := pseudoHeaderChecksum udpProtocolNumber src.octets dst.octets
    payloadLength with pseudo_eq
  set xsum := normalizeUDPChecksum (~~~checksum ((udpHdr.octets b).drop 8)
    (checksum ((udpHdr.octets b).take 6) pseudo)) with xsum_eq
  have summed : udpChecksum? family b udpHdr = some xsum := by
    have payload : Slice.octets ⟨udpHdr.start + 8, udpHdr.length - 8⟩ b =
        (udpHdr.octets b).drop 8 := by
      unfold Slice.octets window
      rw [List.drop_take, List.drop_drop]
    unfold udpChecksum? UDP.calculateChecksum? UDP.payload? UDP.minimumSize
    rw [sourced, addressed, header, Slice.from?_eq_some long, slice?_eq_some (by omega) (by omega),
      slice?_eq_some (Nat.le_refl 8) (by omega)]
    simp only [some_bind, payload, Nat.sub_self, Nat.sub_zero]
    have empty : window (udpHdr.octets b) 8 0 = [] := List.take_zero
    rw [empty, checksum_nil]
    rfl
  refine ⟨xsum, _, summed, normalizeUDPChecksum_ne_zero _,
    Slice.writeU16?_eq_some _ (by omega), ?_, ?_, ?_⟩
  · refine (Slice.readU16?_eq_some (by omega)).trans (congrArg some ?_)
    unfold Slice.Inside at inside
    exact readU16_writeU16_self (by omega)
  · rw [octets_writeU16]
    unfold TransportChecksumValid
    rw [length_writeU16, octets]
    refine balanced_of_skipped_complement _ pseudo _ 6 _ rfl (by omega) ?_ (.inr rfl)
    rw [pseudo_eq, pseudoHeaderChecksum_toNat, length]
  · exact .writeU16 _ (.inl rfl) (.inr rfl)

end Transport

/-! ## Replies -/

/-- The fields of a reply, as its receiver reads them. -/
structure UDPReply
    (family : Family) (source destination : AddrPort family) (udpHdr : Slice)
    (newPacket : Bytes) : Prop where
  addressed : Addressed family newPacket udpProtocolNumber udpHdr source.addr destination.addr
  sourcePort : UDP.sourcePort? newPacket udpHdr = some source.port
  destinationPort : UDP.destinationPort? newPacket udpHdr = some destination.port
  headerSum : HeaderChecksumValid family newPacket udpHdr
  segmentSum : TransportChecksumValid udpProtocolNumber source.addr.octets
    destination.addr.octets (udpHdr.octets newPacket)
  summed : ∃ xsum, UDP.checksum? newPacket udpHdr = some xsum ∧ xsum ≠ 0

/-- A reply whose length fields are its size, with the payload it was given. -/
structure CorrectReply
    (family : Family) (source destination : AddrPort family) (buffer : Bytes)
    (udpHdr : Slice) (newPacket : Bytes) : Prop where
  fields : UDPReply family source destination udpHdr newPacket
  whole : udpHdr.start + udpHdr.length = newPacket.length
  length : ∃ length, UDP.length? newPacket udpHdr = some length ∧ length.toNat = udpHdr.length
  payload : newPacket.drop (udpHdr.start + UDP.minimumSize) = buffer

section Writer

variable {family : Family} {header buffer : Bytes} {start : Nat}
variable {source : Addr family}

/-- What is written, whatever the headers are that were kept. -/
theorem writePacket_spec (template : Template family (header ++ buffer) start source)
    (fits : LengthFits family (header ++ buffer) (8 + buffer.length))
    (long : 8 ≤ datagramLength family (header ++ buffer) start (8 + buffer.length))
    (destination : AddrPort family) :
    ∃ newPacket, writePacket family header false buffer destination = some newPacket ∧
      UDPReply family destination ⟨source, readU16 (header ++ buffer) start⟩
        ⟨start, datagramLength family (header ++ buffer) start
          (8 + buffer.length)⟩ newPacket ∧ UDP.length? newPacket
        ⟨start, datagramLength family (header ++ buffer) start
          (8 + buffer.length)⟩ = some (.ofNat (buffer.length + 8)) ∧
      ChangedAt (fun k => k < start + 8) (header ++ buffer) newPacket := by
  have behind := template.behind
  obtain ⟨b1, b2, b3, stored1, source1, stored2, stored3, addressed3,
    change3⟩ := readdress_spec template fits destination.addr
  set udpHdr : Slice := ⟨start, datagramLength family (header ++ buffer) start (8 + buffer.length)⟩
  have udpStart : udpHdr.start = start := rfl
  obtain ⟨inside3, -⟩ := payload?_cases addressed3.located
  obtain ⟨b4, b5, b6, read3, stored4, stored5, stored6, sourcePort6,
    destinationPort6, length6, change6⟩ := reportUDP_spec inside3 long
    destination.port (.ofNat (buffer.length + 8))
  have addressed6 := addressed3.congr change6 fun k low here => by omega
  obtain ⟨xsum, b7, summed, nonzero, stored7, read7, segmentSum7, change7⟩ :=
    sealUDP_spec addressed6.located addressed6.sourceAddr addressed6.destinationAddr long
  have addressed7 := addressed6.congr change7 fun k low here => by omega
  obtain ⟨inside7, -⟩ := payload?_cases addressed7.located
  obtain ⟨newPacket, sealed, change8⟩ := sealHeader?_spec addressed7.located behind inside7
  have header8 : ∀ k, HeaderSumOctet family k → k < start := by
    rintro k sum
    have := headerSumOctet_front sum
    have := srcAddr_before_dstAddr family
    omega
  have addressed8 := addressed7.congr change8 fun k _ sum => sum
  have word : ∀ position, position + 2 ≤ 8 → Slice.readU16? udpHdr newPacket position =
        Slice.readU16? udpHdr b7 position := by
    intro position low
    unfold Slice.readU16?
    rw [change8.readU16_eq ?_ ?_]
    · intro sum
      have := header8 _ sum
      omega
    · intro sum
      have := header8 _ sum
      omega
  have word7 : ∀ position, position + 2 ≤ 6 → Slice.readU16? udpHdr b7 position =
        Slice.readU16? udpHdr b6 position := by
    intro position low
    unfold Slice.readU16?
    rw [change7.readU16_eq (by omega) (by omega)]
  have octets : udpHdr.octets newPacket = udpHdr.octets b7 := by
    apply change8.window_eq inside7
    intro k low _ sum
    have := header8 k sum
    omega
  refine ⟨newPacket, ?_, ⟨addressed8, ?_, ?_, ?_, ?_, xsum, ?_, nonzero⟩, ?_, ?_⟩
  · unfold writePacket UDP.minimumSize
    simp only [stored1, source1, stored2, stored3, addressed3.located, read3,
      stored4, stored5, stored6, summed, stored7, some_bind, Bool.false_eq_true, if_false]
    exact sealed
  · exact ((word 0 (by omega)).trans (word7 0 (by omega))).trans sourcePort6
  · refine ((word 2 (by omega)).trans (word7 2 (by omega))).trans
      (destinationPort6.trans (congrArg some ?_))
    exact change3.readU16_eq (by omega) (by omega)
  · exact sealHeader?_valid addressed7.located behind inside7 sealed
  · rw [octets]
    exact segmentSum7
  · exact (word 6 (by omega)).trans read7
  · exact ((word 4 (by omega)).trans (word7 4 (by omega))).trans length6
  · refine (change3.mono fun k low => by omega).trans ?_
    refine (change6.mono fun k low => by omega).trans ?_
    refine (change7.mono fun k low => by omega).trans ?_
    exact change8.mono fun k sum => by have := header8 k sum; omega

end Writer

/-! ## Requests and their replies -/

/-- A UDP packet with a payload that is delivered. -/
structure AcceptedUDP
    (system : SystemStack) (packet : Bytes) (family : Family) (udpHdr : Slice)
    (source destination : Addr family) : Prop where
  admitted : Admitted system packet family udpHdr source destination
  transport : transportProtocol? family packet = some udpProtocolNumber
  last : family = .v4 → ∃ flags, IPv4.flags? packet = some flags ∧
    flags &&& IPv4.flagMoreFragments = 0
  first : family = .v4 → IPv4.fragmentOffset? packet = some 0
  payload : UDP.minimumSize < udpHdr.length

/-- The reply is not longer than the length fields can say. -/
def ReplyFits (family : Family) (udpHdr : Slice) (buffer : Bytes) : Prop :=
  match family with
  | .v4 => udpHdr.start + 8 + buffer.length < 65536
  | .v6 => 8 + buffer.length < 65536

section Requests

variable {family : Family} {system : SystemStack} {packet : Bytes}
variable {udpHdr : Slice} {source destination : Addr family}
variable (accepted : AcceptedUDP system packet family udpHdr source destination)
include accepted

theorem AcceptedUDP.copyLength_bounds :
    udpHdr.start + 8 ≤ copyLength family packet udpHdr ∧
      copyLength family packet udpHdr ≤ packet.length :=
  System.copyLength_bounds accepted.admitted.payload accepted.payload.le

theorem AcceptedUDP.length_copy :
    (packet.take (copyLength family packet udpHdr)).length = copyLength family packet udpHdr := by
  rw [List.length_take]
  exact Nat.min_eq_left accepted.copyLength_bounds.2

theorem deliverUDP_eq :
    deliverUDP family packet udpHdr = some ⟨false, none, packet,
      [.newPacket family ⟨source, readU16 packet udpHdr.start⟩
        ⟨destination, readU16 packet (udpHdr.start + 2)⟩
        (Slice.octets ⟨udpHdr.start + 8, udpHdr.length - 8⟩ packet)
        (packet.take (copyLength family packet udpHdr))]⟩ := by
  have admitted := accepted.admitted
  have long : 8 < udpHdr.length := accepted.payload
  obtain ⟨-, inside⟩ := accepted.copyLength_bounds
  have sourcePort : UDP.sourcePort? packet udpHdr = some (readU16 packet udpHdr.start) :=
    Slice.readU16?_eq_some (by omega)
  have destinationPort : UDP.destinationPort? packet udpHdr =
      some (readU16 packet (udpHdr.start + 2)) :=
    Slice.readU16?_eq_some (by omega)
  have data : UDP.payload? udpHdr = some ⟨udpHdr.start + 8, udpHdr.length - 8⟩ :=
    Slice.from?_eq_some long.le
  have copied : slice? packet 0 (copyLength family packet udpHdr) =
      some (packet.take (copyLength family packet udpHdr)) :=
    slice?_eq_some (Nat.zero_le _) inside
  unfold deliverUDP
  simp only [admitted.source, sourcePort, admitted.destination,
    destinationPort, admitted.unicast, data, udpHeaderLen?_eq admitted.payload,
    Int.toNat_natCast, copied, some_bind,
    pure_def, Bool.not_true, Bool.false_eq_true, if_false]
  rw [if_neg (by omega), if_neg (by omega)]

/-- The packet is delivered, with the headers that are kept for replies. -/
theorem processPacket_udp (env : Env) (state : StackState) :
    ∃ verdict state' data, processPacket system env state packet = some (verdict, state') ∧
      verdict.effects = [.newPacket family ⟨source, readU16 packet udpHdr.start⟩
          ⟨destination, readU16 packet (udpHdr.start + 2)⟩ data
          (packet.take (copyLength family packet udpHdr))] := by
  have admitted := accepted.admitted
  have delivered := deliverUDP_eq accepted
  have processed : processUDP family packet udpHdr = deliverUDP family packet udpHdr := by
    cases family with
    | v4 =>
      obtain ⟨flags, found, last⟩ := accepted.last rfl
      simp only [processUDP, processIPv4UDP, found, accepted.first rfl,
        last, some_bind, ne_eq, not_true_eq_false, if_false]
    | v6 => rfl
  have notTCP : udpProtocolNumber ≠ tcpProtocolNumber := by decide
  rw [processPacket_admitted admitted]
  unfold processTransport transportVerdict
  simp only [accepted.transport, admitted.payload, notTCP, processed,
    delivered, some_bind, pure_def,
    if_true, if_false, map_some]
  exact ⟨_, _, _, rfl, rfl⟩

theorem template_of_accepted (buffer : Bytes) :
    Template family (packet.take (copyLength family packet udpHdr) ++ buffer)
      udpHdr.start source := by
  have admitted := accepted.admitted
  obtain ⟨minimum, behind, inside⟩ := payload?_bounds admitted.valid admitted.payload
  obtain ⟨low, high⟩ := accepted.copyLength_bounds
  have copied := accepted.length_copy
  set b := packet.take (copyLength family packet udpHdr) ++ buffer with b_eq
  have length : copyLength family packet udpHdr ≤ b.length := by
    rw [b_eq, List.length_append, copied]
    omega
  have octets : ∀ k, k < copyLength family packet udpHdr → byteAt b k = byteAt packet k := by
    intro k inside
    rw [b_eq, byteAt_append_left (by omega), byteAt_take inside]
  have first := octets 0 (by omega)
  constructor
  case version =>
    have version := admitted.version
    unfold ipVersion at version
    rw [if_neg (by omega)] at version
    apply UInt8.toNat_inj.mp
    have small : (UInt8.ofNat family.version).toNat = family.version := by
      cases family <;> rfl
    rw [first, small]
    omega
  case header =>
    cases family with
    | v4 =>
      obtain ⟨headerLength, header, start⟩ := headerLength?_of_payload? admitted.payload
      unfold IPv4.headerLength? at header
      rw [byteAt?_eq_some (by omega)] at header
      change ((byteAt b 0 &&& 0x0f) * 4).toNat = udpHdr.start
      rw [first, ← start, ← some.inj header]
    | v6 => exact (start_of_payload?6 admitted.payload).symm
  case behind => exact behind
  case transport =>
    have transport := accepted.transport
    cases family with
    | v4 =>
      change 20 ≤ udpHdr.start at behind
      simp only [transportProtocol?] at transport ⊢
      rw [byteAt?_eq_some (by omega)] at transport ⊢
      rw [octets 9 (by omega)]
      exact transport
    | v6 =>
      simp only [transportProtocol?] at transport ⊢
      rw [byteAt?_eq_some (by omega)] at transport ⊢
      rw [octets 6 (by omega)]
      exact transport
  case sourceAddr =>
    obtain ⟨fits, window_eq⟩ := addrAt?_octets admitted.source
    have field := addressField_inside (.inl rfl : family.AddressField _)
    apply addrAt?_eq_some source (by omega)
    rw [← window_eq]
    exact window_congr (by omega) fits fun k _ high => octets k (by omega)
  case long => omega

/-- What is written for a packet that was delivered. -/
theorem writePacket_accepted {buffer : Bytes} (fits : ReplyFits family udpHdr buffer)
    (sender : AddrPort family) :
    ∃ newPacket, writePacket family
        (packet.take (copyLength family packet udpHdr)) false buffer sender = some newPacket ∧
      UDPReply family sender ⟨source, readU16 packet udpHdr.start⟩
        ⟨udpHdr.start, 8 + buffer.length⟩ newPacket ∧
      UDP.length? newPacket ⟨udpHdr.start, 8 + buffer.length⟩ =
        some (.ofNat (buffer.length + 8)) ∧ ChangedAt (fun k => k < udpHdr.start + 8)
        (packet.take (copyLength family packet udpHdr) ++ buffer)
        newPacket := by
  have admitted := accepted.admitted
  have template := template_of_accepted accepted buffer
  obtain ⟨low, high⟩ := accepted.copyLength_bounds
  have copied := accepted.length_copy
  have length : (packet.take (copyLength family packet udpHdr) ++
      buffer).length = copyLength family packet udpHdr + buffer.length := by
    rw [List.length_append, copied]
  have port : readU16 (packet.take (copyLength family packet udpHdr) ++ buffer)
      udpHdr.start = readU16 packet udpHdr.start := by
    rw [readU16_append_left (by omega)]
    exact readU16_congr (byteAt_take (by omega)) (byteAt_take (by omega))
  have measured : LengthFits family (packet.take (copyLength family packet udpHdr) ++ buffer)
        (8 + buffer.length) ∧ datagramLength family
        (packet.take (copyLength family packet udpHdr) ++ buffer) udpHdr.start
          (8 + buffer.length) = 8 + buffer.length := by
    cases family with
    | v4 =>
      change udpHdr.start + 8 + buffer.length < 65536 at fits
      change _ = udpHdr.start + 8 + buffer.length at length
      constructor
      · change _ < 65536
        omega
      · change _ - udpHdr.start = _
        omega
    | v6 =>
      have start := start_of_payload?6 admitted.payload
      exact ⟨⟨fits, by omega⟩, rfl⟩
  obtain ⟨lengthFits, span⟩ := measured
  obtain ⟨newPacket, written, reply, udpLength, change⟩ :=
    writePacket_spec template lengthFits (by omega) sender
  rw [span, port] at reply
  rw [span] at udpLength
  exact ⟨newPacket, written, reply, udpLength, change⟩

/--
The replies to a packet are correct, but for IPv6 only if the packet ends where
its payload ends.
-/
theorem udpReply_correct_iff (software : system.txChecksumOffload = false) (env : Env)
    (state : StackState) :
    ∃ verdict state' data headerCopy,
      processPacket system env state packet = some (verdict, state') ∧
      verdict.effects = [.newPacket family ⟨source, readU16 packet udpHdr.start⟩
          ⟨destination, readU16 packet (udpHdr.start + 2)⟩ data headerCopy] ∧
      ∀ (buffer : Bytes) (sender : AddrPort family), ReplyFits family udpHdr buffer →
          ((∃ newPacket replyHdr, writePacket family headerCopy
              system.txChecksumOffload buffer sender = some newPacket ∧
            CorrectReply family sender ⟨source, readU16 packet udpHdr.start⟩
              buffer replyHdr newPacket) ↔
            (family = .v6 → udpHdr.start + udpHdr.length = packet.length)) := by
  have admitted := accepted.admitted
  obtain ⟨verdict, state', data, processed, effects⟩ := processPacket_udp accepted env state
  refine ⟨verdict, state', data, _, processed, effects, ?_⟩
  intro buffer sender fits
  rw [software]
  obtain ⟨low, high⟩ := accepted.copyLength_bounds
  obtain ⟨newPacket, written, reply, udpLength, change⟩ := writePacket_accepted accepted fits sender
  have copied := accepted.length_copy
  have length : newPacket.length = copyLength family packet udpHdr + buffer.length := by
    rw [change.length, List.length_append, copied]
  have ends : copyLength family packet udpHdr = udpHdr.start + 8 ↔
      (family = .v6 → udpHdr.start + udpHdr.length = packet.length) := by
    obtain ⟨inside, -⟩ := payload?_cases admitted.payload
    unfold Slice.Inside at inside
    cases family with
    | v4 => exact iff_of_true rfl nofun
    | v6 =>
      change packet.length - udpHdr.length + 8 = udpHdr.start + 8 ↔ _
      constructor
      · intro same _
        omega
      · intro whole
        have := whole rfl
        omega
  rw [← ends]
  constructor
  · rintro ⟨newPacket', replyHdr, written', correct⟩
    cases written.symm.trans written'
    cases reply.addressed.located.symm.trans correct.fields.addressed.located
    have whole := correct.whole
    dsimp only at whole
    omega
  · intro same
    refine ⟨newPacket, _, written, reply, ?_, ⟨_, udpLength, ?_⟩, ?_⟩
    · dsimp only
      omega
    · have small := length_lt_of_payload? reply.addressed.located
      dsimp only at small ⊢
      rw [UInt16.toNat_ofNat']
      omega
    · change newPacket.drop (udpHdr.start + 8) = buffer
      rw [change.drop_eq, ← same, List.drop_left' copied]

end Requests

/-- A UDP packet from `10.0.0.9` to `1.2.3.4` with one octet. -/
def udpRequest : Bytes :=
  [0x45, 0, 0, 29, 0, 0, 0, 0, 64, 17, 0, 0, 10, 0, 0, 9, 1, 2, 3, 4, 3, 232, 0, 53, 0, 9, 0, 0, 7]

theorem udpReply_correct_sample :
    ∃ verdict state' data headerCopy, processPacket plainSystem (.filled 0)
        ⟨newNat (AddrPort .v4) 5, newNat (AddrPort .v6) 5⟩ udpRequest =
          some (verdict, state') ∧ verdict.effects =
        [.newPacket .v4 ⟨.from4 10 0 0 9, 1000⟩ ⟨.from4 1 2 3 4, 53⟩ data headerCopy] ∧
      ∃ newPacket replyHdr, writePacket .v4 headerCopy false [1, 2, 3]
          ⟨.from4 1 2 3 4, 53⟩ = some newPacket ∧
        CorrectReply .v4 ⟨.from4 1 2 3 4, 53⟩ ⟨.from4 10 0 0 9, 1000⟩
          [1, 2, 3] replyHdr newPacket := by
  have admitted : Admitted plainSystem udpRequest .v4 ⟨20, 9⟩
      (.from4 10 0 0 9) (.from4 1 2 3 4) := by
    constructor <;> decide
  have accepted : AcceptedUDP plainSystem udpRequest .v4 ⟨20, 9⟩
      (.from4 10 0 0 9) (.from4 1 2 3 4) :=
    ⟨admitted, by decide, fun _ => ⟨0, by decide, by decide⟩, fun _ => by decide, by decide⟩
  obtain ⟨verdict, state', data, headerCopy, processed, effects, replies⟩ :=
    udpReply_correct_iff accepted rfl (.filled 0) ⟨newNat (AddrPort .v4) 5, newNat (AddrPort .v6) 5⟩
  exact ⟨verdict, state', data, headerCopy, processed, effects,
    (replies [1, 2, 3] ⟨.from4 1 2 3 4, 53⟩ (show 20 + 8 + 3 < 65536 by
      decide)).mpr (by decide)⟩

/-- The endpoints of a packet over IPv6. -/
def clientAddr6 : Addr .v6 :=
  ⟨[0xfd, 0, 0, 0, 0, 0, 0, 0, 0, 0, 0, 0, 0, 0, 0, 9], rfl⟩

@[inherit_doc clientAddr6]
def serverAddr6 : Addr .v6 :=
  ⟨[0x20, 1, 0x0d, 0xb8, 0, 0, 0, 0, 0, 0, 0, 0, 0, 0, 0, 1], rfl⟩

/-- A UDP packet with the octet 7, and an octet behind the packet. -/
def trailedRequest : Bytes :=
  [0x60, 0, 0, 0, 0, 9, 17, 64] ++ clientAddr6.octets ++
    serverAddr6.octets ++ [3, 232, 0, 53, 0, 9, 0, 0, 7, 0]

/-- The first octet of the request is sent back in place of the reply. -/
theorem udpReply_shifted :
    AcceptedUDP plainSystem trailedRequest .v6 ⟨40, 9⟩ clientAddr6 serverAddr6 ∧
      (∃ verdict state' data, processPacket plainSystem (.filled 0)
          ⟨newNat (AddrPort .v4) 5, newNat (AddrPort .v6) 5⟩ trailedRequest =
            some (verdict, state') ∧ verdict.effects =
          [.newPacket .v6 ⟨clientAddr6, 1000⟩ ⟨serverAddr6, 53⟩ data (trailedRequest.take 49)]) ∧
      ∃ newPacket, writePacket .v6 (trailedRequest.take 49) false [1]
          ⟨serverAddr6, 53⟩ = some newPacket ∧
        payload? .v6 newPacket = some ⟨40, 9⟩ ∧ newPacket.drop 48 = [7, 1] ∧
        ∀ replyHdr, ¬CorrectReply .v6 ⟨serverAddr6, 53⟩ ⟨clientAddr6, 1000⟩
          [1] replyHdr newPacket := by
  have admitted : Admitted plainSystem trailedRequest .v6 ⟨40, 9⟩ clientAddr6
      serverAddr6 := by
    constructor <;> decide
  have accepted : AcceptedUDP plainSystem trailedRequest .v6 ⟨40, 9⟩ clientAddr6 serverAddr6 :=
    ⟨admitted, by decide, nofun, nofun, by decide⟩
  obtain ⟨newPacket, written, reply, -, change⟩ := @writePacket_accepted .v6
    plainSystem trailedRequest ⟨40, 9⟩ clientAddr6 serverAddr6 accepted [1]
    (show 8 + 1 < 65536 by decide) ⟨serverAddr6, 53⟩
  have length : newPacket.length = 50 := change.length
  refine ⟨accepted, processPacket_udp accepted _ _, newPacket, written,
    reply.addressed.located, change.drop_eq, ?_⟩
  intro replyHdr correct
  cases reply.addressed.located.symm.trans correct.fields.addressed.located
  have whole := correct.whole
  rw [length] at whole
  cases whole

end SingTun.System
