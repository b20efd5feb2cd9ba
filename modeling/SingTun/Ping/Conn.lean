import SingTun.Ping.SourceRewriter

/-!
# The connection of a ping destination

`ReadIP` makes the packet for the client from what the socket delivers, and
`WriteIP` takes the message for the socket from a packet of the client.  Both
replace the identifier of the message by its complement.  `none` is a panic.
-/

namespace SingTun.Ping

open Foundation Header List

/-- Where the program runs, as far as the connection depends on it. -/
structure Platform where
  /-- `isLinuxUnprivileged`. -/
  linuxUnprivileged : Bool
  /-- `runtime.GOOS` is `darwin` or `ios`. -/
  darwin : Bool
  /-- A message that is too long for a buffer is cut off; if not, the read
  fails. -/
  cutsOff : Bool

/-- `maxICMPPacketSize`. -/
def maxICMPPacketSize : Nat := 2048

inductive ReadError
  | messageTooLong
  | invalidHeader
deriving DecidableEq

/-! ## Reading -/

/-- What the sockets of Darwin make of an IPv4 header: the length is without
that of the header, and both words are in the order of the host. -/
def darwinRaw (packet : Bytes) : Bytes :=
  let headerLength := (byteAt packet 0 &&& 0x0f) * 4
  let packet := writeU16 packet 2 (swapOctets (readU16 packet 2 - headerLength.toUInt16))
  writeU16 packet 6 (swapOctets (readU16 packet 6))

/-- The fields of the header in the order of the wire, as they are read from the
raw packet; not all flags survive. -/
def restoreHeader? (ipHdr : Bytes) : Option Bytes := do
  let totalLength ← IPv4.totalLengthDarwinRaw? ipHdr
  let ipHdr ← IPv4.setTotalLength? ipHdr totalLength
  let flags ← IPv4.flagsDarwinRaw? ipHdr
  let fragmentOffset ← IPv4.fragmentOffsetDarwinRaw? ipHdr
  IPv4.setFlagsFragmentOffset? ipHdr flags fragmentOffset

/-- The checksum of the message of a packet is computed again. -/
def sealOwn? (family : Family) (packet : Bytes) (icmpHdr : Slice) : Option Bytes :=
  match family with
  | .v4 => sealICMPv4? packet icmpHdr
  | .v6 => sealMessage? .v6 packet icmpHdr

namespace Platform

variable (platform : Platform) {family : Family}

/-- A read into a buffer with `room` octets. -/
def receive (room : Nat) (octets : Bytes) : Except ReadError Bytes :=
  if octets.length ≤ room ∨ platform.cutsOff then .ok (octets.take room)
  else .error .messageTooLong

/-- What a raw socket delivers of a packet. -/
def rawPacket (family : Family) (packet : Bytes) : Bytes :=
  if platform.darwin ∧ family = .v4 then darwinRaw packet else packet

def restore? (family : Family) (packet : Bytes) : Option Bytes :=
  if platform.darwin ∧ family = .v4 then restoreHeader? packet
  else some packet

def ownIdent? (packet : Bytes) (icmpHdr : Slice) : Option Bytes :=
  if platform.linuxUnprivileged then some packet
  else complementIdent? packet icmpHdr

variable (source : Option (Addr family))

/-- The address of the client, its identifier and the checksums. -/
def forClient? (packet : Bytes) : Option Bytes := do
  let packet ← copyAddr? family packet family.dstAddr (source.map (Sigma.mk family))
  let packet ← sealHeader? family packet
  let icmpHdr ← payload? family packet
  let packet ← platform.ownIdent? packet icmpHdr
  sealOwn? family packet icmpHdr

/-- `ReadIP` of a raw socket, after the read. -/
def readPacket? (packet : Bytes) : Option (Except ReadError Bytes) := do
  let packet ← platform.restore? family packet
  if ¬isValid family packet packet.length then some (.error .invalidHeader)
  else
    let packet ← platform.forClient? source packet
    some (.ok packet)

/-- `ReadIP` with `readMsg`, up to the header: the message of the client. -/
def readMessage? (addr : Addr family) (message : Bytes) : Option Bytes :=
  let icmpHdr : Slice := ⟨0, message.length⟩
  match family with
  | .v4 =>
    if platform.linuxUnprivileged then some message
    else do
      let message ← complementIdent? message icmpHdr
      sealICMPv4? message icmpHdr
  | .v6 => do
      let message ← platform.ownIdent? message icmpHdr
      sealICMPv6? addr.octets (source.elim [] Addr.octets) message icmpHdr

end Platform

/-- What `readMsg` returns, and what the buffer holds at the place of the
destination address. -/
structure Datagram (family : Family) where
  octets : Bytes
  addr : Addr family
  trafficClass : UInt8
  /-- `TTL` and `HopLimit`. -/
  hopLimit : UInt8
  residue : Addr family

/-- `Encode`; without a source nothing is copied to the destination address. -/
def Datagram.encode {family : Family} (datagram : Datagram family)
    (source : Option (Addr family)) (message : Bytes) : Bytes :=
  let addresses := datagram.addr.octets ++ (source.getD datagram.residue).octets
  match family with
  | .v4 =>
    writeU16 ([0x45, 0, 0, 0, 0, 0, 0, 0, datagram.hopLimit,
      icmpv4ProtocolNumber, 0, 0] ++ addresses ++ message) 2 (UInt16.ofNat (20 + message.length))
  | .v6 =>
    writeU16 ([(0x60 : UInt8) ||| (datagram.trafficClass >>> 4),
      datagram.trafficClass <<< 4, 0, 0, 0, 0, icmpv6ProtocolNumber,
        datagram.hopLimit] ++ addresses ++ message) 4 (UInt16.ofNat message.length)

/-- `ReadIP` with `readMsg`, from the header on. -/
def Datagram.readHeader? {family : Family} (datagram : Datagram family)
    (source : Option (Addr family)) (message : Bytes) : Option Bytes :=
  sealHeader? family (datagram.encode source message)

/-- What the socket has for a read. -/
inductive Message (family : Family)
  | packet (octets : Bytes)
  | datagram (received : Datagram family)

namespace Message

variable {family : Family}

/-- The octets of the message, as they were on the wire. -/
def icmp : Message family → Bytes
  | .packet octets =>
    (payload? family octets).elim [] fun icmpHdr => icmpHdr.octets octets
  | .datagram received => received.octets

def sender? : Message family → Option (Addr family)
  | .packet octets => sourceAddr? family octets
  | .datagram received => some received.addr

/-- An ICMP message with at least 8 octets. -/
def WellFormed : Message family → Prop
  | .packet octets =>
    isValid family octets octets.length = true ∧
      transportProtocol? family octets = some (ICMP.protocolNumber family) ∧
      ∃ icmpHdr, payload? family octets = some icmpHdr ∧
        icmpHdr.start + icmpHdr.length = octets.length ∧ 8 ≤ icmpHdr.length
  | .datagram received => 8 ≤ received.octets.length

/-- What is read of the message is a packet. -/
def Fits (platform : Platform) : Message family → Prop
  | .packet octets => octets.length ≤ maxICMPPacketSize
  | .datagram received =>
    received.octets.length ≤ maxICMPPacketSize - family.minimumSize ∨ platform.cutsOff = true

end Message

/-! ## Writing -/

namespace Platform

variable (platform : Platform)

/-- The message of the socket, in its packet. -/
def writeMessage? (family : Family) (packet : Bytes) (icmpHdr : Slice) : Option Bytes :=
  if platform.linuxUnprivileged then some packet
  else do
    let packet ← complementIdent? packet icmpHdr
    sealOwn? family packet icmpHdr

/-- `WriteIP`: the address of the client, and what is written. -/
def writeIP? (family : Family) (packet : Bytes) : Option (Addr family × Bytes) := do
  let icmpHdr ← payload? family packet
  let packet ← platform.writeMessage? family packet icmpHdr
  let source ← sourceAddr? family packet
  some (source, icmpHdr.octets packet)

end Platform

/-! ## What the socket delivers -/

section Received

theorem take_darwinRaw {packet : Bytes} {count : Nat} (front : 20 ≤ count) :
    (darwinRaw packet).take count = darwinRaw (packet.take count) := by
  have octet : byteAt (packet.take count) 0 = byteAt packet 0 := byteAt_take (by omega)
  have word : ∀ (b : Bytes) (position : Nat), position + 1 < count →
      readU16 (b.take count) position = readU16 b position := by
    intro b position inside
    exact readU16_congr (byteAt_take (by omega)) (byteAt_take inside)
  unfold darwinRaw
  dsimp only
  rw [take_writeU16, octet, word packet 2 (by omega), ← take_writeU16 packet, word _ 6 (by omega)]

/-- The word of the flags and the fragment offset may change, and nothing
else: the flags are read from the word of the raw header as it stands. -/
theorem restoreHeader?_darwinRaw {packet : Bytes} (long : 20 ≤ packet.length) :
    ∃ packet', restoreHeader? (darwinRaw packet) = some packet' ∧
      ChangedAt (fun k => k = 6 ∨ k = 7) packet packet' ∧ readU16 packet' 6 =
        (((swapOctets (readU16 packet 6)) >>> 13).toUInt8.toUInt16 <<< 13) |||
          ((readU16 packet 6 <<< 3) >>> 3) := by
  set headerLength := (byteAt packet 0 &&& 0x0f) * 4 with headerLength_eq
  set total := readU16 packet 2 with total_eq
  have length : (darwinRaw packet).length = packet.length := by
    unfold darwinRaw
    rw [length_writeU16, length_writeU16]
  have change : ChangedAt (fun k => k = 2 ∨ k = 3 ∨ k = 6 ∨ k = 7) packet (darwinRaw packet) := by
    exact (ChangedAt.writeU16 _ (by omega) (by omega)).trans
      (ChangedAt.writeU16 _ (by omega) (by omega))
  have header : IPv4.headerLength? (darwinRaw packet) = some headerLength := by
    unfold IPv4.headerLength?
    rw [byteAt?_eq_some (by omega), change.octets 0 (by omega)]
    rfl
  have stored : readU16 (darwinRaw packet) 2 = swapOctets (total - headerLength.toUInt16) := by
    unfold darwinRaw
    dsimp only
    rw [readU16_writeU16_of_disjoint (by omega), readU16_writeU16_self (by omega)]
  have restored : IPv4.totalLengthDarwinRaw? (darwinRaw packet) = some total := by
    unfold IPv4.totalLengthDarwinRaw? IPv4.nativeU16?
    rw [readU16?_eq_some (by omega), stored, header]
    simp only [some_bind, Option.pure_def]
    rw [swapOctets_swapOctets, UInt16.sub_add_cancel]
  unfold restoreHeader? IPv4.flagsDarwinRaw? IPv4.fragmentOffsetDarwinRaw?
    IPv4.nativeU16? IPv4.setTotalLength? IPv4.setFlagsFragmentOffset?
  rw [bind_of_eq_some restored]
  rw [bind_of_eq_some (writeU16?_eq_some _ (by omega))]
  rw [readU16?_eq_some (by rw [length_writeU16]; omega)]
  simp only [some_bind, Option.pure_def]
  rw [writeU16?_eq_some _ (by rw [length_writeU16]; omega)]
  have raw : readU16 (writeU16 (darwinRaw packet) 2 total) 6 = swapOctets (readU16 packet 6) := by
    rw [readU16_writeU16_of_disjoint (by omega)]
    unfold darwinRaw
    rw [readU16_writeU16_self (by rw [length_writeU16]; omega),
      readU16_writeU16_of_disjoint (by omega)]
  refine ⟨_, rfl, ⟨?_, ?_⟩, ?_⟩
  · rw [length_writeU16, length_writeU16, length]
  · intro k outside
    rw [byteAt_writeU16_of_ne (by omega)]
    by_cases here : k = 2 ∨ k = 2 + 1
    · exact byteAt_writeU16_readU16 (by omega) here
    · rw [byteAt_writeU16_of_ne (by omega)]
      exact change.octets k (by omega)
  · rw [readU16_writeU16_self (by rw [length_writeU16]; omega), raw, swapOctets_swapOctets]

variable {platform : Platform} {family : Family}

theorem length_rawPacket (packet : Bytes) :
    (platform.rawPacket family packet).length = packet.length := by
  unfold Platform.rawPacket
  split
  · unfold darwinRaw
    rw [length_writeU16, length_writeU16]
  · rfl

/-- The length of a packet, by its header. -/
def totalSize : Family → Bytes → Nat
  | .v4, b => (readU16 b 2).toNat
  | .v6, b => 40 + (readU16 b 4).toNat

theorem totalSize_le_of_isValid {b : Bytes} (valid : isValid family b b.length = true) :
    totalSize family b ≤ b.length := by
  cases family with
  | v4 => exact (isValid4_iff.mp valid).2.2.2.1
  | v6 => exact (isValid6_iff.mp valid).2.1

theorem totalSize_of_payload?
    {b : Bytes} {payload : Slice} (valid : isValid family b b.length = true)
    (found : payload? family b = some payload) :
    payload.start + payload.length = totalSize family b := by
  cases family with
  | v4 =>
    obtain ⟨long, -, ordered, total, -⟩ := isValid4_iff.mp valid
    rw [payload?_eq4 (by omega) ordered total] at found
    cases found
    exact Nat.add_sub_of_le ordered
  | v6 =>
    obtain ⟨-, total, -⟩ := isValid6_iff.mp valid
    rw [payload?_eq6 total] at found
    cases found
    rfl

theorem totalSize_take {b : Bytes} {count : Nat} (front : family.minimumSize ≤ count) :
    totalSize family (b.take count) = totalSize family b := by
  cases family with
  | v4 =>
    change 20 ≤ count at front
    show (readU16 _ 2).toNat = (readU16 b 2).toNat
    rw [readU16_congr (byteAt_take (by omega)) (byteAt_take (by omega))]
  | v6 =>
    change 40 ≤ count at front
    show 40 + (readU16 _ 4).toNat = 40 + (readU16 b 4).toNat
    rw [readU16_congr (byteAt_take (by omega)) (byteAt_take (by omega))]

/-- The octets that differ after a packet has come through a socket. -/
def RawOctet (family : Family) (k : Nat) : Prop :=
  family = .v4 ∧ (k = 6 ∨ k = 7)

theorem rawOctet_layout {k : Nat} (layout : LayoutOctet family k) : ¬RawOctet family k := by
  rintro ⟨rfl, flags⟩
  simp only [LayoutOctet] at layout
  omega

/-- What the socket has done to a header is undone, also if the packet is cut
off. -/
theorem restore?_rawPacket
    {octets : Bytes} {count : Nat} (long : family.minimumSize ≤ octets.length)
    (front : family.minimumSize ≤ count) :
    ∃ packet, platform.restore? family
        ((platform.rawPacket family octets).take count) = some packet ∧
      ChangedAt (RawOctet family) (octets.take count) packet := by
  unfold Platform.restore? Platform.rawPacket
  split
  · rename_i darwin
    obtain ⟨-, rfl⟩ := darwin
    change 20 ≤ octets.length at long
    change 20 ≤ count at front
    rw [take_darwinRaw front]
    obtain ⟨packet, restores, change, -⟩ := @restoreHeader?_darwinRaw
      (octets.take count) (by rw [length_take]; omega)
    exact ⟨packet, restores, change.mono fun k flags => ⟨rfl, flags⟩⟩
  · exact ⟨_, rfl, .refl⟩

end Received

/-! ## The packet for the client -/

section Client

variable {platform : Platform} {family : Family} {packet : Bytes} {icmpHdr : Slice}

/-- The octets that are stored for the client. -/
def ClientOctet (family : Family) (icmpHdr : Slice) (k : Nat) : Prop :=
  (family.dstAddr ≤ k ∧ k < family.dstAddr + family.addressSize) ∨
    HeaderSumOctet family k ∨ EchoOctet icmpHdr k

/-- A packet to the client, whose checksums are valid. -/
structure ForClient (client : Addr family) (packet : Bytes) (icmpHdr : Slice) :
    Prop where
  destinationAddr : destinationAddr? family packet = some client
  header : HeaderChecksumValid family packet icmpHdr
  message : ∃ source, sourceAddr? family packet = some source ∧
    MessageChecksumValid family source.octets client.octets (icmpHdr.octets packet)

theorem sealOwn?_eq {source destination : Addr family}
    (from' : sourceAddr? family packet = some source)
    (to' : destinationAddr? family packet = some destination) :
    sealOwn? family packet icmpHdr =
      sealEcho? family source.octets destination.octets packet icmpHdr := by
  cases family with
  | v4 => rfl
  | v6 =>
    unfold sealOwn? sealMessage?
    rw [from', to']
    rfl

/-- The address fields are in front of the message. -/
theorem addrAt?_echo {packet' : Bytes} {position : Nat} {addr : Addr family}
    (field : family.AddressField position)
    (behind : family.minimumSize ≤ icmpHdr.start)
    (change : ChangedAt (EchoOctet icmpHdr) packet packet')
    (found : addrAt? family packet position = some addr) :
    addrAt? family packet' position = some addr := by
  have front := addressField_inside field
  refine addrAt?_congr change found ?_
  rintro k low high ⟨inside, -⟩
  omega

theorem clientOctet_layout (behind : family.minimumSize ≤ icmpHdr.start) {k : Nat}
    (layout : LayoutOctet family k) :
    ¬ClientOctet family icmpHdr k := by
  have kept := layout_kept (.inr rfl) layout
  rintro (address | sum | ⟨low, -⟩)
  · exact kept (.inl address)
  · exact kept (.inr sum)
  · cases family with
    | v4 =>
      change 20 ≤ icmpHdr.start at behind
      simp only [LayoutOctet] at layout
      omega
    | v6 =>
      change 40 ≤ icmpHdr.start at behind
      simp only [LayoutOctet] at layout
      omega

/-- The address, the identifier and the checksums are replaced. -/
theorem forClient?_spec (filtered : platform.linuxUnprivileged = false)
    (valid : isValid family packet packet.length = true)
    (found : payload? family packet = some icmpHdr)
    (long : 8 ≤ icmpHdr.length) (source : Option (Addr family)) :
    ∃ packet', platform.forClient? source packet = some packet' ∧
      ChangedAt (ClientOctet family icmpHdr) packet packet' ∧ readU16 packet' (icmpHdr.start + 4) =
        ~~~readU16 packet (icmpHdr.start + 4) ∧
      ∀ client, source = some client → ForClient client packet' icmpHdr := by
  obtain ⟨size, behind, inside⟩ := payload?_bounds valid found
  have small := length_lt_of_payload? found
  -- The destination address and the checksum of the header.
  obtain ⟨copied, sealed, copies, seals, change, sealedFound, headerValid,
    stored⟩ := @readdress_spec family packet icmpHdr _ (.inr rfl) valid found
      (source.map (Sigma.mk family))
  have field := addressField_inside (.inr rfl : family.AddressField family.dstAddr)
  have sealWide : ChangedAt (ClientOctet family icmpHdr) packet sealed :=
    change.mono fun k octet => octet.imp_right .inl
  have sealFront : ChangedAt (fun k => k < family.minimumSize) packet sealed := by
    refine change.mono fun k octet => ?_
    rcases octet with ⟨-, high⟩ | ⟨rfl, sum⟩
    · omega
    · show k < 20
      omega
  have sealedInside : icmpHdr.Inside sealed := le_of_le_of_eq inside sealWide.length.symm
  have sealedSize : family.minimumSize ≤ sealed.length := le_of_le_of_eq size sealWide.length.symm
  obtain ⟨sender, from'⟩ := exists_sourceAddr? sealedSize
  obtain ⟨receiver, to'⟩ := exists_destinationAddr? sealedSize
  -- The identifier and the checksum of the message.
  obtain ⟨middle, packet', complements, middleChange, messageSeals, change,
    ident, messageValid⟩ := complementIdent_seal family sender.octets
      receiver.octets (by omega) small sealedInside
  have own : sealOwn? family middle icmpHdr = some packet' := by
    rw [sealOwn?_eq (addrAt?_echo (.inl rfl) behind middleChange from')
      (addrAt?_echo (.inr rfl) behind middleChange to')]
    exact messageSeals
  refine ⟨packet', ?_, ?_, ?_, ?_⟩
  · unfold Platform.forClient? Platform.ownIdent?
    rw [filtered]
    simp only [copies, seals, sealedFound, complements, own,
      some_bind, Bool.false_eq_true, if_false]
  · exact sealWide.trans (change.mono fun k octet => .inr (.inr octet))
  · rw [ident, sealFront.readU16_eq (by omega) (by omega)]
  · rintro client rfl
    have destination := stored client rfl
    cases to'.symm.trans destination
    refine ⟨addrAt?_echo (.inr rfl) behind change to', ?_, sender,
      addrAt?_echo (.inl rfl) behind change from', messageValid⟩
    exact headerValid.congr change fun k octet => by
      have := octet.1
      omega

/-- The packet of a message, with the identifier of the client. -/
structure ReadBack (message : Message family) (packet : Bytes)
    (icmpHdr : Slice) : Prop where
  valid : isValid family packet packet.length = true
  protocol : transportProtocol? family packet = some (ICMP.protocolNumber family)
  payload : payload? family packet = some icmpHdr
  long : 8 ≤ icmpHdr.length
  sender : sourceAddr? family packet = message.sender?
  type : byteAt packet icmpHdr.start = byteAt message.icmp 0
  ident : readU16 packet (icmpHdr.start + 4) = ~~~readU16 message.icmp 4
  sequence : readU16 packet (icmpHdr.start + 6) = readU16 message.icmp 6

/-- No octet in front of the message but those of its destination and its
checksum is stored. -/
theorem clientOctet_source (behind : family.minimumSize ≤ icmpHdr.start) {k : Nat}
    (low : family.srcAddr ≤ k)
    (high : k < family.srcAddr + family.addressSize) :
    ¬ClientOctet family icmpHdr k := by
  have front := addressField_inside (.inl rfl : family.AddressField family.srcAddr)
  rintro (⟨above, -⟩ | ⟨rfl, sum⟩ | ⟨inside, -⟩)
  · cases family with
    | v4 =>
      change k < 16 at high
      change 16 ≤ k at above
      omega
    | v6 =>
      change k < 24 at high
      change 24 ≤ k at above
      omega
  · change 12 ≤ k at low
    omega
  · omega

/-- A packet of the socket that has its whole length. -/
theorem readPacket?_spec (filtered : platform.linuxUnprivileged = false) {octets : Bytes}
    (wellFormed : (Message.packet octets : Message family).WellFormed)
    (fits : (Message.packet octets : Message family).Fits platform)
    (source : Option (Addr family)) :
    ∃ packet icmpHdr, platform.readPacket? source
        ((platform.rawPacket family octets).take maxICMPPacketSize) = some (.ok packet) ∧
      ReadBack (.packet octets : Message family) packet icmpHdr ∧
      ∀ client, source = some client → ForClient client packet icmpHdr := by
  obtain ⟨valid, protocol, icmpHdr, found, -, long⟩ := wellFormed
  obtain ⟨size, behind, inside⟩ := payload?_bounds valid found
  obtain ⟨packet, restores, raw⟩ := @restore?_rawPacket platform family octets
    maxICMPPacketSize size (by cases family <;> decide)
  rw [take_of_length_le fits] at raw
  have layout : ∀ k, LayoutOctet family k → ¬RawOctet family k :=
    fun k octet => rawOctet_layout octet
  have packetValid : isValid family packet packet.length = true :=
    (isValid_congr raw layout).trans valid
  have packetFound := (payload?_congr raw layout).trans found
  obtain ⟨packet', makes, change, ident, forClient⟩ :=
    forClient?_spec filtered packetValid packetFound long source
  have front : ∀ k, icmpHdr.start ≤ k → ¬RawOctet family k := by
    rintro k low ⟨rfl, flags⟩
    change 20 ≤ icmpHdr.start at behind
    omega
  have kept : ∀ k, LayoutOctet family k → ¬ClientOctet family icmpHdr k :=
    fun k octet => clientOctet_layout behind octet
  -- The octets of the message that are not stored.
  have message : ∀ k, k < icmpHdr.length → ¬EchoOctet icmpHdr (icmpHdr.start + k) →
      byteAt packet' (icmpHdr.start + k) = byteAt (icmpHdr.octets octets) k := by
    intro k short outside
    rw [change.octets, raw.octets _ (front _ (by omega))]
    · exact (byteAt_window short).symm
    · have field := addressField_inside (.inr rfl : family.AddressField family.dstAddr)
      rintro (⟨-, high⟩ | ⟨rfl, sum⟩ | echo)
      · omega
      · change 20 ≤ icmpHdr.start at behind
        omega
      · exact outside echo
  have icmp : (Message.packet octets : Message family).icmp = icmpHdr.octets octets := by
    show ((payload? family octets).elim [] fun icmpHdr =>
      icmpHdr.octets octets) = _
    rw [found]
    rfl
  refine ⟨packet', icmpHdr, ?_, ?_, forClient⟩
  · unfold Platform.readPacket?
    simp only [restores, packetValid, makes, some_bind, not_true_eq_false, if_false]
  · constructor
    case valid => exact (isValid_congr change kept).trans packetValid
    case protocol =>
      rw [transportProtocol?_congr change kept, transportProtocol?_congr raw layout]
      exact protocol
    case payload => exact (payload?_congr change kept).trans packetFound
    case long => exact long
    case sender =>
      obtain ⟨sender, from'⟩ := exists_sourceAddr? size
      refine Eq.trans (addrAt?_congr change (addrAt?_congr raw from' ?_) ?_) from'.symm
      · rintro k low - ⟨rfl, flags⟩
        change 12 ≤ k at low
        omega
      · intro k low high
        exact clientOctet_source behind low high
    case type =>
      rw [icmp]
      exact message 0 (by omega) (by rintro ⟨low, -⟩; omega)
    case ident =>
      have word : readU16 packet (icmpHdr.start + 4) = readU16 octets (icmpHdr.start + 4) :=
        raw.readU16_eq (front _ (by omega)) (front _ (by omega))
      rw [ident, word, icmp]
      refine congrArg _ (readU16_congr ?_ ?_)
      · exact (byteAt_window (by omega)).symm
      · exact (@byteAt_window octets icmpHdr.start icmpHdr.length 5 (by omega)).symm
    case sequence =>
      rw [icmp]
      apply readU16_congr
      · exact message 6 (by omega) (by rintro ⟨-, high⟩; omega)
      · exact message 7 (by omega) (by rintro ⟨-, high⟩; omega)

/-- A packet of the socket that was cut off. -/
theorem readPacket?_cut {octets : Bytes}
    (wellFormed : (Message.packet octets : Message family).WellFormed)
    (large : maxICMPPacketSize < octets.length) (source : Option (Addr family)) :
    platform.readPacket? source ((platform.rawPacket family octets).take maxICMPPacketSize) =
        some (.error .invalidHeader) := by
  obtain ⟨valid, -, icmpHdr, found, whole, -⟩ := wellFormed
  obtain ⟨size, -⟩ := payload?_of_isValid valid
  have room : family.minimumSize ≤ maxICMPPacketSize := by
    cases family <;> decide
  obtain ⟨packet, restores, raw⟩ := @restore?_rawPacket platform family octets
    maxICMPPacketSize size room
  have total := totalSize_of_payload? valid found
  have invalid : ¬isValid family packet packet.length = true := by
    intro packetValid
    rw [isValid_congr raw fun k octet => rawOctet_layout octet] at packetValid
    have bound := totalSize_le_of_isValid packetValid
    rw [totalSize_take room, length_take] at bound
    omega
  unfold Platform.readPacket?
  simp only [restores, some_bind]
  rw [if_pos invalid]

theorem octets_whole (message : Bytes) :
    (⟨0, message.length⟩ : Slice).octets message = message := by
  unfold Slice.octets window
  rw [drop_zero, take_length]

/-- The message of a datagram. -/
theorem readMessage?_spec (filtered : platform.linuxUnprivileged = false) {message : Bytes}
    (long : 8 ≤ message.length)
    (small : message.length < 65536)
    (source : Option (Addr family)) (addr : Addr family) :
    ∃ body, platform.readMessage? source addr message = some body ∧
      ChangedAt (EchoOctet ⟨0, message.length⟩) message body ∧
      readU16 body 4 = ~~~readU16 message 4 ∧ ∀ client, source = some client →
        MessageChecksumValid family addr.octets client.octets body := by
  have inside : (⟨0, message.length⟩ : Slice).Inside message := by
    show 0 + message.length ≤ message.length
    omega
  obtain ⟨middle, body, complements, -, seals, change, ident, valid⟩ :=
    @complementIdent_seal message ⟨0, message.length⟩ family addr.octets
      (source.elim [] Addr.octets) (Nat.le_trans (by decide) long) small inside
  refine ⟨body, ?_, change, ?_, ?_⟩
  · unfold Platform.readMessage? Platform.ownIdent?
    cases family with
    | v4 =>
      simp only [filtered, complements, Bool.false_eq_true, if_false,
        some_bind]
      exact seals
    | v6 =>
      simp only [filtered, complements, Bool.false_eq_true, if_false,
        some_bind]
      exact seals
  · have start : (⟨0, message.length⟩ : Slice).start + 4 = 4 := rfl
    exact ident
  · rintro client rfl
    rw [← octets_whole body, change.length]
    exact valid

/-- What `Encode` has written. -/
structure Encoded (datagram : Datagram family) (source : Option (Addr family))
    (message packet : Bytes) : Prop where
  valid : isValid family packet packet.length = true
  protocol : transportProtocol? family packet = some (ICMP.protocolNumber family)
  payload : payload? family packet = some ⟨family.minimumSize, message.length⟩
  sender : sourceAddr? family packet = some datagram.addr
  destination : destinationAddr? family packet = some (source.getD datagram.residue)
  octets : packet.drop family.minimumSize = message

/-- The addresses and the message, behind the first part of a header. -/
theorem addresses_of_drop {message : Bytes} {source destination : Addr family}
    (behind : packet.drop family.srcAddr = source.octets ++ (destination.octets ++ message)) :
    sourceAddr? family packet = some source ∧ destinationAddr? family packet = some destination ∧
      packet.drop family.minimumSize = message := by
  have first := source.length_octets
  have second := destination.length_octets
  have next : family.dstAddr = family.srcAddr + family.addressSize := by
    cases family <;> rfl
  have last : family.minimumSize = family.dstAddr + family.addressSize := by
    cases family <;> rfl
  have positive : 0 < family.addressSize := by
    cases family <;> decide
  have length := congrArg List.length behind
  simp only [length_drop, length_append, first, second] at length
  have middle : packet.drop family.dstAddr = destination.octets ++ message := by
    rw [next, ← drop_drop, behind, drop_left' first]
  refine ⟨?_, ?_, ?_⟩
  · apply addrAt?_eq_some source (by omega)
    rw [window, behind, take_left' first]
  · apply addrAt?_eq_some destination (by omega)
    rw [window, middle, take_left' second]
  · rw [last, ← drop_drop, middle, drop_left' second]

/-- The version in front of any traffic class. -/
theorem version_trafficClass (trafficClass : UInt8) :
    (((0x60 : UInt8) ||| (trafficClass >>> 4)) >>> 4).toNat = 6 := by
  obtain ⟨bits⟩ := trafficClass
  revert bits
  decide

/-- A word that is stored in the first part of a header. -/
theorem front_written {front rest : Bytes} {position : Nat} (value : UInt16)
    (inside : position + 1 < front.length)
    (written : packet = writeU16 (front ++ rest) position value) :
    packet.length = front.length + rest.length ∧
      readU16 packet position = value ∧ packet.drop front.length = rest ∧
      ∀ k, k < front.length → k ≠ position ∧ k ≠ position + 1 →
        byteAt packet k = byteAt front k := by
  subst written
  refine ⟨?_, ?_, ?_, ?_⟩
  · rw [length_writeU16, length_append]
  · refine readU16_writeU16_self ?_
    rw [length_append]
    omega
  · rw [drop_writeU16_of_lt inside, drop_left' rfl]
  · intro k short outside
    rw [byteAt_writeU16_of_ne (by omega), byteAt_append_left short]

theorem encode_spec (datagram : Datagram family) (source : Option (Addr family))
    {message : Bytes} (small : message.length ≤ maxICMPPacketSize) :
    Encoded datagram source message (datagram.encode source message) := by
  change message.length ≤ 2048 at small
  have first := datagram.addr.length_octets
  have second := (source.getD datagram.residue).length_octets
  set rest := datagram.addr.octets ++
    ((source.getD datagram.residue).octets ++ message) with rest_eq
  have size : rest.length = 2 * family.addressSize + message.length := by
    rw [rest_eq, length_append, length_append, first, second]
    omega
  cases family with
  | v4 =>
    obtain ⟨length, total, behind, octet⟩ := @front_written (datagram.encode source message)
      [0x45, 0, 0, 0, 0, 0, 0, 0, datagram.hopLimit, icmpv4ProtocolNumber,
        0, 0] rest 2 (.ofNat (20 + message.length)) (by simp) (by
          rw [rest_eq, ← append_assoc, ← append_assoc]
          simp [Datagram.encode])
    set packet := datagram.encode source message
    change _ = 12 + _ at length
    change packet.drop Family.v4.srcAddr = _ at behind
    change _ = 2 * 4 + _ at size
    have version : byteAt packet 0 = 0x45 := octet 0 (by simp) (by omega)
    obtain ⟨sender, destination, octets⟩ := addresses_of_drop behind
    obtain ⟨valid, located⟩ := @located_of_lengths4 packet 20 message.length (by rw [version]; rfl)
        (by rw [version]; rfl) (by omega) (by rw [total, UInt16.toNat_ofNat']; omega) (by omega)
    refine ⟨valid, ?_, located, sender, destination, octets⟩
    show byteAt? packet 9 = _
    rfl
  | v6 =>
    obtain ⟨length, total, behind, octet⟩ := @front_written (datagram.encode source message)
      [(0x60 : UInt8) ||| (datagram.trafficClass >>> 4),
        datagram.trafficClass <<< 4, 0, 0, 0, 0, icmpv6ProtocolNumber,
        datagram.hopLimit] rest 4 (.ofNat message.length) (by simp) (by
          rw [rest_eq, ← append_assoc, ← append_assoc]
          simp [Datagram.encode])
    set packet := datagram.encode source message
    change _ = 8 + _ at length
    change packet.drop Family.v6.srcAddr = _ at behind
    change _ = 2 * 16 + _ at size
    have version : byteAt packet 0 >>> 4 = 6 := by
      exact UInt8.toNat_inj.mp (version_trafficClass datagram.trafficClass)
    obtain ⟨sender, destination, octets⟩ := addresses_of_drop behind
    obtain ⟨valid, located⟩ := @located_of_lengths6 packet message.length
      version (by rw [total, UInt16.toNat_ofNat']; omega) (by omega)
    refine ⟨valid, ?_, located, sender, destination, octets⟩
    show byteAt? packet 6 = _
    rfl

/-- A datagram of the socket; the source is loaded twice. -/
theorem readHeader?_spec (filtered : platform.linuxUnprivileged = false)
    {datagram : Datagram family} (wellFormed : (Message.datagram datagram).WellFormed)
    (source : Option (Addr family)) :
    ∃ body, platform.readMessage? source datagram.addr
      (datagram.octets.take (maxICMPPacketSize - family.minimumSize)) =
        some body ∧ ∀ source', ∃ packet icmpHdr, datagram.readHeader? source' body = some packet ∧
      ReadBack (.datagram datagram) packet icmpHdr ∧
      ∀ client, source = some client → source' = some client →
        ForClient client packet icmpHdr := by
  change 8 ≤ datagram.octets.length at wellFormed
  have room : 8 ≤ maxICMPPacketSize - family.minimumSize := by
    cases family <;> decide
  set message := datagram.octets.take (maxICMPPacketSize - family.minimumSize) with message_eq
  have long : 8 ≤ message.length := by
    rw [message_eq, length_take]
    omega
  have small : message.length ≤ maxICMPPacketSize := by
    rw [message_eq, length_take]
    omega
  have octet : ∀ k, k < 8 → byteAt message k = byteAt datagram.octets k :=
    fun k inside => byteAt_take (by omega)
  obtain ⟨body, reads, change, ident, valid⟩ := readMessage?_spec filtered long
    (by change message.length ≤ 2048 at small; omega) source datagram.addr
  refine ⟨body, reads, fun source' => ?_⟩
  have encoded := encode_spec datagram source'
    (show body.length ≤ maxICMPPacketSize by rw [change.length]; exact small)
  set plain := datagram.encode source' body
  set icmpHdr : Slice := ⟨family.minimumSize, body.length⟩ with icmpHdr_eq
  have inside : icmpHdr.Inside plain := by
    obtain ⟨-, -, inside⟩ := payload?_bounds encoded.valid encoded.payload
    exact inside
  obtain ⟨packet, seals, sum⟩ := sealHeader?_spec encoded.payload (le_rfl) inside
  have layout : ∀ k, LayoutOctet family k → ¬HeaderSumOctet family k :=
    fun k octet sum => layout_kept (.inr rfl) octet (.inr sum)
  have behind : ∀ k, family.minimumSize ≤ k → ¬HeaderSumOctet family k := by
    rintro k low ⟨rfl, sum⟩
    change 20 ≤ k at low
    omega
  have address : ∀ {position : Nat} {addr : Addr family},
      family.AddressField position → addrAt? family plain position = some addr →
      addrAt? family packet position = some addr := by
    intro position addr field found
    refine addrAt?_congr sum found ?_
    rintro k low high ⟨rfl, sum⟩
    rcases field with rfl | rfl
    · change 12 ≤ k at low
      omega
    · change 16 ≤ k at low
      omega
  have octets : icmpHdr.octets packet = body := by
    unfold Slice.octets
    rw [sum.window_eq inside fun k low _ => behind k low]
    show (plain.drop family.minimumSize).take body.length = body
    rw [encoded.octets, take_length]
  have message : ∀ k, k < body.length → byteAt packet (icmpHdr.start + k) = byteAt body k := by
    intro k short
    rw [← byteAt_window short]
    exact congrArg (byteAt · k) octets
  have size : 8 ≤ body.length := by
    rw [change.length]
    exact long
  refine ⟨packet, icmpHdr, seals, ?_, ?_⟩
  · constructor
    case valid => exact (isValid_congr sum layout).trans encoded.valid
    case protocol =>
      exact (transportProtocol?_congr sum layout).trans encoded.protocol
    case payload => exact (payload?_congr sum layout).trans encoded.payload
    case long => exact size
    case sender => exact address (.inl rfl) encoded.sender
    case type =>
      rw [← Nat.add_zero icmpHdr.start, message 0 (by omega),
        change.octets 0 (by rintro ⟨low, -⟩; change 0 + 2 ≤ 0 at low; omega)]
      exact octet 0 (by omega)
    case ident =>
      rw [readU16_congr (message 4 (by omega)) (message 5 (by omega)), ident]
      exact congrArg _ (readU16_congr (octet 4 (by omega)) (octet 5 (by omega)))
    case sequence =>
      rw [readU16_congr (message 6 (by omega)) (message 7 (by omega)),
        change.readU16_eq (by rintro ⟨-, high⟩; change 6 < 0 + 6 at high; omega)
          (by rintro ⟨-, high⟩; change 7 < 0 + 6 at high; omega)]
      exact readU16_congr (octet 6 (by omega)) (octet 7 (by omega))
  · rintro client given rfl
    refine ⟨address (.inr rfl) encoded.destination, ?_, datagram.addr,
      address (.inl rfl) encoded.sender, ?_⟩
    · exact sealHeader?_valid encoded.payload (le_rfl) inside seals
    · rw [octets]
      exact valid client given

/-- What is written to the socket for a packet of the client. -/
theorem writeIP?_spec (filtered : platform.linuxUnprivileged = false)
    (valid : isValid family packet packet.length = true)
    (found : payload? family packet = some icmpHdr)
    (long : 8 ≤ icmpHdr.length) :
    ∃ source wire, platform.writeIP? family packet = some (source, wire) ∧
      sourceAddr? family packet = some source ∧
      readU16 wire 4 = ~~~readU16 packet (icmpHdr.start + 4) ∧
      readU16 wire 6 = readU16 packet (icmpHdr.start + 6) := by
  obtain ⟨size, behind, inside⟩ := payload?_bounds valid found
  obtain ⟨source, from'⟩ := exists_sourceAddr? size
  obtain ⟨destination, to'⟩ := exists_destinationAddr? size
  obtain ⟨middle, packet', complements, middleChange, seals, change, ident, -⟩ :=
    complementIdent_seal family source.octets destination.octets
      (by omega) (length_lt_of_payload? found) inside
  have own : sealOwn? family middle icmpHdr = some packet' := by
    rw [sealOwn?_eq (addrAt?_echo (.inl rfl) behind middleChange from')
      (addrAt?_echo (.inr rfl) behind middleChange to')]
    exact seals
  have octet : ∀ k, k < icmpHdr.length →
      byteAt (icmpHdr.octets packet') k = byteAt packet' (icmpHdr.start + k) :=
    fun k short => byteAt_window short
  have from'' : sourceAddr? family packet' = some source :=
    addrAt?_echo (.inl rfl) behind change from'
  refine ⟨source, icmpHdr.octets packet', ?_, from', ?_, ?_⟩
  · unfold Platform.writeIP? Platform.writeMessage?
    simp only [filtered, found, complements, own, from'', some_bind, Bool.false_eq_true, if_false]
  · rw [readU16_congr (octet 4 (by omega)) (octet 5 (by omega)), ← ident]
  · rw [readU16_congr (octet 6 (by omega)) (octet 7 (by omega))]
    exact change.readU16_eq (by rintro ⟨-, high⟩; omega) (by rintro ⟨-, high⟩; omega)

end Client

end SingTun.Ping
