import SingTun.Offload.Gro

/-!
# What a packet says

`viewOf` are the fields of a packet that a receiver acts on and that merging
and cutting must keep: both addresses, the protocol, traffic class and hop
limit, ports, sequence and acknowledgement numbers, TCP options and payload.

`Shape` says where those fields are in a TCP or UDP packet without IP
options.  `SameHeader` relates packets that differ only in octets outside of
the view; all rewriting of headers in this package stays inside it.
-/

namespace SingTun.Offload

open Foundation Header

/-! ## Views -/

section

variable (packet : Bytes)

/-- The transport protocol of a packet. -/
def protocolOf : UInt8 :=
  if ipVersionOf packet = 4 then byteAt packet 9 else byteAt packet 6

/-- Where the transport header starts. -/
def transportStart : Nat :=
  if ipVersionOf packet = 4 then (byteAt packet 0 &&& 0x0f).toNat * 4 else 40

/-- The length of a TCP or UDP header. -/
def transportHeaderLength : Nat :=
  if protocolOf packet = tcpProtocolNumber then
    tcpHeaderLength packet (transportStart packet)
  else if protocolOf packet = udpProtocolNumber then 8
  else 0

/-- ToS, or traffic class. -/
def trafficClassOf : UInt8 :=
  if ipVersionOf packet = 4 then byteAt packet 1
  else (byteAt packet 0 <<< 4) ||| (byteAt packet 1 >>> 4)

/-- TTL, or hop limit. -/
def hopLimitOf : UInt8 :=
  if ipVersionOf packet = 4 then byteAt packet 8 else byteAt packet 7

/-- The fields that all packets of one flow share. -/
structure HeaderView where
  ipVersion : UInt8
  srcAddr : Bytes
  dstAddr : Bytes
  protocol : UInt8
  trafficClass : UInt8
  hopLimit : UInt8
  ports : Option (UInt16 × UInt16)
  ackNum : Option UInt32
  options : Bytes
  deriving DecidableEq, Repr

def headerView : HeaderView :=
  let start := transportStart packet
  let tcp := protocolOf packet = tcpProtocolNumber
  let udp := protocolOf packet = udpProtocolNumber
  { ipVersion := ipVersionOf packet
    srcAddr := srcAddrOf packet
    dstAddr := dstAddrOf packet
    protocol := protocolOf packet
    trafficClass := trafficClassOf packet
    hopLimit := hopLimitOf packet
    ports :=
      if tcp ∨ udp then
        some (readU16 packet start, readU16 packet (start + 2))
      else none
    ackNum := if tcp then some (readU32 packet (start + 8)) else none
    options :=
      if tcp then window packet (start + 20) (tcpHeaderLength packet start - 20)
      else [] }

/-- Everything a receiver acts on. -/
structure PacketView where
  header : HeaderView
  seqNum : Option UInt32
  payload : Bytes
  deriving DecidableEq, Repr

def viewOf : PacketView :=
  { header := headerView packet
    seqNum :=
      if protocolOf packet = tcpProtocolNumber then
        some (readU32 packet (transportStart packet + 4))
      else none
    payload := packet.drop (transportStart packet + transportHeaderLength packet) }

end

/-! ## The shape of a packet that may be merged -/

/-- Where the transport header starts without IP options. -/
def headerStart (isV6 : Bool) : Nat :=
  if isV6 then 40 else 20

/-- A TCP or UDP packet whose headers together have `hdrLen` octets. -/
structure Shape
    (protocol : UInt8) (isV6 : Bool) (hdrLen : Nat) (packet : Bytes) :
    Prop where
  ipv4 : isV6 = false → byteAt packet 0 = 0x45
  ipv6 : isV6 = true → ipVersionOf packet = 6
  protocolField : byteAt packet (if isV6 then 6 else 9) = protocol
  transport : (protocol = tcpProtocolNumber ∧ 20 ≤ tcpHeaderLength packet (headerStart isV6) ∧
        hdrLen = headerStart isV6 + tcpHeaderLength packet (headerStart isV6)) ∨
      (protocol = udpProtocolNumber ∧ hdrLen = headerStart isV6 + 8)

namespace Shape

variable {protocol : UInt8} {isV6 : Bool} {hdrLen : Nat} {packet : Bytes}

variable (shape : Shape protocol isV6 hdrLen packet)
include shape

theorem version : ipVersionOf packet = if isV6 then 6 else 4 := by
  cases isV6 with
  | false =>
    rw [ipVersionOf, shape.ipv4 rfl]
    rfl
  | true => exact shape.ipv6 rfl

theorem version_eq_four_iff : ipVersionOf packet = 4 ↔ isV6 = false := by
  rw [shape.version]
  cases isV6 <;> decide

theorem transportStart_eq : transportStart packet = headerStart isV6 := by
  unfold transportStart
  cases isV6 with
  | false =>
    rw [if_pos (shape.version_eq_four_iff.mpr rfl), shape.ipv4 rfl]
    rfl
  | true =>
    rw [if_neg (by rw [shape.version_eq_four_iff]; decide)]
    rfl

theorem protocolOf_eq : protocolOf packet = protocol := by
  have field := shape.protocolField
  unfold protocolOf
  cases isV6 with
  | false =>
    rw [if_pos (shape.version_eq_four_iff.mpr rfl)]
    exact field
  | true =>
    rw [if_neg (by rw [shape.version_eq_four_iff]; decide)]
    exact field

theorem hdrLen_eq : transportStart packet + transportHeaderLength packet = hdrLen := by
  rw [transportHeaderLength, shape.protocolOf_eq, shape.transportStart_eq]
  rcases shape.transport with ⟨tcp, -, header⟩ | ⟨udp, header⟩
  · rw [if_pos tcp, header]
  · rw [if_neg (by rw [udp]; decide), if_pos udp, header]

omit shape in
theorem tcpHeaderLength_le (packet : Bytes) (start : Nat) : tcpHeaderLength packet start ≤ 60 := by
  have octet := (byteAt packet (start + 12)).toNat_lt
  have nibble : (byteAt packet (start + 12) >>> 4).toNat ≤ 15 := by
    rw [UInt8.toNat_shiftRight]
    show (byteAt packet (start + 12)).toNat >>> 4 ≤ 15
    rw [Nat.shiftRight_eq_div_pow]
    omega
  unfold tcpHeaderLength
  omega

theorem bounds :
    headerStart isV6 + 8 ≤ hdrLen ∧ hdrLen ≤ 100 ∧
      (protocol = tcpProtocolNumber → headerStart isV6 + 20 ≤ hdrLen) := by
  have long := tcpHeaderLength_le packet (headerStart isV6)
  have start : headerStart isV6 ≤ 40 := by cases isV6 <;> decide
  rcases shape.transport with ⟨-, short, header⟩ | ⟨udp, header⟩
  · exact ⟨by omega, by omega, fun _ => by omega⟩
  · refine ⟨by omega, by omega, fun tcp => ?_⟩
    rw [udp] at tcp
    cases tcp

/-- The fields of the view, read at their places. -/
theorem headerView_eq :
    headerView packet =
      { ipVersion := if isV6 then 6 else 4
        srcAddr := window packet (srcAddrOffset isV6) (addrLen isV6)
        dstAddr := window packet (srcAddrOffset isV6 + addrLen isV6) (addrLen isV6)
        protocol
        trafficClass :=
          if isV6 then (byteAt packet 0 <<< 4) ||| (byteAt packet 1 >>> 4)
          else byteAt packet 1
        hopLimit := byteAt packet (if isV6 then 7 else 8)
        ports := some (readU16 packet (headerStart isV6), readU16 packet (headerStart isV6 + 2))
        ackNum :=
          if protocol = tcpProtocolNumber then
            some (readU32 packet (headerStart isV6 + 8))
          else none
        options :=
          if protocol = tcpProtocolNumber then
            window packet (headerStart isV6 + 20) (hdrLen - headerStart isV6 - 20)
          else [] } := by
  have known : protocol = tcpProtocolNumber ∨ protocol = udpProtocolNumber := by
    rcases shape.transport with ⟨tcp, -⟩ | ⟨udp, -⟩
    · exact .inl tcp
    · exact .inr udp
  have options : protocol = tcpProtocolNumber → tcpHeaderLength packet (headerStart isV6) =
        hdrLen - headerStart isV6 := by
    intro tcp
    rcases shape.transport with ⟨-, -, header⟩ | ⟨udp, -⟩
    · omega
    · rw [udp] at tcp
      cases tcp
  rw [headerView, shape.protocolOf_eq, shape.transportStart_eq]
  simp only [srcAddrOf, dstAddrOf, trafficClassOf, hopLimitOf, known,
    if_true, HeaderView.mk.injEq, shape.version]
  cases isV6 with
  | false =>
    refine ⟨trivial, rfl, rfl, trivial, rfl, rfl, trivial, trivial, ?_⟩
    split
    · rename_i tcp
      rw [options tcp]
    · rfl
  | true =>
    refine ⟨trivial, rfl, rfl, trivial, rfl, rfl, trivial, trivial, ?_⟩
    split
    · rename_i tcp
      rw [options tcp]
    · rfl

theorem viewOf_eq :
    viewOf packet =
      { header := headerView packet
        seqNum :=
          if protocol = tcpProtocolNumber then
            some (readU32 packet (headerStart isV6 + 4))
          else none
        payload := packet.drop hdrLen } := by
  rw [viewOf, shape.hdrLen_eq, shape.protocolOf_eq, shape.transportStart_eq]

end Shape

/-! ## Packets with the same header view -/

/-- The octets of a header that no view shows. -/
def Volatile (protocol : UInt8) (isV6 : Bool) (position : Nat) : Prop :=
  (if isV6 then position = 4 ∨ position = 5
    else (2 ≤ position ∧ position ≤ 5) ∨ position = 10 ∨ position = 11) ∨
  (headerStart isV6 + 4 ≤ position ∧ position ≤ headerStart isV6 + 7) ∨
  (protocol = tcpProtocolNumber ∧
    (position = headerStart isV6 + 13 ∨ position = headerStart isV6 + 16 ∨
      position = headerStart isV6 + 17))

/-- Two packets whose headers agree outside of the volatile octets. -/
structure SameHeader
    (protocol : UInt8) (isV6 : Bool) (hdrLen : Nat) (left right : Bytes) :
    Prop where
  leftLength : hdrLen ≤ left.length
  rightLength : hdrLen ≤ right.length
  octets : ∀ position, position < hdrLen → ¬Volatile protocol isV6 position →
      byteAt left position = byteAt right position

namespace SameHeader

variable {protocol : UInt8} {isV6 : Bool} {hdrLen : Nat}
variable {left middle right : Bytes}

variable (same : SameHeader protocol isV6 hdrLen left right)
include same

theorem symm : SameHeader protocol isV6 hdrLen right left :=
  ⟨same.rightLength, same.leftLength,
    fun position inside fixed => (same.octets position inside fixed).symm⟩

omit same in
theorem trans (first : SameHeader protocol isV6 hdrLen left middle)
    (second : SameHeader protocol isV6 hdrLen middle right) :
    SameHeader protocol isV6 hdrLen left right :=
  ⟨first.leftLength, second.rightLength, fun position inside fixed =>
      (first.octets position inside fixed).trans (second.octets position inside fixed)⟩

/-- The octets of the IP header that the view shows. -/
theorem ip_octet (bound : headerStart isV6 ≤ hdrLen) {position : Nat}
    (inside : position < headerStart isV6)
    (fixed : if isV6 then position ≠ 4 ∧ position ≠ 5
      else (position < 2 ∨ 5 < position) ∧ position ≠ 10 ∧ position ≠ 11) :
    byteAt left position = byteAt right position := by
  refine same.octets position (by omega) ?_
  unfold Volatile
  cases isV6 with
  | false =>
    simp only [Bool.false_eq_true, if_false] at fixed ⊢
    omega
  | true =>
    simp only [if_true] at fixed ⊢
    omega

/-- The octets of the transport header that the view shows. -/
theorem transport_octet {position : Nat} (inside : position < hdrLen)
    (behind : headerStart isV6 ≤ position)
    (fixed : position < headerStart isV6 + 4 ∨ headerStart isV6 + 7 < position)
    (flags : position ≠ headerStart isV6 + 13)
    (csum : position ≠ headerStart isV6 + 16 ∧ position ≠ headerStart isV6 + 17) :
    byteAt left position = byteAt right position := by
  refine same.octets position inside ?_
  unfold Volatile
  cases isV6 with
  | false =>
    simp only [headerStart, Bool.false_eq_true, if_false] at *
    omega
  | true =>
    simp only [headerStart, if_true] at *
    omega

end SameHeader

namespace Shape

variable {protocol : UInt8} {isV6 : Bool} {hdrLen : Nat}
variable {packet other : Bytes}

theorem of_sameHeader (shape : Shape protocol isV6 hdrLen packet)
    (same : SameHeader protocol isV6 hdrLen packet other) :
    Shape protocol isV6 hdrLen other := by
  have bounds := shape.bounds
  have start : 20 ≤ headerStart isV6 := by cases isV6 <;> decide
  have firstOctet : byteAt packet 0 = byteAt other 0 :=
    same.ip_octet (by omega) (by omega) (by cases isV6 <;> simp)
  refine ⟨?ipv4, ?ipv6, ?protocolField, ?transport⟩
  case ipv4 =>
    intro ipv4
    rw [← firstOctet]
    exact shape.ipv4 ipv4
  case ipv6 =>
    intro ipv6
    rw [ipVersionOf, ← firstOctet]
    exact shape.ipv6 ipv6
  case protocolField =>
    rw [← shape.protocolField]
    refine (same.ip_octet (by omega) ?_ ?_).symm
    · cases isV6 <;> decide
    · cases isV6 <;> simp
  case transport =>
    rcases shape.transport with ⟨tcp, short, header⟩ | udp
    · have dataOffset : byteAt packet (headerStart isV6 + 12) =
            byteAt other (headerStart isV6 + 12) :=
        same.transport_octet (by omega) (by omega) (by omega) (by omega) (by omega)
      rw [tcpHeaderLength, dataOffset] at short header
      exact .inl ⟨tcp, short, header⟩
    · exact .inr udp

theorem headerView_eq_of_sameHeader (shape : Shape protocol isV6 hdrLen packet)
    (same : SameHeader protocol isV6 hdrLen packet other) :
    headerView packet = headerView other := by
  have bounds := shape.bounds
  have left := same.leftLength
  have right := same.rightLength
  have ip : ∀ position, position < headerStart isV6 → (if isV6 then position ≠ 4 ∧ position ≠ 5
        else (position < 2 ∨ 5 < position) ∧ position ≠ 10 ∧ position ≠ 11) →
        byteAt packet position = byteAt other position :=
    fun _ inside fixed => same.ip_octet (by omega) inside fixed
  have transport : ∀ position, position < hdrLen → headerStart isV6 ≤ position →
      (position < headerStart isV6 + 4 ∨ headerStart isV6 + 7 < position) →
      position ≠ headerStart isV6 + 13 →
      (position ≠ headerStart isV6 + 16 ∧ position ≠ headerStart isV6 + 17) →
        byteAt packet position = byteAt other position :=
    fun _ inside behind fixed flags csum =>
      same.transport_octet inside behind fixed flags csum
  rw [shape.headerView_eq, (shape.of_sameHeader same).headerView_eq]
  have addresses : ∀ position count, srcAddrOffset isV6 ≤ position →
      position + count ≤ headerStart isV6 →
        window packet position count = window other position count := by
    intro position count low high
    refine window_congr (by omega) (by omega) fun k first last => ?_
    refine ip k (by omega) ?_
    cases isV6 <;> simp [srcAddrOffset, ipv4SrcAddrOffset, ipv6SrcAddrOffset] at low ⊢ <;> omega
  have src := addresses (srcAddrOffset isV6) (addrLen isV6) (by omega) (by cases isV6 <;> decide)
  have dst := addresses (srcAddrOffset isV6 + addrLen isV6) (addrLen isV6)
    (by omega) (by cases isV6 <;> decide)
  have tos : (if isV6 then (byteAt packet 0 <<< 4) ||| (byteAt packet 1 >>> 4)
        else byteAt packet 1) =
      if isV6 then (byteAt other 0 <<< 4) ||| (byteAt other 1 >>> 4)
        else byteAt other 1 := by
    have start : 20 ≤ headerStart isV6 := by cases isV6 <;> decide
    rw [ip 0 (by omega) (by cases isV6 <;> simp), ip 1 (by omega) (by cases isV6 <;> simp)]
  have ttl : byteAt packet (if isV6 then 7 else 8) = byteAt other (if isV6 then 7 else 8) :=
    ip _ (by cases isV6 <;> decide) (by cases isV6 <;> simp)
  have srcPort : readU16 packet (headerStart isV6) = readU16 other (headerStart isV6) :=
    readU16_congr (transport _ (by omega) (by omega) (by omega) (by omega) (by omega))
      (transport _ (by omega) (by omega) (by omega) (by omega) (by omega))
  have dstPort : readU16 packet (headerStart isV6 + 2) = readU16 other (headerStart isV6 + 2) :=
    readU16_congr (transport _ (by omega) (by omega) (by omega) (by omega) (by omega))
      (transport _ (by omega) (by omega) (by omega) (by omega) (by omega))
  rw [src, dst, tos, ttl, srcPort, dstPort]
  by_cases tcp : protocol = tcpProtocolNumber
  · have long := bounds.2.2 tcp
    have ack : readU32 packet (headerStart isV6 + 8) = readU32 other (headerStart isV6 + 8) :=
      readU32_congr fun k bound =>
        transport _ (by omega) (by omega) (by omega) (by omega) (by omega)
    have options : window packet (headerStart isV6 + 20) (hdrLen - headerStart isV6 - 20) =
          window other (headerStart isV6 + 20) (hdrLen - headerStart isV6 - 20) :=
      window_congr (by omega) (by omega) fun k first last =>
        transport k (by omega) (by omega) (by omega) (by omega) (by omega)
    rw [ack, options]
  · simp only [if_neg tcp]

end Shape

end SingTun.Offload
