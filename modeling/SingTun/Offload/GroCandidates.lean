import SingTun.Offload.PacketView

/-!
# The packets that GRO considers

The checks of `handleGRO`, `tcpGRO` and `udpGRO` on one packet.  They never
panic, and a packet that passes them has a known `Shape`.
-/

namespace SingTun.Offload

open Foundation Header UInt16

/-! ## The first check -/

/-- What `packetIsGROCandidate` establishes for its four positive answers. -/
structure GROCandidate (protocol : UInt8) (isV6 : Bool) (pkt : Bytes) :
    Prop where
  ipv4 : isV6 = false → byteAt pkt 0 = 0x45
  ipv6 : isV6 = true → ipVersionOf pkt = 6
  protocolField : byteAt pkt (if isV6 then 6 else 9) = protocol
  long : headerStart isV6 + (if protocol = tcpProtocolNumber then 20 else 8) ≤ pkt.length

/-- An octet is its two halves. -/
theorem octet_of_halves {octet : UInt8} {high low : Nat} (upper : (octet >>> 4).toNat = high)
    (lower : (octet &&& 0x0f).toNat = low) :
    octet.toNat = high * 16 + low := by
  have high_eq : octet.toNat / 16 = high := by
    simpa [Nat.shiftRight_eq_div_pow] using upper
  have low_eq : octet.toNat % 16 = low := by
    rw [← lower]
    exact (Nat.and_two_pow_sub_one_eq_mod octet.toNat 4).symm
  omega

/-- The protocol and family of a positive answer. -/
def GROCandidateType.kind : GROCandidateType → Option (UInt8 × Bool)
  | .notGROCandidate => none
  | .tcp4GROCandidate => some (tcpProtocolNumber, false)
  | .tcp6GROCandidate => some (tcpProtocolNumber, true)
  | .udp4GROCandidate => some (udpProtocolNumber, false)
  | .udp6GROCandidate => some (udpProtocolNumber, true)

theorem packetIsGROCandidate_spec
    {pkt : Bytes} {gro : GRODisablementFlags} {protocol : UInt8} {isV6 : Bool}
    (answer : (packetIsGROCandidate pkt gro).kind = some (protocol, isV6)) :
    GROCandidate protocol isV6 pkt := by
  unfold packetIsGROCandidate at answer
  split_ifs at answer with short four options tcp udp six tcp6 udp6 <;>
    simp only [GROCandidateType.kind, Option.some.injEq, Prod.mk.injEq, reduceCtorEq] at answer
  · obtain ⟨rfl, rfl⟩ := answer
    refine ⟨fun _ => ?_, nofun, tcp.1, tcp.2.1⟩
    have halves := octet_of_halves (congrArg UInt8.toNat four)
      (congrArg UInt8.toNat (not_not.mp options))
    exact UInt8.toNat_inj.mp halves
  · obtain ⟨rfl, rfl⟩ := answer
    refine ⟨fun _ => ?_, nofun, udp.1, ?_⟩
    · have halves := octet_of_halves (congrArg UInt8.toNat four)
        (congrArg UInt8.toNat (not_not.mp options))
      exact UInt8.toNat_inj.mp halves
    · show 28 ≤ pkt.length
      omega
  · obtain ⟨rfl, rfl⟩ := answer
    exact ⟨nofun, fun _ => six, tcp6.1, tcp6.2.1⟩
  · obtain ⟨rfl, rfl⟩ := answer
    exact ⟨nofun, fun _ => six, udp6.1, udp6.2.1⟩

/-! ## The checks on the IP header -/

namespace GROCandidate

variable {protocol : UInt8} {isV6 : Bool} {pkt : Bytes}
variable (candidate : GROCandidate protocol isV6 pkt)
include candidate

theorem length_le : headerStart isV6 + 8 ≤ pkt.length ∧ 28 ≤ pkt.length := by
  have long := candidate.long
  have start : 20 ≤ headerStart isV6 := by cases isV6 <;> decide
  split at long <;> omega

theorem groIPHeaderLen_eq :
    groIPHeaderLen pkt isV6 = some none ∨
      (groIPHeaderLen pkt isV6 = some (some (headerStart isV6)) ∧ pkt.length ≤ 65535) := by
  have long := candidate.length_le
  have header : (if isV6 then 40 else ((byteAt pkt 0 &&& 0x0f) * 4).toNat) = headerStart isV6 := by
    cases isV6 with
    | false =>
      rw [candidate.ipv4 rfl]
      rfl
    | true => rfl
  obtain ⟨stated, stated_eq⟩ : ∃ stated, statedLength pkt isV6 = some stated := by
    unfold statedLength
    cases isV6 with
    | false =>
      rw [if_neg (by decide), readU16?_eq_some (by omega)]
      exact ⟨_, rfl⟩
    | true =>
      rw [if_pos rfl, readU16?_eq_some (by omega)]
      exact ⟨_, rfl⟩
  unfold groIPHeaderLen
  by_cases small : maxUint16 < pkt.length
  · exact .inl (if_pos small)
  · rw [if_neg small, byteAt?_eq_some (by omega)]
    simp only [some_bind, header, stated_eq]
    by_cases right : stated ≠ pkt.length
    · exact .inl (if_pos right)
    · rw [if_neg right, if_neg (by omega)]
      exact .inr ⟨rfl, by unfold maxUint16 at small; omega⟩

theorem isFragment_eq : ∃ fragment, isFragment pkt isV6 = some fragment := by
  have long := candidate.length_le
  unfold isFragment
  cases isV6 with
  | true => exact ⟨_, rfl⟩
  | false =>
    rw [if_neg (by decide), byteAt?_eq_some (by omega), byteAt?_eq_some (by omega)]
    exact ⟨_, rfl⟩

end GROCandidate

/-! ## TCP -/

/-- The candidate is what the packet says. -/
structure TCPCandidate.Describes
    (candidate : TCPCandidate) (isV6 : Bool) (pkt : Bytes) : Prop where
  iphLen : candidate.iphLen = headerStart isV6
  tcphLen : 20 ≤ candidate.tcphLen ∧ candidate.tcphLen ≤ 60
  shape : Shape tcpProtocolNumber isV6 (candidate.iphLen + candidate.tcphLen) pkt
  length : candidate.iphLen + candidate.tcphLen + candidate.gsoSize.toNat = pkt.length
  small : pkt.length ≤ 65535
  positive : 0 < candidate.gsoSize.toNat
  seq : candidate.seq = readU32 pkt (headerStart isV6 + 4)
  flags : byteAt pkt (headerStart isV6 + 13) =
    if candidate.pshSet then tcpFlagACK ||| tcpFlagPSH else tcpFlagACK

theorem tcphLen_eq (pkt : Bytes) (start : Nat) :
    ((byteAt pkt (start + 12) >>> 4) * 4).toNat = tcpHeaderLength pkt start := by
  have bound := Shape.tcpHeaderLength_le pkt start
  unfold tcpHeaderLength at bound ⊢
  rw [UInt8.toNat_mul]
  have value : (4 : UInt8).toNat = 4 := rfl
  rw [value]
  omega

variable {isV6 : Bool} {pkt : Bytes}

theorem tcpCandidate_spec (checked : GROCandidate tcpProtocolNumber isV6 pkt) :
    tcpCandidate pkt isV6 = some none ∨ ∃ candidate, tcpCandidate pkt isV6 = some (some candidate) ∧
        candidate.Describes isV6 pkt := by
  have long : headerStart isV6 + 20 ≤ pkt.length := checked.long
  unfold tcpCandidate
  rcases checked.groIPHeaderLen_eq with left | ⟨header, small⟩
  · rw [left]
    exact .inl rfl
  rw [header]
  simp only [some_bind]
  rw [byteAt?_eq_some (by omega)]
  simp only [some_bind, tcphLen_eq]
  by_cases range : tcpHeaderLength pkt (headerStart isV6) < 20 ∨
      60 < tcpHeaderLength pkt (headerStart isV6)
  · exact .inl (if_pos range)
  rw [if_neg range]
  by_cases short : pkt.length < headerStart isV6 + tcpHeaderLength pkt (headerStart isV6)
  · exact .inl (if_pos short)
  obtain ⟨fragment, fragment_eq⟩ := checked.isFragment_eq
  rw [if_neg short, fragment_eq]
  simp only [some_bind]
  by_cases isFragment : fragment = true
  · exact .inl (if_pos isFragment)
  rw [if_neg isFragment, byteAt?_eq_some (by unfold tcpFlagsOffset; omega)]
  simp only [some_bind]
  by_cases flags : byteAt pkt (headerStart isV6 + tcpFlagsOffset) ≠ tcpFlagACK ∧
        byteAt pkt (headerStart isV6 + tcpFlagsOffset) ≠ tcpFlagACK ||| tcpFlagPSH
  · exact .inl (if_pos flags)
  rw [if_neg flags]
  by_cases empty : UInt16.ofNat (pkt.length -
      tcpHeaderLength pkt (headerStart isV6) - headerStart isV6) < 1
  · exact .inl (if_pos empty)
  rw [if_neg empty, readU32?_eq_some (by omega)]
  refine .inr ⟨_, rfl, ?_⟩
  have size : (UInt16.ofNat (pkt.length -
        tcpHeaderLength pkt (headerStart isV6) - headerStart isV6)).toNat =
      pkt.length - tcpHeaderLength pkt (headerStart isV6) - headerStart isV6 := by
    rw [toNat_ofNat', Nat.mod_eq_of_lt (by omega)]
  have positive : 0 < (UInt16.ofNat (pkt.length -
      tcpHeaderLength pkt (headerStart isV6) - headerStart isV6)).toNat := by
    rw [lt_iff_toNat_lt] at empty
    have value : (1 : UInt16).toNat = 1 := rfl
    omega
  refine
    { iphLen := rfl
      tcphLen := by
        show 20 ≤ tcpHeaderLength pkt (headerStart isV6) ∧
          tcpHeaderLength pkt (headerStart isV6) ≤ 60
        omega
      shape := ⟨checked.ipv4, checked.ipv6, checked.protocolField, .inl ⟨rfl, by omega, rfl⟩⟩
      length := by
        show headerStart isV6 + tcpHeaderLength pkt (headerStart isV6) + _ = _
        rw [size]
        omega
      small := small
      positive := positive
      seq := rfl
      flags := ?_ }
  by_cases ack : byteAt pkt (headerStart isV6 + tcpFlagsOffset) = tcpFlagACK
  · simp only [ack, ne_eq, not_true_eq_false, decide_false, Bool.false_eq_true, if_false]
    exact ack
  · have psh : byteAt pkt (headerStart isV6 + tcpFlagsOffset) = tcpFlagACK ||| tcpFlagPSH := by
      by_contra other
      exact flags ⟨ack, other⟩
    simp only [ack, ne_eq, not_false_eq_true, decide_true, if_true]
    exact psh

/-! ## UDP -/

/-- The candidate is what the packet says. -/
structure UDPCandidate.Describes
    (candidate : UDPCandidate) (isV6 : Bool) (pkt : Bytes) : Prop where
  iphLen : candidate.iphLen = headerStart isV6
  shape : Shape udpProtocolNumber isV6 (candidate.iphLen + 8) pkt
  length : candidate.iphLen + 8 + candidate.gsoSize.toNat = pkt.length
  small : pkt.length ≤ 65535
  positive : 0 < candidate.gsoSize.toNat

theorem udpCandidate_spec (checked : GROCandidate udpProtocolNumber isV6 pkt) :
    udpCandidate pkt isV6 = some none ∨ ∃ candidate, udpCandidate pkt isV6 = some (some candidate) ∧
        candidate.Describes isV6 pkt := by
  have long : headerStart isV6 + 8 ≤ pkt.length := checked.long
  unfold udpCandidate
  rcases checked.groIPHeaderLen_eq with left | ⟨header, small⟩
  · rw [left]
    exact .inl rfl
  obtain ⟨fragment, fragment_eq⟩ := checked.isFragment_eq
  rw [header]
  simp only [some_bind]
  rw [if_neg (by unfold udphLen; omega), fragment_eq]
  simp only [some_bind]
  split_ifs with isFragment empty
  · exact .inl rfl
  · exact .inl rfl
  refine .inr ⟨_, rfl, ?_⟩
  have size : (UInt16.ofNat (pkt.length - udphLen - headerStart isV6)).toNat =
        pkt.length - 8 - headerStart isV6 := by
    unfold udphLen
    rw [toNat_ofNat', Nat.mod_eq_of_lt (by omega)]
  have positive : 0 < (UInt16.ofNat (pkt.length - udphLen - headerStart isV6)).toNat := by
    rw [lt_iff_toNat_lt] at empty
    have value : (1 : UInt16).toNat = 1 := rfl
    omega
  exact
    { iphLen := rfl
      shape := ⟨checked.ipv4, checked.ipv6, checked.protocolField, .inr ⟨rfl, rfl⟩⟩
      length := by
        show headerStart isV6 + 8 + _ = _
        rw [size]
        omega
      small := small
      positive := positive }

/-! ## Flow keys and new items -/

/-- The key of a TCP packet. -/
def tcpKeyOf (isV6 : Bool) (pkt : Bytes) : TCPFlowKey :=
  { srcAddr := addrArray (window pkt (srcAddrOffset isV6) (addrLen isV6))
    dstAddr := addrArray (window pkt (srcAddrOffset isV6 + addrLen isV6) (addrLen isV6))
    srcPort := readU16 pkt (headerStart isV6)
    dstPort := readU16 pkt (headerStart isV6 + 2)
    rxAck := readU32 pkt (headerStart isV6 + 8)
    isV6 }

/-- The key of a UDP packet. -/
def udpKeyOf (isV6 : Bool) (pkt : Bytes) : UDPFlowKey :=
  { srcAddr := addrArray (window pkt (srcAddrOffset isV6) (addrLen isV6))
    dstAddr := addrArray (window pkt (srcAddrOffset isV6 + addrLen isV6) (addrLen isV6))
    srcPort := readU16 pkt (headerStart isV6)
    dstPort := readU16 pkt (headerStart isV6 + 2)
    isV6 }

theorem addresses_inside (isV6 : Bool) :
    srcAddrOffset isV6 + addrLen isV6 + addrLen isV6 = headerStart isV6 := by
  cases isV6 <;> rfl

theorem newTCPFlowKey_eq (long : headerStart isV6 + 20 ≤ pkt.length) :
    newTCPFlowKey pkt (srcAddrOffset isV6) (srcAddrOffset isV6 + addrLen isV6) (headerStart isV6) =
      some (tcpKeyOf isV6 pkt) := by
  have inside := addresses_inside isV6
  simp only [newTCPFlowKey, Nat.add_sub_cancel_left]
  rw [slice?_eq_some (by omega) (by omega),
    slice?_eq_some (by omega) (by omega), readU16?_eq_some (by omega),
    readU16?_eq_some (by omega), readU32?_eq_some (by omega)]
  cases isV6 <;> rfl

theorem newUDPFlowKey_eq (long : headerStart isV6 + 8 ≤ pkt.length) :
    newUDPFlowKey pkt (srcAddrOffset isV6) (srcAddrOffset isV6 + addrLen isV6) (headerStart isV6) =
      some (udpKeyOf isV6 pkt) := by
  have inside := addresses_inside isV6
  simp only [newUDPFlowKey, Nat.add_sub_cancel_left]
  rw [slice?_eq_some (by omega) (by omega),
    slice?_eq_some (by omega) (by omega), readU16?_eq_some (by omega), readU16?_eq_some (by omega)]
  cases isV6 <;> rfl

theorem addrArray_injective {left right : Bytes} {count : Nat} (bound : count ≤ 16)
    (leftLength : left.length = count)
    (rightLength : right.length = count)
    (equal : addrArray left = addrArray right) :
    left = right := by
  unfold addrArray at equal
  rw [overwrite_eq (by simp; omega), overwrite_eq (by simp; omega)] at equal
  have taken := congrArg (List.take count) equal
  simpa [leftLength, rightLength, List.take_append] using taken

/-- The item of a TCP packet. -/
def tcpItemOf (isV6 : Bool) (pkt : Bytes) (candidate : TCPCandidate) (pktI : Nat) :
    TCPGROItem :=
  { key := tcpKeyOf isV6 pkt
    sentSeq := candidate.seq
    bufsIndex := UInt16.ofNat pktI
    numMerged := 0
    gsoSize := candidate.gsoSize
    iphLen := UInt8.ofNat candidate.iphLen
    tcphLen := UInt8.ofNat candidate.tcphLen
    pshSet := candidate.pshSet
    members := [pktI] }

theorem newTCPItem_eq {candidate : TCPCandidate}
    (describes : candidate.Describes isV6 pkt) (pktI : Nat) :
    newTCPItem (tcpKeyOf isV6 pkt) pkt candidate.iphLen candidate.tcphLen pktI =
      some (tcpItemOf isV6 pkt candidate pktI) := by
  have length := describes.length
  have tcphLen := describes.tcphLen
  have flags := describes.flags
  unfold newTCPItem
  rw [sliceFrom?_eq_some (by omega), readU32?_eq_some (by omega),
    byteAt?_eq_some (by unfold tcpFlagsOffset; omega)]
  simp only [some_bind, tcpItemOf, tcpFlagsOffset,
    Option.some.injEq, TCPGROItem.mk.injEq, true_and, and_true]
  refine ⟨?seq, ?size, ?psh⟩
  case seq => rw [describes.iphLen, describes.seq]
  case size =>
    apply UInt16.toNat_inj.mp
    rw [UInt16.toNat_ofNat', List.length_drop, Nat.mod_eq_of_lt (by have := describes.small; omega)]
    omega
  case psh =>
    rw [describes.iphLen, flags]
    cases candidate.pshSet <;> decide

/-- The item of a UDP packet. -/
def udpItemOf (isV6 : Bool) (pkt : Bytes) (candidate : UDPCandidate) (pktI : Nat)
    (cSumKnownInvalid : Bool) : UDPGROItem :=
  { key := udpKeyOf isV6 pkt
    bufsIndex := UInt16.ofNat pktI
    numMerged := 0
    gsoSize := candidate.gsoSize
    iphLen := UInt8.ofNat candidate.iphLen
    cSumKnownInvalid
    members := [pktI] }

theorem newUDPItem_eq {candidate : UDPCandidate}
    (describes : candidate.Describes isV6 pkt) (pktI : Nat) (cSumKnownInvalid : Bool) :
    newUDPItem (udpKeyOf isV6 pkt) pkt candidate.iphLen pktI cSumKnownInvalid =
      some (udpItemOf isV6 pkt candidate pktI cSumKnownInvalid) := by
  have length := describes.length
  unfold newUDPItem udphLen
  rw [sliceFrom?_eq_some (by omega)]
  simp only [some_bind, udpItemOf,
    Option.some.injEq, UDPGROItem.mk.injEq, true_and, and_true]
  apply UInt16.toNat_inj.mp
  rw [UInt16.toNat_ofNat', List.length_drop, Nat.mod_eq_of_lt (by have := describes.small; omega)]
  omega

end SingTun.Offload
