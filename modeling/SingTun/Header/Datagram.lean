import SingTun.Header.Echo

/-!
# Whole datagrams

What the receiver of a packet reads in its IP header.  The packets that the
stack makes itself are built field by field; `Addressed` is what these fields
come to, and `Datagram` says that the packet ends where its payload ends.
Neither depends on the header checksum nor on what is stored behind the header.
-/

namespace SingTun.Header

open Foundation

/-- A packet with these fields in its header. -/
structure Addressed
    (family : Family) (packet : Bytes) (protocol : UInt8) (payload : Slice)
    (source destination : Addr family) : Prop where
  valid : isValid family packet packet.length = true
  transport : transportProtocol? family packet = some protocol
  located : payload? family packet = some payload
  sourceAddr : sourceAddr? family packet = some source
  destinationAddr : destinationAddr? family packet = some destination

/-- A packet whose length fields are its own size. -/
structure Datagram
    (family : Family) (packet : Bytes) (protocol : UInt8) (payload : Slice)
    (source destination : Addr family) : Prop
    extends Addressed family packet protocol payload source destination where
  whole : payload.start + payload.length = packet.length

section Stability

variable {family : Family} {changed : Nat → Prop} {packet packet' : Bytes}
variable {k : Nat} {protocol : UInt8}

theorem layoutOctet_header (octet : LayoutOctet family k) :
    k < family.minimumSize ∧ ¬HeaderSumOctet family k := by
  cases family with
  | v4 =>
    change k < 20 ∧ _
    unfold LayoutOctet at octet
    unfold HeaderSumOctet
    omega
  | v6 =>
    change k < 40 ∧ _
    unfold LayoutOctet at octet
    refine ⟨by omega, ?_⟩
    rintro ⟨other, -⟩
    cases other

theorem addressField_not_sum {position : Nat} (field : family.AddressField position)
    (low : position ≤ k)
    (high : k < position + family.addressSize) :
    k < family.minimumSize ∧ ¬HeaderSumOctet family k := by
  have inside := addressField_inside field
  refine ⟨by omega, ?_⟩
  rintro ⟨rfl, sum⟩
  have front : 12 ≤ position := by
    rcases field with rfl | rfl <;> decide
  omega

/-- The addresses end the header, one behind the other. -/
theorem srcAddr_before_dstAddr (family : Family) :
    family.srcAddr + family.addressSize ≤ family.dstAddr ∧
      family.dstAddr + family.addressSize = family.minimumSize := by
  cases family <;> decide

theorem headerSumOctet_front (sum : HeaderSumOctet family k) : k < family.srcAddr := by
  obtain ⟨rfl, sum⟩ := sum
  change k < 12
  omega

theorem layoutOctet_before_addresses (layout : LayoutOctet family k) : k < family.srcAddr := by
  cases family with
  | v4 =>
    change k < 12
    unfold LayoutOctet at layout
    omega
  | v6 =>
    change k < 8
    unfold LayoutOctet at layout
    omega

/-- The checksum of the header and what is behind it may change. -/
theorem Addressed.congr {payload : Slice} {source destination : Addr family}
    (addressed : Addressed family packet protocol payload source destination)
    (change : ChangedAt changed packet packet')
    (header : ∀ k, k < family.minimumSize → changed k → HeaderSumOctet family k) :
    Addressed family packet' protocol payload source destination := by
  have outside : ∀ k, k < family.minimumSize ∧ ¬HeaderSumOctet family k →
      ¬changed k := fun k ⟨low, other⟩ covered => other (header k low covered)
  have kept : ∀ k, LayoutOctet family k → ¬changed k :=
    fun k octet => outside k (layoutOctet_header octet)
  constructor
  case valid =>
    rw [isValid_congr change kept]
    exact addressed.valid
  case transport =>
    rw [transportProtocol?_congr change kept]
    exact addressed.transport
  case located =>
    rw [payload?_congr change kept]
    exact addressed.located
  case sourceAddr =>
    exact addrAt?_congr change addressed.sourceAddr fun k low high =>
      outside k (addressField_not_sum (.inl rfl) low high)
  case destinationAddr =>
    exact addrAt?_congr change addressed.destinationAddr fun k low high =>
      outside k (addressField_not_sum (.inr rfl) low high)

theorem Datagram.congr {payload : Slice} {source destination : Addr family}
    (datagram : Datagram family packet protocol payload source destination)
    (change : ChangedAt changed packet packet')
    (header : ∀ k, k < family.minimumSize → changed k → HeaderSumOctet family k) :
    Datagram family packet' protocol payload source destination :=
  ⟨datagram.toAddressed.congr change header, datagram.whole.trans change.length.symm⟩

end Stability

/-! ## Length fields -/

theorem start_of_payload?6 {b : Bytes} {payload : Slice} (located : payload? .v6 b = some payload) :
    payload.start = 40 := by
  simp only [payload?, Option.bind_eq_bind, Option.bind_eq_some_iff] at located
  obtain ⟨payloadLength, -, result⟩ := located
  split at result
  · cases result
    rfl
  · cases result

section Lengths

variable {packet : Bytes} {headerLength payloadLength : Nat}

/-- The length fields of an IPv4 packet, read together. -/
theorem located_of_lengths4 (first : byteAt packet 0 >>> 4 = 4)
    (header : ((byteAt packet 0 &&& 0x0f) * 4).toNat = headerLength)
    (long : 20 ≤ headerLength)
    (total : (readU16 packet 2).toNat = headerLength + payloadLength)
    (inside : headerLength + payloadLength ≤ packet.length) :
    isValid .v4 packet packet.length = true ∧
      payload? .v4 packet = some ⟨headerLength, payloadLength⟩ := by
  have version : ipVersion packet = 4 := by
    unfold ipVersion
    rw [if_neg (by omega), first]
    rfl
  constructor
  · rw [isValid4_iff, header]
    omega
  · rw [payload?_eq4 (by omega) (by omega) (by omega), header, total, Nat.add_sub_cancel_left]

/-- The length field of an IPv6 packet. -/
theorem located_of_lengths6 (first : byteAt packet 0 >>> 4 = 6)
    (length : (readU16 packet 4).toNat = payloadLength)
    (inside : 40 + payloadLength ≤ packet.length) :
    isValid .v6 packet packet.length = true ∧ payload? .v6 packet = some ⟨40, payloadLength⟩ := by
  have version : ipVersion packet = 6 := by
    unfold ipVersion
    rw [if_neg (by omega), first]
    rfl
  constructor
  · rw [isValid6_iff]
    omega
  · rw [payload?_eq6 (by omega), length]

end Lengths

end SingTun.Header
