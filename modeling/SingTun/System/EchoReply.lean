import SingTun.Header.Datagram
import SingTun.System.Stack

/-!
# Echo replies

The packet of an echo request becomes its reply: the addresses are exchanged,
the type is changed and both checksums are computed again.
-/

namespace SingTun.System

open Foundation Header Option

/-- The octets of the addresses and of the type. -/
def ExchangeOctet (family : Family) (icmpHdr : Slice) (k : Nat) : Prop :=
  (family.srcAddr ≤ k ∧ k < family.srcAddr + family.addressSize) ∨
    (family.dstAddr ≤ k ∧ k < family.dstAddr + family.addressSize) ∨ k = icmpHdr.start

/-- The octets of the two checksums. -/
def SumOctet (family : Family) (icmpHdr : Slice) (k : Nat) : Prop :=
  HeaderSumOctet family k ∨ MessageSumOctet icmpHdr k

/-- The reply to a request. -/
structure EchoReplyOf (family : Family) (packet : Bytes) (icmpHdr : Slice)
    (source destination : Addr family) (packet' : Bytes) : Prop where
  located : payload? family packet' = some icmpHdr
  type : ICMP.type? packet' icmpHdr = some (ICMP.echoReply family)
  sourceAddr : sourceAddr? family packet' = some destination
  destinationAddr : destinationAddr? family packet' = some source
  headerSum : HeaderChecksumValid family packet' icmpHdr
  messageSum : MessageChecksumValid family destination.octets source.octets (icmpHdr.octets packet')
  rest : ChangedAt (fun k => ExchangeOctet family icmpHdr k ∨ SumOctet family icmpHdr k)
    packet packet'

section Reply

variable {family : Family} {packet packet' : Bytes} {icmpHdr : Slice}
variable {source destination : Addr family}

/-- The checksums of a reply are those of any message between its addresses. -/
theorem sealEchoReply_eq (sourced : sourceAddr? family packet = some source)
    (addressed : destinationAddr? family packet = some destination) :
    sealEchoReply family packet icmpHdr =
      (sealEcho? family source.octets destination.octets packet icmpHdr).bind
        (sealHeader? family) := by
  cases family with
  | v4 =>
    simp only [sealEchoReply, sealEcho?, sealICMPv4?, bind_eq_bind, bind_assoc]
    rfl
  | v6 =>
    simp only [sealEchoReply, sealEcho?, sealICMPv6?, sourced, addressed,
      bind_eq_bind, bind_some]
    cases sealed : (ICMP.icmpv6Checksum? _ _ _ _ _).bind _ <;> rfl

/-- Both checksums are computed again, and nothing else changes. -/
theorem sealEchoReply_spec (sourced : sourceAddr? family packet = some source)
    (addressed : destinationAddr? family packet = some destination)
    (located : payload? family packet = some icmpHdr)
    (behind : family.minimumSize ≤ icmpHdr.start)
    (long : 4 ≤ icmpHdr.length) :
    ∃ packet', sealEchoReply family packet icmpHdr = some packet' ∧
      ChangedAt (SumOctet family icmpHdr) packet packet' ∧
      HeaderChecksumValid family packet' icmpHdr ∧
      MessageChecksumValid family source.octets destination.octets (icmpHdr.octets packet') := by
  obtain ⟨inside, -⟩ := payload?_cases located
  obtain ⟨middle, summed, change, valid⟩ := sealEcho?_spec family
    source.octets destination.octets long (length_lt_of_payload? located) inside
  have layout : ∀ k, LayoutOctet family k → ¬MessageSumOctet icmpHdr k := by
    intro k octet
    obtain ⟨front, -⟩ := layoutOctet_header octet
    unfold MessageSumOctet
    omega
  have located' : payload? family middle = some icmpHdr := by
    rw [payload?_congr change layout]
    exact located
  obtain ⟨inside', -⟩ := payload?_cases located'
  obtain ⟨packet', sealed, change'⟩ := sealHeader?_spec located' behind inside'
  refine ⟨packet', ?_, ?_, sealHeader?_valid located' behind inside' sealed, ?_⟩
  · rw [sealEchoReply_eq sourced addressed, summed]
    exact sealed
  · exact (change.mono fun k sum => .inr sum).trans (change'.mono fun k sum => .inl sum)
  · have same : icmpHdr.octets packet' = icmpHdr.octets middle := by
      apply change'.window_eq inside'
      intro k low _ sum
      have front := headerSumOctet_front sum
      have := srcAddr_before_dstAddr family
      omega
    rw [same]
    exact valid

/-- The addresses are exchanged and the type is changed. -/
def exchange? (family : Family) (packet : Bytes) (icmpHdr : Slice) : Option Bytes := do
  let packet ← ICMP.setType? packet icmpHdr (ICMP.echoReply family)
  let sourceAddress ← sourceAddr? family packet
  let destinationAddress ← destinationAddr? family packet
  let packet ← setSourceAddr? packet destinationAddress
  setDestinationAddr? packet sourceAddress

theorem exchange?_spec (located : payload? family packet = some icmpHdr)
    (behind : family.minimumSize ≤ icmpHdr.start)
    (long : 4 ≤ icmpHdr.length)
    (sourced : sourceAddr? family packet = some source)
    (addressed : destinationAddr? family packet = some destination) :
    ∃ packet', exchange? family packet icmpHdr = some packet' ∧
      byteAt packet' icmpHdr.start = ICMP.echoReply family ∧
      sourceAddr? family packet' = some destination ∧
      destinationAddr? family packet' = some source ∧
      ChangedAt (ExchangeOctet family icmpHdr) packet packet' := by
  obtain ⟨inside, -⟩ := payload?_cases located
  unfold Slice.Inside at inside
  obtain ⟨apart, fields⟩ := srcAddr_before_dstAddr family
  have typed : ICMP.setType? packet icmpHdr (ICMP.echoReply family) =
      some (packet.set icmpHdr.start (ICMP.echoReply family)) :=
    Slice.setByte?_eq_some _ (by omega)
  have change1 : ChangedAt (fun k => k = icmpHdr.start) packet
      (packet.set icmpHdr.start (ICMP.echoReply family)) := .set _ rfl
  have octet1 : byteAt (packet.set icmpHdr.start (ICMP.echoReply family))
      icmpHdr.start = ICMP.echoReply family :=
    byteAt_set_self (by omega)
  set packet1 := packet.set icmpHdr.start (ICMP.echoReply family)
  have source1 : sourceAddr? family packet1 = some source :=
    addrAt?_congr change1 sourced fun k _ high => by omega
  have destination1 : destinationAddr? family packet1 = some destination :=
    addrAt?_congr change1 addressed fun k _ high => by omega
  have length1 := change1.length
  obtain ⟨packet2, stored2, source2, change2⟩ :=
    @setAddrAt?_spec family packet1 family.srcAddr destination (by omega)
  have length2 := change2.length
  obtain ⟨packet3, stored3, destination3, change3⟩ :=
    @setAddrAt?_spec family packet2 family.dstAddr source (by omega)
  refine ⟨packet3, ?_, ?_, ?_, destination3, ?_⟩
  · unfold exchange? setSourceAddr? setDestinationAddr?
    simp only [typed, source1, destination1, stored2, some_bind]
    exact stored3
  · rw [change3.octets _ (by omega), change2.octets _ (by omega)]
    exact octet1
  · exact addrAt?_congr change3 source2 fun k _ high => by omega
  · refine .trans ?_ (change3.mono fun k here => .inr (.inl here))
    refine .trans ?_ (change2.mono fun k here => .inl here)
    exact change1.mono fun k here => .inr (.inr here)

/-- The exchange leaves the message where it is. -/
theorem layoutOctet_not_exchange (behind : family.minimumSize ≤ icmpHdr.start) {k : Nat}
    (layout : LayoutOctet family k) :
    ¬ExchangeOctet family icmpHdr k := by
  have before := layoutOctet_before_addresses layout
  have := srcAddr_before_dstAddr family
  unfold ExchangeOctet
  omega

/-- A request becomes its reply. -/
theorem echoReply_spec (valid : isValid family packet packet.length = true)
    (located : payload? family packet = some icmpHdr)
    (long : 4 ≤ icmpHdr.length)
    (sourced : sourceAddr? family packet = some source)
    (addressed : destinationAddr? family packet = some destination) :
    ∃ packet', echoReply family packet icmpHdr = some packet' ∧
      EchoReplyOf family packet icmpHdr source destination packet' := by
  obtain ⟨-, behind, -⟩ := payload?_bounds valid located
  obtain ⟨apart, fields⟩ := srcAddr_before_dstAddr family
  obtain ⟨middle, exchanged, octet, sourced, addressed, change⟩ :=
    exchange?_spec located behind long sourced addressed
  have located' : payload? family middle = some icmpHdr := by
    rw [payload?_congr change fun k => layoutOctet_not_exchange behind]
    exact located
  obtain ⟨packet', sealed, change', headerSum, messageSum⟩ :=
    sealEchoReply_spec sourced addressed located' behind long
  have elsewhere : ∀ k, family.srcAddr ≤ k → k < icmpHdr.start + 2 →
      ¬SumOctet family icmpHdr k := by
    rintro k low high (sum | sum)
    · have := headerSumOctet_front sum
      omega
    · unfold MessageSumOctet at sum
      omega
  have layout : ∀ k, LayoutOctet family k → ¬SumOctet family icmpHdr k := by
    rintro k layout (sum | sum)
    · exact (layoutOctet_header layout).2 sum
    · have := (layoutOctet_header layout).1
      unfold MessageSumOctet at sum
      omega
  refine ⟨packet', ?_, ?_, ?_, ?_, ?_, headerSum, messageSum, ?_⟩
  · have parts : echoReply family packet icmpHdr =
        (exchange? family packet icmpHdr).bind fun packet =>
          sealEchoReply family packet icmpHdr := by
      unfold echoReply exchange?
      simp only [bind_eq_bind, bind_assoc]
    rw [parts, exchanged]
    exact sealed
  · rw [payload?_congr change' layout]
    exact located'
  · refine (Slice.byteAt?_eq_some (by omega)).trans (congrArg some ?_)
    rw [change'.octets _ (elsewhere _ (by omega) (by omega))]
    exact octet
  · exact addrAt?_congr change' sourced fun k low high =>
      elsewhere k low (by omega)
  · exact addrAt?_congr change' addressed fun k low high =>
      elsewhere k (by omega) (by omega)
  · exact (change.mono fun k => .inl).trans (change'.mono fun k => .inr)

end Reply

end SingTun.System
