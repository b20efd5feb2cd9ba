import SingTun.Offload.GroRoundTrip

/-!
# Merged packets are ready for the device

A merged packet is handed to the device with a partial checksum: the field of
the transport checksum has the sum over the pseudo-header, and the device adds
the rest from `csumStart` on and stores the complement.  `PartialPacket` says
what the device relies on, and every merged packet that `handleGRO` leaves in
its tables has it.
-/

namespace SingTun.Offload

open Foundation Header UInt16

/-! ## What the device completes -/

/-- The octets that the device sums. -/
def VirtioNetHdr.summed (hdr : VirtioNetHdr) (pkt : Bytes) : Bytes :=
  pkt.drop hdr.csumStart.toNat

/-- The segment with the complement of its sum in the checksum field. -/
def VirtioNetHdr.completed (hdr : VirtioNetHdr) (pkt : Bytes) : Bytes :=
  writeU16 (hdr.summed pkt) hdr.csumOffset.toNat (~~~checksum (hdr.summed pkt) 0)

/-- A packet whose lengths are right and whose checksum is to be completed. -/
structure PartialPacket (hdr : VirtioNetHdr) (pkt : Bytes) : Prop where
  version : ipVersionOf pkt = 4 ∨ ipVersionOf pkt = 6
  protocol : protocolOf pkt = tcpProtocolNumber ∨ protocolOf pkt = udpProtocolNumber
  csumStart : hdr.csumStart.toNat = transportStart pkt
  csumOffset : hdr.csumOffset.toNat = checksumOffset (protocolOf pkt)
  small : pkt.length ≤ 65535
  totalLength : ipVersionOf pkt = 4 → (readU16 pkt 2).toNat = pkt.length
  headerChecksum : ipVersionOf pkt = 4 → IPv4ChecksumValid (pkt.take (transportStart pkt))
  payloadLength : ipVersionOf pkt = 6 → (readU16 pkt 4).toNat + 40 = pkt.length
  udpLength : protocolOf pkt = udpProtocolNumber →
    (readU16 (hdr.summed pkt) 4).toNat = (hdr.summed pkt).length
  field : (readU16 (hdr.summed pkt) hdr.csumOffset.toNat).toNat =
    foldCarry (pseudoHeaderSum (protocolOf pkt) (srcAddrOf pkt)
      (dstAddrOf pkt) (hdr.summed pkt).length)
  completed : TransportChecksumValid (protocolOf pkt) (srcAddrOf pkt)
    (dstAddrOf pkt) (hdr.completed pkt)

section Entries

variable {orig : Nat → Bytes} {offset : Nat} {bufs : List Buf}
variable {entry : Entry} {pkt : Bytes}

section

variable {protocol : UInt8} {isV6 : Bool} {hdrLen : Nat} {packet : Bytes}
variable (shape : Shape protocol isV6 hdrLen packet)
include shape

/-- The number of the protocol is in the sum of the pseudo-header. -/
theorem Shape.pseudoHeaderSum_pos (srcAddr dstAddr : Bytes) (totalLen : Nat) :
    0 < pseudoHeaderSum protocol srcAddr dstAddr totalLen := by
  have positive : 0 < protocol.toNat := by
    rcases shape.transport with ⟨rfl, -⟩ | ⟨rfl, -⟩ <;> decide
  unfold pseudoHeaderSum
  omega

theorem Shape.srcAddrOf_eq :
    srcAddrOf packet = window packet (srcAddrOffset isV6) (addrLen isV6) := by
  have version := shape.version_eq_four_iff
  cases isV6 with
  | false => exact if_pos (version.mpr rfl)
  | true => exact if_neg fun four => absurd (version.mp four) nofun

theorem Shape.dstAddrOf_eq :
    dstAddrOf packet = window packet (srcAddrOffset isV6 + addrLen isV6) (addrLen isV6) := by
  have version := shape.version_eq_four_iff
  cases isV6 with
  | false => exact if_pos (version.mpr rfl)
  | true => exact if_neg fun four => absurd (version.mp four) nofun

end

theorem Entry.toNat_hdr (holds : entry.Holds orig offset bufs) :
    entry.hdr.hdrLen.toNat = entry.hdrLen ∧ entry.hdr.csumStart.toNat = headerStart entry.isV6 ∧
      entry.hdr.csumOffset.toNat = checksumOffset entry.protocol := by
  have bounds := holds.first_shape.bounds
  refine ⟨?_, ?_, ?_⟩
  · show (UInt16.ofNat entry.hdrLen).toNat = _
    rw [toNat_ofNat']
    omega
  · show (UInt16.ofNat (headerStart entry.isV6)).toNat = _
    rw [toNat_ofNat']
    omega
  · show (if entry.protocol = tcpProtocolNumber then (16 : UInt16)
      else 6).toNat = _
    unfold checksumOffset
    split <;> rfl

/-- What the accounting stored is what the device relies on. -/
theorem MergedPacket.partialPacket (merged : MergedPacket orig entry pkt)
    (holds : entry.Holds orig offset bufs)
    (chained : entry.Chained orig)
    (stored : entry.Sealed pkt) :
    PartialPacket entry.hdr pkt := by
  have shape := merged.shape holds
  have bounds := shape.bounds
  have long := merged.same.rightLength
  obtain ⟨-, csumStart, csumOffset⟩ := Entry.toNat_hdr holds
  have small : pkt.length ≤ 65535 := by
    rw [merged.length_eq]
    exact chained.short
  have version := shape.version_eq_four_iff
  have segment : (entry.hdr.summed pkt).length = pkt.length - headerStart entry.isV6 := by
    rw [VirtioNetHdr.summed, List.length_drop, csumStart]
  have read : ∀ position, readU16 (entry.hdr.summed pkt) position =
      readU16 pkt (headerStart entry.isV6 + position) := by
    intro position
    rw [VirtioNetHdr.summed, csumStart]
    exact readU16_congr (byteAt_drop _ _ _) (byteAt_drop _ _ _)
  have field : (readU16 (entry.hdr.summed pkt) entry.hdr.csumOffset.toNat).toNat =
        foldCarry (pseudoHeaderSum (protocolOf pkt) (srcAddrOf pkt)
          (dstAddrOf pkt) (entry.hdr.summed pkt).length) := by
    rw [read, csumOffset, stored.partialChecksum, pseudoHeaderChecksum_toNat,
      shape.protocolOf_eq, shape.srcAddrOf_eq, shape.dstAddrOf_eq, segment,
      toNat_ofNat', Nat.mod_eq_of_lt (by omega)]
  have place : checksumOffset entry.protocol % 2 = 0 ∧
      headerStart entry.isV6 + checksumOffset entry.protocol + 2 ≤ entry.hdrLen := by
    unfold checksumOffset
    split
    · rename_i tcp
      have := bounds.2.2 tcp
      omega
    · omega
  constructor
  case version =>
    rw [shape.version]
    cases entry.isV6
    · exact .inl rfl
    · exact .inr rfl
  case protocol =>
    rw [shape.protocolOf_eq]
    rcases shape.transport with ⟨tcp, -⟩ | ⟨udp, -⟩
    · exact .inl tcp
    · exact .inr udp
  case csumStart => rw [csumStart, shape.transportStart_eq]
  case csumOffset => rw [csumOffset, shape.protocolOf_eq]
  case small => exact small
  case totalLength =>
    intro four
    rw [stored.ipHeader.totalLength (version.mp four), toNat_ofNat',
      Nat.mod_eq_of_lt (by omega)]
  case headerChecksum =>
    intro four
    have checked := stored.ipHeader.headerChecksum (version.mp four)
    rw [shape.transportStart_eq, version.mp four]
    exact checked
  case payloadLength =>
    intro six
    have v6 : entry.isV6 = true := by
      have found := shape.version.symm.trans six
      cases isV6 : entry.isV6
      · rw [isV6] at found
        cases found
      · rfl
    rw [v6] at bounds
    change 40 + 8 ≤ _ ∧ _ at bounds
    rw [stored.ipHeader.payloadLength v6, toNat_ofNat', Nat.mod_eq_of_lt (by omega)]
    omega
  case udpLength =>
    intro udp
    rw [shape.protocolOf_eq] at udp
    rw [read, stored.udpLength udp, toNat_ofNat', segment, Nat.mod_eq_of_lt (by omega)]
  case field => exact field
  case completed =>
    unfold TransportChecksumValid VirtioNetHdr.completed
    rw [length_writeU16]
    refine balanced_of_completed_checksum ?_ _ _ ?_ ?_ field
    · rw [shape.protocolOf_eq]
      exact shape.pseudoHeaderSum_pos _ _ _
    · rw [csumOffset]
      exact place.1
    · rw [segment, csumOffset]
      omega

end Entries

/-! ## Every merged packet -/

/--
After `handleGRO` returns nil, every merged packet is written, in a buffer of
the batch, behind a header that describes it, and its lengths and checksums
are those that the device relies on.
-/
theorem handleGRO_partialPackets (config : GROConfig) (bufs : List Buf)
    (tcpOrder : MapOrder TCPFlowKey TCPGROItem)
    (udpOrder : MapOrder UDPFlowKey UDPGROItem) (final : GROState) (batch : bufs.length ≤ 65536)
    (caps : ∀ buf ∈ bufs, buf.cap ≤ config.offset + 65536)
    (handled : handleGRO config tcpOrder udpOrder (GROState.new bufs) = some ([], final)) :
    ∀ entry ∈ final.entries, entry.numMerged ≠ 0 → entry.index ∈ final.toWrite ∧
        ∃ buf, final.bufs[entry.index]? = some buf ∧
          (∃ first ∈ bufs, buf.cap = first.cap) ∧ buf.bytes.length ≤ buf.cap ∧
          buf.bytes.drop (config.offset - virtioNetHdrLen) =
            entry.hdr.bytes config.order ++ buf.bytes.drop config.offset ∧
          PartialPacket entry.hdr (buf.bytes.drop config.offset) := by
  intro entry member several
  obtain ⟨state, -, result⟩ := handleGRO_spec batch handled
  obtain ⟨noops, inv⟩ := result.run.inv batch
  have inside : entry ∈ state.entries := by
    rwa [GROState.entries, result.tcpTable, result.udpTable] at member
  have holds := inv.entryInv.holds entry inside
  have chained := result.run.chained batch caps entry inside
  obtain ⟨before, after, was, now, writtenTo⟩ := result.written entry inside
  have merged := holds.mergedPacket was writtenTo
  have header := writtenTo.header
  rw [Entry.writtenHdr, if_neg several] at header
  constructor
  · have written : entry.index ∈ (state.toWrite : Multiset Nat) := by
      rw [inv.entryInv.written_eq]
      exact Multiset.mem_add.mpr (.inr (Multiset.mem_map_of_mem Entry.index inside))
    rw [result.toWrite]
    exact written
  · obtain ⟨first, original, same⟩ := inv.entryInv.caps before (List.mem_of_getElem? was)
    refine ⟨after, now, ⟨first, original, ?_⟩, Nat.le_add_right _ _, header,
      merged.partialPacket holds chained (writtenTo.merged several)⟩
    rw [← same, Buf.cap, Buf.cap, writtenTo.length, writtenTo.spare]

theorem handleGRO_partialPackets_sample :
    ∃ final entry, handleGRO (sampleConfig true) (.stored _ _) (.stored _ _)
          (GROState.new sampleBatch) = some ([], final) ∧
        entry ∈ final.entries ∧ entry.members = [0, 2] ∧ entry.index ∈ final.toWrite ∧
        ∃ buf, final.bufs[entry.index]? = some buf ∧
          PartialPacket entry.hdr (buf.bytes.drop 10) := by
  obtain ⟨final, handled, items⟩ := handleGRO_observed (sampleConfig true) sampleBatch
    (fun final => final.udpTable.items.map UDPGROItem.entry)
    [⟨0, [0, 2], 1, 2, 17, false, 28⟩] (by decide +kernel)
  have member : (⟨0, [0, 2], 1, 2, 17, false, 28⟩ : Entry) ∈ final.entries := by
    rw [GROState.entries, Multiset.map_coe UDPGROItem.entry, items]
    exact Multiset.mem_add.mpr (.inr (List.mem_singleton.mpr rfl))
  obtain ⟨written, buf, found, -, -, -, ready⟩ :=
    handleGRO_partialPackets (sampleConfig true) sampleBatch (.stored _ _)
      (.stored _ _) final (by decide) (by decide) handled _ member (by decide)
  exact ⟨final, _, handled, member, rfl, written, buf, found, ready⟩

end SingTun.Offload
