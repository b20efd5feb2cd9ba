import SingTun.Offload.GroRoundTrip

/-!
# The headers of a written batch

`handleGRO` hands the device a packet behind a header.  The header is written
when the packet is left alone, or by the accounting at the end, which visits
the items that are still in their table.  An item that `deleteAt` took out of
the table stays in the list of indices to write, and nothing writes its
header: the device gets what was in the buffer before.
-/

namespace SingTun.Offload

open Foundation Header

/-! ## The header a packet should have -/

/-- The header that describes a merged packet with segments of a size. -/
def describingHdr (pkt : Bytes) (gsoSize : Nat) : VirtioNetHdr :=
  { flags := virtioNetHdrFNeedsCsum
    gsoType :=
      if protocolOf pkt = tcpProtocolNumber then
        if ipVersionOf pkt = 4 then virtioNetHdrGSOTCPv4
        else virtioNetHdrGSOTCPv6
      else virtioNetHdrGSOUDPL4
    hdrLen := UInt16.ofNat (transportStart pkt + transportHeaderLength pkt)
    gsoSize := UInt16.ofNat gsoSize
    csumStart := UInt16.ofNat (transportStart pkt)
    csumOffset :=
      if protocolOf pkt = tcpProtocolNumber then 16 else 6 }

/-- The size of the segments of a merged packet is that of its first one. -/
def segmentSizeOf (bufs : List Buf) (offset : Nat) (members : List Nat) :
    Nat :=
  (viewOf (batchPacket bufs offset (members.headD 0))).payload.length

/--
What is written at `w` has the header for it: the zero header for a packet
that was not merged, and one that describes the merged packet otherwise.
-/
def HeaderWritten (config : GROConfig) (bufs : List Buf) (final : GROState) (w : Nat) :
    Prop :=
  ∃ buf, final.bufs[w]? = some buf ∧
    window buf.bytes (config.offset - virtioNetHdrLen) virtioNetHdrLen =
      VirtioNetHdr.bytes config.order (if final.membersOf w = [w] then .zero
          else describingHdr (buf.bytes.drop config.offset)
            (segmentSizeOf bufs config.offset (final.membersOf w)))

theorem describingHdr_eq {orig : Nat → Bytes} {offset : Nat} {bufs : List Buf} {entry : Entry}
    {pkt : Bytes} (merged : MergedPacket orig entry pkt)
    (holds : entry.Holds orig offset bufs) :
    describingHdr pkt (viewOf (orig entry.first)).payload.length = entry.hdr := by
  have shape := merged.shape holds
  have first := holds.first_shape
  have size : (viewOf (orig entry.first)).payload.length = entry.gsoSize := by
    rw [first.viewOf_eq]
    show ((orig entry.first).drop entry.hdrLen).length = _
    rw [List.length_drop, holds.size, Nat.add_sub_cancel_left]
  unfold describingHdr Entry.hdr
  rw [size, shape.hdrLen_eq, shape.transportStart_eq, shape.protocolOf_eq]
  have family : (if ipVersionOf pkt = 4 then virtioNetHdrGSOTCPv4
      else virtioNetHdrGSOTCPv6) =
        if entry.isV6 then virtioNetHdrGSOTCPv6 else virtioNetHdrGSOTCPv4 := by
    have version := shape.version_eq_four_iff
    cases isV6 : entry.isV6 with
    | false => rw [if_pos (version.mpr isV6)]; rfl
    | true =>
      have other : ipVersionOf pkt ≠ 4 := fun four => by
        rw [version.mp four] at isV6
        cases isV6
      rw [if_neg other]
      rfl
  rw [family]

theorem window_of_drop {bytes front rest : Bytes} {position count : Nat}
    (split : bytes.drop position = front ++ rest)
    (length : front.length = count) :
    window bytes position count = front := by
  rw [window, split, ← length, List.take_left]

/-! ## Who has a header -/

section Headers

variable {config : GROConfig} {given : List Buf} {state final : GROState}
variable {noops : Multiset Nat}

variable (result : GROFinal config given state final)
include result

variable (inv : GROInv config given given.length state noops)
include inv

/-- A packet that was left alone has the zero header. -/
theorem GROFinal.headerWritten_noop (headroom : virtioNetHdrLen ≤ config.offset)
    {w : Nat} (noop : w ∈ noops)
    (room : ∀ buf, given[w]? = some buf → config.offset ≤ buf.bytes.length) :
    HeaderWritten config given final w := by
  obtain ⟨buf, first, now⟩ := inv.entryInv.noops_eq w noop
  have other := inv.single_ne_index (Multiset.mem_add.mpr (.inl noop))
  refine ⟨_, (result.others w other).trans now, ?_⟩
  rw [result.membersOf, GROState.membersOf_other other, if_pos rfl]
  exact window_of_drop (drop_withHeader config.order .zero headroom (room buf first))
    (VirtioNetHdr.length_bytes _ _)

/-- An item that is still in its table has its header. -/
theorem GROFinal.headerWritten_entry {entry : Entry} (inside : entry ∈ state.entries) :
    HeaderWritten config given final entry.index := by
  have holds := inv.entryInv.holds entry inside
  have count := holds.count
  obtain ⟨before, after, was, now, writtenTo⟩ := result.written entry inside
  refine ⟨after, now, ?_⟩
  rw [window_of_drop writtenTo.header (VirtioNetHdr.length_bytes _ _),
    result.membersOf, inv.membersOf_entry inside, Entry.writtenHdr]
  by_cases single : entry.numMerged = 0
  · have index := holds.index_mem
    rw [single] at count
    obtain ⟨only, members_eq⟩ := List.length_eq_one_iff.mp count
    rw [members_eq, List.mem_singleton] at index
    rw [if_pos single, if_pos (by rw [members_eq, index])]
  · have several : entry.members ≠ [entry.index] := by
      intro alone
      rw [alone] at count
      exact absurd count (by simp [single])
    have merged := holds.mergedPacket was writtenTo
    rw [if_neg single, if_neg several, segmentSizeOf]
    exact congrArg _ (describingHdr_eq merged holds).symm

/-- A lost packet has what was in its buffer before. -/
theorem GROFinal.headerWritten_lost {w : Nat} (lost : w ∈ state.lost) :
    HeaderWritten config given final w ↔ ∃ buf, given[w]? = some buf ∧
        window buf.bytes (config.offset - virtioNetHdrLen) virtioNetHdrLen =
          VirtioNetHdr.zero.bytes config.order := by
  have other := inv.single_ne_index (Multiset.mem_add.mpr (.inr lost))
  rw [HeaderWritten, result.others w other, inv.entryInv.lost_eq w lost,
    result.membersOf, GROState.membersOf_other other]
  simp only [if_true]

end Headers

/--
After `handleGRO` returns nil every written packet has its header exactly if,
whenever an item fails its check at a turn of the loop, its buffer had a zero
header from the start.
-/
theorem headerWritten_iff_zeroHeader (config : GROConfig) (bufs : List Buf)
    (tcpOrder : MapOrder TCPFlowKey TCPGROItem)
    (udpOrder : MapOrder UDPFlowKey UDPGROItem)
    (final : GROState)
    (batch : bufs.length ≤ 65536)
    (handled : handleGRO config tcpOrder udpOrder (GROState.new bufs) = some ([], final)) :
    (∀ w ∈ final.toWrite, HeaderWritten config bufs final w) ↔
      ∀ k before, GROTurn config bufs k before → ∀ attempt ∈ groAttempts config before k,
        attempt.result = .itemInvalidCSum →
          ∃ buf, bufs[attempt.item.bufsIndex.toNat]? = some buf ∧
            window buf.bytes (config.offset - virtioNetHdrLen) virtioNetHdrLen =
              VirtioNetHdr.zero.bytes config.order := by
  obtain ⟨state, loop, result⟩ := handleGRO_spec batch handled
  obtain ⟨noops, inv⟩ := result.run.inv batch
  have lost : ∀ w, w ∈ state.lost ↔ ∃ item ∈ state.tcpTable.deleted, item.bufsIndex.toNat = w := by
    intro w
    rw [GROState.lost, Multiset.map_coe, Multiset.mem_coe, List.mem_map]
  have listed : ∀ w, w ∈ final.toWrite ↔ (w ∈ noops ∨ w ∈ state.lost) ∨ ∃ entry ∈ state.entries,
        entry.index = w := by
    intro w
    rw [result.toWrite, ← Multiset.mem_coe, inv.entryInv.written_eq,
      Multiset.mem_add, Multiset.mem_add, Multiset.mem_map]
  constructor
  · intro all k before turn attempt made invalid
    have deleted := (mem_deleted_iff batch loop _).mpr
      ⟨k, before, turn, attempt, made, invalid, rfl⟩
    have gone := (lost _).mpr ⟨_, deleted, rfl⟩
    exact (result.headerWritten_lost inv gone).mp (all _ ((listed _).mpr (.inl (.inr gone))))
  · intro zero w member
    rcases (listed w).mp member with (noop | gone) | ⟨entry, inside, rfl⟩
    · have before := inv.entryInv.accounts.lt_of_mem_single noop
      refine result.headerWritten_noop inv (result.run.headroom (by omega)) noop ?_
      intro buf first
      exact (result.run.offset_lt before first).le
    · obtain ⟨item, deleted, rfl⟩ := (lost w).mp gone
      obtain ⟨k, before, turn, attempt, made, invalid, rfl⟩ :=
        (mem_deleted_iff batch loop item).mp deleted
      exact (result.headerWritten_lost inv gone).mpr (zero k before turn attempt made invalid)
    · exact result.headerWritten_entry inv inside

/-- A TCP segment of two octets, with its checksum as given. -/
def sampleSegment (seq flags checksumHigh checksumLow first second : UInt8) : Bytes :=
  [0x45, 0, 0, 42, 0, 0, 0, 0, 64, 6, 0x66, 0xcc, 10, 0, 0, 1, 10, 0, 0, 2,
    0x1f, 0x90, 0, 80, 0, 0, 0, seq, 0, 0, 0, 0, 0x50, flags, 1, 0,
    checksumHigh, checksumLow, 0, 0, first, second]

/--
Two segments in order; the checksum of the first one is wrong, and its buffer
begins with these octets.
-/
def invalidFirstBatch (headroom : UInt8) : List Buf :=
  [{ bytes := List.replicate 10 headroom ++ sampleSegment 1 0x10 121 236 1 2, spare := 100 },
    sampleBuf (sampleSegment 3 0x10 119 233 3 4)]

/-- The first segment is deleted, and its header happens to be zero. -/
theorem headerWritten_iff_zeroHeader_sample :
    ∃ final, handleGRO (sampleConfig false) (.stored _ _) (.stored _ _)
          (GROState.new (invalidFirstBatch 0)) = some ([], final) ∧
        final.toWrite = [0, 1] ∧ final.tcpTable.deleted.length = 1 ∧
        ∀ w ∈ final.toWrite, HeaderWritten (sampleConfig false) (invalidFirstBatch 0) final w := by
  obtain ⟨final, handled, outcome⟩ := handleGRO_observed (sampleConfig false)
    (invalidFirstBatch 0) (fun final => (final.toWrite, final.tcpTable.deleted.length))
    ([0, 1], 1) (by decide +kernel)
  obtain ⟨written, deleted⟩ := Prod.mk.inj outcome
  refine ⟨final, handled, written, deleted, ?_⟩
  refine (headerWritten_iff_zeroHeader (sampleConfig false) (invalidFirstBatch 0)
    (.stored _ _) (.stored _ _) final (by decide) handled).mpr ?_
  rintro k before ⟨inside, ran⟩ attempt made -
  have firsts : ∀ k < 2, ((groLoop (sampleConfig false) (List.range k)
      (GROState.new (invalidFirstBatch 0))).all fun outcome =>
        (groAttempts (sampleConfig false) outcome.2 k).all fun attempt =>
          attempt.item.bufsIndex = 0) = true := by
    decide +kernel
  have checked := firsts k inside
  rw [ran, Option.all_some, List.all_eq_true] at checked
  rw [of_decide_eq_true (checked attempt made)]
  exact ⟨_, rfl, by decide⟩

/-! ## A header that is missing -/

/-- The first segment is written with ten octets that were there before. -/
theorem headerWritten_fails_deleted :
    ∃ final, handleGRO (sampleConfig false) (.stored _ _) (.stored _ _)
          (GROState.new (invalidFirstBatch 0xff)) = some ([], final) ∧
        0 ∈ final.toWrite ∧ final.membersOf 0 = [0] ∧
        (final.bufs[0]?.map fun buf => buf.bytes.take 10) = some (List.replicate 10 0xff) ∧
        ¬HeaderWritten (sampleConfig false) (invalidFirstBatch 0xff) final 0 := by
  obtain ⟨final, handled, outcome⟩ := handleGRO_observed (sampleConfig false)
    (invalidFirstBatch 0xff) (fun final => (decide (0 ∈ final.toWrite), final.membersOf 0,
      final.bufs[0]?.map fun buf => buf.bytes.take 10))
    (true, [0], some (List.replicate 10 0xff)) (by decide +kernel)
  simp only [Prod.mk.injEq, decide_eq_true_eq] at outcome
  obtain ⟨written, members, octets⟩ := outcome
  refine ⟨final, handled, written, members, octets, ?_⟩
  rintro ⟨buf, found, header⟩
  rw [members, if_pos rfl] at header
  rw [found] at octets
  have left : buf.bytes.take 10 = List.replicate 10 0xff := Option.some.inj octets
  change buf.bytes.take 10 = _ at header
  rw [left] at header
  cases header

end SingTun.Offload
