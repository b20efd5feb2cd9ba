import SingTun.Foundation.Chunks
import SingTun.Offload.GroRun

/-!
# Cutting undoes merging

Every item keeps its members in the order of their data: all of one size but
the last, with sequence numbers that follow each other, and together short
enough for sixteen bit lengths.  `Entry.Chained` says so, and every step of
`handleGRO` keeps it as long as no buffer is larger than a packet may be.
For such an item `handleVirtioRead` gives back the members.
-/

namespace SingTun.Offload

open Foundation Header List UInt16 GROState

/-! ## Chains of members -/

/-- The data of the members of an entry. -/
def Entry.payloads (orig : Nat → Bytes) (entry : Entry) : List Bytes :=
  entry.members.map fun member => (orig member).drop entry.hdrLen

/-- The sequence number of a TCP packet without IP options. -/
def seqAt (isV6 : Bool) (pkt : Bytes) : UInt32 :=
  readU32 pkt (headerStart isV6 + 4)

/-- The members of an entry follow each other. -/
structure Entry.Chained (orig : Nat → Bytes) (entry : Entry) : Prop where
  chunked : Chunked entry.gsoSize (entry.payloads orig)
  seq : entry.protocol = tcpProtocolNumber → ∀ j member, entry.members[j]? = some member →
      seqAt entry.isV6 (orig member) = seqAt entry.isV6 (orig entry.first) +
          UInt32.ofNat (j * entry.gsoSize)
  short : entry.hdrLen + (entry.payloads orig).flatten.length ≤ 65535

namespace Entry

variable {orig : Nat → Bytes} {offset : Nat} {bufs : List Buf}
variable {entry : Entry} {member : Nat}

theorem payloads_append (entry : Entry) (member : Nat) :
    (entry.append member).payloads orig =
      entry.payloads orig ++ [(orig member).drop entry.hdrLen] := by
  simp [payloads, Entry.append]

theorem payloads_prepend (entry : Entry) (member gsoSize : Nat) :
    (entry.prepend member gsoSize).payloads orig =
      (orig member).drop entry.hdrLen :: entry.payloads orig := by
  simp [payloads, Entry.prepend]

namespace Chained

/-- A packet of its own. -/
theorem single (members : entry.members = [member])
    (length : (orig member).length = entry.hdrLen + entry.gsoSize)
    (positive : 0 < entry.gsoSize)
    (small : (orig member).length ≤ 65535) :
    entry.Chained orig := by
  have payloads : entry.payloads orig = [(orig member).drop entry.hdrLen] := by
    rw [Entry.payloads, members]
    rfl
  refine ⟨?_, ?_, ?_⟩
  · rw [payloads]
    show 0 < ((orig member).drop entry.hdrLen).length ∧ _ ≤ _
    rw [length_drop]
    omega
  · intro _ j other found
    rw [members] at found
    cases j with
    | zero =>
      obtain rfl : member = other := by simpa using found
      have first : entry.first = member := by rw [Entry.first, members]; rfl
      rw [first, Nat.zero_mul]
      exact (UInt32.add_zero _).symm
    | succ j => simp at found
  · rw [payloads, flatten_singleton, length_drop]
    omega

/-- A packet behind members that are all full. -/
theorem append (chained : entry.Chained orig)
    (nonempty : entry.members ≠ [])
    (full : (entry.payloads orig).flatten.length % entry.gsoSize = 0)
    (longer : entry.hdrLen < (orig member).length)
    (fits : (orig member).length ≤ entry.hdrLen + entry.gsoSize)
    (seq : entry.protocol = tcpProtocolNumber → seqAt entry.isV6 (orig member) =
        seqAt entry.isV6 (orig entry.first) + UInt32.ofNat (entry.members.length * entry.gsoSize))
    (short : (entry.payloads orig).flatten.length + (orig member).length ≤ 65535) :
    (entry.append member).Chained orig := by
  refine ⟨?_, ?_, ?_⟩
  · rw [payloads_append]
    refine chained.chunked.concat full ?_ ?_ <;> rw [length_drop]
    · omega
    · show _ ≤ entry.gsoSize
      omega
  · intro tcp j other found
    rw [first_append nonempty]
    change (entry.members ++ [member])[j]? = some other at found
    show seqAt entry.isV6 (orig other) = _ + UInt32.ofNat (j * entry.gsoSize)
    rcases Nat.lt_or_ge j entry.members.length with inside | outside
    · rw [List.getElem?_append_left inside] at found
      exact chained.seq tcp j other found
    · rw [List.getElem?_append_right outside, List.getElem?_singleton] at found
      split at found
      · rename_i last
        obtain rfl : member = other := Option.some.inj found
        rw [seq tcp, show j = entry.members.length by omega]
        rfl
      · cases found
  · rw [payloads_append, flatten_append, flatten_singleton,
      length_append, length_drop]
    show entry.hdrLen + _ ≤ _
    omega

/-- A packet in front of the members. -/
theorem prepend (chained : entry.Chained orig) {gsoSize : Nat}
    (length : (orig member).length = entry.hdrLen + gsoSize)
    (positive : 0 < gsoSize)
    (size : entry.gsoSize ≤ gsoSize)
    (larger : entry.gsoSize < gsoSize → entry.members.length = 1)
    (seq : entry.protocol = tcpProtocolNumber →
      seqAt entry.isV6 (orig member) + UInt32.ofNat gsoSize = seqAt entry.isV6 (orig entry.first))
    (short : (entry.payloads orig).flatten.length + (orig member).length ≤ 65535) :
    (entry.prepend member gsoSize).Chained orig := by
  have chunked : Chunked gsoSize (entry.payloads orig) := by
    have old := chained.chunked
    rcases Nat.lt_or_ge entry.gsoSize gsoSize with less | equal
    · obtain ⟨only, members⟩ := length_eq_one_iff.mp (larger less)
      rw [Entry.payloads, members] at old ⊢
      exact ⟨old.1, old.2.trans size⟩
    · rwa [show gsoSize = entry.gsoSize by omega]
  refine ⟨?_, ?_, ?_⟩
  · rw [payloads_prepend]
    refine chunked.cons ?_ positive
    rw [length_drop, length]
    exact Nat.add_sub_cancel_left _ _
  · intro tcp j other found
    change (member :: entry.members)[j]? = some other at found
    show seqAt entry.isV6 (orig other) = seqAt entry.isV6 (orig member) + UInt32.ofNat (j * gsoSize)
    cases j with
    | zero =>
      obtain rfl : member = other := by simpa using found
      rw [Nat.zero_mul]
      exact (UInt32.add_zero _).symm
    | succ j =>
      rw [List.getElem?_cons_succ] at found
      have inside := (List.getElem?_eq_some_iff.mp found).1
      have step : j * entry.gsoSize = j * gsoSize := by
        rcases Nat.lt_or_ge entry.gsoSize gsoSize with less | equal
        · have lone := larger less
          obtain rfl : j = 0 := by omega
          rw [Nat.zero_mul, Nat.zero_mul]
        · rw [show entry.gsoSize = gsoSize by omega]
      rw [chained.seq tcp j other found, step, ← seq tcp, UInt32.add_assoc,
        ← UInt32.ofNat_add, Nat.succ_mul, Nat.add_comm gsoSize]
  · rw [payloads_prepend, flatten_cons, length_append, length_drop]
    show entry.hdrLen + _ ≤ _
    omega

end Chained

/-- The data in the buffer of an entry. -/
theorem Holds.length_payloads (holds : entry.Holds orig offset bufs) {buf : Buf}
    (found : bufs[entry.index]? = some buf) :
    offset + entry.hdrLen + (entry.payloads orig).flatten.length = buf.bytes.length := by
  obtain ⟨room, aggregate⟩ := holds.aggregate found
  have long := aggregate.long
  have length := congrArg List.length aggregate.payload
  change _ = (entry.payloads orig).flatten.length at length
  rw [length_drop, length_drop] at length
  rw [length_drop] at long
  omega

end Entry

/-! ## Every step keeps the chains -/

section Steps

variable {config : GROConfig} {given : List Buf} {k : Nat}
variable {state state' : GROState} {noops : Multiset Nat}

theorem GROInv.cap_le (inv : GROInv config given k state noops)
    (caps : ∀ buf ∈ given, buf.cap ≤ config.offset + 65536)
    {i : Nat} {buf : Buf} (found : state.bufs[i]? = some buf) :
    buf.cap ≤ config.offset + 65536 := by
  obtain ⟨first, member, same⟩ := inv.entryInv.caps buf (mem_of_getElem? found)
  rw [same]
  exact caps first member

/-- The distance that `tcpPacketsCanCoalesce` computes does not wrap. -/
theorem distance_eq {gsoSize numMerged : UInt16} {count : Nat}
    (counted : count = numMerged.toNat + 1)
    (short : count * gsoSize.toNat < 65536) :
    (gsoSize + numMerged * gsoSize).toUInt32 = UInt32.ofNat (count * gsoSize.toNat) := by
  rw [counted, Nat.succ_mul] at short ⊢
  apply UInt32.toNat_inj.mp
  rw [UInt16.toNat_toUInt32, UInt16.toNat_add, UInt16.toNat_mul,
    UInt32.toNat_ofNat', Nat.mod_eq_of_lt (show numMerged.toNat * gsoSize.toNat < 2 ^ 16 by omega),
    Nat.mod_eq_of_lt (by omega), Nat.mod_eq_of_lt (by omega), Nat.add_comm]

theorem toUInt32_eq_ofNat (value : UInt16) : value.toUInt32 = UInt32.ofNat value.toNat :=
  (UInt32.ofNat_uInt16ToNat value).symm

theorem chained_of_tcpItem_origin (inv : GROInv config given k state noops)
    (small : k < 65536)
    (headroom : virtioNetHdrLen ≤ config.offset)
    (caps : ∀ buf ∈ given, buf.cap ≤ config.offset + 65536)
    (chained : ∀ item ∈ state.tcpTable.items, item.entry.Chained (batchPacket given config.offset))
    {bufs' : List Buf} {item : TCPGROItem}
    (origin : TCPItemOrigin config given k state bufs' item) :
    item.entry.Chained (batchPacket given config.offset) := by
  have offset : 10 ≤ config.offset := headroom
  cases origin with
  | old member => exact chained item member
  | inserted describes frame =>
    refine Entry.Chained.single rfl ?_ describes.positive describes.small
    rw [describes.entry_hdrLen]
    exact describes.length.symm
  | @merged isV6 c mode old new member describes flow coalesced =>
    have before := inv.tcpValid old member
    have oldChained := chained old member
    have family : old.key.isV6 = isV6 := by rw [flow]; rfl
    have count := before.entry.count
    have merged := inv.entryInv.numMerged_lt (tcpEntry_mem member)
    change old.numMerged.toNat < k at merged
    have positive := describes.positive
    have length := describes.length
    have headers : c.iphLen + c.tcphLen = old.entry.hdrLen :=
      coalesced.hdrLen_eq before describes flow
    have oldSeq : old.sentSeq = seqAt old.entry.isV6
        (batchPacket given config.offset old.entry.first) := before.sentSeq
    have newSeq : c.seq = seqAt old.entry.isV6 (batchPacket given config.offset k) := by
      rw [describes.seq, ← family]
      rfl
    rcases coalesced.entry_eq (by omega) with
      ⟨entry_eq, target, found, appendable, room⟩ |
      ⟨entry_eq, prependable, target, b, found, current, room⟩
    · have cap := inv.cap_le caps found
      have total := before.entry.length_payloads found
      have full := appendable.multiple
      rw [length_drop, show target.bytes.length - config.offset -
        old.entry.hdrLen = (old.entry.payloads
          (batchPacket given config.offset)).flatten.length by omega] at full
      have data := oldChained.chunked.length_flatten_of_full full
      rw [Entry.payloads, length_map] at data
      change _ = _ * old.gsoSize.toNat at data
      rw [entry_eq]
      refine oldChained.append before.entry.members_ne_nil full (by omega) ?_ ?_ ?_
      · have size := appendable.size
        show _ ≤ _ + old.gsoSize.toNat
        omega
      · intro _
        rw [← newSeq, appendable.seq, ← oldSeq, distance_eq count]
        · rfl
        · rw [← data]
          unfold Entry.payloads at total
          omega
      · omega
    · have cap := inv.cap_le caps current
      have total := before.entry.length_payloads found
      rw [entry_eq]
      refine oldChained.prepend (by omega) positive prependable.size ?_ ?_ (by omega)
      · intro larger
        have zero := prependable.larger larger
        rw [count]
        show old.numMerged.toNat + 1 = 1
        rw [zero]
        rfl
      · intro _
        rw [← newSeq, ← oldSeq, ← prependable.seq, toUInt32_eq_ofNat]

theorem chained_of_udpItem_origin (inv : GROInv config given k state noops)
    (small : k < 65536)
    (headroom : virtioNetHdrLen ≤ config.offset)
    (caps : ∀ buf ∈ given, buf.cap ≤ config.offset + 65536)
    (chained : ∀ item ∈ state.udpTable.items, item.entry.Chained (batchPacket given config.offset))
    {item : UDPGROItem} (origin : UDPItemOrigin config given k state item) :
    item.entry.Chained (batchPacket given config.offset) := by
  have offset : 10 ≤ config.offset := headroom
  cases origin with
  | old member => exact chained item member
  | inserted describes =>
    refine Entry.Chained.single rfl ?_ describes.positive describes.small
    rw [describes.entry_hdrLen]
    exact describes.length.symm
  | @merged isV6 c bufs' target old new member describes flow coalesced =>
    have before := inv.udpValid old member
    have oldChained := chained old member
    have family : old.key.isV6 = isV6 := by rw [flow]; rfl
    have merged := inv.entryInv.numMerged_lt (udpEntry_mem member)
    change old.numMerged.toNat < k at merged
    have positive := describes.positive
    have length := describes.length
    have hdrLen : c.iphLen + 8 = old.entry.hdrLen := by
      show _ = old.iphLen.toNat + 8
      rw [describes.iphLen, before.start, family]
    have cap := inv.cap_le caps coalesced.found
    have room := coalesced.room
    have total := before.entry.length_payloads coalesced.found
    have full := coalesced.multiple
    rw [show target.bytes.length - config.offset - old.entry.hdrLen =
      (old.entry.payloads (batchPacket given config.offset)).flatten.length by omega] at full
    rw [coalesced.entry_eq (by omega)]
    refine oldChained.append before.entry.members_ne_nil full (by omega) ?_ ?_ (by omega)
    · have size := coalesced.size
      show _ ≤ _ + old.gsoSize.toNat
      omega
    · intro tcp
      cases tcp

theorem GRORun.chained (run : GRORun config given k state)
    (small : given.length ≤ 65536)
    (caps : ∀ buf ∈ given, buf.cap ≤ config.offset + 65536) :
    ∀ entry ∈ state.entries, entry.Chained (batchPacket given config.offset) := by
  suffices both : (∀ item ∈ state.tcpTable.items,
        item.entry.Chained (batchPacket given config.offset)) ∧
      ∀ item ∈ state.udpTable.items, item.entry.Chained (batchPacket given config.offset) by
    intro entry member
    rcases Multiset.mem_add.mp member with tcp | udp
    · obtain ⟨item, inside, rfl⟩ := Multiset.mem_map.mp tcp
      exact both.1 item inside
    · obtain ⟨item, inside, rfl⟩ := Multiset.mem_map.mp udp
      exact both.2 item inside
  induction run with
  | start => exact ⟨nofun, nofun⟩
  | step run first valid step ih =>
    obtain ⟨noops, inv⟩ := run.inv small
    have inside := (List.getElem?_eq_some_iff.mp first).1
    constructor
    · intro item member
      exact chained_of_tcpItem_origin inv (by omega) valid.1 caps
        ih.1 (step.tcpItem_origin inv member)
    · intro item member
      exact chained_of_udpItem_origin inv (by omega) valid.1 caps ih.2 (step.udpItem_origin member)

end Steps

/-! ## Cutting a merged packet -/

/-- With enough room `handleVirtioRead` returns exactly these packets. -/
def SplitsInto (order : ByteOrder) (input : Bytes) (packets : List Bytes) : Prop :=
  ∀ outBufs sizes outOffset,
    SplitRoom packets.length input.length outBufs sizes outOffset → ∃ result,
        handleVirtioRead order input outBufs sizes outOffset =
            some (.ok result) ∧ result.error = none ∧
          result.count = packets.length ∧ result.packets outOffset = packets

theorem SplitRoom.mono {count length length' : Nat} {outBufs : List Bytes} {sizes : List Nat}
    {outOffset : Nat} (room : SplitRoom count length outBufs sizes outOffset)
    (less : length' ≤ length) :
    SplitRoom count length' outBufs sizes outOffset :=
  { room with
    long := fun outBuf member =>
      Nat.le_trans (Nat.add_le_add_left less _) (room.long outBuf member) }

/-- A packet behind a zero header comes back as it is. -/
theorem splitsInto_zero (order : ByteOrder) {pkt : Bytes} (long : 1 < pkt.length) :
    SplitsInto order (VirtioNetHdr.zero.bytes order ++ pkt) [pkt] := by
  intro outBufs sizes outOffset room
  rw [length_append] at room
  have behind : (VirtioNetHdr.zero.bytes order ++ pkt).drop virtioNetHdrLen = pkt := by
    rw [← VirtioNetHdr.length_bytes order .zero, drop_left]
  let options : GSOOptions :=
    { gsoType := .none
      hdrLen := 0
      csumStart := 0
      csumOffset := 0
      gsoSize := 0
      needsCsum := false }
  have decoded : VirtioNetHdr.zero.toGSOOptions = .ok options := rfl
  have parsed : parsedHdrLen options pkt = some (.ok 0) := rfl
  obtain ⟨result, copied, rest⟩ := copySingle_packets
    (show completeChecksum options pkt = some pkt from rfl) rfl (room.mono (Nat.le_add_left _ _))
  have split : gsoSplit pkt options outBufs sizes outOffset = some result := by
    have field : options.csumStart.toNat + options.csumOffset.toNat = 0 := rfl
    have header : options.hdrLen.toNat = 0 := rfl
    rw [gsoSplit]
    simp only
    rw [if_neg (by omega), if_neg (by omega), if_pos (.inl rfl), copied]
  refine ⟨result, ?_, rest⟩
  unfold handleVirtioRead
  rw [VirtioNetHdr.decode_bytes_append]
  simp only
  rw [sliceFrom?_eq_some (by simp), behind]
  simp only [some_bind, decoded, parsed]
  rw [split]
  rfl

/-- The packet has the header of the first member and the data of all. -/
structure MergedPacket
    (orig : Nat → Bytes) (entry : Entry) (pkt : Bytes) : Prop where
  same : SameHeader entry.protocol entry.isV6 entry.hdrLen (orig entry.first) pkt
  seq : entry.protocol = tcpProtocolNumber →
    seqAt entry.isV6 pkt = seqAt entry.isV6 (orig entry.first)
  payload : pkt.drop entry.hdrLen = (entry.payloads orig).flatten

section

variable {protocol : UInt8} {isV6 : Bool} {hdrLen : Nat} {packet : Bytes}
variable (shape : Shape protocol isV6 hdrLen packet)
include shape

theorem volatile_of_accountedOctet {position : Nat}
    (accounted : AccountedOctet protocol isV6 position) :
    Volatile protocol isV6 position := by
  unfold AccountedOctet at accounted
  have ip : (if isV6 then position = 4 ∨ position = 5
      else position = 2 ∨ position = 3 ∨ position = 10 ∨ position = 11) →
        if isV6 then position = 4 ∨ position = 5
        else (2 ≤ position ∧ position ≤ 5) ∨ position = 10 ∨ position = 11 := by
    cases isV6 with
    | false =>
      simp only [Bool.false_eq_true, if_false]
      omega
    | true => exact id
  rcases shape.transport with ⟨tcp, -⟩ | ⟨udp, -⟩
  · have field : checksumOffset protocol = 16 := if_pos tcp
    rw [field] at accounted
    rcases accounted with header | ⟨other, -⟩ | checksum
    · exact .inl (ip header)
    · rw [tcp] at other
      cases other
    · exact .inr (.inr ⟨tcp, .inr checksum⟩)
  · have field : checksumOffset protocol = 6 := if_neg (by rw [udp]; decide)
    rcases accounted with header | ⟨-, length⟩ | checksum
    · exact .inl (ip header)
    · exact .inr (.inl (by omega))
    · exact .inr (.inl (by omega))

theorem accountedOctet_lt {position : Nat} (accounted : AccountedOctet protocol isV6 position) :
    position < hdrLen := by
  have bounds := shape.bounds
  have start := headerStart_le isV6
  have ip : (if isV6 then position = 4 ∨ position = 5
      else position = 2 ∨ position = 3 ∨ position = 10 ∨ position = 11) → position < 20 := by
    cases isV6 <;> simp <;> omega
  unfold AccountedOctet checksumOffset at accounted
  rcases accounted with header | ⟨-, length⟩ | checksum
  · have := ip header
    omega
  · omega
  · split at checksum
    · rename_i tcp
      have := bounds.2.2 tcp
      omega
    · omega

end

/-- The accounting does not touch the data. -/
theorem Accounted.drop_eq {entry : Entry} {before after packet : Bytes}
    (accounted : Accounted entry before after)
    (shape : Shape entry.protocol entry.isV6 entry.hdrLen packet) :
    after.drop entry.hdrLen = before.drop entry.hdrLen := by
  refine bytes_ext ?_ ?_
  · rw [length_drop, length_drop, accounted.length]
  · intro position inside
    rw [byteAt_drop, byteAt_drop]
    refine accounted.octets _ fun touched => ?_
    have := accountedOctet_lt shape touched
    omega

section Cut

variable {orig : Nat → Bytes} {offset : Nat} {bufs : List Buf}
variable {entry : Entry} {pkt : Bytes}

/-- The accounting leaves a merged packet. -/
theorem Entry.Holds.mergedPacket (holds : entry.Holds orig offset bufs) {order : ByteOrder}
    {before after : Buf} (found : bufs[entry.index]? = some before)
    (written : entry.WrittenTo order offset before after) :
    MergedPacket orig entry (after.bytes.drop offset) := by
  obtain ⟨room, aggregate⟩ := holds.aggregate found
  have shape := holds.first_shape
  have lengths := holds.lengths _ (Entry.first_mem holds.members_ne_nil)
  have accounted := written.packet
  have bounds := shape.bounds
  have long := aggregate.long
  refine ⟨?_, ?_, ?_⟩
  · refine (aggregate.sameHeader shape lengths.1.le).trans ?_
    refine ⟨long, accounted.length ▸ long, fun position inside fixed => ?_⟩
    exact (accounted.octets position fun touched =>
      fixed (volatile_of_accountedOctet shape touched)).symm
  · intro tcp
    refine readU32_congr fun k inside => ?_
    have start := headerStart_le entry.isV6
    have outside : ¬AccountedOctet entry.protocol entry.isV6 (headerStart entry.isV6 + 4 + k) := by
      unfold AccountedOctet checksumOffset
      rw [if_pos tcp, tcp]
      rintro (ip | ⟨other, -⟩ | checksum)
      · have far : 20 ≤ headerStart entry.isV6 + 4 + k := by omega
        generalize headerStart entry.isV6 + 4 + k = position at ip far
        split at ip <;> omega
      · cases other
      · omega
    rw [accounted.octets _ outside]
    exact aggregate.header _ (by omega) (by omega)
  · rw [Entry.payloads, ← flatMap_def, ← aggregate.payload]
    exact accounted.drop_eq shape

/-- What `handleVirtioRead` makes of the header of an entry. -/
def Entry.options (entry : Entry) : GSOOptions :=
  { gsoType :=
      if entry.protocol = tcpProtocolNumber then
        if entry.isV6 then .tcpv6 else .tcpv4
      else .udpl4
    hdrLen := UInt16.ofNat entry.hdrLen
    csumStart := UInt16.ofNat (headerStart entry.isV6)
    csumOffset := if entry.protocol = tcpProtocolNumber then 16 else 6
    gsoSize := UInt16.ofNat entry.gsoSize
    needsCsum := true }

theorem Entry.toGSOOptions_hdr (entry : Entry) : entry.hdr.toGSOOptions = .ok entry.options := by
  have flag : decide (virtioNetHdrFNeedsCsum &&& virtioNetHdrFNeedsCsum ≠ 0) =
      true := by
    decide
  have tcpv4 : gsoTypeOf virtioNetHdrGSOTCPv4 = .ok .tcpv4 := rfl
  have tcpv6 : gsoTypeOf virtioNetHdrGSOTCPv6 = .ok .tcpv6 := rfl
  have udpl4 : gsoTypeOf virtioNetHdrGSOUDPL4 = .ok .udpl4 := rfl
  unfold Entry.hdr Entry.options VirtioNetHdr.toGSOOptions
  simp only [flag]
  by_cases tcp : entry.protocol = tcpProtocolNumber
  · simp only [if_pos tcp]
    cases entry.isV6 with
    | false =>
      rfl
    | true =>
      rfl
  · simp only [if_neg tcp, udpl4]
    rfl

theorem Entry.gsoType_tcp (tcp : entry.protocol = tcpProtocolNumber) :
    entry.options.gsoType = (if entry.isV6 then .tcpv6 else .tcpv4) ∧
      entry.options.gsoType ≠ .udpl4 ∧ entry.options.gsoType ≠ .none := by
  have type : entry.options.gsoType =
      if entry.isV6 then .tcpv6 else .tcpv4 := if_pos tcp
  refine ⟨type, ?_, ?_⟩ <;> rw [type] <;> cases entry.isV6 <;> decide

theorem Entry.gsoType_udp (udp : entry.protocol = udpProtocolNumber) :
    entry.options.gsoType = .udpl4 :=
  if_neg (by rw [udp]; decide)

theorem Entry.Holds.toNat_options (holds : entry.Holds orig offset bufs) :
    entry.options.hdrLen.toNat = entry.hdrLen ∧ entry.options.gsoSize.toNat = entry.gsoSize ∧
      entry.options.csumStart.toNat = headerStart entry.isV6 := by
  have bounds := holds.first_shape.bounds
  have size := holds.gsoSize_le
  refine ⟨?_, ?_, ?_⟩
  · show (UInt16.ofNat entry.hdrLen).toNat = _
    rw [toNat_ofNat']
    omega
  · show (UInt16.ofNat entry.gsoSize).toNat = _
    rw [toNat_ofNat']
    omega
  · show (UInt16.ofNat (headerStart entry.isV6)).toNat = _
    rw [toNat_ofNat']
    omega

namespace MergedPacket

variable (merged : MergedPacket orig entry pkt) (holds : entry.Holds orig offset bufs)

include merged holds

theorem shape : Shape entry.protocol entry.isV6 entry.hdrLen pkt :=
  holds.first_shape.of_sameHeader merged.same

theorem headerView_eq : headerView pkt = headerView (orig entry.first) :=
  (holds.first_shape.headerView_eq_of_sameHeader merged.same).symm

omit holds in
theorem length_eq : pkt.length = entry.hdrLen + (entry.payloads orig).flatten.length := by
  have length := congrArg List.length merged.payload
  have long := merged.same.rightLength
  rw [length_drop] at length
  omega

/-- There is at least as much data as the first member has. -/
theorem gsoSize_le : entry.hdrLen + entry.gsoSize ≤ pkt.length := by
  have size := holds.size
  rw [merged.length_eq]
  obtain ⟨head, tail, members⟩ := exists_cons_of_ne_nil holds.members_ne_nil
  have first : entry.first = head := by rw [Entry.first, members]; rfl
  rw [Entry.payloads, members, map_cons, flatten_cons,
    length_append, length_drop, ← first]
  omega

theorem parsedHdrLen_eq : parsedHdrLen entry.options pkt = some (.ok entry.options.hdrLen) := by
  have shape := merged.shape holds
  have bounds := shape.bounds
  have long := merged.same.rightLength
  have sum : ∀ length, headerStart entry.isV6 + length = entry.hdrLen →
      entry.options.csumStart + .ofNat length = entry.options.hdrLen := by
    intro length total
    show UInt16.ofNat _ + UInt16.ofNat length = UInt16.ofNat entry.hdrLen
    rw [← ofNat_add, total]
  rcases shape.transport with ⟨tcp, short, header⟩ | ⟨udp, header⟩
  · obtain ⟨-, notUDP, notNone⟩ := Entry.gsoType_tcp tcp
    have position : (entry.options.csumStart + 12).toNat = headerStart entry.isV6 + 12 := by
      have value : (12 : UInt16).toNat = 12 := rfl
      show (UInt16.ofNat (headerStart entry.isV6) + 12).toNat = _
      rw [UInt16.toNat_add, UInt16.toNat_ofNat', value]
      omega
    have atMost := Shape.tcpHeaderLength_le pkt (headerStart entry.isV6)
    have parsed : ((byteAt pkt (headerStart entry.isV6 + 12) >>> 4) * 4).toUInt16 =
          .ofNat (tcpHeaderLength pkt (headerStart entry.isV6)) := by
      rw [← ofNat_uInt8ToNat, tcphLen_eq]
    have inRange : ¬(UInt16.ofNat (tcpHeaderLength pkt (headerStart entry.isV6)) < 20 ∨
          60 < UInt16.ofNat (tcpHeaderLength pkt (headerStart entry.isV6))) := by
      have twenty : (20 : UInt16).toNat = 20 := rfl
      have sixty : (60 : UInt16).toNat = 60 := rfl
      rw [lt_iff_toNat_lt, lt_iff_toNat_lt, toNat_ofNat', twenty, sixty]
      omega
    unfold parsedHdrLen
    rw [if_neg notUDP, if_pos notNone, position, if_neg (by omega),
      bind_of_eq_some (byteAt?_eq_some (by omega))]
    rw [parsed, if_neg inRange, sum _ header.symm]
  · unfold parsedHdrLen
    rw [if_pos (Entry.gsoType_udp udp)]
    exact congrArg (fun length => some (Except.ok length)) (sum 8 header.symm)

variable (chained : entry.Chained orig)
include chained

theorem segmentable : Segmentable pkt entry.options := by
  have shape := merged.shape holds
  obtain ⟨hdrLen, gsoSize, csumStart⟩ := holds.toNat_options
  have version := shape.version
  have positive := holds.gsoSize_pos
  have enough := merged.gsoSize_le holds
  have short := chained.short
  refine ⟨?_, ?_, ?_, ?_, ?_, by omega⟩
  · rw [merged.length_eq]
    exact short
  · rw [csumStart]
    have start := shape.transportStart_eq
    unfold transportStart at start
    cases family : entry.isV6 with
    | false =>
      rw [family, if_neg (by decide)] at version
      rw [family, if_pos version] at start
      exact .inl ⟨version, by decide, start.symm⟩
    | true =>
      rw [family, if_pos rfl] at version
      exact .inr ⟨version, rfl⟩
  · rcases shape.transport with ⟨tcp, -⟩ | ⟨udp, -⟩
    · rw [(Entry.gsoType_tcp tcp).1, version]
      cases entry.isV6 with
      | false => exact .inl ⟨rfl, rfl⟩
      | true => exact .inr (.inl ⟨rfl, rfl⟩)
    · exact .inr (.inr (Entry.gsoType_udp udp))
  · intro notUDP
    rcases shape.transport with ⟨tcp, long, header⟩ | ⟨udp, -⟩
    · rw [csumStart, hdrLen]
      exact ⟨if_pos tcp, long, header⟩
    · exact absurd (Entry.gsoType_udp udp) notUDP
  · intro type
    rcases shape.transport with ⟨tcp, -⟩ | ⟨udp, header⟩
    · exact absurd type (Entry.gsoType_tcp tcp).2.1
    · rw [csumStart, hdrLen]
      exact ⟨if_neg (by rw [udp]; decide), header⟩

/-- Reading a merged packet gives its segments. -/
theorem splitsInto (order : ByteOrder) :
    SplitsInto order (entry.hdr.bytes order ++ pkt) (segmentsOf pkt entry.options) := by
  intro outBufs sizes outOffset room
  have segmentable := merged.segmentable holds chained
  rw [length_segmentsOf, length_append] at room
  have behind : (entry.hdr.bytes order ++ pkt).drop virtioNetHdrLen =
      pkt := by
    rw [← VirtioNetHdr.length_bytes order entry.hdr, drop_left]
  obtain ⟨result, split, failed, count, packets⟩ :=
    segmentable.gsoSplit_packets (room.mono (Nat.le_add_left _ _))
  refine ⟨result, ?_, failed, ?_, packets⟩
  · unfold handleVirtioRead
    rw [VirtioNetHdr.decode_bytes_append]
    simp only
    rw [sliceFrom?_eq_some (by simp), behind, entry.toGSOOptions_hdr]
    simp only [some_bind]
    rw [merged.parsedHdrLen_eq holds]
    simp only [some_bind]
    rw [split]
    rfl
  · rw [count, length_segmentsOf]

/-- A segment shows the same header as the merged packet. -/
theorem sameHeader_segment (i start : Nat) :
    SameHeader entry.protocol entry.isV6 entry.hdrLen
      (segmentBytes (contextOf pkt entry.options) pkt i start) pkt := by
  have segmentable := merged.segmentable holds chained
  have shape := merged.shape holds
  obtain ⟨hdrLen, -, csumStart⟩ := holds.toNat_options
  have length := length_segmentBytes segmentable.fits.header i start
  change _ = entry.options.hdrLen.toNat + _ at length
  refine ⟨by omega, merged.same.rightLength, ?_⟩
  intro position inside fixed
  refine byteAt_segmentBytes segmentable.fits i start position
    (by show position < entry.options.hdrLen.toNat; omega) ?_
  intro rewritten
  refine fixed ?_
  unfold Rewritten TransportRewritten at rewritten
  change _ ∨ (if _ then (entry.options.csumStart.toNat + 4 ≤ position ∧
      position ≤ entry.options.csumStart.toNat + 7) ∨ position = entry.options.csumStart.toNat + 13
    else position = entry.options.csumStart.toNat + 4 ∨
      position = entry.options.csumStart.toNat + 5) ∨
    position = entry.options.csumStart.toNat + entry.options.csumOffset.toNat ∨
    position = entry.options.csumStart.toNat + entry.options.csumOffset.toNat + 1 at rewritten
  rw [csumStart] at rewritten
  rcases rewritten with ip | transport
  · refine .inl ?_
    change if ipVersionOf pkt = 4 then _ else _ at ip
    rw [shape.version] at ip
    cases family : entry.isV6 with
    | false =>
      rw [family] at ip
      exact ip
    | true =>
      rw [family] at ip
      exact ip
  · rcases shape.transport with ⟨tcp, -⟩ | ⟨udp, -⟩
    · have field : entry.options.csumOffset.toNat = 16 := by
        show (if entry.protocol = tcpProtocolNumber then (16 : UInt16)
          else 6).toNat = 16
        rw [if_pos tcp]
        rfl
      rw [if_pos (Segmentable.protocol_tcp pkt (Entry.gsoType_tcp tcp).2.1), field] at transport
      rcases transport with (seq | flags) | checksum
      · exact .inr (.inl seq)
      · exact .inr (.inr ⟨tcp, .inl flags⟩)
      · exact .inr (.inr ⟨tcp, .inr checksum⟩)
    · have field : entry.options.csumOffset.toNat = 6 := by
        show (if entry.protocol = tcpProtocolNumber then (16 : UInt16)
          else 6).toNat = 6
        rw [if_neg (by rw [udp]; decide)]
        rfl
      rw [if_neg (Segmentable.protocol_udp pkt (Entry.gsoType_udp udp)), field] at transport
      exact .inr (.inl (by omega))

/-- Segment `j` shows what member `j` showed. -/
theorem viewOf_segment {j member : Nat} {segment : Bytes}
    (listed : entry.members[j]? = some member)
    (found : (segmentsOf pkt entry.options)[j]? = some segment) :
    viewOf segment = viewOf (orig member) := by
  have segmentable := merged.segmentable holds chained
  obtain ⟨inside, segment_eq⟩ := segment_of_getElem? found
  obtain ⟨hdrLen, gsoSize, csumStart⟩ := holds.toNat_options
  have correct := segmentable.segmentCorrect inside
  have cut := segmentBytes_drop segmentable.fits j
    (entry.options.hdrLen.toNat + j * entry.options.gsoSize.toNat)
  have same := merged.sameHeader_segment holds chained j
    (entry.options.hdrLen.toNat + j * entry.options.gsoSize.toNat)
  rw [← segment_eq] at correct cut same
  change segment.drop entry.options.hdrLen.toNat = segmentPayload entry.options pkt _ at cut
  rw [segmentPayload_eq_take, hdrLen, gsoSize] at cut
  have shape := (merged.shape holds).of_sameHeader same.symm
  have inMembers : member ∈ entry.members := mem_of_getElem? listed
  have header : headerView segment = headerView (orig member) := by
    rw [shape.headerView_eq_of_sameHeader same, merged.headerView_eq holds,
      holds.views member inMembers]
  have payload : segment.drop entry.hdrLen = (orig member).drop entry.hdrLen := by
    have block : (entry.payloads orig)[j]? = some ((orig member).drop entry.hdrLen) := by
      rw [Entry.payloads, List.getElem?_map, listed]
      rfl
    rw [chained.chunked.getElem?_eq block, ← merged.payload, drop_drop, cut]
  rw [shape.viewOf_eq, (holds.shapes member inMembers).viewOf_eq, header, payload]
  by_cases tcp : entry.protocol = tcpProtocolNumber
  · have seq := (correct.tcp (Entry.gsoType_tcp tcp).2.1).1
    have original := chained.seq tcp j member listed
    rw [← merged.seq tcp] at original
    rw [csumStart, gsoSize] at seq
    unfold seqAt at original
    rw [if_pos tcp, if_pos tcp, seq, original]
  · rw [if_neg tcp, if_neg tcp]

/-- The segments of a merged packet show what its members showed. -/
theorem map_viewOf_segmentsOf :
    (segmentsOf pkt entry.options).map viewOf =
      entry.members.map fun member => viewOf (orig member) := by
  obtain ⟨hdrLen, gsoSize, -⟩ := holds.toNat_options
  have count : (segmentsOf pkt entry.options).length = entry.members.length := by
    have pieces := chained.chunked.length_eq holds.gsoSize_pos
    rw [Entry.payloads, length_map] at pieces
    rw [length_segmentsOf, segmentCount, hdrLen, gsoSize, merged.length_eq,
      Nat.add_sub_cancel_left, pieces]
    rfl
  refine ext_getElem? fun j => ?_
  rw [List.getElem?_map, List.getElem?_map]
  rcases Nat.lt_or_ge j entry.members.length with inside | outside
  · have listed := List.getElem?_eq_getElem inside
    have found := List.getElem?_eq_getElem (count.symm ▸ inside)
    rw [listed, found]
    exact congrArg some (merged.viewOf_segment holds chained listed found)
  · rw [List.getElem?_eq_none outside, List.getElem?_eq_none (count ▸ outside)]
    rfl

end MergedPacket

end Cut

/-! ## The batch after all -/

/-- The packets that were merged into what is written at `w`. -/
def GROState.membersOf (state : GROState) (w : Nat) : List Nat :=
  match (state.tcpTable.items.map TCPGROItem.entry ++
      state.udpTable.items.map UDPGROItem.entry).find? (fun entry => entry.index = w) with
  | some entry => entry.members
  | none => [w]

section Members

variable {config : GROConfig} {given : List Buf} {k : Nat}
variable {state : GROState} {noops : Multiset Nat}

theorem GROState.mem_entries {entry : Entry} :
    entry ∈ state.entries ↔ entry ∈ state.tcpTable.items.map TCPGROItem.entry ++
        state.udpTable.items.map UDPGROItem.entry := by
  rw [GROState.entries, Multiset.map_coe, Multiset.map_coe, Multiset.coe_add, Multiset.mem_coe]

variable (inv : GROInv config given k state noops)
include inv

theorem GROInv.membersOf_entry {entry : Entry} (member : entry ∈ state.entries) :
    state.membersOf entry.index = entry.members := by
  unfold GROState.membersOf
  cases found : (state.tcpTable.items.map TCPGROItem.entry ++
      state.udpTable.items.map UDPGROItem.entry).find? (fun other => other.index = entry.index) with
  | none =>
    have missed := List.find?_eq_none.mp found entry (mem_entries.mp member)
    simp at missed
  | some other =>
    have listed := mem_entries.mpr (mem_of_find?_eq_some found)
    have same : other.index = entry.index := by
      simpa using List.find?_some found
    -- Two entries with one index are the same.
    have distinct := inv.entryInv.nodup_index
    exact congrArg Entry.members
      (Multiset.inj_on_of_nodup_map distinct other listed entry member same)

omit inv in
theorem GROState.membersOf_other {w : Nat} (other : ∀ entry ∈ state.entries, entry.index ≠ w) :
    state.membersOf w = [w] := by
  unfold GROState.membersOf
  rw [List.find?_eq_none.mpr]
  intro entry listed
  simpa using other entry (mem_entries.mpr listed)

theorem GROInv.mem_membersOf (w : Nat) : w ∈ state.membersOf w := by
  by_cases other : ∀ entry ∈ state.entries, entry.index ≠ w
  · rw [membersOf_other other]
    exact mem_singleton.mpr rfl
  · push Not at other
    obtain ⟨entry, member, rfl⟩ := other
    rw [inv.membersOf_entry member]
    exact (inv.entryInv.holds entry member).index_mem

/-- An index that was left alone or lost belongs to no entry. -/
theorem GROInv.single_ne_index {w : Nat} (member : w ∈ noops + state.lost) :
    ∀ entry ∈ state.entries, entry.index ≠ w := by
  intro entry inside same
  have disjoint := (Multiset.nodup_add.mp inv.entryInv.nodup_written).2.2
  exact Multiset.disjoint_left.mp disjoint member (Multiset.mem_map.mpr ⟨entry, inside, same⟩)

/-- Every packet of the batch belongs to exactly one written index. -/
theorem GROInv.flatMap_membersOf : (state.toWrite.flatMap state.membersOf).Perm (List.range k) := by
  have members := inv.entryInv.accounts.members_eq
  rw [Multiset.bind_map] at members
  apply Multiset.coe_eq_coe.mp
  calc ((state.toWrite.flatMap state.membersOf : List Nat) : Multiset Nat)
      = (state.toWrite : Multiset Nat).bind fun w => (state.membersOf w : Multiset Nat) :=
        (Multiset.coe_bind _ _).symm
    _ = (noops + state.lost).bind (fun w => (state.membersOf w : Multiset Nat)) +
          state.entries.bind (fun entry => (state.membersOf entry.index : Multiset Nat)) := by
        rw [inv.entryInv.written_eq, Multiset.add_bind, Multiset.bind_map]
    _ = (noops + state.lost).bind (fun w => {w}) +
          state.entries.bind (fun entry => (entry.members : Multiset Nat)) := by
        congr 1
        · refine Multiset.bind_congr fun w member => ?_
          rw [membersOf_other (inv.single_ne_index member)]
          rfl
        · refine Multiset.bind_congr fun entry member => ?_
          rw [inv.membersOf_entry member]
    _ = Multiset.range k := by
        rw [Multiset.bind_singleton, Multiset.map_id']
        exact members

end Members

/-- Without checks of checksums nothing is deleted. -/
theorem GRORun.deleted_eq_nil {config : GROConfig} {given : List Buf} {k : Nat} {state : GROState}
    (run : GRORun config given k state)
    (skip : config.skipChecksumValidation = true) :
    state.tcpTable.deleted = [] := by
  induction run with
  | start => rfl
  | step run first valid step ih =>
    obtain ⟨removed, deleted, -, validated⟩ := step.deleted_eq
    rw [deleted, ih, validated skip]
    rfl

section

variable {config : GROConfig} {given : List Buf} {state final : GROState}
variable (result : GROFinal config given state final)
include result

theorem GROFinal.membersOf : final.membersOf = state.membersOf := by
  funext w
  rw [GROState.membersOf, result.tcpTable, result.udpTable]
  rfl

/-- Reading what was written at an index gives the packets merged there. -/
theorem GROFinal.splits {noops : Multiset Nat}
    (inv : GROInv config given given.length state noops)
    (headroom : virtioNetHdrLen ≤ config.offset)
    (lengths : ∀ buf ∈ given, config.offset + 1 < buf.bytes.length)
    (chained : ∀ entry ∈ state.entries, entry.Chained (batchPacket given config.offset))
    {w : Nat} (member : w ∈ state.toWrite)
    (kept : w ∉ state.lost) :
    ∃ buf packets, final.bufs[w]? = some buf ∧ SplitsInto config.order
        (buf.bytes.drop (config.offset - virtioNetHdrLen)) packets ∧
      packets.map viewOf = (state.membersOf w).map
        (fun i => viewOf (batchPacket given config.offset i)) ∧ (state.membersOf w = [w] →
        packets = [batchPacket given config.offset w]) := by
  have written : w ∈ (state.toWrite : Multiset Nat) := member
  rw [inv.entryInv.written_eq, Multiset.mem_add, Multiset.mem_add] at written
  have long : ∀ {i : Nat} {buf : Buf}, given[i]? = some buf → config.offset ≤ buf.bytes.length ∧
        1 < (batchPacket given config.offset i).length := by
    intro i buf first
    have bound := lengths buf (mem_of_getElem? first)
    rw [batchPacket_eq first, length_drop]
    omega
  rcases written with (noop | lost) | inserted
  · -- The packet was left alone behind a zero header.
    obtain ⟨buf, first, now⟩ := inv.entryInv.noops_eq w noop
    have other := inv.single_ne_index (Multiset.mem_add.mpr (.inl noop))
    obtain ⟨room, data⟩ := long first
    refine ⟨_, [batchPacket given config.offset w],
      (result.others w other).trans now, ?_, ?_, fun _ => rfl⟩
    · rw [drop_withHeader _ _ headroom room, ← batchPacket_eq first]
      exact splitsInto_zero config.order data
    · rw [membersOf_other other]
      rfl
  · exact absurd lost kept
  · obtain ⟨entry, inside, rfl⟩ := Multiset.mem_map.mp inserted
    have holds := inv.entryInv.holds entry inside
    have members := inv.membersOf_entry inside
    obtain ⟨before, after, was, now, writtenTo⟩ := result.written entry inside
    have header := writtenTo.header
    by_cases single : entry.numMerged = 0
    · -- The item never grew.
      have first := inv.entryInv.single_eq entry inside single
      rw [was] at first
      obtain ⟨room, data⟩ := long first.symm
      have count := holds.count
      have index := holds.index_mem
      rw [single] at count
      obtain ⟨only, members_eq⟩ := length_eq_one_iff.mp count
      rw [members_eq, mem_singleton] at index
      rw [Entry.writtenHdr, if_pos single, writtenTo.single single,
        ← batchPacket_eq first.symm] at header
      refine ⟨after, [batchPacket given config.offset entry.index], now, ?_, ?_, fun _ => rfl⟩
      · rw [header]
        exact splitsInto_zero config.order data
      · rw [members, members_eq, index]
        rfl
    · have merged := holds.mergedPacket was writtenTo
      rw [Entry.writtenHdr, if_neg single] at header
      refine ⟨after, segmentsOf (after.bytes.drop config.offset) entry.options, now, ?_, ?_, ?_⟩
      · rw [header]
        exact merged.splitsInto holds (chained entry inside) config.order
      · rw [members]
        exact merged.map_viewOf_segmentsOf holds (chained entry inside)
      · intro alone
        have count := holds.count
        rw [← members, alone] at count
        exact absurd count (by simp [single])

end

/--
Merging a batch and cutting what was written loses, duplicates and corrupts
nothing.  Every packet of the batch belongs to exactly one written index; the
packets read back show exactly what the packets of the batch showed; and a
packet that was not merged comes back octet for octet.
-/
theorem handleGRO_roundTrip (config : GROConfig) (bufs : List Buf)
    (tcpOrder : MapOrder TCPFlowKey TCPGROItem)
    (udpOrder : MapOrder UDPFlowKey UDPGROItem) (batch : bufs.length ≤ 128)
    (offset : config.offset = virtioNetHdrLen)
    (lengths : ∀ buf ∈ bufs, config.offset + 1 < buf.bytes.length)
    (caps : ∀ buf ∈ bufs, buf.cap ≤ config.offset + 65536)
    (skip : config.skipChecksumValidation = true) :
    ∃ final, handleGRO config tcpOrder udpOrder (GROState.new bufs) =
          some ([], final) ∧ final.toWrite.Nodup ∧
        (∀ entry ∈ final.entries, entry.index ∈ final.toWrite) ∧
        (∀ w ∈ final.toWrite, w ∈ final.membersOf w) ∧
        (final.toWrite.flatMap final.membersOf).Perm (List.range bufs.length) ∧
        ∃ packets : Nat → List Bytes, (∀ w ∈ final.toWrite, ∃ buf, final.bufs[w]? = some buf ∧
            SplitsInto config.order (buf.bytes.drop (config.offset - virtioNetHdrLen)) (packets w) ∧
            (final.membersOf w = [w] → packets w = [batchPacket bufs config.offset w])) ∧
          ((final.toWrite.flatMap packets).map viewOf).Perm
            (bufs.map fun buf => viewOf (buf.bytes.drop config.offset)) := by
  have headroom : virtioNetHdrLen ≤ config.offset := offset.ge
  have small : bufs.length ≤ 65536 := by omega
  obtain ⟨final, handled⟩ := handleGRO_finishes batch
    (fun buf member => ⟨headroom, by have := lengths buf member; omega⟩) tcpOrder udpOrder
  obtain ⟨state, -, result⟩ := handleGRO_spec small handled
  obtain ⟨noops, inv⟩ := result.run.inv small
  have chained := result.run.chained small caps
  have kept : state.lost = 0 := by
    rw [GROState.lost, result.run.deleted_eq_nil skip]
    rfl
  have entries : final.entries = state.entries := by
    rw [GROState.entries, result.tcpTable, result.udpTable]
    rfl
  have members := result.membersOf
  have perm := inv.flatMap_membersOf
  have each : ∀ w ∈ state.toWrite, ∃ packets,
      (∃ buf, final.bufs[w]? = some buf ∧ SplitsInto config.order
          (buf.bytes.drop (config.offset - virtioNetHdrLen)) packets) ∧
      packets.map viewOf = (state.membersOf w).map
        (fun i => viewOf (batchPacket bufs config.offset i)) ∧ (state.membersOf w = [w] →
        packets = [batchPacket bufs config.offset w]) := by
    intro w member
    obtain ⟨buf, packets, found, splits, views, single⟩ :=
      result.splits inv headroom lengths chained member (kept ▸ Multiset.notMem_zero w)
    exact ⟨packets, ⟨buf, found, splits⟩, views, single⟩
  choose! packets splits views single using each
  refine ⟨final, handled, ?_⟩
  rw [result.toWrite, entries, members]
  refine ⟨inv.entryInv.sorted.imp Nat.ne_of_lt, ?_,
    fun w _ => inv.mem_membersOf w, perm, packets, ?_, ?_⟩
  · intro entry member
    have written : entry.index ∈ (state.toWrite : Multiset Nat) := by
      rw [inv.entryInv.written_eq]
      exact Multiset.mem_add.mpr (.inr (Multiset.mem_map_of_mem Entry.index member))
    exact written
  · intro w member
    obtain ⟨buf, found, split⟩ := splits w member
    exact ⟨buf, found, split, single w member⟩
  · have shown : (state.toWrite.flatMap packets).map viewOf =
        (state.toWrite.flatMap state.membersOf).map
          fun i => viewOf (batchPacket bufs config.offset i) := by
      rw [map_flatMap, map_flatMap]
      exact flatMap_congr views
    have all : (List.range bufs.length).map (fun i => viewOf (batchPacket bufs config.offset i)) =
          bufs.map fun buf => viewOf (buf.bytes.drop config.offset) := by
      have packets := congrArg (List.map viewOf) (map_batchPacket bufs config.offset)
      rwa [map_map, map_map] at packets
    rw [shown, ← all]
    exact perm.map _

/-- The order in which the entries are stored. -/
def MapOrder.stored (κ ι : Type) : MapOrder κ ι :=
  { visit := fun map => map.entries.map fun entry => entry.2
    perm := fun _ => .refl _ }

/-- A buffer with ten octets of headroom and much capacity. -/
def sampleBuf (packet : Bytes) : Buf :=
  { bytes := List.replicate 10 0xff ++ packet, spare := 100 }

/-- A datagram of one flow; its checksums are given. -/
def sampleDatagramOf (headerChecksum checksumHigh checksumLow : UInt8) (payload : Bytes) :
    Bytes :=
  [0x45, 0, 0, UInt8.ofNat (28 + payload.length), 0, 0, 0, 0, 64, 17, 0x66,
    headerChecksum, 10, 0, 0, 1, 10, 0, 0, 2, 0x1f, 0x90, 0, 53, 0,
    UInt8.ofNat (8 + payload.length), checksumHigh, checksumLow] ++ payload

def sampleConfig (skipChecksumValidation : Bool) : GROConfig :=
  { order := .little
    offset := 10
    gro := { tcpGRODisabled := false, udpGRODisabled := false }
    skipChecksumValidation }

/-- What a run without an error ends with, from what its end computes to. -/
theorem handleGRO_observed {α : Type}
    (config : GROConfig)
    (bufs : List Buf)
    (observe : GROState → α)
    (value : α)
    (computed : (handleGRO config (.stored _ _) (.stored _ _) (GROState.new bufs)).map
      (fun outcome => (outcome.1, observe outcome.2)) = some ([], value)) :
    ∃ final, handleGRO config (.stored _ _) (.stored _ _) (GROState.new bufs) = some ([], final) ∧
      observe final = value := by
  obtain ⟨⟨errors, final⟩, handled, outcome⟩ := Option.map_eq_some_iff.mp computed
  obtain ⟨rfl, observed⟩ := Prod.mk.inj outcome
  exact ⟨final, handled, observed⟩

/-- Two datagrams of one flow, and one packet that is not IP. -/
def sampleBatch : List Buf :=
  [sampleBuf (sampleDatagramOf 0xcd 203 16 [1, 2]), sampleBuf [1, 2, 3],
    sampleBuf (sampleDatagramOf 0xcd 201 14 [3, 4])]

theorem handleGRO_roundTrip_sample :
    ∃ final, handleGRO (sampleConfig true) (.stored _ _) (.stored _ _)
          (GROState.new sampleBatch) = some ([], final) ∧
        (final.toWrite.flatMap final.membersOf).Perm [0, 1, 2] := by
  obtain ⟨final, handled, -, -, -, perm, -⟩ :=
    handleGRO_roundTrip (sampleConfig true) sampleBatch (.stored _ _)
      (.stored _ _) (by decide) rfl (by decide) (by decide) rfl
  exact ⟨final, handled, perm⟩

end SingTun.Offload
