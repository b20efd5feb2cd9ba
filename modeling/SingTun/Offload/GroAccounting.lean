import SingTun.Offload.GroInvariant

/-!
# The accounting of one item

After the loop of `handleGRO` the program visits every item and writes the
header of its packet.  A merged packet gets its new lengths, a new IPv4 header
checksum, and in the field of the transport checksum the sum over the
pseudo-header, which the device completes.

The three parts of the accounting write different octets, so what one of them
stored is what is read in the end.
-/

namespace SingTun.Offload

open Foundation Header List UInt16

/-! ## What describes a merged packet -/

/-- The header that describes a merged packet. -/
def Entry.hdr (entry : Entry) : VirtioNetHdr :=
  { flags := virtioNetHdrFNeedsCsum
    gsoType :=
      if entry.protocol = tcpProtocolNumber then
        if entry.isV6 then virtioNetHdrGSOTCPv6 else virtioNetHdrGSOTCPv4
      else virtioNetHdrGSOUDPL4
    hdrLen := UInt16.ofNat entry.hdrLen
    gsoSize := UInt16.ofNat entry.gsoSize
    csumStart := UInt16.ofNat (headerStart entry.isV6)
    csumOffset := if entry.protocol = tcpProtocolNumber then 16 else 6 }

/-- The accounting of an item is that of its entry. -/
structure Accounting.Describes (acc : Accounting) (entry : Entry) : Prop where
  index : acc.bufsIndex = entry.index
  merged : 0 < acc.numMerged ↔ entry.numMerged ≠ 0
  start : acc.iphLen.toNat = headerStart entry.isV6
  family : acc.isV6 = entry.isV6
  protocol : acc.protocol = entry.protocol
  hdr : acc.hdr = entry.hdr

theorem pos_iff_toNat_ne_zero (value : UInt16) : 0 < value ↔ value.toNat ≠ 0 := by
  exact Nat.pos_iff_ne_zero

theorem TCPItemValid.accounting
    {orig : Nat → Bytes} {offset : Nat} {bufs : List Buf} {item : TCPGROItem}
    (valid : TCPItemValid orig offset bufs item) :
    item.accounting.Describes item.entry := by
  refine ⟨rfl, pos_iff_toNat_ne_zero _, valid.start, rfl, rfl, ?_⟩
  show VirtioNetHdr.mk _ _ _ _ _ _ = VirtioNetHdr.mk _ _ _ _ _ _
  rw [← ofNat_uInt8ToNat, valid.headersLen_eq, ← ofNat_uInt8ToNat, valid.start]
  congr 1
  exact UInt16.ofNat_toNat.symm

theorem UDPItemValid.accounting
    {orig : Nat → Bytes} {offset : Nat} {bufs : List Buf} {item : UDPGROItem}
    (valid : UDPItemValid orig offset bufs item) :
    item.accounting.Describes item.entry := by
  refine ⟨rfl, pos_iff_toNat_ne_zero _, valid.start, rfl, rfl, ?_⟩
  show VirtioNetHdr.mk _ _ _ _ _ _ = VirtioNetHdr.mk _ _ _ _ _ _
  rw [← ofNat_uInt8ToNat, valid.headersLen_eq, ← ofNat_uInt8ToNat, valid.start]
  congr 1
  exact UInt16.ofNat_toNat.symm

/-- Where the checksum of a transport header is. -/
def checksumOffset (protocol : UInt8) : Nat :=
  if protocol = tcpProtocolNumber then 16 else 6

/-- The octets of a packet that the accounting writes. -/
def AccountedOctet (protocol : UInt8) (isV6 : Bool) (position : Nat) : Prop :=
  (if isV6 then position = 4 ∨ position = 5
    else position = 2 ∨ position = 3 ∨ position = 10 ∨ position = 11) ∨
  (protocol = udpProtocolNumber ∧
    (position = headerStart isV6 + 4 ∨ position = headerStart isV6 + 5)) ∨
  position = headerStart isV6 + checksumOffset protocol ∨
  position = headerStart isV6 + checksumOffset protocol + 1

/-- Two packets that differ in the octets of the accounting only. -/
abbrev Accounted (entry : Entry) (before after : Bytes) : Prop :=
  ChangedAt (AccountedOctet entry.protocol entry.isV6) before after

/-! ## What is stored -/

/-- The octets of a transport checksum. -/
def ChecksumFieldOctet (entry : Entry) (position : Nat) : Prop :=
  position = headerStart entry.isV6 + checksumOffset entry.protocol ∨
    position = headerStart entry.isV6 + checksumOffset entry.protocol + 1

/-- The octets of the length of a UDP packet. -/
def UDPLengthOctet (entry : Entry) (position : Nat) : Prop :=
  entry.protocol = udpProtocolNumber ∧ (position = headerStart entry.isV6 + 4 ∨
      position = headerStart entry.isV6 + 5)

/-- The IP header has the length of its packet, and is summed. -/
structure IPHeaderSealed (isV6 : Bool) (pkt : Bytes) : Prop where
  totalLength : isV6 = false → readU16 pkt 2 = UInt16.ofNat pkt.length
  headerChecksum : isV6 = false → IPv4ChecksumValid (pkt.take 20)
  payloadLength : isV6 = true → readU16 pkt 4 = UInt16.ofNat (pkt.length - 40)

/-- What the accounting stores in a merged packet. -/
structure Entry.Sealed (entry : Entry) (pkt : Bytes) : Prop where
  ipHeader : IPHeaderSealed entry.isV6 pkt
  udpLength : entry.protocol = udpProtocolNumber → readU16 pkt (headerStart entry.isV6 + 4) =
      UInt16.ofNat (pkt.length - headerStart entry.isV6)
  partialChecksum : readU16 pkt (headerStart entry.isV6 + checksumOffset entry.protocol) =
      pseudoHeaderChecksum entry.protocol
        (window pkt (srcAddrOffset entry.isV6) (addrLen entry.isV6))
        (window pkt (srcAddrOffset entry.isV6 + addrLen entry.isV6) (addrLen entry.isV6))
        (UInt16.ofNat (pkt.length - headerStart entry.isV6))

/-- The IP header does not depend on what is behind it. -/
theorem IPHeaderSealed.congr {changed : Nat → Prop} {isV6 : Bool} {pkt pkt' : Bytes}
    (ipHeader : IPHeaderSealed isV6 pkt)
    (change : ChangedAt changed pkt pkt')
    (long : headerStart isV6 ≤ pkt.length)
    (behind : ∀ k, changed k → headerStart isV6 ≤ k) :
    IPHeaderSealed isV6 pkt' := by
  have outside : ∀ k, k < headerStart isV6 → ¬changed k := by
    intro k front covered
    have := behind k covered
    omega
  constructor
  · rintro rfl
    rw [change.readU16_eq (outside 2 (by decide)) (outside 3 (by decide)), change.length]
    exact ipHeader.totalLength rfl
  · rintro rfl
    have kept : window pkt' 0 20 = window pkt 0 20 := by
      apply change.window_eq
      · exact long
      · intro k _ below
        exact outside k below
    have valid := ipHeader.headerChecksum rfl
    change IPv4ChecksumValid (window pkt 0 20) at valid
    rwa [← kept] at valid
  · rintro rfl
    rw [change.readU16_eq (outside 4 (by decide)) (outside 5 (by decide)), change.length]
    exact ipHeader.payloadLength rfl

section AccountItem

variable {acc : Accounting} {entry : Entry} {pkt : Bytes}

/-- The IPv4 header is summed with its checksum cleared. -/
theorem ipHeaderSealed_ipv4 (pkt : Bytes) (long : 20 ≤ pkt.length) :
    IPHeaderSealed false (writeU16 (writeU16 (writeU16 pkt 10 0) 2
          (.ofNat (writeU16 pkt 10 0).length)) 10
        (~~~(checksum (window (writeU16 (writeU16 pkt 10 0) 2
          (.ofNat (writeU16 pkt 10 0).length)) 0 20) 0))) := by
  generalize stated : writeU16 (writeU16 pkt 10 0) 2
      (.ofNat (writeU16 pkt 10 0).length) = named
  have length : named.length = pkt.length := by
    rw [← stated, length_writeU16, length_writeU16]
  refine ⟨fun _ => ?_, fun _ => ?_, nofun⟩
  · rw [readU16_writeU16_of_disjoint (by omega), length_writeU16, length,
      ← stated, readU16_writeU16_self (by simp; omega), length_writeU16]
  · rw [take_writeU16]
    apply balanced_of_complement_checksum 0 0 _ 10 _ rfl
    · rw [length_take]
      omega
    · rw [← stated, take_writeU16, readU16_writeU16_of_disjoint (by omega),
        take_writeU16, readU16_writeU16_self (by simp; omega)]
    · rfl
    · exact .inl rfl

theorem accountIPHeader_spec (describes : acc.Describes entry)
    (long : headerStart entry.isV6 ≤ pkt.length) :
    ∃ pkt', accountIPHeader acc pkt = some pkt' ∧
      Accounted entry pkt pkt' ∧ IPHeaderSealed entry.isV6 pkt' := by
  have iphLen := describes.start
  unfold accountIPHeader
  rw [describes.family]
  cases family : entry.isV6 with
  | true =>
    rw [family] at long iphLen
    change 40 ≤ pkt.length at long
    change acc.iphLen.toNat = 40 at iphLen
    rw [if_pos rfl, writeU16?_eq_some _ (by omega)]
    refine ⟨_, rfl, ?_, nofun, nofun, fun _ => ?_⟩
    · apply ChangedAt.writeU16 <;> simp [AccountedOctet, family]
    · rw [readU16_writeU16_self (by omega), length_writeU16,
        ofNat_sub long, ← ofNat_uInt8ToNat, iphLen]
  | false =>
    rw [family] at long iphLen
    change 20 ≤ pkt.length at long
    change acc.iphLen.toNat = 20 at iphLen
    rw [if_neg (by decide), setByte?_eq_some _ (by omega)]
    simp only [some_bind]
    rw [setByte?_eq_some _ (by simp; omega), set_zero_set_zero]
    simp only [some_bind]
    rw [writeU16?_eq_some _ (by simp; omega)]
    simp only [some_bind]
    rw [slice?_eq_some (Nat.zero_le _) (by simp; omega), iphLen]
    simp only [some_bind]
    rw [writeU16?_eq_some _ (by simp; omega)]
    refine ⟨_, rfl, ?_, ipHeaderSealed_ipv4 pkt long⟩
    have field : ∀ position, position = 2 ∨ position = 3 ∨ position = 10 ∨ position = 11 →
          AccountedOctet entry.protocol entry.isV6 position := by
      intro position listed
      rw [AccountedOctet, family]
      exact .inl listed
    have sum : ∀ {bytes} value, Accounted entry bytes (writeU16 bytes 10 value) :=
      fun value => ChangedAt.writeU16 value (field 10 (by decide)) (field 11 (by decide))
    exact (sum 0).trans ((ChangedAt.writeU16 _ (field 2 (by decide))
      (field 3 (by decide))).trans (sum _))

theorem accountUDPLength_spec (describes : acc.Describes entry)
    (long : headerStart entry.isV6 + 8 ≤ pkt.length) :
    ∃ pkt', accountUDPLength acc pkt = some pkt' ∧ ChangedAt (UDPLengthOctet entry) pkt pkt' ∧
      (entry.protocol = udpProtocolNumber → readU16 pkt' (headerStart entry.isV6 + 4) =
          .ofNat (pkt'.length - headerStart entry.isV6)) := by
  have start := headerStart_le entry.isV6
  have iphLen := describes.start
  have position : (acc.iphLen + 4).toNat = headerStart entry.isV6 + 4 := by
    have value : (4 : UInt8).toNat = 4 := rfl
    rw [UInt8.toNat_add, value]
    omega
  unfold accountUDPLength
  by_cases udp : acc.protocol = ipProtoUDP
  · have protocol : entry.protocol = udpProtocolNumber := describes.protocol.symm.trans udp
    rw [if_pos udp, bind_of_eq_some (sliceFrom?_eq_some (by omega))]
    rw [position, writeU16?_eq_some _ (by omega)]
    refine ⟨_, rfl, ?_, fun _ => ?_⟩
    · apply ChangedAt.writeU16
      · exact ⟨protocol, .inl rfl⟩
      · exact ⟨protocol, .inr rfl⟩
    · rw [readU16_writeU16_self (by omega), length_writeU16, length_drop, iphLen]
  · rw [if_neg udp]
    refine ⟨pkt, rfl, ChangedAt.refl, fun protocol => ?_⟩
    exact absurd (describes.protocol.trans protocol) udp

theorem accountChecksum_spec (describes : acc.Describes entry)
    (long : headerStart entry.isV6 + checksumOffset entry.protocol + 2 ≤ pkt.length) :
    ∃ pkt', accountChecksum acc pkt = some pkt' ∧
      ChangedAt (ChecksumFieldOctet entry) pkt pkt' ∧
      readU16 pkt' (headerStart entry.isV6 + checksumOffset entry.protocol) =
        pseudoHeaderChecksum entry.protocol
          (window pkt' (srcAddrOffset entry.isV6) (addrLen entry.isV6))
          (window pkt' (srcAddrOffset entry.isV6 + addrLen entry.isV6) (addrLen entry.isV6))
          (.ofNat (pkt'.length - headerStart entry.isV6)) := by
  have start := headerStart_le entry.isV6
  have position : (acc.hdr.csumStart + acc.hdr.csumOffset).toNat =
      headerStart entry.isV6 + checksumOffset entry.protocol := by
    rw [describes.hdr]
    show (UInt16.ofNat (headerStart entry.isV6) +
      (if entry.protocol = tcpProtocolNumber then 16 else 6)).toNat = _
    unfold checksumOffset
    have value : (16 : UInt16).toNat = 16 := rfl
    have value' : (6 : UInt16).toNat = 6 := rfl
    split
    · rw [UInt16.toNat_add, UInt16.toNat_ofNat', value]
      omega
    · rw [UInt16.toNat_add, UInt16.toNat_ofNat', value']
      omega
  have addresses := addresses_inside entry.isV6
  unfold accountChecksum
  simp only [describes.family]
  rw [bind_of_eq_some (slice?_eq_some (by omega) (by omega))]
  rw [bind_of_eq_some (slice?_eq_some (by omega) (by omega))]
  rw [position, writeU16?_eq_some _ (by omega)]
  have change : ∀ value, ChangedAt (ChecksumFieldOctet entry) pkt (writeU16 pkt
        (headerStart entry.isV6 + checksumOffset entry.protocol) value) :=
    fun value => ChangedAt.writeU16 value (.inl rfl) (.inr rfl)
  have kept : ∀ value low, low + addrLen entry.isV6 ≤ headerStart entry.isV6 → window (writeU16 pkt
          (headerStart entry.isV6 + checksumOffset entry.protocol) value) low
            (addrLen entry.isV6) = window pkt low (addrLen entry.isV6) := by
    intro value low front
    apply (change value).window_eq (by omega)
    rintro k - below (covered | covered) <;> omega
  refine ⟨_, rfl, change _, ?_⟩
  -- The field gets the sum itself: nothing is added to it.
  rw [readU16_writeU16_self (by omega), kept _ _ (by omega),
    kept _ _ (by omega), length_writeU16, describes.start, describes.protocol, checksum_nil]
  congr 2 <;> omega

/-- The header that the accounting writes for an entry. -/
def Entry.writtenHdr (entry : Entry) : VirtioNetHdr :=
  if entry.numMerged = 0 then .zero else entry.hdr

/-- The buffer of an entry after the accounting. -/
structure Entry.WrittenTo
    (order : ByteOrder) (offset : Nat) (entry : Entry) (before after : Buf) :
    Prop where
  length : after.bytes.length = before.bytes.length
  header : after.bytes.drop (offset - virtioNetHdrLen) =
    entry.writtenHdr.bytes order ++ after.bytes.drop offset
  packet : Accounted entry (before.bytes.drop offset) (after.bytes.drop offset)
  single : entry.numMerged = 0 → after.bytes.drop offset = before.bytes.drop offset
  merged : entry.numMerged ≠ 0 → entry.Sealed (after.bytes.drop offset)
  spare : after.spare = before.spare

variable {buf : Buf} {offset : Nat}

section

variable (order : ByteOrder) (hdr : VirtioNetHdr)

theorem drop_withHeader (headroom : virtioNetHdrLen ≤ offset)
    (room : offset ≤ buf.bytes.length) :
    (withHeader order hdr offset buf).bytes.drop (offset - virtioNetHdrLen) =
      hdr.bytes order ++ buf.bytes.drop offset := by
  have front : (buf.bytes.take (offset - virtioNetHdrLen)).length = offset - virtioNetHdrLen := by
    rw [length_take]
    omega
  show (buf.bytes.take (offset - virtioNetHdrLen) ++ _ : Bytes).drop _ = _
  rw [drop_append, front, Nat.sub_self, drop_zero,
    drop_of_length_le (Nat.le_of_eq front), nil_append]

theorem drop_offset_withHeader
    (headroom : virtioNetHdrLen ≤ offset)
    (room : offset ≤ buf.bytes.length) :
    (withHeader order hdr offset buf).bytes.drop offset = buf.bytes.drop offset := by
  have split : offset = (offset - virtioNetHdrLen) + virtioNetHdrLen := by
    omega
  have header := congrArg (List.drop virtioNetHdrLen) (drop_withHeader order hdr headroom room)
  rw [drop_drop, ← split, ← hdr.length_bytes order, drop_left] at header
  exact header

theorem drop_writeFrom (room : offset ≤ buf.bytes.length) (block : Bytes) :
    (buf.writeFrom offset block).bytes.drop offset = block := by
  have front : (buf.bytes.take offset).length = offset := by
    rw [length_take]
    omega
  show (buf.bytes.take offset ++ block).drop offset = block
  rw [drop_append, front, Nat.sub_self, drop_zero,
    drop_of_length_le (Nat.le_of_eq front), nil_append]

theorem length_writeFrom (room : offset ≤ buf.bytes.length) (block : Bytes) :
    (buf.writeFrom offset block).bytes.length = offset + block.length := by
  show (buf.bytes.take offset ++ block).length = _
  rw [length_append, length_take, Nat.min_eq_left room]

/-- Only the last of several writes of the packet counts. -/
theorem writeFrom_withHeader_writeFrom (headroom : virtioNetHdrLen ≤ offset)
    (room : offset ≤ buf.bytes.length) (block last : Bytes) :
    (withHeader order hdr offset (buf.writeFrom offset block)).writeFrom offset last =
      withHeader order hdr offset (buf.writeFrom offset last) := by
  have front : ∀ block : Bytes, (buf.bytes.take offset ++ block).take (offset - virtioNetHdrLen) =
        buf.bytes.take (offset - virtioNetHdrLen) := by
    intro block
    rw [take_append, take_take, length_take]
    have empty : offset - virtioNetHdrLen - min offset buf.bytes.length = 0 := by
      omega
    rw [empty, take_zero, append_nil, Nat.min_eq_left (Nat.sub_le _ _)]
  have header : ((buf.bytes.take (offset - virtioNetHdrLen) ++
      hdr.bytes order).length) = offset := by
    rw [length_append, length_take, VirtioNetHdr.length_bytes]
    omega
  have after := drop_writeFrom room last
  unfold withHeader Buf.writeFrom
  unfold Buf.writeFrom at after
  rw [front block, front last, after, ← append_assoc, ← append_assoc,
    take_append, header, Nat.sub_self, take_zero, append_nil,
    take_of_length_le (Nat.le_of_eq header)]

end

/-- The accounting of one item writes its header and nothing else. -/
theorem accountItem_spec (order : ByteOrder) {bufs : List Buf}
    {orig : Nat → Bytes} (describes : acc.Describes entry)
    (holds : entry.Holds orig offset bufs)
    (found : bufs[entry.index]? = some buf)
    (headroom : virtioNetHdrLen ≤ offset) :
    ∃ after, accountItem order offset bufs acc = some (.ok (bufs.set entry.index after)) ∧
      entry.WrittenTo order offset buf after := by
  obtain ⟨room, aggregate⟩ := holds.aggregate found
  have shape := holds.first_shape
  have long := aggregate.long
  have bounds := shape.bounds
  unfold accountItem
  rw [describes.index, found]
  simp only [some_bind]
  by_cases merged : entry.numMerged = 0
  · have not : ¬0 < acc.numMerged := fun positive =>
      describes.merged.mp positive merged
    rw [if_neg not, encodeBefore_eq _ _ headroom room]
    simp only [some_bind]
    have hdr : entry.writtenHdr = .zero := if_pos merged
    have same := drop_offset_withHeader order .zero headroom room
    refine ⟨_, rfl, length_withHeader headroom room, ?_, ?_, fun _ => same,
      fun several => absurd merged several, rfl⟩
    · rw [same, hdr]
      exact drop_withHeader order .zero headroom room
    · rw [same]
      exact ChangedAt.refl
  · rw [if_pos (describes.merged.mpr merged), sliceFrom?_eq_some room]
    simp only [some_bind]
    have fits : headerStart entry.isV6 + checksumOffset entry.protocol + 2 ≤ entry.hdrLen := by
      unfold checksumOffset
      split
      · rename_i tcp
        have := bounds.2.2 tcp
        omega
      · omega
    obtain ⟨first, first_eq, step₁, ipHeader⟩ :=
      accountIPHeader_spec describes (show _ ≤ (buf.bytes.drop offset).length by
        omega)
    have length₁ := step₁.length
    obtain ⟨second, second_eq, step₂, udpLength⟩ :=
      accountUDPLength_spec describes (show _ ≤ first.length by omega)
    have length₂ := step₂.length
    obtain ⟨third, third_eq, step₃, partialChecksum⟩ :=
      accountChecksum_spec describes (show _ ≤ second.length by omega)
    have length₃ := step₃.length
    have total : (buf.bytes.drop offset).length = buf.bytes.length - offset := length_drop
    have length : ∀ block : Bytes, block.length = (buf.bytes.drop offset).length →
        (buf.writeFrom offset block).bytes.length = buf.bytes.length := by
      intro block same
      rw [length_writeFrom room, same]
      omega
    have room₁ : offset ≤ (buf.writeFrom offset first).bytes.length := by
      rw [length first length₁]
      exact room
    have room₃ : offset ≤ (buf.writeFrom offset third).bytes.length := by
      rw [length third (by omega)]
      exact room
    rw [first_eq]
    simp only [some_bind]
    rw [describes.hdr, encodeBefore_eq _ _ headroom room₁]
    rw [second_eq]
    simp only [some_bind]
    rw [third_eq]
    simp only [some_bind]
    rw [writeFrom_withHeader_writeFrom _ _ headroom room]
    have hdr : entry.writtenHdr = entry.hdr := if_neg merged
    have packet := drop_writeFrom room third
    have same := drop_offset_withHeader order entry.hdr headroom room₃
    refine ⟨_, rfl, ?_, ?_, ?_, fun single => absurd single merged, fun _ => ?_, rfl⟩
    · rw [length_withHeader headroom room₃, length third (by omega)]
    · rw [hdr, same]
      exact drop_withHeader order entry.hdr headroom room₃
    · rw [same, packet]
      apply (step₁.trans (step₂.mono ?_)).trans (step₃.mono ?_)
      · intro k covered
        exact .inr (.inl covered)
      · intro k covered
        exact .inr (.inr covered)
    · rw [same, packet]
      have behind : headerStart entry.isV6 ≤ first.length := by omega
      refine ⟨?_, ?_, partialChecksum⟩
      · apply (ipHeader.congr step₂ behind ?_).congr step₃ (by omega)
        · rintro k (covered | covered) <;> omega
        · rintro k ⟨-, covered⟩
          omega
      · intro udp
        have field : checksumOffset entry.protocol = 6 := if_neg (by rw [udp]; decide)
        rw [step₃.readU16_eq ?_ ?_, udpLength udp, length₃]
        · unfold ChecksumFieldOctet
          omega
        · unfold ChecksumFieldOctet
          omega

end AccountItem

end SingTun.Offload
