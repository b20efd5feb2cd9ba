import SingTun.Offload.GroEntries

/-!
# What `tcpGRO` does to a batch

For a packet and items that describe their buffers no function of `tcpGRO`
panics.  `TCPCoalesced` is the effect of a merge, `TCPOutcome` the effect of
the whole call; everything later modules know about TCP follows from them.
-/

namespace SingTun.Offload

open Foundation Header List Option UInt16

/-! ## Items -/

/-- The key and sequence number of an item are those of its first member. -/
structure TCPItemFacts (orig : Nat → Bytes) (item : TCPGROItem) : Prop where
  start : item.iphLen.toNat = headerStart item.key.isV6
  key : item.key = tcpKeyOf item.key.isV6 (orig item.entry.first)
  sentSeq : item.sentSeq = readU32 (orig item.entry.first) (headerStart item.key.isV6 + 4)

/-- The item also describes its buffer. -/
structure TCPItemValid (orig : Nat → Bytes) (offset : Nat) (bufs : List Buf)
    (item : TCPGROItem) : Prop extends TCPItemFacts orig item where
  entry : item.entry.Holds orig offset bufs

theorem headerStart_le (isV6 : Bool) : 20 ≤ headerStart isV6 ∧ headerStart isV6 ≤ 40 := by
  cases isV6 <;> decide

namespace TCPItemValid

variable {orig : Nat → Bytes} {offset : Nat} {bufs : List Buf}
variable {item : TCPGROItem}

theorem hdrLen_bounds (valid : TCPItemValid orig offset bufs item) :
    headerStart item.key.isV6 + 20 ≤ item.entry.hdrLen ∧ item.entry.hdrLen ≤ 100 := by
  have bounds := valid.entry.first_shape.bounds
  exact ⟨bounds.2.2 rfl, bounds.2.1⟩

theorem headersLen_eq (valid : TCPItemValid orig offset bufs item) :
    (item.iphLen + item.tcphLen).toNat = item.entry.hdrLen := by
  have bounds := valid.hdrLen_bounds
  change _ ∧ item.iphLen.toNat + item.tcphLen.toNat ≤ 100 at bounds
  rw [UInt8.toNat_add, Nat.mod_eq_of_lt (by omega)]
  rfl

end TCPItemValid

/-! ## May the packet be merged? -/

/-- The packet and the item have the same header view. -/
structure TCPMergeable
    (orig : Nat → Bytes) (k : Nat) (c : TCPCandidate) (item : TCPGROItem) :
    Prop where
  tcphLen : c.tcphLen = item.tcphLen.toNat
  view : headerView (orig k) = headerView (orig item.entry.first)

/-- The packet aligns following the item. -/
structure TCPAppendable
    (target : Bytes) (c : TCPCandidate) (item : TCPGROItem) : Prop where
  seq : c.seq = item.sentSeq + (item.gsoSize + item.numMerged * item.gsoSize).toUInt32
  psh : item.pshSet = false
  multiple : (target.length - item.entry.hdrLen) % item.gsoSize.toNat = 0
  size : c.gsoSize.toNat ≤ item.gsoSize.toNat

/-- The packet aligns in front of the item. -/
structure TCPPrependable (c : TCPCandidate) (item : TCPGROItem) : Prop where
  seq : c.seq + c.gsoSize.toUInt32 = item.sentSeq
  psh : c.pshSet = false
  size : item.gsoSize.toNat ≤ c.gsoSize.toNat
  larger : item.gsoSize.toNat < c.gsoSize.toNat → item.numMerged = 0

section Step

variable {orig : Nat → Bytes} {offset k : Nat} {bufs : List Buf}
variable {isV6 : Bool} {c : TCPCandidate} {item : TCPGROItem} {target : Buf}

theorem toNat_ofNat_add {left right : Nat} (small : left + right < 256) :
    (UInt8.ofNat left + UInt8.ofNat right).toNat = left + right := by
  rw [UInt8.toNat_add, UInt8.toNat_ofNat', UInt8.toNat_ofNat']
  omega

theorem tcpCanPrepend_spec (adjacent : c.seq + c.gsoSize.toUInt32 = item.sentSeq)
    (can : tcpCanPrepend c.pshSet c.gsoSize item ≠ .unavailable) :
    tcpCanPrepend c.pshSet c.gsoSize item = .prepended ∧ TCPPrependable c item := by
  unfold tcpCanPrepend at can ⊢
  split_ifs at can ⊢ with psh smaller larger <;> try contradiction
  rw [lt_iff_toNat_lt] at smaller
  refine ⟨rfl, adjacent, Bool.not_eq_true _ ▸ psh, by omega, ?_⟩
  intro bigger
  by_contra merged
  refine larger ⟨lt_iff_toNat_lt.mpr bigger, ?_⟩
  exact Nat.pos_of_ne_zero fun zero => merged (UInt16.toNat_inj.mp zero)

section

variable (valid : TCPItemValid orig offset bufs item)
include valid

variable (found : bufs[item.bufsIndex.toNat]? = some target)
include found

theorem tcpCanAppend_spec (header : c.iphLen + c.tcphLen = item.entry.hdrLen)
    (adjacent : c.seq = item.sentSeq + (item.gsoSize + item.numMerged * item.gsoSize).toUInt32) :
    ∃ can, tcpCanAppend (UInt8.ofNat c.iphLen) (UInt8.ofNat c.tcphLen) c.gsoSize
          item (target.bytes.drop offset) = some can ∧ (can ≠ .unavailable → can = .appended ∧
            TCPAppendable (target.bytes.drop offset) c item) := by
  have bounds := valid.hdrLen_bounds
  have long := (valid.entry.aggregate found).2.long
  have positive : item.gsoSize ≠ 0 := by
    intro zero
    have size : 0 < item.gsoSize.toNat := valid.entry.gsoSize_pos
    rw [zero] at size
    cases size
  unfold tcpCanAppend
  by_cases psh : item.pshSet = true
  · rw [if_pos psh]
    exact ⟨_, rfl, absurd rfl⟩
  rw [if_neg psh, toNat_ofNat_add (by omega), header, sliceFrom?_eq_some long]
  simp only [some_bind, mod?, if_neg positive, length_drop]
  split_ifs with multiple smaller
  · exact ⟨_, rfl, absurd rfl⟩
  · exact ⟨_, rfl, absurd rfl⟩
  · refine ⟨_, rfl, fun _ => ⟨rfl, adjacent, Bool.not_eq_true _ ▸ psh, ?_, ?_⟩⟩
    · rw [length_drop]
      exact not_not.mp multiple
    · rw [lt_iff_toNat_lt] at smaller
      omega

/-- Equal TCP options, where the header lengths are equal. -/
theorem tcpOptionsEqual_spec (describes : c.Describes isV6 (orig k))
    (family : item.key.isV6 = isV6)
    (header : c.tcphLen = item.tcphLen.toNat) :
    ∃ equal, tcpOptionsEqual (orig k) (UInt8.ofNat c.iphLen)
          (UInt8.ofNat c.tcphLen) item (target.bytes.drop offset) = some equal ∧
      (equal = true → window (orig k) (headerStart isV6 + 20)
            (item.entry.hdrLen - headerStart isV6 - 20) =
          window (target.bytes.drop offset) (headerStart isV6 + 20)
            (item.entry.hdrLen - headerStart isV6 - 20)) := by
  have bounds := valid.hdrLen_bounds
  have start := valid.start
  have length := describes.length
  have iphLen := describes.iphLen
  have long := (valid.entry.aggregate found).2.long
  rw [family] at start bounds
  have hdrLen : item.entry.hdrLen = c.iphLen + c.tcphLen := by
    show item.iphLen.toNat + item.tcphLen.toNat = _
    omega
  unfold tcpOptionsEqual
  by_cases some20 : 20 < UInt8.ofNat c.tcphLen
  · have twenty : (20 : UInt8) = UInt8.ofNat 20 := rfl
    have itemStart : item.iphLen = UInt8.ofNat (headerStart isV6) := by
      apply UInt8.toNat_inj.mp
      rw [start, UInt8.toNat_ofNat', Nat.mod_eq_of_lt (by omega)]
    rw [if_pos some20, twenty, itemStart, toNat_ofNat_add (by omega),
      toNat_ofNat_add (by omega), toNat_ofNat_add (by omega), slice?_eq_some (by omega) (by omega),
      slice?_eq_some (by omega) (by omega)]
    refine ⟨_, rfl, fun equal => ?_⟩
    have windows := of_decide_eq_true equal
    rw [iphLen] at windows
    have width : headerStart isV6 + c.tcphLen - (headerStart isV6 + 20) =
        item.entry.hdrLen - headerStart isV6 - 20 := by omega
    rwa [width] at windows
  · rw [if_neg some20]
    refine ⟨_, rfl, fun _ => ?_⟩
    have bare : c.tcphLen = 20 := by
      rw [UInt8.lt_iff_toNat_lt, UInt8.toNat_ofNat'] at some20
      have value : (20 : UInt8).toNat = 20 := rfl
      omega
    have width : item.entry.hdrLen - headerStart isV6 - 20 = 0 := by omega
    rw [width]
    simp [window]

theorem tcpPacketsCanCoalesce_spec (describes : c.Describes isV6 (orig k))
    (flow : item.key = tcpKeyOf isV6 (orig k)) :
    ∃ can, tcpPacketsCanCoalesce (orig k) (UInt8.ofNat c.iphLen)
          (UInt8.ofNat c.tcphLen) c.seq c.pshSet c.gsoSize item bufs offset = some can ∧
      (can ≠ .unavailable → TCPMergeable orig k c item ∧ ((can = .appended ∧
            TCPAppendable (target.bytes.drop offset) c item) ∨
          (can = .prepended ∧ TCPPrependable c item))) := by
  have family : item.key.isV6 = isV6 := by rw [flow]; rfl
  have tcphLen := describes.tcphLen
  have length := describes.length
  have iphLen := describes.iphLen
  obtain ⟨room, aggregate⟩ := valid.entry.aggregate found
  unfold tcpPacketsCanCoalesce packetAt?
  rw [bind_of_eq_some found]
  rw [bind_of_eq_some (sliceFrom?_eq_some room)]
  by_cases lengths : UInt8.ofNat c.tcphLen ≠ item.tcphLen
  · rw [if_pos lengths]
    exact ⟨_, rfl, absurd rfl⟩
  rw [if_neg lengths]
  have header : c.tcphLen = item.tcphLen.toNat := by
    have equal := congrArg UInt8.toNat (not_not.mp lengths)
    rw [UInt8.toNat_ofNat', Nat.mod_eq_of_lt (by omega)] at equal
    exact equal
  obtain ⟨equal, equal_eq, options⟩ := tcpOptionsEqual_spec valid found describes family header
  rw [bind_of_eq_some equal_eq]
  by_cases different : ¬equal = true
  · rw [if_pos different]
    exact ⟨_, rfl, absurd rfl⟩
  rw [if_neg different]
  by_cases headers : ¬ipHeadersCanCoalesce (orig k) (target.bytes.drop offset) = true
  · rw [if_pos headers]
    exact ⟨_, rfl, absurd rfl⟩
  rw [if_neg headers]
  -- The merged packet stands for its first member in these comparisons.
  have hdrLen : c.iphLen + c.tcphLen = item.entry.hdrLen := by
    show _ = item.iphLen.toNat + item.tcphLen.toNat
    rw [iphLen, header, valid.start, family]
  have shape := describes.shape
  rw [hdrLen] at shape
  have mergeable : TCPMergeable orig k c item := by
    have firstShape := valid.entry.first_shape
    have firstLong := (valid.entry.lengths _ (Entry.first_mem valid.entry.members_ne_nil)).1
    have same := aggregate.sameHeader firstShape firstLong.le
    have targetShape := firstShape.of_sameHeader same
    have targetView := firstShape.headerView_eq_of_sameHeader same
    change Shape tcpProtocolNumber item.key.isV6 _ _ at targetShape firstShape
    rw [family] at targetShape firstShape
    have targetKey : tcpKeyOf isV6 (target.bytes.drop offset) = tcpKeyOf isV6 (orig k) := by
      rw [← (keys_eq_of_headerView firstShape targetShape targetView).2 rfl, ← flow, ← family]
      exact valid.key.symm
    refine ⟨header, Eq.trans ?_ targetView.symm⟩
    simp only [tcpKeyOf, TCPFlowKey.mk.injEq, and_true] at targetKey
    obtain ⟨src, dst, srcPort, dstPort, ack⟩ := targetKey
    refine headerView_eq_of_flow shape targetShape (by omega) aggregate.long
      ?_ (not_not.mp headers) fun _ => ⟨ack.symm, options (not_not.mp different)⟩
    rw [udpKeyOf, udpKeyOf, src, dst, srcPort, dstPort]
  by_cases append : c.seq = item.sentSeq + (item.gsoSize + item.numMerged * item.gsoSize).toUInt32
  · rw [if_pos append]
    obtain ⟨can, can_eq, appendable⟩ := tcpCanAppend_spec valid found hdrLen append
    exact ⟨can, can_eq, fun available =>
      ⟨mergeable, .inl (appendable available)⟩⟩
  rw [if_neg append]
  by_cases prepend : c.seq + c.gsoSize.toUInt32 = item.sentSeq
  · rw [if_pos prepend]
    exact ⟨_, rfl, fun available =>
      ⟨mergeable, .inr (tcpCanPrepend_spec prepend available)⟩⟩
  · rw [if_neg prepend]
    exact ⟨_, rfl, absurd rfl⟩

end

/-! ## Merging -/

/-- No checksum is computed over octets outside of a packet. -/
theorem checksumValid_eq {pkt : Bytes} {iphLen : UInt8} (proto : UInt8)
    (start : iphLen.toNat = headerStart isV6)
    (long : headerStart isV6 ≤ pkt.length) :
    ∃ valid, checksumValid pkt iphLen proto isV6 = some valid := by
  have inside := addresses_inside isV6
  unfold checksumValid
  have src : (if isV6 = true then ipv6SrcAddrOffset else ipv4SrcAddrOffset) =
      srcAddrOffset isV6 := rfl
  have size : (if isV6 = true then 16 else 4) = addrLen isV6 := rfl
  simp only [src, size]
  rw [slice?_eq_some (by omega) (by omega),
    slice?_eq_some (by omega) (by omega), start, sliceFrom?_eq_some (by omega)]
  exact ⟨_, rfl⟩

/-- A merge that did not happen changed nothing. -/
structure TCPRefused
    (skip : Bool) (item : TCPGROItem) (bufs : List Buf)
    (result : CoalesceResult) (item' : TCPGROItem) (bufs' : List Buf) :
    Prop where
  item_eq : item' = item
  bufs_eq : bufs' = bufs
  failed : result ≠ .success
  itemInvalid : result = .itemInvalidCSum → item.numMerged = 0 ∧ skip = false

theorem tcpInvalidCSum_spec (pkt pktTarget : Bytes) (start : item.iphLen.toNat = headerStart isV6)
    (long : headerStart isV6 ≤ pkt.length)
    (targetLong : headerStart isV6 ≤ pktTarget.length)
    (skip : Bool) :
    ∃ invalid, tcpInvalidCSum pkt pktTarget item isV6 skip = some invalid ∧
      ∀ reason, invalid = some reason → TCPRefused skip item bufs reason item bufs := by
  unfold tcpInvalidCSum
  cases skip with
  | true => exact ⟨none, rfl, nofun⟩
  | false =>
    obtain ⟨pktValid, pktValid_eq⟩ := checksumValid_eq ipProtoTCP start long
    obtain ⟨targetValid, targetValid_eq⟩ := checksumValid_eq ipProtoTCP start targetLong
    have pktInvalid : ∀ reason, some .pktInvalidCSum = some reason →
        TCPRefused false item bufs reason item bufs := by
      rintro _ ⟨⟩
      exact ⟨rfl, rfl, nofun, nofun⟩
    rw [if_neg (by decide), pktValid_eq, targetValid_eq]
    by_cases merged : item.numMerged = 0
    · simp only [if_pos merged, some_bind]
      cases targetValid with
      | false =>
        refine ⟨_, rfl, ?_⟩
        rintro _ ⟨⟩
        exact ⟨rfl, rfl, nofun, fun _ => ⟨merged, rfl⟩⟩
      | true =>
        cases pktValid with
        | false => exact ⟨_, rfl, pktInvalid⟩
        | true => exact ⟨_, rfl, nofun⟩
    · simp only [if_neg merged, some_bind]
      cases pktValid with
      | false => exact ⟨_, rfl, pktInvalid⟩
      | true => exact ⟨_, rfl, nofun⟩

/-- The octets of a buffer after a packet with or without PSH is appended. -/
def flagged (bytes : Bytes) (position : Nat) (pshSet : Bool) : Bytes :=
  if pshSet then bytes.set position (byteAt bytes position ||| tcpFlagPSH)
  else bytes

/-- The effect of a successful merge of packet `k` on its item and buffers. -/
inductive TCPCoalesced
    (orig : Nat → Bytes) (offset k : Nat) (c : TCPCandidate)
    (bufs : List Buf) (item : TCPGROItem) :
    CanCoalesce → List Buf → TCPGROItem → Prop
  | append (target : Buf)
      (found : bufs[item.bufsIndex.toNat]? = some target)
      (mergeable : TCPMergeable orig k c item)
      (appendable : TCPAppendable (target.bytes.drop offset) c item)
      (room : target.bytes.length + c.gsoSize.toNat + offset ≤ target.cap) :
      TCPCoalesced orig offset k c bufs item .appended (bufs.set item.bufsIndex.toNat
          { bytes := flagged target.bytes (offset + headerStart item.key.isV6 + 13) c.pshSet ++
                (orig k).drop item.entry.hdrLen
            spare := target.spare - c.gsoSize.toNat })
        { item with
          numMerged := item.numMerged + 1
          pshSet := c.pshSet
          members := item.members ++ [k] }
  | prepend (target b : Buf)
      (found : bufs[item.bufsIndex.toNat]? = some target)
      (current : bufs[k]? = some b)
      (mergeable : TCPMergeable orig k c item)
      (prependable : TCPPrependable c item)
      (room : target.bytes.length + c.gsoSize.toNat + offset ≤ b.cap) :
      TCPCoalesced orig offset k c bufs item .prepended ((bufs.set k target).set
          item.bufsIndex.toNat
          { bytes := b.bytes ++ target.bytes.drop (offset + item.entry.hdrLen)
            spare := b.spare - (target.bytes.length - (offset + item.entry.hdrLen)) })
        { item with
          sentSeq := c.seq
          gsoSize := c.gsoSize
          numMerged := item.numMerged + 1
          members := k :: item.members }

theorem setPSH_eq {b : Buf} {position : Nat} (inside : position < b.bytes.length) (pshSet : Bool) :
    setPSH b position pshSet = some { b with bytes := flagged b.bytes position pshSet } := by
  unfold setPSH flagged
  cases pshSet with
  | false => rfl
  | true =>
    rw [if_pos rfl, if_pos rfl, byteAt?_eq_some inside]
    rfl

@[simp]
theorem length_flagged (bytes : Bytes) (position : Nat) (pshSet : Bool) :
    (flagged bytes position pshSet).length = bytes.length := by
  unfold flagged
  split <;> simp

section Merge

variable (valid : TCPItemValid orig offset bufs item)
variable (found : bufs[item.bufsIndex.toNat]? = some target)
variable (describes : c.Describes isV6 (orig k))
variable (family : item.key.isV6 = isV6)
variable (mergeable : TCPMergeable orig k c item)
variable (skip : Bool)

include valid found describes family mergeable

omit valid found describes family mergeable in
/-- An attempt ends without a change, or with the packet in the item. -/
def TCPTries (orig : Nat → Bytes) (offset k : Nat) (c : TCPCandidate) (bufs : List Buf)
    (item : TCPGROItem) (skip : Bool) (mode : CanCoalesce) (finish : TCPGROItem → TCPGROItem)
    (attempt : Option (CoalesceResult × TCPGROItem × List Buf)) : Prop :=
  ∃ result item' bufs', attempt = some (result, item', bufs') ∧
    (TCPRefused skip item bufs result item' bufs' ∨
      (result = .success ∧ TCPCoalesced orig offset k c bufs item mode bufs' (finish item')))

theorem merge_lengths :
    item.iphLen.toNat = headerStart isV6 ∧
      headerStart isV6 + 20 ≤ item.entry.hdrLen ∧
      (orig k).length = item.entry.hdrLen + c.gsoSize.toNat ∧ offset ≤ target.bytes.length ∧
      item.entry.hdrLen ≤ (target.bytes.drop offset).length := by
  obtain ⟨room, aggregate⟩ := valid.entry.aggregate found
  have bounds := valid.hdrLen_bounds
  have start := valid.start
  have length := describes.length
  have iphLen := describes.iphLen
  have tcphLen := mergeable.tcphLen
  have hdrLen : item.entry.hdrLen = item.iphLen.toNat + item.tcphLen.toNat := rfl
  rw [family] at start bounds
  exact ⟨start, by omega, by omega, room, aggregate.long⟩

theorem appendTCPPacket_spec (appendable : TCPAppendable (target.bytes.drop offset) c item) :
    TCPTries orig offset k c bufs item skip .appended (·.merged c.gsoSize)
      (appendTCPPacket (orig k) k c.pshSet item bufs offset isV6 skip) := by
  obtain ⟨start, header, length, room, long⟩ :=
    merge_lengths valid found describes family mergeable
  have payloadLength : ((orig k).drop item.entry.hdrLen).length = c.gsoSize.toNat := by
    rw [length_drop]
    omega
  unfold appendTCPPacket
  rw [found, some_bind, sliceFrom?_eq_some room]
  simp only [some_bind, valid.headersLen_eq]
  by_cases full : (target.cap : Int) - offset - offset <
      (target.bytes.drop offset).length + (orig k).length - item.entry.hdrLen
  · rw [if_pos full]
    exact ⟨_, _, _, rfl, .inl ⟨rfl, rfl, nofun, nofun⟩⟩
  obtain ⟨invalid, invalid_eq, refused⟩ := tcpInvalidCSum_spec (orig k)
    (target.bytes.drop offset) start (by omega) (by omega) skip
  rw [if_neg full, invalid_eq]
  rw [length_drop] at full long
  cases invalid with
  | some reason => exact ⟨_, _, _, rfl, .inl (refused reason rfl)⟩
  | none =>
    have flagsAt : offset + (item.iphLen + UInt8.ofNat tcpFlagsOffset).toNat =
          offset + headerStart item.key.isV6 + 13 := by
      have value : (UInt8.ofNat tcpFlagsOffset).toNat = 13 := rfl
      have small := headerStart_le isV6
      rw [UInt8.toNat_add, value, start, family]
      omega
    rw [flagsAt, setPSH_eq (by rw [family]; omega)]
    rw [sliceFrom?_eq_some (by omega)]
    simp only [some_bind]
    rw [Buf.extend?, if_pos (by
      unfold Buf.cap at full
      rw [payloadLength]
      show c.gsoSize.toNat ≤ target.spare
      omega)]
    refine ⟨_, _, _, rfl, .inr ⟨rfl, ?_⟩⟩
    have size : ¬item.gsoSize < c.gsoSize := by
      rw [lt_iff_toNat_lt]
      have := appendable.size
      omega
    have merged : TCPCoalesced orig offset k c bufs item _ _ _ :=
      .append target found mergeable appendable (by omega)
    simpa [TCPGROItem.merged, size, appendable.psh, payloadLength] using merged

section

variable {b : Buf} (current : bufs[k]? = some b)
variable (currentRoom : offset ≤ b.bytes.length) (content : b.bytes.drop offset = orig k)
include current currentRoom content

theorem prependTCPPacket_spec (prependable : TCPPrependable c item) :
    TCPTries orig offset k c bufs item skip .prepended (·.merged c.gsoSize)
      (prependTCPPacket (orig k) k c.seq c.pshSet item bufs offset isV6 skip) := by
  obtain ⟨start, header, length, room, long⟩ :=
    merge_lengths valid found describes family mergeable
  unfold prependTCPPacket
  rw [found, some_bind, sliceFrom?_eq_some room, current]
  simp only [some_bind, valid.headersLen_eq]
  by_cases full : (b.cap : Int) - offset - offset <
      (target.bytes.drop offset).length + (orig k).length - item.entry.hdrLen
  · rw [if_pos full]
    exact ⟨_, _, _, rfl, .inl ⟨rfl, rfl, nofun, nofun⟩⟩
  obtain ⟨invalid, invalid_eq, refused⟩ := tcpInvalidCSum_spec (orig k)
    (target.bytes.drop offset) start (by omega) (by omega) skip
  rw [if_neg full, if_neg (by rw [prependable.psh]; decide), invalid_eq]
  rw [length_drop] at full long
  cases invalid with
  | some reason => exact ⟨_, _, _, rfl, .inl (refused reason rfl)⟩
  | none =>
    rw [sliceFrom?_eq_some (by omega)]
    simp only [some_bind]
    have currentLength := congrArg List.length content
    rw [length_drop] at currentLength
    rw [Buf.extend?, if_pos (by
      unfold Buf.cap at full
      rw [length_drop]
      omega)]
    refine ⟨_, _, _, rfl, .inr ⟨rfl, ?_⟩⟩
    have merged : TCPCoalesced orig offset k c bufs item _ _ _ :=
      .prepend target b found current mergeable prependable (by omega)
    have size : (if item.gsoSize < c.gsoSize then c.gsoSize else item.gsoSize) = c.gsoSize := by
      split
      · rfl
      · rename_i smaller
        rw [lt_iff_toNat_lt] at smaller
        have := prependable.size
        exact UInt16.toNat_inj.mp (by omega)
    simpa [TCPGROItem.merged, size] using merged

theorem coalesceTCPPackets_spec {mode : CanCoalesce}
    (can : (mode = .appended ∧
        TCPAppendable (target.bytes.drop offset) c item) ∨
      (mode = .prepended ∧ TCPPrependable c item)) :
    TCPTries orig offset k c bufs item skip mode id
      (coalesceTCPPackets mode (orig k) k c.gsoSize c.seq c.pshSet item bufs offset isV6 skip) := by
  unfold coalesceTCPPackets
  have tries : TCPTries orig offset k c bufs item skip mode (·.merged c.gsoSize)
      (if mode = .prepended then
        prependTCPPacket (orig k) k c.seq c.pshSet item bufs offset isV6 skip
      else appendTCPPacket (orig k) k c.pshSet item bufs offset isV6 skip) := by
    rcases can with ⟨rfl, appendable⟩ | ⟨rfl, prependable⟩
    · exact appendTCPPacket_spec valid found describes family mergeable skip appendable
    · exact prependTCPPacket_spec valid found describes family mergeable
        skip current currentRoom content prependable
  obtain ⟨result, item', bufs', computed, refused | ⟨rfl, merged⟩⟩ := tries
  · rw [computed]
    exact ⟨result, item', bufs', by simp [refused.failed], .inl refused⟩
  · rw [computed]
    exact ⟨.success, _, bufs', rfl, .inr ⟨rfl, merged⟩⟩

end

end Merge

end Step

/-! ## Tables -/

namespace GROTable

variable {κ ι : Type} [DecidableEq κ] {table table' : GROTable κ ι}
variable {key : κ} {items : List ι} {item : ι} {i : Nat}

/-- Every item is stored under its own key. -/
def Keyed (keyOf : ι → κ) (table : GROTable κ ι) : Prop :=
  ∀ key items, table.itemsByFlow.lookup key = some items → ∀ item ∈ items, keyOf item = key

theorem Keyed.of_insert {keyOf : ι → κ} (keyed : Keyed keyOf table)
    (flows : table'.itemsByFlow = table.itemsByFlow.insert key items)
    (own : ∀ item ∈ items, keyOf item = key) :
    Keyed keyOf table' := by
  intro other list found
  rw [flows] at found
  by_cases same : other = key
  · subst same
    rw [AList.lookup_insert, Option.some.injEq] at found
    exact found ▸ own
  · rw [AList.lookup_insert_ne same] at found
    exact keyed other list found

/-- Insertion adds one item, unless the pool is empty. -/
theorem insert_spec (table : GROTable κ ι) (key : κ) (item : ι) :
    (table.insert key item = none ∧ table.itemsPool = 0) ∨
      ∃ table', table.insert key item = some table' ∧ table'.items.Perm (item :: table.items) ∧
        table'.deleted = table.deleted ∧ table.itemsPool ≤ table'.itemsPool + 1 ∧
        table'.itemsByFlow = table.itemsByFlow.insert key
          ((table.itemsByFlow.lookup key).getD [] ++ [item]) := by
  unfold insert
  cases found : table.itemsByFlow.lookup key with
  | some items =>
    exact .inr ⟨_, rfl, Multimap.items_insert_concat found item, rfl, Nat.le_succ _, rfl⟩
  | none =>
    by_cases empty : table.itemsPool = 0
    · exact .inl ⟨if_pos empty, empty⟩
    · refine .inr ⟨_, if_neg empty, ?_, rfl, ?_, rfl⟩
      · exact .of_eq (Multimap.items_insert_singleton found item)
      · show table.itemsPool ≤ table.itemsPool - 1 + 1
        omega

theorem insert_some (inserted : table.insert key item = some table') :
    table'.items.Perm (item :: table.items) ∧ table'.deleted = table.deleted ∧
      table.itemsPool ≤ table'.itemsPool + 1 ∧ table'.itemsByFlow = table.itemsByFlow.insert key
        ((table.itemsByFlow.lookup key).getD [] ++ [item]) := by
  rcases insert_spec table key item with ⟨failed, -⟩ | ⟨other, same, spec⟩
  · rw [failed] at inserted
    cases inserted
  · rwa [some.inj (same.symm.trans inserted)] at spec

/-- Insertion under the key of the item keeps the table keyed. -/
theorem Keyed.of_insert_item {keyOf : ι → κ} {item : ι} (keyed : Keyed keyOf table)
    (flows : table'.itemsByFlow = table.itemsByFlow.insert key
      ((table.itemsByFlow.lookup key).getD [] ++ [item]))
    (own : keyOf item = key) :
    Keyed keyOf table' := by
  apply keyed.of_insert flows
  intro other member
  rcases mem_append.mp member with older | last
  · cases found : table.itemsByFlow.lookup key with
    | none =>
      rw [found] at older
      cases older
    | some items =>
      rw [found] at older
      exact keyed key items found other older
  · rw [mem_singleton.mp last]
    exact own

/-- `updateAt` replaces one item. -/
theorem updateAt_spec (found : table.itemsByFlow.lookup key = some items)
    (old : items[i]? = some item) (new : ι) :
    ∃ table' rest, table.updateAt key new i = some table' ∧
      table.items.Perm (item :: rest) ∧ table'.items.Perm (new :: rest) ∧
      table'.deleted = table.deleted ∧ table'.itemsPool = table.itemsPool ∧
      table'.itemsByFlow = table.itemsByFlow.insert key (items.set i new) := by
  obtain ⟨rest, before, after⟩ := Multimap.items_insert_set found old new
  have inside := (List.getElem?_eq_some_iff.mp old).1
  refine
    ⟨{ table with
        itemsByFlow := table.itemsByFlow.insert key (items.set i new) },
      rest, ?_, before, after, rfl, rfl, rfl⟩
  unfold updateAt
  rw [found, getD_some, if_pos inside]

/-- `deleteAt` removes one item. -/
theorem deleteAt_spec (found : table.itemsByFlow.lookup key = some items)
    (old : items[i]? = some item) :
    ∃ table', table.deleteAt key i = some table' ∧
      table.items.Perm (item :: table'.items) ∧ table'.deleted = table.deleted ++ [item] ∧
      table'.itemsPool = table.itemsPool ∧
      table'.itemsByFlow = table.itemsByFlow.insert key (items.eraseIdx i) := by
  refine
    ⟨{ table with
        itemsByFlow := table.itemsByFlow.insert key (items.eraseIdx i)
        deleted := table.deleted ++ [item] },
      ?_, Multimap.items_insert_eraseIdx found old, rfl, rfl, rfl⟩
  simp [deleteAt, found, old]

end GROTable

/-! ## The loop over the items of a flow -/

/-- An attempt to merge a packet with an item, and how it ended. -/
structure TCPAttempt where
  item : TCPGROItem
  mode : CanCoalesce
  result : CoalesceResult

/-- The attempts with a result. -/
def withResult (result : CoalesceResult) (attempts : List TCPAttempt) : List TCPAttempt :=
  attempts.filter fun attempt => attempt.result = result

/--
The attempts of the loop of `tcpGRO` on the items that are left, the next one
first.
-/
def tcpAttempts (pkt : Bytes) (pktI : Nat) (candidate : TCPCandidate) (bufs : List Buf)
    (offset : Nat) (isV6 skip : Bool) : List TCPGROItem → List TCPAttempt
  | [] => []
  | item :: items =>
    let rest := tcpAttempts pkt pktI candidate bufs offset isV6 skip items
    match tcpPacketsCanCoalesce pkt (UInt8.ofNat candidate.iphLen) (UInt8.ofNat candidate.tcphLen)
        candidate.seq candidate.pshSet candidate.gsoSize item bufs offset with
    | none => []
    | some mode =>
      if mode = .unavailable then rest
      else
        match coalesceTCPPackets mode pkt pktI candidate.gsoSize candidate.seq
            candidate.pshSet item bufs offset isV6 skip with
        | none => []
        | some (result, _) =>
          ⟨item, mode, result⟩ ::
            if result = .success ∨ result = .pktInvalidCSum then [] else rest

/-- The attempts of `tcpGRO`. -/
def tcpGROAttempts (bufs : List Buf) (offset pktI : Nat) (table : TCPGROTable)
    (isV6 skip : Bool) (pkt : Bytes) : List TCPAttempt :=
  match tcpCandidate pkt isV6 with
  | some (some candidate) =>
    if bufs.length = 1 then []
    else tcpAttempts pkt pktI candidate bufs offset isV6 skip
      ((table.itemsByFlow.lookup (tcpKeyOf isV6 pkt)).getD []).reverse
  | _ => []

theorem tcpAttempts_mem {pkt : Bytes} {pktI : Nat} {candidate : TCPCandidate} {bufs : List Buf}
    {offset : Nat} {isV6 skip : Bool} {items : List TCPGROItem}
    {attempt : TCPAttempt}
    (made : attempt ∈ tcpAttempts pkt pktI candidate bufs offset isV6 skip items) :
    attempt.item ∈ items := by
  induction items with
  | nil => cases made
  | cons item items ih =>
    rw [tcpAttempts] at made
    split at made
    · cases made
    split at made
    · exact mem_cons_of_mem _ (ih made)
    split at made
    · cases made
    rcases mem_cons.mp made with rfl | later
    · exact mem_cons_self
    split at later
    · cases later
    · exact mem_cons_of_mem _ (ih later)

/-- The effect of the deletions during one call. -/
structure TCPDeletions (skip : Bool) (before : TCPGROTable)
    (removed : List TCPGROItem) (after : TCPGROTable) : Prop where
  items : before.items.Perm (removed ++ after.items)
  deleted : after.deleted = before.deleted ++ removed
  pool : after.itemsPool = before.itemsPool
  single : ∀ item ∈ removed, item.numMerged = 0
  validated : skip = true → removed = []
  keyed : after.Keyed TCPGROItem.key

variable {skip isV6 : Bool} {orig : Nat → Bytes}

theorem TCPDeletions.none {table : TCPGROTable} (keyed : table.Keyed TCPGROItem.key) :
    TCPDeletions skip table [] table :=
  ⟨.refl _, (append_nil _).symm, rfl, nofun, fun _ => rfl, keyed⟩

/-- One deletion before others. -/
theorem TCPDeletions.cons {before middle after : TCPGROTable}
    {item : TCPGROItem} {removed : List TCPGROItem}
    (items : before.items.Perm (item :: middle.items))
    (deleted : middle.deleted = before.deleted ++ [item])
    (pool : middle.itemsPool = before.itemsPool)
    (single : item.numMerged = 0)
    (validated : skip = false)
    (rest : TCPDeletions skip middle removed after) :
    TCPDeletions skip before (item :: removed) after :=
  { items := items.trans (rest.items.cons item)
    deleted := by rw [rest.deleted, deleted, append_assoc]; rfl
    pool := rest.pool.trans pool
    single := forall_mem_cons.mpr ⟨single, rest.single⟩
    validated := fun skip => by
      rw [validated] at skip
      contradiction
    keyed := rest.keyed }

/-- The effect of a merge on the table. -/
structure TCPUpdate
    (orig : Nat → Bytes) (offset k : Nat) (isV6 : Bool) (c : TCPCandidate)
    (bufs : List Buf) (table : TCPGROTable) (mode : CanCoalesce)
    (bufs' : List Buf) (table' : TCPGROTable) (item item' : TCPGROItem)
    (rest : List TCPGROItem) : Prop where
  merged : TCPCoalesced orig offset k c bufs item mode bufs' item'
  flow : item.key = tcpKeyOf isV6 (orig k)
  before : table.items.Perm (item :: rest)
  after : table'.items.Perm (item' :: rest)
  deleted : table'.deleted = table.deleted
  pool : table'.itemsPool = table.itemsPool
  keyed : table'.Keyed TCPGROItem.key

theorem TCPCoalesced.key_eq {offset k : Nat} {c : TCPCandidate}
    {bufs bufs' : List Buf} {item item' : TCPGROItem} {mode : CanCoalesce}
    (merged : TCPCoalesced orig offset k c bufs item mode bufs' item') :
    item'.key = item.key := by
  cases merged <;> rfl

/-- What the loop over the items may return, with the attempts that succeeded. -/
inductive TCPLoopOutcome
    (orig : Nat → Bytes) (offset k : Nat) (isV6 : Bool) (c : TCPCandidate)
    (bufs : List Buf) (table : TCPGROTable) :
    List TCPAttempt → Option (GROResult × List Buf) × TCPGROTable → Prop
  | done : TCPLoopOutcome orig offset k isV6 c bufs table [] (none, table)
  | noop : TCPLoopOutcome orig offset k isV6 c bufs table []
      (some (.noop, bufs), table)
  | coalesced {mode : CanCoalesce} {bufs' : List Buf} {table' : TCPGROTable}
      {item item' : TCPGROItem} {rest : List TCPGROItem}
      (update : TCPUpdate orig offset k isV6 c bufs table mode bufs' table' item item' rest) :
      TCPLoopOutcome orig offset k isV6 c bufs table [⟨item, mode, .success⟩]
        (some (.coalesced, bufs'), table')

theorem mem_eraseIdx_of_key {key : TCPFlowKey} {list : List TCPGROItem} {i : Nat}
    (own : ∀ item ∈ list, item.key = key) :
    ∀ item ∈ list.eraseIdx i, item.key = key :=
  fun item member => own item (mem_of_mem_eraseIdx member)

theorem tcpGROLoop_spec {offset k : Nat} {bufs : List Buf}
    {c : TCPCandidate} {b : Buf} {items : List TCPGROItem} (describes : c.Describes isV6 (orig k))
    (current : bufs[k]? = some b)
    (room : offset ≤ b.bytes.length)
    (content : b.bytes.drop offset = orig k)
    (valid : ∀ item ∈ items, TCPItemValid orig offset bufs item)
    (flow : ∀ item ∈ items, item.key = tcpKeyOf isV6 (orig k))
    (skip : Bool) (i : Nat) (table : TCPGROTable)
    (list : List TCPGROItem) (bound : i ≤ items.length)
    (found : table.itemsByFlow.lookup (tcpKeyOf isV6 (orig k)) = some list)
    (same : list.take i = items.take i)
    (keyed : table.Keyed TCPGROItem.key) :
    let attempts := tcpAttempts (orig k) k c bufs offset isV6 skip
      (items.take i).reverse
    ∃ table₁ result,
      tcpGROLoop (orig k) k c bufs offset isV6 skip items i table =
        some result ∧
      TCPDeletions skip table
        ((withResult .itemInvalidCSum attempts).map TCPAttempt.item) table₁ ∧
      TCPLoopOutcome orig offset k isV6 c bufs table₁ (withResult .success attempts) result := by
  induction i generalizing table list with
  | zero =>
    exact ⟨table, _, rfl, TCPDeletions.none keyed, TCPLoopOutcome.done⟩
  | succ i ih =>
    have inside : i < items.length := bound
    have here : items[i]? = some items[i] := List.getElem?_eq_getElem inside
    generalize items[i] = item at here
    have member : item ∈ items := mem_of_getElem? here
    have stored : list[i]? = some item := by
      have taken := congrArg (fun taken => taken[i]?) same
      simp only [List.getElem?_take, if_pos (Nat.lt_succ_self i)] at taken
      exact taken.trans here
    have shorter : list.take i = items.take i := by
      have taken := congrArg (List.take i) same
      rwa [take_take, take_take, Nat.min_eq_left (Nat.le_succ i)] at taken
    have itemKey := flow item member
    have itemValid := valid item member
    obtain ⟨target, targetFound, -⟩ := itemValid.entry.buffer
    have family : item.key.isV6 = isV6 := by rw [itemKey]; rfl
    have next := ih table list (by omega) found shorter keyed
    obtain ⟨can, can_eq, sound⟩ := tcpPacketsCanCoalesce_spec itemValid
      targetFound describes itemKey
    rw [tcpGROLoop, here, take_add_one, here, reverse_append]
    simp only [some_bind, toList_some, reverse_singleton, singleton_append,
      tcpAttempts, can_eq]
    by_cases unavailable : can = .unavailable
    · simp only [if_pos unavailable]
      exact next
    simp only [if_neg unavailable]
    obtain ⟨mergeable, mode⟩ := sound unavailable
    obtain ⟨result, item', bufs', computed, cases⟩ :=
      coalesceTCPPackets_spec itemValid targetFound describes family
        mergeable skip current room content mode
    simp only [computed, some_bind]
    rcases cases with refused | ⟨rfl, merged⟩
    · obtain ⟨rfl, rfl, failed, itemInvalid⟩ := refused
      cases result with
      | success => exact absurd rfl failed
      | insufficientCap => exact next
      | pshEnding => exact next
      | pktInvalidCSum =>
        exact ⟨table, _, rfl, TCPDeletions.none keyed, TCPLoopOutcome.noop⟩
      | itemInvalidCSum =>
        obtain ⟨single, validated⟩ := itemInvalid rfl
        obtain ⟨table', deleteAt, items', deleted, pool, flows⟩ :=
          GROTable.deleteAt_spec found stored
        rw [itemKey, deleteAt]
        have own := keyed _ _ found
        have keyed' : table'.Keyed TCPGROItem.key := keyed.of_insert flows (mem_eraseIdx_of_key own)
        have erased : (list.eraseIdx i).take i = items.take i := by
          rw [take_eraseIdx_eq_take_of_le _ _ _ (Nat.le_refl i)]
          exact shorter
        have found' : table'.itemsByFlow.lookup
            (tcpKeyOf isV6 (orig k)) = some (list.eraseIdx i) := by
          rw [flows, AList.lookup_insert]
        obtain ⟨table₁, result, loop, deletions, outcome⟩ :=
          ih table' (list.eraseIdx i) (by omega) found' erased keyed'
        exact ⟨table₁, result, loop,
          TCPDeletions.cons items' deleted pool single validated deletions, outcome⟩
    · have key' : item'.key = tcpKeyOf isV6 (orig k) := merged.key_eq.trans itemKey
      obtain ⟨table', rest, updateAt, before, after, deleted, pool, flows⟩ :=
        GROTable.updateAt_spec found stored item'
      rw [key', updateAt]
      have own : ∀ other ∈ list.set i item', other.key = tcpKeyOf isV6 (orig k) := by
        intro other member
        rcases mem_or_eq_of_mem_set member with old | rfl
        · exact keyed _ _ found other old
        · exact key'
      exact ⟨table, _, rfl, TCPDeletions.none keyed,
        TCPLoopOutcome.coalesced ⟨merged, itemKey, before, after, deleted, pool,
            keyed.of_insert flows own⟩⟩

/-! ## The whole call -/

/-- What `tcpGRO` may return, with `table` the table after its deletions. -/
inductive TCPOutcome
    (orig : Nat → Bytes) (offset k : Nat) (isV6 : Bool) (bufs : List Buf)
    (table : TCPGROTable) :
    List TCPAttempt → Option (GROResult × List Buf × TCPGROTable) → Prop
  | noop : TCPOutcome orig offset k isV6 bufs table []
      (some (.noop, bufs, table))
  | insert (c : TCPCandidate) (describes : c.Describes isV6 (orig k)) :
      TCPOutcome orig offset k isV6 bufs table [] ((table.insert (tcpKeyOf isV6 (orig k))
          (tcpItemOf isV6 (orig k) c k)).bind fun table =>
            some (.tableInsert, bufs, table))
  | coalesced (c : TCPCandidate) (describes : c.Describes isV6 (orig k))
      {mode : CanCoalesce} {bufs' : List Buf} {table' : TCPGROTable}
      {item item' : TCPGROItem} {rest : List TCPGROItem}
      (update : TCPUpdate orig offset k isV6 c bufs table mode bufs' table' item item' rest) :
      TCPOutcome orig offset k isV6 bufs table [⟨item, mode, .success⟩]
        (some (.coalesced, bufs', table'))

theorem tcpGRO_spec {offset k : Nat} {bufs : List Buf} {b : Buf} {table : TCPGROTable}
    (checked : GROCandidate tcpProtocolNumber isV6 (orig k))
    (current : bufs[k]? = some b)
    (room : offset ≤ b.bytes.length)
    (content : b.bytes.drop offset = orig k)
    (valid : ∀ item ∈ table.items, TCPItemValid orig offset bufs item)
    (keyed : table.Keyed TCPGROItem.key) (skip : Bool) :
    let attempts := tcpGROAttempts bufs offset k table isV6 skip (orig k)
    ∃ table₁,
      TCPDeletions skip table
        ((withResult .itemInvalidCSum attempts).map TCPAttempt.item) table₁ ∧
      TCPOutcome orig offset k isV6 bufs table₁ (withResult .success attempts)
        (tcpGRO bufs offset k table isV6 skip) := by
  have packet : packetAt? bufs k offset = some (orig k) := by
    rw [packetAt?, current, some_bind, sliceFrom?_eq_some room, content]
  unfold tcpGRO tcpGROAttempts
  rw [packet]
  simp only [some_bind]
  rcases tcpCandidate_spec checked with refused | ⟨c, candidate, describes⟩
  · rw [refused]
    exact ⟨table, TCPDeletions.none keyed, TCPOutcome.noop⟩
  rw [candidate]
  simp only [some_bind]
  by_cases lone : bufs.length = 1
  · simp only [if_pos lone]
    exact ⟨table, TCPDeletions.none keyed, TCPOutcome.noop⟩
  have long : headerStart isV6 + 20 ≤ (orig k).length := checked.long
  rw [describes.iphLen, newTCPFlowKey_eq long]
  simp only [if_neg lone, some_bind]
  have newItem := newTCPItem_eq describes k
  rw [describes.iphLen] at newItem
  cases found : table.itemsByFlow.lookup (tcpKeyOf isV6 (orig k)) with
  | none =>
    simp only [newItem, some_bind]
    exact ⟨table, TCPDeletions.none keyed, TCPOutcome.insert c describes⟩
  | some items =>
    have flow := keyed _ _ found
    obtain ⟨table₁, result, loop, deletions, outcome⟩ :=
      tcpGROLoop_spec describes current room content (fun item member =>
          valid item (Multimap.mem_items_of_lookup found member))
        flow skip items.length table items
        (le_rfl) found rfl keyed
    rw [take_length] at deletions outcome
    simp only [loop, some_bind, getD_some]
    refine ⟨table₁, deletions, ?_⟩
    generalize withResult .success _ = merges at outcome ⊢
    cases outcome with
    | done =>
      simp only [newItem, some_bind]
      exact TCPOutcome.insert c describes
    | noop => exact TCPOutcome.noop
    | coalesced update => exact TCPOutcome.coalesced c describes update

/-! ## A merge keeps the item valid -/

theorem drop_flagged (bytes : Bytes) {position count : Nat} (before : position < count)
    (pshSet : Bool) :
    (flagged bytes position pshSet).drop count = bytes.drop count := by
  unfold flagged
  cases pshSet with
  | false => rfl
  | true => rw [if_pos rfl, drop_set, if_pos before]

theorem byteAt_flagged_of_ne (bytes : Bytes) {target position : Nat} (other : target ≠ position)
    (pshSet : Bool) :
    byteAt (flagged bytes target pshSet) position = byteAt bytes position := by
  cases pshSet with
  | false => rfl
  | true => exact byteAt_set_ne other

namespace TCPCoalesced

variable {orig : Nat → Bytes} {offset k : Nat} {c : TCPCandidate}
variable {bufs bufs' : List Buf} {item item' : TCPGROItem} {mode : CanCoalesce}
variable (merged : TCPCoalesced orig offset k c bufs item mode bufs' item')

include merged

/-- The entry grows at its end or at its front. -/
theorem entry_eq (small : item.numMerged.toNat < 65535) :
    (item'.entry = item.entry.append k ∧
        ∃ target, bufs[item.bufsIndex.toNat]? = some target ∧
          TCPAppendable (target.bytes.drop offset) c item ∧
          target.bytes.length + c.gsoSize.toNat + offset ≤ target.cap) ∨
      (item'.entry = item.entry.prepend k c.gsoSize.toNat ∧ TCPPrependable c item ∧
        ∃ target b, bufs[item.bufsIndex.toNat]? = some target ∧ bufs[k]? = some b ∧
          target.bytes.length + c.gsoSize.toNat + offset ≤ b.cap) := by
  have counted : (item.numMerged + 1).toNat = item.numMerged.toNat + 1 :=
    toNat_add_of_lt (show _ + 1 < 65536 by omega)
  cases merged with
  | append target found mergeable appendable room =>
    refine .inl ⟨?_, target, found, appendable, room⟩
    simp [TCPGROItem.entry, Entry.append, counted]
  | prepend target b found current mergeable prependable room =>
    refine .inr ⟨?_, prependable, target, b, found, current, room⟩
    simp [TCPGROItem.entry, Entry.prepend, counted]

theorem length_eq : bufs'.length = bufs.length := by
  cases merged <;> simp

/-- All other buffers are left alone. -/
theorem frame (j : Nat) (other : j ≠ item.bufsIndex.toNat)
    (later : j ≠ k) :
    bufs'[j]? = bufs[j]? := by
  cases merged with
  | append => rw [List.getElem?_set_ne (Ne.symm other)]
  | prepend =>
    rw [List.getElem?_set_ne (Ne.symm other), List.getElem?_set_ne (Ne.symm later)]

variable (before : TCPItemValid orig offset bufs item)
include before

section

variable {isV6 : Bool}
variable (describes : c.Describes isV6 (orig k))
include describes

/-- The packet has the same headers as the item. -/
theorem hdrLen_eq (flow : item.key = tcpKeyOf isV6 (orig k)) :
    c.iphLen + c.tcphLen = item.entry.hdrLen := by
  have family : item.key.isV6 = isV6 := by rw [flow]; rfl
  have tcphLen : c.tcphLen = item.tcphLen.toNat := by
    cases merged with
    | append target found mergeable => exact mergeable.tcphLen
    | prepend target b found current mergeable => exact mergeable.tcphLen
  show _ = item.iphLen.toNat + item.tcphLen.toNat
  rw [describes.iphLen, before.start, family, tcphLen]

/-- Merging keeps all capacities. -/
theorem caps {b : Buf} (flow : item.key = tcpKeyOf isV6 (orig k))
    (current : bufs[k]? = some b)
    (currentRoom : offset ≤ b.bytes.length)
    (content : b.bytes.drop offset = orig k) :
    ∀ buf ∈ bufs', ∃ old ∈ bufs, buf.cap = old.cap := by
  have length := describes.length
  have hdrLen := merged.hdrLen_eq before describes flow
  intro buf member
  cases merged with
  | append target found mergeable appendable room =>
    rcases mem_or_eq_of_mem_set member with old | rfl
    · exact ⟨buf, old, rfl⟩
    · refine ⟨target, mem_of_getElem? found, ?_⟩
      unfold Buf.cap at room ⊢
      simp only [length_append, length_flagged, length_drop]
      omega
  | prepend target other found current' mergeable prependable room =>
    have other_eq : other = b := some.inj (current'.symm.trans current)
    subst other_eq
    rcases mem_or_eq_of_mem_set member with old | rfl
    · rcases mem_or_eq_of_mem_set old with older | rfl
      · exact ⟨buf, older, rfl⟩
      · exact ⟨buf, mem_of_getElem? found, rfl⟩
    · refine ⟨other, mem_of_getElem? current, ?_⟩
      have currentLength := congrArg List.length content
      rw [length_drop] at currentLength
      unfold Buf.cap at room ⊢
      simp only [length_append, length_drop]
      omega

theorem valid {b : Buf} (flow : item.key = tcpKeyOf isV6 (orig k))
    (current : bufs[k]? = some b)
    (currentRoom : offset ≤ b.bytes.length)
    (content : b.bytes.drop offset = orig k)
    (small : item.numMerged.toNat < 65535) :
    TCPItemValid orig offset bufs' item' := by
  have family : item.key.isV6 = isV6 := by rw [flow]; rfl
  have bounds := before.hdrLen_bounds
  have length := describes.length
  have positive := describes.positive
  have counted : (item.numMerged + 1).toNat = item.numMerged.toNat + 1 :=
    toNat_add_of_lt (show _ + 1 < 65536 by omega)
  have hdrLen := merged.hdrLen_eq before describes flow
  have shape : Shape tcpProtocolNumber item.key.isV6 item.entry.hdrLen (orig k) := by
    rw [← hdrLen, family]
    exact describes.shape
  cases merged with
  | append target found mergeable appendable room =>
    obtain ⟨targetRoom, aggregate⟩ := before.entry.aggregate found
    have long := aggregate.long
    have first := Entry.first_append before.entry.members_ne_nil k
    have flagsAt : offset + headerStart item.key.isV6 + 13 < offset + item.entry.hdrLen := by omega
    have holds := before.entry.append (target.spare - c.gsoSize.toNat)
      found shape ⟨by omega, describes.small⟩ mergeable.view (length_flagged target.bytes
        (offset + headerStart item.key.isV6 + 13) c.pshSet)
      (fun position flags => byteAt_flagged_of_ne _ (by
        change position ≠ headerStart item.key.isV6 + 13 at flags
        omega) _)
      (drop_flagged _ flagsAt _)
    have same : TCPGROItem.entry
        { item with
          numMerged := item.numMerged + 1
          pshSet := c.pshSet
          members := item.members ++ [k] } = item.entry.append k := by
      simp [TCPGROItem.entry, Entry.append, counted]
    exact
      { entry := same ▸ holds
        start := before.start
        key := by rw [same, first]; exact before.key
        sentSeq := by rw [same, first]; exact before.sentSeq }
  | prepend target other found current' mergeable prependable room =>
    obtain ⟨targetRoom, aggregate⟩ := before.entry.aggregate found
    have long := aggregate.long
    have other_eq : other = b := some.inj (current'.symm.trans current)
    subst other_eq
    have holds := before.entry.prepend
      (other.spare - (target.bytes.length - (offset + item.entry.hdrLen)))
      found shape ⟨by omega, describes.small⟩ mergeable.view
      (show (orig k).length = item.entry.hdrLen + c.gsoSize.toNat by omega) currentRoom content
    have same : TCPGROItem.entry
        { item with
          sentSeq := c.seq
          gsoSize := c.gsoSize
          numMerged := item.numMerged + 1
          members := k :: item.members } =
          item.entry.prepend k c.gsoSize.toNat := by
      simp [TCPGROItem.entry, Entry.prepend, counted]
    exact
      { entry := same ▸ holds
        start := before.start
        key := by
          show item.key = tcpKeyOf item.key.isV6 (orig k)
          rw [family]
          exact flow
        sentSeq := by
          show c.seq = readU32 (orig k) (headerStart item.key.isV6 + 4)
          rw [family]
          exact describes.seq }

end

end TCPCoalesced

end SingTun.Offload
