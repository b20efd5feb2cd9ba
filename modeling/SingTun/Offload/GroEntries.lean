import SingTun.Offload.GroCandidates

/-!
# What an item says about its buffer

An `Entry` is the part of a TCP or UDP item that describes a merged packet.
`Entry.Holds` relates it to the packets of the batch: the buffer at its index
has the header of its first member, up to the TCP flags, and the payloads of
all members.  A merge appends or prepends one member; both keep `Holds`.
-/

namespace SingTun.Offload

open Foundation Header List

/-! ## Entries -/

/-- The part of an item that describes the packet in its buffer. -/
structure Entry where
  index : Nat
  members : List Nat
  numMerged : Nat
  gsoSize : Nat
  protocol : UInt8
  isV6 : Bool
  hdrLen : Nat
  deriving DecidableEq, Repr

def TCPGROItem.entry (item : TCPGROItem) : Entry :=
  { index := item.bufsIndex.toNat
    members := item.members
    numMerged := item.numMerged.toNat
    gsoSize := item.gsoSize.toNat
    protocol := tcpProtocolNumber
    isV6 := item.key.isV6
    hdrLen := item.iphLen.toNat + item.tcphLen.toNat }

def UDPGROItem.entry (item : UDPGROItem) : Entry :=
  { index := item.bufsIndex.toNat
    members := item.members
    numMerged := item.numMerged.toNat
    gsoSize := item.gsoSize.toNat
    protocol := udpProtocolNumber
    isV6 := item.key.isV6
    hdrLen := item.iphLen.toNat + 8 }

/-- The member whose header the merged packet has. -/
def Entry.first (entry : Entry) : Nat :=
  entry.members.headD 0

/-- The packet is the merge of the members, up to the octet of the flags. -/
structure IsAggregate
    (orig : Nat → Bytes) (entry : Entry) (pkt : Bytes) : Prop where
  long : entry.hdrLen ≤ pkt.length
  header : ∀ position, position < entry.hdrLen → position ≠ headerStart entry.isV6 + 13 →
      byteAt pkt position = byteAt (orig entry.first) position
  payload : pkt.drop entry.hdrLen =
    entry.members.flatMap fun member => (orig member).drop entry.hdrLen

/-- The entry describes its members and the packet in its buffer. -/
structure Entry.Holds
    (orig : Nat → Bytes) (offset : Nat) (bufs : List Buf) (entry : Entry) :
    Prop where
  index_mem : entry.index ∈ entry.members
  count : entry.members.length = entry.numMerged + 1
  shapes : ∀ member ∈ entry.members, Shape entry.protocol entry.isV6 entry.hdrLen (orig member)
  lengths : ∀ member ∈ entry.members,
    entry.hdrLen < (orig member).length ∧ (orig member).length ≤ 65535
  views : ∀ member ∈ entry.members, headerView (orig member) = headerView (orig entry.first)
  size : (orig entry.first).length = entry.hdrLen + entry.gsoSize
  buffer : ∃ buf, bufs[entry.index]? = some buf ∧ offset ≤ buf.bytes.length ∧
    IsAggregate orig entry (buf.bytes.drop offset)

namespace Entry

variable {orig : Nat → Bytes} {offset : Nat} {bufs bufs' : List Buf}
variable {entry : Entry}

theorem first_mem (nonempty : entry.members ≠ []) : entry.first ∈ entry.members := by
  unfold first
  cases members : entry.members with
  | nil => exact absurd members nonempty
  | cons head tail => exact mem_cons_self

namespace Holds

variable (holds : entry.Holds orig offset bufs)
include holds

theorem members_ne_nil : entry.members ≠ [] :=
  ne_nil_of_mem holds.index_mem

theorem first_shape : Shape entry.protocol entry.isV6 entry.hdrLen (orig entry.first) :=
  holds.shapes _ (first_mem holds.members_ne_nil)

theorem gsoSize_pos : 0 < entry.gsoSize := by
  have length := (holds.lengths _ (first_mem holds.members_ne_nil)).1
  have size := holds.size
  omega

theorem gsoSize_le : entry.hdrLen + entry.gsoSize ≤ 65535 := by
  have length := (holds.lengths _ (first_mem holds.members_ne_nil)).2
  have size := holds.size
  omega

theorem aggregate {buf : Buf} (found : bufs[entry.index]? = some buf) :
    offset ≤ buf.bytes.length ∧ IsAggregate orig entry (buf.bytes.drop offset) := by
  obtain ⟨other, same, rest⟩ := holds.buffer
  have other_eq : other = buf := Option.some.inj (same.symm.trans found)
  exact other_eq ▸ rest

/-- Only the buffer of the entry matters. -/
theorem frame (same : bufs'[entry.index]? = bufs[entry.index]?) :
    entry.Holds orig offset bufs' := by
  obtain ⟨buf, found, rest⟩ := holds.buffer
  exact { holds with buffer := ⟨buf, same.trans found, rest⟩ }

end Holds

/-- One more member behind the others. -/
def append (entry : Entry) (member : Nat) : Entry :=
  { entry with
    members := entry.members ++ [member]
    numMerged := entry.numMerged + 1 }

/-- One more member in front of the others. -/
def prepend (entry : Entry) (member gsoSize : Nat) : Entry :=
  { entry with
    members := member :: entry.members
    numMerged := entry.numMerged + 1
    gsoSize }

theorem first_append (nonempty : entry.members ≠ []) (member : Nat) :
    (entry.append member).first = entry.first := by
  unfold first append
  cases members : entry.members with
  | nil => exact absurd members nonempty
  | cons head tail => rfl

/-- A new entry describes the packet it was made for. -/
theorem Holds.single {k hdrLen : Nat} {buf : Buf} (index : entry.index = k)
    (members : entry.members = [k])
    (count : entry.numMerged = 0)
    (headers : entry.hdrLen = hdrLen)
    (shape : Shape entry.protocol entry.isV6 hdrLen (orig k))
    (length : hdrLen < (orig k).length ∧ (orig k).length ≤ 65535)
    (size : (orig k).length = hdrLen + entry.gsoSize)
    (found : bufs[k]? = some buf)
    (room : offset ≤ buf.bytes.length)
    (content : buf.bytes.drop offset = orig k) :
    entry.Holds orig offset bufs := by
  subst index headers
  have first : entry.first = entry.index := by simp [Entry.first, members]
  have only : ∀ {P : Nat → Prop}, P entry.index → ∀ member ∈ entry.members, P member := by
    intro P known member inside
    rw [members, mem_singleton] at inside
    exact inside ▸ known
  exact
    { index_mem := by simp [members]
      count := by simp [members, count]
      shapes := only shape
      lengths := only length
      views := only (by rw [first])
      size := by rw [first, size]
      buffer := ⟨buf, found, room,
        { long := by rw [content]; omega
          header := fun _ _ _ => by rw [content, first]
          payload := by simp [content, members] }⟩ }

/--
Append a packet: its payload goes behind the merged packet, whose octets
`front` may differ in the flags.
-/
theorem Holds.append (holds : entry.Holds orig offset bufs) {member : Nat} {buf : Buf}
    {front : Bytes} (spare : Nat) (found : bufs[entry.index]? = some buf)
    (shape : Shape entry.protocol entry.isV6 entry.hdrLen (orig member))
    (length : entry.hdrLen < (orig member).length ∧ (orig member).length ≤ 65535)
    (view : headerView (orig member) = headerView (orig entry.first))
    (frontLength : front.length = buf.bytes.length)
    (header : ∀ position, position ≠ headerStart entry.isV6 + 13 →
      byteAt front (offset + position) = byteAt buf.bytes (offset + position))
    (payload : front.drop (offset + entry.hdrLen) = buf.bytes.drop (offset + entry.hdrLen)) :
    (entry.append member).Holds orig offset (bufs.set entry.index
        ⟨front ++ (orig member).drop entry.hdrLen, spare⟩) := by
  have first := first_append holds.members_ne_nil member
  obtain ⟨room, aggregate⟩ := holds.aggregate found
  have long := aggregate.long
  rw [length_drop] at long
  have inside : entry.index < bufs.length := (List.getElem?_eq_some_iff.mp found).1
  refine
    { index_mem := mem_append_left _ holds.index_mem
      count := by
        show (entry.members ++ [member]).length = entry.numMerged + 1 + 1
        rw [length_append, holds.count]
        rfl
      shapes := forall_mem_append.mpr ⟨holds.shapes, forall_mem_singleton.mpr shape⟩
      lengths := forall_mem_append.mpr ⟨holds.lengths, forall_mem_singleton.mpr length⟩
      views := by
        rw [first]
        exact forall_mem_append.mpr ⟨holds.views, forall_mem_singleton.mpr view⟩
      size := by
        rw [first]
        exact holds.size
      buffer := ⟨_, List.getElem?_set_self inside, ?_, ?_, ?_, ?_⟩ }
  · rw [length_append]
    omega
  · show entry.hdrLen ≤ _
    rw [length_drop, length_append]
    omega
  · intro position bound flags
    change position < entry.hdrLen at bound
    rw [first, byteAt_drop, byteAt_append_left (by omega), header position flags, ← byteAt_drop]
    exact aggregate.header position bound flags
  · show List.drop entry.hdrLen _ = (entry.members ++ [member]).flatMap _
    rw [drop_drop, drop_append_of_le_length (by omega), payload,
      ← drop_drop, aggregate.payload, flatMap_append]
    simp [Entry.append]

/-- Prepend a packet: the payload of the merged packet goes behind it. -/
theorem Holds.prepend (holds : entry.Holds orig offset bufs) {member gsoSize : Nat}
    {target buf : Buf} (spare : Nat) (found : bufs[entry.index]? = some target)
    (shape : Shape entry.protocol entry.isV6 entry.hdrLen (orig member))
    (length : entry.hdrLen < (orig member).length ∧ (orig member).length ≤ 65535)
    (view : headerView (orig member) = headerView (orig entry.first))
    (size : (orig member).length = entry.hdrLen + gsoSize)
    (room : offset ≤ buf.bytes.length)
    (content : buf.bytes.drop offset = orig member) :
    (entry.prepend member gsoSize).Holds orig offset ((bufs.set member target).set entry.index
        ⟨buf.bytes ++ target.bytes.drop (offset + entry.hdrLen), spare⟩) := by
  have aggregate := (holds.aggregate found).2
  have inside : entry.index < (bufs.set member target).length := by
    rw [length_set]
    exact (List.getElem?_eq_some_iff.mp found).1
  refine
    { index_mem := mem_cons_of_mem _ holds.index_mem
      count := by
        show (member :: entry.members).length = entry.numMerged + 1 + 1
        rw [length_cons, holds.count]
      shapes := forall_mem_cons.mpr ⟨shape, holds.shapes⟩
      lengths := forall_mem_cons.mpr ⟨length, holds.lengths⟩
      views := forall_mem_cons.mpr
        ⟨rfl, fun old before => (holds.views old before).trans view.symm⟩
      size := size
      buffer := ⟨_, List.getElem?_set_self inside, ?_, ?_⟩ }
  · rw [length_append]
    omega
  have content' : (buf.bytes ++ target.bytes.drop (offset + entry.hdrLen)).drop offset =
        orig member ++ (target.bytes.drop offset).drop entry.hdrLen := by
    rw [drop_append_of_le_length room, content, drop_drop]
  refine ⟨?_, ?_, ?_⟩
  · show entry.hdrLen ≤ _
    rw [content', length_append]
    omega
  · intro position bound _
    rw [content']
    exact byteAt_append_left (Nat.lt_trans bound length.1)
  · show List.drop entry.hdrLen _ = (orig member).drop entry.hdrLen ++ entry.members.flatMap _
    rw [content', drop_append_of_le_length (by omega), aggregate.payload]
    rfl

end Entry

namespace IsAggregate

variable {orig : Nat → Bytes} {entry : Entry} {pkt : Bytes}

/-- The merged packet has the header of its first member. -/
theorem sameHeader (aggregate : IsAggregate orig entry pkt)
    (shape : Shape entry.protocol entry.isV6 entry.hdrLen (orig entry.first))
    (long : entry.hdrLen ≤ (orig entry.first).length) :
    SameHeader entry.protocol entry.isV6 entry.hdrLen (orig entry.first)
      pkt := by
  refine ⟨long, aggregate.long, fun position inside fixed => ?_⟩
  refine (aggregate.header position inside fun flags => ?_).symm
  rcases shape.transport with ⟨tcp, -⟩ | ⟨-, header⟩
  · exact fixed (.inr (.inr ⟨tcp, .inl flags⟩))
  · omega

end IsAggregate

/-! ## Flows -/

/-- What equal IP headers have in common. -/
theorem ipHeadersCanCoalesce_spec
    {protocol : UInt8} {isV6 : Bool} {hdrLen : Nat} {left right : Bytes}
    (shape : Shape protocol isV6 hdrLen left)
    (can : ipHeadersCanCoalesce left right = true) :
    (isV6 = true → byteAt left 0 = byteAt right 0 ∧ byteAt left 1 >>> 4 = byteAt right 1 >>> 4 ∧
        byteAt left 7 = byteAt right 7) ∧ (isV6 = false → byteAt left 1 = byteAt right 1 ∧
        byteAt left 8 = byteAt right 8) := by
  have version : byteAt left 0 >>> 4 = if isV6 then 6 else 4 := shape.version
  unfold ipHeadersCanCoalesce at can
  split at can
  · contradiction
  cases isV6 with
  | true =>
    rw [if_pos (show byteAt left 0 >>> 4 = 6 from version)] at can
    split_ifs at can with first limit
    rw [not_or, not_not, not_not] at first
    exact ⟨fun _ => ⟨first.1, first.2, not_not.mp limit⟩, nofun⟩
  | false =>
    have ipv4 : byteAt left 0 >>> 4 ≠ 6 := by
      rw [version]
      decide
    rw [if_neg ipv4] at can
    split_ifs at can with tos flags limit
    exact ⟨nofun, fun _ => ⟨not_not.mp tos, not_not.mp limit⟩⟩

section

variable {protocol : UInt8} {isV6 : Bool} {hdrLen : Nat} {left : Bytes}
variable (leftShape : Shape protocol isV6 hdrLen left)
include leftShape

/-- Packets of one shape with equal addresses, ports and IP headers. -/
theorem headerView_eq_of_flow {right : Bytes} (rightShape : Shape protocol isV6 hdrLen right)
    (leftLong : hdrLen ≤ left.length)
    (rightLong : hdrLen ≤ right.length)
    (flow : udpKeyOf isV6 left = udpKeyOf isV6 right)
    (can : ipHeadersCanCoalesce left right = true)
    (tcp : protocol = tcpProtocolNumber → readU32 left (headerStart isV6 + 8) =
          readU32 right (headerStart isV6 + 8) ∧
        window left (headerStart isV6 + 20) (hdrLen - headerStart isV6 - 20) =
          window right (headerStart isV6 + 20) (hdrLen - headerStart isV6 - 20)) :
    headerView left = headerView right := by
  have bounds := leftShape.bounds
  have inside := addresses_inside isV6
  have ip := ipHeadersCanCoalesce_spec leftShape can
  simp only [udpKeyOf, UDPFlowKey.mk.injEq, and_true] at flow
  obtain ⟨srcArray, dstArray, srcPort, dstPort⟩ := flow
  have short : addrLen isV6 ≤ 16 := by cases isV6 <;> decide
  have src := addrArray_injective short
    (length_window (by omega)) (length_window (by omega)) srcArray
  have dst := addrArray_injective short
    (length_window (by omega)) (length_window (by omega)) dstArray
  rw [leftShape.headerView_eq, rightShape.headerView_eq, src, dst, srcPort, dstPort]
  have tos : (if isV6 then (byteAt left 0 <<< 4) ||| (byteAt left 1 >>> 4)
        else byteAt left 1) =
      if isV6 then (byteAt right 0 <<< 4) ||| (byteAt right 1 >>> 4)
        else byteAt right 1 := by
    cases isV6 with
    | true => rw [if_pos rfl, if_pos rfl, (ip.1 rfl).1, (ip.1 rfl).2.1]
    | false => exact (ip.2 rfl).1
  have ttl : byteAt left (if isV6 then 7 else 8) = byteAt right (if isV6 then 7 else 8) := by
    cases isV6 with
    | true => exact (ip.1 rfl).2.2
    | false => exact (ip.2 rfl).2
  rw [tos, ttl]
  by_cases isTCP : protocol = tcpProtocolNumber
  · rw [if_pos isTCP, if_pos isTCP, if_pos isTCP, if_pos isTCP, (tcp isTCP).1, (tcp isTCP).2]
  · rw [if_neg isTCP, if_neg isTCP, if_neg isTCP, if_neg isTCP]

/-- Packets with the same header view are of the same flow. -/
theorem keys_eq_of_headerView {right : Bytes} (rightShape : Shape protocol isV6 hdrLen right)
    (view : headerView left = headerView right) :
    udpKeyOf isV6 left = udpKeyOf isV6 right ∧ (protocol = tcpProtocolNumber →
        tcpKeyOf isV6 left = tcpKeyOf isV6 right) := by
  rw [leftShape.headerView_eq, rightShape.headerView_eq] at view
  simp only [HeaderView.mk.injEq, true_and, Option.some.injEq, Prod.mk.injEq] at view
  obtain ⟨src, dst, -, -, ⟨srcPort, dstPort⟩, ack, -⟩ := view
  constructor
  · rw [udpKeyOf, udpKeyOf, src, dst, srcPort, dstPort]
  · intro tcp
    rw [if_pos tcp, if_pos tcp, Option.some.injEq] at ack
    rw [tcpKeyOf, tcpKeyOf, src, dst, srcPort, dstPort, ack]

end

end SingTun.Offload
