import SingTun.Offload.GroTcp

/-!
# What `udpGRO` does to a batch

The counterpart of `Offload.GroTcp`.  `udpGRO` looks at the last item of a
flow only, never removes an item, and only ever appends.
-/

namespace SingTun.Offload

open Foundation Header

/-- The key of an item is that of its first member. -/
structure UDPItemFacts (orig : Nat → Bytes) (item : UDPGROItem) : Prop where
  start : item.iphLen.toNat = headerStart item.key.isV6
  key : item.key = udpKeyOf item.key.isV6 (orig item.entry.first)

/-- The item also describes its buffer. -/
structure UDPItemValid (orig : Nat → Bytes) (offset : Nat) (bufs : List Buf)
    (item : UDPGROItem) : Prop extends UDPItemFacts orig item where
  entry : item.entry.Holds orig offset bufs

theorem UDPItemValid.headersLen_eq
    {orig : Nat → Bytes} {offset : Nat} {bufs : List Buf} {item : UDPGROItem}
    (valid : UDPItemValid orig offset bufs item) :
    (item.iphLen + UInt8.ofNat udphLen).toNat = item.entry.hdrLen := by
  have bounds := valid.entry.first_shape.bounds
  change _ ∧ item.iphLen.toNat + 8 ≤ 100 ∧ _ at bounds
  have value : (UInt8.ofNat udphLen).toNat = 8 := rfl
  rw [UInt8.toNat_add, value, Nat.mod_eq_of_lt (by omega)]
  rfl

/-! ## Merging -/

/-- The effect of a successful merge of packet `k` on its item and buffers. -/
structure UDPCoalesced (orig : Nat → Bytes) (offset k : Nat) (c : UDPCandidate)
    (bufs : List Buf) (item : UDPGROItem) (bufs' : List Buf)
    (item' : UDPGROItem) (target : Buf) : Prop where
  found : bufs[item.bufsIndex.toNat]? = some target
  view : headerView (orig k) = headerView (orig item.entry.first)
  multiple : (target.bytes.length - offset - item.entry.hdrLen) % item.gsoSize.toNat = 0
  size : c.gsoSize.toNat ≤ item.gsoSize.toNat
  room : target.bytes.length + c.gsoSize.toNat + offset ≤ target.cap
  bufs_eq : bufs' = bufs.set item.bufsIndex.toNat
    { bytes := target.bytes ++ (orig k).drop item.entry.hdrLen
      spare := target.spare - c.gsoSize.toNat }
  item_eq : item' = { item with
    numMerged := item.numMerged + 1
    members := item.members ++ [k] }

section Step

variable {orig : Nat → Bytes} {offset k : Nat} {bufs : List Buf}
variable {isV6 : Bool} {c : UDPCandidate} {item : UDPGROItem} {target : Buf}

theorem udpCSumUnusable_eq {pkt : Bytes} {iphLen : UInt8}
    (start : iphLen.toNat = headerStart isV6)
    (long : headerStart isV6 + 8 ≤ pkt.length) (skip : Bool) :
    ∃ unusable, udpCSumUnusable pkt iphLen isV6 skip = some unusable := by
  have small := headerStart_le isV6
  have fieldAt : (iphLen + 6).toNat = headerStart isV6 + 6 := by
    have value : (6 : UInt8).toNat = 6 := rfl
    rw [UInt8.toNat_add, value, start]
    omega
  obtain ⟨valid, valid_eq⟩ := checksumValid_eq ipProtoUDP start
    (show headerStart isV6 ≤ pkt.length by omega)
  unfold udpCSumUnusable
  rw [fieldAt, readU16?_eq_some (by omega), valid_eq]
  simp only [some_bind]
  split_ifs <;> exact ⟨_, rfl⟩

theorem udpInvalidCSum_eq {pkt pktHead : Bytes} (start : item.iphLen.toNat = headerStart isV6)
    (long : headerStart isV6 + 8 ≤ pkt.length)
    (headLong : headerStart isV6 + 8 ≤ pktHead.length)
    (skip : Bool) :
    ∃ invalid, udpInvalidCSum pkt pktHead item isV6 skip =
          some invalid ∧ (invalid = none ∨ invalid = some .itemInvalidCSum ∨
          invalid = some .pktInvalidCSum) := by
  obtain ⟨itemUnusable, item_eq⟩ := udpCSumUnusable_eq start headLong skip
  obtain ⟨pktUnusable, pkt_eq⟩ := udpCSumUnusable_eq start long skip
  have itemInvalid : ∃ invalid, (if item.numMerged = 0 then
        if item.cSumKnownInvalid then some true
        else udpCSumUnusable pktHead item.iphLen isV6 skip
      else some false) = some invalid := by
    rw [item_eq]
    split_ifs <;> exact ⟨_, rfl⟩
  obtain ⟨invalid, invalid_eq⟩ := itemInvalid
  unfold udpInvalidCSum
  rw [invalid_eq, bind_of_eq_some pkt_eq]
  cases invalid with
  | true => exact ⟨_, rfl, .inr (.inl rfl)⟩
  | false =>
    cases pktUnusable with
    | true => exact ⟨_, rfl, .inr (.inr rfl)⟩
    | false => exact ⟨_, rfl, .inl rfl⟩

variable (valid : UDPItemValid orig offset bufs item)
include valid

variable (found : bufs[item.bufsIndex.toNat]? = some target)
include found

variable (describes : c.Describes isV6 (orig k))
include describes

theorem udpPacketsCanCoalesce_spec (flow : item.key = udpKeyOf isV6 (orig k)) :
    ∃ can, udpPacketsCanCoalesce (orig k) (UInt8.ofNat c.iphLen) c.gsoSize item
          bufs offset = some can ∧ (can = .appended →
          headerView (orig k) = headerView (orig item.entry.first) ∧
          (target.bytes.length - offset - item.entry.hdrLen) %
            item.gsoSize.toNat = 0 ∧ c.gsoSize.toNat ≤ item.gsoSize.toNat) := by
  have family : item.key.isV6 = isV6 := by rw [flow]; rfl
  have small := headerStart_le isV6
  have length := describes.length
  obtain ⟨room, aggregate⟩ := valid.entry.aggregate found
  have long := aggregate.long
  have positive : item.gsoSize ≠ 0 := by
    intro zero
    have size : 0 < item.gsoSize.toNat := valid.entry.gsoSize_pos
    rw [zero] at size
    cases size
  have hdrLen : item.entry.hdrLen = c.iphLen + 8 := by
    show item.iphLen.toNat + 8 = _
    rw [valid.start, family, describes.iphLen]
  have headersLen : (UInt8.ofNat c.iphLen + UInt8.ofNat udphLen).toNat = item.entry.hdrLen := by
    rw [hdrLen]
    exact toNat_ofNat_add (by unfold udphLen; rw [describes.iphLen]; omega)
  unfold udpPacketsCanCoalesce packetAt?
  rw [bind_of_eq_some found]
  rw [bind_of_eq_some (sliceFrom?_eq_some room)]
  by_cases headers : ¬ipHeadersCanCoalesce (orig k) (target.bytes.drop offset) = true
  · rw [if_pos headers]
    exact ⟨_, rfl, nofun⟩
  rw [if_neg headers, headersLen, sliceFrom?_eq_some long]
  simp only [some_bind, mod?, if_neg positive, List.length_drop]
  split_ifs with tail smaller
  · exact ⟨_, rfl, nofun⟩
  · exact ⟨_, rfl, nofun⟩
  refine ⟨_, rfl, fun _ => ⟨?_, not_not.mp tail, ?_⟩⟩
  · have firstShape := valid.entry.first_shape
    have firstLong := (valid.entry.lengths _ (Entry.first_mem valid.entry.members_ne_nil)).1
    have same := aggregate.sameHeader firstShape firstLong.le
    have targetShape := firstShape.of_sameHeader same
    have targetView := firstShape.headerView_eq_of_sameHeader same
    change Shape udpProtocolNumber item.key.isV6 _ _ at targetShape firstShape
    rw [family] at targetShape firstShape
    have shape := describes.shape
    rw [← hdrLen] at shape
    have key : udpKeyOf isV6 (orig k) = udpKeyOf isV6 (target.bytes.drop offset) := by
      rw [← (keys_eq_of_headerView firstShape targetShape targetView).1, ← flow, ← family]
      exact valid.key
    refine Eq.trans ?_ targetView.symm
    exact headerView_eq_of_flow shape targetShape (by omega) long key
      (not_not.mp headers) (fun tcp => absurd tcp (by decide))
  · rw [UInt16.lt_iff_toNat_lt] at smaller
    omega

theorem coalesceUDPPackets_spec (family : item.key.isV6 = isV6)
    (view : headerView (orig k) = headerView (orig item.entry.first))
    (multiple : (target.bytes.length - offset - item.entry.hdrLen) % item.gsoSize.toNat = 0)
    (size : c.gsoSize.toNat ≤ item.gsoSize.toNat)
    (skip : Bool) :
    ∃ result item' bufs', coalesceUDPPackets (orig k) k item bufs offset isV6
          skip = some (result, item', bufs') ∧
        (result ≠ .success ∨ (result = .success ∧
            UDPCoalesced orig offset k c bufs item bufs' item' target)) := by
  obtain ⟨room, aggregate⟩ := valid.entry.aggregate found
  have length := describes.length
  have start := valid.start
  rw [family] at start
  have long := aggregate.long
  have hdrLen : item.entry.hdrLen = c.iphLen + 8 := by
    show item.iphLen.toNat + 8 = _
    rw [start, describes.iphLen]
  have startLen : headerStart isV6 + 8 = item.entry.hdrLen := by
    rw [hdrLen, describes.iphLen]
  have payloadLength : ((orig k).drop item.entry.hdrLen).length = c.gsoSize.toNat := by
    rw [List.length_drop]
    omega
  unfold coalesceUDPPackets
  rw [found]
  simp only [some_bind]
  rw [sliceFrom?_eq_some room]
  simp only [some_bind, valid.headersLen_eq]
  by_cases full : (target.cap : Int) - offset - offset <
      (target.bytes.drop offset).length + (orig k).length - item.entry.hdrLen
  · rw [if_pos full]
    exact ⟨_, _, _, rfl, .inl (by decide)⟩
  rw [if_neg full]
  obtain ⟨invalid, invalid_eq, cases⟩ := udpInvalidCSum_eq start
    (show headerStart isV6 + 8 ≤ (orig k).length by omega)
    (show headerStart isV6 + 8 ≤ (target.bytes.drop offset).length by omega) skip
  rw [invalid_eq]
  rw [List.length_drop] at full
  rcases cases with rfl | rfl | rfl
  · simp only [some_bind]
    rw [sliceFrom?_eq_some (by omega)]
    simp only [some_bind]
    rw [Buf.extend?, if_pos (by
      unfold Buf.cap at full
      rw [payloadLength]
      omega)]
    refine ⟨_, _, _, rfl, .inr ⟨rfl, found, view, multiple, size, by omega, ?_, rfl⟩⟩
    rw [payloadLength]
  · exact ⟨_, _, _, rfl, .inl (by decide)⟩
  · exact ⟨_, _, _, rfl, .inl (by decide)⟩

theorem udpGROLast_spec (flow : item.key = udpKeyOf isV6 (orig k)) (skip : Bool) :
    (∃ known, udpGROLast (orig k) k c item bufs offset isV6
        skip = some (.error known)) ∨
      ∃ item' bufs', udpGROLast (orig k) k c item bufs offset isV6
          skip = some (.ok (item', bufs')) ∧
        UDPCoalesced orig offset k c bufs item bufs' item' target := by
  obtain ⟨can, can_eq, sound⟩ := udpPacketsCanCoalesce_spec valid found describes flow
  unfold udpGROLast
  rw [bind_of_eq_some can_eq]
  by_cases appended : can = .appended
  · obtain ⟨view, multiple, size⟩ := sound appended
    obtain ⟨result, item', bufs', computed, cases⟩ :=
      coalesceUDPPackets_spec valid found describes (by rw [flow]; rfl) view
        multiple size skip
    rw [if_pos appended, computed]
    rcases cases with failed | ⟨rfl, merged⟩
    · left
      cases result with
      | success => exact absurd rfl failed
      | insufficientCap => exact ⟨false, rfl⟩
      | pshEnding => exact ⟨false, rfl⟩
      | itemInvalidCSum => exact ⟨false, rfl⟩
      | pktInvalidCSum => exact ⟨true, rfl⟩
    · exact .inr ⟨item', bufs', rfl, merged⟩
  · rw [if_neg appended]
    exact .inl ⟨false, rfl⟩

end Step

/-! ## The whole call -/

/-- The effect of a merge on the table: the last item of the flow changes. -/
structure UDPUpdate
    (orig : Nat → Bytes) (offset k : Nat) (isV6 : Bool) (c : UDPCandidate)
    (bufs : List Buf) (table : UDPGROTable) (bufs' : List Buf)
    (table' : UDPGROTable) (target : Buf) (item item' : UDPGROItem)
    (rest : List UDPGROItem) : Prop where
  merged : UDPCoalesced orig offset k c bufs item bufs' item' target
  flow : item.key = udpKeyOf isV6 (orig k)
  before : table.items.Perm (item :: rest)
  after : table'.items.Perm (item' :: rest)
  deleted : table'.deleted = table.deleted
  pool : table'.itemsPool = table.itemsPool
  last : ∃ items, table.itemsByFlow.lookup (udpKeyOf isV6 (orig k)) = some (items ++ [item]) ∧
      table'.itemsByFlow = table.itemsByFlow.insert (udpKeyOf isV6 (orig k)) (items ++ [item'])

/--
The item that `udpGRO` merges its packet with: the last one of the flow, if
the two can be merged.
-/
def udpGROJoins (bufs : List Buf) (offset pktI : Nat) (table : UDPGROTable)
    (isV6 skip : Bool) (pkt : Bytes) : Option UDPGROItem := do
  let candidate ← (udpCandidate pkt isV6).join
  let items ← if bufs.length = 1 then none else table.itemsByFlow.lookup (udpKeyOf isV6 pkt)
  let item ← items.getLast?
  match ← udpGROLast pkt pktI candidate item bufs offset isV6 skip with
  | .ok _ => some item
  | .error _ => none

/-- What `udpGRO` may return, with the item that its packet joins. -/
inductive UDPOutcome
    (orig : Nat → Bytes) (offset k : Nat) (isV6 : Bool) (bufs : List Buf)
    (table : UDPGROTable) :
    Option UDPGROItem → Option (GROResult × List Buf × UDPGROTable) → Prop
  | noop (left : udpCandidate (orig k) isV6 = some none ∨ bufs.length = 1) :
      UDPOutcome orig offset k isV6 bufs table none (some (.noop, bufs, table))
  | insert (c : UDPCandidate) (describes : c.Describes isV6 (orig k))
      (tabled : udpCandidate (orig k) isV6 = some (some c))
      (several : bufs.length ≠ 1) (known : Bool) :
      UDPOutcome orig offset k isV6 bufs table none ((table.insert (udpKeyOf isV6 (orig k))
          (udpItemOf isV6 (orig k) c k known)).bind fun table =>
            some (.tableInsert, bufs, table))
  | coalesced (c : UDPCandidate) (describes : c.Describes isV6 (orig k))
      (tabled : udpCandidate (orig k) isV6 = some (some c))
      (several : bufs.length ≠ 1)
      {bufs' : List Buf} {table' : UDPGROTable} {target : Buf}
      {item item' : UDPGROItem} {rest : List UDPGROItem}
      (update : UDPUpdate orig offset k isV6 c bufs table bufs' table' target item item' rest) :
      UDPOutcome orig offset k isV6 bufs table (some item) (some (.coalesced, bufs', table'))

/-- No flow of the table is empty. -/
def NonemptyFlows (table : UDPGROTable) : Prop :=
  ∀ key, table.itemsByFlow.lookup key ≠ some []

theorem NonemptyFlows.of_insert
    {table table' : UDPGROTable} {key : UDPFlowKey} {items : List UDPGROItem}
    (flows : NonemptyFlows table)
    (inserted : table'.itemsByFlow = table.itemsByFlow.insert key items)
    (nonempty : items ≠ []) :
    NonemptyFlows table' := by
  intro other
  rw [inserted]
  by_cases same : other = key
  · subst same
    rw [AList.lookup_insert]
    exact fun empty => nonempty (Option.some.inj empty)
  · rw [AList.lookup_insert_ne same]
    exact flows other

theorem udpGRO_spec {orig : Nat → Bytes} {offset k : Nat} {bufs : List Buf} {isV6 : Bool}
    {b : Buf} {table : UDPGROTable} (checked : GROCandidate udpProtocolNumber isV6 (orig k))
    (current : bufs[k]? = some b)
    (room : offset ≤ b.bytes.length)
    (content : b.bytes.drop offset = orig k)
    (valid : ∀ item ∈ table.items, UDPItemValid orig offset bufs item)
    (keyed : table.Keyed UDPGROItem.key)
    (flows : NonemptyFlows table)
    (skip : Bool) :
    UDPOutcome orig offset k isV6 bufs table
      (udpGROJoins bufs offset k table isV6 skip (orig k))
      (udpGRO bufs offset k table isV6 skip) := by
  have packet : packetAt? bufs k offset = some (orig k) := by
    rw [packetAt?, current, some_bind, sliceFrom?_eq_some room, content]
  unfold udpGRO udpGROJoins
  rw [packet]
  simp only [some_bind]
  rcases udpCandidate_spec checked with left | ⟨c, candidate, describes⟩
  · rw [left]
    exact UDPOutcome.noop (.inl left)
  rw [candidate]
  simp only [some_bind, Option.join_some]
  by_cases lone : bufs.length = 1
  · simp only [if_pos lone]
    exact UDPOutcome.noop (.inr lone)
  have long : headerStart isV6 + 8 ≤ (orig k).length := checked.long
  rw [describes.iphLen, newUDPFlowKey_eq long]
  simp only [if_neg lone, some_bind]
  have newItem := newUDPItem_eq describes k
  rw [describes.iphLen] at newItem
  cases found : table.itemsByFlow.lookup (udpKeyOf isV6 (orig k)) with
  | none =>
    simp only [newItem, some_bind]
    exact UDPOutcome.insert c describes candidate lone false
  | some items =>
    obtain ⟨front, item, rfl⟩ : ∃ front item, items = front ++ [item] := by
      rcases List.eq_nil_or_concat items with rfl | ⟨front, item, same⟩
      · exact absurd found (flows _)
      · exact ⟨front, item, by simpa using same⟩
    have member : item ∈ front ++ [item] := by simp
    have flow := keyed _ _ found item member
    have itemValid := valid item (Multimap.mem_items_of_lookup found member)
    obtain ⟨target, targetFound, -⟩ := itemValid.entry.buffer
    simp only [List.getLast?_append, List.getLast?_singleton, Option.some_or, some_bind]
    rcases udpGROLast_spec itemValid targetFound describes flow
        skip with ⟨known, error⟩ | ⟨item', bufs', ok, merged⟩
    · simp only [error, newItem, some_bind]
      exact UDPOutcome.insert c describes candidate lone known
    · have key' : item'.key = udpKeyOf isV6 (orig k) := by
        rw [merged.item_eq]
        exact flow
      have stored : (front ++ [item])[front.length]? = some item := by simp
      obtain ⟨table', rest, updateAt, before, after, deleted, pool, flows'⟩ :=
        GROTable.updateAt_spec found stored item'
      have last : (front ++ [item]).length - 1 = front.length := by simp
      simp only [ok, some_bind, key', last, updateAt]
      refine UDPOutcome.coalesced c describes candidate lone
        ⟨merged, flow, before, after, deleted, pool, front, found, ?_⟩
      rw [flows', List.set_append_right _ _ (le_rfl), Nat.sub_self]
      rfl

/-! ## A merge keeps the item valid -/

namespace UDPCoalesced

variable {orig : Nat → Bytes} {offset k : Nat} {c : UDPCandidate}
variable {bufs bufs' : List Buf} {item item' : UDPGROItem} {target : Buf}
variable (merged : UDPCoalesced orig offset k c bufs item bufs' item' target)

include merged

/-- All other buffers are left alone. -/
theorem frame (j : Nat) (other : j ≠ item.bufsIndex.toNat) : bufs'[j]? = bufs[j]? := by
  rw [merged.bufs_eq, List.getElem?_set_ne (Ne.symm other)]

theorem length_eq : bufs'.length = bufs.length := by
  rw [merged.bufs_eq, List.length_set]

/-- Merging keeps all capacities. -/
theorem caps {isV6 : Bool} (before : UDPItemValid orig offset bufs item)
    (describes : c.Describes isV6 (orig k))
    (flow : item.key = udpKeyOf isV6 (orig k)) :
    ∀ buf ∈ bufs', ∃ old ∈ bufs, buf.cap = old.cap := by
  have family : item.key.isV6 = isV6 := by rw [flow]; rfl
  have length := describes.length
  have room := merged.room
  have hdrLen : item.entry.hdrLen = c.iphLen + 8 := by
    show item.iphLen.toNat + 8 = _
    rw [before.start, family, describes.iphLen]
  intro buf member
  rw [merged.bufs_eq] at member
  rcases List.mem_or_eq_of_mem_set member with old | rfl
  · exact ⟨buf, old, rfl⟩
  · refine ⟨target, List.mem_of_getElem? merged.found, ?_⟩
    unfold Buf.cap at room ⊢
    simp only [List.length_append, List.length_drop]
    omega

theorem entry_eq (small : item.numMerged.toNat < 65535) : item'.entry = item.entry.append k := by
  have counted : (item.numMerged + 1).toNat = item.numMerged.toNat + 1 :=
    toNat_add_of_lt (show _ + 1 < 65536 by omega)
  rw [merged.item_eq]
  simp [UDPGROItem.entry, Entry.append, counted]

theorem valid {isV6 : Bool} (before : UDPItemValid orig offset bufs item)
    (describes : c.Describes isV6 (orig k))
    (flow : item.key = udpKeyOf isV6 (orig k))
    (small : item.numMerged.toNat < 65535) :
    UDPItemValid orig offset bufs' item' := by
  have family : item.key.isV6 = isV6 := by rw [flow]; rfl
  have length := describes.length
  have positive := describes.positive
  have hdrLen : item.entry.hdrLen = c.iphLen + 8 := by
    show item.iphLen.toNat + 8 = _
    rw [before.start, family, describes.iphLen]
  have shape : Shape udpProtocolNumber item.key.isV6 item.entry.hdrLen (orig k) := by
    rw [hdrLen, family]
    exact describes.shape
  have holds := before.entry.append (target.spare - c.gsoSize.toNat)
    merged.found shape ⟨by omega, describes.small⟩ merged.view rfl (fun _ _ => rfl) rfl
  have same := merged.entry_eq small
  have first := Entry.first_append before.entry.members_ne_nil k
  have key' : item'.key = item.key := by rw [merged.item_eq]
  have iphLen' : item'.iphLen = item.iphLen := by rw [merged.item_eq]
  exact
    { entry := by
        rw [same, merged.bufs_eq]
        exact holds
      start := by rw [key', iphLen', before.start]
      key := by rw [key', same, first]; exact before.key }

end UDPCoalesced

end SingTun.Offload
