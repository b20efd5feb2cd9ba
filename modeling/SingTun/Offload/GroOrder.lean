import SingTun.Offload.GroRoundTrip

/-!
# The order of datagrams

A datagram is only merged into the last item of its flow, so the datagrams in
the table keep their order.  A datagram that bypasses the table, for example
one without data, is written where it stands in the batch; a later datagram
may still be merged into an item before it.  The order of a flow is kept
exactly if no datagram joins an item after another one of the flow bypassed
the table.
-/

namespace SingTun.Offload

open Foundation Header List GROState

/-! ## The items of a flow -/

/-- The items under a key, oldest first. -/
def GROState.udpItems (state : GROState) (key : UDPFlowKey) : List UDPGROItem :=
  (state.udpTable.itemsByFlow.lookup key).getD []

/-- The items of every flow have its datagrams in the order of the batch. -/
structure UDPOrdered
    (config : GROConfig) (given : List Buf) (k : Nat) (state : GROState) :
    Prop where
  flows : ∀ key, (state.udpItems key).flatMap UDPGROItem.members = (List.range k).filter fun i =>
        udpTableKey config given.length (batchPacket given config.offset i) = some key
  first : ∀ item ∈ state.udpTable.items, item.entry.first = item.bufsIndex.toNat

namespace UDPOrdered

variable {config : GROConfig} {given : List Buf} {k : Nat}
variable {state state' : GROState}

/-- The datagrams of a flow, with one packet more. -/
theorem filter_succ (key : UDPFlowKey) :
    ((List.range (k + 1)).filter fun i =>
        udpTableKey config given.length (batchPacket given config.offset i) = some key) =
      ((List.range k).filter fun i =>
        udpTableKey config given.length (batchPacket given config.offset i) = some key) ++
        if udpTableKey config given.length
            (batchPacket given config.offset k) = some key then [k] else [] := by
  rw [range_succ, filter_append]
  congr 1
  rw [filter_singleton]
  simp

/-- A packet that bypasses the table. -/
theorem bypass
    (flows : ∀ key, (state.udpItems key).flatMap UDPGROItem.members =
      (List.range k).filter fun i =>
        udpTableKey config given.length (batchPacket given config.offset i) = some key)
    (table : state'.udpTable = state.udpTable)
    (left : udpTableKey config given.length (batchPacket given config.offset k) = none)
    (key : UDPFlowKey) :
    (state'.udpItems key).flatMap UDPGROItem.members = (List.range (k + 1)).filter fun i =>
        udpTableKey config given.length (batchPacket given config.offset i) = some key := by
  rw [filter_succ, left, if_neg nofun, append_nil, ← flows key,
    GROState.udpItems, GROState.udpItems, table]

/-- A packet that joins the items of its flow at their end. -/
theorem join
    (flows : ∀ key, (state.udpItems key).flatMap UDPGROItem.members =
      (List.range k).filter fun i =>
        udpTableKey config given.length (batchPacket given config.offset i) = some key)
    {own : UDPFlowKey} {items : List UDPGROItem}
    (table : state'.udpTable.itemsByFlow = state.udpTable.itemsByFlow.insert own items)
    (tabled : udpTableKey config given.length (batchPacket given config.offset k) = some own)
    (joined : items.flatMap UDPGROItem.members =
      (state.udpItems own).flatMap UDPGROItem.members ++ [k])
    (key : UDPFlowKey) :
    (state'.udpItems key).flatMap UDPGROItem.members = (List.range (k + 1)).filter fun i =>
        udpTableKey config given.length (batchPacket given config.offset i) = some key := by
  rw [filter_succ, tabled, GROState.udpItems, table]
  by_cases same : key = own
  · subst same
    rw [AList.lookup_insert, Option.getD_some, joined, if_pos rfl, flows key]
  · have other : some own ≠ some key := fun equal => same (Option.some.inj equal).symm
    rw [AList.lookup_insert_ne same, if_neg other, append_nil, ← flows key]
    rfl

/-- Every step keeps the order in the table. -/
theorem step {noops : Multiset Nat} (ordered : UDPOrdered config given k state)
    (inv : GROInv config given k state noops)
    (small : k < 65536)
    (step : GROStep config given k state state') :
    UDPOrdered config given (k + 1) state' := by
  constructor
  · have length := inv.entryInv.length
    cases step with
    | noop deletions current left =>
      exact bypass ordered.flows rfl (length ▸ left)
    | insertTCP deletions left describes inserted =>
      exact bypass ordered.flows rfl (length ▸ left)
    | mergeTCP deletions left describes update =>
      exact bypass ordered.flows rfl (length ▸ left)
    | insertUDP tabled describes inserted =>
      obtain ⟨-, -, -, flows⟩ := GROTable.insert_some inserted
      refine join ordered.flows flows (length ▸ tabled) ?_
      rw [flatMap_append]
      rfl
    | @mergeUDP rest table' isV6 c bufs' target item item' tabled describes
        update =>
        obtain ⟨items, found, flows⟩ := update.last
        refine join ordered.flows flows (length ▸ tabled) ?_
        rw [GROState.udpItems, found, Option.getD_some, flatMap_append,
          flatMap_append, append_assoc, update.merged.item_eq]
        simp
  · intro item member
    cases step.udpItem_origin member with
    | old older => exact ordered.first item older
    | inserted describes => exact (UInt16.toNat_ofNat_of_lt small).symm
    | @merged isV6 c bufs' target old new older describes flow coalesced =>
      have before := inv.udpValid old older
      have merged := inv.entryInv.numMerged_lt (udpEntry_mem older)
      change old.numMerged.toNat < k at merged
      have index : item.bufsIndex = old.bufsIndex := by
        rw [coalesced.item_eq]
      rw [coalesced.entry_eq (by omega), index, Entry.first_append before.entry.members_ne_nil]
      exact ordered.first old older

end UDPOrdered

/-- The order in the table holds in every state of a run. -/
theorem GRORun.udpOrdered {config : GROConfig} {given : List Buf} {k : Nat} {state : GROState}
    (run : GRORun config given k state)
    (small : given.length ≤ 65536) :
    UDPOrdered config given k state := by
  induction run with
  | start => exact ⟨fun _ => rfl, nofun⟩
  | step run first valid step ih =>
    obtain ⟨noops, inv⟩ := run.inv small
    have inside := (List.getElem?_eq_some_iff.mp first).1
    exact ih.step inv (by omega) step

section Tabled

variable {config : GROConfig} {given : List Buf} {k : Nat}
variable {state : GROState} {noops : Multiset Nat} {item : UDPGROItem}
variable (ordered : UDPOrdered config given k state)
include ordered

variable (inv : GROInv config given k state noops)
include inv

/-- The items of the flow of an item, as far as its order is concerned. -/
theorem UDPOrdered.item_spec (member : item ∈ state.udpTable.items) :
    item.members ∈ (state.udpItems item.key).map UDPGROItem.members ∧
      ((state.udpItems item.key).map UDPGROItem.members).flatten.Pairwise (· < ·) := by
  obtain ⟨key, list, found, inside⟩ := Multimap.exists_lookup_of_mem_items member
  have own : item.key = key := inv.udpKeyed key list found item inside
  constructor
  · apply mem_map_of_mem
    rw [GROState.udpItems, own, found]
    exact inside
  · rw [← flatMap_def, ordered.flows]
    exact pairwise_lt_range.filter _

theorem UDPOrdered.members_sorted (member : item ∈ state.udpTable.items) :
    item.members.Pairwise (· < ·) := by
  obtain ⟨listed, sorted⟩ := ordered.item_spec inv member
  exact (pairwise_flatten.mp sorted).1 _ listed

/-- The first member of an item is the one it is written at. -/
theorem UDPOrdered.index_le (member : item ∈ state.udpTable.items) {i : Nat}
    (inside : i ∈ item.members) :
    item.bufsIndex.toNat ≤ i := by
  have sorted := ordered.members_sorted inv member
  have first := ordered.first item member
  change item.members.headD 0 = _ at first
  cases members : item.members with
  | nil =>
    rw [members] at inside
    cases inside
  | cons head tail =>
    rw [members] at first sorted inside
    rw [← first]
    rcases mem_cons.mp inside with rfl | later
    · exact le_rfl
    · exact Nat.le_of_lt ((pairwise_cons.mp sorted).1 i later)

omit inv in
/-- The members of an item are the packets of its flow in the table. -/
theorem UDPOrdered.mem_flow_iff (key : UDPFlowKey) (i : Nat) :
    i ∈ ((state.udpItems key).map UDPGROItem.members).flatten ↔
      i < k ∧ udpTableKey config given.length (batchPacket given config.offset i) = some key := by
  rw [← flatMap_def, ordered.flows, mem_filter, mem_range, decide_eq_true_eq]

theorem UDPOrdered.tableKey_of_mem (member : item ∈ state.udpTable.items) {i : Nat}
    (inside : i ∈ item.members) :
    udpTableKey config given.length (batchPacket given config.offset i) = some item.key := by
  obtain ⟨listed, -⟩ := ordered.item_spec inv member
  exact ((ordered.mem_flow_iff item.key i).mp (mem_flatten.mpr ⟨_, listed, inside⟩)).2

end Tabled

/-! ## Flows -/

/-- Who talks to whom. -/
structure UDPFlow where
  ipVersion : UInt8
  srcAddr : Bytes
  dstAddr : Bytes
  ports : Option (UInt16 × UInt16)
  deriving DecidableEq, Repr

/-- The flow of a packet; `none` when it is not a UDP packet. -/
def udpFlowOf (pkt : Bytes) : Option UDPFlow :=
  if (headerView pkt).protocol = udpProtocolNumber then
    some
      { ipVersion := (headerView pkt).ipVersion
        srcAddr := (headerView pkt).srcAddr
        dstAddr := (headerView pkt).dstAddr
        ports := (headerView pkt).ports }
  else none

variable {hdrLen count : Nat} {pkt : Bytes} {config : GROConfig}

theorem Shape.udpFlowOf_eq_none {isV6 : Bool} (shape : Shape tcpProtocolNumber isV6 hdrLen pkt) :
    udpFlowOf pkt = none := by
  have protocol : (headerView pkt).protocol = tcpProtocolNumber := by
    rw [shape.headerView_eq]
  rw [udpFlowOf, protocol]
  exact if_neg (by decide)

/-- The flow of a packet, read at its places. -/
theorem Shape.udpFlowOf_eq {isV6 : Bool}
    (shape : Shape udpProtocolNumber isV6 hdrLen pkt) :
    udpFlowOf pkt = some
      { ipVersion := if isV6 then 6 else 4
        srcAddr := window pkt (srcAddrOffset isV6) (addrLen isV6)
        dstAddr := window pkt (srcAddrOffset isV6 + addrLen isV6) (addrLen isV6)
        ports := some (readU16 pkt (headerStart isV6), readU16 pkt (headerStart isV6 + 2)) } := by
  rw [udpFlowOf, shape.headerView_eq]
  exact if_pos rfl

theorem shape_of_tableKey {key : UDPFlowKey} (tabled : udpTableKey config count pkt = some key) :
    ∃ isV6 hdrLen, Shape udpProtocolNumber isV6 hdrLen pkt ∧ key = udpKeyOf isV6 pkt := by
  unfold udpTableKey at tabled
  cases kind : (packetIsGROCandidate pkt config.gro).kind with
  | none =>
    rw [kind] at tabled
    cases tabled
  | some answer =>
    obtain ⟨protocol, isV6⟩ := answer
    rw [kind] at tabled
    simp only at tabled
    by_cases both : protocol = udpProtocolNumber ∧ count ≠ 1
    · rw [if_pos both] at tabled
      obtain ⟨rfl, -⟩ := both
      rcases udpCandidate_spec (packetIsGROCandidate_spec kind) with
        refused | ⟨c, candidate, describes⟩
      · rw [refused] at tabled
        cases tabled
      · rw [candidate] at tabled
        exact ⟨isV6, _, describes.shape, (Option.some.inj tabled).symm⟩
    · rw [if_neg both] at tabled
      cases tabled

/-- Packets of one flow that go to the table have the same key. -/
theorem tableKey_eq_of_flow {left right : Bytes} {leftKey rightKey : UDPFlowKey}
    (leftTabled : udpTableKey config count left = some leftKey)
    (rightTabled : udpTableKey config count right = some rightKey)
    (flow : udpFlowOf left = udpFlowOf right) :
    leftKey = rightKey := by
  obtain ⟨isV6, hdrLen, leftShape, rfl⟩ := shape_of_tableKey leftTabled
  obtain ⟨isV6', hdrLen', rightShape, rfl⟩ := shape_of_tableKey rightTabled
  rw [leftShape.udpFlowOf_eq, rightShape.udpFlowOf_eq] at flow
  simp only [Option.some.injEq, UDPFlow.mk.injEq, Prod.mk.injEq] at flow
  obtain ⟨version, src, dst, srcPort, dstPort⟩ := flow
  obtain rfl : isV6 = isV6' := by
    cases isV6 <;> cases isV6' <;> first | rfl | cases version
  rw [udpKeyOf, udpKeyOf, src, dst, srcPort, dstPort]

/-! ## The order of a flow -/

section

variable (config : GROConfig) (bufs : List Buf)

/--
Walking the written indices in order, the datagrams of the flow come in the
order they had in the batch.
-/
def FlowOrderKept (final : GROState) (flow : UDPFlow) : Prop :=
  (final.toWrite.flatMap final.membersOf).filter
      (fun i => udpFlowOf (batchPacket bufs config.offset i) = some flow) =
    (List.range bufs.length).filter
      (fun i => udpFlowOf (batchPacket bufs config.offset i) = some flow)

/-- Between two datagrams of an item another one of the flow bypassed the table. -/
def BypassInside (state : GROState) : Prop :=
  ∃ item ∈ state.udpTable.items, ∃ last ∈ item.members, ∃ i,
    item.bufsIndex.toNat < i ∧ i < last ∧
      udpFlowOf (batchPacket bufs config.offset i) =
        udpFlowOf (batchPacket bufs config.offset item.bufsIndex.toNat) ∧
      udpTableKey config bufs.length (batchPacket bufs config.offset i) = none

/--
At no turn of the loop a datagram joins an item after another one of its flow
bypassed the table.
-/
def NoBypassInside : Prop :=
  ∀ k before, GROTurn config bufs k before → ∀ item, groJoins config before k = some item →
    ∀ i, item.bufsIndex.toNat < i → i < k →
      udpFlowOf (batchPacket bufs config.offset i) =
        udpFlowOf (batchPacket bufs config.offset k) →
      udpTableKey config bufs.length (batchPacket bufs config.offset i) ≠ none

end

section Flow

variable {config : GROConfig} {given : List Buf} {state state' : GROState}
variable {noops : Multiset Nat}

/-- All members of an entry are of one flow. -/
theorem Entry.Holds.udpFlowOf_eq
    {orig : Nat → Bytes} {offset : Nat} {bufs : List Buf} {entry : Entry}
    (holds : entry.Holds orig offset bufs) {i : Nat} (inside : i ∈ entry.members) :
    udpFlowOf (orig i) = udpFlowOf (orig entry.index) := by
  have view := (holds.views i inside).trans (holds.views entry.index holds.index_mem).symm
  rw [udpFlowOf, view]
  rfl

/-- What a step does to the datagrams inside an item. -/
theorem GROInv.bypassInside_step {k : Nat} (inv : GROInv config given k state noops)
    (small : k < 65536)
    (step : GROStep config given k state state') :
    BypassInside config given state' ↔ BypassInside config given state ∨
      ∃ item, groJoins config state k = some item ∧ ∃ i, item.bufsIndex.toNat < i ∧ i < k ∧
        udpFlowOf (batchPacket given config.offset i) =
          udpFlowOf (batchPacket given config.offset k) ∧
        udpTableKey config given.length (batchPacket given config.offset i) = none := by
  unfold BypassInside
  cases step with
  | noop deletions current left tried => simp [tried.joins_eq]
  | insertTCP deletions left describes inserted tried => simp [tried.joins_eq]
  | mergeTCP deletions left describes update tried => simp [tried.joins_eq]
  | @insertUDP table' isV6 c known tabled describes inserted tried =>
    obtain ⟨items, -⟩ := GROTable.insert_some inserted
    simp only [tried.joins_eq, items.mem_iff, exists_mem_cons_iff, reduceCtorEq, false_and,
      exists_false, or_false]
    refine or_iff_right ?_
    -- A new item has no other member than the one it is written at.
    rintro ⟨last, inside, i, above, below, -⟩
    obtain rfl := mem_singleton.mp inside
    change (UInt16.ofNat last).toNat < i at above
    rw [UInt16.toNat_ofNat', Nat.mod_eq_of_lt small] at above
    omega
  | @mergeUDP rest table' isV6 c bufs' target item item' tabled describes update tried =>
    have holds := inv.entryInv.holds _ (udpEntry_mem
      (update.before.mem_iff.mpr mem_cons_self))
    have flow : udpFlowOf (batchPacket given config.offset k) =
        udpFlowOf (batchPacket given config.offset item.bufsIndex.toNat) := by
      have view := update.merged.view.trans (holds.views _ holds.index_mem).symm
      rw [udpFlowOf, view]
      rfl
    simp only [tried.joins_eq, update.before.mem_iff, update.after.mem_iff,
      exists_mem_cons_iff, Option.some.injEq, exists_eq_left', update.merged.item_eq,
      mem_append, mem_singleton, or_and_right, exists_or, exists_eq_left, flow]
    exact or_right_comm

variable (inv : GROInv config given given.length state noops)
include inv

theorem GROInv.udpFlowOf_members (w : Nat) {i : Nat} (inside : i ∈ state.membersOf w) :
    udpFlowOf (batchPacket given config.offset i) =
      udpFlowOf (batchPacket given config.offset w) := by
  by_cases other : ∀ entry ∈ state.entries, entry.index ≠ w
  · rw [membersOf_other other] at inside
    rw [mem_singleton.mp inside]
  · push Not at other
    obtain ⟨entry, member, rfl⟩ := other
    rw [inv.membersOf_entry member] at inside
    exact (inv.entryInv.holds entry member).udpFlowOf_eq inside

/-- The group of a UDP packet is the packet alone or a UDP item. -/
theorem GROInv.group_of_flow (w : Nat) {flow : UDPFlow}
    (udp : udpFlowOf (batchPacket given config.offset w) = some flow) :
    state.membersOf w = [w] ∨ ∃ item ∈ state.udpTable.items,
        item.bufsIndex.toNat = w ∧ state.membersOf w = item.members := by
  by_cases other : ∀ entry ∈ state.entries, entry.index ≠ w
  · exact .inl (membersOf_other other)
  · push Not at other
    obtain ⟨entry, member, rfl⟩ := other
    rcases Multiset.mem_add.mp member with tcp | udpEntry
    · obtain ⟨item, inside, rfl⟩ := Multiset.mem_map.mp tcp
      have holds := inv.entryInv.holds _ member
      have shape := holds.shapes _ holds.index_mem
      rw [Shape.udpFlowOf_eq_none shape] at udp
      cases udp
    · obtain ⟨item, inside, rfl⟩ := Multiset.mem_map.mp udpEntry
      exact .inr ⟨item, inside, rfl, inv.membersOf_entry member⟩

/-- What a batch does to the order of its flows. -/
theorem flowOrderKept_iff_of_inv (ordered : UDPOrdered config given given.length state) :
    (∀ flow, FlowOrderKept config given state flow) ↔ ¬BypassInside config given state := by
  have perm := inv.flatMap_membersOf
  have written : ∀ item ∈ state.udpTable.items, item.bufsIndex.toNat ∈ state.toWrite := by
    intro item member
    have listed : item.entry.index ∈ (state.toWrite : Multiset Nat) := by
      rw [inv.entryInv.written_eq]
      exact Multiset.mem_add.mpr (.inr (Multiset.mem_map_of_mem Entry.index
        (udpEntry_mem member)))
    exact listed
  -- The abstract criterion, for the packets of one flow.
  have criterion : ∀ flow, FlowOrderKept config given state flow ↔
      ∀ w ∈ state.toWrite, ∀ high ∈ state.membersOf w,
        decide (udpFlowOf (batchPacket given config.offset high) = some flow) →
        ∀ middle, decide (udpFlowOf (batchPacket given config.offset middle) = some flow) →
          w < middle → middle < high → middle ∈ state.membersOf w := by
    intro flow
    refine filter_flatMap_eq_iff perm inv.entryInv.sorted (fun w _ => inv.mem_membersOf w) ?_ ?_ ?_
    · intro w _ i inside
      rw [inv.udpFlowOf_members w inside]
    · intro w _ i inside kind
      have udp := of_decide_eq_true kind
      rw [inv.udpFlowOf_members w inside] at udp
      rcases inv.group_of_flow w udp with alone | ⟨item, member, rfl, group⟩
      · rw [alone] at inside
        exact (mem_singleton.mp inside).ge
      · rw [group] at inside
        exact ordered.index_le inv member inside
    · intro w _
      by_cases udp : udpFlowOf (batchPacket given config.offset w) = some flow
      · rcases inv.group_of_flow w udp with alone | ⟨item, member, rfl, group⟩
        · rw [alone]
          exact (pairwise_singleton _ _).filter _
        · rw [group]
          exact (ordered.members_sorted inv member).filter _
      · rw [filter_eq_nil_iff.mpr]
        · exact List.Pairwise.nil
        · intro i inside
          rw [inv.udpFlowOf_members w inside]
          simpa using udp
  constructor
  · rintro kept ⟨item, member, last, inside, i, above, below, flow, bypassed⟩
    have tabled := ordered.tableKey_of_mem inv member inside
    obtain ⟨isV6, hdrLen, shape, -⟩ := shape_of_tableKey tabled
    have group : state.membersOf item.bufsIndex.toNat = item.members :=
      inv.membersOf_entry (udpEntry_mem member)
    have lastFlow := inv.udpFlowOf_members item.bufsIndex.toNat (group ▸ inside)
    have own := lastFlow.symm.trans shape.udpFlowOf_eq
    have inGroup := (criterion _).mp (kept _) _ (written item member) last
      (group ▸ inside) (decide_eq_true (lastFlow.trans own)) i
      (decide_eq_true (flow.trans own)) above below
    rw [group] at inGroup
    rw [ordered.tableKey_of_mem inv member inGroup] at bypassed
    cases bypassed
  · intro clean flow
    refine (criterion flow).mpr ?_
    intro w _ high inside highKind middle middleKind above below
    have highFlow := of_decide_eq_true highKind
    have middleFlow := of_decide_eq_true middleKind
    have wFlow := (inv.udpFlowOf_members w inside).symm.trans highFlow
    rcases inv.group_of_flow w wFlow with alone | ⟨item, member, rfl, group⟩
    · rw [alone] at inside
      have same := mem_singleton.mp inside
      omega
    · rw [group] at inside ⊢
      have highBound := (mem_range.mp (perm.mem_iff.mp
        (mem_flatMap.mpr ⟨_, written item member, group ▸ inside⟩)))
      have tabled : udpTableKey config given.length
          (batchPacket given config.offset middle) ≠ none := fun bypassed =>
        clean ⟨item, member, high, inside, middle, above, below, middleFlow.trans wFlow.symm,
          bypassed⟩
      obtain ⟨key, middleKey⟩ := Option.ne_none_iff_exists'.mp tabled
      have itemKey := ordered.tableKey_of_mem inv member
        (inv.entryInv.holds _ (udpEntry_mem member)).index_mem
      obtain rfl : key = item.key := tableKey_eq_of_flow middleKey itemKey
        (middleFlow.trans wFlow.symm)
      obtain ⟨listed, sorted⟩ := ordered.item_spec inv member
      exact mem_of_between sorted listed
        (inv.entryInv.holds _ (udpEntry_mem member)).index_mem inside
        ((ordered.mem_flow_iff _ _).mpr ⟨by omega, middleKey⟩) above below

end Flow

/--
The order of all flows is kept exactly if no datagram joins an item after
another one of its flow bypassed the table.  The members of a written index
are what reading it back gives, one datagram for each member and in their
order.
-/
theorem flowOrderKept_iff_noBypassInside (config : GROConfig) (bufs : List Buf)
    (tcpOrder : MapOrder TCPFlowKey TCPGROItem)
    (udpOrder : MapOrder UDPFlowKey UDPGROItem)
    (final : GROState)
    (batch : bufs.length ≤ 65536)
    (handled : handleGRO config tcpOrder udpOrder (GROState.new bufs) = some ([], final)) :
    ((∀ flow, FlowOrderKept config bufs final flow) ↔ NoBypassInside config bufs) ∧
    ((∀ buf ∈ bufs, config.offset + 1 < buf.bytes.length ∧ buf.cap ≤ config.offset + 65536) →
      ∀ w ∈ final.toWrite, udpFlowOf (batchPacket bufs config.offset w) ≠ none →
        ∃ buf packets, final.bufs[w]? = some buf ∧
          SplitsInto config.order (buf.bytes.drop (config.offset - virtioNetHdrLen)) packets ∧
          packets.map viewOf = (final.membersOf w).map
            fun i => viewOf (batchPacket bufs config.offset i)) := by
  obtain ⟨state, loop, result⟩ := handleGRO_spec batch handled
  obtain ⟨noops, inv⟩ := result.run.inv batch
  constructor
  · have criterion := flowOrderKept_iff_of_inv inv (result.run.udpOrdered batch)
    rw [exists_turn_iff batch (by rintro ⟨item, ⟨⟩, -⟩)
      (fun inside inv => inv.bypassInside_step (by omega)) loop] at criterion
    unfold FlowOrderKept at criterion ⊢
    rw [result.toWrite, result.membersOf, criterion]
    simp only [not_exists, not_and, NoBypassInside, ne_eq]
  · intro bounds w member udp
    rw [result.toWrite] at member
    have bound := inv.entryInv.accounts.lt_of_mem_written inv.entryInv.own member
    -- Only TCP items are deleted.
    have kept : w ∉ state.lost := by
      intro lost
      obtain ⟨item, deleted, rfl⟩ := Multiset.mem_map.mp lost
      obtain ⟨k, before, turn, attempt, made, -, rfl⟩ :=
        (mem_deleted_iff batch loop item).mp deleted
      obtain ⟨noops, earlier⟩ := turn.inv batch
      have holds := (earlier.tcpValid _ (groAttempts_mem made)).entry
      exact udp (Shape.udpFlowOf_eq_none (holds.shapes _ holds.index_mem))
    obtain ⟨buf, packets, found, splits, views, -⟩ :=
      result.splits inv (result.run.headroom (by omega)) (fun buf inside => (bounds buf inside).1)
        (result.run.chained batch fun buf inside => (bounds buf inside).2) member kept
    rw [result.membersOf]
    exact ⟨buf, packets, found, splits, views⟩

theorem flowOrderKept_iff_noBypassInside_sample :
    ∃ final, handleGRO (sampleConfig true) (.stored _ _) (.stored _ _)
          (GROState.new sampleBatch) = some ([], final) ∧
        final.toWrite.flatMap final.membersOf = [0, 2, 1] ∧
        ∀ flow, FlowOrderKept (sampleConfig true) sampleBatch final flow := by
  obtain ⟨final, handled, members⟩ := handleGRO_observed (sampleConfig true) sampleBatch
    (fun final => final.toWrite.flatMap final.membersOf) [0, 2, 1] (by decide +kernel)
  refine ⟨final, handled, members, ?_⟩
  refine (flowOrderKept_iff_noBypassInside (sampleConfig true) sampleBatch
    (.stored _ _) (.stored _ _) final (by decide) handled).1.mpr ?_
  rintro k before ⟨inside, -⟩ item - i above below flow
  -- The packet in the middle is of no flow.
  have middle : i = 1 ∧ k = 2 := by
    change k < 3 at inside
    omega
  obtain ⟨rfl, rfl⟩ := middle
  exact absurd flow (by decide +kernel)

/-! ## A datagram that is overtaken -/

/-- The datagram in the middle has no data. -/
def overtakenBatch : List Buf :=
  [sampleBuf (sampleDatagramOf 0xcd 203 16 [1, 2]), sampleBuf (sampleDatagramOf 0xcf 204 22 []),
    sampleBuf (sampleDatagramOf 0xcd 201 14 [3, 4])]

/-- The data of the packets that reading a buffer gives. -/
def readPayloads (buf : Buf) : List Bytes :=
  match handleVirtioRead .little buf.bytes
      (List.replicate 3 (List.replicate 64 0)) [0, 0, 0] 0 with
  | some (.ok result) =>
    (result.packets 0).map fun packet => (viewOf packet).payload
  | _ => []

/-- Three datagrams of one flow: the last one comes before the second. -/
theorem flowOrderKept_fails_overtaken :
    ∃ final flow, handleGRO (sampleConfig true) (.stored _ _) (.stored _ _)
          (GROState.new overtakenBatch) = some ([], final) ∧
        (∀ buf ∈ overtakenBatch, udpFlowOf (buf.bytes.drop 10) = some flow) ∧
        final.toWrite.flatMap final.membersOf = [0, 2, 1] ∧ final.toWrite.flatMap
            (fun w => (final.bufs[w]?.map readPayloads).getD []) = [[1, 2], [3, 4], []] ∧
        ¬FlowOrderKept (sampleConfig true) overtakenBatch final flow := by
  obtain ⟨final, handled, outcome⟩ := handleGRO_observed (sampleConfig true) overtakenBatch
    (fun final => (final.toWrite.flatMap final.membersOf, final.toWrite.flatMap
      (fun w => (final.bufs[w]?.map readPayloads).getD [])))
    ([0, 2, 1], [[1, 2], [3, 4], []]) (by decide +kernel)
  obtain ⟨members, payloads⟩ := Prod.mk.inj outcome
  refine ⟨final,
    { ipVersion := 4
      srcAddr := [10, 0, 0, 1]
      dstAddr := [10, 0, 0, 2]
      ports := some (8080, 53) },
    handled, by decide +kernel, members, payloads, ?_⟩
  intro kept
  rw [FlowOrderKept, members] at kept
  exact absurd kept (by decide +kernel)

end SingTun.Offload
