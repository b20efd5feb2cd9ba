import SingTun.Foundation.Grouping
import SingTun.Offload.GroUdp

/-!
# The invariant of a batch

`EntryInv` relates the buffers, the items of both tables and the list of
indices to write after the first `k` packets of a batch to the buffers the
batch started with.  Its rules are one for each thing that can happen to a
packet: it is left alone, starts an item, or is merged; and one for an item
that is deleted.  `GROInv` adds what is specific to the two tables, and every
step of `handleGRO` keeps it.
-/

namespace SingTun.Offload

open Foundation Header List Option GROState

/-! ## Entries and buffers -/

/-- The packet at an index of a batch. -/
def batchPacket (bufs : List Buf) (offset i : Nat) : Bytes :=
  match bufs[i]? with
  | some buf => buf.bytes.drop offset
  | none => []

theorem batchPacket_eq {bufs : List Buf} {i : Nat} {buf : Buf} (found : bufs[i]? = some buf)
    (offset : Nat) :
    batchPacket bufs offset i = buf.bytes.drop offset := by
  rw [batchPacket, found]

theorem map_batchPacket (bufs : List Buf) (offset : Nat) :
    (List.range bufs.length).map (batchPacket bufs offset) =
      bufs.map fun buf => buf.bytes.drop offset := by
  refine ext_getElem? fun i => ?_
  rw [List.getElem?_map, List.getElem?_map]
  rcases Nat.lt_or_ge i bufs.length with inside | outside
  · have found := List.getElem?_eq_getElem inside
    rw [List.getElem?_range inside, found]
    exact congrArg some (batchPacket_eq found offset)
  · rw [List.getElem?_eq_none outside, List.getElem?_eq_none (by simpa)]
    rfl

/-- A buffer with a header right before its packet. -/
def withHeader (order : ByteOrder) (hdr : VirtioNetHdr) (offset : Nat) (buf : Buf) :
    Buf :=
  { buf with
    bytes := buf.bytes.take (offset - virtioNetHdrLen) ++
      (hdr.bytes order ++ buf.bytes.drop offset) }

theorem encodeBefore_eq (order : ByteOrder) (hdr : VirtioNetHdr) {buf : Buf} {offset : Nat}
    (headroom : virtioNetHdrLen ≤ offset)
    (room : offset ≤ buf.bytes.length) :
    encodeBefore order hdr buf offset = some (some (withHeader order hdr offset buf)) := by
  unfold encodeBefore
  rw [if_neg (by omega), bind_of_eq_some (sliceFrom?_eq_some (by omega))]
  rw [VirtioNetHdr.encode_eq _ _ _ (by rw [length_drop]; omega),
    drop_drop, Nat.sub_add_cancel headroom]
  rfl

theorem length_withHeader {order : ByteOrder} {hdr : VirtioNetHdr} {buf : Buf} {offset : Nat}
    (headroom : virtioNetHdrLen ≤ offset)
    (room : offset ≤ buf.bytes.length) :
    (withHeader order hdr offset buf).bytes.length = buf.bytes.length := by
  show (_ ++ _ : Bytes).length = _
  rw [length_append, length_append, VirtioNetHdr.length_bytes,
    length_take, length_drop]
  omega

/-- The group of an entry. -/
def Entry.group (entry : Entry) : Nat × Multiset Nat :=
  (entry.index, entry.members)

/-- The state of a batch after its first `k` packets. -/
structure EntryInv
    (config : GROConfig) (given : List Buf) (k : Nat) (bufs : List Buf)
    (toWrite : List Nat) (noops lost : Multiset Nat)
    (entries : Multiset Entry) : Prop where
  length : bufs.length = given.length
  later : ∀ i, k ≤ i → bufs[i]? = given[i]?
  caps : ∀ buf ∈ bufs, ∃ buf₀ ∈ given, buf.cap = buf₀.cap
  holds : ∀ entry ∈ entries, entry.Holds (batchPacket given config.offset) config.offset bufs
  accounts : Accounts toWrite noops lost (entries.map Entry.group) k
  sorted : toWrite.Pairwise (· < ·)
  noops_eq : ∀ w ∈ noops, ∃ buf, given[w]? = some buf ∧
    bufs[w]? = some (withHeader config.order .zero config.offset buf)
  lost_eq : ∀ w ∈ lost, bufs[w]? = given[w]?
  single_eq : ∀ entry ∈ entries, entry.numMerged = 0 → bufs[entry.index]? = given[entry.index]?

namespace EntryInv

variable {config : GROConfig} {given bufs bufs' : List Buf} {k : Nat}
variable {toWrite : List Nat} {noops lost : Multiset Nat}
variable {entries rest : Multiset Entry} {entry entry' : Entry}

section

variable (inv : EntryInv config given k bufs toWrite noops lost entries)
include inv

theorem own : ∀ group ∈ entries.map Entry.group, group.1 ∈ group.2 := by
  intro group member
  obtain ⟨entry, inside, rfl⟩ := Multiset.mem_map.mp member
  exact (inv.holds entry inside).index_mem

theorem index_lt (member : entry ∈ entries) : entry.index < k :=
  inv.accounts.lt_of_mem (Multiset.mem_map_of_mem Entry.group member)
    (inv.holds entry member).index_mem

theorem numMerged_lt (member : entry ∈ entries) : entry.numMerged < k := by
  have card := inv.accounts.card_members_le (Multiset.mem_map_of_mem Entry.group member)
  have count := (inv.holds entry member).count
  change entry.members.length ≤ k at card
  omega

/-- What is written are the packets left alone, lost or starting an item. -/
theorem written_eq : (toWrite : Multiset Nat) = noops + lost + entries.map Entry.index := by
  rw [inv.accounts.written_eq, Multiset.map_map]
  rfl

theorem nodup_written : (noops + lost + entries.map Entry.index).Nodup :=
  inv.written_eq ▸ inv.accounts.nodup_written inv.own

theorem nodup_index : (entries.map Entry.index).Nodup :=
  Multiset.nodup_of_le (Multiset.le_add_left _ _) inv.nodup_written

/-- `toWrite` grows by the next index. -/
theorem sorted_concat : (toWrite ++ [k]).Pairwise (· < ·) := by
  rw [pairwise_append]
  refine ⟨inv.sorted, pairwise_singleton _ _, ?_⟩
  intro w member other last
  rw [mem_singleton.mp last]
  exact inv.accounts.lt_of_mem_written inv.own member

omit inv in
theorem coe_concat (toWrite : List Nat) (k : Nat) :
    ((toWrite ++ [k] : List Nat) : Multiset Nat) = k ::ₘ (toWrite : Multiset Nat) := by
  rw [← Multiset.coe_add, add_comm]
  rfl

/-- The next packet is left alone and gets a zero header. -/
theorem skip {buf : Buf} (current : bufs[k]? = some buf)
    (headroom : virtioNetHdrLen ≤ config.offset)
    (room : config.offset ≤ buf.bytes.length) :
    EntryInv config given (k + 1)
      (bufs.set k (withHeader config.order .zero config.offset buf))
      (toWrite ++ [k]) (k ::ₘ noops) lost entries := by
  have inside : k < bufs.length := (List.getElem?_eq_some_iff.mp current).1
  have keep : ∀ j, j ≠ k → (bufs.set k (withHeader config.order .zero config.offset buf))[j]? =
        bufs[j]? :=
    fun j other => List.getElem?_set_ne (Ne.symm other)
  refine
    { length := by rw [length_set, inv.length]
      later := fun i after =>
        (keep i (by omega)).trans (inv.later i (by omega))
      caps := ?_
      holds := fun entry member => (inv.holds entry member).frame
        (keep _ (Nat.ne_of_lt (inv.index_lt member)))
      accounts := ?_
      sorted := inv.sorted_concat
      noops_eq := ?_
      lost_eq := fun w member =>
        (keep w (Nat.ne_of_lt (inv.accounts.lt_of_mem_dissolved member))).trans
          (inv.lost_eq w member)
      single_eq := fun entry member single =>
        (keep _ (Nat.ne_of_lt (inv.index_lt member))).trans (inv.single_eq entry member single) }
  · intro other member
    rcases mem_or_eq_of_mem_set member with old | rfl
    · exact inv.caps other old
    · obtain ⟨first, firstMember, same⟩ := inv.caps buf (mem_of_getElem? current)
      refine ⟨first, firstMember, Eq.trans ?_ same⟩
      rw [Buf.cap, Buf.cap, length_withHeader headroom room]
      rfl
  · rw [coe_concat]
    exact inv.accounts.skip
  · intro w member
    rcases Multiset.mem_cons.mp member with rfl | old
    · exact ⟨buf, (inv.later w (Nat.le_refl w)).symm.trans current, List.getElem?_set_self inside⟩
    · obtain ⟨first, before, now⟩ := inv.noops_eq w old
      exact ⟨first, before, (keep w (Nat.ne_of_lt (inv.accounts.lt_of_mem_single old))).trans now⟩

/-- The next packet starts an item. -/
theorem insert (holds : entry.Holds (batchPacket given config.offset) config.offset bufs)
    (index : entry.index = k)
    (members : entry.members = [k]) :
    EntryInv config given (k + 1) bufs (toWrite ++ [k]) noops lost (entry ::ₘ entries) := by
  have group : entry.group = (k, {k}) := by
    rw [Entry.group, index, members]
    rfl
  refine
    { inv with
      later := fun i after => inv.later i (by omega)
      holds := Multiset.forall_mem_cons.mpr ⟨holds, inv.holds⟩
      accounts := ?_
      sorted := inv.sorted_concat
      single_eq := Multiset.forall_mem_cons.mpr
        ⟨fun _ => inv.later _ index.ge, inv.single_eq⟩ }
  rw [Multiset.map_cons, group, coe_concat]
  exact inv.accounts.start_group

end

section

variable (inv : EntryInv config given k bufs toWrite noops lost (entry ::ₘ rest))
include inv

/-- The next packet is merged into an item. -/
theorem merge (holds : entry'.Holds (batchPacket given config.offset) config.offset bufs')
    (index : entry'.index = entry.index)
    (members : (entry'.members : Multiset Nat) = k ::ₘ entry.members)
    (merged : entry'.numMerged ≠ 0)
    (length : bufs'.length = bufs.length)
    (caps : ∀ buf ∈ bufs', ∃ old ∈ bufs, buf.cap = old.cap)
    (frame : ∀ j, j ≠ entry.index → j ≠ k → bufs'[j]? = bufs[j]?) :
    EntryInv config given (k + 1) bufs' toWrite noops lost (entry' ::ₘ rest) := by
  have accounts := inv.accounts
  have own := inv.own
  rw [Multiset.map_cons] at accounts own
  obtain ⟨notNoop, notLost, others⟩ := accounts.start_unique own
  have indexLt : entry.index < k := inv.index_lt (Multiset.mem_cons_self entry rest)
  have keep : ∀ j, j ≠ entry.index → j < k → bufs'[j]? = bufs[j]? :=
    fun j other before => frame j other (by omega)
  have other : ∀ old ∈ rest, bufs'[old.index]? = bufs[old.index]? := by
    intro old member
    refine keep _ (others _ (Multiset.mem_map_of_mem Entry.group member)) ?_
    exact inv.index_lt (Multiset.mem_cons_of_mem member)
  refine
    { length := length.trans inv.length
      later := fun i after =>
        (frame i (by omega) (by omega)).trans (inv.later i (by omega))
      caps := ?_
      holds := ?_
      accounts := ?_
      sorted := inv.sorted
      noops_eq := ?_
      lost_eq := ?_
      single_eq := ?_ }
  · intro buf member
    obtain ⟨old, oldMember, same⟩ := caps buf member
    obtain ⟨first, firstMember, same'⟩ := inv.caps old oldMember
    exact ⟨first, firstMember, same.trans same'⟩
  · refine Multiset.forall_mem_cons.mpr ⟨holds, fun old older => ?_⟩
    exact (inv.holds old (Multiset.mem_cons_of_mem older)).frame (other old older)
  · have group : entry'.group = (entry.index, k ::ₘ (entry.members : Multiset Nat)) := by
      rw [Entry.group, index, members]
    rw [Multiset.map_cons, group]
    exact accounts.join
  · intro w member
    obtain ⟨buf, first, now⟩ := inv.noops_eq w member
    refine ⟨buf, first, (keep w ?_ ?_).trans now⟩
    · exact fun same => notNoop (same ▸ member)
    · exact inv.accounts.lt_of_mem_single member
  · intro w member
    refine (keep w ?_ ?_).trans (inv.lost_eq w member)
    · exact fun same => notLost (same ▸ member)
    · exact inv.accounts.lt_of_mem_dissolved member
  · refine Multiset.forall_mem_cons.mpr
      ⟨fun single => absurd single merged, fun old older single => ?_⟩
    exact (other old older).trans (inv.single_eq old (Multiset.mem_cons_of_mem older) single)

/-- An item of one packet is deleted. -/
theorem delete (single : entry.numMerged = 0) :
    EntryInv config given k bufs toWrite noops (entry.index ::ₘ lost)
      rest := by
  have here := Multiset.mem_cons_self entry rest
  have holds := inv.holds entry here
  have group : entry.group = (entry.index, {entry.index}) := by
    have count := holds.count
    have member := holds.index_mem
    rw [single] at count
    obtain ⟨only, members⟩ := length_eq_one_iff.mp count
    rw [members, mem_singleton] at member
    rw [Entry.group, members, member]
    rfl
  have accounts := inv.accounts
  rw [Multiset.map_cons, group] at accounts
  exact
    { inv with
      holds := fun old member => inv.holds old (Multiset.mem_cons_of_mem member)
      accounts := accounts.dissolve
      lost_eq := Multiset.forall_mem_cons.mpr ⟨inv.single_eq entry here single, inv.lost_eq⟩
      single_eq := fun old member =>
        inv.single_eq old (Multiset.mem_cons_of_mem member) }

end

/-- Items of one packet are deleted. -/
theorem delete_all {removed : Multiset Entry}
    (inv : EntryInv config given k bufs toWrite noops lost (removed + rest))
    (single : ∀ entry ∈ removed, entry.numMerged = 0) :
    EntryInv config given k bufs toWrite noops (removed.map Entry.index + lost) rest := by
  induction removed using Multiset.induction_on generalizing lost with
  | empty => simpa using inv
  | cons entry removed ih =>
    rw [Multiset.cons_add] at inv
    have next := ih (inv.delete (single entry (Multiset.mem_cons_self entry removed)))
      fun other member => single other (Multiset.mem_cons_of_mem member)
    rwa [Multiset.add_cons, ← Multiset.cons_add, ← Multiset.map_cons] at next

end EntryInv

/-! ## What a step can do -/

/-- The descriptions of all items. -/
def GROState.entries (state : GROState) : Multiset Entry :=
  (state.tcpTable.items : Multiset TCPGROItem).map TCPGROItem.entry +
    (state.udpTable.items : Multiset UDPGROItem).map UDPGROItem.entry

variable {state : GROState}

theorem GROState.tcpEntry_mem {item : TCPGROItem}
    (member : item ∈ state.tcpTable.items) :
    item.entry ∈ state.entries :=
  Multiset.mem_add.mpr (.inl (Multiset.mem_map_of_mem TCPGROItem.entry member))

theorem GROState.udpEntry_mem {item : UDPGROItem}
    (member : item ∈ state.udpTable.items) :
    item.entry ∈ state.entries :=
  Multiset.mem_add.mpr (.inr (Multiset.mem_map_of_mem UDPGROItem.entry member))

theorem GROState.entries_tcp {item : TCPGROItem} {rest : List TCPGROItem}
    (items : state.tcpTable.items.Perm (item :: rest)) :
    state.entries = item.entry ::ₘ
      ((rest : Multiset TCPGROItem).map TCPGROItem.entry +
        (state.udpTable.items : Multiset UDPGROItem).map UDPGROItem.entry) := by
  rw [GROState.entries, Multiset.coe_eq_coe.mpr items, ← Multiset.cons_coe,
    Multiset.map_cons, Multiset.cons_add]

theorem GROState.entries_udp {item : UDPGROItem} {rest : List UDPGROItem}
    (items : state.udpTable.items.Perm (item :: rest)) :
    state.entries = item.entry ::ₘ
      ((state.tcpTable.items : Multiset TCPGROItem).map TCPGROItem.entry +
        (rest : Multiset UDPGROItem).map UDPGROItem.entry) := by
  rw [GROState.entries, Multiset.coe_eq_coe.mpr items, ← Multiset.cons_coe,
    Multiset.map_cons, Multiset.add_cons]

/-- The indices of the deleted items. -/
def GROState.lost (state : GROState) : Multiset Nat :=
  (state.tcpTable.deleted : Multiset TCPGROItem).map fun item => item.bufsIndex.toNat

/--
The flow under which a packet goes to the UDP table of a batch of `count`
packets; `none` when it bypasses that table.
-/
def udpTableKey (config : GROConfig) (count : Nat) (pkt : Bytes) : Option UDPFlowKey :=
  match (packetIsGROCandidate pkt config.gro).kind with
  | none => none
  | some (protocol, isV6) =>
    if protocol = udpProtocolNumber ∧ count ≠ 1 then
      (udpCandidate pkt isV6).join.map fun _ => udpKeyOf isV6 pkt
    else none

section

variable (config : GROConfig) (state : GROState) (k : Nat)

/-- The attempts to merge packet `k` with the TCP items of its flow. -/
def groAttempts : List TCPAttempt :=
  let pkt := batchPacket state.bufs config.offset k
  match (packetIsGROCandidate pkt config.gro).kind with
  | none => []
  | some (protocol, isV6) =>
    if protocol = tcpProtocolNumber then
      tcpGROAttempts state.bufs config.offset k state.tcpTable isV6
        config.skipChecksumValidation pkt
    else []

/-- The UDP item that packet `k` is merged with. -/
def groJoins : Option UDPGROItem :=
  let pkt := batchPacket state.bufs config.offset k
  match (packetIsGROCandidate pkt config.gro).kind with
  | none => none
  | some (protocol, isV6) =>
    if protocol = tcpProtocolNumber then none
    else
      udpGROJoins state.bufs config.offset k state.udpTable isV6
        config.skipChecksumValidation pkt

variable {config state k} in
theorem groAttempts_mem {attempt : TCPAttempt} (made : attempt ∈ groAttempts config state k) :
    attempt.item ∈ state.tcpTable.items := by
  unfold groAttempts tcpGROAttempts at made
  dsimp only at made
  split at made
  · cases made
  split at made
  · split at made
    · split at made
      · cases made
      have listed := mem_reverse.mp (tcpAttempts_mem made)
      cases found : state.tcpTable.itemsByFlow.lookup _ with
      | none =>
        rw [found] at listed
        cases listed
      | some items =>
        rw [found] at listed
        exact Multimap.mem_items_of_lookup found listed
    · cases made
  · cases made

/--
The TCP items that failed their check in front of packet `k`, the attempts
that succeeded, and the UDP item that it joins.
-/
structure GROTried (removed : List TCPGROItem) (merges : List TCPAttempt)
    (joins : Option UDPGROItem) : Prop where
  removed_eq : (withResult .itemInvalidCSum (groAttempts config state k)).map TCPAttempt.item =
    removed
  merges_eq : withResult .success (groAttempts config state k) = merges
  joins_eq : groJoins config state k = joins

end

/-- The effect of one turn of the loop of `handleGRO` on packet `k`. -/
inductive GROStep
    (config : GROConfig) (given : List Buf) (k : Nat) (state : GROState) :
    GROState → Prop
  | noop {removed : List TCPGROItem} {table : TCPGROTable} {buf : Buf}
      (deletions : TCPDeletions config.skipChecksumValidation state.tcpTable removed table)
      (current : state.bufs[k]? = some buf)
      (left : udpTableKey config state.bufs.length (batchPacket given config.offset k) = none)
      (tried : GROTried config state k removed [] none) :
      GROStep config given k state
        { state with
          bufs := state.bufs.set k (withHeader config.order .zero config.offset buf)
          tcpTable := table
          toWrite := state.toWrite ++ [k] }
  | insertTCP {removed : List TCPGROItem} {table table' : TCPGROTable}
      {isV6 : Bool} {c : TCPCandidate}
      (deletions : TCPDeletions config.skipChecksumValidation state.tcpTable removed table)
      (left : udpTableKey config state.bufs.length (batchPacket given config.offset k) = none)
      (describes : c.Describes isV6 (batchPacket given config.offset k))
      (inserted : table.insert (tcpKeyOf isV6 (batchPacket given config.offset k))
        (tcpItemOf isV6 (batchPacket given config.offset k) c k) = some table')
      (tried : GROTried config state k removed [] none) :
      GROStep config given k state
        { state with tcpTable := table', toWrite := state.toWrite ++ [k] }
  | mergeTCP {removed rest : List TCPGROItem} {table table' : TCPGROTable}
      {isV6 : Bool} {c : TCPCandidate} {mode : CanCoalesce}
      {bufs' : List Buf} {item item' : TCPGROItem}
      (deletions : TCPDeletions config.skipChecksumValidation state.tcpTable removed table)
      (left : udpTableKey config state.bufs.length (batchPacket given config.offset k) = none)
      (describes : c.Describes isV6 (batchPacket given config.offset k))
      (update : TCPUpdate (batchPacket given config.offset) config.offset k
        isV6 c state.bufs table mode bufs' table' item item' rest)
      (tried : GROTried config state k removed [⟨item, mode, .success⟩] none) :
      GROStep config given k state
        { state with bufs := bufs', tcpTable := table' }
  | insertUDP {table' : UDPGROTable} {isV6 : Bool} {c : UDPCandidate}
      {known : Bool}
      (tabled : udpTableKey config state.bufs.length (batchPacket given config.offset k) =
          some (udpKeyOf isV6 (batchPacket given config.offset k)))
      (describes : c.Describes isV6 (batchPacket given config.offset k))
      (inserted : state.udpTable.insert (udpKeyOf isV6 (batchPacket given config.offset k))
        (udpItemOf isV6 (batchPacket given config.offset k) c k known) = some table')
      (tried : GROTried config state k [] [] none) :
      GROStep config given k state
        { state with udpTable := table', toWrite := state.toWrite ++ [k] }
  | mergeUDP {rest : List UDPGROItem} {table' : UDPGROTable} {isV6 : Bool}
      {c : UDPCandidate} {bufs' : List Buf} {target : Buf}
      {item item' : UDPGROItem}
      (tabled : udpTableKey config state.bufs.length (batchPacket given config.offset k) =
          some (udpKeyOf isV6 (batchPacket given config.offset k)))
      (describes : c.Describes isV6 (batchPacket given config.offset k))
      (update : UDPUpdate (batchPacket given config.offset) config.offset k
        isV6 c state.bufs state.udpTable bufs' table' target item item' rest)
      (tried : GROTried config state k [] [] (some item)) :
      GROStep config given k state
        { state with bufs := bufs', udpTable := table' }

/-- The invariant of the loop of `handleGRO`. -/
structure GROInv
    (config : GROConfig) (given : List Buf) (k : Nat) (state : GROState)
    (noops : Multiset Nat) : Prop where
  entryInv : EntryInv config given k state.bufs state.toWrite noops state.lost state.entries
  tcpFacts : ∀ item ∈ state.tcpTable.items, TCPItemFacts (batchPacket given config.offset) item
  tcpKeyed : state.tcpTable.Keyed TCPGROItem.key
  udpFacts : ∀ item ∈ state.udpTable.items, UDPItemFacts (batchPacket given config.offset) item
  udpKeyed : state.udpTable.Keyed UDPGROItem.key
  udpFlows : NonemptyFlows state.udpTable
  tcpPool : idealBatchSize ≤ state.tcpTable.itemsPool + k
  udpPool : idealBatchSize ≤ state.udpTable.itemsPool + k

namespace GROInv

variable {config : GROConfig} {given : List Buf} {k : Nat}
variable {state state' : GROState} {noops : Multiset Nat}
variable (inv : GROInv config given k state noops)
include inv

theorem tcpValid :
    ∀ item ∈ state.tcpTable.items,
      TCPItemValid (batchPacket given config.offset) config.offset state.bufs
        item := by
  intro item member
  exact ⟨inv.tcpFacts item member, inv.entryInv.holds _ (tcpEntry_mem member)⟩

theorem udpValid :
    ∀ item ∈ state.udpTable.items,
      UDPItemValid (batchPacket given config.offset) config.offset state.bufs
        item := by
  intro item member
  exact ⟨inv.udpFacts item member, inv.entryInv.holds _ (udpEntry_mem member)⟩

/-- The packet of a step is still the original one. -/
theorem packet_eq : batchPacket state.bufs config.offset k = batchPacket given config.offset k := by
  rw [batchPacket, inv.entryInv.later k (Nat.le_refl k)]
  rfl

theorem current {buf : Buf} (found : state.bufs[k]? = some buf) :
    buf.bytes.drop config.offset = batchPacket given config.offset k := by
  have first := inv.entryInv.later k (Nat.le_refl k)
  rw [found] at first
  exact (batchPacket_eq first.symm _).symm

end GROInv

/-! ## The five cases are all -/

/-- `groPacket` by protocol and family. -/
theorem groPacket_eq (offset : Nat) (gro : GRODisablementFlags) (skipChecksumValidation : Bool)
    (state : GROState) (i : Nat) {pkt : Bytes} (packet : packetAt? state.bufs i offset = some pkt) :
    groPacket offset gro skipChecksumValidation state i =
      match (packetIsGROCandidate pkt gro).kind with
      | none => some (.noop, state)
      | some (protocol, isV6) =>
        if protocol = tcpProtocolNumber then
          state.tcpGRO offset i isV6 skipChecksumValidation
        else state.udpGRO offset i isV6 skipChecksumValidation := by
  unfold groPacket
  rw [bind_of_eq_some packet]
  cases packetIsGROCandidate pkt gro <;> rfl

theorem kind_protocol {type : GROCandidateType} {protocol : UInt8} {isV6 : Bool}
    (kind : type.kind = some (protocol, isV6)) :
    protocol = tcpProtocolNumber ∨ protocol = udpProtocolNumber := by
  cases type with
  | notGROCandidate => cases kind
  | tcp4GROCandidate => cases kind; exact .inl rfl
  | tcp6GROCandidate => cases kind; exact .inl rfl
  | udp4GROCandidate => cases kind; exact .inr rfl
  | udp6GROCandidate => cases kind; exact .inr rfl

/-- The offset leaves room for a header and is inside the buffer. -/
def OffsetValid (config : GROConfig) (buf : Buf) : Prop :=
  virtioNetHdrLen ≤ config.offset ∧ config.offset < buf.bytes.length

/-- What follows in `handleGRO` after the packet was looked at. -/
def finishStep (config : GROConfig) (i : Nat) (result : GROResult) (state : GROState) :
    Option (Except GROError GROState) :=
  match result with
  | .noop => do
      let buf ← state.bufs[i]?
      match ← encodeBefore config.order .zero buf config.offset with
      | none => some (.error .shortBuffer)
      | some buf =>
        some (.ok { state with
          bufs := state.bufs.set i buf
          toWrite := state.toWrite ++ [i] })
  | .tableInsert => some (.ok { state with toWrite := state.toWrite ++ [i] })
  | .coalesced => some (.ok state)

/-- What one turn of the loop may return. -/
inductive GROStepOutcome
    (config : GROConfig) (given : List Buf) (k : Nat) (state : GROState) :
    Option (Except GROError GROState) → Prop
  | invalidOffset
      (invalid : ∃ buf, given[k]? = some buf ∧ ¬OffsetValid config buf) :
      GROStepOutcome config given k state (some (.error .invalidOffset))
  | exhausted
      (pools : state.tcpTable.itemsPool = 0 ∨ state.udpTable.itemsPool = 0) :
      GROStepOutcome config given k state none
  | step {buf : Buf} {state' : GROState} (first : given[k]? = some buf)
      (valid : OffsetValid config buf)
      (step : GROStep config given k state state') :
      GROStepOutcome config given k state (some (.ok state'))

section Cases

variable {config : GROConfig} {given : List Buf} {k : Nat}
variable {state : GROState} {noops : Multiset Nat} {buf : Buf}

theorem finishStep_noop (state' : GROState) (found : state'.bufs[k]? = some buf)
    (valid : OffsetValid config buf) :
    finishStep config k .noop state' = some (.ok { state' with
      bufs := state'.bufs.set k (withHeader config.order .zero config.offset buf)
      toWrite := state'.toWrite ++ [k] }) := by
  unfold finishStep
  simp only
  rw [bind_of_eq_some found]
  rw [encodeBefore_eq _ _ valid.1 valid.2.le]
  rfl

variable (inv : GROInv config given k state noops)
include inv

theorem groStep_tcp (found : state.bufs[k]? = some buf)
    (valid : OffsetValid config buf)
    (first : given[k]? = some buf) {isV6 : Bool}
    (kind : (packetIsGROCandidate (batchPacket given config.offset k)
      config.gro).kind = some (tcpProtocolNumber, isV6)) :
    GROStepOutcome config given k state
      ((state.tcpGRO config.offset k isV6 config.skipChecksumValidation).bind
        fun outcome => finishStep config k outcome.1 outcome.2) := by
  obtain ⟨table, deletions, outcome⟩ := tcpGRO_spec (packetIsGROCandidate_spec kind) found
      valid.2.le (inv.current found) inv.tcpValid inv.tcpKeyed
      config.skipChecksumValidation
  have left : udpTableKey config state.bufs.length (batchPacket given config.offset k) = none := by
    rw [udpTableKey, kind]
    exact if_neg fun both => absurd both.1 (by decide)
  have attempts : groAttempts config state k = tcpGROAttempts state.bufs config.offset k
      state.tcpTable isV6 config.skipChecksumValidation (batchPacket given config.offset k) := by
    rw [groAttempts, inv.packet_eq]
    simp only [kind, if_true]
  have joins : groJoins config state k = none := by
    rw [groJoins, inv.packet_eq]
    simp only [kind, if_true]
  rw [← attempts] at deletions outcome
  unfold GROState.tcpGRO
  generalize tcpGRO state.bufs config.offset k state.tcpTable isV6
    config.skipChecksumValidation = returned at outcome ⊢
  generalize merges_eq : withResult .success _ = merges at outcome
  have tried : GROTried config state k _ merges none := ⟨rfl, merges_eq, joins⟩
  cases outcome with
  | noop =>
    have written := finishStep_noop { state with tcpTable := table } found valid
    simp only [bind_eq_bind, bind_some]
    rw [written]
    exact GROStepOutcome.step first valid (GROStep.noop deletions found left tried)
  | insert c describes =>
    rcases GROTable.insert_spec table (tcpKeyOf isV6 (batchPacket given config.offset k))
        (tcpItemOf isV6 (batchPacket given config.offset k) c k) with
      ⟨failed, empty⟩ | ⟨table', inserted, -⟩
    · rw [failed]
      exact GROStepOutcome.exhausted (.inl (deletions.pool.symm.trans empty))
    · rw [inserted]
      exact GROStepOutcome.step first valid
        (GROStep.insertTCP deletions left describes inserted tried)
  | coalesced c describes update =>
    exact GROStepOutcome.step first valid
      (GROStep.mergeTCP deletions left describes update tried)

theorem groStep_udp (found : state.bufs[k]? = some buf)
    (valid : OffsetValid config buf)
    (first : given[k]? = some buf) {isV6 : Bool}
    (kind : (packetIsGROCandidate (batchPacket given config.offset k)
      config.gro).kind = some (udpProtocolNumber, isV6)) :
    GROStepOutcome config given k state
      ((state.udpGRO config.offset k isV6 config.skipChecksumValidation).bind
        fun outcome => finishStep config k outcome.1 outcome.2) := by
  have outcome := udpGRO_spec (packetIsGROCandidate_spec kind) found
      valid.2.le (inv.current found) inv.udpValid inv.udpKeyed
      inv.udpFlows config.skipChecksumValidation
  unfold GROState.udpGRO
  have key : udpTableKey config state.bufs.length (batchPacket given config.offset k) =
        if udpProtocolNumber = udpProtocolNumber ∧ state.bufs.length ≠ 1 then
          (udpCandidate (batchPacket given config.offset k) isV6).join.map
            fun _ => udpKeyOf isV6 (batchPacket given config.offset k)
        else none := by
    rw [udpTableKey, kind]
  have attempts : groAttempts config state k = [] := by
    rw [groAttempts, inv.packet_eq]
    simp only [kind]
    exact if_neg (by decide)
  generalize joins_eq : udpGROJoins _ _ _ _ _ _ _ = joins at outcome
  have tried : GROTried config state k [] [] joins := by
    refine ⟨by rw [attempts]; rfl, by rw [attempts]; rfl, ?_⟩
    rw [groJoins, inv.packet_eq]
    simp only [kind]
    exact (if_neg (by decide)).trans joins_eq
  generalize computed : udpGRO state.bufs config.offset k state.udpTable isV6
    config.skipChecksumValidation = returned at outcome ⊢
  cases outcome with
  | noop left =>
    have left' : udpTableKey config state.bufs.length
        (batchPacket given config.offset k) = none := by
      rw [key]
      rcases left with refused | lone
      · rw [refused]
        exact ite_self none
      · exact if_neg fun both => both.2 lone
    simp only [bind_eq_bind, bind_some]
    rw [finishStep_noop state found valid]
    exact GROStepOutcome.step first valid
      (GROStep.noop (TCPDeletions.none inv.tcpKeyed) found left' tried)
  | insert c describes tabled several known =>
    rw [if_pos ⟨rfl, several⟩, tabled] at key
    rcases GROTable.insert_spec state.udpTable (udpKeyOf isV6 (batchPacket given config.offset k))
        (udpItemOf isV6 (batchPacket given config.offset k) c k known) with
      ⟨failed, empty⟩ | ⟨table', inserted, -⟩
    · rw [failed]
      exact GROStepOutcome.exhausted (.inr empty)
    · rw [inserted]
      exact GROStepOutcome.step first valid (GROStep.insertUDP key describes inserted tried)
  | coalesced c describes tabled several update =>
    rw [if_pos ⟨rfl, several⟩, tabled] at key
    exact GROStepOutcome.step first valid (GROStep.mergeUDP key describes update tried)

/-- A turn of the loop is one of the five cases, fails on a wrong offset, or
finds no free slice for a new flow. -/
theorem groStep_spec (inside : k < given.length) :
    GROStepOutcome config given k state (groStep config state k) := by
  obtain ⟨buf, first⟩ : ∃ buf, given[k]? = some buf := ⟨_, List.getElem?_eq_getElem inside⟩
  have found : state.bufs[k]? = some buf := (inv.entryInv.later k (Nat.le_refl k)).trans first
  by_cases valid : OffsetValid config buf
  · have packet : packetAt? state.bufs k config.offset =
        some (batchPacket given config.offset k) := by
      rw [packetAt?, found, some_bind,
        sliceFrom?_eq_some valid.2.le, inv.current found]
    rw [groStep, bind_of_eq_some found, if_neg (by unfold OffsetValid at valid; omega),
      groPacket_eq _ config.gro config.skipChecksumValidation state k packet]
    change GROStepOutcome _ _ _ _ (Option.bind _ fun outcome : GROResult × GROState =>
      finishStep config k outcome.1 outcome.2)
    cases kind : (packetIsGROCandidate (batchPacket given config.offset k) config.gro).kind with
    | none =>
      simp only [bind_some]
      rw [finishStep_noop state found valid]
      refine GROStepOutcome.step first valid
        (GROStep.noop (TCPDeletions.none inv.tcpKeyed) found ?_ ⟨?_, ?_, ?_⟩)
      · rw [udpTableKey, kind]
      all_goals simp only [groAttempts, groJoins, inv.packet_eq, kind]
      all_goals rfl
    | some answer =>
      obtain ⟨protocol, isV6⟩ := answer
      rcases kind_protocol kind with rfl | rfl
      · exact groStep_tcp inv found valid first kind
      · exact groStep_udp inv found valid first kind
  · unfold groStep
    rw [bind_of_eq_some found]
    rw [if_pos (by unfold OffsetValid at valid; omega)]
    exact GROStepOutcome.invalidOffset ⟨buf, first, valid⟩

end Cases

/-! ## Every case keeps the invariant -/

section Single

variable {orig : Nat → Bytes} {offset k : Nat} {bufs : List Buf} {buf : Buf} {isV6 : Bool}

theorem headerStart_ofNat {iphLen : Nat} (iph : iphLen = headerStart isV6) :
    (UInt8.ofNat iphLen).toNat = headerStart isV6 := by
  have start := headerStart_le isV6
  rw [iph]
  exact UInt8.toNat_ofNat_of_lt (show _ < 256 by omega)

theorem TCPCandidate.Describes.entry_hdrLen
    {c : TCPCandidate} (describes : c.Describes isV6 (orig k)) :
    (tcpItemOf isV6 (orig k) c k).entry.hdrLen = c.iphLen + c.tcphLen := by
  have tcphLen := describes.tcphLen
  show (UInt8.ofNat c.iphLen).toNat + (UInt8.ofNat c.tcphLen).toNat = _
  rw [headerStart_ofNat describes.iphLen, describes.iphLen, UInt8.toNat_ofNat']
  omega

theorem UDPCandidate.Describes.entry_hdrLen
    {c : UDPCandidate} (describes : c.Describes isV6 (orig k)) (known : Bool) :
    (udpItemOf isV6 (orig k) c k known).entry.hdrLen = c.iphLen + 8 := by
  show (UInt8.ofNat c.iphLen).toNat + 8 = _
  rw [headerStart_ofNat describes.iphLen, describes.iphLen]

theorem TCPCandidate.Describes.holds_single
    {c : TCPCandidate} (describes : c.Describes isV6 (orig k))
    (found : bufs[k]? = some buf)
    (room : offset ≤ buf.bytes.length)
    (content : buf.bytes.drop offset = orig k)
    (small : k < 65536) :
    TCPItemValid orig offset bufs (tcpItemOf isV6 (orig k) c k) := by
  have length := describes.length
  have positive := describes.positive
  exact
    { start := headerStart_ofNat describes.iphLen
      key := rfl
      sentSeq := describes.seq
      entry := Entry.Holds.single (UInt16.toNat_ofNat_of_lt small) rfl rfl describes.entry_hdrLen
        describes.shape ⟨by omega, describes.small⟩ length.symm found room content }

theorem UDPCandidate.Describes.holds_single
    {c : UDPCandidate} (describes : c.Describes isV6 (orig k))
    (found : bufs[k]? = some buf)
    (room : offset ≤ buf.bytes.length)
    (content : buf.bytes.drop offset = orig k)
    (small : k < 65536) (known : Bool) :
    UDPItemValid orig offset bufs (udpItemOf isV6 (orig k) c k known) := by
  have length := describes.length
  have positive := describes.positive
  exact
    { start := headerStart_ofNat describes.iphLen
      key := rfl
      entry := Entry.Holds.single (UInt16.toNat_ofNat_of_lt small) rfl rfl
        (describes.entry_hdrLen known) describes.shape ⟨by omega, describes.small⟩
        length.symm found room content }

end Single

namespace GROInv

variable {config : GROConfig} {given : List Buf} {k : Nat}
variable {state state' : GROState} {noops : Multiset Nat}

section

variable (inv : GROInv config given k state noops)
include inv

/-- Deletions turn items into lost indices. -/
theorem delete {removed : List TCPGROItem} {table : TCPGROTable}
    (deletions : TCPDeletions config.skipChecksumValidation state.tcpTable removed table) :
    GROInv config given k { state with tcpTable := table } noops := by
  have items : (state.tcpTable.items : Multiset TCPGROItem) =
      removed + (table.items : Multiset TCPGROItem) :=
    Multiset.coe_eq_coe.mpr deletions.items
  have entries : state.entries = (removed : Multiset TCPGROItem).map TCPGROItem.entry +
        GROState.entries { state with tcpTable := table } := by
    rw [GROState.entries, items, Multiset.map_add, add_assoc]
    rfl
  have lost : GROState.lost { state with tcpTable := table } =
      ((removed : Multiset TCPGROItem).map TCPGROItem.entry).map Entry.index + state.lost := by
    rw [Multiset.map_map, GROState.lost, GROState.lost, deletions.deleted,
      ← Multiset.coe_add, Multiset.map_add, add_comm]
    rfl
  have kept : ∀ item ∈ table.items, item ∈ state.tcpTable.items := fun item member =>
      deletions.items.mem_iff.mpr (mem_append_right removed member)
  have entryInv := inv.entryInv
  rw [entries] at entryInv
  exact
    { inv with
      entryInv := by
        rw [lost]
        refine entryInv.delete_all ?_
        intro entry member
        obtain ⟨item, inside, rfl⟩ := Multiset.mem_map.mp member
        exact congrArg UInt16.toNat (deletions.single item inside)
      tcpFacts := fun item member => inv.tcpFacts item (kept item member)
      tcpKeyed := deletions.keyed
      tcpPool := by
        show _ ≤ table.itemsPool + k
        rw [deletions.pool]
        exact inv.tcpPool }

section

variable {buf : Buf}
variable (current : state.bufs[k]? = some buf)
include current

theorem skip (valid : OffsetValid config buf) :
    GROInv config given (k + 1)
      { state with
        bufs := state.bufs.set k (withHeader config.order .zero config.offset buf)
        toWrite := state.toWrite ++ [k] } (k ::ₘ noops) :=
  { inv with
    entryInv := inv.entryInv.skip current valid.1 valid.2.le
    tcpPool := Nat.le_succ_of_le inv.tcpPool
    udpPool := Nat.le_succ_of_le inv.udpPool }

theorem insertTCP (valid : OffsetValid config buf)
    (small : k < 65536) {isV6 : Bool} {c : TCPCandidate} {table : TCPGROTable}
    (describes : c.Describes isV6 (batchPacket given config.offset k))
    (inserted : state.tcpTable.insert (tcpKeyOf isV6 (batchPacket given config.offset k))
      (tcpItemOf isV6 (batchPacket given config.offset k) c k) = some table) :
    GROInv config given (k + 1)
      { state with tcpTable := table, toWrite := state.toWrite ++ [k] }
      noops := by
  have itemValid := describes.holds_single current valid.2.le
    (inv.current current) small
  obtain ⟨items, deleted, pool, flows⟩ := GROTable.insert_some inserted
  have before := inv.tcpPool
  exact
    { inv with
      entryInv := by
        rw [GROState.lost, deleted, entries_tcp items]
        exact inv.entryInv.insert itemValid.entry (UInt16.toNat_ofNat_of_lt small) rfl
      tcpFacts := fun item member => forall_mem_cons.mpr
        ⟨itemValid.toTCPItemFacts, inv.tcpFacts⟩ item (items.mem_iff.mp member)
      tcpKeyed := inv.tcpKeyed.of_insert_item flows rfl
      tcpPool := show _ ≤ table.itemsPool + (k + 1) by omega
      udpPool := Nat.le_succ_of_le inv.udpPool }

theorem insertUDP (valid : OffsetValid config buf)
    (small : k < 65536) {isV6 : Bool} {c : UDPCandidate} {table : UDPGROTable} {known : Bool}
    (describes : c.Describes isV6 (batchPacket given config.offset k))
    (inserted : state.udpTable.insert (udpKeyOf isV6 (batchPacket given config.offset k))
      (udpItemOf isV6 (batchPacket given config.offset k) c k known) =
        some table) :
    GROInv config given (k + 1)
      { state with udpTable := table, toWrite := state.toWrite ++ [k] }
      noops := by
  have itemValid := describes.holds_single current valid.2.le
    (inv.current current) small known
  obtain ⟨items, -, pool, flows⟩ := GROTable.insert_some inserted
  have before := inv.udpPool
  exact
    { inv with
      entryInv := by
        rw [entries_udp items]
        exact inv.entryInv.insert itemValid.entry (UInt16.toNat_ofNat_of_lt small) rfl
      udpFacts := fun item member => forall_mem_cons.mpr
        ⟨itemValid.toUDPItemFacts, inv.udpFacts⟩ item (items.mem_iff.mp member)
      udpKeyed := inv.udpKeyed.of_insert_item flows rfl
      udpFlows := inv.udpFlows.of_insert flows (by simp)
      tcpPool := Nat.le_succ_of_le inv.tcpPool
      udpPool := show _ ≤ table.itemsPool + (k + 1) by omega }

theorem mergeTCP (valid : OffsetValid config buf)
    (small : k < 65536) {isV6 : Bool} {c : TCPCandidate} {mode : CanCoalesce}
    {bufs' : List Buf} {table : TCPGROTable} {item item' : TCPGROItem} {rest : List TCPGROItem}
    (describes : c.Describes isV6 (batchPacket given config.offset k))
    (update : TCPUpdate (batchPacket given config.offset) config.offset k
      isV6 c state.bufs state.tcpTable mode bufs' table item item' rest) :
    GROInv config given (k + 1) { state with bufs := bufs', tcpTable := table } noops := by
  have member : item ∈ state.tcpTable.items := update.before.mem_iff.mpr mem_cons_self
  have before := inv.tcpValid item member
  have count := inv.entryInv.numMerged_lt (tcpEntry_mem member)
  change item.numMerged.toNat < k at count
  have after := update.merged.valid before describes update.flow current
    valid.2.le (inv.current current) (by omega)
  have entryInv := inv.entryInv
  have others := forall_mem_cons.mp fun other inside =>
    inv.tcpFacts other (update.before.mem_iff.mpr inside)
  rw [entries_tcp update.before] at entryInv
  exact
    { inv with
      entryInv := by
        rw [GROState.lost, update.deleted, entries_tcp update.after]
        obtain ⟨index, members, several⟩ : item'.entry.index = item.entry.index ∧
            (item'.entry.members : Multiset Nat) = k ::ₘ item.entry.members ∧
              item'.entry.numMerged ≠ 0 := by
          rcases update.merged.entry_eq (by omega) with ⟨same, -⟩ | ⟨same, -⟩ <;> rw [same]
          · exact ⟨rfl, EntryInv.coe_concat item.members k, Nat.succ_ne_zero _⟩
          · exact ⟨rfl, rfl, Nat.succ_ne_zero _⟩
        exact entryInv.merge after.entry index members several update.merged.length_eq
          (update.merged.caps before describes update.flow current
            valid.2.le (inv.current current)) update.merged.frame
      tcpFacts := fun other inside => forall_mem_cons.mpr
        ⟨after.toTCPItemFacts, others.2⟩ other (update.after.mem_iff.mp inside)
      tcpKeyed := update.keyed
      tcpPool := update.pool.symm ▸ Nat.le_succ_of_le inv.tcpPool
      udpPool := Nat.le_succ_of_le inv.udpPool }

end

theorem mergeUDP (small : k < 65536) {isV6 : Bool} {c : UDPCandidate}
    {bufs' : List Buf} {table : UDPGROTable} {target : Buf}
    {item item' : UDPGROItem} {rest : List UDPGROItem}
    (describes : c.Describes isV6 (batchPacket given config.offset k))
    (update : UDPUpdate (batchPacket given config.offset) config.offset k
      isV6 c state.bufs state.udpTable bufs' table target item item' rest) :
    GROInv config given (k + 1)
      { state with bufs := bufs', udpTable := table } noops := by
  have member : item ∈ state.udpTable.items := update.before.mem_iff.mpr mem_cons_self
  have before := inv.udpValid item member
  have count := inv.entryInv.numMerged_lt (udpEntry_mem member)
  change item.numMerged.toNat < k at count
  have after := update.merged.valid before describes update.flow (by omega)
  have same := update.merged.entry_eq (by omega)
  obtain ⟨items, found, flows⟩ := update.last
  have entryInv := inv.entryInv
  have others := forall_mem_cons.mp fun other inside =>
    inv.udpFacts other (update.before.mem_iff.mpr inside)
  rw [entries_udp update.before] at entryInv
  exact
    { inv with
      entryInv := by
        rw [entries_udp update.after]
        refine entryInv.merge after.entry ?_ ?_ ?_ update.merged.length_eq
          (update.merged.caps before describes update.flow)
          (fun j other _ => update.merged.frame j other)
        · rw [same]
          rfl
        · rw [same]
          exact EntryInv.coe_concat item.members k
        · rw [same]
          exact Nat.succ_ne_zero _
      udpFacts := fun other inside => forall_mem_cons.mpr
        ⟨after.toUDPItemFacts, others.2⟩ other (update.after.mem_iff.mp inside)
      udpKeyed := by
        refine inv.udpKeyed.of_insert flows (forall_mem_append.mpr
          ⟨fun other older => inv.udpKeyed _ _ found other (mem_append_left _ older),
            forall_mem_singleton.mpr ?_⟩)
        rw [update.merged.item_eq]
        exact update.flow
      udpFlows := inv.udpFlows.of_insert flows (by simp)
      tcpPool := Nat.le_succ_of_le inv.tcpPool
      udpPool := update.pool.symm ▸ Nat.le_succ_of_le inv.udpPool }

/-- A step of the loop keeps the invariant. -/
theorem step {buf : Buf} (first : given[k]? = some buf)
    (valid : OffsetValid config buf)
    (small : k < 65536)
    (step : GROStep config given k state state') :
    ∃ noops', GROInv config given (k + 1) state' noops' := by
  have found : state.bufs[k]? = some buf := (inv.entryInv.later k (Nat.le_refl k)).trans first
  cases step with
  | @noop removed table other deletions current left =>
    obtain rfl : other = buf := some.inj (current.symm.trans found)
    exact ⟨_, (inv.delete deletions).skip current valid⟩
  | insertTCP deletions left describes inserted =>
    exact ⟨_, (inv.delete deletions).insertTCP found valid small describes inserted⟩
  | mergeTCP deletions left describes update =>
    exact ⟨_, (inv.delete deletions).mergeTCP found valid small describes update⟩
  | insertUDP tabled describes inserted =>
    exact ⟨_, inv.insertUDP found valid small describes inserted⟩
  | mergeUDP tabled describes update =>
    exact ⟨_, inv.mergeUDP small describes update⟩

end

theorem new (config : GROConfig) (given : List Buf) :
    GROInv config given 0 (GROState.new given) 0 where
  entryInv :=
    { length := rfl
      later := fun _ _ => rfl
      caps := fun buf member => ⟨buf, member, rfl⟩
      holds := nofun
      accounts := .nil
      sorted := .nil
      noops_eq := nofun
      lost_eq := nofun
      single_eq := nofun }
  tcpFacts := nofun
  tcpKeyed := nofun
  udpFacts := nofun
  udpKeyed := nofun
  udpFlows := nofun
  tcpPool := le_rfl
  udpPool := le_rfl

end GROInv

/-! ## Where an item comes from -/

/-- What a step can have done to a TCP item and its buffer. -/
inductive TCPItemOrigin
    (config : GROConfig) (given : List Buf) (k : Nat) (state : GROState)
    (bufs' : List Buf) : TCPGROItem → Prop
  | old {item : TCPGROItem} (member : item ∈ state.tcpTable.items)
      (frame : bufs'[item.bufsIndex.toNat]? = state.bufs[item.bufsIndex.toNat]?) :
      TCPItemOrigin config given k state bufs' item
  | inserted {isV6 : Bool} {c : TCPCandidate}
      (describes : c.Describes isV6 (batchPacket given config.offset k))
      (frame : bufs' = state.bufs) :
      TCPItemOrigin config given k state bufs'
        (tcpItemOf isV6 (batchPacket given config.offset k) c k)
  | merged {isV6 : Bool} {c : TCPCandidate} {mode : CanCoalesce} {item item' : TCPGROItem}
      (member : item ∈ state.tcpTable.items)
      (describes : c.Describes isV6 (batchPacket given config.offset k))
      (flow : item.key = tcpKeyOf isV6 (batchPacket given config.offset k))
      (coalesced : TCPCoalesced (batchPacket given config.offset)
        config.offset k c state.bufs item mode bufs' item') :
      TCPItemOrigin config given k state bufs' item'

/-- What a step can have done to a UDP item. -/
inductive UDPItemOrigin
    (config : GROConfig) (given : List Buf) (k : Nat) (state : GROState) :
    UDPGROItem → Prop
  | old {item : UDPGROItem} (member : item ∈ state.udpTable.items) :
      UDPItemOrigin config given k state item
  | inserted {isV6 : Bool} {c : UDPCandidate} {known : Bool}
      (describes : c.Describes isV6 (batchPacket given config.offset k)) :
      UDPItemOrigin config given k state
        (udpItemOf isV6 (batchPacket given config.offset k) c k known)
  | merged {isV6 : Bool} {c : UDPCandidate} {bufs' : List Buf} {target : Buf}
      {item item' : UDPGROItem}
      (member : item ∈ state.udpTable.items)
      (describes : c.Describes isV6 (batchPacket given config.offset k))
      (flow : item.key = udpKeyOf isV6 (batchPacket given config.offset k))
      (coalesced : UDPCoalesced (batchPacket given config.offset)
        config.offset k c state.bufs item bufs' item' target) :
      UDPItemOrigin config given k state item'

namespace GROStep

variable {config : GROConfig} {given : List Buf} {k : Nat}
variable {state state' : GROState}

theorem tcpItem_origin {noops : Multiset Nat} (inv : GROInv config given k state noops)
    (step : GROStep config given k state state') {item : TCPGROItem}
    (member : item ∈ state'.tcpTable.items) :
    TCPItemOrigin config given k state state'.bufs item := by
  have kept : ∀ {removed : List TCPGROItem} {table : TCPGROTable},
      TCPDeletions config.skipChecksumValidation state.tcpTable removed
        table → ∀ item ∈ table.items, item ∈ state.tcpTable.items :=
    fun deletions _ inside =>
      deletions.items.mem_iff.mpr (mem_append_right _ inside)
  have before : ∀ item ∈ state.tcpTable.items, item.bufsIndex.toNat < k :=
    fun item inside => inv.entryInv.index_lt (tcpEntry_mem inside)
  cases step with
  | noop deletions current left =>
    have older := kept deletions item member
    exact .old older (List.getElem?_set_ne (Nat.ne_of_gt (before item older)))
  | insertTCP deletions left describes inserted =>
    obtain ⟨items, -⟩ := GROTable.insert_some inserted
    rcases mem_cons.mp (items.mem_iff.mp member) with rfl | older
    · exact .inserted describes rfl
    · exact .old (kept deletions item older) rfl
  | @mergeTCP removed rest table table' isV6 c mode bufs' merged merged' deletions
      left describes update =>
      have known := kept deletions
      rcases mem_cons.mp (update.after.mem_iff.mp member) with
        rfl | older
      · refine .merged (known _ ?_) describes update.flow update.merged
        exact update.before.mem_iff.mpr mem_cons_self
      · have old := known item (update.before.mem_iff.mpr (mem_cons_of_mem _ older))
        -- The other items of the table have other buffers.
        have distinct := (inv.delete deletions).entryInv.nodup_index
        rw [entries_tcp update.before,
          Multiset.map_cons, Multiset.nodup_cons, Multiset.map_add,
          Multiset.mem_add, not_or] at distinct
        have different : item.bufsIndex.toNat ≠ merged.bufsIndex.toNat := by
          intro same
          refine distinct.1.1 (Multiset.mem_map.mpr ⟨item.entry, ?_, same⟩)
          exact Multiset.mem_map_of_mem TCPGROItem.entry older
        exact .old old (update.merged.frame _ different (Nat.ne_of_lt (before item old)))
  | insertUDP => exact .old member rfl
  | @mergeUDP rest table' isV6 c bufs' target merged merged' tabled describes
      update =>
      have inside : merged ∈ state.udpTable.items := update.before.mem_iff.mpr mem_cons_self
      have distinct := inv.entryInv.nodup_index
      rw [GROState.entries, Multiset.map_add] at distinct
      refine .old member (update.merged.frame _ fun same => ?_)
      exact Multiset.disjoint_left.mp (Multiset.nodup_add.mp distinct).2.2
        (Multiset.mem_map_of_mem Entry.index (Multiset.mem_map_of_mem TCPGROItem.entry member))
        (Multiset.mem_map.mpr ⟨merged.entry,
          Multiset.mem_map_of_mem UDPGROItem.entry inside, same.symm⟩)

/-- A step deletes the items that fail their check. -/
theorem deleted_eq (step : GROStep config given k state state') :
    ∃ removed, state'.tcpTable.deleted = state.tcpTable.deleted ++ removed ∧
      (withResult .itemInvalidCSum (groAttempts config state k)).map TCPAttempt.item = removed ∧
      (config.skipChecksumValidation = true → removed = []) := by
  cases step with
  | noop deletions current left tried =>
    exact ⟨_, deletions.deleted, tried.removed_eq, deletions.validated⟩
  | insertTCP deletions left describes inserted tried =>
    exact ⟨_, (GROTable.insert_some inserted).2.1.trans deletions.deleted, tried.removed_eq,
      deletions.validated⟩
  | mergeTCP deletions left describes update tried =>
    exact ⟨_, update.deleted.trans deletions.deleted, tried.removed_eq, deletions.validated⟩
  | insertUDP tabled describes inserted tried =>
    exact ⟨[], (append_nil _).symm, tried.removed_eq, fun _ => rfl⟩
  | mergeUDP tabled describes update tried =>
    exact ⟨[], (append_nil _).symm, tried.removed_eq, fun _ => rfl⟩

theorem udpItem_origin (step : GROStep config given k state state') {item : UDPGROItem}
    (member : item ∈ state'.udpTable.items) :
    UDPItemOrigin config given k state item := by
  cases step with
  | noop => exact .old member
  | insertTCP => exact .old member
  | mergeTCP => exact .old member
  | insertUDP tabled describes inserted =>
    obtain ⟨items, -⟩ := GROTable.insert_some inserted
    rcases mem_cons.mp (items.mem_iff.mp member) with rfl | older
    · exact .inserted describes
    · exact .old older
  | mergeUDP tabled describes update =>
    rcases mem_cons.mp (update.after.mem_iff.mp member) with
      rfl | older
    · refine .merged ?_ describes update.flow update.merged
      exact update.before.mem_iff.mpr mem_cons_self
    · exact .old (update.before.mem_iff.mpr (mem_cons_of_mem _ older))

end GROStep

end SingTun.Offload
