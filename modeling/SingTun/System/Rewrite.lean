import SingTun.System.Stack

/-!
# What rewriting a TCP packet does

`rewriteTCP` stores addresses, ports and checksums one after the other, and
each store is seen through the same packet.  Its specification says what is
read from the packet afterwards, and that every other octet is as before.
-/

namespace SingTun.System

open Foundation Header

/-- A TCP header behind the IP header of its packet. -/
structure Layout (family : Family) (packet : Bytes) (tcpHdr : Slice) :
    Prop where
  start : family.minimumSize ≤ tcpHdr.start
  inside : tcpHdr.Inside packet

/-- The octets of the addresses, the ports and the checksums. -/
def RewrittenOctet (family : Family) (start k : Nat) : Prop :=
  (family = .v4 ∧ (k = 10 ∨ k = 11)) ∨
    (family.srcAddr ≤ k ∧ k < family.dstAddr + family.addressSize) ∨
    (start ≤ k ∧ k < start + 4) ∨ k = start + 16 ∨ k = start + 17

/-- What is read from a rewritten packet. -/
structure Rewritten
    {family : Family} (start : Nat) (source destination : Endpoint family)
    (packet packet' : Bytes) : Prop where
  sourceAddr : sourceAddr? family packet' = some source.addr
  destinationAddr : destinationAddr? family packet' = some destination.addr
  sourcePort : readU16 packet' start =
    if source.rewritePort then source.port else readU16 packet start
  destinationPort : readU16 packet' (start + 2) =
    if destination.rewritePort then destination.port
    else readU16 packet (start + 2)
  change : ChangedAt (RewrittenOctet family start) packet packet'

section Rewrite

variable {family : Family} {packet : Bytes} {tcpHdr : Slice}

theorem Layout.mono {changed : Nat → Prop} {packet' : Bytes}
    (layout : Layout family packet tcpHdr)
    (change : ChangedAt changed packet packet') :
    Layout family packet' tcpHdr := by
  refine ⟨layout.start, ?_⟩
  unfold Slice.Inside
  rw [change.length]
  exact layout.inside

theorem Layout.long (layout : Layout family packet tcpHdr) : family.minimumSize ≤ packet.length :=
  layout.start.trans (Nat.le_trans (Nat.le_add_right _ _) layout.inside)

/-- The octets that rewriting one address changes. -/
def RewriteAddressOctet (family : Family) (tcpHdr : Slice) (position k : Nat) : Prop :=
  AddressOctet family position k ∨ TCP.ChecksumOctet tcpHdr k

variable {position k : Nat}

theorem rewriteAddress_spec (layout : Layout family packet tcpHdr)
    (long : 18 ≤ tcpHdr.length)
    (txChecksumOffload : Bool) (field : family.AddressField position) {old : Addr family}
    (found : addrAt? family packet position = some old) (new : Addr family) :
    ∃ packet', rewriteAddress packet tcpHdr txChecksumOffload position old new =
          some packet' ∧ addrAt? family packet' position = some new ∧
        ChangedAt (RewriteAddressOctet family tcpHdr position) packet packet' := by
  unfold rewriteAddress
  by_cases same : new = old
  · rw [if_neg (not_not_intro same), same]
    exact ⟨packet, rfl, found, .refl⟩
  · rw [if_pos same]
    obtain ⟨middle, stored, read, change⟩ :=
      setAddressWithChecksumUpdate?_spec new field layout.long
    have wider : ChangedAt (RewriteAddressOctet family tcpHdr position) packet middle :=
      change.mono fun k covered => .inl covered
    rw [bind_of_eq_some stored]
    cases txChecksumOffload with
    | true => exact ⟨middle, rfl, read, wider⟩
    | false =>
      obtain ⟨packet', summed, sumChange⟩ :=
        @TCP.updateChecksumPseudoHeaderAddress?_spec middle tcpHdr family old new true long
      refine ⟨packet', summed, ?_, ?_⟩
      · -- The address lies in front of the TCP header.
        apply addrAt?_congr sumChange read
        intro k low high
        have front := addressField_inside field
        have behind := layout.start
        unfold TCP.ChecksumOctet
        omega
      · apply wider.trans
        apply sumChange.mono
        intro k covered
        exact .inr covered

/-- A port that is stored, or left as it is. -/
structure PortWritten
    (tcpHdr : Slice) (position : Nat) (endpoint : Endpoint family)
    (packet packet' : Bytes) : Prop where
  read : readU16 packet' (tcpHdr.start + position) =
    if endpoint.rewritePort then endpoint.port
    else readU16 packet (tcpHdr.start + position)
  change : ChangedAt (TCP.PortOctet tcpHdr position) packet packet'

/-- Storing a port, in the way that `store` does it. -/
theorem storePort_spec (position : Nat) (endpoint : Endpoint family)
    {store : UInt16 → Option Bytes}
    (stores : ∀ port, ∃ packet', store port = some packet' ∧
      readU16 packet' (tcpHdr.start + position) = port ∧
      ChangedAt (TCP.PortOctet tcpHdr position) packet packet') :
    ∃ packet', endpoint.storePort packet store = some packet' ∧
      PortWritten tcpHdr position endpoint packet packet' := by
  unfold Endpoint.storePort
  cases rewritten : endpoint.rewritePort with
  | false =>
    refine ⟨packet, rfl, ?_, .refl⟩
    rw [rewritten]
    rfl
  | true =>
    obtain ⟨packet', stored, read, change⟩ := stores endpoint.port
    refine ⟨packet', stored, ?_, change⟩
    rw [rewritten]
    exact read

/-- Rewriting one address leaves the field of the other one alone. -/
theorem not_rewriteAddressOctet (start : family.minimumSize ≤ tcpHdr.start) {other : Nat}
    (field : family.AddressField position)
    (otherField : family.AddressField other)
    (different : position ≠ other)
    (low : other ≤ k)
    (high : k < other + family.addressSize) :
    ¬RewriteAddressOctet family tcpHdr position k := by
  have front := addressField_inside otherField
  have apart : k < position ∨ position + family.addressSize ≤ k := by
    rcases field with rfl | rfl <;> rcases otherField with rfl | rfl
    · exact absurd rfl different
    · right
      cases family <;> exact low
    · left
      cases family <;> exact high
    · exact absurd rfl different
  have header : family = .v4 → 12 ≤ k := by
    rintro rfl
    rcases otherField with rfl | rfl
    · exact low
    · exact Nat.le_trans (by decide) low
  rintro ((⟨v4, sum⟩ | ⟨above, below⟩) | sum)
  · have := header v4
    omega
  · omega
  · unfold TCP.ChecksumOctet at sum
    omega

/-- The ports lie behind the addresses and in front of the checksum. -/
theorem not_rewriteAddressOctet_port (start : family.minimumSize ≤ tcpHdr.start)
    (field : family.AddressField position)
    (low : tcpHdr.start ≤ k)
    (high : k < tcpHdr.start + 4) :
    ¬RewriteAddressOctet family tcpHdr position k := by
  have bound := addressField_inside field
  have minimum := family.twenty_le_minimumSize
  rintro ((⟨-, sum⟩ | ⟨-, below⟩) | sum)
  · omega
  · omega
  · unfold TCP.ChecksumOctet at sum
    omega

/-- Both addresses are stored before the ports. -/
theorem rewriteAddresses_spec (layout : Layout family packet tcpHdr)
    (long : 18 ≤ tcpHdr.length)
    (txChecksumOffload : Bool) (source destination : Addr family) :
    ∃ oldSource oldDestination middle packet', sourceAddr? family packet = some oldSource ∧
        destinationAddr? family packet = some oldDestination ∧
        rewriteAddress packet tcpHdr txChecksumOffload family.srcAddr
          oldSource source = some middle ∧
        rewriteAddress middle tcpHdr txChecksumOffload family.dstAddr
          oldDestination destination = some packet' ∧ Layout family middle tcpHdr ∧
        destinationAddr? family middle = some oldDestination ∧
        sourceAddr? family packet' = some source ∧
        destinationAddr? family packet' = some destination ∧
        ChangedAt (fun k => RewriteAddressOctet family tcpHdr family.srcAddr k ∨
            RewriteAddressOctet family tcpHdr family.dstAddr k) packet packet' ∧
        ∀ position, position ≤ 2 → readU16 packet' (tcpHdr.start + position) =
            readU16 packet (tcpHdr.start + position) := by
  have room : ∀ position, family.AddressField position →
      position + family.addressSize ≤ packet.length :=
    fun position field => Nat.le_trans (addressField_inside field) layout.long
  have sourceField : family.AddressField family.srcAddr := .inl rfl
  have destinationField : family.AddressField family.dstAddr := .inr rfl
  obtain ⟨oldSource, sourceFound, -⟩ := exists_addrAt? (room _ sourceField)
  obtain ⟨oldDestination, destinationFound, -⟩ := exists_addrAt? (room _ destinationField)
  obtain ⟨middle, first, sourceRead, firstChange⟩ :=
    rewriteAddress_spec layout long txChecksumOffload sourceField sourceFound source
  have different : family.srcAddr ≠ family.dstAddr := by
    cases family <;> decide
  have kept : addrAt? family middle family.dstAddr = some oldDestination := by
    apply addrAt?_congr firstChange destinationFound
    intro k low high
    exact not_rewriteAddressOctet layout.start sourceField destinationField different low high
  obtain ⟨packet', second, destinationRead, secondChange⟩ :=
    rewriteAddress_spec (layout.mono firstChange) long txChecksumOffload
      destinationField kept destination
  refine ⟨oldSource, oldDestination, middle, packet', sourceFound,
    destinationFound, first, second, layout.mono firstChange, kept, ?_,
    destinationRead, ?_, fun position port => ?_⟩
  · apply addrAt?_congr secondChange sourceRead
    intro k low high
    exact not_rewriteAddressOctet layout.start destinationField sourceField different.symm low high
  · apply (firstChange.mono fun k covered => .inl covered).trans
    exact secondChange.mono fun k covered => .inr covered
  · have behind : ∀ {field}, family.AddressField field → ∀ k,
        tcpHdr.start ≤ k → k < tcpHdr.start + 4 → ¬RewriteAddressOctet family tcpHdr field k :=
      fun field k => not_rewriteAddressOctet_port layout.start field
    rw [secondChange.readU16_eq (behind destinationField _ (by omega) (by omega))
        (behind destinationField _ (by omega) (by omega)),
      firstChange.readU16_eq (behind sourceField _ (by omega) (by omega))
        (behind sourceField _ (by omega) (by omega))]

/-- The octets of the TCP header that rewriting may change. -/
def PortsOctet (tcpHdr : Slice) (k : Nat) : Prop :=
  (tcpHdr.start ≤ k ∧ k < tcpHdr.start + 4) ∨ TCP.ChecksumOctet tcpHdr k

/-- What is read from a packet whose ports were stored. -/
structure PortsWritten (tcpHdr : Slice) (source destination : Endpoint family)
    (packet packet' : Bytes) : Prop where
  source : readU16 packet' tcpHdr.start =
    if source.rewritePort then source.port
    else readU16 packet tcpHdr.start
  destination : readU16 packet' (tcpHdr.start + 2) =
    if destination.rewritePort then destination.port
    else readU16 packet (tcpHdr.start + 2)
  change : ChangedAt (PortsOctet tcpHdr) packet packet'

/-- The two ports do not overlap. -/
theorem PortWritten.both {middle packet' : Bytes} {source destination : Endpoint family}
    (first : PortWritten tcpHdr 0 source packet middle)
    (second : PortWritten tcpHdr 2 destination middle packet') :
    PortsWritten tcpHdr source destination packet packet' := by
  have sourceKept := @ChangedAt.readU16_eq _ _ _ second.change tcpHdr.start
  have destinationKept := @ChangedAt.readU16_eq _ _ _ first.change (tcpHdr.start + 2)
  unfold TCP.PortOctet TCP.ChecksumOctet at sourceKept destinationKept
  refine ⟨?_, ?_, ?_⟩
  · rw [sourceKept (by omega) (by omega)]
    exact first.read
  · rw [← destinationKept (by omega) (by omega)]
    exact second.read
  · apply (first.change.mono ?_).trans (second.change.mono ?_)
    · rintro k (port | sum)
      · exact .inl (by omega)
      · exact .inr sum
    · rintro k (port | sum)
      · exact .inl (by omega)
      · exact .inr sum

/-- What the checksum field gets last is not in the ports. -/
theorem PortsWritten.setChecksum {middle packet' : Bytes} {source destination : Endpoint family}
    (ports : PortsWritten tcpHdr source destination packet middle)
    (change : ChangedAt (TCP.ChecksumOctet tcpHdr) middle packet') :
    PortsWritten tcpHdr source destination packet packet' := by
  refine ⟨?_, ?_, ?_⟩
  · rw [change.readU16_eq ?_ ?_]
    · exact ports.source
    · unfold TCP.ChecksumOctet
      omega
    · unfold TCP.ChecksumOctet
      omega
  · rw [change.readU16_eq ?_ ?_]
    · exact ports.destination
    · unfold TCP.ChecksumOctet
      omega
    · unfold TCP.ChecksumOctet
      omega
  · apply ports.change.trans
    apply change.mono
    intro k covered
    exact .inr covered

/-- Both ports are stored, in the way that `store` does it. -/
theorem storePorts_spec {store : Bytes → Nat → UInt16 → Option Bytes}
    (stores : ∀ {packet position} port, tcpHdr.Inside packet →
      position ≤ 2 → ∃ packet', store packet position port = some packet' ∧
        readU16 packet' (tcpHdr.start + position) = port ∧
        ChangedAt (TCP.PortOctet tcpHdr position) packet packet')
    (inside : tcpHdr.Inside packet) (source destination : Endpoint family) :
    ∃ middle packet', source.storePort packet (store packet 0) = some middle ∧
        destination.storePort middle (store middle 2) = some packet' ∧
        PortWritten tcpHdr 0 source packet middle ∧
        PortsWritten tcpHdr source destination packet packet' := by
  obtain ⟨middle, sourceStored, sourceWritten⟩ :=
    storePort_spec 0 source fun port => stores port inside (Nat.zero_le 2)
  have inside' : tcpHdr.Inside middle := by
    unfold Slice.Inside
    rw [sourceWritten.change.length]
    exact inside
  obtain ⟨packet', destinationStored, destinationWritten⟩ :=
    storePort_spec 2 destination fun port =>
      stores port inside' (Nat.le_refl 2)
  exact ⟨middle, packet', sourceStored, destinationStored, sourceWritten,
    sourceWritten.both destinationWritten⟩

theorem rewriteTCP_spec (layout : Layout family packet tcpHdr)
    (long : 18 ≤ tcpHdr.length)
    (txChecksumOffload : Bool) (source destination : Endpoint family) :
    ∃ packet', rewriteTCP packet tcpHdr txChecksumOffload source destination = some packet' ∧
        Rewritten tcpHdr.start source destination packet packet' := by
  obtain ⟨oldSource, oldDestination, middle, addressed, sourceFound,
    destinationFound, first, second, -, -, sourceRead, destinationRead, change,
    portKept⟩ := rewriteAddresses_spec layout long txChecksumOffload source.addr destination.addr
  have inside := (layout.mono change).inside
  suffices stored : ∃ packet', rewriteTCP packet tcpHdr txChecksumOffload
      source destination = some packet' ∧
        PortsWritten tcpHdr source destination addressed packet' by
    obtain ⟨packet', result, ports⟩ := stored
    -- The addresses are not in the TCP header.
    have clear : ∀ {position}, family.AddressField position → ∀ k,
        position ≤ k → k < position + family.addressSize → ¬PortsOctet tcpHdr k := by
      intro position field k _ below
      have bound := addressField_inside field
      have start := layout.start
      unfold PortsOctet TCP.ChecksumOctet
      omega
    refine ⟨packet', result, ?_, ?_, ?_, ?_, ?_⟩
    · exact addrAt?_congr ports.change sourceRead (clear (.inl rfl))
    · exact addrAt?_congr ports.change destinationRead (clear (.inr rfl))
    · have kept : readU16 addressed tcpHdr.start =
          readU16 packet tcpHdr.start := portKept 0 (Nat.zero_le 2)
      rw [ports.source, kept]
    · rw [ports.destination, portKept 2 (Nat.le_refl 2)]
    · have consecutive : family.srcAddr + family.addressSize = family.dstAddr := by
        cases family <;> rfl
      apply (change.mono ?_).trans (ports.change.mono ?_)
      · rintro k (((header | field) | sum) | ((header | field) | sum))
        · exact .inl header
        · exact .inr (.inl (by omega))
        · exact .inr (.inr (.inr sum))
        · exact .inl header
        · exact .inr (.inl (by omega))
        · exact .inr (.inr (.inr sum))
      · rintro k (ports | sum)
        · exact .inr (.inr (.inl ports))
        · exact .inr (.inr (.inr sum))
  unfold rewriteTCP
  rw [bind_of_eq_some sourceFound, bind_of_eq_some destinationFound,
    bind_of_eq_some first, bind_of_eq_some second]
  cases txChecksumOffload with
  | true =>
    obtain ⟨ported, both, sourceStored, destinationStored, -, ports⟩ :=
      storePorts_spec (fun port inside low =>
        TCP.writePort_spec port inside (by omega)) inside source destination
    obtain ⟨packet', cleared, sumChange⟩ := @TCP.setChecksum?_spec both tcpHdr 0 long
    refine ⟨packet', ?_, ports.setChecksum sumChange⟩
    exact (bind_of_eq_some sourceStored).trans ((bind_of_eq_some destinationStored).trans cleared)
  | false =>
    obtain ⟨ported, packet', sourceStored, destinationStored, -, ports⟩ :=
      storePorts_spec (fun port inside low =>
        TCP.setPortWithChecksumUpdate?_spec port inside low long) inside
        source destination
    refine ⟨packet', ?_, ports⟩
    exact (bind_of_eq_some sourceStored).trans destinationStored

end Rewrite

end SingTun.System
