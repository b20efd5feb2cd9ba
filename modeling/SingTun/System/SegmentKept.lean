import SingTun.System.Rewrite

/-!
# Rewriting that leaves the segment as it is

`rewriteTCP` stores ports and a checksum behind the IP header.  A segment is
the same afterwards only if it has these ports already and if the checksum
does not change.  The checksum after the update of the addresses is known
exactly, not only its residue.
-/

namespace SingTun.System

open Foundation Header Option

theorem checksumUpdate2ByteAlignedAddress_self (xsum : UInt16) (addr : Bytes) :
    checksumUpdate2ByteAlignedAddress xsum addr addr = xsum := by
  induction addr using wordSum.induct generalizing xsum with
  | case1 => rfl
  | case2 octet => rfl
  | case3 high low rest ih =>
    rw [checksumUpdate2ByteAlignedAddress, ih]
    exact if_pos rfl

theorem checksumUpdate2ByteAlignedAddress_append
    (xsum : UInt16) {old new : Bytes} (oldRest newRest : Bytes)
    (length : old.length = new.length)
    (aligned : old.length % 2 = 0) :
    checksumUpdate2ByteAlignedAddress xsum (old ++ oldRest) (new ++ newRest) =
      checksumUpdate2ByteAlignedAddress
        (checksumUpdate2ByteAlignedAddress xsum old new) oldRest newRest := by
  induction old using wordSum.induct generalizing xsum new with
  | case1 =>
    have empty : new = [] := List.length_eq_zero_iff.mp length.symm
    rw [empty]
    rfl
  | case2 octet => simp at aligned
  | case3 oldHigh oldLow old ih =>
    obtain _ | ⟨newHigh, _ | ⟨newLow, new⟩⟩ := new
    · simp at length
    · simp at length
    simp only [List.length_cons] at length aligned
    exact ih _ (by omega) (by omega)

section Sums

variable {family : Family} {packet packet' : Bytes} {tcpHdr : Slice}

variable (layout : Layout family packet tcpHdr)
include layout

/-- An address is replaced in the checksum. -/
theorem rewriteAddress_sum (long : 18 ≤ tcpHdr.length)
    {position : Nat} (field : family.AddressField position) {old new : Addr family}
    (rewritten : rewriteAddress packet tcpHdr false position old new = some packet') :
    readU16 packet' (tcpHdr.start + 16) = ~~~checksumUpdate2ByteAlignedAddress
        (~~~readU16 packet (tcpHdr.start + 16)) old.octets new.octets := by
  unfold rewriteAddress at rewritten
  split at rewritten
  · obtain ⟨middle, stored, -, change⟩ := setAddressWithChecksumUpdate?_spec new field layout.long
    have start := layout.start
    have front := addressField_inside field
    have inside := (layout.mono change).inside
    unfold Slice.Inside at inside
    have kept : readU16 middle (tcpHdr.start + 16) = readU16 packet (tcpHdr.start + 16) := by
      refine change.readU16_eq ?_ ?_
      · unfold AddressOctet
        omega
      · unfold AddressOctet
        omega
    rw [stored] at rewritten
    simp only [some_bind, Bool.false_eq_true,
      if_false, TCP.updateChecksumPseudoHeaderAddress?, TCP.checksum?,
      TCP.setChecksum?] at rewritten
    rw [Slice.readU16?_eq_some (by omega)] at rewritten
    simp only [some_bind, if_true] at rewritten
    rw [Slice.writeU16?_eq_some _ (by omega)] at rewritten
    cases rewritten
    rw [readU16_writeU16_self (by omega), kept]
  · rename_i same
    cases rewritten
    rw [not_not.mp same, checksumUpdate2ByteAlignedAddress_self, UInt16.not_not]

omit layout in
/-- A port that is there already is no change of the checksum. -/
theorem storePort_sum (inside : tcpHdr.Inside packet)
    (long : 18 ≤ tcpHdr.length)
    {position : Nat} (port : position ≤ 2) {endpoint : Endpoint family}
    (kept : endpoint.rewritePort = true →
      endpoint.port = readU16 packet (tcpHdr.start + position))
    (stored : endpoint.storePort packet
      (TCP.setPortWithChecksumUpdate? packet tcpHdr position) = some packet') :
    readU16 packet' (tcpHdr.start + 16) = readU16 packet (tcpHdr.start + 16) := by
  unfold Slice.Inside at inside
  unfold Endpoint.storePort at stored
  split at stored
  · rename_i rewrite
    rw [kept rewrite] at stored
    unfold TCP.setPortWithChecksumUpdate? TCP.checksum? TCP.setChecksum? at stored
    rw [Slice.readU16?_eq_some (by omega)] at stored
    rw [Slice.writeU16?_eq_some _ (by omega)] at stored
    simp only [some_bind] at stored
    rw [Slice.readU16?_eq_some (by omega)] at stored
    simp only [some_bind] at stored
    rw [Slice.writeU16?_eq_some _ (by omega)] at stored
    cases stored
    rw [readU16_writeU16_self (by rw [length_writeU16]; omega),
      checksumUpdate2ByteAlignedUint16, if_pos rfl, UInt16.not_not]
    exact readU16_writeU16_of_disjoint (by omega)
  · cases stored
    rfl

/-- The checksum behind the addresses, when the ports stay. -/
theorem rewriteTCP_sum (long : 18 ≤ tcpHdr.length) {oldSource oldDestination : Addr family}
    (sourced : sourceAddr? family packet = some oldSource)
    (addressed : destinationAddr? family packet = some oldDestination)
    {source destination : Endpoint family}
    (sourcePort : source.rewritePort = true → source.port = readU16 packet tcpHdr.start)
    (destinationPort : destination.rewritePort = true →
      destination.port = readU16 packet (tcpHdr.start + 2))
    (rewritten : rewriteTCP packet tcpHdr false source destination = some packet') :
    readU16 packet' (tcpHdr.start + 16) = ~~~checksumUpdate2ByteAlignedAddress
        (~~~readU16 packet (tcpHdr.start + 16)) (oldSource.octets ++ oldDestination.octets)
        (source.addr.octets ++ destination.addr.octets) := by
  obtain ⟨oldSource', oldDestination', middle, ready, sourceFound,
    destinationFound, first, second, between, -, -, -, change, portKept⟩ :=
      rewriteAddresses_spec layout long false source.addr destination.addr
  cases sourced.symm.trans sourceFound
  cases addressed.symm.trans destinationFound
  have summed := rewriteAddress_sum between long (.inr rfl : family.AddressField _) second
  rw [rewriteAddress_sum layout long (.inl rfl : family.AddressField _)
    first, UInt16.not_not] at summed
  have aligned : oldSource.octets.length = source.addr.octets.length ∧
      oldSource.octets.length % 2 = 0 := by
    rw [oldSource.length_octets, source.addr.length_octets]
    cases family <;> decide
  rw [checksumUpdate2ByteAlignedAddress_append _ _ _ aligned.1 aligned.2, ← summed]
  -- The ports come last, and they are in the packet already.
  unfold rewriteTCP at rewritten
  simp only [sourced, addressed, first, second, some_bind, Bool.false_eq_true,
    if_false] at rewritten
  obtain ⟨ported, sourceStored, destinationStored⟩ := bind_eq_some_iff.mp rewritten
  have inside := (layout.mono change).inside
  obtain ⟨ported', sourceStored', written⟩ :=
    @storePort_spec family ready tcpHdr 0 source _ fun port =>
      TCP.setPortWithChecksumUpdate?_spec port inside (Nat.zero_le 2) long
  cases sourceStored.symm.trans sourceStored'
  have inside' : tcpHdr.Inside ported := by
    unfold Slice.Inside
    rw [written.change.length]
    exact inside
  have destinationKept : readU16 ported (tcpHdr.start + 2) = readU16 ready (tcpHdr.start + 2) := by
    refine written.change.readU16_eq ?_ ?_
    · unfold TCP.PortOctet TCP.ChecksumOctet
      omega
    · unfold TCP.PortOctet TCP.ChecksumOctet
      omega
  rw [storePort_sum inside' long (Nat.le_refl 2) (fun rewrite =>
    (destinationPort rewrite).trans ((portKept 2 (Nat.le_refl 2)).symm.trans
      destinationKept.symm)) destinationStored]
  exact storePort_sum inside long (Nat.zero_le 2) (fun rewrite =>
    (sourcePort rewrite).trans (portKept 0 (Nat.zero_le 2)).symm) sourceStored

/-- With offload the field is cleared for the device. -/
theorem rewriteTCP_sum_offload (long : 18 ≤ tcpHdr.length) {source destination : Endpoint family}
    (rewritten : rewriteTCP packet tcpHdr true source destination = some packet') :
    readU16 packet' (tcpHdr.start + 16) = 0 := by
  have inside := layout.inside
  unfold Slice.Inside at inside
  obtain ⟨packet'', rewritten', read⟩ := rewriteTCP_spec layout long true source destination
  cases rewritten.symm.trans rewritten'
  have length := read.change.length
  obtain ⟨oldSource, -, rewritten⟩ := bind_eq_some_iff.mp rewritten
  obtain ⟨oldDestination, -, rewritten⟩ := bind_eq_some_iff.mp rewritten
  obtain ⟨first, -, rewritten⟩ := bind_eq_some_iff.mp rewritten
  obtain ⟨second, -, rewritten⟩ := bind_eq_some_iff.mp rewritten
  obtain ⟨third, -, rewritten⟩ := bind_eq_some_iff.mp rewritten
  obtain ⟨last, -, cleared⟩ := bind_eq_some_iff.mp rewritten
  unfold TCP.setChecksum? at cleared
  rw [Slice.writeU16?_eq_some _ (by omega)] at cleared
  cases cleared
  rw [length_writeU16] at length
  exact readU16_writeU16_self (by omega)

end Sums

/-! ## Segments -/

/-- The segment has the new ports, and its checksum does not change. -/
structure SegmentKept {family : Family} (packet : Bytes) (tcpHdr : Slice)
    (txChecksumOffload : Bool) (oldSource oldDestination : Addr family)
    (source destination : Endpoint family) : Prop where
  sourcePort : source.rewritePort = true → source.port = readU16 packet tcpHdr.start
  destinationPort : destination.rewritePort = true →
    destination.port = readU16 packet (tcpHdr.start + 2)
  checksum :
    if txChecksumOffload then readU16 packet (tcpHdr.start + 16) = 0
    else ChecksumKept (readU16 packet (tcpHdr.start + 16))
      (oldSource.octets ++ oldDestination.octets) (source.addr.octets ++ destination.addr.octets)

section Segments

variable {family : Family} {packet packet' : Bytes} {tcpHdr : Slice}

/-- Two words are the same if their octets are. -/
theorem octets_of_readU16
    {position : Nat} (same : readU16 packet' position = readU16 packet position)
    {k : Nat} (here : k = position ∨ k = position + 1) :
    byteAt packet' k = byteAt packet k := by
  have value := congrArg UInt16.toNat same
  rw [readU16_toNat, readU16_toNat] at value
  have bound := (byteAt packet (position + 1)).toNat_lt
  have bound' := (byteAt packet' (position + 1)).toNat_lt
  apply UInt8.toNat_inj.mp
  rcases here with rfl | rfl
  · omega
  · omega

/-- Behind the IP header there are the ports and the checksum to compare. -/
theorem Rewritten.drop_eq_iff {source destination : Endpoint family}
    (rewritten : Rewritten tcpHdr.start source destination packet packet')
    (layout : Layout family packet tcpHdr) :
    packet'.drop tcpHdr.start = packet.drop tcpHdr.start ↔
      readU16 packet' tcpHdr.start = readU16 packet tcpHdr.start ∧
      readU16 packet' (tcpHdr.start + 2) = readU16 packet (tcpHdr.start + 2) ∧
      readU16 packet' (tcpHdr.start + 16) = readU16 packet (tcpHdr.start + 16) := by
  constructor
  · intro same
    have word : ∀ position, readU16 packet' (tcpHdr.start + position) =
        readU16 packet (tcpHdr.start + position) := by
      intro position
      have octet : ∀ k, byteAt packet' (tcpHdr.start + k) = byteAt packet (tcpHdr.start + k) := by
        intro k
        rw [← byteAt_drop, same, byteAt_drop]
      exact readU16_congr (octet position) (octet (position + 1))
    exact ⟨word 0, word 2, word 16⟩
  · rintro ⟨sourcePort, destinationPort, checksum⟩
    apply bytes_ext
    · rw [List.length_drop, List.length_drop, rewritten.change.length]
    · intro k _
      rw [byteAt_drop, byteAt_drop]
      have start := layout.start
      have fields : family.dstAddr + family.addressSize = family.minimumSize := by
        cases family <;> rfl
      have minimum := family.twenty_le_minimumSize
      by_cases first : k < 2
      · exact octets_of_readU16 sourcePort (by omega)
      by_cases second : k < 4
      · exact octets_of_readU16 destinationPort (by omega)
      by_cases third : k = 16 ∨ k = 17
      · exact octets_of_readU16 checksum (by omega)
      · apply rewritten.change.octets
        unfold RewrittenOctet
        omega

/-- What rewriting leaves of a segment. -/
theorem rewriteTCP_kept_iff (layout : Layout family packet tcpHdr)
    (long : 18 ≤ tcpHdr.length)
    {oldSource oldDestination : Addr family}
    (sourced : sourceAddr? family packet = some oldSource)
    (addressed : destinationAddr? family packet = some oldDestination)
    {txChecksumOffload : Bool} {source destination : Endpoint family}
    (rewritten : rewriteTCP packet tcpHdr txChecksumOffload source destination = some packet') :
    packet'.drop tcpHdr.start = packet.drop tcpHdr.start ↔
      SegmentKept packet tcpHdr txChecksumOffload oldSource oldDestination source destination := by
  obtain ⟨packet'', rewritten', read⟩ :=
    rewriteTCP_spec layout long txChecksumOffload source destination
  cases rewritten.symm.trans rewritten'
  rw [read.drop_eq_iff layout, read.sourcePort, read.destinationPort]
  have ports : ∀ (endpoint : Endpoint family) (old : UInt16),
      (if endpoint.rewritePort then endpoint.port else old) = old ↔
        (endpoint.rewritePort = true → endpoint.port = old) := by
    intro endpoint old
    cases endpoint.rewritePort <;> simp
  rw [ports, ports]
  have lengths : (oldSource.octets ++ oldDestination.octets).length =
        (source.addr.octets ++ destination.addr.octets).length ∧
      (oldSource.octets ++ oldDestination.octets).length % 2 = 0 := by
    simp only [List.length_append, Addr.length_octets]
    cases family <;> decide
  have sum : ∀ (_ : source.rewritePort = true → source.port = readU16 packet tcpHdr.start)
      (_ : destination.rewritePort = true → destination.port = readU16 packet (tcpHdr.start + 2)),
      readU16 packet' (tcpHdr.start + 16) = readU16 packet (tcpHdr.start + 16) ↔
        (if txChecksumOffload then readU16 packet (tcpHdr.start + 16) = 0
        else ChecksumKept (readU16 packet (tcpHdr.start + 16))
          (oldSource.octets ++ oldDestination.octets)
          (source.addr.octets ++ destination.addr.octets)) := by
    intro sourcePort destinationPort
    cases txChecksumOffload with
    | true =>
      rw [rewriteTCP_sum_offload layout long rewritten, if_pos rfl]
      exact eq_comm
    | false =>
      rw [rewriteTCP_sum layout long sourced addressed sourcePort destinationPort rewritten,
        complement_update_eq_iff _ lengths.1 lengths.2]
      exact Iff.rfl
  constructor
  · rintro ⟨sourcePort, destinationPort, same⟩
    exact ⟨sourcePort, destinationPort, (sum sourcePort destinationPort).mp same⟩
  · rintro ⟨sourcePort, destinationPort, kept⟩
    exact ⟨sourcePort, destinationPort, (sum sourcePort destinationPort).mpr kept⟩

end Segments

end SingTun.System
