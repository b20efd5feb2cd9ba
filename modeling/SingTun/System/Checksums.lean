import SingTun.Header.Echo
import SingTun.System.Rewrite

/-!
# Rewriting keeps the checksums of a TCP packet

Without checksum offload, every store of `rewriteTCP` is followed or preceded
by an update of the checksums that cover it.  Each update replaces the old
words in the sum by the new ones, so that the sum over the IPv4 header and the
sum over the pseudo-header and the segment keep their residues.

The residue zero has two encodings.  A sum that is not zero decides between
them, and both sums here are never zero: the header has its own length in it,
and the pseudo-header the number of the protocol.
-/

namespace SingTun.System

open Foundation Header

/-- The address at a position of the IP header. -/
def addressOctets (family : Family) (packet : Bytes) (position : Nat) :
    Bytes :=
  window packet position family.addressSize

/-- The octets in front of the TCP header. -/
def headerOctets (packet : Bytes) (tcpHdr : Slice) : Bytes :=
  window packet 0 tcpHdr.start

/-- The pseudo-header of a TCP packet, summed. -/
def pseudoSum (family : Family) (packet : Bytes) (tcpHdr : Slice) : Nat :=
  pseudoHeaderSum tcpProtocolNumber (addressOctets family packet family.srcAddr)
    (addressOctets family packet family.dstAddr) tcpHdr.length

/-- The sum over the pseudo-header and the segment. -/
def tcpSum (family : Family) (packet : Bytes) (tcpHdr : Slice) : Nat :=
  pseudoSum family packet tcpHdr + wordSum (tcpHdr.octets packet)

/-- The sums of a packet have the residues that they had before. -/
structure SumsKept
    (family : Family) (tcpHdr : Slice) (packet packet' : Bytes) : Prop where
  length : packet'.length = packet.length
  header : family = .v4 → wordSum (headerOctets packet' tcpHdr) % 65535 =
      wordSum (headerOctets packet tcpHdr) % 65535
  segment : tcpSum family packet' tcpHdr % 65535 = tcpSum family packet tcpHdr % 65535

namespace SumsKept

variable {family : Family} {tcpHdr : Slice} {packet middle packet' : Bytes}

theorem refl : SumsKept family tcpHdr packet packet :=
  ⟨rfl, fun _ => rfl, rfl⟩

theorem trans (first : SumsKept family tcpHdr packet middle)
    (second : SumsKept family tcpHdr middle packet') :
    SumsKept family tcpHdr packet packet' :=
  ⟨second.length.trans first.length, fun v4 => (second.header v4).trans (first.header v4),
    second.segment.trans first.segment⟩

theorem layout (kept : SumsKept family tcpHdr packet packet')
    (layout : Layout family packet tcpHdr) :
    Layout family packet' tcpHdr := by
  refine ⟨layout.start, ?_⟩
  unfold Slice.Inside
  rw [kept.length]
  exact layout.inside

end SumsKept

section Stores

variable {family : Family} {packet : Bytes} {tcpHdr : Slice}

/-! ## Words of the segment -/

variable (layout : Layout family packet tcpHdr)
include layout

/-- What is stored behind the IP header is not in the sum over it. -/
theorem headerOctets_writeU16 (position : Nat) (value : UInt16) :
    headerOctets (writeU16 packet (tcpHdr.start + position) value) tcpHdr =
      headerOctets packet tcpHdr := by
  have inside := layout.inside
  unfold Slice.Inside at inside
  have change : ChangedAt (fun k => tcpHdr.start ≤ k) packet
      (writeU16 packet (tcpHdr.start + position) value) := by
    apply ChangedAt.writeU16
    · exact Nat.le_add_right _ _
    · omega
  apply change.window_eq (by omega)
  intro k _ _
  omega

variable {packet' : Bytes} {position : Nat}

theorem pseudoSum_congr {changed : Nat → Prop} (change : ChangedAt changed packet packet')
    (outside : ∀ k, k < family.minimumSize → ¬changed k) :
    pseudoSum family packet' tcpHdr = pseudoSum family packet tcpHdr := by
  have kept : ∀ position, family.AddressField position → addressOctets family packet' position =
        addressOctets family packet position := by
    intro position field
    have front := addressField_inside field
    apply change.window_eq (front.trans layout.long)
    intro k _ below
    exact outside k (by omega)
  unfold pseudoSum
  rw [kept _ (.inl rfl), kept _ (.inr rfl)]

/-- A word of the segment is replaced in its sum. -/
theorem tcpSum_writeU16 (value : UInt16)
    (aligned : position % 2 = 0)
    (inside : position + 2 ≤ tcpHdr.length) :
    tcpSum family (writeU16 packet (tcpHdr.start + position) value) tcpHdr +
        (readU16 packet (tcpHdr.start + position)).toNat =
      tcpSum family packet tcpHdr + value.toNat := by
  have start := layout.start
  have fits := layout.inside
  unfold Slice.Inside at fits
  have change : ChangedAt (fun k => tcpHdr.start + position ≤ k ∧
        k < tcpHdr.start + position + 2) packet
      (writeU16 packet (tcpHdr.start + position) value) := by
    apply ChangedAt.writeU16 <;> omega
  have replaced := wordSum_changed change fits (by omega) (by omega) (by omega) rfl
  rw [wordSum_window_two _ _ (by omega), wordSum_window_two _ _ (by rw [length_writeU16]; omega),
    readU16_writeU16_self (by omega)] at replaced
  have pseudo := pseudoSum_congr layout change (by intro k _; omega)
  unfold tcpSum Slice.octets
  omega

/-- A checksum whose update makes up for what was added to the sum. -/
theorem setChecksum?_sums (long : 18 ≤ tcpHdr.length) {xsum : UInt16}
    (result : TCP.setChecksum? packet tcpHdr xsum = some packet') :
    packet'.length = packet.length ∧
      headerOctets packet' tcpHdr = headerOctets packet tcpHdr ∧ tcpSum family packet' tcpHdr +
          (readU16 packet (tcpHdr.start + 16)).toNat =
        tcpSum family packet tcpHdr + xsum.toNat := by
  unfold TCP.setChecksum? at result
  rw [Slice.writeU16?_eq_some xsum long] at result
  cases result
  exact ⟨length_writeU16 _ _ _, headerOctets_writeU16 layout 16 xsum,
    tcpSum_writeU16 layout xsum rfl long⟩

/-! ## Ports -/

theorem setPortWithChecksumUpdate?_sums
    (long : 18 ≤ tcpHdr.length)
    (aligned : position % 2 = 0)
    (port : position ≤ 2)
    (new : UInt16)
    (result : TCP.setPortWithChecksumUpdate? packet tcpHdr position new = some packet') :
    SumsKept family tcpHdr packet packet' := by
  have inside := layout.inside
  unfold TCP.setPortWithChecksumUpdate? TCP.checksum? at result
  rw [Slice.readU16?_eq_some (by omega)] at result
  rw [Slice.writeU16?_eq_some new (by omega)] at result
  simp only [some_bind] at result
  rw [Slice.readU16?_eq_some (by omega)] at result
  have stored := tcpSum_writeU16 layout new aligned (by omega)
  have headerKept := headerOctets_writeU16 layout position new
  have middle : Layout family (writeU16 packet (tcpHdr.start + position) new) tcpHdr := by
    refine ⟨layout.start, ?_⟩
    unfold Slice.Inside
    rw [length_writeU16]
    exact inside
  obtain ⟨length, headerAgain, summed⟩ := setChecksum?_sums middle long result
  have update := complement_update_mod (checksumUpdate2ByteAlignedUint16_mod
      (~~~readU16 (writeU16 packet (tcpHdr.start + position) new)
        (tcpHdr.start + 16)) (readU16 packet (tcpHdr.start + position)) new)
  refine ⟨?_, ?_, ?_⟩
  · rw [length, length_writeU16]
  · intro v4
    rw [headerAgain, headerKept]
  · omega

theorem storePort_sums
    (long : 18 ≤ tcpHdr.length)
    (aligned : position % 2 = 0)
    (port : position ≤ 2)
    (endpoint : Endpoint family)
    (result : endpoint.storePort packet
      (TCP.setPortWithChecksumUpdate? packet tcpHdr position) = some packet') :
    SumsKept family tcpHdr packet packet' := by
  unfold Endpoint.storePort at result
  split at result
  · exact setPortWithChecksumUpdate?_sums layout long aligned port _ result
  · cases result
    exact .refl

/-! ## Addresses -/

/-- A new address is in the sum of the pseudo-header instead of the old one. -/
theorem tcpSum_address (field : family.AddressField position)
    {old new : Addr family} (found : addrAt? family packet position = some old)
    (stored : addrAt? family packet' position = some new)
    (change : ChangedAt (AddressOctet family position) packet packet') :
    tcpSum family packet' tcpHdr + wordSum old.octets =
      tcpSum family packet tcpHdr + wordSum new.octets := by
  have start := layout.start
  have front := addressField_inside field
  have minimum := family.twenty_le_minimumSize
  have segment : tcpHdr.octets packet' = tcpHdr.octets packet := by
    apply change.window_eq layout.inside
    rintro k low - (⟨-, sum⟩ | ⟨-, below⟩)
    · omega
    · omega
  have before : addressOctets family packet position = old.octets := (addrAt?_octets found).2
  have after : addressOctets family packet' position = new.octets := (addrAt?_octets stored).2
  have other : ∀ other, family.AddressField other → position ≠ other →
      addressOctets family packet' other = addressOctets family packet other := by
    intro other otherField different
    apply change.window_eq (Nat.le_trans (addressField_inside otherField) layout.long)
    intro k low high covered
    exact not_rewriteAddressOctet layout.start field otherField different low high (.inl covered)
  have apart : family.srcAddr ≠ family.dstAddr := by
    cases family <;> decide
  unfold tcpSum pseudoSum pseudoHeaderSum
  rw [segment]
  rcases field with rfl | rfl
  · rw [before, after, other _ (.inr rfl) apart]
    omega
  · rw [before, after, other _ (.inl rfl) apart.symm]
    omega

omit layout in
/-- The IPv4 header checksum is updated before the address is stored. -/
theorem setAddressWithChecksumUpdate?_header (layout : Layout .v4 packet tcpHdr)
    (field : Family.AddressField .v4 position) (new : Addr .v4)
    (result : setAddressWithChecksumUpdate? packet position new = some packet') :
    wordSum (headerOctets packet' tcpHdr) % 65535 =
      wordSum (headerOctets packet tcpHdr) % 65535 := by
  have start : 20 ≤ tcpHdr.start := layout.start
  have fits : tcpHdr.start + tcpHdr.length ≤ packet.length := layout.inside
  have place : position % 2 = 0 ∧ 12 ≤ position ∧ position + 4 ≤ 20 := by
    rcases field with rfl | rfl <;> decide
  obtain ⟨old, found, octets⟩ :=
    @exists_addrAt? .v4 packet position (by change position + 4 ≤ _; omega)
  simp only [setAddressWithChecksumUpdate?, IPv4.checksum?, IPv4.setChecksum?] at result
  rw [readU16?_eq_some (by omega), found] at result
  simp only [some_bind] at result
  have update := complement_update_mod (checksumUpdate2ByteAlignedAddress_mod (~~~readU16 packet 10)
      (old.length_octets.trans new.length_octets.symm) (by rw [old.length_octets]; rfl))
  generalize ~~~checksumUpdate2ByteAlignedAddress _ _ _ = xsum at update result
  rw [writeU16?_eq_some _ (by omega), some_bind] at result
  have summed : ChangedAt (fun k => 10 ≤ k ∧ k < 10 + 2) packet (writeU16 packet 10 xsum) := by
    apply ChangedAt.writeU16 <;> omega
  obtain ⟨stored, again, read, change⟩ := @setAddrAt?_spec .v4
    (writeU16 packet 10 xsum) position new (by rw [length_writeU16]; change position + 4 ≤ _; omega)
  cases result.symm.trans again
  -- The checksum first: the address is still the old one then.
  have first := @wordSum_changed _ _ 0 tcpHdr.start _ _ summed (by omega)
    (by omega) (by omega) rfl rfl
  have second := @wordSum_changed _ _ 0 tcpHdr.start _ _ change
    (by rw [length_writeU16]; omega) (by omega) (by change position + 4 ≤ _; omega) (by omega) rfl
  have kept : window (writeU16 packet 10 xsum) position 4 = old.octets := by
    rw [summed.window_eq (by omega) (by intro k _ _; omega)]
    exact octets
  have written : window packet' position 4 = new.octets := (addrAt?_octets read).2
  change _ + wordSum (window _ position 4) = _ + wordSum (window _ position 4) at second
  rw [kept, written] at second
  rw [wordSum_window_two _ _ (by omega), wordSum_window_two _ _ (by rw [length_writeU16]; omega),
    readU16_writeU16_self (by omega)] at first
  unfold headerOctets
  omega

theorem rewriteAddress_sums (long : 18 ≤ tcpHdr.length)
    (field : family.AddressField position)
    {old : Addr family} (found : addrAt? family packet position = some old) (new : Addr family)
    (result : rewriteAddress packet tcpHdr false position old new = some packet') :
    SumsKept family tcpHdr packet packet' := by
  unfold rewriteAddress at result
  by_cases same : new = old
  · rw [if_neg (not_not_intro same)] at result
    cases result
    exact .refl
  · rw [if_pos same] at result
    obtain ⟨middle, stored, read, change⟩ :=
      setAddressWithChecksumUpdate?_spec new field layout.long
    rw [stored] at result
    simp only [some_bind, Bool.false_eq_true, if_false] at result
    unfold TCP.updateChecksumPseudoHeaderAddress? TCP.checksum? at result
    rw [Slice.readU16?_eq_some (by omega)] at result
    simp only [some_bind, if_true] at result
    have added := tcpSum_address layout field found read change
    have even : old.octets.length % 2 = 0 := by
      rw [old.length_octets]
      cases family <;> rfl
    have update := complement_update_mod (checksumUpdate2ByteAlignedAddress_mod
        (~~~readU16 middle (tcpHdr.start + 16))
        (old.length_octets.trans new.length_octets.symm) even)
    obtain ⟨length, headerKept, summed⟩ := setChecksum?_sums (layout.mono change) long result
    refine ⟨length.trans change.length, ?_, ?_⟩
    · rintro rfl
      rw [headerKept]
      exact setAddressWithChecksumUpdate?_header layout field new stored
    · omega

end Stores

/-! ## The whole packet -/

/-- A packet with a complete TCP header behind a complete IP header. -/
structure CompleteTCP (family : Family) (packet : Bytes) (tcpHdr : Slice) :
    Prop where
  payload : payload? family packet = some tcpHdr
  header : family.minimumSize ≤ tcpHdr.start
  long : TCP.minimumSize ≤ tcpHdr.length

section Packets

variable {family : Family} {packet : Bytes} {tcpHdr : Slice}

theorem CompleteTCP.layout (complete : CompleteTCP family packet tcpHdr) :
    Layout family packet tcpHdr :=
  ⟨complete.header, (payload?_cases complete.payload).1⟩

theorem rewriteTCP_sums (layout : Layout family packet tcpHdr)
    (long : 18 ≤ tcpHdr.length)
    (source destination : Endpoint family) {packet' : Bytes}
    (result : rewriteTCP packet tcpHdr false source destination = some packet') :
    SumsKept family tcpHdr packet packet' := by
  obtain ⟨oldSource, oldDestination, middle, addressed, sourceFound,
    destinationFound, first, second, between, kept, -⟩ :=
      rewriteAddresses_spec layout long false source.addr destination.addr
  unfold rewriteTCP at result
  rw [bind_of_eq_some sourceFound, bind_of_eq_some destinationFound,
    bind_of_eq_some first, bind_of_eq_some second, if_neg (by decide)] at result
  obtain ⟨ported, third, fourth⟩ := Option.bind_eq_some_iff.mp result
  have firstKept := rewriteAddress_sums layout long (.inl rfl) sourceFound _ first
  have secondKept := rewriteAddress_sums between long (.inr rfl) kept _ second
  have bothKept := firstKept.trans secondKept
  have thirdKept := storePort_sums (bothKept.layout layout) long
    (Nat.zero_mod 2) (Nat.zero_le 2) source third
  have portedKept := bothKept.trans thirdKept
  have fourthKept := storePort_sums (portedKept.layout layout) long
    (Nat.mod_self 2) (Nat.le_refl 2) destination fourth
  exact portedKept.trans fourthKept

/-! ## Receivers -/

/-- The IPv4 header in front of a segment is not all zeros. -/
theorem CompleteTCP.header_pos (complete : CompleteTCP .v4 packet tcpHdr) :
    0 < wordSum (headerOctets packet tcpHdr) := by
  have start : 20 ≤ tcpHdr.start := complete.header
  obtain ⟨headerLength, read, same⟩ := headerLength?_of_payload? complete.payload
  have inside : 0 < packet.length := by
    have fits := complete.layout.long
    change 20 ≤ packet.length at fits
    omega
  apply wordSum_pos
  unfold headerOctets
  rw [byteAt_window (by omega)]
  intro zero
  unfold IPv4.headerLength? at read
  rw [byteAt?_eq_some inside, zero] at read
  cases Option.some.inj read
  rw [← same] at start
  cases start

/-- Rewriting leaves the lengths and the version of the header alone. -/
theorem CompleteTCP.rewritten {source destination : Endpoint family} {packet' : Bytes}
    (complete : CompleteTCP family packet tcpHdr)
    (rewritten : Rewritten tcpHdr.start source destination packet packet') :
    CompleteTCP family packet' tcpHdr := by
  refine ⟨?_, complete.header, complete.long⟩
  have start := complete.header
  rw [← complete.payload]
  apply payload?_congr rewritten.change
  intro k octet
  cases family with
  | v4 =>
    change 20 ≤ tcpHdr.start at start
    change k = 0 ∨ k = 2 ∨ k = 3 ∨ k = 9 at octet
    change ¬((_ ∧ _) ∨ (12 ≤ k ∧ k < 16 + 4) ∨ _)
    omega
  | v6 =>
    change 40 ≤ tcpHdr.start at start
    change k = 0 ∨ k = 4 ∨ k = 5 ∨ k = 6 at octet
    change ¬((_ ∧ _) ∨ (8 ≤ k ∧ k < 24 + 16) ∨ _)
    omega

/-- What a receiver finds by the checksums of a packet. -/
def TCPChecksumValid (family : Family) (packet : Bytes) (tcpHdr : Slice) : Prop :=
  TransportChecksumValid tcpProtocolNumber (addressOctets family packet family.srcAddr)
    (addressOctets family packet family.dstAddr) (tcpHdr.octets packet)

instance (family : Family) (packet : Bytes) (tcpHdr : Slice) :
    Decidable (TCPChecksumValid family packet tcpHdr) :=
  inferInstanceAs (Decidable (TransportChecksumValid _ _ _ _))

/-- The number of the protocol is in the sum. -/
theorem tcpSum_pos (family : Family) (packet : Bytes) (tcpHdr : Slice) :
    0 < tcpSum family packet tcpHdr := by
  have protocol : tcpProtocolNumber.toNat = 6 := rfl
  unfold tcpSum pseudoSum pseudoHeaderSum
  omega

/--
Rewriting a packet with a complete TCP header keeps the residue of every sum,
and the receiver accepts the new packet exactly if it accepts the old one.
-/
theorem rewriteTCP_keeps_checksums (complete : CompleteTCP family packet tcpHdr)
    (source destination : Endpoint family) :
    ∃ packet',
      rewriteTCP packet tcpHdr false source destination = some packet' ∧
        Rewritten tcpHdr.start source destination packet packet' ∧
        SumsKept family tcpHdr packet packet' ∧
        (family = .v4 → (IPv4ChecksumValid (headerOctets packet' tcpHdr) ↔
            IPv4ChecksumValid (headerOctets packet tcpHdr))) ∧
        (TCPChecksumValid family packet' tcpHdr ↔ TCPChecksumValid family packet tcpHdr) := by
  have long : 18 ≤ tcpHdr.length := Nat.le_trans (by decide) complete.long
  obtain ⟨packet', result, rewritten⟩ :=
    rewriteTCP_spec complete.layout long false source destination
  have kept := rewriteTCP_sums complete.layout long source destination result
  have complete' := complete.rewritten rewritten
  refine ⟨packet', result, rewritten, kept, ?_, ?_⟩
  · rintro rfl
    have residue := kept.header rfl
    apply balanced_congr
    · rw [Nat.zero_add, Nat.zero_add]
      exact residue
    · rw [Nat.zero_add]
      exact complete'.header_pos
    · rw [Nat.zero_add]
      exact complete.header_pos
  · have residue := kept.segment
    unfold TCPChecksumValid TransportChecksumValid
    rw [Slice.length_octets complete.layout.inside, Slice.length_octets complete'.layout.inside]
    exact balanced_congr residue (tcpSum_pos _ _ _) (tcpSum_pos _ _ _)

end Packets

/-- A packet from 10.0.0.1 to 10.0.0.2 whose checksums are valid. -/
def summedPacket : Bytes :=
  [69, 0, 0, 40, 0, 0, 0, 0, 64, 6, 102, 206, 10, 0, 0, 1, 10, 0, 0, 2,
    156, 64, 0, 80, 0, 0, 0, 1, 0, 0, 0, 0, 80, 2, 255, 255, 255, 78, 0, 0]

/-- A valid packet is sent on from another address and port, and is valid. -/
theorem rewriteTCP_keeps_checksums_summed :
    ∃ packet', rewriteTCP summedPacket ⟨20, 20⟩ false
        (⟨⟨[172, 19, 0, 2], rfl⟩, 10000, true⟩ : Endpoint .v4)
        ⟨⟨[172, 19, 0, 1], rfl⟩, 80, false⟩ = some packet' ∧
      IPv4ChecksumValid (headerOctets packet' ⟨20, 20⟩) ∧
      TCPChecksumValid .v4 packet' ⟨20, 20⟩ := by
  have complete : CompleteTCP .v4 summedPacket ⟨20, 20⟩ := ⟨by decide, by decide, by decide⟩
  obtain ⟨packet', result, -, -, header, segment⟩ :=
    rewriteTCP_keeps_checksums complete (⟨⟨[172, 19, 0, 2], rfl⟩, 10000, true⟩ : Endpoint .v4)
      ⟨⟨[172, 19, 0, 1], rfl⟩, 80, false⟩
  exact ⟨packet', result, (header rfl).mpr (by decide), segment.mpr (by decide)⟩

end SingTun.System
