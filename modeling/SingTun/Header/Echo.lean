import SingTun.Header.Transport

/-!
# ICMP messages behind their IP header

The stores that are made to the packets of echo requests and replies change
addresses, identifiers and checksums.  They do not change where the message
is, and a checksum that is computed again is valid.
-/

namespace SingTun.Header

open Foundation

/-! ## The layout of a packet -/

section Layout

variable {family : Family} {b b' : Bytes} {changed : Nat → Prop}

/-- The octets that say where the payload is and what it is. -/
def LayoutOctet : Family → Nat → Prop
  | .v4, k => k = 0 ∨ k = 2 ∨ k = 3 ∨ k = 9
  | .v6, k => k = 0 ∨ k = 4 ∨ k = 5 ∨ k = 6

variable (change : ChangedAt changed b b')
include change

variable (kept : ∀ k, LayoutOctet family k → ¬changed k)
include kept

theorem ipVersion_congr : ipVersion b' = ipVersion b := by
  have first : ¬changed 0 := by
    apply kept
    cases family <;> exact .inl rfl
  unfold ipVersion
  rw [change.length, change.octets 0 first]

theorem transportProtocol?_congr : transportProtocol? family b' = transportProtocol? family b := by
  cases family with
  | v4 =>
    have octet := change.octets 9 (kept 9 (by simp [LayoutOctet]))
    simp only [transportProtocol?, byteAt?, change.length, octet]
  | v6 =>
    have octet := change.octets 6 (kept 6 (by simp [LayoutOctet]))
    simp only [transportProtocol?, byteAt?, change.length, octet]

omit kept in
theorem headerLength?_congr (kept : ¬changed 0) : IPv4.headerLength? b' = IPv4.headerLength? b := by
  unfold IPv4.headerLength? byteAt?
  rw [change.length, change.octets 0 kept]

theorem payload?_congr : payload? family b' = payload? family b := by
  cases family with
  | v4 =>
    have total : readU16 b' 2 = readU16 b 2 :=
      change.readU16_eq (kept 2 (by simp [LayoutOctet])) (kept 3 (by simp [LayoutOctet]))
    have header := headerLength?_congr change (kept 0 (by simp [LayoutOctet]))
    simp only [payload?, IPv4.payloadLength?, IPv4.totalLength?, readU16?,
      header, total, change.length]
  | v6 =>
    have total : readU16 b' 4 = readU16 b 4 :=
      change.readU16_eq (kept 4 (by simp [LayoutOctet])) (kept 5 (by simp [LayoutOctet]))
    simp only [payload?, IPv6.payloadLength?, readU16?, total, change.length]

theorem isValid_congr : isValid family b' b'.length = isValid family b b.length := by
  have version := ipVersion_congr change kept
  cases family with
  | v4 =>
    have first := change.octets 0 (kept 0 (by simp [LayoutOctet]))
    have total : readU16 b' 2 = readU16 b 2 :=
      change.readU16_eq (kept 2 (by simp [LayoutOctet])) (kept 3 (by simp [LayoutOctet]))
    simp only [isValid, version, first, total, change.length]
  | v6 =>
    have total : readU16 b' 4 = readU16 b 4 :=
      change.readU16_eq (kept 4 (by simp [LayoutOctet])) (kept 5 (by simp [LayoutOctet]))
    simp only [isValid, version, total, change.length]

end Layout

/-! ## Checksums -/

section Seal

variable {family : Family} {packet : Bytes} {icmpHdr : Slice}

/-- The header checksum is computed again for IPv4. -/
def sealHeader? (family : Family) (packet : Bytes) : Option Bytes :=
  match family with
  | .v4 => do
      let xsum ← IPv4.calculateChecksum? packet
      IPv4.setChecksum? packet (~~~xsum)
  | .v6 => some packet

/-- The checksum of an ICMPv4 message is computed again. -/
def sealICMPv4? (packet : Bytes) (icmpHdr : Slice) : Option Bytes := do
  let xsum ← ICMP.icmpv4Checksum? (icmpHdr.octets packet) 0
  ICMP.setChecksum? packet icmpHdr xsum

/-- The checksum of an ICMPv6 message between two addresses. -/
def sealICMPv6? (src dst : Bytes) (packet : Bytes) (icmpHdr : Slice) : Option Bytes := do
  let xsum ← ICMP.icmpv6Checksum? (icmpHdr.octets packet) src dst 0 0
  ICMP.setChecksum? packet icmpHdr xsum

/-- The octets of the header checksum. -/
def HeaderSumOctet (family : Family) (k : Nat) : Prop :=
  family = .v4 ∧ (k = 10 ∨ k = 11)

/-- The octets of the checksum of a message. -/
def MessageSumOctet (icmpHdr : Slice) (k : Nat) : Prop :=
  k = icmpHdr.start + 2 ∨ k = icmpHdr.start + 3

theorem sealHeader?_eq_some
    (found : payload? .v4 packet = some icmpHdr)
    (behind : 20 ≤ icmpHdr.start)
    (inside : icmpHdr.Inside packet) :
    sealHeader? .v4 packet = some (writeU16 packet 10
      (~~~checksum ((packet.take icmpHdr.start).drop 12)
        (checksum ((packet.take icmpHdr.start).take 10) 0))) := by
  obtain ⟨headerLength, header, start⟩ := headerLength?_of_payload? found
  unfold Slice.Inside at inside
  simp only [sealHeader?, IPv4.calculateChecksum?, IPv4.setChecksum?, header]
  rw [slice?_eq_some (show 0 ≤ 10 by omega) (show 10 ≤ packet.length by omega)]
  simp only [some_bind, Option.pure_def]
  rw [slice?_eq_some (show 12 ≤ headerLength.toNat by omega)
    (show headerLength.toNat ≤ packet.length by omega)]
  simp only [some_bind]
  rw [writeU16?_eq_some _ (by omega), start, List.drop_take, List.take_take,
    Nat.min_eq_left (by omega)]
  rfl

theorem sealHeader?_spec (found : payload? family packet = some icmpHdr)
    (behind : family.minimumSize ≤ icmpHdr.start)
    (inside : icmpHdr.Inside packet) :
    ∃ packet', sealHeader? family packet = some packet' ∧
      ChangedAt (HeaderSumOctet family) packet packet' := by
  cases family with
  | v4 =>
    refine ⟨_, sealHeader?_eq_some found behind inside, ?_⟩
    apply ChangedAt.writeU16
    · exact ⟨rfl, .inl rfl⟩
    · exact ⟨rfl, .inr rfl⟩
  | v6 => exact ⟨packet, rfl, .refl⟩

/-- The header in front of a payload, as its receiver tests it. -/
def HeaderChecksumValid (family : Family) (packet : Bytes) (payload : Slice) :
    Prop :=
  match family with
  | .v4 => IPv4ChecksumValid (packet.take payload.start)
  | .v6 => True

theorem sealHeader?_valid {packet' : Bytes} (found : payload? family packet = some icmpHdr)
    (behind : family.minimumSize ≤ icmpHdr.start)
    (inside : icmpHdr.Inside packet)
    (seals : sealHeader? family packet = some packet') :
    HeaderChecksumValid family packet' icmpHdr := by
  cases family with
  | v4 =>
    rw [sealHeader?_eq_some found behind inside] at seals
    cases seals
    unfold HeaderChecksumValid IPv4ChecksumValid
    rw [take_writeU16]
    apply balanced_of_skipped_checksum 0 0 _ 10 rfl
    · unfold Slice.Inside at inside
      change 20 ≤ icmpHdr.start at behind
      rw [List.length_take]
      omega
    · rfl
  | v6 => trivial

/-- What comes behind the header does not matter for its checksum. -/
theorem HeaderChecksumValid.congr {changed : Nat → Prop} {packet' : Bytes}
    (valid : HeaderChecksumValid family packet icmpHdr)
    (change : ChangedAt changed packet packet')
    (behind : ∀ k, changed k → icmpHdr.start ≤ k) :
    HeaderChecksumValid family packet' icmpHdr := by
  have same : packet'.take icmpHdr.start = packet.take icmpHdr.start := by
    apply bytes_ext
    · rw [List.length_take, List.length_take, change.length]
    · intro k inside
      rw [List.length_take] at inside
      rw [byteAt_take (by omega), byteAt_take (by omega)]
      refine change.octets k fun octet => ?_
      have := behind k octet
      omega
  cases family with
  | v4 =>
    unfold HeaderChecksumValid at valid ⊢
    rw [same]
    exact valid
  | v6 => trivial

theorem setChecksum?_changed (xsum : UInt16) (long : 4 ≤ icmpHdr.length) :
    ∃ packet', ICMP.setChecksum? packet icmpHdr xsum = some packet' ∧
      ChangedAt (MessageSumOctet icmpHdr) packet packet' := by
  refine ⟨_, Slice.writeU16?_eq_some xsum (by omega), ?_⟩
  apply ChangedAt.writeU16
  · exact .inl rfl
  · exact .inr rfl

/-- A message of a family between two addresses, as its receiver tests it. -/
def MessageChecksumValid (family : Family) (src dst message : Bytes) : Prop :=
  match family with
  | .v4 => Balanced 0 message
  | .v6 => TransportChecksumValid icmpv6ProtocolNumber src dst message

/-- The checksum of a message is computed again. -/
def sealEcho? (family : Family) (src dst : Bytes) (packet : Bytes)
    (icmpHdr : Slice) : Option Bytes :=
  match family with
  | .v4 => sealICMPv4? packet icmpHdr
  | .v6 => sealICMPv6? src dst packet icmpHdr

/-- A store inside of a slice is one to its octets. -/
theorem octets_writeU16 (position : Nat) (value : UInt16) :
    icmpHdr.octets (writeU16 packet (icmpHdr.start + position) value) =
      writeU16 (icmpHdr.octets packet) position value := by
  unfold Slice.octets window
  rw [drop_writeU16_of_le (by omega), take_writeU16, Nat.add_sub_cancel_left]

/-- The sum that the checksum of a message starts with. -/
def messageSum (family : Family) (src dst : Bytes) (length : Nat) : Nat :=
  match family with
  | .v4 => 0
  | .v6 => pseudoHeaderSum icmpv6ProtocolNumber src dst length

theorem sealEcho?_eq_some (src dst : Bytes) (long : 4 ≤ icmpHdr.length)
    (small : icmpHdr.length < 65536)
    (inside : icmpHdr.Inside packet) :
    ∃ folded : UInt16,
      folded.toNat = foldCarry (messageSum family src dst icmpHdr.length) ∧
      sealEcho? family src dst packet icmpHdr = some (writeU16 packet (icmpHdr.start + 2)
          (~~~checksum ((icmpHdr.octets packet).drop 4)
            (checksum ((icmpHdr.octets packet).take 2) folded))) := by
  have length := Slice.length_octets inside
  have octets : 4 ≤ (icmpHdr.octets packet).length := by
    rw [length]
    exact long
  cases family with
  | v4 =>
    refine ⟨0, rfl, ?_⟩
    unfold sealEcho? sealICMPv4? ICMP.icmpv4Checksum?
    rw [ICMP.messageChecksum?_eq_some octets]
    exact Slice.writeU16?_eq_some _ (by omega)
  | v6 =>
    refine ⟨combine (pseudoHeaderChecksum icmpv6ProtocolNumber src dst
      (.ofNat ((icmpHdr.octets packet).length + 0))) 0, ?_, ?_⟩
    · have exact_length : (UInt16.ofNat
          ((icmpHdr.octets packet).length + 0)).toNat = icmpHdr.length := by
        rw [length, UInt16.toNat_ofNat']
        omega
      rw [combine_toNat, pseudoHeaderChecksum_toNat, exact_length]
      exact foldCarry_add_foldCarry _ 0
    · unfold sealEcho? sealICMPv6? ICMP.icmpv6Checksum?
      dsimp only
      rw [ICMP.messageChecksum?_eq_some octets]
      exact Slice.writeU16?_eq_some _ (by omega)

theorem sealEcho?_spec (family : Family) (src dst : Bytes) (long : 4 ≤ icmpHdr.length)
    (small : icmpHdr.length < 65536)
    (inside : icmpHdr.Inside packet) :
    ∃ packet', sealEcho? family src dst packet icmpHdr = some packet' ∧
      ChangedAt (MessageSumOctet icmpHdr) packet packet' ∧
      MessageChecksumValid family src dst (icmpHdr.octets packet') := by
  obtain ⟨folded, folds, seals⟩ := @sealEcho?_eq_some family _ _ src dst long small inside
  have length := Slice.length_octets inside
  refine ⟨_, seals, ?_, ?_⟩
  · apply ChangedAt.writeU16
    · exact .inl rfl
    · exact .inr rfl
  · rw [octets_writeU16]
    have balanced := balanced_of_skipped_checksum (messageSum family src dst icmpHdr.length) folded
      (icmpHdr.octets packet) 2 rfl (by omega) folds
    cases family with
    | v4 => exact balanced
    | v6 =>
      unfold MessageChecksumValid TransportChecksumValid
      rw [length_writeU16, length]
      exact balanced

/-- `SetIdent` of the complement of `Ident`. -/
def complementIdent? (packet : Bytes) (icmpHdr : Slice) : Option Bytes := do
  let ident ← ICMP.ident? packet icmpHdr
  ICMP.setIdent? packet icmpHdr (~~~ident)

/-- The octets of the checksum and the identifier of a message. -/
def EchoOctet (icmpHdr : Slice) (k : Nat) : Prop :=
  icmpHdr.start + 2 ≤ k ∧ k < icmpHdr.start + 6

/-- The identifier is replaced by its complement, and the checksum computed
again. -/
theorem complementIdent_seal (family : Family) (src dst : Bytes) (long : 6 ≤ icmpHdr.length)
    (small : icmpHdr.length < 65536)
    (inside : icmpHdr.Inside packet) :
    ∃ middle packet', complementIdent? packet icmpHdr = some middle ∧
      ChangedAt (EchoOctet icmpHdr) packet middle ∧
      sealEcho? family src dst middle icmpHdr = some packet' ∧
      ChangedAt (EchoOctet icmpHdr) packet packet' ∧ readU16 packet' (icmpHdr.start + 4) =
        ~~~readU16 packet (icmpHdr.start + 4) ∧
      MessageChecksumValid family src dst (icmpHdr.octets packet') := by
  have complements : complementIdent? packet icmpHdr = some (writeU16 packet (icmpHdr.start + 4)
        (~~~readU16 packet (icmpHdr.start + 4))) := by
    unfold complementIdent? ICMP.ident?
    rw [Slice.readU16?_eq_some (by omega)]
    exact Slice.writeU16?_eq_some _ (by omega)
  have change : ChangedAt (EchoOctet icmpHdr) packet (writeU16 packet (icmpHdr.start + 4)
        (~~~readU16 packet (icmpHdr.start + 4))) := by
    apply ChangedAt.writeU16
    · exact ⟨by omega, by omega⟩
    · exact ⟨by omega, by omega⟩
  have stillInside : icmpHdr.Inside (writeU16 packet (icmpHdr.start + 4)
      (~~~readU16 packet (icmpHdr.start + 4))) := by
    unfold Slice.Inside
    rw [length_writeU16]
    exact inside
  obtain ⟨packet', seals, sealChange, valid⟩ :=
    sealEcho?_spec family src dst (by omega) small stillInside
  refine ⟨_, packet', complements, change, seals, ?_, ?_, valid⟩
  · refine change.trans (sealChange.mono ?_)
    rintro k (rfl | rfl)
    · exact ⟨by omega, by omega⟩
    · exact ⟨by omega, by omega⟩
  · unfold Slice.Inside at inside
    rw [sealChange.readU16_eq ?_ ?_, readU16_writeU16_self (by omega)]
    · unfold MessageSumOctet
      omega
    · unfold MessageSumOctet
      omega

end Seal

end SingTun.Header
