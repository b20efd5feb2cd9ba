import SingTun.Foundation.OnesComplement

/-!
# Internet checksums of the packet headers

The functions of the `checksum` and `header` packages.  `checksum` is the
RFC 1071 sum over any starting value; the architecture specific routines of
the repository all compute it, in different word sizes.

The sums of this module are folded.  The lemmas state what they fold, so that
the proofs about headers add natural numbers and fold once.
-/

namespace SingTun.Header

open Foundation UInt16

/-! ## The checksum package -/

/-- `checksum.Checksum`. -/
def checksum (buf : Bytes) (initial : UInt16) : UInt16 :=
  UInt16.ofNat (foldCarry (initial.toNat + wordSum buf))

/-- `checksum.Combine`: one addition with its carry. -/
def combine (a b : UInt16) : UInt16 :=
  let v := a.toNat + b.toNat
  UInt16.ofNat (v + v / 65536)

theorem checksum_toNat (buf : Bytes) (initial : UInt16) :
    (checksum buf initial).toNat = foldCarry (initial.toNat + wordSum buf) := by
  have bound := foldCarry_le (initial.toNat + wordSum buf)
  simp only [checksum, toNat_ofNat']
  omega

/-- A sum is folded already. -/
theorem checksum_nil (initial : UInt16) : checksum [] initial = initial := by
  have bound := initial.toNat_lt
  apply UInt16.toNat_inj.mp
  rw [checksum_toNat]
  change foldCarry (initial.toNat + 0) = _
  unfold foldCarry
  split <;> omega

theorem combine_toNat (a b : UInt16) : (combine a b).toNat = foldCarry (a.toNat + b.toNat) := by
  have boundA := a.toNat_lt
  have boundB := b.toNat_lt
  exact add_carry_eq_foldCarry _ _ (by omega) (by omega)

theorem complement_toNat (a : UInt16) : (~~~a).toNat = 65535 - a.toNat := by
  simp [toNat_not]

/-! ## Pseudo-headers -/

/-- `tcpip.TransportProtocolNumber` of the protocols handled here. -/
def tcpProtocolNumber : UInt8 := 6

@[inherit_doc tcpProtocolNumber]
def udpProtocolNumber : UInt8 := 17

@[inherit_doc tcpProtocolNumber]
def icmpv4ProtocolNumber : UInt8 := 1

@[inherit_doc tcpProtocolNumber]
def icmpv6ProtocolNumber : UInt8 := 58

section

variable (protocol : UInt8) (srcAddr dstAddr : Bytes)

/-- `header.PseudoHeaderChecksum`. -/
def pseudoHeaderChecksum (totalLen : UInt16) : UInt16 :=
  let xsum := checksum srcAddr 0
  let xsum := checksum dstAddr xsum
  -- Add the length portion of the checksum to the pseudo-checksum.
  let tmp := writeU16 [0, 0] 0 totalLen
  let xsum := checksum tmp xsum
  checksum [0, protocol] xsum

/-- The unfolded sum of a pseudo-header. -/
def pseudoHeaderSum (totalLen : Nat) : Nat :=
  wordSum srcAddr + wordSum dstAddr + totalLen + protocol.toNat

theorem wordSum_writeU16_pair (value : UInt16) :
    wordSum (writeU16 [0, 0] 0 value) = value.toNat := by
  have replaced := wordSum_writeU16 [0, 0] 0 value rfl (by simp)
  simpa [wordSum, readU16, byteAt] using replaced

theorem pseudoHeaderChecksum_toNat (totalLen : UInt16) :
    (pseudoHeaderChecksum protocol srcAddr dstAddr totalLen).toNat = foldCarry
        (pseudoHeaderSum protocol srcAddr dstAddr totalLen.toNat) := by
  simp only [pseudoHeaderChecksum, checksum_toNat, wordSum_writeU16_pair,
    foldCarry_add_foldCarry, pseudoHeaderSum]
  congr 1
  simp [wordSum]

end

/-! ## Incremental updates -/

/-- `checksumUpdate2ByteAlignedUint16`. -/
def checksumUpdate2ByteAlignedUint16 (xsum old new : UInt16) : UInt16 :=
  if old = new then xsum else combine xsum (combine new (~~~old))

/-- `checksumUpdate2ByteAlignedAddress`, for addresses of one family. -/
def checksumUpdate2ByteAlignedAddress (xsum : UInt16) : Bytes → Bytes → UInt16
  | oldHigh :: oldLow :: old, newHigh :: newLow :: new =>
    checksumUpdate2ByteAlignedAddress (checksumUpdate2ByteAlignedUint16 xsum
        ((oldHigh.toUInt16 <<< 8) + oldLow.toUInt16) ((newHigh.toUInt16 <<< 8) + newLow.toUInt16))
      old new
  | _, _ => xsum

theorem checksumUpdate2ByteAlignedUint16_mod (xsum old new : UInt16) :
    ((checksumUpdate2ByteAlignedUint16 xsum old new).toNat + old.toNat) %
        65535 = (xsum.toNat + new.toNat) % 65535 := by
  unfold checksumUpdate2ByteAlignedUint16
  split
  · rename_i same
    rw [same]
  · have bound := old.toNat_lt
    have inner := foldCarry_mod (new.toNat + (65535 - old.toNat))
    have outer := foldCarry_mod (xsum.toNat + foldCarry (new.toNat + (65535 - old.toNat)))
    rw [combine_toNat, combine_toNat, complement_toNat]
    omega

theorem word_toNat (high low : UInt8) :
    ((high.toUInt16 <<< 8) + low.toUInt16).toNat = high.toNat * 256 + low.toNat := by
  have highBound := high.toNat_lt
  have lowBound := low.toNat_lt
  simp only [UInt16.toNat_add, UInt16.toNat_shiftLeft, UInt8.toNat_toUInt16,
    Nat.shiftLeft_eq, UInt16.reduceToNat, Nat.reduceMod, Nat.reducePow]
  omega

/-- An address is replaced in a sum word by word. -/
theorem checksumUpdate2ByteAlignedAddress_mod
    (xsum : UInt16) {old new : Bytes} (length : old.length = new.length)
    (aligned : old.length % 2 = 0) :
    ((checksumUpdate2ByteAlignedAddress xsum old new).toNat + wordSum old) %
        65535 = (xsum.toNat + wordSum new) % 65535 := by
  induction old using wordSum.induct generalizing xsum new with
  | case1 =>
    have empty : new = [] := List.length_eq_zero_iff.mp length.symm
    rw [empty]
    rfl
  | case2 octet => simp at aligned
  | case3 oldHigh oldLow old ih =>
    obtain _ | ⟨newHigh, _ | ⟨newLow, new⟩⟩ := new
    · simp at length
    · simp at length
    simp only [List.length_cons] at length aligned
    have first := checksumUpdate2ByteAlignedUint16_mod xsum
      ((oldHigh.toUInt16 <<< 8) + oldLow.toUInt16) ((newHigh.toUInt16 <<< 8) + newLow.toUInt16)
    have restLength : old.length = new.length := by omega
    have rest := ih (checksumUpdate2ByteAlignedUint16 xsum
        ((oldHigh.toUInt16 <<< 8) + oldLow.toUInt16) ((newHigh.toUInt16 <<< 8) + newLow.toUInt16))
      restLength (by omega)
    rw [word_toNat, word_toNat] at first
    rw [checksumUpdate2ByteAlignedAddress]
    simp only [wordSum]
    omega

/-- A checksum holds the complement of the sum that is updated. -/
theorem complement_update_mod {xsum updated : UInt16} {old new : Nat}
    (update : (updated.toNat + old) % 65535 = ((~~~xsum).toNat + new) % 65535) :
    ((~~~updated).toNat + new) % 65535 = (xsum.toNat + old) % 65535 := by
  have xsumBound := xsum.toNat_lt
  have updatedBound := updated.toNat_lt
  rw [complement_toNat] at update ⊢
  omega

/-! ## Updates that change nothing -/

theorem combine_eq_zero_iff (a b : UInt16) : combine a b = 0 ↔ a = 0 ∧ b = 0 := by
  rw [← UInt16.toNat_inj, ← UInt16.toNat_inj, ← UInt16.toNat_inj, combine_toNat]
  change foldCarry _ = 0 ↔ a.toNat = 0 ∧ b.toNat = 0
  rw [foldCarry_eq_zero_iff]
  omega

/-- A word that is replaced by itself, or all ones that become zero. -/
def WordKept (old new : UInt16) : Prop :=
  old = new ∨ (old = 0xffff ∧ new = 0)

/-- A sum that is zero stays zero only if no word is added. -/
theorem checksumUpdate2ByteAlignedUint16_eq_zero_iff (xsum old new : UInt16) :
    checksumUpdate2ByteAlignedUint16 xsum old new = 0 ↔ xsum = 0 ∧ WordKept old new := by
  unfold checksumUpdate2ByteAlignedUint16 WordKept
  split
  · rename_i same
    simp only [same, true_or, and_true]
  · rename_i different
    rw [combine_eq_zero_iff, combine_eq_zero_iff]
    have ones : ~~~old = 0 ↔ old = 0xffff := by
      rw [← UInt16.toNat_inj, ← UInt16.toNat_inj, complement_toNat]
      have bound := old.toNat_lt
      change 65535 - old.toNat = 0 ↔ old.toNat = 65535
      omega
    rw [ones]
    constructor
    · rintro ⟨zero, new, old⟩
      exact ⟨zero, .inr ⟨old, new⟩⟩
    · rintro ⟨zero, same | ⟨old, new⟩⟩
      · exact absurd same different
      · exact ⟨zero, new, old⟩

/-- Every word of an address is kept. -/
def WordsKept : Bytes → Bytes → Prop
  | oldHigh :: oldLow :: old, newHigh :: newLow :: new =>
    WordKept ((oldHigh.toUInt16 <<< 8) + oldLow.toUInt16)
      ((newHigh.toUInt16 <<< 8) + newLow.toUInt16) ∧ WordsKept old new
  | _, _ => True

theorem checksumUpdate2ByteAlignedAddress_eq_zero_iff
    (xsum : UInt16) {old new : Bytes} (length : old.length = new.length)
    (aligned : old.length % 2 = 0) :
    checksumUpdate2ByteAlignedAddress xsum old new = 0 ↔ xsum = 0 ∧ WordsKept old new := by
  induction old using wordSum.induct generalizing xsum new with
  | case1 =>
    have empty : new = [] := List.length_eq_zero_iff.mp length.symm
    simp [checksumUpdate2ByteAlignedAddress, WordsKept]
  | case2 octet => simp at aligned
  | case3 oldHigh oldLow old ih =>
    obtain _ | ⟨newHigh, _ | ⟨newLow, new⟩⟩ := new
    · simp at length
    · simp at length
    simp only [List.length_cons] at length aligned
    rw [checksumUpdate2ByteAlignedAddress, ih _ (by omega) (by omega),
      checksumUpdate2ByteAlignedUint16_eq_zero_iff, WordsKept, and_assoc]

/-- When replacing an address leaves a checksum as it is. -/
def ChecksumKept (xsum : UInt16) (old new : Bytes) : Prop :=
  if xsum = 0xffff then WordsKept old new
  else wordSum old % 65535 = wordSum new % 65535

/--
A checksum is the complement of the sum that is updated.  The sum zero has an
encoding of its own, which only the checksum `0xffff` has.
-/
theorem complement_update_eq_iff
    (xsum : UInt16) {old new : Bytes} (length : old.length = new.length)
    (aligned : old.length % 2 = 0) :
    ~~~checksumUpdate2ByteAlignedAddress (~~~xsum) old new = xsum ↔ ChecksumKept xsum old new := by
  have zero := checksumUpdate2ByteAlignedAddress_eq_zero_iff (~~~xsum) length aligned
  have residue := checksumUpdate2ByteAlignedAddress_mod (~~~xsum) length aligned
  generalize checksumUpdate2ByteAlignedAddress (~~~xsum) old new = updated at zero residue ⊢
  have bound := xsum.toNat_lt
  have bound' := updated.toNat_lt
  have ones : ~~~xsum = 0 ↔ xsum = 0xffff := by
    rw [← UInt16.toNat_inj, ← UInt16.toNat_inj, complement_toNat]
    change 65535 - xsum.toNat = 0 ↔ xsum.toNat = 65535
    omega
  have same : ~~~updated = xsum ↔ updated.toNat = 65535 - xsum.toNat := by
    rw [← UInt16.toNat_inj, complement_toNat]
    omega
  rw [complement_toNat] at residue
  rw [ones, ← UInt16.toNat_inj, ← UInt16.toNat_inj] at zero
  change updated.toNat = 0 ↔ xsum.toNat = 65535 ∧ _ at zero
  unfold ChecksumKept
  rw [same]
  split
  · rename_i all
    rw [all] at zero ⊢
    change updated.toNat = 65535 - 65535 ↔ _
    rw [Nat.sub_self, zero]
    exact and_iff_right rfl
  · rename_i other
    have small : xsum.toNat ≠ 65535 := fun all =>
      other (UInt16.toNat_inj.mp all)
    constructor
    · intro same
      omega
    · intro sums
      omega

/-! ## Receivers -/

/-- The sum over an IPv4 header is all ones. -/
def IPv4ChecksumValid (ipHeader : Bytes) : Prop :=
  Balanced 0 ipHeader

/--
The sum over the pseudo-header and the transport segment is all ones.  The
length of the pseudo-header is the length of the segment.
-/
def TransportChecksumValid (protocol : UInt8) (srcAddr dstAddr segment : Bytes) : Prop :=
  Balanced (pseudoHeaderSum protocol srcAddr dstAddr segment.length) segment

instance (ipHeader : Bytes) : Decidable (IPv4ChecksumValid ipHeader) :=
  inferInstanceAs (Decidable (Balanced _ _))

instance (protocol : UInt8) (srcAddr dstAddr segment : Bytes) :
    Decidable (TransportChecksumValid protocol srcAddr dstAddr segment) :=
  inferInstanceAs (Decidable (Balanced _ _))

/-- `header.NormalizeUDPChecksum`. -/
def normalizeUDPChecksum (xsum : UInt16) : UInt16 :=
  if xsum = 0 then 0xffff else xsum

theorem normalizeUDPChecksum_ne_zero (xsum : UInt16) :
    normalizeUDPChecksum xsum ≠ 0 := by
  unfold normalizeUDPChecksum
  split
  · decide
  · assumption

/-- Both encodings of a zero checksum have the same residue. -/
theorem normalizeUDPChecksum_mod (xsum : UInt16) :
    (normalizeUDPChecksum xsum).toNat % 65535 = xsum.toNat % 65535 := by
  unfold normalizeUDPChecksum
  split
  · rename_i zero
    subst zero
    rfl
  · rfl

variable (initial : Nat) (folded : UInt16) (bytes : Bytes) (position : Nat)

/--
A cleared field that receives the complement of the sum over the rest makes
the receiver's test pass, with or without the UDP encoding of zero.
-/
theorem balanced_of_complement_checksum (value : UInt16)
    (aligned : position % 2 = 0)
    (inside : position + 1 < bytes.length)
    (cleared : readU16 bytes position = 0)
    (initialFolds : folded.toNat = foldCarry initial)
    (complement : value = ~~~(checksum bytes folded) ∨
        value = normalizeUDPChecksum (~~~(checksum bytes folded))) :
    Balanced initial (writeU16 bytes position value) := by
  have summed : (checksum bytes folded).toNat = foldCarry (initial + wordSum bytes) := by
    rw [checksum_toNat, initialFolds, foldCarry_add_foldCarry]
  have residue : value.toNat % 65535 = (65535 - foldCarry (initial + wordSum bytes)) % 65535 := by
    rcases complement with plain | normalized
    · rw [plain, complement_toNat, summed]
    · rw [normalized, normalizeUDPChecksum_mod, complement_toNat, summed]
  apply balanced_writeU16_complement _ _ _ _ aligned inside cleared residue
  by_cases zero : initial + wordSum bytes = 0
  · -- Nothing was added: the complement is all ones, not zero.
    left
    have ones : value = 0xffff := by
      have folds : checksum bytes folded = 0 := by
        apply UInt16.toNat_inj.mp
        rw [summed, zero]
        rfl
      rcases complement with plain | normalized
      · rw [plain, folds]
        rfl
      · rw [normalized, folds]
        rfl
    rw [ones]
    decide
  · right
    omega

/--
A field that holds the folded sum of the rest of the packet is completed by
the complement of the sum over the string it is in.
-/
theorem balanced_of_completed_checksum
    {initial : Nat} (positive : 0 < initial) (bytes : Bytes) (position : Nat)
    (aligned : position % 2 = 0)
    (inside : position + 1 < bytes.length)
    (partialSum : (readU16 bytes position).toNat = foldCarry initial) :
    Balanced initial (writeU16 bytes position (~~~checksum bytes 0)) := by
  have replaced := wordSum_writeU16 bytes position (~~~checksum bytes 0) aligned inside
  have summed : (checksum bytes 0).toNat = foldCarry (wordSum bytes) := by
    rw [checksum_toNat]
    exact congrArg foldCarry (Nat.zero_add _)
  have bound := foldCarry_le (wordSum bytes)
  have residue := foldCarry_mod (wordSum bytes)
  have initialResidue := foldCarry_mod initial
  rw [complement_toNat, summed, partialSum] at replaced
  rw [Foundation.Balanced, foldCarry_eq_ones_iff]
  constructor
  · omega
  · omega

/-- A cleared word adds nothing to the sums of what is before and behind it. -/
theorem wordSum_cleared (bytes : Bytes) (position : Nat) (aligned : position % 2 = 0)
    (inside : position + 1 < bytes.length) :
    wordSum (writeU16 bytes position 0) =
      wordSum (bytes.take position) + wordSum (bytes.drop (position + 2)) := by
  have front := wordSum_take_add_drop bytes position aligned
  have back := wordSum_take_add_drop (bytes.drop position) 2 rfl
  have replaced := wordSum_writeU16 bytes position 0 aligned inside
  rw [List.drop_drop] at back
  have word := wordSum_window_two bytes position (by omega)
  unfold window at word
  have zero : (0 : UInt16).toNat = 0 := rfl
  omega

/-- A sum without the checksum field is one over a string with it cleared. -/
theorem checksum_skipped (folded : UInt16) (bytes : Bytes) (position : Nat)
    (aligned : position % 2 = 0)
    (inside : position + 1 < bytes.length) :
    checksum (bytes.drop (position + 2)) (checksum (bytes.take position) folded) =
      checksum (writeU16 bytes position 0) folded := by
  apply UInt16.toNat_inj.mp
  rw [checksum_toNat, checksum_toNat, checksum_toNat, foldCarry_add_foldCarry,
    Nat.add_assoc, wordSum_cleared bytes position aligned inside]

/--
The functions of the headers do not sum over the checksum field, where the
complement is stored then.
-/
theorem balanced_of_skipped_complement (value : UInt16) (aligned : position % 2 = 0)
    (inside : position + 1 < bytes.length)
    (initialFolds : folded.toNat = foldCarry initial)
    (complement : value = ~~~checksum (bytes.drop (position + 2))
          (checksum (bytes.take position) folded) ∨
        value = normalizeUDPChecksum (~~~checksum (bytes.drop (position + 2))
            (checksum (bytes.take position) folded))) :
    Balanced initial (writeU16 bytes position value) := by
  rw [checksum_skipped folded bytes position aligned inside] at complement
  rw [← writeU16_writeU16 bytes position 0]
  refine balanced_of_complement_checksum initial folded _ position _ aligned ?_
    ?_ initialFolds complement
  · rw [length_writeU16]
    exact inside
  · exact readU16_writeU16_self (by omega)

@[inherit_doc balanced_of_skipped_complement]
theorem balanced_of_skipped_checksum
    (aligned : position % 2 = 0)
    (inside : position + 1 < bytes.length)
    (initialFolds : folded.toNat = foldCarry initial) :
    Balanced initial (writeU16 bytes position
      (~~~checksum (bytes.drop (position + 2)) (checksum (bytes.take position) folded))) :=
  balanced_of_skipped_complement initial folded bytes position _ aligned inside
    initialFolds (.inl rfl)

end SingTun.Header
