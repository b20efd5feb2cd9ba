import SingTun.Foundation.Slice
import SingTun.Header.Address
import SingTun.Header.Checksum

/-!
# IPv4 and IPv6 headers

The accessors of `header.IPv4` and `header.IPv6` that the stacks use.  A
header is the byte string of its packet, and an access outside of it is
`none`, where the program stops.
-/

namespace SingTun.Header

open Foundation Option

/-! ## Fields -/

/-- `header.IPVersion`. -/
def ipVersion (b : Bytes) : Int :=
  if b.length < 1 then -1 else (byteAt b 0 >>> 4).toNat

namespace Family

/-- `IPv4MinimumSize` and `IPv6MinimumSize`. -/
def minimumSize : Family → Nat
  | .v4 => 20
  | .v6 => 40

/-- `IPv4Version` and `IPv6Version`. -/
def version : Family → Nat
  | .v4 => 4
  | .v6 => 6

/-- `srcAddr` and `v6SrcAddr`. -/
def srcAddr : Family → Nat
  | .v4 => 12
  | .v6 => 8

/-- `dstAddr` and `v6DstAddr`. -/
def dstAddr : Family → Nat
  | .v4 => 16
  | .v6 => 24

end Family

namespace IPv4

variable (b : Bytes)

def headerLength? : Option UInt8 := do
  let versIHL ← byteAt? b 0
  pure ((versIHL &&& 0x0f) * 4)

def totalLength? : Option UInt16 :=
  readU16? b 2

def payloadLength? : Option UInt16 := do
  let totalLength ← totalLength? b
  let headerLength ← headerLength? b
  pure (totalLength - headerLength.toUInt16)

def flags? : Option UInt8 := do
  let flagsFO ← readU16? b 6
  pure (flagsFO >>> 13).toUInt8

def fragmentOffset? : Option UInt16 := do
  let flagsFO ← readU16? b 6
  pure (flagsFO <<< 3)

/-- `IPv4FlagMoreFragments`. -/
def flagMoreFragments : UInt8 := 1

def checksum? : Option UInt16 :=
  readU16? b 10

def setChecksum? (v : UInt16) : Option Bytes :=
  writeU16? b 10 v

def setTotalLength? (totalLength : UInt16) : Option Bytes :=
  writeU16? b 2 totalLength

def setFlagsFragmentOffset? (flags : UInt8) (offset : UInt16) : Option Bytes :=
  writeU16? b 6 ((flags.toUInt16 <<< 13) ||| (offset >>> 3))

/-- `common.NativeEndian.Uint16` on a little-endian host, as all of Darwin are. -/
def nativeU16? (position : Nat) : Option UInt16 := do
  let value ← readU16? b position
  pure (swapOctets value)

def totalLengthDarwinRaw? : Option UInt16 := do
  let length ← nativeU16? b 2
  let headerLength ← headerLength? b
  pure (length + headerLength.toUInt16)

def flagsDarwinRaw? : Option UInt8 := do
  let flagsFO ← readU16? b 6
  pure (flagsFO >>> 13).toUInt8

def fragmentOffsetDarwinRaw? : Option UInt16 := do
  let flagsFO ← nativeU16? b 6
  pure (flagsFO <<< 3)

def setTotalLengthDarwinRaw? (totalLength : UInt16) : Option Bytes :=
  writeU16? b 2 (swapOctets totalLength)

def setFlagsFragmentOffsetDarwinRaw? (flags : UInt8) (offset : UInt16) : Option Bytes :=
  writeU16? b 6 (swapOctets ((flags.toUInt16 <<< 13) ||| (offset >>> 3)))

/-- The sum over the header, without the checksum field. -/
def calculateChecksum? : Option UInt16 := do
  let front ← slice? b 0 10
  let headerLength ← headerLength? b
  let back ← slice? b 12 headerLength.toNat
  pure (checksum back (checksum front 0))

end IPv4

namespace IPv6

def payloadLength? (b : Bytes) : Option UInt16 :=
  readU16? b 4

def setPayloadLength? (b : Bytes) (payloadLength : UInt16) : Option Bytes :=
  writeU16? b 4 payloadLength

end IPv6

/-! ## Both families -/

section Family

variable {family : Family}

/-- `Protocol` and `NextHeader`. -/
def transportProtocol? : Family → Bytes → Option UInt8
  | .v4, b => byteAt? b 9
  | .v6, b => byteAt? b 6

section

variable (family : Family) (b : Bytes)

/-- The octets of an address field. -/
def addrAt? (position : Nat) : Option (Addr family) :=
  if inside : position + family.addressSize ≤ b.length then
    some ⟨window b position family.addressSize, length_window inside⟩
  else none

def sourceAddr? : Option (Addr family) :=
  addrAt? family b family.srcAddr

def destinationAddr? : Option (Addr family) :=
  addrAt? family b family.dstAddr

end

/-- `copy` over an address field. -/
def setAddrAt? (b : Bytes) (position : Nat) (addr : Addr family) : Option Bytes :=
  if position + family.addressSize ≤ b.length then
    some (overwrite b position addr.octets)
  else none

def setSourceAddr? (b : Bytes) (addr : Addr family) : Option Bytes :=
  setAddrAt? b family.srcAddr addr

def setDestinationAddr? (b : Bytes) (addr : Addr family) : Option Bytes :=
  setAddrAt? b family.dstAddr addr

/--
`IsValid`.  The reads come after the test of the length, so they are inside
of the header.
-/
def isValid : Family → Bytes → Nat → Bool
  | .v4, b, pktSize =>
    if b.length < 20 then false
    else
      let hlen := ((byteAt b 0 &&& 0x0f) * 4).toNat
      let tlen := (readU16 b 2).toNat
      if hlen < 20 ∨ hlen > tlen ∨ tlen > pktSize then false
      else ipVersion b == 4
  | .v6, b, pktSize =>
    if b.length < 40 then false
    else
      let dlen := (readU16 b 4).toNat
      if (dlen : Int) > (pktSize : Int) - 40 then false
      else ipVersion b == 6

/-- `Payload`: the octets behind the header, up to the length of the packet. -/
def payload? : Family → Bytes → Option Slice
  | .v4, b => do
      let headerLength ← IPv4.headerLength? b
      let payloadLength ← IPv4.payloadLength? b
      if headerLength.toNat + payloadLength.toNat ≤ b.length then
        pure ⟨headerLength.toNat, payloadLength.toNat⟩
      else none
  | .v6, b => do
      let payloadLength ← IPv6.payloadLength? b
      if 40 + payloadLength.toNat ≤ b.length then
        pure ⟨40, payloadLength.toNat⟩
      else none

def payloadLength? : Family → Bytes → Option UInt16
  | .v4, b => IPv4.payloadLength? b
  | .v6, b => IPv6.payloadLength? b

/-- `SetSourceAddressWithChecksumUpdate`, and for IPv6 `SetSourceAddress`. -/
def setAddressWithChecksumUpdate? : {family : Family} → Bytes → Nat → Addr family → Option Bytes
  | .v4, b, position, new => do
      let xsum ← IPv4.checksum? b
      let old ← addrAt? .v4 b position
      let b ← IPv4.setChecksum? b
        (~~~checksumUpdate2ByteAlignedAddress (~~~xsum) old.octets new.octets)
      setAddrAt? b position new
  | .v6, b, position, new => setAddrAt? b position new

/-! ## Address fields -/

/-- The positions of the two addresses. -/
def Family.AddressField (family : Family) (position : Nat) : Prop :=
  position = family.srcAddr ∨ position = family.dstAddr

theorem Family.twenty_le_minimumSize (family : Family) : 20 ≤ family.minimumSize := by
  cases family <;> decide

variable {b : Bytes} {position pktSize : Nat} {payload : Slice}

theorem addressField_inside (field : family.AddressField position) :
    position + family.addressSize ≤ family.minimumSize := by
  rcases field with rfl | rfl <;> cases family <;> decide

theorem addrAt?_eq_some (addr : Addr family) (inside : position + family.addressSize ≤ b.length)
    (octets : window b position family.addressSize = addr.octets) :
    addrAt? family b position = some addr := by
  rw [addrAt?, dif_pos inside]
  exact congrArg some (Addr.ext octets)

theorem exists_addrAt? (inside : position + family.addressSize ≤ b.length) :
    ∃ addr : Addr family, addrAt? family b position = some addr ∧
      window b position family.addressSize = addr.octets :=
  ⟨_, dif_pos inside, rfl⟩

theorem exists_sourceAddr? (long : family.minimumSize ≤ b.length) :
    ∃ addr, sourceAddr? family b = some addr := by
  obtain ⟨addr, found, -⟩ := exists_addrAt? (Nat.le_trans (addressField_inside (.inl rfl)) long)
  exact ⟨addr, found⟩

theorem exists_destinationAddr? (long : family.minimumSize ≤ b.length) :
    ∃ addr, destinationAddr? family b = some addr := by
  obtain ⟨addr, found, -⟩ := exists_addrAt? (Nat.le_trans (addressField_inside (.inr rfl)) long)
  exact ⟨addr, found⟩

theorem addrAt?_octets {addr : Addr family} (found : addrAt? family b position = some addr) :
    position + family.addressSize ≤ b.length ∧
      window b position family.addressSize = addr.octets := by
  unfold addrAt? at found
  split at found
  · rename_i inside
    refine ⟨inside, ?_⟩
    rw [← some.inj found]
  · cases found

/-- An address is the same if its octets are. -/
theorem addrAt?_congr {changed : Nat → Prop} {b' : Bytes}
    {addr : Addr family} (change : ChangedAt changed b b')
    (found : addrAt? family b position = some addr)
    (outside : ∀ k, position ≤ k → k < position + family.addressSize → ¬changed k) :
    addrAt? family b' position = some addr := by
  obtain ⟨inside, octets⟩ := addrAt?_octets found
  apply addrAt?_eq_some addr
  · rw [change.length]
    exact inside
  · rw [change.window_eq inside outside]
    exact octets

theorem setAddrAt?_spec (addr : Addr family) (inside : position + family.addressSize ≤ b.length) :
    ∃ b', setAddrAt? b position addr = some b' ∧ addrAt? family b' position = some addr ∧
      ChangedAt (fun k => position ≤ k ∧ k < position + family.addressSize) b b' := by
  have fits : position + addr.octets.length ≤ b.length := by
    rw [addr.length_octets]
    exact inside
  refine ⟨_, if_pos inside, ?_, ?_⟩
  · apply addrAt?_eq_some addr
    · rw [length_overwrite fits]
      exact inside
    · have read := window_overwrite fits
      rwa [addr.length_octets] at read
  · apply ChangedAt.overwrite fits
    intro k low high
    rw [addr.length_octets] at high
    exact ⟨low, high⟩

/-- The octets that a new address at `position` changes. -/
def AddressOctet (family : Family) (position k : Nat) : Prop :=
  (family = .v4 ∧ (k = 10 ∨ k = 11)) ∨ (position ≤ k ∧ k < position + family.addressSize)

theorem setAddressWithChecksumUpdate?_spec (new : Addr family)
    (field : family.AddressField position)
    (long : family.minimumSize ≤ b.length) :
    ∃ b', setAddressWithChecksumUpdate? b position new = some b' ∧
      addrAt? family b' position = some new ∧ ChangedAt (AddressOctet family position) b b' := by
  have inside := Nat.le_trans (addressField_inside field) long
  cases family with
  | v4 =>
    change 20 ≤ b.length at long
    obtain ⟨old, found, -⟩ := exists_addrAt? inside
    have summed : ∀ xsum, ChangedAt (AddressOctet .v4 position) b (writeU16 b 10 xsum) := by
      intro xsum
      apply ChangedAt.writeU16
      · exact .inl ⟨rfl, .inl rfl⟩
      · exact .inl ⟨rfl, .inr rfl⟩
    simp only [setAddressWithChecksumUpdate?, IPv4.checksum?, IPv4.setChecksum?]
    rw [readU16?_eq_some (by omega), found]
    simp only [some_bind]
    rw [writeU16?_eq_some _ (by omega)]
    generalize ~~~checksumUpdate2ByteAlignedAddress _ _ _ = xsum
    have room : position + Family.addressSize .v4 ≤ (writeU16 b 10 xsum).length := by
      rw [length_writeU16]
      exact inside
    obtain ⟨b', stored, read, change⟩ := setAddrAt?_spec new room
    exact ⟨b', stored, read, (summed xsum).trans (change.mono fun k covered => .inr covered)⟩
  | v6 =>
    obtain ⟨b', stored, read, change⟩ := setAddrAt?_spec new inside
    exact ⟨b', stored, read, change.mono fun k covered => .inr covered⟩

/-! ## Valid packets -/

theorem isValid4_iff :
    isValid .v4 b pktSize = true ↔
      20 ≤ b.length ∧ 20 ≤ ((byteAt b 0 &&& 0x0f) * 4).toNat ∧
        ((byteAt b 0 &&& 0x0f) * 4).toNat ≤ (readU16 b 2).toNat ∧
        (readU16 b 2).toNat ≤ pktSize ∧ ipVersion b = 4 := by
  by_cases version : ipVersion b = 4 <;> simp [isValid, version]

theorem isValid6_iff :
    isValid .v6 b pktSize = true ↔
      40 ≤ b.length ∧ 40 + (readU16 b 4).toNat ≤ pktSize ∧ ipVersion b = 6 := by
  by_cases version : ipVersion b = 6 <;> simp [isValid, version]
  omega

theorem payload?_eq4 (long : 4 ≤ b.length)
    (ordered : ((byteAt b 0 &&& 0x0f) * 4).toNat ≤ (readU16 b 2).toNat)
    (inside : (readU16 b 2).toNat ≤ b.length) :
    payload? .v4 b = some ⟨((byteAt b 0 &&& 0x0f) * 4).toNat,
      (readU16 b 2).toNat - ((byteAt b 0 &&& 0x0f) * 4).toNat⟩ := by
  have difference : (readU16 b 2 - ((byteAt b 0 &&& 0x0f) * 4).toUInt16).toNat =
        (readU16 b 2).toNat - ((byteAt b 0 &&& 0x0f) * 4).toNat := by
    rw [UInt16.toNat_sub_of_le]
    · rw [UInt8.toNat_toUInt16]
    · rw [UInt16.le_iff_toNat_le, UInt8.toNat_toUInt16]
      exact ordered
  simp only [payload?, IPv4.payloadLength?, IPv4.headerLength?, IPv4.totalLength?]
  rw [byteAt?_eq_some (by omega), readU16?_eq_some (by omega)]
  simp only [some_bind, pure_def]
  rw [difference, if_pos (by omega)]

theorem payload?_eq6 (inside : 40 + (readU16 b 4).toNat ≤ b.length) :
    payload? .v6 b = some ⟨40, (readU16 b 4).toNat⟩ := by
  simp only [payload?, IPv6.payloadLength?]
  rw [readU16?_eq_some (by omega)]
  simp only [some_bind, pure_def]
  rw [if_pos inside]

/-- Where the payload of a valid packet is. -/
theorem payload?_of_isValid (valid : isValid family b b.length = true) :
    family.minimumSize ≤ b.length ∧ ∃ payload, payload? family b = some payload ∧
        family.minimumSize ≤ payload.start ∧ payload.Inside b := by
  cases family with
  | v4 =>
    obtain ⟨long, header, ordered, total, -⟩ := isValid4_iff.mp valid
    exact ⟨long, _, payload?_eq4 (by omega) ordered total, header,
      (Nat.add_sub_of_le ordered).trans_le total⟩
  | v6 =>
    obtain ⟨long, total, -⟩ := isValid6_iff.mp valid
    exact ⟨long, _, payload?_eq6 total, Nat.le_refl 40, total⟩

/-- The payload of a valid packet is behind the header and in the packet. -/
theorem payload?_bounds (valid : isValid family b b.length = true)
    (found : payload? family b = some payload) :
    family.minimumSize ≤ b.length ∧ family.minimumSize ≤ payload.start ∧ payload.Inside b := by
  obtain ⟨long, other, found', behind, inside⟩ := payload?_of_isValid valid
  cases found.symm.trans found'
  exact ⟨long, behind, inside⟩

theorem ipVersion_of_isValid (valid : isValid family b pktSize = true) :
    ipVersion b = family.version := by
  cases family with
  | v4 => exact (isValid4_iff.mp valid).2.2.2.2
  | v6 => exact (isValid6_iff.mp valid).2.2

/-- The payload of a packet has the length that its header gives. -/
theorem payload?_cases (found : payload? family b = some payload) :
    payload.Inside b ∧
      ∃ payloadLength, payloadLength? family b = some payloadLength ∧
        payloadLength.toNat = payload.length := by
  cases family with
  | v4 =>
    simp only [payload?, bind_eq_bind, bind_eq_some_iff] at found
    obtain ⟨headerLength, -, payloadLength, header, result⟩ := found
    split at result
    · rename_i inside
      cases result
      exact ⟨inside, payloadLength, header, rfl⟩
    · cases result
  | v6 =>
    simp only [payload?, bind_eq_bind, bind_eq_some_iff] at found
    obtain ⟨payloadLength, header, result⟩ := found
    split at result
    · rename_i inside
      cases result
      exact ⟨inside, payloadLength, header, rfl⟩
    · cases result

theorem length_lt_of_payload? (found : payload? family b = some payload) :
    payload.length < 65536 := by
  obtain ⟨-, payloadLength, -, length⟩ := payload?_cases found
  rw [← length]
  exact payloadLength.toNat_lt

/-- The payload of an IPv4 packet is behind its header. -/
theorem headerLength?_of_payload? (found : payload? .v4 b = some payload) :
    ∃ headerLength, IPv4.headerLength? b = some headerLength ∧
      headerLength.toNat = payload.start := by
  simp only [payload?, bind_eq_bind, bind_eq_some_iff] at found
  obtain ⟨headerLength, header, payloadLength, -, result⟩ := found
  split at result
  · cases result
    exact ⟨headerLength, header, rfl⟩
  · cases result

end Family

end SingTun.Header
