import Mathlib.Data.List.Basic

/-!
# Byte strings and big-endian fields

A byte string is a list of octets.  This module supplies the field access
used by header formats: reading and writing one octet, a big-endian 16-bit
or 32-bit word, and a block of octets at a fixed position.

Two presentations are given.  The total functions read zero outside of the
string and write nothing there; they carry the algebra.  The checked
functions return `none` exactly where a bounds-checked language would stop
the program, and agree with the total ones everywhere else.
-/

namespace SingTun.Foundation

open List UInt16

/-- A byte string. -/
abbrev Bytes := List UInt8

/-! ## Total access -/

section

variable (bytes : Bytes) (position : Nat)

/-- The octet at a position, zero past the end. -/
def byteAt : UInt8 :=
  bytes.getD position 0

/-- The big-endian 16-bit word at a position. -/
def readU16 : UInt16 :=
  UInt16.ofNat ((byteAt bytes position).toNat * 256 + (byteAt bytes (position + 1)).toNat)

/-- The big-endian 32-bit word at a position. -/
def readU32 : UInt32 :=
  UInt32.ofNat ((readU16 bytes position).toNat * 65536 + (readU16 bytes (position + 2)).toNat)

/-- Store a big-endian 16-bit word. -/
def writeU16 (value : UInt16) : Bytes :=
  (bytes.set position (UInt8.ofNat (value.toNat / 256))).set
    (position + 1) (UInt8.ofNat value.toNat)

/-- Store a big-endian 32-bit word. -/
def writeU32 (value : UInt32) : Bytes :=
  writeU16 (writeU16 bytes position (UInt16.ofNat (value.toNat / 65536)))
    (position + 2) (UInt16.ofNat value.toNat)

/--
Copy a block over the octets that start at a position.  Octets of the block
that would fall past the end are dropped, as the built-in `copy` does.
-/
def overwrite (block : Bytes) : Bytes :=
  bytes.take position ++ block.take (bytes.length - position) ++
    bytes.drop (position + block.length)

end

/-- A word with its octets in the other order. -/
def swapOctets (value : UInt16) : UInt16 :=
  UInt16.ofNat (value.toNat % 256 * 256 + value.toNat / 256)

/-- The octets from `position` on, `count` of them at most. -/
def window (bytes : Bytes) (position count : Nat) : Bytes :=
  (bytes.drop position).take count

section Total

variable {bytes front back block : Bytes} {target position count k : Nat}
  {octet : UInt8} {value : UInt16}

/-- A sum of words that does not wrap. -/
theorem toNat_add_of_lt {left right : UInt16} (small : left.toNat + right.toNat < 65536) :
    (left + right).toNat = left.toNat + right.toNat := by
  rw [UInt16.toNat_add, Nat.mod_eq_of_lt small]

theorem toNat_swapOctets (value : UInt16) :
    (swapOctets value).toNat = value.toNat % 256 * 256 + value.toNat / 256 := by
  have bound := value.toNat_lt
  simp only [swapOctets, toNat_ofNat']
  omega

theorem swapOctets_swapOctets (value : UInt16) : swapOctets (swapOctets value) = value := by
  have bound := value.toNat_lt
  apply UInt16.toNat_inj.mp
  rw [toNat_swapOctets, toNat_swapOctets]
  omega

@[simp]
theorem length_writeU16 (bytes : Bytes) (position : Nat) (value : UInt16) :
    (writeU16 bytes position value).length = bytes.length := by
  simp [writeU16]

@[simp]
theorem length_writeU32 (bytes : Bytes) (position : Nat) (value : UInt32) :
    (writeU32 bytes position value).length = bytes.length := by
  simp [writeU32]

theorem length_overwrite (inside : position + block.length ≤ bytes.length) :
    (overwrite bytes position block).length = bytes.length := by
  simp only [overwrite, length_append, length_take, length_drop]
  omega

theorem length_window (inside : position + count ≤ bytes.length) :
    (window bytes position count).length = count := by
  simp only [window, length_take, length_drop]
  omega

theorem overwrite_eq (inside : position + block.length ≤ bytes.length) :
    overwrite bytes position block = bytes.take position ++ block ++
        bytes.drop (position + block.length) := by
  have whole : block.take (bytes.length - position) = block := by
    apply take_of_length_le
    omega
  rw [overwrite, whole]

theorem overwrite_zero (fits : block.length ≤ bytes.length) :
    overwrite bytes 0 block = block ++ bytes.drop block.length := by
  rw [overwrite_eq (by omega), take_zero, nil_append, Nat.zero_add]

/-- A copy to the front of a slice is one to its position. -/
theorem take_append_overwrite (inside : position + block.length ≤ bytes.length) :
    bytes.take position ++ overwrite (bytes.drop position) 0 block =
      overwrite bytes position block := by
  rw [overwrite_zero (by rw [length_drop]; omega), overwrite_eq inside,
    drop_drop, append_assoc]

/-- A window that starts where a block was copied to. -/
theorem window_overwrite_front
    (inside : position + count ≤ bytes.length)
    (short : block.length ≤ count) :
    window (overwrite bytes position block) position count =
      overwrite (window bytes position count) 0 block := by
  have front : (bytes.take position).length = position := by
    rw [length_take]
    omega
  rw [overwrite_zero (le_of_le_of_eq short (length_window inside).symm),
    overwrite_eq (by omega), window, append_assoc, drop_left' front,
    take_append, take_of_length_le short, window, drop_take, drop_drop]

/-- A block is read back where it was written. -/
theorem window_overwrite (inside : position + block.length ≤ bytes.length) :
    window (overwrite bytes position block) position block.length =
      block := by
  rw [window_overwrite_front inside (Nat.le_refl _),
    overwrite_zero (Nat.le_of_eq (length_window inside).symm),
    drop_of_length_le (Nat.le_of_eq (length_window inside)), append_nil]

/-! ## Octets after a store -/

theorem byteAt_eq_getElem (inside : position < bytes.length) :
    byteAt bytes position = bytes[position] := by
  simp [byteAt, getD_eq_getElem?_getD, inside]

theorem byteAt_of_length_le (outside : bytes.length ≤ position) : byteAt bytes position = 0 := by
  simp [byteAt, getD_eq_getElem?_getD, outside]

/-- Byte strings of one length agree when all their octets do. -/
theorem bytes_ext {left right : Bytes} (lengths : left.length = right.length)
    (octets : ∀ position, position < left.length → byteAt left position = byteAt right position) :
    left = right := by
  apply ext_getElem lengths
  intro position insideLeft insideRight
  have agree := octets position insideLeft
  rwa [byteAt_eq_getElem insideLeft, byteAt_eq_getElem insideRight] at agree

theorem byteAt_set (bytes : Bytes) (target position : Nat) (octet : UInt8) :
    byteAt (bytes.set target octet) position =
      if target = position ∧ position < bytes.length then octet
      else byteAt bytes position := by
  by_cases inside : position < bytes.length
  · by_cases same : target = position
    · subst same
      simp [byteAt, getD_eq_getElem?_getD, inside]
    · simp [byteAt, getD_eq_getElem?_getD, same]
  · have outside : bytes.length ≤ position := Nat.le_of_not_lt inside
    rw [byteAt_of_length_le (by simpa using outside),
      byteAt_of_length_le outside, if_neg (by omega)]

theorem byteAt_set_ne (distinct : target ≠ position) :
    byteAt (bytes.set target octet) position = byteAt bytes position := by
  rw [byteAt_set, if_neg (fun both => distinct both.1)]

theorem byteAt_set_self (inside : position < bytes.length) :
    byteAt (bytes.set position octet) position = octet := by
  rw [byteAt_set, if_pos ⟨rfl, inside⟩]

/-- A 16-bit store changes its two octets and no other. -/
theorem byteAt_writeU16_of_ne (outside : position ≠ target ∧ position ≠ target + 1) :
    byteAt (writeU16 bytes target value) position = byteAt bytes position := by
  rw [writeU16, byteAt_set_ne (Ne.symm outside.2), byteAt_set_ne (Ne.symm outside.1)]

theorem byteAt_writeU16_high (inside : target + 1 < bytes.length) :
    byteAt (writeU16 bytes target value) target = UInt8.ofNat (value.toNat / 256) := by
  rw [writeU16, byteAt_set_ne (by omega), byteAt_set_self (by omega)]

theorem byteAt_writeU16_low (inside : target + 1 < bytes.length) :
    byteAt (writeU16 bytes target value) (target + 1) = UInt8.ofNat value.toNat := by
  rw [writeU16, byteAt_set_self (by simpa using inside)]

/-- A 32-bit store changes its four octets and no other. -/
theorem byteAt_writeU32_of_ne {value : UInt32}
    (outside : position < target ∨ target + 3 < position) :
    byteAt (writeU32 bytes target value) position = byteAt bytes position := by
  rw [writeU32, byteAt_writeU16_of_ne (by omega), byteAt_writeU16_of_ne (by omega)]

/-! ## Words after a store -/

theorem readU16_toNat (bytes : Bytes) (position : Nat) :
    (readU16 bytes position).toNat = (byteAt bytes position).toNat * 256 +
        (byteAt bytes (position + 1)).toNat := by
  have high := (byteAt bytes position).toNat_lt
  have low := (byteAt bytes (position + 1)).toNat_lt
  simp only [readU16, toNat_ofNat']
  omega

theorem readU16_congr {left right : Bytes} {position other : Nat}
    (high : byteAt left position = byteAt right other)
    (low : byteAt left (position + 1) = byteAt right (other + 1)) :
    readU16 left position = readU16 right other := by
  rw [readU16, readU16, high, low]

theorem readU32_congr {left right : Bytes} {position other : Nat}
    (octets : ∀ k, k < 4 → byteAt left (position + k) = byteAt right (other + k)) :
    readU32 left position = readU32 right other := by
  have first : readU16 left position = readU16 right other :=
    readU16_congr (octets 0 (by omega)) (octets 1 (by omega))
  have second : readU16 left (position + 2) = readU16 right (other + 2) :=
    readU16_congr (octets 2 (by omega)) (octets 3 (by omega))
  rw [readU32, readU32, first, second]

theorem readU16_writeU16_self (inside : position + 1 < bytes.length) :
    readU16 (writeU16 bytes position value) position = value := by
  have bound := value.toNat_lt
  apply UInt16.toNat_inj.mp
  rw [readU16_toNat, byteAt_writeU16_high inside, byteAt_writeU16_low inside]
  simp only [UInt8.toNat_ofNat']
  omega

/-- A word that was read elsewhere brings its octets along. -/
theorem byteAt_writeU16_readU16 {other : Bytes} (inside : position + 1 < bytes.length)
    (here : k = position ∨ k = position + 1) :
    byteAt (writeU16 bytes position (readU16 other position)) k = byteAt other k := by
  have high := (byteAt other position).toNat_lt
  have low := (byteAt other (position + 1)).toNat_lt
  rcases here with rfl | rfl
  · rw [byteAt_writeU16_high inside, readU16_toNat]
    apply UInt8.toNat_inj.mp
    simp only [UInt8.toNat_ofNat']
    omega
  · rw [byteAt_writeU16_low inside, readU16_toNat]
    apply UInt8.toNat_inj.mp
    simp only [UInt8.toNat_ofNat']
    omega

theorem readU16_writeU16_of_disjoint (disjoint : position + 1 < target ∨ target + 1 < position) :
    readU16 (writeU16 bytes target value) position = readU16 bytes position :=
  readU16_congr (byteAt_writeU16_of_ne (by omega)) (byteAt_writeU16_of_ne (by omega))

theorem readU32_writeU32_self {value : UInt32} (inside : position + 3 < bytes.length) :
    readU32 (writeU32 bytes position value) position = value := by
  have bound := value.toNat_lt
  have high : readU16 (writeU32 bytes position value) position =
        .ofNat (value.toNat / 65536) := by
    rw [writeU32, readU16_writeU16_of_disjoint (by omega), readU16_writeU16_self (by omega)]
  have low : readU16 (writeU32 bytes position value) (position + 2) = .ofNat value.toNat := by
    rw [writeU32, readU16_writeU16_self (by simpa using inside)]
  apply UInt32.toNat_inj.mp
  rw [readU32, high, low]
  simp only [toNat_ofNat', UInt32.toNat_ofNat']
  omega

/-! ## Stores and concatenation -/

theorem byteAt_append_left (inside : position < front.length) :
    byteAt (front ++ back) position = byteAt front position := by
  simp [byteAt, getD_eq_getElem?_getD, List.getElem?_append_left inside]

theorem byteAt_append_right (front back : Bytes) (position : Nat) :
    byteAt (front ++ back) (front.length + position) = byteAt back position := by
  simp [byteAt, getD_eq_getElem?_getD, List.getElem?_append_right]

theorem byteAt_drop (bytes : Bytes) (start position : Nat) :
    byteAt (bytes.drop start) position = byteAt bytes (start + position) := by
  simp [byteAt, getD_eq_getElem?_getD, List.getElem?_drop]

theorem byteAt_take (inside : position < count) :
    byteAt (bytes.take count) position = byteAt bytes position := by
  simp [byteAt, getD_eq_getElem?_getD, inside]

theorem set_append_left (inside : position < front.length) :
    (front ++ back).set position octet = front.set position octet ++ back := by
  rw [set_append, if_pos inside]

theorem writeU16_append_left (inside : position + 1 < front.length) :
    writeU16 (front ++ back) position value = writeU16 front position value ++ back := by
  rw [writeU16, set_append_left (by omega), set_append_left (by simpa using inside), writeU16]

theorem writeU32_append_left {value : UInt32} (inside : position + 3 < front.length) :
    writeU32 (front ++ back) position value = writeU32 front position value ++ back := by
  rw [writeU32, writeU16_append_left (by omega),
    writeU16_append_left (by simpa using inside), writeU32]

theorem readU16_append_left (inside : position + 1 < front.length) :
    readU16 (front ++ back) position = readU16 front position :=
  readU16_congr (byteAt_append_left (by omega)) (byteAt_append_left inside)

/-! ## Stores and cuts -/

/-- Clearing two octets one by one stores the word zero. -/
theorem set_zero_set_zero (bytes : Bytes) (position : Nat) :
    (bytes.set position 0).set (position + 1) 0 = writeU16 bytes position 0 :=
  rfl

theorem take_writeU16 (bytes : Bytes) (position count : Nat) (value : UInt16) :
    (writeU16 bytes position value).take count = writeU16 (bytes.take count) position value := by
  rw [writeU16, take_set, take_set, writeU16]

theorem writeU16_of_length_le (outside : bytes.length ≤ position) :
    writeU16 bytes position value = bytes := by
  rw [writeU16, set_eq_of_length_le (by simp; omega), set_eq_of_length_le outside]

section

variable (past : count ≤ position)
include past

/-- A store past a cut leaves the front alone. -/
theorem take_writeU16_of_le : (writeU16 bytes position value).take count = bytes.take count := by
  rw [take_writeU16, writeU16_of_length_le]
  rw [length_take]
  omega

theorem take_writeU32_of_le {value : UInt32} :
    (writeU32 bytes position value).take count = bytes.take count := by
  rw [writeU32, take_writeU16_of_le (by omega), take_writeU16_of_le past]

theorem take_set_of_le : (bytes.set position octet).take count = bytes.take count := by
  rw [take_set, set_eq_of_length_le]
  rw [length_take]
  omega

omit past in
/-- A store before a cut leaves the back alone. -/
theorem drop_writeU16_of_lt (before : position + 1 < count) :
    (writeU16 bytes position value).drop count = bytes.drop count := by
  rw [writeU16, drop_set_of_lt before, drop_set_of_lt (by omega)]

theorem drop_writeU16_of_le :
    (writeU16 bytes position value).drop count =
      writeU16 (bytes.drop count) (position - count) value := by
  have next : position + 1 - count = position - count + 1 := by omega
  rw [writeU16, drop_set, if_neg (by omega), drop_set, if_neg (by omega), writeU16, next]

end

/-- A second store to the same word replaces the first. -/
theorem writeU16_writeU16 (bytes : Bytes) (position : Nat) (first second : UInt16) :
    writeU16 (writeU16 bytes position first) position second = writeU16 bytes position second := by
  unfold writeU16
  rw [set_comm _ _ (by omega : position + 1 ≠ position), set_set, set_set]

theorem byteAt_window (inside : k < count) :
    byteAt (window bytes position count) k = byteAt bytes (position + k) := by
  rw [window, byteAt_take inside, byteAt_drop]

/-- Two byte strings with the same octets in a window. -/
theorem window_congr {left right : Bytes} {position count : Nat}
    (insideLeft : position + count ≤ left.length)
    (insideRight : position + count ≤ right.length)
    (octets : ∀ k, position ≤ k → k < position + count → byteAt left k = byteAt right k) :
    window left position count = window right position count := by
  apply bytes_ext
  · rw [length_window insideLeft, length_window insideRight]
  · intro k inside
    rw [length_window insideLeft] at inside
    rw [byteAt_window inside, byteAt_window inside]
    exact octets _ (by omega) (by omega)

end Total

/-! ## Checked access -/

section

variable (bytes : Bytes) (position : Nat)

/-- `bytes[position]` of a bounds-checked language. -/
def byteAt? : Option UInt8 :=
  if position < bytes.length then some (byteAt bytes position) else none

/-- `bytes[position:]`; `none` when the position lies past the end. -/
def sliceFrom? : Option Bytes :=
  if position ≤ bytes.length then some (bytes.drop position) else none

/-- `bytes[low:high]` of a string whose capacity is its length. -/
def slice? (bytes : Bytes) (low high : Nat) : Option Bytes :=
  if low ≤ high ∧ high ≤ bytes.length then
    some (window bytes low (high - low))
  else none

/-- `bytes[position] = octet`. -/
def setByte? (octet : UInt8) : Option Bytes :=
  if position < bytes.length then some (bytes.set position octet) else none

/-- `binary.BigEndian.Uint16(bytes[position:])`. -/
def readU16? : Option UInt16 :=
  if position + 2 ≤ bytes.length then some (readU16 bytes position) else none

/-- `binary.BigEndian.Uint32(bytes[position:])`. -/
def readU32? : Option UInt32 :=
  if position + 4 ≤ bytes.length then some (readU32 bytes position) else none

/-- `binary.BigEndian.PutUint16(bytes[position:], value)`. -/
def writeU16? (value : UInt16) : Option Bytes :=
  if position + 2 ≤ bytes.length then some (writeU16 bytes position value)
  else none

/-- `binary.BigEndian.PutUint32(bytes[position:], value)`. -/
def writeU32? (value : UInt32) : Option Bytes :=
  if position + 4 ≤ bytes.length then some (writeU32 bytes position value)
  else none

end

section Checked

variable {bytes : Bytes} {position : Nat}

theorem some_bind {α β : Type} (value : α) (next : α → Option β) :
    (some value >>= next) = next value :=
  rfl

/-- A run whose first step succeeds goes on with its result. -/
theorem bind_of_eq_some {α β : Type} {step : Option α} {next : α → Option β} {result : α}
    (succeeds : step = some result) :
    (step >>= next) = next result := by
  rw [succeeds, some_bind]

theorem byteAt?_eq_some (inside : position < bytes.length) :
    byteAt? bytes position = some (byteAt bytes position) :=
  if_pos inside

theorem sliceFrom?_eq_some (inside : position ≤ bytes.length) :
    sliceFrom? bytes position = some (bytes.drop position) :=
  if_pos inside

theorem slice?_eq_some {low high : Nat} (ordered : low ≤ high)
    (inside : high ≤ bytes.length) :
    slice? bytes low high = some (window bytes low (high - low)) :=
  if_pos ⟨ordered, inside⟩

theorem setByte?_eq_some (octet : UInt8) (inside : position < bytes.length) :
    setByte? bytes position octet = some (bytes.set position octet) :=
  if_pos inside

theorem readU16?_eq_some (inside : position + 2 ≤ bytes.length) :
    readU16? bytes position = some (readU16 bytes position) :=
  if_pos inside

theorem readU32?_eq_some (inside : position + 4 ≤ bytes.length) :
    readU32? bytes position = some (readU32 bytes position) :=
  if_pos inside

theorem writeU16?_eq_some (value : UInt16) (inside : position + 2 ≤ bytes.length) :
    writeU16? bytes position value = some (writeU16 bytes position value) :=
  if_pos inside

theorem writeU32?_eq_some (value : UInt32) (inside : position + 4 ≤ bytes.length) :
    writeU32? bytes position value = some (writeU32 bytes position value) :=
  if_pos inside

end Checked

end SingTun.Foundation
