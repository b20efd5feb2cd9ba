import SingTun.Foundation.Bytes

/-!
# Slices of a byte string

A slice is a part of a byte string that others may see too: it has a start, a
length, and no octets of its own.  Reads and writes through a slice are
checked against its length, and they go to the byte string.
-/

namespace SingTun.Foundation

/-- The `length` octets from `start` on. -/
structure Slice where
  start : Nat
  length : Nat
deriving DecidableEq, Repr

namespace Slice

variable {slice : Slice} {memory : Bytes} {position : Nat}

/-- The slice is a part of the byte string. -/
def Inside (slice : Slice) (memory : Bytes) : Prop :=
  slice.start + slice.length ≤ memory.length

/-- The octets of the slice. -/
def octets (slice : Slice) (memory : Bytes) : Bytes :=
  window memory slice.start slice.length

/-- `slice[position:]`. -/
def from? (slice : Slice) (position : Nat) : Option Slice :=
  if position ≤ slice.length then
    some ⟨slice.start + position, slice.length - position⟩
  else none

section

variable (slice : Slice) (memory : Bytes) (position : Nat)

def byteAt? : Option UInt8 :=
  if position < slice.length then
    some (byteAt memory (slice.start + position))
  else none

def setByte? (octet : UInt8) : Option Bytes :=
  if position < slice.length then
    some (memory.set (slice.start + position) octet)
  else none

def readU16? : Option UInt16 :=
  if position + 2 ≤ slice.length then
    some (readU16 memory (slice.start + position))
  else none

def readU32? : Option UInt32 :=
  if position + 4 ≤ slice.length then
    some (readU32 memory (slice.start + position))
  else none

def writeU16? (value : UInt16) : Option Bytes :=
  if position + 2 ≤ slice.length then
    some (writeU16 memory (slice.start + position) value)
  else none

end

theorem from?_eq_some (inside : position ≤ slice.length) :
    slice.from? position = some ⟨slice.start + position, slice.length - position⟩ :=
  if_pos inside

theorem byteAt?_eq_some (inside : position < slice.length) :
    slice.byteAt? memory position = some (byteAt memory (slice.start + position)) :=
  if_pos inside

theorem setByte?_eq_some (octet : UInt8) (inside : position < slice.length) :
    slice.setByte? memory position octet = some (memory.set (slice.start + position) octet) :=
  if_pos inside

theorem readU16?_eq_some (inside : position + 2 ≤ slice.length) :
    slice.readU16? memory position = some (readU16 memory (slice.start + position)) :=
  if_pos inside

theorem readU32?_eq_some (inside : position + 4 ≤ slice.length) :
    slice.readU32? memory position = some (readU32 memory (slice.start + position)) :=
  if_pos inside

theorem writeU16?_eq_some (value : UInt16) (inside : position + 2 ≤ slice.length) :
    slice.writeU16? memory position value = some (writeU16 memory (slice.start + position) value) :=
  if_pos inside

theorem from?_eq_none (outside : slice.length < position) : slice.from? position = none :=
  if_neg (Nat.not_le_of_lt outside)

theorem byteAt?_eq_none (outside : slice.length ≤ position) :
    slice.byteAt? memory position = none :=
  if_neg (Nat.not_lt_of_le outside)

theorem readU16?_eq_none (outside : slice.length < position + 2) :
    slice.readU16? memory position = none :=
  if_neg (Nat.not_le_of_lt outside)

theorem writeU16?_eq_none (value : UInt16) (outside : slice.length < position + 2) :
    slice.writeU16? memory position value = none :=
  if_neg (Nat.not_le_of_lt outside)

theorem length_octets (inside : slice.Inside memory) :
    (slice.octets memory).length = slice.length :=
  length_window inside

end Slice

end SingTun.Foundation
