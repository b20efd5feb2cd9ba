import Mathlib.Init

/-!
# Fields of a word

A field is a mask with bits inside it.  It selects the words that carry its
bits, and it is written without touching the rest of a word.  The lowest bit of
a difference tells two words apart.
-/

namespace SingTun.Foundation

variable {width : Nat}

/-- Bits under a mask. -/
structure BitField (width : Nat) where
  mask : BitVec width
  bits : BitVec width
  within : bits &&& mask = bits

namespace BitField

variable (field : BitField width) (word : BitVec width)

/-- The word carries the bits of the field. -/
def Selects : Prop := word &&& field.mask = field.bits

def write : BitVec width := (word &&& ~~~field.mask) ^^^ field.bits

def toggle : BitVec width := word ^^^ field.bits

theorem write_selected : field.Selects (field.write word) := by
  unfold Selects write
  rw [← field.within]
  ext i
  simp
  cases field.mask[i] <;> simp

theorem write_outside : field.write word &&& ~~~field.mask = word &&& ~~~field.mask := by
  unfold write
  rw [← field.within]
  ext i
  simp
  cases field.mask[i] <;> simp

theorem toggle_outside : field.toggle word &&& ~~~field.bits = word &&& ~~~field.bits := by
  unfold toggle
  ext i
  simp
  cases field.bits[i] <;> simp

theorem toggle_ne (nonzero : field.bits ≠ 0) : field.toggle word ≠ word := by
  intro same
  apply nonzero
  have both := congrArg (word ^^^ ·) same
  simpa [toggle, ← BitVec.xor_assoc] using both

end BitField

/-! ## Words that differ -/

/-- Two words agree under a mask when their difference is outside it. -/
theorem and_eq_and_iff (left right mask : BitVec width) :
    left &&& mask = right &&& mask ↔ (left ^^^ right) &&& mask = 0 := by
  rw [← BitVec.xor_right_inj (right &&& mask), BitVec.xor_self]
  have spread : (right &&& mask) ^^^ (left &&& mask) = (left ^^^ right) &&& mask := by
    ext i
    simp
    cases mask[i] <;> simp [Bool.xor_comm]
  rw [spread]
  rfl

theorem and_eq_zero_of_or
    {value mask more : BitVec width} (outside : value &&& (mask ||| more) = 0) :
    value &&& mask = 0 := by
  have part : (value &&& (mask ||| more)) &&& mask = value &&& mask := by
    ext i
    simp
    cases mask[i] <;> simp
  rw [← part, outside]
  exact BitVec.zero_and

/-- `value & -value`. -/
def lowestBit (value : BitVec width) : BitVec width := value &&& -value

/-- A number and its negation share a bit, or their sum would be their union. -/
theorem lowestBit_ne_zero {value : BitVec width} (nonzero : value ≠ 0) : lowestBit value ≠ 0 := by
  intro disjoint
  have sum := BitVec.add_eq_or_of_and_eq_zero value (-value) disjoint
  rw [BitVec.add_right_neg] at sum
  exact nonzero (BitVec.or_eq_zero_iff.mp sum.symm).1

theorem and_or_lowestBit_ne_zero
    {value : BitVec width} (mask : BitVec width) (nonzero : value ≠ 0) :
    value &&& (mask ||| lowestBit value) ≠ 0 := by
  intro outside
  have split : value &&& (mask ||| lowestBit value) = (value &&& mask) ||| lowestBit value := by
    unfold lowestBit
    ext i
    simp
    cases value[i] <;> simp
  rw [split] at outside
  exact lowestBit_ne_zero nonzero (BitVec.or_eq_zero_iff.mp outside).2

end SingTun.Foundation
