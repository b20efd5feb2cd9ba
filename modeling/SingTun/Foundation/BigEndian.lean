import Mathlib.Algebra.Group.Nat.Defs
import Mathlib.Data.List.Induction
import SingTun.Foundation.Bytes

/-!
# Numbers in big-endian order

Octets are read as one number, most significant octet first.  Two octet
strings of one length compare as their numbers do, so this is also the order
of `memcmp`.
-/

namespace SingTun.Foundation

/-- The number that octets denote. -/
def beNat (octets : Bytes) : Nat :=
  octets.foldl (fun value octet => value * 256 + octet.toNat) 0

/-- The lowest octets of a number. -/
def beOctets : Nat → Nat → Bytes
  | 0, _ => []
  | size + 1, value => beOctets size (value / 256) ++ [UInt8.ofNat value]

@[simp]
theorem beNat_nil : beNat [] = 0 := rfl

@[simp]
theorem beNat_concat (octets : Bytes) (octet : UInt8) :
    beNat (octets ++ [octet]) = beNat octets * 256 + octet.toNat := by
  simp [beNat]

@[simp]
theorem length_beOctets (size value : Nat) : (beOctets size value).length = size := by
  induction size generalizing value with
  | zero => rfl
  | succ size ih => simp [beOctets, ih]

theorem beNat_lt (octets : Bytes) : beNat octets < 256 ^ octets.length := by
  induction octets using List.reverseRecOn with
  | nil => simp
  | append_singleton octets octet ih =>
    have small := octet.toNat_lt
    rw [beNat_concat, List.length_append, List.length_singleton, Nat.pow_succ]
    omega

theorem beNat_beOctets {size value : Nat} (small : value < 256 ^ size) :
    beNat (beOctets size value) = value := by
  induction size generalizing value with
  | zero =>
    have zero : value = 0 := by simpa using small
    rw [zero]
    rfl
  | succ size ih =>
    have shorter : value / 256 < 256 ^ size := by
      omega
    rw [beOctets, beNat_concat, ih shorter, UInt8.toNat_ofNat']
    omega

theorem beOctets_beNat (octets : Bytes) : beOctets octets.length (beNat octets) = octets := by
  induction octets using List.reverseRecOn with
  | nil => rfl
  | append_singleton octets octet ih =>
    have small := octet.toNat_lt
    have quotient : (beNat octets * 256 + octet.toNat) / 256 = beNat octets := by omega
    have last : UInt8.ofNat (beNat octets * 256 + octet.toNat) = octet := by
      apply UInt8.toNat_inj.mp
      rw [UInt8.toNat_ofNat']
      omega
    rw [List.length_append, List.length_singleton, beNat_concat, beOctets, quotient, ih, last]

theorem beNat_injective {left right : Bytes} (length : left.length = right.length)
    (same : beNat left = beNat right) :
    left = right := by
  rw [← beOctets_beNat left, ← beOctets_beNat right, length, same]

/-- An operation on numbers that works octet by octet. -/
theorem zipWith_beOctets (onOctets : UInt8 → UInt8 → UInt8) (onNumbers : Nat → Nat → Nat)
    (quotient : ∀ left right, onNumbers left right / 256 = onNumbers (left / 256) (right / 256))
    (last : ∀ left right, UInt8.ofNat (onNumbers left right) =
      onOctets (UInt8.ofNat left) (UInt8.ofNat right)) (size left right : Nat) :
    List.zipWith onOctets (beOctets size left) (beOctets size right) =
      beOctets size (onNumbers left right) := by
  induction size generalizing left right with
  | zero => rfl
  | succ size ih =>
    rw [beOctets, beOctets, beOctets, List.zipWith_append (by simp), ih, quotient, last]
    rfl

end SingTun.Foundation
