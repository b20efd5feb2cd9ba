import SingTun.Foundation.BigEndian
import SingTun.Header.Address

/-!
# The order of addresses

The addresses of a family are the numbers below a power of two.  `Next` is the
address of the next number, if there is one.
-/

namespace SingTun.Header

open Foundation

/-- `netip.Addr`. -/
abbrev AnyAddr := (family : Family) × Addr family

namespace Addr

variable {family : Family}

variable (addr : Addr family)

def toNat : Nat := beNat addr.octets

def ofNat (family : Family) (value : Nat) : Addr family :=
  ⟨beOctets family.addressSize value, length_beOctets _ _⟩

/-- One more than the number of the last address. -/
def bound (family : Family) : Nat := 256 ^ family.addressSize

theorem toNat_lt : addr.toNat < bound family := by
  have small := beNat_lt addr.octets
  rw [addr.length_octets] at small
  exact small

theorem toNat_ofNat {value : Nat} (small : value < bound family) :
    (ofNat family value).toNat = value :=
  beNat_beOctets small

theorem toNat_injective {left right : Addr family}
    (same : left.toNat = right.toNat) :
    left = right := by
  apply Addr.ext
  apply beNat_injective
  · rw [left.length_octets, right.length_octets]
  · exact same

/-- `Next`; the last address has none. -/
def next? : Option (Addr family) :=
  if addr.toNat + 1 < bound family then some (ofNat family (addr.toNat + 1))
  else none

/-- `IsUnspecified`. -/
def isUnspecified : Bool :=
  addr.octets.all (· == 0)

/-- `IPv4Unspecified` and `IPv6Unspecified`. -/
def unspecified (family : Family) : Addr family := ofNat family 0

end Addr

end SingTun.Header
