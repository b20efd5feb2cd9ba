import SingTun.Foundation.Bytes

/-!
# Addresses and ports

The two families of IP addresses.  An address of a family has the number of
octets of its family, so a table of one family holds no address of the other
one.
-/

namespace SingTun.Header

open Foundation

inductive Family
  | v4
  | v6
deriving DecidableEq, Repr

/-- `IPv4AddressSize` and `IPv6AddressSize`. -/
def Family.addressSize : Family → Nat
  | .v4 => 4
  | .v6 => 16

/-- `netip.Addr` of a family. -/
structure Addr (family : Family) where
  octets : Bytes
  length_octets : octets.length = family.addressSize
deriving DecidableEq

@[ext]
theorem Addr.ext {family : Family} {left right : Addr family}
    (same : left.octets = right.octets) :
    left = right := by
  cases left
  cases right
  simp_all

instance {family : Family} : LawfulBEq (Addr family) := inferInstance

/-- `netip.AddrFrom4`. -/
def Addr.from4 (a b c d : UInt8) : Addr .v4 := ⟨[a, b, c, d], rfl⟩

/-- `netip.AddrPort` of a family. -/
structure AddrPort (family : Family) where
  addr : Addr family
  port : UInt16
deriving DecidableEq

/-! ## Global unicast -/

/-- An IPv4 address inside of `::ffff:0:0/96`. -/
def is4In6 (octets : Bytes) : Bool :=
  octets.take 12 == List.replicate 10 0 ++ [0xff, 0xff]

/-- Neither unspecified, broadcast, loopback, multicast, nor link-local. -/
def isGlobalUnicast4 (octets : Bytes) : Bool :=
  octets != [0, 0, 0, 0] && octets != [255, 255, 255, 255] &&
    byteAt octets 0 != 127 && byteAt octets 0 &&& 0xf0 != 0xe0 &&
      !(byteAt octets 0 == 169 && byteAt octets 1 == 254)

/-- `netip.Addr.IsGlobalUnicast`, which unmaps the address first. -/
def Addr.isGlobalUnicast : {family : Family} → Addr family → Bool
  | .v4, addr => isGlobalUnicast4 addr.octets
  | .v6, addr =>
    if is4In6 addr.octets then isGlobalUnicast4 (addr.octets.drop 12)
    else
      addr.octets != List.replicate 16 0 && addr.octets != List.replicate 15 0 ++ [1] &&
        byteAt addr.octets 0 != 0xff &&
          !(byteAt addr.octets 0 == 0xfe && byteAt addr.octets 1 &&& 0xc0 == 0x80)

end SingTun.Header
