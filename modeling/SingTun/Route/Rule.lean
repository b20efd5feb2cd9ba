import Mathlib.Data.Int.Basic
import SingTun.Header.Address

/-!
# Rules of the routing policy

The rules that are given to the kernel, and the options and the state of the
device that they are made from.  A rule belongs to a family, so a rule of one
family has no address of the other one.
-/

namespace SingTun.Route

open Foundation Header

/-! ## Prefixes and ranges -/

/-- `netip.Prefix` of a family. -/
structure IPPrefix (family : Family) where
  addr : Addr family
  bits : Nat
  bits_le : bits ≤ 8 * family.addressSize
deriving DecidableEq

/-- `netip.Prefix`. -/
abbrev AnyPrefix := (family : Family) × IPPrefix family

/-- The octet `i` of a mask with `bits` leading ones. -/
def maskOctet (bits i : Nat) : UInt8 :=
  if 8 * (i + 1) ≤ bits then 0xff
  else if bits ≤ 8 * i then 0
  else 0xff <<< UInt8.ofNat (8 - (bits - 8 * i))

namespace IPPrefix

variable {family : Family}

variable (network : IPPrefix family)

/-- `Masked`: the host bits are cleared. -/
def masked : IPPrefix family where
  addr :=
    { octets := (List.range family.addressSize).map fun i =>
        byteAt network.addr.octets i &&& maskOctet network.bits i
      length_octets := by simp }
  bits := network.bits
  bits_le := network.bits_le

/-- The leading bits of an address are those of the prefix. -/
def contains (addr : Addr family) : Bool :=
  (List.range family.addressSize).all fun i =>
    (byteAt addr.octets i ^^^ byteAt network.addr.octets i) &&& maskOctet network.bits i == 0

theorem byteAt_masked {i : Nat} (inside : i < family.addressSize) :
    byteAt network.masked.addr.octets i =
      byteAt network.addr.octets i &&& maskOctet network.bits i := by
  rw [byteAt_eq_getElem (by rw [Addr.length_octets]; exact inside)]
  simp [masked]

theorem and_xor_and (addr network mask : UInt8) :
    (addr ^^^ (network &&& mask)) &&& mask = (addr ^^^ network) &&& mask := by
  apply UInt8.toBitVec_inj.mp
  ext i
  simp
  grind

theorem contains_masked (addr : Addr family) :
    network.masked.contains addr = network.contains addr := by
  unfold contains
  rw [Bool.eq_iff_iff, List.all_eq_true, List.all_eq_true]
  refine forall_congr' fun i => forall_congr' fun member => ?_
  rw [byteAt_masked network (List.mem_range.mp member)]
  show ((byteAt addr.octets i ^^^ (_ &&& maskOctet network.bits i)) &&&
    maskOctet network.bits i == 0) = true ↔ _
  rw [and_xor_and]

end IPPrefix

/-- `ranges.Range`, both ends included. -/
structure Range (α : Type) where
  start : α
  stop : α
deriving DecidableEq

/-- `ranges.NewSingle`. -/
def Range.single (value : UInt32) : Range UInt32 := ⟨value, value⟩

def Range.contains (range : Range UInt16) (value : UInt16) : Bool :=
  range.start ≤ value && value ≤ range.stop

def Range.containsUID (range : Range UInt32) (value : UInt32) : Bool :=
  range.start ≤ value && value ≤ range.stop

/-- A uid of one of the ranges. -/
def CoversUID (list : List (Range UInt32)) (uid : UInt32) : Prop :=
  ∃ range ∈ list, range.containsUID uid = true

instance (list : List (Range UInt32)) (uid : UInt32) : Decidable (CoversUID list uid) :=
  inferInstanceAs (Decidable (∃ range ∈ list, _))

theorem containsUID_iff (range : Range UInt32) (uid : UInt32) :
    range.containsUID uid = true ↔ range.start ≤ uid ∧ uid ≤ range.stop := by
  unfold Range.containsUID
  rw [Bool.and_eq_true, decide_eq_true_iff, decide_eq_true_iff]

theorem containsUID_single (value uid : UInt32) :
    (Range.single value).containsUID uid = true ↔ uid = value := by
  rw [containsUID_iff]
  constructor
  · rintro ⟨low, high⟩
    exact UInt32.le_antisymm high low
  · rintro rfl
    exact ⟨UInt32.le_refl _, UInt32.le_refl _⟩

/-! ## Rules -/

inductive RuleType
  | unspec
  | unreachable
deriving DecidableEq

/-- `netlink.Rule`; the defaults are those of `netlink.NewRule`. -/
structure Rule (family : Family) where
  priority : Int := -1
  table : Int := -1
  mark : UInt32 := 0
  mask : Int := -1
  markSet : Bool := false
  type : RuleType := .unspec
  src : Option (IPPrefix family) := none
  dst : Option (IPPrefix family) := none
  iifName : String := ""
  oifName : String := ""
  goto : Int := -1
  invert : Bool := false
  suppressPrefixlen : Int := -1
  ipProto : Int := 0
  sport : Option (Range UInt16) := none
  dport : Option (Range UInt16) := none
  uidRange : Option (Range UInt32) := none
deriving DecidableEq

/-- A rule with its family. -/
abbrev AnyRule := (family : Family) × Rule family

/-- `unix.RT_TABLE_MAIN`. -/
def rtTableMain : Int := 254

/-- The table that a rule looks up.  A negative table is none, and a rule
without a table does nothing. -/
def Rule.lookup? {family : Family} (rule : Rule family) : Option Int :=
  if 0 ≤ rule.goto ∨ rule.type ≠ .unspec ∨ rule.table < 0 then none
  else some rule.table

/-! ## The device -/

/-- The options that the rules are made from. -/
structure Options where
  name : String
  inetAddress : (family : Family) → List (IPPrefix family)
  autoRoute : Bool
  ipRoute2TableIndex : Int
  ipRoute2RuleIndex : Int
  ipRoute2AutoRedirectFallbackRuleIndex : Int
  autoRedirectMarkMode : Bool
  autoRedirectInputMark : UInt32
  autoRedirectOutputMark : UInt32
  strictRoute : Bool
  includeInterface : List String
  excludeInterface : List String
  includeUID : List (Range UInt32)
  excludeUID : List (Range UInt32)
  excludeSrcPort : List (Range UInt16)
  excludeDstPort : List (Range UInt16)

/-- A family with an address is enabled. -/
def Options.enabled (options : Options) (family : Family) : Bool :=
  !(options.inetAddress family).isEmpty

/-- `ranges.Exclude`, `ranges.Revert` and `ranges.Merge`. -/
structure Ranges where
  exclude : List (Range UInt32) → List (Range UInt32) → List (Range UInt32)
  revert : UInt32 → UInt32 → List (Range UInt32) → List (Range UInt32)
  merge : List (Range UInt32) → List (Range UInt32)

def userEnd : UInt32 := 0xffffffff - 1

def buildExcludedRanges (ranges : Ranges) (includeRanges excludeRanges : List (Range UInt32)) :
    List (Range UInt32) :=
  ranges.merge (if includeRanges ≠ [] then
      ranges.revert 0 userEnd (ranges.exclude includeRanges excludeRanges)
    else excludeRanges)

/-- The protocols of the services that `parseIPVSDNSDestinations` keeps. -/
inductive DNSProtocol
  | tcp
  | udp
deriving DecidableEq

/-- `unix.IPPROTO_TCP` and `unix.IPPROTO_UDP`. -/
def DNSProtocol.number : DNSProtocol → Int
  | tcp => 6
  | udp => 17

/-- `ipvsDNSDestination`, with the family of its address. -/
structure IPVSDNSDestination where
  protocol : DNSProtocol
  family : Family
  endpoint : AddrPort family
deriving DecidableEq

/-- The fields of `NativeTun` and what it asks its surroundings for. -/
structure NativeTun where
  options : Options
  ranges : Ranges
  /-- `dnatBypass != nil`. -/
  dnatBypass : Bool
  /-- The destinations of `ipvsDNSBypass`, if it is enabled. -/
  ipvsDNSBypass : Option (List IPVSDNSDestination)
  /-- `runtime.GOOS == "android"`. -/
  android : Bool
  androidVPNEnabled : Bool
  overrideAndroidVPN : Bool
  /-- Result of `nextIndex6`. -/
  nextIndex6 : Int

def NativeTun.excludedRanges (tun : NativeTun) : List (Range UInt32) :=
  buildExcludedRanges tun.ranges tun.options.includeUID tun.options.excludeUID

/-! ## The mark of the DNAT bypass -/

def defaultAutoRedirectOutputMark : UInt32 := 0x2024

/-- `AutoRedirectOutputMark`, or its default. -/
def Options.outputMark (options : Options) : UInt32 :=
  if options.autoRedirectOutputMark = 0 then defaultAutoRedirectOutputMark
  else options.autoRedirectOutputMark

def Options.autoRouteDNATBypassMask (options : Options) : UInt32 :=
  let outputMark := options.outputMark
  let mask : UInt32 := if outputMark &&& 0xfff = 0 then outputMark else 0xfff
  if options.autoRedirectMarkMode then
    let difference := options.autoRedirectInputMark ^^^ outputMark
    -- One distinguishing bit, without the other fields of the mark.
    if difference &&& mask = 0 then mask ||| (difference &&& (0 - difference))
    else mask
  else mask

def Options.autoRouteDNATBypassMark (options : Options) : UInt32 :=
  options.outputMark &&& options.autoRouteDNATBypassMask

end SingTun.Route
