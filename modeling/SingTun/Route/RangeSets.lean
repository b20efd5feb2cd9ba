import SingTun.Redirect.AddressSets
import SingTun.Route.Policy
import SingTun.Route.Ranges

/-!
# What the routes of a device cover

The networks of `BuildAutoRouteRanges` are compared with the configured set of
addresses.  On Darwin the networks of the interface belong to it; the condition
for IPv6 has been taken from that for IPv4.
-/

namespace SingTun.Route

open Foundation Header Redirect List

/-! ## Sets of addresses -/

/-- An address in one of some networks. -/
def InSome {family : Family} (networks : List (IPPrefix family)) (addr : Addr family) : Prop :=
  ∃ network ∈ networks, network.contains addr = true

/-- `netipx.IPSetBuilder` removes networks from networks, and does not fail for
valid prefixes. -/
def PrefixBuilder.Lawful (builder : PrefixBuilder) : Prop :=
  ∀ (family : Family) (added removed : List (IPPrefix family)),
    ∃ result, builder family added removed = some result ∧
      ∀ addr, InSome result addr ↔ InSome added addr ∧ ¬InSome removed addr

/-- The networks of the interface that are more than an address. -/
def RouteOptions.interfaceNetworks (options : RouteOptions) (family : Family) :
    List (IPPrefix family) :=
  (options.inetAddress family).filter (·.bits < 8 * family.addressSize)

/-- The set that is configured, before the excluded networks are taken away. -/
def RouteOptions.InBase (options : RouteOptions) (goos : GOOS)
    (underNetworkExtension : Bool) {family : Family} (addr : Addr family) :
    Prop :=
  if options.inetRouteAddress family ≠ [] then
    InSome (options.inetRouteAddress family) addr ∨
      goos = .darwin ∧ InSome (options.interfaceNetworks family) addr
  else if goos = .darwin ∧ underNetworkExtension = false then
    byteAt addr.octets 0 ≠ 0
  else True

/-- The ranges cover the configured addresses of every family that has an
address, and nothing else of it. -/
def RouteOptions.Exact (options : RouteOptions) (builder : PrefixBuilder)
    (goos : GOOS) (underNetworkExtension : Bool) : Prop :=
  ∃ routeRanges, options.buildAutoRouteRanges builder goos underNetworkExtension =
      some routeRanges ∧ ∀ family, options.enabled family = true → ∀ addr : Addr family,
      (∃ network ∈ routeRanges, Covers network addr) ↔
        options.InBase goos underNetworkExtension addr ∧
          ¬InSome (options.inetRouteExcludeAddress family) addr

section Sets

variable {family : Family} {options : RouteOptions} {builder : PrefixBuilder}
variable {goos : GOOS} {underNetworkExtension : Bool}
variable {addr : Addr family} {networks : List (IPPrefix family)}

theorem inSome_append {left right : List (IPPrefix family)} :
    InSome (left ++ right) addr ↔ InSome left addr ∨ InSome right addr := by
  unfold InSome
  simp only [mem_append, or_and_right, exists_or]

theorem inSome_masked : InSome (networks.map IPPrefix.masked) addr ↔ InSome networks addr := by
  unfold InSome
  simp only [mem_map, exists_exists_and_eq_and, IPPrefix.contains_masked]

/-! ## Parts of all addresses -/

theorem inSome_unspecified (addr : Addr family) :
    InSome [⟨Addr.unspecified family, 0, Nat.zero_le _⟩] addr := by
  refine ⟨_, mem_singleton_self _, ?_⟩
  simp [IPPrefix.contains, maskOctet]

/-- Up to eight bits, the first octet decides. -/
theorem contains_subRange (octet : UInt8) (bits : Fin 9) (addr : Addr family) :
    (subRange family octet bits).contains addr = true ↔
      (byteAt addr.octets 0 ^^^ octet) &&& maskOctet bits 0 = 0 := by
  have first : 0 < family.addressSize := by cases family <;> decide
  have rest : ∀ i, i ≠ 0 → maskOctet bits i = 0 := by
    intro i later
    unfold maskOctet
    rw [if_neg (by omega), if_pos (by omega)]
  unfold IPPrefix.contains
  rw [all_eq_true]
  constructor
  · intro all
    exact beq_iff_eq.mp (all 0 (mem_range.mpr first))
  · intro head i member
    cases i with
    | zero => exact beq_iff_eq.mpr head
    | succ i => simp [subRange, rest]

/-- An octet in one of the sub-ranges. -/
def Tiled (octet : UInt8) : Prop :=
  (octet ^^^ 1) &&& maskOctet 8 0 = 0 ∨ (octet ^^^ 2) &&& maskOctet 7 0 = 0 ∨
    (octet ^^^ 4) &&& maskOctet 6 0 = 0 ∨ (octet ^^^ 8) &&& maskOctet 5 0 = 0 ∨
    (octet ^^^ 16) &&& maskOctet 4 0 = 0 ∨ (octet ^^^ 32) &&& maskOctet 3 0 = 0 ∨
    (octet ^^^ 64) &&& maskOctet 2 0 = 0 ∨ (octet ^^^ 128) &&& maskOctet 1 0 = 0

instance (octet : UInt8) : Decidable (Tiled octet) :=
  inferInstanceAs (Decidable (_ ∨ _))

theorem tiled_iff (octet : UInt8) : Tiled octet ↔ octet ≠ 0 := by
  have all : ∀ value : Fin 256,
      Tiled (UInt8.ofNat value) ↔ UInt8.ofNat value ≠ 0 := by decide +kernel
  have own := all ⟨octet.toNat, octet.toNat_lt⟩
  rwa [UInt8.ofNat_toNat] at own

/-- The sub-ranges are all addresses whose first octet is not zero. -/
theorem inSome_subRanges (addr : Addr family) :
    InSome (subRanges family) addr ↔ byteAt addr.octets 0 ≠ 0 := by
  unfold InSome subRanges
  simp only [exists_mem_cons_iff, not_mem_nil, false_and, exists_false, or_false]
  simp only [contains_subRange]
  exact tiled_iff _

/-! ## One family -/

/-- The networks of the interface that are added. -/
theorem inSome_baseRanges (addr : Addr family) :
    InSome (options.baseRanges goos underNetworkExtension family) addr ↔
      if options.inetRouteAddress family ≠ [] then
        InSome (options.inetRouteAddress family) addr ∨ goos = .darwin ∧
            InSome ((options.inetAddress family).filter (·.bits < 32)) addr
      else if goos = .darwin ∧ underNetworkExtension = false then
        byteAt addr.octets 0 ≠ 0
      else True := by
  unfold RouteOptions.baseRanges
  split
  · rw [inSome_append]
    refine or_congr_right ?_
    split
    · rename_i darwin
      rw [inSome_masked]
      exact (and_iff_right darwin).symm
    · rename_i other
      refine iff_of_false ?_ fun both => other both.1
      rintro ⟨network, member, -⟩
      cases member
  · simp only [Bool.not_eq_true']
    split
    · exact inSome_subRanges addr
    · exact iff_of_true (inSome_unspecified addr) trivial

theorem familyRanges_spec (lawful : builder.Lawful) :
    ∃ networks, options.familyRanges builder goos underNetworkExtension family =
        some networks ∧ ∀ addr, InSome networks addr ↔
        InSome (options.baseRanges goos underNetworkExtension family) addr ∧
          ¬InSome (options.inetRouteExcludeAddress family) addr := by
  unfold RouteOptions.familyRanges
  split
  · rename_i empty
    refine ⟨_, rfl, fun addr => (and_iff_left ?_).symm⟩
    rw [empty]
    rintro ⟨network, member, -⟩
    cases member
  · exact lawful family _ _

/-- The ranges of a family are those of its branch. -/
theorem covers_mk (addr : Addr family) :
    (∃ network ∈ networks.map (Sigma.mk family), Covers network addr) ↔ InSome networks addr := by
  constructor
  · rintro ⟨network, member, own, rfl, inside⟩
    obtain ⟨listed, member, same⟩ := mem_map.mp member
    cases same
    exact ⟨own, member, inside⟩
  · rintro ⟨network, member, inside⟩
    exact ⟨_, mem_map_of_mem member, network, rfl, inside⟩

theorem not_covers_mk {other : Family} (apart : other ≠ family)
    {networks : List (IPPrefix other)} (addr : Addr family) :
    ¬∃ network ∈ networks.map (Sigma.mk other), Covers network addr := by
  rintro ⟨network, member, own, rfl, -⟩
  obtain ⟨listed, -, same⟩ := mem_map.mp member
  exact apart (congrArg Sigma.fst same)

/-- What a branch adds, whose condition is met by a family that is enabled. -/
theorem branch_spec (lawful : builder.Lawful) {Enters : Prop} [Decidable Enters]
    (enters : options.enabled family = true → Enters) :
    ∃ networks, (if Enters then
        options.familyRanges builder goos underNetworkExtension family
      else some []) = some networks ∧
      (options.enabled family = true → ∀ addr, InSome networks addr ↔
        InSome (options.baseRanges goos underNetworkExtension family) addr ∧
          ¬InSome (options.inetRouteExcludeAddress family) addr) := by
  obtain ⟨networks, built, denotes⟩ := @familyRanges_spec family options
    builder goos underNetworkExtension lawful
  split
  · exact ⟨networks, built, fun _ => denotes⟩
  · rename_i disabled
    exact ⟨[], rfl, fun enabled => absurd (enters enabled) disabled⟩

theorem buildAutoRouteRanges_eq :
    options.buildAutoRouteRanges builder goos underNetworkExtension =
      (if options.autoRoute ∧ options.enabled .v4 then
        options.familyRanges builder goos underNetworkExtension .v4
      else some []).bind fun inet4Ranges =>
        (if options.enabled .v6 then
          options.familyRanges builder goos underNetworkExtension .v6
        else some []).bind fun inet6Ranges =>
          some (inet4Ranges.map (Sigma.mk .v4) ++ inet6Ranges.map (Sigma.mk .v6)) := by
  unfold RouteOptions.buildAutoRouteRanges
  split <;> split <;> rfl

/-- With `AutoRoute`, each branch adds the ranges of its family. -/
theorem buildAutoRouteRanges_spec (lawful : builder.Lawful)
    (autoRoute : options.autoRoute = true) :
    ∃ routeRanges, options.buildAutoRouteRanges builder goos underNetworkExtension =
        some routeRanges ∧ ∀ family, options.enabled family = true → ∀ addr : Addr family,
        (∃ network ∈ routeRanges, Covers network addr) ↔
          InSome (options.baseRanges goos underNetworkExtension family) addr ∧
            ¬InSome (options.inetRouteExcludeAddress family) addr := by
  obtain ⟨networks4, built4, denotes4⟩ := @branch_spec .v4 options builder goos
    underNetworkExtension lawful (options.autoRoute ∧ options.enabled .v4) _
    fun enabled => ⟨autoRoute, enabled⟩
  obtain ⟨networks6, built6, denotes6⟩ := @branch_spec .v6 options builder goos
    underNetworkExtension lawful (options.enabled .v6) _ id
  refine ⟨networks4.map (Sigma.mk .v4) ++ networks6.map (Sigma.mk .v6), ?_, ?_⟩
  · rw [buildAutoRouteRanges_eq, built4, Option.bind_some, built6, Option.bind_some]
  · intro family enabled addr
    simp only [mem_append, or_and_right, exists_or]
    cases family with
    | v4 =>
      rw [covers_mk, or_iff_left (not_covers_mk (by decide) addr)]
      exact denotes4 enabled addr
    | v6 =>
      rw [covers_mk, or_iff_right (not_covers_mk (by decide) addr)]
      exact denotes6 enabled addr

/-! ## The condition -/

/-- The networks of IPv6 that the interface has and the condition misses are
covered by others, or excluded. -/
def RouteOptions.LongNetworksListed (options : RouteOptions) (goos : GOOS) :
    Prop :=
  goos = .darwin → options.inetRouteAddress .v6 ≠ [] →
    ∀ network ∈ options.inetAddress .v6, 32 ≤ network.bits →
      network.bits < 128 → ∀ addr, network.contains addr = true →
        InSome (options.inetRouteAddress .v6) addr ∨
          InSome ((options.inetAddress .v6).filter (·.bits < 32)) addr ∨
          InSome (options.inetRouteExcludeAddress .v6) addr

/-- The condition of the source adds no network that is not of the interface. -/
theorem InSome.interface
    (inside : InSome ((options.inetAddress family).filter (·.bits < 32)) addr) :
    InSome (options.interfaceNetworks family) addr := by
  obtain ⟨network, member, contains⟩ := inside
  obtain ⟨listed, short⟩ := mem_filter.mp member
  have size : 32 ≤ 8 * family.addressSize := by cases family <;> decide
  refine ⟨network, mem_filter.mpr ⟨listed, ?_⟩, contains⟩
  rw [decide_eq_true_iff] at short ⊢
  omega

/-- What is built is always a part of what is configured. -/
theorem InSome.base (inside : InSome (options.baseRanges goos underNetworkExtension family) addr) :
    options.InBase goos underNetworkExtension addr := by
  rw [inSome_baseRanges] at inside
  unfold RouteOptions.InBase
  split
  · rename_i listed
    rw [if_pos listed] at inside
    exact inside.imp_right fun both => ⟨both.1, both.2.interface⟩
  · rename_i unlisted
    rwa [if_neg unlisted] at inside

/-- A configured address that is not built is in a network of IPv6 that the
condition misses. -/
theorem RouteOptions.InBase.missed
    (configured : options.InBase goos underNetworkExtension addr)
    (missed : ¬InSome (options.baseRanges goos underNetworkExtension family) addr) :
    goos = .darwin ∧ options.inetRouteAddress family ≠ [] ∧ family = .v6 ∧
      ∃ network ∈ options.inetAddress family, 32 ≤ network.bits ∧
        network.bits < 8 * family.addressSize ∧ network.contains addr = true := by
  rw [inSome_baseRanges] at missed
  unfold RouteOptions.InBase at configured
  split at configured
  · rename_i listed
    rw [if_pos listed, not_or] at missed
    obtain ⟨darwin, network, member, contains⟩ := configured.resolve_left missed.1
    obtain ⟨own, part⟩ := mem_filter.mp member
    rw [decide_eq_true_iff] at part
    have long : 32 ≤ network.bits := by
      by_contra short
      refine missed.2 ⟨darwin, network, mem_filter.mpr ⟨own, ?_⟩, contains⟩
      rw [decide_eq_true_iff]
      omega
    refine ⟨darwin, listed, ?_, network, own, long, part, contains⟩
    cases family with
    | v4 => exact absurd part (Nat.not_lt.mpr long)
    | v6 => rfl
  · rename_i unlisted
    rw [if_neg unlisted] at missed
    exact absurd configured missed

/-- The ranges are exact, exactly if no address is lost by the condition for
IPv6. -/
theorem autoRouteRanges_exact_iff (options : RouteOptions) (builder : PrefixBuilder) (goos : GOOS)
    (underNetworkExtension : Bool) (lawful : builder.Lawful)
    (autoRoute : options.autoRoute = true) :
    options.Exact builder goos underNetworkExtension ↔ options.LongNetworksListed goos := by
  obtain ⟨routeRanges, built, denotes⟩ := @buildAutoRouteRanges_spec options
    builder goos underNetworkExtension lawful autoRoute
  constructor
  · rintro ⟨ranges, built', exact'⟩ darwin listed network own long short addr inside
    cases built.symm.trans built'
    have enabled : options.enabled .v6 = true := by
      unfold Options.enabled
      cases addresses : options.inetAddress .v6 with
      | nil =>
        rw [addresses] at own
        cases own
      | cons => rfl
    by_contra lost
    obtain ⟨unlisted, uncovered, kept⟩ := by simpa only [not_or] using lost
    have configured : options.InBase goos underNetworkExtension addr := by
      unfold RouteOptions.InBase
      rw [if_pos listed]
      refine .inr ⟨darwin, network, mem_filter.mpr ⟨own, ?_⟩, inside⟩
      rw [decide_eq_true_iff]
      exact short
    have routed := ((denotes .v6 enabled addr).symm.trans
      (exact' .v6 enabled addr)).mpr ⟨configured, kept⟩
    have base := routed.1
    rw [inSome_baseRanges, if_pos listed] at base
    exact base.elim unlisted fun both => uncovered both.2
  · intro covered
    refine ⟨routeRanges, built, fun family enabled addr => ?_⟩
    rw [denotes family enabled addr]
    refine and_congr_left fun kept => ⟨InSome.base, fun configured => ?_⟩
    by_contra missed
    obtain ⟨darwin, listed, rfl, network, own, long, short, inside⟩ := configured.missed missed
    rw [inSome_baseRanges, if_pos listed, not_or] at missed
    rcases covered darwin listed network own long short addr inside with
      routed | routed | excluded
    · exact missed.1 routed
    · exact missed.2 ⟨darwin, routed⟩
    · exact kept excluded

end Sets

/-! ## A device on Darwin -/

/-- `fd00::1/64`. -/
def sampleNetwork : IPPrefix .v6 where
  addr := ⟨[0xfd] ++ List.replicate 14 0 ++ [1], rfl⟩
  bits := 64
  bits_le := by decide

/-- `2001:db8::/32`. -/
def sampleRoute : IPPrefix .v6 where
  addr := ⟨[0x20, 0x01, 0x0d, 0xb8] ++ List.replicate 12 0, rfl⟩
  bits := 32
  bits_le := by decide

/-- One network of IPv6, and one other network that is routed. -/
def darwinOptions : RouteOptions :=
  { sampleRedirect.tunOptions with
    inetAddress
      | .v4 => []
      | .v6 => [sampleNetwork]
    inetRouteAddress
      | .v4 => []
      | .v6 => [sampleRoute]
    inetGateway := fun _ => none }

/-- The network of the interface is configured and not routed. -/
theorem interfaceNetwork_lost :
    (∀ builder : PrefixBuilder,
      darwinOptions.buildAutoRouteRanges builder .darwin false =
        some [⟨.v6, sampleRoute⟩]) ∧ darwinOptions.enabled .v6 = true ∧
      darwinOptions.InBase .darwin false sampleNetwork.addr ∧
      ¬InSome (darwinOptions.inetRouteExcludeAddress .v6) sampleNetwork.addr ∧
      ¬sampleRoute.contains sampleNetwork.addr := by
  refine ⟨fun _ => rfl, rfl, ?_, ?_, by decide⟩
  · have listed : darwinOptions.inetRouteAddress .v6 ≠ [] := cons_ne_nil _ _
    exact .inr ⟨rfl, sampleNetwork, mem_singleton_self _, by decide⟩
  · rintro ⟨network, member, -⟩
    cases member

/-- Single addresses make up any set. -/
theorem exists_lawful : ∃ builder : PrefixBuilder, builder.Lawful := by
  classical
  refine ⟨fun family added removed => some
    ((((List.range (Addr.bound family)).map (Addr.ofNat family)).filter
      fun addr => InSome added addr ∧ ¬InSome removed addr).map
        fun addr => ⟨addr, 8 * family.addressSize, Nat.le_refl _⟩), ?_⟩
  intro family added removed
  refine ⟨_, rfl, fun addr => ?_⟩
  constructor
  · rintro ⟨network, member, inside⟩
    obtain ⟨own, chosen, rfl⟩ := mem_map.mp member
    obtain rfl := (contains_full own addr).mp inside
    exact of_decide_eq_true (mem_filter.mp chosen).2
  · intro inside
    refine ⟨⟨addr, 8 * family.addressSize, Nat.le_refl _⟩, mem_map_of_mem ?_,
      (contains_full addr addr).mpr rfl⟩
    refine mem_filter.mpr ⟨?_, decide_eq_true inside⟩
    refine mem_map.mpr ⟨addr.toNat, mem_range.mpr addr.toNat_lt, ?_⟩
    exact Addr.toNat_injective (Addr.toNat_ofNat addr.toNat_lt)

/-- The network of the interface is routed as well. -/
def listedOptions : RouteOptions :=
  { darwinOptions with
    inetRouteAddress
      | .v4 => []
      | .v6 => [sampleRoute, sampleNetwork] }

theorem autoRouteRanges_exact_sample :
    ∃ builder : PrefixBuilder, builder.Lawful ∧ listedOptions.autoRoute = true ∧
      listedOptions.Exact builder .darwin false := by
  obtain ⟨builder, lawful⟩ := exists_lawful
  refine ⟨builder, lawful, rfl,
    (autoRouteRanges_exact_iff listedOptions builder .darwin false lawful rfl).mpr ?_⟩
  rintro - - network member - - addr contains
  cases mem_singleton.mp member
  exact .inl ⟨sampleNetwork, mem_cons_of_mem _ (mem_singleton_self _), contains⟩

end SingTun.Route
