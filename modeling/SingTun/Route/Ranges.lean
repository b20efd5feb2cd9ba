import SingTun.Redirect.Options

/-!
# The routes of a device

`BuildAutoRouteRanges` lists the networks that are routed to the device.  On
Linux each of them is one route of its table, with a gateway if there is one.
-/

namespace SingTun.Route

open Foundation Header Redirect

/-- `runtime.GOOS`. -/
inductive GOOS
  | linux
  | android
  | darwin
  | windows
  | other
deriving DecidableEq

/-- The options, with `Inet4Gateway` and `Inet6Gateway`. -/
structure RouteOptions extends TunOptions where
  inetGateway : (family : Family) → Option (Addr family)

/-- The prefixes of the set that a `netipx.IPSetBuilder` makes of networks by
adding some and then removing others, unless it fails. -/
abbrev PrefixBuilder :=
  (family : Family) → List (IPPrefix family) → List (IPPrefix family) →
    Option (List (IPPrefix family))

/-! ## Ranges -/

section Ranges

/-- The address of a network that starts with an octet. -/
def subRange (family : Family) (octet : UInt8) (bits : Fin 9) : IPPrefix family where
  addr := ⟨octet :: List.replicate (family.addressSize - 1) 0, by
    cases family <;> rfl⟩
  bits := bits
  bits_le := Nat.le_trans (Nat.le_of_lt_succ bits.isLt) (by cases family <;> decide)

/-- All networks but that of the first octet zero. -/
def subRanges (family : Family) : List (IPPrefix family) :=
  [subRange family 1 8, subRange family 2 7, subRange family 4 6,
    subRange family 8 5, subRange family 16 4, subRange family 32 3,
    subRange family 64 2, subRange family 128 1]

/-- `inet4Ranges` and `inet6Ranges`. -/
def RouteOptions.baseRanges (options : RouteOptions) (goos : GOOS)
    (underNetworkExtension : Bool) (family : Family) : List (IPPrefix family) :=
  if options.inetRouteAddress family ≠ [] then
    options.inetRouteAddress family ++
      if goos = .darwin then
        ((options.inetAddress family).filter (·.bits < 32)).map IPPrefix.masked
      else []
  else if goos = .darwin ∧ !underNetworkExtension then subRanges family
  else [⟨Addr.unspecified family, 0, Nat.zero_le _⟩]

variable (options : RouteOptions) (builder : PrefixBuilder) (goos : GOOS)
  (underNetworkExtension : Bool)

/-- The ranges of one family; `none` is the error of the builder. -/
def RouteOptions.familyRanges (family : Family) : Option (List (IPPrefix family)) :=
  let base := options.baseRanges goos underNetworkExtension family
  if options.inetRouteExcludeAddress family = [] then some base
  else builder family base (options.inetRouteExcludeAddress family)

/-- `BuildAutoRouteRanges`; only the ranges of IPv4 depend on `AutoRoute`. -/
def RouteOptions.buildAutoRouteRanges : Option (List AnyPrefix) := do
  let inet4Ranges ←
    if options.autoRoute ∧ options.enabled .v4 then
      options.familyRanges builder goos underNetworkExtension .v4
    else some []
  let inet6Ranges ←
    if options.enabled .v6 then
      options.familyRanges builder goos underNetworkExtension .v6
    else some []
  some (inet4Ranges.map (Sigma.mk .v4) ++ inet6Ranges.map (Sigma.mk .v6))

end Ranges

/-! ## Routes -/

section Routes

/-- `Inet4GatewayAddr` and `Inet6GatewayAddr`. -/
def RouteOptions.gatewayAddr (options : RouteOptions) (goos : GOOS)
    (family : Family) : Addr family :=
  match options.inetGateway family, options.inetAddress family with
  | some gateway, _ => gateway
  | none, [] => Addr.unspecified family
  | none, network :: _ =>
    match goos with
    | .android => Addr.unspecified family
    | .linux => (nextAddress? network).getD (Addr.unspecified family)
    | .darwin => network.addr
    | .windows => (nextAddress? network).getD network.addr
    | .other => (nextAddress? network).getD network.addr

/-- `netlink.Route`. -/
structure KernelRoute where
  family : Family
  dst : IPPrefix family
  gw : Option (Addr family)
  linkIndex : Int
  table : Int
deriving DecidableEq

/-- `NativeTun.routes`. -/
def RouteOptions.routes (options : RouteOptions) (builder : PrefixBuilder)
    (goos : GOOS) (linkIndex : Int) : Option (List KernelRoute) := do
  let routeRanges ← options.buildAutoRouteRanges builder goos false
  some (routeRanges.map fun it =>
    let gateway := options.gatewayAddr goos it.1
    { family := it.1
      dst := it.2
      gw := if gateway.isUnspecified then none else some gateway
      linkIndex := linkIndex
      table := options.ipRoute2TableIndex })

end Routes

end SingTun.Route
