import Mathlib.Data.Sigma.Basic
import SingTun.Header.AddressOrder
import SingTun.Route.Rule

/-!
# Options of the automatic redirect

The options that `autoRedirect` reads beside those of the routing rules, and
the addresses that DNS requests are sent to.
-/

namespace SingTun.Redirect

open Foundation Header Route

/-- `DNSModeDisabled`, `DNSModeNative` and `DNSModeHijack`. -/
inductive DNSMode
  | disabled
  | native
  | hijack
deriving DecidableEq

/-- The `Network` of a rule; every text but `tcp` and `udp` is `any`. -/
inductive DNSNetwork
  | tcp
  | udp
  | any
deriving DecidableEq

structure DNSHijackRule where
  network : DNSNetwork
  address : AnyAddr
  zone : String
  port : UInt16
deriving DecidableEq

/-- `tun.Options`, as far as the redirect reads them. -/
structure TunOptions extends Route.Options where
  dnsMode : Option DNSMode
  dnsServers : List AnyAddr
  /-- `nil` is not the empty list. -/
  dnsHijack : Option (List DNSHijackRule)
  excludeMPTCP : Bool
  inetLoopbackAddress : (family : Family) → List (Addr family)
  inetRouteAddress : (family : Family) → List (IPPrefix family)
  inetRouteExcludeAddress : (family : Family) → List (IPPrefix family)
  includeMACAddress : List Bytes
  excludeMACAddress : List Bytes

/-- The errors that the configuration leads to. -/
inductive ConfigError
  /-- `*_route_address` is conflict with `include_interface` or `include_uid`. -/
  | routeAddressConflict
  /-- No server configured and no usable next address in the prefix for DNS. -/
  | noDNSServer (family : Family) (network : IPPrefix family)
deriving DecidableEq

def Family.other : Family → Family
  | .v4 => .v6
  | .v6 => .v4

/-- `Is4` or `Is6`. -/
def ofFamily? (family : Family) (addr : AnyAddr) : Option (Addr family) :=
  if same : addr.1 = family then some (same ▸ addr.2) else none

/-- `HasNextAddress` with the count 1, and the address. -/
def nextAddress? {family : Family} (network : IPPrefix family) : Option (Addr family) :=
  network.addr.next?.filter network.contains

namespace TunOptions

/-- `DNSModeOrDefault`, on a system that is not `darwin`. -/
def dnsModeOrDefault (options : TunOptions) : DNSMode :=
  options.dnsMode.getD (if options.autoRoute then .hijack else .disabled)

/-- `Inet4DNSAddress` and `Inet6DNSAddress`. -/
def inetDNSAddress (options : TunOptions) (family : Family) :
    Except ConfigError (List (Addr family)) :=
  match options.inetAddress family with
  | [] => .ok []
  | network :: _ =>
    if options.dnsServers ≠ [] then
      .ok (options.dnsServers.filterMap (ofFamily? family))
    else
      match nextAddress? network with
      | some addr => .ok [addr]
      | none =>
        match (options.inetAddress (Family.other family)).head? with
        | some network' =>
          if (nextAddress? network').isSome then .ok []
          else .error (.noDNSServer family network)
        | none => .error (.noDNSServer family network)

end TunOptions

/-- `autoRedirect`. -/
structure AutoRedirect where
  tunOptions : TunOptions
  tableName : String
  /-- `enableIPv4` and `enableIPv6`. -/
  enable : Family → Bool
  redirectPort : UInt16
  /-- `runtime.GOOS == "android"`. -/
  android : Bool

/-- A redirect of IPv4 without filters. -/
def sampleRedirect : AutoRedirect where
  tunOptions :=
    { name := "tun0"
      inetAddress
        | .v4 => [⟨.from4 172 18 0 1, 30, by decide⟩]
        | .v6 => []
      autoRoute := true
      ipRoute2TableIndex := 2022
      ipRoute2RuleIndex := 9000
      ipRoute2AutoRedirectFallbackRuleIndex := 32768
      autoRedirectMarkMode := true
      autoRedirectInputMark := 0x2023
      autoRedirectOutputMark := 0x2024
      strictRoute := false
      includeInterface := []
      excludeInterface := []
      includeUID := []
      excludeUID := []
      excludeSrcPort := []
      excludeDstPort := []
      dnsMode := none
      dnsServers := []
      dnsHijack := none
      excludeMPTCP := false
      inetLoopbackAddress := fun _ => []
      inetRouteAddress := fun _ => []
      inetRouteExcludeAddress := fun _ => []
      includeMACAddress := []
      excludeMACAddress := [] }
  tableName := "sing-box"
  enable
    | .v4 => true
    | .v6 => false
  redirectPort := 9888
  android := false

end SingTun.Redirect
