import SingTun.Redirect.Expr

/-!
# Chains of the automatic redirect

The rules that `setupNFTables` adds, for the chains at the output and the
prerouting hook.  An error of the configuration stops the setup.
-/

namespace SingTun.Redirect

open Foundation Header Route

/-! ## Values -/

/-- `unix.IPPROTO_TCP` and the others. -/
def ipprotoTCP : UInt8 := 6

def ipprotoUDP : UInt8 := 17

def ipprotoICMP : UInt8 := 1

def ipprotoICMPv6 : UInt8 := 58

/-- `nftables.TableFamilyIPv4` and `nftables.TableFamilyIPv6`. -/
def tableFamily : Family → UInt8
  | .v4 => 2
  | .v6 => 10

/-- The octets of a name, filled up with zeros. -/
def nftablesIfname (name : String) : Bytes :=
  (name.toUTF8.toList ++ List.replicate 16 0).take 16

/-- The place of an address in the header of the network. -/
def sourceOffset : Family → Nat
  | .v4 => 12
  | .v6 => 8

def destinationOffset : Family → Nat
  | .v4 => 16
  | .v6 => 24

/-- The set of the protocols of `udp_icmp` chains. -/
def udpICMP : SetRef :=
  .anonymous false [⟨[ipprotoUDP], false⟩, ⟨[ipprotoICMP], false⟩, ⟨[ipprotoICMPv6], false⟩]

/-! ## Pieces of rules -/

section Pieces

/-- `Counter` and `VerdictReturn`. -/
def countReturn : NFTRule := [.counter, .verdict .return]

def matchFamily (family : Family) : NFTRule :=
  [.readMeta .nfproto 1, .cmp .eq 1 [tableFamily family]]

def matchTCP : NFTRule :=
  [.readMeta .l4proto 1, .cmp .eq 1 [ipprotoTCP]]

def nftablesCreateDestinationIPSetExprs
    (set : SetRef) (family : Family) (invert : Bool) : NFTRule :=
  matchFamily family ++ [.payload 1 .networkHeader (destinationOffset family) family.addressSize,
      .lookup 1 set invert]

def nftablesCreateExcludeDestinationIPSet
    (set : SetRef) (family : Family) (invert : Bool) : NFTRule :=
  nftablesCreateDestinationIPSetExprs set family invert ++ countReturn

/-- A packet whose value is, or is not, one of several returns; a single value
is compared. -/
def returnRule (load : Expr) (values : List Bytes) (excluded : Bool) : NFTRule :=
  match values with
  | [value] =>
    [load, .cmp (if excluded then .eq else .neq) 1 value] ++ countReturn
  | values =>
    [load, .lookup 1 (.anonymous false (values.map fun value => ⟨value, false⟩)) (!excluded)]
        ++ countReturn

variable (host : Endian)

def conntrackStatusDNAT : UInt32 := 32

def nftablesDNATStatusExpressions : NFTRule :=
  [.readCt .status 1, .bitwise 1 1 (host.putUint32 conntrackStatusDNAT) [0, 0, 0, 0],
    .cmp .eq 1 (host.putUint32 conntrackStatusDNAT)]

/-- The elements of ranges of user numbers. -/
def uidElements (uids : List (Range UInt32)) : List SetElement :=
  uids.flatMap fun it =>
    [⟨host.putUint32 it.start, false⟩, ⟨host.putUint32 (it.stop + 1), true⟩]

/-- The mark of the packet, and then that of its connection. -/
def writeMarks (mark : UInt32) : NFTRule :=
  [.immediate 1 (host.putUint32 mark), .writeMeta .mark 1, .readMeta .mark 1, .writeCt .mark 1]

end Pieces

namespace AutoRedirect

variable (r : AutoRedirect) (host : Endian) (builder : IPSetBuilder) (lists : RouteLists)

/-! ## Rules -/

/-- What returns at the prerouting hook. -/
def prerouteReturns : List NFTRule :=
  let options := r.tunOptions
  [[.readMeta .iifname 1, .cmp .eq 1 (nftablesIfname options.name)] ++ countReturn] ++
  (if options.includeInterface.isEmpty then []
    else [returnRule (.readMeta .iifname 1) (options.includeInterface.map nftablesIfname) false]) ++
  (if options.excludeInterface.isEmpty then []
    else [returnRule (.readMeta .iifname 1) (options.excludeInterface.map nftablesIfname) true]) ++
  (if options.includeMACAddress.isEmpty then []
    else [
      -- `ARPHRD_ETHER`.
      [.readMeta .iiftype 1, .cmp .neq 1 (host.putUint16 1)] ++ countReturn,
      returnRule (.payload 1 .llHeader 6 6) options.includeMACAddress false]) ++
  (if options.excludeMACAddress.isEmpty then []
    else [returnRule (.payload 1 .llHeader 6 6) options.excludeMACAddress true])

/-- The users whose packets go on; the one user is written in big-endian. -/
def includeUIDRules : List NFTRule :=
  match r.tunOptions.includeUID with
  | [] => []
  | uid :: others =>
    if others ≠ [] ∨ uid.start ≠ uid.stop then
      [[.readMeta .skuid 1, .lookup 1 (.anonymous true (uidElements host (uid :: others))) true] ++
          countReturn]
    else
      [[.readMeta .skuid 1, .cmp .neq 1 (bigEndian32 uid.start)] ++ countReturn]

def excludeUIDRules : List NFTRule :=
  match r.tunOptions.excludeUID with
  | [] => []
  | uid :: others =>
    if others ≠ [] ∨ uid.start ≠ uid.stop then
      [[.readMeta .skuid 1, .lookup 1 (.anonymous true (uidElements host (uid :: others))) false] ++
          countReturn]
    else
      [[.readMeta .skuid 1, .cmp .eq 1 (host.putUint32 uid.start)] ++ countReturn]

/-- A destination in, or not in, the addresses of the options. -/
def routeAddressRule (family : Family) (networks : List (IPPrefix family))
    (invert : Bool) : List NFTRule :=
  if networks.isEmpty then []
  else [nftablesCreateExcludeDestinationIPSet (.anonymous true (builder.elements family []
      (networks.map (Sigma.mk family)) false)) family invert]

/-- A destination in, or not in, a named set. -/
def namedSetRule (kind : SetKind) (family : Family) (invert : Bool) : List NFTRule :=
  if r.enable family then
    [nftablesCreateExcludeDestinationIPSet (.named ⟨kind, family⟩) family invert]
  else []

/-- The protocols of a rule for DNS. -/
def dnsProtocols (destination : Option DNSHijackRule) : SetRef :=
  let protocols : List SetElement := [⟨[ipprotoTCP], false⟩, ⟨[ipprotoUDP], false⟩]
  .anonymous false (match destination.map DNSHijackRule.network with
    | some .tcp => protocols.take 1
    | some .udp => protocols.drop 1
    | _ => protocols)

variable (chain : ChainSpec)

def nftablesCreateDNSHijackRulesForFamily (family : Family) (destination : Option DNSHijackRule) :
    Except ConfigError (List NFTRule) := do
  let dnsServers ← r.tunOptions.inetDNSAddress family
  match dnsServers with
  | [] => .ok []
  | dnsServer :: _ =>
    let specified := destination.filter fun rule =>
      !rule.address.2.isUnspecified
    .ok [matchFamily family ++ (if chain.hooknum = .output then
        [.readMeta .oifname 1, .cmp .neq 1 (nftablesIfname "lo")]
      else if specified.isNone then
        [.payload 1 .networkHeader (sourceOffset family) family.addressSize,
          .lookup 1 (.named ⟨.localAddress, family⟩) false]
      else []) ++
      (match specified with
      | none => []
      | some rule =>
        -- `RTN_LOCAL`.
        [.fib 1, .cmp .neq 1 (host.putUint32 2),
          .payload 1 .networkHeader (destinationOffset family)
            rule.address.1.addressSize, .cmp .eq 1 rule.address.2.octets]) ++
      [.readMeta .l4proto 1, .lookup 1 (dnsProtocols destination) false,
        .payload 1 .transportHeader 2 2,
        .cmp .eq 1 (bigEndian16 (destination.elim 53 DNSHijackRule.port)),
        .counter, .immediate 1 dnsServer.octets] ++
      (match destination with
      | none => [.nat family 1 none]
      | some _ => [.immediate 2 (bigEndian16 53), .nat family 1 (some 2)])]

/-- The rules for DNS of one family. -/
def familyDNSHijackRules (family : Family) : Except ConfigError (List NFTRule) :=
  if ¬r.enable family then .ok []
  else
    match r.tunOptions.dnsHijack with
    | none => r.nftablesCreateDNSHijackRulesForFamily host chain family none
    | some destinations => do
        let rules ← (destinations.filter fun destination =>
          destination.zone = "" && (destination.address.2.isUnspecified ||
              destination.address.1 = family)).mapM fun destination =>
          r.nftablesCreateDNSHijackRulesForFamily host chain family destination
        .ok rules.flatten

def nftablesCreateConfiguredDNSHijackRules : Except ConfigError (List NFTRule) := do
  let rules4 ← r.familyDNSHijackRules host chain .v4
  let rules6 ← r.familyDNSHijackRules host chain .v6
  .ok (rules4 ++ rules6)

/-- What returns at the output hook because of the marks. -/
def markReturns : List NFTRule :=
  let outputMark := host.putUint32 r.tunOptions.autoRedirectOutputMark
  (if chain.type = .route then
    [[.readMeta .l4proto 1, .lookup 1 udpICMP true, .verdict .return]]
  else []) ++
  [[.readMeta .mark 1, .cmp .eq 1 outputMark] ++ countReturn] ++
  (if chain.type = .route then
    [[.readCt .mark 1, .cmp .eq 1 outputMark] ++ countReturn]
  else [])

/-- Connections with the MPTCP option are dropped, or not redirected. -/
def mptcpRule : NFTRule :=
  matchTCP ++ [.tcpOption 1 30, .cmp .eq 1 [1], .counter,
    .verdict (if r.tunOptions.excludeMPTCP then .return else .drop)]

/-- The rules for DNS, which only chains for NAT have. -/
def excludeDNSRules : Except ConfigError (List NFTRule) :=
  if r.tunOptions.dnsModeOrDefault = .hijack ∧ ((chain.hooknum = .prerouting ∧ chain.type = .nat) ∨
        (r.tunOptions.autoRedirectMarkMode ∧ chain.hooknum = .output ∧ chain.type = .nat)) then
    r.nftablesCreateConfiguredDNSHijackRules host chain
  else .ok []

def nftablesCreateExcludeRules : Except ConfigError (List NFTRule) := do
  let options := r.tunOptions
  let dnsHijack ← r.excludeDNSRules host chain
  .ok ((if options.autoRoute ∧ chain.hooknum = .prerouting then
      [nftablesDNATStatusExpressions host ++ countReturn] else []) ++
    (if options.autoRedirectMarkMode ∧ chain.hooknum = .output then
      r.markReturns host chain else []) ++
    (if chain.hooknum = .prerouting then r.prerouteReturns host
      else r.includeUIDRules host ++ r.excludeUIDRules host) ++
    routeAddressRule builder .v4 (options.inetRouteAddress .v4) true ++
    routeAddressRule builder .v6 (options.inetRouteAddress .v6) true ++
    routeAddressRule builder .v4 (options.inetRouteExcludeAddress .v4) false ++
    routeAddressRule builder .v6 (options.inetRouteExcludeAddress .v6) false ++
    dnsHijack ++
    r.namedSetRule .localAddress .v4 false ++
    r.namedSetRule .localAddress .v6 false ++
    (if lists.routeAddressSet.isEmpty then []
      else r.namedSetRule .routeAddress .v4 true ++ r.namedSetRule .routeAddress .v6 true) ++
    (if lists.routeExcludeAddressSet.isEmpty then []
      else r.namedSetRule .routeExcludeAddress .v4 false ++
        r.namedSetRule .routeExcludeAddress .v6 false) ++
    [r.mptcpRule])

def nftablesCreateUnreachable : List NFTRule :=
  if (r.enable .v4 ∧ r.enable .v6) ∨ ¬r.tunOptions.strictRoute then []
  else [matchFamily (if r.enable .v4 then .v6 else .v4) ++ [.counter, .reject]]

def nftablesCreateMark : NFTRule :=
  writeMarks host r.tunOptions.autoRedirectInputMark ++ countReturn

/-- There is a loopback address. -/
def hasLoopback : Bool :=
  !(r.tunOptions.inetLoopbackAddress .v4).isEmpty || !(r.tunOptions.inetLoopbackAddress .v6).isEmpty

def exprsRedirect : NFTRule :=
  matchTCP ++ [.counter, .immediate 1 (bigEndian16 r.redirectPort), .redir 1, .verdict .return]

def loopbackSet (family : Family) : SetRef :=
  .named ⟨.localRedirectAddress, family⟩

/-- The rule of one family, if there are loopback addresses. -/
def redirectFamily (exprs : NFTRule) (family : Family) : List NFTRule :=
  if ¬r.enable family then []
  else
    [exprs ++ (if (r.tunOptions.inetLoopbackAddress family).isEmpty then
        matchFamily family
      else nftablesCreateDestinationIPSetExprs (loopbackSet family) family true) ++ r.exprsRedirect]

def nftablesCreateRedirect (exprs : NFTRule) : List NFTRule :=
  if ¬r.hasLoopback then
    [exprs ++ (if r.enable .v4 ∧ ¬r.enable .v6 then matchFamily .v4
      else if ¬r.enable .v4 ∧ r.enable .v6 then matchFamily .v6
      else []) ++ r.exprsRedirect]
  else r.redirectFamily exprs .v4 ++ r.redirectFamily exprs .v6

/-- The rule of one family; only at the output hook the connection is marked
as well. -/
def rerouteFamily (family : Family) : List NFTRule :=
  let inputMark := r.tunOptions.autoRedirectInputMark
  if r.enable family ∧ ¬(r.tunOptions.inetLoopbackAddress family).isEmpty then
    [matchTCP ++ [.readMeta .mark 1, .cmp .neq 1 (host.putUint32 inputMark)] ++
      nftablesCreateDestinationIPSetExprs (loopbackSet family) family false ++
      (if chain.hooknum = .prerouting then
        [.immediate 1 (host.putUint32 inputMark), .writeMeta .mark 1]
      else writeMarks host inputMark) ++ [.counter]]
  else []

def nftablesCreateLoopbackReroute : List NFTRule :=
  r.rerouteFamily host chain .v4 ++ r.rerouteFamily host chain .v6

/-! ## Chains -/

/-- `nftables.ChainPriorityMangle` and `nftables.ChainPriorityNATDest`. -/
def chainPriorityMangle : Int := -150

def chainPriorityNATDest : Int := -100

def skipOutput : Bool :=
  (!r.tunOptions.includeInterface.isEmpty && !r.tunOptions.includeInterface.contains "lo") ||
      r.tunOptions.excludeInterface.contains "lo"

def chainOutput : ChainSpec := ⟨"output", .output, chainPriorityMangle, .nat⟩

def chainOutputRoute : ChainSpec :=
  ⟨"output_route", .output, chainPriorityMangle, .route⟩

def chainOutputUDP : ChainSpec :=
  ⟨"output_udp_icmp", .output, chainPriorityMangle, .route⟩

/-- The chains at the output hook. -/
def outputChains : Except ConfigError (List NFTChain) :=
  if r.skipOutput then .ok []
  else if r.tunOptions.autoRedirectMarkMode then do
    let output ← r.nftablesCreateExcludeRules host builder lists chainOutput
    let outputUDP ← r.nftablesCreateExcludeRules host builder lists chainOutputUDP
    .ok ([⟨chainOutput, output ++ r.nftablesCreateUnreachable ++ r.nftablesCreateRedirect []⟩] ++
      (if r.hasLoopback then
        [⟨chainOutputRoute, r.nftablesCreateLoopbackReroute host chainOutputRoute⟩] else []) ++
      [⟨chainOutputUDP, outputUDP ++ r.nftablesCreateUnreachable ++ [r.nftablesCreateMark host]⟩])
  else
    .ok [⟨chainOutput, r.nftablesCreateRedirect
      [.readMeta .oifname 1, .cmp .eq 1 (nftablesIfname r.tunOptions.name)]⟩]

def chainPreRouting : ChainSpec :=
  ⟨"prerouting", .prerouting, chainPriorityNATDest + 1, .nat⟩

def chainPreRoutingFilter : ChainSpec :=
  ⟨"prerouting_filter", .prerouting, chainPriorityNATDest + 1, .filter⟩

def chainPreRoutingUDP : ChainSpec :=
  ⟨"prerouting_udp_icmp", .prerouting, chainPriorityNATDest + 2, .filter⟩

/-- The marks of packets without a port that is redirected. -/
def preroutingUDPRules : List NFTRule :=
  let tunName := nftablesIfname r.tunOptions.name
  let inputMark := host.putUint32 r.tunOptions.autoRedirectInputMark
  [[.readMeta .l4proto 1, .lookup 1 udpICMP true, .verdict .return],
    [.readMeta .iifname 1, .cmp .eq 1 tunName] ++ countReturn,
    [.readMeta .iifname 1, .cmp .neq 1 tunName, .readCt .mark 1,
      .cmp .eq 1 inputMark, .writeMeta .mark 1, .counter],
    [.readCt .mark 1, .cmp .neq 1 inputMark] ++
      writeMarks host r.tunOptions.autoRedirectOutputMark ++ [.counter]]

/-- The chains at the prerouting hook. -/
def preroutingChains : Except ConfigError (List NFTChain) := do
  let excludes ← r.nftablesCreateExcludeRules host builder lists chainPreRouting
  let markMode := r.tunOptions.autoRedirectMarkMode
  .ok ([⟨chainPreRouting, excludes ++ r.nftablesCreateUnreachable ++ r.nftablesCreateRedirect [] ++
      if markMode then [r.nftablesCreateMark host] else []⟩] ++
    (if markMode ∧ r.hasLoopback then
      [⟨chainPreRoutingFilter, r.nftablesCreateLoopbackReroute host
        chainPreRoutingFilter⟩] else []) ++
    if markMode then [⟨chainPreRoutingUDP, r.preroutingUDPRules host⟩] else [])

/-- All chains of `setupNFTables`. -/
def setupChains : Except ConfigError (List NFTChain) := do
  let outputs ← r.outputChains host builder lists
  let preroutings ← r.preroutingChains host builder lists
  .ok (outputs ++ preroutings)

end AutoRedirect

end SingTun.Redirect
