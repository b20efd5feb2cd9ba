import SingTun.Redirect.Options

/-!
# Commands for iptables

The tables are chains of rules, and a command that fails changes nothing.
Setting up the redirect is a list of commands that may stop anywhere, and
cleaning up deletes what the whole list would have made.
-/

namespace SingTun.Redirect

open Foundation Header Route

/-! ## Tables -/

inductive IPTable
  | filter
  | nat
deriving DecidableEq

/-- What a rule matches; rules of others may match anything. -/
inductive Selector
  | protocol (network : DNSNetwork)
  | inInterface (name : String)
  | outInterface (name : String)
  | network (family : Family) (network : IPPrefix family)
  | address (addr : AnyAddr)
  | destinationPort (port : UInt16)
  /-- `-m conntrack --ctstate DNAT`. -/
  | translated
  /-- `-m addrtype --dst-type LOCAL`. -/
  | local
  | other (words : List String)
deriving DecidableEq

inductive Target
  | accept
  | return
  | redirect (port : UInt16)
  | dnat (addr : AnyAddr) (port : Option UInt16)
  | chain (name : String)
  | other (words : List String)
deriving DecidableEq

structure IPRule where
  selectors : List Selector
  target : Target
deriving DecidableEq

structure IPChain where
  name : String
  rules : List IPRule
deriving DecidableEq

/-- The chains of every table. -/
abbrev IPTables := IPTable → List IPChain

/-- `-j chain` without a selector. -/
def jump (chain : String) : IPRule := ⟨[], .chain chain⟩

/-! ## Commands -/

inductive Command
  | newChain (table : IPTable) (chain : String)
  | append (table : IPTable) (chain : String) (rule : IPRule)
  | insert (table : IPTable) (chain : String) (rule : IPRule)
  | delete (table : IPTable) (chain : String) (rule : IPRule)
  | flush (table : IPTable) (chain : String)
  | deleteChain (table : IPTable) (chain : String)
deriving DecidableEq

namespace IPTables

variable (tables : IPTables) (table : IPTable) (chain : String)

def has : Bool :=
  (tables table).any (·.name == chain)

/-- A rule of the table jumps to the chain. -/
def referenced : Bool :=
  (tables table).any fun other =>
    other.rules.any (·.target == .chain chain)

/-- The rules of one chain are changed. -/
def modify (change : List IPRule → List IPRule) : IPTables :=
  Function.update tables table ((tables table).map fun other =>
    if other.name = chain then ⟨other.name, change other.rules⟩ else other)

/-- A command that fails has no result. -/
def run? (tables : IPTables) : Command → Option IPTables
  | .newChain table chain =>
    if tables.has table chain then none
    else some (Function.update tables table (tables table ++ [⟨chain, []⟩]))
  | .append table chain rule =>
    if tables.has table chain then
      some (tables.modify table chain (· ++ [rule]))
    else none
  | .insert table chain rule =>
    if tables.has table chain then
      some (tables.modify table chain (rule :: ·))
    else none
  | .delete table chain rule =>
    if (tables table).any fun other =>
        other.name == chain && other.rules.contains rule then
      some (tables.modify table chain (·.erase rule))
    else none
  | .flush table chain =>
    if tables.has table chain then
      some (tables.modify table chain fun _ => [])
    else none
  | .deleteChain table chain =>
    if tables.has table chain && !tables.referenced table chain && (tables table).all fun other =>
          other.name != chain || other.rules.isEmpty then
      some (Function.update tables table ((tables table).filter (·.name ≠ chain)))
    else none

/-- The tables after a command, whether it fails or not. -/
def attempt (tables : IPTables) (command : Command) : IPTables :=
  (tables.run? command).getD tables

/-- The tables after some commands, none of which is waited for. -/
def attemptAll (tables : IPTables) (commands : List Command) : IPTables :=
  commands.foldl attempt tables

end IPTables

/-! ## Setting up -/

/-- The chains of the redirect, by the chain that jumps to them. -/
inductive Hook
  | output
  | input
  | forward
  | prerouting
deriving DecidableEq

namespace Hook

def table : Hook → IPTable
  | output => .nat
  | input => .filter
  | forward => .filter
  | prerouting => .nat

/-- The chain of the system. -/
def name : Hook → String
  | output => "OUTPUT"
  | input => "INPUT"
  | forward => "FORWARD"
  | prerouting => "PREROUTING"

def ending : Hook → String
  | output => "-output"
  | input => "-input"
  | forward => "-forward"
  | prerouting => "-prerouting"

end Hook

/-- Commands up to the end, or up to an error of the configuration. -/
structure Script where
  commands : List Command
  error : Option ConfigError := none

def Script.andThen (script next : Script) : Script :=
  match script.error with
  | some error => ⟨script.commands, some error⟩
  | none => ⟨script.commands ++ next.commands, next.error⟩

namespace AutoRedirect

variable (r : AutoRedirect)

/-- `tableNameOutput`, `tableNameInput`, `tableNameForward` and
`tableNamePreRouteing`. -/
def chainName (hook : Hook) : String := r.tableName ++ hook.ending

def newChain (hook : Hook) : Command :=
  .newChain hook.table (r.chainName hook)

/-- A rule at the end of a chain of the redirect. -/
def rule (hook : Hook) (selectors : List Selector) (target : Target) :
    Command :=
  .append hook.table (r.chainName hook) ⟨selectors, target⟩

def redirectTarget : Target := .redirect r.redirectPort

def setupOutput : Script where
  commands := [r.newChain .output, r.rule .output
      [.protocol .tcp, .outInterface r.tunOptions.name] r.redirectTarget,
    .insert .nat "OUTPUT" (jump (r.chainName .output))]

/-- The chains for `INPUT` and `FORWARD`. -/
def setupAccept (hook : Hook) : Script where
  commands := [r.newChain hook, r.rule hook [.inInterface r.tunOptions.name] .accept,
    r.rule hook [.outInterface r.tunOptions.name] .accept,
    .insert hook.table hook.name (jump (r.chainName hook))]

variable (family : Family)

/-- The selectors of one DNS rule, with its port. -/
def dnsSelectors (rule : DNSHijackRule) : List (List Selector × UInt16) :=
  let routeAddress := r.tunOptions.inetRouteAddress family
  let address := rule.address
  if rule.zone ≠ "" ∨ rule.network = .tcp ∨
      (¬address.2.isUnspecified ∧ address.1 ≠ family) then []
  else
    let allowed := routeAddress.isEmpty || (ofFamily? family address).any fun addr =>
        routeAddress.any (·.contains addr)
    if ¬address.2.isUnspecified ∧ ¬allowed then []
    else
      let destination :=
        if address.2.isUnspecified then [] else [Selector.address address]
      let selectors :=
        if routeAddress ≠ [] ∧ destination = [] then
          routeAddress.map fun network => [Selector.network family network]
        else if routeAddress = [] ∧ (r.tunOptions.includeInterface ≠ [] ∨
            r.tunOptions.includeUID ≠ []) then
          r.tunOptions.includeInterface.map fun name =>
            destination ++ [Selector.inInterface name]
        else [destination]
      selectors.map fun selector => (selector, rule.port)

/-- The rule for DNS without a configuration. -/
def defaultDNSHijack : List DNSHijackRule :=
  [⟨.udp, ⟨.v4, Addr.unspecified .v4⟩, "", 53⟩]

/-- `iptablesCreateDNSHijackRules`; the servers are asked for before the first
command only. -/
def iptablesCreateDNSHijackRules : Script :=
  match (r.tunOptions.dnsHijack.getD defaultDNSHijack).flatMap
      (r.dnsSelectors family) with
  | [] => ⟨[], none⟩
  | selectors =>
    match r.tunOptions.inetDNSAddress family with
    | .error error => ⟨[], some error⟩
    | .ok [] => ⟨[], none⟩
    | .ok (server :: _) =>
      let target := Target.dnat ⟨family, server⟩
        (if r.tunOptions.dnsHijack.isSome then some 53 else none)
      { commands := selectors.map fun selector =>
          r.rule .prerouting (selector.1 ++ [.protocol .udp, .destinationPort selector.2]) target }

/-- The first part of the chain for `PREROUTING`. -/
def setupPreRoutingHead : Script where
  commands := r.newChain .prerouting ::
      if r.tunOptions.autoRoute then
        [r.rule .prerouting [.translated] .return]
      else []
  error :=
    if r.tunOptions.inetRouteAddress family ≠ [] ∧
        (r.tunOptions.includeInterface ≠ [] ∨ r.tunOptions.includeUID ≠ [])
    then some .routeAddressConflict
    else none

/-- What is not redirected. -/
def setupPreRoutingReturn : Script where
  commands := [r.rule .prerouting [.inInterface r.tunOptions.name] .return] ++
    (r.tunOptions.inetRouteExcludeAddress family).map (fun network =>
      r.rule .prerouting [.network family network] .return) ++
    r.tunOptions.excludeInterface.map (fun name =>
      r.rule .prerouting [.inInterface name] .return) ++
    if r.tunOptions.autoRoute then [r.rule .prerouting [.local] .return]
    else []

def setupPreRoutingDNS : Script :=
  if r.tunOptions.dnsModeOrDefault = .hijack then
    r.iptablesCreateDNSHijackRules family
  else ⟨[], none⟩

/-- What is redirected, and the jump to the chain. -/
def setupPreRoutingRedirect : Script where
  commands := (if r.tunOptions.autoRoute then []
      else [r.rule .prerouting [.local] .return]) ++
    (if r.tunOptions.inetRouteAddress family ≠ [] then
      (r.tunOptions.inetRouteAddress family).map fun network =>
        r.rule .prerouting [.network family network, .protocol .tcp] r.redirectTarget
    else if r.tunOptions.includeInterface ≠ [] ∨ r.tunOptions.includeUID ≠ [] then
      r.tunOptions.includeInterface.map fun name =>
        r.rule .prerouting [.inInterface name, .protocol .tcp] r.redirectTarget
    else [r.rule .prerouting [.protocol .tcp] r.redirectTarget]) ++
    [if r.tunOptions.autoRoute then
        .append .nat "PREROUTING" (jump (r.chainName .prerouting))
      else .insert .nat "PREROUTING" (jump (r.chainName .prerouting))]

def setupPreRouting : Script :=
  ((r.setupPreRoutingHead family).andThen (r.setupPreRoutingReturn family)).andThen
      ((r.setupPreRoutingDNS family).andThen (r.setupPreRoutingRedirect family))

def setupIPTablesForFamily : Script :=
  if r.android then r.setupOutput
  else
    r.setupOutput.andThen ((r.setupAccept .input).andThen
      ((r.setupAccept .forward).andThen (r.setupPreRouting family)))

/-! ## Cleaning up -/

def cleanupHook (hook : Hook) : List Command :=
  [.delete hook.table hook.name (jump (r.chainName hook)), .flush hook.table (r.chainName hook),
    .deleteChain hook.table (r.chainName hook)]

def cleanupIPTablesForFamily : List Command :=
  if r.android then r.cleanupHook .output
  else
    r.cleanupHook .output ++ r.cleanupHook .input ++ r.cleanupHook .forward ++
      r.cleanupHook .prerouting

end AutoRedirect

end SingTun.Redirect
