import SingTun.Foundation.Attempt
import SingTun.Route.Ranges
import SingTun.Route.Removal

/-!
# Setting up a device

`configure` sets up the DNAT bypass, the routes, the rules and the DNS of a
device, in this order.  Every operation that adds something may fail, and then
what was added before is removed: the routes and rules that the device would
have, not those that it is known to have.
-/

namespace SingTun.Route

open Foundation Header Redirect List

/-! ## The kernel -/

/-- The two rules of the chain of the DNAT bypass. -/
inductive ChainRule
  | addressed
  | replied
deriving DecidableEq

/-- What the DNAT bypass consists of, with the names it has. -/
inductive FirewallObject
  | table (name : String)
  | chain (family : Family) (name : String)
  | chainRule (family : Family) (name : String) (rule : ChainRule)
  | jump (family : Family) (name : String)
deriving DecidableEq

/-- What `configure` adds to the kernel. -/
inductive RoutingObject
  | route (route : KernelRoute)
  | rule (rule : AnyRule)
  | firewall (object : FirewallObject)

/-- The kernel, with what was added to it since the start of the call. -/
structure RoutingState where
  routes : List KernelRoute
  rules : List AnyRule
  firewall : List FirewallObject
  installed : List RoutingObject

namespace RoutingState

def Holds (s : RoutingState) : RoutingObject → Prop
  | .route route => route ∈ s.routes
  | .rule rule => rule ∈ s.rules
  | .firewall object => object ∈ s.firewall

/-- `netlink.RouteAdd`. -/
def addRoute (route : KernelRoute) (s : RoutingState) : RoutingState :=
  { s with
    routes := route :: s.routes
    installed := .route route :: s.installed }

/-- `netlink.RuleAdd`. -/
def addRule (rule : AnyRule) (s : RoutingState) : RoutingState :=
  { s with
    rules := s.rules ++ [rule]
    installed := .rule rule :: s.installed }

def addFirewall (object : FirewallObject) (s : RoutingState) : RoutingState :=
  { s with
    firewall := object :: s.firewall
    installed := .firewall object :: s.installed }

/-- `netlink.RouteDel`; an error is ignored. -/
def delRoute (s : RoutingState) (route : KernelRoute) : RoutingState :=
  { s with routes := s.routes.filter (· ≠ route) }

/-- `cleanupNFTables` and `cleanupIPTables`. -/
def delFirewall (objects : List FirewallObject) (s : RoutingState) :
    RoutingState :=
  { s with firewall := s.firewall.filter (· ∉ objects) }

end RoutingState

/-! ## The device -/

/-- `useNFTables`, or the commands. -/
inductive Backend
  | nftables
  | iptables
deriving DecidableEq

/-- A device before `configure`. -/
structure Device where
  options : RouteOptions
  ranges : Ranges
  android : Bool
  androidVPNEnabled : Bool
  overrideAndroidVPN : Bool
  nextIndex6 : Int

/-- What `configure` finds. -/
structure Surroundings where
  linkIndex : Int
  builder : PrefixBuilder
  /-- The index of an empty table. -/
  tableIndex : Int
  /-- What `newAutoRouteDNATBypass` returns, if `src_valid_mark` can be set. -/
  backend : Option Backend
  /-- What `newAutoRouteIPVSDNSBypass` returns. -/
  destinations : Option (List IPVSDNSDestination)
  /-- The first `unsetRules` cannot list the rules. -/
  unlisted : Bool
  /-- `resolvectl` is there. -/
  resolvectl : Bool

/-- The errors of `configure`. -/
inductive ConfigureError
  /-- The ranges cannot be built. -/
  | ranges
  /-- `add route …`. -/
  | addRoute (index : Nat)
  /-- `cleanup rules`. -/
  | cleanupRules
  /-- `add rule …/…`. -/
  | addRule (index length : Nat)
  /-- `set search domain`. -/
  | searchDomain (error : ConfigError)

namespace Device

variable (device : Device) (host : Surroundings)

def goos : GOOS :=
  if device.android then .android else .linux

/-- A device without a table gets one. -/
def chooseTable : Device :=
  if device.options.ipRoute2TableIndex = 0 then
    { device with
      options :=
        { device.options with ipRoute2TableIndex := host.tableIndex } }
  else device

/-- The chain of the DNAT bypass for one family. -/
def chainObjects (family : Family) : List FirewallObject :=
  let chainName := "STUN-DNAT-" ++ toString device.options.ipRoute2TableIndex
  [.chain family chainName, .chainRule family chainName .addressed,
    .chainRule family chainName .replied, .jump family chainName]

/-- What `setupNFTables` and `setupIPTables` add, one after another. -/
def bypassObjects : Backend → List FirewallObject
  | .nftables =>
    [.table ("sing-tun-route-" ++ toString device.options.ipRoute2TableIndex)]
  | .iptables =>
    (if device.options.enabled .v4 then device.chainObjects .v4 else []) ++
      (if device.options.enabled .v6 then device.chainObjects .v6 else [])

/-- `enableAutoRouteDNATBypass`, and its backend if it has started. -/
def enableAutoRouteDNATBypass (run : Attempts RoutingState) :
    Option Backend × Attempts RoutingState :=
  if ¬device.options.autoRoute ∨ device.android then (none, run)
  else
    match host.backend with
    | none => (none, run)
    | some backend =>
      -- Objects of an interrupted instance are removed first.
      let run := run.act (RoutingState.delFirewall (device.bypassObjects backend))
      match Attempts.performAll RoutingState.addFirewall 0
        (device.bypassObjects backend) run with
      | (none, run) => (some backend, run)
      | (some _, run) => (none, run.act
          (RoutingState.delFirewall (device.bypassObjects backend)))

/-- `common.Close(common.PtrOrNil(t.dnatBypass))`. -/
def closeBypass (bypass : Option Backend) (s : RoutingState) : RoutingState :=
  s.delFirewall (bypass.elim [] device.bypassObjects)

/-- The destinations of `enableAutoRouteIPVSDNSBypass`. -/
def ipvsDNSBypass : Option (List IPVSDNSDestination) :=
  if device.options.autoRoute ∧ ¬device.android ∧
      ¬device.options.autoRedirectMarkMode then host.destinations
  else none

/-- The fields that `rules` reads. -/
def native (bypass : Option Backend) : NativeTun where
  options := device.options.toOptions
  ranges := device.ranges
  dnatBypass := bypass.isSome
  ipvsDNSBypass := device.ipvsDNSBypass host
  android := device.android
  androidVPNEnabled := device.androidVPNEnabled
  overrideAndroidVPN := device.overrideAndroidVPN
  nextIndex6 := device.nextIndex6

def routes : Option (List KernelRoute) :=
  device.options.routes host.builder device.goos host.linkIndex

def setRoute (run : Attempts RoutingState) : Option ConfigureError × Attempts RoutingState :=
  match device.routes host with
  | none => (some .ranges, run)
  | some routes =>
    let (failed, run) := Attempts.performAll RoutingState.addRoute 0 routes run
    (failed.map .addRoute, run)

def unsetRoute0 (s : RoutingState) : RoutingState :=
  ((device.routes host).getD []).foldl RoutingState.delRoute s

/-- `ruleIndex6`, after `rules`. -/
def ruleIndex6 : List Int :=
  if ¬device.options.autoRoute ∧ device.options.enabled .v6 then
    [device.nextIndex6]
  else []

/-- `_ = t.unsetRules()`. -/
def unsetRules (s : RoutingState) : RoutingState :=
  match Route.unsetRules device.options.toOptions 0 device.ruleIndex6 s.rules
    with
  | none => s
  | some remaining => { s with rules := remaining }

end Device

def setRules (rules : List AnyRule) (run : Attempts RoutingState) :
    Option ConfigureError × Attempts RoutingState :=
  let (failed, run) := Attempts.performAll RoutingState.addRule 0 rules run
  (failed.map (.addRule · rules.length), run)

namespace Device

variable (device : Device) (host : Surroundings)

/-- `DNSServerAddress`; only its error matters here. -/
def dnsServerError? : Option ConfigError :=
  match device.options.inetDNSAddress .v4, device.options.inetDNSAddress .v6
    with
  | .error error, _ => some error
  | .ok _, .error error => some error
  | .ok _, .ok _ => none

/-- The error of `setSearchDomainForSystemdResolved`, if it is called. -/
def searchDomainError? : Option ConfigError :=
  if device.options.dnsModeOrDefault = .disabled ∨ ¬host.resolvectl then none
  else device.dnsServerError?

/-- The cleanup after an error, with the rules or without. -/
def undo (bypass : Option Backend) (s : RoutingState) : RoutingState :=
  device.closeBypass bypass (device.unsetRoute0 host s)

section

variable (bypass : Option Backend) (run : Attempts RoutingState)

/-- `configure`, from the rules on. -/
def configureRules : Option ConfigureError × Attempts RoutingState :=
  match setRules (rules (device.native host bypass)) run with
  | (some error, run) =>
    (some error, run.act fun s =>
      device.undo host bypass (device.unsetRules s))
  | (none, run) =>
    match device.searchDomainError? host with
    | some error =>
      (some (.searchDomain error), run.act fun s =>
        device.undo host bypass (device.unsetRules s))
    | none => (none, run)

/-- `configure`, from the routes on. -/
def configureRoutes : Option ConfigureError × Attempts RoutingState :=
  match device.setRoute host run with
  | (some error, run) => (some error, run.act (device.undo host bypass))
  | (none, run) =>
    -- `ruleIndex6` is empty before `rules`.
    match if host.unlisted then none else
        Route.unsetRules device.options.toOptions 0 [] run.world.rules with
    | none => (some .cleanupRules, run.act (device.undo host bypass))
    | some remaining =>
      device.configureRules host bypass (run.act fun s => { s with rules := remaining })

end

/-- `configure`, from the choice of the table on. -/
def configure (run : Attempts RoutingState) : Option ConfigureError × Attempts RoutingState :=
  let device := device.chooseTable host
  let (bypass, run) := device.enableAutoRouteDNATBypass host run
  device.configureRoutes host bypass run

end Device

/-! ## What an error leaves behind -/

section Undone

variable {s : RoutingState} {objects : List FirewallObject}
  {routes : List KernelRoute} {ruleList : List AnyRule}

/-- What has been added belongs to the device; of the firewall only what is
still there. -/
structure Tracked (objects : List FirewallObject) (routes : List KernelRoute)
    (ruleList : List AnyRule) (s : RoutingState) : Prop where
  firewall : ∀ object, .firewall object ∈ s.installed → object ∈ s.firewall → object ∈ objects
  route : ∀ route, .route route ∈ s.installed → route ∈ routes
  rule : ∀ rule, .rule rule ∈ s.installed → rule ∈ ruleList

/-- Nothing is left of what was added. -/
def Undone (s : RoutingState) : Prop :=
  ∀ object ∈ s.installed, ¬s.Holds object

section

variable (tracked : Tracked objects routes ruleList s)
include tracked

theorem Tracked.addRoute {route : KernelRoute} (own : route ∈ routes) :
    Tracked objects routes ruleList (s.addRoute route) := by
  constructor
  case firewall =>
    exact fun object member => tracked.firewall object (mem_of_ne_of_mem (by rintro ⟨⟩) member)
  case route =>
    rintro other (⟨⟩ | ⟨_, member⟩)
    · exact own
    · exact tracked.route other member
  case rule =>
    exact fun rule member => tracked.rule rule (mem_of_ne_of_mem (by rintro ⟨⟩) member)

theorem Tracked.addRule {rule : AnyRule} (own : rule ∈ ruleList) :
    Tracked objects routes ruleList (s.addRule rule) := by
  constructor
  case firewall =>
    exact fun object member => tracked.firewall object (mem_of_ne_of_mem (by rintro ⟨⟩) member)
  case route =>
    exact fun route member => tracked.route route (mem_of_ne_of_mem (by rintro ⟨⟩) member)
  case rule =>
    rintro other (⟨⟩ | ⟨_, member⟩)
    · exact own
    · exact tracked.rule other member

theorem Tracked.addFirewall {object : FirewallObject} (own : object ∈ objects) :
    Tracked objects routes ruleList (s.addFirewall object) := by
  constructor
  case firewall =>
    rintro other member (⟨⟩ | ⟨_, held⟩)
    · exact own
    · rcases member with ⟨⟩ | ⟨_, member⟩
      · exact own
      · exact tracked.firewall other member held
  case route =>
    exact fun route member => tracked.route route (mem_of_ne_of_mem (by rintro ⟨⟩) member)
  case rule =>
    exact fun rule member => tracked.rule rule (mem_of_ne_of_mem (by rintro ⟨⟩) member)

/-- Deletions keep what is known. -/
theorem Tracked.delFirewall (deleted : List FirewallObject) :
    Tracked (objects.filter (· ∉ deleted)) routes ruleList (s.delFirewall deleted) := by
  refine ⟨?_, tracked.route, tracked.rule⟩
  intro object member held
  obtain ⟨held, kept⟩ := mem_filter.mp held
  exact mem_filter.mpr ⟨tracked.firewall object member held, kept⟩

end

theorem delRoutes_eq (deleted : List KernelRoute) (s : RoutingState) :
    deleted.foldl RoutingState.delRoute s =
      { s with routes := s.routes.filter (· ∉ deleted) } := by
  induction deleted generalizing s with
  | nil => simp
  | cons route deleted ih =>
    rw [foldl_cons, ih]
    unfold RoutingState.delRoute
    simp only [filter_filter]
    congr 1
    apply filter_congr
    intro other _
    simp [Bool.and_comm]

variable {device : Device} {host : Surroundings} {bypass : Option Backend}

/-- After the cleanup, if the rules are gone. -/
theorem Tracked.undo
    (tracked : Tracked (bypass.elim [] device.bypassObjects)
      ((device.routes host).getD []) ruleList s)
    (gone : ∀ rule ∈ ruleList, rule ∉ s.rules) :
    Undone (device.undo host bypass s) := by
  unfold Device.undo Device.closeBypass Device.unsetRoute0
  rw [delRoutes_eq]
  intro object member
  cases object with
  | route route =>
    intro held
    have kept := (mem_filter.mp held).2
    exact of_decide_eq_true kept (tracked.route route member)
  | rule rule => exact gone rule (tracked.rule rule member)
  | firewall object =>
    intro held
    obtain ⟨held, kept⟩ := mem_filter.mp held
    exact of_decide_eq_true kept (tracked.firewall object member held)

/-- The DNAT bypass: what is left of it belongs to the backend that started. -/
theorem enableAutoRouteDNATBypass_tracked
    {run run' : Attempts RoutingState} (new : run.world.installed = [])
    (enabled : device.enableAutoRouteDNATBypass host run = (bypass, run'))
    (routes : List KernelRoute) :
    Tracked (bypass.elim [] device.bypassObjects) routes [] run'.world := by
  have fresh : ∀ {s : RoutingState} (objects : List FirewallObject),
      s.installed = [] → Tracked objects routes [] s := by
    intro s objects new
    constructor
    · intro object member
      rw [new] at member
      cases member
    · intro route member
      rw [new] at member
      cases member
    · intro rule member
      rw [new] at member
      cases member
  unfold Device.enableAutoRouteDNATBypass at enabled
  split at enabled
  · cases enabled
    exact fresh _ new
  · split at enabled
    · cases enabled
      exact fresh _ new
    · rename_i backend _
      dsimp only at enabled
      have started := @Attempts.performAll_keeps RoutingState (run.act
          (RoutingState.delFirewall (device.bypassObjects backend)))
        (Tracked (device.bypassObjects backend) routes []) FirewallObject
        RoutingState.addFirewall (device.bypassObjects backend)
        (fun object own s tracked => tracked.addFirewall own) 0
        (fresh _ new)
      split at enabled
      · rename_i done
        cases enabled
        rw [done] at started
        exact started
      · rename_i failed
        cases enabled
        rw [failed] at started
        have closed := started.delFirewall (device.bypassObjects backend)
        rw [filter_eq_nil_iff.mpr (fun object own => by simpa using own)] at closed
        exact closed

theorem setRoute_tracked {run run' : Attempts RoutingState} {error : Option ConfigureError}
    (tracked : Tracked objects ((device.routes host).getD []) ruleList run.world)
    (set : device.setRoute host run = (error, run')) :
    Tracked objects ((device.routes host).getD []) ruleList run'.world := by
  unfold Device.setRoute at set
  split at set
  · cases set
    exact tracked
  · rename_i routes found
    cases set
    refine Attempts.performAll_keeps ?_ 0 tracked
    intro route own s tracked
    apply tracked.addRoute
    rw [found]
    exact own

theorem setRules_tracked {run run' : Attempts RoutingState} {error : Option ConfigureError}
    (tracked : Tracked objects routes ruleList run.world)
    (set : setRules ruleList run = (error, run')) :
    Tracked objects routes ruleList run'.world := by
  cases set
  exact Attempts.performAll_keeps (fun rule own s tracked => tracked.addRule own) 0 tracked

theorem Tracked.moreRules (tracked : Tracked objects routes [] s) (ruleList : List AnyRule) :
    Tracked objects routes ruleList s :=
  ⟨tracked.firewall, tracked.route, fun rule member =>
    absurd (tracked.rule rule member) not_mem_nil⟩

section

variable (auto : device.options.autoRoute = true)
include auto

/-- `unsetRules` under `AutoRoute`. -/
theorem Device.unsetRules_eq (s : RoutingState) :
    device.unsetRules s = { s with
      rules := s.rules.filter fun rule =>
        !device.options.unsets rule.2.priority } := by
  have empty : device.ruleIndex6 = [] := by
    unfold Device.ruleIndex6
    rw [if_neg (by simp [auto])]
  unfold Device.unsetRules
  rw [empty, Route.unsetRules_eq (Int.le_refl 0) auto]

omit auto in
theorem Tracked.unsetRules
    (tracked : Tracked (bypass.elim [] device.bypassObjects)
      ((device.routes host).getD []) (rules (device.native host bypass)) s)
    (auto : device.options.autoRoute = true) :
    Undone (device.undo host bypass (device.unsetRules s)) := by
  rw [Device.unsetRules_eq auto]
  refine Tracked.undo ⟨tracked.firewall, tracked.route, tracked.rule⟩ ?_
  intro rule own
  exact @rules_removed (device.native host bypass) auto s.rules rule own

theorem configureRules_undone {run run' : Attempts RoutingState} {error : ConfigureError}
    (tracked : Tracked (bypass.elim [] device.bypassObjects)
      ((device.routes host).getD []) [] run.world)
    (failed : device.configureRules host bypass run = (some error, run')) :
    Undone run'.world := by
  unfold Device.configureRules at failed
  split at failed
  · rename_i set
    cases failed
    exact (setRules_tracked (tracked.moreRules _) set).unsetRules auto
  · rename_i set
    split at failed
    · cases failed
      exact (setRules_tracked (tracked.moreRules _) set).unsetRules auto
    · cases failed

theorem configureRoutes_undone {run run' : Attempts RoutingState} {error : ConfigureError}
    (tracked : Tracked (bypass.elim [] device.bypassObjects)
      ((device.routes host).getD []) [] run.world)
    (failed : device.configureRoutes host bypass run = (some error, run')) :
    Undone run'.world := by
  unfold Device.configureRoutes at failed
  have none_left : ∀ {s : RoutingState}, ∀ rule ∈ ([] : List AnyRule),
      rule ∉ s.rules := forall_mem_nil _
  split at failed
  · rename_i set
    cases failed
    exact (setRoute_tracked tracked set).undo none_left
  · rename_i set
    have tracked := setRoute_tracked tracked set
    split at failed
    · cases failed
      exact tracked.undo none_left
    · refine configureRules_undone auto ?_ failed
      exact ⟨tracked.firewall, tracked.route, tracked.rule⟩

end

/-- The choice of a table changes nothing else. -/
theorem Device.autoRoute_chooseTable :
    (device.chooseTable host).options.autoRoute = device.options.autoRoute := by
  unfold Device.chooseTable
  split
  · rfl
  · rfl

/-- A `configure` that fails leaves nothing of what it has added. -/
theorem configure_failed_undone {run run' : Attempts RoutingState} {error : ConfigureError}
    (auto : device.options.autoRoute = true)
    (new : run.world.installed = [])
    (failed : device.configure host run = (some error, run')) :
    ∀ object ∈ run'.world.installed, ¬run'.world.Holds object := by
  refine configureRoutes_undone (Device.autoRoute_chooseTable.trans auto) ?_ failed
  exact enableAutoRouteDNATBypass_tracked new rfl _

/-- A device with an address of IPv4. -/
def sampleDevice : Device where
  options :=
    { sampleRedirect.tunOptions with
      autoRedirectMarkMode := false
      inetGateway := fun _ => none }
  ranges := ⟨fun included _ => included, fun _ _ included => included, id⟩
  android := false
  androidVPNEnabled := false
  overrideAndroidVPN := false
  nextIndex6 := -1

def sampleHost : Surroundings where
  linkIndex := 4
  builder := fun _ included _ => some included
  tableIndex := 2022
  backend := some .nftables
  destinations := none
  unlisted := false
  resolvectl := true

/-- The second rule cannot be added, after the table, a route and a rule. -/
theorem configure_failed_undone_second :
    ∃ run', sampleDevice.configure sampleHost
        (Attempts.start ⟨[], [], [], []⟩ [true, true, true, false]) =
          (some (.addRule 1 8), run') ∧ run'.world.installed.length = 3 ∧
      ∀ object ∈ run'.world.installed, ¬run'.world.Holds object := by
  have failed : sampleDevice.configure sampleHost
      (Attempts.start ⟨[], [], [], []⟩ [true, true, true, false]) =
        (some (.addRule 1 8), (sampleDevice.configure sampleHost
          (Attempts.start ⟨[], [], [], []⟩ [true, true, true, false])).2) := rfl
  exact ⟨_, failed, rfl, configure_failed_undone rfl rfl failed⟩

end Undone

end SingTun.Route
