import Mathlib.Logic.Function.Basic
import SingTun.Route.Rule

/-!
# The rules of a device

`NativeTun.rules` appends rules of both families to one list and counts two
priorities.  A stage of it is what one family adds at its priority, with the
priority after it; the source has most stages twice, once for each family.
-/

namespace SingTun.Route

open Foundation Header

/-! ## Stages -/

/-- The rules that a family adds at a priority, and its next priority. -/
abbrev Stage := (family : Family) → Int → List (Rule family) × Int

/-- The rules so far, with `priority` and `priority6`. -/
structure Builder where
  rules : List AnyRule
  priority : Family → Int

namespace Builder

def run (builder : Builder) (stage : Stage) (family : Family) : Builder where
  rules := builder.rules ++ (stage family (builder.priority family)).1.map (Sigma.mk family)
  priority := Function.update builder.priority family (stage family (builder.priority family)).2

/-- `if p4 { … }` and `if p6 { … }`. -/
def each (enabled : Family → Bool) (stage : Stage) (builder : Builder) :
    Builder :=
  let builder := if enabled .v4 then builder.run stage .v4 else builder
  if enabled .v6 then builder.run stage .v6 else builder

/-- A loop over items, with both families in each round. -/
def forAll {α : Type} (enabled : Family → Bool) (items : List α)
    (stage : α → Stage) (builder : Builder) : Builder :=
  items.foldl (fun builder item => builder.each enabled (stage item)) builder

end Builder

/-- `priority++`. -/
def advance : Stage := fun _ priority => ([], priority + 1)

/-- One rule at the priority. -/
def emit (rule : (family : Family) → Int → Rule family) : Stage :=
  fun family priority => ([rule family priority], priority)

/-! ## The mark mode -/

section MarkMode

variable (tun : NativeTun)

/-- The mark of the packets that leave the redirection. -/
def markRule (family : Family) (priority : Int) : Rule family :=
  if tun.dnatBypass then
    { priority
      mark := tun.options.autoRouteDNATBypassMark
      mask := tun.options.autoRouteDNATBypassMask.toNat
      markSet := true
      goto := priority + 2 }
  else
    { priority
      mark := tun.options.autoRedirectOutputMark
      markSet := true
      goto := priority + 2 }

def markStage : Stage := fun family priority =>
  ([markRule tun family priority,
    { priority := priority + 1
      mark := tun.options.autoRedirectInputMark
      markSet := true
      table := tun.options.ipRoute2TableIndex },
    { priority := priority + 2 }], priority + 2)

/-- The rules behind those of the system. -/
def fallbackStage : Stage := fun _ priority =>
  ([{ priority := tun.options.ipRoute2AutoRedirectFallbackRuleIndex
      table := tun.options.ipRoute2TableIndex }], priority)

end MarkMode

/-! ## The policy -/

section Policy

variable (tun : NativeTun)

/-- The priority behind all lookups of the device's table. -/
def nopPriority : Int := tun.options.ipRoute2RuleIndex + 10

def dnatRule (family : Family) (priority : Int) : Rule family where
  priority
  mark := tun.options.autoRouteDNATBypassMark
  mask := tun.options.autoRouteDNATBypassMask.toNat
  markSet := true
  goto := nopPriority tun

def dnatStage : Stage := fun family priority =>
  ([dnatRule tun family priority], priority + 1)

/-- `ipvsDNSRule`. -/
def ipvsDNSRule (destination : IPVSDNSDestination) : Option (Rule destination.family) :=
  if tun.options.enabled destination.family then
    some
      { priority := tun.options.ipRoute2RuleIndex +
          if tun.dnatBypass then 1 else 0
        dst := some
          ⟨destination.endpoint.addr, 8 * destination.family.addressSize, Nat.le_refl _⟩
        ipProto := destination.protocol.number
        dport := some ⟨destination.endpoint.port, destination.endpoint.port⟩
        goto := tun.options.ipRoute2RuleIndex + 10 }
  else none

/-- The rules of a list of destinations. -/
def ipvsDNSRules (destinations : List IPVSDNSDestination) : List AnyRule :=
  destinations.filterMap fun destination =>
    (ipvsDNSRule tun destination).map (Sigma.mk destination.family)

section

variable (range : Range UInt16) (family : Family) (priority : Int)

def srcPortRule : Rule family :=
  { priority, sport := some range, goto := nopPriority tun }

def dstPortRule : Rule family :=
  { priority, dport := some range, goto := nopPriority tun }

end

def uidRule (range : Range UInt32) (family : Family) (priority : Int) : Rule family :=
  { priority, uidRange := some range, goto := nopPriority tun }

/-- `goto matchPriority`, which is two priorities further. -/
def includeRule (iifName : String) (family : Family) (priority : Int) : Rule family :=
  { priority, iifName, goto := priority + 2 }

/-- The other interfaces, and the target of those that are included. -/
def includeStage : Stage := fun _ priority =>
  ([{ priority, goto := nopPriority tun }, { priority := priority + 1 }], priority + 2)

def excludeRule (iifName : String) (family : Family) (priority : Int) : Rule family :=
  { priority, iifName, goto := nopPriority tun }

def protectedFromVPN : UInt32 := 0x20000

def androidRule (family : Family) (priority : Int) : Rule family :=
  if tun.overrideAndroidVPN then
    { priority
      mark := protectedFromVPN
      markSet := true
      mask := protectedFromVPN.toNat
      goto := nopPriority tun }
  else
    { priority, mask := protectedFromVPN.toNat, goto := nopPriority tun }

def androidStage : Stage := fun family priority =>
  ([androidRule tun family priority], priority + 1)

def strictStage : Stage := fun _ priority =>
  ([{ priority, type := .unreachable }], priority + 1)

/-- The addresses of the device, for IPv4 only. -/
def addressStage : Stage
  | .v4, priority =>
    ((tun.options.inetAddress .v4).map fun address =>
      { priority
        dst := some address.masked
        table := tun.options.ipRoute2TableIndex }, priority + 1)
  | .v6, priority => ([], priority)

section

variable (family : Family) (priority : Int)

/-- The main table, without its default routes and not for DNS. -/
def mainRule : Rule family where
  priority
  invert := true
  dport := some ⟨53, 53⟩
  table := rtTableMain
  suppressPrefixlen := 0

/-- Packets of the device itself. -/
def ownRule : Rule family where
  priority
  iifName := tun.options.name
  goto := nopPriority tun

/-- Packets of this host that have an address of the device. -/
def localRules : List (Rule family) :=
  (tun.options.inetAddress family).map fun address =>
    { priority
      iifName := "lo"
      src := some address.masked
      table := tun.options.ipRoute2TableIndex }

end

/-- Packets that come in, and those of this host with a fitting source. -/
def captureRules (priority : Int) : List (Rule .v4) :=
  { priority
    invert := true
    iifName := "lo"
    table := tun.options.ipRoute2TableIndex } ::
  { priority
    iifName := "lo"
    src := some ⟨⟨List.replicate 4 0, rfl⟩, 32, by decide⟩
    table := tun.options.ipRoute2TableIndex } ::
  localRules tun .v4 priority

/-- Packets of the device, and the other ones of this host. -/
def passRules (priority : Int) : List (Rule .v6) :=
  [ownRule tun .v6 priority,
    { priority
      iifName := "lo"
      src := some ⟨⟨List.replicate 16 0, rfl⟩, 1, by decide⟩
      goto := nopPriority tun },
    { priority
      iifName := "lo"
      src := some ⟨⟨128 :: List.replicate 15 0, rfl⟩, 1, by decide⟩
      goto := nopPriority tun }]

def captureStage : Stage
  | .v4, priority =>
    (ownRule tun .v4 priority :: captureRules tun (priority + 1), priority + 1)
  | .v6, priority =>
    (localRules tun .v6 priority ++ (passRules tun (priority + 1) ++
      [{ priority := priority + 2
         table := tun.options.ipRoute2TableIndex }]), priority + 2)

def nopRule (family : Family) (_ : Int) : Rule family :=
  { priority := nopPriority tun }

/-- The rules outside of the mark mode. -/
def policyRules : List AnyRule :=
  let options := tun.options
  let enabled := options.enabled
  let builder : Builder := ⟨[], fun _ => options.ipRoute2RuleIndex⟩
  let builder :=
    if tun.dnatBypass then builder.each enabled (dnatStage tun) else builder
  let builder := match tun.ipvsDNSBypass with
    | none => builder
    | some destinations =>
      { builder with
        rules := builder.rules ++ ipvsDNSRules tun destinations
        }.each enabled advance
  let builder := builder.forAll enabled options.excludeSrcPort fun range =>
    emit (srcPortRule tun range)
  let builder := builder.forAll enabled options.excludeDstPort fun range =>
    emit (dstPortRule tun range)
  let builder := builder.forAll enabled tun.excludedRanges fun range =>
    emit (uidRule tun range)
  let builder :=
    if options.excludeSrcPort ≠ [] ∨ options.excludeDstPort ≠ [] ∨
        tun.excludedRanges ≠ [] then builder.each enabled advance
    else builder
  let builder :=
    if options.includeInterface ≠ [] then
      ((builder.forAll enabled options.includeInterface fun iifName =>
        emit (includeRule iifName)).each enabled advance).each enabled (includeStage tun)
    else if options.excludeInterface ≠ [] then
      (builder.forAll enabled options.excludeInterface fun iifName =>
        emit (excludeRule tun iifName)).each enabled advance
    else builder
  let builder :=
    if tun.android ∧ tun.androidVPNEnabled then
      builder.each enabled (androidStage tun)
    else builder
  let builder :=
    if options.strictRoute then
      builder.each (fun family => !enabled family) strictStage
    else builder
  let builder :=
    if !tun.android then
      (builder.each enabled (addressStage tun)).each enabled (emit mainRule)
    else builder
  let builder := builder.each enabled (captureStage tun)
  (builder.each enabled (emit (nopRule tun))).rules

/-- `NativeTun.rules`. -/
def rules : List AnyRule :=
  let options := tun.options
  if !options.autoRoute then
    if options.enabled .v6 then
      [⟨.v6,
        { priority := tun.nextIndex6
          table := options.ipRoute2TableIndex
          oifName := options.name }⟩]
    else []
  else if !options.enabled .v4 ∧ !options.enabled .v6 then []
  else if options.autoRedirectMarkMode then
    let builder : Builder := ⟨[], fun _ => options.ipRoute2RuleIndex⟩
    ((builder.each options.enabled (markStage tun)).each options.enabled (fallbackStage tun)).rules
  else policyRules tun

end Policy

end SingTun.Route
