import Mathlib.Data.Finset.Basic
import Mathlib.Data.Finset.Lattice.Lemmas
import SingTun.Foundation.Attempt
import SingTun.Foundation.Transition
import SingTun.Route.Removal

/-!
# The IPVS DNS bypass

The destinations of IPVS change while the device runs.  A refresh adds the
rules of the new destinations, replaces the firewall rules of each family and
deletes the rules of the old destinations; every one of these operations may
fail, and the next refresh goes on from what was reached.
-/

namespace SingTun.Route

open Foundation Header List

/-! ## Lists of destinations -/

section Destinations

/-- `netip.Addr.Compare`, without zones. -/
def IPVSDNSDestination.compareAddr (left right : IPVSDNSDestination) :
    Ordering :=
  (compare left.family.addressSize right.family.addressSize).then
    (List.compareLex compare left.endpoint.addr.octets right.endpoint.addr.octets)

/-- The order that `sortedIPVSDNSDestinations` sorts by. -/
def IPVSDNSDestination.less (left right : IPVSDNSDestination) : Bool :=
  match left.compareAddr right with
  | .lt => true
  | .gt => false
  | .eq =>
    if left.protocol.number ≠ right.protocol.number then
      left.protocol.number < right.protocol.number
    else left.endpoint.port < right.endpoint.port

/-- The keys of the map are a list without duplicates. -/
def sortedIPVSDNSDestinations (destinationSet : List IPVSDNSDestination) :
    List IPVSDNSDestination :=
  destinationSet.mergeSort fun left right => !right.less left

def ipvsDNSDestinationsChanged (oldDestinations newDestinations : List IPVSDNSDestination) : Bool :=
  oldDestinations.length ≠ newDestinations.length ||
    (oldDestinations.zip newDestinations).any fun pair => pair.1 ≠ pair.2

def ipvsDNSDestinationDifference (destinations excluded : List IPVSDNSDestination) :
    List IPVSDNSDestination :=
  destinations.filter (· ∉ excluded)

theorem unchanged_eq {oldDestinations newDestinations : List IPVSDNSDestination}
    (unchanged : ipvsDNSDestinationsChanged oldDestinations newDestinations = false) :
    oldDestinations = newDestinations := by
  unfold ipvsDNSDestinationsChanged at unchanged
  rw [Bool.or_eq_false_iff, decide_eq_false_iff_not, not_not] at unchanged
  obtain ⟨lengths, same⟩ := unchanged
  apply ext_getElem lengths
  intro i inside inside'
  have zipped : i < (oldDestinations.zip newDestinations).length := by
    rw [length_zip]
    omega
  have pair := any_eq_false.mp same _ (getElem_mem zipped)
  simpa using pair

variable {destination : IPVSDNSDestination}

theorem mem_difference {destinations excluded : List IPVSDNSDestination} :
    destination ∈ ipvsDNSDestinationDifference destinations excluded ↔
      destination ∈ destinations ∧ destination ∉ excluded := by
  rw [ipvsDNSDestinationDifference, mem_filter, decide_eq_true_iff]

end Destinations

/-! ## A refresh -/

/-- The rules of the kernel, and the endpoints that the firewall re-routes. -/
structure HostState where
  installed : Finset AnyRule
  output : Family → List IPVSDNSDestination

namespace HostState

/-- `addIPVSDNSRule`; a rule that exists is no error. -/
def add (rule : AnyRule) (host : HostState) : HostState :=
  { host with installed := insert rule host.installed }

/-- `deleteIPVSDNSRule`; a rule that does not exist is no error. -/
def delete (rule : AnyRule) (host : HostState) : HostState :=
  { host with installed := host.installed.erase rule }

/-- The firewall rules of a family are replaced in one transaction. -/
def replaceOutput (family : Family) (targets : List IPVSDNSDestination) (host : HostState) :
    HostState :=
  { host with output := Function.update host.output family targets }

end HostState

section Refresh

variable (tun : NativeTun)

/-- The first loop of `updateIPVSDNSRules`. -/
def addDestinations : List IPVSDNSDestination → List IPVSDNSDestination →
      Attempts HostState → Bool × List IPVSDNSDestination × Attempts HostState
  | [], currentDestinations, run => (true, currentDestinations, run)
  | destination :: destinations, currentDestinations, run =>
    match ipvsDNSRule tun destination with
    | none => addDestinations destinations
        (currentDestinations.insert destination) run
    | some rule =>
      match run.perform (HostState.add ⟨destination.family, rule⟩) with
      | (false, run) => (false, currentDestinations, run)
      | (true, run) => addDestinations destinations
          (currentDestinations.insert destination) run

/-- The last loop of `updateIPVSDNSRules`. -/
def deleteDestinations : List IPVSDNSDestination → List IPVSDNSDestination →
      Attempts HostState → Bool × List IPVSDNSDestination × Attempts HostState
  | [], currentDestinations, run => (true, currentDestinations, run)
  | destination :: destinations, currentDestinations, run =>
    match ipvsDNSRule tun destination with
    | none => deleteDestinations destinations
        (currentDestinations.filter (· ≠ destination)) run
    | some rule =>
      match run.perform (HostState.delete ⟨destination.family, rule⟩) with
      | (false, run) => (false, currentDestinations, run)
      | (true, run) => deleteDestinations destinations
          (currentDestinations.filter (· ≠ destination)) run

variable (destinations : List IPVSDNSDestination)

/-- The endpoints of a family that the firewall should re-route. -/
def outputTargets (family : Family) : List IPVSDNSDestination :=
  destinations.filter fun destination =>
    destination.family = family && tun.options.enabled family

/-- `updateIPVSDNSOutput` for one family; `ipvsOutput` is what the last
transaction has written. -/
def updateFamilyOutput (family : Family) (run : Attempts HostState) : Bool × Attempts HostState :=
  if ipvsDNSDestinationsChanged (run.world.output family)
      (outputTargets tun destinations family) then
    run.perform (HostState.replaceOutput family (outputTargets tun destinations family))
  else (true, run)

/-- `updateIPVSDNSOutput`; an error of one family does not stop the other. -/
def updateIPVSDNSOutput (run : Attempts HostState) : Bool × Attempts HostState :=
  let (done, run) := updateFamilyOutput tun destinations .v4 run
  let (done', run) := updateFamilyOutput tun destinations .v6 run
  (done && done', run)

/-- `updateIPVSDNSRules`: the destinations that are installed now. -/
def updateIPVSDNSRules (oldDestinations newDestinations : List IPVSDNSDestination)
    (run : Attempts HostState) : List IPVSDNSDestination × Attempts HostState :=
  match addDestinations tun
      (ipvsDNSDestinationDifference newDestinations oldDestinations)
      oldDestinations run with
  | (false, currentDestinations, run) =>
    (sortedIPVSDNSDestinations currentDestinations, run)
  | (true, currentDestinations, run) =>
    match if tun.dnatBypass then updateIPVSDNSOutput tun newDestinations run
      else (true, run) with
    | (false, run) => (sortedIPVSDNSDestinations currentDestinations, run)
    | (true, run) =>
      match deleteDestinations tun
          (ipvsDNSDestinationDifference oldDestinations newDestinations)
          currentDestinations run with
      | (_, currentDestinations, run) =>
        (sortedIPVSDNSDestinations currentDestinations, run)

/-- `refreshIPVSDNSBypass`; without a list `Load` has failed. -/
def refreshIPVSDNSBypass (loaded : Option (List IPVSDNSDestination))
    (tracked : List IPVSDNSDestination) (run : Attempts HostState) :
    List IPVSDNSDestination × Attempts HostState :=
  match loaded with
  | none => (tracked, run)
  | some newDestinations =>
    if ipvsDNSDestinationsChanged tracked newDestinations then
      updateIPVSDNSRules tun tracked newDestinations run
    else if tun.dnatBypass then
      (tracked, (updateIPVSDNSOutput tun newDestinations run).2)
    else (tracked, run)

end Refresh

/-! ## Rules and firewall -/

section Consistency

variable {tun : NativeTun} {host : HostState} {run : Attempts HostState}
variable {destinations currentDestinations : List IPVSDNSDestination}

/-- The destinations are those whose rule is installed. -/
def Tracks (tun : NativeTun) (destinations : List IPVSDNSDestination) (host : HostState) : Prop :=
  ∀ destination rule, ipvsDNSRule tun destination = some rule →
    (⟨destination.family, rule⟩ ∈ host.installed ↔ destination ∈ destinations)

/-- Every endpoint that the firewall re-routes has its rule. -/
def Routed (tun : NativeTun) (host : HostState) : Prop :=
  ∀ family, ∀ destination ∈ host.output family, ∃ rule, ipvsDNSRule tun destination = some rule ∧
      ⟨destination.family, rule⟩ ∈ host.installed

variable {destination : IPVSDNSDestination}
variable {rule : Rule destination.family}

/-- No two destinations have the same rule. -/
theorem ipvsDNSRule_injective {other : IPVSDNSDestination} {rule' : Rule other.family}
    (made : ipvsDNSRule tun destination = some rule)
    (made' : ipvsDNSRule tun other = some rule')
    (same : (⟨destination.family, rule⟩ : AnyRule) = ⟨other.family, rule'⟩) :
    destination = other := by
  obtain ⟨protocol, family, addr, port⟩ := destination
  obtain ⟨protocol', family', addr', port'⟩ := other
  unfold ipvsDNSRule at made made'
  split at made
  · split at made'
    · cases made
      cases made'
      rw [Sigma.mk.injEq] at same
      obtain ⟨families, same⟩ := same
      cases families
      have fields := eq_of_heq same
      have protocols : protocol = protocol' := by
        have numbers := fields
        revert numbers
        cases protocol <;> cases protocol' <;> simp [DNSProtocol.number]
      simp_all
    · cases made'
  · cases made

/-- A destination that is not tracked yet. -/
theorem Tracks.add (tracks : Tracks tun currentDestinations host)
    (made : ipvsDNSRule tun destination = some rule) :
    Tracks tun (currentDestinations.insert destination) (host.add ⟨destination.family, rule⟩) := by
  intro other rule' made'
  unfold HostState.add
  rw [Finset.mem_insert, mem_insert_iff, tracks other rule' made']
  refine or_congr_left ⟨?_, ?_⟩
  · exact fun same => ipvsDNSRule_injective made' made same
  · rintro rfl
    rw [Option.some.inj (made'.symm.trans made)]

theorem Tracks.delete (tracks : Tracks tun currentDestinations host)
    (made : ipvsDNSRule tun destination = some rule) :
    Tracks tun (currentDestinations.filter (· ≠ destination))
      (host.delete ⟨destination.family, rule⟩) := by
  intro other rule' made'
  unfold HostState.delete
  rw [Finset.mem_erase, mem_filter, decide_eq_true_iff, tracks other rule' made', and_comm]
  refine and_congr_right fun _ => not_congr ⟨?_, ?_⟩
  · exact fun same => ipvsDNSRule_injective made' made same
  · rintro rfl
    rw [Option.some.inj (made'.symm.trans made)]

/-- A destination without a rule. -/
theorem Tracks.of_iff (tracks : Tracks tun destinations host)
    (same : ∀ destination rule, ipvsDNSRule tun destination = some rule →
      (destination ∈ currentDestinations ↔ destination ∈ destinations)) :
    Tracks tun currentDestinations host := by
  intro destination rule made
  rw [tracks destination rule made, same destination rule made]

theorem Routed.add (routed : Routed tun host) (rule : AnyRule) : Routed tun (host.add rule) := by
  intro family destination member
  obtain ⟨made, made_eq, listed⟩ := routed family destination member
  exact ⟨made, made_eq, Finset.mem_insert_of_mem listed⟩

theorem Routed.delete (routed : Routed tun host)
    (made : ipvsDNSRule tun destination = some rule)
    (left : ∀ family, destination ∉ host.output family) :
    Routed tun (host.delete ⟨destination.family, rule⟩) := by
  intro family other member
  obtain ⟨rule', made', listed⟩ := routed family other member
  refine ⟨rule', made', Finset.mem_erase.mpr ⟨?_, listed⟩⟩
  intro same
  apply left family
  rw [← ipvsDNSRule_injective made' made same]
  exact member

/-! ## The phases of an update -/

/-- What holds between the operations of a refresh. -/
structure Steady (tun : NativeTun) (destinations : List IPVSDNSDestination)
    (run : Attempts HostState) : Prop where
  routed : run.Always (Routed tun)
  tracks : Tracks tun destinations run.world
  /-- Without the DNAT bypass there is no firewall. -/
  quiet : tun.dnatBypass = false → ∀ family, run.world.output family = []

section

variable (steady : Steady tun currentDestinations run)
include steady

theorem addDestinations_steady :
    Steady tun (addDestinations tun destinations currentDestinations run).2.1
      (addDestinations tun destinations currentDestinations run).2.2 := by
  induction destinations generalizing currentDestinations run with
  | nil => exact steady
  | cons destination destinations ih =>
    unfold addDestinations
    split
    · rename_i absent
      refine ih { steady with tracks := steady.tracks.of_iff ?_ }
      intro other rule made
      rw [mem_insert_iff, or_iff_right]
      rintro rfl
      rw [absent] at made
      cases made
    · rename_i rule made
      rcases run.perform_cases (HostState.add ⟨destination.family, rule⟩)
        with ⟨outcomes, failed⟩ | ⟨outcomes, done⟩
      · rw [failed]
        exact ⟨steady.routed.failed outcomes, steady.tracks, steady.quiet⟩
      · rw [done]
        exact ih
          { routed := steady.routed.changed (steady.routed.now.add _) outcomes
            tracks := steady.tracks.add made
            quiet := steady.quiet }

omit steady in
/-- Afterwards all destinations are tracked, if no operation has failed. -/
theorem addDestinations_tracked
    (done : (addDestinations tun destinations currentDestinations run).1 = true)
    {destination : IPVSDNSDestination}
    (member : destination ∈ currentDestinations ∨ destination ∈ destinations) :
    destination ∈ (addDestinations tun destinations currentDestinations run).2.1 := by
  induction destinations generalizing currentDestinations run with
  | nil => exact member.resolve_right not_mem_nil
  | cons first destinations ih =>
    have next : destination ∈ currentDestinations.insert first ∨ destination ∈ destinations := by
      rw [mem_insert_iff]
      rw [mem_cons] at member
      tauto
    revert done
    unfold addDestinations
    split
    · exact fun done => ih done next
    · rename_i rule made
      rcases run.perform_cases (HostState.add ⟨first.family, rule⟩)
        with ⟨outcomes, failed⟩ | ⟨outcomes, added⟩
      · rw [failed]
        exact nofun
      · rw [added]
        exact fun done => ih done next

omit steady in
theorem mem_outputTargets {family : Family} {destination : IPVSDNSDestination}
    (member : destination ∈ outputTargets tun destinations family) :
    destination ∈ destinations ∧ tun.options.enabled destination.family = true := by
  obtain ⟨listed, both⟩ := mem_filter.mp member
  rw [Bool.and_eq_true, decide_eq_true_iff] at both
  obtain ⟨rfl, enabled⟩ := both
  exact ⟨listed, enabled⟩

/-- One family after `updateIPVSDNSOutput`. -/
theorem updateFamilyOutput_spec (bypass : tun.dnatBypass = true)
    (inside : ∀ destination ∈ destinations, destination ∈ currentDestinations) (family : Family) :
    Steady tun currentDestinations
        (updateFamilyOutput tun destinations family run).2 ∧ (∀ other ≠ family,
        (updateFamilyOutput tun destinations family run).2.world.output
          other = run.world.output other) ∧
      ((updateFamilyOutput tun destinations family run).1 = true →
        (updateFamilyOutput tun destinations family run).2.world.output
          family = outputTargets tun destinations family) := by
  have firewall : ¬tun.dnatBypass = false := by
    rw [bypass]
    decide
  unfold updateFamilyOutput
  split
  · rcases run.perform_cases (HostState.replaceOutput family
      (outputTargets tun destinations family)) with ⟨outcomes, failed⟩ | ⟨outcomes, done⟩
    · rw [failed]
      exact ⟨⟨steady.routed.failed outcomes, steady.tracks, steady.quiet⟩, fun _ _ => rfl, nofun⟩
    · rw [done]
      refine ⟨⟨steady.routed.changed ?_ outcomes, steady.tracks,
        fun off => absurd off firewall⟩, ?_, fun _ => ?_⟩
      · intro other destination member
        by_cases here : other = family
        · cases here
          have new : destination ∈ outputTargets tun destinations family := by
            simpa [HostState.replaceOutput] using member
          obtain ⟨listed, enabled⟩ := mem_outputTargets new
          obtain ⟨rule, made⟩ : ∃ rule, ipvsDNSRule tun destination = some rule := by
            unfold ipvsDNSRule
            rw [if_pos enabled]
            exact ⟨_, rfl⟩
          exact ⟨rule, made, (steady.tracks destination rule made).mpr (inside destination listed)⟩
        · apply steady.routed.now other
          simpa [HostState.replaceOutput, here] using member
      · intro other different
        exact Function.update_of_ne different _ _
      · exact Function.update_self _ _ _
  · rename_i unchanged
    refine ⟨steady, fun _ _ => rfl, fun _ => ?_⟩
    exact unchanged_eq (by simpa using unchanged)

theorem updateIPVSDNSOutput_steady (bypass : tun.dnatBypass = true)
    (inside : ∀ destination ∈ destinations, destination ∈ currentDestinations) :
    Steady tun currentDestinations (updateIPVSDNSOutput tun destinations run).2 ∧
      ((updateIPVSDNSOutput tun destinations run).1 = true → ∀ family, ∀ destination ∈
          (updateIPVSDNSOutput tun destinations run).2.world.output family,
            destination ∈ destinations) := by
  obtain ⟨first, -, four⟩ := updateFamilyOutput_spec steady bypass inside .v4
  obtain ⟨second, other, six⟩ := updateFamilyOutput_spec first bypass inside .v6
  refine ⟨second, ?_⟩
  intro done family destination member
  obtain ⟨done4, done6⟩ := Bool.and_eq_true_iff.mp done
  have targets : destination ∈ outputTargets tun destinations family := by
    cases family with
    | v4 => rwa [← four done4, ← other .v4 (by decide)]
    | v6 => rwa [← six done6]
  exact (mem_outputTargets targets).1

theorem deleteDestinations_steady
    (left : ∀ family, ∀ destination ∈ run.world.output family, destination ∉ destinations) :
    Steady tun (deleteDestinations tun destinations currentDestinations run).2.1
      (deleteDestinations tun destinations currentDestinations run).2.2 := by
  induction destinations generalizing currentDestinations run with
  | nil => exact steady
  | cons destination destinations ih =>
    have rest : ∀ family, ∀ other ∈ run.world.output family,
        other ∉ destinations := fun family other member listed =>
      left family other member (mem_cons_of_mem _ listed)
    unfold deleteDestinations
    split
    · rename_i absent
      refine ih { steady with tracks := steady.tracks.of_iff ?_ } rest
      intro other rule made
      rw [mem_filter, decide_eq_true_iff, and_iff_left]
      rintro rfl
      rw [absent] at made
      cases made
    · rename_i rule made
      rcases run.perform_cases (HostState.delete ⟨destination.family, rule⟩)
        with ⟨outcomes, failed⟩ | ⟨outcomes, done⟩
      · rw [failed]
        exact ⟨steady.routed.failed outcomes, steady.tracks, steady.quiet⟩
      · rw [done]
        refine ih
          { routed := steady.routed.changed (steady.routed.now.delete made ?_) outcomes
            tracks := steady.tracks.delete made
            quiet := steady.quiet } rest
        exact fun family member =>
          left family destination member mem_cons_self

theorem Steady.sorted : Steady tun (sortedIPVSDNSDestinations currentDestinations) run :=
  { steady with
    tracks := steady.tracks.of_iff fun _ _ _ => mem_mergeSort }

end

/-- All operations of an update. -/
theorem updateIPVSDNSRules_steady {oldDestinations newDestinations : List IPVSDNSDestination}
    (steady : Steady tun oldDestinations run) :
    Steady tun (updateIPVSDNSRules tun oldDestinations newDestinations run).1
      (updateIPVSDNSRules tun oldDestinations newDestinations run).2 := by
  have added := @addDestinations_steady tun run
    (ipvsDNSDestinationDifference newDestinations oldDestinations) oldDestinations steady
  have tracked := @addDestinations_tracked tun run
    (ipvsDNSDestinationDifference newDestinations oldDestinations) oldDestinations
  unfold updateIPVSDNSRules
  split
  · rename_i stopped
    rw [stopped] at added
    exact added.sorted
  rename_i currentDestinations run done
  rw [done] at added tracked
  have inside : ∀ destination ∈ newDestinations, destination ∈ currentDestinations := by
    intro destination member
    apply tracked rfl
    by_cases old : destination ∈ oldDestinations
    · exact .inl old
    · exact .inr (mem_difference.mpr ⟨member, old⟩)
  -- The firewall selects only new endpoints when the old rules are deleted.
  have output : ∀ done after, (if tun.dnatBypass = true then
        updateIPVSDNSOutput tun newDestinations run
      else (true, run)) = (done, after) →
      Steady tun currentDestinations after ∧
        (done = true → ∀ family, ∀ destination ∈ after.world.output family,
          destination ∈ newDestinations) := by
    intro done after result
    split at result
    · rename_i bypass
      have spec := updateIPVSDNSOutput_steady added bypass inside
      rw [result] at spec
      exact spec
    · rename_i off
      cases result
      refine ⟨added, fun _ family destination member => ?_⟩
      rw [added.quiet (by simpa using off) family] at member
      cases member
  split
  · rename_i stopped
    exact (output _ _ stopped).1.sorted
  · rename_i switched
    obtain ⟨steady, new⟩ := output _ _ switched
    refine (deleteDestinations_steady steady ?_).sorted
    intro family destination member old
    exact (mem_difference.mp old).2 (new rfl family destination member)

theorem refreshIPVSDNSBypass_steady
    {tracked : List IPVSDNSDestination} (steady : Steady tun tracked run)
    (loaded : Option (List IPVSDNSDestination)) :
    Steady tun (refreshIPVSDNSBypass tun loaded tracked run).1
      (refreshIPVSDNSBypass tun loaded tracked run).2 := by
  unfold refreshIPVSDNSBypass
  split
  · exact steady
  · split
    · exact updateIPVSDNSRules_steady steady
    · rename_i unchanged
      split
      · rename_i bypass
        have same := unchanged_eq (by simpa using unchanged)
        exact (updateIPVSDNSOutput_steady steady bypass
          (by rw [same]; exact fun _ member => member)).1
      · exact steady

end Consistency

/-! ## Sequences of refreshes -/

section Runs

/-- The tracked destinations, and the state of the host. -/
structure BypassState where
  tracked : List IPVSDNSDestination
  host : HostState

/-- A refresh from a state; the worlds in between are its trace. -/
def BypassState.refresh (tun : NativeTun) (loaded : Option (List IPVSDNSDestination))
    (outcomes : List Bool) (state : BypassState) : List IPVSDNSDestination × Attempts HostState :=
  refreshIPVSDNSBypass tun loaded state.tracked (.start state.host outcomes)

/-- `configure` removes the rules that are in the way and installs those of
`rules`; then any number of refreshes follows, with any lists and failures. -/
def bypassSystem (tun : NativeTun) : TransitionSystem BypassState where
  initial state := tun.options.autoRoute = true ∧ tun.options.autoRedirectMarkMode = false ∧
    tun.ipvsDNSBypass = some state.tracked ∧
    (∀ family, state.host.output family = []) ∧ ∃ foreign : Finset AnyRule,
      (∀ rule ∈ foreign, tun.options.unsets rule.2.priority = false) ∧
      state.host.installed = foreign ∪ (rules tun).toFinset
  step state state' := ∃ loaded outcomes, state'.tracked = (state.refresh tun loaded outcomes).1 ∧
      state'.host = (state.refresh tun loaded outcomes).2.world

/-- What holds between two refreshes. -/
structure Consistent (tun : NativeTun) (state : BypassState) : Prop where
  routed : Routed tun state.host
  tracks : Tracks tun state.tracked state.host
  quiet : tun.dnatBypass = false → ∀ family, state.host.output family = []

variable {tun : NativeTun} {state : BypassState}

theorem Consistent.steady (consistent : Consistent tun state) (outcomes : List Bool) :
    Steady tun state.tracked (.start state.host outcomes) :=
  ⟨Attempts.always_start consistent.routed, consistent.tracks, consistent.quiet⟩

/-- The rules that `configure` installs are those of the destinations. -/
theorem consistent_initial (initial : (bypassSystem tun).initial state) : Consistent tun state := by
  obtain ⟨auto, policy, bypass, silent, foreign, outside, installed⟩ := initial
  refine ⟨?_, ?_, fun _ => silent⟩
  · intro family destination member
    rw [silent family] at member
    cases member
  · intro destination rule made
    have enabled := ipvsDNSRule_enabled tun made
    have slot := (ipvsDNSRule_slot tun made).1
    have bounds := ipvsSlot_bounds tun
    rw [installed, Finset.mem_union, mem_toFinset, ← mem_lane, lane_rules auto policy enabled]
    constructor
    · rintro (member | member)
      · have kept := outside _ member
        rw [slot, unsets_of_bounds bounds.1 (by omega)] at kept
        cases kept
      · rcases policyStage_slot bypass member with
          ⟨-, -, first⟩ | ⟨other, listed, found⟩ | behind
        · omega
        · obtain ⟨rule', made', same⟩ := Option.map_eq_some_iff.mp found
          rw [← ipvsDNSRule_injective made' made same]
          exact listed
        · omega
    · intro listed
      right
      apply mem_append_right
      apply mem_append_left
      unfold bypassStage
      rw [bypass]
      refine mem_lane.mpr (mem_filterMap.mpr ⟨_, listed, ?_⟩)
      rw [made]
      rfl

theorem consistent_step {state' : BypassState} (consistent : Consistent tun state)
    (step : (bypassSystem tun).step state state') :
    Consistent tun state' := by
  obtain ⟨loaded, outcomes, tracked, host⟩ := step
  have steady := refreshIPVSDNSBypass_steady (consistent.steady outcomes) loaded
  constructor
  · rw [host]
    exact steady.routed.now
  · rw [host, tracked]
    exact steady.tracks
  · rw [host]
    exact steady.quiet

/-- Rules and firewall stay consistent over every sequence of refreshes, and
at every point of each of them. -/
theorem bypassSystem_consistent (tun : NativeTun) (state : BypassState)
    (reachable : (bypassSystem tun).Reachable state) :
    Tracks tun state.tracked state.host ∧ ∀ loaded outcomes,
        ∀ host ∈ (state.refresh tun loaded outcomes).2.trace, Routed tun host := by
  have consistent : Consistent tun state :=
    TransitionSystem.Reachable.invariant (fun _ => consistent_initial)
      (fun _ _ => consistent_step) reachable
  refine ⟨consistent.tracks, ?_⟩
  intro loaded outcomes
  exact (refreshIPVSDNSBypass_steady (consistent.steady outcomes) loaded).routed.before

/-- A DNS service of a cluster. -/
def sampleService (last : UInt8) : IPVSDNSDestination :=
  ⟨.udp, .v4, ⟨.from4 10 96 0 last, 53⟩⟩

/-- The state of the sample device after `configure`. -/
def sampleBypass : BypassState where
  tracked := [sampleService 10]
  host := ⟨(rules sampleTun).toFinset, fun _ => []⟩

/-- The service has got another address.  Its rule has been added and the
firewall replaced, but the deletion of the old rule has failed. -/
def sampleMoved : BypassState :=
  let (tracked, run) := sampleBypass.refresh sampleTun (some [sampleService 11])
    [true, true, false]
  ⟨tracked, run.world⟩

/-- Back to the old address: the firewall is replaced and the rule of the other
address deleted, with three states of the host on the way. -/
theorem bypassSystem_consistent_sample :
    (bypassSystem sampleTun).Reachable sampleMoved ∧
      sampleMoved.tracked = [sampleService 10, sampleService 11] ∧
      sampleMoved.host.output .v4 = [sampleService 11] ∧
      Tracks sampleTun sampleMoved.tracked sampleMoved.host ∧
      ((sampleMoved.refresh sampleTun (some [sampleService 10]) []).2.trace.map
        (·.output .v4)) = [[sampleService 10], [sampleService 10], [sampleService 11]] ∧
      ∀ host ∈ (sampleMoved.refresh sampleTun (some [sampleService 10]) []).2.trace,
        Routed sampleTun host := by
  have initial : (bypassSystem sampleTun).initial sampleBypass := ⟨rfl, rfl, rfl, fun _ => rfl, ∅,
      fun rule member => absurd member (Finset.notMem_empty rule),
      (Finset.empty_union _).symm⟩
  have reachable : (bypassSystem sampleTun).Reachable sampleMoved :=
    ⟨_, initial, .single ⟨some [sampleService 11], [true, true, false], rfl, rfl⟩⟩
  have tracked : sampleMoved.tracked = [sampleService 10, sampleService 11] := by
    change sortedIPVSDNSDestinations [sampleService 11, sampleService 10] = _
    have less : (sampleService 10).less (sampleService 11) = true := by decide
    simp [sortedIPVSDNSDestinations, mergeSort, MergeSort.Internal.splitInTwo, less]
  obtain ⟨tracks, routed⟩ := bypassSystem_consistent _ _ reachable
  refine ⟨reachable, tracked, by decide +kernel, tracks, ?_,
    routed (some [sampleService 10]) []⟩
  unfold BypassState.refresh
  rw [tracked]
  decide +kernel

end Runs

end SingTun.Route
