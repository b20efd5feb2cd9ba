import SingTun.Route.Kernel

/-!
# The capture policy

The first stages of the rules let packets pass by: each of them jumps behind
all lookups for the packets that it selects, and is not there for the other
ones.  The last stages decide which of these are sent to the device.
-/

namespace SingTun.Route

open Foundation Header List

/-! ## The policy -/

section Policy

variable {family : Family}

/-- The packets that are not for the device. -/
def Bypassed (tun : NativeTun) (packet : Packet family) : Prop :=
  (tun.dnatBypass = true ∧ packet.mark &&& tun.options.autoRouteDNATBypassMask =
      tun.options.autoRouteDNATBypassMark) ∨
  (∃ destinations, tun.ipvsDNSBypass = some destinations ∧
    ∃ destination ∈ destinations, destination.protocol.number = packet.ipProto ∧
      (⟨destination.family, destination.endpoint⟩ : (family : Family) × AddrPort family) =
          ⟨family, ⟨packet.dst, packet.dport⟩⟩) ∨
  (∃ range ∈ tun.options.excludeSrcPort, range.contains packet.sport) ∨
  (∃ range ∈ tun.options.excludeDstPort, range.contains packet.dport) ∨
  (∃ range ∈ tun.excludedRanges, range.containsUID packet.uid) ∨
  (tun.options.includeInterface ≠ [] ∧ packet.iifName ∉ tun.options.includeInterface) ∨
  (tun.options.includeInterface = [] ∧ packet.iifName ∈ tun.options.excludeInterface)

/-- A route of the main table that is not a default one, for any port but that
of DNS. -/
def MainAnswers (answer : Int → Option Nat) (packet : Packet family) : Prop :=
  packet.dport ≠ 53 ∧ ∃ length, answer rtTableMain = some length ∧ 0 < length

/-- An address in one of the networks of the device. -/
def InNetwork (tun : NativeTun) (addr : Addr family) : Prop :=
  ∃ network ∈ tun.options.inetAddress family, network.contains addr = true

/-- The IPv4 packets that are for the device. -/
def Captured (tun : NativeTun) (answer : Int → Option Nat) (packet : Packet .v4) :
    Prop :=
  InNetwork tun packet.dst ∨
  (¬MainAnswers answer packet ∧ packet.iifName ≠ tun.options.name ∧
    (packet.iifName ≠ "lo" ∨ packet.src = .from4 0 0 0 0 ∨ InNetwork tun packet.src))

/-- A walk over the rules asks the table of the device. -/
def ReachesDevice (tun : NativeTun) (answer : Int → Option Nat) (packet : Packet family) :
    Prop :=
  Reaches answer packet tun.options.ipRoute2TableIndex (kernelOrder (lane family (rules tun))) none

instance (tun : NativeTun) (answer : Int → Option Nat) (packet : Packet family) :
    Decidable (ReachesDevice tun answer packet) :=
  inferInstanceAs (Decidable (∃ rule ∈ walk answer packet
    (kernelOrder (lane family (rules tun))) none,
      rule.lookup? = some tun.options.ipRoute2TableIndex))

/-- What the rules are for. -/
structure CapturePolicy (tun : NativeTun) (answer : Int → Option Nat) :
    Prop where
  bypassed : ∀ family, tun.options.enabled family = true →
    ∀ packet : Packet family, Bypassed tun packet → ¬ReachesDevice tun answer packet
  captured : tun.options.enabled .v4 = true → ∀ packet : Packet .v4, ¬Bypassed tun packet →
      (ReachesDevice tun answer packet ↔ Captured tun answer packet)

/-- Options that name an interface, a table and a priority wherever they are
expected to. -/
structure Proper (options : Options) : Prop where
  ruleIndex : 0 ≤ options.ipRoute2RuleIndex
  table : 0 < options.ipRoute2TableIndex
  ownTable : options.ipRoute2TableIndex ≠ rtTableMain
  name : options.name ≠ ""
  includeInterface : "" ∉ options.includeInterface
  excludeInterface : "" ∉ options.excludeInterface

end Policy

/-! ## Rules and packets -/

section Matches

variable {family : Family} (tun : NativeTun) (packet : Packet family)
variable (priority : Int)

theorem and_xor_eq_zero (mark packet mask : UInt32) :
    ((mark &&& mask) ^^^ packet) &&& mask = 0 ↔ packet &&& mask = mark &&& mask := by
  have spread : ((mark &&& mask) ^^^ packet) &&& mask = (packet &&& mask) ^^^ (mark &&& mask) := by
    apply UInt32.toBitVec_inj.mp
    ext i
    simp
    grind
  rw [spread]
  constructor
  · intro zero
    have both := congrArg (· ^^^ (mark &&& mask)) zero
    simpa [UInt32.xor_assoc] using both
  · intro same
    rw [same]
    exact UInt32.xor_self

theorem dnatRule_matches :
    (dnatRule tun family priority).matches packet = true ↔
      packet.mark &&& tun.options.autoRouteDNATBypassMask =
        tun.options.autoRouteDNATBypassMark := by
  unfold Options.autoRouteDNATBypassMark
  rw [← and_xor_eq_zero]
  simp [Rule.matches, Rule.selects, dnatRule, Rule.markMask, Options.autoRouteDNATBypassMark]

theorem srcPortRule_matches (range : Range UInt16) :
    (srcPortRule tun range family priority).matches packet = range.contains packet.sport := by
  simp [Rule.matches, Rule.selects, srcPortRule, Rule.markMask]

theorem dstPortRule_matches (range : Range UInt16) :
    (dstPortRule tun range family priority).matches packet = range.contains packet.dport := by
  simp [Rule.matches, Rule.selects, dstPortRule, Rule.markMask]

theorem uidRule_matches (range : Range UInt32) :
    (uidRule tun range family priority).matches packet = range.containsUID packet.uid := by
  simp [Rule.matches, Rule.selects, uidRule, Rule.markMask]

theorem includeRule_matches (iifName : String) :
    (includeRule iifName family priority).matches packet = true ↔
      iifName = "" ∨ iifName = packet.iifName := by
  simp [Rule.matches, Rule.selects, includeRule, Rule.markMask]

theorem excludeRule_matches (iifName : String) :
    (excludeRule tun iifName family priority).matches packet = true ↔
      iifName = "" ∨ iifName = packet.iifName := by
  simp [Rule.matches, Rule.selects, excludeRule, Rule.markMask]

theorem ownRule_matches :
    (ownRule tun family priority).matches packet = true ↔
      tun.options.name = "" ∨ tun.options.name = packet.iifName := by
  simp [Rule.matches, Rule.selects, ownRule, Rule.markMask]

theorem mainRule_matches :
    (mainRule family priority).matches packet = true ↔ packet.dport ≠ 53 := by
  have only : (⟨53, 53⟩ : Range UInt16).contains packet.dport = true ↔ packet.dport = 53 := by
    unfold Range.contains
    rw [Bool.and_eq_true, decide_eq_true_iff, decide_eq_true_iff]
    constructor
    · rintro ⟨low, high⟩
      exact UInt16.le_antisymm high low
    · intro same
      rw [same]
      exact ⟨UInt16.le_refl _, UInt16.le_refl _⟩
  simp [Rule.matches, Rule.selects, mainRule, Rule.markMask, ← only]

/-- A rule without conditions. -/
theorem plain_matches (goto : Int) :
    ({ priority, goto } : Rule family).matches packet = true := by
  simp [Rule.matches, Rule.selects, Rule.markMask]

/-- A prefix with all bits is one address. -/
theorem contains_full (addr other : Addr family) :
    (⟨addr, 8 * family.addressSize, Nat.le_refl _⟩ : IPPrefix family).contains other = true ↔
      addr = other := by
  unfold IPPrefix.contains
  rw [all_eq_true]
  constructor
  · intro bits
    have octets : addr.octets = other.octets := by
      apply ext_getElem
      · rw [addr.length_octets, other.length_octets]
      intro i inside inside'
      have size : i < family.addressSize := by
        rw [← addr.length_octets]
        exact inside
      have octet := bits i (mem_range.mpr size)
      have mask : maskOctet (8 * family.addressSize) i = 255 := by
        unfold maskOctet
        rw [if_pos (by omega)]
      rw [beq_iff_eq, mask] at octet
      rw [← byteAt_eq_getElem, ← byteAt_eq_getElem]
      have all : ∀ octet : UInt8, octet &&& 255 = octet := by
        intro octet
        show octet &&& -1 = octet
        exact UInt8.and_neg_one
      rw [all] at octet
      have both := congrArg (· ^^^ byteAt addr.octets i) octet
      simpa [UInt8.xor_assoc] using both.symm
    cases addr
    cases other
    cases octets
    rfl
  · rintro rfl i -
    simp

end Matches

/-! ## Stages that let packets pass by -/

section Filters

variable {family : Family} {tun : NativeTun}
variable {answer : Int → Option Nat} {packet : Packet family}
variable {stage first second : Stage} {start : Int}
variable {Blocked Blocked' : Prop}

theorem not_reaches_nop :
    ¬Reaches answer packet tun.options.ipRoute2TableIndex [nopRule tun family 0] none := by
  have hit : (nopRule tun family 0).matches packet = true := plain_matches packet _ _
  rw [reaches_other hit (show (-1 : Int) < 0 by decide) rfl nofun]
  exact fun reached => not_reaches_nil none reached.2

/-- A jump behind all lookups. -/
theorem not_reaches_end {later : List (Rule family)}
    (before : ∀ rule ∈ later, rule.priority < nopPriority tun) :
    ¬Reaches answer packet tun.options.ipRoute2TableIndex
      (later ++ [nopRule tun family 0]) (some (nopPriority tun)) := by
  rw [reaches_skip fun rule member => Int.ne_of_lt (before rule member)]
  exact fun reached => not_reaches_nop ((reaches_land rfl).mp reached)

variable (tun answer packet) in
/-- A stage that jumps behind all lookups for some packets, and does nothing
for the other ones. -/
def Filters (stage : Stage) (start : Int) (Blocked : Prop) : Prop :=
  ∀ later, (∀ rule ∈ (stage family start).1 ++ later, rule.priority < nopPriority tun) →
    (Reaches answer packet tun.options.ipRoute2TableIndex
        ((stage family start).1 ++ (later ++ [nopRule tun family 0])) none ↔
      ¬Blocked ∧ Reaches answer packet tun.options.ipRoute2TableIndex
        (later ++ [nopRule tun family 0]) none)

theorem Filters.congr (filters : Filters tun answer packet stage start Blocked)
    (same : Blocked ↔ Blocked') :
    Filters tun answer packet stage start Blocked' := by
  intro later before
  rw [filters later before, same]

theorem Filters.andThen (left : Filters tun answer packet first start Blocked)
    (right : Filters tun answer packet second (first family start).2 Blocked') :
    Filters tun answer packet (first.andThen second) start (Blocked ∨ Blocked') := by
  intro later before
  have split : (first.andThen second family start).1 ++ later = (first family start).1 ++
        ((second family (first family start).2).1 ++ later) :=
    append_assoc _ _ _
  rw [split] at before
  have whole := left _ before
  have rest := right later fun rule member =>
    before rule (mem_append_right _ member)
  rw [← append_assoc, ← split, append_assoc] at whole
  rw [whole, append_assoc, rest, not_or, and_assoc]

theorem Filters.skip : Filters tun answer packet .skip start False := by
  intro later before
  rw [not_false_eq_true, true_and]
  rfl

theorem Filters.when {condition : Prop} [Decidable condition]
    (filters : Filters tun answer packet stage start Blocked) :
    Filters tun answer packet (.when condition stage) start (condition ∧ Blocked) := by
  unfold Stage.when
  split
  · rename_i holds
    exact filters.congr (by simp [holds])
  · rename_i fails
    exact Filters.skip.congr (by simp [fails])

variable (positive : 0 ≤ nopPriority tun)
include positive

/-- A stage whose rules all jump there. -/
theorem Filters.far (far : ∀ rule ∈ (stage family start).1, rule.goto = nopPriority tun) :
    Filters tun answer packet stage start
      (∃ rule ∈ (stage family start).1, rule.matches packet = true) := by
  intro later before
  rw [reaches_far far positive]
  · split
    · rename_i hit
      refine iff_of_false (not_reaches_end fun rule member => ?_) fun both => both.1 hit
      exact before rule (mem_append_right _ member)
    · rename_i quiet
      rw [and_iff_right quiet]
  · intro rule member
    exact Int.ne_of_lt (before rule (mem_append_left _ member))
  · exact ⟨_, mem_append_right _ mem_cons_self, rfl⟩

theorem Filters.emitAll {α : Type} {items : List α}
    {rule : α → (family : Family) → Int → Rule family}
    (far : ∀ item, (rule item family start).goto = nopPriority tun) :
    Filters tun answer packet (.emitAll items rule) start
      (∃ item ∈ items, (rule item family start).matches packet = true) := by
  refine (Filters.far positive ?_).congr ?_
  · intro made member
    obtain ⟨item, -, rfl⟩ := mem_map.mp member
    exact far item
  · simp [Stage.emitAll]

/-! ## The first stages -/

theorem dnat_filters :
    Filters tun answer packet (.when tun.dnatBypass (dnatStage tun)) start
      (tun.dnatBypass = true ∧ packet.mark &&& tun.options.autoRouteDNATBypassMask =
          tun.options.autoRouteDNATBypassMark) := by
  refine Filters.when ((Filters.far positive ?_).congr ?_)
  · intro rule member
    obtain rfl := mem_singleton.mp member
    rfl
  · rw [← dnatRule_matches tun packet start]
    simp [dnatStage]

omit positive in
/-- The rule of a destination selects the packets to it. -/
theorem ipvsDNSRule_matches {destination : IPVSDNSDestination} {rule : Rule destination.family}
    {packet : Packet destination.family} (made : ipvsDNSRule tun destination = some rule) :
    rule.matches packet = true ↔ destination.protocol.number = packet.ipProto ∧
        destination.endpoint = ⟨packet.dst, packet.dport⟩ := by
  have named : destination.protocol.number ≠ 0 := by
    cases destination.protocol <;> decide
  have port : (⟨destination.endpoint.port, destination.endpoint.port⟩ :
      Range UInt16).contains packet.dport = true ↔ destination.endpoint.port = packet.dport := by
    unfold Range.contains
    rw [Bool.and_eq_true, decide_eq_true_iff, decide_eq_true_iff]
    exact UInt16.le_antisymm_iff.symm
  have endpoint : destination.endpoint = ⟨packet.dst, packet.dport⟩ ↔
      destination.endpoint.addr = packet.dst ∧ destination.endpoint.port = packet.dport := by
    cases destination.endpoint
    rw [AddrPort.mk.injEq]
  unfold ipvsDNSRule at made
  split at made
  · cases made
    rw [endpoint, ← port, ← contains_full]
    simp [Rule.matches, Rule.selects, Rule.markMask, named]
    tauto
  · cases made

theorem bypass_filters (here : tun.options.enabled family = true) :
    Filters tun answer packet (bypassStage tun) start
      (∃ destinations, tun.ipvsDNSBypass = some destinations ∧ ∃ destination ∈ destinations,
          destination.protocol.number = packet.ipProto ∧
          (⟨destination.family, destination.endpoint⟩ : (family : Family) × AddrPort family) =
              ⟨family, ⟨packet.dst, packet.dport⟩⟩) := by
  refine (Filters.far positive ?_).congr ?_
  · intro rule member
    obtain ⟨destinations, -, ipvs⟩ := mem_bypassStage member
    exact ipvs.slot.2
  constructor
  · rintro ⟨rule, member, hit⟩
    obtain ⟨destinations, bypass, destination, listed, found⟩ := mem_bypassStage member
    obtain ⟨made, made_eq, same⟩ := Option.map_eq_some_iff.mp found
    cases same
    obtain ⟨protocol, endpoint⟩ := (ipvsDNSRule_matches made_eq).mp hit
    refine ⟨destinations, bypass, destination, listed, protocol, ?_⟩
    rw [endpoint]
  · rintro ⟨destinations, bypass, destination, listed, protocol, endpoint⟩
    rw [Sigma.mk.injEq] at endpoint
    obtain ⟨rfl, endpoint⟩ := endpoint
    obtain ⟨rule, made⟩ : ∃ rule, ipvsDNSRule tun destination = some rule := by
      unfold ipvsDNSRule
      rw [if_pos here]
      exact ⟨_, rfl⟩
    refine ⟨rule, ?_, (ipvsDNSRule_matches made).mpr ⟨protocol, eq_of_heq endpoint⟩⟩
    unfold bypassStage
    rw [bypass]
    refine mem_lane.mpr (mem_filterMap.mpr ⟨_, listed, ?_⟩)
    rw [made]
    rfl

theorem exclude_filters :
    Filters tun answer packet (excludeStage tun) start
      ((∃ range ∈ tun.options.excludeSrcPort, range.contains packet.sport) ∨
        (∃ range ∈ tun.options.excludeDstPort, range.contains packet.dport) ∨
        ∃ range ∈ tun.excludedRanges, range.containsUID packet.uid) := by
  have idle : ∀ start, Filters tun answer packet advance start False := fun start => Filters.skip
  refine Filters.congr (.andThen (.emitAll positive fun _ => rfl)
    (.andThen (.emitAll positive fun _ => rfl)
      (.andThen (.emitAll positive fun _ => rfl) (.when (idle _))))) ?_
  simp only [srcPortRule_matches, dstPortRule_matches, uidRule_matches, and_false, or_false]

/-- Included interfaces jump over the rule that sends the other ones away. -/
theorem include_filters (first : 0 ≤ start)
    (named : "" ∉ tun.options.includeInterface) :
    Filters tun answer packet (includeInterfaces tun) start
      (packet.iifName ∉ tun.options.includeInterface) := by
  intro later before
  let included := tun.options.includeInterface.map fun iifName =>
    includeRule iifName family start
  let away : Rule family := { priority := start + 1, goto := nopPriority tun }
  let landing : Rule family := { priority := start + 1 + 1 }
  have shape : (includeInterfaces tun family start).1 =
      included ++ [away, landing] :=
    congrArg (· ++ _) (append_nil _)
  have hit : (∃ rule ∈ included, rule.matches packet = true) ↔
      packet.iifName ∈ tun.options.includeInterface := by
    constructor
    · rintro ⟨rule, member, hit⟩
      obtain ⟨iifName, listed, rfl⟩ := mem_map.mp member
      rcases (includeRule_matches packet start iifName).mp hit with rfl | rfl
      · exact absurd listed named
      · exact listed
    · intro listed
      exact ⟨_, mem_map_of_mem listed, (includeRule_matches packet start _).mpr (.inr rfl)⟩
  rw [shape] at before
  have far : ∀ rule ∈ included, rule.goto = start + 2 := by
    intro rule member
    obtain ⟨iifName, -, rfl⟩ := mem_map.mp member
    rfl
  have apart : ∀ rule ∈ included, rule.priority ≠ start + 2 := by
    intro rule member
    obtain ⟨iifName, -, rfl⟩ := mem_map.mp member
    show start ≠ start + 2
    omega
  have here : landing.priority = start + 2 := by
    show start + 1 + 1 = start + 2
    omega
  rw [shape, append_assoc, reaches_far far (by omega) apart ⟨landing, by simp, here⟩]
  split
  · rename_i member
    rw [hit] at member
    rw [and_iff_right (not_not.mpr member)]
    have passed : Reaches answer packet tun.options.ipRoute2TableIndex
        ([away] ++ landing :: (later ++ [nopRule tun family 0])) (some (start + 2)) ↔
        Reaches answer packet tun.options.ipRoute2TableIndex
          (landing :: (later ++ [nopRule tun family 0])) (some (start + 2)) := by
      apply reaches_skip
      intro rule member
      obtain rfl := mem_singleton.mp member
      show start + 1 ≠ start + 2
      omega
    refine passed.trans ((reaches_land here).trans ?_)
    rw [reaches_other (plain_matches packet _ _) (show (-1 : Int) < 0 by decide) rfl nofun]
    exact and_iff_right rfl
  · rename_i quiet
    rw [hit] at quiet
    refine iff_of_false ?_ fun both => both.1 quiet
    intro reached
    have jumped : Reaches answer packet tun.options.ipRoute2TableIndex
        ((landing :: later) ++ [nopRule tun family 0]) (some (nopPriority tun)) :=
      (reaches_jump (plain_matches packet _ _) rfl positive
        ⟨nopRule tun family 0, by simp, rfl⟩).mp reached
    refine not_reaches_end ?_ jumped
    intro rule member
    apply before
    rw [append_assoc]
    exact mem_append_right _ (mem_cons_of_mem _ member)

theorem interface_filters (first : 0 ≤ start)
    (proper : Proper tun.options) :
    Filters tun answer packet (interfaceStage tun) start ((tun.options.includeInterface ≠ [] ∧
          packet.iifName ∉ tun.options.includeInterface) ∨ (tun.options.includeInterface = [] ∧
          packet.iifName ∈ tun.options.excludeInterface)) := by
  unfold interfaceStage
  split
  · rename_i nonempty
    refine (include_filters positive first proper.includeInterface).congr ?_
    simp [nonempty]
  · rename_i unlisted
    rw [not_not] at unlisted
    split
    · refine Filters.congr (.andThen (.emitAll positive fun _ => rfl) Filters.skip) ?_
      simp only [excludeRule_matches]
      constructor
      · rintro (⟨iifName, listed, rfl | rfl⟩ | impossible)
        · exact absurd listed proper.excludeInterface
        · exact .inr ⟨unlisted, listed⟩
        · exact impossible.elim
      · rintro (⟨impossible, -⟩ | ⟨-, listed⟩)
        · exact absurd unlisted impossible
        · exact .inl ⟨_, listed, .inr rfl⟩
    · rename_i empty
      rw [not_not] at empty
      refine Filters.skip.congr ?_
      simp [unlisted, empty]

end Filters

/-! ## All stages -/

section Stages

variable {family : Family} {tun : NativeTun}
variable {answer : Int → Option Nat} {packet : Packet family}

/-- The stages that let packets pass by. -/
def filterStage (tun : NativeTun) : Stage :=
  (Stage.when tun.dnatBypass (dnatStage tun)).andThen ((bypassStage tun).andThen
      ((excludeStage tun).andThen (interfaceStage tun)))

/-- The stages of the lookups. -/
def deviceStage (tun : NativeTun) : Stage :=
  ((addressStage tun).andThen (emit mainRule)).andThen (captureStage tun)

theorem frontStage_eq (linux : tun.android = false) :
    frontStage tun = (filterStage tun).andThen (deviceStage tun) := by
  have skipped : Stage.when (tun.android ∧ tun.androidVPNEnabled) (androidStage tun) = .skip := by
    rw [linux]
    exact if_neg fun both => Bool.false_ne_true both.1
  have both : Stage.when (!tun.android) ((addressStage tun).andThen (emit mainRule)) =
        (addressStage tun).andThen (emit mainRule) := by
    rw [linux]
    exact if_pos rfl
  unfold frontStage lookupStage filterStage deviceStage
  rw [skipped, both]
  simp only [Stage.andThen_assoc]
  rfl

/-- The first stages leave the other packets to the last ones. -/
theorem reachesDevice_iff (auto : tun.options.autoRoute = true)
    (policy : tun.options.autoRedirectMarkMode = false)
    (linux : tun.android = false)
    (proper : Proper tun.options)
    (here : tun.options.enabled family = true) :
    ReachesDevice tun answer packet ↔ ¬Bypassed tun packet ∧
        Reaches answer packet tun.options.ipRoute2TableIndex ((deviceStage tun family
            (filterStage tun family tun.options.ipRoute2RuleIndex).2).1 ++
              [nopRule tun family 0]) none := by
  have positive : 0 ≤ nopPriority tun := by
    have index := proper.ruleIndex
    unfold nopPriority
    omega
  have before : ∀ rule ∈ (filterStage tun family tun.options.ipRoute2RuleIndex).1 ++
      (deviceStage tun family (filterStage tun family tun.options.ipRoute2RuleIndex).2).1,
      rule.priority < nopPriority tun := by
    intro rule member
    apply frontStage_before
    rw [frontStage_eq linux]
    exact member
  have filters : Filters tun answer packet (filterStage tun)
      tun.options.ipRoute2RuleIndex (Bypassed tun packet) := by
    refine Filters.congr (.andThen (dnat_filters positive) (.andThen (bypass_filters positive here)
        (.andThen (exclude_filters positive) (interface_filters positive ?_ proper)))) ?_
    · have index := proper.ruleIndex
      have slot := ipvsSlot_bounds tun
      have start := lookupStart_bounds tun
      have low := (excludeStage_ascending tun family (lookupStart tun)).low
      rw [dnat_next, bypass_next]
      omega
    · unfold Bypassed
      simp only [or_assoc]
  unfold ReachesDevice
  rw [lane_rules auto policy here, kernelOrder_eq policyStage_ordered,
    policyStage_front, frontStage_eq linux, Stage.andThen_assoc]
  exact filters _ before

end Stages

/-! ## The lookups of IPv4 -/

section Lookups

variable {tun : NativeTun} {answer : Int → Option Nat} {packet : Packet .v4}
variable {later : List (Rule .v4)} (start : Int)

variable (proper : Proper tun.options)
include proper

theorem reaches_address :
    Reaches answer packet tun.options.ipRoute2TableIndex
        ((addressStage tun .v4 start).1 ++ later) none ↔
      InNetwork tun packet.dst ∨
        Reaches answer packet tun.options.ipRoute2TableIndex later none := by
  rw [reaches_lookups]
  · refine or_congr_left ?_
    constructor
    · rintro ⟨rule, member, hit⟩
      obtain ⟨network, listed, rfl⟩ := mem_map.mp member
      refine ⟨network, listed, ?_⟩
      rw [← IPPrefix.contains_masked]
      simpa [Rule.matches, Rule.selects, Rule.markMask] using hit
    · rintro ⟨network, listed, inside⟩
      refine ⟨_, mem_map_of_mem listed, ?_⟩
      rw [← IPPrefix.contains_masked] at inside
      simpa [Rule.matches, Rule.selects, Rule.markMask] using inside
  · intro rule member
    obtain ⟨network, -, rfl⟩ := mem_map.mp member
    simp [Rule.lookup?, Int.le_of_lt proper.table]

theorem reaches_main :
    Reaches answer packet tun.options.ipRoute2TableIndex
      (mainRule .v4 start :: later) none ↔ ¬MainAnswers answer packet ∧
      Reaches answer packet tun.options.ipRoute2TableIndex later none := by
  have answered : (mainRule .v4 start).answered answer = true ↔
      ∃ length, answer rtTableMain = some length ∧ 0 < length := by
    simp [Rule.answered, Rule.lookup?, mainRule, rtTableMain, Option.any_eq_true]
  cases hit : (mainRule .v4 start).matches packet with
  | true =>
    have port := (mainRule_matches packet start).mp hit
    rw [reaches_other hit (show (-1 : Int) < 0 by decide) rfl]
    · rw [← Bool.not_eq_true, answered]
      unfold MainAnswers
      rw [and_iff_right port]
    · intro same
      exact proper.ownTable (Option.some.inj same).symm
  | false =>
    rw [reaches_quiet hit]
    refine (and_iff_right ?_).symm
    rintro ⟨port, -⟩
    rw [(mainRule_matches packet start).mpr port] at hit
    cases hit

theorem reaches_own
    (before : ∀ rule ∈ ownRule tun .v4 start :: later, rule.priority < nopPriority tun) :
    Reaches answer packet tun.options.ipRoute2TableIndex
        (ownRule tun .v4 start :: (later ++ [nopRule tun .v4 0])) none ↔
      packet.iifName ≠ tun.options.name ∧ Reaches answer packet tun.options.ipRoute2TableIndex
          (later ++ [nopRule tun .v4 0]) none := by
  have positive : 0 ≤ nopPriority tun := by
    have index := proper.ruleIndex
    unfold nopPriority
    omega
  have filters : Filters tun answer packet (emit (ownRule tun)) start
      (packet.iifName = tun.options.name) := by
    refine (Filters.far positive ?_).congr ?_
    · intro rule member
      obtain rfl := mem_singleton.mp member
      rfl
    · have hit := ownRule_matches tun packet start
      simp only [proper.name, false_or] at hit
      rw [eq_comm, ← hit]
      simp [emit]
  exact filters later before

theorem reaches_capture :
    Reaches answer packet tun.options.ipRoute2TableIndex
        (captureRules tun start ++ [nopRule tun .v4 0]) none ↔
      packet.iifName ≠ "lo" ∨ packet.src = .from4 0 0 0 0 ∨ InNetwork tun packet.src := by
  have asks : ∀ rule ∈ captureRules tun start,
      rule.lookup? = some tun.options.ipRoute2TableIndex := by
    intro rule member
    rcases mem_cons.mp member with rfl | member
    · simp [Rule.lookup?, Int.le_of_lt proper.table]
    rcases mem_cons.mp member with rfl | member
    · simp [Rule.lookup?, Int.le_of_lt proper.table]
    obtain ⟨network, -, rfl⟩ := mem_map.mp member
    simp [Rule.lookup?, Int.le_of_lt proper.table]
  have full : ∀ addr : Addr .v4,
      (⟨⟨List.replicate 4 0, rfl⟩, 32, by decide⟩ : IPPrefix .v4).contains addr = true ↔
        addr = .from4 0 0 0 0 := by
    intro addr
    exact (contains_full _ addr).trans eq_comm
  rw [reaches_lookups asks, or_iff_left not_reaches_nop]
  constructor
  · rintro ⟨rule, member, hit⟩
    rcases mem_cons.mp member with rfl | member
    · left
      intro here
      simp [Rule.matches, Rule.selects, Rule.markMask, here] at hit
    rcases mem_cons.mp member with rfl | member
    · right
      left
      rw [← full]
      exact (show _ ∧ _ by
        simpa [Rule.matches, Rule.selects, Rule.markMask] using hit).2
    obtain ⟨network, listed, rfl⟩ := mem_map.mp member
    refine .inr (.inr ⟨network, listed, ?_⟩)
    rw [← IPPrefix.contains_masked]
    exact (show _ ∧ _ by
      simpa [Rule.matches, Rule.selects, Rule.markMask] using hit).2
  · intro source
    by_cases here : packet.iifName = "lo"
    · rcases source with away | zero | ⟨network, listed, inside⟩
      · exact absurd here away
      · refine ⟨_, mem_cons_of_mem _ mem_cons_self, ?_⟩
        rw [← full] at zero
        simpa [Rule.matches, Rule.selects, Rule.markMask, here] using zero
      · refine ⟨_, mem_cons_of_mem _ (mem_cons_of_mem _ (mem_map_of_mem listed)), ?_⟩
        rw [← IPPrefix.contains_masked] at inside
        simpa [Rule.matches, Rule.selects, Rule.markMask, here] using inside
    · refine ⟨_, mem_cons_self, ?_⟩
      have away : ¬"lo" = packet.iifName := fun same => here same.symm
      simpa [Rule.matches, Rule.selects, Rule.markMask] using away

/-- The last stages of IPv4. -/
theorem reaches_deviceStage
    (before : ∀ rule ∈ (deviceStage tun .v4 start).1, rule.priority < nopPriority tun) :
    Reaches answer packet tun.options.ipRoute2TableIndex
        ((deviceStage tun .v4 start).1 ++ [nopRule tun .v4 0]) none ↔
      Captured tun answer packet := by
  have shape : (deviceStage tun .v4 start).1 ++ [nopRule tun .v4 0] =
      (addressStage tun .v4 start).1 ++ mainRule .v4 (start + 1) :: ownRule tun .v4 (start + 1) ::
          (captureRules tun (start + 1 + 1) ++ [nopRule tun .v4 0]) := by
    unfold deviceStage
    rw [Stage.andThen_assoc]
    exact append_assoc _ _ _
  rw [shape, reaches_address start proper, reaches_main _ proper,
    reaches_own _ proper, reaches_capture _ proper]
  · rfl
  · intro rule member
    apply before
    exact mem_append_right _ member

end Lookups

/-! ## The rules implement the policy -/

/-- With proper options, the rules of the device are its capture policy. -/
theorem rules_capturePolicy (tun : NativeTun) (answer : Int → Option Nat)
    (auto : tun.options.autoRoute = true)
    (policy : tun.options.autoRedirectMarkMode = false)
    (linux : tun.android = false)
    (proper : Proper tun.options) :
    CapturePolicy tun answer := by
  constructor
  · intro family here packet bypassed reached
    rw [reachesDevice_iff auto policy linux proper here] at reached
    exact reached.1 bypassed
  · intro here packet other
    rw [reachesDevice_iff auto policy linux proper here, and_iff_right other]
    apply reaches_deviceStage _ proper
    intro rule member
    apply frontStage_before
    rw [frontStage_eq linux]
    exact mem_append_right _ member

theorem sampleTun_proper : Proper sampleTun.options := by
  constructor <;> decide

theorem rules_capturePolicy_sample :
    Proper sampleTun.options ∧ CapturePolicy sampleTun fun _ => none :=
  ⟨sampleTun_proper, rules_capturePolicy sampleTun _ rfl rfl rfl sampleTun_proper⟩

/-! ## Options that are not proper -/

section Improper

/-- A device with one address and without exceptions. -/
def plainTun : NativeTun :=
  { sampleTun with
    options :=
      { sampleTun.options with
        inetAddress
          | .v4 => sampleTun.options.inetAddress .v4
          | .v6 => []
        includeInterface := []
        excludeDstPort := [] }
    dnatBypass := false
    ipvsDNSBypass := none }

/-- A device of this kind with other options. -/
def plainWith (options : Options) : NativeTun :=
  { plainTun with options }

/-- A packet that comes in on `eth0`. -/
def inbound : Packet .v4 where
  iifName := "eth0"
  oifName := ""
  mark := 0
  src := .from4 192 168 1 2
  dst := .from4 1 1 1 1
  ipProto := 6
  sport := 40000
  dport := 443
  uid := 0

/-- Options that leave out a name, a table or a priority, or take the table
that is not the device's. -/
def improperOptions : List Options :=
  let options := plainTun.options
  [{ options with includeInterface := [""] },
    { options with excludeInterface := [""] },
    { options with name := "" },
    { options with ipRoute2TableIndex := -1 },
    { options with ipRoute2TableIndex := rtTableMain },
    { options with ipRoute2RuleIndex := -3, includeInterface := ["eth0"] }]

/-- The main table has a route for the packet. -/
def mainRoute (table : Int) : Option Nat :=
  if table = rtTableMain then some 24 else none

theorem not_capturePolicy_of_captured
    {tun : NativeTun} {answer : Int → Option Nat} {packet : Packet .v4}
    (here : tun.options.enabled .v4 = true)
    (other : ¬Bypassed tun packet)
    (differs : ¬(ReachesDevice tun answer packet ↔ Captured tun answer packet)) :
    ¬CapturePolicy tun answer :=
  fun policy => differs (policy.captured here packet other)

/-- Of the conditions for a plain device only those on interfaces are left. -/
theorem not_bypassed_plain {options : Options}
    (ports : options.excludeSrcPort = [] ∧ options.excludeDstPort = [])
    (users : options.includeUID = [] ∧ options.excludeUID = [])
    (included : options.includeInterface = [] ∨ inbound.iifName ∈ options.includeInterface)
    (excluded : inbound.iifName ∉ options.excludeInterface) :
    ¬Bypassed (plainWith options) inbound := by
  rintro (⟨dnat, -⟩ | ⟨destinations, ipvs, -⟩ | ⟨range, listed, -⟩ |
    ⟨range, listed, -⟩ | ⟨range, listed, -⟩ | ⟨nonempty, outside⟩ | ⟨-, inside⟩)
  · cases dnat
  · cases ipvs
  · change range ∈ options.excludeSrcPort at listed
    rw [ports.1] at listed
    cases listed
  · change range ∈ options.excludeDstPort at listed
    rw [ports.2] at listed
    cases listed
  · have noRange : NativeTun.excludedRanges (plainWith options) = [] := by
      show buildExcludedRanges _ options.includeUID options.excludeUID = []
      rw [users.1, users.2]
      rfl
    rw [noRange] at listed
    cases listed
  · exact included.elim nonempty outside
  · exact excluded inside

theorem inbound_captured
    {tun : NativeTun} (foreign : "eth0" ≠ tun.options.name) :
    Captured tun (fun _ => none) inbound := by
  refine .inr ⟨?_, foreign, .inl (by decide)⟩
  rintro ⟨-, length, found, -⟩
  cases found

/-- A device of this kind whose rules are another policy. -/
def Refuted (options : Options) : Prop :=
  options.autoRoute = true ∧ options.autoRedirectMarkMode = false ∧
    ∃ answer, ¬CapturePolicy (plainWith options) answer

/-- Each condition on the options is needed. -/
theorem improper_not_capturePolicy : improperOptions.Forall Refuted := by
  apply forall_iff_forall_mem.mpr
  intro options member
  have plain : ∀ options ∈ improperOptions,
      (options.excludeSrcPort = [] ∧ options.excludeDstPort = []) ∧
        options.includeUID = [] ∧ options.excludeUID = [] := by
    decide
  have other := not_bypassed_plain (plain options member).1 (plain options member).2
  have lost : "eth0" ≠ options.name → options.enabled .v4 = true →
      ¬Bypassed (plainWith options) inbound →
      ¬ReachesDevice (plainWith options) (fun _ => none) inbound →
        ∃ answer, ¬CapturePolicy (plainWith options) answer := by
    intro foreign here other missed
    refine ⟨fun _ => none, not_capturePolicy_of_captured here other ?_⟩
    exact fun same => missed (same.mpr (inbound_captured foreign))
  unfold improperOptions at member
  simp only [mem_cons, not_mem_nil, or_false] at member
  rcases member with rfl | rfl | rfl | rfl | rfl | rfl
  · refine ⟨rfl, rfl, fun _ => none, fun policy => ?_⟩
    refine policy.bypassed .v4 rfl inbound ?_ (by decide +kernel)
    right; right; right; right; right; left
    exact ⟨by decide, by decide⟩
  · exact ⟨rfl, rfl, lost (by decide) rfl (other (.inl rfl) (by decide)) (by decide +kernel)⟩
  · exact ⟨rfl, rfl, lost (by decide) rfl (other (.inl rfl) (by decide)) (by decide +kernel)⟩
  · exact ⟨rfl, rfl, lost (by decide) rfl (other (.inl rfl) (by decide)) (by decide +kernel)⟩
  · refine ⟨rfl, rfl, mainRoute,
      not_capturePolicy_of_captured rfl (other (.inl rfl) (by decide)) ?_⟩
    have reached : ReachesDevice (plainWith
        { plainTun.options with ipRoute2TableIndex := rtTableMain })
          mainRoute inbound := by
      decide +kernel
    intro same
    rcases same.mp reached with ⟨network, listed, inside⟩ | ⟨unanswered, -⟩
    · obtain rfl := mem_singleton.mp listed
      revert inside
      decide
    · exact unanswered ⟨by decide, 24, rfl, by decide⟩
  · exact ⟨rfl, rfl, lost (by decide) rfl (other (.inr (by decide)) (by decide))
      (by decide +kernel)⟩

end Improper

end SingTun.Route
