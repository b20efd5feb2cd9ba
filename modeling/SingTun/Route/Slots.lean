import SingTun.Route.Lanes

/-!
# The priorities of the policy

The rules have eleven priorities to share.  Every stage starts at the priority
where the one before it has ended and goes on by a few; the sum of these
widths is what the policy needs, whatever the options are.
-/

namespace SingTun.Route

open Foundation Header List

/-! ## Widths -/

section Ordered

variable {family : Family} {priority : Int} {rules later : List (Rule family)}

/-- Rules in the order of their priorities. -/
abbrev Ordered (rules : List (Rule family)) : Prop :=
  rules.Pairwise fun rule later => rule.priority ≤ later.priority

theorem ordered_of_flat (flat : ∀ rule ∈ rules, rule.priority = priority) : Ordered rules := by
  rw [Ordered, pairwise_iff_forall_sublist]
  intro rule next both
  have first := flat rule (both.subset mem_cons_self)
  have second := flat next (both.subset (mem_cons_of_mem _ mem_cons_self))
  exact Int.le_of_eq (first.trans second.symm)

theorem ordered_append (flat : ∀ rule ∈ rules, rule.priority = priority)
    (ordered : Ordered later)
    (behind : ∀ rule ∈ later, priority ≤ rule.priority) :
    Ordered (rules ++ later) := by
  apply pairwise_append.mpr
  refine ⟨ordered_of_flat flat, ordered, ?_⟩
  intro rule member next member'
  rw [flat rule member]
  exact behind next member'

end Ordered

namespace Stage

variable {family : Family} {stage first second : Stage} {start : Int}
variable {width width' : Int}

/-- The rules of a stage, in the order of their priorities. -/
structure Ascending
    (stage : Stage) (family : Family) (start width : Int) : Prop where
  low : start ≤ (stage family start).2
  high : (stage family start).2 ≤ start + width
  ordered : Ordered (stage family start).1
  inside : ∀ rule ∈ (stage family start).1,
    start ≤ rule.priority ∧ rule.priority ≤ (stage family start).2

theorem Ascending.andThen (left : Ascending first family start width)
    (right : Ascending second family (first family start).2 width') :
    Ascending (first.andThen second) family start (width + width') := by
  have low := left.low
  have high := left.high
  have low' := right.low
  have high' := right.high
  constructor
  · exact Int.le_trans low low'
  · show (second family (first family start).2).2 ≤ start + (width + width')
    omega
  · apply pairwise_append.mpr
    refine ⟨left.ordered, right.ordered, ?_⟩
    intro rule member later member'
    exact Int.le_trans (left.inside rule member).2 (right.inside later member').1
  · intro rule member
    rcases mem_append.mp member with here | there
    · have bounds := left.inside rule here
      exact ⟨bounds.1, Int.le_trans bounds.2 low'⟩
    · have bounds := right.inside rule there
      exact ⟨Int.le_trans low bounds.1, bounds.2⟩

theorem not_mem_skip (rule : Rule family) : rule ∉ (Stage.skip family start).1 :=
  not_mem_nil

theorem Ascending.skip : Ascending .skip family start 0 := by
  refine ⟨Int.le_refl _, ?_, .nil, fun rule member =>
    absurd member (not_mem_skip rule)⟩
  show start ≤ start + 0
  omega

theorem Ascending.mono (ascending : Ascending stage family start width)
    (wider : width ≤ width') :
    Ascending stage family start width' := by
  refine ⟨ascending.low, ?_, ascending.ordered, ascending.inside⟩
  have high := ascending.high
  omega

theorem Ascending.when {condition : Prop} [Decidable condition] (positive : 0 ≤ width)
    (ascending : Ascending stage family start width) :
    Ascending (.when condition stage) family start width := by
  unfold Stage.when
  split
  · exact ascending
  · exact Ascending.skip.mono positive

/-- Rules that all have the first priority. -/
theorem Ascending.flat (flat : ∀ rule ∈ (stage family start).1, rule.priority = start)
    (next : (stage family start).2 = start + width)
    (positive : 0 ≤ width) :
    Ascending stage family start width := by
  constructor
  · omega
  · omega
  · exact ordered_of_flat flat
  · intro rule member
    rw [flat rule member, next]
    omega

theorem Ascending.emitAll {α : Type} {items : List α}
    {rule : α → (family : Family) → Int → Rule family}
    (flat : ∀ item, (rule item family start).priority = start) :
    Ascending (.emitAll items rule) family start 0 := by
  apply Ascending.flat
  · intro made member
    obtain ⟨item, -, rfl⟩ := mem_map.mp member
    exact flat item
  · exact (Int.add_zero start).symm
  · exact Int.le_refl 0

/-- Jumps to a target, or to a later rule of the stage. -/
def Jumps (stage : Stage) (family : Family) (start target : Int) : Prop :=
  ∀ rule ∈ (stage family start).1, 0 ≤ rule.goto → rule.goto = target ∨ (rule.priority < rule.goto ∧
        ∃ landing ∈ (stage family start).1, landing.priority = rule.goto)

variable {target : Int}

theorem Jumps.andThen (left : Jumps first family start target)
    (right : Jumps second family (first family start).2 target) :
    Jumps (first.andThen second) family start target := by
  intro rule member jumps
  rcases mem_append.mp member with here | there
  · rcases left rule here jumps with far | ⟨forward, landing, listed, same⟩
    · exact .inl far
    · exact .inr ⟨forward, landing, mem_append_left _ listed, same⟩
  · rcases right rule there jumps with far | ⟨forward, landing, listed, same⟩
    · exact .inl far
    · exact .inr ⟨forward, landing, mem_append_right _ listed, same⟩

theorem Jumps.when {condition : Prop} [Decidable condition]
    (jumps : Jumps stage family start target) :
    Jumps (.when condition stage) family start target := by
  unfold Stage.when
  split
  · exact jumps
  · exact fun rule member => absurd member (not_mem_skip rule)

/-- All jumps go to the target. -/
theorem Jumps.far (far : ∀ rule ∈ (stage family start).1, rule.goto = target ∨ rule.goto = -1) :
    Jumps stage family start target := by
  intro rule member jumps
  rcases far rule member with same | without
  · exact .inl same
  · omega

end Stage

/-! ## The stages of the policy -/

section Stages

variable (tun : NativeTun) (family : Family) (start : Int)

theorem advance_ascending : Stage.Ascending advance family start 1 := by
  apply Stage.Ascending.flat _ rfl (by decide)
  intro rule member
  cases member

theorem dnatStage_ascending : Stage.Ascending (dnatStage tun) family start 1 := by
  apply Stage.Ascending.flat _ rfl (by decide)
  intro rule member
  obtain rfl := mem_singleton.mp member
  rfl

theorem excludeStage_ascending : Stage.Ascending (excludeStage tun) family start 1 := by
  refine Stage.Ascending.mono ?_ (show 0 + (0 + (0 + 1)) ≤ (1 : Int) by decide)
  refine .andThen (.emitAll ?_) (.andThen (.emitAll ?_) (.andThen
    (.emitAll ?_) (.when (by decide) (advance_ascending family _))))
  all_goals exact fun _ => rfl

theorem includeInterfaces_ascending : Stage.Ascending (includeInterfaces tun) family start 3 := by
  refine Stage.Ascending.mono ?_ (show 0 + 1 + 2 ≤ (3 : Int) by decide)
  refine .andThen (.andThen (.emitAll fun _ => rfl) (advance_ascending family _)) ?_
  refine ⟨?_, Int.le_refl _, ?_, ?_⟩
  · show start + 1 ≤ start + 1 + 2
    omega
  · refine pairwise_pair.mpr ?_
    show start + 1 ≤ start + 1 + 1
    omega
  · intro rule member
    rcases mem_pair.mp member with rfl | rfl
    · show start + 1 ≤ start + 1 ∧ start + 1 ≤ start + 1 + 2
      omega
    · show start + 1 ≤ start + 1 + 1 ∧ start + 1 + 1 ≤ start + 1 + 2
      omega

theorem interfaceStage_ascending : Stage.Ascending (interfaceStage tun) family start 3 := by
  unfold interfaceStage
  split
  · exact includeInterfaces_ascending tun family start
  · split
    · refine Stage.Ascending.mono ?_ (show 0 + 1 ≤ (3 : Int) by decide)
      exact .andThen (.emitAll fun _ => rfl) (advance_ascending family _)
    · exact Stage.Ascending.skip.mono (by decide)

theorem androidStage_ascending : Stage.Ascending (androidStage tun) family start 1 := by
  apply Stage.Ascending.flat _ rfl (by decide)
  intro rule member
  obtain rfl := mem_singleton.mp member
  unfold androidRule
  split <;> rfl

/-- The widths of the last stages, which are not the same for both families. -/
def captureWidth : Family → Int × Int
  | .v4 => (1, 1)
  | .v6 => (0, 2)

theorem addressStage_ascending :
    Stage.Ascending (addressStage tun) family start (captureWidth family).1 := by
  cases family with
  | v4 =>
    apply Stage.Ascending.flat _ rfl (by decide)
    intro rule member
    obtain ⟨address, -, rfl⟩ := mem_map.mp member
    rfl
  | v6 =>
    apply Stage.Ascending.flat _ (Int.add_zero start).symm (by decide)
    intro rule member
    cases member

theorem mem_localRules {rule : Rule family} (member : rule ∈ localRules tun family start) :
    rule.priority = start ∧ rule.goto = -1 := by
  obtain ⟨address, -, rfl⟩ := mem_map.mp member
  exact ⟨rfl, rfl⟩

theorem mem_captureRules {rule : Rule .v4} (member : rule ∈ captureRules tun start) :
    rule.priority = start ∧ rule.goto = -1 := by
  rcases mem_cons.mp member with rfl | member
  · exact ⟨rfl, rfl⟩
  rcases mem_cons.mp member with rfl | member
  · exact ⟨rfl, rfl⟩
  exact mem_localRules tun .v4 start member

theorem mem_passRules {rule : Rule .v6} (member : rule ∈ passRules tun start) :
    rule.priority = start ∧ rule.goto = nopPriority tun := by
  rcases mem_cons.mp member with rfl | member
  · exact ⟨rfl, rfl⟩
  rcases mem_pair.mp member with rfl | rfl <;> exact ⟨rfl, rfl⟩

theorem captureStage_ascending :
    Stage.Ascending (captureStage tun) family start (captureWidth family).2 := by
  cases family with
  | v4 =>
    have behind : ∀ rule ∈ captureRules tun (start + 1), rule.priority = start + 1 :=
      fun rule member => (mem_captureRules tun _ member).1
    refine ⟨?_, Int.le_refl _, ?_, ?_⟩
    · show start ≤ start + 1
      omega
    · refine pairwise_cons.mpr ⟨?_, ordered_of_flat behind⟩
      intro rule member
      rw [behind rule member]
      show start ≤ start + 1
      omega
    · intro rule member
      show start ≤ rule.priority ∧ rule.priority ≤ start + 1
      rcases mem_cons.mp member with rfl | rest
      · show start ≤ start ∧ start ≤ start + 1
        omega
      · rw [behind rule rest]
        omega
  | v6 =>
    have front : ∀ rule ∈ localRules tun .v6 start, rule.priority = start :=
      fun rule member => (mem_localRules tun .v6 _ member).1
    have middle : ∀ rule ∈ passRules tun (start + 1), rule.priority = start + 1 :=
      fun rule member => (mem_passRules tun _ member).1
    have back : ∀ rule ∈ passRules tun (start + 1) ++
        [{ priority := start + 2
           table := tun.options.ipRoute2TableIndex }],
        start ≤ rule.priority ∧ rule.priority ≤ start + 2 := by
      intro rule member
      rcases mem_append.mp member with here | there
      · rw [middle rule here]
        omega
      · obtain rfl := mem_singleton.mp there
        show start ≤ start + 2 ∧ start + 2 ≤ start + 2
        omega
    refine ⟨?_, Int.le_refl _, ?_, ?_⟩
    · show start ≤ start + 2
      omega
    · refine ordered_append front ?_ fun rule member =>
        (back rule member).1
      apply ordered_append middle (pairwise_singleton _ _)
      intro rule member
      obtain rfl := mem_singleton.mp member
      show start + 1 ≤ start + 2
      omega
    · intro rule member
      rcases mem_append.mp member with here | there
      · rw [front rule here]
        show start ≤ start ∧ start ≤ start + 2
        omega
      · exact back rule there

/-! ## Jumps -/

theorem excludeStage_jumps : Stage.Jumps (excludeStage tun) family start (nopPriority tun) := by
  have all : ∀ {α : Type} (items : List α)
      (rule : α → (family : Family) → Int → Rule family) (start : Int),
      (∀ item, (rule item family start).goto = nopPriority tun) →
        Stage.Jumps (.emitAll items rule) family start (nopPriority tun) := by
    intro α items rule start far
    apply Stage.Jumps.far
    intro made member
    obtain ⟨item, -, rfl⟩ := mem_map.mp member
    exact .inl (far item)
  refine .andThen (all _ _ _ fun _ => rfl) (.andThen (all _ _ _ fun _ => rfl)
    (.andThen (all _ _ _ fun _ => rfl) (.when ?_)))
  exact fun rule member => absurd member not_mem_nil

theorem interfaceStage_jumps : Stage.Jumps (interfaceStage tun) family start (nopPriority tun) := by
  unfold interfaceStage
  split
  · intro rule member jumps
    have landing : ({ priority := start + 2 } : Rule family) ∈
        (includeInterfaces tun family start).1 := by
      refine mem_append_right _ (mem_cons_of_mem _ ?_)
      have two : start + 2 = start + 1 + 1 := by omega
      rw [two]
      exact mem_cons_self
    rcases mem_append.mp member with here | there
    · right
      obtain ⟨iifName, -, rfl⟩ :=
        mem_map.mp ((mem_append.mp here).resolve_right not_mem_nil)
      refine ⟨?_, _, landing, rfl⟩
      show start < start + 2
      omega
    · left
      rcases mem_pair.mp there with rfl | rfl
      · rfl
      · exact absurd jumps (show ¬(0 : Int) ≤ -1 by decide)
  · split
    · apply Stage.Jumps.far
      intro rule member
      obtain ⟨iifName, -, rfl⟩ :=
        mem_map.mp ((mem_append.mp member).resolve_right not_mem_nil)
      exact .inl rfl
    · exact fun rule member => absurd member not_mem_nil

theorem captureStage_jumps : Stage.Jumps (captureStage tun) family start (nopPriority tun) := by
  apply Stage.Jumps.far
  intro rule member
  cases family with
  | v4 =>
    rcases mem_cons.mp member with rfl | rest
    · exact .inl rfl
    · exact .inr (mem_captureRules tun _ rest).2
  | v6 =>
    rcases mem_append.mp member with here | there
    · exact .inr (mem_localRules tun .v6 _ here).2
    rcases mem_append.mp there with pass | last
    · exact .inl (mem_passRules tun _ pass).2
    · rw [mem_singleton.mp last]
      exact .inr rfl

end Stages

/-! ## The whole policy -/

section Policy

variable (tun : NativeTun) (family : Family)

/-- All but the first two stages and the last rule fit into seven slots. -/
theorem lookupStage_ascending (start : Int) : Stage.Ascending (lookupStage tun) family start 7 := by
  have last := captureStage_ascending tun family
  have address := addressStage_ascending tun family
  have mainFlat : ∀ start, Stage.Ascending (emit mainRule) family start 0 := by
    intro start
    apply Stage.Ascending.flat _ (Int.add_zero start).symm (by decide)
    intro rule member
    rw [mem_singleton.mp member]
    rfl
  have positive : 0 ≤ (captureWidth family).1 + 0 := by
    cases family <;> decide
  refine Stage.Ascending.mono ?_ (show 1 + (3 + (1 +
    ((captureWidth family).1 + 0 + (captureWidth family).2))) ≤ 7 by
      cases family <;> decide)
  exact .andThen (excludeStage_ascending tun family _)
    (.andThen (interfaceStage_ascending tun family _)
      (.andThen (.when (by decide) (androidStage_ascending tun family _))
        (.andThen (.when positive (.andThen (address _) (mainFlat _))) (last _))))

theorem lookupStage_jumps (start : Int) :
    Stage.Jumps (lookupStage tun) family start (nopPriority tun) := by
  refine .andThen (excludeStage_jumps tun family _) (.andThen (interfaceStage_jumps tun family _)
      (.andThen (.when (.far ?_)) (.andThen (.when (.far ?_)) (captureStage_jumps tun family _))))
  · intro rule member
    rw [mem_singleton.mp member]
    unfold androidRule
    split <;> exact .inl rfl
  · intro rule member
    right
    rcases mem_append.mp member with here | there
    · cases family with
      | v4 =>
        obtain ⟨address, -, rfl⟩ := mem_map.mp here
        rfl
      | v6 => exact absurd here not_mem_nil
    · rw [mem_singleton.mp there]
      rfl

/-- The priority between the rule of the DNAT bypass and the other ones. -/
def ipvsSlot : Int :=
  tun.options.ipRoute2RuleIndex + if tun.dnatBypass then 1 else 0

theorem ipvsSlot_bounds :
    tun.options.ipRoute2RuleIndex ≤ ipvsSlot tun ∧
      ipvsSlot tun ≤ tun.options.ipRoute2RuleIndex + 1 := by
  unfold ipvsSlot
  split <;> omega

/-- The first priority behind that slot, which may not be kept. -/
def lookupStart : Int :=
  ipvsSlot tun + if tun.ipvsDNSBypass.isSome then 1 else 0

theorem lookupStart_bounds :
    ipvsSlot tun ≤ lookupStart tun ∧ lookupStart tun ≤ tun.options.ipRoute2RuleIndex + 2 := by
  have slot := ipvsSlot_bounds tun
  unfold lookupStart
  split <;> omega

theorem dnat_next :
    (Stage.when tun.dnatBypass (dnatStage tun) family
      tun.options.ipRoute2RuleIndex).2 = ipvsSlot tun := by
  unfold Stage.when ipvsSlot
  split
  · rfl
  · exact (Int.add_zero _).symm

section

variable {destination : IPVSDNSDestination} {rule : Rule destination.family}
variable (made : ipvsDNSRule tun destination = some rule)
include made

/-- `ipvsDNSRule` finds the same slot on its own. -/
theorem ipvsDNSRule_slot : rule.priority = ipvsSlot tun ∧ rule.goto = nopPriority tun := by
  unfold ipvsDNSRule at made
  split at made
  · cases made
    exact ⟨rfl, rfl⟩
  · cases made

theorem ipvsDNSRule_enabled : tun.options.enabled destination.family = true := by
  unfold ipvsDNSRule at made
  split at made
  · assumption
  · cases made

end

variable {tun family}

/-- A rule of the list that belongs to a destination. -/
def IsIPVSRule (tun : NativeTun) (destinations : List IPVSDNSDestination)
    (rule : Rule family) : Prop :=
  ∃ destination ∈ destinations, (ipvsDNSRule tun destination).map (Sigma.mk destination.family) =
      some ⟨family, rule⟩

theorem IsIPVSRule.slot {destinations : List IPVSDNSDestination} {rule : Rule family}
    (ipvs : IsIPVSRule tun destinations rule) :
    rule.priority = ipvsSlot tun ∧ rule.goto = nopPriority tun := by
  obtain ⟨destination, -, found⟩ := ipvs
  obtain ⟨made, made_eq, same⟩ := Option.map_eq_some_iff.mp found
  cases same
  exact ipvsDNSRule_slot tun made_eq

theorem mem_bypassStage {start : Int} {rule : Rule family}
    (member : rule ∈ (bypassStage tun family start).1) :
    ∃ destinations, tun.ipvsDNSBypass = some destinations ∧ IsIPVSRule tun destinations rule := by
  unfold bypassStage at member
  cases bypass : tun.ipvsDNSBypass with
  | none =>
    rw [bypass] at member
    cases member
  | some destinations =>
    rw [bypass] at member
    obtain ⟨destination, listed, found⟩ := mem_filterMap.mp (mem_lane.mp member)
    exact ⟨destinations, rfl, destination, listed, found⟩

theorem bypass_next : (bypassStage tun family (ipvsSlot tun)).2 = lookupStart tun := by
  unfold bypassStage lookupStart
  cases tun.ipvsDNSBypass with
  | none => exact (Int.add_zero _).symm
  | some destinations => rfl

section

variable {rule : Rule family}
variable (member : rule ∈ (policyStage tun family tun.options.ipRoute2RuleIndex).1)
include member

/-- The four kinds of rules that the policy of a family has. -/
theorem mem_policyStage :
    (tun.dnatBypass = true ∧
        rule = dnatRule tun family tun.options.ipRoute2RuleIndex) ∨
      (∃ destinations, tun.ipvsDNSBypass = some destinations ∧ IsIPVSRule tun destinations rule) ∨
      rule ∈ (lookupStage tun family (lookupStart tun)).1 ∨
      rule = nopRule tun family 0 := by
  rcases mem_append.mp member with dnat | member
  · left
    unfold Stage.when at dnat
    split at dnat
    · rename_i bypass
      exact ⟨bypass, mem_singleton.mp dnat⟩
    · cases dnat
  rw [dnat_next] at member
  rcases mem_append.mp member with ipvs | member
  · exact .inr (.inl (mem_bypassStage ipvs))
  rw [bypass_next] at member
  rcases mem_append.mp member with lookup | last
  · exact .inr (.inr (.inl lookup))
  · exact .inr (.inr (.inr (mem_singleton.mp last)))

omit member in
theorem lookup_mem_policyStage {rule : Rule family}
    (member : rule ∈ (lookupStage tun family (lookupStart tun)).1) :
    rule ∈ (policyStage tun family tun.options.ipRoute2RuleIndex).1 := by
  apply mem_append_right
  rw [dnat_next]
  apply mem_append_right
  rw [bypass_next]
  exact mem_append_left _ member

omit member in
theorem nopRule_mem_policyStage :
    nopRule tun family 0 ∈ (policyStage tun family tun.options.ipRoute2RuleIndex).1 :=
  mem_append_right _ (mem_append_right _ (mem_append_right _ mem_cons_self))

omit member in
/-- The stages of the lookups, between the first slots and the last one. -/
theorem lookupStage_bounds {rule : Rule family}
    (member : rule ∈ (lookupStage tun family (lookupStart tun)).1) :
    lookupStart tun ≤ rule.priority ∧ rule.priority < nopPriority tun := by
  have ascending := lookupStage_ascending tun family (lookupStart tun)
  have inside := ascending.inside rule member
  have high := ascending.high
  have start := lookupStart_bounds tun
  refine ⟨inside.1, ?_⟩
  unfold nopPriority
  omega

/-- The policy of a family lies within its priorities, and all but its last
rule before the last one. -/
theorem policyStage_bounds :
    tun.options.ipRoute2RuleIndex ≤ rule.priority ∧
      (rule.priority < nopPriority tun ∨ rule = nopRule tun family 0) := by
  have slot := ipvsSlot_bounds tun
  have wide : nopPriority tun = tun.options.ipRoute2RuleIndex + 10 := rfl
  rcases mem_policyStage member with
    ⟨-, rfl⟩ | ⟨destinations, -, ipvs⟩ | lookup | rfl
  · refine ⟨Int.le_refl _, .inl ?_⟩
    show tun.options.ipRoute2RuleIndex < nopPriority tun
    omega
  · rw [ipvs.slot.1]
    exact ⟨slot.1, .inl (by omega)⟩
  · have bounds := lookupStage_bounds lookup
    have start := lookupStart_bounds tun
    exact ⟨by omega, .inl bounds.2⟩
  · refine ⟨?_, .inr rfl⟩
    show tun.options.ipRoute2RuleIndex ≤ nopPriority tun
    omega

theorem policyStage_jumps (jumps : 0 ≤ rule.goto) :
    rule.priority < rule.goto ∧
      ∃ landing ∈ (policyStage tun family tun.options.ipRoute2RuleIndex).1,
        landing.priority = rule.goto := by
  have far : rule.goto = nopPriority tun → rule.priority < rule.goto ∧
        ∃ landing ∈ (policyStage tun family tun.options.ipRoute2RuleIndex).1,
          landing.priority = rule.goto := by
    intro target
    rw [target]
    refine ⟨?_, _, nopRule_mem_policyStage, rfl⟩
    rcases (policyStage_bounds member).2 with early | rfl
    · exact early
    · exact absurd jumps (show ¬(0 : Int) ≤ -1 by decide)
  rcases mem_policyStage member with
    ⟨-, rfl⟩ | ⟨destinations, -, ipvs⟩ | lookup | rfl
  · exact far rfl
  · exact far ipvs.slot.2
  · rcases lookupStage_jumps tun family _ rule lookup jumps with
      target | ⟨forward, landing, listed, same⟩
    · exact far target
    · exact ⟨forward, landing, lookup_mem_policyStage listed, same⟩
  · exact absurd jumps (show ¬(0 : Int) ≤ -1 by decide)

end

variable (tun) in
/-- All stages before the last rule. -/
def frontStage : Stage :=
  (Stage.when tun.dnatBypass (dnatStage tun)).andThen ((bypassStage tun).andThen (lookupStage tun))

theorem policyStage_front : policyStage tun = (frontStage tun).andThen (emit (nopRule tun)) := by
  unfold frontStage
  rw [Stage.andThen_assoc, Stage.andThen_assoc]
  rfl

theorem frontStage_ascending :
    Stage.Ascending (frontStage tun) family tun.options.ipRoute2RuleIndex 9 := by
  have start := lookupStart_bounds tun
  have bypass : Stage.Ascending (bypassStage tun) family (ipvsSlot tun)
      (lookupStart tun - ipvsSlot tun) := by
    apply Stage.Ascending.flat
    · intro rule member
      obtain ⟨destinations, -, ipvs⟩ := mem_bypassStage member
      exact ipvs.slot.1
    · rw [bypass_next]
      omega
    · omega
  have rest : Stage.Ascending ((bypassStage tun).andThen (lookupStage tun))
      family (ipvsSlot tun) (lookupStart tun - ipvsSlot tun + 7) := by
    apply bypass.andThen
    exact lookupStage_ascending tun family _
  have one : lookupStart tun - ipvsSlot tun ≤ 1 := by
    unfold lookupStart
    split <;> omega
  refine Stage.Ascending.mono ?_ (show 1 + (lookupStart tun - ipvsSlot tun + 7) ≤ 9 by omega)
  apply (Stage.Ascending.when (by decide) (dnatStage_ascending tun family _)).andThen
  rw [dnat_next]
  exact rest

theorem frontStage_before {rule : Rule family}
    (member : rule ∈ (frontStage tun family tun.options.ipRoute2RuleIndex).1) :
    rule.priority < nopPriority tun := by
  have ascending := @frontStage_ascending tun family
  have inside := (ascending.inside rule member).2
  have high := ascending.high
  unfold nopPriority
  omega

/-- The whole policy is in the order of its priorities. -/
theorem policyStage_ordered : Ordered (policyStage tun family tun.options.ipRoute2RuleIndex).1 := by
  rw [policyStage_front]
  apply pairwise_append.mpr
  refine ⟨frontStage_ascending.ordered, pairwise_singleton _ _, ?_⟩
  intro rule member last member'
  obtain rfl := mem_singleton.mp member'
  exact Int.le_of_lt (frontStage_before member)

/-- The slot is between the rule of the DNAT bypass and the next rule. -/
theorem policyStage_slot {destinations : List IPVSDNSDestination} {rule : Rule family}
    (bypass : tun.ipvsDNSBypass = some destinations)
    (member : rule ∈ (policyStage tun family tun.options.ipRoute2RuleIndex).1) :
    (tun.dnatBypass = true ∧ rule = dnatRule tun family tun.options.ipRoute2RuleIndex ∧
        rule.priority < ipvsSlot tun) ∨
      IsIPVSRule tun destinations rule ∨ ipvsSlot tun < rule.priority := by
  rcases mem_policyStage member with
    ⟨dnat, rfl⟩ | ⟨tracked, same, ipvs⟩ | lookup | rfl
  · refine .inl ⟨dnat, rfl, ?_⟩
    show tun.options.ipRoute2RuleIndex < ipvsSlot tun
    unfold ipvsSlot
    rw [if_pos dnat]
    omega
  · cases bypass.symm.trans same
    exact .inr (.inl ipvs)
  · have low := (lookupStage_bounds lookup).1
    have kept : lookupStart tun = ipvsSlot tun + 1 := by
      unfold lookupStart
      rw [bypass, Option.isSome_some, if_pos rfl]
    exact .inr (.inr (by omega))
  · have slot := ipvsSlot_bounds tun
    refine .inr (.inr ?_)
    show ipvsSlot tun < tun.options.ipRoute2RuleIndex + 10
    omega

end Policy

end SingTun.Route
