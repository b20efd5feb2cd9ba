import SingTun.Route.Slots

/-!
# Removal of the rules

`unsetRules` lists the rules of the kernel and deletes by family and priority
those that look like rules of the device.  Nothing else identifies a rule, so
all rules of the device have to lie where `unsetRules` looks for them.
-/

namespace SingTun.Route

open Foundation Header List

/-! ## `unsetRules` -/

/-- The rules that `unsetRules` takes for its own. -/
def Options.unsets (options : Options) (priority : Int) : Bool :=
  (options.ipRoute2RuleIndex ≤ priority &&
    priority ≤ options.ipRoute2RuleIndex + 10) ||
  (options.autoRedirectMarkMode &&
    priority == options.ipRoute2AutoRedirectFallbackRuleIndex)

/-- `netlink.RuleDel` of a rule with a family and a priority only: the first
such rule goes, and without one the deletion fails. -/
def ruleDel (family : Family) (priority : Int) (installed : List AnyRule) :
    Option (List AnyRule) :=
  if installed.any fun rule => (rule.1, rule.2.priority) == (family, priority)
  then some (installed.eraseP fun rule =>
    (rule.1, rule.2.priority) == (family, priority))
  else none

/-- The loop over the list of the rules. -/
def unsetListed (options : Options) :
    List AnyRule → List AnyRule → Option (List AnyRule)
  | [], installed => some installed
  | rule :: ruleList, installed =>
    if options.unsets rule.2.priority then
      (ruleDel rule.1 rule.2.priority installed).bind
        (unsetListed options ruleList)
    else unsetListed options ruleList installed

/-- `NativeTun.unsetRules`, with the rules that the kernel has. -/
def unsetRules
    (options : Options) (fileDescriptor : Int) (ruleIndex6 : List Int)
    (installed : List AnyRule) : Option (List AnyRule) := do
  if 0 < fileDescriptor then
    return installed
  let installed ← ruleIndex6.foldlM
    (fun installed index => ruleDel .v6 index installed) installed
  if options.autoRoute then unsetListed options installed installed
  else return installed

section Unset

variable {options : Options} {ruleList installed remaining : List AnyRule}

/-- The rules that have the key of a rule. -/
abbrev sameKey (rule other : AnyRule) : Bool :=
  (other.1, other.2.priority) == (rule.1, rule.2.priority)

theorem sameKey_iff {rule other : AnyRule} :
    sameKey rule other = true ↔ other.1 = rule.1 ∧ other.2.priority = rule.2.priority := by
  rw [sameKey, beq_iff_eq, Prod.mk.injEq]

/-- The deletion of a rule that is listed, and the rules it leaves. -/
theorem unsetListed_eq
    (counted : ∀ rule : AnyRule, options.unsets rule.2.priority = true →
      installed.countP (sameKey rule) = ruleList.countP (sameKey rule)) :
    unsetListed options ruleList installed =
      some (installed.filter fun rule => !options.unsets rule.2.priority) := by
  induction ruleList generalizing installed with
  | nil =>
    -- No rule with such a priority is left.
    refine congrArg some (filter_eq_self.mpr ?_).symm
    intro rule member
    rw [Bool.not_eq_true']
    by_contra unset
    rw [Bool.not_eq_false] at unset
    have absent := counted rule unset
    rw [countP_nil, countP_eq_zero] at absent
    exact absent rule member (sameKey_iff.mpr ⟨rfl, rfl⟩)
  | cons rule ruleList ih =>
    unfold unsetListed
    split
    · rename_i unset
      have positive : 0 < installed.countP (sameKey rule) := by
        rw [counted rule unset,
          countP_cons_of_pos (sameKey_iff.mpr ⟨rfl, rfl⟩)]
        exact Nat.succ_pos _
      obtain ⟨first, member, first_same⟩ := countP_pos_iff.mp positive
      have present : installed.any (sameKey rule) = true :=
        any_eq_true.mpr ⟨first, member, first_same⟩
      obtain ⟨found, front, back, before, same, rfl, erased⟩ :=
        exists_of_eraseP member first_same
      have gone : options.unsets found.2.priority = true := by
        rw [(sameKey_iff.mp same).2]
        exact unset
      rw [ruleDel, if_pos present, erased]
      show unsetListed options ruleList (front ++ back) = _
      rw [ih]
      · rw [filter_append, filter_append,
          filter_cons_of_neg (by rw [gone]; decide)]
      · intro other unsetOther
        have before := counted other unsetOther
        rw [countP_append, countP_cons, countP_cons] at before
        have key : sameKey other found = sameKey other rule := by
          unfold sameKey
          rw [beq_iff_eq.mp same]
        rw [key] at before
        rw [countP_append]
        omega
    · rename_i kept
      apply ih
      intro other unsetOther
      rw [counted other unsetOther, countP_cons_of_neg]
      intro same
      rw [(sameKey_iff.mp same).2] at kept
      exact kept unsetOther

/-- Exactly the rules with such priorities are removed. -/
theorem unsetRules_eq {fileDescriptor : Int} (own : fileDescriptor ≤ 0)
    (auto : options.autoRoute = true) :
    unsetRules options fileDescriptor [] installed =
      some (installed.filter fun rule => !options.unsets rule.2.priority) := by
  unfold unsetRules
  rw [if_neg (by omega)]
  show (if options.autoRoute = true then unsetListed options installed installed
    else some installed) = _
  rw [if_pos auto]
  exact unsetListed_eq fun _ _ => rfl

end Unset

/-! ## The rules of one family -/

section Families

variable {tun : NativeTun} {family : Family}

variable (auto : tun.options.autoRoute = true)
include auto

/-- The families have their rules from the mark mode, or from the policy. -/
theorem lane_rules (policy : tun.options.autoRedirectMarkMode = false)
    (here : tun.options.enabled family = true) :
    lane family (rules tun) = (policyStage tun family tun.options.ipRoute2RuleIndex).1 := by
  have active : ¬(!tun.options.enabled .v4 ∧ !tun.options.enabled .v6) := by
    rintro ⟨four, six⟩
    cases family <;> simp_all
  unfold rules
  simp only [auto, policy, Bool.not_true, Bool.false_eq_true, if_false]
  rw [if_neg active]
  exact lane_policyRules here

theorem lane_rules_disabled (absent : tun.options.enabled family = false) :
    lane family (rules tun) = [] ∨ lane family (rules tun) =
        [{ priority := tun.options.ipRoute2RuleIndex
           type := .unreachable }] := by
  unfold rules
  simp only [auto, Bool.not_true, Bool.false_eq_true, if_false]
  split
  · exact .inl rfl
  split
  · left
    exact ((Builder.follows_each_disabled absent _ _).trans_skip
      (Builder.follows_each_disabled absent _ _)).rules
  · rw [lane_policyRules_disabled absent]
    unfold Stage.when
    split
    · exact .inr rfl
    · exact .inl rfl

theorem lane_rules_mark (mode : tun.options.autoRedirectMarkMode = true)
    (here : tun.options.enabled family = true) :
    lane family (rules tun) = ((markStage tun).andThen (fallbackStage tun)
      family tun.options.ipRoute2RuleIndex).1 := by
  have active : ¬(!tun.options.enabled .v4 ∧ !tun.options.enabled .v6) := by
    rintro ⟨four, six⟩
    cases family <;> simp_all
  unfold rules
  simp only [auto, mode, Bool.not_true, Bool.false_eq_true, if_false, if_true]
  rw [if_neg active]
  exact ((Builder.follows_each here _ _).trans
    (Builder.follows_each here _ _)).rules

omit auto in
theorem unsets_of_bounds {options : Options} {priority : Int}
    (low : options.ipRoute2RuleIndex ≤ priority)
    (high : priority ≤ options.ipRoute2RuleIndex + 10) :
    options.unsets priority = true := by
  unfold Options.unsets
  rw [decide_eq_true low, decide_eq_true high]
  rfl

omit auto in
/-- The rules of the policy of a family. -/
theorem policyStage_unsets {rule : Rule family}
    (member : rule ∈ (policyStage tun family tun.options.ipRoute2RuleIndex).1) :
    tun.options.unsets rule.priority = true := by
  obtain ⟨low, early | rfl⟩ := policyStage_bounds member
  · unfold nopPriority at early
    exact unsets_of_bounds low (by omega)
  · exact unsets_of_bounds low (Int.le_refl _)

omit auto in
/-- The rules of the mark mode. -/
theorem markStage_wellFormed
    (mode : tun.options.autoRedirectMarkMode = true) {rule : Rule family}
    (member : rule ∈ ((markStage tun).andThen (fallbackStage tun) family
      tun.options.ipRoute2RuleIndex).1) :
    tun.options.unsets rule.priority = true ∧
      (0 ≤ rule.goto → rule.priority < rule.goto ∧
        ∃ landing ∈ ((markStage tun).andThen (fallbackStage tun) family
          tun.options.ipRoute2RuleIndex).1, landing.priority = rule.goto) := by
  have still : ¬(0 : Int) ≤ -1 := by decide
  rcases mem_append.mp member with here | last
  · rcases mem_cons.mp here with rfl | here
    · have shape : (markRule tun family
            tun.options.ipRoute2RuleIndex).priority =
            tun.options.ipRoute2RuleIndex ∧
          (markRule tun family tun.options.ipRoute2RuleIndex).goto =
            tun.options.ipRoute2RuleIndex + 2 := by
        unfold markRule
        split <;> exact ⟨rfl, rfl⟩
      rw [shape.1, shape.2]
      refine ⟨unsets_of_bounds (Int.le_refl _) (by omega), fun _ => ?_⟩
      refine ⟨by omega, { priority := tun.options.ipRoute2RuleIndex + 2 },
        ?_, rfl⟩
      exact mem_append_left _ (mem_cons_of_mem _
        (mem_cons_of_mem _ mem_cons_self))
    rcases mem_pair.mp here with rfl | rfl
    · refine ⟨unsets_of_bounds ?_ ?_, fun jumps => absurd jumps still⟩
      · show tun.options.ipRoute2RuleIndex ≤ tun.options.ipRoute2RuleIndex + 1
        omega
      · show tun.options.ipRoute2RuleIndex + 1 ≤
          tun.options.ipRoute2RuleIndex + 10
        omega
    · refine ⟨unsets_of_bounds ?_ ?_, fun jumps => absurd jumps still⟩
      · show tun.options.ipRoute2RuleIndex ≤ tun.options.ipRoute2RuleIndex + 2
        omega
      · show tun.options.ipRoute2RuleIndex + 2 ≤
          tun.options.ipRoute2RuleIndex + 10
        omega
  · obtain rfl := mem_singleton.mp last
    refine ⟨?_, fun jumps => absurd jumps still⟩
    unfold Options.unsets
    rw [mode, beq_self_eq_true]
    exact Bool.or_true _

/-- One rule of a family that is not enabled. -/
theorem mem_disabled
    (absent : tun.options.enabled family = false) {rule : Rule family}
    (member : rule ∈ lane family (rules tun)) :
    rule = { priority := tun.options.ipRoute2RuleIndex
             type := .unreachable } := by
  rcases lane_rules_disabled auto absent with empty | one
  · rw [empty] at member
    cases member
  · rw [one] at member
    exact mem_singleton.mp member

/-- `unsetRules` takes every rule for its own. -/
theorem rules_unsets :
    ∀ rule ∈ rules tun, tun.options.unsets rule.2.priority = true := by
  rintro ⟨family, rule⟩ member
  have member := mem_lane.mpr member
  cases enabled : tun.options.enabled family with
  | false =>
    rw [mem_disabled auto enabled member]
    exact unsets_of_bounds (Int.le_refl _)
      (by show tun.options.ipRoute2RuleIndex ≤ _; omega)
  | true =>
    cases mode : tun.options.autoRedirectMarkMode with
    | false =>
      rw [lane_rules auto mode enabled] at member
      exact policyStage_unsets member
    | true =>
      rw [lane_rules_mark auto mode enabled] at member
      exact (markStage_wellFormed mode member).1

/-- No rule of the device is among those that `unsetRules` leaves. -/
theorem rules_removed {installed : List AnyRule}
    {rule : AnyRule} (member : rule ∈ rules tun) :
    rule ∉ installed.filter fun rule =>
      !tun.options.unsets rule.2.priority := by
  intro left
  have kept := (mem_filter.mp left).2
  rw [rules_unsets auto rule member] at kept
  cases kept

end Families

/-! ## Rules that can be removed -/

/-- What the kernel and `unsetRules` need of the rules. -/
structure WellFormed (tun : NativeTun) : Prop where
  /-- `unsetRules` takes every rule for its own. -/
  removable : ∀ rule ∈ rules tun, tun.options.unsets rule.2.priority = true
  /-- Whatever else is installed, no rule is left. -/
  removed : ∀ fileDescriptor installed, fileDescriptor ≤ 0 → ∃ remaining,
      unsetRules tun.options fileDescriptor [] installed = some remaining ∧
      ∀ rule ∈ rules tun, rule ∉ remaining
  /-- Jumps go forward, to a rule of their family. -/
  forward : ∀ family, ∀ rule ∈ lane family (rules tun), 0 ≤ rule.goto →
    rule.priority < rule.goto ∧
      ∃ landing ∈ lane family (rules tun), landing.priority = rule.goto
  /-- The last priority is behind all lookups of the device's table. -/
  early : tun.options.autoRedirectMarkMode = false → ∀ rule ∈ rules tun,
    rule.2.lookup? = some tun.options.ipRoute2TableIndex →
      rule.2.priority < tun.options.ipRoute2RuleIndex + 10
  /-- A rule that is added later has its place. -/
  slot : tun.options.autoRedirectMarkMode = false →
    ∀ tracked, tun.ipvsDNSBypass = some tracked →
    ∀ destination rule, ipvsDNSRule tun destination = some rule →
      tun.options.unsets rule.priority = true ∧ (tun.dnatBypass = true →
        dnatRule tun destination.family tun.options.ipRoute2RuleIndex ∈
          lane destination.family (rules tun)) ∧
      ∀ other ∈ lane destination.family (rules tun), (tun.dnatBypass = true ∧
          other = dnatRule tun destination.family
            tun.options.ipRoute2RuleIndex ∧ other.priority < rule.priority) ∨
        (IsIPVSRule tun tracked other ∧ other.priority = rule.priority) ∨
        rule.priority < other.priority

/-- The rules under `AutoRoute`, for all options. -/
theorem rules_wellFormed
    (tun : NativeTun) (auto : tun.options.autoRoute = true) :
    WellFormed tun := by
  constructor
  · exact rules_unsets auto
  · intro fileDescriptor installed own
    exact ⟨_, unsetRules_eq own auto, fun rule => rules_removed auto⟩
  · intro family rule member jumps
    cases enabled : tun.options.enabled family with
    | false =>
      rw [mem_disabled auto enabled member] at jumps
      exact absurd jumps (show ¬(0 : Int) ≤ -1 by decide)
    | true =>
      cases mode : tun.options.autoRedirectMarkMode with
      | false =>
        rw [lane_rules auto mode enabled] at member ⊢
        exact policyStage_jumps member jumps
      | true =>
        rw [lane_rules_mark auto mode enabled] at member ⊢
        exact (markStage_wellFormed mode member).2 jumps
  · rintro policy ⟨family, rule⟩ member lookup
    have member := mem_lane.mpr member
    cases enabled : tun.options.enabled family with
    | false =>
      rw [mem_disabled auto enabled member] at lookup
      cases lookup
    | true =>
      rw [lane_rules auto policy enabled] at member
      rcases (policyStage_bounds member).2 with early | rfl
      · exact early
      · cases lookup
  · intro policy tracked bypass destination rule made
    have enabled := ipvsDNSRule_enabled tun made
    have slot := (ipvsDNSRule_slot tun made).1
    have bounds := ipvsSlot_bounds tun
    rw [lane_rules auto policy enabled, slot]
    refine ⟨unsets_of_bounds bounds.1 (by omega), ?_, ?_⟩
    · intro dnat
      apply mem_append_left
      unfold Stage.when
      rw [if_pos dnat]
      exact mem_singleton_self _
    · intro other member
      rcases policyStage_slot bypass member with first | ipvs | behind
      · exact .inl first
      · exact .inr (.inl ⟨ipvs, ipvs.slot.1⟩)
      · exact .inr (.inr behind)

/-- A device with an address of each family. -/
def sampleTun : NativeTun where
  options :=
    { name := "tun0"
      inetAddress
        | .v4 => [⟨.from4 172 18 0 1, 30, show 30 ≤ 32 by decide⟩]
        | .v6 => [⟨⟨253 :: 254 :: List.replicate 13 0 ++ [1], rfl⟩, 126, by decide⟩]
      autoRoute := true
      ipRoute2TableIndex := 2022
      ipRoute2RuleIndex := 9000
      ipRoute2AutoRedirectFallbackRuleIndex := 32768
      autoRedirectMarkMode := false
      autoRedirectInputMark := 0x2023
      autoRedirectOutputMark := 0x2024
      strictRoute := true
      includeInterface := ["eth0"]
      excludeInterface := []
      includeUID := []
      excludeUID := []
      excludeSrcPort := []
      excludeDstPort := [⟨123, 123⟩] }
  ranges := ⟨fun included _ => included, fun _ _ included => included, id⟩
  dnatBypass := true
  ipvsDNSBypass := some [⟨.udp, .v4, ⟨.from4 10 96 0 10, 53⟩⟩]
  android := false
  androidVPNEnabled := false
  overrideAndroidVPN := false
  nextIndex6 := -1

theorem rules_wellFormed_sample :
    sampleTun.options.autoRoute = true ∧ WellFormed sampleTun :=
  ⟨rfl, rules_wellFormed sampleTun rfl⟩

end SingTun.Route
