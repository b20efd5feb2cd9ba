import SingTun.Route.Rules

/-!
# The rules of one family

The two families do not see each other's rules.  The rules that `rules` adds
for one family are those of its stages, one after the other, so they are
described by one stage for the whole policy, and what holds of every stage
holds of it.
-/

namespace SingTun.Route

open Foundation Header List

/-! ## Lanes -/

section Lanes

variable {family other : Family}

/-- The rules of a family, in their order. -/
def lane (family : Family) (rules : List AnyRule) : List (Rule family) :=
  rules.filterMap fun rule =>
    if same : rule.1 = family then some (same ▸ rule.2) else none

theorem mem_lane {rules : List AnyRule} {rule : Rule family} :
    rule ∈ lane family rules ↔ ⟨family, rule⟩ ∈ rules := by
  unfold lane
  rw [mem_filterMap]
  constructor
  · rintro ⟨⟨found, member⟩, listed, result⟩
    split at result
    · rename_i same
      cases same
      cases result
      exact listed
    · cases result
  · intro listed
    exact ⟨⟨family, rule⟩, listed, dif_pos rfl⟩

theorem lane_append (left right : List AnyRule) :
    lane family (left ++ right) = lane family left ++ lane family right :=
  filterMap_append

theorem lane_map_self (rules : List (Rule family)) :
    lane family (rules.map (Sigma.mk family)) = rules := by
  unfold lane
  rw [filterMap_map]
  exact (filterMap_congr fun rule _ => dif_pos rfl).trans filterMap_some

theorem lane_map_ne (different : other ≠ family) (rules : List (Rule other)) :
    lane family (rules.map (Sigma.mk other)) = [] := by
  unfold lane
  rw [filterMap_map, filterMap_eq_nil_iff]
  intro rule _
  exact dif_neg different

end Lanes

/-! ## Stages after each other -/

namespace Stage

/-- A stage that is left out. -/
def skip : Stage := fun _ priority => ([], priority)

/-- The rules of two stages. -/
def andThen (first second : Stage) : Stage := fun family priority =>
  ((first family priority).1 ++ (second family (first family priority).2).1,
    (second family (first family priority).2).2)

theorem andThen_assoc (first second third : Stage) :
    (first.andThen second).andThen third = first.andThen (second.andThen third) := by
  funext family priority
  exact congrArg (·, _) (append_assoc _ _ _)

/-- A stage under a condition. -/
def when (condition : Prop) [Decidable condition] (stage : Stage) : Stage :=
  if condition then stage else skip

/-- One rule for each item, all at the priority. -/
def emitAll {α : Type} (items : List α)
    (rule : α → (family : Family) → Int → Rule family) : Stage :=
  fun family priority =>
    (items.map fun item => rule item family priority, priority)

end Stage

namespace Builder

variable {family : Family} {enabled : Family → Bool}
variable {builder middle after : Builder} {stage first second : Stage}

/-- What a family sees of the way from one builder to the next. -/
structure Follows
    (family : Family) (stage : Stage) (before after : Builder) : Prop where
  rules : lane family after.rules = lane family before.rules ++
    (stage family (before.priority family)).1
  priority : after.priority family = (stage family (before.priority family)).2

theorem Follows.refl : Follows family .skip builder builder :=
  ⟨(append_nil _).symm, rfl⟩

theorem Follows.trans (left : Follows family first builder middle)
    (right : Follows family second middle after) :
    Follows family (first.andThen second) builder after := by
  constructor
  · rw [right.rules, left.rules, left.priority, append_assoc]
    rfl
  · rw [right.priority, left.priority]
    rfl

theorem Follows.skip_trans (left : Follows family .skip builder middle)
    (right : Follows family stage middle after) :
    Follows family stage builder after :=
  left.trans right

theorem Follows.either {condition : Prop} [Decidable condition]
    (left : Follows family .skip builder middle)
    (right : Follows family .skip builder after) :
    Follows family .skip builder (if condition then middle else after) := by
  split
  · exact left
  · exact right

theorem Follows.when {condition : Prop} [Decidable condition]
    (step : Follows family stage builder after) :
    Follows family (.when condition stage) builder (if condition then after else builder) := by
  unfold Stage.when
  split
  · exact step
  · exact .refl

theorem follows_run (stage : Stage) (family : Family) (builder : Builder) :
    Follows family stage builder (builder.run stage family) := by
  constructor
  · rw [run, lane_append, lane_map_self]
  · exact Function.update_self _ _ _

theorem follows_run_ne {other : Family} (different : other ≠ family) (stage : Stage)
    (builder : Builder) :
    Follows family .skip builder (builder.run stage other) := by
  constructor
  · rw [run, lane_append, lane_map_ne different]
    rfl
  · exact Function.update_of_ne different.symm _ _

theorem andThen_skip (stage : Stage) : stage.andThen .skip = stage := by
  funext family priority
  unfold Stage.andThen Stage.skip
  rw [append_nil]

theorem Follows.trans_skip (left : Follows family stage builder middle)
    (right : Follows family .skip middle after) :
    Follows family stage builder after := by
  have both := left.trans right
  rwa [andThen_skip] at both

theorem follows_each (here : enabled family = true) (stage : Stage) (builder : Builder) :
    Follows family stage builder (builder.each enabled stage) := by
  unfold each
  cases family with
  | v4 =>
    rw [if_pos here]
    have rest : Follows .v4 .skip (builder.run stage .v4)
        (if enabled .v6 then (builder.run stage .v4).run stage .v6
          else builder.run stage .v4) := by
      split
      · exact follows_run_ne (by decide) _ _
      · exact .refl
    exact (follows_run stage .v4 builder).trans_skip rest
  | v6 =>
    rw [if_pos here]
    refine Follows.skip_trans ?_ (follows_run _ .v6 _)
    split
    · exact follows_run_ne (by decide) _ _
    · exact .refl

/-- A family that is not enabled sees nothing. -/
theorem follows_each_disabled
    (absent : enabled family = false) (stage : Stage) (builder : Builder) :
    Follows family .skip builder (builder.each enabled stage) := by
  unfold each
  cases family with
  | v4 =>
    simp only [absent, Bool.false_eq_true, if_false]
    split
    · exact follows_run_ne (by decide) _ _
    · exact .refl
  | v6 =>
    simp only [absent, Bool.false_eq_true, if_false]
    split
    · exact follows_run_ne (by decide) _ _
    · exact .refl

theorem follows_forAll {α : Type} (here : enabled family = true) (items : List α)
    (rule : α → (family : Family) → Int → Rule family) (builder : Builder) :
    Follows family (.emitAll items rule) builder
      (builder.forAll enabled items fun item => emit (rule item)) := by
  induction items generalizing builder with
  | nil => exact .refl
  | cons item rest ih =>
    exact (follows_each here (emit (rule item)) builder).trans (ih _)

theorem follows_forAll_disabled {α : Type} (absent : enabled family = false) (items : List α)
    (stage : α → Stage) (builder : Builder) :
    Follows family .skip builder (builder.forAll enabled items stage) := by
  induction items generalizing builder with
  | nil => exact .refl
  | cons item rest ih =>
    exact (follows_each_disabled absent (stage item) builder).trans (ih _)

end Builder

/-! ## The policy of a family -/

section Policy

variable (tun : NativeTun) {family : Family}

/-- The rules of the destinations, and the slot that is kept for them. -/
def ipvsStage (destinations : List IPVSDNSDestination) : Stage :=
  fun family priority =>
    (lane family (ipvsDNSRules tun destinations), priority + 1)

def bypassStage : Stage :=
  match tun.ipvsDNSBypass with
  | none => .skip
  | some destinations => ipvsStage tun destinations

/-- Ports and users. -/
def excludeStage : Stage :=
  (Stage.emitAll tun.options.excludeSrcPort (srcPortRule tun)).andThen
    ((Stage.emitAll tun.options.excludeDstPort (dstPortRule tun)).andThen
      ((Stage.emitAll tun.excludedRanges (uidRule tun)).andThen
        (Stage.when (tun.options.excludeSrcPort ≠ [] ∨
          tun.options.excludeDstPort ≠ [] ∨ tun.excludedRanges ≠ []) advance)))

def includeInterfaces : Stage :=
  ((Stage.emitAll tun.options.includeInterface includeRule).andThen
    advance).andThen (includeStage tun)

def excludeInterfaces : Stage :=
  (Stage.emitAll tun.options.excludeInterface (excludeRule tun)).andThen advance

def interfaceStage : Stage :=
  if tun.options.includeInterface ≠ [] then includeInterfaces tun
  else if tun.options.excludeInterface ≠ [] then excludeInterfaces tun
  else .skip

/-- What follows the slot of the destinations, up to the last rule. -/
def lookupStage : Stage :=
  (excludeStage tun).andThen ((interfaceStage tun).andThen
      ((Stage.when (tun.android ∧ tun.androidVPNEnabled)
          (androidStage tun)).andThen ((Stage.when (!tun.android)
            ((addressStage tun).andThen (emit mainRule))).andThen (captureStage tun))))

/-- The stages of an enabled family. -/
def policyStage : Stage :=
  (Stage.when tun.dnatBypass (dnatStage tun)).andThen ((bypassStage tun).andThen
      ((lookupStage tun).andThen (emit (nopRule tun))))

variable {tun}

section

variable (here : tun.options.enabled family = true)
include here

theorem follows_bypass (builder : Builder) :
    Builder.Follows family (bypassStage tun) builder
      (match tun.ipvsDNSBypass with
        | none => builder
        | some destinations =>
          { builder with
            rules := builder.rules ++ ipvsDNSRules tun destinations
            }.each tun.options.enabled advance) := by
  unfold bypassStage
  cases tun.ipvsDNSBypass with
  | none => exact .refl
  | some destinations =>
    have step := Builder.follows_each here advance
      { builder with
        rules := builder.rules ++ ipvsDNSRules tun destinations }
    constructor
    · rw [step.rules, lane_append, append_assoc]
      exact congrArg _ (append_nil _)
    · exact step.priority

theorem follows_interfaces (builder : Builder) :
    Builder.Follows family (interfaceStage tun) builder
      (if tun.options.includeInterface ≠ [] then
        ((builder.forAll tun.options.enabled tun.options.includeInterface
          fun iifName => emit (includeRule iifName)).each tun.options.enabled
            advance).each tun.options.enabled (includeStage tun)
      else if tun.options.excludeInterface ≠ [] then
        (builder.forAll tun.options.enabled tun.options.excludeInterface
          fun iifName => emit (excludeRule tun iifName)).each tun.options.enabled advance
      else builder) := by
  unfold interfaceStage
  split
  · refine .trans (.trans ?_ (Builder.follows_each here _ _)) (Builder.follows_each here _ _)
    exact Builder.follows_forAll here _ includeRule _
  · split
    · refine .trans ?_ (Builder.follows_each here _ _)
      exact Builder.follows_forAll here _ (excludeRule tun) _
    · exact .refl

/-- The rules for a family without addresses are not seen by another one. -/
theorem follows_strict (builder : Builder) :
    Builder.Follows family .skip builder (if tun.options.strictRoute then
        builder.each (fun family => !tun.options.enabled family) strictStage
      else builder) := by
  split
  · apply Builder.follows_each_disabled
    rw [here]
    rfl
  · exact .refl

/-- An enabled family sees the stages of the policy. -/
theorem lane_policyRules :
    lane family (policyRules tun) = (policyStage tun family tun.options.ipRoute2RuleIndex).1 := by
  suffices chain : ∃ final : Builder, policyRules tun = final.rules ∧
      Builder.Follows family (policyStage tun) ⟨[], fun _ => tun.options.ipRoute2RuleIndex⟩ final by
    obtain ⟨final, same, follows⟩ := chain
    rw [same]
    exact follows.rules
  refine ⟨_, rfl, ?_⟩
  refine .trans (.when (Builder.follows_each here _ _))
    (.trans (follows_bypass here _) (.trans ?_ (Builder.follows_each here _ _)))
  refine .trans (.trans (Builder.follows_forAll here _ (srcPortRule tun) _)
    (.trans (Builder.follows_forAll here _ (dstPortRule tun) _)
      (.trans (Builder.follows_forAll here _ (uidRule tun) _)
        (.when (Builder.follows_each here _ _))))) ?_
  refine .trans (follows_interfaces here _) (.trans (.when (Builder.follows_each here _ _)) ?_)
  refine .skip_trans (follows_strict here _) ?_
  refine .trans (.when ?_) (Builder.follows_each here _ _)
  exact .trans (Builder.follows_each here _ _) (Builder.follows_each here _ _)

end

/-- No rule of a destination belongs to a family without addresses. -/
theorem lane_ipvsDNSRules_disabled (absent : tun.options.enabled family = false)
    (destinations : List IPVSDNSDestination) :
    lane family (ipvsDNSRules tun destinations) = [] := by
  rw [eq_nil_iff_forall_not_mem]
  intro rule member
  obtain ⟨destination, -, found⟩ := mem_filterMap.mp (mem_lane.mp member)
  obtain ⟨made, made_eq, same⟩ := Option.map_eq_some_iff.mp found
  unfold ipvsDNSRule at made_eq
  cases same
  rw [absent] at made_eq
  cases made_eq

/-- The only rule that a family without addresses can have. -/
theorem lane_policyRules_disabled (absent : tun.options.enabled family = false) :
    lane family (policyRules tun) = (Stage.when tun.options.strictRoute strictStage family
        tun.options.ipRoute2RuleIndex).1 := by
  suffices chain : ∃ final : Builder, policyRules tun = final.rules ∧
      Builder.Follows family (Stage.when tun.options.strictRoute strictStage)
        ⟨[], fun _ => tun.options.ipRoute2RuleIndex⟩ final by
    obtain ⟨final, same, follows⟩ := chain
    rw [same]
    exact follows.rules
  have each : ∀ stage builder, Builder.Follows family .skip builder
      (builder.each tun.options.enabled stage) :=
    Builder.follows_each_disabled absent
  have loop : ∀ {α : Type} (items : List α) stage builder, Builder.Follows family .skip builder
        (builder.forAll tun.options.enabled items stage) :=
    Builder.follows_forAll_disabled absent
  have strict := @Builder.follows_each family
    (fun family => !tun.options.enabled family) (by simp [absent]) strictStage
  have bypass : ∀ builder : Builder, Builder.Follows family .skip builder
      (match tun.ipvsDNSBypass with
        | none => builder
        | some destinations =>
          { builder with
            rules := builder.rules ++ ipvsDNSRules tun destinations
            }.each tun.options.enabled advance) := by
    intro builder
    cases tun.ipvsDNSBypass with
    | none => exact .refl
    | some destinations =>
      refine Builder.Follows.trans_skip ?_ (each _ _)
      refine ⟨?_, rfl⟩
      rw [lane_append, lane_ipvsDNSRules_disabled absent]
      rfl
  refine ⟨_, rfl, ?_⟩
  -- All stages but the one for such families are skipped.
  refine .trans_skip ?_ (each _ _)
  refine .trans_skip ?_ (each _ _)
  refine .trans_skip ?_ (.either (.trans_skip (each _ _) (each _ _)) .refl)
  refine .skip_trans ?_ (.when (strict _))
  refine .trans_skip ?_ (.either (each _ _) .refl)
  refine .trans_skip ?_ (.either (.trans_skip (.trans_skip (loop _ _ _) (each _ _)) (each _ _))
    (.either (.trans_skip (loop _ _ _) (each _ _)) .refl))
  refine .trans_skip ?_ (.either (each _ _) .refl)
  refine .trans_skip ?_ (loop _ _ _)
  refine .trans_skip ?_ (loop _ _ _)
  refine .trans_skip ?_ (loop _ _ _)
  refine .trans_skip ?_ (bypass _)
  exact .either (each _ _) .refl

end Policy

end SingTun.Route
