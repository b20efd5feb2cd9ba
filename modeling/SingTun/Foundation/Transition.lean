import Mathlib.Logic.Relation

/-!
# Transition systems

States, the states a run may start in, and the steps of a run.  An inductive
invariant holds in every reachable state, and a system whose steps are each
matched by steps of another one reaches only what the other one reaches.
-/

namespace SingTun.Foundation

universe u v

/-- Initial states and steps. -/
structure TransitionSystem (State : Type u) where
  initial : State → Prop
  step : State → State → Prop

namespace TransitionSystem

variable {State : Type u} {Concrete : Type v}

/-- A number of steps. -/
abbrev Steps (system : TransitionSystem State) : State → State → Prop :=
  Relation.ReflTransGen system.step

/-- The states of the runs from an initial state. -/
def Reachable (system : TransitionSystem State) (state : State) : Prop :=
  ∃ start, system.initial start ∧ system.Steps start state

variable {system : TransitionSystem State} {state state' : State}

theorem Reachable.steps (reachable : system.Reachable state)
    (steps : system.Steps state state') :
    system.Reachable state' := by
  obtain ⟨start, initial, before⟩ := reachable
  exact ⟨start, initial, before.trans steps⟩

/-- A number of steps, with a property after each of them. -/
def StepsWhile (system : TransitionSystem State) (Holds : State → Prop) : State → State → Prop :=
  Relation.ReflTransGen fun state state' =>
    system.step state state' ∧ Holds state'

theorem StepsWhile.steps {Holds : State → Prop} (steps : system.StepsWhile Holds state state') :
    system.Steps state state' :=
  Relation.ReflTransGen.mono (fun _ _ step => And.left step) _ _ steps

theorem StepsWhile.holds {Holds : State → Prop} (steps : system.StepsWhile Holds state state')
    (start : Holds state) :
    Holds state' := by
  cases steps with
  | refl => exact start
  | tail _ step => exact step.2

/-- What holds at the start and is kept by every step holds always. -/
theorem Reachable.invariant {Inv : State → Prop}
    (start : ∀ state, system.initial state → Inv state)
    (kept : ∀ state state', Inv state → system.step state state' → Inv state')
    (reachable : system.Reachable state) :
    Inv state := by
  obtain ⟨first, initial, steps⟩ := reachable
  induction steps with
  | refl => exact start first initial
  | tail _ step ih => exact kept _ _ ih step

/-- Every step is matched by steps of the other system. -/
structure Simulation
    (concrete : TransitionSystem Concrete) (system : TransitionSystem State)
    (Related : Concrete → State → Prop) : Prop where
  start : ∀ fine, concrete.initial fine → ∃ coarse, system.initial coarse ∧ Related fine coarse
  step : ∀ fine fine' coarse, Related fine coarse → concrete.step fine fine' →
      ∃ coarse', system.Steps coarse coarse' ∧ Related fine' coarse'

theorem Simulation.reachable {concrete : TransitionSystem Concrete}
    {Related : Concrete → State → Prop}
    (simulation : Simulation concrete system Related) {state : Concrete}
    (reachable : concrete.Reachable state) :
    ∃ coarse, system.Reachable coarse ∧ Related state coarse := by
  obtain ⟨first, initial, steps⟩ := reachable
  induction steps with
  | refl =>
    obtain ⟨coarse, begins, related⟩ := simulation.start first initial
    exact ⟨coarse, ⟨coarse, begins, .refl⟩, related⟩
  | tail _ step ih =>
    obtain ⟨coarse, reached, related⟩ := ih
    obtain ⟨coarse', matched, related'⟩ := simulation.step _ _ coarse related step
    exact ⟨coarse', reached.steps matched, related'⟩

end TransitionSystem

/-- What no step undoes holds after a run exactly if it did before, or if a
step of the run has brought it about. -/
theorem foldl_iff_of_step {State : Type u} {Event : Type v} {step : State → Event → State}
    {Holds : State → Prop} {Causes : State → Event → Prop}
    (caused : ∀ state event, Holds (step state event) ↔ Holds state ∨ Causes state event)
    (events : List Event) (state : State) :
    Holds (events.foldl step state) ↔ Holds state ∨
      ∃ before event after, events = before ++ event :: after ∧
        Causes (before.foldl step state) event := by
  induction events generalizing state with
  | nil => simp
  | cons event rest ih =>
    rw [List.foldl_cons, ih, caused, or_assoc]
    refine or_congr_right ⟨?_, ?_⟩
    · rintro (first | ⟨before, later, after, rfl, causes⟩)
      · exact ⟨[], event, rest, rfl, first⟩
      · exact ⟨event :: before, later, after, rfl, causes⟩
    · rintro ⟨_ | ⟨_, before⟩, later, after, split, causes⟩
      · cases split
        exact .inl causes
      · cases split
        exact .inr ⟨before, later, after, rfl, causes⟩

end SingTun.Foundation
