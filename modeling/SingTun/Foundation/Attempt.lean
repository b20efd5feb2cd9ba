import Mathlib.Data.List.Basic

/-!
# Operations that may fail

A run of operations on a world, each of which either changes the world or
leaves it as it is.  The worlds in between are kept, so that what holds at
every point of a run can be told from its end.
-/

namespace SingTun.Foundation

universe u

/-- A world, whether the next operations succeed, and the worlds so far. -/
structure Attempts (World : Type u) where
  world : World
  outcomes : List Bool
  trace : List World

namespace Attempts

variable {World : Type u} {run : Attempts World} {change : World → World}
variable {P : World → Prop}

/-- The start of a run. -/
def start (world : World) (outcomes : List Bool) : Attempts World :=
  ⟨world, outcomes, [world]⟩

/-- An operation, and whether it has succeeded; when no outcome is given it
has. -/
def perform (change : World → World) (run : Attempts World) : Bool × Attempts World :=
  match run.outcomes with
  | false :: outcomes => (false, ⟨run.world, outcomes, run.trace⟩)
  | outcomes =>
    (true, ⟨change run.world, outcomes.tail, change run.world :: run.trace⟩)

/-- A property of the world and of all those before it. -/
structure Always (P : World → Prop) (run : Attempts World) : Prop where
  now : P run.world
  before : ∀ world ∈ run.trace, P world

theorem always_start {world : World} {outcomes : List Bool} (now : P world) :
    (start world outcomes).Always P := by
  refine ⟨now, ?_⟩
  intro other member
  rw [List.mem_singleton.mp member]
  exact now

/-- The two ways an operation can end. -/
theorem perform_cases (change : World → World) (run : Attempts World) :
    (∃ outcomes, run.perform change = (false, ⟨run.world, outcomes, run.trace⟩)) ∨
      ∃ outcomes, run.perform change = (true, ⟨change run.world, outcomes,
          change run.world :: run.trace⟩) := by
  unfold perform
  split
  · exact .inl ⟨_, rfl⟩
  · exact .inr ⟨_, rfl⟩

theorem Always.failed (always : run.Always P) (outcomes : List Bool) :
    Always P ⟨run.world, outcomes, run.trace⟩ :=
  ⟨always.now, always.before⟩

theorem Always.changed (always : run.Always P) (kept : P (change run.world))
    (outcomes : List Bool) :
    Always P ⟨change run.world, outcomes, change run.world :: run.trace⟩ :=
  ⟨kept, List.forall_mem_cons.mpr ⟨kept, always.before⟩⟩

/-- One operation for each item, up to the first that fails; its number is
returned. -/
def performAll {α : Type} (change : α → World → World) :
    Nat → List α → Attempts World → Option Nat × Attempts World
  | _, [], run => (none, run)
  | index, item :: items, run =>
    match run.perform (change item) with
    | (true, run) => performAll change (index + 1) items run
    | (false, run) => (some index, run)

/-- What the operations keep holds afterwards, however many have succeeded. -/
theorem performAll_keeps {α : Type} {change : α → World → World} {items : List α}
    (kept : ∀ item ∈ items, ∀ world, P world → P (change item world))
    (index : Nat) (now : P run.world) :
    P (performAll change index items run).2.world := by
  induction items generalizing index run with
  | nil => exact now
  | cons item items ih =>
    unfold performAll
    rcases perform_cases (change item) run with
      ⟨outcomes, failed⟩ | ⟨outcomes, done⟩
    · rw [failed]
      exact now
    · rw [done]
      exact ih (fun other member => kept other (List.mem_cons_of_mem item member))
        (index + 1) (kept item List.mem_cons_self _ now)

/-- A change that does not fail. -/
def act (change : World → World) (run : Attempts World) : Attempts World :=
  ⟨change run.world, run.outcomes, change run.world :: run.trace⟩

end Attempts

end SingTun.Foundation
