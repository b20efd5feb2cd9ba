import SingTun.System.Nat

/-!
# Whole calls of the port translation

A stack that makes one call after the other uses `Lookup`, `LookupBack` and
`checkTimeout` as single steps.  Each of them is a sequence of the critical
sections of one thread, so whatever the calls reach is also reached by the
interleaved threads.
-/

namespace SingTun.System

open Foundation

variable {α : Type} [DecidableEq α]

/-- One whole call. -/
inductive NatCall : TCPNat α → TCPNat α → Prop
  | lookup (nat : TCPNat α) (source destination : α) (since now : Int) :
      NatCall nat (nat.lookup source destination since now).2
  | lookupBack (nat : TCPNat α) (port : UInt16) (since now : Int) :
      NatCall nat (nat.lookupBack port since now).2
  | checkTimeout (nat : TCPNat α) (now : Int)
      (expired : List (UInt16 × Nat)) (visited : expired.Perm (nat.scan now)) :
      NatCall nat (nat.deleteExpired now expired)

/-- The table under whole calls. -/
def natCalls (α : Type) [DecidableEq α] (timeout : Int) : TransitionSystem (TCPNat α) where
  initial nat := nat = newNat α timeout
  step := NatCall

/-! ## The sections of a call -/

section Sections

variable {timeout : Int} {nat nat' : TCPNat α} {callers : List (Caller α)}
variable {checker : Checker}

/-- The threads can go from one table to another, with some caller more. -/
def Sections (timeout : Int) (nat nat' : TCPNat α) (caller : Caller α) : Prop :=
  ∀ callers checker, ∃ caller', (natSystem α timeout).Steps ⟨nat, callers ++ [caller], checker⟩
      ⟨nat', callers ++ [caller'], checker⟩

theorem Sections.refl (caller : Caller α) : Sections timeout nat nat caller :=
  fun _ _ => ⟨caller, .refl⟩

/-- The last caller makes a step and goes on. -/
theorem Sections.step {middle : TCPNat α} {caller next : Caller α} (since now : Int)
    (stepped : caller.step nat since now = (middle, next))
    (rest : Sections timeout middle nat' next) :
    Sections timeout nat nat' caller := by
  intro callers checker
  obtain ⟨caller', steps⟩ := rest callers checker
  refine ⟨caller', .head ?_ steps⟩
  have one := NatStep.caller ⟨nat, callers ++ [caller], checker⟩
    callers.length caller since now List.getElem?_concat_length
  rwa [stepped, List.set_append_right _ _ (le_rfl), Nat.sub_self, List.set_cons_zero] at one

theorem Sections.steps {caller : Caller α} (sections : Sections timeout nat nat' caller)
    (starts : caller.Starts) :
    ∃ callers', (natSystem α timeout).Steps ⟨nat, callers, checker⟩ ⟨nat', callers', checker⟩ := by
  obtain ⟨caller', steps⟩ := sections callers checker
  exact ⟨_, .head (NatStep.call ⟨nat, callers, checker⟩ caller starts) steps⟩

/-- `n.refresh` after its pointer was read. -/
theorem sections_withSession
    (nat : TCPNat α) (port : UInt16) (result : NatResult α) (since now : Int) :
    Sections timeout nat (nat.refresh port since now)
      (.withSession (nat.portMap.lookup port) result) := by
  unfold TCPNat.refresh
  cases nat.portMap.lookup port with
  | none => exact .refl _
  | some session => exact .step since now rfl (.refl _)

theorem sections_lookup (nat : TCPNat α) (source destination : α) (since now : Int) :
    Sections timeout nat (nat.lookup source destination since now).2
      (.lookup ⟨source, destination⟩) := by
  cases probe : nat.probe ⟨source, destination⟩ with
  | some port =>
    have probed : Caller.step nat since now (.lookup ⟨source, destination⟩) =
      (nat, .found ⟨source, destination⟩ port) := by
      simp only [Caller.step, probe]
    rw [TCPNat.lookup_of_some probe]
    refine .step since now probed (.step since now rfl ?_)
    exact sections_withSession nat port _ since now
  | none =>
    have probed : Caller.step nat since now (.lookup ⟨source, destination⟩) =
      (nat, .missed ⟨source, destination⟩) := by
      simp only [Caller.step, probe]
    rw [TCPNat.lookup_of_none probe]
    refine .step since now probed ?_
    have inserted : (Caller.step nat since now (.missed ⟨source, destination⟩)).1 =
      (nat.insertLocked ⟨source, destination⟩ since now).2 := by
      simp only [Caller.step]
      split <;> simp only [*]
    rw [← inserted]
    exact .step since now rfl (.refl _)

theorem sections_lookupBack (nat : TCPNat α) (port : UInt16) (since now : Int) :
    Sections timeout nat (nat.lookupBack port since now).2 (.lookupBack port) :=
  .step since now rfl (sections_withSession nat port _ since now)

theorem steps_checkTimeout (nat : TCPNat α) (now : Int) {expired : List (UInt16 × Nat)}
    (visited : expired.Perm (nat.scan now)) :
    (natSystem α timeout).Steps ⟨nat, callers, .idle⟩
      ⟨nat.deleteExpired now expired, callers, .idle⟩ := by
  have scan := NatStep.scan ⟨nat, callers, .idle⟩ now expired rfl visited
  by_cases empty : expired = []
  · subst empty
    exact .refl
  · dsimp only at scan
    rw [if_neg empty] at scan
    exact .head scan (.single (NatStep.delete _ now expired rfl))

end Sections

/-- The threads can do what whole calls do. -/
theorem natCalls_simulation (timeout : Int) :
    TransitionSystem.Simulation (natCalls α timeout) (natSystem α timeout)
      fun nat state => state.nat = nat ∧ state.checker = .idle where
  start nat initial := by
    obtain rfl := initial
    exact ⟨_, rfl, rfl, rfl⟩
  step nat nat' state related call := by
    obtain ⟨nat, callers, checker⟩ := state
    obtain ⟨rfl, rfl⟩ := related
    cases call with
    | lookup source destination since now =>
      obtain ⟨callers', steps⟩ := (sections_lookup nat source destination since now).steps trivial
      exact ⟨_, steps, rfl, rfl⟩
    | lookupBack port since now =>
      obtain ⟨callers', steps⟩ := (sections_lookupBack nat port since now).steps trivial
      exact ⟨_, steps, rfl, rfl⟩
    | checkTimeout now expired visited =>
      exact ⟨_, steps_checkTimeout nat now visited, rfl, rfl⟩

end SingTun.System
