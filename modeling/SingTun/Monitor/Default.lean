import SingTun.Monitor.Android

/-!
# The interface monitor on other systems

Without a VPN state to watch, a run of `postCheckUpdate` finds a default
interface, finds that there is none, or fails.  The callbacks are told of
another interface only, so what they were told last has to be the interface
that the monitor has, up to `Equals`.
-/

namespace SingTun.Monitor

open Foundation

/-! ## One run -/

/-- What `checkUpdate` finds. -/
inductive Found (Interface : Type)
  | interface (newInterface : Interface)
  | noRoute
  | failed

/-- A monitor, with what it reads from the system in one run. -/
structure DefaultMonitor (Environment Interface : Type) where
  /-- `interfaceFinder.Update` has no error. -/
  update : Environment → Bool
  find : Environment → Found Interface
  /-- `Interface.Equals`. -/
  equals : Interface → Interface → Bool

section Run

variable {Environment Interface : Type} (monitor : DefaultMonitor Environment Interface)

/-- The end of `checkUpdate`: the interface is stored, and emitted if it is
another one. -/
def publish (newInterface : Interface) (state : MonitorState Interface) : Run Interface :=
  let oldInterface := state.defaultInterface
  let state := { state with defaultInterface := some newInterface }
  if oldInterface.any (monitor.equals · newInterface) then ⟨state, .done, []⟩
  else ⟨state, .done, [⟨some newInterface, 0⟩]⟩

def checkFound (found : Found Interface) (state : MonitorState Interface) : Run Interface :=
  match found with
  | .interface newInterface => publish monitor newInterface state
  | .noRoute => ⟨state, .noRoute, []⟩
  | .failed => ⟨state, .failed, []⟩

/-- `postCheckUpdate` with this `checkUpdate`. -/
def postCheckFound (environment : Environment) (state : MonitorState Interface) : Run Interface :=
  if !monitor.update environment then ⟨state, .failed, []⟩
  else conclude (checkFound monitor (monitor.find environment) state)

end Run

/-! ## Linux -/

section Linux

variable {Interface : Type}

/-- `netlink.Route`, as far as `checkUpdate` reads it. -/
structure MainRoute where
  /-- `route.Dst != nil`. -/
  hasDst : Bool
  linkIndex : Int

/-- What the system answers during one run. -/
structure LinuxEnvironment (Interface : Type) where
  update : Bool
  /-- The routes of the main table. -/
  routes : Option (List MainRoute)
  linkByIndex : Int → Option Int
  byIndex : Int → Option Interface

/-- The interface of the first default route. -/
def LinuxEnvironment.find (environment : LinuxEnvironment Interface) : Found Interface :=
  match environment.routes with
  | none => .failed
  | some routes =>
    match routes.find? (!·.hasDst) with
    | none => .noRoute
    | some route =>
      match environment.linkByIndex route.linkIndex with
      | none => .failed
      | some link =>
        match environment.byIndex link with
        | none => .failed
        | some newInterface => .interface newInterface

def linuxMonitor (equals : Interface → Interface → Bool) :
    DefaultMonitor (LinuxEnvironment Interface) Interface where
  update := LinuxEnvironment.update
  find := LinuxEnvironment.find
  equals := equals

end Linux

/-! ## Sequences of runs -/

section Watch

variable {Environment Interface : Type}

/-- The state, and what was emitted so far; the last is the first one. -/
structure Published (Interface : Type) where
  state : MonitorState Interface
  emitted : List (Option Interface)

/-- The state and the emissions after a run. -/
def Published.next (monitor : DefaultMonitor Environment Interface)
    (environment : Environment) (published : Published Interface) : Published Interface :=
  let run := postCheckFound monitor environment published.state
  { state := run.state
    emitted := run.callbacks.reverse.map Callback.defaultInterface ++ published.emitted }

/-- All sequences of runs. -/
def monitorRuns (monitor : DefaultMonitor Environment Interface) :
    TransitionSystem (Published Interface) where
  initial published := published = ⟨⟨none, false, false⟩, []⟩
  step published published' := ∃ environment, published' = published.next monitor environment

/-- `Equals`, and `nil` for `nil`. -/
def SameInterface (equals : Interface → Interface → Bool) :
    Option Interface → Option Interface → Prop :=
  Option.Rel fun left right => equals left right = true

/-- What the callbacks know. -/
structure Informed (equals : Interface → Interface → Bool)
    (published : Published Interface) : Prop where
  last : ∀ last earlier, published.emitted = last :: earlier →
    SameInterface equals last published.state.defaultInterface
  /-- Before the first emission there is no interface. -/
  silent : published.emitted = [] →
    published.state.defaultInterface = none ∧ published.state.noRoute = false
  changes : published.emitted.IsChain fun later earlier =>
    ¬SameInterface equals later earlier
  noRoute : published.state.noRoute = true → published.state.defaultInterface = none
  /-- Without an interface the callbacks were told so. -/
  route : published.state.noRoute = false → published.emitted ≠ [] →
    published.state.defaultInterface ≠ none

end Watch

/-! ## What a run does -/

section Cases

variable {Environment Interface : Type} {monitor : DefaultMonitor Environment Interface}
  {environment : Environment} {state : MonitorState Interface}

/-- The ways a run can end. -/
theorem postCheckFound_cases :
    postCheckFound monitor environment state = ⟨state, .failed, []⟩ ∨
      (∃ newInterface, state.defaultInterface.any (monitor.equals · newInterface) = true ∧
        postCheckFound monitor environment state =
          ⟨{ state with
              defaultInterface := some newInterface, noRoute := false },
            .done, []⟩) ∨
      (∃ newInterface, state.defaultInterface.any (monitor.equals · newInterface) = false ∧
        postCheckFound monitor environment state =
          ⟨{ state with
              defaultInterface := some newInterface, noRoute := false },
            .done, [⟨some newInterface, 0⟩]⟩) ∨
      (state.noRoute = true ∧ postCheckFound monitor environment state = ⟨state, .noRoute, []⟩) ∨
      (state.noRoute = false ∧ postCheckFound monitor environment state =
          ⟨{ state with noRoute := true, defaultInterface := none }, .noRoute, [⟨none, 0⟩]⟩) := by
  unfold postCheckFound
  split
  · exact .inl rfl
  cases monitor.find environment with
  | interface newInterface =>
    cases same : state.defaultInterface.any (monitor.equals · newInterface) with
    | true =>
      refine .inr (.inl ⟨newInterface, same, ?_⟩)
      unfold checkFound publish
      dsimp only
      rw [if_pos same]
      rfl
    | false =>
      refine .inr (.inr (.inl ⟨newInterface, same, ?_⟩))
      unfold checkFound publish
      dsimp only
      rw [if_neg (by rw [same]; decide)]
      rfl
  | noRoute =>
    cases known : state.noRoute with
    | true =>
      refine .inr (.inr (.inr (.inl ⟨rfl, ?_⟩)))
      unfold conclude checkFound
      rw [if_pos known]
    | false =>
      refine .inr (.inr (.inr (.inr ⟨rfl, ?_⟩)))
      unfold conclude checkFound
      rw [if_neg (by rw [known]; decide)]
      rfl
  | failed => exact .inl rfl

variable {published : Published Interface}

theorem next_eq {state' : MonitorState Interface} {outcome : Outcome}
    {callbacks : List (Callback Interface)}
    (ran : postCheckFound monitor environment published.state = ⟨state', outcome, callbacks⟩) :
    published.next monitor environment =
      ⟨state', callbacks.reverse.map Callback.defaultInterface ++ published.emitted⟩ := by
  unfold Published.next
  rw [ran]

variable (equivalence : Equivalence fun left right =>
  monitor.equals left right = true)

include equivalence

/-- The stored interface is replaced by one that is equal to it. -/
theorem Informed.kept {newInterface : Interface}
    (informed : Informed monitor.equals published)
    (same : published.state.defaultInterface.any (monitor.equals · newInterface) = true) :
    Informed monitor.equals
      ⟨{ published.state with
          defaultInterface := some newInterface, noRoute := false },
        published.emitted⟩ := by
  obtain ⟨oldInterface, stored, equal⟩ : ∃ oldInterface,
      published.state.defaultInterface = some oldInterface ∧
        monitor.equals oldInterface newInterface = true := by
    cases stored : published.state.defaultInterface with
    | none =>
      rw [stored] at same
      cases same
    | some oldInterface =>
      rw [stored] at same
      exact ⟨oldInterface, rfl, same⟩
  constructor
  case last =>
    intro last earlier emitted
    have known := informed.last last earlier emitted
    rw [stored] at known
    cases known with
    | some known => exact .some (equivalence.trans known equal)
  case silent =>
    intro absent
    rw [(informed.silent absent).1] at stored
    cases stored
  case changes => exact informed.changes
  case noRoute => exact nofun
  case route => exact fun _ _ => Option.some_ne_none newInterface

/-- Another interface is emitted. -/
theorem Informed.changed {newInterface : Interface} (informed : Informed monitor.equals published)
    (other : published.state.defaultInterface.any (monitor.equals · newInterface) = false) :
    Informed monitor.equals
      ⟨{ published.state with
          defaultInterface := some newInterface, noRoute := false },
        some newInterface :: published.emitted⟩ := by
  constructor
  case last =>
    intro last earlier emitted
    obtain ⟨rfl, -⟩ := List.cons.inj emitted
    exact .some (equivalence.refl newInterface)
  case silent => exact nofun
  case changes =>
    cases emitted : published.emitted with
    | nil => exact .singleton _
    | cons last earlier =>
      refine .cons_cons ?_ (emitted ▸ informed.changes)
      intro same
      have known := informed.last last earlier emitted
      cases same with
      | some same =>
        cases stored : published.state.defaultInterface with
        | none =>
          rw [stored] at known
          cases known
        | some oldInterface =>
          rw [stored] at known other
          cases known with
          | some known =>
            have equal := equivalence.symm (equivalence.trans same known)
            exact Bool.false_ne_true (other.symm.trans equal)
  case noRoute => exact nofun
  case route => exact fun _ _ => Option.some_ne_none newInterface

omit equivalence in
/-- The loss of the default route is emitted. -/
theorem Informed.lost (informed : Informed monitor.equals published)
    (routed : published.state.noRoute = false) :
    Informed monitor.equals
      ⟨{ published.state with noRoute := true, defaultInterface := none },
        none :: published.emitted⟩ := by
  constructor
  case last =>
    intro last earlier emitted
    obtain ⟨rfl, -⟩ := List.cons.inj emitted
    exact .none
  case silent => exact nofun
  case changes =>
    cases emitted : published.emitted with
    | nil => exact .singleton _
    | cons last earlier =>
      refine .cons_cons ?_ (emitted ▸ informed.changes)
      intro same
      cases same with
      | none =>
        -- The callbacks would know of it already.
        have known := informed.last none earlier emitted
        have stored := informed.route routed (by
          rw [emitted]
          exact List.cons_ne_nil _ _)
        cases absent : published.state.defaultInterface with
        | none => exact stored absent
        | some oldInterface =>
          rw [absent] at known
          cases known
  case noRoute => exact fun _ => rfl
  case route => exact nofun

theorem Informed.next (informed : Informed monitor.equals published) (environment : Environment) :
    Informed monitor.equals (published.next monitor environment) := by
  rcases @postCheckFound_cases _ _ monitor environment published.state with
    ran | ⟨newInterface, same, ran⟩ | ⟨newInterface, other, ran⟩ | ⟨-, ran⟩ | ⟨routed, ran⟩
  · rw [next_eq ran]
    exact informed
  · rw [next_eq ran]
    exact informed.kept equivalence same
  · rw [next_eq ran]
    exact informed.changed equivalence other
  · rw [next_eq ran]
    exact informed
  · rw [next_eq ran]
    exact informed.lost routed

/--
After every run the last emission is the default interface, no two emissions
in a row are the same, and without a route there is no default interface; a
run that fails emits nothing and changes nothing.
-/
theorem monitorRuns_informed (reachable : (monitorRuns monitor).Reachable published) :
    (∀ last earlier, published.emitted = last :: earlier →
        SameInterface monitor.equals last published.state.defaultInterface) ∧
      (published.emitted.IsChain fun later earlier =>
        ¬SameInterface monitor.equals later earlier) ∧
      (published.state.noRoute = true → published.state.defaultInterface = none) ∧
      ∀ environment, (postCheckFound monitor environment published.state).outcome = .failed →
          published.next monitor environment = published := by
  have informed : Informed monitor.equals published := by
    refine reachable.invariant ?_ ?_
    · rintro start rfl
      constructor
      case last => exact nofun
      case silent => exact fun _ => ⟨rfl, rfl⟩
      case changes => exact .nil
      case noRoute => exact fun _ => rfl
      case route => exact fun _ known => absurd rfl known
    · rintro before after informed ⟨environment, rfl⟩
      exact informed.next equivalence environment
  refine ⟨informed.last, informed.changes, informed.noRoute, ?_⟩
  intro environment failed
  rcases @postCheckFound_cases _ _ monitor environment published.state with
    ran | ⟨_, _, ran⟩ | ⟨_, _, ran⟩ | ⟨-, ran⟩ | ⟨_, ran⟩
  · exact next_eq ran
  · rw [ran] at failed
    cases failed
  · rw [ran] at failed
    cases failed
  · rw [ran] at failed
    cases failed
  · rw [ran] at failed
    cases failed

end Cases

/-! ## A run on Linux -/

section Sample

/-- A default route behind another one, or none. -/
def sampleEnvironment (routed : Bool) : LinuxEnvironment Nat where
  update := true
  routes := some (⟨true, 2⟩ :: if routed then [⟨false, 3⟩] else [])
  linkByIndex := some
  byIndex link := some link.toNat

/-- The route is found, and lost again. -/
def sampleRuns : Published Nat :=
  let start : Published Nat := ⟨⟨none, false, false⟩, []⟩
  (start.next (linuxMonitor (· == ·)) (sampleEnvironment true)).next
    (linuxMonitor (· == ·)) (sampleEnvironment false)

theorem monitorRuns_informed_sample :
    (monitorRuns (@linuxMonitor Nat (· == ·))).Reachable sampleRuns ∧
      sampleRuns.emitted = [none, some 3] ∧
      SameInterface (· == ·) none sampleRuns.state.defaultInterface := by
  have equivalence : Equivalence fun left right : Nat =>
      (left == right) = true := by
    refine ⟨beq_self_eq_true, ?_, ?_⟩
    · intro left right same
      exact beq_iff_eq.mpr (beq_iff_eq.mp same).symm
    · intro left middle right same same'
      exact beq_iff_eq.mpr ((beq_iff_eq.mp same).trans (beq_iff_eq.mp same'))
  have reachable : (monitorRuns (@linuxMonitor Nat (· == ·))).Reachable sampleRuns :=
    ⟨_, rfl, (Relation.ReflTransGen.refl.tail
      ⟨sampleEnvironment true, rfl⟩).tail ⟨sampleEnvironment false, rfl⟩⟩
  exact ⟨reachable, rfl, (monitorRuns_informed equivalence reachable).1 none [some 3] rfl⟩

end Sample

end SingTun.Monitor
