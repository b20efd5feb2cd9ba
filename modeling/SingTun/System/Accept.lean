import SingTun.System.NatInvariant

/-!
# Accepted connections

`System.acceptLoop` accepts the connections that the stack has sent to its
listener and looks the session of each of them up by its port.  `loopIn` of
`redirectServer` accepts those that the firewall has redirected and asks the
system for their destinations.  A connection is lost if nothing closes it and
no handler has it.  `loopIn` runs until its listener is closed, which `Close`
does, or the loop itself after an error.
-/

namespace SingTun.System

open Foundation

/-- What has become of a connection. -/
inductive ConnFate
  /-- It is open, and only its finalizer knows it. -/
  | dropped
  /-- `NewConnection` has it. -/
  | handled
  | closed
deriving DecidableEq

/-- `NewConnection` returns. -/
def ConnFate.returned (next : ConnFate) : ConnFate → ConnFate
  | .handled => next
  | fate => fate

/-! ## The loop of the stack -/

structure AcceptState (α : Type) where
  nat : TCPNat α
  /-- What `checkTimeout` is about to delete. -/
  scanned : Option (Int × List (UInt16 × Nat))
  running : Bool
  conns : List ConnFate

inductive AcceptEvent (α : Type)
  | lookup (source destination : α) (since now : Int)
  /-- The first section of `checkTimeout`. -/
  | scan (now : Int) (expired : List (UInt16 × Nat))
  /-- The second section of `checkTimeout`. -/
  | delete
  /-- A round of the loop, for a connection from a port. -/
  | accept (connPort : UInt16) (since now : Int)
  | acceptError
  | returned (conn : Nat)

section System

variable {α : Type} [DecidableEq α]

def AcceptState.step (state : AcceptState α) : AcceptEvent α → AcceptState α
  | .lookup source destination since now =>
    { state with nat := (state.nat.lookup source destination since now).2 }
  | .scan now expired =>
    if state.scanned = none ∧ expired.Perm (state.nat.scan now) then
      { state with scanned := some (now, expired) }
    else state
  | .delete =>
    match state.scanned with
    | some (now, expired) =>
      { state with nat := state.nat.deleteExpired now expired, scanned := none }
    | none => state
  | .accept connPort since now =>
    if state.running then
      match state.nat.lookupBack connPort since now with
      -- The branch goes on without closing the connection.
      | (none, nat) =>
        { state with nat := nat, conns := state.conns ++ [.dropped] }
      | (some _, nat) =>
        { state with nat := nat, conns := state.conns ++ [.handled] }
    else state
  | .acceptError => { state with running := false }
  | .returned conn =>
    { state with conns := state.conns.modify conn (.returned .closed) }

/-- `acceptLoop`, with the other calls on its table. -/
def acceptLoop (nat : TCPNat α) (events : List (AcceptEvent α)) : AcceptState α :=
  events.foldl AcceptState.step ⟨nat, none, true, []⟩

end System

/-! ## The loop of the redirect server -/

structure LoopInState where
  inShutdown : Bool
  running : Bool
  conns : List ConnFate

inductive LoopInEvent (α : Type)
  /-- A round of the loop, with what `GetOriginalDestination` has found. -/
  | accept (destination : Option α)
  | acceptError (temporary closed : Bool)
  | shutdown
  /-- `NewConnection` returns, and has or has not closed its connection. -/
  | returned (conn : Nat) (closed : Bool)

def LoopInState.step {α : Type} (state : LoopInState) : LoopInEvent α → LoopInState
  | .accept destination =>
    if state.running then
      { state with
        conns := state.conns ++ [if destination.isSome then .handled else .closed] }
    else state
  | .acceptError temporary closed =>
    if temporary then state
    else if state.inShutdown && closed then { state with running := false }
    else state
  | .shutdown => { state with inShutdown := true }
  | .returned conn closed =>
    { state with
      conns := state.conns.modify conn (.returned (if closed then .closed else .dropped)) }

def loopIn {α : Type} (events : List (LoopInEvent α)) : LoopInState :=
  events.foldl LoopInState.step ⟨false, true, []⟩

/-! ## Lost connections -/

section Lost

variable {α : Type}

theorem dropped_mem_modify (conns : List ConnFate) (k : Nat) (next : ConnFate) :
    .dropped ∈ conns.modify k (.returned next) ↔
      .dropped ∈ conns ∨ (next = .dropped ∧ conns[k]? = some .handled) := by
  induction conns generalizing k with
  | nil => simp
  | cons fate rest ih =>
    cases k with
    | zero => cases fate <;> simp [ConnFate.returned, eq_comm, or_comm]
    | succ k => simp [ih, or_assoc]

theorem AcceptState.dropped_step [DecidableEq α] (state : AcceptState α) (event : AcceptEvent α) :
    .dropped ∈ (state.step event).conns ↔ .dropped ∈ state.conns ∨
      ∃ connPort since now, event = .accept connPort since now ∧
        state.running = true ∧ state.nat.sessionAt connPort = none := by
  cases event with
  | accept connPort since now =>
    have same : (state.nat.lookupBack connPort since now).1 = none ↔
        state.nat.sessionAt connPort = none := by
      have keys := TCPNat.keyAt_refresh state.nat connPort connPort since now
      have missing := congrArg (· = none) keys
      simpa [TCPNat.keyAt, TCPNat.lookupBack] using missing
    cases running : state.running with
    | false => simp [AcceptState.step, running]
    | true =>
      rcases found : state.nat.lookupBack connPort since now with
        ⟨_ | session, nat⟩ <;> rw [found] at same <;>
        simp_all [AcceptState.step]
  | scan now expired =>
    simp only [AcceptState.step]
    split <;> simp
  | delete =>
    simp only [AcceptState.step]
    split <;> simp
  | returned conn => simp [AcceptState.step, dropped_mem_modify]
  | _ => simp [AcceptState.step]

theorem LoopInState.dropped_step (state : LoopInState) (event : LoopInEvent α) :
    .dropped ∈ (state.step event).conns ↔ .dropped ∈ state.conns ∨
      ∃ conn, event = .returned conn false ∧ state.conns[conn]? = some .handled := by
  cases event with
  | accept destination =>
    cases running : state.running <;> cases destination <;> simp [LoopInState.step, running]
  | acceptError temporary closed =>
    simp only [LoopInState.step]
    split
    · simp
    · split <;> simp
  | shutdown => simp [LoopInState.step]
  | returned conn closed =>
    cases closed <;> simp [LoopInState.step, dropped_mem_modify]

/--
The loop of the stack loses the connections whose sessions have been removed,
and that of the redirect server those that its handler leaves open.
-/
theorem conns_kept_iff [DecidableEq α] (nat : TCPNat α) :
    (∀ events, .dropped ∉ (acceptLoop nat events).conns ↔ ∀ before connPort since now after,
        events = before ++ .accept connPort since now :: after →
        (acceptLoop nat before).running = true →
          (acceptLoop nat before).nat.sessionAt connPort ≠ none) ∧
    ∀ events : List (LoopInEvent α), .dropped ∉ (loopIn events).conns ↔
      ∀ before conn after, events = before ++ .returned conn false :: after →
        (loopIn before).conns[conn]? ≠ some .handled := by
  constructor
  · intro events
    have run := @foldl_iff_of_step _ _ AcceptState.step
      (fun state => .dropped ∈ state.conns) _ AcceptState.dropped_step events ⟨nat, none, true, []⟩
    rw [acceptLoop, run]
    constructor
    · intro kept before connPort since now after split running missing
      exact kept (.inr ⟨before, _, after, split, connPort, since, now, rfl, running, missing⟩)
    · rintro known (impossible |
        ⟨before, _, after, split, connPort, since, now, rfl, running, missing⟩)
      · cases impossible
      · exact known before connPort since now after split running missing
  · intro events
    have run := @foldl_iff_of_step _ _ LoopInState.step
      (fun state => .dropped ∈ state.conns) _ LoopInState.dropped_step events ⟨false, true, []⟩
    rw [loopIn, run]
    constructor
    · intro kept before conn after split handled
      exact kept (.inr ⟨before, _, after, split, conn, rfl, handled⟩)
    · rintro closed (impossible | ⟨before, _, after, split, conn, rfl, handled⟩)
      · cases impossible
      · exact closed before conn after split handled

/-- A session times out before its connection is accepted; and a handler
returns with an error. -/
theorem conns_lost :
    (acceptLoop (newNat Nat 300) [.lookup 1 2 0 0, .scan 301 [(10000, 0)],
        .delete, .accept 10000 302 302]).conns = [.dropped] ∧
      (loopIn [.accept (some 2), .returned 0 false]).conns = [.dropped] := by
  decide

end Lost

/-! ## The end of the redirect server -/

/-- What `AcceptTCP` returns. -/
inductive AcceptResult (α : Type)
  | conn (destination : Option α)
  | error (temporary closed : Bool)
deriving DecidableEq

/-- The round of the loop for it. -/
def AcceptResult.round {α : Type} : AcceptResult α → LoopInEvent α
  | .conn destination => .accept destination
  | .error temporary closed => .acceptError temporary closed

/-- The round closes the listener. -/
def AcceptResult.closes {α : Type} (inShutdown : Bool) : AcceptResult α → Bool
  | .conn _ => false
  | .error temporary closed => !temporary && !(inShutdown && closed)

/-- The loop with its listener. -/
structure ServerState extends LoopInState where
  /-- `AcceptTCP` has not returned. -/
  calling : Bool
  listenerClosed : Bool
  /-- How often `AcceptTCP` was called on the closed listener. -/
  lateCalls : Nat
  running_of_calling : calling = true → running = true
  closed_of_late : 0 < lateCalls → listenerClosed = true

inductive ServerEvent (α : Type)
  | call
  | result (result : AcceptResult α)
  /-- The two statements of `Close`. -/
  | shutdown
  | closeListener

section Server

variable {α : Type} [DecidableEq α]

/-- Nothing but an error comes from a listener that was closed before the
call. -/
def ServerState.step (state : ServerState) : ServerEvent α → ServerState
  | .call =>
    if running : state.running = true ∧ state.calling = false then
      { state with
        calling := true
        lateCalls := state.lateCalls + state.listenerClosed.toNat
        running_of_calling := fun _ => running.1
        closed_of_late := by
          have late := state.closed_of_late
          cases closed : state.listenerClosed <;> simp_all }
    else state
  | .result result =>
    if state.calling = true ∧ (state.lateCalls = 0 ∨ result = .error false true) then
      { state.toLoopInState.step result.round with
        calling := false
        listenerClosed := state.listenerClosed || result.closes state.inShutdown
        lateCalls := state.lateCalls
        running_of_calling := nofun
        closed_of_late := fun late => by simp [state.closed_of_late late] }
    else state
  | .shutdown => { state with inShutdown := true }
  | .closeListener =>
    { state with listenerClosed := true, closed_of_late := fun _ => rfl }

/-- `Start`, and what happens then. -/
def redirectServer (events : List (ServerEvent α)) : ServerState :=
  events.foldl ServerState.step ⟨⟨false, true, []⟩, false, false, 0, nofun, nofun⟩

/-- `AcceptTCP` is called once at most on the closed listener, and the loop
has returned when that call has. -/
def ServerState.Returns (state : ServerState) : Prop :=
  state.lateCalls = 0 ∨ state.lateCalls = 1 ∧ (state.calling = true ∨ state.running = false)

instance (state : ServerState) : Decidable state.Returns :=
  inferInstanceAs (Decidable (_ ∨ _))

theorem ServerState.returns_step (state : ServerState) (event : ServerEvent α) :
    ¬(state.step event).Returns ↔ ¬state.Returns ∨
      event = .result (.error false true) ∧ state.calling = true ∧
        state.lateCalls = 1 ∧ state.inShutdown = false := by
  have running := state.running_of_calling
  have late := state.closed_of_late
  cases event with
  | call =>
    by_cases calls : state.running = true ∧ state.calling = false
    · cases closed : state.listenerClosed <;> simp_all [ServerState.step, Returns]
    · simp [ServerState.step, calls]
  | result result =>
    by_cases returned : state.calling = true ∧ (state.lateCalls = 0 ∨ result = .error false true)
    · rcases returned with ⟨calling, early | rfl⟩
      · simp [ServerState.step, Returns, calling, early]
      · cases shutdown : state.inShutdown <;>
          simp_all [ServerState.step, Returns, LoopInState.step, AcceptResult.round]
        omega
    · rw [ServerState.step, if_neg returned, or_iff_left]
      rintro ⟨same, calling, -⟩
      cases same
      exact returned ⟨calling, .inr rfl⟩
  | shutdown => simp [ServerState.step, Returns]
  | closeListener => simp [ServerState.step, Returns]

/-- The loop returns unless its only call on the closed listener comes back
before `Close` has set the flag. -/
theorem redirectServer_returns_iff (events : List (ServerEvent α)) :
    (redirectServer events).Returns ↔ ∀ before after,
        events = before ++ .result (.error false true) :: after →
        (redirectServer before).calling = true → (redirectServer before).lateCalls = 1 →
          (redirectServer before).inShutdown = true := by
  have run := @foldl_iff_of_step _ _ ServerState.step
    (fun state => ¬state.Returns) _ ServerState.returns_step events
    ⟨⟨false, true, []⟩, false, false, 0, nofun, nofun⟩
  rw [← not_iff_not, redirectServer, run]
  constructor
  · rintro (impossible | ⟨before, _, after, split, rfl, calling, late, flag⟩)
    · exact absurd (.inl rfl) impossible
    · intro set
      exact Bool.false_ne_true (flag.symm.trans (set before after split calling late))
  · intro unset
    simp only [not_forall, Bool.not_eq_true] at unset
    obtain ⟨before, after, split, calling, late, flag⟩ := unset
    exact .inr ⟨before, _, after, split, rfl, calling, late, flag⟩

/-- The listener fails, and the loop closes it; `AcceptTCP` is called again
and again. -/
theorem redirectServer_spins :
    ¬(redirectServer [.call, .result (.error false false : AcceptResult Nat),
          .call, .result (.error false true)]).Returns ∧ (redirectServer
        (.call :: .result (.error false false : AcceptResult Nat) ::
          (List.replicate 3 [.call, .result (.error false true)]).flatten) ).lateCalls = 3 := by
  decide

end Server

end SingTun.System
