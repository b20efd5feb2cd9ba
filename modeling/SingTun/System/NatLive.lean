import SingTun.System.NatInvariant

/-!
# Ports that are returned are in use

`Lookup` finds a port in one critical section and refreshes its session in
later ones.  Between them the timeout loop may delete the session, and the
call returns a port that is nobody's or, after new calls, somebody else's.
Only this order goes wrong: while no deletion takes away what a caller has
found, every port that is returned is the port of its pair.
-/

namespace SingTun.System

open Foundation Option List

variable {α : Type} [DecidableEq α]

/-! ## What callers hold -/

/-- The pair that a caller has found and is about to return. -/
def Caller.holds : Caller α → Option (TCPNatKey α × UInt16)
  | .found key port => some (key, port)
  | .refreshing _ (.port key port) => some (key, port)
  | _ => none

/-- The loop is not about to delete what a caller holds. -/
def NatState.Spares (state : NatState α) : Prop :=
  ∀ now expired, state.checker = .scanned now expired →
    ∀ caller ∈ state.callers, ∀ key port, caller.holds = some (key, port) →
        ∀ session found, (port, session) ∈ expired → state.nat.sessions[session]? = some found →
            state.nat.timedOut now found = false

/-- The steps of the threads, with deletions that spare the callers. -/
structure SparingStep (state state' : NatState α) : Prop where
  step : NatStep state state'
  spares : state.checker ≠ .idle → state'.checker = .idle → state.Spares

/-- The runs without a deletion between the sections of a caller. -/
def sparingSystem (α : Type) [DecidableEq α] (timeout : Int) : TransitionSystem (NatState α) where
  initial state := state = ⟨newNat α timeout, [], .idle⟩
  step := SparingStep

/-- The caller returns a port with this step. -/
structure Returns
    (state state' : NatState α) (i : Nat) (key : TCPNatKey α) (port : UInt16) :
    Prop where
  running : state.callers[i]? ≠ some (.returned (.port key port))
  returned : state'.callers[i]? = some (.returned (.port key port))

/-! ## Steps -/

/-- What every caller holds is in the table. -/
def NatState.Held (state : NatState α) : Prop :=
  ∀ caller ∈ state.callers, ∀ key port, caller.holds = some (key, port) →
    state.nat.keyAt port = some key

section Callers

variable {nat : TCPNat α} {caller : Caller α} {key : TCPNatKey α}
variable {port : UInt16} {since now : Int}

/-- What a caller holds after a section it has found there or held before. -/
theorem Caller.holds_step (inv : nat.Inv)
    (held : ∀ key port, caller.holds = some (key, port) → nat.keyAt port = some key)
    (holds : (caller.step nat since now).2.holds = some (key, port)) :
    nat.keyAt port = some key := by
  cases caller with
  | lookup other =>
    rw [Caller.step] at holds
    split at holds
    · rename_i place found
      cases holds
      exact (inv.inverse key port).mp found
    · cases holds
  | found other place =>
    have same : ∀ pointer : Option Nat, (Caller.withSession pointer (.port other place)).holds =
          some (key, port) → (other, place) = (key, port) := by
      intro pointer holds
      cases pointer with
      | none => cases holds
      | some session => exact some.inj holds
    cases same _ holds
    exact held key port rfl
  | missed other =>
    rw [Caller.step] at holds
    split at holds <;> cases holds
  | lookupBack place =>
    change (Caller.withSession (nat.portMap.lookup place) _).holds = _ at holds
    cases pointer : nat.portMap.lookup place with
    | none =>
      rw [pointer] at holds
      cases holds
    | some session =>
      rw [pointer] at holds
      cases holds
  | refreshing session result => cases holds
  | returned result => cases holds

/-- A caller returns the port of its pair. -/
theorem Caller.step_returned (inv : nat.Inv)
    (held : ∀ key port, caller.holds = some (key, port) → nat.keyAt port = some key)
    (running : caller ≠ .returned (.port key port))
    (returned : (caller.step nat since now).2 = .returned (.port key port)) :
    (caller.step nat since now).1.keyAt port = some key := by
  have larger := caller.extends_step inv since now
  cases caller with
  | lookup other =>
    rw [Caller.step] at returned
    split at returned <;> cases returned
  | found other place =>
    apply larger.keyAt
    change Caller.withSession (nat.portMap.lookup place) _ = _ at returned
    cases pointer : nat.portMap.lookup place with
    | none =>
      rw [pointer] at returned
      cases returned
      exact held key port rfl
    | some session =>
      rw [pointer] at returned
      cases returned
  | missed other =>
    have kept := inv.insertLocked other since now
    have given := @TCPNat.Inv.insertLocked_ok α _ nat
    rw [Caller.step] at returned ⊢
    split at returned
    · rename_i place nat' inserted
      rw [inserted] at kept
      cases returned
      exact (kept.inverse key port).mp (given inv inserted)
    · cases returned
  | lookupBack place =>
    change Caller.withSession (nat.portMap.lookup place) _ = _ at returned
    cases pointer : nat.portMap.lookup place with
    | none =>
      rw [pointer] at returned
      cases returned
    | some session =>
      rw [pointer] at returned
      cases returned
  | refreshing session result =>
    cases returned
    exact larger.keyAt (held key port rfl)
  | returned result => exact absurd returned running

end Callers

/-! ## Runs -/

section Runs

variable {state state' : NatState α}

omit [DecidableEq α] in
/-- A caller after a step is the one that made it or was there before. -/
theorem getElem?_set_cases {callers : List (Caller α)} {i j : Nat} {old new caller : Caller α}
    (found : callers[i]? = some old)
    (listed : (callers.set i new)[j]? = some caller) :
    (j = i ∧ caller = new) ∨ (j ≠ i ∧ callers[j]? = some caller) := by
  by_cases same : j = i
  · subst same
    rw [List.getElem?_set_self (List.getElem?_eq_some_iff.mp found).1] at listed
    exact .inl ⟨rfl, (some.inj listed).symm⟩
  · rw [getElem?_set_ne (Ne.symm same)] at listed
    exact .inr ⟨same, listed⟩

/-- A deletion that spares the callers leaves their pairs in the table. -/
theorem NatState.Held.delete (inv : state.Inv)
    (held : state.Held) {now : Int}
    {expired : List (UInt16 × Nat)}
    (scanned : state.checker = .scanned now expired)
    (spares : state.Spares)
    {caller : Caller α} (member : caller ∈ state.callers) {key : TCPNatKey α} {port : UInt16}
    (holds : caller.holds = some (key, port)) :
    (state.nat.deleteExpired now expired).keyAt port = some key := by
  have listed := held caller member key port holds
  rw [TCPNat.keyAt_eq_bind, bind_eq_some_iff] at listed ⊢
  obtain ⟨session, pointer, key_eq⟩ := listed
  obtain ⟨found, known, -⟩ := map_eq_some_iff.mp key_eq
  refine ⟨session, ?_, ?_⟩
  · apply inv.nat.deleteExpired_keeps (inv.scanned now expired scanned) pointer known
    intro inside
    exact spares now expired scanned caller member key port holds session found inside known
  · rw [TCPNat.deleteExpired_sessions]
    exact key_eq

theorem NatState.Held.step (inv : state.Inv)
    (held : state.Held)
    (step : SparingStep state state') :
    state'.Held := by
  obtain ⟨step, spares⟩ := step
  cases step with
  | call caller starts =>
    intro other member key port holds
    rcases mem_append.mp member with before | new
    · exact held other before key port holds
    · rw [mem_singleton.mp new] at holds
      cases caller with
      | lookup | lookupBack => cases holds
      | found | missed | refreshing | returned => cases starts
  | caller i caller since now found =>
    intro other member key port holds
    have larger := caller.extends_step inv.nat since now
    have own := held caller (mem_of_getElem? found)
    apply larger.keyAt
    obtain ⟨j, listed⟩ := mem_iff_getElem?.mp member
    rcases getElem?_set_cases found listed with ⟨-, rfl⟩ | ⟨-, before⟩
    · exact caller.holds_step inv.nat own holds
    · exact held other (mem_of_getElem? before) key port holds
  | scan now expired idle visited => exact held
  | delete now expired scanned =>
    have sparing := spares (by rw [scanned]; exact nofun) rfl
    intro caller member key port holds
    exact held.delete inv scanned sparing member holds

theorem sparingSystem_held {timeout : Int} (reachable : (sparingSystem α timeout).Reachable state) :
    state.Inv ∧ state.Held := by
  refine @TransitionSystem.Reachable.invariant _ _ state
    (fun state => state.Inv ∧ state.Held) ?_ ?_ reachable
  · rintro state rfl
    exact ⟨⟨TCPNat.newNat_inv timeout, nofun⟩, nofun⟩
  · intro state state' inv step
    exact ⟨inv.1.step step.step, inv.2.step inv.1 step⟩

end Runs

/--
In every run whose deletions spare what callers hold, a port that `Lookup`
returns is at that step the port of a session of its pair.
-/
theorem lookup_returns_live (timeout : Int) (state state' : NatState α)
    (reachable : (sparingSystem α timeout).Reachable state)
    (step : SparingStep state state') (i : Nat) (source destination : α) (port : UInt16)
    (returns : Returns state state' i ⟨source, destination⟩ port) :
    ∃ session, state'.nat.sessionAt port = some session ∧
      session.source = source ∧ session.destination = destination := by
  obtain ⟨inv, held⟩ := sparingSystem_held reachable
  have live : state'.nat.keyAt port = some ⟨source, destination⟩ := by
    obtain ⟨running, returned⟩ := returns
    obtain ⟨step, -⟩ := step
    cases step with
    | call caller starts =>
      by_cases before : i < state.callers.length
      · rw [getElem?_append_left before] at returned
        exact absurd returned running
      · -- A new call has not returned.
        rw [getElem?_append_right (Nat.le_of_not_lt before)] at returned
        rw [← mem_singleton.mp (mem_of_getElem? returned)] at starts
        cases starts
    | caller j caller since now found =>
      rcases getElem?_set_cases found returned with ⟨rfl, own⟩ | ⟨-, before⟩
      · have own' := held caller (mem_of_getElem? found)
        refine caller.step_returned inv.nat own' ?_ own.symm
        rintro rfl
        exact running found
      · exact absurd before running
    | scan | delete => exact absurd returned running
  rw [TCPNat.keyAt, map_eq_some_iff] at live
  obtain ⟨session, found, key_eq⟩ := live
  injection key_eq with source_eq destination_eq
  exact ⟨session, found, source_eq, destination_eq⟩

/-! ## Deletions that take away what a caller holds -/

/-- The loop is about to delete the session of the port that a caller has found
and not returned yet. -/
structure NatState.Takes (state : NatState α) (now : Int) (expired : List (UInt16 × Nat))
    (i : Nat) (caller : Caller α) (key : TCPNatKey α) (port : UInt16) : Prop where
  scanned : state.checker = .scanned now expired
  listed : state.callers[i]? = some caller
  holds : caller.holds = some (key, port)
  timedOut : ∃ session found, (port, session) ∈ expired ∧
    state.nat.sessions[session]? = some found ∧ state.nat.timedOut now found = true

/-- The state after the deletion of `checkTimeout`. -/
def NatState.deleted (state : NatState α) (now : Int) (expired : List (UInt16 × Nat)) :
    NatState α :=
  { state with
    nat := state.nat.deleteExpired now expired
    checker := .idle }

/-- The state after a section of a caller. -/
def NatState.advanced (state : NatState α) (i : Nat) (caller : Caller α) (since now : Int) :
    NatState α :=
  { state with
    nat := (caller.step state.nat since now).1
    callers := state.callers.set i (caller.step state.nat since now).2 }

/-- Without a session of its port, a caller returns what it holds. -/
theorem Caller.step_of_removed {nat : TCPNat α} {caller : Caller α} {key : TCPNatKey α}
    {port : UInt16} (holds : caller.holds = some (key, port))
    (removed : nat.portMap.lookup port = none) (since now : Int) :
    (caller.step nat since now).1.portMap = nat.portMap ∧
      (caller.step nat since now).2 = .returned (.port key port) := by
  cases caller with
  | found other place =>
    cases holds
    refine ⟨rfl, ?_⟩
    show Caller.withSession (nat.portMap.lookup port) _ = _
    rw [removed]
    rfl
  | refreshing pointer result =>
    cases result with
    | port => cases holds; exact ⟨rfl, rfl⟩
    | failed | session => cases holds
  | lookup | missed | lookupBack | returned => cases holds

/--
From every reachable state in which the loop is about to delete the session of
the port that a caller holds, the deletion and then the next section of that
caller are steps, and with the latter the caller returns the port, which has no
session any more.
-/
theorem unsparing_returns_dead {timeout : Int} {state : NatState α}
    (reachable : (natSystem α timeout).Reachable state)
    {now : Int} {expired : List (UInt16 × Nat)}
    {i : Nat} {caller : Caller α} {key : TCPNatKey α} {port : UInt16}
    (takes : state.Takes now expired i caller key port)
    (since later : Int) :
    ∃ deleted state', deleted = state.deleted now expired ∧
      state' = deleted.advanced i caller since later ∧
      NatStep state deleted ∧ NatStep deleted state' ∧
      Returns deleted state' i key port ∧ port ∉ state'.nat.portMap := by
  have inv := natSystem_inv reachable
  obtain ⟨session, found, inside, known, late⟩ := takes.timedOut
  have removed : (state.deleted now expired).nat.portMap.lookup port = none :=
    inv.nat.deleteExpired_removes (inv.scanned now expired takes.scanned) inside known late
  obtain ⟨same, returned⟩ := Caller.step_of_removed takes.holds removed since later
  have inRange := (List.getElem?_eq_some_iff.mp takes.listed).1
  refine ⟨_, _, rfl, rfl, .delete state now expired takes.scanned,
    .caller _ i caller since later takes.listed, ⟨?_, ?_⟩, ?_⟩
  · show state.callers[i]? ≠ _
    rw [takes.listed]
    rintro ⟨⟩
    cases takes.holds
  · show (state.callers.set i _)[i]? = _
    rw [getElem?_set_self inRange]
    exact congrArg some returned
  · show port ∉ (caller.step _ since later).1.portMap
    rw [same]
    exact AList.lookup_eq_none.mp removed

section Samples

/-- A second `Lookup` of one pair finds its port.  The deletion between its
sections takes away the session of another pair. -/
theorem lookup_returns_live_first :
    ∃ state state' : NatState Nat,
      (sparingSystem Nat 5).Reachable state ∧ SparingStep state state' ∧
        Returns state state' 2 ⟨3, 4⟩ 10001 ∧ ∃ session, state'.nat.sessionAt 10001 = some session ∧
          session.source = 3 ∧ session.destination = 4 := by
  have idle : ∀ {state state' : NatState Nat}, NatStep state state' →
      state.checker = .idle → SparingStep state state' :=
    fun step idle => ⟨step, fun busy _ => absurd idle busy⟩
  have first : (sparingSystem Nat 5).Steps ⟨newNat Nat 5, [], .idle⟩ _ :=
    ((Relation.ReflTransGen.single (idle (.call _ (.lookup ⟨1, 2⟩) trivial) rfl)).tail
      (idle (.caller _ 0 (.lookup ⟨1, 2⟩) 0 7 rfl) rfl)).tail
      (idle (.caller _ 0 (.missed ⟨1, 2⟩) 0 7 rfl) rfl)
  have second := ((first.tail (idle (.call _ (.lookup ⟨3, 4⟩) trivial) rfl)).tail
    (idle (.caller _ 1 (.lookup ⟨3, 4⟩) 19 19 rfl) rfl)).tail
    (idle (.caller _ 1 (.missed ⟨3, 4⟩) 19 19 rfl) rfl)
  have probed := ((second.tail (idle (.call _ (.lookup ⟨3, 4⟩) trivial) rfl)).tail
    (idle (.caller _ 2 (.lookup ⟨3, 4⟩) 20 20 rfl) rfl)).tail
    (idle (.scan _ 20 [(10000, 0)] rfl (.of_eq (by decide))) rfl)
  -- The only port that is held is not the one that is deleted.
  have spares : ∀ state : NatState Nat, state.checker = .scanned 20 [(10000, 0)] →
      (∀ caller ∈ state.callers, caller.holds.all (·.2 == 10001) = true) → state.Spares := by
    intro state scanned held now expired same caller member key port holds session found inside
    rw [scanned] at same
    cases same
    have other := held caller member
    rw [holds] at other
    cases mem_singleton.mp inside
    cases other
  have deleted := probed.tail ⟨.delete _ 20 [(10000, 0)] rfl,
    fun _ _ => spares _ rfl (by decide)⟩
  have reachable : (sparingSystem Nat 5).Reachable _ := ⟨⟨newNat Nat 5, [], .idle⟩, rfl,
    deleted.tail (idle (.caller _ 2 (.found ⟨3, 4⟩ 10001) 20 20 rfl) rfl)⟩
  refine ⟨_, _, reachable, idle (.caller _ 2 (.refreshing 1 (.port ⟨3, 4⟩ 10001)) 20 20 rfl) rfl,
    ⟨by decide, by decide⟩, ?_⟩
  exact lookup_returns_live 5 _ _ reachable
    (idle (.caller _ 2 (.refreshing 1 (.port ⟨3, 4⟩ 10001)) 20 20 rfl) rfl) 2 3 4 10001
    ⟨by decide, by decide⟩

/-- The session is deleted between the sections of the second `Lookup`. -/
theorem lookup_returns_dead :
    ∃ state state' : NatState Nat,
      (natSystem Nat 5).Reachable state ∧ NatStep state state' ∧
        Returns state state' 1 ⟨1, 2⟩ 10000 ∧ state'.nat.sessionAt 10000 = none := by
  have created : (natSystem Nat 5).Steps ⟨newNat Nat 5, [], .idle⟩ _ :=
    ((Relation.ReflTransGen.single (.call _ (.lookup ⟨1, 2⟩) trivial)).tail
      (.caller _ 0 (.lookup ⟨1, 2⟩) 0 7 rfl)).tail (.caller _ 0 (.missed ⟨1, 2⟩) 0 7 rfl)
  have probed := (created.tail (.call _ (.lookup ⟨1, 2⟩) trivial)).tail
    (.caller _ 1 (.lookup ⟨1, 2⟩) 20 20 rfl)
  have deleted := (probed.tail (.scan _ 20 [(10000, 0)] rfl (.of_eq (by decide)))).tail
      (.delete _ 20 [(10000, 0)] rfl)
  refine ⟨_, _, ⟨⟨newNat Nat 5, [], .idle⟩, rfl, deleted⟩,
    .caller _ 1 (.found ⟨1, 2⟩ 10000) 20 20 rfl, ⟨by decide, by decide⟩, by decide⟩

/-- The loop is about to delete what the second `Lookup` found. -/
theorem unsparing_returns_dead_second :
    ∃ state : NatState Nat,
      (natSystem Nat 5).Reachable state ∧
        state.Takes 20 [(10000, 0)] 1 (.found ⟨1, 2⟩ 10000) ⟨1, 2⟩ 10000 ∧
        ∃ deleted state', deleted = state.deleted 20 [(10000, 0)] ∧
          state' = deleted.advanced 1 (.found ⟨1, 2⟩ 10000) 20 20 ∧
          NatStep state deleted ∧ NatStep deleted state' ∧
          Returns deleted state' 1 ⟨1, 2⟩ 10000 ∧ 10000 ∉ state'.nat.portMap := by
  have created : (natSystem Nat 5).Steps ⟨newNat Nat 5, [], .idle⟩ _ :=
    ((Relation.ReflTransGen.single (.call _ (.lookup ⟨1, 2⟩) trivial)).tail
      (.caller _ 0 (.lookup ⟨1, 2⟩) 0 7 rfl)).tail (.caller _ 0 (.missed ⟨1, 2⟩) 0 7 rfl)
  have scanned := ((created.tail (.call _ (.lookup ⟨1, 2⟩) trivial)).tail
    (.caller _ 1 (.lookup ⟨1, 2⟩) 20 20 rfl)).tail
      (.scan _ 20 [(10000, 0)] rfl (.of_eq (by decide)))
  have reachable : (natSystem Nat 5).Reachable _ := ⟨_, rfl, scanned⟩
  refine ⟨_, reachable, ?takes, unsparing_returns_dead reachable ?takes 20 20⟩
  exact ⟨rfl, rfl, rfl, 0, _, mem_cons_self, rfl, by decide⟩

end Samples

end SingTun.System
