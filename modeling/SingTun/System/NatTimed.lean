import SingTun.System.NatInvariant

/-!
# Sessions in use are not deleted

The threads of the port translation with a clock that does not go back.  A
critical section runs at some time, and what it reads from the clock comes
then or later.  A record of its own says when each session was created or
refreshed last.

A refresh leaves a session alone that was active within the last second, so
`lastActive` may be one second behind the record, but never more.  The timeout
loop compares it with the time of its own start, and does so again when it
deletes, so that a refresh between its two sections counts too.
-/

namespace SingTun.System

open Foundation Function

variable {α : Type} [DecidableEq α]

/-! ## Differences of times -/

/-- A difference that is over a second is not a limit of a duration. -/
theorem timeSub_gt_second_iff (time other : Int) :
    timeSub time other > second ↔ time - other > second := by
  have low : minDuration ≤ second := by decide
  have high : second < maxDuration := by decide
  unfold timeSub
  omega

/-! ## The threads with a clock -/

/-- The session that a section of a caller creates or refreshes. -/
def Caller.touches (nat : TCPNat α) : Caller α → Option Nat
  | .missed key =>
    match nat.addrMap.lookup key with
    | some port => nat.portMap.lookup port
    | none => nat.allocatePortLocked.1.map fun _ => nat.sessions.length
  | .refreshing session _ => some session
  | _ => none

structure TimedState (α : Type) where
  threads : NatState α
  clock : Int
  /-- When a session was created or refreshed last. -/
  touched : Nat → Int

/-- The record after a section that ran at `time`. -/
def TimedState.record (state : TimedState α) (caller : Caller α) (time : Int) : Nat → Int :=
  match caller.touches state.threads.nat with
  | none => state.touched
  | some session => update state.touched session time

/-- One critical section of one thread, at a time. -/
inductive TimedStep : TimedState α → TimedState α → Prop
  | call (state : TimedState α) (caller : Caller α) (time : Int)
      (starts : caller.Starts) (later : state.clock ≤ time) :
      TimedStep state
        { state with
          threads :=
            { state.threads with callers := state.threads.callers ++ [caller] }
          clock := time }
  | caller (state : TimedState α) (i : Nat) (caller : Caller α)
      (time since now : Int)
      (found : state.threads.callers[i]? = some caller)
      (later : state.clock ≤ time) (reads : time ≤ since)
      (readsAgain : since ≤ now) :
      TimedStep state
        { threads :=
            { state.threads with
              nat := (caller.step state.threads.nat since now).1
              callers := state.threads.callers.set i (caller.step state.threads.nat since now).2 }
          clock := now
          touched := state.record caller time }
  -- `checkTimeout` reads the clock before it waits for the lock.
  | scan (state : TimedState α) (now time : Int)
      (expired : List (UInt16 × Nat))
      (idle : state.threads.checker = .idle)
      (visited : expired.Perm (state.threads.nat.scan now))
      (later : state.clock ≤ time) (started : now ≤ time) :
      TimedStep state
        { state with
          threads :=
            { state.threads with
              checker := if expired = [] then .idle else .scanned now expired }
          clock := time }
  | delete (state : TimedState α) (now time : Int)
      (expired : List (UInt16 × Nat))
      (scanned : state.threads.checker = .scanned now expired)
      (later : state.clock ≤ time) :
      TimedStep state
        { state with
          threads :=
            { state.threads with
              nat := state.threads.nat.deleteExpired now expired
              checker := .idle }
          clock := time }

/-- The threads of `natSystem` with a clock. -/
def timedSystem (α : Type) [DecidableEq α] (timeout : Int) : TransitionSystem (TimedState α) where
  initial state := state.threads = ⟨newNat α timeout, [], .idle⟩
  step := TimedStep

/-- Without the clock these are the steps of the threads. -/
theorem TimedStep.natStep {state state' : TimedState α} (step : TimedStep state state') :
    NatStep state.threads state'.threads := by
  cases step with
  | call caller time starts later => exact .call _ caller starts
  | caller i caller time since now found =>
    exact .caller _ i caller since now found
  | scan now time expired idle visited =>
    exact .scan _ now expired idle visited
  | delete now time expired scanned => exact .delete _ now expired scanned

theorem timedSystem_simulation (timeout : Int) :
    TransitionSystem.Simulation (timedSystem α timeout) (natSystem α timeout)
      fun timed state => state = timed.threads where
  start timed initial := ⟨timed.threads, initial, rfl⟩
  step timed timed' state related step := by
    obtain rfl := related
    exact ⟨timed'.threads, .single step.natStep, rfl⟩

theorem timedSystem_inv {timeout : Int} {state : TimedState α}
    (reachable : (timedSystem α timeout).Reachable state) :
    state.threads.Inv := by
  obtain ⟨threads, reached, rfl⟩ := (timedSystem_simulation timeout).reachable reachable
  exact natSystem_inv reached

/-! ## What the record says -/

section Record

variable {nat : TCPNat α} {touched : Nat → Int} {time since now : Int}

/-- No session is more than a second older than the record. -/
def TCPNat.Recent (nat : TCPNat α) (touched : Nat → Int) : Prop :=
  ∀ session found, nat.sessions[session]? = some found → touched session - second ≤ found.lastActive

omit [DecidableEq α] in
theorem TCPSession.refresh_recent
    (session : TCPSession α) (reads : time ≤ since)
    (readsAgain : since ≤ now) :
    time - second ≤ (session.refresh since now).lastActive := by
  have limit : 0 ≤ second := by decide
  unfold TCPSession.refresh
  split
  · show time - second ≤ now
    omega
  · rename_i recent
    rw [timeSub_gt_second_iff] at recent
    omega

omit [DecidableEq α] in
theorem TCPNat.Recent.refreshSession (recent : nat.Recent touched) (session : Nat)
    (reads : time ≤ since)
    (readsAgain : since ≤ now) :
    (nat.refreshSession session since now).Recent (update touched session time) := by
  intro other found known
  change (nat.sessions.modify session _)[other]? = some found at known
  rw [List.getElem?_modify] at known
  obtain ⟨before, listed, rfl⟩ := Option.map_eq_some_iff.mp known
  by_cases same : session = other
  · subst same
    rw [if_pos rfl, update_self]
    exact before.refresh_recent reads readsAgain
  · rw [if_neg same, update_of_ne (Ne.symm same)]
    exact recent other before listed

omit [DecidableEq α] in
/-- The record of a section that touches a session, if there is one. -/
theorem TCPNat.Recent.refresh (recent : nat.Recent touched) (port : UInt16)
    (reads : time ≤ since)
    (readsAgain : since ≤ now) :
    (nat.refresh port since now).Recent (match nat.portMap.lookup port with
      | none => touched
      | some session => update touched session time) := by
  unfold TCPNat.refresh
  cases nat.portMap.lookup port with
  | none => exact recent
  | some session => exact recent.refreshSession session reads readsAgain

omit [DecidableEq α] in
/-- A session that is created now is recent. -/
theorem TCPNat.Recent.append
    (recent : nat.Recent touched) {nat' : TCPNat α} {session : TCPSession α}
    (sessions : nat'.sessions = nat.sessions ++ [session])
    (created : time ≤ session.lastActive) :
    nat'.Recent (update touched nat.sessions.length time) := by
  intro other found known
  have limit : 0 ≤ second := by decide
  rw [sessions] at known
  rcases Nat.lt_trichotomy other nat.sessions.length with old | rfl | beyond
  · rw [List.getElem?_append_left old] at known
    rw [update_of_ne (Nat.ne_of_lt old)]
    exact recent other found known
  · rw [List.getElem?_concat_length] at known
    obtain rfl := Option.some.inj known
    rw [update_self]
    omega
  · rw [List.getElem?_eq_none (by
      rw [List.length_append, List.length_singleton]; omega)] at known
    cases known

/-- A section of a caller keeps the record. -/
theorem TimedState.recent_step
    (state : TimedState α) (recent : state.threads.nat.Recent state.touched)
    (caller : Caller α) (reads : time ≤ since)
    (readsAgain : since ≤ now) :
    (caller.step state.threads.nat since now).1.Recent (state.record caller time) := by
  unfold TimedState.record
  cases caller with
  | lookup key =>
    rw [Caller.step]
    split <;> exact recent
  | refreshing session result =>
    exact recent.refreshSession session reads readsAgain
  | found | lookupBack | returned => exact recent
  | missed key =>
    have inserted : (Caller.step state.threads.nat since now (.missed key)).1 =
      (state.threads.nat.insertLocked key since now).2 := by
      rw [Caller.step]
      split <;> simp only [*]
    rw [inserted]
    simp only [TCPNat.insertLocked, Caller.touches]
    cases state.threads.nat.addrMap.lookup key with
    | some port => exact recent.refresh port reads readsAgain
    | none =>
      have kept : state.threads.nat.allocatePortLocked.2.sessions =
        state.threads.nat.sessions := rfl
      generalize state.threads.nat.allocatePortLocked = allocated at kept ⊢
      obtain ⟨port, nat'⟩ := allocated
      cases port with
      | none =>
        intro session found known
        refine recent session found ?_
        rwa [← kept]
      | some port =>
        refine recent.append (congrArg (· ++ [_]) kept) ?_
        exact Int.le_trans reads readsAgain

end Record

/-! ## The timeout -/

section Timeout

variable {nat : TCPNat α}

theorem Caller.step_timeout (caller : Caller α) (since now : Int) :
    (caller.step nat since now).1.timeout = nat.timeout := by
  have refreshed : ∀ port, (nat.refresh port since now).timeout = nat.timeout := by
    intro port
    unfold TCPNat.refresh
    split <;> rfl
  have inserted : ∀ key, (nat.insertLocked key since now).2.timeout = nat.timeout := by
    intro key
    unfold TCPNat.insertLocked TCPNat.allocatePortLocked
    split
    · exact refreshed _
    · dsimp only
      generalize allocateLoop nat.portMap (65535 - 10000 + 1) nat.portIndex = allocated
      obtain ⟨_ | port, portIndex⟩ := allocated <;> rfl
  cases caller with
  | lookup key =>
    rw [Caller.step]
    split <;> rfl
  | missed key =>
    have kept := inserted key
    rw [Caller.step]
    generalize nat.insertLocked key since now = outcome at kept
    obtain ⟨_ | port, nat'⟩ := outcome <;> exact kept
  | found | lookupBack | refreshing | returned => rfl

/-- What holds of the record in every run. -/
structure TimedState.Inv (timeout : Int) (state : TimedState α) : Prop where
  timeout : state.threads.nat.timeout = timeout
  recent : state.threads.nat.Recent state.touched

theorem TimedState.Inv.step {timeout : Int} {state state' : TimedState α}
    (inv : state.Inv timeout)
    (step : TimedStep state state') :
    state'.Inv timeout := by
  cases step with
  | call | scan => exact ⟨inv.timeout, inv.recent⟩
  | caller i caller time since now found later reads readsAgain =>
    refine ⟨?_, state.recent_step inv.recent caller reads readsAgain⟩
    exact (caller.step_timeout since now).trans inv.timeout
  | delete now time expired scanned =>
    refine ⟨?_, ?_⟩
    · exact (TCPNat.deleteExpired_timeout _ now expired).trans inv.timeout
    · intro session found known
      rw [TCPNat.deleteExpired_sessions] at known
      exact inv.recent session found known

theorem timedSystem_recent {timeout : Int} {state : TimedState α}
    (reachable : (timedSystem α timeout).Reachable state) :
    state.Inv timeout := by
  refine TransitionSystem.Reachable.invariant ?_ ?_ reachable
  · intro state initial
    refine ⟨by rw [initial]; rfl, ?_⟩
    intro session found known
    rw [initial] at known
    cases known
  · intro state state' inv step
    exact inv.step step

end Timeout

/--
No step removes a session that was created or refreshed at a time from which
the timeout less a second has not passed when the check started.
-/
theorem recent_session_kept (timeout : Int) (duration : minDuration ≤ timeout)
    (state state' : TimedState α) (reachable : (timedSystem α timeout).Reachable state)
    (step : TimedStep state state') (port : UInt16) (session : Nat)
    (listed : state.threads.nat.portMap.lookup port = some session)
    (recent : ∀ now expired, state.threads.checker = .scanned now expired →
      now - state.touched session ≤ timeout - second) :
    state'.threads.nat.portMap.lookup port = some session ∧
      ∃ key, state.threads.nat.keyAt port = some key ∧ state'.threads.nat.keyAt port = some key ∧
        state'.threads.nat.addrMap.lookup key = some port := by
  have inv := timedSystem_inv reachable
  have inv' := inv.step step.natStep
  obtain ⟨found, pointer, keyAt_eq⟩ := inv.nat.exists_keyAt listed
  have kept : state'.threads.nat.portMap.lookup port = some session ∧
      state'.threads.nat.keyAt port = some found.key := by
    cases step with
    | call | scan => exact ⟨listed, keyAt_eq⟩
    | caller i caller time since now =>
      have larger := caller.extends_step inv.nat since now
      exact ⟨larger.portMap port session listed, larger.keyAt keyAt_eq⟩
    | delete now time expired scanned =>
      obtain ⟨timeout_eq, record⟩ := timedSystem_recent reachable
      have active : state.threads.nat.timedOut now found = false := by
        have known := record session found pointer
        have within := recent now expired scanned
        apply decide_eq_false
        apply Int.not_lt.mpr
        rw [timeout_eq, timeSub]
        omega
      have stays := inv.nat.deleteExpired_keeps
        (inv.scanned now expired scanned) listed pointer fun _ => active
      refine ⟨stays, ?_⟩
      rw [TCPNat.keyAt_eq_bind]
      rw [stays, TCPNat.deleteExpired_sessions, Option.bind_some, pointer]
      rfl
  exact ⟨kept.1, found.key, keyAt_eq, kept.2, (inv'.nat.inverse _ _).mpr kept.2⟩

/-- A new table, at time 0. -/
def newTimed (timeout : Int) : TimedState Nat :=
  ⟨⟨newNat Nat timeout, [], .idle⟩, 0, fun _ => 0⟩

/-- A session is refreshed between the two sections of a check that found it
expired. -/
theorem recent_session_kept_between :
    ∃ state state' : TimedState Nat,
      (timedSystem Nat 5000000000).Reachable state ∧ TimedStep state state' ∧
        state.threads.checker = .scanned 10000000000 [(10000, 0)] ∧ state'.threads.checker = .idle ∧
        state'.threads.nat.portMap.lookup 10000 = some 0 := by
  have created : (timedSystem Nat 5000000000).Steps (newTimed 5000000000) _ :=
    ((Relation.ReflTransGen.single (.call _ (.lookup ⟨1, 2⟩) 0 trivial (Int.le_refl 0))).tail
        (.caller _ 0 (.lookup ⟨1, 2⟩) 0 0 0 rfl (Int.le_refl 0)
          (Int.le_refl 0) (Int.le_refl 0))).tail
        (.caller _ 0 (.missed ⟨1, 2⟩) 0 0 0 rfl (Int.le_refl 0) (Int.le_refl 0) (Int.le_refl 0))
  have scanned := created.tail (.scan _ 10000000000 10000000000 [(10000, 0)] rfl
      (.of_eq (by decide)) (by decide) (Int.le_refl _))
  have refreshed := ((scanned.tail
    (.call _ (.lookupBack 10000) 10000000000 trivial (Int.le_refl _))).tail
      (.caller _ 1 (.lookupBack 10000) 10000000000 10000000000 10000000000 rfl
        (Int.le_refl _) (Int.le_refl _) (Int.le_refl _))).tail
      (.caller _ 1 (.refreshing 0 (.session 10000 (some 0))) 10000000000
        10000000000 10000000000 rfl (Int.le_refl _) (Int.le_refl _) (Int.le_refl _))
  have reachable : (timedSystem Nat 5000000000).Reachable _ := ⟨newTimed 5000000000, rfl, refreshed⟩
  refine ⟨_, _, reachable, .delete _ 10000000000 10000000000 [(10000, 0)] rfl
    (Int.le_refl _), rfl, rfl, ?_⟩
  refine (recent_session_kept 5000000000 (by decide) _ _ reachable
    (.delete _ 10000000000 10000000000 [(10000, 0)] rfl (Int.le_refl _)) 10000 0 (by decide) ?_).1
  rintro now expired ⟨⟩
  decide

end SingTun.System
