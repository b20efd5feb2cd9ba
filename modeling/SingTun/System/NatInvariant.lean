import SingTun.Foundation.InverseMaps
import SingTun.System.NatCalls

/-!
# The maps of the port translation are inverse

The abstract state of a `TCPNat` is a finite set of pairs of a key and a port,
which `addrMap` lists by key and `portMap`, through the sessions, by port.
The callers only add pairs that are new on both sides.  The timeout loop works
with what its scan has read, and this stays listed until the loop itself
deletes it.
-/

namespace SingTun.System

open Foundation List Function AList

variable {α : Type} [DecidableEq α]

/-- The key of the session of a port. -/
def TCPNat.keyAt (nat : TCPNat α) (port : UInt16) : Option (TCPNatKey α) :=
  (nat.sessionAt port).map TCPSession.key

/-- The representation invariant. -/
structure TCPNat.Inv (nat : TCPNat α) : Prop where
  inverse : InverseMaps (fun key => nat.addrMap.lookup key) nat.keyAt
  ports : ∀ port session, nat.portMap.lookup port = some session →
    10000 ≤ port.toNat ∧ session < nat.sessions.length
  portIndex : nat.portIndex = 0 ∨ 10000 ≤ nat.portIndex.toNat

/-- Every session of a table is also one of the later table. -/
structure TCPNat.Extends (nat nat' : TCPNat α) : Prop where
  portMap : ∀ port session, nat.portMap.lookup port = some session →
    nat'.portMap.lookup port = some session
  addrMap : ∀ key port, nat.addrMap.lookup key = some port → nat'.addrMap.lookup key = some port
  keys : ∀ (session : Nat) key, (nat.sessions[session]?).map TCPSession.key = some key →
    (nat'.sessions[session]?).map TCPSession.key = some key

namespace TCPNat

variable {nat nat' : TCPNat α} {key : TCPNatKey α} {port : UInt16}

theorem Extends.refl (nat : TCPNat α) : nat.Extends nat :=
  ⟨fun _ _ => id, fun _ _ => id, fun _ _ => id⟩

omit [DecidableEq α] in
theorem keyAt_eq_bind (nat : TCPNat α) (port : UInt16) :
    nat.keyAt port = (nat.portMap.lookup port).bind fun session =>
      (nat.sessions[session]?).map TCPSession.key := by
  rw [keyAt, sessionAt]
  cases nat.portMap.lookup port <;> rfl

theorem Extends.keyAt (larger : nat.Extends nat')
    (found : nat.keyAt port = some key) :
    nat'.keyAt port = some key := by
  rw [keyAt_eq_bind, Option.bind_eq_some_iff] at found ⊢
  obtain ⟨session, pointer, key_eq⟩ := found
  exact ⟨session, larger.portMap port session pointer, larger.keys session key key_eq⟩

omit [DecidableEq α] in
/-- A port that is not in `portMap` has no key. -/
theorem keyAt_eq_none (free : port ∉ nat.portMap) : nat.keyAt port = none := by
  rw [keyAt_eq_bind, lookup_eq_none.mpr free]
  rfl

/-- A listed port has a key. -/
theorem Inv.exists_keyAt (inv : nat.Inv) {session : Nat}
    (pointer : nat.portMap.lookup port = some session) :
    ∃ found, nat.sessions[session]? = some found ∧ nat.keyAt port = some found.key := by
  have inside := (inv.ports port session pointer).2
  refine ⟨nat.sessions[session], List.getElem?_eq_getElem inside, ?_⟩
  rw [keyAt_eq_bind, pointer, Option.bind_some, List.getElem?_eq_getElem inside]
  rfl

theorem newNat_inv (timeout : Int) : (newNat α timeout).Inv := by
  refine ⟨InverseMaps.empty, nofun, .inr ?_⟩
  exact Nat.le_refl 10000

/-! ## Refreshing -/

omit [DecidableEq α] in
@[simp]
theorem key_refresh (session : TCPSession α) (since now : Int) :
    (session.refresh since now).key = session.key := by
  unfold TCPSession.refresh
  split <;> rfl

omit [DecidableEq α] in
theorem map_key_refreshSession (nat : TCPNat α) (session other : Nat) (since now : Int) :
    ((nat.refreshSession session since now).sessions[other]?).map
        TCPSession.key = (nat.sessions[other]?).map TCPSession.key := by
  show ((nat.sessions.modify session _)[other]?).map _ = _
  rw [List.getElem?_modify]
  cases nat.sessions[other]? with
  | none => rfl
  | some found =>
    show some _ = some _
    split <;> simp

omit [DecidableEq α] in
theorem keyAt_refreshSession (nat : TCPNat α) (session : Nat) (since now : Int) :
    (nat.refreshSession session since now).keyAt = nat.keyAt := by
  funext port
  rw [keyAt_eq_bind, keyAt_eq_bind]
  refine congrArg (Option.bind (nat.portMap.lookup port)) ?_
  funext other
  exact map_key_refreshSession nat session other since now

omit [DecidableEq α] in
theorem keyAt_refresh (nat : TCPNat α) (port other : UInt16) (since now : Int) :
    (nat.refresh port since now).keyAt other = nat.keyAt other := by
  unfold TCPNat.refresh
  split
  · rfl
  · rw [keyAt_refreshSession]

theorem Inv.refreshSession (inv : nat.Inv) (session : Nat) (since now : Int) :
    (nat.refreshSession session since now).Inv := by
  refine ⟨?_, ?_, inv.portIndex⟩
  · rw [keyAt_refreshSession]
    exact inv.inverse
  · intro port other pointer
    have bounds := inv.ports port other pointer
    refine ⟨bounds.1, ?_⟩
    show other < (nat.sessions.modify session _).length
    rw [length_modify]
    exact bounds.2

theorem extends_refreshSession (nat : TCPNat α) (session : Nat) (since now : Int) :
    nat.Extends (nat.refreshSession session since now) :=
  ⟨fun _ _ => id, fun _ _ => id, fun other key found => by
    rwa [map_key_refreshSession]⟩

theorem Inv.refresh (inv : nat.Inv) (port : UInt16) (since now : Int) :
    (nat.refresh port since now).Inv := by
  unfold TCPNat.refresh
  split
  · exact inv
  · exact inv.refreshSession _ since now

theorem extends_refresh (nat : TCPNat α) (port : UInt16) (since now : Int) :
    nat.Extends (nat.refresh port since now) := by
  unfold TCPNat.refresh
  split
  · exact .refl nat
  · exact extends_refreshSession nat _ since now

/-! ## Allocating -/

variable {portIndex : UInt16} {entry : UInt16 × Nat}
variable {expired : List (UInt16 × Nat)}

theorem nextIndex_valid (valid : portIndex = 0 ∨ 10000 ≤ portIndex.toNat) :
    let nextIndex := if portIndex = 0 then 10001 else portIndex + 1
    nextIndex = 0 ∨ 10000 ≤ nextIndex.toNat := by
  intro nextIndex
  by_cases zero : portIndex = 0
  · right
    show 10000 ≤ (if portIndex = 0 then 10001 else portIndex + 1 : UInt16).toNat
    rw [if_pos zero]
    decide
  · have next : nextIndex = portIndex + 1 := if_neg zero
    have bound := portIndex.toNat_lt
    have value : nextIndex.toNat = (portIndex.toNat + 1) % 2 ^ 16 := by
      rw [next, UInt16.toNat_add]
      rfl
    have known := valid.resolve_left zero
    rcases Nat.lt_or_ge (portIndex.toNat + 1) (2 ^ 16) with small | wrapped
    · right
      omega
    · left
      apply UInt16.toNat_inj.mp
      rw [value, show portIndex.toNat + 1 = 2 ^ 16 by omega]
      rfl

/-- The loop returns a free port of the range and keeps the index valid. -/
theorem allocateLoop_spec (portMap : AList fun _ : UInt16 => Nat) (count : Nat)
    (valid : portIndex = 0 ∨ 10000 ≤ portIndex.toNat) :
    (∀ port, (allocateLoop portMap count portIndex).1 = some port →
        10000 ≤ port.toNat ∧ port ∉ portMap) ∧ ((allocateLoop portMap count portIndex).2 = 0 ∨
        10000 ≤ (allocateLoop portMap count portIndex).2.toNat) := by
  induction count generalizing portIndex with
  | zero => exact ⟨nofun, valid⟩
  | succ count ih =>
    unfold allocateLoop
    by_cases used : (if portIndex = 0 then 10000 else portIndex) ∈ portMap
    · dsimp only
      rw [if_pos used]
      exact ih (nextIndex_valid valid)
    · dsimp only
      rw [if_neg used]
      refine ⟨?_, nextIndex_valid valid⟩
      intro port found
      obtain rfl := Option.some.inj found
      refine ⟨?_, used⟩
      split
      · exact Nat.le_refl 10000
      · rename_i nonzero
        exact valid.resolve_left nonzero

/-- A new session under a free port. -/
theorem keyAt_insert (nat : TCPNat α) {session : TCPSession α} (inv : nat.Inv)
    (portIndex : UInt16)
    (addrMap : AList fun _ : TCPNatKey α => UInt16) :
    keyAt
        { nat with
          portIndex
          portMap := nat.portMap.insert port nat.sessions.length
          addrMap
          sessions := nat.sessions ++ [session] } =
      update nat.keyAt port (some session.key) := by
  funext other
  rw [keyAt_eq_bind]
  by_cases same : other = port
  · subst same
    simp
  · rw [update_of_ne same, lookup_insert_ne same, keyAt_eq_bind]
    cases pointer : nat.portMap.lookup other with
    | none => rfl
    | some position =>
      have inside := (inv.ports other position pointer).2
      rw [Option.bind_some, Option.bind_some, List.getElem?_append_left inside]

theorem Inv.insertLocked (inv : nat.Inv) (key : TCPNatKey α) (since now : Int) :
    (nat.insertLocked key since now).2.Inv := by
  obtain ⟨free, index⟩ := allocateLoop_spec nat.portMap (65535 - 10000 + 1) inv.portIndex
  unfold TCPNat.insertLocked
  split
  · exact inv.refresh _ since now
  · rename_i absent
    unfold TCPNat.allocatePortLocked
    generalize allocateLoop nat.portMap (65535 - 10000 + 1) nat.portIndex = allocated at free index
    obtain ⟨allocated, portIndex⟩ := allocated
    cases allocated with
    | none => exact ⟨inv.inverse, inv.ports, index⟩
    | some port =>
      obtain ⟨high, unused⟩ := free port rfl
      refine ⟨?_, ?_, index⟩
      · rw [keyAt_insert nat inv, lookup_insert_eq_update]
        exact inv.inverse.insert absent (keyAt_eq_none unused)
      · intro other session pointer
        rw [length_append]
        by_cases same : other = port
        · subst same
          rw [lookup_insert] at pointer
          rw [← Option.some.inj pointer]
          exact ⟨high, Nat.lt_succ_self _⟩
        · rw [lookup_insert_ne same] at pointer
          have bounds := inv.ports other session pointer
          exact ⟨bounds.1, Nat.lt_add_right _ bounds.2⟩

theorem extends_insertLocked (inv : nat.Inv) (key : TCPNatKey α) (since now : Int) :
    nat.Extends (nat.insertLocked key since now).2 := by
  obtain ⟨free, -⟩ := allocateLoop_spec nat.portMap (65535 - 10000 + 1) inv.portIndex
  unfold TCPNat.insertLocked
  split
  · exact extends_refresh nat _ since now
  · rename_i absent
    unfold TCPNat.allocatePortLocked
    generalize allocateLoop nat.portMap (65535 - 10000 + 1) nat.portIndex = allocated at free
    obtain ⟨allocated, portIndex⟩ := allocated
    cases allocated with
    | none => exact ⟨fun _ _ => id, fun _ _ => id, fun _ _ => id⟩
    | some port =>
      have unused := (free port rfl).2
      refine ⟨?_, ?_, ?_⟩
      · intro other session pointer
        rwa [lookup_insert_ne]
        rintro rfl
        rw [lookup_eq_none.mpr unused] at pointer
        cases pointer
      · intro other place found
        rwa [lookup_insert_ne]
        rintro rfl
        rw [absent] at found
        cases found
      · intro session key found
        cases known : nat.sessions[session]? with
        | none =>
          rw [known] at found
          cases found
        | some listed =>
          have inside := (List.getElem?_eq_some_iff.mp known).1
          rwa [List.getElem?_append_left inside]

/-! ## Deleting -/

/-- What the deletion loop does with a listed session. -/
theorem expire_eq (inv : nat.Inv)
    (listed : nat.portMap.lookup entry.1 = some entry.2) (now : Int) :
    nat.expire now entry = nat ∨ ∃ key, nat.keyAt entry.1 = some key ∧ nat.expire now entry =
          { nat with
            addrMap := nat.addrMap.erase key
            portMap := nat.portMap.erase entry.1 } := by
  obtain ⟨session, known, keyAt_eq⟩ := inv.exists_keyAt listed
  unfold TCPNat.expire
  rw [known]
  by_cases late : nat.timedOut now session = true
  · right
    exact ⟨session.key, keyAt_eq, if_pos late⟩
  · left
    exact if_neg late

omit [DecidableEq α] in
theorem keyAt_erase (nat : TCPNat α) (addrMap : AList fun _ : TCPNatKey α => UInt16) :
    keyAt { nat with addrMap, portMap := nat.portMap.erase port } =
      update nat.keyAt port none := by
  funext other
  rw [keyAt_eq_bind]
  by_cases same : other = port
  · subst same
    rw [update_self, lookup_erase]
    rfl
  · rw [update_of_ne same, lookup_erase_ne same, keyAt_eq_bind]

theorem Inv.erase (inv : nat.Inv)
    (found : nat.keyAt port = some key) :
    TCPNat.Inv
      { nat with
        addrMap := nat.addrMap.erase key
        portMap := nat.portMap.erase port } := by
  refine ⟨?_, ?_, inv.portIndex⟩
  · rw [keyAt_erase, lookup_erase_eq_update]
    exact inv.inverse.erase found
  · intro other session pointer
    have different : other ≠ port := by
      rintro rfl
      rw [lookup_erase] at pointer
      cases pointer
    rw [lookup_erase_ne different] at pointer
    exact inv.ports other session pointer

theorem Inv.expire (inv : nat.Inv)
    (listed : nat.portMap.lookup entry.1 = some entry.2) (now : Int) :
    (nat.expire now entry).Inv := by
  rcases expire_eq inv listed now with same | ⟨key, found, erased⟩
  · rwa [same]
  · rw [erased]
    exact inv.erase found

theorem lookup_expire_ne (inv : nat.Inv)
    (listed : nat.portMap.lookup entry.1 = some entry.2) (now : Int) (other : port ≠ entry.1) :
    (nat.expire now entry).portMap.lookup port = nat.portMap.lookup port := by
  rcases expire_eq inv listed now with same | ⟨key, found, erased⟩
  · rw [same]
  · rw [erased]
    exact lookup_erase_ne other

/-- What a scan has read is in the table, each port once. -/
structure Listed (nat : TCPNat α) (expired : List (UInt16 × Nat)) : Prop where
  nodup : (expired.map Prod.fst).Nodup
  listed : ∀ entry ∈ expired, nat.portMap.lookup entry.1 = some entry.2

/-- What the rest of the loop works with is still in the table. -/
theorem Listed.expire {rest : List (UInt16 × Nat)}
    (known : nat.Listed (entry :: rest))
    (inv : nat.Inv) (now : Int) :
    (nat.expire now entry).Listed rest := by
  have here := known.listed entry mem_cons_self
  have distinct := nodup_cons.mp known.nodup
  refine ⟨distinct.2, ?_⟩
  intro later member
  rw [lookup_expire_ne inv here now]
  · exact known.listed later (mem_cons_of_mem _ member)
  · intro same
    exact distinct.1 (same ▸ mem_map_of_mem member)

theorem Inv.deleteExpired (inv : nat.Inv)
    (known : nat.Listed expired) (now : Int) :
    (nat.deleteExpired now expired).Inv := by
  induction expired generalizing nat with
  | nil => exact inv
  | cons entry rest ih =>
    have here := known.listed entry mem_cons_self
    exact ih (inv.expire here now) (known.expire inv now)

omit [DecidableEq α] in
/-- A scan lists what it reads, in any order of the map. -/
theorem listed_of_scan (nat : TCPNat α) {now : Int}
    (visited : expired.Perm (nat.scan now)) :
    nat.Listed expired := by
  have all : (nat.portMap.entries.map fun entry =>
      (entry.1, entry.2)).map Prod.fst = nat.portMap.keys := by
    rw [map_map]
    rfl
  refine ⟨?_, ?_⟩
  · have sub := (filter_sublist (l := nat.portMap.entries.map
      fun entry => (entry.1, entry.2)) (p := fun entry =>
        (nat.sessions[entry.2]?).any (nat.timedOut now))).map Prod.fst
    rw [all] at sub
    exact (visited.map Prod.fst).nodup_iff.mpr (sub.nodup nat.portMap.keys_nodup)
  · intro entry member
    have inside := (mem_filter.mp (visited.mem_iff.mp member)).1
    obtain ⟨found, entries, rfl⟩ := mem_map.mp inside
    exact mem_lookup_iff.mpr entries

theorem Listed.extends (known : nat.Listed expired)
    (larger : nat.Extends nat') :
    nat'.Listed expired :=
  ⟨known.nodup, fun entry member =>
    larger.portMap _ _ (known.listed entry member)⟩

end TCPNat

/-! ## The steps of the threads -/

section Threads

variable {nat : TCPNat α} {caller : Caller α}

theorem Caller.step_inv (inv : nat.Inv) (since now : Int) : (caller.step nat since now).1.Inv := by
  cases caller with
  | lookup key =>
    rw [Caller.step]
    split <;> exact inv
  | missed key =>
    have kept := inv.insertLocked key since now
    rw [Caller.step]
    generalize nat.insertLocked key since now = outcome at kept
    obtain ⟨result, nat'⟩ := outcome
    cases result <;> exact kept
  | refreshing session result => exact inv.refreshSession session since now
  | found | lookupBack | returned => exact inv

/-- A caller only adds to the table. -/
theorem Caller.extends_step (inv : nat.Inv) (since now : Int) :
    nat.Extends (caller.step nat since now).1 := by
  cases caller with
  | lookup key =>
    rw [Caller.step]
    split <;> exact .refl nat
  | missed key =>
    have kept := TCPNat.extends_insertLocked inv key since now
    rw [Caller.step]
    generalize nat.insertLocked key since now = outcome at kept
    obtain ⟨result, nat'⟩ := outcome
    cases result <;> exact kept
  | refreshing session result =>
    exact TCPNat.extends_refreshSession nat session since now
  | found | lookupBack | returned => exact .refl nat

/-- The invariant of the table and of what the timeout loop remembers. -/
structure NatState.Inv (state : NatState α) : Prop where
  nat : state.nat.Inv
  scanned : ∀ now expired, state.checker = .scanned now expired → state.nat.Listed expired

theorem NatState.Inv.step {state state' : NatState α} (inv : state.Inv)
    (step : NatStep state state') :
    state'.Inv := by
  cases step with
  | call caller starts => exact ⟨inv.nat, inv.scanned⟩
  | caller i caller since now found =>
    refine ⟨caller.step_inv inv.nat since now, ?_⟩
    intro read expired scanned
    exact (inv.scanned read expired scanned).extends (caller.extends_step inv.nat since now)
  | scan now expired idle visited =>
    refine ⟨inv.nat, ?_⟩
    intro read listed scanned
    have known := state.nat.listed_of_scan visited
    split at scanned
    · cases scanned
    · cases scanned
      exact known
  | delete now expired scanned =>
    refine ⟨inv.nat.deleteExpired (inv.scanned now expired scanned) now, nofun⟩

theorem natSystem_inv {timeout : Int} {state : NatState α}
    (reachable : (natSystem α timeout).Reachable state) :
    state.Inv := by
  refine TransitionSystem.Reachable.invariant ?_ ?_ reachable
  · rintro state rfl
    exact ⟨TCPNat.newNat_inv timeout, nofun⟩
  · intro state state' inv step
    exact inv.step step

/-- Also the tables that whole calls reach have the invariant. -/
theorem natCalls_inv {timeout : Int} {nat : TCPNat α}
    (reachable : (natCalls α timeout).Reachable nat) :
    nat.Inv := by
  obtain ⟨state, reached, rfl, -⟩ := (natCalls_simulation timeout).reachable reachable
  exact (natSystem_inv reached).nat

end Threads

/-! ## What whole calls find -/

section Calls

variable {nat nat' : TCPNat α} {source destination : α} {port : UInt16}

/-- The port that `Lookup` returns is in the table it leaves. -/
theorem TCPNat.Inv.insertLocked_ok (inv : nat.Inv) {key : TCPNatKey α} {since now : Int}
    (inserted : nat.insertLocked key since now = (.ok port, nat')) :
    nat'.addrMap.lookup key = some port := by
  have larger := TCPNat.extends_insertLocked inv key since now
  rw [inserted] at larger
  unfold TCPNat.insertLocked at inserted
  split at inserted
  · rename_i place found
    have same : place = port := by
      injection inserted with result
      injection result
    rw [← same]
    exact larger.addrMap key place found
  · split at inserted
    · cases inserted
    · cases inserted
      exact lookup_insert _

theorem TCPNat.Inv.lookup_ok (inv : nat.Inv) {since now : Int}
    (found : nat.lookup source destination since now = (.ok port, nat')) :
    nat'.addrMap.lookup ⟨source, destination⟩ = some port := by
  cases probe : nat.probe ⟨source, destination⟩ with
  | some place =>
    rw [TCPNat.lookup_of_some probe] at found
    cases found
    exact (TCPNat.extends_refresh nat port since now).addrMap _ _ probe
  | none =>
    rw [TCPNat.lookup_of_none probe] at found
    exact inv.insertLocked_ok found

theorem TCPNat.extends_lookup (inv : nat.Inv) (source destination : α) (since now : Int) :
    nat.Extends (nat.lookup source destination since now).2 := by
  cases probe : nat.probe ⟨source, destination⟩ with
  | some place =>
    rw [TCPNat.lookup_of_some probe]
    exact TCPNat.extends_refresh nat place since now
  | none =>
    rw [TCPNat.lookup_of_none probe]
    exact TCPNat.extends_insertLocked inv _ since now

theorem TCPNat.Inv.lookup (inv : nat.Inv) (source destination : α) (since now : Int) :
    (nat.lookup source destination since now).2.Inv := by
  cases probe : nat.probe ⟨source, destination⟩ with
  | some place =>
    rw [TCPNat.lookup_of_some probe]
    exact inv.refresh place since now
  | none =>
    rw [TCPNat.lookup_of_none probe]
    exact inv.insertLocked _ since now

/-- A key of the table is found by its port. -/
theorem TCPNat.lookupBack_of_keyAt
    (listed : nat.keyAt port = some ⟨source, destination⟩) (since now : Int) :
    ∃ session, nat.lookupBack port since now = (some session, nat.refresh port since now) ∧
      session.source = source ∧ session.destination = destination := by
  have kept := (TCPNat.extends_refresh nat port since now).keyAt listed
  obtain ⟨session, found, key_eq⟩ := Option.map_eq_some_iff.mp kept
  injection key_eq with source_eq destination_eq
  refine ⟨session, ?_, source_eq, destination_eq⟩
  show ((nat.refresh port since now).sessionAt port, _) = _
  rw [found]

section

variable (nat : TCPNat α) (now : Int)

/-- The keys of sessions never change, not even when they are deleted. -/
theorem TCPNat.expire_sessions (entry : UInt16 × Nat) :
    (nat.expire now entry).sessions = nat.sessions := by
  unfold TCPNat.expire
  split
  · rfl
  · split <;> rfl

theorem TCPNat.deleteExpired_sessions (expired : List (UInt16 × Nat)) :
    (nat.deleteExpired now expired).sessions = nat.sessions := by
  induction expired generalizing nat with
  | nil => rfl
  | cons entry rest ih =>
    exact (ih (nat.expire now entry)).trans (nat.expire_sessions now entry)

theorem TCPNat.expire_timeout (entry : UInt16 × Nat) :
    (nat.expire now entry).timeout = nat.timeout := by
  unfold TCPNat.expire
  split
  · rfl
  · split <;> rfl

theorem TCPNat.deleteExpired_timeout (expired : List (UInt16 × Nat)) :
    (nat.deleteExpired now expired).timeout = nat.timeout := by
  induction expired generalizing nat with
  | nil => rfl
  | cons entry rest ih =>
    exact (ih (nat.expire now entry)).trans (nat.expire_timeout now entry)

end

variable {expired : List (UInt16 × Nat)} {session : Nat} {found : TCPSession α}

/-- What the loop does not find or finds in use stays. -/
theorem TCPNat.Inv.deleteExpired_keeps
    (inv : nat.Inv)
    (known : nat.Listed expired) {now : Int} {port : UInt16}
    (listed : nat.portMap.lookup port = some session)
    (pointer : nat.sessions[session]? = some found)
    (active : (port, session) ∈ expired → nat.timedOut now found = false) :
    (nat.deleteExpired now expired).portMap.lookup port = some session := by
  induction expired generalizing nat with
  | nil => exact listed
  | cons entry rest ih =>
    have here := known.listed entry mem_cons_self
    refine ih (inv.expire here now) (known.expire inv now) ?_ ?_ ?_
    · by_cases same : port = entry.1
      · -- The loop looks at the session itself and finds it in use.
        have own : entry.2 = session := by
          rw [same, here] at listed
          exact Option.some.inj listed
        have found : (port, session) ∈ entry :: rest := by
          rw [same, ← own]
          exact mem_cons_self
        have kept : nat.expire now entry = nat := by
          unfold TCPNat.expire
          rw [own, pointer]
          exact if_neg (Bool.not_eq_true _ ▸ active found)
        rw [kept]
        exact listed
      · rw [lookup_expire_ne inv here now same]
        exact listed
    · rw [expire_sessions]
      exact pointer
    · intro member
      have unexpired := active (mem_cons_of_mem _ member)
      unfold TCPNat.timedOut at unexpired ⊢
      rw [expire_timeout]
      exact unexpired

/-- What the loop finds expired is gone. -/
theorem TCPNat.Inv.deleteExpired_removes
    (inv : nat.Inv)
    (known : nat.Listed expired) {now : Int} {port : UInt16}
    (scanned : (port, session) ∈ expired)
    (pointer : nat.sessions[session]? = some found)
    (late : nat.timedOut now found = true) :
    (nat.deleteExpired now expired).portMap.lookup port = none := by
  have gone : ∀ (expired : List (UInt16 × Nat)) (nat : TCPNat α), nat.portMap.lookup port = none →
        (nat.deleteExpired now expired).portMap.lookup port = none := by
    intro expired
    induction expired with
    | nil => exact fun _ absent => absent
    | cons entry rest ih =>
      intro nat absent
      apply ih
      unfold TCPNat.expire
      split
      · exact absent
      · split
        · by_cases same : port = entry.1
          · rw [same]
            exact lookup_erase _ _
          · exact (lookup_erase_ne same).trans absent
        · exact absent
  induction expired generalizing nat with
  | nil => cases scanned
  | cons entry rest ih =>
    have here := known.listed entry mem_cons_self
    rcases mem_cons.mp scanned with rfl | later
    · apply gone rest
      unfold TCPNat.expire
      rw [pointer]
      dsimp only
      rw [if_pos late]
      exact lookup_erase _ _
    · refine ih (inv.expire here now) (known.expire inv now) later ?_ ?_
      · rw [expire_sessions]
        exact pointer
      · unfold TCPNat.timedOut at late ⊢
        rw [expire_timeout]
        exact late

theorem NatCall.keys (inv : nat.Inv)
    (call : NatCall nat nat') {key : TCPNatKey α}
    (known : (nat.sessions[session]?).map TCPSession.key = some key) :
    (nat'.sessions[session]?).map TCPSession.key = some key := by
  cases call with
  | lookup source destination since now =>
    exact (TCPNat.extends_lookup inv source destination since now).keys session key known
  | lookupBack port since now =>
    exact (TCPNat.extends_refresh nat port since now).keys session key known
  | checkTimeout now expired visited =>
    rwa [TCPNat.deleteExpired_sessions]

end Calls

/--
In every reachable state the two maps list the same pairs, the ports are in
the range of the allocator, and so is the index, unless it has wrapped to 0.
-/
theorem natMaps_inverse (timeout : Int) (state : NatState α)
    (reachable : (natSystem α timeout).Reachable state) :
    (∀ source destination port,
        state.nat.addrMap.lookup ⟨source, destination⟩ = some port ↔
          ∃ session, state.nat.sessionAt port = some session ∧
            session.source = source ∧ session.destination = destination) ∧
      (∀ port ∈ state.nat.portMap, 10000 ≤ port.toNat ∧ port.toNat ≤ 65535) ∧
      (state.nat.portIndex = 0 ∨ (10000 ≤ state.nat.portIndex.toNat ∧
          state.nat.portIndex.toNat ≤ 65535)) := by
  have inv := (natSystem_inv reachable).nat
  have largest : ∀ port : UInt16, port.toNat ≤ 65535 := fun port => Nat.le_of_lt_succ port.toNat_lt
  refine ⟨?_, ?_, ?_⟩
  · intro source destination port
    refine (inv.inverse ⟨source, destination⟩ port).trans ?_
    rw [TCPNat.keyAt, Option.map_eq_some_iff]
    refine exists_congr fun session => and_congr_right fun _ => ?_
    rw [TCPSession.key, TCPNatKey.mk.injEq]
  · intro port member
    obtain ⟨session, pointer⟩ := Option.isSome_iff_exists.mp (lookup_isSome.mpr member)
    exact ⟨(inv.ports port session pointer).1, largest port⟩
  · rcases inv.portIndex with zero | high
    · exact .inl zero
    · exact .inr ⟨high, largest _⟩

theorem natMaps_inverse_sample :
    ∃ state, (natSystem Nat 5).Reachable state ∧
      state.nat.addrMap.lookup ⟨1, 2⟩ = some 10000 ∧
      ∃ session, state.nat.sessionAt 10000 = some session ∧
        session.source = 1 ∧ session.destination = 2 := by
  obtain ⟨state, reachable, nat_eq, -⟩ := (natCalls_simulation 5).reachable
      ⟨newNat Nat 5, rfl, .single (NatCall.lookup _ 1 2 0 7)⟩
  have found : state.nat.addrMap.lookup ⟨1, 2⟩ = some 10000 := by
    rw [nat_eq]
    decide
  exact ⟨state, reachable, found, ((natMaps_inverse 5 state reachable).1 1 2 10000).mp found⟩

end SingTun.System
