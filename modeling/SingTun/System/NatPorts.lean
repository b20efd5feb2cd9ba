import SingTun.System.NatInvariant

/-!
# The allocator finds every free port

The index of the allocator runs through the ports from 10000 to 65535 and
then starts again, with 0 as the place behind the last one.  Counted from
10000 its place grows by one in every round, modulo the number of ports, so
that many rounds visit every port, wherever they start.
-/

namespace SingTun.System

open Foundation UInt16

/-! ## The cycle of the ports -/

/-- The number of ports, which is also the number of rounds. -/
def portCount : Nat := 65535 - 10000 + 1

/-- The place of an index in the cycle. -/
def portRank (portIndex : UInt16) : Nat :=
  if portIndex = 0 then 0 else portIndex.toNat - 10000

/-- The port at a place of the cycle, in any lap. -/
def portOfRank (rank : Nat) : UInt16 :=
  UInt16.ofNat (10000 + rank % portCount)

theorem portOfRank_toNat (rank : Nat) : (portOfRank rank).toNat = 10000 + rank % portCount := by
  have bound : rank % portCount < 55536 := Nat.mod_lt _ (by decide)
  exact Nat.mod_eq_of_lt (by omega)

theorem portOfRank_congr {left right : Nat} (same : left % portCount = right % portCount) :
    portOfRank left = portOfRank right := by
  rw [portOfRank, portOfRank, same]

section Round

variable {portIndex : UInt16}
variable (valid : portIndex = 0 ∨ 10000 ≤ portIndex.toNat)

include valid

/-- The port of a round. -/
theorem nextPort_eq_portOfRank :
    (if portIndex = 0 then 10000 else portIndex) = portOfRank (portRank portIndex) := by
  apply UInt16.toNat_inj.mp
  rw [portOfRank_toNat]
  unfold portRank
  split
  · rfl
  · rename_i nonzero
    have high := valid.resolve_left nonzero
    have bound := portIndex.toNat_lt
    have small : portIndex.toNat - 10000 < portCount := by
      unfold portCount
      omega
    rw [Nat.mod_eq_of_lt small]
    omega

/-- The index of the next round. -/
theorem portRank_next :
    portRank (if portIndex = 0 then 10001 else portIndex + 1) % portCount =
      (portRank portIndex + 1) % portCount := by
  by_cases zero : portIndex = 0
  · rw [if_pos zero, zero]
    rfl
  · rw [if_neg zero]
    have high := valid.resolve_left zero
    have bound := portIndex.toNat_lt
    have rank : portRank portIndex = portIndex.toNat - 10000 := if_neg zero
    rcases Nat.lt_or_ge (portIndex.toNat + 1) (2 ^ 16) with inside | last
    · have next : (portIndex + 1).toNat = portIndex.toNat + 1 := by
        exact Nat.mod_eq_of_lt inside
      have nonzero : portIndex + 1 ≠ 0 := by
        intro zero
        rw [zero] at next
        exact Nat.succ_ne_zero _ next.symm
      have nextRank : portRank (portIndex + 1) = portRank portIndex + 1 := by
        rw [portRank, if_neg nonzero, next, rank]
        omega
      rw [nextRank]
    · -- Behind the last port comes the first one.
      have top : portIndex.toNat = 65535 := by omega
      have wrapped : portIndex + 1 = 0 := by
        apply UInt16.toNat_inj.mp
        rw [UInt16.toNat_add, top]
        rfl
      rw [wrapped, rank, top]
      rfl

end Round

/-! ## The loop -/

/-- The loop fails if the ports of all rounds are in use. -/
theorem allocateLoop_eq_none_iff
    (portMap : AList fun _ : UInt16 => Nat) (count : Nat) {portIndex : UInt16}
    (valid : portIndex = 0 ∨ 10000 ≤ portIndex.toNat) :
    (allocateLoop portMap count portIndex).1 = none ↔
      ∀ i < count, portOfRank (portRank portIndex + i) ∈ portMap := by
  induction count generalizing portIndex with
  | zero => simp [allocateLoop]
  | succ count ih =>
    have first := nextPort_eq_portOfRank valid
    unfold allocateLoop
    by_cases used : (if portIndex = 0 then 10000 else portIndex) ∈ portMap
    · dsimp only
      rw [if_pos used, ih (TCPNat.nextIndex_valid valid), Nat.forall_lt_succ_left']
      have later : ∀ i, portOfRank (portRank (if portIndex = 0 then 10001 else portIndex + 1) + i) =
            portOfRank (portRank portIndex + (i + 1)) := by
        intro i
        apply portOfRank_congr
        rw [Nat.add_mod, portRank_next valid, ← Nat.add_mod]
        congr 1
        omega
      simp only [later]
      refine (and_iff_right ?_).symm
      rw [Nat.add_zero, ← first]
      exact used
    · dsimp only
      rw [if_neg used]
      refine iff_of_false nofun fun all => used ?_
      rw [first]
      exact all 0 (Nat.succ_pos count)

/-- From every start the rounds visit every port. -/
theorem exists_round (start : Nat) {port : UInt16} (high : 10000 ≤ port.toNat) :
    ∃ i < portCount, portOfRank (start + i) = port := by
  have bound := port.toNat_lt
  have startBound : start % portCount < portCount := Nat.mod_lt _ (by decide)
  refine ⟨(port.toNat - 10000 + (portCount - start % portCount)) % portCount,
    Nat.mod_lt _ (by decide), ?_⟩
  apply UInt16.toNat_inj.mp
  rw [portOfRank_toNat, Nat.add_mod_mod]
  unfold portCount at startBound ⊢
  omega

/-- The allocator fails exactly if every port is in use. -/
theorem allocatePortLocked_eq_none_iff {α : Type} {nat : TCPNat α}
    (valid : nat.portIndex = 0 ∨ 10000 ≤ nat.portIndex.toNat) :
    nat.allocatePortLocked.1 = none ↔ ∀ port : UInt16, 10000 ≤ port.toNat → port ∈ nat.portMap := by
  refine (allocateLoop_eq_none_iff nat.portMap portCount valid).trans ?_
  constructor
  · intro rounds port high
    obtain ⟨i, inside, rfl⟩ := exists_round (portRank nat.portIndex) high
    exact rounds i inside
  · intro full i _
    apply full
    rw [portOfRank_toNat]
    omega

/-! ## Lookup -/

section Lookup

variable {α : Type} [DecidableEq α] {nat : TCPNat α} {key : TCPNatKey α}

/-- A new pair fails without a port. -/
theorem TCPNat.Inv.insertLocked_full
    (inv : nat.Inv)
    (new : nat.addrMap.lookup key = none) (since now : Int)
    (full : ∀ port : UInt16, 10000 ≤ port.toNat → port ∈ nat.portMap) :
    nat.insertLocked key since now = (.error portSpaceExhausted, nat.allocatePortLocked.2) := by
  have failed := (allocatePortLocked_eq_none_iff inv.portIndex).mpr full
  unfold TCPNat.insertLocked
  rw [new]
  generalize nat.allocatePortLocked = allocated at failed
  obtain ⟨port, nat'⟩ := allocated
  cases failed
  rfl

/-- A new pair gets a free port of the range. -/
theorem TCPNat.Inv.insertLocked_free
    (inv : nat.Inv)
    (new : nat.addrMap.lookup key = none) (since now : Int)
    (free : ∃ port : UInt16, 10000 ≤ port.toNat ∧ port ∉ nat.portMap) :
    ∃ port nat', nat.insertLocked key since now = (.ok port, nat') ∧
      10000 ≤ port.toNat ∧ port ∉ nat.portMap := by
  obtain ⟨found, -⟩ := TCPNat.allocateLoop_spec nat.portMap (65535 - 10000 + 1) inv.portIndex
  have taken : nat.allocatePortLocked.1 ≠ none := by
    intro failed
    obtain ⟨port, high, unused⟩ := free
    exact unused ((allocatePortLocked_eq_none_iff inv.portIndex).mp failed port high)
  change ∀ port, nat.allocatePortLocked.1 = some port → _ at found
  unfold TCPNat.insertLocked
  rw [new]
  generalize nat.allocatePortLocked = allocated at found taken
  obtain ⟨port, nat'⟩ := allocated
  cases port with
  | none => exact absurd rfl taken
  | some port => exact ⟨port, _, rfl, found port rfl⟩

end Lookup

/--
In every reachable state a pair that is not in the table is refused exactly
if all ports are in use, and then the maps are as before.  Otherwise it gets a
port that was free.  The section under the write lock does the same.
-/
theorem lookup_fails_iff_full {α : Type} [DecidableEq α] (timeout : Int) (state : NatState α)
    (reachable : (natSystem α timeout).Reachable state) (source destination : α)
    (new : state.nat.addrMap.lookup ⟨source, destination⟩ = none) (since now : Int) :
    ((∃ message nat', state.nat.lookup source destination since now = (.error message, nat')) ↔
        ∀ port : UInt16, 10000 ≤ port.toNat → port ∈ state.nat.portMap) ∧
      (∀ message nat', state.nat.lookup source destination since now = (.error message, nat') →
        nat'.addrMap = state.nat.addrMap ∧ nat'.portMap = state.nat.portMap) ∧
      (∀ port nat', state.nat.lookup source destination since now = (.ok port, nat') →
        10000 ≤ port.toNat ∧ port.toNat ≤ 65535 ∧ port ∉ state.nat.portMap) ∧
      state.nat.insertLocked ⟨source, destination⟩ since now =
        state.nat.lookup source destination since now := by
  have inv := (natSystem_inv reachable).nat
  rw [TCPNat.lookup_of_none new]
  by_cases full : ∀ port : UInt16, 10000 ≤ port.toNat → port ∈ state.nat.portMap
  · rw [inv.insertLocked_full new since now full]
    refine ⟨iff_of_true ⟨_, _, rfl⟩ full, ?_, nofun, rfl⟩
    rintro message nat' ⟨⟩
    exact ⟨rfl, rfl⟩
  · have free : ∃ port : UInt16, 10000 ≤ port.toNat ∧ port ∉ state.nat.portMap := by
      simpa only [not_forall, exists_prop] using full
    obtain ⟨port, nat', inserted, high, unused⟩ := inv.insertLocked_free new since now free
    rw [inserted]
    refine ⟨iff_of_false nofun full, nofun, ?_, rfl⟩
    rintro port nat' ⟨⟩
    exact ⟨high, Nat.le_of_lt_succ port.toNat_lt, unused⟩

/-- The pair that comes second gets the second port. -/
theorem lookup_fails_iff_full_sample :
    ∃ state : NatState Nat,
      (natSystem Nat 5).Reachable state ∧ state.nat.addrMap.lookup ⟨1, 2⟩ = some 10000 ∧
        (state.nat.lookup 3 4 0 7).1 = .ok 10001 ∧ 10001 ∉ state.nat.portMap := by
  have reachable : (natSystem Nat 5).Reachable _ := ⟨⟨newNat Nat 5, [], .idle⟩, rfl,
    ((Relation.ReflTransGen.single (.call _ (.lookup ⟨1, 2⟩) trivial)).tail
      (.caller _ 0 (.lookup ⟨1, 2⟩) 0 7 rfl)).tail (.caller _ 0 (.missed ⟨1, 2⟩) 0 7 rfl)⟩
  obtain ⟨-, -, given, -⟩ := lookup_fails_iff_full 5 _ reachable 3 4 (by decide) 0 7
  exact ⟨_, reachable, by decide, by decide, (given 10001 _ (Prod.ext (by decide) rfl)).2.2⟩

end SingTun.System
