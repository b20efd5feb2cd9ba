import Mathlib.Data.List.AList
import Mathlib.Logic.Function.Basic

/-!
# Pairs of inverse maps

Two partial maps that list the same pairs, one by the left and one by the
right component.  Adding a pair that is new on both sides keeps them inverse,
and so does removing a listed pair.
-/

namespace SingTun.Foundation

open Function Option

/-- The maps list the same pairs. -/
def InverseMaps {κ π : Type} (forth : κ → Option π) (back : π → Option κ) :
    Prop :=
  ∀ key place, forth key = some place ↔ back place = some key

namespace InverseMaps

variable {κ π : Type} {forth : κ → Option π} {back : π → Option κ}
variable {key : κ} {place : π}

theorem empty : InverseMaps (fun _ : κ => none) (fun _ : π => none) :=
  fun _ _ => ⟨nofun, nofun⟩

section Update

variable [DecidableEq κ] [DecidableEq π]

theorem insert (inverse : InverseMaps forth back)
    (newKey : forth key = none)
    (newPlace : back place = none) :
    InverseMaps (update forth key (some place))
      (update back place (some key)) := by
  intro key' place'
  by_cases sameKey : key' = key <;> by_cases samePlace : place' = place
  · subst sameKey samePlace
    simp
  · subst sameKey
    rw [update_self, update_of_ne samePlace]
    constructor
    · intro equal
      exact absurd (some.inj equal).symm samePlace
    · intro listed
      rw [(inverse key' place').mpr listed] at newKey
      cases newKey
  · subst samePlace
    rw [update_self, update_of_ne sameKey]
    constructor
    · intro listed
      rw [(inverse key' place').mp listed] at newPlace
      cases newPlace
    · intro equal
      exact absurd (some.inj equal).symm sameKey
  · rw [update_of_ne sameKey, update_of_ne samePlace]
    exact inverse key' place'

theorem erase (inverse : InverseMaps forth back)
    (listed : back place = some key) :
    InverseMaps (update forth key none) (update back place none) := by
  intro key' place'
  by_cases sameKey : key' = key <;> by_cases samePlace : place' = place
  · subst sameKey samePlace
    simp
  · subst sameKey
    rw [update_self, update_of_ne samePlace]
    refine ⟨nofun, fun other => absurd ?_ samePlace⟩
    have here := (inverse key' place).mpr listed
    exact some.inj (((inverse key' place').mpr other).symm.trans here)
  · subst samePlace
    rw [update_self, update_of_ne sameKey]
    refine ⟨fun other => absurd ?_ sameKey, nofun⟩
    exact some.inj (((inverse key' place').mp other).symm.trans listed)
  · rw [update_of_ne sameKey, update_of_ne samePlace]
    exact inverse key' place'

end Update

end InverseMaps

/-! ## Association lists as partial maps -/

section Lookup

variable {κ ι : Type} [DecidableEq κ] (map : AList fun _ : κ => ι)

theorem lookup_insert_eq_update (key : κ) (value : ι) :
    (fun k => (map.insert key value).lookup k) =
      update (fun k => map.lookup k) key (some value) := by
  funext k
  by_cases same : k = key
  · subst same
    rw [update_self, AList.lookup_insert]
  · rw [update_of_ne same, AList.lookup_insert_ne same]

theorem lookup_erase_eq_update (key : κ) :
    (fun k => (map.erase key).lookup k) = update (fun k => map.lookup k) key none := by
  funext k
  by_cases same : k = key
  · subst same
    rw [update_self, AList.lookup_erase]
  · rw [update_of_ne same, AList.lookup_erase_ne same]

end Lookup

end SingTun.Foundation
