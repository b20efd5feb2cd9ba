import Mathlib.Data.Multiset.Bind
import Mathlib.Data.Multiset.Range

/-!
# Grouping the elements of a stream

The elements `0, 1, …` arrive one after the other.  Each one is put out as it
is, starts a group, or joins a group that an earlier one started; a group of
one element may be dissolved again.  An element that starts a group or is put
out is written down.  `Accounts` says that nothing is lost or counted twice
along the way.  Reading the groups in the order in which they were written
down keeps the order of a kind of elements exactly if each group has all
elements of that kind between its own.
-/

namespace SingTun.Foundation

open List

/-- The groups, each with the element that started it. -/
abbrev Groups := Multiset (Nat × Multiset Nat)

/--
After `count` elements: `written` are the elements written down, `single`
those put out as they are, `dissolved` those whose group was dissolved.
-/
structure Accounts (written single dissolved : Multiset Nat) (groups : Groups)
    (count : Nat) : Prop where
  written_eq : written = single + dissolved + groups.map Prod.fst
  members_eq : single + dissolved + groups.bind Prod.snd = Multiset.range count

namespace Accounts

variable {written single dissolved : Multiset Nat} {groups : Groups}
variable {count start : Nat} {members : Multiset Nat}

theorem nil : Accounts 0 0 0 0 0 :=
  ⟨rfl, rfl⟩

variable (accounts : Accounts written single dissolved groups count)
include accounts

/-- The next element is put out as it is. -/
theorem skip : Accounts (count ::ₘ written) (count ::ₘ single) dissolved groups (count + 1) := by
  refine ⟨?_, ?_⟩
  · rw [accounts.written_eq, Multiset.cons_add, Multiset.cons_add]
  · rw [Multiset.cons_add, Multiset.cons_add, accounts.members_eq, Multiset.range_succ]

/-- The next element starts a group. -/
theorem start_group :
    Accounts (count ::ₘ written) single dissolved ((count, {count}) ::ₘ groups) (count + 1) := by
  refine ⟨?_, ?_⟩
  · rw [accounts.written_eq, Multiset.map_cons, Multiset.add_cons]
  · rw [Multiset.range_succ, ← accounts.members_eq, Multiset.cons_bind,
      Multiset.singleton_add, Multiset.add_cons]

omit accounts in
/-- The next element joins a group. -/
theorem join (accounts : Accounts written single dissolved ((start, members) ::ₘ groups) count) :
    Accounts written single dissolved ((start, count ::ₘ members) ::ₘ groups) (count + 1) := by
  refine ⟨?_, ?_⟩
  · rw [accounts.written_eq, Multiset.map_cons, Multiset.map_cons]
  · rw [Multiset.range_succ, ← accounts.members_eq, Multiset.cons_bind,
      Multiset.cons_bind, Multiset.cons_add, Multiset.add_cons]

omit accounts in
/-- A group of one element is dissolved. -/
theorem dissolve
    (accounts : Accounts written single dissolved ((start, {start}) ::ₘ groups) count) :
    Accounts written single (start ::ₘ dissolved) groups count := by
  refine ⟨?_, ?_⟩
  · rw [accounts.written_eq, Multiset.map_cons, Multiset.add_cons,
      Multiset.add_cons, Multiset.cons_add]
  · rw [← accounts.members_eq, Multiset.cons_bind, Multiset.singleton_add,
      Multiset.add_cons, Multiset.add_cons, Multiset.cons_add]

/-- A group has at most as many members as there are elements. -/
theorem card_members_le (member : (start, members) ∈ groups) : members.card ≤ count := by
  have inside : members ≤ groups.bind Prod.snd := Multiset.le_bind groups member
  have cards := Multiset.card_le_card inside
  have total := congrArg Multiset.card accounts.members_eq
  rw [Multiset.card_add, Multiset.card_range] at total
  omega

variable {element : Nat}

/-- Every member of a group is an element that arrived. -/
theorem lt_of_mem (member : (start, members) ∈ groups)
    (inside : element ∈ members) :
    element < count := by
  rw [← Multiset.mem_range, ← accounts.members_eq, Multiset.mem_add, Multiset.mem_bind]
  exact .inr ⟨_, member, inside⟩

theorem nodup : (single + dissolved + groups.bind Prod.snd).Nodup := by
  rw [accounts.members_eq]
  exact Multiset.nodup_range count

omit accounts in
theorem map_fst_le_bind {groups : Groups} (own : ∀ group ∈ groups, group.1 ∈ group.2) :
    groups.map Prod.fst ≤ groups.bind Prod.snd := by
  induction groups using Multiset.induction_on with
  | empty => exact le_rfl
  | cons group groups ih =>
    rw [Multiset.map_cons, Multiset.cons_bind, ← Multiset.singleton_add]
    refine add_le_add ?_ ?_
    · exact Multiset.singleton_le.mpr (own group (Multiset.mem_cons_self group groups))
    · exact ih fun other member =>
        own other (Multiset.mem_cons_of_mem member)

/-- Nothing is written down twice if every group has its first element. -/
theorem nodup_written (own : ∀ group ∈ groups, group.1 ∈ group.2) : written.Nodup := by
  rw [accounts.written_eq]
  exact Multiset.nodup_of_le (add_le_add le_rfl (map_fst_le_bind own)) accounts.nodup

omit accounts in
/-- The first element of a group is in no other place. -/
theorem start_unique
    (accounts : Accounts written single dissolved ((start, members) ::ₘ groups) count)
    (own : ∀ group ∈ ((start, members) ::ₘ groups : Groups), group.1 ∈ group.2) :
    start ∉ single ∧ start ∉ dissolved ∧ ∀ group ∈ groups, group.1 ≠ start := by
  have nodup := accounts.nodup_written own
  rw [accounts.written_eq, Multiset.map_cons, Multiset.add_cons, Multiset.nodup_cons] at nodup
  obtain ⟨outside, -⟩ := nodup
  rw [Multiset.mem_add, Multiset.mem_add, not_or, not_or] at outside
  refine ⟨outside.1.1, outside.1.2, fun group member same => ?_⟩
  exact outside.2 (Multiset.mem_map.mpr ⟨group, member, same⟩)

theorem lt_of_mem_single (inside : element ∈ single) : element < count := by
  rw [← Multiset.mem_range, ← accounts.members_eq]
  exact Multiset.mem_add.mpr (.inl (Multiset.mem_add.mpr (.inl inside)))

theorem lt_of_mem_dissolved (inside : element ∈ dissolved) : element < count := by
  rw [← Multiset.mem_range, ← accounts.members_eq]
  exact Multiset.mem_add.mpr (.inl (Multiset.mem_add.mpr (.inr inside)))

theorem lt_of_mem_written (own : ∀ group ∈ groups, group.1 ∈ group.2)
    (inside : element ∈ written) :
    element < count := by
  rw [accounts.written_eq, Multiset.mem_add, Multiset.mem_add, Multiset.mem_map] at inside
  rcases inside with (one | gone) | ⟨group, member, rfl⟩
  · exact accounts.lt_of_mem_single one
  · exact accounts.lt_of_mem_dissolved gone
  · exact accounts.lt_of_mem member (own group member)

end Accounts

/-! ## Order -/

/-- Two elements of a list whose pairs are related are equal or related. -/
theorem related_of_pairwise {α : Type*} {relation : α → α → Prop} {list : List α}
    (pairwise : list.Pairwise relation) {left right : α}
    (leftMember : left ∈ list)
    (rightMember : right ∈ list) :
    left = right ∨ relation left right ∨ relation right left :=
  Pairwise.forall_of_forall_of_flip
    (R := fun left right => left = right ∨ relation left right ∨ relation right left)
    (fun _ _ => .inl rfl) (pairwise.imp fun related => .inr (.inl related))
    (pairwise.imp fun related => .inr (.inr related)) leftMember rightMember

/-- In ascending blocks a block has everything between its elements. -/
theorem mem_of_between {blocks : List (List Nat)} (sorted : blocks.flatten.Pairwise (· < ·))
    {block : List Nat} (member : block ∈ blocks) {low middle high : Nat}
    (lowInside : low ∈ block)
    (highInside : high ∈ block)
    (middleInside : middle ∈ blocks.flatten)
    (above : low < middle)
    (below : middle < high) :
    middle ∈ block := by
  obtain ⟨other, otherMember, inOther⟩ := mem_flatten.mp middleInside
  -- Two blocks are the same, or one is entirely below the other.
  rcases related_of_pairwise (pairwise_flatten.mp sorted).2 member
      otherMember with rfl | less | greater
  · exact inOther
  · exact absurd (less high highInside middle inOther) (Nat.lt_asymm below)
  · exact absurd (greater middle inOther low lowInside) (Nat.lt_asymm above)

section Order

variable {written : List Nat} {members : Nat → List Nat} {count : Nat}
variable {kind : Nat → Bool}
variable (perm : (written.flatMap members).Perm (List.range count))

include perm

/-- An element is in one group only. -/
theorem group_unique {left right element : Nat}
    (leftWritten : left ∈ written)
    (rightWritten : right ∈ written)
    (inLeft : element ∈ members left)
    (inRight : element ∈ members right) :
    left = right := by
  have nodup := perm.nodup_iff.mpr nodup_range
  have disjoint := (nodup_flatMap.mp nodup).2
  by_contra different
  rcases related_of_pairwise disjoint leftWritten rightWritten with
    same | apart | apart
  · exact different same
  · exact apart inLeft inRight
  · exact apart inRight inLeft

/--
Groups that are written in the order of their first elements keep the order
of a kind of elements exactly if each has all of that kind in its range.
-/
theorem filter_flatMap_eq_iff (sorted : written.Pairwise (· < ·))
    (own : ∀ w ∈ written, w ∈ members w)
    (uniform : ∀ w ∈ written, ∀ i ∈ members w, kind i = kind w)
    (first : ∀ w ∈ written, ∀ i ∈ members w, kind i → w ≤ i)
    (inner : ∀ w ∈ written, ((members w).filter kind).Pairwise (· < ·)) :
    (written.flatMap members).filter kind = (List.range count).filter kind ↔
      ∀ w ∈ written, ∀ high ∈ members w, kind high →
        ∀ middle, kind middle → w < middle → middle < high → middle ∈ members w := by
  have ascending : ((List.range count).filter kind).Pairwise (· < ·) :=
    pairwise_lt_range.filter _
  -- Both lists have the same elements, so only the order is in question.
  have order : (written.flatMap members).filter kind = (List.range count).filter kind ↔
        ((written.flatMap members).filter kind).Pairwise (· < ·) := by
    constructor
    · intro same
      rw [same]
      exact ascending
    · intro sorted
      exact (perm.filter kind).eq_of_pairwise
        (fun _ _ _ _ less greater => absurd less (Nat.lt_asymm greater)) sorted ascending
  rw [order, filter_flatMap, pairwise_flatMap]
  constructor
  · rintro ⟨-, across⟩ w here high highInside highKind middle middleKind above below
    have before : high < count := by
      have listed := perm.mem_iff.mp (mem_flatMap.mpr ⟨w, here, highInside⟩)
      exact mem_range.mp listed
    have placed : middle ∈ written.flatMap members :=
      perm.mem_iff.mpr (mem_range.mpr (by omega))
    obtain ⟨other, there, middleInside⟩ := mem_flatMap.mp placed
    have ordered : ∀ left ∈ written, ∀ right ∈ written, left < right →
        ∀ x ∈ (members left).filter kind, ∀ y ∈ (members right).filter kind, x < y := by
      intro left leftWritten right rightWritten less
      -- The list is sorted, so the smaller index stands first.
      have both := sorted.and across
      rcases related_of_pairwise both leftWritten rightWritten with
        same | forward | backward
      · exact absurd less (same ▸ Nat.lt_irrefl _)
      · exact forward.2
      · exact absurd backward.1 (Nat.lt_asymm less)
    rcases Nat.lt_trichotomy w other with less | same | greater
    · have wrong := ordered w here other there less high
        (mem_filter.mpr ⟨highInside, highKind⟩) middle
        (mem_filter.mpr ⟨middleInside, middleKind⟩)
      exact absurd wrong (Nat.lt_asymm below)
    · rw [same]
      exact middleInside
    · have wKind : kind w = true := by
        rw [← uniform w here high highInside]
        exact highKind
      have wrong := ordered other there w here greater middle
        (mem_filter.mpr ⟨middleInside, middleKind⟩) w (mem_filter.mpr ⟨own w here, wKind⟩)
      exact absurd wrong (Nat.lt_asymm above)
  · intro between
    refine ⟨inner, ?_⟩
    refine sorted.imp_of_mem ?_
    intro left right leftWritten rightWritten less x xInside y yInside
    obtain ⟨xInside, xKind⟩ := mem_filter.mp xInside
    obtain ⟨yInside, yKind⟩ := mem_filter.mp yInside
    have start := first right rightWritten y yInside yKind
    by_contra notLess
    rcases Nat.lt_or_eq_of_le (Nat.not_lt.mp notLess) with greater | same
    · have inLeft := between left leftWritten x xInside xKind y yKind (by omega) greater
      have := group_unique perm leftWritten rightWritten inLeft yInside
      omega
    · rw [← same] at xInside
      have := group_unique perm leftWritten rightWritten xInside yInside
      omega

end Order

end SingTun.Foundation
