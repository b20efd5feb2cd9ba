import Mathlib.Data.List.AList
import Mathlib.Data.List.Perm.Basic

/-!
# Finite maps to lists

A map from keys to lists of items, as an association list with distinct keys.
`items` forgets the keys.  A user that changes the list of one key changes
`items` by one element, up to the order of the entries, and these lemmas say
by which.
-/

namespace SingTun.Foundation

section Entries

variable {κ α : Type} [DecidableEq κ] {map : AList fun _ : κ => α} {key : κ}

theorem erase_of_lookup_eq_none (absent : map.lookup key = none) : map.erase key = map :=
  AList.ext (List.kerase_of_notMem_keys (AList.lookup_eq_none.mp absent))

/-- An entry is in front of the others, up to the order. -/
theorem entries_perm_of_lookup {value : α} (found : map.lookup key = some value) :
    map.entries.Perm (⟨key, value⟩ :: (map.erase key).entries) := by
  have member : key ∈ map := by
    rw [← AList.lookup_isSome, found]
    rfl
  obtain ⟨other, front, back, outside, entries, erased⟩ := List.exists_of_kerase member
  have stored : List.dlookup key map.entries = some value := found
  rw [entries, List.dlookup_append, List.dlookup_eq_none.mpr outside] at stored
  obtain rfl : other = value := by simpa using stored
  show map.entries.Perm (_ :: map.entries.kerase key)
  rw [erased, entries]
  exact List.perm_middle

end Entries

/-- A finite map to lists. -/
abbrev Multimap (κ ι : Type) := AList (fun _ : κ => List ι)

namespace Multimap

variable {κ ι : Type} [DecidableEq κ]

/-- The items under all keys, in the order of the entries. -/
def items (map : Multimap κ ι) : List ι :=
  map.entries.flatMap fun entry => entry.2

theorem items_insert (map : Multimap κ ι) (key : κ) (list : List ι) :
    items (map.insert key list) = list ++ items (map.erase key) :=
  rfl

theorem items_erase_of_lookup_eq_none
    {map : Multimap κ ι} {key : κ} (absent : map.lookup key = none) :
    items (map.erase key) = items map := by
  rw [erase_of_lookup_eq_none absent]

section

variable {map : Multimap κ ι} {key : κ} {list : List ι}
variable (found : map.lookup key = some list)
include found

theorem items_perm_of_lookup : (items map).Perm (list ++ items (map.erase key)) :=
  (entries_perm_of_lookup found).flatMap_right _

theorem mem_items_of_lookup {item : ι} (member : item ∈ list) : item ∈ items map :=
  (items_perm_of_lookup found).mem_iff.mpr (List.mem_append_left _ member)

omit found in
theorem exists_lookup_of_mem_items {map : Multimap κ ι} {item : ι} (member : item ∈ map.items) :
    ∃ key list, map.lookup key = some list ∧ item ∈ list := by
  obtain ⟨entry, inside, listed⟩ := List.mem_flatMap.mp member
  exact ⟨entry.1, entry.2, AList.mem_lookup_iff.mpr inside, listed⟩

/-- A list of one item more. -/
theorem items_insert_concat (item : ι) :
    (items (map.insert key (list ++ [item]))).Perm (item :: items map) := by
  rw [items_insert, List.append_assoc]
  refine List.perm_middle.trans (List.Perm.cons item ?_)
  exact (items_perm_of_lookup found).symm

omit found in
/-- The first item of a key. -/
theorem items_insert_singleton
    {map : Multimap κ ι} {key : κ} (absent : map.lookup key = none) (item : ι) :
    items (map.insert key [item]) = item :: items map := by
  rw [items_insert, items_erase_of_lookup_eq_none absent]
  rfl

omit found in
theorem perm_cons_eraseIdx {list : List ι} {index : Nat} {item : ι}
    (found : list[index]? = some item) :
    list.Perm (item :: list.eraseIdx index) := by
  obtain ⟨inside, rfl⟩ := List.getElem?_eq_some_iff.mp found
  exact (List.getElem_cons_eraseIdx_perm inside).symm

/-- One item replaced. -/
theorem items_insert_set {index : Nat} {item : ι} (old : list[index]? = some item) (new : ι) :
    ∃ rest, (items map).Perm (item :: rest) ∧
        (items (map.insert key (list.set index new))).Perm (new :: rest) := by
  obtain ⟨inside, -⟩ := List.getElem?_eq_some_iff.mp old
  refine ⟨list.eraseIdx index ++ items (map.erase key), ?_, ?_⟩
  · exact (items_perm_of_lookup found).trans ((perm_cons_eraseIdx old).append_right _)
  · rw [items_insert]
    exact (List.set_perm_cons_eraseIdx inside new).append_right _

/-- One item removed. -/
theorem items_insert_eraseIdx {index : Nat} {item : ι}
    (old : list[index]? = some item) :
    (items map).Perm (item :: items (map.insert key (list.eraseIdx index))) := by
  exact (items_perm_of_lookup found).trans ((perm_cons_eraseIdx old).append_right _)

end

end Multimap

end SingTun.Foundation
