import Mathlib.Algebra.Order.Floor.Div
import Mathlib.Data.List.Basic

/-!
# Cutting a list into pieces

A list of blocks is `Chunked` by a size when all blocks have that size,
except that the last one may be shorter.  Cutting the concatenation of such
blocks every `size` elements gives the blocks back.
-/

namespace SingTun.Foundation

open List

/-- All blocks have the given size; the last one may be shorter. -/
def Chunked {α : Type*} (size : Nat) : List (List α) → Prop
  | [] => True
  | [last] => 0 < last.length ∧ last.length ≤ size
  | block :: next :: rest => block.length = size ∧ Chunked size (next :: rest)

namespace Chunked

variable {α : Type*} {size : Nat} {block : List α} {blocks : List (List α)}

theorem cons (length : block.length = size)
    (positive : 0 < size)
    (chunked : Chunked size blocks) :
    Chunked size (block :: blocks) := by
  cases blocks with
  | nil => exact ⟨length ▸ positive, Nat.le_of_eq length⟩
  | cons next rest => exact ⟨length, chunked⟩

theorem tail (chunked : Chunked size (block :: blocks)) : Chunked size blocks := by
  cases blocks with
  | nil => trivial
  | cons next rest => exact chunked.2

/-- The length of the concatenation, up to one block. -/
theorem length_flatten_bounds (chunked : Chunked size (block :: blocks)) :
    blocks.length * size < (block :: blocks).flatten.length ∧
      (block :: blocks).flatten.length ≤ (blocks.length + 1) * size := by
  induction blocks generalizing block with
  | nil =>
    simp only [flatten_singleton, length_nil, Nat.zero_mul, Nat.zero_add, Nat.one_mul]
    exact chunked
  | cons next rest ih =>
    have later := ih chunked.2
    have first := chunked.1
    rw [flatten_cons, length_append, length_cons, first]
    simp only [Nat.add_mul, Nat.one_mul] at later ⊢
    omega

variable (chunked : Chunked size blocks)
include chunked

/-- There are as many blocks as cutting the concatenation gives. -/
theorem length_eq (positive : 0 < size) : blocks.length = blocks.flatten.length ⌈/⌉ size := by
  cases blocks with
  | nil => simp
  | cons block rest =>
    have bounds := chunked.length_flatten_bounds
    refine (Nat.div_eq_of_lt_le ?_ ?_).symm
    · rw [length_cons, Nat.succ_mul]
      omega
    · rw [length_cons, Nat.succ_mul]
      omega

/-- All blocks are full when the size divides the length. -/
theorem length_flatten_of_full (full : blocks.flatten.length % size = 0) :
    blocks.flatten.length = blocks.length * size := by
  cases blocks with
  | nil => simp
  | cons block rest =>
    obtain ⟨low, high⟩ := chunked.length_flatten_bounds
    obtain ⟨count, length⟩ := Nat.dvd_of_mod_eq_zero full
    rw [length, Nat.mul_comm size] at low high ⊢
    have more : rest.length < count := Nat.lt_of_mul_lt_mul_right low
    rcases Nat.eq_zero_or_pos size with zero | positive
    · rw [zero, Nat.mul_zero, Nat.mul_zero]
    · have less : count ≤ rest.length + 1 := Nat.le_of_mul_le_mul_right high positive
      rw [length_cons, show count = rest.length + 1 by omega]

/-- A block is the piece of the concatenation at its place. -/
theorem getElem?_eq {i : Nat} (found : blocks[i]? = some block) :
    block = (blocks.flatten.drop (i * size)).take size := by
  induction blocks generalizing i with
  | nil => simp at found
  | cons first rest ih =>
    cases i with
    | zero =>
      obtain rfl : first = block := by simpa using found
      rw [Nat.zero_mul, drop_zero, flatten_cons]
      cases rest with
      | nil =>
        rw [flatten_nil, append_nil, take_of_length_le chunked.2]
      | cons next rest =>
        rw [← chunked.1, take_left]
    | succ i =>
      have later := ih chunked.tail (by simpa using found)
      cases rest with
      | nil => simp at found
      | cons next rest =>
        rw [flatten_cons, Nat.succ_mul, Nat.add_comm, ← drop_drop]
        rw [show (first ++ (next :: rest).flatten).drop size =
          (next :: rest).flatten by rw [← chunked.1, drop_left]]
        exact later

/-- Another block fits behind blocks that are all full. -/
theorem concat (full : blocks.flatten.length % size = 0)
    (positive : 0 < block.length)
    (fits : block.length ≤ size) :
    Chunked size (blocks ++ [block]) := by
  induction blocks with
  | nil => exact ⟨positive, fits⟩
  | cons first rest ih =>
    cases rest with
    | nil =>
      have bounds : 0 < first.length ∧ first.length ≤ size := chunked
      rw [flatten_singleton] at full
      have equal : first.length = size := by
        rcases Nat.lt_or_ge first.length size with short | long
        · rw [Nat.mod_eq_of_lt short] at full
          omega
        · omega
      exact ⟨equal, positive, fits⟩
    | cons next rest =>
      refine ⟨chunked.1, ih chunked.2 ?_⟩
      rw [flatten_cons, length_append, chunked.1, Nat.add_mod_left] at full
      exact full

end Chunked

/-! ## Cutting -/

section Pieces

variable {α : Type*}

/-- The pieces that are cut off from the front until nothing is left. -/
def pieces (size : Nat) (list : List α) : List (List α) :=
  if list = [] ∨ size = 0 then []
  else list.take size :: pieces size (list.drop size)
termination_by list.length
decreasing_by
  rename_i left
  have nonempty : list ≠ [] := fun empty => left (.inl empty)
  have positive : size ≠ 0 := fun zero => left (.inr zero)
  have longer := length_pos_of_ne_nil nonempty
  rw [length_drop]
  omega

variable {size : Nat} {list : List α}

theorem pieces_nil : pieces size ([] : List α) = [] := by
  unfold pieces
  rw [if_pos (.inl rfl)]

theorem pieces_cons (nonempty : list ≠ [])
    (positive : size ≠ 0) :
    pieces size list = list.take size :: pieces size (list.drop size) := by
  conv => lhs; unfold pieces
  exact if_neg (not_or.mpr ⟨nonempty, positive⟩)

theorem pieces_of_short (nonempty : list ≠ [])
    (short : list.length ≤ size) :
    pieces size list = [list] := by
  have positive : size ≠ 0 := by
    have longer := length_pos_of_ne_nil nonempty
    omega
  rw [pieces_cons nonempty positive, take_of_length_le short,
    drop_of_length_le short, pieces_nil]

theorem mem_pieces {piece : List α} (member : piece ∈ pieces size list) :
    piece ≠ [] ∧ piece.length ≤ size ∧ piece.Sublist list := by
  induction list using pieces.induct size with
  | case1 list done =>
    rw [pieces, if_pos done] at member
    cases member
  | case2 list some ih =>
    rw [pieces, if_neg some] at member
    rcases mem_cons.mp member with rfl | later
    · refine ⟨?_, length_take_le _ _, take_sublist _ _⟩
      intro empty
      exact some ((take_eq_nil_iff.mp empty).symm)
    · obtain ⟨nonempty, short, inside⟩ := ih later
      exact ⟨nonempty, short, inside.trans (drop_sublist _ _)⟩

/-- The first pieces together are the front of the list. -/
theorem flatten_take_pieces (positive : size ≠ 0) (count : Nat) :
    ((pieces size list).take count).flatten = list.take (count * size) := by
  induction count generalizing list with
  | zero => simp
  | succ count ih =>
    by_cases empty : list = []
    · rw [empty, pieces_nil, take_nil, take_nil, flatten_nil]
    · rw [pieces_cons empty positive, take_succ_cons, flatten_cons,
        ih, Nat.succ_mul, Nat.add_comm, take_add]

theorem flatten_pieces (positive : size ≠ 0) : (pieces size list).flatten = list := by
  have all := @flatten_take_pieces _ size list positive (max (pieces size list).length list.length)
  rw [take_of_length_le (Nat.le_max_left _ _)] at all
  rw [all, take_of_length_le]
  have room : 1 ≤ size := Nat.one_le_iff_ne_zero.mpr positive
  calc list.length ≤ max (pieces size list).length list.length :=
        Nat.le_max_right _ _
    _ = max (pieces size list).length list.length * 1 := (Nat.mul_one _).symm
    _ ≤ _ := Nat.mul_le_mul_left _ room

end Pieces

end SingTun.Foundation
