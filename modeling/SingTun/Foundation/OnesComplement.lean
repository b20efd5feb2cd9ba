import SingTun.Foundation.Frame
import Mathlib.Tactic.Ring

/-!
# One's complement sums of byte strings

The Internet checksum adds the 16-bit big-endian words of a byte string with
end-around carry.  The unfolded sum is a natural number; folding keeps its
residue modulo `65535` and represents the residue zero by all ones, except
for the sum zero itself.

A string is *balanced* under an initial value when its folded sum is all
ones.  This is the receiver's test, and the last section says which stored
word makes it pass.
-/

namespace SingTun.Foundation

/-! ## Unfolded sums -/

/-- The sum of the 16-bit words, a last odd octet being a high octet. -/
def wordSum : Bytes → Nat
  | [] => 0
  | [octet] => octet.toNat * 256
  | high :: low :: rest => high.toNat * 256 + low.toNat + wordSum rest

theorem wordSum_append (front back : Bytes) (aligned : front.length % 2 = 0) :
    wordSum (front ++ back) = wordSum front + wordSum back := by
  induction front using wordSum.induct with
  | case1 => simp [wordSum]
  | case2 octet => simp at aligned
  | case3 high low rest ih =>
    have restAligned : rest.length % 2 = 0 := by
      simp only [List.length_cons] at aligned
      omega
    simp only [List.cons_append, wordSum, ih restAligned]
    omega

section

variable (bytes : Bytes) (position : Nat)

/-- Splitting a sum at an even position. -/
theorem wordSum_take_add_drop (aligned : position % 2 = 0) :
    wordSum bytes = wordSum (bytes.take position) + wordSum (bytes.drop position) := by
  by_cases inside : position ≤ bytes.length
  · have lengthTake : (bytes.take position).length = position := by
      rw [List.length_take]
      omega
    rw [← wordSum_append _ _ (by rw [lengthTake]; exact aligned), List.take_append_drop]
  · have outside : bytes.length ≤ position := by omega
    rw [List.take_of_length_le outside, List.drop_of_length_le outside]
    simp [wordSum]

/--
Storing a word at an even position replaces the word that stood there in the
sum.
-/
theorem wordSum_writeU16 (value : UInt16)
    (aligned : position % 2 = 0)
    (inside : position + 1 < bytes.length) :
    wordSum (writeU16 bytes position value) + (readU16 bytes position).toNat =
      wordSum bytes + value.toNat := by
  induction bytes using wordSum.induct generalizing position with
  | case1 => simp at inside
  | case2 octet => simp at inside
  | case3 high low rest ih =>
    match position with
    | 0 =>
      have bound := value.toNat_lt
      have stored : writeU16 (high :: low :: rest) 0 value = UInt8.ofNat (value.toNat / 256) ::
              UInt8.ofNat value.toNat :: rest := by
        simp [writeU16]
      rw [stored, readU16_toNat]
      simp only [wordSum, byteAt, List.getD_cons_zero, List.getD_cons_succ, UInt8.toNat_ofNat']
      omega
    | 1 => omega
    | next + 2 =>
      have stored : writeU16 (high :: low :: rest) (next + 2) value =
            high :: low :: writeU16 rest next value := by
        simp [writeU16]
      have word : readU16 (high :: low :: rest) (next + 2) = readU16 rest next := by
        simp [readU16, byteAt]
      have restInside : next + 1 < rest.length := by
        simp only [List.length_cons] at inside
        omega
      have tail := ih next (by omega) restInside
      rw [stored, word]
      simp only [wordSum]
      omega

/-! ## Sums after a change -/

theorem window_add (bytes : Bytes) (position first second : Nat) :
    window bytes position (first + second) = window bytes position first ++
        window bytes (position + first) second := by
  rw [window, window, window, List.take_add, List.drop_drop]

/-- A word of a string, summed on its own. -/
theorem wordSum_window_two (inside : position + 2 ≤ bytes.length) :
    wordSum (window bytes position 2) = (readU16 bytes position).toNat := by
  have high := @byteAt_window bytes position 2 0 (by omega)
  have low := @byteAt_window bytes position 2 1 (by omega)
  have length := length_window inside
  rw [readU16_toNat, ← low, ← Nat.add_zero position, ← high, Nat.add_zero]
  match window bytes position 2, length with
  | [first, second], _ => simp [wordSum, byteAt]

end

/--
A change of words that are summed changes the sum by these words, and the
rest of the sum is as before.
-/
theorem wordSum_changed {before after : Bytes} {position count low size : Nat}
    (change : ChangedAt (fun k => low ≤ k ∧ k < low + size) before after)
    (inside : position + count ≤ before.length)
    (above : position ≤ low)
    (below : low + size ≤ position + count)
    (lowAligned : (low - position) % 2 = 0)
    (sizeAligned : size % 2 = 0) :
    wordSum (window after position count) + wordSum (window before low size) =
      wordSum (window before position count) + wordSum (window after low size) := by
  obtain ⟨front, rfl⟩ := Nat.exists_eq_add_of_le above
  obtain ⟨back, total⟩ := Nat.exists_eq_add_of_le below
  have whole : count = front + (size + back) := by omega
  rw [Nat.add_sub_cancel_left] at lowAligned
  have split : ∀ bytes : Bytes, bytes.length = before.length →
      wordSum (window bytes position count) = wordSum (window bytes position front) +
          (wordSum (window bytes (position + front) size) +
            wordSum (window bytes (position + front + size) back)) := by
    intro bytes length
    rw [whole, window_add, window_add, wordSum_append, wordSum_append]
    · rw [length_window (by omega)]
      exact sizeAligned
    · rw [length_window (by omega)]
      exact lowAligned
  have frontKept : window after position front = window before position front := by
    apply change.window_eq (by omega)
    intro k _ _
    omega
  have backKept : window after (position + front + size) back =
      window before (position + front + size) back := by
    apply change.window_eq (by omega)
    intro k _ _
    omega
  rw [split before rfl, split after change.length, frontKept, backKept]
  omega

/-- A string with an octet that is not zero has a positive sum. -/
theorem wordSum_pos {bytes : Bytes} (nonzero : byteAt bytes 0 ≠ 0) : 0 < wordSum bytes := by
  have positive : (byteAt bytes 0).toNat ≠ 0 := fun zero => nonzero (UInt8.toNat_inj.mp zero)
  match bytes with
  | [] => exact absurd rfl nonzero
  | [octet] =>
    change octet.toNat ≠ 0 at positive
    simp only [wordSum]
    omega
  | high :: low :: rest =>
    change high.toNat ≠ 0 at positive
    simp only [wordSum]
    omega

/-! ## Folding -/

/-- Add the carries back in until 16 bits remain. -/
def foldCarry (sum : Nat) : Nat :=
  if sum = 0 then 0 else (sum - 1) % 65535 + 1

theorem foldCarry_le (sum : Nat) : foldCarry sum ≤ 65535 := by
  unfold foldCarry
  split <;> omega

theorem foldCarry_mod (sum : Nat) : foldCarry sum % 65535 = sum % 65535 := by
  unfold foldCarry
  split <;> omega

@[simp]
theorem foldCarry_eq_zero_iff (sum : Nat) : foldCarry sum = 0 ↔ sum = 0 := by
  unfold foldCarry
  split <;> omega

/-- Folding early does not change the folded result. -/
theorem foldCarry_add_foldCarry (left right : Nat) :
    foldCarry (foldCarry left + right) = foldCarry (left + right) := by
  unfold foldCarry
  split_ifs <;> omega

/-- A folded sum is all ones exactly when it is a nonzero multiple. -/
theorem foldCarry_eq_ones_iff (sum : Nat) : foldCarry sum = 65535 ↔ 0 < sum ∧ sum % 65535 = 0 := by
  unfold foldCarry
  split <;> omega

/-- Folding is decided by the residue and by whether the sum is zero. -/
theorem foldCarry_congr {left right : Nat}
    (residue : left % 65535 = right % 65535)
    (zero : left = 0 ↔ right = 0) :
    foldCarry left = foldCarry right := by
  unfold foldCarry
  split_ifs <;> omega

/-- One end-around carry folds the sum of two 16-bit words. -/
theorem add_carry_eq_foldCarry
    (left right : Nat) (leftBound : left ≤ 65535)
    (rightBound : right ≤ 65535) :
    (left + right + (left + right) / 65536) % 65536 = foldCarry (left + right) := by
  generalize total : left + right = sum
  unfold foldCarry
  rcases Nat.lt_or_ge sum 65536 with small | large
  · have carry : sum / 65536 = 0 := Nat.div_eq_of_lt small
    split_ifs <;> omega
  · have carry : sum / 65536 = 1 := by omega
    split_ifs <;> omega

/-! ## The receiver's test -/

/-- The folded sum of an initial value and a string is all ones. -/
def Balanced (initial : Nat) (bytes : Bytes) : Prop :=
  foldCarry (initial + wordSum bytes) = 65535

instance (initial : Nat) (bytes : Bytes) : Decidable (Balanced initial bytes) :=
  inferInstanceAs (Decidable (_ = _))

/-- Positive sums of one residue are both balanced or neither is. -/
theorem balanced_congr {left right : Nat} {leftBytes rightBytes : Bytes}
    (residue : (left + wordSum leftBytes) % 65535 = (right + wordSum rightBytes) % 65535)
    (leftPositive : 0 < left + wordSum leftBytes)
    (rightPositive : 0 < right + wordSum rightBytes) :
    Balanced left leftBytes ↔ Balanced right rightBytes := by
  have same := foldCarry_congr residue (by omega)
  unfold Balanced
  rw [same]

/--
Storing the complement of the folded rest balances a string.  The word that
stood at the field counts as zero.
-/
theorem balanced_writeU16_complement
    (initial : Nat) (bytes : Bytes) (position : Nat) (value : UInt16)
    (aligned : position % 2 = 0)
    (inside : position + 1 < bytes.length)
    (cleared : readU16 bytes position = 0)
    (complement : value.toNat % 65535 = (65535 - foldCarry (initial + wordSum bytes)) % 65535)
    (nonzero : value ≠ 0 ∨ 0 < initial + wordSum bytes) :
    Balanced initial (writeU16 bytes position value) := by
  have replaced := wordSum_writeU16 bytes position value aligned inside
  rw [cleared] at replaced
  simp only [UInt16.toNat_ofNat] at replaced
  have residue := foldCarry_mod (initial + wordSum bytes)
  have bound := foldCarry_le (initial + wordSum bytes)
  rw [Balanced, foldCarry_eq_ones_iff]
  constructor
  · rcases nonzero with valueNonzero | sumNonzero
    · have : value.toNat ≠ 0 := by
        intro zero
        exact valueNonzero (UInt16.toNat_inj.mp zero)
      omega
    · omega
  · omega

end SingTun.Foundation
