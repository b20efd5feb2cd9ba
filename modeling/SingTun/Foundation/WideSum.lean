import SingTun.Foundation.BigEndian
import SingTun.Foundation.OnesComplement

/-!
# One's complement sums in wide words

A machine sums a string faster in words of 64 bits, loaded in its own byte
order.  Sixteen bits further up counts the same modulo `65535`, so a wide word
folds to the sum of its 16-bit words; and exchanging the octets of all words
multiplies a sum by `256`, so the byte order is put right at the end.

Numbers stand for the same sum when `foldCarry` makes the same of them.
-/

namespace SingTun.Foundation

open List

section Congruence

variable {left right left' right' : Nat}

theorem foldCarry_eq_iff :
    foldCarry left = foldCarry right ↔ left % 65535 = right % 65535 ∧ (left = 0 ↔ right = 0) := by
  refine ⟨fun same => ?_, fun same => foldCarry_congr same.1 same.2⟩
  rw [← foldCarry_mod left, ← foldCarry_eq_zero_iff left, same]
  exact ⟨foldCarry_mod right, foldCarry_eq_zero_iff right⟩

theorem foldCarry_add_congr (first : foldCarry left = foldCarry left')
    (second : foldCarry right = foldCarry right') :
    foldCarry (left + right) = foldCarry (left' + right') := by
  rw [foldCarry_eq_iff] at first second ⊢
  omega

/-- What has 16 bits is folded already. -/
theorem foldCarry_of_le (small : left ≤ 65535) : foldCarry left = left := by
  unfold foldCarry
  split <;> omega

end Congruence

theorem wordSum_le (bytes : Bytes) : wordSum bytes ≤ 65535 * bytes.length := by
  induction bytes using wordSum.induct with
  | case1 => exact Nat.zero_le _
  | case2 octet =>
    have bound := octet.toNat_lt
    rw [wordSum, length_singleton]
    omega
  | case3 high low rest ih =>
    have bound := high.toNat_lt
    have bound' := low.toNat_lt
    rw [wordSum, length_cons, length_cons]
    omega

/-- Octets taken off the front of a string go on counting in the sum. -/
theorem foldCarry_taken {weight sum sum' size : Nat} {bytes : Bytes} (even : size % 2 = 0)
    (same : foldCarry sum' = foldCarry (sum + weight * wordSum (bytes.take size))) :
    foldCarry (sum' + weight * wordSum (bytes.drop size)) =
      foldCarry (sum + weight * wordSum bytes) := by
  rw [wordSum_take_add_drop bytes size even, Nat.mul_add, ← Nat.add_assoc]
  exact foldCarry_add_congr same rfl

/-- With one octet in front, all octets of a string change their side. -/
theorem foldCarry_wordSum_cons (octet : UInt8) (rest : Bytes) :
    foldCarry (wordSum (octet :: rest)) = foldCarry (256 * (octet.toNat + wordSum rest)) := by
  induction rest using wordSum.induct generalizing octet with
  | case1 => rw [wordSum, wordSum, Nat.mul_comm, Nat.add_zero]
  | case2 low =>
    rw [foldCarry_eq_iff, wordSum, wordSum, wordSum]
    omega
  | case3 low next rest ih =>
    have behind := foldCarry_eq_iff.mp (ih next)
    rw [foldCarry_eq_iff, wordSum, wordSum]
    omega

/-! ## Words of memory -/

/-- The number a machine loads from octets. -/
def loadNat (bigEndian : Bool) (octets : Bytes) : Nat :=
  beNat (if bigEndian then octets else octets.reverse)

/-- The octets in which a machine stores a number. -/
def storeNat (bigEndian : Bool) (size value : Nat) : Bytes :=
  if bigEndian then beOctets size value else (beOctets size value).reverse

/-- What a sum is multiplied by when the octets of its words are exchanged. -/
def turn (exchanged : Bool) : Nat := if exchanged then 256 else 1

theorem foldCarry_foldl (value : Nat) {octets : Bytes} (even : octets.length % 2 = 0) :
    foldCarry (octets.foldl (fun value octet => value * 256 + octet.toNat) value) =
      foldCarry (value + wordSum octets) := by
  induction octets using wordSum.induct generalizing value with
  | case1 => rfl
  | case2 octet => simp at even
  | case3 high low rest ih =>
    have restEven : rest.length % 2 = 0 := by
      simp only [length_cons] at even
      omega
    rw [foldl_cons, foldl_cons, ih _ restEven, foldCarry_eq_iff, wordSum]
    omega

theorem foldCarry_beNat_reverse (octets : Bytes) :
    foldCarry (beNat octets.reverse) = foldCarry (256 * wordSum octets) := by
  induction octets using wordSum.induct with
  | case1 => rfl
  | case2 octet =>
    rw [foldCarry_eq_iff, wordSum, reverse_singleton, ← nil_append [octet], beNat_concat,
      beNat_nil]
    omega
  | case3 high low rest ih =>
    rw [foldCarry_eq_iff] at ih ⊢
    rw [reverse_cons, reverse_cons, beNat_concat, beNat_concat, wordSum]
    omega

section Memory

variable (bigEndian : Bool) {size value : Nat} {octets : Bytes}

/-- A loaded word stands for the words it covers, in the order of the machine. -/
theorem foldCarry_loadNat (even : octets.length % 2 = 0) :
    foldCarry (loadNat bigEndian octets) = foldCarry (turn (!bigEndian) * wordSum octets) := by
  cases bigEndian with
  | true =>
    have sum := foldCarry_foldl 0 even
    rw [Nat.zero_add, ← Nat.one_mul (wordSum octets)] at sum
    exact sum
  | false => exact foldCarry_beNat_reverse octets

theorem loadNat_lt : loadNat bigEndian octets < 256 ^ octets.length := by
  have small := beNat_lt (if bigEndian then octets else octets.reverse)
  cases bigEndian with
  | true => exact small
  | false => rwa [← length_reverse]

theorem length_storeNat : (storeNat bigEndian size value).length = size := by
  cases bigEndian <;> simp [storeNat]

theorem loadNat_storeNat_lt (order : Bool) :
    loadNat order (storeNat bigEndian size value) < 256 ^ size := by
  have small := @loadNat_lt order (storeNat bigEndian size value)
  rwa [length_storeNat] at small

/-- A number stored in one order and loaded in another. -/
theorem foldCarry_loadNat_storeNat (order : Bool) (small : value < 256 ^ size)
    (even : size % 2 = 0) :
    foldCarry (loadNat order (storeNat bigEndian size value)) =
      foldCarry (turn (order != bigEndian) * value) := by
  have length : (storeNat bigEndian size value).length % 2 = 0 := by rwa [length_storeNat]
  have stored : loadNat bigEndian (storeNat bigEndian size value) = value := by
    cases bigEndian <;> simp [loadNat, storeNat, beNat_beOctets small]
  have same := foldCarry_loadNat bigEndian length
  have read := foldCarry_loadNat order length
  rw [stored, foldCarry_eq_iff] at same
  rw [foldCarry_eq_iff] at read ⊢
  cases order <;> cases bigEndian <;> simp [turn] at same read ⊢ <;> omega

end Memory

/-! ## Addition with carries -/

/-- The sum and the carry of an addition of 64-bit words. -/
def add64 (x y carry : Nat) : Nat × Nat :=
  ((x + y + carry) % 2 ^ 64, (x + y + carry) / 2 ^ 64)

/-- Add words with their carries, and the last carry at the lower end. -/
def addWords : List Nat → Nat → Nat → Nat
  | [], sum, carry => (add64 sum 0 carry).1
  | word :: words, sum, carry => addWords words (add64 sum word carry).1 (add64 sum word carry).2

/-- Not all bits of a sum are set when there is a carry, so adding that carries
no more. -/
theorem add64_spec {x y carry : Nat} (before : x + carry < 2 ^ 64)
    (small : y < 2 ^ 64) :
    (add64 x y carry).1 + (add64 x y carry).2 < 2 ^ 64 ∧
      foldCarry ((add64 x y carry).1 + (add64 x y carry).2) = foldCarry (x + carry + y) := by
  rw [foldCarry_eq_iff]
  simp only [add64]
  omega

theorem addWords_spec {words : List Nat} (narrow : ∀ word ∈ words, word < 2 ^ 64)
    {sum carry : Nat}
    (small : sum + carry < 2 ^ 64) :
    addWords words sum carry < 2 ^ 64 ∧
      foldCarry (addWords words sum carry) = foldCarry (sum + carry + words.sum) := by
  induction words generalizing sum carry with
  | nil =>
    have last : addWords [] sum carry = sum + carry := Nat.mod_eq_of_lt small
    rw [last]
    exact ⟨small, rfl⟩
  | cons word words ih =>
    obtain ⟨below, same⟩ := add64_spec small (narrow word mem_cons_self)
    obtain ⟨bound, whole⟩ := ih (fun word later => narrow word (mem_cons_of_mem _ later)) below
    refine ⟨bound, whole.trans ?_⟩
    rw [sum_cons, ← Nat.add_assoc]
    exact foldCarry_add_congr same rfl

section Words

variable (bigEndian : Bool) {size : Nat} {bytes : Bytes}

/-- The words of a string at given offsets. -/
def loadWords (size : Nat) (offsets : List Nat) (bytes : Bytes) : List Nat :=
  offsets.map fun offset => loadNat bigEndian (window bytes offset size)

theorem loadWords_lt (narrow : size ≤ 8) (offsets : List Nat) :
    ∀ word ∈ loadWords bigEndian size offsets bytes, word < 2 ^ 64 := by
  intro word member
  obtain ⟨offset, -, rfl⟩ := mem_map.mp member
  have length : (window bytes offset size).length ≤ 8 := (length_take_le _ _).trans narrow
  exact (loadNat_lt _).trans_le (Nat.pow_le_pow_right (by decide) length)

/-- Words side by side count like their octets. -/
theorem foldCarry_sum_loadWords (even : size % 2 = 0) (count : Nat)
    (inside : count * size ≤ bytes.length) :
    foldCarry (loadWords bigEndian size ((List.range count).map (· * size)) bytes).sum =
      foldCarry (turn (!bigEndian) * wordSum (bytes.take (count * size))) := by
  induction count with
  | zero => simp [loadWords, wordSum]
  | succ count ih =>
    rw [Nat.succ_mul] at inside ⊢
    have front : (bytes.take (count * size)).length % 2 = 0 := by
      rw [length_take, Nat.min_eq_left (by omega), Nat.mul_mod, even]
      simp
    have word : (window bytes (count * size) size).length % 2 = 0 := by
      rwa [length_window inside]
    rw [take_add, wordSum_append _ _ front, Nat.mul_add, range_succ, map_append,
      loadWords, map_append, sum_append]
    exact foldCarry_add_congr (ih (by omega)) (foldCarry_loadNat bigEndian word)

end Words

end SingTun.Foundation
