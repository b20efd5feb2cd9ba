import SingTun.Foundation.WideSum
import SingTun.Header.Checksum

/-!
# The checksum routine in words of the machine

`checksum.Checksum` is `calculateChecksum` on every machine but amd64, which
has assembly for it.  The routine sums 64-bit words that it loads at aligned
addresses and in the byte order of the machine.  It comes out at the plain
`checksum`, whatever the address and the byte order.
-/

namespace SingTun.Header

open Foundation

/-! ## The routine -/

section Routine

variable (bigEndian : Bool)

/-- `bits.ReverseBytes32`. -/
def reverseBytes32 (val : Nat) : Nat := loadNat false (storeNat true 4 val)

/-- `bits.ReverseBytes16`. -/
def reverseBytes16 (val : Nat) : Nat := loadNat false (storeNat true 2 val)

/-- The memory of a number, read as big-endian. -/
def bswapIfLittleEndian32 (val : Nat) : Nat := loadNat true (storeNat bigEndian 4 val)

def bswapIfLittleEndian16 (val : Nat) : Nat := loadNat true (storeNat bigEndian 2 val)

def bswapIfBigEndian16 (val : Nat) : Nat := loadNat false (storeNat bigEndian 2 val)

def reduce (acc : Nat) : Nat :=
  let acc := acc / 2 ^ 32 + acc % 2 ^ 32
  let acc32 := (acc / 2 ^ 32 + acc) % 2 ^ 32
  let acc32 := acc32 / 2 ^ 16 + acc32 % 2 ^ 16
  (acc32 / 2 ^ 16 + acc32) % 2 ^ 16

/-- `if len(buf) >= size`: add to `acc` and advance `buf` by `size`. -/
def stage (size : Nat) (add : Bytes → Nat → Nat) (state : Nat × Bytes) : Nat × Bytes :=
  if size ≤ state.2.length then (add state.2 state.1, state.2.drop size) else state

/-- The sum of less than 8 octets. -/
def sumShort (acc : Nat) (buf : Bytes) : Nat :=
  let word buf k := (byteAt buf k).toNat * 256 + (byteAt buf (k + 1)).toNat
  let state := stage 4 (fun buf acc => (acc + word buf 0 + word buf 2) % 2 ^ 64) (acc, buf)
  let state := stage 2 (fun buf acc => (acc + word buf 0) % 2 ^ 64) state
  (stage 1 (fun buf acc => (acc + (byteAt buf 0).toNat * 256) % 2 ^ 64) state).1

/-- `if sliceAddr(buf)&size != 0`: add one word, so that `&buf[0]` becomes a
multiple of twice the size. -/
def alignBy (size : Nat) : Nat × Nat × Bytes → Nat × Nat × Bytes
  | (address, acc, buf) =>
    if address &&& size ≠ 0 then
      (address + size, (acc + loadNat bigEndian (buf.take size)) % 2 ^ 64, buf.drop size)
    else (address, acc, buf)

/-- The last octet, if there is one. -/
def addLast (state : Nat × Bytes) : Nat :=
  (stage 1 (fun buf acc => addWords [bswapIfBigEndian16 bigEndian (byteAt buf 0).toNat] acc 0)
    state).1

/-- Sum 64 bytes at a time, then the remaining 0-63 bytes.  A turn of the loop
with fewer octets does nothing. -/
def sumAligned (acc : Nat) (buf : Bytes) : Nat :=
  let words size offsets buf acc := addWords (loadWords bigEndian size offsets buf) acc 0
  let state := (stage 64 (words 8 [0, 8, 16, 24, 32, 40, 48, 56]))^[buf.length] (acc, buf)
  let state := stage 32 (words 8 [0, 8, 16, 24]) state
  let state := stage 16 (words 8 [0, 8]) state
  let state := stage 8 (words 8 [0]) state
  let state := stage 4 (words 4 [0]) state
  addLast bigEndian (stage 2 (words 2 [0]) state)

/-- The sum from an even address on, in the order of the machine. -/
def sumEven (address acc : Nat) (buf : Bytes) : Nat :=
  let (_, acc, buf) := alignBy bigEndian 4 (alignBy bigEndian 2 (address, acc, buf))
  reduce (sumAligned bigEndian acc buf)

/-- The sum of at least 8 octets. -/
def sumLong (address acc : Nat) (buf : Bytes) : Nat :=
  let acc := bswapIfLittleEndian32 bigEndian (acc % 2 ^ 32)
  if address &&& 1 ≠ 0 then
    -- Compute the rest with bytes swapped, and swap back before returning.
    let acc := (reverseBytes32 acc + bswapIfLittleEndian16 bigEndian (byteAt buf 0).toNat) % 2 ^ 64
    reverseBytes16 (bswapIfLittleEndian16 bigEndian
      (sumEven bigEndian (address + 1) acc (buf.drop 1)))
  else bswapIfLittleEndian16 bigEndian (sumEven bigEndian address acc buf)

/-- `calculateChecksum` behind the octet that completes an odd `initial`. -/
def calculateRest (address acc : Nat) (buf : Bytes) : UInt16 × Bool :=
  (UInt16.ofNat (if buf.length < 8 then reduce (sumShort acc buf)
    else sumLong bigEndian address acc buf), decide (buf.length % 2 ≠ 0))

/-- `calculateChecksum` of octets at an address; `none` is the panic at
`buf[0]`. -/
def calculateChecksum (address : Nat) (buf : Bytes) (odd : Bool) (initial : UInt16) :
    Option (UInt16 × Bool) :=
  match odd, buf with
  | true, [] => none
  | true, first :: rest =>
    some (calculateRest bigEndian (address + 1) (initial.toNat + first.toNat) rest)
  | false, buf => some (calculateRest bigEndian address initial.toNat buf)

end Routine

/-! ## Its phases -/

theorem reduce_eq {acc : Nat} (small : acc < 2 ^ 64) : reduce acc = foldCarry acc := by
  have halves : ∀ acc, foldCarry (acc / 2 ^ 32 + acc % 2 ^ 32) = foldCarry acc ∧
      foldCarry (acc / 2 ^ 16 + acc % 2 ^ 16) = foldCarry acc := by
    intro acc
    rw [foldCarry_eq_iff, foldCarry_eq_iff]
    omega
  simp only [reduce]
  rw [← (halves acc).1]
  have bound : acc / 2 ^ 32 + acc % 2 ^ 32 ≤ 2 * (2 ^ 32 - 1) := by omega
  generalize acc / 2 ^ 32 + acc % 2 ^ 32 = acc at bound ⊢
  have carried : (acc / 2 ^ 32 + acc) % 2 ^ 32 = acc / 2 ^ 32 + acc % 2 ^ 32 := by omega
  rw [← (halves acc).1, carried]
  have bound : acc / 2 ^ 32 + acc % 2 ^ 32 < 2 ^ 32 := by omega
  generalize acc / 2 ^ 32 + acc % 2 ^ 32 = acc at bound ⊢
  rw [← (halves acc).2, Nat.add_comm]
  exact add_carry_eq_foldCarry _ _ (by omega) (by omega)

theorem sumShort_eq {acc : Nat} {buf : Bytes} (small : acc < 2 ^ 17)
    (short : buf.length < 8) :
    sumShort acc buf = acc + wordSum buf := by
  have bound : wordSum buf < 2 ^ 20 := (wordSum_le buf).trans_lt (by omega)
  match buf, short with
  | [], _ => rfl
  | [_], _ | [_, _], _ | [_, _, _], _ | [_, _, _, _], _ | [_, _, _, _, _], _
  | [_, _, _, _, _, _], _ | [_, _, _, _, _, _, _], _ =>
    simp [sumShort, stage, byteAt, wordSum] at bound ⊢
    omega

section Phases

variable (bigEndian : Bool) {acc address sum : Nat} {buf : Bytes} {state : Nat × Bytes}

/-- What is added so far and the octets that are left make up a sum. -/
structure Sums (sum rest : Nat) (state : Nat × Bytes) : Prop where
  small : state.1 < 2 ^ 64
  short : state.2.length < rest
  whole : foldCarry (state.1 + turn (!bigEndian) * wordSum state.2) = foldCarry sum

theorem Sums.stage {bigEndian} (size count : Nat) {rest : Nat}
    (before : Sums bigEndian sum (rest + count * size) state)
    (most : count * size ≤ rest)
    (even : size % 2 = 0)
    (narrow : size ≤ 8) :
    Sums bigEndian sum rest
      (stage (count * size) (fun buf acc => addWords
        (loadWords bigEndian size ((List.range count).map (· * size)) buf) acc 0) state) := by
  unfold Header.stage
  split
  · rename_i inside
    obtain ⟨small, same⟩ := addWords_spec (loadWords_lt bigEndian narrow _)
      (show state.1 + 0 < 2 ^ 64 from before.small)
    refine ⟨small, ?_, Eq.trans ?_ before.whole⟩
    · have short := before.short
      rw [List.length_drop]
      omega
    · refine foldCarry_taken (by rw [Nat.mul_mod, even]; simp) (same.trans ?_)
      exact foldCarry_add_congr rfl (foldCarry_sum_loadWords bigEndian even count inside)
  · exact ⟨before.small, by omega, before.whole⟩

/-- Enough turns of the loop leave no whole block. -/
theorem Sums.iterate {bigEndian} (turns : Nat)
    (before : Sums bigEndian sum (64 + turns * 64) state) :
    Sums bigEndian sum 64
      ((Header.stage 64 (fun buf acc => addWords
        (loadWords bigEndian 8 [0, 8, 16, 24, 32, 40, 48, 56] buf) acc 0))^[turns] state) := by
  induction turns generalizing state with
  | zero => exact before
  | succ turns ih =>
    rw [Nat.succ_mul, ← Nat.add_assoc] at before
    exact ih (before.stage 8 8 (Nat.le_add_right _ _) rfl (Nat.le_refl 8))

/-- The last octet is the upper one of its word. -/
theorem Sums.last {bigEndian} (before : Sums bigEndian sum 2 state) :
    addLast bigEndian state < 2 ^ 64 ∧ foldCarry (addLast bigEndian state) = foldCarry sum := by
  obtain ⟨acc, buf⟩ := state
  match buf, before with
  | [], before => exact ⟨before.small, before.whole⟩
  | [octet], before =>
    have low := octet.toNat_lt
    have narrow := @loadNat_storeNat_lt bigEndian 2 octet.toNat false
    have swapped : foldCarry (bswapIfBigEndian16 bigEndian octet.toNat) =
        foldCarry (turn (!bigEndian) * (octet.toNat * 256)) := by
      rw [bswapIfBigEndian16,
        foldCarry_loadNat_storeNat bigEndian false (show octet.toNat < 256 ^ 2 by omega) rfl,
        foldCarry_eq_iff]
      cases bigEndian <;> simp [turn] <;> omega
    obtain ⟨bound, same⟩ := addWords_spec (List.forall_mem_singleton.mpr
      (narrow.trans (by decide))) (show acc + 0 < 2 ^ 64 from before.small)
    exact ⟨bound, same.trans ((foldCarry_add_congr rfl swapped).trans before.whole)⟩
  | _ :: _ :: _, before => exact absurd before.short (by simp)

theorem sumAligned_spec (small : acc < 2 ^ 64) :
    sumAligned bigEndian acc buf < 2 ^ 64 ∧
      foldCarry (sumAligned bigEndian acc buf) =
        foldCarry (acc + turn (!bigEndian) * wordSum buf) := by
  have rest : Sums bigEndian (acc + turn (!bigEndian) * wordSum buf) (64 + buf.length * 64)
      (acc, buf) := ⟨small, by dsimp only; omega, rfl⟩
  have rest := rest.iterate buf.length
  have rest := rest.stage 8 4 (Nat.le_refl 32) rfl (by decide)
  have rest := rest.stage 8 2 (Nat.le_refl 16) rfl (by decide)
  have rest := rest.stage 8 1 (Nat.le_refl 8) rfl (by decide)
  have rest := rest.stage 4 1 (Nat.le_refl 4) rfl (by decide)
  have rest := rest.stage 2 1 (Nat.le_refl 2) rfl (by decide)
  exact rest.last

theorem alignBy_spec (size : Nat) {low : Nat} {state : Nat × Nat × Bytes} (even : size % 2 = 0)
    (narrow : size ≤ 4)
    (inside : size ≤ state.2.2.length)
    (small : state.2.1 < low)
    (below : low ≤ 2 ^ 34) :
    (alignBy bigEndian size state).2.1 < low + 2 ^ 32 ∧
      state.2.2.length ≤ (alignBy bigEndian size state).2.2.length + size ∧
      foldCarry ((alignBy bigEndian size state).2.1 +
          turn (!bigEndian) * wordSum (alignBy bigEndian size state).2.2) =
        foldCarry (state.2.1 + turn (!bigEndian) * wordSum state.2.2) := by
  obtain ⟨address, acc, buf⟩ := state
  dsimp only [alignBy] at inside small ⊢
  split
  · have length : (buf.take size).length = size := List.length_take_of_le inside
    have word := @loadNat_lt bigEndian (buf.take size)
    have wide : 256 ^ size ≤ 256 ^ 4 := Nat.pow_le_pow_right (by decide) narrow
    rw [length] at word
    rw [Nat.mod_eq_of_lt (by omega), List.length_drop]
    refine ⟨by dsimp only; omega, by omega, foldCarry_taken even (foldCarry_add_congr rfl ?_)⟩
    exact foldCarry_loadNat bigEndian (by rwa [length])
  · exact ⟨by dsimp only; omega, Nat.le_add_right _ _, rfl⟩

theorem sumEven_eq (small : acc < 2 ^ 33)
    (enough : 7 ≤ buf.length) :
    sumEven bigEndian address acc buf =
      foldCarry (acc + turn (!bigEndian) * wordSum buf) := by
  have inside : 2 ≤ (address, acc, buf).2.2.length := by dsimp only; omega
  obtain ⟨bound, length, same⟩ := alignBy_spec bigEndian 2 rfl (by decide) inside small (by decide)
  obtain ⟨bound, -, same'⟩ := alignBy_spec bigEndian 4 rfl (Nat.le_refl 4)
    (by dsimp only at length; omega) bound (by decide)
  obtain ⟨below, whole⟩ := sumAligned_spec bigEndian (bound.trans (by decide))
  exact (reduce_eq below).trans (whole.trans (same'.trans same))

/-- A folded sum with its octets exchanged is folded. -/
theorem swapped_foldCarry (order : Bool) (sum : Nat) :
    loadNat order (storeNat bigEndian 2 (foldCarry sum)) =
      foldCarry (turn (order != bigEndian) * sum) := by
  have folded : foldCarry sum < 256 ^ 2 := Nat.lt_succ_of_le (foldCarry_le sum)
  have narrow := @loadNat_storeNat_lt bigEndian 2 (foldCarry sum) order
  have same := foldCarry_loadNat_storeNat bigEndian order folded rfl
  have value := foldCarry_mod sum
  rw [← foldCarry_of_le (Nat.le_of_lt_succ narrow), same, foldCarry_eq_iff]
  cases order <;> cases bigEndian <;> simp [turn] <;> omega

theorem sumLong_eq (small : acc < 2 ^ 17)
    (enough : 8 ≤ buf.length) :
    sumLong bigEndian address acc buf = foldCarry (acc + wordSum buf) := by
  have start := foldCarry_loadNat_storeNat bigEndian true (show acc < 256 ^ 4 by omega) rfl
  have narrow := @loadNat_storeNat_lt bigEndian 4 acc true
  dsimp only [sumLong, bswapIfLittleEndian32, bswapIfLittleEndian16]
  rw [Nat.mod_eq_of_lt (show acc < 2 ^ 32 by omega)]
  generalize loadNat true (storeNat bigEndian 4 acc) = swapped at start narrow
  split
  · match buf, enough with
    | octet :: rest, enough =>
      have low := octet.toNat_lt
      have first := swapped_foldCarry bigEndian true octet.toNat
      have reversed := foldCarry_loadNat_storeNat true false narrow rfl
      have wide := @loadNat_storeNat_lt true 4 swapped false
      have short := foldCarry_le (turn (true != bigEndian) * octet.toNat)
      rw [foldCarry_of_le (by omega)] at first
      rw [show byteAt (octet :: rest) 0 = octet from rfl, first, reverseBytes32, reverseBytes16,
        Nat.mod_eq_of_lt (by omega), List.drop_one, List.tail_cons,
        sumEven_eq bigEndian (by omega) (Nat.le_of_succ_le_succ enough), swapped_foldCarry,
        swapped_foldCarry]
      generalize loadNat false (storeNat true 4 swapped) = turned at reversed
      -- One octet further on, all octets have changed their side.
      obtain ⟨restMod, restZero⟩ := foldCarry_eq_iff.mp (foldCarry_wordSum_cons octet rest)
      obtain ⟨startMod, startZero⟩ := foldCarry_eq_iff.mp start
      obtain ⟨turnedMod, turnedZero⟩ := foldCarry_eq_iff.mp reversed
      have firstMod := foldCarry_mod (turn (true != bigEndian) * octet.toNat)
      have firstZero := foldCarry_eq_zero_iff (turn (true != bigEndian) * octet.toNat)
      rw [foldCarry_eq_iff]
      constructor
      · clear restZero startZero turnedZero firstZero
        cases bigEndian <;> simp [turn] at startMod turnedMod firstMod ⊢ <;> omega
      · clear restMod startMod turnedMod firstMod
        cases bigEndian <;> simp [turn] at startZero turnedZero firstZero ⊢ <;> omega
  · rw [sumEven_eq bigEndian (by omega) (by omega), swapped_foldCarry]
    rw [foldCarry_eq_iff] at start ⊢
    cases bigEndian <;> simp [turn] at start ⊢ <;> omega

theorem calculateRest_eq (small : acc < 2 ^ 17) :
    calculateRest bigEndian address acc buf =
      (.ofNat (foldCarry (acc + wordSum buf)), decide (buf.length % 2 ≠ 0)) := by
  unfold calculateRest
  split
  · rename_i short
    have bound := wordSum_le buf
    rw [sumShort_eq small short, reduce_eq (by omega)]
  · rw [sumLong_eq bigEndian small (by omega)]

end Phases

/--
The routine of the machine is the plain checksum, at every address and in
every byte order.  An odd start counts as an octet in front, and the routine
says whether the octets it took are odd in number.
-/
theorem calculateChecksum_eq (bigEndian : Bool) (address : Nat) (buf : Bytes) (odd : Bool)
    (initial : UInt16) :
    calculateChecksum bigEndian address buf odd initial =
      if odd = true ∧ buf = [] then none
      else
        let whole := if odd then 0 :: buf else buf
        some (checksum whole initial, decide (whole.length % 2 ≠ 0)) := by
  have start := initial.toNat_lt
  match odd, buf with
  | true, [] => rfl
  | true, first :: rest =>
    have low := first.toNat_lt
    have sum : initial.toNat + wordSum (0 :: first :: rest) =
        initial.toNat + first.toNat + wordSum rest := by
      rw [wordSum, UInt8.toNat_zero]
      omega
    rw [if_neg (fun empty => List.cons_ne_nil _ _ empty.2), calculateChecksum,
      calculateRest_eq bigEndian (by omega), ← sum, ← Nat.add_mod_right rest.length 2]
    rfl
  | false, buf =>
    rw [if_neg (fun empty => Bool.false_ne_true empty.1), calculateChecksum,
      calculateRest_eq bigEndian (by omega)]
    rfl

end SingTun.Header
