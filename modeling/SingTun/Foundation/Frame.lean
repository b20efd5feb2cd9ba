import SingTun.Foundation.Bytes

/-!
# What a change of a byte string leaves alone

`ChangedAt` bounds the positions at which two byte strings of one length
differ.  A store changes its own octets; changes compose when their positions
are among those of a common bound; and what is read elsewhere is the same
before and after.
-/

namespace SingTun.Foundation

/-- Two byte strings of one length that differ at these positions only. -/
structure ChangedAt (changed : Nat → Prop) (before after : Bytes) :
    Prop where
  length : after.length = before.length
  octets : ∀ position, ¬changed position → byteAt after position = byteAt before position

namespace ChangedAt

variable {changed wider : Nat → Prop} {before middle after : Bytes}

theorem refl : ChangedAt changed before before :=
  ⟨rfl, fun _ _ => rfl⟩

theorem trans (first : ChangedAt changed before middle)
    (second : ChangedAt changed middle after) :
    ChangedAt changed before after :=
  ⟨second.length.trans first.length, fun position outside =>
    (second.octets position outside).trans (first.octets position outside)⟩

theorem mono (change : ChangedAt changed before after)
    (among : ∀ position, changed position → wider position) :
    ChangedAt wider before after :=
  ⟨change.length, fun position outside =>
    change.octets position fun inside => outside (among position inside)⟩

variable {target : Nat}

theorem set (octet : UInt8) (written : changed target) :
    ChangedAt changed before (before.set target octet) := by
  refine ⟨List.length_set, fun position outside => ?_⟩
  refine byteAt_set_ne ?_
  rintro rfl
  exact outside written

theorem writeU16 (value : UInt16) (high : changed target) (low : changed (target + 1)) :
    ChangedAt changed before (writeU16 before target value) :=
  (set _ high).trans (set _ low)

theorem overwrite {block : Bytes} (inside : target + block.length ≤ before.length)
    (written : ∀ position, target ≤ position →
      position < target + block.length → changed position) :
    ChangedAt changed before (overwrite before target block) := by
  refine ⟨length_overwrite inside, ?_⟩
  intro position outside
  have front : (before.take target).length = target := by
    rw [List.length_take]
    omega
  rw [overwrite_eq inside]
  rcases Nat.lt_or_ge position target with low | high
  · rw [byteAt_append_left (by rw [List.length_append]; omega),
      byteAt_append_left (by omega), byteAt_take low]
  · have behind : target + block.length ≤ position := by
      by_contra within
      exact outside (written position high (by omega))
    have length : (before.take target ++ block).length = target + block.length := by
      rw [List.length_append, front]
    have place : position = (before.take target ++ block).length +
        (position - (target + block.length)) := by
      omega
    rw [place, byteAt_append_right, byteAt_drop, length]

/-! ## The same store on both sides

What is stored in both byte strings is no longer a difference.  The lemmas are
stated for use backwards, from the last store to the first.
-/

theorem of_length (same : after.length = before.length) : ChangedAt (fun _ => True) before after :=
  ⟨same, fun _ outside => absurd trivial outside⟩

theorem set_both (octet : UInt8)
    (change : ChangedAt (fun k => changed k ∨ k = target) before after) :
    ChangedAt changed (before.set target octet) (after.set target octet) := by
  constructor
  · rw [List.length_set, List.length_set]
    exact change.length
  · intro k outside
    rw [byteAt_set, byteAt_set, change.length]
    split
    · rfl
    · rename_i elsewhere
      by_cases inside : k < before.length
      · apply change.octets k
        rintro (covered | rfl)
        · exact outside covered
        · exact elsewhere ⟨rfl, inside⟩
      · rw [byteAt_of_length_le (Nat.le_of_not_lt inside), byteAt_of_length_le
            (by rw [change.length]; exact Nat.le_of_not_lt inside)]

theorem writeU16_both (value : UInt16)
    (change : ChangedAt (fun k => changed k ∨ (target ≤ k ∧ k < target + 2)) before after) :
    ChangedAt changed (Foundation.writeU16 before target value)
      (Foundation.writeU16 after target value) := by
  apply set_both
  apply set_both
  apply change.mono
  rintro k (covered | here)
  · exact .inl (.inl covered)
  · rw [or_assoc]
    exact .inr (by omega)

theorem writeU32_both (value : UInt32)
    (change : ChangedAt (fun k => changed k ∨ (target ≤ k ∧ k < target + 4)) before after) :
    ChangedAt changed (writeU32 before target value) (writeU32 after target value) := by
  apply writeU16_both
  apply writeU16_both
  apply change.mono
  rintro k (covered | here)
  · exact .inl (.inl covered)
  · rw [or_assoc]
    exact .inr (by omega)

theorem overwrite_both {block : Bytes}
    (inside : target + block.length ≤ before.length)
    (change : ChangedAt
      (fun k => changed k ∨ (target ≤ k ∧ k < target + block.length)) before after) :
    ChangedAt changed (Foundation.overwrite before target block)
      (Foundation.overwrite after target block) := by
  have inside' : target + block.length ≤ after.length := by
    rw [change.length]
    exact inside
  have written : ∀ {bytes}, target + block.length ≤ bytes.length →
      ChangedAt (fun k => target ≤ k ∧ k < target + block.length) bytes
        (Foundation.overwrite bytes target block) :=
    fun fits => overwrite fits fun _ low high => ⟨low, high⟩
  constructor
  · rw [(written inside).length, (written inside').length]
    exact change.length
  · intro k outside
    by_cases here : target ≤ k ∧ k < target + block.length
    · have read : ∀ {bytes}, target + block.length ≤ bytes.length →
          byteAt (Foundation.overwrite bytes target block) k = byteAt block (k - target) := by
        intro bytes fits
        have front : (bytes.take target).length = target := by
          rw [List.length_take]
          omega
        have place : k = (bytes.take target).length + (k - target) := by
          omega
        rw [overwrite_eq fits, byteAt_append_left (by rw [List.length_append]; omega)]
        conv_lhs => rw [place]
        rw [byteAt_append_right]
      rw [read inside, read inside']
    · rw [(written inside).octets k here, (written inside').octets k here]
      apply change.octets k
      rintro (covered | now)
      · exact outside covered
      · exact here now

section

variable (change : ChangedAt changed before after)
include change

theorem eq_of_covered (covered : ∀ k, k < before.length → ¬changed k) : after = before := by
  apply bytes_ext change.length
  intro k inside
  exact change.octets k (covered k (by rwa [← change.length]))

/-! ## Reading elsewhere -/

theorem readU16_eq {position : Nat} (high : ¬changed position)
    (low : ¬changed (position + 1)) :
    readU16 after position = readU16 before position :=
  readU16_congr (change.octets _ high) (change.octets _ low)

theorem window_eq {position count : Nat} (inside : position + count ≤ before.length)
    (outside : ∀ k, position ≤ k → k < position + count → ¬changed k) :
    window after position count = window before position count := by
  refine window_congr (by rw [change.length]; exact inside) inside ?_
  intro k low high
  exact change.octets k (outside k low high)

end

theorem drop_eq {count : Nat} (change : ChangedAt (fun k => k < count) before after) :
    after.drop count = before.drop count := by
  apply bytes_ext
  · rw [List.length_drop, List.length_drop, change.length]
  · intro k _
    rw [byteAt_drop, byteAt_drop]
    exact change.octets _ (by omega)

end ChangedAt

end SingTun.Foundation
