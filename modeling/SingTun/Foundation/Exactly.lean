import SingTun.Foundation.Bytes

/-!
# When checked access succeeds

`Exactly P Post` is a specification of a computation that may fail: it has a
result if and only if `P`, and its result meets `Post`.  Specifications of
parts give that of the whole, so that for a program of bounds-checked stores
one reads off the exact condition under which no bound is exceeded.
-/

namespace SingTun.Foundation

/-- There is a result exactly if `P`, and it meets `Post`. -/
structure Exactly {α : Type} (P : Prop) (Post : α → Prop) (run : Option α) :
    Prop where
  isSome_iff : run.isSome = true ↔ P
  post : ∀ result, run = some result → Post result

namespace Exactly

variable {α β : Type} {P Q : Prop} {Post : α → Prop} {Post' : β → Prop} {run : Option α}

theorem pure {result : α} (meets : Post result) : Exactly True Post (some result) := by
  constructor
  · simp
  · rintro _ ⟨⟩
    exact meets

theorem ite {result : α} [Decidable P] (meets : P → Post result) :
    Exactly P Post (if P then some result else none) := by
  constructor
  · split <;> simp_all
  · intro other
    split
    · rename_i holds
      rintro ⟨⟩
      exact meets holds
    · exact nofun

theorem bind {next : α → Option β} (first : Exactly P Post run)
    (second : ∀ result, Post result → Exactly Q Post' (next result)) :
    Exactly (P ∧ Q) Post' (run.bind next) := by
  cases result : run with
  | none =>
    have fails : ¬P := fun holds => by
      simpa [result] using first.isSome_iff.mpr holds
    constructor
    · simp [fails]
    · exact nofun
  | some value =>
    have holds : P := first.isSome_iff.mp (by rw [result]; rfl)
    have rest := second value (first.post value result)
    constructor
    · rw [Option.bind_some, rest.isSome_iff]
      exact (and_iff_right holds).symm
    · exact rest.post

theorem congr (spec : Exactly P Post run) (same : P ↔ Q) : Exactly Q Post run :=
  ⟨spec.isSome_iff.trans same, spec.post⟩

end Exactly

/-! ## Checked access to a byte string of a known length -/

section Access

variable {bytes : Bytes} {length position : Nat}

theorem exactly_setByte? (octet : UInt8) (known : bytes.length = length) :
    Exactly (position < length) (fun after => after.length = length)
      (setByte? bytes position octet) := by
  subst known
  exact .ite fun _ => List.length_set

theorem exactly_readU16? (known : bytes.length = length) :
    Exactly (position + 2 ≤ length) (fun _ => True) (readU16? bytes position) := by
  subst known
  exact .ite fun _ => trivial

theorem exactly_writeU16? (value : UInt16) (known : bytes.length = length) :
    Exactly (position + 2 ≤ length) (fun after => after.length = length)
      (writeU16? bytes position value) := by
  subst known
  exact .ite fun _ => length_writeU16 ..

theorem exactly_writeU32? (value : UInt32) (known : bytes.length = length) :
    Exactly (position + 4 ≤ length) (fun after => after.length = length)
      (writeU32? bytes position value) := by
  subst known
  exact .ite fun _ => length_writeU32 ..

theorem exactly_slice? {low high : Nat} (known : bytes.length = length) :
    Exactly (low ≤ high ∧ high ≤ length) (fun part => part = window bytes low (high - low))
      (slice? bytes low high) := by
  subst known
  exact .ite fun _ => rfl

/-- What falls past the end is dropped. -/
theorem length_overwrite_of_le (bytes : Bytes) {position : Nat} (block : Bytes)
    (inside : position ≤ bytes.length) :
    (overwrite bytes position block).length = bytes.length := by
  simp only [overwrite, List.length_append, List.length_take, List.length_drop]
  omega

end Access

end SingTun.Foundation
