import Mathlib.Data.List.Basic

/-!
# Putting a slice in order while it is read

A loop over a slice takes the length once, but it reads every entry when its
turn comes, and it may store in the slice meanwhile.  Here the entries that
are kept move to the front, where they form two groups.  The groups are never
longer than what has been read, so every entry is still there when it is read.
-/

namespace SingTun.Foundation

open List

variable {α σ : Type}

/-! ## Stores -/

/-- `entries[index] = entry`. -/
def storeAt? (entries : List α) (index : Nat) (entry : α) : Option (List α) :=
  if index < entries.length then some (entries.set index entry) else none

/--
`copy(entries[low:high], entries[sourceLow:sourceHigh])`, for a slice whose
capacity is its length.  The two parts may overlap.
-/
def copyEntries? (entries : List α) (low high sourceLow sourceHigh : Nat) : Option (List α) :=
  if low ≤ high ∧ high ≤ entries.length ∧ sourceLow ≤ sourceHigh ∧ sourceHigh ≤ entries.length then
    let count := min (high - low) (sourceHigh - sourceLow)
    some (entries.take low ++ (entries.drop sourceLow).take count ++ entries.drop (low + count))
  else none

theorem storeAt?_append (front : List α) (old new : α) (rest : List α) :
    storeAt? (front ++ old :: rest) front.length new = some (front ++ new :: rest) := by
  unfold storeAt?
  simp

/-- A block moves by one, and covers the entry behind it. -/
theorem copyEntries?_shift (front block : List α) (behind : α) (rest : List α) :
    ∃ old, copyEntries? (front ++ block ++ behind :: rest)
        (front.length + 1) (front.length + block.length + 1) front.length
        (front.length + block.length) = some (front ++ old :: (block ++ rest)) := by
  obtain ⟨old, tail, head⟩ : ∃ old tail, block ++ behind :: rest = old :: tail := by
    cases block with
    | nil => exact ⟨_, _, rfl⟩
    | cons old block => exact ⟨_, _, rfl⟩
  have count : min (front.length + block.length + 1 - (front.length + 1))
      (front.length + block.length - front.length) = block.length := by
    omega
  have kept : (front ++ block ++ behind :: rest).take (front.length + 1) = front ++ [old] := by
    rw [append_assoc, head, take_length_add_append]
    rfl
  have moved : ((front ++ block ++ behind :: rest).drop front.length).take
      block.length = block := by
    rw [append_assoc, drop_left, take_left]
  have later : (front ++ block ++ behind :: rest).drop
      (front.length + 1 + block.length) = rest := by
    have position : front.length + 1 + block.length = (front ++ block ++ [behind]).length := by
      simp only [length_append, length_singleton]
      omega
    rw [append_cons (front ++ block), position, drop_left]
  refine ⟨old, ?_⟩
  unfold copyEntries?
  rw [if_pos (by simp only [length_append, length_cons]; omega)]
  dsimp only
  rw [count, kept, moved, later]
  simp only [append_assoc, cons_append, nil_append]

/-! ## Loops -/

/-- `for _, entry := range entries`, with entries that the body may change. -/
def rangeEntries (entries : σ → List α) (body : α → σ → Option σ) : Nat → Nat → σ → Option σ
  | _, 0, state => some state
  | index, count + 1, state => do
      let entry ← (entries state)[index]?
      let state ← body entry state
      rangeEntries entries body (index + 1) count state

/-- What holds before a turn, for the entry of that turn, holds after it. -/
theorem rangeEntries_spec {entries : σ → List α} {body : α → σ → Option σ}
    {Inv : List α → List α → σ → Prop}
    (turn : ∀ done entry unread state, Inv done (entry :: unread) state →
      (entries state)[done.length]? = some entry ∧ ∃ state', body entry state = some state' ∧
          Inv (done ++ [entry]) unread state')
    (unread done : List α) (state : σ) (inv : Inv done unread state) :
    ∃ state', rangeEntries entries body done.length unread.length state =
        some state' ∧ Inv (done ++ unread) [] state' := by
  induction unread generalizing done state with
  | nil =>
    rw [append_nil]
    exact ⟨state, rfl, inv⟩
  | cons entry unread ih =>
    obtain ⟨read, next, ran, kept⟩ := turn done entry unread state inv
    obtain ⟨final, rest, holds⟩ := ih (done ++ [entry]) next kept
    rw [length_append, length_singleton] at rest
    rw [append_assoc, singleton_append] at holds
    refine ⟨final, ?_, holds⟩
    rw [length_cons, rangeEntries, read]
    change (body entry state).bind _ = _
    rw [ran]
    exact rest

/-! ## Groups -/

/--
Two groups at the front, then entries that are not needed any more, then those
that are still to be read, at the position of the next turn.
-/
def Arranged (first second unread : List α) (position : Nat) (entries : List α) : Prop :=
  ∃ used, entries = first ++ second ++ used ++ unread ∧
    first.length + second.length + used.length = position

namespace Arranged

variable {first second unread entries : List α} {entry : α} {position : Nat}

theorem start (entries : List α) : Arranged [] [] entries 0 entries :=
  ⟨[], rfl, rfl⟩

section

variable (arranged : Arranged first second (entry :: unread) position entries)
include arranged

theorem read : entries[position]? = some entry := by
  obtain ⟨used, rfl, rfl⟩ := arranged
  rw [← length_append, ← length_append,
    List.getElem?_append_right (Nat.le_refl _), Nat.sub_self]
  rfl

theorem skip : Arranged first second unread (position + 1) entries := by
  obtain ⟨used, rfl, rfl⟩ := arranged
  refine ⟨used ++ [entry], by simp, ?_⟩
  rw [length_append, length_singleton]
  omega

/-- There is an entry behind the groups, the last one if no other. -/
theorem behind :
    ∃ old used, entries = first ++ second ++ old :: (used ++ unread) ∧
      first.length + second.length + used.length = position := by
  obtain ⟨used, rfl, rfl⟩ := arranged
  cases used with
  | nil => exact ⟨entry, [], by simp, rfl⟩
  | cons old used =>
    refine ⟨old, used ++ [entry], by simp, ?_⟩
    simp only [length_append, length_cons, length_nil]

/-- The entry becomes the last one of the second group. -/
theorem addSecond :
    ∃ entries', storeAt? entries (first.length + second.length) entry =
      some entries' ∧ Arranged first (second ++ [entry]) unread (position + 1) entries' := by
  obtain ⟨old, used, rfl, rfl⟩ := arranged.behind
  rw [← length_append, storeAt?_append]
  refine ⟨_, rfl, used, by simp, ?_⟩
  simp only [length_append, length_singleton]
  omega

/-- The second group moves, and the entry is stored in front of it. -/
theorem addFirst :
    ∃ shifted entries', copyEntries? entries (first.length + 1)
        (first.length + second.length + 1) first.length
        (first.length + second.length) = some shifted ∧
      storeAt? shifted first.length entry = some entries' ∧
      Arranged (first ++ [entry]) second unread (position + 1) entries' := by
  obtain ⟨old, used, rfl, rfl⟩ := arranged.behind
  obtain ⟨covered, shifted⟩ := copyEntries?_shift first second old (used ++ unread)
  refine ⟨_, _, shifted, storeAt?_append first covered entry _, used, ?_, ?_⟩
  · simp
  · simp only [length_append, length_singleton]
    omega

end

/-- Nothing has to move if the second group is empty. -/
theorem addFirst_of_nil (arranged : Arranged first [] (entry :: unread) position entries) :
    ∃ entries', storeAt? entries first.length entry = some entries' ∧
      Arranged (first ++ [entry]) [] unread (position + 1) entries' := by
  obtain ⟨entries', stored, used, layout, count⟩ := arranged.addSecond
  refine ⟨entries', stored, used, ?_, ?_⟩
  · simpa using layout
  · simpa using count

theorem take_first (arranged : Arranged first second unread position entries) :
    entries.take first.length = first := by
  obtain ⟨used, rfl, -⟩ := arranged
  simp

theorem take_second (arranged : Arranged first second unread position entries) :
    (entries.drop first.length).take second.length = second := by
  obtain ⟨used, rfl, -⟩ := arranged
  simp

end Arranged

end SingTun.Foundation
