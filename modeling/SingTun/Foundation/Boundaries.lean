import Mathlib.Data.List.Nodup

/-!
# Sets of numbers as boundaries

A set of numbers below a limit is a list of intervals that do not touch.  It
can be told by the boundaries of the intervals alone: a number is inside if an
interval opens at or before it, and none closes in between.  An interval that
reaches the limit does not close.
-/

namespace SingTun.Foundation

open List

/-- The numbers from the first to the last one. -/
structure Interval where
  first : Nat
  last : Nat
  ordered : first ≤ last

def Interval.Contains (interval : Interval) (n : Nat) : Prop :=
  interval.first ≤ n ∧ n ≤ interval.last

/-- Between two intervals there is a number that is in none of them. -/
def Spaced (intervals : List Interval) : Prop :=
  intervals.Pairwise fun left right => left.last + 1 < right.first

/-- The place where an interval opens, or the first one behind it. -/
structure Boundary where
  position : Nat
  closes : Bool
deriving DecidableEq

def Interval.boundaries (limit : Nat) (interval : Interval) : List Boundary :=
  ⟨interval.first, false⟩ ::
    if interval.last + 1 < limit then [⟨interval.last + 1, true⟩] else []

/-- An interval opens at or before the number, and none closes behind it. -/
def Covered (boundaries : List Boundary) (n : Nat) : Prop :=
  ∃ start ∈ boundaries, start.closes = false ∧ start.position ≤ n ∧
    ∀ stop ∈ boundaries, stop.closes = true → start.position < stop.position → n < stop.position

section Boundaries

variable {intervals : List Interval} {limit n : Nat}

theorem mem_boundaries_start {start : Boundary}
    (member : start ∈ intervals.flatMap (Interval.boundaries limit))
    (opens : start.closes = false) :
    ∃ interval ∈ intervals, start.position = interval.first := by
  obtain ⟨interval, listed, inside⟩ := mem_flatMap.mp member
  refine ⟨interval, listed, ?_⟩
  rcases mem_cons.mp inside with rfl | rest
  · rfl
  · split at rest
    · cases mem_singleton.mp rest
      cases opens
    · cases rest

theorem mem_boundaries_stop {stop : Boundary}
    (member : stop ∈ intervals.flatMap (Interval.boundaries limit))
    (closes : stop.closes = true) :
    ∃ interval ∈ intervals, stop.position = interval.last + 1 := by
  obtain ⟨interval, listed, inside⟩ := mem_flatMap.mp member
  refine ⟨interval, listed, ?_⟩
  rcases mem_cons.mp inside with rfl | rest
  · cases closes
  · split at rest
    · cases mem_singleton.mp rest
      rfl
    · cases rest

/-- Of two intervals of the list, one ends before the other begins. -/
theorem Spaced.apart (spaced : Spaced intervals) {left right : Interval}
    (leftMember : left ∈ intervals)
    (rightMember : right ∈ intervals) :
    left = right ∨ left.last + 1 < right.first ∨ right.last + 1 < left.first := by
  exact Pairwise.forall_of_forall_of_flip
    (R := fun one other =>
      one = other ∨ one.last + 1 < other.first ∨ other.last + 1 < one.first)
    (fun _ _ => .inl rfl) (spaced.imp fun less => .inr (.inl less))
    (spaced.imp fun less => .inr (.inr less)) leftMember rightMember

/-- The boundaries tell the intervals. -/
theorem covered_boundaries (spaced : Spaced intervals)
    (below : n < limit) :
    Covered (intervals.flatMap (Interval.boundaries limit)) n ↔
      ∃ interval ∈ intervals, interval.Contains n := by
  constructor
  · rintro ⟨start, member, opens, before, behind⟩
    obtain ⟨interval, listed, first⟩ := mem_boundaries_start member opens
    refine ⟨interval, listed, by omega, ?_⟩
    by_contra outside
    -- The interval closes below the limit, and in front of the number.
    have short : interval.last + 1 < limit := by omega
    have closes : (⟨interval.last + 1, true⟩ : Boundary) ∈
        intervals.flatMap (Interval.boundaries limit) := by
      refine mem_flatMap.mpr ⟨interval, listed, ?_⟩
      unfold Interval.boundaries
      rw [if_pos short]
      exact mem_cons_of_mem _ mem_cons_self
    have ordered := interval.ordered
    have still := behind _ closes rfl (show start.position < interval.last + 1 by omega)
    change n < interval.last + 1 at still
    omega
  · rintro ⟨interval, listed, low, high⟩
    refine ⟨⟨interval.first, false⟩, ?_, rfl, low, ?_⟩
    · exact mem_flatMap.mpr ⟨interval, listed, mem_cons_self⟩
    · intro stop member closes behind
      obtain ⟨other, otherListed, last⟩ := mem_boundaries_stop member closes
      change interval.first < stop.position at behind
      have ordered := other.ordered
      rcases spaced.apart listed otherListed with rfl | apart | apart
      · omega
      · omega
      · omega

/-- No two boundaries are at the same place. -/
theorem nodup_boundaries (spaced : Spaced intervals) :
    ((intervals.flatMap (Interval.boundaries limit)).map Boundary.position).Nodup := by
  induction spaced with
  | nil => exact nodup_nil
  | @cons interval rest before spaced ih =>
    have ordered := interval.ordered
    rw [flatMap_cons, map_append, nodup_append]
    refine ⟨?_, ih, ?_⟩
    · unfold Interval.boundaries
      split
      · simp
        omega
      · simp
    · intro position own other later same
      subst same
      have low : position ≤ interval.last + 1 := by
        obtain ⟨boundary, member, rfl⟩ := mem_map.mp own
        unfold Interval.boundaries at member
        rcases mem_cons.mp member with rfl | member
        · show interval.first ≤ _
          omega
        · split at member
          · cases mem_singleton.mp member
            exact Nat.le_refl _
          · cases member
      obtain ⟨boundary, member, rfl⟩ := mem_map.mp later
      cases closes : boundary.closes with
      | false =>
        obtain ⟨next, listed, first⟩ := mem_boundaries_start member closes
        have apart := before next listed
        omega
      | true =>
        obtain ⟨next, listed, last⟩ := mem_boundaries_stop member closes
        have apart := before next listed
        have nextOrdered := next.ordered
        omega

/-! ## Intervals of any set of numbers -/

/--
The intervals tell the numbers below a limit; they are listed from the last
one to the first one.
-/
structure TellsBelow
    (P : Nat → Prop) (limit : Nat) (intervals : List Interval) : Prop where
  spaced : intervals.Pairwise fun right left => left.last + 1 < right.first
  bounded : ∀ interval ∈ intervals, interval.last < limit
  tells : ∀ n, n < limit → ((∃ interval ∈ intervals, interval.Contains n) ↔ P n)

namespace TellsBelow

variable {P : Nat → Prop} {limit : Nat} {intervals rest : List Interval}
variable {newest : Interval}

theorem skip (below : TellsBelow P limit intervals)
    (fails : ¬P limit) :
    TellsBelow P (limit + 1) intervals := by
  refine ⟨below.spaced, fun interval member =>
    Nat.lt_succ_of_lt (below.bounded interval member), ?_⟩
  intro n small
  rcases Nat.lt_succ_iff_lt_or_eq.mp small with less | rfl
  · exact below.tells n less
  · apply iff_of_false _ fails
    rintro ⟨interval, member, -, high⟩
    exact absurd (below.bounded interval member) (Nat.not_lt.mpr high)

/-- A number that touches no interval starts a new one. -/
theorem push (below : TellsBelow P limit intervals) (holds : P limit)
    (apart : ∀ interval ∈ intervals, interval.last + 1 < limit) :
    TellsBelow P (limit + 1) (⟨limit, limit, Nat.le_refl _⟩ :: intervals) := by
  refine ⟨pairwise_cons.mpr ⟨apart, below.spaced⟩, ?_, ?_⟩
  · intro interval member
    rcases mem_cons.mp member with rfl | member
    · exact Nat.lt_succ_self _
    · exact Nat.lt_succ_of_lt (below.bounded interval member)
  · intro n small
    rcases Nat.lt_succ_iff_lt_or_eq.mp small with less | rfl
    · rw [← below.tells n less, exists_mem_cons_iff]
      apply or_iff_right
      rintro ⟨low, -⟩
      exact absurd less (Nat.not_lt.mpr low)
    · exact iff_of_true ⟨_, mem_cons_self, Nat.le_refl _, Nat.le_refl _⟩ holds

/-- A number behind the newest interval makes it longer. -/
theorem grow (below : TellsBelow P limit (newest :: rest)) (holds : P limit)
    (touches : newest.last + 1 = limit)
    (ordered : newest.first ≤ limit) :
    TellsBelow P (limit + 1) (⟨newest.first, limit, ordered⟩ :: rest) := by
  refine ⟨?_, ?_, ?_⟩
  · have spaced := below.spaced
    rw [pairwise_cons] at spaced ⊢
    exact spaced
  · intro interval member
    rcases mem_cons.mp member with rfl | member
    · exact Nat.lt_succ_self _
    · exact Nat.lt_succ_of_lt (below.bounded interval (mem_cons_of_mem _ member))
  · intro n small
    rcases Nat.lt_succ_iff_lt_or_eq.mp small with less | rfl
    · rw [← below.tells n less, exists_mem_cons_iff, exists_mem_cons_iff]
      apply or_congr _ Iff.rfl
      unfold Interval.Contains
      dsimp only
      omega
    · exact iff_of_true ⟨_, mem_cons_self, ordered, Nat.le_refl _⟩ holds

/-- Every set of numbers below a limit is told by intervals. -/
theorem exists_intervals (P : Nat → Prop) (limit : Nat) :
    ∃ intervals, TellsBelow P limit intervals := by
  classical
  induction limit with
  | zero => exact ⟨[], List.Pairwise.nil, nofun, nofun⟩
  | succ limit ih =>
    obtain ⟨intervals, below⟩ := ih
    by_cases holds : P limit
    · cases intervals with
      | nil => exact ⟨_, below.push holds nofun⟩
      | cons newest rest =>
        have bound := below.bounded newest mem_cons_self
        have ordered := newest.ordered
        by_cases touches : newest.last + 1 = limit
        · exact ⟨_, below.grow holds touches (by omega)⟩
        · refine ⟨_, below.push holds ?_⟩
          intro interval member
          rcases mem_cons.mp member with rfl | member
          · omega
          · have apart := (pairwise_cons.mp below.spaced).1 interval member
            omega
    · exact ⟨intervals, below.skip holds⟩

end TellsBelow

theorem exists_spaced (P : Nat → Prop) (limit : Nat) :
    ∃ intervals, Spaced intervals ∧
      (∀ interval ∈ intervals, interval.last < limit) ∧
      ∀ n, n < limit → ((∃ interval ∈ intervals, interval.Contains n) ↔ P n) := by
  obtain ⟨intervals, spaced, bounded, same⟩ := TellsBelow.exists_intervals P limit
  refine ⟨intervals.reverse, pairwise_reverse.mpr spaced, ?_, ?_⟩
  · simpa only [mem_reverse] using bounded
  · simpa only [mem_reverse] using same

end Boundaries

/-! ## Any boundaries -/

/-- An interval opens at the number. -/
def Opens (boundaries : List Boundary) (n : Nat) : Prop :=
  ∃ start ∈ boundaries, start.closes = false ∧ start.position = n

/-- An interval closes in front of the number. -/
def Closes (boundaries : List Boundary) (n : Nat) : Prop :=
  ∃ stop ∈ boundaries, stop.closes = true ∧ stop.position = n

section Turns

variable {boundaries : List Boundary} {n : Nat}

theorem Opens.covered (opens : Opens boundaries n) : Covered boundaries n := by
  obtain ⟨start, member, first, rfl⟩ := opens
  exact ⟨start, member, first, Nat.le_refl _, fun _ _ _ later => later⟩

theorem covered_zero : Covered boundaries 0 ↔ Opens boundaries 0 := by
  constructor
  · rintro ⟨start, member, first, before, -⟩
    exact ⟨start, member, first, Nat.le_zero.mp before⟩
  · exact Opens.covered

/-- One number further, and the boundaries there decide. -/
theorem covered_succ :
    Covered boundaries (n + 1) ↔ Opens boundaries (n + 1) ∨
      Covered boundaries n ∧ ¬Closes boundaries (n + 1) := by
  constructor
  · rintro ⟨start, member, first, before, behind⟩
    rcases Nat.eq_or_lt_of_le before with here | earlier
    · exact .inl ⟨start, member, first, here⟩
    · refine .inr ⟨⟨start, member, first, by omega, ?_⟩, ?_⟩
      · intro stop listed last later
        have := behind stop listed last later
        omega
      · rintro ⟨stop, listed, last, place⟩
        have := behind stop listed last (by omega)
        omega
  · rintro (opens | ⟨⟨start, member, first, before, behind⟩, stays⟩)
    · exact opens.covered
    · refine ⟨start, member, first, by omega, ?_⟩
      intro stop listed last later
      have further := behind stop listed last later
      have other : stop.position ≠ n + 1 := fun place => stays ⟨stop, listed, last, place⟩
      omega

/-- The boundaries are where a set of numbers begins and ends. -/
structure Turns (boundaries : List Boundary) (limit : Nat) (Inside : Nat → Prop) :
    Prop where
  opens : ∀ n < limit, Opens boundaries n → Inside n
  closes : ∀ n < limit, Closes boundaries n → Inside n → Opens boundaries n
  first : 0 < limit → Inside 0 → Opens boundaries 0
  enters : ∀ n, n + 1 < limit → ¬Inside n → Inside (n + 1) → Opens boundaries (n + 1)
  leaves : ∀ n, n + 1 < limit → Inside n → ¬Inside (n + 1) → Closes boundaries (n + 1)

theorem Turns.covered_iff
    {limit : Nat} {Inside : Nat → Prop} (turns : Turns boundaries limit Inside)
    (below : n < limit) :
    Covered boundaries n ↔ Inside n := by
  induction n with
  | zero => exact covered_zero.trans ⟨turns.opens 0 below, turns.first below⟩
  | succ n ih =>
    have before := ih (by omega)
    rw [covered_succ, before]
    constructor
    · rintro (opens | ⟨inside, stays⟩)
      · exact turns.opens _ below opens
      · by_contra outside
        exact stays (turns.leaves n below inside outside)
    · intro inside
      by_cases earlier : Inside n
      · by_cases closes : Closes boundaries (n + 1)
        · exact .inl (turns.closes _ below closes inside)
        · exact .inr ⟨earlier, closes⟩
      · exact .inl (turns.enters n below earlier inside)

/-- Boundaries tell a set of numbers exactly if they are its turns. -/
theorem covered_iff_turns {limit : Nat} {Inside : Nat → Prop} :
    (∀ n < limit, (Covered boundaries n ↔ Inside n)) ↔ Turns boundaries limit Inside := by
  refine ⟨fun same => ?_, fun turns _ below => turns.covered_iff below⟩
  constructor
  case opens =>
    intro n below opens
    exact (same n below).mp opens.covered
  case closes =>
    intro n below closes inside
    have covered := (same n below).mpr inside
    cases n with
    | zero => exact covered_zero.mp covered
    | succ n =>
      rcases covered_succ.mp covered with opens | ⟨-, stays⟩
      · exact opens
      · exact absurd closes stays
  case first =>
    intro below inside
    exact covered_zero.mp ((same 0 below).mpr inside)
  case enters =>
    intro n below outside inside
    rcases covered_succ.mp ((same _ below).mpr inside) with opens | ⟨before, -⟩
    · exact opens
    · exact absurd ((same n (by omega)).mp before) outside
  case leaves =>
    intro n below inside outside
    by_contra stays
    have covered := (same n (by omega)).mpr inside
    exact outside ((same _ below).mp (covered_succ.mpr (.inr ⟨covered, stays⟩)))

end Turns

/-! ## Boundaries in their order -/

/-- From its first number, up to a number that is not inside. -/
structure Span where
  first : Nat
  stop : Option Nat
deriving DecidableEq

def Span.Contains (span : Span) (n : Nat) : Prop :=
  span.first ≤ n ∧ ∀ stop ∈ span.stop, n < stop

/-- A boundary that opens starts a span, which ends where the next boundary
closes, and does not end otherwise. -/
def spans : List Boundary → List Span
  | [] => []
  | ⟨_, true⟩ :: rest => spans rest
  | ⟨first, false⟩ :: ⟨stop, true⟩ :: rest => ⟨first, some stop⟩ :: spans rest
  | ⟨first, false⟩ :: rest => ⟨first, none⟩ :: spans rest

def ReadOff (boundaries : List Boundary) (n : Nat) : Prop :=
  ∃ span ∈ spans boundaries, span.Contains n

/-- The span of an interval below a limit. -/
def Interval.span (limit : Nat) (interval : Interval) : Span :=
  ⟨interval.first,
    if interval.last + 1 < limit then some (interval.last + 1) else none⟩

section InOrder

variable {intervals : List Interval} {limit n : Nat}

/-- A span without an end is followed by nothing, or by another one. -/
theorem spans_open (first : Nat) :
    spans (⟨first, false⟩ :: intervals.flatMap (Interval.boundaries limit)) = ⟨first, none⟩ ::
        spans (intervals.flatMap (Interval.boundaries limit)) := by
  cases intervals with
  | nil => rfl
  | cons next rest => rfl

theorem spans_boundaries :
    spans (intervals.flatMap (Interval.boundaries limit)) =
      intervals.map (Interval.span limit) := by
  induction intervals with
  | nil => rfl
  | cons interval rest ih =>
    rw [flatMap_cons, map_cons, ← ih]
    unfold Interval.boundaries Interval.span
    split
    · rfl
    · exact spans_open interval.first

theorem readOff_boundaries (below : n < limit) :
    ReadOff (intervals.flatMap (Interval.boundaries limit)) n ↔
      ∃ interval ∈ intervals, interval.Contains n := by
  unfold ReadOff
  simp only [spans_boundaries, mem_map, exists_exists_and_eq_and]
  refine exists_congr fun interval => and_congr_right fun _ => ?_
  unfold Span.Contains Interval.span Interval.Contains
  refine and_congr_right fun _ => ?_
  split
  · simp only [Option.mem_some_iff, forall_eq', Nat.lt_succ_iff]
  · exact iff_of_true nofun (by omega)

/-- Only the last interval has one boundary alone. -/
theorem take_boundaries (spaced : Spaced intervals)
    (bounded : ∀ interval ∈ intervals, interval.last < limit) (count : Nat) :
    (intervals.flatMap (Interval.boundaries limit)).take (count * 2) =
      (intervals.take count).flatMap (Interval.boundaries limit) := by
  induction intervals generalizing count with
  | nil => simp
  | cons interval rest ih =>
    obtain ⟨before, spaced⟩ := pairwise_cons.mp spaced
    obtain ⟨-, boundedRest⟩ := forall_mem_cons.mp bounded
    cases count with
    | zero => simp
    | succ count =>
      rw [flatMap_cons, take_succ_cons, flatMap_cons, ← ih spaced boundedRest]
      by_cases closes : interval.last + 1 < limit
      · simp [Interval.boundaries, closes, Nat.succ_mul]
      · have alone : rest = [] := by
          cases rest with
          | nil => rfl
          | cons next rest =>
            have later := before next mem_cons_self
            have low := boundedRest next mem_cons_self
            have ordered := next.ordered
            omega
        simp [alone, Interval.boundaries, closes, Nat.succ_mul]

end InOrder

end SingTun.Foundation
