import Mathlib.Data.List.Pairwise
import SingTun.Redirect.Chains

/-!
# Rules for the users of sockets

The users of `include_uid` and `exclude_uid` are the ranges of a set of
intervals, or one value that is compared.  The keys are octets in the order of
the host, and the kernel compares keys from the first octet on; on a
little-endian host that is the order of the numbers with their octets reversed.
A range of numbers is no interval of that order, and a set tells a list of
ranges only if the list turns where that order does.
-/

namespace SingTun.Redirect

open Foundation Header List
open Route (Range CoversUID containsUID_iff containsUID_single)

/-! ## The order of the keys -/

section Order

variable {host : Endian}

variable (host : Endian)

/-- The place of a number among all keys. -/
def Endian.order (uid : UInt32) : Nat :=
  beNat (host.putUint32 uid)

@[simp]
theorem Endian.length_putUint32 (uid : UInt32) : (host.putUint32 uid).length = 4 := by
  cases host with
  | little =>
    unfold Endian.putUint32 bigEndian32
    rw [length_reverse, length_beOctets]
  | big => exact length_beOctets 4 _

theorem Endian.order_lt (uid : UInt32) : host.order uid < 2 ^ 32 := by
  have bound := beNat_lt (host.putUint32 uid)
  rw [host.length_putUint32] at bound
  exact bound

theorem Endian.order_injective : Function.Injective host.order := by
  intro left right same
  apply host.putUint32_injective
  refine beNat_injective ?_ same
  rw [host.length_putUint32, host.length_putUint32]

theorem Endian.putUint32_uint32 {data : Bytes} (length : data.length = 4) :
    host.putUint32 (host.uint32 data) = data := by
  have read : ∀ data : Bytes, data.length = 4 → bigEndian32 (UInt32.ofNat (beNat data)) = data := by
    intro data length
    have bound : beNat data < 2 ^ 32 := by
      have bound := beNat_lt data
      rw [length] at bound
      omega
    unfold bigEndian32
    rw [UInt32.toNat_ofNat', Nat.mod_eq_of_lt bound, ← length, beOctets_beNat]
  cases host with
  | little =>
    unfold Endian.uint32 Endian.putUint32
    rw [read data.reverse (by rw [length_reverse, length]), reverse_reverse]
  | big => exact read data length

/-- Every number is the place of a uid. -/
theorem Endian.exists_order {n : Nat} (small : n < 2 ^ 32) : ∃ uid, host.order uid = n := by
  refine ⟨host.uint32 (beOctets 4 n), ?_⟩
  unfold Endian.order
  rw [host.putUint32_uint32 (length_beOctets 4 n), beNat_beOctets small]

@[simp]
theorem Endian.order_zero : host.order 0 = 0 := by
  cases host <;> decide

theorem Endian.order_big (uid : UInt32) : Endian.big.order uid = uid.toNat :=
  @beNat_beOctets 4 _ uid.toNat_lt

end Order

/-! ## Sets of uids -/

/-- The kernel compares keys from the first octet on; a key is found if it is
at or after a start element and before the next end element. -/
def NFTKernel.Intervals (kernel : NFTKernel) : Prop :=
  ∀ elements key, kernel.finds elements key = true ↔
    Covered (elements.map SetElement.boundary) (beNat key)

/-- In the order of the keys, the ranges begin and end only where one of them
has its first uid or its last one.  The first two say that a range has a uid,
and that no other one goes on behind it. -/
structure Fits (host : Endian) (uids : List (Range UInt32)) : Prop where
  opens : ∀ range ∈ uids, CoversUID uids range.start
  closes : ∀ range ∈ uids, CoversUID uids (range.stop + 1) →
    ∃ next ∈ uids, next.start = range.stop + 1
  enters : ∀ uid next, host.order next = host.order uid + 1 →
    ¬CoversUID uids uid → CoversUID uids next → ∃ range ∈ uids, range.start = next
  leaves : ∀ uid next, host.order next = host.order uid + 1 →
    CoversUID uids uid → ¬CoversUID uids next → ∃ range ∈ uids, range.stop + 1 = next

section Sets

variable {host : Endian} {uids : List (Range UInt32)}

theorem opens_uidElements (uid : UInt32) :
    Opens ((uidElements host uids).map SetElement.boundary) (host.order uid) ↔
      ∃ range ∈ uids, range.start = uid := by
  unfold Opens uidElements
  simp only [mem_map, mem_flatMap, mem_cons, not_mem_nil, or_false]
  constructor
  · rintro ⟨_, ⟨_, ⟨range, member, rfl | rfl⟩, rfl⟩, opens, place⟩
    · exact ⟨range, member, host.order_injective place⟩
    · cases opens
  · rintro ⟨range, member, rfl⟩
    exact ⟨_, ⟨_, ⟨range, member, .inl rfl⟩, rfl⟩, rfl, rfl⟩

theorem closes_uidElements (uid : UInt32) :
    Closes ((uidElements host uids).map SetElement.boundary) (host.order uid) ↔
      ∃ range ∈ uids, range.stop + 1 = uid := by
  unfold Closes uidElements
  simp only [mem_map, mem_flatMap, mem_cons, not_mem_nil, or_false]
  constructor
  · rintro ⟨_, ⟨_, ⟨range, member, rfl | rfl⟩, rfl⟩, closes, place⟩
    · cases closes
    · exact ⟨range, member, host.order_injective place⟩
  · rintro ⟨range, member, rfl⟩
    exact ⟨_, ⟨_, ⟨range, member, .inr rfl⟩, rfl⟩, rfl, rfl⟩

/-- The first uid of all is the first one of a range. -/
theorem coversUID_zero (inside : CoversUID uids 0) : ∃ range ∈ uids, range.start = 0 := by
  obtain ⟨range, member, here⟩ := inside
  have low := ((containsUID_iff range 0).mp here).1
  exact ⟨range, member, UInt32.le_antisymm low UInt32.zero_le⟩

theorem exists_order_iff {uid : UInt32} :
    (∃ other, host.order other = host.order uid ∧ CoversUID uids other) ↔ CoversUID uids uid := by
  constructor
  · rintro ⟨other, same, inside⟩
    exact host.order_injective same ▸ inside
  · exact fun inside => ⟨uid, rfl, inside⟩

/-- The set turns where the ranges do. -/
theorem turns_uidElements_iff :
    Foundation.Turns ((uidElements host uids).map SetElement.boundary) (2 ^ 32)
        (fun n => ∃ uid, host.order uid = n ∧ CoversUID uids uid) ↔ Fits host uids := by
  have inside_iff : ∀ uid, (∃ other, host.order other = host.order uid ∧ CoversUID uids other) ↔
        CoversUID uids uid := fun _ => exists_order_iff
  constructor
  · intro turns
    constructor
    case opens =>
      intro range member
      have opens := (@opens_uidElements host uids range.start).mpr ⟨range, member, rfl⟩
      exact (inside_iff _).mp (turns.opens _ (host.order_lt _) opens)
    case closes =>
      intro range member inside
      have closes := (@closes_uidElements host uids (range.stop + 1)).mpr ⟨range, member, rfl⟩
      exact (opens_uidElements _).mp (turns.closes _ (host.order_lt _) closes
        ((inside_iff _).mpr inside))
    case enters =>
      intro uid next after outside inside
      have below := host.order_lt next
      have opens := turns.enters (host.order uid) (after ▸ below)
        (fun here => outside ((inside_iff _).mp here)) (after ▸ (inside_iff _).mpr inside)
      exact (opens_uidElements _).mp (after ▸ opens)
    case leaves =>
      intro uid next after inside outside
      have below := host.order_lt next
      have closes := turns.leaves (host.order uid) (after ▸ below) ((inside_iff _).mpr inside)
        (fun here => outside ((inside_iff _).mp (after ▸ here)))
      exact (closes_uidElements _).mp (after ▸ closes)
  · intro fits
    constructor
    case opens =>
      intro n below opens
      obtain ⟨uid, rfl⟩ := host.exists_order below
      obtain ⟨range, member, rfl⟩ := (opens_uidElements uid).mp opens
      exact (inside_iff _).mpr (fits.opens range member)
    case closes =>
      intro n below closes inside
      obtain ⟨uid, rfl⟩ := host.exists_order below
      obtain ⟨range, member, rfl⟩ := (closes_uidElements uid).mp closes
      exact (opens_uidElements _).mpr (fits.closes range member ((inside_iff _).mp inside))
    case first =>
      rintro - ⟨uid, place, inside⟩
      cases host.order_injective (place.trans host.order_zero.symm)
      have opens := (@opens_uidElements host uids 0).mpr (coversUID_zero inside)
      rwa [host.order_zero] at opens
    case enters =>
      rintro n below outside ⟨next, place, inside⟩
      obtain ⟨uid, rfl⟩ := host.exists_order (Nat.lt_of_succ_lt below)
      have range := fits.enters uid next place
        (fun here => outside ((inside_iff _).mpr here)) inside
      exact place ▸ (opens_uidElements next).mpr range
    case leaves =>
      rintro n below ⟨uid, rfl, inside⟩ outside
      obtain ⟨next, place⟩ := host.exists_order below
      have range := fits.leaves uid next place inside (fun here => outside ⟨next, place, here⟩)
      exact place ▸ (closes_uidElements next).mpr range

/-- What the kernel finds in the set of a list, and when that is the list. -/
theorem finds_uidElements_iff {kernel : NFTKernel} (intervals : kernel.Intervals) :
    (∀ uid, kernel.finds (uidElements host uids) (host.putUint32 uid) = true ↔
        CoversUID uids uid) ↔ Fits host uids := by
  rw [← turns_uidElements_iff, ← covered_iff_turns]
  constructor
  · intro same n below
    obtain ⟨uid, rfl⟩ := host.exists_order below
    refine (intervals _ _).symm.trans ((same uid).trans ?_)
    exact exists_order_iff.symm
  · intro same uid
    refine (intervals _ _).trans ((same _ (host.order_lt uid)).trans ?_)
    exact exists_order_iff

/-- No uid is in two of the ranges, and there is one behind each of them. -/
structure Apart (uids : List (Range UInt32)) : Prop where
  disjoint : uids.Pairwise fun left right =>
    ∀ uid, ¬(left.containsUID uid = true ∧ right.containsUID uid = true)
  ordered : ∀ range ∈ uids, range.start ≤ range.stop
  bounded : ∀ range ∈ uids, range.stop < 0xffffffff

theorem Apart.eq_of_containsUID (apart : Apart uids) {left right : Range UInt32} {uid : UInt32}
    (leftMember : left ∈ uids)
    (rightMember : right ∈ uids)
    (inLeft : left.containsUID uid = true)
    (inRight : right.containsUID uid = true) :
    left = right := by
  by_contra other
  have symmetric : Std.Symm fun left right : Range UInt32 =>
      ∀ uid, ¬(left.containsUID uid = true ∧ right.containsUID uid = true) :=
    ⟨fun _ _ apart uid both => apart uid both.symm⟩
  exact apart.disjoint.forall leftMember rightMember other uid ⟨inLeft, inRight⟩

theorem toNat_stop_add_one {range : Range UInt32} (bounded : range.stop < 0xffffffff) :
    (range.stop + 1).toNat = range.stop.toNat + 1 := by
  have small : range.stop.toNat < 4294967295 := UInt32.lt_iff_toNat_lt.mp bounded
  rw [UInt32.toNat_add, UInt32.toNat_one]
  omega

/-- On a big-endian host the keys are in the order of the numbers, and ranges
that are apart are intervals of it. -/
theorem Apart.fits_big (apart : Apart uids) : Fits .big uids := by
  constructor
  case opens =>
    intro range member
    exact ⟨range, member, (containsUID_iff _ _).mpr ⟨UInt32.le_refl _, apart.ordered range member⟩⟩
  case closes =>
    rintro range member ⟨next, nextMember, inside⟩
    refine ⟨next, nextMember, ?_⟩
    have behind := toNat_stop_add_one (apart.bounded range member)
    obtain ⟨low, high⟩ := (containsUID_iff _ _).mp inside
    by_contra other
    -- Then the last uid of the range would be in both of them.
    have last : next.containsUID range.stop = true := by
      rw [containsUID_iff, UInt32.le_iff_toNat_le, UInt32.le_iff_toNat_le]
      rw [UInt32.le_iff_toNat_le] at low high
      have earlier : next.start.toNat ≠ (range.stop + 1).toNat :=
        fun same => other (UInt32.toNat_inj.mp same)
      omega
    have own : range.containsUID range.stop = true := (containsUID_iff _ _).mpr
        ⟨apart.ordered range member, UInt32.le_refl _⟩
    cases apart.eq_of_containsUID nextMember member last own
    rw [UInt32.le_iff_toNat_le] at high
    omega
  case enters =>
    rintro uid next after outside ⟨range, member, inside⟩
    rw [Endian.order_big, Endian.order_big] at after
    refine ⟨range, member, ?_⟩
    by_contra other
    apply outside
    refine ⟨range, member, ?_⟩
    have earlier : range.start.toNat ≠ next.toNat := fun same => other (UInt32.toNat_inj.mp same)
    rw [containsUID_iff, UInt32.le_iff_toNat_le, UInt32.le_iff_toNat_le] at inside ⊢
    omega
  case leaves =>
    rintro uid next after ⟨range, member, inside⟩ outside
    rw [Endian.order_big, Endian.order_big] at after
    refine ⟨range, member, ?_⟩
    have behind := toNat_stop_add_one (apart.bounded range member)
    apply UInt32.toNat_inj.mp
    by_contra other
    apply outside
    refine ⟨range, member, ?_⟩
    rw [containsUID_iff, UInt32.le_iff_toNat_le, UInt32.le_iff_toNat_le] at inside ⊢
    omega

end Sets

/-! ## The rules -/

/-- The packet meets a rule that returns it. -/
def Returns (env : NFTEnv) (flow : Flow) (rules : List NFTRule) : Prop :=
  (evalRules env flow rules).2 = some .returned

/-- The user of the socket that the packet belongs to. -/
def NFTPacket.HasUID (packet : NFTPacket) (host : Endian) (uid : UInt32) : Prop :=
  packet.field (.metaKey .skuid) = some (host.putUint32 uid)

section Rules

variable {env : NFTEnv} {flow : Flow} {uids : List (Range UInt32)} {uid : UInt32}

theorem Guards.returns_iff {exprs : NFTRule} {Holds : NFTPacket → Prop}
    (guards : Guards env exprs Holds) :
    Returns env flow [exprs ++ countReturn] ↔ Holds flow.packet := by
  unfold Returns
  obtain ⟨after, -, ⟨holds, returns⟩ | ⟨fails, goesOn⟩⟩ :=
    @Guards.evalRules_return env flow _ countReturn _ [] guards fun _ => rfl
  · rw [returns]
    exact iff_of_true rfl holds
  · rw [goesOn]
    exact iff_of_false nofun fails

/-- A comparison of the user, equal or not. -/
theorem returns_cmp (known : flow.packet.HasUID env.host uid) (data : Bytes) :
    (Returns env flow [[.readMeta .skuid 1, .cmp .eq 1 data] ++ countReturn] ↔
        env.host.putUint32 uid = data) ∧
      (Returns env flow [[.readMeta .skuid 1, .cmp .neq 1 data] ++ countReturn] ↔
        env.host.putUint32 uid ≠ data) := by
  have read := fun (accepts : Bytes → Bool) (test : Expr) tests =>
    @Guards.returns_iff env flow _ _ (@guards_test env (.readMeta .skuid 1) test
      (fun packet => packet.field (.metaKey .skuid)) accepts (fun _ => rfl) tests)
  constructor
  · rw [read (· == data) (.cmp .eq 1 data) fun _ => rfl, known]
    simp
  · rw [read (· != data) (.cmp .neq 1 data) fun _ => rfl, known]
    simp

theorem returns_lookup (known : flow.packet.HasUID env.host uid) (set : SetRef) (invert : Bool) :
    Returns env flow [[.readMeta .skuid 1, .lookup 1 set invert] ++ countReturn] ↔
      (env.finds (env.host.putUint32 uid) set != invert) = true := by
  rw [(guards_lookup (by decide : MetaKey.skuid ≠ .mark) set invert).returns_iff]
  rw [known]
  simp

/-! ## The rules of a list -/

/-- The lists that the rule for the included users tells.  One uid is written
in big-endian. -/
def IncludeFits (host : Endian) (uids : List (Range UInt32)) : Prop :=
  (∃ uid, uids = [Range.single uid] ∧ host.putUint32 uid = bigEndian32 uid) ∨
    (∀ uid, uids ≠ [Range.single uid]) ∧ Fits host uids

/-- The lists that the rule for the excluded users tells. -/
def ExcludeFits (host : Endian) (uids : List (Range UInt32)) : Prop :=
  (∃ uid, uids = [Range.single uid]) ∨ Fits host uids

variable {r : AutoRedirect}

/-- One uid, or a list that makes a set. -/
theorem single_cases {range : Range UInt32} {others : List (Range UInt32)} :
    (others ≠ [] ∨ range.start ≠ range.stop) ∧ (∀ uid, range :: others ≠ [Range.single uid]) ∨
      ¬(others ≠ [] ∨ range.start ≠ range.stop) ∧ range :: others = [Range.single range.start] := by
  by_cases several : others ≠ [] ∨ range.start ≠ range.stop
  · refine .inl ⟨several, ?_⟩
    rintro uid same
    cases same
    rcases several with more | other
    · exact more rfl
    · exact other rfl
  · refine .inr ⟨several, ?_⟩
    rw [not_or, not_not, not_not] at several
    obtain ⟨rfl, same⟩ := several
    rw [List.cons.injEq]
    refine ⟨?_, rfl⟩
    cases range
    cases same
    rfl

theorem coversUID_single {one : UInt32} : CoversUID [Range.single one] uid ↔ uid = one := by
  simp [CoversUID, containsUID_single]

theorem returns_includeUIDRules (known : flow.packet.HasUID env.host uid)
    (nonempty : r.tunOptions.includeUID ≠ []) :
    (∀ one, r.tunOptions.includeUID = [Range.single one] →
      (Returns env flow (r.includeUIDRules env.host) ↔ env.host.putUint32 uid ≠ bigEndian32 one)) ∧
    ((∀ one, r.tunOptions.includeUID ≠ [Range.single one]) →
      (Returns env flow (r.includeUIDRules env.host) ↔
        ¬env.kernel.finds (uidElements env.host r.tunOptions.includeUID)
          (env.host.putUint32 uid) = true)) := by
  unfold AutoRedirect.includeUIDRules
  cases list : r.tunOptions.includeUID with
  | nil => exact absurd list nonempty
  | cons range others =>
    dsimp only
    rcases @single_cases range others with ⟨several, other⟩ | ⟨one, same⟩
    · rw [if_pos several, returns_lookup known]
      refine ⟨fun one same => absurd same (other one), fun _ => ?_⟩
      simp [NFTEnv.finds]
    · rw [if_neg one, (returns_cmp known _).2]
      refine ⟨fun uid same => ?_, fun other => absurd same (other _)⟩
      cases same
      rfl

theorem returns_excludeUIDRules (known : flow.packet.HasUID env.host uid) :
    (∀ one, r.tunOptions.excludeUID = [Range.single one] →
      (Returns env flow (r.excludeUIDRules env.host) ↔
        env.host.putUint32 uid = env.host.putUint32 one)) ∧
    ((∀ one, r.tunOptions.excludeUID ≠ [Range.single one]) →
      (Returns env flow (r.excludeUIDRules env.host) ↔ r.tunOptions.excludeUID ≠ [] ∧
          env.kernel.finds (uidElements env.host r.tunOptions.excludeUID)
            (env.host.putUint32 uid) = true)) := by
  unfold AutoRedirect.excludeUIDRules
  cases list : r.tunOptions.excludeUID with
  | nil =>
    refine ⟨nofun, fun _ => ?_⟩
    exact iff_of_false nofun fun both => both.1 rfl
  | cons range others =>
    dsimp only
    rcases @single_cases range others with ⟨several, other⟩ | ⟨one, same⟩
    · rw [if_pos several, returns_lookup known]
      refine ⟨fun one same => absurd same (other one), fun _ => ?_⟩
      simp [NFTEnv.finds]
    · rw [if_neg one, (returns_cmp known _).1]
      refine ⟨fun uid same => ?_, fun other => absurd same (other _)⟩
      cases same
      rfl

/-- A packet of which nothing but the user is known. -/
def NFTPacket.ofUID (host : Endian) (uid : UInt32) : NFTPacket where
  mark := 0
  ctMark := none
  field field :=
    if field = .metaKey .skuid then some (host.putUint32 uid) else none

theorem hasUID_ofUID (host : Endian) (uid : UInt32) :
    (NFTPacket.ofUID host uid).enter.packet.HasUID host uid := by
  simp [NFTPacket.HasUID, NFTPacket.ofUID, NFTPacket.enter]

/-- A rule reads nothing but the user. -/
theorem returns_forall_iff {rules : List NFTRule} {Test Wanted : UInt32 → Prop}
    (decides : ∀ (flow : Flow) (uid : UInt32),
      flow.packet.HasUID env.host uid → (Returns env flow rules ↔ Test uid)) :
    (∀ (flow : Flow) (uid : UInt32), flow.packet.HasUID env.host uid →
        (Returns env flow rules ↔ Wanted uid)) ↔ ∀ uid, Test uid ↔ Wanted uid := by
  constructor
  · intro right uid
    have known := hasUID_ofUID env.host uid
    exact (decides _ uid known).symm.trans (right _ uid known)
  · intro same flow uid known
    exact (decides flow uid known).trans (same uid)

theorem fits_nil (host : Endian) : Fits host [] where
  opens := nofun
  closes := nofun
  enters _ _ _ _ inside := absurd inside (by simp [CoversUID])
  leaves _ _ _ inside := absurd inside (by simp [CoversUID])

/-- The rule for the included users. -/
theorem includeUIDRules_iff
    (intervals : env.kernel.Intervals)
    (nonempty : r.tunOptions.includeUID ≠ []) :
    (∀ (flow : Flow) (uid : UInt32), flow.packet.HasUID env.host uid →
      (Returns env flow (r.includeUIDRules env.host) ↔ ¬CoversUID r.tunOptions.includeUID uid)) ↔
      IncludeFits env.host r.tunOptions.includeUID := by
  by_cases single : ∃ one, r.tunOptions.includeUID = [Range.single one]
  · obtain ⟨one, same⟩ := single
    rw [returns_forall_iff fun flow uid known =>
      (returns_includeUIDRules known nonempty).1 one same, same]
    constructor
    · intro right
      refine .inl ⟨one, rfl, ?_⟩
      by_contra written
      exact (right one).mp written (coversUID_single.mpr rfl)
    · rintro (⟨other, equal, written⟩ | ⟨other, -⟩)
      · cases equal
        intro uid
        rw [← written, coversUID_single, env.host.putUint32_injective.ne_iff]
      · exact absurd rfl (other one)
  · have other := not_exists.mp single
    rw [returns_forall_iff fun flow uid known =>
      (returns_includeUIDRules known nonempty).2 other]
    simp only [not_iff_not]
    rw [finds_uidElements_iff intervals]
    constructor
    · exact fun fits => .inr ⟨other, fits⟩
    · rintro (⟨one, same, -⟩ | ⟨-, fits⟩)
      · exact absurd same (other one)
      · exact fits

/-- The rule for the excluded users. -/
theorem excludeUIDRules_iff (intervals : env.kernel.Intervals) :
    (∀ (flow : Flow) (uid : UInt32), flow.packet.HasUID env.host uid →
      (Returns env flow (r.excludeUIDRules env.host) ↔ CoversUID r.tunOptions.excludeUID uid)) ↔
      ExcludeFits env.host r.tunOptions.excludeUID := by
  by_cases single : ∃ one, r.tunOptions.excludeUID = [Range.single one]
  · refine iff_of_true ?_ (.inl single)
    obtain ⟨one, same⟩ := single
    intro flow uid known
    rw [(returns_excludeUIDRules known).1 one same, same, coversUID_single,
      env.host.putUint32_injective.eq_iff]
  · have other := not_exists.mp single
    have fits : ExcludeFits env.host r.tunOptions.excludeUID ↔
        Fits env.host r.tunOptions.excludeUID := or_iff_right single
    rw [returns_forall_iff fun flow uid known =>
      (returns_excludeUIDRules known).2 other, fits]
    by_cases none : r.tunOptions.excludeUID = []
    · rw [none]
      refine iff_of_true (fun uid => ?_) (fits_nil _)
      simp [CoversUID]
    · simp only [none, ne_eq, not_false_eq_true, true_and]
      exact finds_uidElements_iff intervals

/-- On a big-endian host the rules tell all lists of ranges that are apart. -/
theorem uidRules_tell_big (big : env.host = .big)
    (intervals : env.kernel.Intervals)
    (included : Apart r.tunOptions.includeUID)
    (excluded : Apart r.tunOptions.excludeUID)
    (known : flow.packet.HasUID env.host uid) :
    (r.tunOptions.includeUID ≠ [] →
        (Returns env flow (r.includeUIDRules env.host) ↔ ¬CoversUID r.tunOptions.includeUID uid)) ∧
      (Returns env flow (r.excludeUIDRules env.host) ↔ CoversUID r.tunOptions.excludeUID uid) := by
  have fits := big ▸ included.fits_big
  constructor
  · intro nonempty
    refine (includeUIDRules_iff intervals nonempty).mpr ?_ flow uid known
    by_cases single : ∃ one, r.tunOptions.includeUID = [Range.single one]
    · obtain ⟨one, same⟩ := single
      refine .inl ⟨one, same, ?_⟩
      rw [big]
      rfl
    · exact .inr ⟨not_exists.mp single, fits⟩
  · refine (excludeUIDRules_iff intervals).mpr ?_ flow uid known
    exact .inr (big ▸ excluded.fits_big)

end Rules

/-- On a little-endian host the rules tell the lists exactly if these fit the
order of the keys: one included uid is the same with its octets reversed, and
other lists turn where that order does. -/
theorem uidRules_tell_iff (r : AutoRedirect) (kernel : NFTKernel) (intervals : kernel.Intervals)
    (sets : Sets) :
    (∀ (flow : Flow) (uid : UInt32), flow.packet.HasUID .little uid →
      (r.tunOptions.includeUID ≠ [] →
        (Returns ⟨.little, kernel, sets⟩ flow (r.includeUIDRules .little) ↔
          ¬CoversUID r.tunOptions.includeUID uid)) ∧
      (Returns ⟨.little, kernel, sets⟩ flow (r.excludeUIDRules .little) ↔
        CoversUID r.tunOptions.excludeUID uid)) ↔ IncludeFits .little r.tunOptions.includeUID ∧
      ExcludeFits .little r.tunOptions.excludeUID := by
  have included := @includeUIDRules_iff ⟨.little, kernel, sets⟩ r intervals
  rw [← @excludeUIDRules_iff ⟨.little, kernel, sets⟩ r intervals]
  constructor
  · intro right
    refine ⟨?_, fun flow uid known => (right flow uid known).2⟩
    by_cases none : r.tunOptions.includeUID = []
    · rw [none]
      exact .inr ⟨fun _ => nofun, fits_nil _⟩
    · exact (included none).mp fun flow uid known => (right flow uid known).1 none
  · rintro ⟨fits, excluded⟩ flow uid known
    exact ⟨fun nonempty => (included nonempty).mpr fits flow uid known, excluded flow uid known⟩

/-! ## Lists that do not fit -/

section Lists

theorem lenientKernel_intervals : lenientKernel.Intervals :=
  fun _ _ => decide_eq_true_iff

/-- The sample redirect with lists of users. -/
def uidRedirect (includeUID excludeUID : List (Range UInt32)) : AutoRedirect :=
  { sampleRedirect with
    tunOptions :=
      { sampleRedirect.tunOptions with
        includeUID
        excludeUID } }

def littleEnv : NFTEnv := ⟨.little, lenientKernel, fun _ => none⟩

/-- The one user that is included returns, and a user of an excluded range does
not. -/
theorem uidRules_miss :
    lenientKernel.Intervals ∧
      (Returns littleEnv (NFTPacket.ofUID .little 1000).enter
          ((uidRedirect [Range.single 1000] []).includeUIDRules .little) ∧
        CoversUID [Range.single 1000] 1000) ∧
      (¬Returns littleEnv (NFTPacket.ofUID .little 10239).enter
          ((uidRedirect [] [⟨10000, 10999⟩]).excludeUIDRules .little) ∧
        CoversUID [⟨10000, 10999⟩] 10239) := by
  refine ⟨lenientKernel_intervals, ⟨?_, by decide⟩, ?_, by decide⟩
  · unfold Returns
    decide
  · unfold Returns
    decide

theorem coversUID_whole (uid : UInt32) : CoversUID [⟨0, 0xfffffffe⟩] uid ↔ uid ≠ 0xffffffff := by
  have inside : CoversUID [⟨0, 0xfffffffe⟩] uid ↔ uid.toNat ≤ 0xfffffffe := by
    simp [CoversUID, containsUID_iff, UInt32.le_iff_toNat_le]
  have small := uid.toNat_lt
  have last : uid = 0xffffffff ↔ uid.toNat = 0xffffffff := UInt32.toNat_inj.symm
  rw [inside, Ne, last]
  omega

/-- All users but the last one are an interval in both orders. -/
theorem fits_whole : Fits .little [⟨0, 0xfffffffe⟩] := by
  constructor
  · simp [coversUID_whole]
  · simp [coversUID_whole]
  · intro uid next after outside
    have last : uid = 0xffffffff := by simpa [coversUID_whole] using outside
    have top : Endian.little.order 0xffffffff = 0xffffffff := by decide
    have small := Endian.little.order_lt next
    rw [after, last, top] at small
    omega
  · rintro uid next - - outside
    have last : next = 0xffffffff := by simpa [coversUID_whole] using outside
    exact ⟨_, mem_singleton_self _, last.symm⟩

/-- Of the interval of all users but the last one, only its users return. -/
theorem uidRules_tell_excluded :
    Returns littleEnv (NFTPacket.ofUID .little 10239).enter
        ((uidRedirect [] [⟨0, 0xfffffffe⟩]).excludeUIDRules .little) ∧
      ¬Returns littleEnv (NFTPacket.ofUID .little 0xffffffff).enter
        ((uidRedirect [] [⟨0, 0xfffffffe⟩]).excludeUIDRules .little) := by
  have tells := (uidRules_tell_iff (uidRedirect [] [⟨0, 0xfffffffe⟩])
    lenientKernel lenientKernel_intervals fun _ => none).mpr
      ⟨.inr ⟨fun _ => nofun, fits_nil _⟩, .inr fits_whole⟩
  exact ⟨(tells _ 10239 (hasUID_ofUID .little 10239)).2.mpr ((coversUID_whole _).mpr (by decide)),
    fun returns => (coversUID_whole _).mp
      ((tells _ _ (hasUID_ofUID .little 0xffffffff)).2.mp returns) rfl⟩

/-- On a big-endian host the user of the excluded range returns. -/
theorem uidRules_tell_big_excluded :
    Returns ⟨.big, lenientKernel, fun _ => none⟩ (NFTPacket.ofUID .big 10239).enter
      ((uidRedirect [] [⟨10000, 10999⟩]).excludeUIDRules .big) := by
  have apart : Apart [⟨10000, 10999⟩] := ⟨pairwise_singleton _ _, by decide, by decide⟩
  have empty : Apart [] := ⟨.nil, by simp, by simp⟩
  exact (uidRules_tell_big rfl lenientKernel_intervals empty apart
    (hasUID_ofUID .big 10239)).2.mpr (by decide)

end Lists

end SingTun.Redirect
