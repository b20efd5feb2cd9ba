import Mathlib.Algebra.Group.Int.Defs
import Mathlib.Algebra.Group.Nat.Defs
import SingTun.Route.Rule

/-!
# Rules for Android packages

`BuildAndroidRules` turns the users and packages of the options into lists of
uids, and `ExcludedRanges` turns these into the ranges that are not captured.
An empty list of included uids stands for all of them there, also if packages
were asked for and none was found.
-/

namespace SingTun.Route

open Foundation List Option

/-! ## The rules -/

def androidUserRange : UInt32 := 100000

/-- The packages that are installed. -/
structure PackageManager where
  idByPackage : String → Option UInt32
  idBySharedPackage : String → Option UInt32

/-- The options that `BuildAndroidRules` reads and writes. -/
structure AndroidOptions where
  includeAndroidUser : List Int
  includePackage : List String
  excludePackage : List String
  includeUID : List (Range UInt32)
  excludeUID : List (Range UInt32)

/-- The errors that are handled. -/
inductive PackageError
  | includeNotFound (packageName : String)
  | excludeNotFound (packageName : String)
deriving DecidableEq

def PackageError.text : PackageError → String
  | .includeNotFound packageName =>
    "package to include not found: " ++ packageName
  | .excludeNotFound packageName =>
    "package to exclude not found: " ++ packageName

section Rules

/-- `strconv.ParseUint` of a decimal number with 32 bits. -/
def parseUint32? (name : String) : Option UInt32 :=
  let digits := name.toList
  let value := digits.foldl (fun value digit => 10 * value + (digit.toNat - 48)) 0
  if digits ≠ [] ∧ digits.all Char.isDigit ∧ value < 2 ^ 32 then
    some (UInt32.ofNat value)
  else none

/-- The uids of one Android user. -/
def userUIDs (androidUser : Int) : Range UInt32 where
  start := UInt32.ofInt androidUser * androidUserRange
  stop := UInt32.ofInt (androidUser + 1) * androidUserRange - 1

/-- `common.Uniq` and `sort.Ints`. -/
def sortedUsers (androidUsers : List Int) : List Int :=
  androidUsers.eraseDups.mergeSort

/-- `includeUser`: the users of the options, those of the directories under
`/data/user`, if it can be read, or the first one. -/
def includeUser (androidUsers : List Int) (userDirs : Option (List String)) : List UInt32 :=
  let included := (sortedUsers androidUsers).map UInt32.ofInt
  let found :=
    if included = [] then userDirs.elim [] (List.filterMap parseUint32?)
    else included
  if found = [] then [0] else found

/-- An app of each of the users. -/
def appUIDs (id : UInt32) (users : List UInt32) : List (Range UInt32) :=
  users.map fun androidUser =>
    Range.single (id + androidUser * androidUserRange)

variable (packages : PackageManager) (users : List UInt32)

/-- One round of the loop over `IncludePackage`. -/
def includeOne (packageName : String) : List (Range UInt32) × List PackageError :=
  match packages.idBySharedPackage packageName with
  | some sharedId => (appUIDs sharedId users, [])
  | none =>
    match packages.idByPackage packageName with
    | some userId => (appUIDs userId users, [])
    | none => ([], [.includeNotFound packageName])

/-- One round of the loop over `ExcludePackage`, which goes on behind a shared
package. -/
def excludeOne (packageName : String) : List (Range UInt32) × List PackageError :=
  let shared := (packages.idBySharedPackage packageName).elim [] (appUIDs · users)
  match packages.idByPackage packageName with
  | some userId => (shared ++ appUIDs userId users, [])
  | none => (shared, [.excludeNotFound packageName])

/-- `BuildAndroidRules`, with the errors it hands on. -/
def buildAndroidRules (ranges : Ranges) (userDirs : Option (List String))
    (options : AndroidOptions) : AndroidOptions × List PackageError :=
  let userExcludeRange :=
    if options.includeAndroidUser ≠ [] then
      ranges.revert 0 userEnd ((sortedUsers options.includeAndroidUser).map userUIDs)
    else []
  let users := includeUser options.includeAndroidUser userDirs
  let included := options.includePackage.eraseDups.map (includeOne packages users)
  let excluded := options.excludePackage.eraseDups.map (excludeOne packages users)
  ({ includeAndroidUser := sortedUsers options.includeAndroidUser
     includePackage := options.includePackage.eraseDups
     excludePackage := options.excludePackage.eraseDups
     includeUID := options.includeUID ++ included.flatMap Prod.fst
     excludeUID := options.excludeUID ++ userExcludeRange ++ excluded.flatMap Prod.fst },
    included.flatMap Prod.snd ++ excluded.flatMap Prod.snd)

end Rules

/-! ## Sets of uids -/

section Sets

/-- `ranges.Exclude`, `ranges.Revert` and `ranges.Merge` mean what they say. -/
structure Ranges.Meaning (ranges : Ranges) : Prop where
  exclude : ∀ included excluded uid, CoversUID (ranges.exclude included excluded) uid ↔
      CoversUID included uid ∧ ¬CoversUID excluded uid
  revert : ∀ start stop list uid, CoversUID (ranges.revert start stop list) uid ↔
      start ≤ uid ∧ uid ≤ stop ∧ ¬CoversUID list uid
  merge : ∀ list uid, CoversUID (ranges.merge list) uid ↔ CoversUID list uid

@[simp]
theorem coversUID_nil (uid : UInt32) : ¬CoversUID [] uid := by
  rintro ⟨range, member, -⟩
  cases member

@[simp]
theorem coversUID_append (left right : List (Range UInt32)) (uid : UInt32) :
    CoversUID (left ++ right) uid ↔ CoversUID left uid ∨ CoversUID right uid := by
  simp only [CoversUID, mem_append, or_and_right, exists_or]

theorem coversUID_flatMap {α : Type} (items : List α) (ranges : α → List (Range UInt32))
    (uid : UInt32) :
    CoversUID (items.flatMap ranges) uid ↔ ∃ item ∈ items, CoversUID (ranges item) uid := by
  constructor
  · rintro ⟨range, member, inside⟩
    obtain ⟨item, own, here⟩ := mem_flatMap.mp member
    exact ⟨item, own, range, here, inside⟩
  · rintro ⟨item, own, range, here, inside⟩
    exact ⟨range, mem_flatMap.mpr ⟨item, own, here⟩, inside⟩

/-- The uids outside of the excluded ranges. -/
theorem coversUID_buildExcludedRanges {ranges : Ranges} (meaning : ranges.Meaning)
    (included excluded : List (Range UInt32)) {uid : UInt32} (small : uid ≤ userEnd) :
    CoversUID (buildExcludedRanges ranges included excluded) uid ↔
      if included ≠ [] then ¬CoversUID included uid ∨ CoversUID excluded uid
      else CoversUID excluded uid := by
  unfold buildExcludedRanges
  rw [meaning.merge]
  split
  · rw [meaning.revert, meaning.exclude]
    have zero : (0 : UInt32) ≤ uid := UInt32.zero_le
    constructor
    · rintro ⟨-, -, outside⟩
      by_cases inside : CoversUID included uid
      · exact .inr (not_not.mp fun other => outside ⟨inside, other⟩)
      · exact .inl inside
    · rintro (outside | other)
      · exact ⟨zero, small, fun both => outside both.1⟩
      · exact ⟨zero, small, fun both => both.2 other⟩
  · exact Iff.rfl

end Sets

/-! ## Apps and users -/

section Apps

section

variable (packages : PackageManager)

/-- The id of a shared user or a package. -/
def PackageManager.id? (name : String) : Option UInt32 :=
  (packages.idBySharedPackage name).or (packages.idByPackage name)

/-- The uid of an installed package, for one of the users. -/
def AppUID (names : List String) (users : List UInt32) (uid : UInt32) : Prop :=
  ∃ name ∈ names, ∃ id, packages.id? name = some id ∧
    ∃ androidUser ∈ users, uid.toNat = id.toNat + 100000 * androidUser.toNat

/-- A uid of one of the included users. -/
def UserUID (options : AndroidOptions) (uid : UInt32) : Prop :=
  options.includeAndroidUser = [] ∨ ((uid.toNat / 100000 : Nat) : Int) ∈ options.includeAndroidUser

/-- What the options ask for. -/
def Requested (options : AndroidOptions) (users : List UInt32) (uid : UInt32) : Prop :=
  UserUID options uid ∧ (options.includePackage = [] ∨
      AppUID packages options.includePackage users uid) ∧
    ¬AppUID packages options.excludePackage users uid

end

/-- What is assumed of the system: no name has two ids, ids are those of one
user, and the uids of all users are numbers with 32 bits. -/
structure Installed (packages : PackageManager) (options : AndroidOptions)
    (users : List UInt32) : Prop where
  distinct : ∀ name, packages.idBySharedPackage name = none ∨ packages.idByPackage name = none
  apps : ∀ name id, packages.id? name = some id → id.toNat < 100000
  included : ∀ androidUser ∈ options.includeAndroidUser,
    0 ≤ androidUser ∧ (androidUser + 1) * 100000 ≤ 2 ^ 32
  users : ∀ androidUser ∈ users, (androidUser.toNat + 1) * 100000 ≤ 2 ^ 32

theorem toNat_ofInt {value : Int} (low : 0 ≤ value)
    (high : value < 2 ^ 32) :
    (UInt32.ofInt value).toNat = value.toNat := by
  unfold UInt32.ofInt
  rw [UInt32.toNat_ofNat', Int.emod_eq_of_lt low (by simpa using high)]
  omega

/-- The range of a user has the uids of that user. -/
theorem containsUID_userUIDs {androidUser : Int} (low : 0 ≤ androidUser)
    (high : (androidUser + 1) * 100000 ≤ 2 ^ 32) (uid : UInt32) :
    (userUIDs androidUser).containsUID uid = true ↔
      ((uid.toNat / 100000 : Nat) : Int) = androidUser := by
  have first : (UInt32.ofInt androidUser * androidUserRange).toNat =
      androidUser.toNat * 100000 := by
    rw [UInt32.toNat_mul, toNat_ofInt low (by omega)]
    show androidUser.toNat * 100000 % 2 ^ 32 = _
    omega
  have second : (UInt32.ofInt (androidUser + 1) * androidUserRange - 1).toNat =
      (androidUser.toNat + 1) * 100000 - 1 := by
    rw [UInt32.toNat_sub, UInt32.toNat_mul, toNat_ofInt (by omega) (by omega)]
    show (2 ^ 32 - 1 + (androidUser + 1).toNat * 100000 % 2 ^ 32) % 2 ^ 32 = _
    omega
  rw [containsUID_iff, UInt32.le_iff_toNat_le, UInt32.le_iff_toNat_le]
  show (UInt32.ofInt androidUser * androidUserRange).toNat ≤ uid.toNat ∧ uid.toNat ≤
      (UInt32.ofInt (androidUser + 1) * androidUserRange - 1).toNat ↔ _
  omega

variable {packages : PackageManager} {options : AndroidOptions}
  {users : List UInt32} (installed : Installed packages options users)

include installed

theorem coversUID_users (uid : UInt32) :
    CoversUID ((sortedUsers options.includeAndroidUser).map userUIDs) uid ↔
      ((uid.toNat / 100000 : Nat) : Int) ∈ options.includeAndroidUser := by
  have same : ∀ androidUser, androidUser ∈ sortedUsers options.includeAndroidUser ↔
        androidUser ∈ options.includeAndroidUser := by
    intro androidUser
    unfold sortedUsers
    rw [mem_mergeSort, mem_eraseDups]
  constructor
  · rintro ⟨range, member, inside⟩
    obtain ⟨androidUser, own, rfl⟩ := mem_map.mp member
    have own := (same androidUser).mp own
    obtain ⟨low, high⟩ := installed.included androidUser own
    rw [(containsUID_userUIDs low high uid).mp inside]
    exact own
  · intro own
    obtain ⟨low, high⟩ := installed.included _ own
    exact ⟨_, mem_map_of_mem ((same _).mpr own), (containsUID_userUIDs low high uid).mpr rfl⟩

theorem coversUID_appUIDs {id : UInt32} (small : id.toNat < 100000) (uid : UInt32) :
    CoversUID (appUIDs id users) uid ↔ ∃ androidUser ∈ users,
        uid.toNat = id.toNat + 100000 * androidUser.toNat := by
  have sum : ∀ androidUser ∈ users, (id + androidUser * androidUserRange).toNat =
        id.toNat + 100000 * androidUser.toNat := by
    intro androidUser own
    have bound := installed.users androidUser own
    show (id.toNat + androidUser.toNat * 100000 % 2 ^ 32) % 2 ^ 32 = _
    omega
  constructor
  · rintro ⟨range, member, inside⟩
    obtain ⟨androidUser, own, rfl⟩ := mem_map.mp member
    refine ⟨androidUser, own, ?_⟩
    rw [(containsUID_single _ _).mp inside]
    exact sum androidUser own
  · rintro ⟨androidUser, own, same⟩
    refine ⟨_, mem_map_of_mem own, ?_⟩
    rw [containsUID_single]
    apply UInt32.toNat_inj.mp
    rw [same, sum androidUser own]

/-- The uids of one name, in both lists. -/
theorem coversUID_includeOne (name : String) (uid : UInt32) :
    CoversUID (includeOne packages users name).1 uid ↔
      ∃ id, packages.id? name = some id ∧ ∃ androidUser ∈ users,
        uid.toNat = id.toNat + 100000 * androidUser.toNat := by
  have apps := installed.apps name
  unfold PackageManager.id? at *
  unfold includeOne
  cases shared : packages.idBySharedPackage name with
  | some sharedId =>
    simp only [some_or, Option.some.injEq, exists_eq_left']
    exact coversUID_appUIDs installed (apps sharedId (by rw [shared]; rfl)) uid
  | none =>
    cases found : packages.idByPackage name with
    | some userId =>
      simp only [none_or, Option.some.injEq, exists_eq_left']
      exact coversUID_appUIDs installed (apps userId (by rw [shared, found]; rfl)) uid
    | none => simp

theorem coversUID_excludeOne (name : String) (uid : UInt32) :
    CoversUID (excludeOne packages users name).1 uid ↔
      ∃ id, packages.id? name = some id ∧ ∃ androidUser ∈ users,
        uid.toNat = id.toNat + 100000 * androidUser.toNat := by
  rw [← coversUID_includeOne installed]
  unfold excludeOne includeOne
  rcases installed.distinct name with absent | absent
  · rw [absent]
    cases packages.idByPackage name with
    | some userId => exact Iff.rfl
    | none => exact Iff.rfl
  · rw [absent]
    cases packages.idBySharedPackage name with
    | some sharedId => exact Iff.rfl
    | none => exact Iff.rfl

omit installed in
theorem coversUID_apps {one : String → List (Range UInt32) × List PackageError}
    (covers : ∀ name uid, CoversUID (one name).1 uid ↔
      ∃ id, packages.id? name = some id ∧ ∃ androidUser ∈ users,
        uid.toNat = id.toNat + 100000 * androidUser.toNat) (names : List String) (uid : UInt32) :
    CoversUID ((names.eraseDups.map one).flatMap Prod.fst) uid ↔
      AppUID packages names users uid := by
  rw [flatMap_map, coversUID_flatMap]
  refine exists_congr fun name => ?_
  rw [mem_eraseDups, covers]

omit installed in
/-- No uid is included exactly if no name is found. -/
theorem included_eq_nil_iff (some_users : users ≠ []) (names : List String) :
    (names.eraseDups.map (includeOne packages users)).flatMap Prod.fst = [] ↔
      ∀ name ∈ names, packages.id? name = none := by
  have one : ∀ name, (includeOne packages users name).1 = [] ↔ packages.id? name = none := by
    intro name
    unfold includeOne PackageManager.id? appUIDs
    cases packages.idBySharedPackage name with
    | some sharedId => simp [some_users]
    | none =>
      cases packages.idByPackage name with
      | some userId => simp [some_users]
      | none => simp
  rw [flatMap_map, flatMap_eq_nil_iff]
  refine forall_congr' fun name => ?_
  rw [mem_eraseDups, one]

end Apps

/-! ## What is captured -/

section CapturedUID

variable {packages : PackageManager} {options : AndroidOptions}
  {ranges : Ranges} {userDirs : Option (List String)}

theorem includeUser_ne_nil (androidUsers : List Int) :
    includeUser androidUsers userDirs ≠ [] := by
  have last : ∀ found : List UInt32, (if found = [] then [0] else found) ≠ [] := by
    intro found
    split
    · exact cons_ne_nil _ _
    · assumption
  exact last _

/-- A uid that is not in the excluded ranges. -/
def CapturedUID (packages : PackageManager) (ranges : Ranges)
    (userDirs : Option (List String)) (options : AndroidOptions) (uid : UInt32) : Prop :=
  ¬CoversUID (buildExcludedRanges ranges
    (buildAndroidRules packages ranges userDirs options).1.includeUID
    (buildAndroidRules packages ranges userDirs options).1.excludeUID) uid

/-- The uids that the rules capture, for any options. -/
theorem captured_iff (meaning : ranges.Meaning)
    (noInclude : options.includeUID = [])
    (noExclude : options.excludeUID = [])
    (installed : Installed packages options (includeUser options.includeAndroidUser userDirs))
    {uid : UInt32} (small : uid ≤ userEnd) :
    CapturedUID packages ranges userDirs options uid ↔ UserUID options uid ∧
        ((∀ name ∈ options.includePackage, packages.id? name = none) ∨
          AppUID packages options.includePackage
            (includeUser options.includeAndroidUser userDirs) uid) ∧
        ¬AppUID packages options.excludePackage
          (includeUser options.includeAndroidUser userDirs) uid := by
  have some_users := @includeUser_ne_nil userDirs options.includeAndroidUser
  have zero : (0 : UInt32) ≤ uid := UInt32.zero_le
  -- The complement of the users.
  have others : CoversUID (if options.includeAndroidUser ≠ [] then
      ranges.revert 0 userEnd ((sortedUsers options.includeAndroidUser).map userUIDs)
      else []) uid ↔ ¬UserUID options uid := by
    unfold UserUID
    split
    · rename_i given
      rw [meaning.revert, coversUID_users installed]
      simp [zero, small, given]
    · rename_i empty
      simp [not_not.mp empty]
  unfold CapturedUID
  rw [coversUID_buildExcludedRanges meaning _ _ small]
  unfold buildAndroidRules
  simp only [noInclude, noExclude, nil_append, coversUID_append,
    coversUID_apps (coversUID_includeOne installed),
    coversUID_apps (coversUID_excludeOne installed), others]
  have nil := @included_eq_nil_iff packages _ some_users options.includePackage
  by_cases absent : ∀ name ∈ options.includePackage, packages.id? name = none
  · rw [if_neg (not_not.mpr (nil.mpr absent)), not_or, not_not]
    exact ⟨fun outside => ⟨outside.1, .inl absent, outside.2⟩,
      fun requested => ⟨requested.1, requested.2.2⟩⟩
  · rw [if_pos fun empty => absent (nil.mp empty), not_or, not_not, not_or, not_not]
    constructor
    · rintro ⟨included, user, excluded⟩
      exact ⟨user, .inr included, excluded⟩
    · rintro ⟨user, unfound | included, excluded⟩
      · exact absurd unfound absent
      · exact ⟨included, user, excluded⟩

/--
The rules capture what the options ask for exactly if no packages are to be
included, one of them is installed, or all uids of the users are excluded.
-/
theorem captured_iff_requested (meaning : ranges.Meaning)
    (noInclude : options.includeUID = [])
    (noExclude : options.excludeUID = [])
    (installed : Installed packages options (includeUser options.includeAndroidUser userDirs)) :
    (∀ uid ≤ userEnd, CapturedUID packages ranges userDirs options uid ↔ Requested packages options
          (includeUser options.includeAndroidUser userDirs) uid) ↔ options.includePackage = [] ∨
        (∃ name ∈ options.includePackage, packages.id? name ≠ none) ∨
        ∀ uid ≤ userEnd, UserUID options uid → AppUID packages options.excludePackage
            (includeUser options.includeAndroidUser userDirs) uid := by
  have captured := fun {uid} =>
    @captured_iff _ _ _ _ meaning noInclude noExclude installed uid
  constructor
  · intro agrees
    by_cases found : ∃ name ∈ options.includePackage, packages.id? name ≠ none
    · exact .inr (.inl found)
    by_cases unlisted : options.includePackage = []
    · exact .inl unlisted
    refine .inr (.inr fun uid small user => ?_)
    have absent : ∀ name ∈ options.includePackage, packages.id? name = none := by
      intro name member
      exact not_not.mp fun resolved => found ⟨name, member, resolved⟩
    by_contra outside
    have taken := (captured small).mpr ⟨user, .inl absent, outside⟩
    rcases ((agrees uid small).mp taken).2.1 with empty | included
    · exact unlisted empty
    · obtain ⟨name, member, id, resolved, -⟩ := included
      rw [absent name member] at resolved
      cases resolved
  · intro cases uid small
    rw [captured small]
    refine and_congr_right fun user => ?_
    rcases cases with unlisted | ⟨name, member, found⟩ | all
    · simp [unlisted]
    · refine and_congr_left fun _ => ?_
      constructor
      · rintro (absent | included)
        · exact absurd (absent name member) found
        · exact .inr included
      · rintro (unlisted | included)
        · rw [unlisted] at member
          cases member
        · exact .inr included
    · have excluded := all uid small user
      simp [excluded]

end CapturedUID

/-! ## A package that is not installed -/

section Missing

/-- One range without another one. -/
def Range.without (range cut : Range UInt32) : List (Range UInt32) :=
  if cut.stop < cut.start ∨ cut.stop < range.start ∨ range.stop < cut.start then
    [range]
  else
    (if range.start < cut.start then [⟨range.start, cut.start - 1⟩] else []) ++
      (if cut.stop < range.stop then [⟨cut.stop + 1, range.stop⟩] else [])

def withoutAll (included excluded : List (Range UInt32)) : List (Range UInt32) :=
  excluded.foldl (fun left cut => left.flatMap (·.without cut)) included

/-- Ranges that are cut, and not merged. -/
def cutRanges : Ranges where
  exclude := withoutAll
  revert start stop list := withoutAll [⟨start, stop⟩] list
  merge := id

theorem coversUID_without (range cut : Range UInt32) (uid : UInt32) :
    CoversUID (range.without cut) uid ↔
      range.containsUID uid = true ∧ ¬cut.containsUID uid = true := by
  have one : ∀ range : Range UInt32, CoversUID [range] uid ↔ range.containsUID uid = true := by
    intro range
    simp [CoversUID]
  have optional : ∀ (p : Prop) [Decidable p] (range : Range UInt32),
      CoversUID (if p then [range] else []) uid ↔ p ∧ range.containsUID uid = true := by
    intro p _ range
    split
    · rename_i holds
      rw [one]
      exact (and_iff_right holds).symm
    · rename_i fails
      exact iff_of_false (coversUID_nil uid) fun both => fails both.1
  have small := range.stop.toNat_lt
  unfold Range.without
  split
  · rename_i apart
    rw [one, containsUID_iff, containsUID_iff]
    simp only [UInt32.le_iff_toNat_le, UInt32.lt_iff_toNat_lt] at *
    omega
  · rename_i meets
    rw [coversUID_append, optional, optional, containsUID_iff, containsUID_iff,
      containsUID_iff, containsUID_iff]
    simp only [UInt32.le_iff_toNat_le, UInt32.lt_iff_toNat_lt,
      UInt32.toNat_sub, UInt32.toNat_add, UInt32.toNat_one] at *
    omega

theorem coversUID_withoutAll (included excluded : List (Range UInt32)) (uid : UInt32) :
    CoversUID (withoutAll included excluded) uid ↔
      CoversUID included uid ∧ ¬CoversUID excluded uid := by
  unfold withoutAll
  induction excluded generalizing included with
  | nil => simp
  | cons cut excluded ih =>
    rw [foldl_cons, ih, coversUID_flatMap]
    simp only [coversUID_without]
    have head : CoversUID (cut :: excluded) uid ↔
        cut.containsUID uid = true ∨ CoversUID excluded uid := by
      simp [CoversUID]
    rw [head]
    constructor
    · rintro ⟨⟨range, member, inside, outside⟩, rest⟩
      exact ⟨⟨range, member, inside⟩, fun both => both.elim outside rest⟩
    · rintro ⟨⟨range, member, inside⟩, outside⟩
      exact ⟨⟨range, member, inside, fun here => outside (.inl here)⟩,
        fun there => outside (.inr there)⟩

theorem cutRanges_meaning : cutRanges.Meaning := by
  refine ⟨coversUID_withoutAll, ?_, fun _ _ => Iff.rfl⟩
  intro start stop list uid
  show CoversUID (withoutAll [⟨start, stop⟩] list) uid ↔ _
  have whole : CoversUID [⟨start, stop⟩] uid ↔ start ≤ uid ∧ uid ≤ stop := by
    rw [← containsUID_iff ⟨start, stop⟩ uid]
    simp [CoversUID]
  rw [coversUID_withoutAll, whole, and_assoc]

/-- One package, and a system that has another one. -/
def onePackage (packageName : String) : AndroidOptions where
  includeAndroidUser := [10]
  includePackage := [packageName]
  excludePackage := []
  includeUID := []
  excludeUID := []

def oneInstalled : PackageManager where
  idByPackage name := if name = "org.example.app" then some 10123 else none
  idBySharedPackage _ := none

theorem includeUser_ten : includeUser [10] none = [10] := by
  have sorted : sortedUsers [10] = [10] := by
    simp [sortedUsers, eraseDups_cons]
  unfold includeUser
  rw [sorted]
  rfl

theorem oneInstalled_installed (packageName : String) :
    Installed oneInstalled (onePackage packageName)
      (includeUser (onePackage packageName).includeAndroidUser none) := by
  constructor
  case distinct => exact fun _ => .inl rfl
  case apps =>
    intro name id found
    change (if name = "org.example.app" then some 10123 else none) = some id
      at found
    split at found
    · cases found
      decide
    · cases found
  case included =>
    show ∀ androidUser ∈ ([10] : List Int), _
    decide
  case users =>
    show ∀ androidUser ∈ includeUser [10] none, _
    rw [includeUser_ten]
    intro androidUser member
    obtain rfl := mem_singleton.mp member
    show 11 * 100000 ≤ 2 ^ 32
    omega

/-- Nothing is asked for that is there, and all uids of the users are
captured. -/
theorem missing_package_captures :
    cutRanges.Meaning ∧
      Installed oneInstalled (onePackage "org.example.missing") (includeUser [10] none) ∧
      CapturedUID oneInstalled cutRanges none (onePackage "org.example.missing") 1010123 ∧
      ¬Requested oneInstalled (onePackage "org.example.missing")
        (includeUser [10] none) 1010123 := by
  refine ⟨cutRanges_meaning, oneInstalled_installed _, ?_, ?_⟩
  · apply (captured_iff cutRanges_meaning rfl rfl
      (oneInstalled_installed "org.example.missing") (by decide)).mpr
    refine ⟨.inr (mem_singleton_self _), .inl ?_, ?_⟩
    · show ∀ name ∈ ["org.example.missing"], oneInstalled.id? name = none
      decide
    · rintro ⟨name, member, -⟩
      cases member
  · rintro ⟨-, requested, -⟩
    rcases requested with empty | ⟨name, member, id, found, -⟩
    · cases empty
    · rw [mem_singleton.mp member] at found
      cases found

/-- With the package that is there, its uid is captured and the next one is
not. -/
theorem installed_package_captures :
    CapturedUID oneInstalled cutRanges none (onePackage "org.example.app") 1010123 ∧
      ¬CapturedUID oneInstalled cutRanges none (onePackage "org.example.app")
        1010124 := by
  have found : ∃ name ∈ (onePackage "org.example.app").includePackage,
      oneInstalled.id? name ≠ none :=
    ⟨"org.example.app", mem_singleton_self _, by decide⟩
  have tells := (captured_iff_requested cutRanges_meaning rfl rfl
    (oneInstalled_installed "org.example.app")).mpr (.inr (.inl found))
  constructor
  · refine (tells 1010123 (by decide)).mpr ⟨.inr (mem_singleton_self _), .inr ?_, ?_⟩
    · refine ⟨"org.example.app", mem_singleton_self _, 10123, rfl, 10, ?_, rfl⟩
      show 10 ∈ includeUser [10] none
      rw [includeUser_ten]
      exact mem_singleton_self _
    · rintro ⟨name, member, -⟩
      cases member
  · intro captured
    obtain ⟨-, requested, -⟩ := (tells 1010124 (by decide)).mp captured
    rcases requested with empty | ⟨name, member, id, found, user, among, same⟩
    · cases empty
    · rw [mem_singleton.mp member] at found
      cases found
      change user ∈ includeUser [10] none at among
      rw [includeUser_ten] at among
      rw [mem_singleton.mp among] at same
      revert same
      decide

end Missing

/-! ## Names that are reported -/

section Reported

variable {packages : PackageManager} {options : AndroidOptions}
  {ranges : Ranges} {userDirs : Option (List String)}

/-- A listed name is reported if it resolves neither as a shared user nor as a
package, and otherwise has its uids for every user. -/
structure ReportsExactly (packages : PackageManager) (users : List UInt32)
    (names : List String) (notFound : String → PackageError)
    (uids : List (Range UInt32)) (errors : List PackageError) : Prop where
  reported : ∀ name, notFound name ∈ errors ↔ name ∈ names ∧
    packages.idBySharedPackage name = none ∧ packages.idByPackage name = none
  contributes : ∀ name ∈ names, notFound name ∉ errors ↔
    ∃ id, (packages.idBySharedPackage name = some id ∨
        packages.idByPackage name = some id) ∧ appUIDs id users ⊆ uids

/-- `BuildAndroidRules` reports the names of both lists exactly. -/
def ReportsPackages (packages : PackageManager) (ranges : Ranges)
    (userDirs : Option (List String)) (options : AndroidOptions) : Prop :=
  let built := buildAndroidRules packages ranges userDirs options
  let users := includeUser options.includeAndroidUser userDirs
  ReportsExactly packages users options.includePackage .includeNotFound built.1.includeUID built.2 ∧
    ReportsExactly packages users options.excludePackage .excludeNotFound built.1.excludeUID built.2

theorem includeNotFound_mem_iff (name : String) :
    .includeNotFound name ∈
        (buildAndroidRules packages ranges userDirs options).2 ↔
      name ∈ options.includePackage ∧ packages.idBySharedPackage name = none ∧
        packages.idByPackage name = none := by
  have included : ∀ users other, .includeNotFound name ∈
      (includeOne packages users other).2 ↔ other = name ∧ packages.idBySharedPackage other = none ∧
        packages.idByPackage other = none := by
    intro users other
    unfold includeOne
    cases packages.idBySharedPackage other <;> cases packages.idByPackage other <;> simp [eq_comm]
  have excluded : ∀ users other, .includeNotFound name ∉ (excludeOne packages users other).2 := by
    intro users other
    unfold excludeOne
    cases packages.idByPackage other <;> simp
  simp [buildAndroidRules, included, excluded, flatMap_map, mem_flatMap]

theorem excludeNotFound_mem_iff (name : String) :
    .excludeNotFound name ∈
        (buildAndroidRules packages ranges userDirs options).2 ↔
      name ∈ options.excludePackage ∧ packages.idByPackage name = none := by
  have included : ∀ users other, .excludeNotFound name ∉ (includeOne packages users other).2 := by
    intro users other
    unfold includeOne
    cases packages.idBySharedPackage other <;> cases packages.idByPackage other <;> simp
  have excluded : ∀ users other, .excludeNotFound name ∈
      (excludeOne packages users other).2 ↔ other = name ∧ packages.idByPackage other = none := by
    intro users other
    unfold excludeOne
    cases packages.idByPackage other <;> simp [eq_comm]
  simp [buildAndroidRules, included, excluded, flatMap_map, mem_flatMap]

/-- If the reports are right and each name has the uids of its id, a name has
uids exactly if it is not reported. -/
theorem ReportsExactly.of_round {users : List UInt32} {names : List String}
    {notFound : String → PackageError} {errors : List PackageError} {before : List (Range UInt32)}
    {one : String → List (Range UInt32) × List PackageError}
    (reported : ∀ name, notFound name ∈ errors ↔ name ∈ names ∧
      packages.idBySharedPackage name = none ∧ packages.idByPackage name = none)
    (round : ∀ name id, packages.id? name = some id → appUIDs id users ⊆ (one name).1) :
    ReportsExactly packages users names notFound
      (before ++ (names.eraseDups.map one).flatMap Prod.fst) errors := by
  refine ⟨reported, fun name member => ?_⟩
  rw [reported]
  constructor
  · intro resolved
    have some_id : packages.id? name ≠ none := by
      intro missing
      exact resolved ⟨member, or_eq_none_iff.mp missing⟩
    obtain ⟨id, found⟩ := ne_none_iff_exists'.mp some_id
    refine ⟨id, ?_, ?_⟩
    · unfold PackageManager.id? at found
      rcases or_eq_some_iff.mp found with shared | ⟨-, own⟩
      · exact .inl shared
      · exact .inr own
    · intro range inside
      refine mem_append_right _ (mem_flatMap.mpr ⟨one name, ?_, ?_⟩)
      · exact mem_map_of_mem (mem_eraseDups.mpr member)
      · exact round name id found inside
  · rintro ⟨id, shared | own, -⟩ ⟨-, noShared, noOwn⟩
    · rw [noShared] at shared
      cases shared
    · rw [noOwn] at own
      cases own

/--
The names are reported exactly unless one is excluded that resolves as a shared
user only: its uids are there, and it is reported all the same.
-/
theorem reportsPackages_iff :
    ReportsPackages packages ranges userDirs options ↔
      ∀ name ∈ options.excludePackage, packages.idBySharedPackage name = none ∨
          packages.idByPackage name ≠ none := by
  constructor
  · rintro ⟨-, excluded⟩ name member
    by_contra only
    rw [not_or, not_not] at only
    have reported := (excluded.reported name).mp
      ((excludeNotFound_mem_iff name).mpr ⟨member, only.2⟩)
    exact only.1 reported.2.1
  · intro resolved
    refine ⟨.of_round includeNotFound_mem_iff fun name id found => ?_,
      .of_round (fun name => ?_) fun name id found => ?_⟩
    · unfold PackageManager.id? at found
      unfold includeOne
      cases shared : packages.idBySharedPackage name <;>
        cases own : packages.idByPackage name <;> simp_all
    · rw [excludeNotFound_mem_iff]
      refine and_congr_right fun member => ?_
      have known := resolved name member
      tauto
    · unfold PackageManager.id? at found
      unfold excludeOne
      cases shared : packages.idBySharedPackage name <;>
        cases own : packages.idByPackage name <;> simp_all

/-- One shared user, in both lists. -/
def sharedListed : AndroidOptions where
  includeAndroidUser := []
  includePackage := ["android.uid.phone"]
  excludePackage := ["android.uid.phone"]
  includeUID := []
  excludeUID := []

def sharedInstalled : PackageManager where
  idByPackage _ := none
  idBySharedPackage name :=
    if name = "android.uid.phone" then some 1001 else none

/-- The shared user is included and excluded, and reported as a package to
exclude that is not found. -/
theorem shared_user_reported :
    ¬ReportsPackages sharedInstalled cutRanges none sharedListed ∧
      buildAndroidRules sharedInstalled cutRanges none sharedListed =
        ({ sharedListed with
            includeUID := [Range.single 1001]
            excludeUID := [Range.single 1001] },
          [.excludeNotFound "android.uid.phone"]) := by
  have built : buildAndroidRules sharedInstalled cutRanges none sharedListed =
      ({ sharedListed with
          includeUID := [Range.single 1001]
          excludeUID := [Range.single 1001] },
        [.excludeNotFound "android.uid.phone"]) := by
    simp [buildAndroidRules, sharedListed, sortedUsers, includeUser,
      eraseDups_cons, includeOne, excludeOne, sharedInstalled, appUIDs]
  refine ⟨?_, built⟩
  rintro ⟨-, excluded⟩
  have reported := (excluded.reported "android.uid.phone").mp (mem_singleton_self _)
  cases reported.2.1

end Reported

end SingTun.Route
