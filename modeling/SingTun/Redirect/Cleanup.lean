import Mathlib.Data.List.Count
import SingTun.Redirect.IPTables

/-!
# Cleaning up the tables

Every command of the setup adds a chain of the redirect, adds to such a chain,
or adds a jump to one; what is left when these chains and jumps are taken out
never changes.  Cleaning up takes out exactly them, as long as a chain has one
jump at most, which holds after every number of commands.
-/

namespace SingTun.Redirect

open Foundation Header Route List Function

/-! ## What belongs to the redirect -/

namespace AutoRedirect

variable (r : AutoRedirect) (hooks : List Hook) (table : IPTable)

/-- The name of a chain of the redirect. -/
def Owns (name : String) : Prop :=
  ∃ hook ∈ hooks, hook.table = table ∧ name = r.chainName hook

/-- A jump to a chain of the redirect. -/
def Enters (rule : IPRule) : Prop :=
  ∃ hook ∈ hooks, hook.table = table ∧ rule.target = .chain (r.chainName hook)

instance (name : String) : Decidable (r.Owns hooks table name) :=
  inferInstanceAs (Decidable (∃ _ ∈ _, _))

instance (rule : IPRule) : Decidable (r.Enters hooks table rule) :=
  inferInstanceAs (Decidable (∃ _ ∈ _, _))

/-- A chain without the jumps to the chains of the redirect. -/
def unhook (chain : IPChain) : IPChain :=
  ⟨chain.name, chain.rules.filter fun rule => ¬r.Enters hooks table rule⟩

/-- The tables without the redirect. -/
def strip (tables : IPTables) : IPTables := fun table =>
  ((tables table).filter fun chain => ¬r.Owns hooks table chain.name).map (r.unhook hooks table)

/-- The chains are not there, and nothing jumps to them. -/
def Absent (hook : Hook) (tables : IPTables) : Prop :=
  tables.has hook.table (r.chainName hook) = false ∧
    tables.referenced hook.table (r.chainName hook) = false

end AutoRedirect

section Strip

variable {r : AutoRedirect} {hooks : List Hook} {tables : IPTables}

theorem strip_nil (tables : IPTables) : r.strip [] tables = tables := by
  funext table
  have same : r.unhook [] table = id := by
    funext chain
    simp [AutoRedirect.unhook, AutoRedirect.Enters]
  simp [AutoRedirect.strip, AutoRedirect.Owns, same]

/-- The chains are taken out one after the other. -/
theorem strip_cons (hook : Hook) (tables : IPTables) :
    r.strip (hook :: hooks) tables = r.strip hooks (r.strip [hook] tables) := by
  funext table
  unfold AutoRedirect.strip
  rw [filter_map, filter_filter, map_map]
  have names : ∀ chain : IPChain, decide (¬r.Owns (hook :: hooks) table chain.name) =
        (decide (¬r.Owns hooks table chain.name) && decide (¬r.Owns [hook] table chain.name)) := by
    intro chain
    have split : r.Owns (hook :: hooks) table chain.name ↔
        r.Owns [hook] table chain.name ∨ r.Owns hooks table chain.name := by
      simp [AutoRedirect.Owns]
    rw [Bool.eq_iff_iff]
    simp only [decide_eq_true_eq, Bool.and_eq_true]
    tauto
  have rules : r.unhook (hook :: hooks) table = r.unhook hooks table ∘ r.unhook [hook] table := by
    funext chain
    simp only [AutoRedirect.unhook, comp_apply, filter_filter]
    congr 2
    funext rule
    have split : r.Enters (hook :: hooks) table rule ↔
        r.Enters [hook] table rule ∨ r.Enters hooks table rule := by
      simp [AutoRedirect.Enters]
    rw [Bool.eq_iff_iff]
    simp only [decide_eq_true_eq, Bool.and_eq_true]
    tauto
  congr 2
  funext chain
  exact names chain

/-- Nothing is taken out of tables without the redirect. -/
theorem strip_of_absent (absent : ∀ hook ∈ hooks, r.Absent hook tables) :
    r.strip hooks tables = tables := by
  funext table
  unfold AutoRedirect.strip
  have names : (tables table).filter
      (fun chain => ¬r.Owns hooks table chain.name) = tables table := by
    rw [filter_eq_self]
    intro chain member
    apply decide_eq_true
    rintro ⟨hook, listed, rfl, same⟩
    have missing := (absent hook listed).1
    simp only [IPTables.has, any_eq_false, beq_iff_eq] at missing
    exact missing chain member same
  rw [names]
  conv_rhs => rw [← map_id (tables table)]
  refine map_congr_left fun chain member => ?_
  have kept : chain.rules.filter (fun rule => ¬r.Enters hooks table rule) = chain.rules := by
    rw [filter_eq_self]
    intro rule inside
    apply decide_eq_true
    rintro ⟨hook, listed, rfl, same⟩
    have missing := (absent hook listed).2
    simp only [IPTables.referenced, any_eq_false, any_eq_true,
      beq_iff_eq, not_exists, not_and] at missing
    exact missing chain member rule inside same
  unfold AutoRedirect.unhook
  rw [kept]
  rfl

/-- A change that is taken out again: to a chain of the redirect, or of jumps
to one. -/
theorem strip_modify {table : IPTable} {chain : String}
    {change : List IPRule → List IPRule}
    (own : r.Owns hooks table chain ∨
      ∀ rules, (change rules).filter (fun rule => ¬r.Enters hooks table rule) =
        rules.filter fun rule => ¬r.Enters hooks table rule) :
    r.strip hooks (tables.modify table chain change) = r.strip hooks tables := by
  funext other
  by_cases same : other = table
  · subst same
    simp only [AutoRedirect.strip, IPTables.modify, update_self]
    rw [filter_map, map_map]
    have names : ((fun chain => decide ¬r.Owns hooks other chain.name) ∘
        fun inside : IPChain => if inside.name = chain then
          ⟨inside.name, change inside.rules⟩ else inside) =
        fun inside => decide ¬r.Owns hooks other inside.name := by
      funext inside
      simp only [comp_apply]
      split <;> rfl
    rw [names]
    refine map_congr_left fun inside member => ?_
    simp only [comp_apply]
    split
    · rename_i named
      rcases own with own | own
      · have foreign := (mem_filter.mp member).2
        rw [named] at foreign
        exact absurd own (of_decide_eq_true foreign)
      · simp only [AutoRedirect.unhook, own]
    · rfl
  · simp only [AutoRedirect.strip, IPTables.modify, update_of_ne same]

theorem strip_newChain {table : IPTable} {chain : String} (own : r.Owns hooks table chain) :
    r.strip hooks (update tables table
      (tables table ++ [⟨chain, []⟩])) = r.strip hooks tables := by
  funext other
  by_cases same : other = table
  · subst same
    simp [AutoRedirect.strip, own]
  · simp only [AutoRedirect.strip, update_of_ne same]

end Strip

/-! ## The commands of the setup -/

/-- A target that is not a chain. -/
def Target.Final : Target → Prop
  | .chain _ => False
  | _ => True

theorem Target.Final.ne_chain {target : Target} (final : target.Final) (name : String) :
    target ≠ .chain name := by
  rintro rfl
  exact final

/-- What a command of the setup does. -/
inductive Builds (r : AutoRedirect) (hooks : List Hook) : Command → Prop
  | newChain {hook : Hook} (listed : hook ∈ hooks) :
      Builds r hooks (r.newChain hook)
  | rule {hook : Hook} (listed : hook ∈ hooks) (selectors : List Selector)
      {target : Target} (final : target.Final) :
      Builds r hooks (r.rule hook selectors target)
  | insertJump {hook : Hook} (listed : hook ∈ hooks) :
      Builds r hooks (.insert hook.table hook.name (jump (r.chainName hook)))
  | appendJump {hook : Hook} (listed : hook ∈ hooks) :
      Builds r hooks (.append hook.table hook.name (jump (r.chainName hook)))

/-- The command that makes the jump to a chain of the redirect. -/
def AutoRedirect.IsJump (r : AutoRedirect) (hook : Hook) (command : Command) :
    Prop :=
  command = .insert hook.table hook.name (jump (r.chainName hook)) ∨
    command = .append hook.table hook.name (jump (r.chainName hook))

instance (r : AutoRedirect) (hook : Hook) (command : Command) : Decidable (r.IsJump hook command) :=
  inferInstanceAs (Decidable (_ ∨ _))

section Commands

variable {r : AutoRedirect} {hooks : List Hook} {tables : IPTables}

theorem IPTables.modify_of_not_has {table : IPTable} {chain : String}
    (missing : tables.has table chain = false) (change : List IPRule → List IPRule) :
    tables.modify table chain change = tables := by
  unfold IPTables.modify
  rw [update_eq_self_iff]
  conv_rhs => rw [← map_id (tables table)]
  refine map_congr_left fun inside member => ?_
  simp only [IPTables.has, any_eq_false, beq_iff_eq] at missing
  rw [if_neg (missing inside member)]
  rfl

/-- A command on the rules of a chain, whether the chain is there or not. -/
theorem IPTables.attempt_modify {command : Command} {table : IPTable} {chain : String}
    {change : List IPRule → List IPRule}
    (runs : tables.run? command = if tables.has table chain then
      some (tables.modify table chain change) else none) :
    tables.attempt command = tables.modify table chain change := by
  unfold IPTables.attempt
  rw [runs]
  split
  · rfl
  · rename_i missing
    exact (IPTables.modify_of_not_has (Bool.eq_false_iff.mpr missing) _).symm

variable (table : IPTable) (chain : String)

theorem attempt_append (rule : IPRule) :
    tables.attempt (.append table chain rule) = tables.modify table chain (· ++ [rule]) :=
  IPTables.attempt_modify rfl

theorem attempt_insert (rule : IPRule) :
    tables.attempt (.insert table chain rule) = tables.modify table chain (rule :: ·) :=
  IPTables.attempt_modify rfl

theorem attempt_flush :
    tables.attempt (.flush table chain) = tables.modify table chain fun _ => [] :=
  IPTables.attempt_modify rfl

/-- Deleting a rule that is not there changes nothing, as erasing it does. -/
theorem attempt_delete (rule : IPRule) :
    tables.attempt (.delete table chain rule) = tables.modify table chain (·.erase rule) := by
  unfold IPTables.attempt IPTables.run?
  dsimp only
  split
  · rfl
  · rename_i missing
    simp only [any_eq_true, Bool.and_eq_true, beq_iff_eq,
      contains_iff_mem, not_exists, not_and] at missing
    refine Eq.symm ?_
    unfold IPTables.modify
    rw [Option.getD_none, update_eq_self_iff]
    conv_rhs => rw [← map_id (tables table)]
    refine map_congr_left fun inside member => ?_
    split
    · rename_i named
      show (⟨inside.name, inside.rules.erase rule⟩ : IPChain) = inside
      rw [erase_of_not_mem (missing inside member named)]
    · rfl

/-- No command of the setup changes what is not the redirect's. -/
theorem strip_attempt {command : Command} (builds : Builds r hooks command) :
    r.strip hooks (tables.attempt command) = r.strip hooks tables := by
  cases builds with
  | newChain listed =>
    rename_i hook
    unfold AutoRedirect.newChain IPTables.attempt IPTables.run?
    dsimp only
    split
    · rfl
    · exact strip_newChain ⟨hook, listed, rfl, rfl⟩
  | rule listed selectors final =>
    rename_i hook target
    unfold AutoRedirect.rule
    rw [attempt_append]
    exact strip_modify (.inl ⟨hook, listed, rfl, rfl⟩)
  | insertJump listed =>
    rename_i hook
    rw [attempt_insert]
    refine strip_modify (.inr fun rules => ?_)
    have enters : r.Enters hooks hook.table (jump (r.chainName hook)) := ⟨hook, listed, rfl, rfl⟩
    simp [enters]
  | appendJump listed =>
    rename_i hook
    rw [attempt_append]
    refine strip_modify (.inr fun rules => ?_)
    have enters : r.Enters hooks hook.table (jump (r.chainName hook)) := ⟨hook, listed, rfl, rfl⟩
    simp [enters]

theorem strip_attemptAll {commands : List Command}
    (builds : ∀ command ∈ commands, Builds r hooks command) :
    r.strip hooks (tables.attemptAll commands) = r.strip hooks tables := by
  unfold IPTables.attemptAll
  induction commands generalizing tables with
  | nil => rfl
  | cons command commands ih =>
    rw [foldl_cons, ih fun later member =>
      builds later (mem_cons_of_mem _ member)]
    exact strip_attempt (builds command mem_cons_self)

end Commands

/-! ## The jumps -/

/-- Only the jump of the setup enters the chain of a hook, and no more than a
number of times. -/
structure Entered (r : AutoRedirect) (hook : Hook) (limit : Nat)
    (tables : IPTables) : Prop where
  plain : ∀ chain ∈ tables hook.table, ∀ rule ∈ chain.rules,
    rule.target = .chain (r.chainName hook) →
      chain.name = hook.name ∧ rule = jump (r.chainName hook)
  count : ∀ chain ∈ tables hook.table, chain.rules.count (jump (r.chainName hook)) ≤ limit

section Jumps

variable {r : AutoRedirect} {hooks : List Hook} {hook : Hook} {tables : IPTables} {limit : Nat}

variable (entered : Entered r hook limit tables)
include entered

theorem Entered.mono {larger : Nat} (le : limit ≤ larger) : Entered r hook larger tables :=
  ⟨entered.plain, fun chain member => Nat.le_trans (entered.count chain member) le⟩

omit entered in
theorem entered_of_absent (absent : r.Absent hook tables) : Entered r hook 0 tables := by
  have missing := absent.2
  simp only [IPTables.referenced, any_eq_false, any_eq_true,
    beq_iff_eq, not_exists, not_and] at missing
  constructor
  · intro chain member rule inside enters
    exact absurd enters (missing chain member rule inside)
  · intro chain member
    rw [Nat.le_zero, count_eq_zero]
    intro inside
    exact missing chain member _ inside rfl

/-- Rules are added to a chain: rules that do not enter the chain of the hook,
or the jump to it. -/
theorem Entered.modify {table : IPTable} {chain : String} {rule : IPRule} {added : Nat}
    {change : List IPRule → List IPRule} (perm : ∀ rules, (change rules).Perm (rule :: rules))
    (fits : table = hook.table → (rule.target ≠ .chain (r.chainName hook)) ∨
        (chain = hook.name ∧ rule = jump (r.chainName hook) ∧ added = 1)) :
    Entered r hook (limit + added) (tables.modify table chain change) := by
  by_cases same : hook.table = table
  swap
  · have kept : tables.modify table chain change hook.table =
        tables hook.table := update_of_ne same ..
    constructor
    · rw [kept]
      exact entered.plain
    · rw [kept]
      exact fun chain member =>
        Nat.le_trans (entered.count chain member) (Nat.le_add_right ..)
  subst same
  have changed : tables.modify hook.table chain change hook.table =
      (tables hook.table).map fun other => if other.name = chain then
        ⟨other.name, change other.rules⟩ else other := update_self ..
  constructor
  · rw [changed]
    intro after member inside holds enters
    obtain ⟨before, listed, rfl⟩ := mem_map.mp member
    split at holds
    · rename_i named
      rw [if_pos named]
      rcases mem_cons.mp ((perm _).mem_iff.mp holds) with rfl | old
      · rcases fits rfl with final | ⟨rfl, same, -⟩
        · exact absurd enters final
        · exact ⟨named, same⟩
      · exact entered.plain before listed inside old enters
    · rename_i other
      rw [if_neg other]
      exact entered.plain before listed inside holds enters
  · rw [changed]
    intro after member
    obtain ⟨before, listed, rfl⟩ := mem_map.mp member
    have old := entered.count before listed
    split
    · rw [(perm _).count_eq, count_cons]
      rcases fits rfl with final | ⟨-, -, one⟩
      · have different : ¬(rule == jump (r.chainName hook)) = true := by
          rw [beq_iff_eq]
          rintro rfl
          exact final rfl
        rw [if_neg different]
        omega
      · rw [one]
        split <;> omega
    · exact Nat.le_trans old (Nat.le_add_right ..)

omit entered in
theorem chainName_injective {hook hook' : Hook}
    (same : r.chainName hook = r.chainName hook') :
    hook = hook' := by
  have length := congrArg String.length same
  simp only [AutoRedirect.chainName, String.length_append, Nat.add_left_cancel_iff] at length
  revert length
  cases hook <;> cases hook' <;> decide

/-- One command of the setup makes at most one jump. -/
theorem Entered.attempt {command : Command} (builds : Builds r hooks command) :
    Entered r hook (limit + if r.IsJump hook command then 1 else 0) (tables.attempt command) := by
  cases builds with
  | newChain listed =>
    rename_i own
    refine Entered.mono ?_ (Nat.le_add_right limit _)
    unfold AutoRedirect.newChain IPTables.attempt IPTables.run?
    dsimp only
    split
    · exact entered
    · rw [Option.getD_some]
      by_cases same : hook.table = own.table
      · constructor
        · rw [same, update_self, ← same]
          exact forall_mem_append.mpr ⟨entered.plain, forall_mem_singleton.mpr nofun⟩
        · rw [same, update_self, ← same]
          exact forall_mem_append.mpr ⟨entered.count, forall_mem_singleton.mpr (Nat.zero_le _)⟩
      · constructor
        · rw [update_of_ne same]
          exact entered.plain
        · rw [update_of_ne same]
          exact entered.count
  | rule listed selectors final =>
    refine Entered.mono ?_ (Nat.le_add_right limit _)
    unfold AutoRedirect.rule
    rw [attempt_append]
    exact @Entered.modify _ _ _ _ entered _ _ _ 0 _
      (fun rules => perm_append_singleton ..) fun _ =>
        .inl (Target.Final.ne_chain final _)
  | insertJump listed =>
    rename_i own
    rw [attempt_insert]
    refine Entered.modify entered (fun rules => List.Perm.refl _) fun _ => ?_
    by_cases same : own = hook
    · subst same
      exact .inr ⟨rfl, rfl, if_pos (.inl rfl)⟩
    · left
      intro target
      exact same (chainName_injective (Target.chain.inj target))
  | appendJump listed =>
    rename_i own
    rw [attempt_append]
    refine Entered.modify entered (fun rules => perm_append_singleton ..) fun _ => ?_
    by_cases same : own = hook
    · subst same
      exact .inr ⟨rfl, rfl, if_pos (.inr rfl)⟩
    · left
      intro target
      exact same (chainName_injective (Target.chain.inj target))

theorem Entered.attemptAll {commands : List Command}
    (builds : ∀ command ∈ commands, Builds r hooks command) :
    Entered r hook (limit + commands.countP fun command =>
      r.IsJump hook command) (tables.attemptAll commands) := by
  induction commands generalizing tables limit with
  | nil => exact entered
  | cons command commands ih =>
    have first := Entered.attempt entered (builds command mem_cons_self)
    have later := ih first fun other member =>
      builds other (mem_cons_of_mem _ member)
    refine Entered.mono later (Nat.le_of_eq ?_)
    rw [countP_cons]
    simp only [decide_eq_true_eq]
    omega

/-- Taking out other chains brings no jump. -/
theorem Entered.strip (others : List Hook) : Entered r hook limit (r.strip others tables) := by
  constructor
  · intro chain member rule inside enters
    obtain ⟨before, listed, rfl⟩ := mem_map.mp member
    exact entered.plain before (mem_filter.mp listed).1 rule
      (mem_filter.mp inside).1 enters
  · intro chain member
    obtain ⟨before, listed, rfl⟩ := mem_map.mp member
    exact Nat.le_trans (filter_sublist.count_le _)
      (entered.count before (mem_filter.mp listed).1)

end Jumps

/-! ## One chain is taken out -/

theorem erase_eq_filter {α : Type*} [DecidableEq α] {value : α} {list : List α}
    (once : list.count value ≤ 1) :
    list.erase value = list.filter (· ≠ value) := by
  induction list with
  | nil => rfl
  | cons head tail ih =>
    by_cases same : head = value
    · subst same
      have gone : head ∉ tail := by
        rw [count_cons_self] at once
        exact count_eq_zero.mp (by omega)
      rw [erase_cons_head, filter_cons_of_neg (by simp)]
      refine (filter_eq_self.mpr fun other member => ?_).symm
      exact decide_eq_true (ne_of_mem_of_not_mem member gone)
    · rw [count_cons_of_ne same] at once
      rw [erase_cons_tail (by simpa using same), ih once,
        filter_cons_of_pos (by simpa using same)]

section TakeOut

variable {r : AutoRedirect} {hook : Hook} {tables : IPTables}

/-- The chain of a hook after its jump is deleted. -/
def AutoRedirect.released (r : AutoRedirect) (hook : Hook) (chain : IPChain) :
    IPChain :=
  if chain.name = hook.name then
    ⟨chain.name, chain.rules.erase (jump (r.chainName hook))⟩
  else chain

theorem released_name (chain : IPChain) : (r.released hook chain).name = chain.name := by
  unfold AutoRedirect.released
  split <;> rfl

/-- The jump that is deleted is the only one. -/
theorem released_eq_unhook (entered : Entered r hook 1 tables) {chain : IPChain}
    (member : chain ∈ tables hook.table) :
    r.released hook chain = r.unhook [hook] hook.table chain := by
  have enters : ∀ rule ∈ chain.rules, r.Enters [hook] hook.table rule ↔
      rule = jump (r.chainName hook) := by
    intro rule inside
    constructor
    · rintro ⟨own, listed, -, target⟩
      cases mem_singleton.mp listed
      exact (entered.plain chain member rule inside target).2
    · rintro rfl
      exact ⟨hook, mem_singleton_self _, rfl, rfl⟩
  unfold AutoRedirect.released AutoRedirect.unhook
  split
  · rw [erase_eq_filter (entered.count chain member)]
    congr 1
    refine filter_congr fun rule inside => ?_
    rw [decide_eq_decide]
    exact not_congr (enters rule inside).symm
  · rename_i elsewhere
    have all : chain.rules.filter (fun rule => ¬r.Enters [hook] hook.table rule) = chain.rules := by
      rw [filter_eq_self]
      intro rule inside
      apply decide_eq_true
      rintro ⟨own, listed, -, target⟩
      cases mem_singleton.mp listed
      exact elsewhere (entered.plain chain member rule inside target).1
    rw [all]

theorem attempt_deleteChain {table : IPTable} {chain : String}
    (unused : tables.referenced table chain = false)
    (empty : ∀ other ∈ tables table, other.name = chain → other.rules = []) :
    tables.attempt (.deleteChain table chain) = update tables table
        ((tables table).filter (·.name ≠ chain)) := by
  have free : ((tables table).all fun other =>
      other.name != chain || other.rules.isEmpty) = true := by
    rw [all_eq_true]
    intro other member
    by_cases named : other.name = chain
    · simp [empty other member named]
    · simp [named]
  unfold IPTables.attempt IPTables.run?
  dsimp only
  rw [unused, free]
  cases there : tables.has table chain with
  | true => rfl
  | false =>
    simp only [IPTables.has, any_eq_false, beq_iff_eq] at there
    have all : (tables table).filter (·.name ≠ chain) = tables table :=
      filter_eq_self.mpr fun other member =>
        decide_eq_true (there other member)
    rw [all, update_eq_self]
    rfl

/-- The chain of the redirect after its rules are deleted. -/
def emptied (own : String) (chain : IPChain) : IPChain :=
  if chain.name = own then ⟨chain.name, []⟩ else chain

theorem filter_emptied (own : String) (chains : List IPChain) :
    (chains.map (emptied own)).filter (·.name ≠ own) = chains.filter (·.name ≠ own) := by
  induction chains with
  | nil => rfl
  | cons chain chains ih =>
    by_cases named : chain.name = own
    · simp [emptied, named]
      simpa [emptied] using ih
    · simp [emptied, named]
      simpa [emptied] using ih

/-- Deleting the jump, the rules and the chain takes the chain out. -/
theorem attemptAll_cleanupHook (entered : Entered r hook 1 tables) :
    tables.attemptAll (r.cleanupHook hook) = r.strip [hook] tables := by
  let flushed : IPTables := update tables hook.table
    (((tables hook.table).map (r.released hook)).map (emptied (r.chainName hook)))
  have chains : flushed hook.table = ((tables hook.table).map
      (r.released hook)).map (emptied (r.chainName hook)) :=
    update_self ..
  have first : tables.attemptAll (r.cleanupHook hook) =
      flushed.attempt (.deleteChain hook.table (r.chainName hook)) := by
    unfold AutoRedirect.cleanupHook IPTables.attemptAll
    simp only [foldl_cons, foldl_nil]
    rw [attempt_delete, attempt_flush]
    congr 1
    unfold IPTables.modify
    rw [update_self, update_idem]
    rfl
  -- Nothing is left that jumps to the chain, and the chain is empty.
  have unused : flushed.referenced hook.table (r.chainName hook) = false := by
    simp only [IPTables.referenced, chains, any_eq_false,
      any_eq_true, beq_iff_eq, not_exists, not_and]
    intro chain member rule inside target
    obtain ⟨middle, between, rfl⟩ := mem_map.mp member
    obtain ⟨before, listed, rfl⟩ := mem_map.mp between
    unfold emptied at inside
    split at inside
    · cases inside
    · rw [released_eq_unhook entered listed] at inside
      have outside := of_decide_eq_true (mem_filter.mp inside).2
      exact outside ⟨hook, mem_singleton_self _, rfl, target⟩
  have empty : ∀ chain ∈ flushed hook.table, chain.name = r.chainName hook → chain.rules = [] := by
    rw [chains]
    intro chain member named
    obtain ⟨middle, -, rfl⟩ := mem_map.mp member
    unfold emptied at named ⊢
    split
    · rfl
    · rename_i other
      rw [if_neg other] at named
      exact absurd named other
  rw [first, attempt_deleteChain unused empty, chains, filter_emptied, update_idem]
  funext table
  by_cases same : table = hook.table
  · subst same
    have owned : ∀ chain : IPChain, decide (chain.name ≠ r.chainName hook) =
        decide ¬r.Owns [hook] hook.table chain.name := by
      intro chain
      simp [AutoRedirect.Owns]
    rw [update_self, filter_map]
    have names : (fun chain : IPChain =>
        decide (chain.name ≠ r.chainName hook)) ∘ r.released hook =
          fun chain => decide ¬r.Owns [hook] hook.table chain.name := by
      funext chain
      rw [← owned, comp_apply, released_name]
    rw [names]
    refine map_congr_left fun chain member => ?_
    exact released_eq_unhook entered (mem_filter.mp member).1
  · rw [update_of_ne same]
    unfold AutoRedirect.strip
    have names : ∀ chain : IPChain, ¬r.Owns [hook] table chain.name := by
      rintro chain ⟨own, listed, rfl, -⟩
      cases mem_singleton.mp listed
      exact same rfl
    have rules : r.unhook [hook] table = id := by
      funext chain
      have never : ∀ rule, ¬r.Enters [hook] table rule := by
        rintro rule ⟨own, listed, rfl, -⟩
        cases mem_singleton.mp listed
        exact same rfl
      simp [AutoRedirect.unhook, never]
    simp [names, rules]

/-- Cleaning up takes out all chains. -/
theorem attemptAll_cleanup {hooks : List Hook} (entered : ∀ hook ∈ hooks, Entered r hook 1 tables) :
    tables.attemptAll (hooks.flatMap r.cleanupHook) = r.strip hooks tables := by
  induction hooks generalizing tables with
  | nil => exact (strip_nil tables).symm
  | cons hook hooks ih =>
    have first := attemptAll_cleanupHook (entered hook mem_cons_self)
    unfold IPTables.attemptAll at first ih ⊢
    rw [flatMap_cons, foldl_append, first, @strip_cons r hooks hook tables]
    exact ih fun other member =>
      Entered.strip (entered other (mem_cons_of_mem _ member)) _

end TakeOut

/-! ## The whole setup -/

/-- The chains that are set up. -/
def AutoRedirect.usedHooks (r : AutoRedirect) : List Hook :=
  if r.android then [.output] else [.output, .input, .forward, .prerouting]

theorem cleanup_eq (r : AutoRedirect) :
    r.cleanupIPTablesForFamily = r.usedHooks.flatMap r.cleanupHook := by
  unfold AutoRedirect.cleanupIPTablesForFamily AutoRedirect.usedHooks
  split
  · simp
  · simp

/-- The commands of a script build up given chains, and make no jump but those
to some of them, each once. -/
structure Script.Builds (r : AutoRedirect) (hooks jumps : List Hook)
    (script : Script) : Prop where
  builds : ∀ command ∈ script.commands, Redirect.Builds r hooks command
  jumps : ∀ hook, (script.commands.countP fun command =>
    r.IsJump hook command) ≤ jumps.count hook

section Setup

variable {r : AutoRedirect} {hooks : List Hook}

theorem Script.Builds.andThen {script next : Script} {jumps jumps' : List Hook}
    (first : script.Builds r hooks jumps)
    (second : next.Builds r hooks jumps') :
    (script.andThen next).Builds r hooks (jumps ++ jumps') := by
  unfold Script.andThen
  split
  · refine ⟨first.builds, fun hook => ?_⟩
    rw [count_append]
    exact Nat.le_trans (first.jumps hook) (Nat.le_add_right ..)
  · constructor
    · exact forall_mem_append.mpr ⟨first.builds, second.builds⟩
    · intro hook
      rw [countP_append, count_append]
      exact Nat.add_le_add (first.jumps hook) (second.jumps hook)

theorem not_isJump_newChain (hook own : Hook) : ¬r.IsJump hook (r.newChain own) := by
  rintro (impossible | impossible) <;> cases impossible

theorem not_isJump_rule {target : Target} (final : target.Final)
    (hook own : Hook) (selectors : List Selector) :
    ¬r.IsJump hook (r.rule own selectors target) := by
  rintro (impossible | same)
  · cases impossible
  · injection same with _ _ rules
    injection rules with _ targets
    exact Target.Final.ne_chain final _ targets

/-- A rule of a chain of the redirect that does not jump on. -/
inductive IsRule (r : AutoRedirect) (own : Hook) : Command → Prop
  | of_final {selectors : List Selector} {target : Target}
      (final : target.Final) : IsRule r own (r.rule own selectors target)

section

variable {own : Hook}
variable (listed : own ∈ hooks)
include listed

/-- A script of rules makes no jump. -/
theorem Script.Builds.rules {commands : List Command} {error : Option ConfigError}
    (rules : ∀ command ∈ commands, IsRule r own command) :
    Script.Builds r hooks [] ⟨commands, error⟩ := by
  constructor
  · intro command member
    obtain ⟨final⟩ := rules command member
    exact .rule listed _ final
  · intro hook
    rw [count_nil, Nat.le_zero, countP_eq_zero]
    intro command member
    obtain ⟨final⟩ := rules command member
    simpa using not_isJump_rule final hook own _

/-- A script that makes a chain. -/
theorem Script.Builds.newChain : Script.Builds r hooks [] ⟨[r.newChain own], none⟩ := by
  constructor
  · intro command member
    cases mem_singleton.mp member
    exact .newChain listed
  · intro hook
    have apart := @not_isJump_newChain r hook own
    simp [apart]

omit listed in
theorem hook_of_isJump {hook own : Hook} {command : Command} (jumps : r.IsJump own command)
    (other : r.IsJump hook command) :
    own = hook := by
  apply chainName_injective
  rcases jumps with rfl | rfl <;> rcases other with other | other
  · injection other with _ _ rules
    exact Target.chain.inj (congrArg IPRule.target rules)
  · cases other
  · cases other
  · injection other with _ _ rules
    exact Target.chain.inj (congrArg IPRule.target rules)

/-- A script that makes a jump. -/
theorem Script.Builds.jump {command : Command} (jumps : r.IsJump own command) :
    Script.Builds r hooks [own] ⟨[command], none⟩ := by
  constructor
  · intro other member
    cases mem_singleton.mp member
    rcases jumps with rfl | rfl
    · exact .insertJump listed
    · exact .appendJump listed
  · intro hook
    rw [countP_singleton, count_singleton]
    simp only [decide_eq_true_eq, beq_iff_eq]
    split
    · rename_i other
      rw [if_pos (hook_of_isJump jumps other)]
    · exact Nat.zero_le _

/-- A chain, its rules and the jump to it. -/
theorem Script.Builds.chain {rules : List Command}
    {command : Command} (jumps : r.IsJump own command)
    (plain : ∀ command ∈ rules, IsRule r own command) :
    Script.Builds r hooks [own] ⟨r.newChain own :: (rules ++ [command]), none⟩ :=
  (Script.Builds.newChain listed).andThen
    ((@Script.Builds.rules r hooks own listed rules none plain).andThen
      (Script.Builds.jump listed jumps))

end

theorem builds_setupOutput (listed : .output ∈ hooks) : r.setupOutput.Builds r hooks [.output] := by
  refine @Script.Builds.chain r hooks .output listed [_] _ (.inl rfl) ?_
  intro command member
  cases mem_singleton.mp member
  exact .of_final trivial

theorem builds_setupAccept {hook : Hook} (listed : hook ∈ hooks) :
    (r.setupAccept hook).Builds r hooks [hook] := by
  refine @Script.Builds.chain r hooks hook listed [_, _] _ (.inl rfl) ?_
  exact forall_mem_cons.mpr ⟨.of_final trivial, forall_mem_singleton.mpr (.of_final trivial)⟩

section PreRouting

variable (family : Family) (listed : Hook.prerouting ∈ hooks)
include listed

theorem builds_setupPreRoutingHead : (r.setupPreRoutingHead family).Builds r hooks [] := by
  have chain := @Script.Builds.newChain r hooks _ listed
  have rest : Script.Builds r hooks [] ⟨if r.tunOptions.autoRoute then
        [r.rule .prerouting [.translated] .return] else [], none⟩ := by
    refine Script.Builds.rules listed fun command member => ?_
    split at member
    · cases mem_singleton.mp member
      exact .of_final trivial
    · cases member
  have both := chain.andThen rest
  exact ⟨both.builds, both.jumps⟩

theorem builds_setupPreRoutingReturn : (r.setupPreRoutingReturn family).Builds r hooks [] := by
  refine Script.Builds.rules listed fun command member => ?_
  simp only [mem_append, mem_singleton, mem_map] at member
  rcases member with ((rfl | ⟨network, -, rfl⟩) | ⟨name, -, rfl⟩) | last
  · exact .of_final trivial
  · exact .of_final trivial
  · exact .of_final trivial
  · split at last
    · cases mem_singleton.mp last
      exact .of_final trivial
    · cases last

theorem builds_iptablesCreateDNSHijackRules :
    (r.iptablesCreateDNSHijackRules family).Builds r hooks [] := by
  unfold AutoRedirect.iptablesCreateDNSHijackRules
  split
  · exact Script.Builds.rules listed nofun
  · split
    · exact Script.Builds.rules listed nofun
    · exact Script.Builds.rules listed nofun
    · refine Script.Builds.rules listed fun command member => ?_
      obtain ⟨selector, -, rfl⟩ := mem_map.mp member
      exact .of_final trivial

theorem builds_setupPreRoutingDNS : (r.setupPreRoutingDNS family).Builds r hooks [] := by
  unfold AutoRedirect.setupPreRoutingDNS
  split
  · exact builds_iptablesCreateDNSHijackRules family listed
  · exact Script.Builds.rules listed nofun

theorem builds_setupPreRoutingRedirect :
    (r.setupPreRoutingRedirect family).Builds r hooks [.prerouting] := by
  refine (@Script.Builds.rules r hooks .prerouting listed _ none
    fun command member => ?_).andThen (Script.Builds.jump listed ?_)
  · rcases mem_append.mp member with first | member
    · split at first
      · cases first
      · cases mem_singleton.mp first
        exact .of_final trivial
    · split at member
      · obtain ⟨network, -, rfl⟩ := mem_map.mp member
        exact .of_final trivial
      · split at member
        · obtain ⟨name, -, rfl⟩ := mem_map.mp member
          exact .of_final trivial
        · cases mem_singleton.mp member
          exact .of_final trivial
  · split
    · exact .inr rfl
    · exact .inl rfl

theorem builds_setupPreRouting : (r.setupPreRouting family).Builds r hooks [.prerouting] :=
  ((builds_setupPreRoutingHead family listed).andThen
    (builds_setupPreRoutingReturn family listed)).andThen
      ((builds_setupPreRoutingDNS family listed).andThen
        (builds_setupPreRoutingRedirect family listed))

end PreRouting

/-- The setup builds the chains that it uses, and jumps to each once. -/
theorem builds_setup (r : AutoRedirect) (family : Family) :
    (r.setupIPTablesForFamily family).Builds r r.usedHooks r.usedHooks := by
  unfold AutoRedirect.setupIPTablesForFamily AutoRedirect.usedHooks
  split
  · exact builds_setupOutput mem_cons_self
  · exact (builds_setupOutput (by simp)).andThen ((builds_setupAccept (by simp)).andThen
        ((builds_setupAccept (by simp)).andThen (builds_setupPreRouting family (by simp))))

theorem count_usedHooks_le (r : AutoRedirect) (hook : Hook) : r.usedHooks.count hook ≤ 1 := by
  unfold AutoRedirect.usedHooks
  split <;> cases hook <;> decide

end Setup

/-- The commands of the setup, up to the first one that fails. -/
def IPTables.runAll (tables : IPTables) : List Command → IPTables
  | [] => tables
  | command :: commands =>
    match tables.run? command with
    | none => tables
    | some tables => IPTables.runAll tables commands

/-- A setup that fails has run some of its commands. -/
theorem runAll_eq_attemptAll (tables : IPTables) (commands : List Command) :
    ∃ count, tables.runAll commands = tables.attemptAll (commands.take count) := by
  induction commands generalizing tables with
  | nil => exact ⟨0, rfl⟩
  | cons command commands ih =>
    unfold IPTables.runAll
    split
    · exact ⟨0, rfl⟩
    · rename_i tables' runs
      obtain ⟨count, same⟩ := ih tables'
      refine ⟨count + 1, same.trans ?_⟩
      unfold IPTables.attemptAll
      rw [take_succ_cons, foldl_cons]
      unfold IPTables.attempt
      rw [runs, Option.getD_some]

/-- Cleaning up after any number of commands of the setup brings back the
tables as they were before. -/
theorem restores_after (r : AutoRedirect) (family : Family) (count : Nat) {tables : IPTables}
    (absent : ∀ hook, r.Absent hook tables) :
    (tables.attemptAll
      ((r.setupIPTablesForFamily family).commands.take count)).attemptAll
        r.cleanupIPTablesForFamily = tables := by
  have setup := builds_setup r family
  have builds : ∀ command ∈ (r.setupIPTablesForFamily family).commands.take count,
        Builds r r.usedHooks command :=
    fun command member => setup.builds command (mem_of_mem_take member)
  rw [cleanup_eq, attemptAll_cleanup, strip_attemptAll builds]
  · exact strip_of_absent fun hook _ => absent hook
  · intro hook _
    have entered := Entered.attemptAll (entered_of_absent (absent hook)) builds
    refine Entered.mono entered ?_
    have part := (take_sublist count (r.setupIPTablesForFamily family).commands).countP_le
        (p := fun command => decide (r.IsJump hook command))
    have whole := setup.jumps hook
    have once := count_usedHooks_le r hook
    omega

/-- The tables are restored, wherever the setup stops. -/
theorem cleanup_restores (r : AutoRedirect) (family : Family) (tables : IPTables)
    (absent : ∀ hook, r.Absent hook tables) :
    (∀ count, (tables.attemptAll
        ((r.setupIPTablesForFamily family).commands.take count)).attemptAll
          r.cleanupIPTablesForFamily = tables) ∧
      (tables.runAll (r.setupIPTablesForFamily family).commands).attemptAll
        r.cleanupIPTablesForFamily = tables := by
  refine ⟨fun count => restores_after r family count absent, ?_⟩
  obtain ⟨count, stopped⟩ := runAll_eq_attemptAll tables (r.setupIPTablesForFamily family).commands
  rw [stopped]
  exact restores_after r family count absent

/-- The chains of the system, with a rule in one of them. -/
def systemTables : IPTables
  | .filter => [⟨"INPUT", []⟩, ⟨"FORWARD", [⟨[], .other ["DROP"]⟩]⟩]
  | .nat => [⟨"PREROUTING", []⟩, ⟨"OUTPUT", []⟩]

/-- The setup stops after its sixth command. -/
theorem cleanup_restores_sample :
    (∀ hook, sampleRedirect.Absent hook systemTables) ∧ (systemTables.attemptAll
        ((sampleRedirect.setupIPTablesForFamily .v4).commands.take 6)).attemptAll
          sampleRedirect.cleanupIPTablesForFamily = systemTables := by
  have absent : ∀ hook, sampleRedirect.Absent hook systemTables := by
    intro hook
    cases hook <;> exact ⟨by decide, by decide⟩
  exact ⟨absent, (cleanup_restores sampleRedirect .v4 systemTables absent).1 6⟩

end SingTun.Redirect
