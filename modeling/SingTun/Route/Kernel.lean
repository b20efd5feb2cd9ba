import SingTun.Route.Removal

/-!
# Evaluation of the rules

The kernel keeps the rules of a family in the order of their priorities and
walks over them for a packet.  A rule that matches jumps forward, asks a table
or ends the walk; a table that has no answer lets the walk go on.
-/

namespace SingTun.Route

open Foundation Header List

/-! ## Matching -/

/-- What the kernel knows of a packet when it looks for a route.  A packet of
this host comes from `lo`; without ports they are zero. -/
structure Packet (family : Family) where
  iifName : String
  oifName : String
  mark : UInt32
  src : Addr family
  dst : Addr family
  ipProto : Int
  sport : UInt16
  dport : UInt16
  uid : UInt32

section Matching

variable {family : Family}

variable (rule : Rule family)

/-- The bits of the mark that a rule compares. -/
def Rule.markMask : UInt32 :=
  if 0 ≤ rule.mask then UInt32.ofNat rule.mask.toNat
  else if rule.markSet ∧ rule.mark ≠ 0 then 0xffffffff
  else 0

/-- All conditions of a rule; those that it does not have are met. -/
def Rule.selects (packet : Packet family) : Bool :=
  (rule.iifName == "" || rule.iifName == packet.iifName) &&
  (rule.oifName == "" || rule.oifName == packet.oifName) &&
  ((if rule.markSet then rule.mark else 0) ^^^ packet.mark) &&& rule.markMask == 0 &&
  rule.src.all (·.contains packet.src) &&
  rule.dst.all (·.contains packet.dst) &&
  (rule.ipProto == 0 || rule.ipProto == packet.ipProto) &&
  rule.sport.all (·.contains packet.sport) &&
  rule.dport.all (·.contains packet.dport) &&
  rule.uidRange.all (·.containsUID packet.uid)

/-- `not` turns the conditions around as a whole. -/
def Rule.matches (packet : Packet family) : Bool :=
  rule.invert != rule.selects packet

/-- The answer of a table is the length of the route that was found; those up
to `suppress_prefixlength` do not count. -/
def Rule.answered (answer : Int → Option Nat) : Bool :=
  match rule.lookup? with
  | none => false
  | some table => (answer table).any fun (length : Nat) =>
    rule.suppressPrefixlen < (length : Int)

end Matching

/-! ## The walk -/

section Walk

variable {family : Family}

/-- A rule goes behind those with the same priority. -/
def insertRule (rule : Rule family) : List (Rule family) → List (Rule family)
  | [] => [rule]
  | other :: later =>
    if rule.priority < other.priority then rule :: other :: later
    else other :: insertRule rule later

/-- The order of the kernel for rules that were added one by one. -/
def kernelOrder (rules : List (Rule family)) : List (Rule family) :=
  rules.foldl (fun installed rule => insertRule rule installed) []

/-- The rules whose action is carried out.  After a jump the walk goes on at
the first rule with the target's priority; a jump without one is ignored. -/
def walk (answer : Int → Option Nat) (packet : Packet family) :
    List (Rule family) → Option Int → List (Rule family)
  | [], _ => []
  | rule :: later, jump =>
    if jump.any (· ≠ rule.priority) then walk answer packet later jump
    else if !rule.matches packet then walk answer packet later none
    else if 0 ≤ rule.goto then
      walk answer packet later (if later.any (·.priority == rule.goto) then some rule.goto
        else none)
    else if rule.type = .unreachable ∨ rule.answered answer then [rule]
    else rule :: walk answer packet later none

/-- A table is asked during the walk. -/
def Reaches (answer : Int → Option Nat) (packet : Packet family) (table : Int)
    (rules : List (Rule family)) (jump : Option Int) : Prop :=
  ∃ rule ∈ walk answer packet rules jump, rule.lookup? = some table

end Walk

/-! ## The order of the kernel -/

section Order

variable {family : Family}

theorem insertRule_last {installed : List (Rule family)} {rule : Rule family}
    (last : ∀ other ∈ installed, other.priority ≤ rule.priority) :
    insertRule rule installed = installed ++ [rule] := by
  induction installed with
  | nil => rfl
  | cons other later ih =>
    unfold insertRule
    rw [if_neg (Int.not_lt.mpr (last other mem_cons_self)),
      ih fun next member => last next (mem_cons_of_mem _ member)]
    rfl

/-- Rules that are in the order of their priorities stay as they are. -/
theorem kernelOrder_eq {rules : List (Rule family)} (ordered : Ordered rules) :
    kernelOrder rules = rules := by
  have grow : ∀ installed, Ordered (installed ++ rules) →
      rules.foldl (fun installed rule => insertRule rule installed) installed =
        installed ++ rules := by
    clear ordered
    induction rules with
    | nil => exact fun installed _ => (append_nil installed).symm
    | cons rule rules ih =>
      intro installed ordered
      rw [foldl_cons, insertRule_last, ih]
      · exact append_assoc _ _ _
      · rwa [append_assoc]
      · intro other member
        exact (pairwise_append.mp ordered).2.2 other member rule mem_cons_self
  exact grow [] ordered

end Order

/-! ## Blocks of rules -/

section Blocks

variable {family : Family} {answer : Int → Option Nat} {packet : Packet family}
variable {table target : Int} {rule : Rule family}
variable {block later : List (Rule family)}

theorem not_reaches_nil (jump : Option Int) : ¬Reaches answer packet table [] jump := by
  rintro ⟨rule, member, -⟩
  cases member

/-- A jump leaves out the rules before its target. -/
theorem reaches_skip (before : ∀ rule ∈ block, rule.priority ≠ target) :
    Reaches answer packet table (block ++ later) (some target) ↔
      Reaches answer packet table later (some target) := by
  induction block with
  | nil => exact Iff.rfl
  | cons rule block ih =>
    rw [← ih fun next member =>
      before next (mem_cons_of_mem _ member)]
    have skipped : (some target).any (· ≠ rule.priority) = true := by
      have different := before rule mem_cons_self
      simpa using different.symm
    unfold Reaches
    rw [cons_append, walk, if_pos skipped]

/-- The walk goes on at the target. -/
theorem reaches_land (here : rule.priority = target) :
    Reaches answer packet table (rule :: later) (some target) ↔
      Reaches answer packet table (rule :: later) none := by
  have lands : (some target).any (· ≠ rule.priority) = false := by
    simp [here]
  unfold Reaches
  rw [walk, walk, lands]
  rfl

theorem reaches_quiet (quiet : rule.matches packet = false) :
    Reaches answer packet table (rule :: later) none ↔ Reaches answer packet table later none := by
  unfold Reaches
  rw [walk, quiet]
  rfl

section

variable (hit : rule.matches packet = true)
include hit

theorem reaches_jump (goto : rule.goto = target)
    (positive : 0 ≤ target)
    (landing : ∃ next ∈ later, next.priority = target) :
    Reaches answer packet table (rule :: later) none ↔
      Reaches answer packet table later (some target) := by
  have found : later.any (·.priority == rule.goto) = true := by
    obtain ⟨next, member, same⟩ := landing
    exact any_eq_true.mpr ⟨next, member, beq_iff_eq.mpr (same.trans goto.symm)⟩
  unfold Reaches
  rw [walk, hit, if_pos found, goto, if_pos positive]
  rfl

/-- A rule that asks the table. -/
theorem reaches_lookup (asks : rule.lookup? = some table) :
    Reaches answer packet table (rule :: later) none := by
  have stays : ¬0 ≤ rule.goto := by
    intro jumps
    rw [Rule.lookup?, if_pos (.inl jumps)] at asks
    cases asks
  refine ⟨rule, ?_, asks⟩
  rw [walk, hit, if_neg (show ¬(!true) = true by decide), if_neg stays]
  show rule ∈ if rule.type = .unreachable ∨ rule.answered answer = true
    then [rule] else rule :: walk answer packet later none
  split
  · exact mem_singleton_self rule
  · exact mem_cons_self

/-- A rule that does something else. -/
theorem reaches_other (stays : rule.goto < 0)
    (type : rule.type = .unspec)
    (asks : rule.lookup? ≠ some table) :
    Reaches answer packet table (rule :: later) none ↔ rule.answered answer = false ∧
        Reaches answer packet table later none := by
  have continues : ¬rule.type = .unreachable := by
    rw [type]
    decide
  unfold Reaches
  rw [walk, hit, if_neg (show ¬(!true) = true by decide), if_neg (Int.not_le.mpr stays)]
  cases answered : rule.answered answer with
  | true => simp [asks]
  | false => simp [asks, continues]

end

/-- Rules that all jump to one target. -/
theorem reaches_far (far : ∀ rule ∈ block, rule.goto = target)
    (positive : 0 ≤ target)
    (before : ∀ rule ∈ block, rule.priority ≠ target)
    (landing : ∃ next ∈ later, next.priority = target) :
    Reaches answer packet table (block ++ later) none ↔
      if ∃ rule ∈ block, rule.matches packet = true then
        Reaches answer packet table later (some target)
      else Reaches answer packet table later none := by
  induction block with
  | nil => simp
  | cons rule block ih =>
    have behind := fun next member =>
      before next (mem_cons_of_mem rule member)
    rw [cons_append]
    cases hit : rule.matches packet with
    | true =>
      rw [if_pos ⟨rule, mem_cons_self, hit⟩,
        reaches_jump hit (far rule mem_cons_self) positive, reaches_skip behind]
      obtain ⟨next, member, same⟩ := landing
      exact ⟨next, mem_append_right _ member, same⟩
    | false =>
      rw [reaches_quiet hit, ih (fun next member =>
        far next (mem_cons_of_mem _ member)) behind]
      simp [hit]

/-- Rules that all ask the table. -/
theorem reaches_lookups (asks : ∀ rule ∈ block, rule.lookup? = some table) :
    Reaches answer packet table (block ++ later) none ↔
      (∃ rule ∈ block, rule.matches packet = true) ∨ Reaches answer packet table later none := by
  induction block with
  | nil => simp
  | cons rule block ih =>
    rw [cons_append]
    cases hit : rule.matches packet with
    | true =>
      refine iff_of_true ?_ (.inl ⟨rule, mem_cons_self, hit⟩)
      exact reaches_lookup hit (asks rule mem_cons_self)
    | false =>
      rw [reaches_quiet hit, ih fun next member =>
        asks next (mem_cons_of_mem _ member)]
      simp [hit]

end Blocks

end SingTun.Route
