import SingTun.Redirect.AddressSets

/-!
# Expressions of nftables

A rule is a list of expressions.  They run in order over registers; one that
does not match ends its rule, and a verdict ends the chain.  What the packet
holds beside its marks is read through one function, which has no value where
there is nothing to read.
-/

namespace SingTun.Redirect

open Foundation Header

/-- The byte order of the host. -/
inductive Endian
  | little
  | big
deriving DecidableEq

/-- `binaryutil.BigEndian.PutUint32`. -/
def bigEndian32 (value : UInt32) : Bytes := beOctets 4 value.toNat

def bigEndian16 (value : UInt16) : Bytes := beOctets 2 value.toNat

/-- `binaryutil.NativeEndian.PutUint32`. -/
def Endian.putUint32 (host : Endian) (value : UInt32) : Bytes :=
  match host with
  | .little => (bigEndian32 value).reverse
  | .big => bigEndian32 value

def Endian.putUint16 (host : Endian) (value : UInt16) : Bytes :=
  match host with
  | .little => (bigEndian16 value).reverse
  | .big => bigEndian16 value

/-! ## Syntax -/

inductive MetaKey
  | mark
  | l4proto
  | nfproto
  | iifname
  | oifname
  | iiftype
  | skuid
deriving DecidableEq

inductive CtKey
  | mark
  | status
deriving DecidableEq

inductive PayloadBase
  | llHeader
  | networkHeader
  | transportHeader
deriving DecidableEq

inductive CmpOp
  | eq
  | neq
deriving DecidableEq

/-- A set by its name, or one that belongs to a rule. -/
inductive SetRef
  | named (set : NamedSet)
  | anonymous (interval : Bool) (elements : List SetElement)
deriving DecidableEq

inductive VerdictKind
  | drop
  | return
deriving DecidableEq

inductive Expr
  /-- `Meta`. -/
  | readMeta (key : MetaKey) (register : Nat)
  /-- `Meta` with `SourceRegister`. -/
  | writeMeta (key : MetaKey) (register : Nat)
  /-- `Ct`. -/
  | readCt (key : CtKey) (register : Nat)
  /-- `Ct` with `SourceRegister`. -/
  | writeCt (key : CtKey) (register : Nat)
  | cmp (op : CmpOp) (register : Nat) (data : Bytes)
  | lookup (sourceRegister : Nat) (set : SetRef) (invert : Bool)
  | payload (destRegister : Nat) (base : PayloadBase) (offset len : Nat)
  /-- `Exthdr`: whether there is a TCP option. -/
  | tcpOption (destRegister : Nat) (type : UInt8)
  /-- `Fib` for the type of the destination. -/
  | fib (register : Nat)
  | bitwise (sourceRegister destRegister : Nat) (mask xor : Bytes)
  | immediate (register : Nat) (data : Bytes)
  | counter
  | redir (registerProtoMin : Nat)
  | nat (family : Family) (regAddrMin : Nat) (regProtoMin : Option Nat)
  | reject
  | verdict (kind : VerdictKind)
deriving DecidableEq

abbrev NFTRule := List Expr

inductive NFHook
  | prerouting
  | output
deriving DecidableEq

inductive ChainType
  | nat
  | route
  | filter
deriving DecidableEq

/-- `nftables.Chain`, without its rules. -/
structure ChainSpec where
  name : String
  hooknum : NFHook
  priority : Int
  type : ChainType
deriving DecidableEq

structure NFTChain extends ChainSpec where
  rules : List NFTRule

/-! ## Semantics -/

/-- What an expression reads of a packet, beside the marks. -/
inductive Field
  | metaKey (key : MetaKey)
  | ctStatus
  | payload (base : PayloadBase) (offset len : Nat)
  | tcpOption (type : UInt8)
  | fib
deriving DecidableEq

/-- A packet; without a connection there is no mark of it. -/
structure NFTPacket where
  mark : UInt32
  ctMark : Option UInt32
  field : Field → Option Bytes

/-- The packet on its way through a chain, with the registers. -/
structure Flow where
  packet : NFTPacket
  registers : Nat → Bytes

inductive Verdict
  | returned
  | dropped
  | rejected
  | redirected (port : Bytes)
  | translated (addr : Bytes) (port : Option Bytes)
deriving DecidableEq

/-- What comes after an expression. -/
inductive Status
  | running
  | mismatch
  | ended (verdict : Verdict)
deriving DecidableEq

/-- What the rules meet in the kernel. -/
structure NFTEnv where
  host : Endian
  kernel : NFTKernel
  sets : Sets

def NFTEnv.finds (env : NFTEnv) (key : Bytes) : SetRef → Bool
  | .named set =>
    match env.sets set with
    | none => false
    | some elements =>
      if set.kind = .localRedirectAddress then
        elements.any (·.key == key)
      else env.kernel.finds elements key
  | .anonymous true elements => env.kernel.finds elements key
  | .anonymous false elements => elements.any (·.key == key)

namespace Flow

variable (flow : Flow)

def load (register : Nat) (data : Bytes) : Flow :=
  { flow with registers := Function.update flow.registers register data }

/-- A value that is read, if there is one. -/
def loadField (register : Nat) (field : Field) : Flow × Status :=
  match flow.packet.field field with
  | some data => (flow.load register data, .running)
  | none => (flow, .mismatch)

/-- The mark of the connection, if there is one. -/
def loadCtMark (host : Endian) (register : Nat) : Flow × Status :=
  match flow.packet.ctMark with
  | some mark => (flow.load register (host.putUint32 mark), .running)
  | none => (flow, .mismatch)

def setMark (mark : UInt32) : Flow :=
  { flow with packet := { flow.packet with mark } }

/-- Without a connection nothing is set. -/
def setCtMark (mark : UInt32) : Flow :=
  { flow with packet :=
      { flow.packet with ctMark := flow.packet.ctMark.map fun _ => mark } }

end Flow

/-- The number in a register of the size of a mark. -/
def Endian.uint32 (host : Endian) (data : Bytes) : UInt32 :=
  match host with
  | .little => UInt32.ofNat (beNat data.reverse)
  | .big => UInt32.ofNat (beNat data)

def continueIf (flow : Flow) (holds : Bool) : Flow × Status :=
  (flow, if holds then .running else .mismatch)

/-- One expression. -/
def Expr.eval (env : NFTEnv) (flow : Flow) : Expr → Flow × Status
  | .readMeta .mark register =>
    (flow.load register (env.host.putUint32 flow.packet.mark), .running)
  | .readMeta key register => flow.loadField register (.metaKey key)
  | .writeMeta .mark register =>
    (flow.setMark (env.host.uint32 (flow.registers register)), .running)
  | .writeMeta _ _ => (flow, .running)
  | .readCt .mark register => flow.loadCtMark env.host register
  | .readCt .status register => flow.loadField register .ctStatus
  | .writeCt .mark register =>
    (flow.setCtMark (env.host.uint32 (flow.registers register)), .running)
  | .writeCt .status _ => (flow, .running)
  | .cmp .eq register data =>
    continueIf flow (flow.registers register == data)
  | .cmp .neq register data =>
    continueIf flow (flow.registers register != data)
  | .lookup register set invert =>
    continueIf flow (env.finds (flow.registers register) set != invert)
  | .payload register base offset len =>
    flow.loadField register (.payload base offset len)
  | .tcpOption register type => flow.loadField register (.tcpOption type)
  | .fib register => flow.loadField register .fib
  | .bitwise source dest mask xor =>
    (flow.load dest (List.zipWith (· ^^^ ·)
      (List.zipWith (· &&& ·) (flow.registers source) mask) xor), .running)
  | .immediate register data => (flow.load register data, .running)
  | .counter => (flow, .running)
  | .redir register => (flow, .ended (.redirected (flow.registers register)))
  | .nat _ regAddrMin regProtoMin =>
    (flow, .ended (.translated (flow.registers regAddrMin) (regProtoMin.map flow.registers)))
  | .reject => (flow, .ended .rejected)
  | .verdict .drop => (flow, .ended .dropped)
  | .verdict .return => (flow, .ended .returned)

def evalRule (env : NFTEnv) (flow : Flow) : NFTRule → Flow × Status
  | [] => (flow, .running)
  | expr :: exprs =>
    match expr.eval env flow with
    | (flow, .running) => evalRule env flow exprs
    | ended => ended

/-- The rules of a chain; a packet that meets no verdict is accepted. -/
def evalRules (env : NFTEnv) (flow : Flow) : List NFTRule → Flow × Option Verdict
  | [] => (flow, none)
  | rule :: rules =>
    match evalRule env flow rule with
    | (flow, .ended verdict) => (flow, some verdict)
    | (flow, _) => evalRules env flow rules

/-- A packet at the start of a chain; the registers are cleared. -/
def NFTPacket.enter (packet : NFTPacket) : Flow := ⟨packet, fun _ => []⟩

/-- The packet after the chain, and the verdict. -/
def NFTChain.run (env : NFTEnv) (chain : NFTChain) (packet : NFTPacket) : Flow × Option Verdict :=
  evalRules env packet.enter chain.rules

/-! ## Facts about expressions -/

section Eval

variable {env : NFTEnv} {flow : Flow}

theorem bigEndian32_injective : Function.Injective bigEndian32 := by
  intro left right same
  have bound : ∀ value : UInt32, value.toNat < 256 ^ 4 := fun value => value.toNat_lt
  apply UInt32.toNat_inj.mp
  rw [← beNat_beOctets (bound left), ← beNat_beOctets (bound right)]
  exact congrArg beNat same

theorem Endian.putUint32_injective (host : Endian) : Function.Injective host.putUint32 := by
  intro left right same
  cases host with
  | little => exact bigEndian32_injective (List.reverse_injective same)
  | big => exact bigEndian32_injective same

theorem Endian.uint32_putUint32 (host : Endian) (value : UInt32) :
    host.uint32 (host.putUint32 value) = value := by
  have bound : value.toNat < 256 ^ 4 := value.toNat_lt
  have read : UInt32.ofNat (beNat (bigEndian32 value)) = value := by
    unfold bigEndian32
    rw [beNat_beOctets bound, UInt32.ofNat_toNat]
  cases host with
  | little =>
    exact read
  | big => exact read

@[simp]
theorem Flow.load_self (register : Nat) (data : Bytes) :
    (flow.load register data).registers register = data :=
  Function.update_self ..

theorem evalRule_append (first second : NFTRule) :
    evalRule env flow (first ++ second) = match evalRule env flow first with
      | (flow, .running) => evalRule env flow second
      | ended => ended := by
  induction first generalizing flow with
  | nil => rfl
  | cons expr exprs ih =>
    rw [List.cons_append, evalRule, evalRule]
    obtain ⟨after, status⟩ := expr.eval env flow
    cases status with
    | running => exact ih
    | mismatch => rfl
    | ended verdict => rfl

variable {rule : NFTRule} {rules : List NFTRule} {after : Flow}

/-- A rule that ends on its own account, before what is added to it. -/
theorem evalRules_cons_ended {verdict : Verdict}
    (ends : evalRule env flow rule = (after, .ended verdict)) :
    evalRules env flow (rule :: rules) = (after, some verdict) := by
  rw [evalRules, ends]

theorem evalRules_cons_mismatch (ends : evalRule env flow rule = (after, .mismatch)) :
    evalRules env flow (rule :: rules) = evalRules env after rules := by
  rw [evalRules, ends]

theorem evalRules_cons_running (ends : evalRule env flow rule = (after, .running)) :
    evalRules env flow (rule :: rules) = evalRules env after rules := by
  rw [evalRules, ends]

end Eval

/-! ## Guards -/

/-- Expressions that change nothing but registers, and go on exactly for the
packets with a property. -/
def Guards (env : NFTEnv) (exprs : NFTRule) (Holds : NFTPacket → Prop) : Prop :=
  ∀ flow : Flow, ∃ after : Flow, after.packet = flow.packet ∧
    (Holds flow.packet ∧ evalRule env flow exprs = (after, .running) ∨
      ¬Holds flow.packet ∧ evalRule env flow exprs = (after, .mismatch))

section Guard

variable {env : NFTEnv} {flow : Flow}

theorem Guards.append {first second : NFTRule} {Holds Holds' : NFTPacket → Prop}
    (guards : Guards env first Holds)
    (guards' : Guards env second Holds') :
    Guards env (first ++ second) fun packet => Holds packet ∧ Holds' packet := by
  intro flow
  obtain ⟨between, same, ⟨holds, runs⟩ | ⟨fails, stops⟩⟩ := guards flow
  · obtain ⟨after, same', next⟩ := guards' between
    refine ⟨after, same'.trans same, ?_⟩
    rw [same] at next
    rw [evalRule_append, runs]
    rcases next with ⟨holds', runs'⟩ | ⟨fails', stops'⟩
    · exact .inl ⟨⟨holds, holds'⟩, runs'⟩
    · exact .inr ⟨fun both => fails' both.2, stops'⟩
  · refine ⟨between, same, .inr ⟨fun both => fails both.1, ?_⟩⟩
    rw [evalRule_append, stops]

theorem Guards.congr {exprs : NFTRule} {Holds Holds' : NFTPacket → Prop}
    (guards : Guards env exprs Holds)
    (same : ∀ packet, Holds packet ↔ Holds' packet) :
    Guards env exprs Holds' := by
  intro flow
  rw [← same]
  exact guards flow

/-- A test after a value was loaded. -/
theorem guards_test {load test : Expr} (value : NFTPacket → Option Bytes) (accepts : Bytes → Bool)
    (loads : ∀ flow, load.eval env flow = match value flow.packet with
      | some data => (flow.load 1 data, .running)
      | none => (flow, .mismatch))
    (tests : ∀ flow, test.eval env flow = continueIf flow (accepts (flow.registers 1))) :
    Guards env [load, test] fun packet =>
      ∃ data, value packet = some data ∧ accepts data = true := by
  intro flow
  have first := loads flow
  dsimp only
  revert first
  cases value flow.packet with
  | none =>
    intro first
    refine ⟨flow, rfl, .inr ⟨by simp, ?_⟩⟩
    rw [evalRule, first]
  | some data =>
    intro first
    have second := tests (flow.load 1 data)
    refine ⟨flow.load 1 data, rfl, ?_⟩
    cases accepted : accepts data with
    | true =>
      refine .inl ⟨⟨data, rfl, accepted⟩, ?_⟩
      simp [evalRule, first, second, accepted, continueIf]
    | false =>
      refine .inr ⟨by simp [accepted], ?_⟩
      simp [evalRule, first, second, accepted, continueIf]

/-- A comparison of a value that is not a mark. -/
theorem guards_metaKey {key : MetaKey} (other : key ≠ .mark) (data : Bytes) :
    Guards env [.readMeta key 1, .cmp .eq 1 data] fun packet =>
      packet.field (.metaKey key) = some data := by
  have loads : ∀ flow : Flow, (Expr.readMeta key 1).eval env flow =
      flow.loadField 1 (.metaKey key) := by
    intro flow
    cases key <;> first | rfl | exact absurd rfl other
  refine (guards_test (fun packet => packet.field (.metaKey key)) (· == data)
    loads fun _ => rfl).congr ?_
  intro packet
  simp

theorem guards_mark_eq (mark : UInt32) :
    Guards env [.readMeta .mark 1, .cmp .eq 1 (env.host.putUint32 mark)]
      fun packet => packet.mark = mark := by
  refine (guards_test (fun packet => some (env.host.putUint32 packet.mark))
    (· == env.host.putUint32 mark) (fun _ => rfl) fun _ => rfl).congr ?_
  intro packet
  simp [env.host.putUint32_injective.eq_iff]

theorem guards_mark_ne (mark : UInt32) :
    Guards env [.readMeta .mark 1, .cmp .neq 1 (env.host.putUint32 mark)]
      fun packet => packet.mark ≠ mark := by
  refine (guards_test (fun packet => some (env.host.putUint32 packet.mark))
    (· != env.host.putUint32 mark) (fun _ => rfl) fun _ => rfl).congr ?_
  intro packet
  simp [env.host.putUint32_injective.eq_iff]

theorem guards_lookup {key : MetaKey} (other : key ≠ .mark) (set : SetRef) (invert : Bool) :
    Guards env [.readMeta key 1, .lookup 1 set invert] fun packet =>
      ∃ data, packet.field (.metaKey key) = some data ∧ (env.finds data set != invert) = true := by
  refine guards_test _ (fun data => env.finds data set != invert) ?_ fun _ => rfl
  intro flow
  cases key <;> first | rfl | exact absurd rfl other

/-- A rule that returns what its guard lets through. -/
theorem Guards.evalRules_return
    {exprs action : NFTRule} {Holds : NFTPacket → Prop} {rules : List NFTRule}
    (guards : Guards env exprs Holds)
    (acts : ∀ flow, evalRule env flow action = (flow, .ended .returned)) :
    ∃ after : Flow, after.packet = flow.packet ∧
      (Holds flow.packet ∧ evalRules env flow ((exprs ++ action) :: rules) =
          (after, some .returned) ∨
        ¬Holds flow.packet ∧ evalRules env flow ((exprs ++ action) :: rules) =
          evalRules env after rules) := by
  obtain ⟨after, same, ⟨holds, runs⟩ | ⟨fails, stops⟩⟩ := guards flow
  · refine ⟨after, same, .inl ⟨holds, evalRules_cons_ended ?_⟩⟩
    rw [evalRule_append, runs]
    exact acts after
  · refine ⟨after, same, .inr ⟨fails, evalRules_cons_mismatch ?_⟩⟩
    rw [evalRule_append, stops]

end Guard

end SingTun.Redirect
