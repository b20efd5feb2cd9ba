import SingTun.Offload.GroAccounting

/-!
# A whole batch

`GRORun` are the states that the loop of `handleGRO` passes through; the loop
returns no error exactly at the end of such a run.  After the loop the
accounting visits every item once and writes its header.  `GROResultOf` says
what is in the buffers then.
-/

namespace SingTun.Offload

open Foundation Header List

/-! ## The loop -/

/-- The states after `k` turns of the loop on a fresh batch. -/
inductive GRORun (config : GROConfig) (given : List Buf) :
    Nat → GROState → Prop
  | start : GRORun config given 0 (GROState.new given)
  | step {k : Nat} {state state' : GROState} {buf : Buf}
      (run : GRORun config given k state) (first : given[k]? = some buf)
      (valid : OffsetValid config buf)
      (step : GROStep config given k state state') :
      GRORun config given (k + 1) state'

namespace GRORun

variable {config : GROConfig} {given : List Buf} {k : Nat}
variable {state : GROState}
variable (run : GRORun config given k state)
include run

/-- All states of a run have the invariant. -/
theorem inv (small : given.length ≤ 65536) : ∃ noops, GROInv config given k state noops := by
  induction run with
  | start => exact ⟨_, GROInv.new config given⟩
  | step run first valid step ih =>
    obtain ⟨noops, inv⟩ := ih
    have inside := (List.getElem?_eq_some_iff.mp first).1
    exact inv.step first valid (by omega) step

theorem headroom (positive : 0 < k) : virtioNetHdrLen ≤ config.offset := by
  cases run with
  | start => exact absurd positive (Nat.lt_irrefl 0)
  | step run first valid step => exact valid.1

/-- The offset is inside every buffer that was looked at. -/
theorem offset_lt {i : Nat} (before : i < k) {buf : Buf}
    (first : given[i]? = some buf) :
    config.offset < buf.bytes.length := by
  induction run with
  | start => exact absurd before (Nat.not_lt_zero i)
  | @step k state state' other run found valid step ih =>
    rcases Nat.lt_succ_iff_lt_or_eq.mp before with earlier | rfl
    · exact ih earlier
    · rw [Option.some.inj (first.symm.trans found)]
      exact valid.2

end GRORun

theorem groLoop_append (config : GROConfig) (front back : List Nat) (state : GROState) :
    groLoop config (front ++ back) state = (groLoop config front state).bind fun outcome =>
        if outcome.1 = [] then groLoop config back outcome.2
        else some outcome := by
  induction front generalizing state with
  | nil => rfl
  | cons i front ih =>
    rw [cons_append, groLoop, groLoop]
    cases step : groStep config state i with
    | none => rfl
    | some result =>
      cases result with
      | error error => rfl
      | ok state => exact ih state

/-- One turn more. -/
theorem groLoop_range_succ (config : GROConfig) (n : Nat) (state : GROState) :
    groLoop config (List.range (n + 1)) state =
      (groLoop config (List.range n) state).bind fun outcome =>
        if outcome.1 = [] then groLoop config [n] outcome.2
        else some outcome := by
  rw [range_succ, groLoop_append]

/-- Without an error at the end, there was none after the first part. -/
theorem clean_of_bind {ε σ β : Type} {first : Option (List ε × σ)} {next : List ε × σ → Option β}
    {last : β} (clean : first.bind next = some last)
    (stops : ∀ outcome, outcome.1 ≠ [] → next outcome ≠ some last) :
    ∃ middle, first = some ([], middle) ∧ next ([], middle) = some last := by
  obtain ⟨⟨errors, middle⟩, ran, rest⟩ := Option.bind_eq_some_iff.mp clean
  by_cases none : errors = []
  · subst none
    exact ⟨middle, ran, rest⟩
  · exact absurd rest (stops _ none)

theorem stops_of_ne_nil {ε σ : Type} {outcome : List ε × σ} {last : σ} (dirty : outcome.1 ≠ [])
    [Decidable (outcome.1 = [])] (next : Option (List ε × σ)) :
    (if outcome.1 = [] then next else some outcome) ≠ some ([], last) := by
  rw [if_neg dirty]
  rintro ⟨⟩
  exact dirty rfl

variable {config : GROConfig} {given : List Buf}

/-- A turn without error is a step. -/
theorem step_of_groLoop {n : Nat} {state : GROState} (inside : n < given.length)
    (inv : ∀ {before}, groLoop config (List.range n) (GROState.new given) = some ([], before) →
      ∃ noops, GROInv config given n before noops)
    (loop : groLoop config (List.range (n + 1)) (GROState.new given) = some ([], state)) :
    ∃ before buf, groLoop config (List.range n) (GROState.new given) = some ([], before) ∧
      given[n]? = some buf ∧ OffsetValid config buf ∧ GROStep config given n before state := by
  rw [groLoop_range_succ] at loop
  obtain ⟨before, ran, turn⟩ := clean_of_bind loop fun _ dirty => stops_of_ne_nil dirty _
  rw [if_pos rfl, groLoop] at turn
  obtain ⟨noops, inv⟩ := inv ran
  have outcome := groStep_spec inv inside
  generalize groStep config before n = result at turn outcome
  cases outcome with
  | invalidOffset => cases turn
  | exhausted => cases turn
  | step first valid step =>
    cases turn
    exact ⟨before, _, ran, first, valid, step⟩

/-- A loop without error is a run. -/
theorem run_of_groLoop {n : Nat} {state : GROState}
    (small : given.length ≤ 65536)
    (bound : n ≤ given.length)
    (loop : groLoop config (List.range n) (GROState.new given) = some ([], state)) :
    GRORun config given n state := by
  induction n generalizing state with
  | zero =>
    cases loop
    exact GRORun.start
  | succ n ih =>
    obtain ⟨before, buf, ran, first, valid, step⟩ :=
      step_of_groLoop bound (fun ran => (ih (by omega) ran).inv small) loop
    exact (ih (by omega) ran).step first valid step

/-- The loop of `handleGRO` comes to packet `k` in the state `before`. -/
def GROTurn (config : GROConfig) (bufs : List Buf) (k : Nat) (before : GROState) : Prop :=
  k < bufs.length ∧ groLoop config (List.range k) (GROState.new bufs) = some ([], before)

theorem GROTurn.inv {k : Nat} {before : GROState} (turn : GROTurn config given k before)
    (small : given.length ≤ 65536) :
    ∃ noops, GROInv config given k before noops :=
  (run_of_groLoop small turn.1.le turn.2).inv small

section Turns

variable {holds : GROState → Prop} {brings : Nat → GROState → Prop}
variable (small : given.length ≤ 65536) (start : ¬holds (GROState.new given))
variable (step : ∀ {k noops before after}, k < given.length →
  GROInv config given k before noops → GROStep config given k before after →
    (holds after ↔ holds before ∨ brings k before))
include small start step

theorem exists_earlier_turn_iff {n : Nat} {state : GROState} (bound : n ≤ given.length)
    (loop : groLoop config (List.range n) (GROState.new given) = some ([], state)) :
    holds state ↔ ∃ k before, k < n ∧ GROTurn config given k before ∧ brings k before := by
  induction n generalizing state with
  | zero =>
    cases loop
    exact ⟨fun held => absurd held start, fun ⟨k, before, never, _⟩ => absurd never (by omega)⟩
  | succ n ih =>
    obtain ⟨before, buf, ran, first, valid, last⟩ :=
      step_of_groLoop bound (fun ran => GROTurn.inv ⟨bound, ran⟩ small) loop
    obtain ⟨noops, inv⟩ := GROTurn.inv ⟨bound, ran⟩ small
    rw [step bound inv last, ih (Nat.le_of_lt bound) ran]
    constructor
    · rintro (⟨k, earlier, below, rest⟩ | brought)
      · exact ⟨k, earlier, by omega, rest⟩
      · exact ⟨n, before, Nat.lt_succ_self n, ⟨bound, ran⟩, brought⟩
    · rintro ⟨k, earlier, below, turn, brought⟩
      rcases Nat.lt_succ_iff_lt_or_eq.mp below with earliest | rfl
      · exact .inl ⟨k, earlier, earliest, turn, brought⟩
      · obtain ⟨-, rfl⟩ := Prod.mk.inj (Option.some.inj (ran.symm.trans turn.2))
        exact .inr brought

/-- What the loop has come to is what one of its turns brought about. -/
theorem exists_turn_iff {state : GROState}
    (loop : groLoop config (List.range given.length) (GROState.new given) = some ([], state)) :
    holds state ↔ ∃ k before, GROTurn config given k before ∧ brings k before := by
  rw [exists_earlier_turn_iff small start step (le_rfl) loop]
  constructor
  · rintro ⟨k, before, -, rest⟩
    exact ⟨k, before, rest⟩
  · rintro ⟨k, before, turn, brought⟩
    exact ⟨k, before, turn.1, turn, brought⟩

end Turns

/-- The deleted items are those that failed their check at some turn. -/
theorem mem_deleted_iff (small : given.length ≤ 65536) {state : GROState}
    (loop : groLoop config (List.range given.length) (GROState.new given) = some ([], state))
    (item : TCPGROItem) :
    item ∈ state.tcpTable.deleted ↔ ∃ k before, GROTurn config given k before ∧
      ∃ attempt ∈ groAttempts config before k,
        attempt.result = .itemInvalidCSum ∧ attempt.item = item := by
  have step : ∀ {k noops before after}, k < given.length →
      GROInv config given k before noops → GROStep config given k before after →
        (item ∈ after.tcpTable.deleted ↔ item ∈ before.tcpTable.deleted ∨
          ∃ attempt ∈ groAttempts config before k,
            attempt.result = .itemInvalidCSum ∧ attempt.item = item) := by
    intro k noops before after _ _ step
    obtain ⟨removed, deleted, rfl, -⟩ := step.deleted_eq
    rw [deleted, mem_append]
    simp only [withResult, mem_map, mem_filter, decide_eq_true_eq, and_assoc]
  exact exists_turn_iff small nofun step loop

/-- The loop returns if the pools are large enough for the batch; its error is
an offset that is wrong. -/
theorem groLoop_returns (batch : given.length ≤ idealBatchSize)
    (n : Nat) (bound : n ≤ given.length) :
    ∃ errors state, groLoop config (List.range n) (GROState.new given) = some (errors, state) ∧
      (errors ≠ [] → ∃ buf ∈ given, ¬OffsetValid config buf) := by
  have small : given.length ≤ 65536 := batch.trans (by decide)
  induction n with
  | zero => exact ⟨[], _, rfl, absurd rfl⟩
  | succ n ih =>
    obtain ⟨errors, middle, before, invalid⟩ := ih (by omega)
    rw [groLoop_range_succ, before, Option.bind_some]
    by_cases clean : errors = []
    · subst clean
      obtain ⟨noops, inv⟩ := (run_of_groLoop small (by omega) before).inv small
      have outcome := groStep_spec inv (by omega)
      rw [if_pos rfl, groLoop]
      generalize groStep config middle n = result at outcome
      cases outcome with
      | invalidOffset invalid =>
        obtain ⟨buf, found, invalid⟩ := invalid
        exact ⟨_, middle, rfl, fun _ =>
          ⟨buf, mem_of_getElem? found, invalid⟩⟩
      | exhausted pools =>
        have tcpPool := inv.tcpPool
        have udpPool := inv.udpPool
        omega
      | @step buf state' first valid step => exact ⟨[], state', rfl, absurd rfl⟩
    · exact ⟨errors, middle, if_neg clean, invalid⟩

/-- The loop finishes a batch with valid offsets. -/
theorem groLoop_finishes (batch : given.length ≤ idealBatchSize)
    (valid : ∀ buf ∈ given, OffsetValid config buf) (n : Nat) (bound : n ≤ given.length) :
    ∃ state, groLoop config (List.range n) (GROState.new given) = some ([], state) := by
  obtain ⟨errors, state, loop, invalid⟩ := @groLoop_returns config _ batch n bound
  by_cases clean : errors = []
  · exact ⟨state, clean ▸ loop⟩
  · obtain ⟨buf, member, wrong⟩ := invalid clean
    exact absurd (valid buf member) wrong

/-! ## The accounting of all items -/

/-- The buffer of the entry has its header, and its packet its lengths. -/
def Entry.Written (order : ByteOrder) (offset : Nat) (bufs bufs' : List Buf)
    (entry : Entry) : Prop :=
  ∃ before after, bufs[entry.index]? = some before ∧
    bufs'[entry.index]? = some after ∧ entry.WrittenTo order offset before after

theorem accountItems_append (order : ByteOrder) (offset : Nat) (front back : List Accounting)
    (bufs : List Buf) :
    accountItems order offset (front ++ back) bufs =
      (accountItems order offset front bufs).bind fun outcome =>
        if outcome.1 = [] then accountItems order offset back outcome.2
        else some outcome := by
  induction front generalizing bufs with
  | nil => rfl
  | cons acc front ih =>
    rw [cons_append, accountItems, accountItems]
    cases step : accountItem order offset bufs acc with
    | none => rfl
    | some result =>
      cases result with
      | error error => rfl
      | ok bufs => exact ih bufs

/-- The accounting writes every item once, in any order. -/
theorem accountItems_spec (order : ByteOrder) {offset : Nat} {orig : Nat → Bytes}
    (pairs : List (Accounting × Entry)) (bufs : List Buf)
    (describes : ∀ pair ∈ pairs, pair.1.Describes pair.2)
    (holds : ∀ pair ∈ pairs, pair.2.Holds orig offset bufs)
    (distinct : (pairs.map fun pair => pair.2.index).Nodup)
    (headroom : pairs ≠ [] → virtioNetHdrLen ≤ offset) :
    ∃ bufs', accountItems order offset (pairs.map Prod.fst) bufs =
        some ([], bufs') ∧ bufs'.length = bufs.length ∧
      (∀ pair ∈ pairs, pair.2.Written order offset bufs bufs') ∧
      ∀ j, (∀ pair ∈ pairs, pair.2.index ≠ j) → bufs'[j]? = bufs[j]? := by
  induction pairs generalizing bufs with
  | nil => exact ⟨bufs, rfl, rfl, nofun, fun _ _ => rfl⟩
  | cons pair pairs ih =>
    have here : pair ∈ pair :: pairs := mem_cons_self
    obtain ⟨buf, found, -⟩ := (holds pair here).buffer
    obtain ⟨after, step, writtenTo⟩ := accountItem_spec order
      (describes pair here) (holds pair here) found (headroom (cons_ne_nil _ _))
    rw [map_cons, nodup_cons] at distinct
    have other : ∀ later ∈ pairs, later.2.index ≠ pair.2.index := by
      intro later member same
      exact distinct.1 (mem_map.mpr ⟨later, member, same⟩)
    have keep : ∀ j, j ≠ pair.2.index → (bufs.set pair.2.index after)[j]? = bufs[j]? :=
      fun j different => List.getElem?_set_ne (Ne.symm different)
    obtain ⟨bufs', rest, length, written, others⟩ := ih (bufs.set pair.2.index after)
        (fun later member => describes later (mem_cons_of_mem _ member))
        (fun later member => (holds later (mem_cons_of_mem _ member)).frame
          (keep _ (other later member))) distinct.2 (fun _ => headroom (cons_ne_nil _ _))
    refine ⟨bufs', ?_, by rw [length, length_set], ?_, ?_⟩
    · rw [map_cons, accountItems, step]
      exact rest
    · intro any member
      rcases mem_cons.mp member with rfl | later
      · refine ⟨buf, after, found, ?_, writtenTo⟩
        rw [others _ other, List.getElem?_set_self (List.getElem?_eq_some_iff.mp found).1]
      · obtain ⟨before, last, was, is, writtenTo⟩ := written any later
        rw [keep _ (other any later)] at was
        exact ⟨before, last, was, is, writtenTo⟩
    · intro j different
      rw [others j fun later member =>
          different later (mem_cons_of_mem _ member),
        keep j (Ne.symm (different pair here))]

/-- The state that `handleGRO` returns after the loop ended in `state`. -/
structure GROFinal
    (config : GROConfig) (given : List Buf) (state final : GROState) :
    Prop where
  run : GRORun config given given.length state
  tcpTable : final.tcpTable = state.tcpTable
  udpTable : final.udpTable = state.udpTable
  toWrite : final.toWrite = state.toWrite
  length : final.bufs.length = state.bufs.length
  written : ∀ entry ∈ state.entries, entry.Written config.order config.offset state.bufs final.bufs
  others : ∀ j, (∀ entry ∈ state.entries, entry.index ≠ j) → final.bufs[j]? = state.bufs[j]?

theorem visit_perm {κ ι : Type} (mapOrder : MapOrder κ ι) (map : Multimap κ ι) :
    (mapOrder.visit map).flatten.Perm map.items := by
  refine (mapOrder.perm map).flatten.trans (List.Perm.of_eq ?_)
  rw [Multimap.items, flatMap_def]

/-- After a run of the loop the accounting succeeds. -/
theorem accounting_spec {state : GROState} (run : GRORun config given given.length state)
    (small : given.length ≤ 65536) (tcpOrder : MapOrder TCPFlowKey TCPGROItem)
    (udpOrder : MapOrder UDPFlowKey UDPGROItem) :
    ∃ middle bufs, applyTCPCoalesceAccounting config.order tcpOrder state.bufs
          config.offset state.tcpTable = some ([], middle) ∧
        applyUDPCoalesceAccounting config.order udpOrder middle
          config.offset state.udpTable = some ([], bufs) ∧
        GROFinal config given state { state with bufs } := by
  obtain ⟨noops, inv⟩ := run.inv small
  have tcpPerm := visit_perm tcpOrder state.tcpTable.itemsByFlow
  have udpPerm := visit_perm udpOrder state.udpTable.itemsByFlow
  unfold applyTCPCoalesceAccounting applyUDPCoalesceAccounting
  generalize (tcpOrder.visit state.tcpTable.itemsByFlow).flatten = tcpItems at tcpPerm ⊢
  generalize (udpOrder.visit state.udpTable.itemsByFlow).flatten = udpItems at udpPerm ⊢
  let pairs : List (Accounting × Entry) :=
    tcpItems.map (fun item => (item.accounting, item.entry)) ++
      udpItems.map (fun item => (item.accounting, item.entry))
  have entries : ((pairs.map Prod.snd : List Entry) : Multiset Entry) = state.entries := by
    rw [GROState.entries, GROTable.items, GROTable.items,
      ← Multiset.coe_eq_coe.mpr tcpPerm, ← Multiset.coe_eq_coe.mpr udpPerm]
    simp [pairs, Function.comp_def]
  have listed : ∀ entry, entry ∈ state.entries ↔ ∃ pair ∈ pairs, pair.2 = entry := by
    intro entry
    rw [← entries, Multiset.mem_coe, mem_map]
  have describes : ∀ pair ∈ pairs, pair.1.Describes pair.2 := by
    intro pair member
    rcases mem_append.mp member with tcp | udp
    · obtain ⟨item, inside, rfl⟩ := mem_map.mp tcp
      exact (inv.tcpValid item (tcpPerm.mem_iff.mp inside)).accounting
    · obtain ⟨item, inside, rfl⟩ := mem_map.mp udp
      exact (inv.udpValid item (udpPerm.mem_iff.mp inside)).accounting
  have distinct : (pairs.map fun pair => pair.2.index).Nodup := by
    have nodup := inv.entryInv.nodup_index
    rw [← entries, Multiset.map_coe, Multiset.coe_nodup, map_map] at nodup
    exact nodup
  have headroom : pairs ≠ [] → virtioNetHdrLen ≤ config.offset := by
    intro nonempty
    obtain ⟨pair, member⟩ := exists_mem_of_ne_nil _ nonempty
    have before := inv.entryInv.index_lt ((listed pair.2).mpr ⟨pair, member, rfl⟩)
    exact run.headroom (by omega)
  obtain ⟨bufs, account, length, written, others⟩ :=
    accountItems_spec config.order pairs state.bufs describes
      (fun pair member => inv.entryInv.holds pair.2
        ((listed pair.2).mpr ⟨pair, member, rfl⟩)) distinct headroom
  have lists : pairs.map Prod.fst = tcpItems.map TCPGROItem.accounting ++
        udpItems.map UDPGROItem.accounting := by
    simp [pairs, Function.comp_def]
  rw [lists, accountItems_append] at account
  obtain ⟨middle, front, back⟩ := clean_of_bind account fun _ dirty => stops_of_ne_nil dirty _
  refine ⟨middle, bufs, front, back, ⟨run, rfl, rfl, rfl, length, ?_, ?_⟩⟩
  · intro entry member
    obtain ⟨pair, inside, rfl⟩ := (listed entry).mp member
    exact written pair inside
  · intro j different
    exact others j fun pair inside =>
      different pair.2 ((listed pair.2).mpr ⟨pair, inside, rfl⟩)

/-- When `handleGRO` returns nil, its loop ran to the end. -/
theorem handleGRO_spec {final : GROState} {tcpOrder : MapOrder TCPFlowKey TCPGROItem}
    {udpOrder : MapOrder UDPFlowKey UDPGROItem} (small : given.length ≤ 65536)
    (handled : handleGRO config tcpOrder udpOrder (GROState.new given) = some ([], final)) :
    ∃ state, groLoop config (List.range given.length) (GROState.new given) =
        some ([], state) ∧ GROFinal config given state final := by
  obtain ⟨state, loop, rest⟩ := clean_of_bind handled fun ⟨errors, state⟩ dirty => by
      dsimp only
      rw [if_pos dirty]
      rintro ⟨⟩
      exact dirty rfl
  have run := run_of_groLoop small (le_rfl) loop
  obtain ⟨middle, bufs, tcp, udp, result⟩ := accounting_spec run small tcpOrder udpOrder
  simp only [ne_eq, not_true_eq_false, if_false, tcp, udp,
    some_bind] at rest
  cases rest
  exact ⟨state, loop, result⟩

theorem handleGRO_finishes (batch : given.length ≤ idealBatchSize)
    (valid : ∀ buf ∈ given, OffsetValid config buf) (tcpOrder : MapOrder TCPFlowKey TCPGROItem)
    (udpOrder : MapOrder UDPFlowKey UDPGROItem) :
    ∃ final, handleGRO config tcpOrder udpOrder (GROState.new given) = some ([], final) := by
  have small : given.length ≤ 65536 := batch.trans (by decide)
  obtain ⟨state, loop⟩ := groLoop_finishes batch valid given.length (le_rfl)
  have run := run_of_groLoop small (le_rfl) loop
  obtain ⟨middle, bufs, tcp, udp, -⟩ := accounting_spec run small tcpOrder udpOrder
  refine ⟨{ state with bufs }, ?_⟩
  change (groLoop config (List.range given.length) _).bind _ = _
  rw [loop]
  simp only [Option.bind_some, ne_eq, not_true_eq_false, if_false, Option.bind_eq_bind]
  rw [tcp]
  simp only [Option.bind_some]
  rw [udp]
  rfl

end SingTun.Offload
