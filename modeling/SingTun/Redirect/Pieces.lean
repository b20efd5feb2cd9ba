import SingTun.Foundation.Chunks
import SingTun.Redirect.SetRuns

/-!
# Sets that are sent in pieces

`nftablesCreateIPSet` writes ranges as elements that open and close intervals.
The elements of a named set are sent in messages, with a flush after each; an
interval that is open after a flush would match the rest of all addresses.
-/

namespace SingTun.Redirect

open Foundation Header Route List

/-! ## Messages -/

/-- The elements of each message: those of an anonymous set come with the set,
and those of a named set in pieces. -/
def elementMessages (anonymous : Bool) (setElements : List SetElement) : List (List SetElement) :=
  if anonymous then [setElements] else pieces elementsLimit setElements

/-- `SetAddElements` and `Flush`. -/
def sendMessage? (kernel : NFTKernel) (set : NamedSet) (conn : Conn)
    (toAdd : List SetElement) : Option Conn :=
  (conn.send (.addElements set toAdd)).flush? kernel

theorem elementsLimit_ne_zero : elementsLimit ≠ 0 := by decide

/-- The loop sends one message after the other. -/
theorem sendElements?_eq (kernel : NFTKernel) (set : NamedSet) (conn : Conn)
    (setElements : List SetElement) :
    sendElements? kernel set conn setElements =
      (elementMessages false setElements).foldlM (sendMessage? kernel set)
        conn := by
  change _ = (pieces elementsLimit setElements).foldlM _ conn
  induction conn, setElements using sendElements?.induct with
  | case1 conn =>
    rw [sendElements?, if_pos rfl, pieces_nil, foldlM_nil]
    rfl
  | case2 conn setElements some ih =>
    rw [sendElements?, if_neg some, pieces_cons some elementsLimit_ne_zero, foldlM_cons]
    exact bind_congr ih

/-! ## What elements denote -/

/-- An element opens an interval at its key, or closes one in front of it; an
interval that is not closed extends to the last address. -/
def Spans {family : Family} (elements : List SetElement) (addr : Addr family) :
    Prop :=
  ReadOff (elements.map SetElement.boundary) addr.toNat

section Elements

variable {family : Family} {builder : IPSetBuilder} {setList : List IPSet}
variable {prefixList : List AnyPrefix} {appendDefault : Bool}

/-- The union of the prefixes and sets. -/
def IsListed (setList : List IPSet) (prefixList : List AnyPrefix) (addr : Addr family) : Prop :=
  (∃ network ∈ prefixList, Covers network addr) ∨ ∃ set ∈ setList, set.Contains addr

theorem IPSet.spans_elements (set : IPSet) (addr : Addr family) :
    Spans (set.elements family) addr ↔ set.Contains addr := by
  unfold Spans IPSet.Contains
  rw [IPSet.map_boundary, readOff_boundaries addr.toNat_lt]
  simp only [mem_map, exists_exists_and_eq_and]

/-- An interval that ends where it starts has no address. -/
theorem not_spans_defaultElements (addr : Addr family) : ¬Spans (defaultElements family) addr := by
  rintro ⟨span, member, low, high⟩
  obtain rfl := mem_singleton.mp member
  exact Nat.lt_irrefl _ (Nat.lt_of_lt_of_le (high _ rfl) low)

theorem defaultElements_short : (defaultElements family).length ≤ elementsLimit :=
  Nat.le_of_ble_eq_true rfl

theorem messages_defaultElements :
    elementMessages false (defaultElements family) = [defaultElements family] :=
  pieces_of_short (cons_ne_nil _ _) defaultElements_short

theorem elements_cases (builder : IPSetBuilder) (setList : List IPSet)
    (prefixList : List AnyPrefix) (appendDefault : Bool) :
    builder.elements family setList prefixList appendDefault =
        (builder.ipSet prefixList setList).elements family ∧ (appendDefault = true →
          ∃ addr : Addr family, IsListed setList prefixList addr) ∨ appendDefault = true ∧
        (∀ addr : Addr family, ¬IsListed setList prefixList addr) ∧
        builder.elements family setList prefixList appendDefault = defaultElements family := by
  have empty := (builder.ipSet prefixList setList).elements_eq_nil family
  simp only [builder.contains_ipSet] at empty
  unfold IPSetBuilder.elements
  cases appendDefault with
  | false => exact .inl ⟨rfl, nofun⟩
  | true =>
    by_cases none : (builder.ipSet prefixList setList).elements family = []
    · refine .inr ⟨rfl, empty.mp none, ?_⟩
      rw [none]
      rfl
    · left
      constructor
      · simp [none]
      · intro _
        by_contra nothing
        exact none (empty.mpr fun addr listed => nothing ⟨addr, listed⟩)

theorem spans_elements (addr : Addr family) :
    Spans (builder.elements family setList prefixList appendDefault) addr ↔
      IsListed setList prefixList addr := by
  obtain ⟨same, -⟩ | ⟨-, empty, same⟩ :=
    @elements_cases family builder setList prefixList appendDefault
  · rw [same, IPSet.spans_elements]
    exact builder.contains_ipSet ..
  · rw [same]
    exact iff_of_false (not_spans_defaultElements addr) (empty addr)

theorem IPRange.last_lt (range : IPRange family) : range.interval.last < Addr.bound family :=
  range.last.toNat_lt

/-- An even number of elements are those of whole ranges. -/
theorem IPSet.spans_take (set : IPSet) (count : Nat) {addr : Addr family}
    (spans : Spans ((set.elements family).take (count * 2)) addr) :
    set.Contains addr := by
  have bounded : ∀ interval ∈ (set.ranges family).map IPRange.interval,
      interval.last < Addr.bound family := by
    intro interval member
    obtain ⟨range, -, rfl⟩ := mem_map.mp member
    exact range.last_lt
  unfold Spans at spans
  rw [map_take, IPSet.map_boundary, take_boundaries (set.spaced family) bounded,
    readOff_boundaries addr.toNat_lt] at spans
  obtain ⟨interval, member, inside⟩ := spans
  obtain ⟨range, listed, rfl⟩ := mem_map.mp (mem_of_mem_take member)
  exact ⟨range, listed, inside⟩

theorem spans_sent (sent : Nat) {addr : Addr family}
    (spans : Spans (((elementMessages false (builder.elements family setList
      prefixList appendDefault)).take sent).flatten) addr) :
    IsListed setList prefixList addr := by
  have front := @flatten_take_pieces _ _ (builder.elements family setList
    prefixList appendDefault) elementsLimit_ne_zero sent
  change Spans ((pieces elementsLimit _).take sent).flatten addr at spans
  rw [front] at spans
  obtain ⟨same, -⟩ | ⟨-, empty, same⟩ :=
    @elements_cases family builder setList prefixList appendDefault
  · rw [same, show sent * elementsLimit = sent * 500 * 2 by
      rw [Nat.mul_assoc]; rfl] at spans
    exact (builder.contains_ipSet ..).mp (IPSet.spans_take _ _ spans)
  · rw [same] at spans
    cases sent with
    | zero =>
      obtain ⟨span, member, -⟩ := spans
      cases member
    | succ sent =>
      refine absurd ?_ (not_spans_defaultElements addr)
      rwa [take_of_length_le] at spans
      rw [Nat.succ_mul]
      exact Nat.le_add_left_of_le defaultElements_short

/-- The elements denote the union, and so do those of whole messages a part of
it. -/
theorem nftablesCreateIPSet_exact (builder : IPSetBuilder) (family : Family)
    (setList : List IPSet)
    (prefixList : List AnyPrefix) (appendDefault : Bool) :
    let setElements := builder.elements family setList prefixList appendDefault
    let messages := elementMessages false setElements
    (∀ addr : Addr family, Spans setElements addr ↔ IsListed setList prefixList addr) ∧
    (∀ (kernel : NFTKernel) (set : NamedSet) (conn : Conn),
      sendElements? kernel set conn setElements = messages.foldlM (sendMessage? kernel set) conn) ∧
    (∀ message ∈ messages, message ≠ [] ∧ message.length ≤ 1000) ∧
    messages.flatten = setElements ∧
    ∀ (sent : Nat) (addr : Addr family), Spans (messages.take sent).flatten addr →
        IsListed setList prefixList addr := by
  refine ⟨spans_elements, fun kernel set conn => sendElements?_eq ..,
    ?_, flatten_pieces elementsLimit_ne_zero, fun sent addr => spans_sent sent⟩
  intro message member
  obtain ⟨nonempty, short, -⟩ := mem_pieces member
  exact ⟨nonempty, short⟩

/-! ## Keys -/

theorem not_nodup_defaultElements : ¬((defaultElements family).map SetElement.key).Nodup := by
  simp [defaultElements]

/-- The elements of ranges have different keys, and the default elements share
theirs. -/
theorem nodup_elements_iff :
    ((builder.elements family setList prefixList appendDefault).map
      SetElement.key).Nodup ↔ (appendDefault = true →
      ∃ addr : Addr family, IsListed setList prefixList addr) := by
  obtain ⟨same, listed⟩ | ⟨given, empty, same⟩ :=
    @elements_cases family builder setList prefixList appendDefault
  · rw [same]
    exact iff_of_true (IPSet.nodup_keys _ family) listed
  · rw [same]
    refine iff_of_false not_nodup_defaultElements fun listed => ?_
    obtain ⟨addr, inside⟩ := listed given
    exact empty addr inside

/-- No message has two elements with one key, exactly if no default elements
are appended. -/
theorem messages_nodup_iff (builder : IPSetBuilder) (anonymous : Bool) (family : Family)
    (setList : List IPSet) (prefixList : List AnyPrefix)
    (appendDefault : Bool) :
    (∀ message ∈ elementMessages anonymous
        (builder.elements family setList prefixList appendDefault),
      (message.map SetElement.key).Nodup) ↔ (appendDefault = true →
        ∃ addr : Addr family, IsListed setList prefixList addr) := by
  rw [← @nodup_elements_iff family builder]
  unfold elementMessages
  cases anonymous with
  | true => simp
  | false =>
    constructor
    · intro each
      obtain ⟨same, -⟩ | ⟨-, -, same⟩ :=
        @elements_cases family builder setList prefixList appendDefault
      · rw [same]
        exact IPSet.nodup_keys _ family
      · -- The default elements are one message.
        apply each
        rw [same]
        change _ ∈ elementMessages false (defaultElements family)
        rw [messages_defaultElements]
        exact mem_singleton_self _
    · intro nodup message member
      obtain ⟨-, -, inside⟩ := mem_pieces member
      exact nodup.sublist (inside.map _)

end Elements

/-- A list for IPv4 alone, and the set for IPv6: one message, whose elements
have the same key. -/
theorem defaultMessage_repeats :
    (∀ builder : IPSetBuilder,
      elementMessages false (builder.elements .v6 [singleSet] [] true) =
        [[⟨List.replicate 16 0, false⟩, ⟨List.replicate 16 0, true⟩]]) ∧
      ¬([List.replicate 16 0, List.replicate 16 0] : List Bytes).Nodup := by
  refine ⟨fun builder => ?_, by decide⟩
  obtain ⟨-, listed⟩ | ⟨-, -, same⟩ := @elements_cases .v6 builder [singleSet] [] true
  · obtain ⟨addr, ⟨network, member, -⟩ | ⟨set, member, inside⟩⟩ := listed rfl
    · cases member
    · obtain rfl := mem_singleton.mp member
      obtain ⟨range, member, -⟩ := inside
      cases member
  · rw [same, messages_defaultElements]
    rfl

end SingTun.Redirect
