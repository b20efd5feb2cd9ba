import Mathlib.Logic.Function.Basic
import Mathlib.Tactic.Choose
import SingTun.Foundation.Boundaries
import SingTun.Redirect.Options

/-!
# Address sets of nftables

The sets of addresses that the rules look up are sent as the boundaries of
their ranges, in messages of a limited size.  What the kernel accepts, and what
it makes of two boundaries at one place, is left open.
-/

namespace SingTun.Redirect

open Foundation Header Route

/-! ## Sets of addresses -/

/-- The prefix has the family of the address and contains it. -/
def Covers (network : AnyPrefix) {family : Family} (addr : Addr family) :
    Prop :=
  ∃ own : IPPrefix family, network = ⟨family, own⟩ ∧ own.contains addr = true

/-- `netipx.IPRange` of a family. -/
structure IPRange (family : Family) where
  first : Addr family
  last : Addr family
  ordered : first.toNat ≤ last.toNat

def IPRange.interval {family : Family} (range : IPRange family) : Interval :=
  ⟨range.first.toNat, range.last.toNat, range.ordered⟩

/-- `netipx.IPSet`: ranges in order, of which no two touch. -/
structure IPSet where
  ranges : (family : Family) → List (IPRange family)
  spaced : ∀ family, Spaced ((ranges family).map IPRange.interval)

def IPSet.Contains (set : IPSet) {family : Family} (addr : Addr family) :
    Prop :=
  ∃ range ∈ set.ranges family, range.interval.Contains addr.toNat

/-- `Ranges`. -/
def IPSet.allRanges (set : IPSet) : List ((family : Family) × IPRange family) :=
  (set.ranges .v4).map (Sigma.mk .v4) ++ (set.ranges .v6).map (Sigma.mk .v6)

/-- `netipx.IPSetBuilder`: the union of prefixes and sets. -/
structure IPSetBuilder where
  ipSet : List AnyPrefix → List IPSet → IPSet
  contains_ipSet : ∀ networks sets {family : Family} (addr : Addr family),
    (ipSet networks sets).Contains addr ↔ (∃ network ∈ networks, Covers network addr) ∨
        ∃ set ∈ sets, set.Contains addr

/-! ## Elements -/

/-- `nftables.SetElement`. -/
structure SetElement where
  key : Bytes
  intervalEnd : Bool := false
deriving DecidableEq

def SetElement.boundary (element : SetElement) : Boundary :=
  ⟨beNat element.key, element.intervalEnd⟩

/-- The elements of one range; a range up to the last address has no end. -/
def IPRange.elements {family : Family} (range : IPRange family) : List SetElement :=
  ⟨range.first.octets, false⟩ :: match range.last.next? with
    | some endAddr => [⟨endAddr.octets, true⟩]
    | none => []

def defaultElements (family : Family) : List SetElement :=
  [⟨(Addr.unspecified family).octets, false⟩, ⟨(Addr.unspecified family).octets, true⟩]

def IPSet.elements (set : IPSet) (family : Family) : List SetElement :=
  set.allRanges.flatMap fun range =>
    if range.1 ≠ family then [] else range.2.elements

/-- The elements that `nftablesCreateIPSet` sends. -/
def IPSetBuilder.elements (builder : IPSetBuilder) (family : Family) (setList : List IPSet)
    (prefixList : List AnyPrefix) (appendDefault : Bool) : List SetElement :=
  let setElements := (builder.ipSet prefixList setList).elements family
  if appendDefault && setElements.isEmpty then defaultElements family
  else setElements

/-! ## The kernel -/

inductive SetKind
  | routeAddress
  | routeExcludeAddress
  | localAddress
  | localRedirectAddress
deriving DecidableEq

/-- The named sets, such as `inet4_route_address_set`. -/
structure NamedSet where
  kind : SetKind
  family : Family
deriving DecidableEq

/-- The elements of the sets that there are. -/
abbrev Sets := NamedSet → Option (List SetElement)

inductive Message
  | addSet (set : NamedSet)
  | flushSet (set : NamedSet)
  | addElements (set : NamedSet) (elements : List SetElement)
deriving DecidableEq

/-- What is left to the kernel: the messages that it refuses beside those for
a set that is not there, and the keys that it finds in a set of intervals.  The
keys are compared as numbers, and elements with different keys are the
boundaries of intervals. -/
structure NFTKernel where
  accepts : List SetElement → List SetElement → Bool
  finds : List SetElement → Bytes → Bool
  finds_iff : ∀ {elements : List SetElement} (key : Bytes),
    (elements.map SetElement.key).Nodup → (finds elements key = true ↔
        Covered (elements.map SetElement.boundary) (beNat key))

/-- One message; an error has no result. -/
def NFTKernel.handle? (kernel : NFTKernel) (sets : Sets) : Message → Option Sets
  | .addSet set =>
    some (Function.update sets set (some ((sets set).getD [])))
  | .flushSet set =>
    (sets set).map fun _ => Function.update sets set (some [])
  | .addElements set elements => do
      let present ← sets set
      if kernel.accepts present elements then
        some (Function.update sets set (some (present ++ elements)))
      else none

/-- `nftables.Conn`: the sets of the kernel, and the messages for it. -/
structure Conn where
  sets : Sets
  pending : List Message

def Conn.send (conn : Conn) (message : Message) : Conn :=
  { conn with pending := conn.pending ++ [message] }

/-- `Flush`. -/
def Conn.flush? (kernel : NFTKernel) (conn : Conn) : Option Conn :=
  (conn.pending.foldlM kernel.handle? conn.sets).map fun sets => ⟨sets, []⟩

/-- The most elements of one message. -/
def elementsLimit : Nat := 1000

/-- The elements are sent in pieces, with a flush after each. -/
def sendElements? (kernel : NFTKernel) (set : NamedSet) (conn : Conn)
    (setElements : List SetElement) : Option Conn :=
  if setElements = [] then some conn
  else do
    let toAdd := setElements.take elementsLimit
    let conn ← (conn.send (.addElements set toAdd)).flush? kernel
    sendElements? kernel set conn (setElements.drop elementsLimit)
termination_by setElements.length
decreasing_by
  have longer := List.length_pos_of_ne_nil ‹_›
  simp only [List.length_drop, elementsLimit]
  omega

section Create

variable (kernel : NFTKernel) (builder : IPSetBuilder)

/-- `nftablesCreateIPSet` for a named set. -/
def nftablesCreateIPSet? (conn : Conn) (set : NamedSet) (setList : List IPSet)
    (prefixList : List AnyPrefix) (appendDefault update : Bool) : Option Conn :=
  sendElements? kernel set (conn.send (if update then .flushSet set else .addSet set))
    (builder.elements set.family setList prefixList appendDefault)

/-- `nftablesCreateIPConst` for a named set. -/
def nftablesCreateIPConst? (conn : Conn) (kind : SetKind) (family : Family)
    (addressList : List (Addr family)) : Option Conn :=
  sendElements? kernel ⟨kind, family⟩ (conn.send (.addSet ⟨kind, family⟩))
    (addressList.map fun addr => ⟨addr.octets, false⟩)

variable (r : AutoRedirect)

/-- What is done for a family that is enabled. -/
def AutoRedirect.forFamily? (create : Conn → Family → Option Conn) (conn : Conn) (family : Family) :
    Option Conn :=
  if r.enable family then create conn family else some conn

/-- First for IPv4, then for IPv6. -/
def AutoRedirect.forFamilies?
    (create : Conn → Family → Option Conn) (conn : Conn) : Option Conn := do
  let conn ← r.forFamily? create conn .v4
  r.forFamily? create conn .v6

/-- `*routeAddressSet` and `*routeExcludeAddressSet`. -/
structure RouteLists where
  routeAddressSet : List IPSet
  routeExcludeAddressSet : List IPSet

/-- The sets of one list; for an empty list nothing is done. -/
def createAddressList? (kind : SetKind) (list : List IPSet) (appendDefault update : Bool)
    (conn : Conn) : Option Conn :=
  if list.isEmpty then some conn
  else r.forFamilies? (fun conn family =>
    nftablesCreateIPSet? kernel builder conn ⟨kind, family⟩ list [] appendDefault update) conn

def nftablesCreateAddressSets? (lists : RouteLists) (update : Bool) (conn : Conn) : Option Conn :=
  if lists.routeAddressSet.isEmpty && lists.routeExcludeAddressSet.isEmpty then
    some conn
  else do
    let conn ← createAddressList? kernel builder r .routeAddress
      lists.routeAddressSet true update conn
    createAddressList? kernel builder r .routeExcludeAddress
      lists.routeExcludeAddressSet false update conn

/-- The addresses of a family. -/
def familyAddresses (family : Family) (addresses : List AnyPrefix) : List AnyPrefix :=
  addresses.filter fun it => it.1 = family

section

variable (localAddresses lastAddresses : List AnyPrefix) (conn : Conn)

/-- The set of one family.  The lists that are compared are both filtered from
the new addresses. -/
def createLocalAddressSet? (family : Family) : Option Conn :=
  let localAddresses' := familyAddresses family localAddresses
  let updateAddresses := familyAddresses family localAddresses
  let update := !lastAddresses.isEmpty && decide (localAddresses' ≠ updateAddresses)
  if lastAddresses.isEmpty || update then
    nftablesCreateIPSet? kernel builder conn ⟨.localAddress, family⟩ [] localAddresses' false update
  else some conn

def nftablesCreateLocalAddressSets? : Option Conn :=
  r.forFamilies? (createLocalAddressSet? kernel builder localAddresses lastAddresses) conn

end

def nftablesCreateLoopbackAddressSets? (conn : Conn) : Option Conn :=
  r.forFamilies? (fun conn family =>
    if (r.tunOptions.inetLoopbackAddress family).isEmpty then some conn
    else nftablesCreateIPConst? kernel conn .localRedirectAddress family
      (r.tunOptions.inetLoopbackAddress family)) conn

/-- `control.Interface`. -/
structure Interface where
  name : String
  addresses : List AnyPrefix

def localAddressesOf (interfaces : List Interface) : List AnyPrefix :=
  interfaces.flatMap fun it =>
    it.addresses.filter fun network =>
      it.name = "lo" || network.2.addr.isGlobalUnicast

/-- What is kept of the redirect, and the sets of its table. -/
structure Redirecting where
  localAddresses : List AnyPrefix
  sets : Sets

/-- The sets that `setupNFTables` makes in a new table. -/
def setupSets? (lists : RouteLists) (interfaces : List Interface) : Option Redirecting := do
  let conn ← nftablesCreateAddressSets? kernel builder r lists false ⟨fun _ => none, []⟩
  let localAddresses := localAddressesOf interfaces
  let conn ← nftablesCreateLocalAddressSets? kernel builder r localAddresses [] conn
  let conn ← nftablesCreateLoopbackAddressSets? kernel r conn
  let conn ← conn.flush? kernel
  some ⟨localAddresses, conn.sets⟩

def nftablesUpdateLocalAddressSet?
    (state : Redirecting) (interfaces : List Interface) : Option Redirecting :=
  let newLocalAddresses := localAddressesOf interfaces
  if newLocalAddresses = state.localAddresses then some state
  else do
    let conn ← nftablesCreateLocalAddressSets? kernel builder r
      newLocalAddresses state.localAddresses ⟨state.sets, []⟩
    let conn ← conn.flush? kernel
    some ⟨newLocalAddresses, conn.sets⟩

def nftablesUpdateRouteAddressSet?
    (state : Redirecting) (lists : RouteLists) : Option Redirecting := do
  let conn ← nftablesCreateAddressSets? kernel builder r lists true ⟨state.sets, []⟩
  let conn ← conn.flush? kernel
  some { state with sets := conn.sets }

end Create

/-! ## What the elements denote -/

section Denotation

variable {family : Family}

theorem boundary_elements (range : IPRange family) :
    range.elements.map SetElement.boundary = range.interval.boundaries (Addr.bound family) := by
  have last : range.interval.last = range.last.toNat := rfl
  unfold IPRange.elements Interval.boundaries Addr.next?
  rw [last]
  by_cases inside : range.last.toNat + 1 < Addr.bound family
  · have next : beNat (Addr.ofNat family (range.last.toNat + 1)).octets =
        range.last.toNat + 1 := Addr.toNat_ofNat inside
    simp only [if_pos inside, List.map_cons, List.map_nil, SetElement.boundary, next]
    rfl
  · simp only [if_neg inside, List.map_cons, List.map_nil, SetElement.boundary]
    rfl

theorem IPSet.elements_eq (set : IPSet) (family : Family) :
    set.elements family = (set.ranges family).flatMap IPRange.elements := by
  unfold IPSet.elements IPSet.allRanges
  rw [List.flatMap_append, List.flatMap_map, List.flatMap_map]
  cases family with
  | v4 => simp
  | v6 => simp

theorem IPSet.map_boundary (set : IPSet) (family : Family) :
    (set.elements family).map SetElement.boundary =
      ((set.ranges family).map IPRange.interval).flatMap
        (Interval.boundaries (Addr.bound family)) := by
  rw [IPSet.elements_eq, List.map_flatMap, List.flatMap_map]
  simp only [boundary_elements]

theorem IPSet.nodup_keys (set : IPSet) (family : Family) :
    ((set.elements family).map SetElement.key).Nodup := by
  have positions := @nodup_boundaries _ (Addr.bound family) (set.spaced family)
  rw [← IPSet.map_boundary, List.map_map] at positions
  refine List.Nodup.of_map beNat ?_
  rw [List.map_map]
  exact positions

/-- The elements denote the addresses of the set. -/
theorem IPSet.finds_elements (kernel : NFTKernel) (set : IPSet) (addr : Addr family) :
    kernel.finds (set.elements family) addr.octets = true ↔ set.Contains addr := by
  rw [kernel.finds_iff _ (set.nodup_keys family), IPSet.map_boundary]
  refine (covered_boundaries (set.spaced family) addr.toNat_lt).trans ?_
  unfold IPSet.Contains
  simp only [List.mem_map, exists_exists_and_eq_and]

/-- A set without elements has no address, and the other way round. -/
theorem IPSet.elements_eq_nil (set : IPSet) (family : Family) :
    set.elements family = [] ↔ ∀ addr : Addr family, ¬set.Contains addr := by
  rw [IPSet.elements_eq, List.flatMap_eq_nil_iff]
  constructor
  · intro empty addr inside
    obtain ⟨range, member, -⟩ := inside
    exact List.cons_ne_nil _ _ (empty range member)
  · intro empty range member
    exact absurd ⟨range, member, le_rfl, range.ordered⟩ (empty range.first)

/-- Intervals of numbers of addresses are ranges. -/
theorem exists_ranges {intervals : List Interval}
    (bounded : ∀ interval ∈ intervals, interval.last < Addr.bound family) :
    ∃ ranges : List (IPRange family), ranges.map IPRange.interval = intervals := by
  induction intervals with
  | nil => exact ⟨[], rfl⟩
  | cons interval intervals ih =>
    obtain ⟨ranges, same⟩ := ih fun other member =>
      bounded other (List.mem_cons_of_mem _ member)
    have last := Addr.toNat_ofNat (bounded interval List.mem_cons_self)
    have first := Addr.toNat_ofNat (Nat.lt_of_le_of_lt interval.ordered
      (bounded interval List.mem_cons_self))
    refine ⟨⟨Addr.ofNat family interval.first, Addr.ofNat family interval.last,
      by rw [first, last]; exact interval.ordered⟩ :: ranges, ?_⟩
    rw [List.map_cons, same]
    congr 1
    cases interval
    simp only [IPRange.interval, Interval.mk.injEq]
    exact ⟨first, last⟩

theorem exists_ipSet (Inside : (family : Family) → Addr family → Prop) :
    ∃ set : IPSet, ∀ {family : Family} (addr : Addr family),
      set.Contains addr ↔ Inside family addr := by
  have each : ∀ family, ∃ ranges : List (IPRange family),
      Spaced (ranges.map IPRange.interval) ∧ ∀ addr : Addr family,
        (∃ range ∈ ranges, range.interval.Contains addr.toNat) ↔ Inside family addr := by
    intro family
    obtain ⟨intervals, spaced, bounded, same⟩ := exists_spaced
      (fun n => ∃ addr : Addr family, addr.toNat = n ∧ Inside family addr) (Addr.bound family)
    obtain ⟨ranges, rfl⟩ := exists_ranges bounded
    refine ⟨ranges, spaced, fun addr => ?_⟩
    have told := same addr.toNat addr.toNat_lt
    simp only [List.mem_map, exists_exists_and_eq_and] at told
    refine told.trans ⟨?_, fun inside => ⟨addr, rfl, inside⟩⟩
    rintro ⟨other, equal, inside⟩
    cases Addr.toNat_injective equal
    exact inside
  choose ranges spaced same using each
  exact ⟨⟨ranges, spaced⟩, fun addr => same _ addr⟩

/-- A builder. -/
noncomputable def unionBuilder : IPSetBuilder where
  ipSet networks sets := Classical.choose (exists_ipSet fun _ addr =>
    (∃ network ∈ networks, Covers network addr) ∨ ∃ set ∈ sets, set.Contains addr)
  contains_ipSet networks sets _ addr := Classical.choose_spec (exists_ipSet fun _ addr =>
      (∃ network ∈ networks, Covers network addr) ∨ ∃ set ∈ sets, set.Contains addr) addr

instance (boundaries : List Boundary) (n : Nat) : Decidable (Covered boundaries n) :=
  inferInstanceAs (Decidable (∃ _ ∈ _, _))

/-- A kernel that refuses nothing more. -/
def lenientKernel : NFTKernel where
  accepts _ _ := true
  finds elements key := decide (Covered (elements.map SetElement.boundary) (beNat key))
  finds_iff _ _ := decide_eq_true_iff

end Denotation

end SingTun.Redirect
