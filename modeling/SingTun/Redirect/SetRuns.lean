import SingTun.Redirect.Delivery

/-!
# Runs of updates

The sets follow what they are made from in a run exactly when every update of
the run meets a condition.  The local sets are left alone as soon as there was
an address before, so every later list has to denote the same addresses.  The
route sets are left alone when their list is empty.
-/

namespace SingTun.Redirect

open Foundation Header Route List Option

/-- The kernel has the set, and finds exactly the given addresses in it. -/
def Denotes (kernel : NFTKernel) (sets : Sets) (kind : SetKind) (family : Family)
    (Inside : Addr family → Prop) : Prop :=
  ∃ elements, sets ⟨kind, family⟩ = some elements ∧ ∀ addr : Addr family,
      kernel.finds elements addr.octets = true ↔ Inside addr

/-! ## The local sets -/

/-- The addresses of interfaces: all of `lo`, and those that are global
unicast. -/
def IsLocal (interfaces : List Interface) {family : Family} (addr : Addr family) : Prop :=
  ∃ network ∈ localAddressesOf interfaces, Covers network addr

section Local

variable (kernel : NFTKernel) (builder : IPSetBuilder) (r : AutoRedirect)

/-- Both local sets denote the addresses of the interfaces. -/
def LocalFollows (interfaces : List Interface) (state : Redirecting) : Prop :=
  ∀ family, r.enable family = true →
    Denotes kernel state.sets .localAddress family (IsLocal interfaces)

/-- A setup and updates, with the interfaces that each of them has seen; the
last one comes first. -/
inductive LocalRun (lists : RouteLists) :
    List (List Interface × Redirecting) → Prop
  | setup {interfaces : List Interface} {state : Redirecting}
      (done : setupSets? kernel builder r lists interfaces = some state) :
      LocalRun lists [(interfaces, state)]
  | update {interfaces last : List Interface} {state state' : Redirecting}
      {earlier : List (List Interface × Redirecting)}
      (run : LocalRun lists ((last, state) :: earlier))
      (done : nftablesUpdateLocalAddressSet? kernel builder r state interfaces = some state') :
      LocalRun lists ((interfaces, state') :: (last, state) :: earlier)

/-- There was no address before, or the addresses are the same as before. -/
def LocalSteady (interfaces last : List Interface) : Prop :=
  localAddressesOf last = [] ∨ ∀ family, r.enable family = true → ∀ addr : Addr family,
      IsLocal interfaces addr ↔ IsLocal last addr

variable {kernel builder r}

theorem covers_familyAddresses {family : Family} {addresses : List AnyPrefix} {addr : Addr family} :
    (∃ network ∈ familyAddresses family addresses, Covers network addr) ↔
      ∃ network ∈ addresses, Covers network addr := by
  constructor
  · rintro ⟨network, member, covers⟩
    exact ⟨network, (mem_filter.mp member).1, covers⟩
  · rintro ⟨network, member, own, rfl, contains⟩
    refine ⟨⟨family, own⟩, mem_filter.mpr ⟨member, ?_⟩, own, rfl, contains⟩
    exact decide_eq_true rfl

/-- What the elements for the local addresses denote. -/
theorem finds_localElements {family : Family} (addresses : List AnyPrefix) (addr : Addr family) :
    kernel.finds (builder.elements family [] (familyAddresses family addresses)
      false) addr.octets = true ↔ ∃ network ∈ addresses, Covers network addr := by
  have plain : builder.elements family [] (familyAddresses family addresses)
      false = (builder.ipSet (familyAddresses family addresses) []).elements
        family := rfl
  rw [plain, IPSet.finds_elements, builder.contains_ipSet]
  simp only [not_mem_nil, false_and, exists_false, or_false]
  exact covers_familyAddresses

/-- The sets hold the elements of some list of addresses. -/
def Stored (builder : IPSetBuilder) (r : AutoRedirect) (sets : Sets) : Prop :=
  ∀ family, r.enable family = true → ∃ addresses, sets ⟨.localAddress, family⟩ =
      some (builder.elements family [] (familyAddresses family addresses) false)

variable {interfaces last : List Interface} {state state' : Redirecting}

theorem SetUp.localFollows {lists : RouteLists} (up : SetUp builder r lists interfaces state) :
    LocalFollows kernel r interfaces state := by
  intro family enabled
  exact ⟨_, up.localAddress family enabled, fun addr =>
    finds_localElements _ addr⟩

/-- An update after a list without addresses makes the sets anew. -/
theorem update_of_nil (stored : Stored builder r state.sets)
    (follows : LocalFollows kernel r last state)
    (same : state.localAddresses = localAddressesOf last)
    (nothing : localAddressesOf last = [])
    (done : nftablesUpdateLocalAddressSet? kernel builder r state interfaces = some state') :
    ∀ family, r.enable family = true → state'.sets ⟨.localAddress, family⟩ =
        some (builder.elements family []
          (familyAddresses family (localAddressesOf interfaces)) false) := by
  -- The sets denote nothing, so they have no elements.
  have empty : ∀ family, r.enable family = true → state.sets ⟨.localAddress, family⟩ = some [] := by
    intro family enabled
    obtain ⟨addresses, there⟩ := stored family enabled
    obtain ⟨elements, present, denotes⟩ := follows family enabled
    cases there.symm.trans present
    rw [there]
    refine congrArg some ((IPSet.elements_eq_nil _ _).mpr fun addr inside => ?_)
    have found := (IPSet.finds_elements kernel _ addr).mpr inside
    obtain ⟨network, member, -⟩ := (denotes addr).mp found
    rw [nothing] at member
    cases member
  intro family enabled
  unfold nftablesUpdateLocalAddressSet? at done
  dsimp only at done
  rw [same, nothing] at done
  split at done
  · rename_i still
    cases done
    rw [empty family enabled, still]
    refine congrArg some ((IPSet.elements_eq_nil _ _).mpr fun addr inside => ?_).symm
    rcases (builder.contains_ipSet _ _ addr).mp inside with covered | covered
    · obtain ⟨network, member, -⟩ := covered
      cases member
    · obtain ⟨set, member, -⟩ := covered
      cases member
  · obtain ⟨conn, created, done⟩ := bind_eq_some_iff.mp done
    obtain ⟨conn', flushed, done⟩ := bind_eq_some_iff.mp done
    cases done
    obtain ⟨sets, before, replaces⟩ := createLocal_turns created conn'.sets
      (delivers_of_flush? flushed).1
    rw [delivers_nil] at before
    subst before
    show conn'.sets ⟨.localAddress, family⟩ = _
    rw [replaces.own enabled, empty family enabled]
    rfl

/-- An update after a list with addresses leaves the sets alone. -/
theorem update_of_ne_nil (interfaces : List Interface) (known : state.localAddresses ≠ []) :
    nftablesUpdateLocalAddressSet? kernel builder r state interfaces =
      some ⟨localAddressesOf interfaces, state.sets⟩ := by
  unfold nftablesUpdateLocalAddressSet?
  dsimp only
  split
  · rename_i same
    rw [same]
  · rw [createLocal_of_ne_nil _ known]
    rfl

theorem update_localAddresses
    (done : nftablesUpdateLocalAddressSet? kernel builder r state interfaces = some state') :
    state'.localAddresses = localAddressesOf interfaces := by
  unfold nftablesUpdateLocalAddressSet? at done
  dsimp only at done
  split at done
  · rename_i same
    cases done
    exact same.symm
  · obtain ⟨conn, created, done⟩ := bind_eq_some_iff.mp done
    obtain ⟨conn', flushed, done⟩ := bind_eq_some_iff.mp done
    cases done
    rfl

/-- After an update of sets that follow, they follow again exactly if the
update meets the condition. -/
theorem follows_update_iff (stored : Stored builder r state.sets)
    (follows : LocalFollows kernel r last state)
    (same : state.localAddresses = localAddressesOf last)
    (done : nftablesUpdateLocalAddressSet? kernel builder r state interfaces = some state') :
    Stored builder r state'.sets ∧ (LocalFollows kernel r interfaces state' ↔
        LocalSteady r interfaces last) := by
  by_cases none : localAddressesOf last = []
  · have made := update_of_nil stored follows same none done
    refine ⟨fun family enabled => ⟨_, made family enabled⟩, ?_⟩
    refine iff_of_true ?_ (.inl none)
    intro family enabled
    exact ⟨_, made family enabled, fun addr => finds_localElements _ addr⟩
  · rw [update_of_ne_nil interfaces (same.trans_ne none)] at done
    cases done
    refine ⟨stored, ?_⟩
    constructor
    · intro now
      right
      intro family enabled addr
      obtain ⟨elements, present, denotes⟩ := follows family enabled
      obtain ⟨elements', present', denotes'⟩ := now family enabled
      cases present.symm.trans present'
      exact (denotes' addr).symm.trans (denotes addr)
    · rintro (impossible | steady)
      · exact absurd impossible none
      · intro family enabled
        obtain ⟨elements, present, denotes⟩ := follows family enabled
        refine ⟨elements, present, fun addr => ?_⟩
        exact (denotes addr).trans (steady family enabled addr).symm

/-- The local sets follow the interfaces in a run exactly if every update of
the run comes after a list without addresses, or changes no address. -/
theorem localSets_follow_iff {lists : RouteLists} {run : List (List Interface × Redirecting)}
    (ran : LocalRun kernel builder r lists run) :
    (∀ point ∈ run, LocalFollows kernel r point.1 point.2) ↔
      (run.map Prod.fst).IsChain (LocalSteady r) := by
  suffices strong : (∀ point ∈ run.head?, point.2.localAddresses = localAddressesOf point.1) ∧
      ((∀ point ∈ run, LocalFollows kernel r point.1 point.2) →
        ∀ point ∈ run.head?, Stored builder r point.2.sets) ∧
      ((∀ point ∈ run, LocalFollows kernel r point.1 point.2) ↔
        (run.map Prod.fst).IsChain (LocalSteady r)) from strong.2.2
  induction ran with
  | setup done =>
    have up := setupSets?_spec done
    refine ⟨?_, ?_, ?_⟩
    · rintro point ⟨⟩
      exact up.localAddresses
    · rintro - point ⟨⟩ family enabled
      exact ⟨_, up.localAddress family enabled⟩
    · refine iff_of_true ?_ (List.IsChain.singleton _)
      intro point member
      cases mem_singleton.mp member
      exact SetUp.localFollows up
  | @update interfaces last state state' earlier run done ih =>
    obtain ⟨same, stored, chain⟩ := ih
    have sameLast := same _ rfl
    refine ⟨?_, ?_, ?_⟩
    · rintro point ⟨⟩
      exact update_localAddresses done
    · rintro follows point ⟨⟩
      have before : ∀ point ∈ (last, state) :: earlier, LocalFollows kernel r point.1 point.2 :=
        fun point member => follows point (mem_cons_of_mem _ member)
      exact (follows_update_iff (stored before _ rfl) (before _ mem_cons_self) sameLast done).1
    · rw [map_cons, map_cons, isChain_cons_cons,
        ← map_cons, ← chain, forall_mem_cons, and_comm]
      rw [and_comm (a := LocalSteady r interfaces last)]
      refine and_congr_right fun before => ?_
      exact (follows_update_iff (stored before _ rfl) (before _ mem_cons_self) sameLast done).2

section Samples

/-- An interface with the address `192.0.2.x`. -/
def ethernet (x : UInt8) : List Interface :=
  [⟨"eth0", [⟨.v4, .from4 192 0 2 x, 32, Nat.le_refl 32⟩]⟩]

/-- The setup sees `192.0.2.1`, and the update another address. -/
theorem exists_localRun (x : UInt8) :
    ∃ state, LocalRun lenientKernel unionBuilder sampleRedirect ⟨[], []⟩
      [(ethernet x, ⟨localAddressesOf (ethernet x), state.sets⟩), (ethernet 1, state)] := by
  obtain ⟨state, setup⟩ := @setupSets?_eq_some lenientKernel unionBuilder
    sampleRedirect (fun _ _ => rfl) ⟨[], []⟩ (ethernet 1)
  have last : state.localAddresses ≠ [] := by
    rw [(setupSets?_spec setup).localAddresses]
    decide
  exact ⟨state, .update (.setup setup) (update_of_ne_nil _ last)⟩

theorem localSets_follow_iff_sample :
    ∃ run, LocalRun lenientKernel unionBuilder sampleRedirect ⟨[], []⟩ run ∧
      run.map Prod.fst = [ethernet 1, ethernet 1] ∧
      ∀ point ∈ run, LocalFollows lenientKernel sampleRedirect point.1 point.2 := by
  obtain ⟨state, run⟩ := exists_localRun 1
  exact ⟨_, run, rfl, (localSets_follow_iff run).mpr
    (.cons_cons (.inr fun _ _ _ => Iff.rfl) (.singleton _))⟩

/-- The address of the interface changes, and the set keeps the old one. -/
theorem localSets_stale :
    ∃ state state', LocalRun lenientKernel unionBuilder sampleRedirect ⟨[], []⟩
        [(ethernet 2, state'), (ethernet 1, state)] ∧
      ¬LocalFollows lenientKernel sampleRedirect (ethernet 2) state' := by
  obtain ⟨state, run⟩ := exists_localRun 2
  refine ⟨state, _, run, fun follows => ?_⟩
  cases run with
  | update earlier done =>
    cases earlier with
    | setup setup =>
      obtain ⟨elements, present, denotes⟩ :=
        @SetUp.localFollows lenientKernel _ _ _ _ _ (setupSets?_spec setup) .v4 rfl
      obtain ⟨elements', present', denotes'⟩ := follows .v4 rfl
      cases present.symm.trans present'
      have now : IsLocal (ethernet 2) (⟨[192, 0, 2, 2], rfl⟩ : Addr .v4) :=
        ⟨⟨.v4, ⟨[192, 0, 2, 2], rfl⟩, 32, by decide⟩, by decide, _, rfl, by decide⟩
      obtain ⟨network, member, own, rfl, contains⟩ := (denotes _).mp ((denotes' _).mpr now)
      have only : localAddressesOf (ethernet 1) =
          [⟨.v4, ⟨[192, 0, 2, 1], rfl⟩, 32, by decide⟩] := by decide
      cases mem_singleton.mp member
      revert contains
      decide

end Samples

end Local

/-! ## The route sets -/

/-- The two lists of sets. -/
inductive RouteKind
  | included
  | excluded
deriving DecidableEq

def RouteKind.kind : RouteKind → SetKind
  | included => .routeAddress
  | excluded => .routeExcludeAddress

/-- The argument `appendDefault` for the sets of a list. -/
def RouteKind.appendDefault : RouteKind → Bool
  | included => true
  | excluded => false

def RouteLists.list (lists : RouteLists) : RouteKind → List IPSet
  | .included => lists.routeAddressSet
  | .excluded => lists.routeExcludeAddressSet

def IsRouted (list : List IPSet) {family : Family} (addr : Addr family) :
    Prop :=
  ∃ set ∈ list, set.Contains addr

section Routes

variable (kernel : NFTKernel) (builder : IPSetBuilder) (r : AutoRedirect)

/-- The sets that the rules of the setup refer to denote the lists. -/
def RouteFollows (first lists : RouteLists) (state : Redirecting) : Prop :=
  ∀ kind family, first.list kind ≠ [] → r.enable family = true →
    Denotes kernel state.sets kind.kind family (IsRouted (lists.list kind))

/-- A setup and updates, with the lists that each of them has seen; the last
one comes first. -/
inductive RouteRun (first : RouteLists) :
    List (RouteLists × Redirecting) → Prop
  | setup {interfaces : List Interface} {state : Redirecting}
      (done : setupSets? kernel builder r first interfaces = some state) :
      RouteRun first [(first, state)]
  | update {lists last : RouteLists} {state state' : Redirecting}
      {earlier : List (RouteLists × Redirecting)}
      (run : RouteRun first ((last, state) :: earlier))
      (done : nftablesUpdateRouteAddressSet? kernel builder r state lists = some state') :
      RouteRun first ((lists, state') :: (last, state) :: earlier)

/-- An interval that ends where it begins is empty for the kernel. -/
def ReadsEmpty (family : Family) : Prop :=
  ∀ addr : Addr family, kernel.finds (defaultElements family) addr.octets = false

/-- There is an address of the family in the list.  If there is none, the
default element has to be read as empty, and an empty list has to come after
one without an address as well. -/
def ListSteady (kind : RouteKind) (family : Family) (list last : List IPSet) : Prop :=
  (∃ addr : Addr family, IsRouted list addr) ∨
    ((kind.appendDefault = true → ReadsEmpty kernel family) ∧
      (list ≠ [] ∨ ¬∃ addr : Addr family, IsRouted last addr))

/-- The condition, for the sets that the rules of the setup refer to. -/
def RouteSteady (first lists last : RouteLists) : Prop :=
  ∀ kind family, first.list kind ≠ [] → r.enable family = true →
    ListSteady kernel kind family (lists.list kind) (last.list kind)

variable {kernel builder r}

section Elements

variable {family : Family} (list : List IPSet) (appendDefault : Bool)

/-- The elements of a list with an address of the family. -/
theorem finds_routeElements (covers : ∃ addr : Addr family, IsRouted list addr)
    (addr : Addr family) :
    kernel.finds (builder.elements family list [] appendDefault) addr.octets =
      true ↔ IsRouted list addr := by
  have contains : ∀ addr : Addr family,
      (builder.ipSet [] list).Contains addr ↔ IsRouted list addr := by
    intro addr
    rw [builder.contains_ipSet]
    simp only [not_mem_nil, false_and, exists_false, false_or]
    rfl
  have nonempty : (builder.ipSet [] list).elements family ≠ [] := by
    rw [Ne, IPSet.elements_eq_nil]
    intro empty
    obtain ⟨other, routed⟩ := covers
    exact empty other ((contains other).mpr routed)
  have plain : builder.elements family list [] appendDefault =
      (builder.ipSet [] list).elements family := by
    unfold IPSetBuilder.elements
    simp [nonempty]
  rw [plain, IPSet.finds_elements]
  exact contains addr

/-- The elements of a list without an address of the family. -/
theorem routeElements_of_none (unrouted : ¬∃ addr : Addr family, IsRouted list addr) :
    builder.elements family list [] appendDefault =
      if appendDefault then defaultElements family else [] := by
  have empty : (builder.ipSet [] list).elements family = [] := by
    rw [IPSet.elements_eq_nil]
    intro addr inside
    rcases (builder.contains_ipSet _ _ addr).mp inside with covered | routed
    · obtain ⟨network, member, -⟩ := covered
      cases member
    · exact unrouted ⟨addr, routed⟩
  unfold IPSetBuilder.elements
  simp [empty]

theorem finds_nil (key : Bytes) : kernel.finds [] key = false := by
  have covered := @NFTKernel.finds_iff kernel [] key nodup_nil
  rw [Bool.eq_false_iff, Ne, covered]
  rintro ⟨start, member, -⟩
  cases member

end Elements

/-- Nothing is found in a set exactly if its list has no address, and the
default element finds nothing. -/
def Quiet (kernel : NFTKernel) (kind : RouteKind) (family : Family)
    (list : List IPSet) (elements : List SetElement) : Prop :=
  (∀ addr : Addr family, kernel.finds elements addr.octets = false) ↔
    (¬∃ addr : Addr family, IsRouted list addr) ∧
      (kind.appendDefault = true → ReadsEmpty kernel family)

section Cells

variable {kind : RouteKind} {family : Family} {list last : List IPSet} {elements : List SetElement}

theorem quiet_elements (kind : RouteKind) (family : Family)
    (list : List IPSet) :
    Quiet kernel kind family list (builder.elements family list [] kind.appendDefault) := by
  unfold Quiet
  by_cases nonempty : ∃ addr : Addr family, IsRouted list addr
  · refine iff_of_false (fun quiet => ?_) fun silent => silent.1 nonempty
    obtain ⟨addr, routed⟩ := nonempty
    have found := (@finds_routeElements kernel builder family list
      kind.appendDefault ⟨addr, routed⟩ addr).mpr routed
    rw [quiet addr] at found
    cases found
  · rw [routeElements_of_none list _ nonempty, and_iff_right nonempty]
    cases kind with
    | included => exact ⟨fun quiet _ => quiet, fun quiet => quiet rfl⟩
    | excluded => exact iff_of_true (fun addr => finds_nil _) nofun

/-- A set for a list without an address has to find nothing. -/
theorem denotes_iff_finds_none
    (unrouted : ¬∃ addr : Addr family, IsRouted list addr) :
    (∀ addr : Addr family,
      kernel.finds elements addr.octets = true ↔ IsRouted list addr) ↔
        ∀ addr : Addr family, kernel.finds elements addr.octets = false := by
  refine forall_congr' fun addr => ?_
  have outside : ¬IsRouted list addr := fun routed => unrouted ⟨addr, routed⟩
  rw [iff_false_right outside, Bool.not_eq_true]

/-- A set that an empty list leaves as it was. -/
theorem kept_steady_iff (quiet : Quiet kernel kind family last elements) :
    ((∀ addr : Addr family,
      kernel.finds elements addr.octets = true ↔ IsRouted [] addr) ↔
        ListSteady kernel kind family [] last) ∧ ((∀ addr : Addr family,
      kernel.finds elements addr.octets = true ↔ IsRouted [] addr) →
        Quiet kernel kind family [] elements) := by
  have unrouted : ¬∃ addr : Addr family, IsRouted [] addr := by
    rintro ⟨addr, set, member, -⟩
    cases member
  rw [denotes_iff_finds_none unrouted]
  constructor
  · unfold ListSteady
    unfold Quiet at quiet
    rw [quiet, or_iff_right unrouted, or_iff_right (not_not.mpr rfl), and_comm]
  · intro silent
    exact iff_of_true silent ⟨unrouted, (quiet.mp silent).2⟩

/-- A set that is made from a list. -/
theorem made_steady_iff (nonempty : list ≠ []) :
    (∀ addr : Addr family, kernel.finds
      (builder.elements family list [] kind.appendDefault) addr.octets = true ↔
        IsRouted list addr) ↔ ListSteady kernel kind family list last := by
  unfold ListSteady
  by_cases some : ∃ addr : Addr family, IsRouted list addr
  · exact iff_of_true (fun addr => finds_routeElements _ _ some addr) (.inl some)
  · have quiet := @quiet_elements kernel builder kind family list
    unfold Quiet at quiet
    rw [denotes_iff_finds_none some, quiet, or_iff_right some,
      and_iff_right some, and_iff_left (.inl nonempty)]

end Cells

/-- The sets after an update. -/
theorem updateRoute_sets {lists : RouteLists} {state state' : Redirecting}
    (done : nftablesUpdateRouteAddressSet? kernel builder r state lists = some state')
    (kind : RouteKind) {family : Family} (enabled : r.enable family = true) :
    state'.sets ⟨kind.kind, family⟩ =
      listChange builder (lists.list kind) kind.appendDefault true family
        (state.sets ⟨kind.kind, family⟩) := by
  obtain ⟨conn, created, done⟩ := bind_eq_some_iff.mp done
  obtain ⟨conn', flushed, done⟩ := bind_eq_some_iff.mp done
  cases done
  obtain ⟨sets, before, between, routes, excludes⟩ :=
    createAddressSets?_turns created conn'.sets (delivers_of_flush? flushed).1
  rw [delivers_nil] at before
  subst before
  show conn'.sets ⟨kind.kind, family⟩ = _
  cases kind with
  | included =>
    exact (excludes.other (by decide)).trans (routes.own enabled)
  | excluded =>
    refine (excludes.own enabled).trans ?_
    rw [routes.other (by decide)]
    rfl

/-- The kernel has the sets of the rules, and they are quiet when the last
lists are. -/
def Answers (kernel : NFTKernel) (r : AutoRedirect) (first last : RouteLists)
    (state : Redirecting) : Prop :=
  ∀ kind family, first.list kind ≠ [] → r.enable family = true →
    ∃ elements, state.sets ⟨kind.kind, family⟩ = some elements ∧
      Quiet kernel kind family (last.list kind) elements

theorem SetUp.answers {first : RouteLists} {interfaces : List Interface} {state : Redirecting}
    (up : SetUp builder r first interfaces state) :
    Answers kernel r first first state := by
  intro kind family nonempty enabled
  have filled : ¬(first.list kind).isEmpty = true :=
    fun empty => nonempty (isEmpty_iff.mp empty)
  refine ⟨builder.elements family (first.list kind) [] kind.appendDefault, ?_,
    quiet_elements kind family _⟩
  cases kind with
  | included =>
    exact (up.routeAddress family enabled).trans (if_neg filled)
  | excluded =>
    exact (up.routeExcludeAddress family enabled).trans (if_neg filled)

/-- The sets denote the lists after an update exactly if the update meets the
condition, and then they go on as before. -/
theorem routeFollows_update_iff {first lists last : RouteLists} {state state' : Redirecting}
    (answers : Answers kernel r first last state)
    (done : nftablesUpdateRouteAddressSet? kernel builder r state lists = some state') :
    (RouteFollows kernel r first lists state' ↔
      RouteSteady kernel r first lists last) ∧ (RouteFollows kernel r first lists state' →
      Answers kernel r first lists state') := by
  have cell : ∀ kind family, first.list kind ≠ [] → r.enable family = true →
      ∃ elements, state'.sets ⟨kind.kind, family⟩ = some elements ∧
        ((∀ addr : Addr family, kernel.finds elements addr.octets = true ↔
            IsRouted (lists.list kind) addr) ↔
          ListSteady kernel kind family (lists.list kind) (last.list kind)) ∧
        ((∀ addr : Addr family, kernel.finds elements addr.octets = true ↔
            IsRouted (lists.list kind) addr) →
          Quiet kernel kind family (lists.list kind) elements) := by
    intro kind family referred enabled
    obtain ⟨elements, present, quiet⟩ := answers kind family referred enabled
    have sets := updateRoute_sets done kind enabled
    unfold listChange at sets
    by_cases empty : lists.list kind = []
    · rw [if_pos (isEmpty_iff.mpr empty), present] at sets
      rw [empty]
      exact ⟨elements, sets, kept_steady_iff quiet⟩
    · rw [if_neg (fun nil => empty (isEmpty_iff.mp nil)), if_pos rfl] at sets
      exact ⟨_, sets, made_steady_iff empty, fun _ => quiet_elements ..⟩
  constructor
  · constructor
    · intro follows kind family referred enabled
      obtain ⟨elements, sets, exact, -⟩ := cell kind family referred enabled
      obtain ⟨elements', sets', denotes⟩ := follows kind family referred enabled
      cases sets.symm.trans sets'
      exact exact.mp denotes
    · intro steady kind family referred enabled
      obtain ⟨elements, sets, exact, -⟩ := cell kind family referred enabled
      exact ⟨elements, sets, exact.mpr (steady kind family referred enabled)⟩
  · intro follows kind family referred enabled
    obtain ⟨elements, sets, -, goes⟩ := cell kind family referred enabled
    obtain ⟨elements', sets', denotes⟩ := follows kind family referred enabled
    cases sets.symm.trans sets'
    exact ⟨elements, sets, goes denotes⟩

/-- The route sets denote the lists after all updates of a run exactly if
every update meets the condition. -/
theorem routeSets_follow_iff {first : RouteLists} {run : List (RouteLists × Redirecting)}
    (ran : RouteRun kernel builder r first run) :
    (∀ point ∈ run.dropLast, RouteFollows kernel r first point.1 point.2) ↔
      (run.map Prod.fst).IsChain (RouteSteady kernel r first) := by
  suffices strong : ((∀ point ∈ run.dropLast, RouteFollows kernel r first point.1 point.2) →
        ∀ point ∈ run.head?, Answers kernel r first point.1 point.2) ∧
      ((∀ point ∈ run.dropLast, RouteFollows kernel r first point.1 point.2) ↔
        (run.map Prod.fst).IsChain (RouteSteady kernel r first)) from strong.2
  induction ran with
  | setup done =>
    refine ⟨?_, iff_of_true nofun (List.IsChain.singleton _)⟩
    rintro - point ⟨⟩
    exact SetUp.answers (setupSets?_spec done)
  | @update lists last state state' earlier run done ih =>
    obtain ⟨answers, chain⟩ := ih
    rw [dropLast_cons_cons, forall_mem_cons]
    refine ⟨?_, ?_⟩
    · rintro ⟨now, before⟩ point ⟨⟩
      exact (routeFollows_update_iff (answers before _ rfl) done).2 now
    · rw [map_cons, map_cons, isChain_cons_cons, ← map_cons, ← chain]
      rw [and_comm, and_comm (a := RouteSteady kernel r first lists last)]
      refine and_congr_right fun before => ?_
      exact (routeFollows_update_iff (answers before _ rfl) done).1

section Samples

/-- The set of `192.0.2.1`. -/
def singleSet : IPSet where
  ranges
    | .v4 => [⟨.from4 192 0 2 1, .from4 192 0 2 1, le_rfl⟩]
    | .v6 => []
  spaced
    | .v4 => pairwise_singleton _ _
    | .v6 => List.Pairwise.nil

theorem isRouted_singleSet : IsRouted [singleSet] (⟨[192, 0, 2, 1], rfl⟩ : Addr .v4) :=
  ⟨singleSet, mem_singleton_self _, _, mem_singleton_self _, le_rfl, le_rfl⟩

/-- The setup sees one set, and the update an empty list. -/
theorem exists_routeRun :
    ∃ state, RouteRun lenientKernel unionBuilder sampleRedirect ⟨[singleSet], []⟩
      [(⟨[], []⟩, state), (⟨[singleSet], []⟩, state)] := by
  obtain ⟨state, setup⟩ := @setupSets?_eq_some lenientKernel unionBuilder
    sampleRedirect (fun _ _ => rfl) ⟨[singleSet], []⟩ []
  exact ⟨state, .update (.setup setup) rfl⟩

theorem routeSets_follow_iff_sample :
    ∃ run, RouteRun lenientKernel unionBuilder sampleRedirect ⟨[singleSet], []⟩
        run ∧ run.map Prod.fst = [⟨[], []⟩, ⟨[singleSet], []⟩] ∧
      ¬∀ point ∈ run.dropLast, RouteFollows lenientKernel sampleRedirect
        ⟨[singleSet], []⟩ point.1 point.2 := by
  obtain ⟨state, run⟩ := exists_routeRun
  refine ⟨_, run, rfl, fun follows => ?_⟩
  have steady := (isChain_cons_cons.mp ((routeSets_follow_iff run).mp follows)).1
  rcases steady .included .v4 (cons_ne_nil _ _) rfl with
    ⟨_, _, member, -⟩ | ⟨-, nonempty | unrouted⟩
  · cases member
  · exact nonempty rfl
  · exact unrouted ⟨_, isRouted_singleSet⟩

/-- The list becomes empty, and the set keeps its address. -/
theorem routeSets_stale :
    ∃ state, RouteRun lenientKernel unionBuilder sampleRedirect ⟨[singleSet], []⟩
        [(⟨[], []⟩, state), (⟨[singleSet], []⟩, state)] ∧
      ¬RouteFollows lenientKernel sampleRedirect ⟨[singleSet], []⟩ ⟨[], []⟩
        state := by
  obtain ⟨state, run⟩ := exists_routeRun
  refine ⟨state, run, fun follows => ?_⟩
  cases run with
  | update earlier done =>
    cases earlier with
    | setup setup =>
      have present := (setupSets?_spec setup).routeAddress .v4 rfl
      obtain ⟨elements, present', denotes⟩ := follows .included .v4 (cons_ne_nil _ _) rfl
      cases present.symm.trans present'
      have found := (@finds_routeElements lenientKernel unionBuilder .v4
        [singleSet] true ⟨_, isRouted_singleSet⟩ _).mpr isRouted_singleSet
      obtain ⟨set, member, -⟩ := (denotes _).mp found
      cases member

end Samples

end Routes

end SingTun.Redirect
