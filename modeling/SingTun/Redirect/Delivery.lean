import Mathlib.Logic.Relation
import SingTun.Redirect.AddressSets

/-!
# What is sent to the kernel

The elements of a set go out in pieces, and some messages wait for a later
flush.  If nothing fails, the sets end up as if every function had changed
them at once.
-/

namespace SingTun.Redirect

open Foundation Header Route Option Function

/-- The sets after everything that is pending was flushed. -/
def Conn.Delivers (kernel : NFTKernel) (conn : Conn) (sets : Sets) : Prop :=
  conn.flush? kernel = some ⟨sets, []⟩

/-- What happens to the sets between two states of the connection. -/
def Turns (kernel : NFTKernel) (Related : Sets → Sets → Prop) (conn conn' : Conn) :
    Prop :=
  ∀ sets', conn'.Delivers kernel sets' → ∃ sets, conn.Delivers kernel sets ∧ Related sets sets'

/-- One set is replaced. -/
def Replaces (set : NamedSet) (change : Option (List SetElement) → Option (List SetElement))
    (sets sets' : Sets) : Prop :=
  sets' = update sets set (change (sets set))

/-- The sets of one kind are replaced, for the families that are enabled. -/
def ReplacesKind (r : AutoRedirect) (kind : SetKind)
    (change : Family → Option (List SetElement) → Option (List SetElement))
    (sets sets' : Sets) : Prop :=
  ∀ set, sets' set =
    if set.kind = kind ∧ r.enable set.family = true then
      change set.family (sets set)
    else sets set

section Delivery

variable {kernel : NFTKernel} {builder : IPSetBuilder} {r : AutoRedirect}
  {conn conn' : Conn} {sets sets' : Sets} {set : NamedSet} {elements : List SetElement}

theorem delivers_nil : (⟨sets, []⟩ : Conn).Delivers kernel sets' ↔ sets' = sets := by
  constructor
  · intro delivers
    cases some.inj delivers
    rfl
  · rintro rfl
    rfl

theorem delivers_send {message : Message} :
    (conn.send message).Delivers kernel sets' ↔
      ∃ sets, conn.Delivers kernel sets ∧ kernel.handle? sets message = some sets' := by
  unfold Conn.Delivers Conn.flush? Conn.send
  rw [List.foldlM_append]
  cases conn.pending.foldlM kernel.handle? conn.sets with
  | none => simp
  | some sets =>
    cases kernel.handle? sets message with
    | none => simp
    | some sets' => simp

theorem delivers_of_flush? (flushed : conn.flush? kernel = some conn') :
    conn.Delivers kernel conn'.sets ∧ conn' = ⟨conn'.sets, []⟩ := by
  have empty : conn' = ⟨conn'.sets, []⟩ := by
    obtain ⟨sets, -, rfl⟩ := map_eq_some_iff.mp flushed
    rfl
  refine ⟨?_, empty⟩
  unfold Conn.Delivers
  rw [flushed]
  exact congrArg some empty

theorem Turns.refl (conn : Conn) : Turns kernel (fun s s' => s' = s) conn conn :=
  fun sets delivers => ⟨sets, delivers, rfl⟩

theorem Turns.mono {Related Related' : Sets → Sets → Prop}
    (turns : Turns kernel Related conn conn')
    (weaker : ∀ sets sets', Related sets sets' → Related' sets sets') :
    Turns kernel Related' conn conn' := by
  intro sets' delivers
  obtain ⟨sets, before, related⟩ := turns sets' delivers
  exact ⟨sets, before, weaker sets sets' related⟩

theorem Turns.trans {Related Related' : Sets → Sets → Prop} {conn'' : Conn}
    (first : Turns kernel Related conn conn')
    (second : Turns kernel Related' conn' conn'') :
    Turns kernel (Relation.Comp Related Related') conn conn'' := by
  intro sets'' delivers
  obtain ⟨sets', between, later⟩ := second sets'' delivers
  obtain ⟨sets, before, earlier⟩ := first sets' between
  exact ⟨sets, before, sets', earlier, later⟩

theorem handle?_addElements
    (applied : kernel.handle? sets (.addElements set elements) = some sets') :
    ∃ present, sets set = some present ∧
      sets' = update sets set (some (present ++ elements)) := by
  simp only [NFTKernel.handle?, bind_eq_bind, bind_eq_some_iff] at applied
  obtain ⟨present, there, accepted⟩ := applied
  split at accepted
  · exact ⟨present, there, (some.inj accepted).symm⟩
  · cases accepted

/-- Sending the elements in pieces adds all of them. -/
theorem sendElements?_turns (sent : sendElements? kernel set conn elements = some conn') :
    Turns kernel (Replaces set fun present => present.map (· ++ elements)) conn conn' := by
  induction conn, elements using sendElements?.induct with
  | case1 start =>
    unfold sendElements? at sent
    cases sent
    refine (Turns.refl _).mono fun sets sets' same => ?_
    subst same
    have kept : (sets' set).map (· ++ ([] : List SetElement)) = sets' set := by
      simp
    show sets' = update sets' set ((sets' set).map (· ++ []))
    rw [kept, update_eq_self]
  | case2 start elements nonempty ih =>
    unfold sendElements? at sent
    rw [if_neg nonempty] at sent
    obtain ⟨between, flushed, rest⟩ := bind_eq_some_iff.mp sent
    intro sets' delivers
    obtain ⟨middle, reached, later⟩ := ih between rest sets' delivers
    obtain ⟨whole, empty⟩ := delivers_of_flush? flushed
    rw [empty, delivers_nil] at reached
    obtain ⟨sets, before, applied⟩ := delivers_send.mp whole
    obtain ⟨present, there, after⟩ := handle?_addElements applied
    refine ⟨sets, before, ?_⟩
    unfold Replaces at later ⊢
    rw [later, reached, after, update_self, update_idem, there]
    simp [List.append_assoc, List.take_append_drop]

/-- The elements follow what a first message leaves in the set. -/
theorem sendElements?_turns_after
    {message : Message} {left : Option (List SetElement) → List SetElement}
    (handles : ∀ sets sets', kernel.handle? sets message = some sets' →
      sets' = update sets set (some (left (sets set))))
    (sent : sendElements? kernel set (conn.send message) elements = some conn') :
    Turns kernel (Replaces set fun present => some (left present ++ elements)) conn conn' := by
  intro sets' delivers
  obtain ⟨between, reached, later⟩ := sendElements?_turns sent sets' delivers
  obtain ⟨sets, before, applied⟩ := delivers_send.mp reached
  refine ⟨sets, before, ?_⟩
  rw [later, handles sets between applied, update_self, update_idem]
  rfl

theorem handle?_addSet (applied : kernel.handle? sets (.addSet set) = some sets') :
    sets' = update sets set (some ((sets set).getD [])) :=
  (some.inj applied).symm

theorem handle?_flushSet (applied : kernel.handle? sets (.flushSet set) = some sets') :
    sets' = update sets set (some []) := by
  obtain ⟨present, -, rfl⟩ := map_eq_some_iff.mp applied
  rfl

variable {setList : List IPSet} {prefixList : List AnyPrefix}

/-- A set that was there or not has the elements added. -/
theorem createIPSet_turns {appendDefault : Bool}
    (created : nftablesCreateIPSet? kernel builder conn set setList prefixList
      appendDefault false = some conn') :
    Turns kernel (Replaces set fun present =>
      some (present.getD [] ++ builder.elements set.family setList prefixList
        appendDefault)) conn conn' :=
  sendElements?_turns_after (fun _ _ => handle?_addSet) created

/-- A set that is updated has the new elements only. -/
theorem updateIPSet_turns {appendDefault : Bool}
    (created : nftablesCreateIPSet? kernel builder conn set setList prefixList
      appendDefault true = some conn') :
    Turns kernel (Replaces set fun _ =>
      some (builder.elements set.family setList prefixList appendDefault)) conn conn' := by
  change Turns kernel (Replaces set fun _ =>
    some ([] ++ builder.elements set.family setList prefixList appendDefault)) conn conn'
  exact sendElements?_turns_after (fun _ _ => handle?_flushSet) created

/-- What is done for each family is done for all of them. -/
theorem forFamilies?_turns {kind : SetKind} {create : Conn → Family → Option Conn}
    {change : Family → Option (List SetElement) → Option (List SetElement)}
    (each : ∀ family conn conn', create conn family = some conn' →
      Turns kernel (Replaces ⟨kind, family⟩ (change family)) conn conn')
    (created : r.forFamilies? create conn = some conn') :
    Turns kernel (ReplacesKind r kind change) conn conn' := by
  have one : ∀ family (before after : Conn), r.forFamily? create before family = some after →
      Turns kernel (fun sets sets' => sets' = if r.enable family then
        update sets ⟨kind, family⟩
          (change family (sets ⟨kind, family⟩)) else sets) before after := by
    intro family before after done
    unfold AutoRedirect.forFamily? at done
    split at done
    · rename_i enabled
      simp only [enabled, if_true]
      exact each family before after done
    · rename_i disabled
      cases done
      simp only [disabled]
      exact Turns.refl before
  obtain ⟨between, first, second⟩ := bind_eq_some_iff.mp created
  refine ((one .v4 conn between first).trans (one .v6 between conn' second)).mono ?_
  rintro sets sets'' ⟨sets', rfl, rfl⟩ ⟨kind', family⟩
  by_cases same : kind' = kind
  · subst same
    cases family <;> cases r.enable .v4 <;> cases r.enable .v6 <;> simp [update]
  · have other : ∀ family', (⟨kind', family⟩ : NamedSet) ≠ ⟨kind, family'⟩ :=
      fun _ equal => same (congrArg NamedSet.kind equal)
    cases family <;> cases r.enable .v4 <;> cases r.enable .v6 <;> simp [update, same]

section

variable {kind : SetKind} {change : Family → Option (List SetElement) → Option (List SetElement)}
variable (replaces : ReplacesKind r kind change sets sets')
include replaces

theorem ReplacesKind.own {family : Family} (enabled : r.enable family = true) :
    sets' ⟨kind, family⟩ = change family (sets ⟨kind, family⟩) :=
  (replaces ⟨kind, family⟩).trans (if_pos ⟨rfl, enabled⟩)

theorem ReplacesKind.other {kind' : SetKind} {family : Family}
    (different : kind' ≠ kind) :
    sets' ⟨kind', family⟩ = sets ⟨kind', family⟩ :=
  (replaces ⟨kind', family⟩).trans (if_neg fun both => different both.1)

end

/-- The sets of a list before and after a call. -/
def listChange (builder : IPSetBuilder) (list : List IPSet) (appendDefault update : Bool)
    (family : Family) (present : Option (List SetElement)) : Option (List SetElement) :=
  if list.isEmpty then present
  else if update then some (builder.elements family list [] appendDefault)
  else some (present.getD [] ++ builder.elements family list [] appendDefault)

theorem createAddressList?_turns {kind : SetKind} {list : List IPSet}
    {appendDefault update : Bool}
    (created : createAddressList? kernel builder r kind list appendDefault
      update conn = some conn') :
    Turns kernel (ReplacesKind r kind
      (listChange builder list appendDefault update)) conn conn' := by
  unfold createAddressList? at created
  unfold listChange
  split at created
  · rename_i empty
    cases created
    refine (Turns.refl conn).mono fun sets sets' same set => ?_
    simp only [same, if_pos empty, ite_self]
  · rename_i nonempty
    simp only [if_neg nonempty]
    refine forFamilies?_turns (fun family before after done => ?_) created
    cases update with
    | false => exact createIPSet_turns done
    | true => exact updateIPSet_turns done

theorem createAddressSets?_turns {lists : RouteLists} {update : Bool}
    (created : nftablesCreateAddressSets? kernel builder r lists update conn = some conn') :
    Turns kernel (Relation.Comp (ReplacesKind r .routeAddress
      (listChange builder lists.routeAddressSet true update)) (ReplacesKind r .routeExcludeAddress
      (listChange builder lists.routeExcludeAddressSet false update))) conn conn' := by
  unfold nftablesCreateAddressSets? at created
  split at created
  · rename_i empty
    cases created
    rw [Bool.and_eq_true] at empty
    refine (Turns.refl conn).mono fun sets sets' same => ⟨sets, ?_, ?_⟩
    · intro set
      rw [listChange, if_pos empty.1, ite_self]
    · intro set
      rw [same, listChange, if_pos empty.2, ite_self]
  · obtain ⟨between, first, second⟩ := bind_eq_some_iff.mp created
    exact (createAddressList?_turns first).trans (createAddressList?_turns second)

/-- The local sets are made when there was no address before. -/
theorem createLocal_turns {localAddresses : List AnyPrefix}
    (created : nftablesCreateLocalAddressSets? kernel builder r localAddresses []
      conn = some conn') :
    Turns kernel (ReplacesKind r .localAddress fun family present =>
      some (present.getD [] ++ builder.elements family []
        (familyAddresses family localAddresses) false)) conn conn' := by
  refine forFamilies?_turns (fun family before after done => ?_) created
  exact createIPSet_turns done

/-- When there was one, nothing is done: the two lists are the same. -/
theorem createLocal_of_ne_nil (localAddresses : List AnyPrefix) {lastAddresses : List AnyPrefix}
    (known : lastAddresses ≠ []) (conn : Conn) :
    nftablesCreateLocalAddressSets? kernel builder r localAddresses
      lastAddresses conn = some conn := by
  have idle : ∀ (before : Conn) (family : Family),
      r.forFamily? (createLocalAddressSet? kernel builder localAddresses
        lastAddresses) before family = some before := by
    intro before family
    unfold AutoRedirect.forFamily? createLocalAddressSet?
    simp [known]
  unfold nftablesCreateLocalAddressSets? AutoRedirect.forFamilies?
  rw [idle]
  exact idle conn .v6

theorem createLoopback_turns
    (created : nftablesCreateLoopbackAddressSets? kernel r conn = some conn') :
    Turns kernel (ReplacesKind r .localRedirectAddress fun family present =>
      if (r.tunOptions.inetLoopbackAddress family).isEmpty then present
      else some (present.getD [] ++ (r.tunOptions.inetLoopbackAddress family).map fun addr =>
          ⟨addr.octets, false⟩)) conn conn' := by
  refine forFamilies?_turns (fun family before after done => ?_) created
  split at done
  · rename_i empty
    cases done
    refine (Turns.refl before).mono fun sets sets' same => ?_
    subst same
    unfold Replaces
    simp only [if_pos empty, update_eq_self]
  · rename_i nonempty
    simp only [if_neg nonempty]
    exact sendElements?_turns_after (fun _ _ => handle?_addSet) done

/-- The sets of a new table. -/
structure SetUp (builder : IPSetBuilder) (r : AutoRedirect) (lists : RouteLists)
    (interfaces : List Interface) (state : Redirecting) : Prop where
  localAddresses : state.localAddresses = localAddressesOf interfaces
  routeAddress : ∀ family, r.enable family = true → state.sets ⟨.routeAddress, family⟩ =
      listChange builder lists.routeAddressSet true false family none
  routeExcludeAddress : ∀ family, r.enable family = true →
    state.sets ⟨.routeExcludeAddress, family⟩ =
      listChange builder lists.routeExcludeAddressSet false false family none
  localAddress : ∀ family, r.enable family = true →
    state.sets ⟨.localAddress, family⟩ = some (builder.elements family []
        (familyAddresses family (localAddressesOf interfaces)) false)
  localRedirectAddress : ∀ family, r.enable family = true →
    r.tunOptions.inetLoopbackAddress family ≠ [] → state.sets ⟨.localRedirectAddress, family⟩ =
        some ((r.tunOptions.inetLoopbackAddress family).map fun addr =>
          ⟨addr.octets, false⟩)

theorem setupSets?_spec {lists : RouteLists} {interfaces : List Interface} {state : Redirecting}
    (done : setupSets? kernel builder r lists interfaces = some state) :
    SetUp builder r lists interfaces state := by
  obtain ⟨first, addresses, done⟩ := bind_eq_some_iff.mp done
  obtain ⟨second, locals, done⟩ := bind_eq_some_iff.mp done
  obtain ⟨third, loopback, done⟩ := bind_eq_some_iff.mp done
  obtain ⟨last, flushed, done⟩ := bind_eq_some_iff.mp done
  cases done
  obtain ⟨sets, before, sets₂, ⟨sets₁, ⟨empty, routes, excludes⟩, atLocals⟩,
    atLoopback⟩ := (((createAddressSets?_turns addresses).trans
      (createLocal_turns locals)).trans (createLoopback_turns loopback))
        last.sets (delivers_of_flush? flushed).1
  rw [delivers_nil] at before
  subst before
  constructor
  case localAddresses => rfl
  all_goals dsimp only
  · intro family enabled
    rw [atLoopback.other (by decide), atLocals.other (by decide), excludes.other (by decide)]
    exact routes.own enabled
  · intro family enabled
    rw [atLoopback.other (by decide), atLocals.other (by decide),
      excludes.own enabled, routes.other (by decide)]
  · intro family enabled
    rw [atLoopback.other (by decide), atLocals.own enabled,
      excludes.other (by decide), routes.other (by decide)]
    rfl
  · intro family enabled nonempty
    have filled : ¬(r.tunOptions.inetLoopbackAddress family).isEmpty = true :=
      fun empty => nonempty (List.isEmpty_iff.mp empty)
    rw [atLoopback.own enabled, atLocals.other (by decide),
      excludes.other (by decide), routes.other (by decide), if_neg filled]
    rfl

/-! ## Nothing fails -/

/-- Everything that is pending can be flushed. -/
def Conn.Live (kernel : NFTKernel) (conn : Conn) : Prop :=
  ∃ sets, conn.Delivers kernel sets

section Live

variable (lenient : ∀ present elements, kernel.accepts present elements = true)
include lenient

theorem sendElements?_live (delivers : conn.Delivers kernel sets) (present : (sets set).isSome) :
    ∃ conn', sendElements? kernel set conn elements = some conn' ∧ conn'.Live kernel := by
  induction conn, elements using sendElements?.induct generalizing sets with
  | case1 start =>
    unfold sendElements?
    exact ⟨start, if_pos rfl, sets, delivers⟩
  | case2 start elements nonempty ih =>
    unfold sendElements?
    rw [if_neg nonempty]
    obtain ⟨there, same⟩ := isSome_iff_exists.mp present
    have flushed : (start.send (.addElements set (elements.take elementsLimit))).Delivers kernel
          (update sets set (some (there ++ elements.take elementsLimit))) := by
      refine delivers_send.mpr ⟨sets, delivers, ?_⟩
      simp [NFTKernel.handle?, same, lenient]
    have still : (update sets set
        (some (there ++ elements.take elementsLimit)) set).isSome := by
      rw [update_self]
      rfl
    obtain ⟨conn', sent, live⟩ := ih ⟨_, []⟩ (delivers_nil.mpr rfl) still
    exact ⟨conn', bind_eq_some_iff.mpr ⟨_, flushed, sent⟩, live⟩

theorem send_addSet_live (live : conn.Live kernel) :
    ∃ conn', sendElements? kernel set (conn.send (.addSet set)) elements =
      some conn' ∧ conn'.Live kernel := by
  obtain ⟨sets, delivers⟩ := live
  refine sendElements?_live lenient (delivers_send.mpr ⟨sets, delivers, rfl⟩) ?_
  rw [update_self]
  rfl

omit lenient in
theorem forFamilies?_live {create : Conn → Family → Option Conn}
    (each : ∀ family (conn : Conn), conn.Live kernel →
      ∃ conn', create conn family = some conn' ∧ conn'.Live kernel)
    (live : conn.Live kernel) :
    ∃ conn', r.forFamilies? create conn = some conn' ∧ conn'.Live kernel := by
  have one : ∀ family (conn : Conn), conn.Live kernel →
      ∃ conn', r.forFamily? create conn family = some conn' ∧ conn'.Live kernel := by
    intro family conn live
    unfold AutoRedirect.forFamily?
    split
    · exact each family conn live
    · exact ⟨conn, rfl, live⟩
  obtain ⟨between, first, live⟩ := one .v4 conn live
  obtain ⟨last, second, live⟩ := one .v6 between live
  exact ⟨last, bind_eq_some_iff.mpr ⟨between, first, second⟩, live⟩

theorem createAddressList?_live {kind : SetKind} {list : List IPSet} {appendDefault : Bool}
    (live : conn.Live kernel) :
    ∃ conn', createAddressList? kernel builder r kind list appendDefault false
      conn = some conn' ∧ conn'.Live kernel := by
  unfold createAddressList?
  split
  · exact ⟨conn, rfl, live⟩
  · exact forFamilies?_live (fun family conn live =>
      send_addSet_live lenient live) live

/-- The setup of a kernel that refuses nothing more succeeds. -/
theorem setupSets?_eq_some (lists : RouteLists) (interfaces : List Interface) :
    ∃ state, setupSets? kernel builder r lists interfaces = some state := by
  have start : (⟨fun _ => none, []⟩ : Conn).Live kernel := ⟨_, delivers_nil.mpr rfl⟩
  have addresses : ∃ conn', nftablesCreateAddressSets? kernel builder r lists
      false ⟨fun _ => none, []⟩ = some conn' ∧ conn'.Live kernel := by
    unfold nftablesCreateAddressSets?
    split
    · exact ⟨_, rfl, start⟩
    · obtain ⟨between, first, live⟩ := createAddressList?_live lenient start
      obtain ⟨last, second, live⟩ := createAddressList?_live lenient live
      exact ⟨last, bind_eq_some_iff.mpr ⟨between, first, second⟩, live⟩
  obtain ⟨first, made, live⟩ := addresses
  obtain ⟨second, made', live⟩ : ∃ conn', nftablesCreateLocalAddressSets? kernel builder r
      (localAddressesOf interfaces) [] first = some conn' ∧ conn'.Live kernel :=
    forFamilies?_live (fun _ _ live => send_addSet_live lenient live) live
  have loopback : ∃ conn', nftablesCreateLoopbackAddressSets? kernel r second =
      some conn' ∧ conn'.Live kernel := by
    refine forFamilies?_live (fun family conn live => ?_) live
    split
    · exact ⟨conn, rfl, live⟩
    · exact send_addSet_live lenient live
  obtain ⟨third, made'', sets, delivers⟩ := loopback
  refine ⟨⟨localAddressesOf interfaces, sets⟩, ?_⟩
  unfold setupSets?
  simp only [made, made', made'', some_bind]
  rw [show third.flush? kernel = some ⟨sets, []⟩ from delivers]
  rfl

end Live

end Delivery

end SingTun.Redirect
