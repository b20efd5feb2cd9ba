import SingTun.Foundation.Transition
import SingTun.Route.Rule

/-!
# The interface monitor on Android

`postCheckUpdate` looks at the rules of the system to see whether a VPN is on,
stores that, and looks for the default interface.  Callbacks are told of
another VPN state with a flag.  The state is compared with the one that was
stored before, which is not always one that a callback was told of.
-/

namespace SingTun.Monitor

open Foundation Route

/-! ## One run -/

/-- What the system answers during one run. -/
structure Environment (Interface : Type) where
  /-- `interfaceFinder.Update` has no error. -/
  update : Bool
  ruleList : Option (List AnyRule)
  /-- The link indices of the routes of a table. -/
  routeList : Int → Option (List Int)
  linkByIndex : Int → Option Int
  byIndex : Int → Option Interface

/-- The fields that stay as they are. -/
structure DefaultInterfaceMonitor (Interface : Type) where
  overrideAndroidVPN : Bool
  /-- `Interface.Equals`. -/
  equals : Interface → Interface → Bool

/-- The fields that the runs change. -/
structure MonitorState (Interface : Type) where
  defaultInterface : Option Interface
  androidVPNEnabled : Bool
  noRoute : Bool

/-- The arguments of a callback. -/
structure Callback (Interface : Type) where
  defaultInterface : Option Interface
  flags : Nat

def flagAndroidVPNUpdate : Nat := 1

/-- The errors of a run: none, `ErrNoRoute` or another one. -/
inductive Outcome
  | done
  | noRoute
  | failed
deriving DecidableEq

/-- The state after a run, how it has ended and whom it has called. -/
structure Run (Interface : Type) where
  state : MonitorState Interface
  outcome : Outcome
  callbacks : List (Callback Interface)

/-- `postCheckUpdate`, behind `checkUpdate`. -/
def conclude {Interface : Type} (run : Run Interface) : Run Interface :=
  match run.outcome with
  | .noRoute =>
    if run.state.noRoute then run
    else
      { run with
        state := { run.state with noRoute := true, defaultInterface := none }
        callbacks := run.callbacks ++ [⟨none, 0⟩] }
  | .failed => run
  | .done => { run with state := { run.state with noRoute := false } }

section Run

variable {Interface : Type} (monitor : DefaultInterfaceMonitor Interface)

/-- The loop over the rules: whether a VPN is on, and the default table. -/
def scanRules (overrideAndroidVPN : Bool) : List AnyRule → Bool → Bool × Int
  | [], vpnEnabled => (vpnEnabled, 0)
  | rule :: ruleList, vpnEnabled =>
    if rule.2.mask = 0x20000 then
      if rule.2.uidRange.isNone then
        scanRules overrideAndroidVPN ruleList vpnEnabled
      else if overrideAndroidVPN then (true, rule.2.table)
      else scanRules overrideAndroidVPN ruleList true
    else if rule.2.mask = 0xffff then (vpnEnabled, rule.2.table)
    else scanRules overrideAndroidVPN ruleList vpnEnabled

variable (environment : Environment Interface)

/-- The interface of the first route of the table. -/
def Environment.findInterface (defaultTableIndex : Int) : Except Outcome Interface :=
  if defaultTableIndex = 0 then .error .noRoute
  else
    match environment.routeList defaultTableIndex with
    | none => .error .failed
    | some [] => .error .noRoute
    | some (route :: _) =>
      match environment.linkByIndex route with
      | none => .error .failed
      | some link =>
        match environment.byIndex link with
        | none => .error .failed
        | some newInterface => .ok newInterface

def checkUpdate (state : MonitorState Interface) : Run Interface :=
  match environment.ruleList with
  | none => ⟨state, .failed, []⟩
  | some ruleList =>
    let oldVPNEnabled := state.androidVPNEnabled
    let (vpnEnabled, defaultTableIndex) := scanRules monitor.overrideAndroidVPN ruleList false
    let state := { state with androidVPNEnabled := vpnEnabled }
    match environment.findInterface defaultTableIndex with
    | .error outcome => ⟨state, outcome, []⟩
    | .ok newInterface =>
      let oldInterface := state.defaultInterface
      let state := { state with defaultInterface := some newInterface }
      if oldInterface.any (monitor.equals · newInterface) ∧ oldVPNEnabled = vpnEnabled then
        ⟨state, .done, []⟩
      else
        ⟨state, .done, [⟨some newInterface,
          if oldVPNEnabled ≠ vpnEnabled then flagAndroidVPNUpdate
          else 0⟩]⟩

def postCheckUpdate (state : MonitorState Interface) : Run Interface :=
  if !environment.update then ⟨state, .failed, []⟩
  else conclude (checkUpdate monitor environment state)

end Run

/-! ## Sequences of runs -/

section Watch

variable {Interface : Type} (monitor : DefaultInterfaceMonitor Interface)

/-- The VPN state that the callbacks were told of last. -/
structure Watched (Interface : Type) where
  state : MonitorState Interface
  reported : Bool

/-- A callback that carries the flag. -/
def Callback.Flagged (callback : Callback Interface) : Prop :=
  callback.flags &&& flagAndroidVPNUpdate ≠ 0

instance (callback : Callback Interface) : Decidable callback.Flagged :=
  inferInstanceAs (Decidable (_ ≠ _))

/-- The state and the last report after a run. -/
def Watched.next (environment : Environment Interface) (watched : Watched Interface) :
    Watched Interface :=
  let run := postCheckUpdate monitor environment watched.state
  { state := run.state
    reported :=
      if ∃ callback ∈ run.callbacks, callback.Flagged then
        run.state.androidVPNEnabled
      else watched.reported }

/-- Before the first run. -/
def Watched.initial : Watched Interface :=
  ⟨⟨none, false, false⟩, false⟩

/-- A run that ends successfully tells the callbacks of a VPN state that they
do not know. -/
def Announces (watched : Watched Interface) (environment : Environment Interface) :
    Prop :=
  let run := postCheckUpdate monitor environment watched.state
  run.outcome = .done → run.state.androidVPNEnabled ≠ watched.reported →
    ∃ callback ∈ run.callbacks, callback.Flagged

/-- The table has a route whose interface is known. -/
def Environment.Resolves (environment : Environment Interface) (table : Int) : Prop :=
  table ≠ 0 ∧ ∃ route routes link found, environment.routeList table = some (route :: routes) ∧
      environment.linkByIndex route = some link ∧ environment.byIndex link = some found

/-- A run that sees another VPN state than the stored one also finds the
interface of the default route. -/
def Finishes (state : MonitorState Interface) (environment : Environment Interface) :
    Prop :=
  environment.update = true → ∀ ruleList, environment.ruleList = some ruleList →
    (scanRules monitor.overrideAndroidVPN ruleList false).1 ≠ state.androidVPNEnabled →
    environment.Resolves (scanRules monitor.overrideAndroidVPN ruleList false).2

/-- The sequences of runs that all do so. -/
def finishingRuns : TransitionSystem (Watched Interface) where
  initial watched := watched = .initial
  step watched watched' := ∃ environment, Finishes monitor watched.state environment ∧
      watched' = watched.next monitor environment

end Watch

/-! ## What a run does -/

section Cases

variable {Interface : Type} {monitor : DefaultInterfaceMonitor Interface}
variable {environment : Environment Interface}
variable {state : MonitorState Interface} {ruleList : List AnyRule}

theorem findInterface_of_resolves {table : Int} (resolves : environment.Resolves table) :
    ∃ found, environment.findInterface table = .ok found := by
  obtain ⟨known, route, routes, link, found, listed, linked, named⟩ := resolves
  refine ⟨found, ?_⟩
  unfold Environment.findInterface
  rw [if_neg known, listed]
  simp only [linked, named]

theorem findInterface_of_not_resolves {table : Int} (unresolved : ¬environment.Resolves table) :
    ∃ outcome, environment.findInterface table = .error outcome ∧ outcome ≠ .done := by
  unfold Environment.findInterface
  split
  · exact ⟨.noRoute, rfl, by decide⟩
  rename_i known
  split
  · exact ⟨.failed, rfl, by decide⟩
  · exact ⟨.noRoute, rfl, by decide⟩
  rename_i route routes listed
  split
  · exact ⟨.failed, rfl, by decide⟩
  rename_i link linked
  split
  · exact ⟨.failed, rfl, by decide⟩
  rename_i found named
  exact absurd ⟨known, route, routes, link, found, listed, linked, named⟩ unresolved

theorem not_flagged_nil : ¬∃ callback ∈ ([] : List (Callback Interface)), callback.Flagged := by
  rintro ⟨callback, called, -⟩
  cases called

/-- A single callback without flags. -/
theorem not_flagged_zero (found : Option Interface) :
    ¬∃ callback ∈ [(⟨found, 0⟩ : Callback Interface)], callback.Flagged := by
  rintro ⟨callback, called, flagged⟩
  obtain rfl := List.mem_singleton.mp called
  exact flagged (Nat.zero_and _)

/-- Nothing is stored when the rules cannot be read. -/
theorem postCheckUpdate_unread (unread : environment.update = true → environment.ruleList = none) :
    postCheckUpdate monitor environment state = ⟨state, .failed, []⟩ := by
  unfold postCheckUpdate
  cases updated : environment.update with
  | false => rfl
  | true =>
    unfold checkUpdate
    rw [unread updated]
    rfl

/-- The VPN state is stored before the interface is looked for. -/
theorem postCheckUpdate_stopped (updated : environment.update = true)
    (listed : environment.ruleList = some ruleList)
    (unresolved : ¬environment.Resolves (scanRules monitor.overrideAndroidVPN ruleList false).2) :
    (postCheckUpdate monitor environment state).state.androidVPNEnabled =
        (scanRules monitor.overrideAndroidVPN ruleList false).1 ∧
      (postCheckUpdate monitor environment state).outcome ≠ .done ∧
      ¬∃ callback ∈ (postCheckUpdate monitor environment state).callbacks, callback.Flagged := by
  obtain ⟨outcome, stopped, failed⟩ := findInterface_of_not_resolves unresolved
  have checked : checkUpdate monitor environment state =
      ⟨{ state with androidVPNEnabled := (scanRules monitor.overrideAndroidVPN ruleList false).1 },
        outcome, []⟩ := by
    unfold checkUpdate
    rw [listed]
    simp only [stopped]
  unfold postCheckUpdate conclude
  rw [updated, checked]
  cases outcome with
  | done => exact absurd rfl failed
  | failed => exact ⟨rfl, failed, not_flagged_nil⟩
  | noRoute =>
    simp only [Bool.not_true, Bool.false_eq_true, if_false]
    split
    · exact ⟨rfl, failed, not_flagged_nil⟩
    · exact ⟨rfl, failed, not_flagged_zero none⟩

/-- A run that finds the interface tells of a change of the stored state. -/
theorem postCheckUpdate_done (updated : environment.update = true)
    (listed : environment.ruleList = some ruleList)
    (resolves : environment.Resolves (scanRules monitor.overrideAndroidVPN ruleList false).2) :
    (postCheckUpdate monitor environment state).state.androidVPNEnabled =
        (scanRules monitor.overrideAndroidVPN ruleList false).1 ∧
      (postCheckUpdate monitor environment state).outcome = .done ∧
      ((∃ callback ∈ (postCheckUpdate monitor environment state).callbacks,
        callback.Flagged) ↔ state.androidVPNEnabled ≠
            (scanRules monitor.overrideAndroidVPN ruleList false).1) := by
  obtain ⟨found, ok⟩ := findInterface_of_resolves resolves
  unfold postCheckUpdate conclude checkUpdate
  rw [updated, listed]
  simp only [ok]
  generalize (scanRules monitor.overrideAndroidVPN ruleList false).1 = seen
  by_cases same : state.defaultInterface.any (monitor.equals · found) = true ∧
      state.androidVPNEnabled = seen
  · rw [if_pos same]
    exact ⟨rfl, rfl, iff_of_false not_flagged_nil fun differs =>
      differs same.2⟩
  · rw [if_neg same]
    refine ⟨rfl, rfl, ?_⟩
    by_cases differs : state.androidVPNEnabled ≠ seen
    · refine iff_of_true ⟨_, List.mem_singleton_self _, ?_⟩ differs
      rw [Callback.Flagged, if_pos differs]
      show flagAndroidVPNUpdate &&& flagAndroidVPNUpdate ≠ 0
      decide
    · rw [if_neg differs]
      exact iff_of_false (not_flagged_zero _) differs

end Cases

/-! ## Reports -/

section Reports

variable {Interface : Type} (monitor : DefaultInterfaceMonitor Interface)

/-- The callbacks know the stored VPN state. -/
def Watched.Current (watched : Watched Interface) : Prop :=
  watched.state.androidVPNEnabled = watched.reported

variable {monitor} {watched : Watched Interface}
variable {environment : Environment Interface}

/-- Where the callbacks know the stored state, every run announces. -/
theorem announces_of_current (current : watched.Current) :
    Announces monitor watched environment := by
  intro done differs
  by_cases unread : environment.update = true → environment.ruleList = none
  · rw [postCheckUpdate_unread unread] at done
    cases done
  obtain ⟨updated, read⟩ := Classical.not_imp.mp unread
  obtain ⟨ruleList, listed⟩ := Option.ne_none_iff_exists'.mp read
  by_cases resolves : environment.Resolves (scanRules monitor.overrideAndroidVPN ruleList false).2
  · obtain ⟨stored, -, flagged⟩ :=
      @postCheckUpdate_done _ monitor _ watched.state _ updated listed resolves
    apply flagged.mpr
    rw [current, ← stored]
    exact differs.symm
  · obtain ⟨-, failed, -⟩ := @postCheckUpdate_stopped _ monitor _
      watched.state _ updated listed resolves
    exact absurd done failed

/-- They know it after a run exactly if the run finishes. -/
theorem current_next_iff (current : watched.Current) :
    (watched.next monitor environment).Current ↔ Finishes monitor watched.state environment := by
  show (postCheckUpdate monitor environment watched.state).state.androidVPNEnabled =
      (if ∃ callback ∈ (postCheckUpdate monitor environment
          watched.state).callbacks, callback.Flagged then
        (postCheckUpdate monitor environment watched.state).state.androidVPNEnabled
      else watched.reported) ↔ _
  by_cases unread : environment.update = true → environment.ruleList = none
  · rw [postCheckUpdate_unread unread]
    refine iff_of_true ?_ ?_
    · rw [if_neg not_flagged_nil]
      exact current
    · intro updated ruleList listed
      rw [unread updated] at listed
      cases listed
  obtain ⟨updated, read⟩ := Classical.not_imp.mp unread
  obtain ⟨ruleList, listed⟩ := Option.ne_none_iff_exists'.mp read
  by_cases resolves : environment.Resolves (scanRules monitor.overrideAndroidVPN ruleList false).2
  · obtain ⟨stored, -, flagged⟩ :=
      @postCheckUpdate_done _ monitor _ watched.state _ updated listed resolves
    refine iff_of_true ?_ ?_
    · split
      · rfl
      · rename_i silent
        rw [flagged, not_not] at silent
        rw [stored, ← silent]
        exact current
    · intro _ other listed'
      cases listed.symm.trans listed'
      exact fun _ => resolves
  · obtain ⟨stored, -, silent⟩ := @postCheckUpdate_stopped _ monitor _
      watched.state _ updated listed resolves
    rw [if_neg silent, stored, ← show _ = watched.reported from current]
    constructor
    · intro same _ other listed' differs
      cases listed.symm.trans listed'
      exact absurd same differs
    · intro finishes
      by_contra differs
      exact resolves (finishes updated ruleList listed differs)

/-- A system that has a default route, with or without a VPN. -/
def steadySystem [Inhabited Interface] (vpnEnabled : Bool) : Environment Interface where
  update := true
  ruleList := some ((if vpnEnabled then
      [⟨.v4, { mask := 0x20000, uidRange := some ⟨0, 99999⟩, table := 1023 }⟩]
    else []) ++ [⟨.v4, { mask := 0xffff, table := 1023 }⟩])
  routeList _ := some [3]
  linkByIndex link := some link
  byIndex _ := some default

theorem scanRules_steady (overrideAndroidVPN vpnEnabled : Bool) :
    scanRules overrideAndroidVPN ((if vpnEnabled then
          [⟨.v4, { mask := 0x20000, uidRange := some ⟨0, 99999⟩
                   table := 1023 }⟩]
        else []) ++ [⟨.v4, { mask := 0xffff, table := 1023 }⟩]) false =
      (vpnEnabled, 1023) := by
  cases overrideAndroidVPN <;> cases vpnEnabled <;> rfl

/-- A run in such a system does not announce what was stored before. -/
theorem not_announces_steady [Inhabited Interface] (stale : ¬watched.Current) :
    ¬Announces monitor watched (steadySystem watched.state.androidVPNEnabled) := by
  obtain ⟨stored, done, flagged⟩ := @postCheckUpdate_done _ monitor
    (steadySystem watched.state.androidVPNEnabled) watched.state _ rfl rfl (by
      rw [scanRules_steady]
      exact ⟨show (1023 : Int) ≠ 0 by decide, 3, [], 3, default, rfl, rfl, rfl⟩)
  rw [scanRules_steady] at stored flagged
  intro announces
  apply flagged.mp (announces done _) rfl
  rw [stored]
  exact stale

variable (monitor) in
/-- A run that stores another VPN state has to find the default interface, or
later runs do not tell of it; if all runs do, none is lost. -/
theorem announces_iff_finishes [Inhabited Interface] :
    (∀ (watched : Watched Interface) (environment : Environment Interface),
      watched.Current → (Finishes monitor watched.state environment ↔
          ∀ later, Announces monitor (watched.next monitor environment)
            later)) ∧ ∀ watched, (finishingRuns monitor).Reachable watched →
        ∀ environment, Announces monitor watched environment := by
  constructor
  · intro watched environment current
    rw [← current_next_iff current]
    constructor
    · exact fun next later => announces_of_current next
    · intro all
      by_contra stale
      exact not_announces_steady stale (all _)
  · intro watched reachable environment
    apply announces_of_current
    refine TransitionSystem.Reachable.invariant ?_ ?_ reachable
    · rintro start rfl
      rfl
    · rintro before after current ⟨step, finishes, rfl⟩
      exact (current_next_iff current).mpr finishes

end Reports

/-! ## A lost change -/

section Lost

/-- A monitor of interfaces that are numbers. -/
def sampleMonitor : DefaultInterfaceMonitor Nat := ⟨false, (· == ·)⟩

/-- The VPN is turned on and off again. -/
theorem announces_iff_finishes_sample :
    ∃ watched, (finishingRuns sampleMonitor).Reachable watched ∧
      watched.reported = true ∧ Announces sampleMonitor watched (steadySystem false) := by
  have finishes : Finishes sampleMonitor Watched.initial.state (steadySystem true) := by
    rintro - _ ⟨⟩ -
    exact ⟨by decide, 3, [], 3, default, rfl, rfl, rfl⟩
  have reachable : (finishingRuns sampleMonitor).Reachable _ :=
    ⟨_, rfl, Relation.ReflTransGen.single ⟨_, finishes, rfl⟩⟩
  exact ⟨_, reachable, by decide, (announces_iff_finishes sampleMonitor).2 _ reachable _⟩

/-- A VPN has been turned on, and its routes cannot be listed yet. -/
def listingFails : Environment Nat :=
  { steadySystem true with routeList := fun _ => none }

/-- The state after that run. -/
def vpnStored : Watched Nat :=
  Watched.initial.next sampleMonitor listingFails

/-- The run after it, in which nothing fails. -/
def quietRun : Run Nat :=
  postCheckUpdate sampleMonitor (steadySystem true) vpnStored.state

/-- That run succeeds, and no callback is told of the VPN. -/
theorem vpn_change_lost :
    quietRun.outcome = .done ∧
      quietRun.state.androidVPNEnabled ≠ vpnStored.reported ∧
      ¬∃ callback ∈ quietRun.callbacks, callback.Flagged := by
  decide

end Lost

end SingTun.Monitor
