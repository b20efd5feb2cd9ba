import SingTun.Redirect.Chains
import SingTun.Redirect.Delivery

/-!
# Packets of the proxy at the output hook

In mark mode the proxy sends its own packets with the output mark.  Two of the
chains at the output hook return on that mark before anything else.  The chain
for the loopback addresses does not look for it, and marks a packet anew.
-/

namespace SingTun.Redirect

open Foundation Header Route List

/-! ## The sets of loopback addresses -/

section Reached

variable (kernel : NFTKernel) (builder : IPSetBuilder) (r : AutoRedirect) (lists : RouteLists)

/-- The states after a setup and any updates. -/
inductive Reached : Redirecting → Prop
  | setup {interfaces : List Interface} {state : Redirecting}
      (done : setupSets? kernel builder r lists interfaces = some state) :
      Reached state
  | updateLocal {state state' : Redirecting} {interfaces : List Interface}
      (before : Reached state)
      (done : nftablesUpdateLocalAddressSet? kernel builder r state interfaces = some state') :
      Reached state'
  | updateRoute {state state' : Redirecting} {lists' : RouteLists}
      (before : Reached state)
      (done : nftablesUpdateRouteAddressSet? kernel builder r state lists' = some state') :
      Reached state'

/-- The elements are the loopback addresses of the options. -/
def LoopbackSets (sets : Sets) : Prop :=
  ∀ family, r.enable family = true → r.tunOptions.inetLoopbackAddress family ≠ [] →
      sets ⟨.localRedirectAddress, family⟩ =
        some ((r.tunOptions.inetLoopbackAddress family).map fun addr =>
          ⟨addr.octets, false⟩)

variable {kernel builder r lists}

theorem updateLocal_loopback {interfaces : List Interface} {state state' : Redirecting}
    (done : nftablesUpdateLocalAddressSet? kernel builder r state interfaces = some state')
    (family : Family) :
    state'.sets ⟨.localRedirectAddress, family⟩ = state.sets ⟨.localRedirectAddress, family⟩ := by
  unfold nftablesUpdateLocalAddressSet? at done
  dsimp only at done
  split at done
  · cases done
    rfl
  · obtain ⟨conn, created, done⟩ := Option.bind_eq_some_iff.mp done
    obtain ⟨conn', flushed, done⟩ := Option.bind_eq_some_iff.mp done
    cases done
    by_cases last : state.localAddresses = []
    · rw [last] at created
      obtain ⟨sets, before, replaces⟩ := createLocal_turns created conn'.sets
        (delivers_of_flush? flushed).1
      rw [delivers_nil] at before
      subst before
      exact replaces.other (by decide)
    · rw [createLocal_of_ne_nil _ last] at created
      cases created
      cases flushed
      rfl

theorem updateRoute_loopback {lists' : RouteLists} {state state' : Redirecting}
    (done : nftablesUpdateRouteAddressSet? kernel builder r state lists' = some state')
    (family : Family) :
    state'.sets ⟨.localRedirectAddress, family⟩ = state.sets ⟨.localRedirectAddress, family⟩ := by
  obtain ⟨conn, created, done⟩ := Option.bind_eq_some_iff.mp done
  obtain ⟨conn', flushed, done⟩ := Option.bind_eq_some_iff.mp done
  cases done
  obtain ⟨sets, before, between, routes, excludes⟩ :=
    createAddressSets?_turns created conn'.sets (delivers_of_flush? flushed).1
  rw [delivers_nil] at before
  subst before
  exact (excludes.other (by decide)).trans (routes.other (by decide))

/-- No update changes the sets of loopback addresses. -/
theorem Reached.loopbackSets
    {state : Redirecting} (reached : Reached kernel builder r lists state) :
    LoopbackSets r state.sets := by
  induction reached with
  | setup done => exact (setupSets?_spec done).localRedirectAddress
  | updateLocal before done ih =>
    intro family enabled nonempty
    exact (updateLocal_loopback done family).trans (ih family enabled nonempty)
  | updateRoute before done ih =>
    intro family enabled nonempty
    exact (updateRoute_loopback done family).trans (ih family enabled nonempty)

end Reached

/-! ## What a chain does to a packet -/

/-- The destination stays. -/
def Verdict.keepsDestination : Verdict → Bool
  | .redirected _ => false
  | .translated _ _ => false
  | _ => true

/-- The packet is not redirected, its destination is not rewritten, and its
mark and the mark of its connection are the same as before. -/
def Untouched (packet : NFTPacket) (result : Flow × Option Verdict) : Prop :=
  result.1.packet.mark = packet.mark ∧ result.1.packet.ctMark = packet.ctMark ∧
      ∀ verdict ∈ result.2, verdict.keepsDestination = true

theorem untouched_returned {packet : NFTPacket} {flow : Flow} (same : flow.packet = packet) :
    Untouched packet (flow, some .returned) := by
  subst same
  refine ⟨rfl, rfl, ?_⟩
  rintro verdict ⟨⟩
  rfl

section Chains

variable {r : AutoRedirect} {env : NFTEnv} {flow : Flow}

/-- A packet with the output mark returns at the rules for the marks. -/
theorem markReturns_untouched (marked : flow.packet.mark = r.tunOptions.autoRedirectOutputMark)
    (chain : ChainSpec) (rules : List NFTRule) :
    Untouched flow.packet (evalRules env flow (r.markReturns env.host chain ++ rules)) := by
  have atMark : ∀ flow : Flow, flow.packet.mark = r.tunOptions.autoRedirectOutputMark →
      ∀ rules, Untouched flow.packet (evalRules env flow (([.readMeta .mark 1, .cmp .eq 1
          (env.host.putUint32 r.tunOptions.autoRedirectOutputMark)] ++ countReturn) :: rules)) := by
    intro flow marked rules
    obtain ⟨after, same, ⟨-, returns⟩ | ⟨other, -⟩⟩ :=
      @Guards.evalRules_return env flow _ countReturn _ rules
        (guards_mark_eq r.tunOptions.autoRedirectOutputMark) fun _ => rfl
    · rw [returns]
      exact untouched_returned same
    · exact absurd marked other
  unfold AutoRedirect.markReturns
  by_cases route : chain.type = .route
  · -- Before the mark is read, packets of TCP return.
    simp only [if_pos route, append_assoc, singleton_append]
    obtain ⟨after, same, ⟨-, returns⟩ | ⟨-, goesOn⟩⟩ :=
      @Guards.evalRules_return env flow _ [.verdict .return] _ _
        (guards_lookup (by decide : MetaKey.l4proto ≠ .mark) udpICMP true) fun _ => rfl
    · refine Eq.mpr (congrArg _ returns) (untouched_returned same)
    · refine Eq.mpr (congrArg _ goesOn) ?_
      rw [← same] at marked ⊢
      exact atMark after marked _
  · simp only [if_neg route, nil_append, append_nil, singleton_append]
    exact atMark flow marked rules

theorem ok_of_bind {ε α β : Type} {first : Except ε α} {next : α → Except ε β} {result : β}
    (done : first >>= next = .ok result) :
    ∃ value, first = .ok value ∧ next value = .ok result := by
  cases first with
  | error message => cases done
  | ok value => exact ⟨value, rfl, done⟩

/-- The exclusion rules of a chain at the output hook start with the marks. -/
theorem excludeRules_output {host : Endian} {builder : IPSetBuilder} {lists : RouteLists}
    {chain : ChainSpec} {rules : List NFTRule}
    (markMode : r.tunOptions.autoRedirectMarkMode = true)
    (output : chain.hooknum = .output)
    (created : r.nftablesCreateExcludeRules host builder lists chain = .ok rules) :
    ∃ others, rules = r.markReturns host chain ++ others := by
  obtain ⟨dnsHijack, -, created⟩ := ok_of_bind created
  cases created
  have atOutput : chain.hooknum ≠ .prerouting := by
    rw [output]
    decide
  rw [if_neg fun both => atOutput both.2, if_pos ⟨markMode, output⟩, nil_append]
  simp only [append_assoc]
  exact ⟨_, rfl⟩

/-- The packets that the rule of a family marks anew: those of TCP to one of
its loopback addresses, without the input mark. -/
def Reroutes (r : AutoRedirect) (family : Family) (packet : NFTPacket) : Prop :=
  packet.field (.metaKey .l4proto) = some [ipprotoTCP] ∧
    packet.mark ≠ r.tunOptions.autoRedirectInputMark ∧
    packet.field (.metaKey .nfproto) = some [tableFamily family] ∧
    ∃ addr ∈ r.tunOptions.inetLoopbackAddress family,
      packet.field (.payload .networkHeader (destinationOffset family)
        family.addressSize) = some addr.octets

/-- Both marks are the input mark. -/
def NFTPacket.remark (packet : NFTPacket) (mark : UInt32) : NFTPacket :=
  { packet with mark, ctMark := packet.ctMark.map fun _ => mark }

theorem evalRule_writeMarks (mark : UInt32) :
    ∃ after : Flow, after.packet = flow.packet.remark mark ∧
      evalRule env flow (writeMarks env.host mark ++ [.counter]) = (after, .running) := by
  refine ⟨_, ?_, rfl⟩
  have same := env.host.uint32_putUint32 mark
  show (⟨env.host.uint32 (env.host.putUint32 mark), flow.packet.ctMark.map fun _ =>
    env.host.uint32 (env.host.putUint32 (env.host.uint32
      (env.host.putUint32 mark))), flow.packet.field⟩ : NFTPacket) = _
  rw [same, same]
  rfl

section

variable (loopback : LoopbackSets r env.sets)
include loopback

theorem finds_loopback {family : Family} (enabled : r.enable family = true)
    (nonempty : r.tunOptions.inetLoopbackAddress family ≠ []) (data : Bytes) :
    env.finds data (AutoRedirect.loopbackSet family) = true ↔
      ∃ addr ∈ r.tunOptions.inetLoopbackAddress family, data = addr.octets := by
  unfold NFTEnv.finds AutoRedirect.loopbackSet
  dsimp only
  rw [loopback family enabled nonempty]
  dsimp only
  rw [if_pos rfl, any_map, any_eq_true]
  simp only [Function.comp_apply, beq_iff_eq]
  exact exists_congr fun addr => and_congr_right fun _ => eq_comm

theorem guards_reroute {family : Family} (enabled : r.enable family = true)
    (nonempty : r.tunOptions.inetLoopbackAddress family ≠ []) :
    Guards env (matchTCP ++ [.readMeta .mark 1, .cmp .neq 1
        (env.host.putUint32 r.tunOptions.autoRedirectInputMark)] ++
        nftablesCreateDestinationIPSetExprs (AutoRedirect.loopbackSet family)
          family false) (Reroutes r family) := by
  have tcp : Guards env matchTCP _ :=
    guards_metaKey (by decide : MetaKey.l4proto ≠ .mark) [ipprotoTCP]
  have proto : Guards env (matchFamily family) _ :=
    guards_metaKey (by decide : MetaKey.nfproto ≠ .mark) [tableFamily family]
  refine ((tcp.append (guards_mark_ne _)).append (proto.append (guards_test
    (·.field (.payload _ _ _)) (env.finds · _ != false) (fun _ => rfl) fun _ => rfl))).congr ?_
  intro packet
  simp only [Bool.bne_false, finds_loopback loopback enabled nonempty, Reroutes, and_assoc]
  refine and_congr_right fun _ => and_congr_right fun _ =>
    and_congr_right fun _ => ?_
  constructor
  · rintro ⟨data, read, addr, member, rfl⟩
    exact ⟨addr, member, read⟩
  · rintro ⟨addr, member, read⟩
    exact ⟨_, read, addr, member, rfl⟩

/-- The rule of a family at the output hook: a packet that it marks anew goes on,
like every other. -/
theorem evalRules_rerouteFamily (family : Family) (flow : Flow)
    (rules : List NFTRule) :
    ∃ after : Flow,
      evalRules env flow (r.rerouteFamily env.host AutoRedirect.chainOutputRoute
        family ++ rules) = evalRules env after rules ∧
      ((r.enable family = true ∧ Reroutes r family flow.packet) ∧ after.packet =
            flow.packet.remark r.tunOptions.autoRedirectInputMark ∨
        ¬(r.enable family = true ∧ Reroutes r family flow.packet) ∧
          after.packet = flow.packet) := by
  unfold AutoRedirect.rerouteFamily
  by_cases active : r.enable family = true ∧
      ¬(r.tunOptions.inetLoopbackAddress family).isEmpty = true
  · have nonempty : r.tunOptions.inetLoopbackAddress family ≠ [] :=
      fun empty => active.2 (isEmpty_iff.mpr empty)
    have output : AutoRedirect.chainOutputRoute.hooknum ≠ .prerouting := by
      decide
    rw [if_pos active, if_neg output, append_assoc _ (writeMarks _ _), singleton_append]
    obtain ⟨between, same, ⟨holds, runs⟩ | ⟨fails, stops⟩⟩ :=
      guards_reroute loopback active.1 nonempty flow
    · obtain ⟨after, remarked, runs'⟩ := @evalRule_writeMarks env between
        r.tunOptions.autoRedirectInputMark
      refine ⟨after, evalRules_cons_running ?_, .inl ⟨⟨active.1, holds⟩, ?_⟩⟩
      · rw [evalRule_append, runs]
        exact runs'
      · rw [remarked, same]
    · refine ⟨between, evalRules_cons_mismatch ?_, .inr ⟨fun both => fails both.2, same⟩⟩
      rw [evalRule_append, stops]
  · dsimp only
    rw [if_neg active]
    refine ⟨flow, rfl, .inr ⟨?_, rfl⟩⟩
    rintro ⟨enabled, -, -, -, addr, member, -⟩
    refine active ⟨enabled, fun empty => ?_⟩
    rw [isEmpty_iff.mp empty] at member
    cases member

/-- The chain for the loopback addresses leaves a packet alone exactly if no
rule marks it anew. -/
theorem loopbackReroute_untouched_iff (packet : NFTPacket) :
    Untouched packet (evalRules env packet.enter
      (r.nftablesCreateLoopbackReroute env.host AutoRedirect.chainOutputRoute)) ↔
      ∀ family, r.enable family = true → ¬Reroutes r family packet := by
  obtain ⟨first, run4, step4⟩ := evalRules_rerouteFamily loopback .v4
    packet.enter (r.rerouteFamily env.host AutoRedirect.chainOutputRoute .v6)
  obtain ⟨second, run6, step6⟩ := evalRules_rerouteFamily loopback .v6 first []
  rw [append_nil] at run6
  have run : evalRules env packet.enter (r.nftablesCreateLoopbackReroute env.host
      AutoRedirect.chainOutputRoute) = (second, none) := run4.trans run6
  have start : packet.enter.packet = packet := rfl
  rw [run]
  -- Once a rule has marked the packet, its mark is the input mark.
  have remarked : ∀ family, r.enable family = true → Reroutes r family packet →
      second.packet.mark = r.tunOptions.autoRedirectInputMark := by
    intro family enabled reroutes
    rcases step6 with ⟨-, changed⟩ | ⟨kept, same⟩
    · rw [changed]
      rfl
    · rcases step4 with ⟨-, changed⟩ | ⟨kept4, same4⟩
      · rw [same, changed]
        rfl
      · rw [same4] at kept
        cases family with
        | v4 => exact absurd ⟨enabled, reroutes⟩ kept4
        | v6 => exact absurd ⟨enabled, reroutes⟩ kept
  constructor
  · rintro ⟨mark, -, -⟩ family enabled reroutes
    exact reroutes.2.1 (mark.symm.trans (remarked family enabled reroutes))
  · intro unmarked
    have kept4 : first.packet = packet := by
      rcases step4 with ⟨marks, -⟩ | ⟨-, same⟩
      · exact absurd marks.2 (unmarked .v4 marks.1)
      · exact same
    have kept6 : second.packet = packet := by
      rw [kept4] at step6
      rcases step6 with ⟨marks, -⟩ | ⟨-, same⟩
      · exact absurd marks.2 (unmarked .v6 marks.1)
      · exact same
    refine ⟨congrArg NFTPacket.mark kept6, congrArg NFTPacket.ctMark kept6, ?_⟩
    rintro verdict ⟨⟩

end

theorem hasLoopback_of_mem {family : Family} {addr : Addr family}
    (member : addr ∈ r.tunOptions.inetLoopbackAddress family) :
    r.hasLoopback = true := by
  have nonempty : (r.tunOptions.inetLoopbackAddress family).isEmpty = false :=
    isEmpty_eq_false_iff_exists_mem.mpr ⟨addr, member⟩
  unfold AutoRedirect.hasLoopback
  cases family with
  | v4 => rw [nonempty, Bool.not_false, Bool.true_or]
  | v6 => rw [nonempty, Bool.not_false, Bool.or_true]

/-- The packets with the output mark that do not stay as they are: some chain
is attached, the marks are different, and the packet goes to a loopback address
over TCP. -/
def Rerouted (r : AutoRedirect) (packet : NFTPacket) : Prop :=
  r.skipOutput = false ∧ r.tunOptions.autoRedirectInputMark ≠ r.tunOptions.autoRedirectOutputMark ∧
    packet.field (.metaKey .l4proto) = some [ipprotoTCP] ∧ ∃ family, r.enable family = true ∧
      packet.field (.metaKey .nfproto) = some [tableFamily family] ∧
      ∃ addr ∈ r.tunOptions.inetLoopbackAddress family,
        packet.field (.payload .networkHeader (destinationOffset family)
          family.addressSize) = some addr.octets

theorem rerouted_iff {packet : NFTPacket}
    (marked : packet.mark = r.tunOptions.autoRedirectOutputMark)
    (attached : r.skipOutput = false) :
    ¬Rerouted r packet ↔ ∀ family, r.enable family = true → ¬Reroutes r family packet := by
  constructor
  · rintro not family enabled ⟨tcp, mark, proto, destination⟩
    exact not ⟨attached, fun same => mark (marked.trans same.symm), tcp, family,
      enabled, proto, destination⟩
  · rintro unmarked ⟨-, different, tcp, family, enabled, proto, destination⟩
    exact unmarked family enabled ⟨tcp, fun same => different (same.symm.trans marked),
      proto, destination⟩

end Chains

/-! ## No proxy loop -/

section Loop

variable {kernel : NFTKernel} {builder : IPSetBuilder} {r : AutoRedirect}
  {lists : RouteLists} {state : Redirecting} {host : Endian}
  {chains : List NFTChain} {packet : NFTPacket}

theorem outputChains_untouched (markMode : r.tunOptions.autoRedirectMarkMode = true)
    (reached : Reached kernel builder r lists state)
    (created : r.outputChains host builder lists = .ok chains)
    (marked : packet.mark = r.tunOptions.autoRedirectOutputMark) :
    (∀ chain ∈ chains,
      Untouched packet (chain.run ⟨host, kernel, state.sets⟩ packet)) ↔ ¬Rerouted r packet := by
  unfold AutoRedirect.outputChains at created
  split at created
  · rename_i skipped
    cases created
    refine iff_of_true (fun chain member => absurd member not_mem_nil) ?_
    rintro ⟨attached, -⟩
    rw [skipped] at attached
    cases attached
  rename_i attached
  have attached := Bool.eq_false_iff.mpr attached
  obtain ⟨output, outputCreated, created⟩ := ok_of_bind created
  obtain ⟨outputUDP, outputUDPCreated, created⟩ := ok_of_bind created
  cases created
  obtain ⟨others, rfl⟩ := excludeRules_output markMode rfl outputCreated
  obtain ⟨othersUDP, rfl⟩ := excludeRules_output markMode rfl outputUDPCreated
  rw [rerouted_iff marked attached]
  have reroute := @loopbackReroute_untouched_iff r ⟨host, kernel, state.sets⟩
    reached.loopbackSets packet
  have returns : ∀ chain rules, Untouched packet (evalRules ⟨host, kernel, state.sets⟩ packet.enter
        (r.markReturns host chain ++ rules)) :=
    fun chain rules => @markReturns_untouched r ⟨host, kernel, state.sets⟩
      packet.enter marked chain rules
  simp only [append_assoc, forall_mem_append, forall_mem_singleton,
    NFTChain.run, returns, true_and, and_true]
  by_cases some : r.hasLoopback = true
  · rw [if_pos some, forall_mem_singleton]
    exact reroute
  · rw [if_neg some]
    refine iff_of_true (fun chain member => absurd member not_mem_nil) ?_
    rintro family - ⟨-, -, -, addr, member, -⟩
    exact some (hasLoopback_of_mem member)

theorem outputChains_hooknum (created : r.outputChains host builder lists = .ok chains) :
    ∀ chain ∈ chains, chain.hooknum = .output := by
  unfold AutoRedirect.outputChains at created
  split at created
  · cases created
    exact nofun
  split at created
  · obtain ⟨output, -, created⟩ := ok_of_bind created
    obtain ⟨outputUDP, -, created⟩ := ok_of_bind created
    cases created
    simp only [forall_mem_append, forall_mem_singleton]
    refine ⟨⟨rfl, fun chain member => ?_⟩, rfl⟩
    split at member
    · cases mem_singleton.mp member
      rfl
    · cases member
  · cases created
    exact forall_mem_singleton.mpr rfl

theorem preroutingChains_hooknum (created : r.preroutingChains host builder lists = .ok chains) :
    ∀ chain ∈ chains, chain.hooknum = .prerouting := by
  obtain ⟨excludes, -, created⟩ := ok_of_bind created
  cases created
  simp only [forall_mem_append, forall_mem_singleton]
  refine ⟨⟨rfl, fun chain member => ?_⟩, fun chain member => ?_⟩
  all_goals
    split at member
    · cases mem_singleton.mp member
      rfl
    · cases member

/-- The chains that the setup attaches to the output hook leave a packet with
the output mark alone exactly if it does not go to a loopback address over
TCP. -/
theorem setupChains_untouched_iff (markMode : r.tunOptions.autoRedirectMarkMode = true)
    (reached : Reached kernel builder r lists state)
    (created : r.setupChains host builder lists = .ok chains)
    (marked : packet.mark = r.tunOptions.autoRedirectOutputMark) :
    (∀ chain ∈ chains, chain.hooknum = .output →
      Untouched packet (chain.run ⟨host, kernel, state.sets⟩ packet)) ↔ ¬Rerouted r packet := by
  obtain ⟨outputs, outputsCreated, created⟩ := ok_of_bind created
  obtain ⟨preroutings, preroutingsCreated, created⟩ := ok_of_bind created
  cases created
  rw [← outputChains_untouched markMode reached outputsCreated marked, forall_mem_append]
  constructor
  · rintro ⟨untouched, -⟩ chain member
    exact untouched chain member (outputChains_hooknum outputsCreated chain member)
  · intro untouched
    refine ⟨fun chain member _ => untouched chain member, ?_⟩
    intro chain member output
    have prerouting := preroutingChains_hooknum preroutingsCreated chain member
    rw [prerouting] at output
    cases output

end Loop

section Samples

/-- The sample redirect with the loopback address `10.7.0.1`. -/
def loopbackRedirect : AutoRedirect :=
  { sampleRedirect with
    tunOptions :=
      { sampleRedirect.tunOptions with
        inetLoopbackAddress
          | .v4 => [.from4 10 7 0 1]
          | .v6 => [] } }

/-- A packet of TCP that the proxy sends to `10.7.0.x`. -/
def proxyPacket (x : UInt8) : NFTPacket where
  mark := 0x2024
  ctMark := some 0
  field
    | .metaKey .l4proto => some [ipprotoTCP]
    | .metaKey .nfproto => some [2]
    | .metaKey .oifname => some (nftablesIfname "eth0")
    | .payload .networkHeader 16 4 => some [10, 7, 0, x]
    | _ => none

theorem exists_loopbackRedirect :
    ∃ state chains,
      Reached lenientKernel unionBuilder loopbackRedirect ⟨[], []⟩ state ∧
      loopbackRedirect.setupChains .little unionBuilder ⟨[], []⟩ = .ok chains ∧
      (⟨AutoRedirect.chainOutputRoute, loopbackRedirect.nftablesCreateLoopbackReroute .little
          AutoRedirect.chainOutputRoute⟩ : NFTChain) ∈ chains := by
  obtain ⟨state, setup⟩ := @setupSets?_eq_some lenientKernel unionBuilder
    loopbackRedirect (fun _ _ => rfl) ⟨[], []⟩ []
  exact ⟨state, _, .setup setup, rfl, .tail _ (.head _)⟩

theorem setupChains_untouched_iff_sample :
    ∃ state chains,
      Reached lenientKernel unionBuilder loopbackRedirect ⟨[], []⟩ state ∧
      loopbackRedirect.setupChains .little unionBuilder ⟨[], []⟩ = .ok chains ∧
      ∀ chain ∈ chains, chain.hooknum = .output → Untouched (proxyPacket 2)
        (chain.run ⟨.little, lenientKernel, state.sets⟩ (proxyPacket 2)) := by
  obtain ⟨state, chains, reached, created, -⟩ := exists_loopbackRedirect
  refine ⟨state, chains, reached, created,
    (setupChains_untouched_iff rfl reached created rfl).mpr ?_⟩
  rintro ⟨-, -, -, family, -, -, addr, member, destination⟩
  cases family with
  | v4 =>
    cases mem_singleton.mp member
    cases destination
  | v6 => cases member

/-- The proxy sends a packet with the output mark to the loopback address, and a
chain of the output hook changes its mark. -/
theorem output_remarked :
    ∃ state chains,
      Reached lenientKernel unionBuilder loopbackRedirect ⟨[], []⟩ state ∧
      loopbackRedirect.setupChains .little unionBuilder ⟨[], []⟩ = .ok chains ∧
      (proxyPacket 1).mark = loopbackRedirect.tunOptions.autoRedirectOutputMark ∧
      ∃ chain ∈ chains, chain.hooknum = .output ∧ ¬Untouched (proxyPacket 1)
        (chain.run ⟨.little, lenientKernel, state.sets⟩ (proxyPacket 1)) := by
  obtain ⟨state, chains, reached, created, member⟩ := exists_loopbackRedirect
  refine ⟨state, chains, reached, created, rfl, _, member, rfl, ?_⟩
  intro untouched
  refine (@loopbackReroute_untouched_iff loopbackRedirect
    ⟨.little, lenientKernel, state.sets⟩ reached.loopbackSets (proxyPacket 1)).mp
    untouched .v4 rfl ?_
  exact ⟨rfl, by decide, rfl, ⟨[10, 7, 0, 1], rfl⟩, .head _, rfl⟩

end Samples

end SingTun.Redirect
