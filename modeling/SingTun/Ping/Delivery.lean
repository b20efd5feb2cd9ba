import SingTun.Ping.SourceRewriter

/-!
# The sessions of the source rewriter

What a session is owed is said on the requests that went out and were not
answered.  The rewriter knows a request only by its identifier, so sessions
whose requests have one identifier take each other's replies.  A run in which
an identifier is used by one session at a time hands every reply to the
session that asked for it.
-/

namespace SingTun.Ping

open Foundation Header Option Function

/-- A call of the rewriter. -/
inductive Event
  | create (session : DirectRouteSession)
  | delete (session : DirectRouteSession)
  | request (packet : Bytes)
  | reply (packet : Bytes)

/-- The rewriter, and the requests that were not answered. -/
structure Traffic where
  rewriter : SourceRewriter
  outstanding : List (DirectRouteSession × UInt16)

/-- A reply to the request would be handed to its session. -/
def SourceRewriter.Answerable (m : SourceRewriter) (session : DirectRouteSession) (ident : UInt16) :
    Prop :=
  session ∈ m.sessions ∧ m.sourceAddress ident = some session.source

instance (m : SourceRewriter) (session : DirectRouteSession) (ident : UInt16) :
    Decidable (m.Answerable session ident) :=
  inferInstanceAs (Decidable (_ ∧ _))

namespace Traffic

variable (traffic : Traffic)

/-- A call, for the sessions that the rewriter has. -/
def next? : Event → Option Traffic
  | .create session =>
    some ⟨traffic.rewriter.createSession session, traffic.outstanding⟩
  | .delete session =>
    some ⟨traffic.rewriter.deleteSession session, traffic.outstanding⟩
  | .request packet => do
      let (session, ident) ← echoKey? packet
      if session ∈ traffic.rewriter.sessions then
        let (rewriter, _) ← traffic.rewriter.rewritePacket? packet
        some ⟨rewriter, (session, ident) :: traffic.outstanding⟩
      else none
  | .reply packet => do
      let (_, ident) ← echoKey? packet
      let (rewriter, handed) ← traffic.rewriter.writeBack? packet
      some ⟨rewriter, handed.elim traffic.outstanding fun handed =>
        traffic.outstanding.erase (handed.1, ident)⟩

/-- No session but the given one loses a reply. -/
def Keeps (rewriter : SourceRewriter) (own : Option DirectRouteSession) : Prop :=
  ∀ request ∈ traffic.outstanding, some request.1 ≠ own →
    traffic.rewriter.Answerable request.1 request.2 → rewriter.Answerable request.1 request.2

/-- What the sessions are owed by a call. -/
def Fair : Event → Prop
  | .create session =>
    traffic.Keeps (traffic.rewriter.createSession session) none
  | .delete session =>
    traffic.Keeps (traffic.rewriter.deleteSession session) (some session)
  | .request packet =>
    ∀ session ident, echoKey? packet = some (session, ident) →
      session ∈ traffic.rewriter.sessions → ∃ rewriter packet',
          traffic.rewriter.rewritePacket? packet = some (rewriter, packet') ∧
            traffic.Keeps rewriter (some session)
  | .reply packet =>
    ∀ back ident, echoKey? packet = some (back, ident) → ∃ rewriter handed,
        traffic.rewriter.writeBack? packet = some (rewriter, handed) ∧
          traffic.Keeps rewriter (handed.map Prod.fst) ∧
          ∀ session ∈ handed.map Prod.fst, session ∈ traffic.rewriter.sessions ∧
            session.destination = back.source ∧ (session, ident) ∈ traffic.outstanding

/-- An identifier is used by one session at a time: the requests with the
identifier of a request that can still be answered are from its source, and
those with the identifier of a reply whose source is kept went to the address
that the reply comes from. -/
def Distinct : Event → Prop
  | .create _ => True
  | .delete _ => True
  | .request packet =>
    ∀ session ident, echoKey? packet = some (session, ident) →
      ∀ request ∈ traffic.outstanding, request.2 = ident →
        traffic.rewriter.Answerable request.1 ident → request.1.source = session.source
  | .reply packet =>
    ∀ back ident, echoKey? packet = some (back, ident) →
      ∀ request ∈ traffic.outstanding, request.2 = ident →
        traffic.rewriter.sourceAddress ident = some request.1.source →
          request.1.destination = back.source

end Traffic

/-- The runs of a new rewriter whose calls all meet a condition. -/
def calls (Meets : Traffic → Event → Prop) : TransitionSystem Traffic where
  initial traffic := (∀ ident, traffic.rewriter.sourceAddress ident = none) ∧
      traffic.outstanding = []
  step traffic traffic' := ∃ event, Meets traffic event ∧ traffic.next? event = some traffic'

/-! ## One call -/

section Calls

variable {traffic traffic' : Traffic}

/-- Every source that is kept belongs to an unanswered request. -/
def Traffic.Sourced (traffic : Traffic) : Prop :=
  ∀ ident source, traffic.rewriter.sourceAddress ident = some source →
    ∃ session, session.source = source ∧ (session, ident) ∈ traffic.outstanding

variable {packet : Bytes} {session : DirectRouteSession} {ident : UInt16}

theorem rewritePacket?_key (m : SourceRewriter) (key : echoKey? packet = some (session, ident)) :
    ∃ packet', m.rewritePacket? packet = some (m.record ident session.source, packet') := by
  obtain ⟨family, source, destination, rfl, echo⟩ := isEcho_of_echoKey? key
  obtain ⟨icmpHdr, found, -⟩ := echo.message
  obtain ⟨packet', rewrites, -⟩ := rewritePacket?_echo m echo found
  exact ⟨packet', rewrites⟩

theorem next?_request (key : echoKey? packet = some (session, ident))
    (next : traffic.next? (.request packet) = some traffic') :
    traffic' = ⟨traffic.rewriter.record ident session.source,
      (session, ident) :: traffic.outstanding⟩ := by
  obtain ⟨packet', rewrites⟩ := rewritePacket?_key traffic.rewriter key
  simp only [Traffic.next?, key, rewrites, some_bind] at next
  split at next
  · exact (some.inj next).symm
  · cases next

/-- What `WriteBack` does with a reply: nothing is pending, the source has no
session for the address, or the reply is handed to its session. -/
theorem writeBack?_cases {back : DirectRouteSession}
    (m : SourceRewriter) (key : echoKey? packet = some (back, ident)) :
    (m.sourceAddress ident = none ∧ m.writeBack? packet = some (m, none)) ∨
    ∃ session handed, m.sourceAddress ident = some session.source ∧
      session.destination = back.source ∧ m.writeBack? packet = some (m.forget ident, handed) ∧
      ((session ∉ m.sessions ∧ handed = none) ∨
        (session ∈ m.sessions ∧ handed.map Prod.fst = some session)) := by
  obtain ⟨family, source, destination, rfl, echo⟩ := isEcho_of_echoKey? key
  obtain ⟨icmpHdr, found, -⟩ := echo.message
  rcases writeBack?_echo m echo found with absent | ⟨kept, pending, outcome⟩
  · exact .inl absent
  · right
    rcases outcome with ⟨unknown, writes⟩ | ⟨known, packet', writes, -⟩
    · exact ⟨⟨kept, family, source⟩, none, pending, rfl, writes, .inl ⟨unknown, rfl⟩⟩
    · exact ⟨⟨kept, family, source⟩, some (_, packet'), pending, rfl, writes, .inr ⟨known, rfl⟩⟩

section

variable {m : SourceRewriter} {session : DirectRouteSession} {other : UInt16}
variable (answerable : m.Answerable session other)
include answerable

theorem Answerable.record_other {ident : UInt16} {source : AnyAddr}
    (same : other = ident → session.source = source) :
    (m.record ident source).Answerable session other := by
  refine ⟨answerable.1, ?_⟩
  by_cases equal : other = ident
  · subst equal
    rw [same rfl]
    exact update_self ..
  · exact (update_of_ne equal ..).trans answerable.2

theorem Answerable.forget_other {ident : UInt16} (different : other ≠ ident) :
    (m.forget ident).Answerable session other :=
  ⟨answerable.1, (update_of_ne different ..).trans answerable.2⟩

end

theorem Sourced.record (sourced : traffic.Sourced) (session : DirectRouteSession) (ident : UInt16) :
    Traffic.Sourced ⟨traffic.rewriter.record ident session.source,
      (session, ident) :: traffic.outstanding⟩ := by
  intro other source kept
  by_cases equal : other = ident
  · subst equal
    have recorded : (traffic.rewriter.record other session.source).sourceAddress
        other = some session.source := update_self ..
    refine ⟨session, ?_, List.mem_cons_self⟩
    exact some.inj (recorded.symm.trans kept)
  · have before : traffic.rewriter.sourceAddress other = some source :=
      (update_of_ne equal ..).symm.trans kept
    obtain ⟨owner, same, member⟩ := sourced other source before
    exact ⟨owner, same, List.mem_cons_of_mem _ member⟩

theorem Sourced.forget (sourced : traffic.Sourced) (ident : UInt16)
    {outstanding : List (DirectRouteSession × UInt16)}
    (rest : ∀ request ∈ traffic.outstanding, request.2 ≠ ident → request ∈ outstanding) :
    Traffic.Sourced ⟨traffic.rewriter.forget ident, outstanding⟩ := by
  intro other source kept
  by_cases equal : other = ident
  · subst equal
    have forgotten : (traffic.rewriter.forget other).sourceAddress other =
        none := update_self ..
    cases forgotten.symm.trans kept
  · have before : traffic.rewriter.sourceAddress other = some source :=
      (update_of_ne equal ..).symm.trans kept
    obtain ⟨owner, same, member⟩ := sourced other source before
    exact ⟨owner, same, rest _ member equal⟩

/-- One call keeps the owners of the sources. -/
theorem Sourced.next {event : Event} (sourced : traffic.Sourced)
    (next : traffic.next? event = some traffic') :
    traffic'.Sourced := by
  cases event with
  | create session =>
    cases next
    exact sourced
  | delete session =>
    cases next
    exact sourced
  | request packet =>
    cases key : echoKey? packet with
    | none =>
      simp only [Traffic.next?, key, bind_eq_bind, bind_none] at next
      cases next
    | some found =>
      obtain rfl := next?_request key next
      exact Sourced.record sourced found.1 found.2
  | reply packet =>
    cases key : echoKey? packet with
    | none =>
      simp only [Traffic.next?, key, bind_eq_bind, bind_none] at next
      cases next
    | some found =>
      rcases writeBack?_cases traffic.rewriter key with
        ⟨-, writes⟩ | ⟨session, handed, -, -, writes, -⟩
      · simp only [Traffic.next?, key, writes, some_bind] at next
        cases next
        exact sourced
      · simp only [Traffic.next?, key, writes, some_bind] at next
        cases next
        refine Sourced.forget sourced found.2 fun request member other => ?_
        cases handed with
        | none => exact member
        | some handed =>
          refine (List.mem_erase_of_ne ?_).mpr member
          rintro rfl
          exact other rfl

theorem sourced_of_reachable {Meets : Traffic → Event → Prop}
    (reachable : (calls Meets).Reachable traffic) :
    traffic.Sourced := by
  apply reachable.invariant
  · intro start initial ident source kept
    rw [initial.1 ident] at kept
    cases kept
  · intro before after sourced step
    obtain ⟨event, -, next⟩ := step
    exact Sourced.next sourced next

theorem fair_request {packet : Bytes} (distinct : traffic.Distinct (.request packet)) :
    traffic.Fair (.request packet) := by
  intro session ident key known
  obtain ⟨packet', rewrites⟩ := rewritePacket?_key traffic.rewriter key
  refine ⟨_, packet', rewrites, ?_⟩
  intro request member _ answerable
  refine Answerable.record_other answerable fun equal => ?_
  exact distinct _ _ key request member equal (equal ▸ answerable)

theorem fair_reply {packet : Bytes} (sourced : traffic.Sourced)
    (distinct : traffic.Distinct (.reply packet)) :
    traffic.Fair (.reply packet) := by
  intro back ident key
  rcases writeBack?_cases traffic.rewriter key with
    ⟨-, writes⟩ | ⟨session, handed, pending, from', writes, outcome⟩
  · refine ⟨_, none, writes, fun request _ _ answerable => answerable, ?_⟩
    intro session impossible
    cases impossible
  · -- The pending source is that of an unanswered request, and this request
    -- went to the address that the reply comes from.
    obtain ⟨owner, same, asked⟩ := sourced ident _ pending
    have toward := distinct back ident key _ asked rfl (same ▸ pending)
    have owns : owner = session := by
      cases owner
      cases session
      cases same
      cases toward.trans from'.symm
      rfl
    refine ⟨_, handed, writes, ?_, ?_⟩
    · intro request member notOwn answerable
      refine Answerable.forget_other answerable fun equal => ?_
      have requestToward := distinct back ident key request member equal (equal ▸ answerable.2)
      have requestSource : request.1.source = session.source := by
        have kept := answerable.2
        rw [equal, pending] at kept
        exact (some.inj kept).symm
      have own : request.1 = session := by
        cases requestSession : request.1
        cases session
        simp only [requestSession] at requestSource requestToward
        cases requestSource
        cases requestToward.trans from'.symm
        rfl
      rcases outcome with ⟨unknown, -⟩ | ⟨-, given⟩
      · exact unknown (own ▸ answerable.1)
      · exact notOwn (by rw [given, own])
    · intro receiver receives
      rcases outcome with ⟨-, rfl⟩ | ⟨known, given⟩
      · cases receives
      · cases some.inj (given.symm.trans receives)
        exact ⟨known, from', owns ▸ asked⟩

end Calls

/-! ## Runs -/

/-- In a run whose identifiers are used by one session at a time, every reply
goes to the session that asked for it, and no session loses one. -/
theorem calls_fair {traffic : Traffic} (reached : (calls Traffic.Distinct).Reachable traffic)
    (event : Event) (distinct : traffic.Distinct event) :
    traffic.Fair event := by
  cases event with
  | create session =>
    intro request _ _ answerable
    exact ⟨List.mem_insert_of_mem answerable.1, answerable.2⟩
  | delete session =>
    intro request _ other answerable
    refine ⟨List.mem_filter.mpr ⟨answerable.1, ?_⟩, answerable.2⟩
    exact decide_eq_true fun equal => other (congrArg some equal)
  | request packet => exact fair_request distinct
  | reply packet => exact fair_reply (sourced_of_reachable reached) distinct

section Samples

/-- `10.0.0.x`. -/
def host (x : UInt8) : AnyAddr := ⟨.v4, [10, 0, 0, x], rfl⟩

/-- `192.0.2.x`. -/
def server (x : UInt8) : AnyAddr := ⟨.v4, [192, 0, 2, x], rfl⟩

/-- An ICMPv4 message with the identifier 7. -/
def echoPacket (type : UInt8) (source destination : AnyAddr) : Bytes :=
  [0x45, 0, 0, 28, 0, 0, 0, 0, 64, 1, 0, 0] ++ source.2.octets ++
    destination.2.octets ++ [type, 0, 0, 0, 0, 7, 0, 1]

/-- Two hosts, the second of which has a session with both servers. -/
def crowded : Traffic :=
  { rewriter :=
      { sessions := [⟨host 1, server 1⟩, ⟨host 2, server 1⟩, ⟨host 2, server 2⟩]
        sourceAddress := fun _ => none
        inetAddress := fun _ => some (host 9) }
    outstanding := [] }

theorem crowded_reachable (Meets : Traffic → Event → Prop) : (calls Meets).Reachable crowded :=
  ⟨crowded, ⟨fun _ => rfl, rfl⟩, .refl⟩

def askedBy (x y : UInt8) (traffic : Traffic) : Traffic :=
  ⟨traffic.rewriter.record 7 (host x), (⟨host x, server y⟩, 7) :: traffic.outstanding⟩

theorem next?_askedBy {x y : UInt8} (traffic : Traffic)
    (key : echoKey? (echoPacket 8 (host x) (server y)) = some (⟨host x, server y⟩, 7))
    (known : ⟨host x, server y⟩ ∈ traffic.rewriter.sessions) :
    traffic.next? (.request (echoPacket 8 (host x) (server y))) = some (askedBy x y traffic) := by
  obtain ⟨packet', rewrites⟩ := rewritePacket?_key traffic.rewriter key
  simp only [Traffic.next?, key, rewrites, if_pos known, some_bind]
  rfl

/-- The reply of the first server, after the request of the first host. -/
theorem calls_fair_sample :
    (calls Traffic.Distinct).Reachable (askedBy 1 1 crowded) ∧
      (askedBy 1 1 crowded).Distinct
        (.reply (echoPacket 0 (server 1) (host 9))) ∧ (askedBy 1 1 crowded).Fair
        (.reply (echoPacket 0 (server 1) (host 9))) := by
  have replyKey : echoKey? (echoPacket 0 (server 1) (host 9)) =
      some (⟨server 1, host 9⟩, 7) := by decide +kernel
  have reached : (calls Traffic.Distinct).Reachable (askedBy 1 1 crowded) := by
    refine (crowded_reachable _).steps (.single ⟨_, ?_, next?_askedBy crowded
      (by decide +kernel) (by decide)⟩)
    intro session ident _ request impossible
    cases impossible
  have distinct : (askedBy 1 1 crowded).Distinct (.reply (echoPacket 0 (server 1) (host 9))) := by
    intro back ident key request member _ _
    cases some.inj (replyKey.symm.trans key)
    cases List.mem_singleton.mp member
    rfl
  exact ⟨reached, distinct, calls_fair reached _ distinct⟩

/-- Both hosts ask with the identifier 7.  The request of the second one takes
the reply away from the first one, and the reply of the first server is handed
to a session of the second host that has asked nothing. -/
theorem identifier_shared :
    ((calls fun _ _ => True).Reachable (askedBy 1 1 crowded) ∧
        ¬(askedBy 1 1 crowded).Fair (.request (echoPacket 8 (host 2) (server 2)))) ∧
      (calls fun _ _ => True).Reachable (askedBy 2 2 (askedBy 1 1 crowded)) ∧
        ¬(askedBy 2 2 (askedBy 1 1 crowded)).Fair (.reply (echoPacket 0 (server 1) (host 9))) := by
  have secondKey : echoKey? (echoPacket 8 (host 2) (server 2)) =
      some (⟨host 2, server 2⟩, 7) := by decide +kernel
  have replyKey : echoKey? (echoPacket 0 (server 1) (host 9)) =
      some (⟨server 1, host 9⟩, 7) := by decide +kernel
  have first : (calls fun _ _ => True).Reachable (askedBy 1 1 crowded) :=
    (crowded_reachable _).steps (.single ⟨_, trivial, next?_askedBy crowded
      (by decide +kernel) (by decide)⟩)
  have second : (calls fun _ _ => True).Reachable (askedBy 2 2 (askedBy 1 1 crowded)) :=
    first.steps (.single ⟨_, trivial, next?_askedBy _ secondKey (by decide)⟩)
  refine ⟨⟨first, ?_⟩, second, ?_⟩
  · intro fair
    obtain ⟨rewriter, packet', rewrites, keeps⟩ := fair _ _ secondKey (by decide)
    obtain ⟨packet'', rewrites'⟩ := rewritePacket?_key (askedBy 1 1 crowded).rewriter secondKey
    cases rewrites.symm.trans rewrites'
    have kept := keeps (⟨host 1, server 1⟩, 7) List.mem_cons_self (by decide) (by decide)
    exact absurd kept (by decide)
  · intro fair
    obtain ⟨rewriter, handed, writes, -, owed⟩ := fair _ _ replyKey
    rcases writeBack?_cases (askedBy 2 2 (askedBy 1 1 crowded)).rewriter
      replyKey with ⟨absent, -⟩ | ⟨session, handed', pending, from', writes', outcome⟩
    · exact absurd absent (by decide)
    · have receiver : session = ⟨host 2, server 1⟩ := by
        cases session
        cases from'
        cases pending
        rfl
      subst receiver
      cases writes.symm.trans writes'
      rcases outcome with ⟨unknown, -⟩ | ⟨-, given⟩
      · exact absurd unknown (by decide)
      · exact absurd (owed _ given).2.2 (by decide)

end Samples

end SingTun.Ping
