import Mathlib.Data.List.AList
import SingTun.Foundation.Transition
import SingTun.Header.Echo

/-!
# Unprivileged sockets

`UnprivilegedConn` has one socket for each identifier.  The callers of
`Write`, the routines of `fetchResponse` and `Close` share the mapping from
identifiers to sockets, and each of them changes it under its lock only.  What
they do between two of their critical sections is kept as a routine.
-/

namespace SingTun.Ping

open Foundation Header List Option Function AList

/-- A socket of `connect`, with the identifier it was made for. -/
structure UnprivilegedSocket where
  identifier : UInt16
  closed : Bool

/-- What `fetchResponse` makes of a message: the identifier, and for IPv4 the
checksum. -/
def responseFor? (family : Family) (identifier : UInt16) (message : Bytes) : Option Bytes :=
  let icmpHdr : Slice := ⟨0, message.length⟩
  match family with
  | .v4 => do
      let message ← ICMP.setIdent? message icmpHdr identifier
      sealICMPv4? message icmpHdr
  | .v6 => ICMP.setIdent? message icmpHdr identifier

/-- Where a call or a goroutine is. -/
inductive Routine
  /-- `Write`, behind its critical section. -/
  | writing (conn : Nat) (identifier : UInt16)
  /-- `fetchResponse`, before or in the read of the socket. -/
  | fetching (conn : Nat) (identifier : UInt16)
  /-- `fetchResponse`, at the send to `receiveChan`. -/
  | responding (conn : Nat) (identifier : UInt16) (response : Bytes)
  /-- `removeConn`, before its critical section. -/
  | removing (conn : Nat) (identifier : UInt16)
  /-- `removeConn`, behind it. -/
  | closing (conn : Nat)
deriving DecidableEq

/-- `UnprivilegedConn`, with all the sockets it has ever had. -/
structure UnprivilegedConn where
  /-- `ctx.Err()` is not `nil`. -/
  canceled : Bool
  mapping : AList fun _ : UInt16 => Nat
  sockets : Nat → Option UnprivilegedSocket
  routines : List Routine
  /-- What was sent to `receiveChan`, with the socket it came from. -/
  received : List (Nat × Bytes)
  /-- `Close` was called. -/
  closed : Bool

namespace UnprivilegedConn

section

variable (c : UnprivilegedConn)

/-- The critical section of `Write`; `connect` is what it returns. -/
def write (identifier : UInt16) (connect : Option Nat) : UnprivilegedConn :=
  if c.canceled then c
  else
    match c.mapping.lookup identifier with
    | some conn =>
      { c with routines := .writing conn identifier :: c.routines }
    | none =>
      match connect with
      | none => c
      | some conn =>
        { c with
          mapping := c.mapping.insert identifier conn
          sockets := update c.sockets conn (some ⟨identifier, false⟩)
          routines := .writing conn identifier :: .fetching conn identifier :: c.routines }

/-- The critical section of `removeConn`. -/
def removeConn (conn : Nat) (identifier : UInt16) : UnprivilegedConn :=
  if c.mapping.lookup identifier = some conn then
    { c with mapping := c.mapping.erase identifier }
  else c

/-- `conn.Close()`. -/
def closeConn (conn : Nat) : UnprivilegedConn :=
  { c with
    sockets := update c.sockets conn
      ((c.sockets conn).map fun socket => { socket with closed := true }) }

/-- `Close`. -/
def close : UnprivilegedConn :=
  { c with
    canceled := true
    mapping := ∅
    sockets := fun conn =>
      if conn ∈ c.mapping.entries.map (fun entry => entry.2) then
        (c.sockets conn).map fun socket => { socket with closed := true }
      else c.sockets conn
    closed := true }

/-- A routine goes on. -/
def advance (routine : Routine) (next : List Routine) : UnprivilegedConn :=
  { c with routines := next ++ c.routines.erase routine }

end

/-- The steps of all the routines. -/
inductive Step (family : Family) : UnprivilegedConn → UnprivilegedConn → Prop
  | write (c : UnprivilegedConn) (identifier : UInt16) (connect : Option Nat)
      (fresh : ∀ conn ∈ connect, c.sockets conn = none) :
      Step family c (c.write identifier connect)
  | wrote (c : UnprivilegedConn) (conn : Nat) (identifier : UInt16)
      (running : .writing conn identifier ∈ c.routines) :
      Step family c (c.advance (.writing conn identifier) [])
  | writeFailed (c : UnprivilegedConn) (conn : Nat) (identifier : UInt16)
      (running : .writing conn identifier ∈ c.routines) :
      Step family c (c.advance (.writing conn identifier) [.removing conn identifier])
  /-- The read of a socket returns a message. -/
  | fetch (c : UnprivilegedConn) (conn : Nat) (identifier : UInt16)
      (message response : Bytes)
      (running : .fetching conn identifier ∈ c.routines)
      (made : responseFor? family identifier message = some response) :
      Step family c (c.advance (.fetching conn identifier) [.responding conn identifier response])
  /-- The read fails, or its deadline has passed. -/
  | fetchFailed (c : UnprivilegedConn) (conn : Nat) (identifier : UInt16)
      (running : .fetching conn identifier ∈ c.routines) :
      Step family c (c.advance (.fetching conn identifier) [.removing conn identifier])
  | respond (c : UnprivilegedConn) (conn : Nat) (identifier : UInt16)
      (response : Bytes)
      (running : .responding conn identifier response ∈ c.routines) :
      Step family c { c.advance (.responding conn identifier response)
        [.fetching conn identifier] with
          received := (conn, response) :: c.received }
  | respondCanceled (c : UnprivilegedConn) (conn : Nat) (identifier : UInt16)
      (response : Bytes)
      (running : .responding conn identifier response ∈ c.routines)
      (canceled : c.canceled = true) :
      Step family c (c.advance (.responding conn identifier response) [.removing conn identifier])
  | remove (c : UnprivilegedConn) (conn : Nat) (identifier : UInt16)
      (running : .removing conn identifier ∈ c.routines) :
      Step family c ((c.removeConn conn identifier).advance
        (.removing conn identifier) [.closing conn])
  | removed (c : UnprivilegedConn) (conn : Nat)
      (running : .closing conn ∈ c.routines) :
      Step family c ((c.closeConn conn).advance (.closing conn) [])
  | close (c : UnprivilegedConn) : Step family c c.close
  /-- The context that the connection was made with is canceled. -/
  | cancel (c : UnprivilegedConn) : Step family c { c with canceled := true }

end UnprivilegedConn

/-- The runs from `newUnprivilegedConn`. -/
def unprivilegedConn (family : Family) : TransitionSystem UnprivilegedConn where
  initial c := c = ⟨false, ∅, fun _ => none, [], [], false⟩
  step := UnprivilegedConn.Step family

/-! ## The sockets of a run -/

section Sockets

variable {family : Family} {c c' : UnprivilegedConn}

/-- A message that carries an identifier. -/
def Carries (identifier : UInt16) (message : Bytes) : Prop :=
  ICMP.ident? message ⟨0, message.length⟩ = some identifier

/-- The socket of a routine was made for its identifier. -/
def Routine.Owned (sockets : Nat → Option UnprivilegedSocket) : Routine → Prop
  | .writing conn identifier =>
    (sockets conn).map UnprivilegedSocket.identifier = some identifier
  | .fetching conn identifier =>
    (sockets conn).map UnprivilegedSocket.identifier = some identifier
  | .responding conn identifier response =>
    (sockets conn).map UnprivilegedSocket.identifier = some identifier ∧ Carries identifier response
  | .removing conn identifier =>
    (sockets conn).map UnprivilegedSocket.identifier = some identifier
  | .closing _ => True

/-- An open socket is mapped, or about to be closed. -/
def UnprivilegedConn.Accounted (c : UnprivilegedConn) : Prop :=
  ∀ conn socket, c.sockets conn = some socket → socket.closed = false →
    c.mapping.lookup socket.identifier = some conn ∨ .closing conn ∈ c.routines

/-- No socket is forgotten, and none gets another identifier. -/
def Extends (sockets sockets' : Nat → Option UnprivilegedSocket) : Prop :=
  ∀ conn identifier, (sockets conn).map UnprivilegedSocket.identifier = some identifier →
      (sockets' conn).map UnprivilegedSocket.identifier = some identifier

theorem Routine.Owned.mono {sockets sockets' : Nat → Option UnprivilegedSocket}
    {routine : Routine}
    (owned : routine.Owned sockets)
    (more : Extends sockets sockets') :
    routine.Owned sockets' := by
  cases routine with
  | writing conn identifier => exact more conn identifier owned
  | fetching conn identifier => exact more conn identifier owned
  | responding conn identifier response =>
    exact ⟨more conn identifier owned.1, owned.2⟩
  | removing conn identifier => exact more conn identifier owned
  | closing conn => trivial

/-- The invariant. -/
structure UnprivilegedConn.Sound (c : UnprivilegedConn) : Prop where
  accounted : c.Accounted
  mapped : ∀ identifier conn, c.mapping.lookup identifier = some conn →
    (c.sockets conn).map UnprivilegedSocket.identifier = some identifier
  owned : ∀ routine ∈ c.routines, routine.Owned c.sockets
  received : ∀ entry ∈ c.received, ∃ socket,
    c.sockets entry.1 = some socket ∧ Carries socket.identifier entry.2
  ended : c.closed = true → c.canceled = true ∧ c.mapping = ∅

namespace UnprivilegedConn

theorem received_mono
    (received : ∀ entry ∈ c.received, ∃ socket,
      c.sockets entry.1 = some socket ∧ Carries socket.identifier entry.2)
    {sockets : Nat → Option UnprivilegedSocket}
    (more : Extends c.sockets sockets) :
    ∀ entry ∈ c.received, ∃ socket,
      sockets entry.1 = some socket ∧ Carries socket.identifier entry.2 := by
  intro entry member
  obtain ⟨socket, found, carries⟩ := received entry member
  obtain ⟨socket', found', same⟩ := map_eq_some_iff.mp
    (more entry.1 socket.identifier (by rw [found]; rfl))
  refine ⟨socket', found', ?_⟩
  rw [same]
  exact carries

/-- A routine may go on, if what it leaves is no open socket. -/
theorem Sound.advance (sound : c.Sound) {routine : Routine} {next : List Routine}
    (owned : ∀ other ∈ next, other.Owned c.sockets)
    (ends : ∀ conn, routine = .closing conn →
      ∀ socket, c.sockets conn = some socket → socket.closed = true) :
    (c.advance routine next).Sound := by
  refine { sound with
    accounted := ?_
    owned := forall_mem_append.mpr
      ⟨owned, fun other old => sound.owned other (mem_of_mem_erase old)⟩ }
  · intro conn socket found opened
    rcases sound.accounted conn socket found opened with mapped | closing
    · exact .inl mapped
    · apply Or.inr
      have other : .closing conn ≠ routine := by
        intro same
        have closed := ends conn same.symm socket found
        rw [opened] at closed
        cases closed
      exact mem_append_right _ ((mem_erase_of_ne other).mpr closing)

theorem extends_closeConn (conn : Nat) : Extends c.sockets (c.closeConn conn).sockets := by
  intro other identifier found
  show (update c.sockets conn _ other).map _ = _
  by_cases same : other = conn
  · subst same
    rw [update_self, Option.map_map]
    exact found
  · rw [update_of_ne same]
    exact found

theorem closeConn_closed {conn : Nat} {socket : UnprivilegedSocket}
    (found : (c.closeConn conn).sockets conn = some socket) :
    socket.closed = true := by
  have closed : (c.closeConn conn).sockets conn =
      (c.sockets conn).map fun socket => { socket with closed := true } :=
    update_self _ _ _
  rw [closed] at found
  obtain ⟨before, -, rfl⟩ := map_eq_some_iff.mp found
  rfl

theorem Sound.closeConn (sound : c.Sound) (conn : Nat) : (c.closeConn conn).Sound := by
  have more := @extends_closeConn c conn
  constructor
  case accounted =>
    intro other socket found opened
    by_cases same : other = conn
    · subst same
      rw [closeConn_closed found] at opened
      cases opened
    · have unchanged : (c.closeConn conn).sockets other = c.sockets other :=
        update_of_ne same _ _
      rw [unchanged] at found
      exact sound.accounted other socket found opened
  case mapped =>
    intro identifier other mapped
    exact more other identifier (sound.mapped identifier other mapped)
  case owned =>
    intro routine member
    exact (sound.owned routine member).mono more
  case received => exact received_mono sound.received more
  case ended => exact sound.ended

variable {identifier identifier' : UInt16}

/-- The entries of other sockets stay. -/
theorem removeConn_lookup {conn other : Nat} (different : other ≠ conn)
    (mapped : c.mapping.lookup identifier' = some other) :
    (c.removeConn conn identifier).mapping.lookup identifier' = some other := by
  unfold removeConn
  split
  · rename_i own
    have apart : identifier' ≠ identifier := by
      rintro rfl
      exact different (some.inj (mapped.symm.trans own))
    show (c.mapping.erase identifier).lookup identifier' = some other
    rw [lookup_erase_ne apart]
    exact mapped
  · exact mapped

theorem mapped_of_removeConn {conn other : Nat}
    (mapped : (c.removeConn conn identifier).mapping.lookup identifier' = some other) :
    c.mapping.lookup identifier' = some other := by
  unfold removeConn at mapped
  split at mapped
  · change (c.mapping.erase identifier).lookup identifier' = _ at mapped
    by_cases same : identifier' = identifier
    · rw [same, lookup_erase] at mapped
      cases mapped
    · rw [lookup_erase_ne same] at mapped
      exact mapped
  · exact mapped

theorem removeConn_fields (conn : Nat) (identifier : UInt16) :
    (c.removeConn conn identifier).sockets = c.sockets ∧
      (c.removeConn conn identifier).routines = c.routines ∧
      (c.removeConn conn identifier).received = c.received ∧
      (c.removeConn conn identifier).closed = c.closed ∧
      (c.removeConn conn identifier).canceled = c.canceled := by
  unfold removeConn
  split
  · exact ⟨rfl, rfl, rfl, rfl, rfl⟩
  · exact ⟨rfl, rfl, rfl, rfl, rfl⟩

/-- The critical section of `removeConn`, after which it closes its socket. -/
theorem Sound.remove (sound : c.Sound) (conn : Nat) (identifier : UInt16) :
    ((c.removeConn conn identifier).advance (.removing conn identifier) [.closing conn]).Sound := by
  obtain ⟨sockets, routines, received, closed, canceled⟩ := @removeConn_fields c conn identifier
  constructor
  case accounted =>
    intro other socket found opened
    change (c.removeConn conn identifier).sockets other = _ at found
    rw [sockets] at found
    by_cases same : other = conn
    · subst same
      exact .inr mem_cons_self
    · rcases sound.accounted other socket found opened with mapped | closing
      · exact .inl (removeConn_lookup same mapped)
      · apply Or.inr
        show .closing other ∈ [.closing conn] ++
          (c.removeConn conn identifier).routines.erase (.removing conn identifier)
        rw [routines]
        refine mem_append_right _ ((mem_erase_of_ne ?_).mpr closing)
        rintro ⟨⟩
  case mapped =>
    intro identifier' other mapped
    show ((c.removeConn conn identifier).sockets other).map _ = _
    rw [sockets]
    exact sound.mapped identifier' other (mapped_of_removeConn mapped)
  case owned =>
    intro routine member
    show routine.Owned (c.removeConn conn identifier).sockets
    rw [sockets]
    rcases mem_append.mp member with new | old
    · cases mem_singleton.mp new
      trivial
    · rw [routines] at old
      exact sound.owned routine (mem_of_mem_erase old)
  case received =>
    show ∀ entry ∈ (c.removeConn conn identifier).received, ∃ socket,
      (c.removeConn conn identifier).sockets entry.1 = some socket ∧ _
    rw [sockets, received]
    exact sound.received
  case ended =>
    intro ended
    obtain ⟨stopped, empty⟩ := sound.ended (closed.symm.trans ended)
    refine ⟨canceled.trans stopped, ?_⟩
    show (c.removeConn conn identifier).mapping = ∅
    unfold removeConn
    split
    · show c.mapping.erase identifier = ∅
      rw [empty]
      rfl
    · exact empty

/-- The critical section of `Write`. -/
theorem Sound.write (sound : c.Sound) (identifier : UInt16) {connect : Option Nat}
    (fresh : ∀ conn ∈ connect, c.sockets conn = none) :
    (c.write identifier connect).Sound := by
  unfold UnprivilegedConn.write
  split
  · exact sound
  rename_i running
  split
  · rename_i conn mapped
    have owned := sound.mapped identifier conn mapped
    exact { sound with
      accounted := fun other socket found opened =>
        (sound.accounted other socket found opened).imp_right (mem_cons_of_mem _)
      owned := forall_mem_cons.mpr ⟨owned, sound.owned⟩ }
  · rename_i absent
    cases connect with
    | none => exact sound
    | some conn =>
      have unused : c.sockets conn = none := fresh conn rfl
      have other_ne : ∀ {other : Nat} {identifier' : UInt16},
          (c.sockets other).map UnprivilegedSocket.identifier =
            some identifier' → other ≠ conn := by
        rintro other identifier' found rfl
        rw [unused] at found
        cases found
      have more : Extends c.sockets (update c.sockets conn
          (some ⟨identifier, false⟩)) := by
        intro other identifier' found
        rw [update_of_ne (other_ne found)]
        exact found
      have new : (update c.sockets conn (some ⟨identifier, false⟩) conn).map
            UnprivilegedSocket.identifier = some identifier := by
        rw [update_self]
        rfl
      constructor
      case accounted =>
        intro other socket found opened
        change update c.sockets conn _ other = some socket at found
        show (c.mapping.insert identifier conn).lookup socket.identifier = some other ∨ _
        by_cases same : other = conn
        · subst same
          rw [update_self] at found
          cases found
          exact .inl (lookup_insert c.mapping)
        · rw [update_of_ne same] at found
          rcases sound.accounted other socket found opened with
            mapped | closing
          · have apart : socket.identifier ≠ identifier := by
              intro same
              rw [same, absent] at mapped
              cases mapped
            rw [lookup_insert_ne apart]
            exact .inl mapped
          · exact .inr (mem_cons_of_mem _ (mem_cons_of_mem _ closing))
      case mapped =>
        intro identifier' other mapped
        by_cases same : identifier' = identifier
        · subst same
          rw [lookup_insert] at mapped
          cases mapped
          exact new
        · rw [lookup_insert_ne same] at mapped
          exact more other identifier' (sound.mapped identifier' other mapped)
      case owned =>
        exact forall_mem_cons.mpr ⟨new, forall_mem_cons.mpr
          ⟨new, fun routine member => (sound.owned routine member).mono more⟩⟩
      case received => exact received_mono sound.received more
      case ended => exact fun closed => absurd (sound.ended closed).1 running

theorem Sound.close (sound : c.Sound) : c.close.Sound := by
  have more : Extends c.sockets c.close.sockets := by
    intro conn identifier found
    show (if _ then _ else _ : Option UnprivilegedSocket).map _ = _
    split
    · rw [Option.map_map]
      exact found
    · exact found
  constructor
  case accounted =>
    intro conn socket found opened
    change (if _ then _ else _ : Option UnprivilegedSocket) = some socket at found
    split at found
    · obtain ⟨before, -, rfl⟩ := map_eq_some_iff.mp found
      cases opened
    · rename_i unmapped
      refine .inr ((sound.accounted conn socket found opened).resolve_left ?_)
      intro mapped
      exact unmapped (mem_map.mpr ⟨_, mem_lookup_iff.mp mapped, rfl⟩)
  case mapped =>
    intro identifier conn mapped
    cases mapped
  case owned =>
    intro routine member
    exact (sound.owned routine member).mono more
  case received => exact received_mono sound.received more
  case ended => exact fun _ => ⟨rfl, rfl⟩

/-- What goes to `receiveChan` carries the identifier. -/
theorem responseFor?_carries {message response : Bytes}
    (made : responseFor? family identifier message = some response) :
    Carries identifier response := by
  have written : ∀ {stored : Bytes},
      ICMP.setIdent? message ⟨0, message.length⟩ identifier = some stored →
        6 ≤ message.length ∧ stored = writeU16 message 4 identifier := by
    intro stored set
    by_cases long : 4 + 2 ≤ message.length
    · unfold ICMP.setIdent? at set
      rw [Slice.writeU16?_eq_some identifier long, Nat.zero_add] at set
      exact ⟨long, (some.inj set).symm⟩
    · unfold ICMP.setIdent? at set
      rw [Slice.writeU16?_eq_none identifier (show message.length < 4 + 2 by omega)] at set
      cases set
  have reads : ∀ {stored : Bytes}, 6 ≤ stored.length →
      readU16 stored 4 = identifier → Carries identifier stored := by
    intro stored long word
    unfold Carries ICMP.ident?
    rw [Slice.readU16?_eq_some long, Nat.zero_add, word]
  cases family with
  | v4 =>
    obtain ⟨stored, set, seals⟩ := bind_eq_some_iff.mp made
    obtain ⟨long, rfl⟩ := written set
    obtain ⟨xsum, -, seals⟩ := bind_eq_some_iff.mp seals
    obtain ⟨response', seals', change⟩ := @setChecksum?_changed
      (writeU16 message 4 identifier) ⟨0, message.length⟩ xsum (show 4 ≤ message.length by omega)
    cases seals.symm.trans seals'
    apply reads
    · rw [change.length, length_writeU16]
      exact long
    · rw [change.readU16_eq ?_ ?_, readU16_writeU16_self (by omega)]
      · show ¬(4 = 0 + 2 ∨ 4 = 0 + 3)
        decide
      · show ¬(5 = 0 + 2 ∨ 5 = 0 + 3)
        decide
  | v6 =>
    obtain ⟨long, rfl⟩ := written made
    apply reads
    · rw [length_writeU16]
      exact long
    · exact readU16_writeU16_self (by omega)

/-- A routine that is not about to close a socket goes on. -/
theorem Sound.moves (sound : c.Sound) {routine next : Routine} (owned : next.Owned c.sockets)
    (apart : ∀ conn, routine ≠ .closing conn) :
    (c.advance routine [next]).Sound := by
  refine sound.advance ?_ fun conn same => absurd same (apart conn)
  intro other member
  rw [mem_singleton.mp member]
  exact owned

theorem Sound.step (sound : c.Sound) (step : c.Step family c') : c'.Sound := by
  cases step with
  | write identifier connect fresh => exact sound.write identifier fresh
  | wrote conn identifier running =>
    refine sound.advance ?_ (by rintro other ⟨⟩)
    exact nofun
  | writeFailed conn identifier running =>
    have own := sound.owned _ running
    exact sound.moves own (by rintro other ⟨⟩)
  | fetch conn identifier message response running made =>
    have own := sound.owned _ running
    exact sound.moves ⟨own, responseFor?_carries made⟩ (by rintro other ⟨⟩)
  | fetchFailed conn identifier running =>
    have own := sound.owned _ running
    exact sound.moves own (by rintro other ⟨⟩)
  | respond conn identifier response running =>
    obtain ⟨own, carries⟩ := sound.owned _ running
    have moved : (c.advance (.responding conn identifier response)
        [.fetching conn identifier]).Sound :=
      sound.moves own (by rintro other ⟨⟩)
    obtain ⟨socket, found, rfl⟩ := map_eq_some_iff.mp own
    exact { moved with
      received := forall_mem_cons.mpr ⟨⟨socket, found, carries⟩, sound.received⟩ }
  | respondCanceled conn identifier response running canceled =>
    obtain ⟨own, -⟩ := sound.owned _ running
    exact sound.moves own (by rintro other ⟨⟩)
  | remove conn identifier running => exact sound.remove conn identifier
  | removed conn running =>
    refine (sound.closeConn conn).advance ?_ ?_
    · exact nofun
    · rintro other ⟨⟩ socket found
      exact closeConn_closed found
  | close => exact sound.close
  | cancel =>
    exact { sound with ended := fun closed => ⟨rfl, (sound.ended closed).2⟩ }

end UnprivilegedConn

theorem unprivilegedConn_sound (reachable : (unprivilegedConn family).Reachable c) : c.Sound := by
  refine reachable.invariant ?_ fun _ _ sound step => sound.step step
  rintro c rfl
  constructor
  case accounted =>
    intro conn socket found
    cases found
  case mapped =>
    intro identifier conn mapped
    cases mapped
  case owned => exact nofun
  case received => exact nofun
  case ended => exact nofun

/-- After `Close` no socket is made. -/
theorem UnprivilegedConn.Sound.created
    (sound : c.Sound)
    (closed : c.closed = true)
    (step : c.Step family c') :
    c'.closed = true ∧ ∀ conn, c'.sockets conn = none ↔ c.sockets conn = none := by
  obtain ⟨canceled, empty⟩ := sound.ended closed
  cases step with
  | write identifier connect fresh =>
    have refused : c.write identifier connect = c := if_pos canceled
    rw [refused]
    exact ⟨closed, fun _ => Iff.rfl⟩
  | wrote conn identifier running => exact ⟨closed, fun _ => Iff.rfl⟩
  | writeFailed conn identifier running => exact ⟨closed, fun _ => Iff.rfl⟩
  | fetch conn identifier message response running made =>
    exact ⟨closed, fun _ => Iff.rfl⟩
  | fetchFailed conn identifier running => exact ⟨closed, fun _ => Iff.rfl⟩
  | respond conn identifier response running =>
    exact ⟨closed, fun _ => Iff.rfl⟩
  | respondCanceled conn identifier response running canceled =>
    exact ⟨closed, fun _ => Iff.rfl⟩
  | remove conn identifier running =>
    obtain ⟨sockets, -, -, still, -⟩ := @UnprivilegedConn.removeConn_fields c conn identifier
    refine ⟨still.trans closed, fun other => ?_⟩
    show (c.removeConn conn identifier).sockets other = none ↔ _
    rw [sockets]
  | removed conn running =>
    refine ⟨closed, fun other => ?_⟩
    show update c.sockets conn _ other = none ↔ _
    by_cases same : other = conn
    · subst same
      rw [update_self, map_eq_none_iff]
    · rw [update_of_ne same]
  | close =>
    refine ⟨rfl, fun other => ?_⟩
    show (if _ then _ else _ : Option UnprivilegedSocket) = none ↔ _
    split
    · exact map_eq_none_iff
    · exact Iff.rfl
  | cancel => exact ⟨closed, fun _ => Iff.rfl⟩

/-- What holds once `Close` has run. -/
structure UnprivilegedConn.Ended (c : UnprivilegedConn) : Prop where
  mapping : c.mapping = ∅
  sockets : ∀ conn socket, c.sockets conn = some socket →
    socket.closed = true ∨ .closing conn ∈ c.routines

theorem UnprivilegedConn.Sound.of_closed
    (sound : c.Sound)
    (closed : c.closed = true) :
    c.Ended := by
  have empty := (sound.ended closed).2
  refine ⟨empty, fun conn socket found => ?_⟩
  by_cases shut : socket.closed = true
  · exact .inl shut
  · rcases sound.accounted conn socket found (Bool.eq_false_iff.mpr shut) with mapped | closing
    · rw [empty] at mapped
      cases mapped
    · exact .inr closing

theorem UnprivilegedConn.Sound.created_steps (sound : c.Sound)
    (closed : c.closed = true)
    (steps : (unprivilegedConn family).Steps c c') :
    c'.Sound ∧ c'.closed = true ∧ ∀ conn, c'.sockets conn = none ↔ c.sockets conn = none := by
  induction steps with
  | refl => exact ⟨sound, closed, fun _ => Iff.rfl⟩
  | tail _ step ih =>
    obtain ⟨sound', closed', same⟩ := ih
    obtain ⟨closed'', same'⟩ := sound'.created closed' step
    exact ⟨sound'.step step, closed'', fun conn => (same' conn).trans (same conn)⟩

/--
In every state of a run an open socket is mapped or about to be closed,
`removeConn` leaves the entries of all other sockets, the responses carry the
identifiers of their sockets, and from `Close` on the mapping is empty, no
socket is made, and those that were made are closed or about to be.
-/
theorem unprivilegedConn_sockets (reachable : (unprivilegedConn family).Reachable c) :
    c.Accounted ∧ (∀ conn identifier identifier' other,
        c.mapping.lookup identifier' = some other → other ≠ conn →
          (c.removeConn conn identifier).mapping.lookup identifier' = some other) ∧
      (c.closed = true → ∀ c', (unprivilegedConn family).Steps c c' →
        c'.Ended ∧ ∀ conn, c'.sockets conn = none ↔ c.sockets conn = none) ∧
      ∀ conn response, (conn, response) ∈ c.received → ∃ socket,
        c.sockets conn = some socket ∧ Carries socket.identifier response := by
  have sound := unprivilegedConn_sound reachable
  refine ⟨sound.accounted, ?_, ?_, ?_⟩
  · intro conn identifier identifier' other mapped different
    exact UnprivilegedConn.removeConn_lookup different mapped
  · intro closed c' steps
    obtain ⟨sound', closed', same⟩ := sound.created_steps closed steps
    exact ⟨sound'.of_closed closed', same⟩
  · intro conn response member
    exact sound.received _ member

/-- The second socket of an identifier is mapped while the first one is about
to be closed, and then `Close` is called. -/
def closedConn : UnprivilegedConn :=
  let c : UnprivilegedConn := ⟨false, ∅, fun _ => none, [], [], false⟩
  let c := (c.write 7 (some 0)).advance (.fetching 0 7) [.removing 0 7]
  let c := (c.removeConn 0 7).advance (.removing 0 7) [.closing 0]
  (c.write 7 (some 1)).close

theorem unprivilegedConn_sockets_closed :
    (unprivilegedConn .v4).Reachable closedConn ∧
      closedConn.closed = true ∧ .closing 0 ∈ closedConn.routines ∧ closedConn.Ended := by
  have reachable : (unprivilegedConn .v4).Reachable closedConn := by
    refine ⟨_, rfl, ?_⟩
    refine ((((Relation.ReflTransGen.refl.tail (.write _ 7 (some 0) ?_)).tail
      (.fetchFailed _ 0 7 (by decide))).tail (.remove _ 0 7 (by decide))).tail
      (.write _ 7 (some 1) ?_)).tail (.close _)
    · rintro conn ⟨⟩
      rfl
    · rintro conn ⟨⟩
      rfl
  exact ⟨reachable, rfl, by decide, ((unprivilegedConn_sockets reachable).2.2.1 rfl _ .refl).1⟩

end Sockets

end SingTun.Ping
