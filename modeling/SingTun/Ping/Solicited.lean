import SingTun.Ping.Destination

/-!
# Solicited replies

A destination that filters forwards a reply only for a request that it has
registered, and once.  The identifier that went out is the complement of that
of the client, and the one that comes back is complemented again, so a reply
finds the request it answers, if its packet has room in the buffer of
`loopRead`.
-/

namespace SingTun.Ping

open Foundation Header List Option

variable {family : Family}

/-! ## Replies and requests -/

/-- A packet for the client that is the reply to a request. -/
structure IsReply (packet : Bytes) (icmpHdr : Slice)
    (request : PingRequest family) : Prop where
  valid : isValid family packet packet.length = true
  protocol : transportProtocol? family packet = some (ICMP.protocolNumber family)
  payload : payload? family packet = some icmpHdr
  type : ICMP.type? packet icmpHdr = some (ICMP.echoReply family)
  request : answeredRequest? family packet icmpHdr = some request

namespace Echo

/-- The request that was written. -/
def asks? : Echo family → Option (PingRequest family)
  | .wrote request => some request
  | .forwarded _ => none

/-- The request that a forwarded packet answers. -/
def answers? : Echo family → Option (PingRequest family)
  | .wrote _ => none
  | .forwarded packet => do
      let icmpHdr ← payload? family packet
      answeredRequest? family packet icmpHdr

end Echo

section

variable (request : PingRequest family) (log : List (Echo family))

/-- How many requests were written with a key. -/
def asked : Nat :=
  log.countP (·.asks? = some request)

/-- How many replies were forwarded for a key. -/
def answered : Nat :=
  log.countP (·.answers? = some request)

/-- The request was written, and no reply was forwarded for it since. -/
def Solicited : Prop :=
  ∃ later earlier, log = later ++ .wrote request :: earlier ∧
    ∀ echo ∈ later, echo.answers? ≠ some request

end

/-- Every packet that was forwarded is a reply, solicited when it was. -/
def RepliesSolicited (log : List (Echo family)) : Prop :=
  ∀ later packet earlier, log = later ++ .forwarded packet :: earlier →
    ∃ icmpHdr request, IsReply packet icmpHdr request ∧ Solicited request earlier

/-- The message on the wire is a reply to the one that was written there. -/
structure Answers (message : Message family) (request : PingRequest family)
    (wire : Bytes) : Prop where
  sender : message.sender? = some request.destination
  type : byteAt message.icmp 0 = ICMP.echoReply family
  ident : readU16 message.icmp 4 = readU16 wire 4
  sequence : readU16 message.icmp 6 = readU16 wire 6

/-- The loop has a message in its hands. -/
def LoopRead.Handles (message : Message family)
    (sent : List (PingRequest family × Bytes)) : LoopRead family → Prop
  | .idle => False
  | .received message' sent' => message' = message ∧ sent' = sent
  | .summed datagram sent' _ => message = .datagram datagram ∧ sent' = sent
  | .parsed message' sent' _ => message' = message ∧ sent' = sent
  | .ended => False

/-- The steps to the end of a message. -/
def LoopRead.remaining : LoopRead family → Nat
  | .idle => 0
  | .received _ _ => 3
  | .summed _ _ _ => 2
  | .parsed _ _ _ => 1
  | .ended => 0

/-! ## The log -/

section Log

variable {request : PingRequest family} {log : List (Echo family)}

theorem solicited_wrote : Solicited request (.wrote request :: log) :=
  ⟨[], log, rfl, nofun⟩

theorem Solicited.cons {echo : Echo family} (solicited : Solicited request log)
    (other : echo.answers? ≠ some request) :
    Solicited request (echo :: log) := by
  obtain ⟨later, earlier, rfl, unanswered⟩ := solicited
  exact ⟨echo :: later, earlier, rfl, forall_mem_cons.mpr ⟨other, unanswered⟩⟩

theorem RepliesSolicited.wrote (replies : RepliesSolicited log) :
    RepliesSolicited (.wrote request :: log) := by
  intro later packet earlier split
  cases later with
  | nil => cases split
  | cons echo later =>
    obtain ⟨-, split⟩ := List.cons.inj split
    exact replies later packet earlier split

theorem RepliesSolicited.forwarded
    {packet : Bytes} {icmpHdr : Slice} (replies : RepliesSolicited log)
    (isReply : IsReply packet icmpHdr request)
    (solicited : Solicited request log) :
    RepliesSolicited (.forwarded packet :: log) := by
  intro later packet' earlier split
  cases later with
  | nil =>
    cases split
    exact ⟨icmpHdr, request, isReply, solicited⟩
  | cons echo later =>
    obtain ⟨-, split⟩ := List.cons.inj split
    exact replies later packet' earlier split

theorem IsReply.answers? {packet : Bytes} {icmpHdr : Slice}
    (isReply : IsReply packet icmpHdr request) :
    (Echo.forwarded packet : Echo family).answers? = some request := by
  unfold Echo.answers?
  simp only [isReply.payload, some_bind]
  exact isReply.request

end Log

/-! ## The functions of the destination -/

section Functions

variable {packet : Bytes} {icmpHdr : Slice}

theorem icmpMessage?_eq_ok (tested : icmpMessage? family packet = some (.ok icmpHdr)) :
    isValid family packet packet.length = true ∧
      payload? family packet = some icmpHdr ∧ 8 ≤ icmpHdr.length := by
  unfold icmpMessage? at tested
  split at tested
  · cases tested
  · rename_i valid
    obtain ⟨payloadLength, read, tested⟩ := bind_eq_some_iff.mp tested
    split at tested
    · cases tested
    · rename_i long
      obtain ⟨icmpHdr', found, result⟩ := bind_eq_some_iff.mp tested
      cases result
      obtain ⟨length, read', same⟩ := (payload?_cases found).2
      cases read.symm.trans read'
      change ¬payloadLength.toNat < 8 at long
      exact ⟨not_not.mp valid, found, by omega⟩

theorem icmpMessage?_of_readBack
    {message : Message family} (readBack : ReadBack message packet icmpHdr) :
    icmpMessage? family packet = some (.ok icmpHdr) := by
  obtain ⟨length, read, same⟩ := (payload?_cases readBack.payload).2
  have long := readBack.long
  unfold icmpMessage?
  rw [if_neg (not_not.mpr readBack.valid), read]
  simp only [some_bind]
  rw [if_neg (show ¬length.toNat < icmpMinimumSize by
    unfold icmpMinimumSize
    omega), readBack.payload]
  rfl

/-- The key of a written packet. -/
theorem requestOf?_eq_some {request : PingRequest family}
    (key : requestOf? family packet icmpHdr = some request) :
    sourceAddr? family packet = some request.source ∧
      ICMP.ident? packet icmpHdr = some request.identifier ∧
      ICMP.sequence? packet icmpHdr = some request.sequence := by
  obtain ⟨source, from', key⟩ := bind_eq_some_iff.mp key
  obtain ⟨destination, -, key⟩ := bind_eq_some_iff.mp key
  obtain ⟨identifier, ident, key⟩ := bind_eq_some_iff.mp key
  obtain ⟨sequence, number, key⟩ := bind_eq_some_iff.mp key
  cases key
  exact ⟨from', ident, number⟩

variable {platform : Platform} {requests requests' : Requests family}

theorem loopPacket?_dropped
    (taken : platform.loopPacket? requests packet = some (requests', false)) :
    requests' = requests := by
  obtain ⟨result, -, taken⟩ := bind_eq_some_iff.mp taken
  cases result with
  | error error =>
    cases taken
    rfl
  | ok icmpHdr =>
    dsimp only at taken
    split at taken
    · obtain ⟨type, -, taken⟩ := bind_eq_some_iff.mp taken
      split at taken
      · cases taken
        rfl
      · obtain ⟨request, -, taken⟩ := bind_eq_some_iff.mp taken
        split at taken
        · cases taken
        · cases taken
          rfl
    · cases taken

theorem loopPacket?_forwarded (filtered : platform.linuxUnprivileged = false)
    (taken : platform.loopPacket? requests packet = some (requests', true)) :
    ∃ icmpHdr request, icmpMessage? family packet = some (.ok icmpHdr) ∧
      ICMP.type? packet icmpHdr = some (ICMP.echoReply family) ∧
      answeredRequest? family packet icmpHdr = some request ∧
      requests.Has request ∧ requests' = requests.delete request := by
  unfold Platform.loopPacket? Platform.needFilter at taken
  rw [filtered] at taken
  obtain ⟨result, tested, taken⟩ := bind_eq_some_iff.mp taken
  cases result with
  | error error => cases taken
  | ok icmpHdr =>
    obtain ⟨type, read, taken⟩ := bind_eq_some_iff.mp taken
    split at taken
    · cases taken
    · rename_i reply
      obtain ⟨request, key, taken⟩ := bind_eq_some_iff.mp taken
      split at taken
      · rename_i has
        cases taken
        refine ⟨icmpHdr, request, tested, ?_, key, has, rfl⟩
        rw [read, not_not.mp reply]
      · cases taken

/-- The reply to a registered request. -/
theorem loopPacket?_of_isReply (filtered : platform.linuxUnprivileged = false)
    {request : PingRequest family} (tested : icmpMessage? family packet = some (.ok icmpHdr))
    (isReply : IsReply packet icmpHdr request)
    (has : requests.Has request) :
    platform.loopPacket? requests packet = some (requests.delete request, true) := by
  unfold Platform.loopPacket? Platform.needFilter
  simp only [filtered, tested, isReply.type, isReply.request,
    some_bind, Bool.not_false, if_true, ne_eq,
    not_true_eq_false, if_false]
  rw [if_pos has]

end Functions

/-! ## One step -/

section Invariant

variable {platform : Platform} {timeout : Int} {client : Addr family}

/-- A packet whose request is registered. -/
def Registered (client : Addr family) (entry : PingRequest family × Bytes) : Prop :=
  entry.1.source = client ∧ ∃ icmpHdr, icmpMessage? family entry.2 = some (.ok icmpHdr) ∧
      requestOf? family entry.2 icmpHdr = some entry.1

/-- A message for the wire. -/
structure OnWire (client : Addr family) (entry : PingRequest family × Bytes) :
    Prop where
  source : entry.1.source = client
  ident : readU16 entry.2 4 = ~~~entry.1.identifier
  sequence : readU16 entry.2 6 = entry.1.sequence

/-- What is known of the message that the loop has. -/
def LoopSound (client : Addr family)
    (sent : List (PingRequest family × Bytes)) : LoopRead family → Prop
  | .idle => True
  | .received message sent' => sent' ⊆ sent ∧ message.WellFormed
  | .summed datagram sent' body =>
    sent' ⊆ sent ∧ ∀ source, ∃ packet icmpHdr, datagram.readHeader? source body = some packet ∧
      ReadBack (.datagram datagram) packet icmpHdr ∧
      (sent' ≠ [] → source = some client → ForClient client packet icmpHdr)
  | .parsed message sent' packet =>
    sent' ⊆ sent ∧ ∃ icmpHdr, ReadBack message packet icmpHdr ∧
      (sent' ≠ [] → ForClient client packet icmpHdr)
  | .ended => True

theorem LoopSound.mono {sent sent' : List (PingRequest family × Bytes)} {loop : LoopRead family}
    (sound : LoopSound client sent loop)
    (more : sent ⊆ sent') :
    LoopSound client sent' loop := by
  cases loop with
  | idle => trivial
  | received message before =>
    exact ⟨fun _ member => more (sound.1 member), sound.2⟩
  | summed datagram before body =>
    exact ⟨fun _ member => more (sound.1 member), sound.2⟩
  | parsed message before packet =>
    exact ⟨fun _ member => more (sound.1 member), sound.2⟩
  | ended => trivial

/-- The invariant of a destination that filters. -/
structure Sound (client : Addr family) (s : Destination family) : Prop where
  solicited : ∀ request, s.requests.Has request → Solicited request s.log
  replies : RepliesSolicited s.log
  counted : ∀ request, answered request s.log +
    (if s.requests.Has request then 1 else 0) ≤ asked request s.log
  registered : ∀ entry ∈ s.registered, Registered client entry
  stored : ∀ entry ∈ s.stored, OnWire client entry
  sent : ∀ entry ∈ s.sent, OnWire client entry
  source : s.stored ≠ [] ∨ s.sent ≠ [] → s.source = some client
  loop : LoopSound client s.sent s.loop

/-- What goes to the wire for a registered packet. -/
theorem Registered.onWire (filtered : platform.linuxUnprivileged = false)
    {request : PingRequest family} {packet wire : Bytes} {source : Addr family}
    (registered : Registered client (request, packet))
    (written : platform.writeIP? family packet = some (source, wire)) :
    source = client ∧ OnWire client (request, wire) := by
  obtain ⟨own, icmpHdr, tested, key⟩ := registered
  obtain ⟨valid, found, long⟩ := icmpMessage?_eq_ok tested
  obtain ⟨from', ident, number⟩ := requestOf?_eq_some key
  obtain ⟨source', wire', written', from'', identWire, sequenceWire⟩ :=
    writeIP?_spec filtered valid found long
  cases written.symm.trans written'
  cases from'.symm.trans from''
  unfold ICMP.ident? at ident
  unfold ICMP.sequence? at number
  rw [Slice.readU16?_eq_some (by omega)] at ident number
  refine ⟨own, own, ?_, ?_⟩
  · rw [identWire, some.inj ident]
  · rw [sequenceWire, some.inj number]

section

variable {s : Destination family}
variable (sound : Sound client s) (filtered : platform.linuxUnprivileged = false)
include sound filtered

variable {request : PingRequest family} {packet wire : Bytes}
variable {entry : PingRequest family × Bytes} {s' : Destination family}
variable {sent : List (PingRequest family × Bytes)} {message : Message family}

theorem Sound.register {icmpHdr : Slice}
    (tested : icmpMessage? family packet = some (.ok icmpHdr))
    (key : requestOf? family packet icmpHdr = some request)
    (own : request.source = client) (now : Int) (visited : Requests family) :
    Sound client { s with
      requests := platform.register timeout now visited s.requests request
      registered := (request, packet) :: s.registered
      log := .wrote request :: s.log } := by
  have registers : platform.register timeout now visited s.requests request =
      registerRequest timeout now visited s.requests request := by
    unfold Platform.register Platform.needFilter
    rw [filtered]
    rfl
  rw [registers]
  refine { sound with solicited := ?_, replies := sound.replies.wrote, counted := ?_
                      registered := forall_mem_cons.mpr
                        ⟨⟨own, icmpHdr, tested, key⟩, sound.registered⟩ }
  · intro other has
    rcases has_registerRequest has with rfl | has
    · exact solicited_wrote
    · exact (sound.solicited other has).cons (by rintro ⟨⟩)
  · intro other
    have before := sound.counted other
    show answered other (.wrote request :: s.log) + _ ≤ asked other (.wrote request :: s.log)
    have silent : answered other (.wrote request :: s.log) = answered other s.log :=
      countP_cons_of_neg (by simp [Echo.answers?])
    by_cases same : other = request
    · have grows : asked other (.wrote request :: s.log) = asked other s.log + 1 :=
        countP_cons_of_pos (by simp [Echo.asks?, same])
      split <;> omega
    · have keeps : asked other (.wrote request :: s.log) = asked other s.log :=
        countP_cons_of_neg (by simp [Echo.asks?, Ne.symm same])
      rw [keeps]
      split
      · rename_i has
        rw [if_pos ((has_registerRequest has).resolve_left same)] at before
        exact before
      · split at before <;> omega

theorem Sound.store {source : Addr family}
    (pending : (request, packet) ∈ s.registered)
    (written : platform.writeIP? family packet = some (source, wire)) :
    Sound client { s with
      source := some source
      registered := s.registered.erase (request, packet)
      stored := (request, wire) :: s.stored } := by
  obtain ⟨rfl, onWire⟩ := (sound.registered _ pending).onWire filtered written
  exact { sound with
    registered := fun entry member => sound.registered entry (mem_of_mem_erase member)
    stored := forall_mem_cons.mpr ⟨onWire, sound.stored⟩
    source := fun _ => rfl }

omit filtered in
theorem Sound.send (pending : entry ∈ s.stored) :
    Sound client
      { s with
        stored := s.stored.erase entry
        sent := entry :: s.sent } :=
  { sound with
    stored := fun other member => sound.stored other (mem_of_mem_erase member)
    sent := forall_mem_cons.mpr ⟨sound.stored entry pending, sound.sent⟩
    source := fun _ => sound.source (.inl (ne_nil_of_mem pending))
    loop := sound.loop.mono fun _ member => mem_cons_of_mem _ member }

omit filtered in
theorem Sound.fail (pending : entry ∈ s.stored) :
    Sound client { s with stored := s.stored.erase entry } :=
  { sound with
    stored := fun other member => sound.stored other (mem_of_mem_erase member)
    source := fun _ => sound.source (.inl (ne_nil_of_mem pending)) }

omit filtered in
/-- Only the place of the loop changes. -/
theorem Sound.moved {loop : LoopRead family} (place : LoopSound client s.sent loop) :
    Sound client { s with loop := loop } :=
  { sound with loop := place }

omit filtered in
/-- The source is that of the client when an answer may be there. -/
theorem Sound.source_of_sent (before : sent ⊆ s.sent)
    (some_sent : sent ≠ []) :
    s.source = some client := by
  apply sound.source
  obtain ⟨entry, member⟩ := exists_mem_of_ne_nil sent some_sent
  exact .inr (ne_nil_of_mem (before member))

omit sound filtered in
theorem read?_received {s : Destination family} (place : s.loop = .received message sent) :
    s.read? platform = s.readReceived? platform sent message := by
  unfold Destination.read?
  rw [place]

omit sound in
/-- A message that is read as a whole, or cut off to what is read. -/
theorem readReceived?_fits
    (wellFormed : message.WellFormed)
    (fits : message.Fits platform)
    (s : Destination family) (sent : List (PingRequest family × Bytes)) :
    ∃ loop, s.readReceived? platform sent message = some { s with loop := loop } ∧
      loop.Handles message sent ∧ loop.remaining < 3 ∧
      ∀ client sent', sent ⊆ sent' → (sent ≠ [] → s.source = some client) →
        LoopSound client sent' loop := by
  cases message with
  | packet octets =>
    obtain ⟨packet, icmpHdr, reads, readBack, forClient⟩ :=
      readPacket?_spec filtered wellFormed fits s.source
    refine ⟨.parsed (.packet octets) sent packet, ?_, ⟨rfl, rfl⟩, (by show 1 < 3; decide), ?_⟩
    · unfold Destination.readReceived? Platform.receive
      dsimp only
      rw [if_pos (.inl (by rw [length_rawPacket]; exact fits))]
      dsimp only
      rw [reads]
      rfl
    · intro client sent' before known
      exact ⟨before, icmpHdr, readBack, fun asked =>
        forClient client (known asked)⟩
  | datagram datagram =>
    obtain ⟨body, reads, header⟩ := readHeader?_spec filtered wellFormed s.source
    refine ⟨.summed datagram sent body, ?_, ⟨rfl, rfl⟩, (by show 2 < 3; decide), ?_⟩
    · unfold Destination.readReceived? Platform.receive
      dsimp only
      rw [if_pos (show _ ∨ _ from fits)]
      dsimp only
      rw [reads]
      rfl
    · intro client sent' before known
      refine ⟨before, fun source => ?_⟩
      obtain ⟨packet, icmpHdr, made, readBack, forClient⟩ := header source
      exact ⟨packet, icmpHdr, made, readBack, fun asked =>
        forClient client (known asked)⟩

omit sound filtered in
/-- A message that is too long ends the loop. -/
theorem readReceived?_large (wellFormed : message.WellFormed)
    (large : ¬message.Fits platform) (s : Destination family)
    (sent : List (PingRequest family × Bytes)) :
    s.readReceived? platform sent message = some { s with loop := .ended } := by
  cases message with
  | packet octets =>
    have long : maxICMPPacketSize < octets.length := Nat.lt_of_not_le large
    have cut := @readPacket?_cut platform family octets wellFormed long s.source
    unfold Destination.readReceived? Platform.receive
    dsimp only
    split
    · rfl
    · rename_i read received
      split at received
      · cases received
        rw [cut]
        rfl
      · cases received
  | datagram datagram =>
    unfold Destination.readReceived? Platform.receive
    dsimp only
    rw [if_neg (show ¬(_ ∨ _) from large)]
    rfl

/-- `loopRead` after `ReadIP`. -/
theorem Sound.parsed
    (place : s.loop = .parsed message sent packet)
    (reads : s.read? platform = some s') :
    Sound client s' := by
  unfold Destination.read? at reads
  rw [place] at reads
  obtain ⟨⟨requests, forwarded⟩, taken, result⟩ := bind_eq_some_iff.mp reads
  cases result
  cases forwarded with
  | false =>
    cases loopPacket?_dropped taken
    exact sound.moved trivial
  | true =>
    obtain ⟨icmpHdr, request, tested, type, key, has, rfl⟩ := loopPacket?_forwarded filtered taken
    obtain ⟨-, icmpHdr', readBack, -⟩ :=
      show LoopSound client s.sent (.parsed message sent packet) from
        place ▸ sound.loop
    have found := (icmpMessage?_eq_ok tested).2.1
    have isReply : IsReply packet icmpHdr request :=
      ⟨readBack.valid, readBack.protocol, found, type, key⟩
    have answers := isReply.answers?
    refine { sound with
      solicited := ?_
      replies := sound.replies.forwarded isReply (sound.solicited request has)
      counted := ?_
      loop := trivial }
    · intro other registered
      obtain ⟨registered, different⟩ := has_delete.mp registered
      refine (sound.solicited other registered).cons ?_
      rw [answers]
      exact fun same => different (some.inj same).symm
    · intro other
      have before := sound.counted other
      show answered other (.forwarded packet :: s.log) +
        (if (s.requests.delete request).Has other then 1 else 0) ≤
          asked other (.forwarded packet :: s.log)
      have silent : asked other (.forwarded packet :: s.log) = asked other s.log :=
        countP_cons_of_neg (by simp [Echo.asks?])
      by_cases same : other = request
      · subst same
        have grows : answered other (.forwarded packet :: s.log) = answered other s.log + 1 :=
          countP_cons_of_pos (by rw [answers]; exact decide_eq_true rfl)
        rw [grows, if_neg fun has => (has_delete.mp has).2 rfl]
        rw [if_pos has] at before
        exact before
      · have keeps : answered other (.forwarded packet :: s.log) = answered other s.log := by
          apply countP_cons_of_neg
          rw [answers]
          simpa using Ne.symm same
        have kept : (s.requests.delete request).Has other ↔ s.requests.Has other :=
          has_delete.trans (and_iff_left same)
        rw [keeps, if_congr kept rfl rfl]
        exact before

theorem Sound.read
    (reads : s.read? platform = some s') :
    Sound client s' := by
  cases place : s.loop with
  | idle =>
    unfold Destination.read? at reads
    rw [place] at reads
    cases reads
    exact sound
  | received message sent =>
    obtain ⟨before, wellFormed⟩ := show LoopSound client s.sent (.received message sent) from
        place ▸ sound.loop
    rw [read?_received place] at reads
    by_cases fits : message.Fits platform
    · obtain ⟨loop, reads', -, -, loopSound⟩ := readReceived?_fits filtered wellFormed fits s sent
      cases reads.symm.trans reads'
      exact sound.moved (loopSound client s.sent before (sound.source_of_sent before))
    · rw [readReceived?_large wellFormed fits] at reads
      cases reads
      exact sound.moved trivial
  | summed datagram sent body =>
    obtain ⟨before, header⟩ := show LoopSound client s.sent (.summed datagram sent body) from
        place ▸ sound.loop
    obtain ⟨packet, icmpHdr, made, readBack, forClient⟩ := header s.source
    unfold Destination.read? at reads
    rw [place] at reads
    dsimp only at reads
    rw [made] at reads
    cases reads
    exact sound.moved ⟨before, icmpHdr, readBack, fun asked =>
      forClient asked (sound.source_of_sent before asked)⟩
  | parsed message sent packet => exact sound.parsed filtered place reads
  | ended =>
    unfold Destination.read? at reads
    rw [place] at reads
    cases reads
    exact sound

omit sound in
theorem Sound.step {s : Destination family}
    (sound : Sound client s)
    (step : s.Step platform timeout client s') :
    Sound client s' := by
  cases step with
  | refuse packet error tested => exact sound
  | register packet icmpHdr request now visited tested key own order =>
    exact sound.register filtered tested key own now visited
  | store request packet wire source pending written =>
    exact sound.store filtered pending written
  | send request wire pending => exact sound.send pending
  | fail request wire pending => exact sound.fail pending
  | receive message waiting wellFormed kind =>
    exact sound.moved ⟨fun _ member => member, wellFormed⟩
  | read s' reads => exact sound.read filtered reads
  | close waiting => exact sound.moved trivial

omit sound in
theorem sound_of_reachable {s : Destination family}
    (reachable : (destination platform timeout client).Reachable s) :
    Sound client s := by
  refine reachable.invariant ?_ fun _ _ sound step => sound.step filtered step
  rintro s rfl
  constructor
  case solicited => exact nofun
  case replies =>
    intro later packet earlier split
    cases later <;> cases split
  case counted => exact fun request => Nat.le_refl 0
  case registered => exact nofun
  case stored => exact nofun
  case sent => exact nofun
  case source => rintro (some | some) <;> exact absurd rfl some
  case loop => trivial

omit sound filtered in
/-- The packet of a reply on the wire. -/
theorem ReadBack.isReply {icmpHdr : Slice} (readBack : ReadBack message packet icmpHdr)
    (forClient : ForClient client packet icmpHdr)
    (onWire : OnWire client (request, wire))
    (answers : Answers message request wire) :
    IsReply packet icmpHdr request := by
  have long := readBack.long
  refine { readBack with type := ?_, request := ?_ }
  · unfold ICMP.type?
    rw [Slice.byteAt?_eq_some (by omega), Nat.add_zero, readBack.type, answers.type]
  · have ident : readU16 packet (icmpHdr.start + 4) = request.identifier := by
      rw [readBack.ident, answers.ident, onWire.ident, UInt16.not_not]
    have sequence : readU16 packet (icmpHdr.start + 6) = request.sequence := by
      rw [readBack.sequence, answers.sequence, onWire.sequence]
    unfold answeredRequest? ICMP.ident? ICMP.sequence?
    rw [forClient.destinationAddr, readBack.sender, answers.sender,
      Slice.readU16?_eq_some (by omega), Slice.readU16?_eq_some (by omega), ident, sequence]
    obtain rfl : request.source = client := onWire.source
    rfl

/-- A reply that fits goes on to its client. -/
theorem Sound.progress
    (handles : s.loop.Handles message sent)
    (fits : message.Fits platform)
    (asked : (request, wire) ∈ sent)
    (answers : Answers message request wire)
    (has : s.requests.Has request) :
    ∃ s', s.read? platform = some s' ∧ ((s'.loop.Handles message sent ∧
          s'.loop.remaining < s.loop.remaining ∧ s'.requests = s.requests) ∨
        ∃ packet icmpHdr, s'.log = .forwarded packet :: s.log ∧
          IsReply packet icmpHdr request ∧ ForClient client packet icmpHdr) := by
  have some_sent : sent ≠ [] := ne_nil_of_mem asked
  have loopSound := sound.loop
  unfold Destination.read?
  cases place : s.loop with
  | idle =>
    rw [place] at handles
    cases handles
  | received message' sent' =>
    rw [place] at handles loopSound
    obtain ⟨rfl, rfl⟩ := handles
    obtain ⟨loop, reads, handles, fewer, -⟩ := readReceived?_fits filtered loopSound.2 fits s sent'
    exact ⟨_, reads, .inl ⟨handles, fewer, rfl⟩⟩
  | summed datagram sent' body =>
    rw [place] at handles loopSound
    obtain ⟨rfl, rfl⟩ := handles
    obtain ⟨packet, icmpHdr, made, -⟩ := loopSound.2 s.source
    refine ⟨{ s with loop := .parsed (.datagram datagram) sent' packet }, ?_, .inl ⟨?_, ?_, ?_⟩⟩
    · exact bind_eq_some_iff.mpr ⟨packet, made, rfl⟩
    · exact ⟨rfl, rfl⟩
    · show 1 < 2
      decide
    · rfl
  | parsed message' sent' packet =>
    rw [place] at handles loopSound
    obtain ⟨rfl, rfl⟩ := handles
    obtain ⟨before, icmpHdr, readBack, forClient⟩ := loopSound
    have isReply := readBack.isReply (forClient some_sent) (sound.sent _ (before asked)) answers
    have taken := @loopPacket?_of_isReply _ _ _ platform s.requests filtered
      request (icmpMessage?_of_readBack readBack) isReply has
    refine ⟨_, bind_eq_some_iff.mpr ⟨_, taken, rfl⟩,
      .inr ⟨packet, icmpHdr, rfl, isReply, forClient some_sent⟩⟩
  | ended =>
    rw [place] at handles
    cases handles

end

end Invariant

/--
Every packet that was forwarded is a reply to a request that had been written
and not been answered since, no request is answered more often than it was
written, and while the loop has the reply to a request that was sent and is
still registered, it goes on to forward it under the identifier of the client,
if the reply fits.
-/
theorem destination_forwards_solicited {platform : Platform}
    (filtered : platform.needFilter = true)
    {timeout : Int} {client : Addr family} {s : Destination family}
    (reachable : (destination platform timeout client).Reachable s) :
    RepliesSolicited s.log ∧
      (∀ request, answered request s.log ≤ asked request s.log) ∧
      ∀ message sent, s.loop.Handles message sent → message.Fits platform →
        ∀ request wire, (request, wire) ∈ sent →
          Answers message request wire → s.requests.Has request →
            ∃ s', s.read? platform = some s' ∧ ((s'.loop.Handles message sent ∧
                  s'.loop.remaining < s.loop.remaining ∧ s'.requests = s.requests) ∨
                ∃ packet icmpHdr, s'.log = .forwarded packet :: s.log ∧
                  IsReply packet icmpHdr request ∧ ForClient client packet icmpHdr) := by
  have raw : platform.linuxUnprivileged = false := by
    simpa [Platform.needFilter] using filtered
  have sound := sound_of_reachable raw reachable
  refine ⟨sound.replies, ?_, ?_⟩
  · intro request
    exact Nat.le_trans (Nat.le_add_right _ _) (sound.counted request)
  · intro message sent handles fits request wire asked answers has
    exact sound.progress raw handles fits asked answers has

/-! ## A reply that does not fit -/

section Sample

/-- `privileged` on Linux. -/
def linuxRaw : Platform := ⟨false, false, true⟩

def sampleClient : Addr .v4 := .from4 10 0 0 2

def sampleRequest : PingRequest .v4 :=
  ⟨sampleClient, .from4 1 1 1 1, 0x1234, 7⟩

/-- An echo request of the client. -/
def samplePacket : Bytes :=
  [0x45, 0, 0, 28, 0, 0, 0, 0, 64, 1, 0, 0, 10, 0, 0, 2, 1, 1, 1, 1, 8, 0, 0, 0, 0x12, 0x34, 0, 7]

def sampleWire : Bytes :=
  [8, 0, 10, 45, 0xed, 0xcb, 0, 7]

/-- The reply to it, with `length` octets of data. -/
def sampleReply (totalLength xsum : UInt8 × UInt8) (length : Nat) : Message .v4 :=
  .packet ([0x45, 0, totalLength.1, totalLength.2, 0, 0, 0, 0, 64, 1, xsum.1,
    xsum.2, 1, 1, 1, 1, 192, 168, 0, 9, 0, 0, 18, 45, 0xed, 0xcb, 0, 7] ++ List.replicate length 0)

def smallReply : Message .v4 := sampleReply (0, 28) (184, 46) 0

def largeReply : Message .v4 := sampleReply (8, 1) (176, 73) 2021

/-- The loop has a message that came after the request. -/
def sampleState (message : Message .v4) : Destination .v4 where
  requests := [(sampleRequest, 0)]
  source := some sampleClient
  registered := []
  stored := []
  sent := [(sampleRequest, sampleWire)]
  loop := .received message [(sampleRequest, sampleWire)]
  log := [.wrote sampleRequest]

theorem reachable_sampleState {message : Message .v4} (wellFormed : message.WellFormed)
    (packet : message.isDatagram = false) :
    (destination linuxRaw 30 sampleClient).Reachable (sampleState message) := by
  have written : linuxRaw.writeIP? .v4 samplePacket = some (sampleClient, sampleWire) := by decide
  refine ⟨⟨[], none, [], [], [], .idle, []⟩, rfl, ?_⟩
  refine (((Relation.ReflTransGen.refl.tail
    (.register _ samplePacket ⟨20, 8⟩ sampleRequest 0 [] rfl rfl rfl (List.Perm.refl _))).tail
    (.store _ sampleRequest samplePacket sampleWire sampleClient (mem_cons_self) written)).tail
    (.send _ sampleRequest sampleWire (mem_cons_self))).tail ?_
  exact .receive { sampleState message with loop := .idle } message rfl wellFormed packet

theorem smallReply_wellFormed : smallReply.WellFormed :=
  ⟨by decide, by decide, ⟨20, 8⟩, by decide, by decide, by decide⟩

theorem largeReply_wellFormed : largeReply.WellFormed :=
  ⟨by decide +kernel, by decide +kernel, ⟨20, 2029⟩, by decide +kernel,
    by decide +kernel, by decide⟩

theorem smallReply_answers : Answers smallReply sampleRequest sampleWire :=
  ⟨by decide, by decide, by decide, by decide⟩

theorem largeReply_answers : Answers largeReply sampleRequest sampleWire :=
  ⟨by decide +kernel, by decide +kernel, by decide +kernel, by decide +kernel⟩

theorem largeReply_large : ¬largeReply.Fits linuxRaw := by
  show ¬_ ≤ maxICMPPacketSize
  decide +kernel

/-- A reply with 2021 octets of data ends the loop, although its request was
sent and is registered. -/
theorem large_reply_dropped :
    linuxRaw.needFilter = true ∧
      (destination linuxRaw 30 sampleClient).Reachable (sampleState largeReply) ∧
      (sampleState largeReply).loop.Handles largeReply [(sampleRequest, sampleWire)] ∧
      Answers largeReply sampleRequest sampleWire ∧
      (sampleState largeReply).requests.Has sampleRequest ∧
      (sampleState largeReply).read? linuxRaw =
        some { sampleState largeReply with loop := .ended } := by
  refine ⟨rfl, reachable_sampleState largeReply_wellFormed rfl, ⟨rfl, rfl⟩,
    largeReply_answers, by decide, ?_⟩
  rw [@read?_received _ _ _ largeReply (sampleState largeReply) rfl]
  exact readReceived?_large largeReply_wellFormed largeReply_large _ _

/-- The reply without data goes on. -/
theorem destination_forwards_solicited_small :
    linuxRaw.needFilter = true ∧
      (destination linuxRaw 30 sampleClient).Reachable (sampleState smallReply) ∧
      ∃ s', (sampleState smallReply).read? linuxRaw = some s' ∧
        ((s'.loop.Handles smallReply [(sampleRequest, sampleWire)] ∧
            s'.loop.remaining < (sampleState smallReply).loop.remaining ∧
            s'.requests = (sampleState smallReply).requests) ∨ ∃ packet icmpHdr,
            s'.log = .forwarded packet :: (sampleState smallReply).log ∧
            IsReply packet icmpHdr sampleRequest ∧ ForClient sampleClient packet icmpHdr) := by
  have reachable := reachable_sampleState smallReply_wellFormed rfl
  have fits : smallReply.Fits linuxRaw := by
    show _ ≤ maxICMPPacketSize
    decide
  refine ⟨rfl, reachable, ?_⟩
  exact (destination_forwards_solicited rfl reachable).2.2 smallReply _
    ⟨rfl, rfl⟩ fits sampleRequest sampleWire mem_cons_self smallReply_answers (by decide)

end Sample

end SingTun.Ping
