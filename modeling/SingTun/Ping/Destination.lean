import SingTun.Ping.Conn

/-!
# A ping destination

`WritePacket` registers the request of a packet before it writes the message
to the socket, and `loopRead` forwards what it reads from the socket.  Both
run at the same time.  A destination that filters forwards the replies to
registered requests only.
-/

namespace SingTun.Ping

open Foundation Header

/-! ## Requests -/

/-- `pingRequest`. -/
structure PingRequest (family : Family) where
  source : Addr family
  destination : Addr family
  identifier : UInt16
  sequence : UInt16
deriving DecidableEq

/-- `requests`, with the time of each. -/
abbrev Requests (family : Family) :=
  List (PingRequest family × Int)

section Requests

variable {family : Family}

def requestsLimit : Nat := 1024

section

variable (requests : Requests family) (request : PingRequest family)

/-- `delete(d.requests, request)`. -/
def Requests.delete : Requests family :=
  requests.filter (·.1 ≠ request)

def Requests.Has : Prop :=
  request ∈ requests.map Prod.fst

end

instance (requests : Requests family) (request : PingRequest family) :
    Decidable (requests.Has request) :=
  inferInstanceAs (Decidable (request ∈ requests.map Prod.fst))

/-- The variables of the loop of `registerRequest`; without an older request
`oldestRequest` is not a key. -/
structure Expiry (family : Family) where
  requests : Requests family
  oldestRequest : Option (PingRequest family)
  oldestCreateAt : Int

def Expiry.visit (timeout now : Int) (expiry : Expiry family)
    (entry : PingRequest family × Int) : Expiry family :=
  if now - entry.2 > timeout then
    { expiry with requests := expiry.requests.delete entry.1 }
  else if entry.2 < expiry.oldestCreateAt then
    { expiry with oldestRequest := some entry.1, oldestCreateAt := entry.2 }
  else expiry

/-- `registerRequest`, with the entries in the order that they are visited
in. -/
def registerRequest (timeout now : Int) (visited : Requests family)
    (requests : Requests family) (request : PingRequest family) : Requests family :=
  let expiry := visited.foldl (Expiry.visit timeout now) ⟨requests, none, now⟩
  let requests :=
    if expiry.requests.length > requestsLimit then
      expiry.oldestRequest.elim expiry.requests expiry.requests.delete
    else expiry.requests
  (request, now) :: requests.delete request

end Requests

/-! ## Packets -/

section Packets

/-- Why a packet is refused by `WritePacket` and dropped by `loopRead`. -/
inductive HeaderError
  | ipHeader
  | icmpHeader
deriving DecidableEq

/-- The text of the error. -/
def HeaderError.text : HeaderError → Family → String
  | .ipHeader, .v4 => "invalid IPv4 header"
  | .icmpHeader, .v4 => "invalid ICMPv4 header"
  | .ipHeader, .v6 => "invalid IPv6 header"
  | .icmpHeader, .v6 => "invalid ICMPv6 header"

/-- `ICMPv4MinimumSize` and `ICMPv6MinimumSize`. -/
def icmpMinimumSize : Nat := 8

variable (family : Family) (packet : Bytes)

/-- The message of a packet, after the tests of its length. -/
def icmpMessage? : Option (Except HeaderError Slice) :=
  if ¬isValid family packet packet.length then some (.error .ipHeader)
  else do
    let payloadLength ← payloadLength? family packet
    if payloadLength.toNat < icmpMinimumSize then some (.error .icmpHeader)
    else
      let icmpHdr ← payload? family packet
      some (.ok icmpHdr)

/-- The request that `WritePacket` registers. -/
def requestOf? (icmpHdr : Slice) : Option (PingRequest family) := do
  let source ← sourceAddr? family packet
  let destination ← destinationAddr? family packet
  let identifier ← ICMP.ident? packet icmpHdr
  let sequence ← ICMP.sequence? packet icmpHdr
  some ⟨source, destination, identifier, sequence⟩

/-- The request that `loopRead` looks for. -/
def answeredRequest? (icmpHdr : Slice) : Option (PingRequest family) := do
  let source ← destinationAddr? family packet
  let destination ← sourceAddr? family packet
  let identifier ← ICMP.ident? packet icmpHdr
  let sequence ← ICMP.sequence? packet icmpHdr
  some ⟨source, destination, identifier, sequence⟩

end Packets

/-! ## The destination -/

/-- Where `loopRead` is.  A message is kept with what had been sent when it
was received. -/
inductive LoopRead (family : Family)
  | idle
  /-- The read of the socket has returned. -/
  | received (message : Message family)
      (sent : List (PingRequest family × Bytes))
  /-- `ReadIP` has the message of a datagram, but not its header. -/
  | summed (datagram : Datagram family)
      (sent : List (PingRequest family × Bytes)) (body : Bytes)
  /-- `ReadIP` has returned. -/
  | parsed (message : Message family)
      (sent : List (PingRequest family × Bytes)) (packet : Bytes)
  | ended

/-- What happened to the packets of the client. -/
inductive Echo (family : Family)
  /-- `WritePacket` was called for a request. -/
  | wrote (request : PingRequest family)
  /-- A packet was passed to `routeContext.WritePacket`. -/
  | forwarded (packet : Bytes)

/-- `Destination`, with the calls of `WritePacket` that have not returned. -/
structure Destination (family : Family) where
  requests : Requests family
  /-- `conn.source`. -/
  source : Option (Addr family)
  /-- The packets whose request is registered. -/
  registered : List (PingRequest family × Bytes)
  /-- The messages whose source is stored. -/
  stored : List (PingRequest family × Bytes)
  /-- The messages that the socket has taken. -/
  sent : List (PingRequest family × Bytes)
  loop : LoopRead family
  /-- The last event is the first one. -/
  log : List (Echo family)

namespace Platform

variable (platform : Platform) {family : Family}

def needFilter : Bool :=
  !platform.linuxUnprivileged

/-- `ReadIP` uses `readMsg`. -/
def usesReadMsg (family : Family) : Bool :=
  family == .v6 || platform.linuxUnprivileged

/-- The requests after the test of a packet in `WritePacket`. -/
def register (timeout now : Int) (visited requests : Requests family)
    (request : PingRequest family) : Requests family :=
  if platform.needFilter then
    registerRequest timeout now visited requests request
  else requests

/-- `loopRead` after `ReadIP`: the requests, and whether the packet is
forwarded. -/
def loopPacket? (requests : Requests family) (packet : Bytes) :
    Option (Requests family × Bool) := do
  match ← icmpMessage? family packet with
  | .error _ => some (requests, false)
  | .ok icmpHdr =>
    if platform.needFilter then
      let type ← ICMP.type? packet icmpHdr
      if type ≠ ICMP.echoReply family then some (requests, false)
      else
        let request ← answeredRequest? family packet icmpHdr
        if requests.Has request then some (requests.delete request, true)
        else some (requests, false)
    else some (requests, true)

end Platform

def Message.isDatagram {family : Family} : Message family → Bool
  | .packet _ => false
  | .datagram _ => true

namespace Destination

variable {family : Family}

/-- A packet or an error of `ReadIP`. -/
def readResult (s : Destination family) (message : Message family)
    (sent : List (PingRequest family × Bytes)) : Except ReadError Bytes → Destination family
  | .error _ => { s with loop := .ended }
  | .ok packet => { s with loop := .parsed message sent packet }

/-- The octets that the read of the socket has returned. -/
def readReceived? (platform : Platform) (s : Destination family)
    (sent : List (PingRequest family × Bytes)) : Message family → Option (Destination family)
  | .packet octets =>
    match platform.receive maxICMPPacketSize
      (platform.rawPacket family octets) with
    | .error error => some (s.readResult (.packet octets) sent (.error error))
    | .ok read => do
        let result ← platform.readPacket? s.source read
        some (s.readResult (.packet octets) sent result)
  | .datagram datagram =>
    match platform.receive (maxICMPPacketSize - family.minimumSize)
      datagram.octets with
    | .error error =>
      some (s.readResult (.datagram datagram) sent (.error error))
    | .ok read => do
        let body ← platform.readMessage? s.source datagram.addr read
        some { s with loop := .summed datagram sent body }

/-- `loopRead`, up to the next place where `WritePacket` has to be seen. -/
def read? (platform : Platform) (s : Destination family) : Option (Destination family) :=
  match s.loop with
  | .idle => some s
  | .received message sent => s.readReceived? platform sent message
  | .summed datagram sent body => do
      let packet ← datagram.readHeader? s.source body
      some { s with loop := .parsed (.datagram datagram) sent packet }
  | .parsed _ _ packet => do
      let (requests, forwarded) ← platform.loopPacket? s.requests packet
      some { s with
        requests := requests
        loop := .idle
        log := if forwarded then .forwarded packet :: s.log else s.log }
  | .ended => some s

/-- What the callers of `WritePacket`, the socket and `loopRead` do. -/
inductive Step (platform : Platform) (timeout : Int) (client : Addr family) :
    Destination family → Destination family → Prop
  /-- `WritePacket` returns an error. -/
  | refuse (s : Destination family) (packet : Bytes) (error : HeaderError)
      (tested : icmpMessage? family packet = some (.error error)) :
      Step platform timeout client s s
  /-- `WritePacket`, up to `WriteIP`. -/
  | register (s : Destination family) (packet : Bytes) (icmpHdr : Slice)
      (request : PingRequest family) (now : Int) (visited : Requests family)
      (tested : icmpMessage? family packet = some (.ok icmpHdr))
      (key : requestOf? family packet icmpHdr = some request)
      (own : request.source = client) (order : visited.Perm s.requests) :
      Step platform timeout client s { s with
        requests := platform.register timeout now visited s.requests request
        registered := (request, packet) :: s.registered
        log := .wrote request :: s.log }
  /-- `WriteIP`, up to the write to the socket. -/
  | store (s : Destination family) (request : PingRequest family)
      (packet wire : Bytes) (source : Addr family)
      (pending : (request, packet) ∈ s.registered)
      (written : platform.writeIP? family packet = some (source, wire)) :
      Step platform timeout client s { s with
        source := some source
        registered := s.registered.erase (request, packet)
        stored := (request, wire) :: s.stored }
  | send (s : Destination family) (request : PingRequest family) (wire : Bytes)
      (pending : (request, wire) ∈ s.stored) :
      Step platform timeout client s { s with
        stored := s.stored.erase (request, wire)
        sent := (request, wire) :: s.sent }
  /-- The write to the socket fails. -/
  | fail (s : Destination family) (request : PingRequest family) (wire : Bytes)
      (pending : (request, wire) ∈ s.stored) :
      Step platform timeout client s { s with
        stored := s.stored.erase (request, wire) }
  /-- The read of the socket returns a message. -/
  | receive (s : Destination family) (message : Message family)
      (waiting : s.loop = .idle) (wellFormed : message.WellFormed)
      (kind : message.isDatagram = platform.usesReadMsg family) :
      Step platform timeout client s { s with loop := .received message s.sent }
  | read (s s' : Destination family) (reads : s.read? platform = some s') :
      Step platform timeout client s s'
  /-- The deadline has passed, or the socket was closed. -/
  | close (s : Destination family) (waiting : s.loop = .idle) :
      Step platform timeout client s { s with loop := .ended }

end Destination

/-- A destination that is used by one client. -/
def destination {family : Family} (platform : Platform) (timeout : Int)
    (client : Addr family) : TransitionSystem (Destination family) where
  initial s := s = ⟨[], none, [], [], [], .idle, []⟩
  step := Destination.Step platform timeout client

/-! ## What the requests are -/

section Requests

variable {family : Family} {requests : Requests family} {request other : PingRequest family}

@[simp]
theorem has_delete :
    (requests.delete request).Has other ↔ requests.Has other ∧ other ≠ request := by
  unfold Requests.Has Requests.delete
  rw [List.mem_map, List.mem_map]
  constructor
  · rintro ⟨entry, member, rfl⟩
    obtain ⟨member, kept⟩ := List.mem_filter.mp member
    exact ⟨⟨entry, member, rfl⟩, of_decide_eq_true kept⟩
  · rintro ⟨⟨entry, member, rfl⟩, different⟩
    exact ⟨entry, List.mem_filter.mpr ⟨member, decide_eq_true different⟩, rfl⟩

theorem Expiry.has_visit {timeout now : Int} {expiry : Expiry family}
    {entry : PingRequest family × Int}
    (has : (expiry.visit timeout now entry).requests.Has request) :
    expiry.requests.Has request := by
  unfold Expiry.visit at has
  split at has
  · exact (has_delete.mp has).1
  · split at has
    · exact has
    · exact has

theorem Expiry.has_visits {timeout now : Int} {expiry : Expiry family} (visited : Requests family)
    (has : (visited.foldl (Expiry.visit timeout now) expiry).requests.Has request) :
    expiry.requests.Has request := by
  induction visited generalizing expiry with
  | nil => exact has
  | cons entry visited ih => exact Expiry.has_visit (ih has)

/-- No request but the new one is added. -/
theorem has_registerRequest {timeout now : Int} {visited : Requests family}
    (has : (registerRequest timeout now visited requests request).Has other) :
    other = request ∨ requests.Has other := by
  unfold registerRequest Requests.Has at has
  rw [List.map_cons, List.mem_cons] at has
  rcases has with same | has
  · exact .inl same
  · apply Or.inr
    have kept := (has_delete.mp has).1
    split at kept
    · cases oldest : (visited.foldl (Expiry.visit timeout now)
        ⟨requests, none, now⟩).oldestRequest with
      | none =>
        rw [oldest] at kept
        exact Expiry.has_visits visited kept
      | some request =>
        rw [oldest] at kept
        exact Expiry.has_visits visited (has_delete.mp kept).1
    · exact Expiry.has_visits visited kept

end Requests

end SingTun.Ping
