import SingTun.Ping.SourceRewriter

/-!
# The destination writers

`DestinationWriter` forwards a packet to another destination, and
`ContextDestinationWriter` gives the replies the source that the client
expects.  Both store an address and compute the checksums for it again, as the
two halves of the source rewriter do.
-/

namespace SingTun.Ping

open Foundation Header

/-- An address of the packet is replaced; the message is sealed for ICMPv6
only. -/
def writeAddress? (position : Family → Nat) (destination : Option AnyAddr)
    (packet : Bytes) : Option Bytes :=
  match network? packet with
  | none => some packet
  | some family => do
      let packet ← copyAddr? family packet (position family) destination
      let packet ← sealHeader? family packet
      let protocol ← transportProtocol? family packet
      if protocol = icmpv6ProtocolNumber then
        let icmpHdr ← payload? family packet
        sealMessage? family packet icmpHdr
      else some packet

structure DestinationWriter where
  destination : Option AnyAddr

/-- `WritePacket`: the packet that the route destination is given. -/
def DestinationWriter.writePacket? (w : DestinationWriter) : Bytes → Option Bytes :=
  writeAddress? Family.dstAddr w.destination

structure ContextDestinationWriter where
  destination : Option AnyAddr

/-- `WritePacket`: the packet that the context is given. -/
def ContextDestinationWriter.writePacket? (w : ContextDestinationWriter) : Bytes → Option Bytes :=
  writeAddress? Family.srcAddr w.destination

section RoundTrip

variable {family : Family} {packet packet' : Bytes} {icmpHdr : Slice}
variable {source destination : Addr family} {ident : UInt16} {position : Nat}

/-- The checksum of an ICMPv4 message is not computed again, and so it has to
be right before. -/
def SoundMessage (family : Family) (packet : Bytes) : Prop :=
  ∀ icmpHdr, payload? family packet = some icmpHdr → family = .v4 →
    Balanced 0 (icmpHdr.octets packet)

/-- The packet goes on between two addresses, with valid checksums; its other
octets are those of the packet that was given. -/
def Forwarded (position : Nat) (packet packet' : Bytes) (source destination : Addr family)
    (ident : UInt16) : Prop :=
  IsEcho packet' source destination ident ∧ ∃ icmpHdr, payload? family packet' = some icmpHdr ∧
      ChangedAt (RewriteOctet family position icmpHdr) packet packet' ∧
      HeaderChecksumValid family packet' icmpHdr ∧
      MessageChecksumValid family source.octets destination.octets (icmpHdr.octets packet')

theorem Readdressed.forwarded {from' to' : Addr family}
    (readdressed : Readdressed family position packet icmpHdr packet')
    (field : family.AddressField position)
    (echo : IsEcho packet source destination ident)
    (found : payload? family packet = some icmpHdr)
    (sound : SoundMessage family packet)
    (sourced : sourceAddr? family packet' = some from')
    (addressed : destinationAddr? family packet' = some to') :
    Forwarded position packet packet' from' to' ident := by
  obtain ⟨echo', located⟩ := readdressed.isEcho field echo found sourced addressed
  exact ⟨echo', icmpHdr, located, readdressed.change, readdressed.header,
    readdressed.message (sound icmpHdr found) from' to' sourced addressed⟩

/-- The other address is the one that the packet had. -/
theorem Readdressed.addrAt?_other {field : Nat} {addr : Addr family}
    (readdressed : Readdressed family position packet icmpHdr packet')
    (behind : family.minimumSize ≤ icmpHdr.start)
    (own : family.AddressField field)
    (apart : field + family.addressSize ≤ position ∨ position + family.addressSize ≤ field)
    (read : addrAt? family packet field = some addr) :
    addrAt? family packet' field = some addr := by
  have inside := addressField_inside own
  refine addrAt?_congr readdressed.change read fun k low high octet => ?_
  rcases octet with address | sum | ⟨-, sum⟩
  · omega
  · exact (addressField_not_sum own low high).2 sum
  · rcases sum with rfl | rfl <;> omega

theorem Readdressed.destinationAddr?_kept
    (readdressed : Readdressed family family.srcAddr packet icmpHdr packet')
    (echo : IsEcho packet source destination ident)
    (found : payload? family packet = some icmpHdr) :
    destinationAddr? family packet' = some destination := by
  obtain ⟨-, behind, -⟩ := payload?_bounds echo.valid found
  refine readdressed.addrAt?_other behind (.inr rfl) (.inr ?_) echo.destinationAddr
  cases family <;> decide

theorem Readdressed.sourceAddr?_kept
    (readdressed : Readdressed family family.dstAddr packet icmpHdr packet')
    (echo : IsEcho packet source destination ident)
    (found : payload? family packet = some icmpHdr) :
    sourceAddr? family packet' = some source := by
  obtain ⟨-, behind, -⟩ := payload?_bounds echo.valid found
  refine readdressed.addrAt?_other behind (.inl rfl) (.inl ?_) echo.sourceAddr
  cases family <;> decide

theorem writeAddress?_echo {field : Family → Nat} (own : family.AddressField (field family))
    (echo : IsEcho packet source destination ident)
    (found : payload? family packet = some icmpHdr) (addr : Addr family) :
    ∃ packet', writeAddress? field (some ⟨family, addr⟩) packet = some packet' ∧
      Readdressed family (field family) packet icmpHdr packet' ∧
      addrAt? family packet' (field family) = some addr := by
  obtain ⟨copied, sealed, packet', copies, seals, protocol, located, reseals,
    readdressed, -, -, stored⟩ :=
    echo.readdress own found (some ⟨family, addr⟩)
  refine ⟨packet', ?_, readdressed, stored addr rfl⟩
  have sealing := reseals some
  rw [Option.bind_fun_some] at sealing
  simp only [writeAddress?, echo.version, copies, seals, protocol, located,
    some_bind]
  exact sealing

/--
A packet is forwarded to another destination, and the reply of that destination
comes back as one of the first; and a reply to a request that was rewritten is
given to its session.
-/
theorem rewriting_roundTrip {s d : Addr family} (echo : IsEcho packet s d ident)
    (sound : SoundMessage family packet) (d' : Addr family) :
    (∃ out, (DestinationWriter.mk (some ⟨family, d'⟩)).writePacket? packet =
        some out ∧ Forwarded family.dstAddr packet out s d' ident) ∧
    (∀ reply ident', IsEcho reply d' s ident' → SoundMessage family reply →
      ∃ back, (ContextDestinationWriter.mk (some ⟨family, d⟩)).writePacket?
          reply = some back ∧ Forwarded family.srcAddr reply back d s ident') ∧
    ∀ m : SourceRewriter, ⟨⟨family, s⟩, ⟨family, d⟩⟩ ∈ m.sessions →
      ∃ m' out, m.rewritePacket? packet = some (m', out) ∧
        (∀ own, m.inetAddress family = some ⟨family, own⟩ →
          Forwarded family.srcAddr packet out own d ident) ∧
        ∀ reply own, IsEcho reply d own ident → SoundMessage family reply →
          ∃ m'' back, m'.writeBack? reply = some (m'', some (⟨⟨family, s⟩, ⟨family, d⟩⟩, back)) ∧
            Forwarded family.dstAddr reply back d s ident := by
  obtain ⟨icmpHdr, found, -⟩ := echo.message
  refine ⟨?_, ?_, fun m known => ?_⟩
  · obtain ⟨out, writes, readdressed, addressed⟩ := writeAddress?_echo (.inr rfl) echo found d'
    exact ⟨out, writes, readdressed.forwarded (.inr rfl) echo found sound
      (readdressed.sourceAddr?_kept echo found) addressed⟩
  · intro reply ident' replies soundReply
    obtain ⟨answer, answered, -⟩ := replies.message
    obtain ⟨back, writes, readdressed, sourced⟩ :=
      writeAddress?_echo (.inl rfl) replies answered d
    exact ⟨back, writes, readdressed.forwarded (.inl rfl) replies answered
      soundReply sourced (readdressed.destinationAddr?_kept replies answered)⟩
  · obtain ⟨out, rewrites, readdressed, sourced⟩ := rewritePacket?_echo m echo found
    refine ⟨_, out, rewrites, fun own bound => ?_, ?_⟩
    · exact readdressed.forwarded (.inl rfl) echo found sound
        (sourced own bound) (readdressed.destinationAddr?_kept echo found)
    · intro reply own replies soundReply
      obtain ⟨answer, answered, -⟩ := replies.message
      have kept : (m.record ident ⟨family, s⟩).sourceAddress ident =
          some ⟨family, s⟩ := Function.update_self ..
      rcases writeBack?_echo (m.record ident ⟨family, s⟩) replies answered with
        ⟨missing, -⟩ | ⟨stored, pending, session⟩
      · cases kept.symm.trans missing
      · cases kept.symm.trans pending
        rcases session with ⟨unknown, -⟩ | ⟨-, back, writes, readdressed, to'⟩
        · exact absurd known unknown
        · exact ⟨_, back, writes, readdressed.forwarded (.inr rfl) replies
            answered soundReply (readdressed.sourceAddr?_kept replies answered) (to' s rfl)⟩

end RoundTrip

/-- A message with the identifier 1 from `10.0.0.s` to `10.0.0.d`. -/
def echoMessage (type checksum s d : UInt8) : Bytes :=
  [0x45, 0, 0, 28, 0, 0, 0, 0, 64, 1, 0, 0, 10, 0, 0, s, 10, 0, 0, d,
    type, 0, checksum, 0xfe, 0, 1, 0, 0]

theorem echo_of_key {packet : Bytes} {source destination : Addr .v4} {ident : UInt16}
    (key : echoKey? packet = some (⟨⟨.v4, source⟩, ⟨.v4, destination⟩⟩, ident))
    (located : payload? .v4 packet = some ⟨20, 8⟩)
    (balanced : Balanced 0 ((⟨20, 8⟩ : Slice).octets packet)) :
    IsEcho packet source destination ident ∧ SoundMessage .v4 packet := by
  obtain ⟨_, _, _, same, echo⟩ := isEcho_of_echoKey? key
  cases same
  refine ⟨echo, fun icmpHdr found _ => ?_⟩
  cases located.symm.trans found
  exact balanced

/-- The host 9 asks the host 1; the host 2 answers in its place, and the host 7
is the address of the interface. -/
theorem request_forwarded :
    (∃ out, (DestinationWriter.mk (some ⟨.v4, .from4 10 0 0 2⟩)).writePacket?
        (echoMessage 8 0xf7 9 1) = some out ∧
      Forwarded Family.v4.dstAddr (echoMessage 8 0xf7 9 1) out
        (.from4 10 0 0 9) (.from4 10 0 0 2) 1) ∧
    (∃ back, (ContextDestinationWriter.mk (some ⟨.v4, .from4 10 0 0 1⟩)).writePacket?
        (echoMessage 0 0xff 2 9) = some back ∧
      Forwarded Family.v4.srcAddr (echoMessage 0 0xff 2 9) back
        (.from4 10 0 0 1) (.from4 10 0 0 9) 1) ∧
    ∃ m' m'' out back, (SourceRewriter.mk [⟨⟨.v4, .from4 10 0 0 9⟩, ⟨.v4, .from4 10 0 0 1⟩⟩]
        (fun _ => none) fun _ => some ⟨.v4, .from4 10 0 0 7⟩).rewritePacket?
          (echoMessage 8 0xf7 9 1) = some (m', out) ∧
      Forwarded Family.v4.srcAddr (echoMessage 8 0xf7 9 1) out
        (.from4 10 0 0 7) (.from4 10 0 0 1) 1 ∧
      m'.writeBack? (echoMessage 0 0xff 1 7) = some (m'', some
        (⟨⟨.v4, .from4 10 0 0 9⟩, ⟨.v4, .from4 10 0 0 1⟩⟩, back)) ∧
      Forwarded Family.v4.dstAddr (echoMessage 0 0xff 1 7) back
        (.from4 10 0 0 1) (.from4 10 0 0 9) 1 := by
  obtain ⟨asks, sound⟩ := @echo_of_key (echoMessage 8 0xf7 9 1) (.from4 10 0 0 9)
    (.from4 10 0 0 1) 1 (by decide) (by decide) (by decide)
  obtain ⟨answers, answerSound⟩ := @echo_of_key (echoMessage 0 0xff 2 9) (.from4 10 0 0 2)
    (.from4 10 0 0 9) 1 (by decide) (by decide) (by decide)
  obtain ⟨replies, replySound⟩ := @echo_of_key (echoMessage 0 0xff 1 7) (.from4 10 0 0 1)
    (.from4 10 0 0 7) 1 (by decide) (by decide) (by decide)
  obtain ⟨written, context, session⟩ := rewriting_roundTrip asks sound (.from4 10 0 0 2)
  obtain ⟨m', out, rewrites, forwarded, gives⟩ := session ⟨_, fun _ => none, _⟩ (.head _)
  obtain ⟨m'', back, returns, backwards⟩ := gives _ _ replies replySound
  exact ⟨written, context _ _ answers answerSound, m', m'', out, back, rewrites,
    forwarded _ rfl, returns, backwards⟩

end SingTun.Ping
