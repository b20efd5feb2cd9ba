import Mathlib.Logic.Function.Basic
import SingTun.Foundation.Transition
import SingTun.Header.AddressOrder
import SingTun.Header.Datagram

/-!
# The source rewriter

`SourceRewriter` sends the echo requests of many sessions from one address.
The sources of the requests are kept by the identifier of the request alone,
and the session of a reply is made from that source and the address that the
reply comes from.
-/

namespace SingTun.Ping

open Foundation Header Option

/-! ## Packets -/

/-- `tun.DirectRouteSession`. -/
structure DirectRouteSession where
  source : AnyAddr
  destination : AnyAddr
deriving DecidableEq

section Packets

/-- The header that `IPVersion` selects. -/
def network? (packet : Bytes) : Option Family :=
  if ipVersion packet = 4 then some .v4
  else if ipVersion packet = 6 then some .v6
  else none

/-- `copy` of `AsSlice` over an address field; an address of the other family
is cut off, or fills only a part of the field. -/
def copyAddr? (family : Family) (packet : Bytes) (position : Nat)
    (addr : Option AnyAddr) : Option Bytes :=
  if position + family.addressSize ≤ packet.length then
    some (overwrite packet position
      ((addr.elim [] fun addr => addr.2.octets).take family.addressSize))
  else none

/-- The checksum of an ICMPv6 message is computed again for its addresses. -/
def sealMessage? (family : Family) (packet : Bytes) (icmpHdr : Slice) : Option Bytes := do
  let src ← sourceAddr? family packet
  let dst ← destinationAddr? family packet
  sealICMPv6? src.octets dst.octets packet icmpHdr

end Packets

/-! ## The rewriter -/

/-- `SourceRewriter`; a context stands for its session. -/
structure SourceRewriter where
  sessions : List DirectRouteSession
  sourceAddress : UInt16 → Option AnyAddr
  inetAddress : Family → Option AnyAddr

namespace SourceRewriter

variable (m : SourceRewriter)

def createSession (session : DirectRouteSession) : SourceRewriter :=
  { m with sessions := m.sessions.insert session }

def deleteSession (session : DirectRouteSession) : SourceRewriter :=
  { m with sessions := m.sessions.filter (· ≠ session) }

/-- `sourceAddress[ident] = source`. -/
def record (ident : UInt16) (source : AnyAddr) : SourceRewriter :=
  { m with sourceAddress := Function.update m.sourceAddress ident source }

/-- `delete(sourceAddress, ident)`. -/
def forget (ident : UInt16) : SourceRewriter :=
  { m with sourceAddress := Function.update m.sourceAddress ident none }

/-- `RewritePacket`; the sequence number is read for the log only. -/
def rewritePacket? (packet : Bytes) : Option (SourceRewriter × Bytes) :=
  match network? packet with
  | none => some (m, packet)
  | some family => do
      let sourceAddr ← sourceAddr? family packet
      let packet ← copyAddr? family packet family.srcAddr (m.inetAddress family)
      let packet ← sealHeader? family packet
      let protocol ← transportProtocol? family packet
      if protocol = icmpv4ProtocolNumber ∨ protocol = icmpv6ProtocolNumber then
        let icmpHdr ← payload? family packet
        let packet ←
          if protocol = icmpv6ProtocolNumber then
            sealMessage? family packet icmpHdr
          else some packet
        let ident ← ICMP.ident? packet icmpHdr
        let _ ← ICMP.sequence? packet icmpHdr
        some (m.record ident ⟨family, sourceAddr⟩, packet)
      else some (m, packet)

/-- `WriteBack`, with the session that the packet is handed to. -/
def writeBack? (packet : Bytes) : Option (SourceRewriter × Option (DirectRouteSession × Bytes)) :=
  match network? packet with
  | none => some (m, none)
  | some family => do
      let destination ← sourceAddr? family packet
      let protocol ← transportProtocol? family packet
      if protocol = icmpv4ProtocolNumber ∨ protocol = icmpv6ProtocolNumber then
        let icmpHdr ← payload? family packet
        let ident ← ICMP.ident? packet icmpHdr
        match m.sourceAddress ident with
        | none => some (m, none)
        | some source =>
          let m := m.forget ident
          let session : DirectRouteSession := ⟨source, family, destination⟩
          if session ∉ m.sessions then some (m, none)
          else
            let packet ← copyAddr? family packet family.dstAddr (some source)
            let packet ← sealHeader? family packet
            let packet ←
              if protocol = icmpv6ProtocolNumber then
                sealMessage? family packet icmpHdr
              else some packet
            let _ ← ICMP.sequence? packet icmpHdr
            some (m, some (session, packet))
      else some (m, none)

end SourceRewriter

/-! ## Echo messages -/

/-- A packet with an echo message of its family. -/
structure IsEcho
    {family : Family} (packet : Bytes) (source destination : Addr family)
    (ident : UInt16) : Prop where
  version : network? packet = some family
  valid : isValid family packet packet.length = true
  protocol : transportProtocol? family packet = some (ICMP.protocolNumber family)
  sourceAddr : sourceAddr? family packet = some source
  destinationAddr : destinationAddr? family packet = some destination
  message : ∃ icmpHdr, payload? family packet = some icmpHdr ∧
    8 ≤ icmpHdr.length ∧ ICMP.ident? packet icmpHdr = some ident

/-- The addresses and the identifier of such a packet. -/
def echoKey? (packet : Bytes) : Option (DirectRouteSession × UInt16) := do
  let family ← network? packet
  if isValid family packet packet.length ∧
      transportProtocol? family packet = some (ICMP.protocolNumber family) then
    let source ← sourceAddr? family packet
    let destination ← destinationAddr? family packet
    let icmpHdr ← payload? family packet
    let ident ← ICMP.ident? packet icmpHdr
    if 8 ≤ icmpHdr.length then
      some (⟨⟨family, source⟩, ⟨family, destination⟩⟩, ident)
    else none
  else none

theorem isEcho_of_echoKey? {packet : Bytes} {session : DirectRouteSession} {ident : UInt16}
    (key : echoKey? packet = some (session, ident)) :
    ∃ (family : Family) (source destination : Addr family),
      session = ⟨⟨family, source⟩, ⟨family, destination⟩⟩ ∧
        IsEcho packet source destination ident := by
  unfold echoKey? at key
  simp only [bind_eq_bind, bind_eq_some_iff] at key
  obtain ⟨family, version, key⟩ := key
  split at key
  · rename_i proper
    simp only [bind_eq_some_iff] at key
    obtain ⟨source, sourceAddr, destination, destinationAddr, icmpHdr, found,
      ident', read, key⟩ := key
    split at key
    · rename_i long
      cases key
      exact ⟨family, source, destination, rfl, version, proper.1, proper.2,
        sourceAddr, destinationAddr, icmpHdr, found, long, read⟩
    · cases key
  · cases key

section Echo

variable {family : Family} {packet : Bytes} {icmpHdr : Slice}

section

variable {position : Nat}
variable (field : family.AddressField position)
include field

theorem copyAddr?_spec (long : family.minimumSize ≤ packet.length) (addr : Option AnyAddr) :
    ∃ packet', copyAddr? family packet position addr = some packet' ∧
      ChangedAt (fun k => position ≤ k ∧ k < position + family.addressSize) packet packet' := by
  have inside := Nat.le_trans (addressField_inside field) long
  refine ⟨_, if_pos inside, ?_⟩
  have short := List.length_take_le family.addressSize (addr.elim [] fun addr => addr.2.octets)
  apply ChangedAt.overwrite
  · omega
  · intro k low high
    exact ⟨low, by omega⟩

/-- No address and no header checksum is among the octets of the layout. -/
theorem layout_kept {k : Nat} (layout : LayoutOctet family k) :
    ¬((position ≤ k ∧ k < position + family.addressSize) ∨ HeaderSumOctet family k) := by
  unfold HeaderSumOctet
  cases family with
  | v4 =>
    simp only [LayoutOctet, Family.AddressField, Family.srcAddr,
      Family.dstAddr, Family.addressSize] at *
    omega
  | v6 =>
    simp only [LayoutOctet, Family.AddressField, Family.srcAddr,
      Family.dstAddr, Family.addressSize] at *
    rintro (inside | ⟨impossible, -⟩)
    · omega
    · cases impossible

omit field in
/-- An address of the family fills its field. -/
theorem copyAddr?_own (packet : Bytes) (position : Nat) (addr : Addr family) :
    copyAddr? family packet position (some ⟨family, addr⟩) = setAddrAt? packet position addr := by
  unfold copyAddr? setAddrAt?
  simp only [elim_some]
  rw [List.take_of_length_le (Nat.le_of_eq addr.length_octets)]

/-- One address is replaced, and the checksum of the header computed again. -/
theorem readdress_spec (valid : isValid family packet packet.length = true)
    (found : payload? family packet = some icmpHdr) (addr : Option AnyAddr) :
    ∃ copied sealed, copyAddr? family packet position addr = some copied ∧
      sealHeader? family copied = some sealed ∧ ChangedAt (fun k =>
        (position ≤ k ∧ k < position + family.addressSize) ∨
          HeaderSumOctet family k) packet sealed ∧
      payload? family sealed = some icmpHdr ∧
      HeaderChecksumValid family sealed icmpHdr ∧
      ∀ own : Addr family, addr = some ⟨family, own⟩ →
        addrAt? family sealed position = some own := by
  obtain ⟨size, behind, inside⟩ := payload?_bounds valid found
  obtain ⟨copied, copies, copyChange⟩ := copyAddr?_spec field size addr
  let changed := fun k => (position ≤ k ∧ k < position + family.addressSize) ∨
    HeaderSumOctet family k
  have wide : ChangedAt changed packet copied := copyChange.mono fun k octet => .inl octet
  have kept : ∀ k, LayoutOctet family k → ¬changed k := fun k octet => layout_kept field octet
  have copiedFound : payload? family copied = some icmpHdr := (payload?_congr wide kept).trans found
  have copiedInside : icmpHdr.Inside copied := le_of_le_of_eq inside wide.length.symm
  obtain ⟨sealed, seals, sealChange⟩ := sealHeader?_spec copiedFound behind copiedInside
  have whole : ChangedAt changed packet sealed :=
    wide.trans (sealChange.mono fun k octet => .inr octet)
  refine ⟨copied, sealed, copies, seals, whole, (payload?_congr whole kept).trans found,
    sealHeader?_valid copiedFound behind copiedInside seals, ?_⟩
  rintro own rfl
  rw [copyAddr?_own] at copies
  obtain ⟨stored, stores, read, -⟩ := @setAddrAt?_spec family packet position
    own (Nat.le_trans (addressField_inside field) size)
  cases copies.symm.trans stores
  exact addrAt?_congr sealChange read fun k low high =>
    (addressField_not_sum field low high).2

omit field in
/-- The octets that are stored for a new address. -/
def RewriteOctet (family : Family) (position : Nat) (icmpHdr : Slice) (k : Nat) : Prop :=
  (position ≤ k ∧ k < position + family.addressSize) ∨
    HeaderSumOctet family k ∨ (family = .v6 ∧ MessageSumOctet icmpHdr k)

omit field in
/-- The packet, with one address and the checksums for it. -/
structure Readdressed
    (family : Family) (position : Nat) (packet : Bytes) (icmpHdr : Slice)
    (packet' : Bytes) : Prop where
  change : ChangedAt (RewriteOctet family position icmpHdr) packet packet'
  header : HeaderChecksumValid family packet' icmpHdr
  message : (family = .v4 → Balanced 0 (icmpHdr.octets packet)) →
    ∀ source destination : Addr family, sourceAddr? family packet' = some source →
      destinationAddr? family packet' = some destination →
      MessageChecksumValid family source.octets destination.octets (icmpHdr.octets packet')

/-- The checksum of the message is computed again for IPv6. -/
theorem reseal_spec {sealed : Bytes} (valid : isValid family packet packet.length = true)
    (found : payload? family packet = some icmpHdr)
    (long : 8 ≤ icmpHdr.length)
    (change : ChangedAt (fun k =>
      (position ≤ k ∧ k < position + family.addressSize) ∨ HeaderSumOctet family k) packet sealed)
    (header : HeaderChecksumValid family sealed icmpHdr) :
    ∃ packet', (if ICMP.protocolNumber family = icmpv6ProtocolNumber then
        sealMessage? family sealed icmpHdr else some sealed) = some packet' ∧
      Readdressed family position packet icmpHdr packet' ∧
      ∀ field addr, family.AddressField field → addrAt? family sealed field = some addr →
        addrAt? family packet' field = some addr := by
  obtain ⟨size, behind, inside⟩ := payload?_bounds valid found
  have small := length_lt_of_payload? found
  have front := addressField_inside field
  have wide : ChangedAt (RewriteOctet family position icmpHdr) packet sealed :=
    change.mono fun k octet => octet.imp_right .inl
  cases family with
  | v4 =>
    refine ⟨sealed, rfl, ⟨wide, header, fun sound _ _ _ _ => ?_⟩, fun _ _ _ found => found⟩
    have same : icmpHdr.octets sealed = icmpHdr.octets packet := by
      refine change.window_eq inside fun k low _ octet => ?_
      change 20 ≤ icmpHdr.start at behind
      change position + _ ≤ 20 at front
      rcases octet with ⟨-, high⟩ | ⟨-, sum⟩ <;> omega
    show Balanced 0 (icmpHdr.octets sealed)
    rw [same]
    exact sound rfl
  | v6 =>
    have sealedSize : Family.v6.minimumSize ≤ sealed.length :=
      le_of_le_of_eq size change.length.symm
    obtain ⟨src, source⟩ := exists_sourceAddr? sealedSize
    obtain ⟨dst, destination⟩ := exists_destinationAddr? sealedSize
    obtain ⟨packet', seals, sum, messageValid⟩ := @sealEcho?_spec sealed
      icmpHdr .v6 src.octets dst.octets (by omega) small (le_of_le_of_eq inside change.length.symm)
    have kept : ∀ field addr, Family.v6.AddressField field → addrAt? .v6 sealed field = some addr →
        addrAt? .v6 packet' field = some addr := by
      intro field addr own read
      have front := addressField_inside own
      refine addrAt?_congr sum read fun k _ high octet => ?_
      rcases octet with rfl | rfl <;> omega
    refine ⟨packet', ?_, ⟨?_, trivial, ?_⟩, kept⟩
    · simp only [sealMessage?, source, destination]
      exact seals
    · exact wide.trans (sum.mono fun k octet => .inr (.inr ⟨rfl, octet⟩))
    · intro _ src' dst' source' destination'
      cases source'.symm.trans (kept _ _ (.inl rfl) source)
      cases destination'.symm.trans (kept _ _ (.inr rfl) destination)
      exact messageValid

end

variable {source destination : Addr family} {ident : UInt16}

theorem protocolNumber_cases (family : Family) :
    ICMP.protocolNumber family = icmpv4ProtocolNumber ∨
      ICMP.protocolNumber family = icmpv6ProtocolNumber := by
  cases family
  · exact .inl rfl
  · exact .inr rfl

/-- Neither the layout nor the message behind its checksum is stored. -/
theorem not_rewriteOctet {position k : Nat} (field : family.AddressField position)
    (behind : family.minimumSize ≤ icmpHdr.start)
    (outside : LayoutOctet family k ∨ icmpHdr.start + 4 ≤ k) :
    ¬RewriteOctet family position icmpHdr k := by
  have front := addressField_inside field
  rcases outside with layout | low
  · rintro (address | sum | ⟨-, sum⟩)
    · exact layout_kept field layout (.inl address)
    · exact layout_kept field layout (.inr sum)
    · have high := (layoutOctet_header layout).1
      rcases sum with rfl | rfl <;> omega
  · rintro (⟨-, high⟩ | sum | ⟨-, sum⟩)
    · omega
    · have high := headerSumOctet_front sum
      have := addressField_inside (.inl rfl : family.AddressField _)
      omega
    · rcases sum with rfl | rfl <;> omega

/-- The new packet has a message of the same kind, with its identifier. -/
theorem Readdressed.isEcho {position : Nat} {packet' : Bytes} {from' to' : Addr family}
    (readdressed : Readdressed family position packet icmpHdr packet')
    (field : family.AddressField position)
    (echo : IsEcho packet source destination ident)
    (found : payload? family packet = some icmpHdr)
    (sourced : sourceAddr? family packet' = some from')
    (addressed : destinationAddr? family packet' = some to') :
    IsEcho packet' from' to' ident ∧ payload? family packet' = some icmpHdr := by
  obtain ⟨-, behind, -⟩ := payload?_bounds echo.valid found
  obtain ⟨other, found', long, read⟩ := echo.message
  cases found.symm.trans found'
  have kept : ∀ k, LayoutOctet family k → ¬RewriteOctet family position icmpHdr k :=
    fun k layout => not_rewriteOctet field behind (.inl layout)
  have change := readdressed.change
  have located := (payload?_congr change kept).trans found
  refine ⟨⟨?_, (isValid_congr change kept).trans echo.valid,
    (transportProtocol?_congr change kept).trans echo.protocol, sourced,
    addressed, icmpHdr, located, long, ?_⟩, located⟩
  · unfold network?
    rw [ipVersion_congr change kept]
    exact echo.version
  · rw [← read, ICMP.ident?, ICMP.ident?, Slice.readU16?, Slice.readU16?, change.readU16_eq]
    · exact not_rewriteOctet field behind (.inr (by omega))
    · exact not_rewriteOctet field behind (.inr (by omega))

/-- What the rewriters do to a packet. -/
theorem IsEcho.readdress {position : Nat} (echo : IsEcho packet source destination ident)
    (field : family.AddressField position)
    (found : payload? family packet = some icmpHdr) (addr : Option AnyAddr) :
    ∃ copied sealed packet', copyAddr? family packet position addr = some copied ∧
      sealHeader? family copied = some sealed ∧
      transportProtocol? family sealed = some (ICMP.protocolNumber family) ∧
      payload? family sealed = some icmpHdr ∧ (∀ {α : Type} (next : Bytes → Option α),
        (if ICMP.protocolNumber family = icmpv6ProtocolNumber then
          (sealMessage? family sealed icmpHdr).bind next
        else next sealed) = next packet') ∧
      Readdressed family position packet icmpHdr packet' ∧
      ICMP.ident? packet' icmpHdr = some ident ∧
      (∃ sequence, ICMP.sequence? packet' icmpHdr = some sequence) ∧
      ∀ own : Addr family, addr = some ⟨family, own⟩ →
        addrAt? family packet' position = some own := by
  obtain ⟨other, found', long, -⟩ := echo.message
  cases found.symm.trans found'
  obtain ⟨copied, sealed, copies, seals, change, sealedFound, header, stored⟩ :=
    readdress_spec field echo.valid found addr
  obtain ⟨packet', reseals, readdressed, kept⟩ :=
    reseal_spec field echo.valid found long change header
  have size := (payload?_bounds echo.valid found).1.trans_eq readdressed.change.length.symm
  obtain ⟨from', sourced⟩ := exists_sourceAddr? size
  obtain ⟨to', addressed⟩ := exists_destinationAddr? size
  obtain ⟨echo', located⟩ := readdressed.isEcho field echo found sourced addressed
  obtain ⟨other, found', -, read⟩ := echo'.message
  cases located.symm.trans found'
  refine ⟨copied, sealed, packet', copies, seals, ?_, sealedFound, ?_,
    readdressed, read, ⟨_, Slice.readU16?_eq_some (by omega)⟩,
    fun own given => kept _ _ field (stored own given)⟩
  · rw [transportProtocol?_congr change fun k layout => layout_kept field layout]
    exact echo.protocol
  · intro α next
    split at reseals
    · rename_i six
      rw [if_pos six, reseals, bind_some]
    · rename_i four
      rw [if_neg four, some.inj reseals]

/-- `RewritePacket` keeps the source of a request by its identifier. -/
theorem rewritePacket?_echo (m : SourceRewriter) (echo : IsEcho packet source destination ident)
    (found : payload? family packet = some icmpHdr) :
    ∃ packet', m.rewritePacket? packet =
        some (m.record ident ⟨family, source⟩, packet') ∧
      Readdressed family family.srcAddr packet icmpHdr packet' ∧
      ∀ own : Addr family, m.inetAddress family = some ⟨family, own⟩ →
        sourceAddr? family packet' = some own := by
  obtain ⟨copied, sealed, packet', copies, seals, protocol, located, reseals,
    readdressed, read, ⟨sequence, numbered⟩, stored⟩ :=
    echo.readdress (.inl rfl) found (m.inetAddress family)
  refine ⟨packet', ?_, readdressed, stored⟩
  unfold SourceRewriter.rewritePacket?
  simp only [echo.version, echo.sourceAddr, copies, seals, protocol, located,
    reseals, read, numbered, bind_eq_bind, bind_some,
    if_pos (protocolNumber_cases family)]

/-- `WriteBack` looks for the session of the source that was kept. -/
theorem writeBack?_echo (m : SourceRewriter) (echo : IsEcho packet source destination ident)
    (found : payload? family packet = some icmpHdr) :
    (m.sourceAddress ident = none ∧ m.writeBack? packet = some (m, none)) ∨
    ∃ kept, m.sourceAddress ident = some kept ∧ ((⟨kept, family, source⟩ ∉ m.sessions ∧
        m.writeBack? packet = some (m.forget ident, none)) ∨
      (⟨kept, family, source⟩ ∈ m.sessions ∧ ∃ packet', m.writeBack? packet =
            some (m.forget ident, some (⟨kept, family, source⟩, packet')) ∧
          Readdressed family family.dstAddr packet icmpHdr packet' ∧
          ∀ own : Addr family, kept = ⟨family, own⟩ →
            destinationAddr? family packet' = some own)) := by
  obtain ⟨other, found', long, read⟩ := echo.message
  cases found.symm.trans found'
  unfold SourceRewriter.writeBack?
  simp only [echo.version, echo.sourceAddr, echo.protocol, found, read,
    bind_eq_bind, bind_some, if_pos (protocolNumber_cases family)]
  cases pending : m.sourceAddress ident with
  | none => exact .inl ⟨rfl, rfl⟩
  | some kept =>
    refine .inr ⟨kept, rfl, ?_⟩
    by_cases known : (⟨kept, family, source⟩ : DirectRouteSession) ∈ m.sessions
    · right
      obtain ⟨copied, sealed, packet', copies, seals, -, -, reseals,
        readdressed, -, ⟨sequence, numbered⟩, stored⟩ :=
        echo.readdress (.inr rfl) found (some kept)
      refine ⟨known, packet', ?_, readdressed, fun own same => ?_⟩
      · have listed : ¬(⟨kept, family, source⟩ : DirectRouteSession) ∉
            (m.forget ident).sessions := not_not.mpr known
        simp only [if_neg listed, copies, seals, reseals, numbered, bind_some]
      · exact stored own (congrArg some same)
    · left
      refine ⟨known, ?_⟩
      have unlisted : (⟨kept, family, source⟩ : DirectRouteSession) ∉
          (m.forget ident).sessions := known
      simp only [if_pos unlisted]

end Echo

end SingTun.Ping
