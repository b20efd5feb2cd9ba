import SingTun.System.EchoReply
import SingTun.System.Replies
import SingTun.System.Transparency

/-!
# Where the stack reads outside of a packet

`IsValid` bounds the IP header and the length of the packet, but nothing says
that the payload is as long as the transport header that is read from it.
Each way through the stack needs a payload of some length, which depends on
what the way reads; the stack gets through a packet exactly when its payload
has this length.
-/

namespace SingTun.System

open Foundation Header Option

/-! ## The length that a packet needs -/

/-- The table of a family. -/
def StackState.nat (state : StackState) : (family : Family) → TCPNat (AddrPort family)
  | .v4 => state.tcpNat4
  | .v6 => state.tcpNat6

/-- The state with another table for a family. -/
def StackState.withNat (state : StackState) :
    {family : Family} → TCPNat (AddrPort family) → StackState
  | .v4, tcpNat4 => { state with tcpNat4 }
  | .v6, tcpNat6 => { state with tcpNat6 }

/-- A reset reads the flags, and without ACK it goes to the end of the header. -/
def resetNeed (packet : Bytes) (tcpHdr : Slice) : Nat :=
  if byteAt packet (tcpHdr.start + 13) &&& TCP.flagAck ≠ 0 then 14
  else max 14 ((byteAt packet (tcpHdr.start + 12) >>> 4) * 4).toNat

/-- The ports are read first, and a packet that is rewritten has a checksum. -/
def tcpNeed {family : Family} (system : SystemStack) (env : Env)
    (nat : TCPNat (AddrPort family)) (packet : Bytes) (tcpHdr : Slice)
    (sourceAddr destinationAddr : Addr family) : Nat :=
  let sourcePort := readU16 packet tcpHdr.start
  let destinationPort := readU16 packet (tcpHdr.start + 2)
  match system.inet family with
  | none => 0
  | some inet =>
    if sourceAddr = inet.inetAddress ∧ sourcePort = inet.tcpPort then
      match (nat.lookupBack destinationPort env.since env.now).1 with
      | none => 4
      | some _ => 18
    else if destinationAddr ∈ system.inetLoopbackAddress family then
      if system.txChecksumOffload = false ∧ destinationAddr = sourceAddr then
        4
      else 18
    else
      match (nat.lookup ⟨sourceAddr, sourcePort⟩
          ⟨destinationAddr, destinationPort⟩ env.since env.now).1 with
      | .ok _ => 18
      | .error _ => resetNeed packet tcpHdr

/-- A fragment is dropped before the UDP header is read. -/
def udpNeed : Family → Bytes → Nat
  | .v4, packet =>
    if (readU16 packet 6 >>> 13).toUInt8 &&& IPv4.flagMoreFragments ≠ 0 ∨
        readU16 packet 6 <<< 3 ≠ 0 then 0
    else 8
  | .v6, _ => 8

/-- An echo request that is answered gets a new checksum. -/
def icmpNeed {family : Family} (system : SystemStack) (env : Env) (packet : Bytes)
    (icmpHdr : Slice) (destinationAddr : Addr family) : Nat :=
  if byteAt packet icmpHdr.start ≠ ICMP.echo family then 1
  else if byteAt packet (icmpHdr.start + 1) ≠ 0 then 2
  else if some destinationAddr ≠ (system.inet family).map Inet.inetAddress ∧
      (env.directRoute.err = some .reset ∨
        env.directRoute.err = some .drop ∨ env.directRoute.action = true) then
    2
  else 4

def payloadNeed {family : Family} (system : SystemStack) (env : Env)
    (nat : TCPNat (AddrPort family)) (packet : Bytes) (payload : Slice)
    (sourceAddr destinationAddr : Addr family) : Nat :=
  if transportProtocol? family packet = some tcpProtocolNumber then
    tcpNeed system env nat packet payload sourceAddr destinationAddr
  else if transportProtocol? family packet = some udpProtocolNumber then
    udpNeed family packet
  else if transportProtocol? family packet = some (ICMP.protocolNumber family) then
    icmpNeed system env packet payload destinationAddr
  else 0

/-- The broadcast address of the device, which only IPv4 has. -/
def SystemStack.isBroadcast (system : SystemStack) : {family : Family} → Addr family → Bool
  | .v4, addr => some addr = system.broadcastAddr
  | .v6, _ => false

/-- A packet that gets as far as its payload. -/
structure Admitted
    (system : SystemStack) (packet : Bytes) (family : Family) (payload : Slice)
    (sourceAddr destinationAddr : Addr family) : Prop where
  version : ipVersion packet = family.version
  valid : isValid family packet packet.length = true
  payload : payload? family packet = some payload
  source : sourceAddr? family packet = some sourceAddr
  destination : destinationAddr? family packet = some destinationAddr
  notBroadcast : system.isBroadcast destinationAddr = false
  unicast : destinationAddr.isGlobalUnicast = true

/-! ## Rewriting -/

section Rewriting

variable {family : Family} {packet : Bytes} {tcpHdr : Slice}

theorem checksum?_eq_none (short : tcpHdr.length < 18) : TCP.checksum? packet tcpHdr = none :=
  Slice.readU16?_eq_none short

theorem setPortWithChecksumUpdate?_eq_none
    (position : Nat) (new : UInt16) (short : tcpHdr.length < 18) :
    TCP.setPortWithChecksumUpdate? packet tcpHdr position new = none := by
  refine bind_eq_none_iff.mpr fun _ _ => ?_
  refine bind_eq_none_iff.mpr fun _ _ => ?_
  rw [checksum?_eq_none short]
  rfl

/-- Without room for a checksum an address cannot be replaced. -/
theorem rewriteAddress_eq_none (short : tcpHdr.length < 18) (position : Nat)
    {old new : Addr family}
    (different : new ≠ old) :
    rewriteAddress packet tcpHdr false position old new = none := by
  unfold rewriteAddress
  rw [if_pos different]
  refine bind_eq_none_iff.mpr fun middle _ => ?_
  unfold TCP.updateChecksumPseudoHeaderAddress?
  rw [if_neg (by decide), checksum?_eq_none short]
  rfl

/-- A packet with a short header is rewritten only if nothing is stored. -/
theorem rewriteTCP_eq_none (short : tcpHdr.length < 18) {txChecksumOffload : Bool}
    {oldSource : Addr family} {source destination : Endpoint family}
    (found : sourceAddr? family packet = some oldSource)
    (stored : txChecksumOffload = true ∨ source.rewritePort = true ∨ source.addr ≠ oldSource) :
    rewriteTCP packet tcpHdr txChecksumOffload source destination = none := by
  unfold rewriteTCP
  rw [found, some_bind]
  refine bind_eq_none_iff.mpr fun oldDestination _ => ?_
  cases txChecksumOffload with
  | true =>
    refine bind_eq_none_iff.mpr fun _ _ => ?_
    refine bind_eq_none_iff.mpr fun _ _ => ?_
    refine bind_eq_none_iff.mpr fun _ _ => ?_
    refine bind_eq_none_iff.mpr fun _ _ => ?_
    exact Slice.writeU16?_eq_none _ short
  | false =>
    rcases stored with offload | port | different
    · cases offload
    · refine bind_eq_none_iff.mpr fun _ _ => ?_
      refine bind_eq_none_iff.mpr fun _ _ => ?_
      rw [if_neg (by decide), Endpoint.storePort, if_pos port]
      unfold TCP.setSourcePortWithChecksumUpdate?
      rw [setPortWithChecksumUpdate?_eq_none 0 _ short]
      rfl
    · rw [rewriteAddress_eq_none short _ different]
      rfl

/-- Two endpoints that are already in the packet. -/
theorem rewriteTCP_same {addr : Addr family} (source : sourceAddr? family packet = some addr)
    (destination : destinationAddr? family packet = some addr) :
    rewriteTCP packet tcpHdr false ⟨addr, 0, false⟩ ⟨addr, 0, false⟩ = some packet := by
  have same : ∀ position, rewriteAddress packet tcpHdr false position addr addr = some packet := by
    intro position
    rw [rewriteAddress, if_neg (not_not_intro rfl)]
    rfl
  unfold rewriteTCP
  rw [source, destination]
  simp only [some_bind, same]
  rfl

/-- Rewriting with new ports. -/
theorem rewriteTCP_isSome_iff (layout : Layout family packet tcpHdr) (txChecksumOffload : Bool)
    {oldSource : Addr family} {source destination : Endpoint family}
    (found : sourceAddr? family packet = some oldSource)
    (stored : txChecksumOffload = true ∨ source.rewritePort = true ∨ source.addr ≠ oldSource) :
    (rewriteTCP packet tcpHdr txChecksumOffload source
        destination).isSome = true ↔ 18 ≤ tcpHdr.length := by
  constructor
  · intro rewritten
    by_contra short
    rw [rewriteTCP_eq_none (by omega) found stored] at rewritten
    cases rewritten
  · intro long
    obtain ⟨packet', rewritten, -⟩ :=
      rewriteTCP_spec layout long txChecksumOffload source destination
    rw [rewritten]
    rfl

end Rewriting

/-! ## Answering -/

section Answering

variable {family : Family} {packet : Bytes}

theorem resetFields?_isSome_iff (tcpHdr : Slice) :
    (resetFields? packet tcpHdr).isSome = true ↔ resetNeed packet tcpHdr ≤ tcpHdr.length := by
  unfold resetFields? resetNeed TCP.flags?
  by_cases long : 14 ≤ tcpHdr.length
  · simp only [TCP.destinationPort?, TCP.sourcePort?, TCP.ackNumber?,
      TCP.sequenceNumber?, TCP.payload?, TCP.dataOffset?]
    rw [Slice.readU16?_eq_some (by omega), Slice.readU16?_eq_some (by omega),
      Slice.byteAt?_eq_some (by omega), Slice.readU32?_eq_some (by omega),
      Slice.readU32?_eq_some (by omega), Slice.byteAt?_eq_some (by omega)]
    simp only [some_bind, pure_def]
    split
    · simpa using long
    · generalize ((byteAt packet (tcpHdr.start + 12) >>> 4) * 4).toNat = dataOffset
      by_cases inside : dataOffset ≤ tcpHdr.length
      · rw [Slice.from?_eq_some inside]
        simp [long, inside]
      · rw [Slice.from?_eq_none (by omega)]
        simp [inside]
  · have none_eq : tcpHdr.byteAt? packet 13 = none := Slice.byteAt?_eq_none (by omega)
    rw [none_eq]
    constructor
    · intro some_eq
      simp at some_eq
    · intro fits
      split at fits <;> omega

theorem resetTCP_isSome_iff {sourceAddr destinationAddr : Addr family} {tcpHdr : Slice}
    (system : SystemStack) (env : Env) (source : sourceAddr? family packet = some sourceAddr)
    (destination : destinationAddr? family packet = some destinationAddr) :
    (resetTCP family system env packet tcpHdr).isSome = true ↔
      resetNeed packet tcpHdr ≤ tcpHdr.length := by
  rw [← resetFields?_isSome_iff]
  unfold resetTCP
  rw [source, destination]
  cases resetFields? packet tcpHdr <;> rfl

theorem rejectWithICMP_isSome (system : SystemStack) (env : Env)
    (valid : isValid family packet packet.length = true) :
    (rejectWithICMP family system env packet).isSome = true := by
  obtain ⟨long, payload, found, -, -⟩ := payload?_of_isValid valid
  have rejected : ∀ code, (rejectWithCode family system env packet code).isSome = true := by
    intro code
    by_cases fits : RejectFits family system packet
    · obtain ⟨newPacket, size, built, -⟩ := @rejectWithCode_written system env packet code family
          ⟨fits, long, by rintro rfl; rw [found]; rfl⟩
      rw [built]
      rfl
    · rw [rejectWithCode_small fits]
      rfl
  cases family with
  | v4 => exact rejected 1
  | v6 => exact rejected 3

/-- A message without room for a checksum has none. -/
theorem messageChecksum?_eq_none {h : Bytes} (short : h.length < 4) (initial : UInt16) :
    ICMP.messageChecksum? h initial = none := by
  refine bind_eq_none_iff.mpr fun _ _ => ?_
  have unread : sliceFrom? h 4 = none := if_neg (Nat.not_le_of_lt short)
  rw [unread]
  rfl

theorem sealEchoReply_eq_none (family : Family) (packet : Bytes) {icmpHdr : Slice}
    (short : icmpHdr.length < 4) :
    sealEchoReply family packet icmpHdr = none := by
  have octets : (icmpHdr.octets packet).length < 4 :=
    Nat.lt_of_le_of_lt (List.length_take_le _ _) short
  cases family with
  | v4 =>
    simp only [sealEchoReply, ICMP.icmpv4Checksum?, messageChecksum?_eq_none octets]
    rfl
  | v6 =>
    refine bind_eq_none_iff.mpr fun src _ => ?_
    refine bind_eq_none_iff.mpr fun dst _ => ?_
    simp only [ICMP.icmpv6Checksum?, messageChecksum?_eq_none octets]
    rfl

/-- An answer to an echo request gets a new checksum. -/
theorem echoReply_isSome_iff {icmpHdr : Slice}
    (valid : isValid family packet packet.length = true)
    (payload : payload? family packet = some icmpHdr) :
    (echoReply family packet icmpHdr).isSome = true ↔ 4 ≤ icmpHdr.length := by
  constructor
  · intro answered
    by_contra short
    have stops : echoReply family packet icmpHdr = none := by
      refine bind_eq_none_iff.mpr fun _ _ => ?_
      refine bind_eq_none_iff.mpr fun _ _ => ?_
      refine bind_eq_none_iff.mpr fun _ _ => ?_
      refine bind_eq_none_iff.mpr fun _ _ => ?_
      refine bind_eq_none_iff.mpr fun _ _ => ?_
      exact sealEchoReply_eq_none family _ (Nat.lt_of_not_le short)
    rw [stops] at answered
    cases answered
  · intro long
    have minimum := (payload?_of_isValid valid).1
    obtain ⟨source, sourced⟩ := exists_sourceAddr? minimum
    obtain ⟨destination, addressed⟩ := exists_destinationAddr? minimum
    obtain ⟨reply, replied, -⟩ := echoReply_spec valid payload long sourced addressed
    rw [replied]
    rfl

end Answering

/-! ## The protocols -/

section Protocols

variable {family : Family} {system : SystemStack} {env : Env} {packet : Bytes}
variable {nat : TCPNat (AddrPort family)} {payload : Slice}
variable {sourceAddr destinationAddr : Addr family}

/-- Every way through `processTCP` reads both ports. -/
theorem four_le_tcpNeed {inet : Inet family} (enabled : system.inet family = some inet)
    (env : Env) (nat : TCPNat (AddrPort family)) (packet : Bytes)
    (tcpHdr : Slice) (sourceAddr destinationAddr : Addr family) :
    4 ≤ tcpNeed system env nat packet tcpHdr sourceAddr destinationAddr := by
  have reset : 4 ≤ resetNeed packet tcpHdr := by
    unfold resetNeed
    split <;> omega
  unfold tcpNeed
  rw [enabled]
  dsimp only
  repeat' split
  all_goals first
    | exact reset
    | decide

/-- The ports are read before anything else. -/
theorem processTCP_short {inet : Inet family} (enabled : system.inet family = some inet)
    (short : ¬4 ≤ payload.length) :
    processTCP family system env nat packet payload = none := by
  have unread : TCP.destinationPort? packet payload = none := Slice.readU16?_eq_none (by omega)
  unfold processTCP
  rw [enabled]
  refine bind_eq_none_iff.mpr fun _ _ => ?_
  refine bind_eq_none_iff.mpr fun _ _ => ?_
  refine bind_eq_none_iff.mpr fun _ _ => ?_
  rw [unread]
  rfl

/-- Where the copy of the headers ends. -/
def copyLength : Family → Bytes → Slice → Nat
  | .v4, _, udpHdr => udpHdr.start + 8
  | .v6, packet, udpHdr => packet.length - udpHdr.length + 8

theorem udpHeaderLen?_eq (located : payload? family packet = some payload) :
    udpHeaderLen? family packet = some (copyLength family packet payload : Int) := by
  obtain ⟨inside, -⟩ := payload?_cases located
  unfold Slice.Inside at inside
  cases family with
  | v4 =>
    obtain ⟨headerLength, header, start⟩ := headerLength?_of_payload? located
    have small : headerLength.toNat ≤ 60 := by
      simp only [IPv4.headerLength?, bind_eq_bind, bind_eq_some_iff] at header
      obtain ⟨versIHL, -, header⟩ := header
      have low : (versIHL &&& 0x0f).toNat ≤ 15 := by
        rw [UInt8.toNat_and]
        exact Nat.and_le_right
      rw [← some.inj header, UInt8.toNat_mul]
      change (versIHL &&& 0x0f).toNat * 4 % 256 ≤ 60
      omega
    have sum : (headerLength + 8).toNat = payload.start + 8 := by
      change (headerLength.toNat + 8) % 256 = _
      omega
    simp only [udpHeaderLen?, header, copyLength, some_bind, pure_def, sum]
  | v6 =>
    obtain ⟨-, payloadLength, header, length⟩ := payload?_cases located
    change IPv6.payloadLength? packet = some payloadLength at header
    simp only [udpHeaderLen?, header, copyLength, some_bind, pure_def, length]
    congr 1
    omega

/-- The copy has both headers, and it is a part of the packet. -/
theorem copyLength_bounds (located : payload? family packet = some payload)
    (long : 8 ≤ payload.length) :
    payload.start + 8 ≤ copyLength family packet payload ∧
      copyLength family packet payload ≤ packet.length := by
  obtain ⟨inside, -⟩ := payload?_cases located
  unfold Slice.Inside at inside
  cases family with
  | v4 =>
    change payload.start + 8 ≤ payload.start + 8 ∧ payload.start + 8 ≤ packet.length
    omega
  | v6 =>
    change payload.start + 8 ≤ packet.length - payload.length + 8 ∧
      packet.length - payload.length + 8 ≤ packet.length
    omega

variable (admitted : Admitted system packet family payload sourceAddr destinationAddr)
include admitted

theorem processTCP_isSome_iff :
    (processTCP family system env nat packet payload).isSome = true ↔
      tcpNeed system env nat packet payload sourceAddr destinationAddr ≤ payload.length := by
  have source := admitted.source
  have destination := admitted.destination
  obtain ⟨-, start, inside⟩ := payload?_bounds admitted.valid admitted.payload
  unfold tcpNeed
  cases enabled : system.inet family with
  | none =>
    unfold processTCP
    rw [enabled]
    simp
  | some inet =>
    by_cases ports : 4 ≤ payload.length
    · have carries : Carries family packet payload ⟨sourceAddr, readU16 packet payload.start⟩
          ⟨destinationAddr, readU16 packet (payload.start + 2)⟩ :=
        ⟨source, Slice.readU16?_eq_some (by omega), destination, Slice.readU16?_eq_some (by omega)⟩
      have rewritten : ∀ {first second : Endpoint family}
          {table : TCPNat (AddrPort family)}, system.txChecksumOffload = true ∨
            first.rewritePort = true ∨ first.addr ≠ sourceAddr →
          (((rewriteTCP packet payload system.txChecksumOffload first second).bind fun packet =>
              some (Verdict.keep packet, table)).isSome = true ↔
            18 ≤ payload.length) := by
        intro first second table stored
        rw [← rewriteTCP_isSome_iff ⟨start, inside⟩ system.txChecksumOffload source stored]
        cases rewriteTCP packet payload system.txChecksumOffload first second <;> rfl
      rw [processTCP_eq enabled carries]
      dsimp only
      rw [admitted.unicast, if_neg (by decide)]
      split
      · generalize nat.lookupBack _ env.since env.now = found
        obtain ⟨session, table⟩ := found
        cases session with
        | none => simpa using ports
        | some session => exact rewritten (.inr (.inl rfl))
      · split
        · by_cases same : system.txChecksumOffload = false ∧ destinationAddr = sourceAddr
          · obtain ⟨offload, rfl⟩ := same
            rw [if_pos ⟨offload, rfl⟩, offload, rewriteTCP_same source destination]
            simpa using ports
          · rw [if_neg same]
            apply rewritten
            by_cases offload : system.txChecksumOffload = true
            · exact .inl offload
            · exact .inr (.inr fun equal =>
                same ⟨Bool.eq_false_iff.mpr offload, equal⟩)
        · generalize nat.lookup _ _ env.since env.now = found
          obtain ⟨result, table⟩ := found
          cases result with
          | ok natPort => exact rewritten (.inr (.inl rfl))
          | error message =>
            rw [← resetTCP_isSome_iff system env source destination]
            cases resetTCP family system env packet payload <;> rfl
    · rw [processTCP_short enabled ports]
      constructor
      · nofun
      · intro fits
        have least := four_le_tcpNeed enabled env nat packet payload sourceAddr destinationAddr
        unfold tcpNeed at least
        rw [enabled] at least
        exact absurd (least.trans fits) ports

theorem deliverUDP_isSome_iff :
    (deliverUDP family packet payload).isSome = true ↔ 8 ≤ payload.length := by
  constructor
  · intro delivered
    by_contra short
    have unread : UDP.payload? payload = none := Slice.from?_eq_none (Nat.lt_of_not_le short)
    have stops : deliverUDP family packet payload = none := by
      unfold deliverUDP
      rw [admitted.source, admitted.destination]
      simp only [some_bind, admitted.unicast, unread]
      refine bind_eq_none_iff.mpr fun _ _ => ?_
      refine bind_eq_none_iff.mpr fun _ _ => ?_
      rfl
    rw [stops] at delivered
    cases delivered
  · intro long
    obtain ⟨-, bound⟩ := copyLength_bounds admitted.payload long
    unfold deliverUDP UDP.sourcePort? UDP.destinationPort? UDP.payload? UDP.minimumSize
    rw [admitted.source, admitted.destination,
      Slice.readU16?_eq_some (by omega), Slice.readU16?_eq_some (by omega),
      Slice.from?_eq_some long]
    simp only [some_bind, admitted.unicast,
      udpHeaderLen?_eq admitted.payload, Int.toNat_natCast]
    rw [slice?_eq_some (Nat.zero_le _) bound]
    rw [if_neg (by decide)]
    split
    · rfl
    · rw [if_neg (Int.not_lt.mpr (Int.natCast_nonneg _))]
      rfl

theorem processUDP_isSome_iff :
    (processUDP family packet payload).isSome = true ↔ udpNeed family packet ≤ payload.length := by
  obtain ⟨minimum, -⟩ := payload?_of_isValid admitted.valid
  have delivered := deliverUDP_isSome_iff admitted
  cases family with
  | v4 =>
    change 20 ≤ packet.length at minimum
    simp only [processUDP, processIPv4UDP, udpNeed, IPv4.flags?, IPv4.fragmentOffset?]
    rw [readU16?_eq_some (by omega)]
    simp only [some_bind, pure_def]
    split
    · rename_i more
      rw [if_pos (.inl more)]
      simp
    · rename_i last
      split
      · rename_i behind
        rw [if_pos (.inr behind)]
        simp
      · rename_i first
        rw [if_neg (not_or.mpr ⟨last, first⟩)]
        exact delivered
  | v6 => exact delivered

theorem processICMP_isSome_iff :
    (processICMP family system env packet payload).isSome = true ↔
      icmpNeed system env packet payload destinationAddr ≤ payload.length := by
  have answered := echoReply_isSome_iff admitted.valid admitted.payload
  obtain ⟨newPacket, rejected⟩ := isSome_iff_exists.mp
    (rejectWithICMP_isSome system env admitted.valid)
  have kept : ((echoReply family packet payload).bind fun packet =>
      some (Verdict.keep packet)).isSome = true ↔ 4 ≤ payload.length := by
    rw [← answered]
    cases echoReply family packet payload <;> rfl
  unfold processICMP icmpNeed ICMP.type? ICMP.code?
  by_cases typed : 1 ≤ payload.length
  · rw [Slice.byteAt?_eq_some typed]
    simp only [some_bind, pure_def, Nat.add_zero]
    split
    · simpa using typed
    · by_cases coded : 2 ≤ payload.length
      · rw [Slice.byteAt?_eq_some coded]
        simp only [some_bind, admitted.destination, rejected]
        split
        · simpa using coded
        · by_cases own : some destinationAddr ≠ (system.inet family).map Inet.inetAddress
          · rw [if_pos own]
            by_cases reset : env.directRoute.err = some .reset
            · rw [if_pos reset, if_pos ⟨own, .inl reset⟩]
              cases newPacket <;> simpa using coded
            · rw [if_neg reset]
              by_cases dropped : env.directRoute.err = some .drop
              · rw [if_pos dropped, if_pos ⟨own, .inr (.inl dropped)⟩]
                simpa using coded
              · rw [if_neg dropped]
                by_cases action : env.directRoute.action = true
                · rw [if_pos action, if_pos ⟨own, .inr (.inr action)⟩]
                  simpa using coded
                · rw [if_neg action, if_neg (by simp [reset, dropped, action])]
                  exact kept
          · rw [if_neg own, if_neg fun forwarded => own forwarded.1]
            exact kept
      · rw [Slice.byteAt?_eq_none (by omega)]
        constructor
        · nofun
        · intro fits
          repeat' split at fits
          all_goals omega
  · rw [Slice.byteAt?_eq_none (by omega)]
    constructor
    · nofun
    · intro fits
      repeat' split at fits
      all_goals omega

theorem processTransport_isSome_iff :
    (processTransport family system env nat packet).isSome = true ↔
      payloadNeed system env nat packet payload sourceAddr destinationAddr ≤ payload.length := by
  obtain ⟨minimum, -⟩ := payload?_of_isValid admitted.valid
  have settled : (processTransport family system env nat packet).isSome =
      (transportVerdict family system env nat packet).isSome := by
    unfold processTransport
    cases transportVerdict family system env nat packet <;> rfl
  have protocol : ∃ protocol, transportProtocol? family packet = some protocol := by
    cases family with
    | v4 => exact ⟨_, byteAt?_eq_some (Nat.lt_of_lt_of_le (by decide) minimum)⟩
    | v6 => exact ⟨_, byteAt?_eq_some (Nat.lt_of_lt_of_le (by decide) minimum)⟩
  obtain ⟨protocol, protocol_eq⟩ := protocol
  rw [settled]
  unfold transportVerdict payloadNeed
  simp only [protocol_eq, admitted.payload, some_bind, Option.some.injEq]
  split
  · exact processTCP_isSome_iff admitted
  · split
    · rw [← processUDP_isSome_iff admitted]
      cases processUDP family packet payload <;> rfl
    · split
      · rw [← processICMP_isSome_iff admitted]
        cases processICMP family system env packet payload <;> rfl
      · simp

end Protocols

/-! ## Packets -/

/-- The payload of every admitted packet of a family is long enough. -/
def Fits (system : SystemStack) (env : Env) (packet : Bytes) (family : Family)
    (nat : TCPNat (AddrPort family)) : Prop :=
  ∀ payload sourceAddr destinationAddr,
    Admitted system packet family payload sourceAddr destinationAddr →
      payloadNeed system env nat packet payload sourceAddr destinationAddr ≤ payload.length

/-- `processIPv4` and `processIPv6`. -/
def processIP : (family : Family) → SystemStack → Env → TCPNat (AddrPort family) →
    Bytes → Option (Verdict × TCPNat (AddrPort family))
  | .v4 => processIPv4
  | .v6 => processIPv6

section Packets

variable {family : Family} {system : SystemStack} {packet : Bytes}

/-- A packet is dropped for its destination, or it gets to the switch on its
protocol. -/
theorem processIP_eq {addr : Addr family}
    (destination : destinationAddr? family packet = some addr) (env : Env)
    (nat : TCPNat (AddrPort family)) :
    processIP family system env nat packet =
      if system.isBroadcast addr = true ∨ addr.isGlobalUnicast = false then
        some (.drop packet, nat)
      else processTransport family system env nat packet := by
  cases family with
  | v4 =>
    change processIPv4 system env nat packet = _
    unfold processIPv4
    rw [bind_of_eq_some destination]
    simp only [SystemStack.isBroadcast, decide_eq_true_eq]
    rfl
  | v6 =>
    change processIPv6 system env nat packet = _
    unfold processIPv6
    rw [bind_of_eq_some destination]
    simp only [SystemStack.isBroadcast, Bool.false_eq_true, false_or]
    rfl

theorem processIP_isSome_iff (version : ipVersion packet = family.version)
    (valid : isValid family packet packet.length = true) (env : Env)
    (nat : TCPNat (AddrPort family)) :
    (processIP family system env nat packet).isSome = true ↔ Fits system env packet family nat := by
  obtain ⟨minimum, payload, found, -, -⟩ := payload?_of_isValid valid
  obtain ⟨addr, destination⟩ := exists_destinationAddr? minimum
  rw [processIP_eq destination]
  split
  · rename_i dropped
    refine iff_of_true rfl fun _ _ _ admitted => ?_
    obtain rfl := some.inj (destination.symm.trans admitted.destination)
    rcases dropped with broadcast | other
    · exact absurd (broadcast.symm.trans admitted.notBroadcast) (by decide)
    · exact absurd (other.symm.trans admitted.unicast) (by decide)
  · rename_i passed
    obtain ⟨notBroadcast, unicast⟩ := not_or.mp passed
    obtain ⟨sourceAddr, source⟩ := exists_sourceAddr? minimum
    have admitted : Admitted system packet family payload sourceAddr addr :=
      ⟨version, valid, found, source, destination, Bool.eq_false_of_not_eq_true notBroadcast,
        Bool.eq_true_of_not_eq_false unicast⟩
    rw [processTransport_isSome_iff admitted]
    constructor
    · intro fits payload' sourceAddr' destinationAddr' other
      obtain rfl := some.inj (found.symm.trans other.payload)
      obtain rfl := some.inj (source.symm.trans other.source)
      obtain rfl := some.inj (destination.symm.trans other.destination)
      exact fits
    · exact fun fits => fits _ _ _ admitted

theorem processPacket_valid (version : ipVersion packet = family.version)
    (valid : isValid family packet packet.length = true) (env : Env)
    (state : StackState) :
    processPacket system env state packet =
      (processIP family system env (state.nat family) packet).map
        fun result => (result.1, state.withNat result.2) := by
  unfold processPacket
  cases family with
  | v4 =>
    simp only [version, valid, Bool.not_true, Bool.false_eq_true, if_false, processIP,
      StackState.nat]
    cases processIPv4 system env state.tcpNat4 packet <;> rfl
  | v6 =>
    simp only [version, valid, Bool.not_true, Bool.false_eq_true, if_false, processIP,
      StackState.nat]
    cases processIPv6 system env state.tcpNat6 packet <;> rfl

/-- An admitted packet gets to the switch on its protocol. -/
theorem processPacket_admitted {payload : Slice} {sourceAddr destinationAddr : Addr family}
    (admitted : Admitted system packet family payload sourceAddr destinationAddr) (env : Env)
    (state : StackState) :
    processPacket system env state packet =
      (processTransport family system env (state.nat family) packet).map
        fun result => (result.1, state.withNat result.2) := by
  have passed : ¬(system.isBroadcast destinationAddr = true ∨
      destinationAddr.isGlobalUnicast = false) := by
    rw [admitted.notBroadcast, admitted.unicast]
    decide
  rw [processPacket_valid admitted.version admitted.valid,
    processIP_eq admitted.destination, if_neg passed]

/-- A packet of another version, or one that is not valid. -/
theorem processPacket_unaccepted
    (rejected : ∀ family : Family, ¬(ipVersion packet = family.version ∧
      isValid family packet packet.length = true)) (env : Env) (state : StackState) :
    (processPacket system env state packet).isSome = true := by
  have invalid : ∀ {family : Family}, ipVersion packet = family.version →
      (!isValid family packet packet.length) = true := fun version =>
    (Bool.not_eq_true' _).mpr (Bool.eq_false_of_not_eq_true fun valid =>
      rejected _ ⟨version, valid⟩)
  unfold processPacket
  dsimp only
  split
  · rename_i version
    rw [if_pos (@invalid .v4 version)]
    rfl
  · split
    · rename_i version
      rw [if_pos (@invalid .v6 version)]
      rfl
    · rfl

end Packets

/--
The stack gets through a packet exactly when the payload is as long as the way
needs that the packet takes.
-/
theorem processPacket_isSome_iff
    (system : SystemStack) (env : Env) (state : StackState) (packet : Bytes) :
    (processPacket system env state packet).isSome = true ↔
      ∀ family payload sourceAddr destinationAddr,
        Admitted system packet family payload sourceAddr destinationAddr →
          payloadNeed system env (state.nat family) packet payload sourceAddr
            destinationAddr ≤ payload.length := by
  by_cases accepted : ∃ family : Family, ipVersion packet = family.version ∧
      isValid family packet packet.length = true
  · obtain ⟨family, version, valid⟩ := accepted
    rw [processPacket_valid version valid, isSome_map, processIP_isSome_iff version valid]
    constructor
    · intro fits other
      by_cases same : other = family
      · exact same ▸ fits
      · intro payload sourceAddr destinationAddr admitted
        refine absurd (admitted.version.symm.trans version) ?_
        cases family <;> cases other <;> first
          | exact absurd rfl same
          | decide
    · exact fun fits => fits family
  · refine iff_of_true (processPacket_unaccepted (not_exists.mp accepted) env
      state) fun family payload sourceAddr destinationAddr admitted => ?_
    exact absurd ⟨family, admitted.version, admitted.valid⟩ accepted

/-- A valid packet of 20 octets, which says that it carries TCP. -/
def headerOnly : Bytes :=
  [0x45, 0, 0, 20, 0, 0, 0, 0, 64, 6, 0, 0, 10, 0, 0, 9, 1, 2, 3, 4]

/-- The source port is read where the packet has ended. -/
theorem processPacket_outside :
    20 ≤ headerOnly.length ∧ isValid .v4 headerOnly headerOnly.length = true ∧
      processPacket sampleSystem sampleEnv
        ⟨newNat (AddrPort .v4) 5, newNat (AddrPort .v6) 5⟩ headerOnly =
          none := by
  refine ⟨by decide, by decide, ?_⟩
  rfl

end SingTun.System
