import SingTun.Header.Transport
import SingTun.System.Nat

/-!
# The system stack

`System.processPacket` and what it calls.  A packet from the device is
rewritten in place and written back, answered with a packet of its own, given
to the handler, or dropped.

The packet is a byte string that is passed on; `none` is a panic, where the
program indexes or slices outside of it.  The functions for the two families
are one definition where the source repeats the same body.  What a call takes
from outside (the clock, the memory of a new buffer, the results of the device
and of the handler) is an `Env`.
-/

namespace SingTun.System

open Foundation Header

/-! ## Configuration and surroundings -/

/-- The fields that `start` sets for a family with an address. -/
structure Inet (family : Family) where
  inetAddress : Addr family
  inetNextAddress : Addr family
  tcpPort : UInt16

/-- The fields of `System` that packets depend on. -/
structure SystemStack where
  /-- Without an address there is no listener and no translation. -/
  inet : (family : Family) → Option (Inet family)
  inetLoopbackAddress : (family : Family) → List (Addr family)
  broadcastAddr : Option (Addr .v4)
  mtu : Int
  txChecksumOffload : Bool

/-- `tcpNat4` and `tcpNat6`. -/
structure StackState where
  tcpNat4 : TCPNat (AddrPort .v4)
  tcpNat6 : TCPNat (AddrPort .v6)

/-- The errors of `directNat.Lookup` that are told apart. -/
inductive DirectError
  | reset
  | drop
  | other (message : String)
deriving DecidableEq

/-- What `directNat.Lookup` returned. -/
structure DirectRoute where
  action : Bool
  err : Option DirectError
deriving DecidableEq

structure Env where
  /-- Readings of `time.Since` and of `time.Now`. -/
  since : Int
  now : Int
  /-- The octets of a buffer of this size, as the pool returns it. -/
  fresh : Nat → Bytes
  length_fresh : ∀ size, (fresh size).length = size
  /-- Result of `tun.Write`. -/
  writeErr : Option String
  directRoute : DirectRoute
  /-- Result of `action.WritePacket`. -/
  actionErr : Option String

/-- What is done besides changing the packet. -/
inductive Effect
  | tunWrite (packet : Bytes)
  | newPacket (family : Family) (source destination : AddrPort family)
      (data headerCopy : Bytes)
  | actionWrite (packet : Bytes)
deriving DecidableEq

/-- The result of processing a packet. -/
structure Verdict where
  writeBack : Bool
  err : Option String
  packet : Bytes
  effects : List Effect
deriving DecidableEq

namespace Verdict

/-- `return false, nil`. -/
def drop (packet : Bytes) : Verdict :=
  ⟨false, none, packet, []⟩

/-- `return true, nil`. -/
def keep (packet : Bytes) : Verdict :=
  ⟨true, none, packet, []⟩

/-- `return false, err`. -/
def fail (packet : Bytes) (message : String) : Verdict :=
  ⟨false, some message, packet, []⟩

end Verdict

/-! ## Packets of the stack itself -/

/-- `Encode` with the fields that the stack sets; the others are zero. -/
def encodeIP : {family : Family} → Bytes → Nat → UInt8 → Addr family → Addr family → Bytes
  | .v4, b, payloadLength, protocol, srcAddr, dstAddr =>
    let b := b.set 0 0x45
    let b := b.set 1 0
    let b := writeU16 b 2 (UInt16.ofNat (20 + payloadLength))
    let b := writeU16 b 4 0
    let b := writeU16 b 6 0
    let b := b.set 8 0
    let b := b.set 9 protocol
    let b := writeU16 b 10 0
    let b := overwrite b 12 srcAddr.octets
    overwrite b 16 dstAddr.octets
  | .v6, b, payloadLength, protocol, srcAddr, dstAddr =>
    let b := writeU32 b 0 0x60000000
    let b := writeU16 b 4 (UInt16.ofNat payloadLength)
    let b := b.set 7 0
    let b := overwrite b 8 srcAddr.octets
    let b := overwrite b 24 dstAddr.octets
    b.set 6 protocol

/-- `ipHdr.SetChecksum(^ipHdr.CalculateChecksum())` of a new packet. -/
def sealIP (family : Family) (b : Bytes) : Bytes :=
  match family with
  | .v4 =>
    writeU16 b 10 (~~~checksum (window b 12 8) (checksum (window b 0 10) 0))
  | .v6 => b

structure TCPFields where
  srcPort : UInt16
  dstPort : UInt16
  seqNum : UInt32
  ackNum : UInt32
  flags : UInt8

/-- `TCP.Encode` at `start`, with a header of minimum size. -/
def encodeTCP (b : Bytes) (start : Nat) (t : TCPFields) : Bytes :=
  let b := writeU32 b (start + 4) t.seqNum
  let b := writeU32 b (start + 8) t.ackNum
  let b := b.set (start + 13) t.flags
  let b := writeU16 b (start + 14) 0
  let b := writeU16 b start t.srcPort
  let b := writeU16 b (start + 2) t.dstPort
  let b := b.set (start + 12) (((20 : UInt8) / 4) <<< 4)
  let b := writeU16 b (start + 16) 0
  writeU16 b (start + 18) 0

/-- The sequence and acknowledgment numbers and the flags of a reset. -/
def resetFields? (packet : Bytes) (origTCPHdr : Slice) : Option TCPFields := do
  let srcPort ← TCP.destinationPort? packet origTCPHdr
  let dstPort ← TCP.sourcePort? packet origTCPHdr
  let flags ← TCP.flags? packet origTCPHdr
  if flags &&& TCP.flagAck ≠ 0 then
    let seqNum ← TCP.ackNumber? packet origTCPHdr
    pure { srcPort, dstPort, seqNum, ackNum := 0, flags := TCP.flagRst }
  else
    let sequenceNumber ← TCP.sequenceNumber? packet origTCPHdr
    let payload ← TCP.payload? packet origTCPHdr
    let ackNum := sequenceNumber + UInt32.ofNat payload.length
    let ackNum := if flags &&& TCP.flagSyn ≠ 0 then ackNum + 1 else ackNum
    let ackNum := if flags &&& TCP.flagFin ≠ 0 then ackNum + 1 else ackNum
    pure
      { srcPort, dstPort, seqNum := 0, ackNum
        flags := TCP.flagRst ||| TCP.flagAck }

/-- `resetIPv4TCP` and `resetIPv6TCP`: the packet that is written. -/
def resetTCP (family : Family) (system : SystemStack) (env : Env) (packet : Bytes)
    (origTCPHdr : Slice) : Option Bytes := do
  let newPacket := env.fresh (family.minimumSize + TCP.minimumSize)
  let srcAddr ← destinationAddr? family packet
  let dstAddr ← sourceAddr? family packet
  let newPacket := encodeIP newPacket TCP.minimumSize tcpProtocolNumber srcAddr dstAddr
  let start := family.minimumSize
  let fields ← resetFields? packet origTCPHdr
  let newPacket := encodeTCP newPacket start fields
  let newPacket :=
    if system.txChecksumOffload then newPacket
    else
      let pseudo := pseudoHeaderChecksum tcpProtocolNumber srcAddr.octets dstAddr.octets 20
      writeU16 newPacket (start + 16) (~~~checksum (window newPacket (start + 18) 2)
          (checksum (window newPacket start 16) pseudo))
  pure (sealIP family newPacket)

section

variable (system : SystemStack) (env : Env) (ipHdr : Bytes) (code : UInt8)

/-- `rejectIPv4WithICMP`: the packet that is written, if there is one. -/
def rejectIPv4WithICMP : Option (Option Bytes) := do
  let maxIPData : Int := 576 - 20
  let mtu := if system.mtu > maxIPData then maxIPData else system.mtu
  let available := mtu - 8
  if available < ipHdr.length + 8 then pure none
  else
    let payload := ipHdr.take available.toNat
    let newPacket := env.fresh (20 + 8 + payload.length)
    let srcAddr ← destinationAddr? .v4 ipHdr
    let dstAddr ← sourceAddr? .v4 ipHdr
    let newPacket := encodeIP newPacket (8 + payload.length) icmpv4ProtocolNumber srcAddr dstAddr
    let newPacket := sealIP .v4 newPacket
    let newPacket := newPacket.set 20 (ICMP.dstUnreachable .v4)
    let newPacket := newPacket.set 21 code
    let origPayload ← payload? .v4 ipHdr
    let xsum ← ICMP.icmpv4Checksum? (window newPacket 20 8) (checksum (origPayload.octets ipHdr) 0)
    let newPacket := writeU16 newPacket 22 xsum
    pure (some (overwrite newPacket 28 payload))

/-- `rejectIPv6WithICMP`: the packet that is written, if there is one. -/
def rejectIPv6WithICMP : Option (Option Bytes) := do
  let maxIPv6Data : Int := 1280 - 40
  let mtu := if system.mtu > maxIPv6Data then maxIPv6Data else system.mtu
  let available := mtu - 8
  if available < 40 then pure none
  else
    let payload := ipHdr.take available.toNat
    let newPacket := env.fresh (40 + 8 + payload.length)
    let srcAddr ← destinationAddr? .v6 ipHdr
    let dstAddr ← sourceAddr? .v6 ipHdr
    let newPacket := encodeIP newPacket (8 + payload.length) icmpv6ProtocolNumber srcAddr dstAddr
    let newPacket := newPacket.set 40 (ICMP.dstUnreachable .v6)
    let newPacket := newPacket.set 41 code
    let xsum ← ICMP.icmpv6Checksum? (window newPacket 40 8) srcAddr.octets
      dstAddr.octets (checksum payload 0) payload.length
    let newPacket := writeU16 newPacket 42 xsum
    pure (some (overwrite newPacket 48 payload))

end

/-- `ICMPv4HostUnreachable` and `ICMPv6AddressUnreachable`. -/
def rejectWithICMP : Family → SystemStack → Env → Bytes → Option (Option Bytes)
  | .v4, system, env, ipHdr => rejectIPv4WithICMP system env ipHdr 1
  | .v6, system, env, ipHdr => rejectIPv6WithICMP system env ipHdr 3

/-! ## TCP -/

section

variable (packet : Bytes) (tcpHdr : Slice) (txChecksumOffload : Bool)

/-- An address is replaced, with the checksums it is part of. -/
def rewriteAddress {family : Family} (position : Nat) (old new : Addr family) : Option Bytes := do
  if new ≠ old then
    let packet ← setAddressWithChecksumUpdate? packet position new
    if txChecksumOffload then pure packet
    else TCP.updateChecksumPseudoHeaderAddress? packet tcpHdr old new true
  else pure packet

/-- A new address, and a new port if it is to be rewritten. -/
structure Endpoint (family : Family) where
  addr : Addr family
  port : UInt16
  rewritePort : Bool

/-- `if rewriteSourcePort` and `if rewriteDestinationPort`. -/
def Endpoint.storePort {family : Family} (endpoint : Endpoint family) (packet : Bytes)
    (store : UInt16 → Option Bytes) : Option Bytes :=
  if endpoint.rewritePort then store endpoint.port else pure packet

/-- `rewriteIPv4TCP` and `rewriteIPv6TCP`. -/
def rewriteTCP {family : Family} (source destination : Endpoint family) : Option Bytes := do
  let oldSource ← sourceAddr? family packet
  let oldDestination ← destinationAddr? family packet
  let packet ← rewriteAddress packet tcpHdr txChecksumOffload family.srcAddr oldSource source.addr
  let packet ← rewriteAddress packet tcpHdr txChecksumOffload family.dstAddr
    oldDestination destination.addr
  if txChecksumOffload then
    let packet ← source.storePort packet (TCP.setSourcePort? packet tcpHdr)
    let packet ← destination.storePort packet (TCP.setDestinationPort? packet tcpHdr)
    TCP.setChecksum? packet tcpHdr 0
  else
    let packet ← source.storePort packet (TCP.setSourcePortWithChecksumUpdate? packet tcpHdr)
    destination.storePort packet (TCP.setDestinationPortWithChecksumUpdate? packet tcpHdr)

end

/-- The start of the texts of errors. -/
def Family.text : Family → String
  | .v4 => "ipv4"
  | .v6 => "ipv6"

def sessionNotFound (family : Family) (port : UInt16) : String :=
  Family.text family ++ ": tcp: session not found: " ++ toString port

variable (family : Family) (system : SystemStack) (env : Env) (nat : TCPNat (AddrPort family))

/-- `processIPv4TCP` and `processIPv6TCP`. -/
def processTCP (packet : Bytes) (tcpHdr : Slice) : Option (Verdict × TCPNat (AddrPort family)) := do
  match system.inet family with
  | none => pure (.drop packet, nat)
  | some inet =>
    let sourceAddr ← sourceAddr? family packet
    let sourcePort ← TCP.sourcePort? packet tcpHdr
    let destinationAddr ← destinationAddr? family packet
    let destinationPort ← TCP.destinationPort? packet tcpHdr
    if !destinationAddr.isGlobalUnicast then pure (.drop packet, nat)
    else if sourceAddr = inet.inetAddress ∧ sourcePort = inet.tcpPort then
      match nat.lookupBack destinationPort env.since env.now with
      | (none, nat) =>
        pure (.fail packet (sessionNotFound family destinationPort), nat)
      | (some session, nat) =>
        let packet ← rewriteTCP packet tcpHdr system.txChecksumOffload
          ⟨session.destination.addr, session.destination.port, true⟩
          ⟨session.source.addr, session.source.port, true⟩
        pure (.keep packet, nat)
    else if destinationAddr ∈ system.inetLoopbackAddress family then
      let packet ← rewriteTCP packet tcpHdr system.txChecksumOffload
        ⟨destinationAddr, 0, false⟩ ⟨sourceAddr, 0, false⟩
      pure (.keep packet, nat)
    else
      match nat.lookup ⟨sourceAddr, sourcePort⟩
          ⟨destinationAddr, destinationPort⟩ env.since env.now with
      | (.error _, nat) =>
        let newPacket ← resetTCP family system env packet tcpHdr
        pure (⟨false, env.writeErr, packet, [.tunWrite newPacket]⟩, nat)
      | (.ok natPort, nat) =>
        let packet ← rewriteTCP packet tcpHdr system.txChecksumOffload
          ⟨inet.inetNextAddress, natPort, true⟩ ⟨inet.inetAddress, inet.tcpPort, true⟩
        pure (.keep packet, nat)

/-! ## UDP -/

/-- The length of the headers that the packet writer keeps. -/
def udpHeaderLen? : Family → Bytes → Option Int
  | .v4, ipHdr => do
      let headerLength ← IPv4.headerLength? ipHdr
      pure (headerLength + 8).toNat
  | .v6, ipHdr => do
      let payloadLength ← IPv6.payloadLength? ipHdr
      pure ((ipHdr.length : Int) - payloadLength.toNat + 8)

/-- The common part of `processIPv4UDP` and `processIPv6UDP`. -/
def deliverUDP (family : Family) (packet : Bytes) (udpHdr : Slice) : Option Verdict := do
  let sourceAddr ← sourceAddr? family packet
  let sourcePort ← UDP.sourcePort? packet udpHdr
  let destinationAddr ← destinationAddr? family packet
  let destinationPort ← UDP.destinationPort? packet udpHdr
  if !destinationAddr.isGlobalUnicast then pure (.drop packet)
  else
    let data ← UDP.payload? udpHdr
    if data.length = 0 then pure (.drop packet)
    else
      let headerLen ← udpHeaderLen? family packet
      -- A negative length would stop `make`.
      if headerLen < 0 then none
      else
        let headerCopy ← slice? packet 0 headerLen.toNat
        pure ⟨false, none, packet, [.newPacket family ⟨sourceAddr, sourcePort⟩
            ⟨destinationAddr, destinationPort⟩ (data.octets packet) headerCopy]⟩

def processIPv4UDP (packet : Bytes) (udpHdr : Slice) : Option Verdict := do
  let flags ← IPv4.flags? packet
  if flags &&& IPv4.flagMoreFragments ≠ 0 then
    pure (.fail packet "ipv4: fragment dropped")
  else
    let fragmentOffset ← IPv4.fragmentOffset? packet
    if fragmentOffset ≠ 0 then
      pure (.fail packet "ipv4: udp: fragment dropped")
    else deliverUDP .v4 packet udpHdr

def processIPv6UDP (packet : Bytes) (udpHdr : Slice) : Option Verdict :=
  deliverUDP .v6 packet udpHdr

def processUDP : Family → Bytes → Slice → Option Verdict
  | .v4 => processIPv4UDP
  | .v6 => processIPv6UDP

/-! ## ICMP -/

/-- The checksums of a packet that was turned into an echo reply. -/
def sealEchoReply : Family → Bytes → Slice → Option Bytes
  | .v4, packet, icmpHdr => do
      let xsum ← ICMP.icmpv4Checksum? (icmpHdr.octets packet) 0
      let packet ← ICMP.setChecksum? packet icmpHdr xsum
      let xsum ← IPv4.calculateChecksum? packet
      IPv4.setChecksum? packet (~~~xsum)
  | .v6, packet, icmpHdr => do
      let src ← sourceAddr? .v6 packet
      let dst ← destinationAddr? .v6 packet
      let xsum ← ICMP.icmpv6Checksum? (icmpHdr.octets packet) src.octets dst.octets 0 0
      ICMP.setChecksum? packet icmpHdr xsum

/-- The packet becomes the reply to itself. -/
def echoReply (family : Family) (packet : Bytes) (icmpHdr : Slice) : Option Bytes := do
  let packet ← ICMP.setType? packet icmpHdr (ICMP.echoReply family)
  let sourceAddress ← sourceAddr? family packet
  let destinationAddress ← destinationAddr? family packet
  let packet ← setSourceAddr? packet destinationAddress
  let packet ← setDestinationAddr? packet sourceAddress
  sealEchoReply family packet icmpHdr

/-- `processIPv4ICMP` and `processIPv6ICMP`. -/
def processICMP (family : Family) (system : SystemStack) (env : Env) (packet : Bytes)
    (icmpHdr : Slice) : Option Verdict := do
  let type ← ICMP.type? packet icmpHdr
  if type ≠ ICMP.echo family then pure (.drop packet)
  else
    let code ← ICMP.code? packet icmpHdr
    if code ≠ 0 then pure (.drop packet)
    else
      let destinationAddr ← destinationAddr? family packet
      if some destinationAddr ≠ (system.inet family).map Inet.inetAddress then
        if env.directRoute.err = some .reset then
          match ← rejectWithICMP family system env packet with
          | none => pure (.drop packet)
          | some newPacket =>
            pure ⟨false, env.writeErr, packet, [.tunWrite newPacket]⟩
        else if env.directRoute.err = some .drop then pure (.drop packet)
        else if env.directRoute.action then
          pure ⟨false, env.actionErr, packet, [.actionWrite packet]⟩
        else
          let packet ← echoReply family packet icmpHdr
          pure (.keep packet)
      else
        let packet ← echoReply family packet icmpHdr
        pure (.keep packet)

/-! ## Packets -/

/-- The protocol switch of `processIPv4` and `processIPv6`. -/
def transportVerdict (packet : Bytes) : Option (Verdict × TCPNat (AddrPort family)) := do
  let protocol ← transportProtocol? family packet
  if protocol = tcpProtocolNumber then
    let payload ← payload? family packet
    processTCP family system env nat packet payload
  else if protocol = udpProtocolNumber then
    let payload ← payload? family packet
    let verdict ← processUDP family packet payload
    pure (verdict, nat)
  else if protocol = ICMP.protocolNumber family then
    let payload ← payload? family packet
    let verdict ← processICMP family system env packet payload
    pure (verdict, nat)
  else pure (.keep packet, nat)

/-- `if err != nil { writeBack = false }`. -/
def Verdict.settle (verdict : Verdict) : Verdict :=
  if verdict.err.isSome then { verdict with writeBack := false }
  else verdict

/-- The common part of `processIPv4` and `processIPv6`. -/
def processTransport (packet : Bytes) : Option (Verdict × TCPNat (AddrPort family)) := do
  let (verdict, nat) ← transportVerdict family system env nat packet
  pure (verdict.settle, nat)

variable (system : SystemStack) (env : Env)

def processIPv4 (nat : TCPNat (AddrPort .v4))
    (packet : Bytes) : Option (Verdict × TCPNat (AddrPort .v4)) := do
  let destination ← destinationAddr? .v4 packet
  if some destination = system.broadcastAddr ∨ destination.isGlobalUnicast = false then
    pure (.drop packet, nat)
  else processTransport .v4 system env nat packet

def processIPv6 (nat : TCPNat (AddrPort .v6))
    (packet : Bytes) : Option (Verdict × TCPNat (AddrPort .v6)) := do
  let destination ← destinationAddr? .v6 packet
  if destination.isGlobalUnicast = false then pure (.drop packet, nat)
  else processTransport .v6 system env nat packet

/-- An error is logged and the packet is not written back. -/
def processPacket (state : StackState) (packet : Bytes) : Option (Verdict × StackState) := do
  let version := ipVersion packet
  if version = 4 then
    if !isValid .v4 packet packet.length then
      pure (.fail packet "ip: invalid IPv4 packet", state)
    else
      let (verdict, tcpNat4) ← processIPv4 system env state.tcpNat4 packet
      pure (verdict, { state with tcpNat4 })
  else if version = 6 then
    if !isValid .v6 packet packet.length then
      pure (.fail packet "ip: invalid IPv6 packet", state)
    else
      let (verdict, tcpNat6) ← processIPv6 system env state.tcpNat6 packet
      pure (verdict, { state with tcpNat6 })
  else
    pure (.fail packet ("ip: unknown version: " ++ toString version), state)

end SingTun.System
