import SingTun.Header.Network

/-!
# TCP, UDP and ICMP headers

The accessors of the transport headers.  A transport header is the slice of
the packet behind its IP header; the bounds are those of this slice, and the
writes are seen in the packet.
-/

namespace SingTun.Header

open Foundation

namespace TCP

section

variable (packet : Bytes) (b : Slice)

def sourcePort? : Option UInt16 :=
  b.readU16? packet 0

def destinationPort? : Option UInt16 :=
  b.readU16? packet 2

def sequenceNumber? : Option UInt32 :=
  b.readU32? packet 4

def ackNumber? : Option UInt32 :=
  b.readU32? packet 8

def dataOffset? : Option UInt8 := do
  let octet ← b.byteAt? packet 12
  pure ((octet >>> 4) * 4)

def payload? : Option Slice := do
  let dataOffset ← dataOffset? packet b
  b.from? dataOffset.toNat

def flags? : Option UInt8 :=
  b.byteAt? packet 13

def checksum? : Option UInt16 :=
  b.readU16? packet 16

def setSourcePort? (port : UInt16) : Option Bytes :=
  b.writeU16? packet 0 port

def setDestinationPort? (port : UInt16) : Option Bytes :=
  b.writeU16? packet 2 port

def setChecksum? (xsum : UInt16) : Option Bytes :=
  b.writeU16? packet 16 xsum

/-- The common part of the two setters of a port. -/
def setPortWithChecksumUpdate? (position : Nat) (new : UInt16) : Option Bytes := do
  let old ← b.readU16? packet position
  let packet ← b.writeU16? packet position new
  let xsum ← checksum? packet b
  setChecksum? packet b (~~~checksumUpdate2ByteAlignedUint16 (~~~xsum) old new)

def setSourcePortWithChecksumUpdate? (new : UInt16) : Option Bytes :=
  setPortWithChecksumUpdate? packet b 0 new

def setDestinationPortWithChecksumUpdate? (new : UInt16) : Option Bytes :=
  setPortWithChecksumUpdate? packet b 2 new

def updateChecksumPseudoHeaderAddress? {family : Family} (old new : Addr family)
    (fullChecksum : Bool) : Option Bytes := do
  let xsum ← checksum? packet b
  let xsum := if fullChecksum then ~~~xsum else xsum
  let xsum := checksumUpdate2ByteAlignedAddress xsum old.octets new.octets
  let xsum := if fullChecksum then ~~~xsum else xsum
  setChecksum? packet b xsum

end

section Stores

variable {packet : Bytes} {b : Slice}

/-- The octets of the checksum field. -/
def ChecksumOctet (b : Slice) (k : Nat) : Prop :=
  k = b.start + 16 ∨ k = b.start + 17

/-- The octets of a port and of the checksum field. -/
def PortOctet (b : Slice) (position k : Nat) : Prop :=
  (k = b.start + position ∨ k = b.start + position + 1) ∨ ChecksumOctet b k

theorem setChecksum?_spec (xsum : UInt16) (long : 18 ≤ b.length) :
    ∃ packet', setChecksum? packet b xsum = some packet' ∧
      ChangedAt (ChecksumOctet b) packet packet' := by
  refine ⟨_, Slice.writeU16?_eq_some xsum long, ?_⟩
  apply ChangedAt.writeU16
  · exact .inl rfl
  · exact .inr rfl

theorem updateChecksumPseudoHeaderAddress?_spec
    {family : Family} (old new : Addr family) (fullChecksum : Bool)
    (long : 18 ≤ b.length) :
    ∃ packet',
      updateChecksumPseudoHeaderAddress? packet b old new fullChecksum =
          some packet' ∧ ChangedAt (ChecksumOctet b) packet packet' := by
  unfold updateChecksumPseudoHeaderAddress? checksum?
  rw [Slice.readU16?_eq_some (by omega)]
  exact setChecksum?_spec _ long

/-- A port that is stored is read back. -/
theorem writePort_spec {position : Nat} (new : UInt16) (inside : b.Inside packet)
    (long : position + 2 ≤ b.length) :
    ∃ packet', b.writeU16? packet position new = some packet' ∧
      readU16 packet' (b.start + position) = new ∧
      ChangedAt (PortOctet b position) packet packet' := by
  unfold Slice.Inside at inside
  refine ⟨_, Slice.writeU16?_eq_some new long, ?_, ?_⟩
  · exact readU16_writeU16_self (by omega)
  · apply ChangedAt.writeU16
    · exact .inl (.inl rfl)
    · exact .inl (.inr rfl)

theorem setPortWithChecksumUpdate?_spec {position : Nat} (new : UInt16) (inside : b.Inside packet)
    (port : position ≤ 2)
    (long : 18 ≤ b.length) :
    ∃ packet', setPortWithChecksumUpdate? packet b position new = some packet' ∧
        readU16 packet' (b.start + position) = new ∧
        ChangedAt (PortOctet b position) packet packet' := by
  obtain ⟨middle, stored, read, change⟩ := @writePort_spec packet b position new inside (by omega)
  unfold setPortWithChecksumUpdate? checksum?
  rw [bind_of_eq_some (Slice.readU16?_eq_some (by omega))]
  rw [bind_of_eq_some stored]
  rw [bind_of_eq_some (Slice.readU16?_eq_some (by omega))]
  obtain ⟨packet', summed, sumChange⟩ := @setChecksum?_spec middle b
    (~~~checksumUpdate2ByteAlignedUint16 (~~~readU16 middle (b.start + 16))
      (readU16 packet (b.start + position)) new) long
  refine ⟨packet', summed, ?_, ?_⟩
  · rw [sumChange.readU16_eq ?_ ?_, read]
    · unfold ChecksumOctet
      omega
    · unfold ChecksumOctet
      omega
  · apply change.trans
    apply sumChange.mono
    intro k covered
    exact .inr covered

end Stores

/-- `TCPFlagFin`, `TCPFlagSyn`, `TCPFlagRst` and `TCPFlagAck`. -/
def flagFin : UInt8 := 0x01

@[inherit_doc flagFin]
def flagSyn : UInt8 := 0x02

@[inherit_doc flagFin]
def flagRst : UInt8 := 0x04

@[inherit_doc flagFin]
def flagAck : UInt8 := 0x10

/-- `TCPMinimumSize`. -/
def minimumSize : Nat := 20

end TCP

namespace UDP

variable (packet : Bytes) (b : Slice)

def sourcePort? : Option UInt16 :=
  b.readU16? packet 0

def destinationPort? : Option UInt16 :=
  b.readU16? packet 2

/-- `UDPMinimumSize`. -/
def minimumSize : Nat := 8

def payload? (b : Slice) : Option Slice :=
  b.from? minimumSize

def length? : Option UInt16 :=
  b.readU16? packet 4

def checksum? : Option UInt16 :=
  b.readU16? packet 6

def setSourcePort? (port : UInt16) : Option Bytes :=
  b.writeU16? packet 0 port

def setDestinationPort? (port : UInt16) : Option Bytes :=
  b.writeU16? packet 2 port

def setLength? (length : UInt16) : Option Bytes :=
  b.writeU16? packet 4 length

def setChecksum? (xsum : UInt16) : Option Bytes :=
  b.writeU16? packet 6 xsum

/-- The sum over the header, without the checksum field. -/
def calculateChecksum? (initial : UInt16) : Option UInt16 := do
  let front ← slice? (b.octets packet) 0 6
  let back ← slice? (b.octets packet) 8 minimumSize
  pure (checksum back (checksum front initial))

end UDP

namespace ICMP

variable (packet : Bytes) (b : Slice)

/-- `Type`, in both families. -/
def type? : Option UInt8 :=
  b.byteAt? packet 0

def code? : Option UInt8 :=
  b.byteAt? packet 1

def setType? (t : UInt8) : Option Bytes :=
  b.setByte? packet 0 t

def setChecksum? (cs : UInt16) : Option Bytes :=
  b.writeU16? packet 2 cs

def ident? : Option UInt16 :=
  b.readU16? packet 4

def setIdent? (ident : UInt16) : Option Bytes :=
  b.writeU16? packet 4 ident

def sequence? : Option UInt16 :=
  b.readU16? packet 6

/-- `ICMPv4Echo` and `ICMPv6EchoRequest`. -/
def echo : Family → UInt8
  | .v4 => 8
  | .v6 => 128

/-- `ICMPv4EchoReply` and `ICMPv6EchoReply`. -/
def echoReply : Family → UInt8
  | .v4 => 0
  | .v6 => 129

/-- `ICMPv4DstUnreachable` and `ICMPv6DstUnreachable`. -/
def dstUnreachable : Family → UInt8
  | .v4 => 3
  | .v6 => 1

/-- `ICMPv4ProtocolNumber` and `ICMPv6ProtocolNumber`. -/
def protocolNumber : Family → UInt8
  | .v4 => icmpv4ProtocolNumber
  | .v6 => icmpv6ProtocolNumber

/-- The sum over a message, without the checksum field. -/
def messageChecksum? (h : Bytes) (initial : UInt16) : Option UInt16 := do
  let front ← slice? h 0 2
  let back ← sliceFrom? h 4
  pure (checksum back (checksum front initial))

theorem messageChecksum?_eq_some {h : Bytes} (long : 4 ≤ h.length) (initial : UInt16) :
    messageChecksum? h initial = some (checksum (h.drop 4) (checksum (h.take 2) initial)) := by
  unfold messageChecksum?
  rw [slice?_eq_some (by omega) (by omega), sliceFrom?_eq_some long]
  rfl

/-- `ICMPv4Checksum`. -/
def icmpv4Checksum? (h : Bytes) (payloadCsum : UInt16) : Option UInt16 := do
  let xsum ← messageChecksum? h payloadCsum
  pure (~~~xsum)

/-- `ICMPv6Checksum`. -/
def icmpv6Checksum? (h src dst : Bytes) (payloadCsum : UInt16) (payloadLen : Nat) :
    Option UInt16 := do
  let xsum := pseudoHeaderChecksum icmpv6ProtocolNumber src dst
    (UInt16.ofNat (h.length + payloadLen))
  let xsum := combine xsum payloadCsum
  let xsum ← messageChecksum? h xsum
  pure (~~~xsum)

end ICMP

end SingTun.Header
