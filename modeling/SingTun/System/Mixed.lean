import SingTun.System.Safety

/-!
# The mixed stack

`Mixed` uses the TCP and ICMP functions of `System` and hands UDP packets to
another stack.  Its dispatchers are copies of those of `System`, with one
difference that matters: they start with `writeBack = true`, so a packet that
is left alone for its destination is written back to the device.
-/

namespace SingTun.System

open Foundation Header

namespace Mixed

/-- A verdict, and the packets that the other stack gets. -/
structure Verdict where
  system : System.Verdict
  injectInbound : List (Family × Bytes)
deriving DecidableEq

/-- The protocol switch of `processIPv4` and `processIPv6`. -/
def transportVerdict (family : Family) (system : SystemStack) (env : Env)
    (nat : TCPNat (AddrPort family)) (packet : Bytes) :
    Option (Verdict × TCPNat (AddrPort family)) := do
  let protocol ← transportProtocol? family packet
  if protocol = tcpProtocolNumber then
    let payload ← payload? family packet
    let (verdict, nat) ← processTCP family system env nat packet payload
    pure (⟨verdict, []⟩, nat)
  else if protocol = udpProtocolNumber then
    pure (⟨.drop packet, [(family, packet)]⟩, nat)
  else if protocol = ICMP.protocolNumber family then
    let payload ← payload? family packet
    let verdict ← processICMP family system env packet payload
    pure (⟨verdict, []⟩, nat)
  else pure (⟨.keep packet, []⟩, nat)

def processIPv4 (system : SystemStack) (env : Env) (nat : TCPNat (AddrPort .v4))
    (packet : Bytes) : Option (Verdict × TCPNat (AddrPort .v4)) := do
  let destination ← destinationAddr? .v4 packet
  if some destination = system.broadcastAddr ∨ destination.isGlobalUnicast = false then
    pure (⟨.keep packet, []⟩, nat)
  else transportVerdict .v4 system env nat packet

def processIPv6 (system : SystemStack) (env : Env) (nat : TCPNat (AddrPort .v6))
    (packet : Bytes) : Option (Verdict × TCPNat (AddrPort .v6)) := do
  let destination ← destinationAddr? .v6 packet
  if destination.isGlobalUnicast = false then
    pure (⟨.keep packet, []⟩, nat)
  else transportVerdict .v6 system env nat packet

/-- `if err != nil { return false }`. -/
def Verdict.settle (verdict : Verdict) : Verdict :=
  { verdict with system := verdict.system.settle }

def processPacket (system : SystemStack) (env : Env) (state : StackState) (packet : Bytes) :
    Option (Verdict × StackState) := do
  let version := ipVersion packet
  if version = 4 then
    if !isValid .v4 packet packet.length then
      pure (⟨.fail packet "ip: invalid IPv4 packet", []⟩, state)
    else
      let (verdict, tcpNat4) ← processIPv4 system env state.tcpNat4 packet
      pure (verdict.settle, { state with tcpNat4 })
  else if version = 6 then
    if !isValid .v6 packet packet.length then
      pure (⟨.fail packet "ip: invalid IPv6 packet", []⟩, state)
    else
      let (verdict, tcpNat6) ← processIPv6 system env state.tcpNat6 packet
      pure (verdict.settle, { state with tcpNat6 })
  else
    pure (⟨.fail packet ("ip: unknown version: " ++ toString version), []⟩, state)

end Mixed

/-! ## What can be seen of a packet -/

/-- Whether a packet is written back, its octets, and the tables. -/
structure Outcome where
  writeBack : Bool
  packet : Bytes
  state : StackState

section

variable (system : SystemStack) (env : Env) (state : StackState) (packet : Bytes)

/-- What `System.processPacket` leaves, if it returns. -/
def systemOutcome : Option Outcome :=
  (processPacket system env state packet).map fun result =>
    ⟨result.1.writeBack, result.1.packet, result.2⟩

/-- What `Mixed.processPacket` leaves, if it returns. -/
def mixedOutcome : Option Outcome :=
  (Mixed.processPacket system env state packet).map fun result =>
    ⟨result.1.system.writeBack, result.1.system.packet, result.2⟩

end

/-- The protocol of a packet that is dispatched is not UDP. -/
def NotUDP (packet : Bytes) : Prop :=
  ∀ family, ipVersion packet = Family.version family → isValid family packet packet.length = true →
      transportProtocol? family packet ≠ some udpProtocolNumber

/-- A packet that neither stack looks into. -/
def LeftAlone (system : SystemStack) (packet : Bytes) : Prop :=
  ∃ family, ∃ destination : Addr family, ipVersion packet = family.version ∧
      isValid family packet packet.length = true ∧
      destinationAddr? family packet = some destination ∧ (system.isBroadcast destination = true ∨
        destination.isGlobalUnicast = false)

section Agreement

variable {system : SystemStack} {env : Env} {packet : Bytes}

/-- Without UDP the two switches are the same. -/
theorem mixed_transportVerdict {family : Family} (nat : TCPNat (AddrPort family))
    (other : transportProtocol? family packet ≠ some udpProtocolNumber) :
    Mixed.transportVerdict family system env nat packet =
      (transportVerdict family system env nat packet).map fun result =>
        (⟨result.1, []⟩, result.2) := by
  unfold Mixed.transportVerdict transportVerdict
  cases protocol_eq : transportProtocol? family packet with
  | none => rfl
  | some protocol =>
    have notUDP : protocol ≠ udpProtocolNumber := by
      rintro rfl
      exact other protocol_eq
    simp only [some_bind, notUDP, if_false]
    split
    · cases payload? family packet with
      | none => rfl
      | some payload =>
        simp only [some_bind]
        cases processTCP family system env nat packet payload <;> rfl
    · split
      · cases payload? family packet with
        | none => rfl
        | some payload =>
          simp only [some_bind]
          cases processICMP family system env packet payload <;> rfl
      · rfl

/-- The result of a dispatcher, as it is seen with the tables. -/
def seen {family : Family} (table : TCPNat (AddrPort family) → StackState)
    (result : Verdict × TCPNat (AddrPort family)) : Outcome :=
  ⟨result.1.writeBack, result.1.packet, table result.2⟩

/-- A packet that is looked into by both. -/
theorem seen_transport {family : Family} (nat : TCPNat (AddrPort family))
    (table : TCPNat (AddrPort family) → StackState)
    (other : transportProtocol? family packet ≠ some udpProtocolNumber) :
    (processTransport family system env nat packet).map (seen table) =
      (Mixed.transportVerdict family system env nat packet).map fun result =>
        seen table (result.1.settle.system, result.2) := by
  rw [mixed_transportVerdict nat other, processTransport]
  cases transportVerdict family system env nat packet <;> rfl

theorem systemOutcome_v4 (version : ipVersion packet = 4)
    (valid : isValid .v4 packet packet.length = true) (state : StackState) :
    systemOutcome system env state packet = (processIPv4 system env state.tcpNat4 packet).map
        (seen fun tcpNat4 => { state with tcpNat4 }) := by
  unfold systemOutcome processPacket
  simp only [version, valid, if_true, Bool.not_true, Bool.false_eq_true, if_false]
  cases processIPv4 system env state.tcpNat4 packet <;> rfl

theorem systemOutcome_v6 (version : ipVersion packet = 6)
    (valid : isValid .v6 packet packet.length = true) (state : StackState) :
    systemOutcome system env state packet = (processIPv6 system env state.tcpNat6 packet).map
        (seen fun tcpNat6 => { state with tcpNat6 }) := by
  unfold systemOutcome processPacket
  simp only [version, valid, if_true, Bool.not_true, Bool.false_eq_true, if_false]
  cases processIPv6 system env state.tcpNat6 packet <;> rfl

theorem mixedOutcome_v4 (version : ipVersion packet = 4)
    (valid : isValid .v4 packet packet.length = true) (state : StackState) :
    mixedOutcome system env state packet =
      (Mixed.processIPv4 system env state.tcpNat4 packet).map fun result =>
        seen (fun tcpNat4 => { state with tcpNat4 }) (result.1.settle.system, result.2) := by
  unfold mixedOutcome Mixed.processPacket
  simp only [version, valid, if_true, Bool.not_true, Bool.false_eq_true, if_false]
  cases Mixed.processIPv4 system env state.tcpNat4 packet <;> rfl

theorem mixedOutcome_v6 (version : ipVersion packet = 6)
    (valid : isValid .v6 packet packet.length = true) (state : StackState) :
    mixedOutcome system env state packet =
      (Mixed.processIPv6 system env state.tcpNat6 packet).map fun result =>
        seen (fun tcpNat6 => { state with tcpNat6 }) (result.1.settle.system, result.2) := by
  unfold mixedOutcome Mixed.processPacket
  simp only [version, valid, if_true, Bool.not_true, Bool.false_eq_true, if_false]
  cases Mixed.processIPv6 system env state.tcpNat6 packet <;> rfl

/-- A packet of one family that both leave alone. -/
theorem outcome_of_leftAlone (alone : LeftAlone system packet) (state : StackState) :
    systemOutcome system env state packet = some ⟨false, packet, state⟩ ∧
      mixedOutcome system env state packet = some ⟨true, packet, state⟩ := by
  obtain ⟨family, destination, version, valid, found, dropped⟩ := alone
  cases family with
  | v4 =>
    have rejected : some destination = system.broadcastAddr ∨ destination.isGlobalUnicast = false :=
      dropped.imp_left of_decide_eq_true
    rw [systemOutcome_v4 version valid, mixedOutcome_v4 version valid,
      processIPv4, Mixed.processIPv4, found]
    simp only [some_bind, if_pos rejected]
    exact ⟨rfl, rfl⟩
  | v6 =>
    have rejected : destination.isGlobalUnicast = false := by
      rcases dropped with broadcast | other
      · cases broadcast
      · exact other
    rw [systemOutcome_v6 version valid, mixedOutcome_v6 version valid,
      processIPv6, Mixed.processIPv6, found]
    simp only [some_bind, if_pos rejected]
    exact ⟨rfl, rfl⟩

theorem outcome_of_not_leftAlone (notUDP : NotUDP packet)
    (lookedInto : ¬LeftAlone system packet)
    (state : StackState) :
    systemOutcome system env state packet = mixedOutcome system env state packet := by
  by_cases version4 : ipVersion packet = 4
  · by_cases valid : isValid .v4 packet packet.length = true
    · obtain ⟨destination, found⟩ := exists_destinationAddr? (payload?_of_isValid valid).1
      have passed : ¬(some destination = system.broadcastAddr ∨
          destination.isGlobalUnicast = false) := by
        intro dropped
        exact lookedInto ⟨.v4, destination, version4, valid, found, dropped.imp_left decide_eq_true⟩
      rw [systemOutcome_v4 version4 valid, mixedOutcome_v4 version4 valid,
        processIPv4, Mixed.processIPv4, found]
      simp only [some_bind, if_neg passed]
      exact seen_transport _ _ (notUDP .v4 version4 valid)
    · unfold systemOutcome mixedOutcome processPacket Mixed.processPacket
      simp only [version4, valid, if_true]
      rfl
  · by_cases version6 : ipVersion packet = 6
    · by_cases valid : isValid .v6 packet packet.length = true
      · obtain ⟨destination, found⟩ := exists_destinationAddr? (payload?_of_isValid valid).1
        have passed : ¬destination.isGlobalUnicast = false := by
          intro other
          exact lookedInto ⟨.v6, destination, version6, valid, found, .inr other⟩
        rw [systemOutcome_v6 version6 valid, mixedOutcome_v6 version6 valid,
          processIPv6, Mixed.processIPv6, found]
        simp only [some_bind, if_neg passed]
        exact seen_transport _ _ (notUDP .v6 version6 valid)
      · unfold systemOutcome mixedOutcome processPacket Mixed.processPacket
        simp only [version6, valid, if_true]
        rfl
    · unfold systemOutcome mixedOutcome processPacket Mixed.processPacket
      simp only [version4, version6, if_false]
      rfl

end Agreement

/--
Without UDP the two stacks agree exactly on the packets that are not left
alone for their destination.
-/
theorem outcomes_agree_iff (system : SystemStack) (env : Env) (state : StackState)
    (packet : Bytes)
    (notUDP : NotUDP packet) :
    systemOutcome system env state packet =
      mixedOutcome system env state packet ↔ ¬LeftAlone system packet := by
  constructor
  · intro agree alone
    obtain ⟨left, right⟩ := @outcome_of_leftAlone system env packet alone state
    rw [left, right] at agree
    cases agree
  · intro lookedInto
    exact outcome_of_not_leftAlone notUDP lookedInto state

theorem samplePacket_notUDP : NotUDP samplePacket := by
  intro family
  cases family <;> decide

theorem outcomes_agree_iff_sample :
    systemOutcome sampleSystem sampleEnv
        ⟨newNat (AddrPort .v4) 5, newNat (AddrPort .v6) 5⟩ samplePacket =
      mixedOutcome sampleSystem sampleEnv
        ⟨newNat (AddrPort .v4) 5, newNat (AddrPort .v6) 5⟩ samplePacket := by
  apply (outcomes_agree_iff sampleSystem sampleEnv _ samplePacket samplePacket_notUDP).mpr
  rintro ⟨family, destination, version, valid, found, dropped⟩
  cases family with
  | v4 =>
    obtain rfl : ⟨[1, 2, 3, 4], rfl⟩ = destination := Option.some.inj found
    revert dropped
    decide
  | v6 => cases valid

/-- An IGMP packet to the group `224.0.0.22`. -/
def multicastPacket : Bytes :=
  [0x45, 0, 0, 20, 0, 0, 0, 0, 1, 2, 0, 0, 10, 0, 0, 9, 224, 0, 0, 22]

/-- The mixed stack writes the packet back, the system stack does not. -/
theorem outcomes_differ_multicast :
    NotUDP multicastPacket ∧ (systemOutcome sampleSystem sampleEnv
          ⟨newNat (AddrPort .v4) 5, newNat (AddrPort .v6) 5⟩
            multicastPacket).map Outcome.writeBack = some false ∧
      (mixedOutcome sampleSystem sampleEnv ⟨newNat (AddrPort .v4) 5, newNat (AddrPort .v6) 5⟩
            multicastPacket).map Outcome.writeBack = some true := by
  refine ⟨?_, rfl, rfl⟩
  intro family
  cases family <;> decide

end SingTun.System
