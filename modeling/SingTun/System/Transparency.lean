import SingTun.System.NatInvariant
import SingTun.System.Rewrite

/-!
# The translation of TCP connections is transparent

The stack sends the packets of a client to its own listener, from a port that
stands for the pair of the endpoints, and turns the packets of the listener
back.  What one packet may do to the table is one call of the table, so the
invariant of the table carries over to every run of the stack.
-/

namespace SingTun.System

open Foundation Header Option

/-! ## Packets -/

/-- A valid packet with a whole TCP header. -/
structure Complete (family : Family) (packet : Bytes) (tcpHdr : Slice) :
    Prop where
  valid : isValid family packet packet.length = true
  payload : payload? family packet = some tcpHdr
  header : TCP.minimumSize ≤ tcpHdr.length

/-- The endpoints that are read from a packet. -/
structure Carries (family : Family) (packet : Bytes) (tcpHdr : Slice)
    (source destination : AddrPort family) : Prop where
  sourceAddr : sourceAddr? family packet = some source.addr
  sourcePort : TCP.sourcePort? packet tcpHdr = some source.port
  destinationAddr : destinationAddr? family packet = some destination.addr
  destinationPort : TCP.destinationPort? packet tcpHdr = some destination.port

/-- The endpoints of a connection that is translated. -/
structure IsClient {family : Family} (system : SystemStack) (inet : Inet family)
    (source destination : AddrPort family) : Prop where
  unicast : destination.addr.isGlobalUnicast = true
  notLoopback : destination.addr ∉ system.inetLoopbackAddress family
  notListener : source ≠ ⟨inet.inetAddress, inet.tcpPort⟩

section Packets

variable {family : Family} {packet : Bytes} {tcpHdr : Slice}

variable (complete : Complete family packet tcpHdr)
include complete

theorem Complete.layout : Layout family packet tcpHdr := by
  obtain ⟨-, start, inside⟩ := payload?_bounds complete.valid complete.payload
  exact ⟨start, inside⟩

theorem Complete.exists_carries :
    ∃ source destination, Carries family packet tcpHdr source destination := by
  have long := complete.layout.long
  have header : 20 ≤ tcpHdr.length := complete.header
  obtain ⟨sourceAddr, sourceFound⟩ := exists_sourceAddr? long
  obtain ⟨destinationAddr, destinationFound⟩ := exists_destinationAddr? long
  exact ⟨⟨sourceAddr, _⟩, ⟨destinationAddr, _⟩, sourceFound,
    Slice.readU16?_eq_some (by omega), destinationFound, Slice.readU16?_eq_some (by omega)⟩

/-- A packet that is rewritten carries the new endpoints. -/
theorem Complete.rewriteTCP (txChecksumOffload : Bool) (source destination : AddrPort family) :
    ∃ packet', rewriteTCP packet tcpHdr txChecksumOffload ⟨source.addr, source.port, true⟩
          ⟨destination.addr, destination.port, true⟩ = some packet' ∧
        Carries family packet' tcpHdr source destination ∧
        ChangedAt (RewrittenOctet family tcpHdr.start) packet packet' := by
  have header : 20 ≤ tcpHdr.length := complete.header
  obtain ⟨packet', result, rewritten⟩ :=
    rewriteTCP_spec complete.layout (by omega) txChecksumOffload ⟨source.addr, source.port, true⟩
      ⟨destination.addr, destination.port, true⟩
  refine ⟨packet', result, ⟨rewritten.sourceAddr, ?_,
    rewritten.destinationAddr, ?_⟩, rewritten.change⟩
  · refine (Slice.readU16?_eq_some (by omega)).trans (congrArg some ?_)
    exact rewritten.sourcePort
  · refine (Slice.readU16?_eq_some (by omega)).trans (congrArg some ?_)
    exact rewritten.destinationPort

end Packets

/-! ## What one packet does -/

section Processing

variable {family : Family} {system : SystemStack} {inet : Inet family} {env : Env}
variable {nat nat' : TCPNat (AddrPort family)} {packet : Bytes}
variable {tcpHdr : Slice} {source destination : AddrPort family}
variable {verdict : Verdict}

variable (enabled : system.inet family = some inet)
include enabled

/-- The decisions that follow once the endpoints are read. -/
theorem processTCP_eq (carries : Carries family packet tcpHdr source destination) :
    processTCP family system env nat packet tcpHdr =
      if !destination.addr.isGlobalUnicast then some (.drop packet, nat)
      else if source.addr = inet.inetAddress ∧ source.port = inet.tcpPort then
        match nat.lookupBack destination.port env.since env.now with
        | (none, nat) =>
          some (.fail packet (sessionNotFound family destination.port), nat)
        | (some session, nat) =>
          (rewriteTCP packet tcpHdr system.txChecksumOffload
            ⟨session.destination.addr, session.destination.port, true⟩
            ⟨session.source.addr, session.source.port, true⟩).bind
              fun packet => some (.keep packet, nat)
      else if destination.addr ∈ system.inetLoopbackAddress family then
        (rewriteTCP packet tcpHdr system.txChecksumOffload
          ⟨destination.addr, 0, false⟩ ⟨source.addr, 0, false⟩).bind
            fun packet => some (.keep packet, nat)
      else
        match nat.lookup source destination env.since env.now with
        | (.error _, nat) =>
          (resetTCP family system env packet tcpHdr).bind fun newPacket =>
            some (⟨false, env.writeErr, packet, [.tunWrite newPacket]⟩, nat)
        | (.ok natPort, nat) =>
          (rewriteTCP packet tcpHdr system.txChecksumOffload ⟨inet.inetNextAddress, natPort, true⟩
            ⟨inet.inetAddress, inet.tcpPort, true⟩).bind
              fun packet => some (.keep packet, nat) := by
  unfold processTCP
  rw [enabled]
  rw [carries.sourceAddr, carries.sourcePort, carries.destinationAddr, carries.destinationPort]
  rfl

omit enabled in
/-- The table makes at most one call, and only some octets are rewritten. -/
theorem processTCP_step (complete : Complete family packet tcpHdr)
    (processed : processTCP family system env nat packet tcpHdr = some (verdict, nat')) :
    (nat' = nat ∨ NatCall nat nat') ∧
      ChangedAt (RewrittenOctet family tcpHdr.start) packet verdict.packet := by
  have header : 20 ≤ tcpHdr.length := complete.header
  cases enabled : system.inet family with
  | none =>
    unfold processTCP at processed
    rw [enabled] at processed
    cases processed
    exact ⟨.inl rfl, .refl⟩
  | some inet =>
    obtain ⟨source, destination, carries⟩ := complete.exists_carries
    rw [processTCP_eq enabled carries] at processed
    -- Every branch that rewrites does it by `rewriteTCP`.
    have kept : ∀ {first second : Endpoint family} {table},
        (rewriteTCP packet tcpHdr system.txChecksumOffload first
          second).bind (fun packet => some (Verdict.keep packet, table)) = some (verdict, nat') →
        nat' = table ∧ ChangedAt (RewrittenOctet family tcpHdr.start) packet verdict.packet := by
      intro first second table result
      obtain ⟨packet', rewritten, spec⟩ :=
        rewriteTCP_spec complete.layout (by omega) system.txChecksumOffload first second
      rw [rewritten, bind_some] at result
      cases result
      exact ⟨rfl, spec.change⟩
    split at processed
    · cases processed
      exact ⟨.inl rfl, .refl⟩
    · split at processed
      · have call := NatCall.lookupBack nat destination.port env.since env.now
        split at processed
        · rename_i found
          rw [found] at call
          cases processed
          exact ⟨.inr call, .refl⟩
        · rename_i session table found
          rw [found] at call
          obtain ⟨rfl, change⟩ := kept processed
          exact ⟨.inr call, change⟩
      · split at processed
        · obtain ⟨rfl, change⟩ := kept processed
          exact ⟨.inl rfl, change⟩
        · have call := NatCall.lookup nat source destination env.since env.now
          split at processed
          · rename_i found
            rw [found] at call
            obtain ⟨newPacket, -, result⟩ := bind_eq_some_iff.mp processed
            cases result
            exact ⟨.inr call, .refl⟩
          · rename_i natPort table found
            rw [found] at call
            obtain ⟨rfl, change⟩ := kept processed
            exact ⟨.inr call, change⟩

omit enabled in
theorem IsClient.not_listener (client : IsClient system inet source destination) :
    ¬(source.addr = inet.inetAddress ∧ source.port = inet.tcpPort) := by
  rintro ⟨addr, port⟩
  apply client.notListener
  cases source
  simp_all

/-- A packet of a client that the table has a port for. -/
theorem processTCP_client (complete : Complete family packet tcpHdr)
    (carries : Carries family packet tcpHdr source destination)
    (client : IsClient system inet source destination) {port : UInt16}
    (found : nat.lookup source destination env.since env.now = (.ok port, nat')) :
    ∃ packet', processTCP family system env nat packet tcpHdr = some (.keep packet', nat') ∧
        Carries family packet' tcpHdr ⟨inet.inetNextAddress, port⟩
          ⟨inet.inetAddress, inet.tcpPort⟩ ∧
        ChangedAt (RewrittenOctet family tcpHdr.start) packet packet' := by
  obtain ⟨packet', rewritten, spec⟩ := complete.rewriteTCP
    system.txChecksumOffload ⟨inet.inetNextAddress, port⟩ ⟨inet.inetAddress, inet.tcpPort⟩
  refine ⟨packet', ?_, spec⟩
  rw [processTCP_eq enabled carries, client.unicast, if_neg (by decide),
    if_neg client.not_listener, if_neg client.notLoopback, found]
  simp only [rewritten, bind_some]

/-- A packet of a client is written back only from a port of the table. -/
theorem lookup_of_writeBack (carries : Carries family packet tcpHdr source destination)
    (client : IsClient system inet source destination)
    (processed : processTCP family system env nat packet tcpHdr = some (verdict, nat'))
    (written : verdict.writeBack = true) :
    ∃ port, nat.lookup source destination env.since env.now = (.ok port, nat') := by
  rw [processTCP_eq enabled carries, client.unicast, if_neg (by decide),
    if_neg client.not_listener, if_neg client.notLoopback] at processed
  split at processed
  · obtain ⟨newPacket, -, result⟩ := bind_eq_some_iff.mp processed
    cases result
    cases written
  · rename_i port table found
    obtain ⟨packet', -, result⟩ := bind_eq_some_iff.mp processed
    cases result
    exact ⟨port, found⟩

/-- A packet of the listener to a port of the table. -/
theorem processTCP_listener (complete : Complete family packet tcpHdr) {port : UInt16}
    (unicast : inet.inetNextAddress.isGlobalUnicast = true)
    (carries : Carries family packet tcpHdr
      ⟨inet.inetAddress, inet.tcpPort⟩ ⟨inet.inetNextAddress, port⟩)
    {session : TCPSession (AddrPort family)}
    (found : nat.lookupBack port env.since env.now = (some session, nat')) :
    ∃ packet', processTCP family system env nat packet tcpHdr = some (.keep packet', nat') ∧
        Carries family packet' tcpHdr session.destination session.source ∧
        ChangedAt (RewrittenOctet family tcpHdr.start) packet packet' := by
  obtain ⟨packet', rewritten, spec⟩ := complete.rewriteTCP
    system.txChecksumOffload session.destination session.source
  refine ⟨packet', ?_, spec⟩
  rw [processTCP_eq enabled carries, unicast, if_neg (by decide), if_pos ⟨rfl, rfl⟩, found]
  simp only [rewritten, bind_some]

end Processing

/-! ## Runs -/

/-- A packet, or a round of the timeout loop. -/
inductive TCPStep (family : Family) (system : SystemStack) :
    TCPNat (AddrPort family) → TCPNat (AddrPort family) → Prop
  | packet (nat nat' : TCPNat (AddrPort family)) (env : Env) (packet : Bytes)
      (tcpHdr : Slice) (verdict : Verdict)
      (complete : Complete family packet tcpHdr)
      (processed : processTCP family system env nat packet tcpHdr = some (verdict, nat')) :
      TCPStep family system nat nat'
  | checkTimeout (nat : TCPNat (AddrPort family)) (now : Int)
      (expired : List (UInt16 × Nat)) (visited : expired.Perm (nat.scan now)) :
      TCPStep family system nat (nat.deleteExpired now expired)

/-- The stack with the packets of one family. -/
def tcpStack (family : Family) (system : SystemStack) (timeout : Int) :
    TransitionSystem (TCPNat (AddrPort family)) where
  initial nat := nat = newNat (AddrPort family) timeout
  step := TCPStep family system

section Runs

variable {family : Family} {system : SystemStack} {timeout : Int}
variable {nat nat' : TCPNat (AddrPort family)}

theorem TCPStep.natCall (step : TCPStep family system nat nat') :
    nat' = nat ∨ NatCall nat nat' := by
  cases step with
  | packet _ env packet tcpHdr verdict complete processed =>
    exact (processTCP_step complete processed).1
  | checkTimeout now expired visited =>
    exact .inr (.checkTimeout nat now expired visited)

/-- Every run of the stack is a run of calls of the table. -/
theorem tcpStack_simulation (family : Family) (system : SystemStack) (timeout : Int) :
    TransitionSystem.Simulation (tcpStack family system timeout)
      (natCalls (AddrPort family) timeout) Eq := by
  constructor
  · rintro nat rfl
    exact ⟨_, rfl, rfl⟩
  · rintro nat nat' _ rfl step
    refine ⟨nat', ?_, rfl⟩
    rcases TCPStep.natCall step with rfl | call
    · exact .refl
    · exact .single call

variable (reachable : (tcpStack family system timeout).Reachable nat)
include reachable

theorem tcpStack_inv : nat.Inv := by
  obtain ⟨_, reached, rfl⟩ := (tcpStack_simulation family system timeout).reachable reachable
  exact natCalls_inv reached

/-- The key of a session is the same ever after. -/
theorem steps_keys (steps : (tcpStack family system timeout).Steps nat nat')
    {session : Nat} {key : TCPNatKey (AddrPort family)}
    (known : (nat.sessions[session]?).map TCPSession.key = some key) :
    (nat'.sessions[session]?).map TCPSession.key = some key := by
  induction steps with
  | refl => exact known
  | tail before step ih =>
    have inv := tcpStack_inv (reachable.steps before)
    rcases TCPStep.natCall step with rfl | call
    · exact ih
    · exact call.keys inv ih

end Runs

/-- What a port of a session means to the packets that follow. -/
structure Transparent {family : Family} (system : SystemStack) (inet : Inet family)
    (nat : TCPNat (AddrPort family)) (source destination : AddrPort family)
    (port : UInt16) : Prop where
  /-- The packets of the client keep the port. -/
  forth : ∀ env packet tcpHdr, Complete family packet tcpHdr →
    Carries family packet tcpHdr source destination → ∃ packet' nat',
        processTCP family system env nat packet tcpHdr = some (.keep packet', nat') ∧
          Carries family packet' tcpHdr ⟨inet.inetNextAddress, port⟩
            ⟨inet.inetAddress, inet.tcpPort⟩ ∧
          ChangedAt (RewrittenOctet family tcpHdr.start) packet packet'
  /-- The packets of the listener to the port get back to the client. -/
  back : ∀ env packet tcpHdr, Complete family packet tcpHdr →
    Carries family packet tcpHdr ⟨inet.inetAddress, inet.tcpPort⟩ ⟨inet.inetNextAddress, port⟩ →
      ∃ packet' nat', processTCP family system env nat packet tcpHdr = some (.keep packet', nat') ∧
          Carries family packet' tcpHdr destination source ∧
          ChangedAt (RewrittenOctet family tcpHdr.start) packet packet'
  /-- No other pair of a client gets the port.  Nothing is said of packets to a
  loopback address, which go back with their own ports. -/
  exclusive : ∀ env packet tcpHdr source' destination' verdict nat', Complete family packet tcpHdr →
    Carries family packet tcpHdr source' destination' → IsClient system inet source' destination' →
    (source', destination') ≠ (source, destination) →
    processTCP family system env nat packet tcpHdr = some (verdict, nat') →
    verdict.writeBack = true → ∃ port', port' ≠ port ∧
        Carries family verdict.packet tcpHdr ⟨inet.inetNextAddress, port'⟩
          ⟨inet.inetAddress, inet.tcpPort⟩

section Sessions

variable {family : Family} {system : SystemStack} {inet : Inet family}
variable {nat : TCPNat (AddrPort family)}
variable {source destination : AddrPort family} {port : UInt16}

/-- A session that is in the table is all that is needed. -/
theorem TCPNat.Inv.transparent (inv : nat.Inv)
    (enabled : system.inet family = some inet)
    (unicast : inet.inetNextAddress.isGlobalUnicast = true)
    (client : IsClient system inet source destination)
    (listed : nat.keyAt port = some ⟨source, destination⟩) :
    Transparent system inet nat source destination port := by
  constructor
  · intro env packet tcpHdr complete carries
    obtain ⟨packet', result⟩ := processTCP_client enabled complete carries
      client (TCPNat.lookup_of_some ((inv.inverse _ _).mpr listed) env.since env.now)
    exact ⟨packet', _, result⟩
  · intro env packet tcpHdr complete carries
    obtain ⟨session, found, rfl, rfl⟩ := TCPNat.lookupBack_of_keyAt listed env.since env.now
    obtain ⟨packet', result⟩ := processTCP_listener enabled complete unicast carries found
    exact ⟨packet', _, result⟩
  · intro env packet tcpHdr source' destination' verdict nat' complete carries
      client' different processed written
    obtain ⟨port', found⟩ := lookup_of_writeBack enabled carries client' processed written
    obtain ⟨packet', result, carries', -⟩ :=
      processTCP_client enabled complete carries client' found
    rw [result] at processed
    cases processed
    refine ⟨port', ?_, carries'⟩
    rintro rfl
    -- Both pairs would have this port in the table that the lookup leaves.
    have larger := TCPNat.extends_lookup inv source' destination' env.since env.now
    have kept := inv.lookup source' destination' env.since env.now
    rw [found] at larger kept
    have other := (kept.inverse _ _).mp (inv.lookup_ok found)
    rw [larger.keyAt listed] at other
    cases other
    exact different rfl

end Sessions

/--
A client packet that is written back gets a port, and as long as the session
of this port is not removed, the port stands for this pair of endpoints: in
both directions, for no other pair, and with no octet changed but those of the
addresses, the ports and the checksums.
-/
theorem tcpTranslation_transparent (family : Family) (system : SystemStack) (inet : Inet family)
    (enabled : system.inet family = some inet)
    (unicast : inet.inetNextAddress.isGlobalUnicast = true)
    (timeout : Int) (nat₁ nat₂ : TCPNat (AddrPort family))
    (reachable : (tcpStack family system timeout).Reachable nat₁)
    (env : Env) (packet : Bytes) (tcpHdr : Slice)
    (source destination : AddrPort family) (verdict : Verdict)
    (complete : Complete family packet tcpHdr)
    (carries : Carries family packet tcpHdr source destination)
    (client : IsClient system inet source destination)
    (processed : processTCP family system env nat₁ packet tcpHdr = some (verdict, nat₂))
    (written : verdict.writeBack = true) :
    ChangedAt (RewrittenOctet family tcpHdr.start) packet verdict.packet ∧ ∃ port session,
        Carries family verdict.packet tcpHdr ⟨inet.inetNextAddress, port⟩
            ⟨inet.inetAddress, inet.tcpPort⟩ ∧ nat₂.portMap.lookup port = some session ∧
          ∀ nat₃, (tcpStack family system timeout).StepsWhile
              (fun nat => nat.portMap.lookup port = some session) nat₂ nat₃ →
            Transparent system inet nat₃ source destination port := by
  have step := TCPStep.packet nat₁ nat₂ env packet tcpHdr verdict complete processed
  have reached := reachable.steps (.single step)
  obtain ⟨port, found⟩ := lookup_of_writeBack enabled carries client processed written
  have listed := ((tcpStack_inv reached).inverse _ _).mp ((tcpStack_inv reachable).lookup_ok found)
  rw [TCPNat.keyAt_eq_bind, bind_eq_some_iff] at listed
  obtain ⟨session, pointer, known⟩ := listed
  refine ⟨(processTCP_step complete processed).2, port, session, ?_, pointer, ?_⟩
  · obtain ⟨packet', result, carries', -⟩ := processTCP_client enabled complete carries client found
    rw [result] at processed
    cases processed
    exact carries'
  · intro nat₃ later
    have inv := tcpStack_inv (reached.steps later.steps)
    apply inv.transparent enabled unicast client
    rw [TCPNat.keyAt_eq_bind, later.holds pointer, bind_some]
    exact steps_keys reached later.steps known

/-- A stack with the addresses `10.0.0.1` and `10.0.0.2`. -/
def sampleInet : Inet .v4 :=
  ⟨.from4 10 0 0 1, .from4 10 0 0 2, 5000⟩

def sampleSystem : SystemStack where
  inet
    | .v4 => some sampleInet
    | .v6 => none
  inetLoopbackAddress _ := []
  broadcastAddr := none
  mtu := 1500
  txChecksumOffload := false

def sampleEnv : Env where
  since := 0
  now := 0
  fresh size := List.replicate size 0
  length_fresh _ := List.length_replicate
  writeErr := none
  directRoute := ⟨false, none⟩
  actionErr := none

/-- A packet from `10.0.0.9:1000` to `1.2.3.4:80`. -/
def samplePacket : Bytes :=
  [0x45, 0, 0, 40, 0, 0, 0, 0, 64, 6, 0, 0, 10, 0, 0, 9, 1, 2, 3, 4,
    3, 232, 0, 80, 0, 0, 0, 0, 0, 0, 0, 0, 0x50, 2, 0, 0, 0, 0, 0, 0]

theorem tcpTranslation_transparent_sample :
    ∃ nat port, (tcpStack .v4 sampleSystem 5).Reachable nat ∧
        Transparent sampleSystem sampleInet nat
          ⟨⟨[10, 0, 0, 9], rfl⟩, 1000⟩ ⟨⟨[1, 2, 3, 4], rfl⟩, 80⟩ port := by
  have complete : Complete .v4 samplePacket ⟨20, 20⟩ := by
    constructor <;> decide
  have carries : Carries .v4 samplePacket ⟨20, 20⟩
      ⟨⟨[10, 0, 0, 9], rfl⟩, 1000⟩ ⟨⟨[1, 2, 3, 4], rfl⟩, 80⟩ := by
    constructor <;> decide
  have client : IsClient sampleSystem sampleInet
      ⟨⟨[10, 0, 0, 9], rfl⟩, 1000⟩ ⟨⟨[1, 2, 3, 4], rfl⟩, 80⟩ := by
    constructor <;> decide
  have start : (tcpStack .v4 sampleSystem 5).Reachable (newNat (AddrPort .v4) 5) := ⟨_, rfl, .refl⟩
  obtain ⟨packet', processed, -⟩ := @processTCP_client .v4 sampleSystem sampleInet sampleEnv
      (newNat (AddrPort .v4) 5) _ samplePacket ⟨20, 20⟩ _ _ rfl complete carries client 10000 rfl
  obtain ⟨-, port, session, -, pointer, later⟩ :=
    tcpTranslation_transparent .v4 sampleSystem sampleInet rfl (by decide) 5
      _ _ start sampleEnv samplePacket ⟨20, 20⟩ _ _ _ complete carries client processed rfl
  exact ⟨_, port, start.steps (.single (.packet _ _ _ _ _ _ complete processed)), later _ .refl⟩

end SingTun.System
