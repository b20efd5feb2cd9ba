import SingTun.System.Echoes
import SingTun.System.NatPorts
import SingTun.System.SegmentKept

/-!
# Fragments

A fragment of a packet has no transport header of its own, or only the start
of a segment.  `processIPv4UDP` drops fragments.  `processIPv4TCP` and
`processIPv4ICMP` do not look for them: they read whatever is behind the IP
header as ports and types, make sessions from it and store in it.  A fragment
gets through unharmed only where the stack stores what is there already.
-/

namespace SingTun.System

open Foundation Header Option

/-- More fragments follow, or this one is not the first. -/
def IsFragment (packet : Bytes) : Prop :=
  (∃ flags, IPv4.flags? packet = some flags ∧ flags &&& IPv4.flagMoreFragments ≠ 0) ∨
    ∃ offset, IPv4.fragmentOffset? packet = some offset ∧ offset ≠ 0

/-- Every session of the later table is one of the table before. -/
structure NoNewSession {α : Type} [DecidableEq α] (nat nat' : TCPNat α) :
    Prop where
  addrMap : ∀ key port, nat'.addrMap.lookup key = some port → nat.addrMap.lookup key = some port
  portMap : ∀ port session, nat'.portMap.lookup port = some session →
    nat.portMap.lookup port = some session

/-- What is given to the handler, or to what the handler returned. -/
def Effect.ToHandler : Effect → Prop
  | .tunWrite _ => False
  | .newPacket _ _ _ _ _ => True
  | .actionWrite _ => True

/-- Nothing was taken from the payload and nothing was stored in it. -/
structure Untouched
    {family : Family} (nat nat' : TCPNat (AddrPort family)) (packet : Bytes)
    (payload : Slice) (verdict : Verdict) : Prop where
  sessions : NoNewSession nat nat'
  handler : ∀ effect ∈ verdict.effects, ¬effect.ToHandler
  octets : verdict.packet.drop payload.start = packet.drop payload.start

/-! ## When nothing changes -/

section Conditions

variable {family : Family}

/-- The segment is long enough to be rewritten, and it stays the same. -/
def StoresNothing (system : SystemStack) (packet : Bytes) (tcpHdr : Slice)
    (sourceAddr destinationAddr : Addr family) (source destination : Endpoint family) : Prop :=
  18 ≤ tcpHdr.length ∧ SegmentKept packet tcpHdr system.txChecksumOffload sourceAddr
      destinationAddr source destination

/-- What is read as a TCP header leads to no session and to no store. -/
def TCPLeft (system : SystemStack) (nat : TCPNat (AddrPort family)) (packet : Bytes)
    (tcpHdr : Slice) (sourceAddr destinationAddr : Addr family) : Prop :=
  let source : AddrPort family := ⟨sourceAddr, readU16 packet tcpHdr.start⟩
  let destination : AddrPort family := ⟨destinationAddr, readU16 packet (tcpHdr.start + 2)⟩
  match system.inet family with
  | none => True
  | some inet =>
    4 ≤ tcpHdr.length ∧
      if source.addr = inet.inetAddress ∧ source.port = inet.tcpPort then
        ∀ key, nat.keyAt destination.port = some key →
          StoresNothing system packet tcpHdr sourceAddr destinationAddr
            ⟨key.destination.addr, key.destination.port, true⟩
            ⟨key.source.addr, key.source.port, true⟩
      else if destinationAddr ∈ system.inetLoopbackAddress family then
        (system.txChecksumOffload = false ∧ destinationAddr = sourceAddr) ∨
          StoresNothing system packet tcpHdr sourceAddr destinationAddr
            ⟨destinationAddr, 0, false⟩ ⟨sourceAddr, 0, false⟩
      else
        match nat.addrMap.lookup ⟨source, destination⟩ with
        | some port =>
          StoresNothing system packet tcpHdr sourceAddr destinationAddr
            ⟨inet.inetNextAddress, port, true⟩ ⟨inet.inetAddress, inet.tcpPort, true⟩
        | none =>
          (∀ port : UInt16, 10000 ≤ port.toNat → port ∈ nat.portMap) ∧
            resetNeed packet tcpHdr ≤ tcpHdr.length

/-- What is read as an ICMP message is not answered and not passed on. -/
def ICMPLeft (system : SystemStack) (env : Env) (packet : Bytes) (icmpHdr : Slice)
    (destinationAddr : Addr family) : Prop :=
  1 ≤ icmpHdr.length ∧ (byteAt packet icmpHdr.start = ICMP.echo family →
      2 ≤ icmpHdr.length ∧ (byteAt packet (icmpHdr.start + 1) = 0 →
          some destinationAddr ≠ (system.inet family).map Inet.inetAddress ∧
            (env.directRoute.err = some .reset ∨ env.directRoute.err = some .drop)))

/-- Fragments of UDP datagrams are dropped, and other protocols kept. -/
def FragmentLeft (system : SystemStack) (env : Env) (nat : TCPNat (AddrPort family))
    (packet : Bytes) (payload : Slice) (sourceAddr destinationAddr : Addr family) : Prop :=
  if transportProtocol? family packet = some tcpProtocolNumber then
    TCPLeft system nat packet payload sourceAddr destinationAddr
  else if transportProtocol? family packet = some (ICMP.protocolNumber family) then
    ICMPLeft system env packet payload destinationAddr
  else True

end Conditions

/-! ## Sessions -/

section Sessions

variable {α : Type} [DecidableEq α] {nat : TCPNat α}

theorem NoNewSession.refl : NoNewSession nat nat :=
  ⟨fun _ _ => id, fun _ _ => id⟩

theorem NoNewSession.refresh (port : UInt16) (since now : Int) :
    NoNewSession nat (nat.refresh port since now) := by
  unfold TCPNat.refresh
  split
  · exact .refl
  · exact ⟨fun _ _ => id, fun _ _ => id⟩

/-- A search that finds no port moves the index only. -/
theorem NoNewSession.allocatePortLocked : NoNewSession nat nat.allocatePortLocked.2 :=
  ⟨fun _ _ => id, fun _ _ => id⟩

/-- A new session is one that the table did not have. -/
theorem not_noNewSession_insertLocked
    {key : TCPNatKey α} {port : UInt16} {nat' : TCPNat α} {since now : Int}
    (new : nat.addrMap.lookup key = none)
    (inserted : nat.insertLocked key since now = (.ok port, nat')) :
    ¬NoNewSession nat nat' := by
  intro refused
  unfold TCPNat.insertLocked at inserted
  rw [new] at inserted
  dsimp only at inserted
  split at inserted
  · cases inserted
  · cases inserted
    have found := refused.addrMap key port (AList.lookup_insert _)
    rw [new] at found
    cases found

end Sessions

/-! ## TCP -/

section TCP

variable {family : Family} {system : SystemStack} {env : Env} {packet : Bytes}
variable {nat : TCPNat (AddrPort family)} {payload : Slice}
variable {sourceAddr destinationAddr : Addr family}

/-- A verdict with the packet as it came. -/
theorem Untouched.same {nat' : TCPNat (AddrPort family)} {verdict : Verdict}
    (sessions : NoNewSession nat nat')
    (packet_eq : verdict.packet = packet)
    (handler : ∀ effect ∈ verdict.effects, ¬effect.ToHandler) :
    Untouched nat nat' packet payload verdict :=
  ⟨sessions, handler, by rw [packet_eq]⟩

/-- A packet that is rewritten, if it is long enough. -/
theorem rewritten_untouched_iff (layout : Layout family packet payload)
    (sourced : sourceAddr? family packet = some sourceAddr)
    (addressed : destinationAddr? family packet = some destinationAddr)
    {source destination : Endpoint family}
    (stored : system.txChecksumOffload = true ∨ source.rewritePort = true ∨
      source.addr ≠ sourceAddr)
    {table : TCPNat (AddrPort family)} (sessions : NoNewSession nat table) :
    (∃ verdict nat', (rewriteTCP packet payload system.txChecksumOffload source destination).bind
          (fun packet => some (Verdict.keep packet, table)) =
            some (verdict, nat') ∧ Untouched nat nat' packet payload verdict) ↔
      StoresNothing system packet payload sourceAddr destinationAddr source
        destination := by
  by_cases long : 18 ≤ payload.length
  · obtain ⟨packet', rewritten, -⟩ := rewriteTCP_spec layout long
      system.txChecksumOffload source destination
    rw [rewritten, bind_some]
    have kept := rewriteTCP_kept_iff layout long sourced addressed rewritten
    constructor
    · rintro ⟨verdict, nat', result, untouched⟩
      cases result
      exact ⟨long, kept.mp untouched.octets⟩
    · rintro ⟨-, segment⟩
      exact ⟨_, _, rfl, sessions, nofun, kept.mpr segment⟩
  · rw [rewriteTCP_eq_none (Nat.lt_of_not_le long) sourced stored]
    constructor
    · rintro ⟨verdict, nat', result, -⟩
      cases result
    · rintro ⟨fits, -⟩
      exact absurd fits long

/-- A packet that seems to come from the listener. -/
theorem lookupBack_untouched_iff (layout : Layout family packet payload)
    (sourced : sourceAddr? family packet = some sourceAddr)
    (addressed : destinationAddr? family packet = some destinationAddr) (port : UInt16) :
    (∃ verdict nat', (match nat.lookupBack port env.since env.now with
        | (none, nat) =>
          some (Verdict.fail packet (sessionNotFound family port), nat)
        | (some session, nat) =>
          (rewriteTCP packet payload system.txChecksumOffload
            ⟨session.destination.addr, session.destination.port, true⟩
            ⟨session.source.addr, session.source.port, true⟩).bind
              fun packet => some (Verdict.keep packet, nat)) =
        some (verdict, nat') ∧
      Untouched nat nat' packet payload verdict) ↔
      ∀ key, nat.keyAt port = some key →
        StoresNothing system packet payload sourceAddr destinationAddr
          ⟨key.destination.addr, key.destination.port, true⟩
          ⟨key.source.addr, key.source.port, true⟩ := by
  have sessions := @NoNewSession.refresh _ _ nat port env.since env.now
  have keys : nat.keyAt port = ((nat.refresh port env.since env.now).sessionAt port).map
        TCPSession.key := (nat.keyAt_refresh port port env.since env.now).symm
  rw [keys]
  unfold TCPNat.lookupBack
  dsimp only
  cases (nat.refresh port env.since env.now).sessionAt port with
  | none =>
    refine iff_of_true ⟨_, _, rfl, .same sessions rfl nofun⟩ nofun
  | some session =>
    rw [rewritten_untouched_iff layout sourced addressed (.inr (.inl rfl)) sessions]
    constructor
    · rintro left key found
      cases found
      exact left
    · intro left
      exact left session.key rfl

/-- A packet of a connection that is translated, or is to be. -/
theorem lookup_untouched_iff (inv : nat.Inv)
    (layout : Layout family packet payload)
    (sourced : sourceAddr? family packet = some sourceAddr)
    (addressed : destinationAddr? family packet = some destinationAddr)
    (inet : Inet family) (source destination : AddrPort family) :
    (∃ verdict nat', (match nat.lookup source destination env.since env.now
          with
        | (.error _, nat) =>
          (resetTCP family system env packet payload).bind fun newPacket =>
            some (⟨false, env.writeErr, packet, [.tunWrite newPacket]⟩, nat)
        | (.ok natPort, nat) =>
          (rewriteTCP packet payload system.txChecksumOffload ⟨inet.inetNextAddress, natPort, true⟩
            ⟨inet.inetAddress, inet.tcpPort, true⟩).bind
              fun packet => some (Verdict.keep packet, nat)) =
        some (verdict, nat') ∧
      Untouched nat nat' packet payload verdict) ↔
      match nat.addrMap.lookup ⟨source, destination⟩ with
      | some port =>
        StoresNothing system packet payload sourceAddr destinationAddr
          ⟨inet.inetNextAddress, port, true⟩ ⟨inet.inetAddress, inet.tcpPort, true⟩
      | none =>
        (∀ port : UInt16, 10000 ≤ port.toNat → port ∈ nat.portMap) ∧
          resetNeed packet payload ≤ payload.length := by
  cases found : nat.addrMap.lookup ⟨source, destination⟩ with
  | some port =>
    rw [TCPNat.lookup_of_some found]
    exact rewritten_untouched_iff layout sourced addressed
      (.inr (.inl rfl)) (.refresh port env.since env.now)
  | none =>
    rw [TCPNat.lookup_of_none found]
    by_cases full : ∀ port : UInt16, 10000 ≤ port.toNat → port ∈ nat.portMap
    · rw [inv.insertLocked_full found env.since env.now full,
        ← resetTCP_isSome_iff system env sourced addressed]
      cases resetTCP family system env packet payload with
      | none =>
        refine iff_of_false ?_ fun ⟨_, built⟩ => absurd built (by decide)
        rintro ⟨verdict, nat', result, -⟩
        cases result
      | some newPacket =>
        refine iff_of_true ⟨_, _, rfl, .same .allocatePortLocked rfl ?_⟩ ⟨full, rfl⟩
        intro effect member
        cases List.mem_singleton.mp member
        exact id
    · have free : ∃ port : UInt16, 10000 ≤ port.toNat ∧ port ∉ nat.portMap := by
        by_contra taken
        refine full fun port high => ?_
        by_contra missing
        exact taken ⟨port, high, missing⟩
      obtain ⟨port, table, inserted, -⟩ := inv.insertLocked_free found env.since env.now free
      rw [inserted]
      refine iff_of_false ?_ fun both => full both.1
      rintro ⟨verdict, nat', result, untouched⟩
      obtain ⟨packet', -, result⟩ := bind_eq_some_iff.mp result
      cases result
      exact not_noNewSession_insertLocked found inserted untouched.sessions

theorem processTCP_untouched_iff (inv : nat.Inv)
    (layout : Layout family packet payload)
    (sourced : sourceAddr? family packet = some sourceAddr)
    (addressed : destinationAddr? family packet = some destinationAddr)
    (unicast : destinationAddr.isGlobalUnicast = true) :
    (∃ verdict nat', processTCP family system env nat packet payload =
        some (verdict, nat') ∧ Untouched nat nat' packet payload verdict) ↔
      TCPLeft system nat packet payload sourceAddr destinationAddr := by
  unfold TCPLeft
  cases enabled : system.inet family with
  | none =>
    refine iff_of_true ⟨.drop packet, nat, ?_, .same .refl rfl nofun⟩ trivial
    unfold processTCP
    rw [enabled]
    rfl
  | some inet =>
    dsimp only
    by_cases ports : 4 ≤ payload.length
    · have carries : Carries family packet payload ⟨sourceAddr, readU16 packet payload.start⟩
          ⟨destinationAddr, readU16 packet (payload.start + 2)⟩ :=
        ⟨sourced, Slice.readU16?_eq_some (by omega), addressed, Slice.readU16?_eq_some (by omega)⟩
      rw [processTCP_eq enabled carries]
      rw [unicast, if_neg (by decide), and_iff_right ports]
      split
      · exact lookupBack_untouched_iff layout sourced addressed _
      · split
        · by_cases same : system.txChecksumOffload = false ∧ destinationAddr = sourceAddr
          · refine iff_of_true ?_ (.inl same)
            obtain ⟨offload, rfl⟩ := same
            rw [offload, rewriteTCP_same sourced addressed]
            exact ⟨_, _, rfl, .same .refl rfl nofun⟩
          · rw [or_iff_right same]
            apply rewritten_untouched_iff layout sourced addressed _ .refl
            by_cases offload : system.txChecksumOffload = true
            · exact .inl offload
            · exact .inr (.inr fun equal =>
                same ⟨Bool.eq_false_iff.mpr offload, equal⟩)
        · exact lookup_untouched_iff inv layout sourced addressed inet _ _
    · rw [processTCP_short enabled ports]
      refine iff_of_false ?_ fun both => ports both.1
      rintro ⟨verdict, nat', result, -⟩
      cases result

end TCP

/-! ## ICMP -/

section ICMP

variable {family : Family} {system : SystemStack} {env : Env} {packet : Bytes}
variable {nat : TCPNat (AddrPort family)} {payload : Slice}
variable {destinationAddr : Addr family}

/-- A reply has another type, so the message is not the same. -/
theorem echoReply_touches {packet' : Bytes} (valid : isValid family packet packet.length = true)
    (located : payload? family packet = some payload)
    (type : byteAt packet payload.start = ICMP.echo family)
    (replied : echoReply family packet payload = some packet') :
    packet'.drop payload.start ≠ packet.drop payload.start := by
  have long : 4 ≤ payload.length := by
    rw [← echoReply_isSome_iff valid located, replied]
    rfl
  have minimum := (payload?_of_isValid valid).1
  obtain ⟨source, sourced⟩ := exists_sourceAddr? minimum
  obtain ⟨destination, addressed⟩ := exists_destinationAddr? minimum
  obtain ⟨reply, replied', answer⟩ := echoReply_spec valid located long sourced addressed
  cases replied.symm.trans replied'
  have replyType : byteAt packet' payload.start = ICMP.echoReply family := by
    have read := answer.type
    unfold ICMP.type? at read
    rw [Slice.byteAt?_eq_some (by omega)] at read
    exact some.inj read
  intro same
  have octet : byteAt packet' (payload.start + 0) = byteAt packet (payload.start + 0) := by
    rw [← byteAt_drop, same, byteAt_drop]
  rw [Nat.add_zero, replyType, type] at octet
  revert octet
  cases family <;> decide

theorem processICMP_untouched_iff (valid : isValid family packet packet.length = true)
    (located : payload? family packet = some payload)
    (addressed : destinationAddr? family packet = some destinationAddr) :
    (∃ verdict, processICMP family system env packet payload =
        some verdict ∧ Untouched nat nat packet payload verdict) ↔
      ICMPLeft system env packet payload destinationAddr := by
  obtain ⟨error, rejected⟩ := isSome_iff_exists.mp (rejectWithICMP_isSome system env valid)
  unfold ICMPLeft processICMP ICMP.type? ICMP.code?
  by_cases typed : 1 ≤ payload.length
  · rw [Slice.byteAt?_eq_some typed, and_iff_right typed]
    simp only [some_bind, pure_def, Nat.add_zero]
    by_cases echo : byteAt packet payload.start = ICMP.echo family
    · rw [if_neg (not_not_intro echo), imp_iff_right echo]
      by_cases coded : 2 ≤ payload.length
      · rw [Slice.byteAt?_eq_some coded, and_iff_right coded]
        simp only [some_bind, addressed, rejected]
        have answered : ¬∃ verdict, (echoReply family packet payload).bind
              (fun packet => some (Verdict.keep packet)) = some verdict ∧
            Untouched nat nat packet payload verdict := by
          rintro ⟨verdict, result, untouched⟩
          obtain ⟨packet', replied, result⟩ := bind_eq_some_iff.mp result
          cases result
          exact echoReply_touches valid located echo replied untouched.octets
        by_cases zero : byteAt packet (payload.start + 1) = 0
        · rw [if_neg (not_not_intro zero), imp_iff_right zero]
          by_cases own : some destinationAddr = (system.inet family).map Inet.inetAddress
          · rw [if_neg (not_not_intro own)]
            exact iff_of_false answered fun both => both.1 own
          · rw [if_pos own, and_iff_right own]
            by_cases reset : env.directRoute.err = some .reset
            · rw [if_pos reset]
              refine iff_of_true ?_ (.inl reset)
              cases error with
              | none => exact ⟨_, rfl, .same .refl rfl nofun⟩
              | some newPacket =>
                refine ⟨_, rfl, .same .refl rfl ?_⟩
                intro effect member
                cases List.mem_singleton.mp member
                exact id
            · rw [if_neg reset]
              by_cases drop : env.directRoute.err = some .drop
              · rw [if_pos drop]
                exact iff_of_true ⟨_, rfl, .same .refl rfl nofun⟩ (.inr drop)
              · rw [if_neg drop]
                refine iff_of_false ?_ (not_or.mpr ⟨reset, drop⟩)
                split
                · rintro ⟨verdict, result, untouched⟩
                  cases result
                  exact untouched.handler _ List.mem_cons_self trivial
                · exact answered
        · rw [if_pos zero]
          exact iff_of_true ⟨_, rfl, .same .refl rfl nofun⟩ fun coded => absurd coded zero
      · rw [Slice.byteAt?_eq_none (by omega)]
        refine iff_of_false ?_ fun both => coded both.1
        rintro ⟨verdict, result, -⟩
        cases result
    · rw [if_pos echo]
      exact iff_of_true ⟨_, rfl, .same .refl rfl nofun⟩ fun type => absurd type echo
  · rw [Slice.byteAt?_eq_none (by omega)]
    refine iff_of_false ?_ fun both => typed both.1
    rintro ⟨verdict, result, -⟩
    cases result

end ICMP

/-! ## Packets -/

section Packets

variable {system : SystemStack} {env : Env} {packet : Bytes} {payload : Slice}
variable {sourceAddr destinationAddr : Addr .v4}

theorem untouched_settle {nat nat' : TCPNat (AddrPort .v4)} {verdict : Verdict} :
    Untouched nat nat' packet payload verdict.settle ↔
      Untouched nat nat' packet payload verdict := by
  unfold Verdict.settle
  split
  · exact ⟨fun left => ⟨left.1, left.2, left.3⟩, fun left => ⟨left.1, left.2, left.3⟩⟩
  · exact Iff.rfl

/-- The only way with a test for fragments. -/
theorem processIPv4UDP_fragment (long : 8 ≤ packet.length)
    (fragment : IsFragment packet) :
    ∃ text, processIPv4UDP packet payload = some (.fail packet text) := by
  have word : readU16? packet 6 = some (readU16 packet 6) := readU16?_eq_some long
  unfold IsFragment IPv4.flags? IPv4.fragmentOffset? at fragment
  unfold processIPv4UDP IPv4.flags? IPv4.fragmentOffset?
  rw [word] at fragment ⊢
  simp only [some_bind, pure_def,
    Option.some.injEq, exists_eq_left'] at fragment ⊢
  split
  · exact ⟨_, rfl⟩
  · rename_i last
    rw [if_pos (fragment.resolve_left last)]
    exact ⟨_, rfl⟩

/-- The switch on the protocol, for a fragment. -/
theorem processTransport_untouched_iff {nat : TCPNat (AddrPort .v4)} (inv : nat.Inv)
    (valid : isValid .v4 packet packet.length = true)
    (fragment : IsFragment packet)
    (located : payload? .v4 packet = some payload)
    (sourced : sourceAddr? .v4 packet = some sourceAddr)
    (addressed : destinationAddr? .v4 packet = some destinationAddr)
    (unicast : destinationAddr.isGlobalUnicast = true) :
    (∃ verdict nat', processTransport .v4 system env nat packet =
        some (verdict, nat') ∧ Untouched nat nat' packet payload verdict) ↔
      FragmentLeft system env nat packet payload sourceAddr
        destinationAddr := by
  obtain ⟨minimum, start, inside⟩ := payload?_bounds valid located
  change 20 ≤ packet.length at minimum
  have protocol : transportProtocol? .v4 packet = some (byteAt packet 9) :=
    byteAt?_eq_some (by omega)
  have settled : (∃ verdict nat', processTransport .v4 system env nat packet =
        some (verdict, nat') ∧
      Untouched nat nat' packet payload verdict) ↔
      ∃ verdict nat', transportVerdict .v4 system env nat packet = some (verdict, nat') ∧
        Untouched nat nat' packet payload verdict := by
    unfold processTransport
    cases transportVerdict .v4 system env nat packet with
    | none => simp
    | some result =>
      obtain ⟨verdict, nat'⟩ := result
      simp [untouched_settle]
  rw [settled]
  unfold FragmentLeft transportVerdict
  simp only [protocol, located, some_bind,
    pure_def, Option.some.injEq]
  by_cases tcp : byteAt packet 9 = tcpProtocolNumber
  · rw [if_pos tcp, if_pos tcp]
    exact processTCP_untouched_iff inv ⟨start, inside⟩ sourced addressed unicast
  · rw [if_neg tcp, if_neg tcp]
    by_cases udp : byteAt packet 9 = udpProtocolNumber
    · have other : byteAt packet 9 ≠ ICMP.protocolNumber .v4 := by
        rw [udp]
        decide
      obtain ⟨text, dropped⟩ := @processIPv4UDP_fragment packet payload (by omega) fragment
      rw [if_pos udp, if_neg other]
      refine iff_of_true ⟨.fail packet text, nat, ?_, .same .refl rfl nofun⟩ trivial
      change (processIPv4UDP packet payload).bind _ = _
      rw [dropped]
      rfl
    · rw [if_neg udp]
      split
      · rw [← @processICMP_untouched_iff .v4 system env packet nat payload _
          valid located addressed]
        cases processICMP .v4 system env packet payload <;> simp
      · exact iff_of_true ⟨_, _, rfl, .same .refl rfl nofun⟩ trivial

/--
A fragment is left as it is if it is not let in for its destination, if it is
one of a UDP datagram or of a protocol that the stack does not know, and
otherwise only if what is stored in it is there already.
-/
theorem fragment_untouched_iff (state : StackState) (inv : state.tcpNat4.Inv)
    (valid : isValid .v4 packet packet.length = true)
    (fragment : IsFragment packet)
    (located : payload? .v4 packet = some payload)
    (sourced : sourceAddr? .v4 packet = some sourceAddr)
    (addressed : destinationAddr? .v4 packet = some destinationAddr) :
    (∃ verdict state', processPacket system env state packet = some (verdict, state') ∧
      Untouched state.tcpNat4 state'.tcpNat4 packet payload verdict ∧
      NoNewSession state.tcpNat6 state'.tcpNat6) ↔ (some destinationAddr ≠ system.broadcastAddr →
        destinationAddr.isGlobalUnicast = true →
          FragmentLeft system env state.tcpNat4 packet payload sourceAddr destinationAddr) := by
  have version : ipVersion packet = 4 := ipVersion_of_isValid valid
  by_cases passed : some destinationAddr ≠ system.broadcastAddr ∧
      destinationAddr.isGlobalUnicast = true
  · obtain ⟨notBroadcast, unicast⟩ := passed
    have admitted : Admitted system packet .v4 payload sourceAddr
        destinationAddr :=
      ⟨version, valid, located, sourced, addressed, decide_eq_false notBroadcast, unicast⟩
    rw [imp_iff_right notBroadcast, imp_iff_right unicast,
      ← processTransport_untouched_iff inv valid fragment located sourced
        addressed unicast, processPacket_admitted admitted]
    change _ ↔ ∃ verdict nat', processTransport .v4 system env
      (state.nat .v4) packet = some (verdict, nat') ∧ _
    cases processTransport .v4 system env (state.nat .v4) packet with
    | none => simp
    | some result =>
      obtain ⟨verdict, nat'⟩ := result
      constructor
      · rintro ⟨verdict, state', result, untouched, -⟩
        cases result
        exact ⟨_, _, rfl, untouched⟩
      · rintro ⟨verdict, nat', result, untouched⟩
        cases result
        exact ⟨_, _, rfl, untouched, .refl⟩
  · refine iff_of_true ⟨.drop packet, state, ?_, .same .refl rfl nofun, .refl⟩
      fun notBroadcast unicast => absurd ⟨notBroadcast, unicast⟩ passed
    have stopped : some destinationAddr = system.broadcastAddr ∨
        destinationAddr.isGlobalUnicast = false := by
      by_contra neither
      obtain ⟨notBroadcast, unicast⟩ := not_or.mp neither
      exact passed ⟨notBroadcast, Bool.eq_true_of_not_eq_false unicast⟩
    unfold processPacket processIPv4
    simp [version, valid, addressed, stopped]

end Packets

/-- The start of a UDP datagram from `10.0.0.9` to `1.2.3.4`. -/
def firstFragment : Bytes :=
  [0x45, 0, 0, 28, 0, 0, 0x20, 0, 64, 17, 0, 0, 10, 0, 0, 9, 1, 2, 3, 4, 3, 232, 0, 53, 0, 16, 0, 0]

theorem fragment_untouched_udp :
    ∃ verdict state', processPacket sampleSystem sampleEnv
        ⟨newNat (AddrPort .v4) 5, newNat (AddrPort .v6) 5⟩ firstFragment = some (verdict, state') ∧
      Untouched (newNat (AddrPort .v4) 5) state'.tcpNat4 firstFragment ⟨20, 8⟩ verdict ∧
      NoNewSession (newNat (AddrPort .v6) 5) state'.tcpNat6 := by
  have fragment : IsFragment firstFragment := .inl ⟨1, by decide, by decide⟩
  apply (fragment_untouched_iff
    ⟨newNat (AddrPort .v4) 5, newNat (AddrPort .v6) 5⟩ (TCPNat.newNat_inv 5)
    (by decide) fragment (by decide) (show _ = some (Addr.from4 10 0 0 9) by decide)
    (show _ = some (Addr.from4 1 2 3 4) by decide)).mpr
  intro _ _
  trivial

/-- Octets of the middle of a segment from `10.0.0.9` to `1.2.3.4`. -/
def middleFragment : Bytes :=
  [0x45, 0, 0, 40, 0, 0, 0x20, 3, 64, 6, 0, 0, 10, 0, 0, 9, 1, 2, 3, 4,
    3, 232, 0, 80, 0, 0, 0, 0, 0, 0, 0, 0, 0, 0, 0, 0, 0, 0, 0, 0]

/-- Data is read as ports, and ports are stored in data. -/
theorem fragment_translated :
    isValid .v4 middleFragment middleFragment.length = true ∧
      IsFragment middleFragment ∧ payload? .v4 middleFragment = some ⟨20, 20⟩ ∧
      ∃ verdict state', processPacket sampleSystem sampleEnv
          ⟨newNat (AddrPort .v4) 5, newNat (AddrPort .v6) 5⟩ middleFragment =
            some (verdict, state') ∧ state'.tcpNat4.addrMap.lookup
          ⟨⟨.from4 10 0 0 9, 1000⟩, ⟨.from4 1 2 3 4, 80⟩⟩ = some 10000 ∧
        verdict.packet.drop 20 ≠ middleFragment.drop 20 := by
  refine ⟨by decide, .inl ⟨1, by decide, by decide⟩, by decide, ?_⟩
  refine ⟨_, _, rfl, rfl, ?_⟩
  decide

end SingTun.System
