import SingTun.System.Encoded
import SingTun.System.Safety

/-!
# ICMP errors

`rejectIPv4WithICMP` and `rejectIPv6WithICMP` quote the packet that they
reject.  Both store the checksum before they copy the quotation, so it is
computed from a sum of the octets that are to be quoted.  For IPv6 these are
the octets that are copied.  For IPv4 the sum is over the payload of the
packet, while its header is quoted too, and so is what comes behind the
payload: the error verifies if these octets add nothing.
-/

namespace SingTun.System

open Foundation Header List Option

/-! ## Messages with a quotation -/

section Message

variable {b quote : Bytes} {start : Nat} {type code : UInt8}
variable {quoteSum : UInt16}

theorem errorMessage_changed (length : b.length = start + 8 + quote.length) :
    ChangedAt (fun k => start ≤ k) b (errorMessage b start type code quoteSum quote) := by
  refine .trans ?_ (.overwrite ?_ fun k low _ => by omega)
  · refine .trans ?_ (.writeU16 _ (by omega) (by omega))
    exact .trans (.set _ (le_rfl)) (.set _ (by omega))
  · simp only [length_writeU16, length_set]
    omega

/-- The first eight octets, and the quotation behind them. -/
theorem errorMessage_octets (length : b.length = start + 8 + quote.length) :
    ∃ h : Bytes, h.length = 8 ∧ byteAt h 0 = type ∧ byteAt h 1 = code ∧
      (errorMessage b start type code quoteSum quote).drop start =
        writeU16 h 2 (~~~checksum (h.drop 4) (checksum (h.take 2) quoteSum)) ++
          quote := by
  set typed := (b.set start type).set (start + 1) code with typed_eq
  have typedLength : typed.length = b.length := by
    simp [typed_eq]
  have headLength : (window typed start 8).length = 8 := length_window (by omega)
  refine ⟨window typed start 8, headLength, ?_, ?_, ?_⟩
  · rw [byteAt_window (by omega), typed_eq, byteAt_set_ne (by omega)]
    exact byteAt_set_self (by omega)
  · rw [byteAt_window (by omega), typed_eq]
    refine byteAt_set_self ?_
    rw [length_set]
    omega
  · unfold errorMessage
    dsimp only
    generalize ~~~checksum _ _ = xsum
    have room : start + 8 + quote.length ≤ (writeU16 typed (start + 2) xsum).length := by
      rw [length_writeU16]
      omega
    have front : ((writeU16 typed (start + 2) xsum).take (start + 8)).drop
        start = writeU16 (window typed start 8) 2 xsum := by
      have stored := @octets_writeU16 typed ⟨start, 8⟩ 2 xsum
      rw [drop_take, Nat.add_sub_cancel_left]
      exact stored
    rw [overwrite_eq room, append_assoc, drop_append_of_le_length, front,
      drop_of_length_le (i := start + 8 + quote.length), append_nil]
    · rw [length_writeU16]
      omega
    · rw [length_take]
      omega

/-- The message verifies exactly if the sum was that of the quotation. -/
theorem errorMessage_balanced_iff {h : Bytes} {initial : Nat} (headLength : h.length = 8)
    (typed : byteAt h 0 ≠ 0) :
    Balanced initial
        (writeU16 h 2 (~~~checksum (h.drop 4) (checksum (h.take 2) quoteSum)) ++ quote) ↔
      (initial + wordSum quote) % 65535 = quoteSum.toNat % 65535 := by
  set xsum := ~~~checksum (h.drop 4) (checksum (h.take 2) quoteSum) with xsum_eq
  have stored := wordSum_writeU16 (writeU16 h 2 0) 2 xsum rfl (by rw [length_writeU16]; omega)
  rw [writeU16_writeU16, readU16_writeU16_self (by omega),
    wordSum_cleared h 2 rfl (by omega)] at stored
  have whole := wordSum_append (writeU16 h 2 xsum) quote (by rw [length_writeU16, headLength])
  have first : 0 < wordSum (h.take 2) := by
    apply wordSum_pos
    rw [byteAt_take (by omega)]
    exact typed
  have value : xsum.toNat = 65535 - foldCarry
      (quoteSum.toNat + wordSum (h.take 2) + wordSum (h.drop 4)) := by
    rw [xsum_eq, complement_toNat, checksum_toNat, checksum_toNat, foldCarry_add_foldCarry]
  have bound := foldCarry_le (quoteSum.toNat + wordSum (h.take 2) + wordSum (h.drop 4))
  have residue := foldCarry_mod (quoteSum.toNat + wordSum (h.take 2) + wordSum (h.drop 4))
  change wordSum (writeU16 h 2 xsum) + 0 =
    wordSum (h.take 2) + wordSum (h.drop 4) + xsum.toNat at stored
  rw [Foundation.Balanced, foldCarry_eq_ones_iff, whole]
  constructor
  · rintro ⟨-, balanced⟩
    omega
  · intro same
    constructor
    · omega
    · omega

end Message

/-! ## The errors of the stack -/

/-- The datagrams that every host takes are not longer. -/
def errorLimit : Family → Nat
  | .v4 => 576
  | .v6 => 1280

/-- The sum from which the checksum is computed. -/
def errorSum {family : Family} (ipHdr : Bytes) (payload : Slice) (quote : Bytes)
    (srcAddr dstAddr : Addr family) : Nat :=
  match family with
  | .v4 => wordSum (payload.octets ipHdr)
  | .v6 =>
    pseudoHeaderSum icmpv6ProtocolNumber srcAddr.octets dstAddr.octets
        (8 + quote.length) + wordSum quote

theorem errorChecksum_toNat {family : Family} {ipHdr quote : Bytes}
    {srcAddr dstAddr : Addr family}
    (payload : Slice) (small : family.minimumSize + 8 + quote.length < 65536) :
    (errorChecksum ipHdr payload quote srcAddr dstAddr).toNat =
      foldCarry (errorSum ipHdr payload quote srcAddr dstAddr) := by
  have summed : ∀ octets : Bytes, (checksum octets 0).toNat = foldCarry (wordSum octets) := by
    intro octets
    rw [checksum_toNat]
    exact congrArg foldCarry (Nat.zero_add _)
  cases family with
  | v4 => exact summed (payload.octets ipHdr)
  | v6 =>
    have length : (UInt16.ofNat (8 + quote.length)).toNat = 8 + quote.length := by
      rw [UInt16.toNat_ofNat']
      omega
    unfold errorChecksum errorSum
    rw [combine_toNat, pseudoHeaderChecksum_toNat, length, summed,
      foldCarry_add_foldCarry, Nat.add_comm, foldCarry_add_foldCarry, Nat.add_comm]

section Errors

variable {family : Family} {system : SystemStack} {env : Env} {ipHdr : Bytes}
variable {code : UInt8} {payload : Slice} {source destination : Addr family}

/-- The header of an error, as its receiver reads it. -/
theorem errorHeader_datagram (length : Nat) (small : family.minimumSize + 8 + length < 65536)
    (srcAddr dstAddr : Addr family) :
    Datagram family (errorHeader env length srcAddr dstAddr)
      (ICMP.protocolNumber family) ⟨family.minimumSize, 8 + length⟩ srcAddr
      dstAddr := by
  have fresh := env.length_fresh (family.minimumSize + 8 + length)
  rw [Nat.add_assoc] at fresh
  have encoded := encodeIP_datagram fresh (by omega) (ICMP.protocolNumber family) srcAddr dstAddr
  unfold errorHeader
  rw [Nat.add_assoc]
  exact encoded.congr (sealIP_sum family _) fun k _ sum => sum

theorem rejectRoom_le (family : Family) (system : SystemStack) :
    rejectRoom family system + (family.minimumSize + 8) ≤ errorLimit family := by
  cases family with
  | v4 =>
    change (if system.mtu > 576 - 20 then 576 - 20 else system.mtu) - 8 + (20 + 8) ≤ (576 : Int)
    split <;> omega
  | v6 =>
    change (if system.mtu > 1280 - 40 then 1280 - 40 else system.mtu) - 8 + (40 + 8) ≤ (1280 : Int)
    split <;> omega

theorem length_errorQuote_le (fits : RejectFits family system ipHdr) :
    family.minimumSize + 8 + (errorQuote family system ipHdr).length ≤ errorLimit family := by
  have room := rejectRoom_le family system
  have length : (errorQuote family system ipHdr).length ≤
      (rejectRoom family system).toNat := length_take_le _ _
  have positive : 0 ≤ rejectRoom family system := by
    cases family with
    | v4 =>
      have fits : (ipHdr.length : Int) + 8 ≤ rejectRoom .v4 system := fits
      omega
    | v6 =>
      have fits : 40 ≤ rejectRoom .v6 system := fits
      omega
  omega

/-- An error, as the sender of the packet reads it. -/
structure ErrorOf (family : Family) (ipHdr : Bytes) (code : UInt8)
    (source destination : Addr family) (quote newPacket : Bytes) : Prop where
  datagram : Datagram family newPacket (ICMP.protocolNumber family)
    ⟨family.minimumSize, 8 + quote.length⟩ destination source
  type : byteAt newPacket family.minimumSize = ICMP.dstUnreachable family
  code : byteAt newPacket (family.minimumSize + 1) = code
  quoted : newPacket.drop (family.minimumSize + 8) = quote
  taken : ∃ count, quote = ipHdr.take count
  limit : newPacket.length ≤ errorLimit family
  headerSum : HeaderChecksumValid family newPacket ⟨family.minimumSize, 8 + quote.length⟩

/-- What is written, but for the checksum of its message. -/
theorem rejectWithCode_spec (fits : RejectFits family system ipHdr)
    (located : payload? family ipHdr = some payload)
    (sourced : sourceAddr? family ipHdr = some source)
    (addressed : destinationAddr? family ipHdr = some destination) :
    ∃ newPacket,
      rejectWithCode family system env ipHdr code = some (some newPacket) ∧
      ErrorOf family ipHdr code source destination (errorQuote family system ipHdr) newPacket ∧
      (MessageChecksumValid family destination.octets source.octets
          (newPacket.drop family.minimumSize) ↔ (messageSum family destination.octets source.octets
            (8 + (errorQuote family system ipHdr).length) +
              wordSum (errorQuote family system ipHdr)) % 65535 =
          errorSum ipHdr payload (errorQuote family system ipHdr) destination source % 65535) := by
  have limit := length_errorQuote_le fits
  have small : errorLimit family < 65536 := by
    cases family <;> decide
  have built := @rejectWithCode_eq system env ipHdr code family payload source
    destination fits (fun _ => located) sourced addressed
  have folds := @errorChecksum_toNat family ipHdr
    (errorQuote family system ipHdr) destination source payload (by omega)
  set quote := errorQuote family system ipHdr with quote_eq
  set quoteSum := errorChecksum ipHdr payload quote destination source
  have headerLength := @length_errorHeader env family quote.length destination source
  have change := @errorMessage_changed _ quote family.minimumSize
    (ICMP.dstUnreachable family) code quoteSum headerLength
  obtain ⟨h, headLength, type, coded, octets⟩ := @errorMessage_octets _ quote
    family.minimumSize (ICMP.dstUnreachable family) code quoteSum headerLength
  set newPacket := errorMessage (errorHeader env quote.length destination
    source) family.minimumSize (ICMP.dstUnreachable family) code quoteSum quote
  have length : newPacket.length = family.minimumSize + 8 + quote.length :=
    change.length.trans headerLength
  have read : ∀ k, k < 2 → byteAt newPacket (family.minimumSize + k) = byteAt h k := by
    intro k low
    rw [← byteAt_drop, octets, byteAt_append_left (by rw [length_writeU16]; omega)]
    exact byteAt_writeU16_of_ne (by omega)
  refine ⟨newPacket, built, ?_, ?_⟩
  · constructor
    case datagram =>
      refine (errorHeader_datagram quote.length (by omega) destination source).congr change ?_
      intro k front behind
      omega
    case type => exact (read 0 (by omega)).trans type
    case code => exact (read 1 (by omega)).trans coded
    case quoted =>
      rw [← drop_drop, octets, drop_left']
      rw [length_writeU16]
      exact headLength
    case taken => exact ⟨_, rfl⟩
    case limit => omega
    case headerSum =>
      have room := @length_errorHeader env family quote.length destination source
      have sealed : HeaderChecksumValid family (errorHeader env quote.length destination source)
          ⟨family.minimumSize, 8 + quote.length⟩ := by
        apply sealIP_valid
        unfold errorHeader at room
        rw [(sealIP_sum family _).length] at room
        omega
      exact sealed.congr change fun k behind => behind
  · have typed : byteAt h 0 ≠ 0 := by
      rw [type]
      cases family <;> decide
    have residue := foldCarry_mod (errorSum ipHdr payload quote destination source)
    rw [octets, ← residue, ← folds, ← errorMessage_balanced_iff headLength typed]
    have messageLength : (writeU16 h 2 (~~~checksum (h.drop 4)
        (checksum (h.take 2) quoteSum)) ++ quote).length = 8 + quote.length := by
      rw [length_append, length_writeU16, headLength]
    cases family with
    | v4 => exact Iff.rfl
    | v6 =>
      unfold MessageChecksumValid TransportChecksumValid
      rw [messageLength]
      exact Iff.rfl

/-! ## Errors that verify -/

/-- What the sender of the packet asks of an error. -/
structure ErrorVerifies
    (family : Family) (source destination : Addr family) (newPacket : Bytes) :
    Prop where
  datagram : ∃ length, Datagram family newPacket (ICMP.protocolNumber family)
    ⟨family.minimumSize, length⟩ destination source
  limit : newPacket.length ≤ errorLimit family
  headerSum : HeaderChecksumValid family newPacket ⟨family.minimumSize, 0⟩
  messageSum : MessageChecksumValid family destination.octets source.octets
    (newPacket.drop family.minimumSize)

/-- The length of a payload is no part of the test of a header. -/
theorem fits_of_written {newPacket : Bytes}
    (written : rejectWithCode family system env ipHdr code = some (some newPacket)) :
    RejectFits family system ipHdr := by
  by_contra small
  rw [rejectWithCode_small small] at written
  cases written

/-- An IPv4 packet that is rejected is quoted as a whole. -/
theorem errorQuote_eq_self (fits : RejectFits .v4 system ipHdr) :
    errorQuote .v4 system ipHdr = ipHdr := by
  have fits : (ipHdr.length : Int) + 8 ≤ rejectRoom .v4 system := fits
  apply take_of_length_le
  omega

/-- A header with a valid checksum and no octets behind the payload. -/
theorem wordSum_payload_of_headerSum (located : payload? .v4 ipHdr = some payload)
    (whole : payload.start + payload.length = ipHdr.length)
    (headerSum : HeaderChecksumValid .v4 ipHdr payload) :
    wordSum ipHdr % 65535 = wordSum (payload.octets ipHdr) % 65535 := by
  have aligned : payload.start % 2 = 0 := by
    obtain ⟨headerLength, header, start⟩ := headerLength?_of_payload? located
    simp only [IPv4.headerLength?, bind_eq_bind, bind_eq_some_iff] at header
    obtain ⟨versIHL, -, header⟩ := header
    rw [← start, ← some.inj header, UInt8.toNat_mul]
    change (versIHL &&& 0x0f).toNat * 4 % 256 % 2 = 0
    omega
  have sums := wordSum_take_add_drop ipHdr payload.start aligned
  have octets : payload.octets ipHdr = ipHdr.drop payload.start := by
    apply take_of_length_le
    rw [length_drop]
    omega
  have balanced : foldCarry (0 + wordSum (ipHdr.take payload.start)) = 65535 := headerSum
  rw [foldCarry_eq_ones_iff] at balanced
  rw [octets]
  omega

/--
An error verifies, but for IPv4 only if the octets of the packet that are not
its payload add nothing to the sum.
-/
theorem reject_verifies_iff {newPacket : Bytes} (located : payload? family ipHdr = some payload)
    (sourced : sourceAddr? family ipHdr = some source)
    (addressed : destinationAddr? family ipHdr = some destination)
    (written : rejectWithCode family system env ipHdr code = some (some newPacket)) :
    ErrorVerifies family source destination newPacket ↔ (family = .v4 → wordSum ipHdr % 65535 =
        wordSum (payload.octets ipHdr) % 65535) := by
  have fits := fits_of_written written
  obtain ⟨built, same, error, messageSum⟩ := @rejectWithCode_spec family system
    env ipHdr code payload source destination fits located sourced addressed
  obtain rfl := some.inj (some.inj (same.symm.trans written))
  have verifies : ErrorVerifies family source destination built ↔
      MessageChecksumValid family destination.octets source.octets
        (built.drop family.minimumSize) := by
    constructor
    · exact ErrorVerifies.messageSum
    · intro sum
      refine ⟨⟨_, error.datagram⟩, error.limit, ?_, sum⟩
      cases family with
      | v4 => exact error.headerSum
      | v6 => trivial
  rw [verifies, messageSum]
  cases family with
  | v4 =>
    rw [errorQuote_eq_self fits]
    unfold Header.messageSum errorSum
    rw [Nat.zero_add]
    exact ⟨fun sums _ => sums, fun sums => sums rfl⟩
  | v6 => exact iff_of_true rfl nofun

end Errors

/-- The echo request with a header checksum that is right. -/
def sealedRequest : Bytes :=
  [0x45, 0, 0, 28, 0, 0, 0, 0, 64, 1, 0x6c, 0xd3, 10, 0, 0, 9, 1, 2, 3, 4,
    8, 0, 0xf7, 0xfe, 0, 1, 0, 0]

theorem reject_verifies_sealed :
    ∃ newPacket, rejectWithCode .v4 plainSystem (.filled 0) sealedRequest 1 =
        some (some newPacket) ∧ ErrorVerifies .v4 (.from4 10 0 0 9) (.from4 1 2 3 4) newPacket := by
  have located : payload? .v4 sealedRequest = some ⟨20, 8⟩ := by decide
  have sourced : sourceAddr? .v4 sealedRequest = some (.from4 10 0 0 9) := by
    decide
  have addressed : destinationAddr? .v4 sealedRequest = some (.from4 1 2 3 4) := by
    decide
  obtain ⟨newPacket, written, -⟩ := @rejectWithCode_spec .v4 plainSystem
    (.filled 0) sealedRequest 1 _ _ _
    (show (28 : Int) + 8 ≤ rejectRoom .v4 plainSystem by decide) located sourced addressed
  refine ⟨newPacket, written,
    (reject_verifies_iff located sourced addressed written).mpr fun _ => ?_⟩
  exact wordSum_payload_of_headerSum located rfl
    (show IPv4ChecksumValid (sealedRequest.take 20) by decide)

/-- A request whose header checksum was left to the device. -/
theorem reject_unverified :
    isValid .v4 echoRequest echoRequest.length = true ∧
      ∃ newPacket, rejectWithCode .v4 plainSystem (.filled 0) echoRequest 1 =
          some (some newPacket) ∧
        ¬ErrorVerifies .v4 (.from4 10 0 0 9) (.from4 1 2 3 4) newPacket := by
  have located : payload? .v4 echoRequest = some ⟨20, 8⟩ := by decide
  have sourced : sourceAddr? .v4 echoRequest = some (.from4 10 0 0 9) := by
    decide
  have addressed : destinationAddr? .v4 echoRequest = some (.from4 1 2 3 4) := by
    decide
  obtain ⟨newPacket, written, -, messageSum⟩ := @rejectWithCode_spec .v4
    plainSystem (.filled 0) echoRequest 1 _ _ _
    (show (28 : Int) + 8 ≤ rejectRoom .v4 plainSystem by decide) located sourced addressed
  refine ⟨by decide, newPacket, written, fun verifies => ?_⟩
  exact absurd (messageSum.mp verifies.messageSum) (by decide)

/-! ## Requests that are rejected -/

/-- An echo request for which `PrepareConnection` returned `ErrReset`. -/
structure RejectedRequest
    (family : Family) (system : SystemStack) (env : Env) (packet : Bytes)
    (icmpHdr : Slice) (source destination : Addr family) : Prop where
  admitted : Admitted system packet family icmpHdr source destination
  transport : transportProtocol? family packet = some (ICMP.protocolNumber family)
  type : ICMP.type? packet icmpHdr = some (ICMP.echo family)
  code : ICMP.code? packet icmpHdr = some 0
  notOwn : some destination ≠ (system.inet family).map Inet.inetAddress
  reset : env.directRoute.err = some .reset

/-- `ICMPv4HostUnreachable` and `ICMPv6AddressUnreachable`. -/
def unreachableCode : Family → UInt8
  | .v4 => 1
  | .v6 => 3

/--
One error is written.  It quotes the header of the request and at least eight
octets behind it, if there are as many.
-/
def AnsweredWithError {family : Family} (packet : Bytes) (icmpHdr : Slice)
    (source destination : Addr family) (verdict : Verdict) : Prop :=
  ∃ newPacket quote, verdict.effects = [.tunWrite newPacket] ∧
    ErrorOf family packet (unreachableCode family) source destination quote
      newPacket ∧ min packet.length (icmpHdr.start + 8) ≤ quote.length

section Requests

variable {family : Family} {system : SystemStack} {env : Env} {packet : Bytes}
variable {icmpHdr : Slice} {source destination : Addr family}

/-- The error, if there is one, is all that comes of a rejected request. -/
theorem processPacket_rejected
    (rejected : RejectedRequest family system env packet icmpHdr source destination)
    (state : StackState) {error : Option Bytes}
    (built : rejectWithCode family system env packet (unreachableCode family) = some error) :
    ∃ verdict state', processPacket system env state packet =
      some (verdict, state') ∧ verdict.effects = error.toList.map .tunWrite := by
  have admitted := rejected.admitted
  have sent : rejectWithICMP family system env packet = some error := by
    cases family <;> exact built
  obtain ⟨notTCP, notUDP⟩ : ICMP.protocolNumber family ≠ tcpProtocolNumber ∧
      ICMP.protocolNumber family ≠ udpProtocolNumber := by
    cases family <;> decide
  rw [processPacket_admitted admitted]
  unfold processTransport transportVerdict processICMP
  simp only [rejected.transport, admitted.payload, rejected.type,
    rejected.code, admitted.destination, rejected.reset, sent,
    notTCP, notUDP, rejected.notOwn, some_bind, Option.pure_def, ne_eq, not_true_eq_false,
    not_false_eq_true, if_true, if_false]
  cases error with
  | none => exact ⟨_, _, rfl, rfl⟩
  | some newPacket =>
    refine ⟨_, _, rfl, ?_⟩
    unfold Verdict.settle
    split <;> rfl

section

variable (mtu : (errorLimit family : Int) ≤ system.mtu)
include mtu

/-- A large MTU leaves as much room as the limit does. -/
theorem rejectRoom_eq :
    rejectRoom family system + (family.minimumSize + 8) = errorLimit family := by
  cases family with
  | v4 =>
    change (576 : Int) ≤ system.mtu at mtu
    change (if system.mtu > 576 - 20 then 576 - 20 else system.mtu) - 8 + (20 + 8) = (576 : Int)
    rw [if_pos (by omega)]
    rfl
  | v6 =>
    change (1280 : Int) ≤ system.mtu at mtu
    change (if system.mtu > 1280 - 40 then 1280 - 40 else system.mtu) - 8 + (40 + 8) = (1280 : Int)
    rw [if_pos (by omega)]
    rfl

/-- The test of IPv4 is about the packet, that of IPv6 about the header. -/
theorem rejectFits_iff :
    RejectFits family system packet ↔ (family = .v4 → packet.length ≤ 540) := by
  have room := rejectRoom_eq mtu
  cases family with
  | v4 =>
    change rejectRoom .v4 system + (20 + 8) = 576 at room
    change (packet.length : Int) + 8 ≤ rejectRoom .v4 system ↔ _
    constructor
    · intro fits _
      omega
    · intro short
      have := short rfl
      omega
  | v6 =>
    change rejectRoom .v6 system + (40 + 8) = 1280 at room
    change (40 : Int) ≤ rejectRoom .v6 system ↔ _
    exact iff_of_true (by omega) nofun

/-- What is quoted goes beyond the header. -/
theorem le_length_errorQuote (fits : RejectFits family system packet)
    (located : payload? family packet = some icmpHdr) :
    min packet.length (icmpHdr.start + 8) ≤ (errorQuote family system packet).length := by
  cases family with
  | v4 =>
    rw [errorQuote_eq_self fits]
    exact Nat.min_le_left _ _
  | v6 =>
    have room := rejectRoom_eq mtu
    change rejectRoom .v6 system + (40 + 8) = 1280 at room
    rw [start_of_payload?6 located, errorQuote, length_take]
    omega

end

/-- A rejected request is answered, but not if it is a large one of IPv4. -/
theorem rejected_answered_iff
    (rejected : RejectedRequest family system env packet icmpHdr source destination)
    (mtu : (errorLimit family : Int) ≤ system.mtu) (state : StackState) :
    (∃ verdict state', processPacket system env state packet = some (verdict, state') ∧
      AnsweredWithError packet icmpHdr source destination verdict) ↔
      (family = .v4 → packet.length ≤ 540) := by
  have admitted := rejected.admitted
  rw [← rejectFits_iff mtu]
  constructor
  · rintro ⟨verdict, state', processed, newPacket, quote, effects, -⟩
    by_contra small
    obtain ⟨verdict', state'', processed', effects'⟩ :=
      processPacket_rejected rejected state (rejectWithCode_small small)
    rw [processed'] at processed
    cases processed
    rw [effects'] at effects
    cases effects
  · intro fits
    obtain ⟨newPacket, built, error, -⟩ := @rejectWithCode_spec family system
      env packet (unreachableCode family) icmpHdr source destination fits
      admitted.payload admitted.source admitted.destination
    obtain ⟨verdict, state', processed, effects⟩ := processPacket_rejected rejected state built
    exact ⟨verdict, state', processed, newPacket, _, effects, error,
      le_length_errorQuote mtu fits admitted.payload⟩

end Requests

/-- Surroundings in which every connection is rejected. -/
def rejectingEnv : Env :=
  { Env.filled 0 with directRoute := ⟨false, some .reset⟩ }

theorem rejected_answered_sample :
    ∃ verdict state', processPacket plainSystem rejectingEnv
        ⟨newNat (AddrPort .v4) 5, newNat (AddrPort .v6) 5⟩ echoRequest = some (verdict, state') ∧
      AnsweredWithError echoRequest ⟨20, 8⟩ (Addr.from4 10 0 0 9) (.from4 1 2 3 4) verdict := by
  have admitted : Admitted plainSystem echoRequest .v4 ⟨20, 8⟩
      (.from4 10 0 0 9) (.from4 1 2 3 4) := by
    constructor <;> decide
  have rejected : RejectedRequest .v4 plainSystem rejectingEnv echoRequest
      ⟨20, 8⟩ (.from4 10 0 0 9) (.from4 1 2 3 4) :=
    ⟨admitted, by decide, by decide, by decide, by decide, rfl⟩
  exact (rejected_answered_iff rejected (by decide) _).mpr fun _ => by decide

/-- An echo request of 541 octets. -/
def largeRequest : Bytes :=
  [0x45, 0, 2, 0x1d, 0, 0, 0, 0, 64, 1, 0x6a, 0xd2, 10, 0, 0, 9, 1, 2, 3, 4,
    8, 0, 0xf7, 0xfe, 0, 1, 0, 0] ++ List.replicate 513 0

/-- Nothing is written for a request that is longer than the room. -/
theorem rejected_unanswered :
    RejectedRequest .v4 plainSystem rejectingEnv largeRequest ⟨20, 521⟩
        (.from4 10 0 0 9) (.from4 1 2 3 4) ∧ (576 : Int) ≤ plainSystem.mtu ∧
      ∃ verdict state', processPacket plainSystem rejectingEnv
          ⟨newNat (AddrPort .v4) 5, newNat (AddrPort .v6) 5⟩ largeRequest =
            some (verdict, state') ∧ verdict.effects = [] := by
  have length : largeRequest.length = 541 := by
    rw [largeRequest, length_append, length_replicate]
    rfl
  have admitted : Admitted plainSystem largeRequest .v4 ⟨20, 521⟩
      (.from4 10 0 0 9) (.from4 1 2 3 4) := by
    constructor <;> decide +kernel
  have rejected : RejectedRequest .v4 plainSystem rejectingEnv largeRequest
      ⟨20, 521⟩ (.from4 10 0 0 9) (.from4 1 2 3 4) :=
    ⟨admitted, by decide +kernel, by decide +kernel, by decide +kernel, by decide, rfl⟩
  have small : ¬RejectFits .v4 plainSystem largeRequest := by
    intro fits
    change (largeRequest.length : Int) + 8 ≤ 548 at fits
    omega
  exact ⟨rejected, by decide, processPacket_rejected rejected _ (rejectWithCode_small small)⟩

end SingTun.System
