import SingTun.System.Stack

/-!
# Packets that the stack makes itself

The buffer of a new packet has the octets of whatever it was used for before.
A reset stores every octet of its packet.  An ICMP error stores the type, the
code and the checksum of its message, but not the four octets behind them,
which go out as the pool returned them.
-/

namespace SingTun.System

open Foundation Header

/-! ## Headers -/

section Headers

variable {family : Family} {changed : Nat → Prop} {before after : Bytes}

/-- `Encode` stores every octet of the IP header. -/
theorem encodeIP_both (long : family.minimumSize ≤ before.length) (payloadLength : Nat)
    (protocol : UInt8) (srcAddr dstAddr : Addr family)
    (change : ChangedAt (fun k => changed k ∨ k < family.minimumSize) before after) :
    ChangedAt changed (encodeIP before payloadLength protocol srcAddr dstAddr)
      (encodeIP after payloadLength protocol srcAddr dstAddr) := by
  have srcLength := srcAddr.length_octets
  have dstLength := dstAddr.length_octets
  cases family with
  | v4 =>
    change 20 ≤ before.length at long
    change srcAddr.octets.length = 4 at srcLength
    change dstAddr.octets.length = 4 at dstLength
    apply ChangedAt.overwrite_both
    · rw [length_overwrite] <;> simp <;> omega
    apply ChangedAt.overwrite_both
    · simp
      omega
    apply ChangedAt.writeU16_both
    apply ChangedAt.set_both
    apply ChangedAt.set_both
    apply ChangedAt.writeU16_both
    apply ChangedAt.writeU16_both
    apply ChangedAt.writeU16_both
    apply ChangedAt.set_both
    apply ChangedAt.set_both
    apply change.mono
    rintro k (covered | (low : k < 20))
    · simp only [covered, true_or]
    · simp only [or_assoc]
      exact .inr (by omega)
  | v6 =>
    change 40 ≤ before.length at long
    change srcAddr.octets.length = 16 at srcLength
    change dstAddr.octets.length = 16 at dstLength
    apply ChangedAt.set_both
    apply ChangedAt.overwrite_both
    · rw [length_overwrite] <;> simp <;> omega
    apply ChangedAt.overwrite_both
    · simp
      omega
    apply ChangedAt.set_both
    apply ChangedAt.writeU16_both
    apply ChangedAt.writeU32_both
    apply change.mono
    rintro k (covered | (low : k < 40))
    · simp only [covered, true_or]
    · simp only [or_assoc]
      exact .inr (by omega)

/-- `Encode` stores nothing behind the IP header. -/
theorem encodeIP_changed {b : Bytes} (long : family.minimumSize ≤ b.length) (payloadLength : Nat)
    (protocol : UInt8) (srcAddr dstAddr : Addr family) :
    ChangedAt (fun k => k < family.minimumSize) b
      (encodeIP b payloadLength protocol srcAddr dstAddr) := by
  have srcLength := srcAddr.length_octets
  have dstLength := dstAddr.length_octets
  cases family with
  | v4 =>
    change 20 ≤ b.length at long
    change srcAddr.octets.length = 4 at srcLength
    change dstAddr.octets.length = 4 at dstLength
    have header : ∀ k, k < 20 → k < Family.minimumSize .v4 := fun _ => id
    refine .trans ?_ (.overwrite ?_ fun k _ high => header k (by omega))
    refine .trans ?_ (.overwrite ?_ fun k _ high => header k (by omega))
    refine .trans ?_ (.writeU16 _ (header _ (by omega)) (header _ (by omega)))
    refine .trans ?_ (.set _ (header _ (by omega)))
    refine .trans ?_ (.set _ (header _ (by omega)))
    refine .trans ?_ (.writeU16 _ (header _ (by omega)) (header _ (by omega)))
    refine .trans ?_ (.writeU16 _ (header _ (by omega)) (header _ (by omega)))
    refine .trans ?_ (.writeU16 _ (header _ (by omega)) (header _ (by omega)))
    refine .trans ?_ (.set _ (header _ (by omega)))
    exact .set _ (header _ (by omega))
    · simp
      omega
    · rw [length_overwrite] <;> simp <;> omega
  | v6 =>
    change 40 ≤ b.length at long
    change srcAddr.octets.length = 16 at srcLength
    change dstAddr.octets.length = 16 at dstLength
    have header : ∀ k, k < 40 → k < Family.minimumSize .v6 := fun _ => id
    refine .trans ?_ (.set _ (header _ (by omega)))
    refine .trans ?_ (.overwrite ?_ fun k _ high => header k (by omega))
    refine .trans ?_ (.overwrite ?_ fun k _ high => header k (by omega))
    refine .trans ?_ (.set _ (header _ (by omega)))
    refine .trans ?_ (.writeU16 _ (header _ (by omega)) (header _ (by omega)))
    refine .trans (.writeU16 _ ?_ ?_) (.writeU16 _ ?_ ?_)
    all_goals first
      | exact header _ (by omega)
      | simp; omega
      | rw [length_overwrite] <;> simp <;> omega

/-- `TCP.Encode` stores every octet of the TCP header. -/
theorem encodeTCP_both (start : Nat) (t : TCPFields)
    (change : ChangedAt
      (fun k => changed k ∨ (start ≤ k ∧ k < start + TCP.minimumSize)) before after) :
    ChangedAt changed (encodeTCP before start t) (encodeTCP after start t) := by
  apply ChangedAt.writeU16_both
  apply ChangedAt.writeU16_both
  apply ChangedAt.set_both
  apply ChangedAt.writeU16_both
  apply ChangedAt.writeU16_both
  apply ChangedAt.writeU16_both
  apply ChangedAt.set_both
  apply ChangedAt.writeU32_both
  apply ChangedAt.writeU32_both
  apply change.mono
  rintro k (covered | ⟨low, (high : k < start + 20)⟩)
  · simp only [covered, true_or]
  · simp only [or_assoc]
    exact .inr (by omega)

theorem length_encodeTCP (b : Bytes) (start : Nat) (t : TCPFields) :
    (encodeTCP b start t).length = b.length := by
  simp only [encodeTCP, length_writeU16, length_writeU32, List.length_set]

theorem sealIP_changed (family : Family) (b : Bytes) :
    ChangedAt (fun k => k < family.minimumSize) b (sealIP family b) := by
  cases family with
  | v4 =>
    apply ChangedAt.writeU16
    · exact show 10 < 20 by decide
    · exact show 11 < 20 by decide
  | v6 => exact .refl

end Headers

/-! ## Resets -/

/-- Both headers of a reset, before the checksums. -/
theorem encodeTCP_encodeIP_eq {family : Family} {before after : Bytes}
    (length : before.length = family.minimumSize + TCP.minimumSize)
    (length' : after.length = family.minimumSize + TCP.minimumSize)
    (srcAddr dstAddr : Addr family) (fields : TCPFields) :
    encodeTCP (encodeIP after TCP.minimumSize tcpProtocolNumber srcAddr
        dstAddr) family.minimumSize fields =
      encodeTCP (encodeIP before TCP.minimumSize tcpProtocolNumber srcAddr
        dstAddr) family.minimumSize fields := by
  have change : ChangedAt (fun k => family.minimumSize + TCP.minimumSize ≤ k)
      (encodeTCP (encodeIP before TCP.minimumSize tcpProtocolNumber srcAddr
        dstAddr) family.minimumSize fields)
      (encodeTCP (encodeIP after TCP.minimumSize tcpProtocolNumber srcAddr
        dstAddr) family.minimumSize fields) := by
    apply encodeTCP_both
    apply encodeIP_both (by omega)
    apply (ChangedAt.of_length (length'.trans length.symm)).mono
    intro k _
    omega
  apply change.eq_of_covered
  intro k inside covered
  rw [length_encodeTCP, (encodeIP_changed (by omega) _ _ _ _).length, length] at inside
  omega

theorem resetTCP_fresh (family : Family) (system : SystemStack) (env env' : Env) (packet : Bytes)
    (origTCPHdr : Slice) :
    resetTCP family system env packet origTCPHdr =
      resetTCP family system env' packet origTCPHdr := by
  refine bind_congr fun srcAddr => bind_congr fun dstAddr =>
    bind_congr fun fields => ?_
  rw [encodeTCP_encodeIP_eq (env'.length_fresh _) (env.length_fresh _)]

/-! ## ICMP errors -/

/-- The octets of the message that no field of it covers. -/
def UnusedOctet (family : Family) (k : Nat) : Prop :=
  family.minimumSize + 4 ≤ k ∧ k < family.minimumSize + 8

/-- What is left for the offending packet. -/
def rejectRoom : Family → SystemStack → Int
  | .v4, system => (if system.mtu > 576 - 20 then 576 - 20 else system.mtu) - 8
  | .v6, system =>
    (if system.mtu > 1280 - 40 then 1280 - 40 else system.mtu) - 8

/-- The room is large enough for an error. -/
def RejectFits : Family → SystemStack → Bytes → Prop
  | .v4, system, ipHdr => ipHdr.length + 8 ≤ rejectRoom .v4 system
  | .v6, system, _ => 40 ≤ rejectRoom .v6 system

/-- An error is written if the packet can be read as far as it is used. -/
def RejectWritten (family : Family) (system : SystemStack) (ipHdr : Bytes) : Prop :=
  RejectFits family system ipHdr ∧ family.minimumSize ≤ ipHdr.length ∧
    (family = .v4 → (payload? .v4 ipHdr).isSome = true)

section Errors

variable {system : SystemStack} {env : Env} {ipHdr : Bytes} {code : UInt8}

/-- `rejectIPv4WithICMP` and `rejectIPv6WithICMP`. -/
def rejectWithCode : Family → SystemStack → Env → Bytes → UInt8 → Option (Option Bytes)
  | .v4 => rejectIPv4WithICMP
  | .v6 => rejectIPv6WithICMP

theorem rejectWithCode_small {family : Family} (small : ¬RejectFits family system ipHdr) :
    rejectWithCode family system env ipHdr code = some none := by
  cases family with
  | v4 => exact if_pos (Int.not_le.mp small)
  | v6 => exact if_pos (Int.not_le.mp small)

/-! ### Messages with a quotation -/

/-- A message of eight octets and a quotation, with a sum for the quotation. -/
def errorMessage (b : Bytes) (start : Nat) (type code : UInt8) (quoteSum : UInt16)
    (quote : Bytes) : Bytes :=
  let b := (b.set start type).set (start + 1) code
  let h := window b start 8
  overwrite (writeU16 b (start + 2) (~~~checksum (h.drop 4) (checksum (h.take 2) quoteSum)))
    (start + 8) quote

/-- What is quoted. -/
def errorQuote (family : Family) (system : SystemStack) (ipHdr : Bytes) : Bytes :=
  ipHdr.take (rejectRoom family system).toNat

/-- The headers of an error, before its message. -/
def errorHeader {family : Family} (env : Env) (length : Nat)
    (srcAddr dstAddr : Addr family) : Bytes :=
  sealIP family (encodeIP (env.fresh (family.minimumSize + 8 + length)) (8 + length)
      (ICMP.protocolNumber family) srcAddr dstAddr)

/-- The sum from which the checksum of the message is computed. -/
def errorChecksum {family : Family} (ipHdr : Bytes) (payload : Slice) (quote : Bytes)
    (srcAddr dstAddr : Addr family) : UInt16 :=
  match family with
  | .v4 => checksum (payload.octets ipHdr) 0
  | .v6 =>
    combine (pseudoHeaderChecksum icmpv6ProtocolNumber srcAddr.octets
      dstAddr.octets (UInt16.ofNat (8 + quote.length))) (checksum quote 0)

section Message

variable {family : Family}

section

variable (length : Nat) (srcAddr dstAddr : Addr family)

theorem errorHeader_changed :
    ChangedAt (fun k => k < family.minimumSize)
      (env.fresh (family.minimumSize + 8 + length)) (errorHeader env length srcAddr dstAddr) := by
  have fresh := env.length_fresh (family.minimumSize + 8 + length)
  exact (encodeIP_changed (by omega) _ _ _ _).trans (sealIP_changed family _)

theorem length_errorHeader :
    (errorHeader env length srcAddr dstAddr).length = family.minimumSize + 8 + length := by
  rw [(errorHeader_changed length srcAddr dstAddr).length]
  exact env.length_fresh _

theorem length_messageHeader (type code : UInt8) :
    (window (((errorHeader env length srcAddr dstAddr).set family.minimumSize
      type).set (family.minimumSize + 1) code) family.minimumSize 8).length =
        8 := by
  apply length_window
  rw [List.length_set, List.length_set, length_errorHeader]
  omega

end

/-- Both functions build one message, with different sums. -/
theorem rejectWithCode_eq {payload : Slice} {source destination : Addr family}
    (fits : RejectFits family system ipHdr)
    (located : family = .v4 → payload? family ipHdr = some payload)
    (sourced : sourceAddr? family ipHdr = some source)
    (addressed : destinationAddr? family ipHdr = some destination) :
    rejectWithCode family system env ipHdr code = some (some (errorMessage
        (errorHeader env (errorQuote family system ipHdr).length destination
          source) family.minimumSize (ICMP.dstUnreachable family) code
        (errorChecksum ipHdr payload (errorQuote family system ipHdr)
          destination source) (errorQuote family system ipHdr))) := by
  have head := @length_messageHeader env family
    (errorQuote family system ipHdr).length destination source (ICMP.dstUnreachable family) code
  cases family with
  | v4 =>
    have room : (if system.mtu > 576 - 20 then 576 - 20
      else system.mtu) - 8 = rejectRoom .v4 system := rfl
    unfold rejectWithCode rejectIPv4WithICMP ICMP.icmpv4Checksum?
    simp only [sourced, addressed, located rfl, room, some_bind]
    rw [if_neg (Int.not_lt.mpr fits)]
    set typed := ((errorHeader env (errorQuote .v4 system ipHdr).length
      destination source).set 20 (ICMP.dstUnreachable .v4)).set 21 code
    rw [ICMP.messageChecksum?_eq_some (head.symm ▸ by decide)]
    rfl
  | v6 =>
    have room : (if system.mtu > 1280 - 40 then 1280 - 40
      else system.mtu) - 8 = rejectRoom .v6 system := rfl
    unfold rejectWithCode rejectIPv6WithICMP ICMP.icmpv6Checksum?
    simp only [sourced, addressed, room, some_bind]
    rw [if_neg (Int.not_lt.mpr fits)]
    set typed := ((errorHeader env (errorQuote .v6 system ipHdr).length
      destination source).set 40 (ICMP.dstUnreachable .v6)).set 41 code
    change (window typed 40 8).length = 8 at head
    change ((ICMP.messageChecksum? (window typed 40 8) (combine
      (pseudoHeaderChecksum _ _ _ (UInt16.ofNat
        ((window typed 40 8).length + _))) _)).bind _).bind _ = _
    rw [head, ICMP.messageChecksum?_eq_some (head.symm ▸ by decide)]
    rfl

/-- The stores behind the IP header leave the unused octets alone. -/
theorem errorMessage_unused {b quote : Bytes} (type code : UInt8) (quoteSum : UInt16)
    (length : b.length = family.minimumSize + 8 + quote.length) :
    ChangedAt (fun k => ¬UnusedOctet family k) b
      (errorMessage b family.minimumSize type code quoteSum quote) := by
  have outside : ∀ k, k < family.minimumSize + 4 ∨
      family.minimumSize + 8 ≤ k → ¬UnusedOctet family k := by
    rintro k apart ⟨low, high⟩
    omega
  refine .trans ?_ (.overwrite ?_ fun k low _ => outside k (by omega))
  · refine .trans ?_ (.writeU16 _ (outside _ (by omega)) (outside _ (by omega)))
    refine .trans ?_ (.set _ (outside _ (by omega)))
    exact .set _ (outside _ (by omega))
  · simp only [length_writeU16, List.length_set]
    omega

/-- The octets of the buffer that no store covers are in the error. -/
theorem rejectWithCode_written (written : RejectWritten family system ipHdr) :
    ∃ newPacket size,
      rejectWithCode family system env ipHdr code = some (some newPacket) ∧
        family.minimumSize + 8 ≤ size ∧ ChangedAt (fun k => ¬UnusedOctet family k) (env.fresh size)
          newPacket := by
  obtain ⟨fits, long, readable⟩ := written
  obtain ⟨srcAddr, addressed⟩ := exists_destinationAddr? long
  obtain ⟨dstAddr, sourced⟩ := exists_sourceAddr? long
  obtain ⟨payload, located⟩ : ∃ payload, family = .v4 → payload? family ipHdr = some payload := by
    cases family with
    | v4 =>
      obtain ⟨payload, found⟩ := Option.isSome_iff_exists.mp (readable rfl)
      exact ⟨payload, fun _ => found⟩
    | v6 => exact ⟨⟨0, 0⟩, nofun⟩
  have header := @errorHeader_changed env family
    (errorQuote family system ipHdr).length srcAddr dstAddr
  refine ⟨_, _, rejectWithCode_eq fits located sourced addressed,
    Nat.le_add_right _ _, (header.mono ?_).trans (errorMessage_unused _ code _
      (length_errorHeader _ srcAddr dstAddr))⟩
  rintro k (low : k < family.minimumSize) ⟨high, -⟩
  omega

end Message

/-- A packet that cannot be read stops the program. -/
theorem rejectWithCode_unreadable {family : Family} (fits : RejectFits family system ipHdr)
    (unwritten : ¬RejectWritten family system ipHdr) :
    rejectWithCode family system env ipHdr code = none := by
  cases family with
  | v4 =>
    refine (if_neg (Int.not_lt.mpr fits)).trans ?_
    by_cases long : Family.minimumSize .v4 ≤ ipHdr.length
    · have unread : payload? .v4 ipHdr = none := by
        by_contra found
        exact unwritten ⟨fits, long, fun _ => Option.isSome_iff_ne_none.mpr found⟩
      refine Option.bind_eq_none_iff.mpr fun srcAddr _ => ?_
      refine Option.bind_eq_none_iff.mpr fun dstAddr _ => ?_
      rw [unread]
      rfl
    · have unread : destinationAddr? .v4 ipHdr = none := dif_neg fun inside => long inside
      rw [unread]
      rfl
  | v6 =>
    refine (if_neg (Int.not_lt.mpr fits)).trans ?_
    have short : ¬Family.minimumSize .v6 ≤ ipHdr.length := fun long => unwritten ⟨fits, long, nofun⟩
    have unread : destinationAddr? .v6 ipHdr = none := dif_neg fun inside => short inside
    rw [unread]
    rfl

/-- Whether an error is written does not depend on the buffer. -/
theorem rejectWithCode_not_written
    {family : Family} (unwritten : ¬RejectWritten family system ipHdr)
    (env env' : Env) :
    rejectWithCode family system env ipHdr code = rejectWithCode family system env' ipHdr code := by
  by_cases fits : RejectFits family system ipHdr
  · rw [rejectWithCode_unreadable fits unwritten, rejectWithCode_unreadable fits unwritten]
  · rw [rejectWithCode_small fits, rejectWithCode_small fits]

end Errors

/-! ## What a buffer shows -/

/-- The packets that the stack makes. -/
inductive Reply
  | reset (origTCPHdr : Slice)
  | reject (code : UInt8)
deriving DecidableEq

/-- The packet that is written, if there is one. -/
def Reply.packet (reply : Reply) (family : Family) (system : SystemStack) (env : Env)
    (ipHdr : Bytes) : Option (Option Bytes) :=
  match reply with
  | .reset origTCPHdr =>
    (resetTCP family system env ipHdr origTCPHdr).map some
  | .reject code => rejectWithCode family system env ipHdr code

/-- Surroundings whose buffers have one octet throughout. -/
def Env.filled (octet : UInt8) : Env where
  since := 0
  now := 0
  fresh size := List.replicate size octet
  length_fresh _ := List.length_replicate
  writeErr := none
  directRoute := ⟨false, none⟩
  actionErr := none

/--
What is written does not depend on the old octets of the buffer, except for
ICMP errors: every error that is written does.
-/
theorem reply_independent_iff
    (family : Family) (system : SystemStack)
    (ipHdr : Bytes) (reply : Reply) :
    (∀ env env' : Env, reply.packet family system env ipHdr =
        reply.packet family system env' ipHdr) ↔
      ∀ code, reply = .reject code → ¬RejectWritten family system ipHdr := by
  constructor
  · rintro independent code rfl written
    -- Two buffers that differ in every octet.
    obtain ⟨zeros, size, zerosBuilt, long, zerosKept⟩ :=
      @rejectWithCode_written system (.filled 0) ipHdr code family written
    obtain ⟨ones, size', onesBuilt, long', onesKept⟩ :=
      @rejectWithCode_written system (.filled 1) ipHdr code family written
    have same := independent (.filled 0) (.filled 1)
    change rejectWithCode family system _ ipHdr code =
      rejectWithCode family system _ ipHdr code at same
    rw [zerosBuilt, onesBuilt] at same
    obtain rfl := Option.some.inj (Option.some.inj same)
    have unused : UnusedOctet family (family.minimumSize + 4) := ⟨le_rfl, by omega⟩
    have octet := (zerosKept.octets _ (not_not_intro unused)).symm.trans
      (onesKept.octets _ (not_not_intro unused))
    change byteAt (List.replicate size 0) _ = byteAt (List.replicate size' 1) _ at octet
    rw [byteAt_eq_getElem (by rw [List.length_replicate]; omega),
      byteAt_eq_getElem (by rw [List.length_replicate]; omega),
      List.getElem_replicate, List.getElem_replicate] at octet
    cases octet
  · intro unwritten env env'
    cases reply with
    | reset origTCPHdr =>
      exact congrArg (Option.map some) (resetTCP_fresh family system env env' ipHdr origTCPHdr)
    | reject code =>
      exact rejectWithCode_not_written (unwritten code rfl) env env'

/-- A stack without addresses of its own. -/
def plainSystem : SystemStack where
  inet _ := none
  inetLoopbackAddress _ := []
  broadcastAddr := none
  mtu := 1500
  txChecksumOffload := false

/-- An echo request from `10.0.0.9` to `1.2.3.4`. -/
def echoRequest : Bytes :=
  [0x45, 0, 0, 28, 0, 0, 0, 0, 64, 1, 0, 0, 10, 0, 0, 9, 1, 2, 3, 4, 8, 0, 0xf7, 0xfe, 0, 1, 0, 0]

/-- Two buffers, two different answers to one packet. -/
theorem reply_dependent_on_buffer :
    isValid .v4 echoRequest echoRequest.length = true ∧
      (Reply.reject 1).packet .v4 plainSystem (.filled 0) echoRequest ≠
        (Reply.reject 1).packet .v4 plainSystem (.filled 1) echoRequest := by
  decide +kernel

end SingTun.System
