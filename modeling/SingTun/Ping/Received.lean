import SingTun.Ping.Conn

/-!
# What `ReadIP` makes of what it is given

The raw sockets of Darwin deliver IPv4 headers with two words in the order of
the host, and `ReadIP` puts them back.  It stores the identifier and the
checksum of the message before anything has tested its length.
-/

namespace SingTun.Ping

open Foundation Header Option

/-! ## The headers of Darwin -/

section Darwin

variable {packet : Bytes}

/-- The header of a packet as the raw socket delivers it: the setters for raw
headers, with the length of the payload. -/
def deliverDarwin? (packet : Bytes) : Option Bytes := do
  let payloadLength ← IPv4.payloadLength? packet
  let flags ← IPv4.flags? packet
  let fragmentOffset ← IPv4.fragmentOffset? packet
  let packet ← IPv4.setTotalLengthDarwinRaw? packet payloadLength
  IPv4.setFlagsFragmentOffsetDarwinRaw? packet flags fragmentOffset

/-- The flags of one word and the fragment offset of another. -/
theorem packed_toNat (flagsFO other : UInt16) :
    (((flagsFO >>> 13).toUInt8.toUInt16 <<< 13) |||
      ((other <<< 3) >>> 3)).toNat = flagsFO.toNat / 8192 * 8192 + other.toNat % 8192 := by
  have first := flagsFO.toNat_lt
  have high : ((flagsFO >>> 13).toUInt8.toUInt16 <<< 13).toNat =
      2 ^ 13 * (flagsFO.toNat / 8192) := by
    simp [Nat.shiftLeft_eq, Nat.shiftRight_eq_div_pow]
    omega
  have low : ((other <<< 3) >>> 3).toNat = other.toNat % 8192 := by
    simp [Nat.shiftLeft_eq, Nat.shiftRight_eq_div_pow]
    omega
  rw [UInt16.toNat_or, high, low, ← Nat.two_pow_add_eq_or_of_lt (Nat.mod_lt _ (by decide))]
  omega

/-- The first three bits of a word whose octets were swapped. -/
theorem toNat_swapOctets_div (value : UInt16) :
    (swapOctets value).toNat / 8192 = value.toNat / 32 % 8 := by
  have bound := value.toNat_lt
  have low : (swapOctets value).toNat / 256 = value.toNat % 256 := by
    rw [toNat_swapOctets]
    omega
  omega

theorem deliverDarwin?_eq (long : 20 ≤ packet.length) :
    deliverDarwin? packet = some (darwinRaw packet) := by
  have packed : ((readU16 packet 6 >>> 13).toUInt8.toUInt16 <<< 13) |||
      ((readU16 packet 6 <<< 3) >>> 3) = readU16 packet 6 := by
    apply UInt16.toNat_inj.mp
    rw [packed_toNat]
    omega
  unfold deliverDarwin? IPv4.payloadLength? IPv4.totalLength?
    IPv4.headerLength? IPv4.flags? IPv4.fragmentOffset?
    IPv4.setTotalLengthDarwinRaw? IPv4.setFlagsFragmentOffsetDarwinRaw?
  rw [readU16?_eq_some (by omega), readU16?_eq_some (by omega), byteAt?_eq_some (by omega)]
  simp only [some_bind, pure_def]
  rw [writeU16?_eq_some _ (by omega)]
  simp only [some_bind]
  rw [writeU16?_eq_some _ (by rw [length_writeU16]; omega), packed]
  unfold darwinRaw
  dsimp only
  rw [readU16_writeU16_of_disjoint (by omega)]

/-- The packet has the fields that it had before it came through the socket. -/
def Normalised (packet : Bytes) : Prop :=
  ∃ raw packet', deliverDarwin? packet = some raw ∧ restoreHeader? raw = some packet' ∧
    IPv4.totalLength? packet' = IPv4.totalLength? packet ∧
    IPv4.flags? packet' = IPv4.flags? packet ∧
    IPv4.fragmentOffset? packet' = IPv4.fragmentOffset? packet

/--
The length and the fragment offset are always restored.  The flags are read
from the low octet of their word, and so are three bits of the fragment offset.
-/
theorem normalised_iff (long : 20 ≤ packet.length) :
    Normalised packet ↔ readU16 packet 6 >>> 13 = (readU16 packet 6 >>> 5) &&& 7 := by
  obtain ⟨packet', restores, change, word⟩ := restoreHeader?_darwinRaw long
  have size := change.length
  have bound := (readU16 packet 6).toNat_lt
  have stored := congrArg UInt16.toNat word
  rw [packed_toNat, toNat_swapOctets_div] at stored
  have length : IPv4.totalLength? packet' = IPv4.totalLength? packet := by
    unfold IPv4.totalLength?
    rw [readU16?_eq_some (by omega), readU16?_eq_some (by omega),
      change.readU16_eq (by omega) (by omega)]
  have offset : IPv4.fragmentOffset? packet' = IPv4.fragmentOffset? packet := by
    unfold IPv4.fragmentOffset?
    rw [readU16?_eq_some (by omega), readU16?_eq_some (by omega)]
    refine congrArg some (UInt16.toNat_inj.mp ?_)
    simp [Nat.shiftLeft_eq]
    omega
  have flags : IPv4.flags? packet' = IPv4.flags? packet ↔
      readU16 packet 6 >>> 13 = (readU16 packet 6 >>> 5) &&& 7 := by
    have three : ((readU16 packet 6 >>> 5) &&& 7).toNat = (readU16 packet 6).toNat / 32 % 8 := by
      simp [Nat.shiftRight_eq_div_pow]
      exact Nat.and_two_pow_sub_one_eq_mod _ 3
    unfold IPv4.flags?
    rw [readU16?_eq_some (by omega), readU16?_eq_some (by omega), ← UInt16.toNat_inj, three]
    have top : (readU16 packet' 6).toNat / 8192 = (readU16 packet 6).toNat / 32 % 8 := by
      omega
    simp [← UInt8.toNat_inj, Nat.shiftRight_eq_div_pow, top]
    omega
  rw [← flags]
  constructor
  · rintro ⟨raw, other, delivers, restores', -, same, -⟩
    rw [deliverDarwin?_eq long] at delivers
    cases delivers
    cases restores.symm.trans restores'
    exact same
  · intro same
    exact ⟨_, packet', deliverDarwin?_eq long, restores, length, same, offset⟩

/-- An IPv4 header with a flags and fragment offset word. -/
def headerWith (flagsFO : UInt16) : Bytes :=
  writeU16 [0x45, 0, 0, 84, 0, 0, 0, 0, 64, 1, 0, 0, 192, 0, 2, 1, 192, 0, 2, 2] 6 flagsFO

/-- Both octets of the word are equal. -/
theorem dontFragment_kept : Normalised (headerWith 0x4040) :=
  (normalised_iff (by decide)).mpr (by decide)

/-- "Don't fragment" is lost. -/
theorem dontFragment_lost : ¬Normalised (headerWith 0x4000) := by
  rintro ⟨raw, packet', delivers, restores, -, flags, -⟩
  cases delivers
  cases (show restoreHeader? (darwinRaw (headerWith 0x4000)) =
    some (headerWith 0) from by decide).symm.trans restores
  revert flags
  decide

end Darwin

/-! ## Messages that are too short -/

section Short

variable {platform : Platform} {family : Family} {packet : Bytes} {icmpHdr : Slice}

/-- The octets of a message that `ReadIP` reads and stores. -/
def Platform.messageSize (platform : Platform) : Nat :=
  if platform.linuxUnprivileged then 4 else 6

/-- `ReadIP`, after the read of the socket; the source is loaded again for the
header of a datagram. -/
def Platform.readIP? (platform : Platform) (source source' : Option (Addr family)) :
    Message family → Option (Except ReadError Bytes)
  | .packet octets => platform.readPacket? source octets
  | .datagram received => do
      let body ← platform.readMessage? source received.addr received.octets
      let packet ← received.readHeader? source' body
      some (.ok packet)

/-- What is read fits into the buffer of `loopRead`. -/
def Message.InBuffer : Message family → Prop
  | .packet octets => octets.length ≤ maxICMPPacketSize
  | .datagram received =>
    received.octets.length ≤ maxICMPPacketSize - family.minimumSize

/-- All octets that `ReadIP` reads and stores were received. -/
def Message.Readable (platform : Platform) : Message family → Prop
  | .packet octets =>
    (platform.darwin ∧ family = .v4 → 8 ≤ octets.length) ∧
      ∀ packet icmpHdr, platform.restore? family octets = some packet →
        isValid family packet packet.length = true → payload? family packet = some icmpHdr →
        platform.messageSize ≤ icmpHdr.length
  | .datagram received =>
    (family = .v4 ∧ platform.linuxUnprivileged = true) ∨
      platform.messageSize ≤ received.octets.length

theorem restoreHeader?_isSome (packet : Bytes) :
    (restoreHeader? packet).isSome ↔ 8 ≤ packet.length := by
  unfold restoreHeader? IPv4.totalLengthDarwinRaw? IPv4.nativeU16?
    IPv4.headerLength? IPv4.setTotalLength? IPv4.flagsDarwinRaw?
    IPv4.fragmentOffsetDarwinRaw? IPv4.nativeU16? IPv4.setFlagsFragmentOffset?
  rcases Nat.lt_or_ge packet.length 4 with short | long
  · have outside : readU16? packet 2 = none := if_neg (by omega)
    simp [outside]
    omega
  · rw [readU16?_eq_some (by omega), byteAt?_eq_some (by omega)]
    simp only [some_bind, pure_def]
    rw [writeU16?_eq_some _ (by omega)]
    simp only [some_bind]
    rcases Nat.lt_or_ge packet.length 8 with short | long
    · have outside : ∀ value, readU16? (writeU16 packet 2 value) 6 = none :=
        fun value => if_neg (by rw [length_writeU16]; omega)
      simp [outside]
      omega
    · rw [readU16?_eq_some (by rw [length_writeU16]; omega)]
      simp only [some_bind]
      rw [writeU16?_eq_some _ (by rw [length_writeU16]; omega)]
      simp [long]

/-- The identifier and the checksum of a message of any length. -/
theorem identSeal_cases {reseal : Bytes → Option Bytes} (small : icmpHdr.length < 65536)
    (inside : icmpHdr.Inside packet)
    (reseals : ∀ packet' : Bytes, packet'.length = packet.length →
      ∃ src dst, reseal packet' = sealEcho? family src dst packet' icmpHdr) :
    (platform.messageSize ≤ icmpHdr.length ∧ ∃ packet',
        (platform.ownIdent? packet icmpHdr).bind reseal = some packet' ∧
          packet'.length = packet.length) ∨ (icmpHdr.length < platform.messageSize ∧
        (platform.ownIdent? packet icmpHdr).bind reseal = none) := by
  unfold Platform.ownIdent? Platform.messageSize
  cases platform.linuxUnprivileged with
  | true =>
    obtain ⟨src, dst, same⟩ := reseals packet rfl
    simp only [if_true, bind_some, same]
    rcases Nat.lt_or_ge icmpHdr.length 4 with less | long
    · refine .inr ⟨less, ?_⟩
      cases family <;> exact bind_eq_none_iff.mpr fun _ _ =>
          Slice.writeU16?_eq_none _ (by omega)
    · obtain ⟨sealed, seals, change, -⟩ := sealEcho?_spec family src dst long small inside
      exact .inl ⟨long, sealed, seals, change.length⟩
  | false =>
    rw [if_neg Bool.false_ne_true, if_neg Bool.false_ne_true]
    rcases Nat.lt_or_ge icmpHdr.length 6 with less | long
    · refine .inr ⟨less, ?_⟩
      unfold complementIdent? ICMP.ident?
      rw [Slice.readU16?_eq_none (by omega)]
      rfl
    · obtain ⟨middle, -, complements, middleChange, -⟩ :=
        complementIdent_seal family [] [] long small inside
      obtain ⟨src, dst, same⟩ := reseals middle middleChange.length
      obtain ⟨sealed, seals, change, -⟩ := sealEcho?_spec family src dst
        (show 4 ≤ icmpHdr.length by omega) small (le_of_le_of_eq inside middleChange.length.symm)
      refine .inl ⟨long, sealed, ?_, change.length.trans middleChange.length⟩
      rw [complements, bind_some, same, seals]

theorem restore?_isSome (octets : Bytes) :
    (platform.restore? family octets).isSome ↔
      (platform.darwin ∧ family = .v4 → 8 ≤ octets.length) := by
  unfold Platform.restore?
  split
  · rename_i raw
    rw [restoreHeader?_isSome]
    exact (imp_iff_right raw).symm
  · rename_i other
    exact iff_of_true rfl fun raw => absurd raw other

theorem forClient?_isSome (valid : isValid family packet packet.length = true)
    (found : payload? family packet = some icmpHdr) (source : Option (Addr family)) :
    (platform.forClient? source packet).isSome ↔ platform.messageSize ≤ icmpHdr.length := by
  obtain ⟨size, -, inside⟩ := payload?_bounds valid found
  obtain ⟨copied, sealed, copies, seals, change, located, -⟩ :=
    @readdress_spec family packet icmpHdr _ (.inr rfl) valid found (source.map (Sigma.mk family))
  have computed : platform.forClient? source packet =
      (platform.ownIdent? sealed icmpHdr).bind fun packet =>
        sealOwn? family packet icmpHdr := by
    simp only [Platform.forClient?, copies, seals, located, bind_eq_bind, bind_some]
  rw [computed]
  rcases @identSeal_cases platform family sealed icmpHdr _
      (length_lt_of_payload? found) (le_of_le_of_eq inside change.length.symm)
      fun packet' same => by
        have long := le_of_le_of_eq size (same.trans change.length).symm
        obtain ⟨src, from'⟩ := exists_sourceAddr? long
        obtain ⟨dst, to'⟩ := exists_destinationAddr? long
        exact ⟨_, _, sealOwn?_eq from' to'⟩ with
    ⟨long, packet', makes, -⟩ | ⟨short, fails⟩
  · rw [makes]
    exact iff_of_true rfl long
  · rw [fails]
    exact iff_of_false nofun (Nat.not_le_of_lt short)

/-- A message that is read with `readMsg`, without its header. -/
theorem readMessage?_cases {message : Bytes} (small : message.length < 65536)
    (source : Option (Addr family)) (addr : Addr family) :
    ((family = .v4 ∧ platform.linuxUnprivileged = true) ∨ platform.messageSize ≤ message.length) ∧
      (∃ body, platform.readMessage? source addr message = some body ∧
        body.length = message.length) ∨ ¬((family = .v4 ∧ platform.linuxUnprivileged = true) ∨
        platform.messageSize ≤ message.length) ∧
      platform.readMessage? source addr message = none := by
  by_cases plain : family = .v4 ∧ platform.linuxUnprivileged = true
  · obtain ⟨rfl, unprivileged⟩ := plain
    refine .inl ⟨.inl ⟨rfl, unprivileged⟩, message, if_pos unprivileged, rfl⟩
  · have computed : platform.readMessage? source addr message =
        (platform.ownIdent? message ⟨0, message.length⟩).bind fun message' =>
          sealEcho? family addr.octets (source.elim [] Addr.octets) message'
            ⟨0, message.length⟩ := by
      cases family with
      | v4 =>
        have filtered : platform.linuxUnprivileged = false :=
          Bool.eq_false_iff.mpr fun on => plain ⟨rfl, on⟩
        simp [Platform.readMessage?, Platform.ownIdent?, filtered]
        rfl
      | v6 => rfl
    rw [computed, or_iff_right plain]
    rcases @identSeal_cases platform family message ⟨0, message.length⟩ _ small
        (Nat.le_of_eq (Nat.zero_add _)) fun packet' _ => ⟨_, _, rfl⟩ with
      ⟨long, makes⟩ | ⟨short, fails⟩
    · exact .inl ⟨long, makes⟩
    · exact .inr ⟨Nat.not_le_of_lt short, fails⟩

/--
`ReadIP` panics exactly if the identifier or the checksum of the message, or on
Darwin a field of the header, is outside of what was received.
-/
theorem readIP?_isSome_iff (source source' : Option (Addr family)) {message : Message family}
    (inBuffer : message.InBuffer) :
    (platform.readIP? source source' message).isSome ↔ message.Readable platform := by
  cases message with
  | datagram received =>
    have bound : received.octets.length ≤ 2048 := inBuffer.trans (Nat.sub_le _ _)
    unfold Platform.readIP? Message.Readable
    dsimp only
    rcases @readMessage?_cases platform family received.octets (by omega)
        source received.addr with ⟨long, body, reads, length⟩ | ⟨short, fails⟩
    · have encoded := encode_spec received source'
        (show body.length ≤ maxICMPPacketSize from length ▸ bound)
      obtain ⟨-, behind, inside⟩ := payload?_bounds encoded.valid encoded.payload
      obtain ⟨packet, seals, -⟩ := sealHeader?_spec encoded.payload behind inside
      have header : received.readHeader? source' body = some packet := seals
      simp only [reads, header, bind_eq_bind, bind_some]
      exact iff_of_true rfl long
    · rw [fails]
      exact iff_of_false nofun short
  | packet octets =>
    unfold Platform.readIP? Platform.readPacket? Message.Readable
    dsimp only
    rw [← @restore?_isSome platform family octets]
    cases restores : platform.restore? family octets with
    | none => exact iff_of_false nofun fun both => nomatch both.1
    | some packet =>
      simp only [bind_eq_bind, bind_some]
      split
      · rename_i invalid
        refine iff_of_true rfl ⟨rfl, ?_⟩
        rintro _ icmpHdr ⟨⟩ valid -
        exact absurd valid invalid
      · rename_i valid
        have valid := not_not.mp valid
        obtain ⟨-, icmpHdr, found, -⟩ := payload?_of_isValid valid
        have client := @forClient?_isSome platform family packet icmpHdr valid found source
        have same : ∀ made : Option Bytes, (made.bind fun packet =>
            some (Except.ok packet : Except ReadError Bytes)).isSome = made.isSome := by
          intro made
          cases made <;> rfl
        rw [same, client]
        constructor
        · intro long
          refine ⟨rfl, ?_⟩
          rintro _ other ⟨⟩ - found'
          cases found.symm.trans found'
          exact long
        · rintro ⟨-, all⟩
          exact all packet icmpHdr rfl valid found

/-- A privileged socket, on a system that is not Darwin. -/
def privileged : Platform where
  linuxUnprivileged := false
  darwin := false
  cutsOff := false

/-- An IPv4 packet with a message of eight octets or of none. -/
def icmpPacket (message : Bytes) : Bytes :=
  writeU16 (headerWith 0 ++ message) 2 (UInt16.ofNat (20 + message.length))

theorem reads_whole_message :
    (privileged.readIP? none none
      (.packet (icmpPacket [0, 0, 0, 0, 0, 1, 0, 1]) : Message .v4)).isSome := by
  rw [readIP?_isSome_iff none none (show _ ≤ 2048 by decide)]
  refine ⟨nofun, ?_⟩
  rintro _ icmpHdr ⟨⟩ - found
  cases found
  decide

/-- A packet without a message stops the program. -/
theorem empty_message_panics :
    Message.InBuffer (.packet (icmpPacket []) : Message .v4) ∧
      privileged.readIP? none none (.packet (icmpPacket []) : Message .v4) =
        none := by
  refine ⟨show _ ≤ 2048 by decide, ?_⟩
  decide

end Short

end SingTun.Ping
