import SingTun.Foundation.Exactly
import SingTun.Offload.Split

/-!
# Segments of any input

The options may be those of any header, and the output buffers of any length.
Each segment is written exactly if all of its octets and fields have room in
its buffer.
-/

namespace SingTun.Offload

open Foundation Header

/-- A buffer has room for a segment of `totalLen` octets and for all fields that
are written to it.  The positions are sums of 16 bits. -/
structure SegmentContext.Room
    (ctx : SegmentContext) (totalLen length : Nat) : Prop where
  total : totalLen ≤ length
  ipv4 : ctx.ipVersion = 4 → 12 ≤ length
  ipv6 : ctx.ipVersion ≠ 4 → 6 ≤ length
  tcp : ctx.protocol = ipProtoTCP → (ctx.options.csumStart + 4).toNat + 4 ≤ length ∧
      (ctx.options.csumStart + UInt16.ofNat tcpFlagsOffset).toNat < length
  udp : ctx.protocol ≠ ipProtoTCP → (ctx.options.csumStart + 4).toNat + 2 ≤ length
  field : (ctx.options.csumStart + ctx.options.csumOffset).toNat + 2 ≤ length

section Segment

variable {ctx : SegmentContext} {out : Bytes} {length : Nat}

theorem exactly_segmentID (i : Nat) (known : out.length = length) :
    Exactly (0 < i → 6 ≤ length) (fun after => after.length = length) (segmentID i out) := by
  unfold segmentID
  split
  · rename_i later
    refine ((exactly_readU16? known).bind fun id _ =>
      exactly_writeU16? (id + .ofNat i) known).congr ?_
    simp [later]
  · rename_i first
    have kept : Exactly True (fun after => after.length = length) (some out) := .pure known
    refine kept.congr ?_
    simp [first]

theorem exactly_segmentIPHeader (i totalLen : Nat) (known : out.length = length) :
    Exactly ((ctx.ipVersion = 4 → 12 ≤ length ∧ ctx.options.csumStart.toNat ≤ length) ∧
        (ctx.ipVersion ≠ 4 → 6 ≤ length)) (fun after => after.length = length)
      (segmentIPHeader ctx i totalLen out) := by
  unfold segmentIPHeader
  by_cases version : ctx.ipVersion = 4
  · simp only [version, if_true]
    refine ((exactly_segmentID i known).bind fun numbered known =>
      (exactly_setByte? 0 known).bind fun _ known =>
        (exactly_setByte? 0 known).bind fun _ known =>
          (exactly_writeU16? _ known).bind fun _ known =>
            (exactly_slice? known).bind fun _ _ =>
              exactly_writeU16? _ known).congr ?_
    simp
    omega
  · simp only [version, if_false]
    refine (exactly_writeU16? _ known).congr ?_
    simp [version]

theorem exactly_segmentTransportHeader
    (i segmentDataLen : Nat) (last : Bool) (known : out.length = length) :
    Exactly ((ctx.protocol = ipProtoTCP → (ctx.options.csumStart + 4).toNat + 4 ≤ length ∧
            (ctx.options.csumStart + .ofNat tcpFlagsOffset).toNat <
              length) ∧ (ctx.protocol ≠ ipProtoTCP →
          (ctx.options.csumStart + 4).toNat + 2 ≤ length)) (fun after => after.length = length)
      (segmentTransportHeader ctx i segmentDataLen last out) := by
  unfold segmentTransportHeader
  by_cases protocol : ctx.protocol = ipProtoTCP
  · simp only [protocol, if_true]
    refine ((exactly_writeU32? _ known).bind fun _ known =>
      exactly_setByte? _ known).congr ?_
    simp
  · simp only [protocol, if_false]
    refine (exactly_writeU16? _ known).congr ?_
    simp [protocol]

theorem exactly_segmentChecksum
    (segmentDataLen totalLen : Nat) (known : out.length = length) :
    Exactly
      ((ctx.options.csumStart + ctx.options.csumOffset).toNat + 2 ≤ length ∧
        ctx.options.csumStart.toNat ≤ totalLen ∧ totalLen ≤ length)
      (fun after => after.length = length) (segmentChecksum ctx segmentDataLen totalLen out) := by
  refine ((exactly_setByte? 0 known).bind fun _ known =>
    (exactly_setByte? 0 known).bind fun _ known =>
      (exactly_slice? known).bind fun _ _ =>
        exactly_writeU16? _ known).congr ?_
  omega

/-- The body of the loop succeeds exactly if there is room. -/
theorem exactly_writeSegment {input : Bytes} (header : ctx.options.hdrLen.toNat ≤ input.length)
    (ordered : ctx.options.csumStart.toNat ≤ ctx.options.hdrLen.toNat)
    (i : Nat) {start stop : Nat} (data : start ≤ stop)
    (inside : stop ≤ input.length)
    (known : out.length = length) :
    Exactly (ctx.Room (ctx.options.hdrLen.toNat + (stop - start)) length)
      (fun after => after.length = length) (writeSegment ctx input i start stop out) := by
  unfold writeSegment
  dsimp only
  by_cases short : ctx.options.hdrLen.toNat ≤ length
  · have copied : ∀ {block : Bytes}, (overwrite out 0 block).length = length :=
      fun {block} => (length_overwrite_of_le out block (Nat.zero_le _)).trans known
    refine ((exactly_slice? known).bind fun _ _ =>
      (exactly_slice? rfl).bind fun _ _ =>
        (exactly_segmentIPHeader i _ copied).bind fun _ known =>
          (exactly_segmentTransportHeader i _ _ known).bind fun before known =>
            (exactly_slice? rfl).bind fun _ _ =>
              exactly_segmentChecksum _ _ ((length_overwrite_of_le before _
                  (known.symm ▸ short)).trans known)).congr ?_
    constructor
    · rintro ⟨-, -, ip, transport, -, field, -, total⟩
      exact ⟨total, fun v => (ip.1 v).1, ip.2, transport.1, transport.2, field⟩
    · intro room
      exact ⟨⟨Nat.zero_le _, short⟩, ⟨Nat.zero_le _, header⟩,
        ⟨fun v => ⟨room.ipv4 v, by omega⟩, room.ipv6⟩,
        ⟨room.tcp, room.udp⟩, ⟨data, inside⟩, room.field, by omega, room.total⟩
  · have outside : slice? out 0 ctx.options.hdrLen.toNat = Option.none :=
      if_neg fun both => short (known ▸ both.2)
    constructor
    · rw [outside]
      refine iff_of_false (by simp) fun room => ?_
      have total := room.total
      omega
    · rw [outside]
      exact nofun

end Segment

end SingTun.Offload
