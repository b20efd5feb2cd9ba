import SingTun.Offload.Gso
import Mathlib.Algebra.Order.Floor.Div

/-!
# What one segment is

The loop body of `gsoSplit` writes a header and a payload to the front of
its buffer.  This module names the octets it writes, shows that the checked
body succeeds with exactly those, and reads the header fields of a segment
off them.
-/

namespace SingTun.Offload

open Foundation Header UInt16

/-! ## The octets of a segment -/

section

variable (ctx : SegmentContext)

/-- The IP header of segment `i`. -/
def ipHeaderOf (i totalLen : Nat) (header : Bytes) : Bytes :=
  if ctx.ipVersion = 4 then
    let numbered :=
      if 0 < i then
        writeU16 header 4 (readU16 header 4 + UInt16.ofNat i)
      else header
    let cleared := writeU16 (writeU16 numbered 10 0) 2 (UInt16.ofNat totalLen)
    writeU16 cleared 10 (~~~(checksum (cleared.take ctx.options.csumStart.toNat) 0))
  else
    writeU16 header 4 (UInt16.ofNat (totalLen - ctx.options.csumStart.toNat))

/-- The flags octet of a segment. -/
def segmentFlags (last : Bool) : UInt8 :=
  if last then ctx.srcTCPFlags
  else ctx.srcTCPFlags &&& ~~~(tcpFlagFIN ||| tcpFlagPSH)

/-- The sequence number of segment `i`. -/
def segmentSeq (i : Nat) : UInt32 :=
  ctx.firstTCPSeqNum + (ctx.options.gsoSize * UInt16.ofNat i).toUInt32

/-- The transport header of segment `i`, its checksum apart. -/
def transportHeaderOf (i segmentDataLen : Nat) (last : Bool) (header : Bytes) : Bytes :=
  let start := ctx.options.csumStart.toNat
  if ctx.protocol = ipProtoTCP then
    (writeU32 header (start + 4) (segmentSeq ctx i)).set (start + 13) (segmentFlags ctx last)
  else
    writeU16 header (start + 4) (UInt16.ofNat segmentDataLen +
        (ctx.options.hdrLen - ctx.options.csumStart))

/-- The transport checksum over a header whose field is cleared. -/
def segmentSum (cleared payload : Bytes) : UInt16 :=
  let start := ctx.options.csumStart.toNat
  let lenForPseudo := UInt16.ofNat
      ((ctx.options.hdrLen - ctx.options.csumStart).toNat + payload.length)
  let sum := ~~~(checksum ((cleared ++ payload).drop start)
    (combine ctx.pseudoSumBase lenForPseudo))
  if ctx.protocol = ipProtoUDP then normalizeUDPChecksum sum else sum

/-- The header with its transport checksum. -/
def checksummed (header payload : Bytes) : Bytes :=
  let field := ctx.options.csumStart.toNat + ctx.options.csumOffset.toNat
  let cleared := writeU16 header field 0
  writeU16 cleared field (segmentSum ctx cleared payload)

/-- Where the data of the segment that starts at `start` ends. -/
def segmentEnd (options : GSOOptions) (input : Bytes) (start : Nat) : Nat :=
  if input.length < start + options.gsoSize.toNat then input.length
  else start + options.gsoSize.toNat

/-- The data of the segment that starts at `start`. -/
def segmentPayload (options : GSOOptions) (input : Bytes) (start : Nat) :
    Bytes :=
  window input start (segmentEnd options input start - start)

/-- The complete header of segment `i`. -/
def segmentHeader (input : Bytes) (i start : Nat) : Bytes :=
  let hdrLen := ctx.options.hdrLen.toNat
  let segmentDataLen := segmentEnd ctx.options input start - start
  checksummed ctx (transportHeaderOf ctx i segmentDataLen
      (segmentEnd ctx.options input start = input.length)
      (ipHeaderOf ctx i (hdrLen + segmentDataLen) (input.take hdrLen)))
    (segmentPayload ctx.options input start)

/-- Segment `i`. -/
def segmentBytes (input : Bytes) (i start : Nat) : Bytes :=
  segmentHeader ctx input i start ++ segmentPayload ctx.options input start

/-! ## Lengths -/

@[simp]
theorem length_ipHeaderOf (i totalLen : Nat) (header : Bytes) :
    (ipHeaderOf ctx i totalLen header).length = header.length := by
  unfold ipHeaderOf
  split_ifs <;> simp

@[simp]
theorem length_transportHeaderOf (i segmentDataLen : Nat) (last : Bool) (header : Bytes) :
    (transportHeaderOf ctx i segmentDataLen last header).length = header.length := by
  unfold transportHeaderOf
  split_ifs <;> simp

@[simp]
theorem length_checksummed (header payload : Bytes) :
    (checksummed ctx header payload).length = header.length := by
  simp [checksummed]

end

section

variable (options : GSOOptions) (input : Bytes) (start : Nat)

theorem segmentEnd_le : segmentEnd options input start ≤ input.length := by
  unfold segmentEnd
  split <;> omega

theorem le_segmentEnd (options : GSOOptions) {input : Bytes} {start : Nat}
    (data : start ≤ input.length) :
    start ≤ segmentEnd options input start := by
  unfold segmentEnd
  split <;> omega

theorem length_segmentPayload :
    (segmentPayload options input start).length = segmentEnd options input start - start := by
  have bound := segmentEnd_le options input start
  simp only [segmentPayload, window, List.length_take, List.length_drop]
  omega

/-- The data of a segment is the next piece of the input. -/
theorem segmentPayload_eq_take :
    segmentPayload options input start = (input.drop start).take options.gsoSize.toNat := by
  unfold segmentPayload segmentEnd window
  split
  · rw [List.take_of_length_le (by rw [List.length_drop]),
      List.take_of_length_le (by rw [List.length_drop]; omega)]
  · rw [Nat.add_sub_cancel_left]

end

/-- The data of a segment is followed by that of the next ones. -/
theorem segmentPayload_append (options : GSOOptions) {input : Bytes} {start : Nat}
    (data : start ≤ input.length) :
    segmentPayload options input start ++
      input.drop (segmentEnd options input start) = input.drop start := by
  have cut := List.take_append_drop (segmentEnd options input start - start) (input.drop start)
  rwa [List.drop_drop, Nat.add_sub_cancel' (le_segmentEnd options data)] at cut

/-- One turn of the loop, and the others. -/
theorem splitLoop_cons {ctx : SegmentContext} {input : Bytes} {start : Nat}
    (data : ¬input.length ≤ start) (outOffset i : Nat) (outBuf : Bytes)
    (rest : List Bytes) (sizes : List Nat) :
    splitLoop ctx input outOffset i start (outBuf :: rest) sizes =
      (setSize? sizes i (ctx.options.hdrLen.toNat +
        (segmentEnd ctx.options input start - start))).bind fun sizes =>
      (sliceFrom? outBuf outOffset).bind fun out =>
      (writeSegment ctx input i start (segmentEnd ctx.options input start) out).bind fun out =>
      (splitLoop ctx input outOffset (i + 1)
        (start + ctx.options.gsoSize.toNat) rest sizes).map fun loop =>
          (loop.1, loop.2.1, (outBuf.take outOffset ++ out) :: loop.2.2.1, loop.2.2.2) := by
  rw [splitLoop, if_neg data]
  simp only [Option.map_eq_bind]
  rfl

/-! ## The body succeeds -/

/--
The lengths that the checks before the loop establish, together with the
positions of the checksum field of the two protocols.
-/
structure SegmentContext.Fits (ctx : SegmentContext) (input : Bytes) :
    Prop where
  ipv4 : ctx.ipVersion = 4 → 20 ≤ ctx.options.csumStart.toNat
  ipv6 : ctx.ipVersion ≠ 4 → 40 ≤ ctx.options.csumStart.toNat
  tcp : ctx.protocol = ipProtoTCP → ctx.options.csumOffset = 16 ∧
      ctx.options.csumStart.toNat + 20 ≤ ctx.options.hdrLen.toNat
  udp : ctx.protocol ≠ ipProtoTCP → ctx.protocol = ipProtoUDP ∧ ctx.options.csumOffset = 6 ∧
      ctx.options.csumStart.toNat + 8 ≤ ctx.options.hdrLen.toNat
  header : ctx.options.hdrLen.toNat ≤ input.length
  length : input.length ≤ 65535

namespace SegmentContext.Fits

variable {ctx : SegmentContext} {input : Bytes}

theorem csumStart_lt (fits : ctx.Fits input) :
    20 ≤ ctx.options.csumStart.toNat ∧
      ctx.options.csumStart.toNat + 8 ≤ ctx.options.hdrLen.toNat := by
  constructor
  · by_cases version : ctx.ipVersion = 4
    · exact fits.ipv4 version
    · have := fits.ipv6 version
      omega
  · by_cases protocol : ctx.protocol = ipProtoTCP
    · have := (fits.tcp protocol).2
      omega
    · exact (fits.udp protocol).2.2

theorem tcpField (fits : ctx.Fits input)
    (protocol : ctx.protocol = ipProtoTCP) :
    ctx.options.csumOffset.toNat = 16 ∧
      ctx.options.csumStart.toNat + 20 ≤ ctx.options.hdrLen.toNat :=
  (fits.tcp protocol).imp_left (congrArg UInt16.toNat)

theorem udpField (fits : ctx.Fits input)
    (protocol : ctx.protocol ≠ ipProtoTCP) :
    ctx.options.csumOffset.toNat = 6 ∧ ctx.options.csumStart.toNat + 8 ≤ ctx.options.hdrLen.toNat :=
  (fits.udp protocol).2.imp_left (congrArg UInt16.toNat)

/-- The checksum field is an even distance into the transport header. -/
theorem field (fits : ctx.Fits input) :
    ctx.options.csumOffset.toNat % 2 = 0 ∧ ctx.options.csumOffset.toNat ≤ 16 ∧
      ctx.options.csumStart.toNat + ctx.options.csumOffset.toNat + 2 ≤
        ctx.options.hdrLen.toNat := by
  by_cases protocol : ctx.protocol = ipProtoTCP
  · have := fits.tcpField protocol
    omega
  · have := fits.udpField protocol
    omega

end SegmentContext.Fits

/-- All fields of a segment lie in its header. -/
structure SegmentContext.Inside (ctx : SegmentContext) (input : Bytes) :
    Prop where
  start : 20 ≤ ctx.options.csumStart.toNat
  tcp : ctx.protocol = ipProtoTCP → ctx.options.csumStart.toNat + 20 ≤ ctx.options.hdrLen.toNat
  transport : ctx.options.csumStart.toNat + 8 ≤ ctx.options.hdrLen.toNat
  field : ctx.options.csumStart.toNat + ctx.options.csumOffset.toNat + 2 ≤ ctx.options.hdrLen.toNat
  header : ctx.options.hdrLen.toNat ≤ input.length

theorem SegmentContext.Fits.inside {ctx : SegmentContext} {input : Bytes} (fits : ctx.Fits input) :
    ctx.Inside input where
  start := fits.csumStart_lt.1
  tcp protocol := (fits.tcp protocol).2
  transport := fits.csumStart_lt.2
  field := fits.field.2.2
  header := fits.header

section Body

variable {ctx : SegmentContext} {input : Bytes}

theorem segmentID_eq (i : Nat) (header rest : Bytes) (room : 6 ≤ header.length) :
    segmentID i (header ++ rest) = some ((if 0 < i then
          writeU16 header 4 (readU16 header 4 + .ofNat i)
        else header) ++ rest) := by
  unfold segmentID
  split
  · rw [bind_of_eq_some (readU16?_eq_some (by simp; omega))]
    rw [writeU16?_eq_some _ (by simp; omega), readU16_append_left (by omega),
      writeU16_append_left (by omega)]
  · rfl

variable (within : ctx.Inside input)
include within

theorem segmentIPHeader_eq (i totalLen : Nat) (header rest : Bytes)
    (headerLength : header.length = ctx.options.hdrLen.toNat) :
    segmentIPHeader ctx i totalLen (header ++ rest) =
      some (ipHeaderOf ctx i totalLen header ++ rest) := by
  have start := within.start
  have transport := within.transport
  unfold segmentIPHeader ipHeaderOf
  by_cases version : ctx.ipVersion = 4
  · simp only [version, if_true]
    rw [bind_of_eq_some (segmentID_eq i header rest (by omega))]
    generalize numberedHeader : (if 0 < i then
          writeU16 header 4 (readU16 header 4 + .ofNat i)
        else header) = named
    have namedLength : named.length = ctx.options.hdrLen.toNat := by
      rw [← numberedHeader, ← headerLength]
      split <;> simp
    rw [bind_of_eq_some (setByte?_eq_some _ (by simp; omega))]
    rw [bind_of_eq_some (setByte?_eq_some _ (by simp; omega))]
    rw [set_zero_set_zero, writeU16_append_left (by omega),
      bind_of_eq_some (writeU16?_eq_some _ (by simp; omega))]
    rw [writeU16_append_left (by simp; omega),
      bind_of_eq_some (slice?_eq_some (by omega) (by simp; omega))]
    have cut : ∀ bytes : Bytes, bytes.length = ctx.options.hdrLen.toNat →
        window (bytes ++ rest) 0 (ctx.options.csumStart.toNat - 0) =
          bytes.take ctx.options.csumStart.toNat := by
      intro bytes bytesLength
      rw [window, List.drop_zero, Nat.sub_zero, List.take_append_of_le_length (by omega)]
    rw [cut _ (by simp; omega), writeU16?_eq_some _ (by simp; omega),
      writeU16_append_left (by simp; omega)]
  · simp only [version, if_false]
    rw [writeU16?_eq_some _ (by simp; omega), writeU16_append_left (by omega)]

theorem segmentTransportHeader_eq (i segmentDataLen : Nat) (last : Bool) (header rest : Bytes)
    (headerLength : header.length = ctx.options.hdrLen.toNat) :
    segmentTransportHeader ctx i segmentDataLen last (header ++ rest) =
      some (transportHeaderOf ctx i segmentDataLen last header ++ rest) := by
  have hdrLenBound := ctx.options.hdrLen.toNat_lt
  have transport := within.transport
  have seqAt : (ctx.options.csumStart + 4).toNat = ctx.options.csumStart.toNat + 4 :=
    toNat_add_of_lt (show _ + 4 < 65536 by omega)
  unfold segmentTransportHeader transportHeaderOf
  by_cases protocol : ctx.protocol = ipProtoTCP
  · have room := within.tcp protocol
    have flagsAt : (ctx.options.csumStart + .ofNat tcpFlagsOffset).toNat =
          ctx.options.csumStart.toNat + 13 :=
      toNat_add_of_lt (show _ + 13 < 65536 by omega)
    simp only [protocol, if_true]
    rw [seqAt, flagsAt, bind_of_eq_some (writeU32?_eq_some _ (by simp; omega))]
    rw [writeU32_append_left (by omega), setByte?_eq_some _ (by simp; omega),
      set_append_left (by simp; omega)]
    rfl
  · simp only [protocol, if_false]
    rw [seqAt, writeU16?_eq_some _ (by simp; omega), writeU16_append_left (by omega)]

theorem segmentChecksum_eq (header payload rest : Bytes)
    (headerLength : header.length = ctx.options.hdrLen.toNat) :
    segmentChecksum ctx payload.length
        (ctx.options.hdrLen.toNat + payload.length) (header ++ payload ++ rest) =
      some (checksummed ctx header payload ++ payload ++ rest) := by
  have hdrLenBound := ctx.options.hdrLen.toNat_lt
  have room := within.field
  have fieldAt : (ctx.options.csumStart + ctx.options.csumOffset).toNat =
        ctx.options.csumStart.toNat + ctx.options.csumOffset.toNat :=
    toNat_add_of_lt (by omega)
  unfold segmentChecksum checksummed segmentSum
  simp only [fieldAt]
  rw [bind_of_eq_some (setByte?_eq_some _ (by simp; omega))]
  rw [bind_of_eq_some (setByte?_eq_some _ (by simp; omega))]
  rw [set_zero_set_zero, List.append_assoc, writeU16_append_left (by omega)]
  generalize cleared : writeU16 header
      (ctx.options.csumStart.toNat + ctx.options.csumOffset.toNat) 0 = named
  have namedLength : named.length = ctx.options.hdrLen.toNat := by
    rw [← cleared, length_writeU16, headerLength]
  have covered : window (named ++ (payload ++ rest)) ctx.options.csumStart.toNat
          (ctx.options.hdrLen.toNat + payload.length - ctx.options.csumStart.toNat) =
        (named ++ payload).drop ctx.options.csumStart.toNat := by
    rw [window, ← List.append_assoc, List.drop_append_of_le_length (by simp; omega),
      List.take_append_of_le_length (by simp; omega), List.take_of_length_le (by simp; omega)]
  rw [bind_of_eq_some (slice?_eq_some (by omega) (by simp; omega))]
  rw [covered, writeU16?_eq_some _ (by simp; omega),
    writeU16_append_left (by omega), List.append_assoc]

theorem length_take_header :
    (input.take ctx.options.hdrLen.toNat).length = ctx.options.hdrLen.toNat := by
  rw [List.length_take, Nat.min_eq_left within.header]

theorem slice?_header :
    slice? input 0 ctx.options.hdrLen.toNat = some (input.take ctx.options.hdrLen.toNat) :=
  slice?_eq_some (Nat.zero_le _) within.header

theorem overwrite_header {out : Bytes} (room : ctx.options.hdrLen.toNat ≤ out.length) :
    overwrite out 0 (input.take ctx.options.hdrLen.toNat) = input.take ctx.options.hdrLen.toNat ++
        out.drop ctx.options.hdrLen.toNat := by
  have length := length_take_header within
  rw [overwrite_zero (by omega), length]

/-- The checked body writes the segment to the front of its buffer. -/
theorem writeSegment_eq (i start : Nat) (out : Bytes)
    (inside : ctx.options.hdrLen.toNat ≤ start)
    (data : start ≤ input.length)
    (room : input.length ≤ out.length) :
    writeSegment ctx input i start (segmentEnd ctx.options input start) out =
      some (overwrite out 0 (segmentBytes ctx input i start)) := by
  have ended := segmentEnd_le ctx.options input start
  have started := le_segmentEnd ctx.options data
  have payloadLength := length_segmentPayload ctx.options input start
  have takeLength := length_take_header within
  unfold writeSegment
  simp only
  rw [bind_of_eq_some (slice?_eq_some (by omega) (by omega)),
    bind_of_eq_some (slice?_header within), overwrite_header within (by omega),
    bind_of_eq_some (segmentIPHeader_eq within _ _ _ _ takeLength),
    bind_of_eq_some (segmentTransportHeader_eq within _ _ _ _ _ (by simpa using takeLength)),
    bind_of_eq_some (slice?_eq_some started ended)]
  generalize written : transportHeaderOf ctx i _ _ _ = header
  have headerLength : header.length = ctx.options.hdrLen.toNat := by
    rw [← written, length_transportHeaderOf, length_ipHeaderOf, takeLength]
  have segment : segmentBytes ctx input i start =
        checksummed ctx header (segmentPayload ctx.options input start) ++
          segmentPayload ctx.options input start := by
    rw [segmentBytes, segmentHeader, ← written]
  rw [segment]
  change segmentChecksum ctx _ _ (overwrite _ _ (segmentPayload ctx.options input start)) = _
  generalize segmentPayload ctx.options input start = payload at payloadLength
  have payloadCopied : overwrite (header ++ out.drop ctx.options.hdrLen.toNat)
          ctx.options.hdrLen.toNat payload =
        header ++ payload ++ out.drop (ctx.options.hdrLen.toNat + payload.length) := by
    rw [overwrite_eq (by simp; omega), List.take_left' headerLength,
      ← headerLength, List.drop_length_add_append, List.drop_drop]
  rw [payloadCopied, ← payloadLength, segmentChecksum_eq within header payload _ headerLength,
    overwrite_zero (by simp; omega), List.length_append, length_checksummed, headerLength]

end Body

/-! ## Layers of the header -/

section Layers

variable (ctx : SegmentContext) (header payload : Bytes)

theorem byteAt_checksummed (position : Nat)
    (outside : position ≠
        ctx.options.csumStart.toNat + ctx.options.csumOffset.toNat ∧ position ≠
        ctx.options.csumStart.toNat + ctx.options.csumOffset.toNat + 1) :
    byteAt (checksummed ctx header payload) position = byteAt header position := by
  rw [checksummed, byteAt_writeU16_of_ne outside, byteAt_writeU16_of_ne outside]

theorem take_checksummed :
    (checksummed ctx header payload).take ctx.options.csumStart.toNat =
      header.take ctx.options.csumStart.toNat := by
  rw [checksummed, take_writeU16_of_le (by omega), take_writeU16_of_le (by omega)]

/-- The octets of the transport header that differ between segments. -/
def TransportRewritten (ctx : SegmentContext) (position : Nat) : Prop :=
  let start := ctx.options.csumStart.toNat
  if ctx.protocol = ipProtoTCP then
    (start + 4 ≤ position ∧ position ≤ start + 7) ∨ position = start + 13
  else
    position = start + 4 ∨ position = start + 5

theorem byteAt_transportHeaderOf (i segmentDataLen : Nat) (last : Bool) (position : Nat)
    (outside : ¬TransportRewritten ctx position) :
    byteAt (transportHeaderOf ctx i segmentDataLen last header) position =
      byteAt header position := by
  unfold TransportRewritten at outside
  unfold transportHeaderOf
  by_cases protocol : ctx.protocol = ipProtoTCP
  · simp only [protocol, if_true] at outside ⊢
    rw [byteAt_set_ne (by omega), byteAt_writeU32_of_ne (by omega)]
  · simp only [protocol, if_false] at outside ⊢
    rw [byteAt_writeU16_of_ne (by omega)]

theorem take_transportHeaderOf (i segmentDataLen : Nat) (last : Bool) :
    (transportHeaderOf ctx i segmentDataLen last header).take ctx.options.csumStart.toNat =
      header.take ctx.options.csumStart.toNat := by
  unfold transportHeaderOf
  by_cases protocol : ctx.protocol = ipProtoTCP
  · simp only [protocol, if_true]
    rw [take_set_of_le (by omega), take_writeU32_of_le (by omega)]
  · simp only [protocol, if_false]
    rw [take_writeU16_of_le (by omega)]

/-- The octets of the IP header that differ between segments. -/
def IPRewritten (ctx : SegmentContext) (position : Nat) : Prop :=
  if ctx.ipVersion = 4 then
    (2 ≤ position ∧ position ≤ 5) ∨ position = 10 ∨ position = 11
  else
    position = 4 ∨ position = 5

theorem byteAt_ipHeaderOf (i totalLen position : Nat) (outside : ¬IPRewritten ctx position) :
    byteAt (ipHeaderOf ctx i totalLen header) position = byteAt header position := by
  unfold IPRewritten at outside
  unfold ipHeaderOf
  by_cases version : ctx.ipVersion = 4
  · simp only [version, if_true] at outside ⊢
    rw [byteAt_writeU16_of_ne (by omega), byteAt_writeU16_of_ne (by omega),
      byteAt_writeU16_of_ne (by omega)]
    split
    · rw [byteAt_writeU16_of_ne (by omega)]
    · rfl
  · simp only [version, if_false] at outside ⊢
    rw [byteAt_writeU16_of_ne (by omega)]

end Layers

/-! ## The fields of a segment -/

/-- Every octet of the header that a segmentation may change. -/
def Rewritten (ctx : SegmentContext) (position : Nat) : Prop :=
  IPRewritten ctx position ∨ TransportRewritten ctx position ∨
    position = ctx.options.csumStart.toNat + ctx.options.csumOffset.toNat ∨
    position = ctx.options.csumStart.toNat + ctx.options.csumOffset.toNat + 1

section Fields

variable {ctx : SegmentContext} {input : Bytes}

theorem length_segmentHeader (inside : ctx.options.hdrLen.toNat ≤ input.length) (i start : Nat) :
    (segmentHeader ctx input i start).length = ctx.options.hdrLen.toNat := by
  simp only [segmentHeader, length_checksummed, length_transportHeaderOf,
    length_ipHeaderOf, List.length_take]
  omega

theorem length_segmentBytes (inside : ctx.options.hdrLen.toNat ≤ input.length) (i start : Nat) :
    (segmentBytes ctx input i start).length = ctx.options.hdrLen.toNat +
        (segmentEnd ctx.options input start - start) := by
  rw [segmentBytes, List.length_append, length_segmentHeader inside, length_segmentPayload]

variable (fits : ctx.Fits input)
include fits

theorem segmentBytes_drop (i start : Nat) :
    (segmentBytes ctx input i start).drop ctx.options.hdrLen.toNat =
      segmentPayload ctx.options input start := by
  rw [segmentBytes, ← length_segmentHeader fits.header i start, List.drop_left]

/-- All other octets of the header are those of the input. -/
theorem byteAt_segmentBytes (i start position : Nat)
    (inside : position < ctx.options.hdrLen.toNat)
    (outside : ¬Rewritten ctx position) :
    byteAt (segmentBytes ctx input i start) position = byteAt input position := by
  have headerLength := length_segmentHeader fits.header i start
  unfold Rewritten at outside
  push Not at outside
  obtain ⟨notIP, notTransport, notField⟩ := outside
  rw [segmentBytes, byteAt_append_left (by omega), segmentHeader,
    byteAt_checksummed _ _ _ _ notField, byteAt_transportHeaderOf _ _ _ _ _ _ notTransport,
    byteAt_ipHeaderOf _ _ _ _ _ notIP, byteAt_take inside]

/-- The IP header of a segment is untouched by its transport layer. -/
theorem segmentBytes_take (i start : Nat) :
    (segmentBytes ctx input i start).take ctx.options.csumStart.toNat =
      (ipHeaderOf ctx i (ctx.options.hdrLen.toNat + (segmentEnd ctx.options input start - start))
        (input.take ctx.options.hdrLen.toNat)).take ctx.options.csumStart.toNat := by
  have cut := fits.csumStart_lt
  have headerLength := length_segmentHeader fits.header i start
  rw [segmentBytes, List.take_append_of_le_length (by omega), segmentHeader,
    take_checksummed, take_transportHeaderOf]

/-- A field of the IP header, read from the segment. -/
theorem readU16_segmentBytes (i start position : Nat)
    (inside : position + 1 < ctx.options.csumStart.toNat) :
    readU16 (segmentBytes ctx input i start) position = readU16
        (ipHeaderOf ctx i (ctx.options.hdrLen.toNat + (segmentEnd ctx.options input start - start))
          (input.take ctx.options.hdrLen.toNat)) position := by
  have cut := segmentBytes_take fits i start
  have octet : ∀ k, k < ctx.options.csumStart.toNat →
      byteAt (segmentBytes ctx input i start) k = byteAt (ipHeaderOf ctx i
            (ctx.options.hdrLen.toNat + (segmentEnd ctx.options input start - start))
            (input.take ctx.options.hdrLen.toNat)) k := by
    intro k bound
    rw [← byteAt_take bound, cut, byteAt_take bound]
  exact readU16_congr (octet _ (by omega)) (octet _ inside)

theorem ipv4_totalLength (version : ctx.ipVersion = 4) (i start : Nat) :
    readU16 (segmentBytes ctx input i start) 2 =
      .ofNat (segmentBytes ctx input i start).length := by
  have cut := fits.csumStart_lt
  have inside := fits.header
  rw [readU16_segmentBytes fits _ _ _ (by omega), length_segmentBytes fits.header]
  simp only [ipHeaderOf, version, if_true]
  rw [readU16_writeU16_of_disjoint (by omega), readU16_writeU16_self ?_]
  split <;> simp <;> omega

theorem ipv4_id (version : ctx.ipVersion = 4) (i start : Nat) :
    readU16 (segmentBytes ctx input i start) 4 = readU16 input 4 + .ofNat i := by
  have cut := fits.csumStart_lt
  have inside := fits.header
  have original : readU16 (input.take ctx.options.hdrLen.toNat) 4 = readU16 input 4 :=
    readU16_congr (byteAt_take (by omega)) (byteAt_take (by omega))
  rw [readU16_segmentBytes fits _ _ _ (by omega)]
  simp only [ipHeaderOf, version, if_true]
  rw [readU16_writeU16_of_disjoint (by omega), readU16_writeU16_of_disjoint (by omega),
    readU16_writeU16_of_disjoint (by omega)]
  split
  · rw [readU16_writeU16_self (by simp; omega), original]
  · have first : i = 0 := by omega
    subst first
    rw [original]
    simp

theorem ipv4_checksum (version : ctx.ipVersion = 4) (i start : Nat) :
    IPv4ChecksumValid ((segmentBytes ctx input i start).take ctx.options.csumStart.toNat) := by
  have cut := fits.csumStart_lt
  have inside := fits.header
  rw [segmentBytes_take fits]
  simp only [ipHeaderOf, version, if_true]
  generalize numbered : (if 0 < i then
      writeU16 (input.take ctx.options.hdrLen.toNat) 4
        (readU16 (input.take ctx.options.hdrLen.toNat) 4 + .ofNat i)
    else input.take ctx.options.hdrLen.toNat) = named
  have namedLength : named.length = ctx.options.hdrLen.toNat := by
    rw [← numbered]
    split <;> simp <;> omega
  rw [take_writeU16]
  apply balanced_of_complement_checksum 0 0 _ 10 _ rfl
  · simp
    omega
  · rw [take_writeU16, readU16_writeU16_of_disjoint (by omega),
      take_writeU16, readU16_writeU16_self (by simp; omega)]
  · rfl
  · exact .inl rfl

theorem ipv6_payloadLength (version : ctx.ipVersion ≠ 4) (i start : Nat) :
    readU16 (segmentBytes ctx input i start) 4 =
      .ofNat ((segmentBytes ctx input i start).length - ctx.options.csumStart.toNat) := by
  have cut := fits.csumStart_lt
  have inside := fits.header
  rw [readU16_segmentBytes fits _ _ _ (by omega), length_segmentBytes fits.header]
  simp only [ipHeaderOf, version, if_false]
  rw [readU16_writeU16_self (by simp; omega)]

end Fields

/-! ## The transport layer of a segment -/

section Transport

variable {ctx : SegmentContext} {input : Bytes}

/-- The header of segment `i` before its transport checksum is stored. -/
def uncheckedHeader (ctx : SegmentContext) (input : Bytes) (i start : Nat) :
    Bytes :=
  let segmentDataLen := segmentEnd ctx.options input start - start
  transportHeaderOf ctx i segmentDataLen (segmentEnd ctx.options input start = input.length)
    (ipHeaderOf ctx i (ctx.options.hdrLen.toNat + segmentDataLen)
      (input.take ctx.options.hdrLen.toNat))

theorem segmentHeader_eq (i start : Nat) :
    segmentHeader ctx input i start =
      checksummed ctx (uncheckedHeader ctx input i start)
        (segmentPayload ctx.options input start) :=
  rfl

variable (fits : ctx.Fits input)
include fits

theorem length_uncheckedHeader (i start : Nat) :
    (uncheckedHeader ctx input i start).length = ctx.options.hdrLen.toNat := by
  have inside := fits.header
  simp only [uncheckedHeader, length_transportHeaderOf, length_ipHeaderOf, List.length_take]
  omega

theorem byteAt_segmentBytes_unchecked (i start position : Nat)
    (inside : position < ctx.options.hdrLen.toNat)
    (outside : position ≠
        ctx.options.csumStart.toNat + ctx.options.csumOffset.toNat ∧ position ≠
        ctx.options.csumStart.toNat + ctx.options.csumOffset.toNat + 1) :
    byteAt (segmentBytes ctx input i start) position =
      byteAt (uncheckedHeader ctx input i start) position := by
  have headerLength := length_segmentHeader fits.header i start
  rw [segmentBytes, byteAt_append_left (by omega), segmentHeader_eq,
    byteAt_checksummed _ _ _ _ outside]

theorem tcp_seq (protocol : ctx.protocol = ipProtoTCP) (i start : Nat) :
    readU32 (segmentBytes ctx input i start) (ctx.options.csumStart.toNat + 4) =
      segmentSeq ctx i := by
  obtain ⟨value, room⟩ := fits.tcpField protocol
  have inside := fits.header
  have unchecked : readU32 (segmentBytes ctx input i start) (ctx.options.csumStart.toNat + 4) =
        readU32 (uncheckedHeader ctx input i start) (ctx.options.csumStart.toNat + 4) :=
    readU32_congr fun k bound =>
      byteAt_segmentBytes_unchecked fits _ _ _ (by omega) (by omega)
  rw [unchecked]
  simp only [uncheckedHeader, transportHeaderOf, protocol, if_true]
  rw [readU32_congr fun k bound => byteAt_set_ne (by omega), readU32_writeU32_self]
  rw [length_ipHeaderOf, List.length_take]
  omega

theorem tcp_flags (protocol : ctx.protocol = ipProtoTCP) (i start : Nat) :
    byteAt (segmentBytes ctx input i start) (ctx.options.csumStart.toNat + 13) =
      segmentFlags ctx (segmentEnd ctx.options input start = input.length) := by
  obtain ⟨value, room⟩ := fits.tcpField protocol
  have inside := fits.header
  rw [byteAt_segmentBytes_unchecked fits _ _ _ (by omega) (by omega)]
  simp only [uncheckedHeader, transportHeaderOf, protocol, if_true]
  rw [byteAt_set_self ?_]
  rw [length_writeU32, length_ipHeaderOf, List.length_take]
  omega

theorem udp_length (protocol : ctx.protocol ≠ ipProtoTCP) (i start : Nat) :
    readU16 (segmentBytes ctx input i start) (ctx.options.csumStart.toNat + 4) =
      .ofNat ((segmentBytes ctx input i start).length - ctx.options.csumStart.toNat) := by
  obtain ⟨value, room⟩ := fits.udpField protocol
  have inside := fits.header
  have hdrLenBound := ctx.options.hdrLen.toNat_lt
  have unchecked : readU16 (segmentBytes ctx input i start) (ctx.options.csumStart.toNat + 4) =
        readU16 (uncheckedHeader ctx input i start) (ctx.options.csumStart.toNat + 4) :=
    readU16_congr (byteAt_segmentBytes_unchecked fits _ _ _ (by omega) (by omega))
      (byteAt_segmentBytes_unchecked fits _ _ _ (by omega) (by omega))
  rw [unchecked, length_segmentBytes fits.header]
  simp only [uncheckedHeader, transportHeaderOf, protocol, if_false]
  rw [readU16_writeU16_self (by simp; omega)]
  apply UInt16.toNat_inj.mp
  simp only [UInt16.toNat_add, UInt16.toNat_sub, UInt16.toNat_ofNat']
  omega

/-- The segment from its transport header on, with its checksum stored. -/
theorem segmentBytes_drop_csumStart (i start : Nat) :
    let cleared := writeU16 (uncheckedHeader ctx input i start)
      (ctx.options.csumStart.toNat + ctx.options.csumOffset.toNat) 0
    let payload := segmentPayload ctx.options input start
    (segmentBytes ctx input i start).drop ctx.options.csumStart.toNat =
      writeU16 ((cleared ++ payload).drop ctx.options.csumStart.toNat)
        ctx.options.csumOffset.toNat (segmentSum ctx cleared payload) := by
  intro cleared payload
  obtain ⟨_, _, room⟩ := fits.field
  have headerLength := length_uncheckedHeader fits i start
  have stored : segmentBytes ctx input i start = writeU16 (cleared ++ payload)
          (ctx.options.csumStart.toNat + ctx.options.csumOffset.toNat)
          (segmentSum ctx cleared payload) := by
    rw [writeU16_append_left (by simp only [cleared, length_writeU16]; omega)]
    rfl
  rw [stored, drop_writeU16_of_le (by omega), Nat.add_sub_cancel_left]

/--
The transport checksum of a segment is valid for any addresses whose
pseudo-header sum is the base that the loop adds the length to.
-/
theorem transport_checksum (i start : Nat) (srcAddr dstAddr : Bytes)
    (data : ctx.options.hdrLen.toNat ≤ start)
    (base : ctx.pseudoSumBase = pseudoHeaderChecksum ctx.protocol srcAddr dstAddr 0) :
    TransportChecksumValid ctx.protocol srcAddr dstAddr
      ((segmentBytes ctx input i start).drop ctx.options.csumStart.toNat) := by
  obtain ⟨even, _, room⟩ := fits.field
  have inside := fits.header
  have bound := fits.length
  have ended := segmentEnd_le ctx.options input start
  have headerLength := length_uncheckedHeader fits i start
  have payloadLength := length_segmentPayload ctx.options input start
  have whole := segmentBytes_drop_csumStart fits i start
  have headerLengthNat : (ctx.options.hdrLen - ctx.options.csumStart).toNat =
        ctx.options.hdrLen.toNat - ctx.options.csumStart.toNat := by
    rw [UInt16.toNat_sub]
    omega
  rw [whole]
  generalize cleared : writeU16 (uncheckedHeader ctx input i start)
      (ctx.options.csumStart.toNat + ctx.options.csumOffset.toNat) 0 = named
  have namedLength : named.length = ctx.options.hdrLen.toNat := by
    rw [← cleared, length_writeU16, headerLength]
  apply balanced_of_complement_checksum _ (combine ctx.pseudoSumBase
      (.ofNat ((ctx.options.hdrLen - ctx.options.csumStart).toNat +
          (segmentPayload ctx.options input start).length))) _ _ _ even
  · simp only [List.length_drop, List.length_append]
    omega
  · have field : readU16 ((named ++ segmentPayload ctx.options input start).drop
              ctx.options.csumStart.toNat)
            ctx.options.csumOffset.toNat =
          readU16 (named ++ segmentPayload ctx.options input start)
            (ctx.options.csumStart.toNat + ctx.options.csumOffset.toNat) :=
      readU16_congr (byteAt_drop _ _ _) (byteAt_drop _ _ _)
    rw [field, readU16_append_left (by omega), ← cleared, readU16_writeU16_self (by omega)]
  · rw [combine_toNat, base, pseudoHeaderChecksum_toNat, foldCarry_add_foldCarry, headerLengthNat]
    congr 1
    simp only [pseudoHeaderSum, length_writeU16, List.length_drop,
      List.length_append, toNat_ofNat', toNat_ofNat]
    omega
  · unfold segmentSum
    simp only
    split
    · exact .inr rfl
    · exact .inl rfl

theorem udp_checksum_ne_zero (protocol : ctx.protocol ≠ ipProtoTCP)
    (i start : Nat) :
    readU16 (segmentBytes ctx input i start) (ctx.options.csumStart.toNat + 6) ≠ 0 := by
  obtain ⟨value, room⟩ := fits.udpField protocol
  have headerLength := length_segmentHeader fits.header i start
  have unchecked := length_uncheckedHeader fits i start
  rw [segmentBytes, readU16_append_left (by omega), segmentHeader_eq,
    checksummed, value, readU16_writeU16_self (by simp; omega)]
  unfold segmentSum
  simp only [(fits.udp protocol).1, if_true]
  exact normalizeUDPChecksum_ne_zero _

end Transport

end SingTun.Offload
