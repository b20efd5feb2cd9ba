import SingTun.Offload.Plan

/-!
# Segmentation is correct

The loop of `gsoSplit` produces the segments of `Offload.Segments` one after
the other.  For a packet whose options describe its own headers this gives
the number of segments, that their payloads are the payload of the packet,
and every header field and checksum of every segment.  A packet that needs
no segmentation but a checksum is the second case of the main theorem.
-/

namespace SingTun.Offload

open Foundation Header List Option UInt16

/-! ## The list of segments -/

/-- `count` segments from segment `i` on, whose data starts at `start`. -/
def segments (ctx : SegmentContext) (input : Bytes) : (i start count : Nat) → List Bytes
  | _, _, 0 => []
  | i, start, count + 1 =>
    segmentBytes ctx input i start ::
      segments ctx input (i + 1) (start + ctx.options.gsoSize.toNat) count

theorem length_segments (ctx : SegmentContext) (input : Bytes) (i start count : Nat) :
    (segments ctx input i start count).length = count := by
  induction count generalizing i start with
  | zero => rfl
  | succ count ih => simp [segments, ih]

theorem getElem_segments (ctx : SegmentContext) (input : Bytes) (i start count k : Nat)
    (inside : k < (segments ctx input i start count).length) :
    (segments ctx input i start count)[k] = segmentBytes ctx input (i + k)
        (start + k * ctx.options.gsoSize.toNat) := by
  induction count generalizing i start k with
  | zero => simp [segments] at inside
  | succ count ih =>
    cases k with
    | zero => simp [segments]
    | succ k =>
      have tail := ih (i + 1) (start + ctx.options.gsoSize.toNat) k
        (by simpa [segments] using inside)
      have index : i + 1 + k = i + (k + 1) := by omega
      have data : start + ctx.options.gsoSize.toNat + k * ctx.options.gsoSize.toNat =
            start + (k + 1) * ctx.options.gsoSize.toNat := by ring
      rw [index, data] at tail
      simpa [segments] using tail

/-- One segment less is needed after one segment. -/
theorem ceilDiv_sub_step (length start size : Nat) (positive : 0 < size)
    (data : start < length) :
    (length - start) ⌈/⌉ size = (length - (start + size)) ⌈/⌉ size + 1 := by
  simp only [Nat.ceilDiv_eq_add_pred_div]
  by_cases full : start + size ≤ length
  · have split : length - start + size - 1 = length - (start + size) + size - 1 + size := by omega
    rw [split, Nat.add_div_right _ positive]
  · have short : length - (start + size) = 0 := by omega
    have last : (0 + size - 1) / size = 0 := Nat.div_eq_of_lt (by omega)
    rw [short, last]
    apply Nat.div_eq_of_lt_le <;> omega

theorem ceilDiv_eq_zero_of_le
    (length start size : Nat) (positive : 0 < size)
    (done : length ≤ start) :
    (length - start) ⌈/⌉ size = 0 := by
  rw [Nat.sub_eq_zero_of_le done, Nat.ceilDiv_eq_add_pred_div, Nat.zero_add,
    Nat.div_eq_of_lt (by omega)]

/-- The payloads of the segments are the data, in order. -/
theorem segments_payload {ctx : SegmentContext} {input : Bytes} (fits : ctx.Fits input)
    (positive : 0 < ctx.options.gsoSize.toNat) (i start count : Nat)
    (counted : count = (input.length - start) ⌈/⌉ ctx.options.gsoSize.toNat) :
    (segments ctx input i start count).flatMap
        (·.drop ctx.options.hdrLen.toNat) = input.drop start := by
  induction count generalizing i start with
  | zero =>
    have done : input.length ≤ start := by
      by_contra data
      have step := ceilDiv_sub_step input.length start ctx.options.gsoSize.toNat positive (by omega)
      omega
    simp [segments, drop_of_length_le done]
  | succ count ih =>
    have data : start < input.length := by
      by_contra done
      rw [ceilDiv_eq_zero_of_le _ _ _ positive (by omega)] at counted
      omega
    have step := ceilDiv_sub_step input.length start ctx.options.gsoSize.toNat positive data
    have tail := ih (i + 1) (start + ctx.options.gsoSize.toNat) (by omega)
    have ended : input.drop (start + ctx.options.gsoSize.toNat) =
          input.drop (segmentEnd ctx.options input start) := by
      unfold segmentEnd
      split
      · rw [drop_of_length_le (by omega), drop_of_length_le (le_rfl)]
      · rfl
    rw [segments, flatMap_cons, segmentBytes_drop fits, tail, ended,
      segmentPayload_append ctx.options (by omega)]

/-! ## The loop -/

/-- The packets that a caller reads from the output buffers. -/
def packetsOf (outBufs : List Bytes) (sizes : List Nat) (outOffset : Nat) : List Bytes :=
  List.zipWith (fun outBuf size => window outBuf outOffset size) outBufs sizes

/-- What a call produced: the first `count` packets. -/
def SplitResult.packets (result : SplitResult) (outOffset : Nat) : List Bytes :=
  (packetsOf result.outBufs result.sizes outOffset).take result.count.toNat

/-- The loop fills one buffer a segment and leaves earlier sizes alone. -/
theorem splitLoop_eq {ctx : SegmentContext} {input : Bytes} (fits : ctx.Fits input)
    (positive : 0 < ctx.options.gsoSize.toNat) (outOffset : Nat)
    (outBufs : List Bytes) (sizes : List Nat) (i start count : Nat)
    (data : ctx.options.hdrLen.toNat ≤ start)
    (counted : count = (input.length - start) ⌈/⌉ ctx.options.gsoSize.toNat)
    (buffers : count ≤ outBufs.length)
    (slots : i + count ≤ sizes.length)
    (room : ∀ outBuf ∈ outBufs, outOffset + input.length ≤ outBuf.length) :
    ∃ outBufs' sizes', splitLoop ctx input outOffset i start outBufs sizes =
          some (((i + count : Nat) : Int), none, outBufs', sizes') ∧
        sizes'.length = sizes.length ∧ (∀ j, j < i → sizes'[j]? = sizes[j]?) ∧
        (packetsOf outBufs' (sizes'.drop i) outOffset).take count =
          segments ctx input i start count := by
  induction outBufs generalizing i start count sizes with
  | nil =>
    have zero : count = 0 := by simpa using buffers
    have done : input.length ≤ start := by
      by_contra data
      have step := ceilDiv_sub_step input.length start ctx.options.gsoSize.toNat positive (by omega)
      omega
    subst zero
    refine ⟨[], sizes, ?_, rfl, fun _ _ => rfl, ?_⟩
    · rw [splitLoop, if_pos done]
      simp
    · simp [packetsOf, segments]
  | cons outBuf rest ih =>
    by_cases done : input.length ≤ start
    · have zero : count = 0 := by
        rw [counted, ceilDiv_eq_zero_of_le _ _ _ positive done]
      subst zero
      refine ⟨outBuf :: rest, sizes, ?_, rfl, fun _ _ => rfl, ?_⟩
      · rw [splitLoop, if_pos done]
        simp
      · simp [segments]
    · have step := ceilDiv_sub_step input.length start ctx.options.gsoSize.toNat positive (by omega)
      obtain ⟨remaining, rfl⟩ : ∃ remaining, count = remaining + 1 := ⟨_, counted.trans step⟩
      have bufRoom := room outBuf (by simp)
      have ended := segmentEnd_le ctx.options input start
      have segmentLength := length_segmentBytes fits.header i start
      obtain ⟨outBufs', sizes', loop, lengths, earlier, packets⟩ := ih
          (sizes.set i (segmentBytes ctx input i start).length)
          (i + 1) (start + ctx.options.gsoSize.toNat) remaining
          (by omega) (by omega) (by simpa using buffers) (by simp; omega)
          (fun outBuf member => room outBuf (by simp [member]))
      have slot : i < sizes.length := by omega
      have written := writeSegment_eq fits.inside i start (outBuf.drop outOffset) data (by omega)
        (by rw [length_drop]; omega)
      refine ⟨overwrite outBuf outOffset (segmentBytes ctx input i start) ::
        outBufs', sizes', ?_, ?_, ?_, ?_⟩
      · rw [splitLoop_cons done, ← segmentLength, setSize?, if_pos slot,
          bind_some, sliceFrom?_eq_some (by omega), bind_some,
          written, bind_some, loop, take_append_overwrite (by omega)]
        refine congrArg some (Prod.ext ?_ rfl)
        push_cast
        ring
      · simpa using lengths
      · intro j bound
        rw [earlier j (by omega), List.getElem?_set, if_neg (by omega)]
      · have stored : sizes'[i]? = some (segmentBytes ctx input i start).length := by
          rw [earlier i (by omega), List.getElem?_set, if_pos rfl, if_pos slot]
        have inside : i < sizes'.length := by
          rw [lengths, length_set]
          exact slot
        have head : sizes'[i] = (segmentBytes ctx input i start).length := by
          rw [List.getElem?_eq_getElem inside] at stored
          exact some.inj stored
        rw [drop_eq_getElem_cons inside, head]
        simp only [packetsOf, zipWith_cons_cons, take_succ_cons, segments]
        rw [window_overwrite (by omega)]
        exact congrArg _ packets

/-! ## Packets and the options that describe them -/

/-- The IP header of a packet has the given length. -/
def IPHeaderLength (packet : Bytes) (length : Nat) : Prop :=
  (ipVersionOf packet = 4 ∧ 20 ≤ length ∧ length = (byteAt packet 0 &&& 0x0f).toNat * 4) ∨
    (ipVersionOf packet = 6 ∧ length = 40)

/-- The length that the data offset of a TCP header states. -/
def tcpHeaderLength (packet : Bytes) (start : Nat) : Nat :=
  (byteAt packet (start + 12) >>> 4).toNat * 4

/-- The options of a packet to segment describe its own headers. -/
structure Segmentable (packet : Bytes) (options : GSOOptions) : Prop where
  length : packet.length ≤ 65535
  ipHeader : IPHeaderLength packet options.csumStart.toNat
  gsoType : (options.gsoType = .tcpv4 ∧ ipVersionOf packet = 4) ∨
      (options.gsoType = .tcpv6 ∧ ipVersionOf packet = 6) ∨ options.gsoType = .udpl4
  tcpHeader : options.gsoType ≠ .udpl4 → options.csumOffset = 16 ∧
      20 ≤ tcpHeaderLength packet options.csumStart.toNat ∧
      options.hdrLen.toNat = options.csumStart.toNat +
        tcpHeaderLength packet options.csumStart.toNat
  udpHeader : options.gsoType = .udpl4 → options.csumOffset = 6 ∧
      options.hdrLen.toNat = options.csumStart.toNat + 8
  gsoSize : 1 ≤ options.gsoSize.toNat ∧ options.hdrLen.toNat + options.gsoSize.toNat ≤ packet.length

section

variable (packet : Bytes) (options : GSOOptions)

/-- What the loop of `gsoSplit` works with. -/
def contextOf : SegmentContext :=
  let start := options.csumStart.toNat
  let tcp := options.gsoType ≠ .udpl4
  let protocol := if tcp then ipProtoTCP else ipProtoUDP
  { options
    ipVersion := ipVersionOf packet
    protocol
    firstTCPSeqNum := if tcp then readU32 packet (start + 4) else 0
    srcTCPFlags := if tcp then byteAt packet (start + 13) else 0
    pseudoSumBase := pseudoHeaderChecksum protocol (srcAddrOf packet) (dstAddrOf packet) 0 }

/-- The number of segments of a packet. -/
def segmentCount : Nat :=
  (packet.length - options.hdrLen.toNat) ⌈/⌉ options.gsoSize.toNat

/-- The segments of a packet. -/
def segmentsOf : List Bytes :=
  segments (contextOf packet options) packet 0 options.hdrLen.toNat (segmentCount packet options)

theorem length_segmentsOf : (segmentsOf packet options).length = segmentCount packet options :=
  length_segments _ _ _ _ _

end

theorem segment_of_getElem? {packet : Bytes} {options : GSOOptions} {i : Nat} {segment : Bytes}
    (found : (segmentsOf packet options)[i]? = some segment) :
    i < segmentCount packet options ∧
      segment = segmentBytes (contextOf packet options) packet i
        (options.hdrLen.toNat + i * options.gsoSize.toNat) := by
  obtain ⟨inside, value⟩ := List.getElem?_eq_some_iff.mp found
  refine ⟨by rwa [length_segmentsOf] at inside, ?_⟩
  rw [← value]
  have read := getElem_segments (contextOf packet options) packet 0
    options.hdrLen.toNat (segmentCount packet options) i inside
  rwa [Nat.zero_add] at read

/-- Room for `count` packets of at most `length` octets each. -/
structure SplitRoom (count length : Nat)
    (outBufs : List Bytes) (sizes : List Nat) (outOffset : Nat) : Prop where
  buffers : count ≤ outBufs.length
  slots : count ≤ sizes.length
  long : ∀ outBuf ∈ outBufs, outOffset + length ≤ outBuf.length

namespace Segmentable

variable {packet : Bytes} {options : GSOOptions}

variable (segmentable : Segmentable packet options)
include segmentable

theorem version : ipVersionOf packet = 4 ∨ ipVersionOf packet = 6 := by
  rcases segmentable.ipHeader with ⟨version, -⟩ | ⟨version, -⟩
  · exact .inl version
  · exact .inr version

theorem csumStart_of_ipv6 (version : ipVersionOf packet ≠ 4) : options.csumStart.toNat = 40 := by
  rcases segmentable.ipHeader with ⟨ipv4, -⟩ | ⟨-, length⟩
  · exact absurd ipv4 version
  · exact length

theorem fits : (contextOf packet options).Fits packet where
  ipv4 version := by
    rcases segmentable.ipHeader with ⟨-, bound, -⟩ | ⟨ipv6, -⟩
    · exact bound
    · have ipv4 : ipVersionOf packet = 4 := version
      rw [ipv6] at ipv4
      contradiction
  ipv6 version := (segmentable.csumStart_of_ipv6 version).ge
  tcp protocol := by
    by_cases udp : options.gsoType = .udpl4
    · simp [contextOf, udp, ipProtoTCP, ipProtoUDP] at protocol
    · obtain ⟨offset, bound, header⟩ := segmentable.tcpHeader udp
      exact ⟨offset, by
        show options.csumStart.toNat + 20 ≤ options.hdrLen.toNat
        omega⟩
  udp protocol := by
    by_cases udp : options.gsoType = .udpl4
    · obtain ⟨offset, header⟩ := segmentable.udpHeader udp
      exact ⟨by simp [contextOf, udp], offset, header.ge⟩
    · simp [contextOf, udp] at protocol
  header := by
    have := segmentable.gsoSize
    show options.hdrLen.toNat ≤ packet.length
    omega
  length := segmentable.length

omit segmentable in
theorem protocol_tcp (packet : Bytes) (tcp : options.gsoType ≠ .udpl4) :
    (contextOf packet options).protocol = ipProtoTCP := by
  simp [contextOf, tcp]

omit segmentable in
theorem protocol_udp (packet : Bytes) (udp : options.gsoType = .udpl4) :
    (contextOf packet options).protocol ≠ ipProtoTCP := by
  simp [contextOf, udp, ipProtoTCP, ipProtoUDP]

theorem csumStart_le : options.csumStart.toNat + 20 ≤ 65535 := by
  have length := segmentable.length
  have size := segmentable.gsoSize
  by_cases udp : options.gsoType = .udpl4
  · rcases segmentable.ipHeader with ⟨-, -, header⟩ | ⟨-, header⟩
    · have nibble : (byteAt packet 0 &&& 0x0f).toNat ≤ 15 := by
        exact Nat.and_le_right
      omega
    · omega
  · have header := segmentable.tcpHeader udp
    omega

theorem length_le :
    (ipVersionOf packet = 4 → 20 ≤ packet.length) ∧
      (ipVersionOf packet ≠ 4 → 40 ≤ packet.length) := by
  have fits := segmentable.fits
  have bounds := fits.csumStart_lt
  have header := fits.header
  constructor
  · intro version
    have := fits.ipv4 version
    omega
  · intro version
    have := fits.ipv6 version
    omega

theorem versionError_eq_none : versionError options packet (ipVersionOf packet) = none := by
  have lengths := segmentable.length_le
  unfold versionError
  rcases segmentable.version with version | version
  · have long := lengths.1 version
    have type : ¬(options.gsoType ≠ .tcpv4 ∧ options.gsoType ≠ .udpl4) := by
      rcases segmentable.gsoType with ⟨type, -⟩ | ⟨-, ipv6⟩ | type
      · simp [type]
      · rw [version] at ipv6
        contradiction
      · simp [type]
    rw [if_pos version, if_neg type, if_neg (by omega)]
  · have ipv6 : ipVersionOf packet ≠ 4 := by
      rw [version]
      decide
    have long := lengths.2 ipv6
    have type : ¬(options.gsoType ≠ .tcpv6 ∧ options.gsoType ≠ .udpl4) := by
      rcases segmentable.gsoType with ⟨-, ipv4⟩ | ⟨type, -⟩ | type
      · exact absurd ipv4 ipv6
      · simp [type]
      · simp [type]
    rw [if_neg ipv6, if_pos version, if_neg type, if_neg (by omega)]

/-- The positions of the two fields do not wrap. -/
theorem tcpFields_eq (tcp : options.gsoType ≠ .udpl4) :
    tcpFields options packet =
      some (readU32 packet (options.csumStart.toNat + 4),
        byteAt packet (options.csumStart.toNat + 13)) := by
  have small := segmentable.csumStart_le
  have header := segmentable.tcpHeader tcp
  have size := segmentable.gsoSize
  have seqAt : (options.csumStart + 4).toNat = options.csumStart.toNat + 4 :=
    toNat_add_of_lt (show _ + 4 < 65536 by omega)
  have flagsAt : (options.csumStart + .ofNat tcpFlagsOffset).toNat =
        options.csumStart.toNat + 13 :=
    toNat_add_of_lt (show _ + 13 < 65536 by omega)
  rw [tcpFields, seqAt, flagsAt, readU32?_eq_some (by omega), byteAt?_eq_some (by omega)]
  rfl

theorem type_tcp (tcp : options.gsoType ≠ .udpl4) :
    options.gsoType = .tcpv4 ∨ options.gsoType = .tcpv6 := by
  rcases segmentable.gsoType with ⟨type, -⟩ | ⟨type, -⟩ | type
  · exact .inl type
  · exact .inr type
  · exact absurd type tcp

/-- No check before the loop fails. -/
theorem cut : Cut packet options := by
  obtain ⟨-, -, field⟩ := segmentable.fits.field
  have bounds := segmentable.fits.csumStart_lt
  have size := segmentable.gsoSize
  change options.csumStart.toNat + options.csumOffset.toNat + 2 ≤ options.hdrLen.toNat at field
  refine ⟨by omega, by omega, ?_, by omega, segmentable.versionError_eq_none, fun type => ?_⟩
  · rintro (type | short)
    · rcases segmentable.gsoType with ⟨other, -⟩ | ⟨other, -⟩ | other <;>
        rw [type] at other <;> contradiction
    · omega
  · have udp : options.gsoType ≠ .udpl4 := by
      rcases type with type | type <;> rw [type] <;> decide
    have := segmentable.tcpHeader udp
    omega

/-- The loop gets `contextOf`. -/
theorem splitContext?_eq :
    splitContext? options packet (ipVersionOf packet) = some (contextOf packet options) := by
  have base := pseudoSumBase_eq segmentable.cut.length
  by_cases udp : options.gsoType = .udpl4
  · simp [splitContext?, contextOf, udp, base]
  · simp [splitContext?, contextOf, udp, segmentable.type_tcp udp, base,
      segmentable.tcpFields_eq udp]

/-- With enough room `gsoSplit` produces the segments of the packet. -/
theorem gsoSplit_packets {outBufs : List Bytes} {sizes : List Nat} {outOffset : Nat}
    (room : SplitRoom (segmentCount packet options) packet.length outBufs sizes outOffset) :
    ∃ result, gsoSplit packet options outBufs sizes outOffset = some result ∧
        result.error = none ∧ result.count = segmentCount packet options ∧
        result.packets outOffset = segmentsOf packet options := by
  obtain ⟨outBufs', sizes', loop, -, -, packets⟩ :=
    splitLoop_eq segmentable.fits segmentable.gsoSize.1 outOffset outBufs
      sizes 0 options.hdrLen.toNat (segmentCount packet options)
      (le_rfl) rfl room.buffers (by simpa using room.slots) room.long
  refine ⟨⟨segmentCount packet options, none, packet, outBufs', sizes'⟩, ?_, rfl, rfl, ?_⟩
  · rw [segmentable.cut.gsoSplit_eq, segmentable.splitContext?_eq, bind_some]
    rw [loop]
    simp [SplitResult.ofLoop]
  · simpa [SplitResult.packets, segmentsOf] using packets

/-! ## The segments of a packet -/

/-- Every segment starts inside the data; the last one ends it. -/
theorem segment_range {i : Nat} (inside : i < segmentCount packet options) :
    options.hdrLen.toNat + i * options.gsoSize.toNat < packet.length ∧
      (i + 1 = segmentCount packet options ↔ segmentEnd options packet
            (options.hdrLen.toNat + i * options.gsoSize.toNat) = packet.length) := by
  have positive : 0 < options.gsoSize.toNat := segmentable.gsoSize.1
  have header := segmentable.gsoSize.2
  -- `segmentCount` is the only count with this many full segments before it.
  have full : (segmentCount packet options - 1) * options.gsoSize.toNat <
      packet.length - options.hdrLen.toNat := by
    have counted := Nat.div_mul_le_self
      (packet.length - options.hdrLen.toNat + options.gsoSize.toNat - 1) options.gsoSize.toNat
    rw [← Nat.ceilDiv_eq_add_pred_div] at counted
    change segmentCount packet options * _ ≤ _ at counted
    rw [Nat.sub_mul, Nat.one_mul]
    omega
  have all : packet.length - options.hdrLen.toNat ≤
      segmentCount packet options * options.gsoSize.toNat := by
    rw [Nat.mul_comm]
    exact le_smul_ceilDiv positive
  have before : i * options.gsoSize.toNat ≤
      (segmentCount packet options - 1) * options.gsoSize.toNat :=
    Nat.mul_le_mul_right _ (by omega)
  constructor
  · omega
  · unfold segmentEnd
    constructor
    · intro last
      rw [← last, Nat.succ_mul] at all
      split <;> omega
    · intro ended
      by_contra other
      have next : (i + 1) * options.gsoSize.toNat ≤
          (segmentCount packet options - 1) * options.gsoSize.toNat :=
        Nat.mul_le_mul_right _ (by omega)
      rw [Nat.succ_mul] at next
      split at ended <;> omega

end Segmentable

/-- Segment `i` of `count` is a correct packet of its own. -/
structure SegmentCorrect (packet : Bytes) (options : GSOOptions) (count i : Nat)
    (segment : Bytes) : Prop where
  /-- The IPv4 total length, identification and header checksum. -/
  ipv4 : ipVersionOf packet = 4 → (readU16 segment 2).toNat = segment.length ∧
      readU16 segment 4 = readU16 packet 4 + UInt16.ofNat i ∧
      IPv4ChecksumValid (segment.take options.csumStart.toNat)
  /-- The IPv6 payload length. -/
  ipv6 : ipVersionOf packet = 6 → (readU16 segment 4).toNat + 40 = segment.length
  /-- The TCP sequence number and flags. -/
  tcp : options.gsoType ≠ .udpl4 → readU32 segment (options.csumStart.toNat + 4) =
        readU32 packet (options.csumStart.toNat + 4) + UInt32.ofNat (i * options.gsoSize.toNat) ∧
      byteAt segment (options.csumStart.toNat + 13) =
        if i + 1 = count then byteAt packet (options.csumStart.toNat + 13)
        else byteAt packet (options.csumStart.toNat + 13) &&& ~~~(tcpFlagFIN ||| tcpFlagPSH)
  /-- The UDP length; a UDP checksum is present. -/
  udp : options.gsoType = .udpl4 → (readU16 segment (options.csumStart.toNat + 4)).toNat +
          options.csumStart.toNat = segment.length ∧
      readU16 segment (options.csumStart.toNat + 6) ≠ 0
  /-- The transport checksum, for the addresses of the segment itself. -/
  transport : TransportChecksumValid (if options.gsoType = .udpl4 then udpProtocolNumber
        else tcpProtocolNumber)
      (srcAddrOf segment) (dstAddrOf segment)
      (segment.drop options.csumStart.toNat)

namespace Segmentable

variable {packet : Bytes} {options : GSOOptions}

variable (segmentable : Segmentable packet options)
include segmentable

theorem window_segmentBytes (i start position count : Nat)
    (inside : position + count ≤ options.hdrLen.toNat)
    (outside : ∀ k, position ≤ k → k < position + count → ¬Rewritten (contextOf packet options) k) :
    window (segmentBytes (contextOf packet options) packet i start)
        position count = window packet position count := by
  have lengths := length_segmentBytes segmentable.fits.header i start
  have size := segmentable.gsoSize
  change _ = options.hdrLen.toNat + _ at lengths
  refine window_congr (by omega) (by omega) fun k low high => ?_
  exact byteAt_segmentBytes segmentable.fits i start k
    (by show k < options.hdrLen.toNat; omega) (outside k low high)

omit segmentable in
/-- An octet of the IP header that no segment changes. -/
theorem not_rewritten {position : Nat} (inside : position < options.csumStart.toNat)
    (outside : ¬IPRewritten (contextOf packet options) position) :
    ¬Rewritten (contextOf packet options) position := by
  rintro (ip | transport | high | low)
  · exact outside ip
  · unfold TransportRewritten at transport
    change if _ then
        (options.csumStart.toNat + 4 ≤ position ∧ _) ∨ position = options.csumStart.toNat + 13
      else position = options.csumStart.toNat + 4 ∨
        position = options.csumStart.toNat + 5 at transport
    split at transport <;> omega
  · change position = options.csumStart.toNat + _ at high
    omega
  · change position = options.csumStart.toNat + _ + 1 at low
    omega

theorem ipVersionOf_segmentBytes (i start : Nat) :
    ipVersionOf (segmentBytes (contextOf packet options) packet i start) = ipVersionOf packet := by
  have bounds := segmentable.fits.csumStart_lt
  change 20 ≤ options.csumStart.toNat ∧ options.csumStart.toNat + 8 ≤ options.hdrLen.toNat at bounds
  have kept := byteAt_segmentBytes segmentable.fits i start 0
    (by show 0 < options.hdrLen.toNat; omega)
    (not_rewritten (by omega) (by unfold IPRewritten; split <;> omega))
  rw [ipVersionOf, ipVersionOf, kept]

/-- A segment keeps both addresses. -/
theorem addresses_segmentBytes (i start : Nat) :
    srcAddrOf (segmentBytes (contextOf packet options) packet i start) = srcAddrOf packet ∧
      dstAddrOf (segmentBytes (contextOf packet options) packet i start) = dstAddrOf packet := by
  have bounds := segmentable.fits.csumStart_lt
  change 20 ≤ options.csumStart.toNat ∧ options.csumStart.toNat + 8 ≤ options.hdrLen.toNat at bounds
  have versionKept := segmentable.ipVersionOf_segmentBytes i start
  unfold srcAddrOf dstAddrOf
  rw [versionKept]
  by_cases version : ipVersionOf packet = 4
  · have kept : ∀ k, 12 ≤ k → k < 20 → ¬Rewritten (contextOf packet options) k := by
      intro k low high
      refine not_rewritten (by omega) ?_
      unfold IPRewritten
      split <;> omega
    rw [if_pos version, if_pos version, if_pos version, if_pos version]
    constructor
    · exact segmentable.window_segmentBytes i start 12 4 (by omega)
        (fun k low high => kept k (by omega) (by omega))
    · exact segmentable.window_segmentBytes i start 16 4 (by omega)
        (fun k low high => kept k (by omega) (by omega))
  · have header := segmentable.csumStart_of_ipv6 version
    have kept : ∀ k, 8 ≤ k → k < 40 → ¬Rewritten (contextOf packet options) k := by
      intro k low high
      refine not_rewritten (by omega) ?_
      change ¬if ipVersionOf packet = 4 then _ else _
      rw [if_neg version]
      omega
    rw [if_neg version, if_neg version, if_neg version, if_neg version]
    constructor
    · exact segmentable.window_segmentBytes i start 8 16 (by omega)
        (fun k low high => kept k (by omega) (by omega))
    · exact segmentable.window_segmentBytes i start 24 16 (by omega)
        (fun k low high => kept k (by omega) (by omega))

theorem length_segmentBytes_le (i start : Nat) (data : options.hdrLen.toNat ≤ start) :
    (segmentBytes (contextOf packet options) packet i start).length ≤ packet.length := by
  have lengths := length_segmentBytes segmentable.fits.header i start
  have ended := segmentEnd_le options packet start
  have header := segmentable.gsoSize
  change _ = options.hdrLen.toNat + (segmentEnd options packet start - start) at lengths
  omega

/-- The product of the program does not wrap in sixteen bits. -/
theorem segmentSeq_eq (tcp : options.gsoType ≠ .udpl4) {i : Nat}
    (inside : i < segmentCount packet options) :
    segmentSeq (contextOf packet options) i =
      readU32 packet (options.csumStart.toNat + 4) + UInt32.ofNat (i * options.gsoSize.toNat) := by
  have range := (segmentable.segment_range inside).1
  have length := segmentable.length
  have positive := segmentable.gsoSize.1
  have index : i ≤ i * options.gsoSize.toNat := Nat.le_mul_of_pos_right i positive
  have product : (options.gsoSize * .ofNat i).toNat = i * options.gsoSize.toNat := by
    rw [UInt16.toNat_mul, UInt16.toNat_ofNat',
      Nat.mod_eq_of_lt (show i < 2 ^ 16 by omega), Nat.mul_comm, Nat.mod_eq_of_lt (by omega)]
  have widened : (options.gsoSize * .ofNat i).toUInt32 =
        UInt32.ofNat (i * options.gsoSize.toNat) := by
    apply UInt32.toNat_inj.mp
    rw [toNat_toUInt32, product, UInt32.toNat_ofNat', Nat.mod_eq_of_lt (by omega)]
  have first : (contextOf packet options).firstTCPSeqNum =
      readU32 packet (options.csumStart.toNat + 4) := by
    simp [contextOf, tcp]
  rw [segmentSeq, first]
  exact congrArg _ widened

theorem segmentCorrect {i : Nat} (inside : i < segmentCount packet options) :
    SegmentCorrect packet options (segmentCount packet options) i
      (segmentBytes (contextOf packet options) packet i
        (options.hdrLen.toNat + i * options.gsoSize.toNat)) := by
  have fits := segmentable.fits
  have bounds := fits.csumStart_lt
  change 20 ≤ options.csumStart.toNat ∧ options.csumStart.toNat + 8 ≤ options.hdrLen.toNat at bounds
  obtain ⟨data, last⟩ := segmentable.segment_range inside
  have lengths := length_segmentBytes fits.header i
    (options.hdrLen.toNat + i * options.gsoSize.toNat)
  have small := segmentable.length_segmentBytes_le i
    (options.hdrLen.toNat + i * options.gsoSize.toNat) (by omega)
  have length := segmentable.length
  change _ = options.hdrLen.toNat + _ at lengths
  refine ⟨?ipv4, ?ipv6, ?tcp, ?udp, ?transport⟩
  case ipv4 =>
    intro version
    refine ⟨?_, ipv4_id fits version i _, ipv4_checksum fits version i _⟩
    rw [ipv4_totalLength fits version, toNat_ofNat', Nat.mod_eq_of_lt (by omega)]
  case ipv6 =>
    intro version
    have other : ipVersionOf packet ≠ 4 := by
      rw [version]
      decide
    have header := segmentable.csumStart_of_ipv6 other
    have stored := ipv6_payloadLength fits other i
      (options.hdrLen.toNat + i * options.gsoSize.toNat)
    change _ = UInt16.ofNat (_ - options.csumStart.toNat) at stored
    rw [stored, toNat_ofNat', header, Nat.mod_eq_of_lt (by omega)]
    omega
  case tcp =>
    intro tcp
    have protocol := protocol_tcp packet tcp
    have seq := tcp_seq fits protocol i (options.hdrLen.toNat + i * options.gsoSize.toNat)
    have flags := tcp_flags fits protocol i (options.hdrLen.toNat + i * options.gsoSize.toNat)
    have original : (contextOf packet options).srcTCPFlags =
        byteAt packet (options.csumStart.toNat + 13) := by
      simp [contextOf, tcp]
    refine ⟨seq.trans (segmentable.segmentSeq_eq tcp inside), ?_⟩
    refine flags.trans ?_
    rw [segmentFlags, original]
    by_cases final : i + 1 = segmentCount packet options
    · have ended := last.mp final
      rw [if_pos final]
      exact if_pos (by simpa [contextOf] using ended)
    · have ended := fun ended => final (last.mpr ended)
      rw [if_neg final]
      exact if_neg (by simpa [contextOf] using ended)
  case udp =>
    intro udp
    have protocol := protocol_udp packet udp
    have stored := udp_length fits protocol i (options.hdrLen.toNat + i * options.gsoSize.toNat)
    change readU16 _ (options.csumStart.toNat + 4) =
      .ofNat (_ - options.csumStart.toNat) at stored
    refine ⟨?_, udp_checksum_ne_zero fits protocol i _⟩
    rw [stored, toNat_ofNat', Nat.mod_eq_of_lt (by omega)]
    omega
  case transport =>
    obtain ⟨src, dst⟩ := segmentable.addresses_segmentBytes i
      (options.hdrLen.toNat + i * options.gsoSize.toNat)
    rw [src, dst]
    have valid := transport_checksum fits i (options.hdrLen.toNat + i * options.gsoSize.toNat)
      (srcAddrOf packet) (dstAddrOf packet) (Nat.le_add_right _ _) rfl
    by_cases udp : options.gsoType = .udpl4
    · simpa [contextOf, udp, ipProtoUDP, udpProtocolNumber] using valid
    · simpa [contextOf, udp, ipProtoTCP, tcpProtocolNumber] using valid

end Segmentable

/-! ## A packet in one piece -/

/-- A packet in one piece goes to the first output buffer. -/
theorem copySingle_packets {options : GSOOptions} {input out : Bytes} {outBufs : List Bytes}
    {sizes : List Nat} {outOffset : Nat} (stored : completeChecksum options input = some out)
    (lengths : out.length = input.length)
    (room : SplitRoom 1 input.length outBufs sizes outOffset) :
    ∃ result, copySingle options input outBufs sizes outOffset = some result ∧
        result.error = none ∧ result.count = 1 ∧ result.packets outOffset = [out] := by
  have buffers := room.buffers
  have slots := room.slots
  cases outBufs with
  | nil => simp at buffers
  | cons outBuf rest =>
    cases sizes with
    | nil => simp at slots
    | cons size sizes =>
      have long := room.long outBuf (by simp)
      have copied : copySingle options input (outBuf :: rest) (size :: sizes) outOffset =
          some ⟨1, none, out, overwrite outBuf outOffset out :: rest, out.length :: sizes⟩ := by
        rw [copySingle]
        simp only [List.getElem?_cons_zero, some_bind]
        rw [sliceFrom?_eq_some (by omega)]
        simp only [some_bind]
        rw [if_neg (by rw [length_drop]; omega), stored]
        simp only [some_bind]
        rw [take_append_overwrite (by omega)]
        simp [setSize?]
      have read : window (overwrite outBuf outOffset out) outOffset
          out.length = out := window_overwrite (by omega)
      exact ⟨_, copied, rfl, rfl, by simpa [SplitResult.packets, packetsOf] using read⟩

/-- The transport protocol that owns a checksum field at `csumOffset`. -/
def checksumProtocol (options : GSOOptions) : UInt8 :=
  if options.csumOffset = 6 then udpProtocolNumber else tcpProtocolNumber

/--
A packet that needs no segmentation but a checksum: its checksum field
holds the pseudo-header sum.
-/
structure PartialChecksum (packet : Bytes) (options : GSOOptions) : Prop where
  gsoType : options.gsoType = .none
  needsCsum : options.needsCsum = true
  length : packet.length ≤ 65535
  ipHeader : IPHeaderLength packet options.csumStart.toNat
  csumOffset : options.csumOffset = 16 ∨ options.csumOffset = 6
  field : options.csumStart.toNat + options.csumOffset.toNat + 1 < packet.length
  header : options.hdrLen.toNat ≤ packet.length
  pseudoHeader : readU16 packet (options.csumStart.toNat + options.csumOffset.toNat) =
      pseudoHeaderChecksum (checksumProtocol options) (srcAddrOf packet) (dstAddrOf packet)
        (UInt16.ofNat (packet.length - options.csumStart.toNat))

/-- The complete checksum of a packet with a partial one. -/
def completedChecksum (packet : Bytes) (options : GSOOptions) : UInt16 :=
  let cSumAt := options.csumStart.toNat + options.csumOffset.toNat
  let csum := ~~~(checksum ((writeU16 packet cSumAt 0).drop options.csumStart.toNat)
    (readU16 packet cSumAt))
  if options.csumOffset = 6 then normalizeUDPChecksum csum else csum

theorem storeChecksum_eq {packet : Bytes} {options : GSOOptions}
    (field : options.csumStart.toNat + options.csumOffset.toNat + 1 < packet.length) :
    storeChecksum options packet = some (writeU16 packet
      (options.csumStart.toNat + options.csumOffset.toNat)
      (completedChecksum packet options)) := by
  rw [storeChecksum]
  simp only
  rw [bind_of_eq_some (readU16?_eq_some (by omega)),
    bind_of_eq_some (setByte?_eq_some _ (by omega)),
    bind_of_eq_some (setByte?_eq_some _ (by rw [length_set]; omega)),
    set_zero_set_zero,
    bind_of_eq_some (sliceFrom?_eq_some (by rw [length_writeU16]; omega)),
    writeU16?_eq_some _ (by rw [length_writeU16]; omega), writeU16_writeU16]
  rfl

/-- `packet` is `original` with a complete transport checksum. -/
structure ChecksumCompleted
    (original : Bytes) (options : GSOOptions) (packet : Bytes) : Prop where
  same : ∃ value, packet = writeU16 original
    (options.csumStart.toNat + options.csumOffset.toNat) value
  udp : options.csumOffset = 6 → readU16 packet (options.csumStart.toNat + 6) ≠ 0
  transport : TransportChecksumValid (checksumProtocol options) (srcAddrOf packet)
      (dstAddrOf packet) (packet.drop options.csumStart.toNat)

namespace PartialChecksum

variable {packet : Bytes} {options : GSOOptions}

variable (described : PartialChecksum packet options)
include described

theorem csumStart_ge :
    20 ≤ options.csumStart.toNat ∧ (ipVersionOf packet ≠ 4 → options.csumStart.toNat = 40) := by
  rcases described.ipHeader with ⟨version, bound, -⟩ | ⟨-, length⟩
  · exact ⟨bound, fun other => absurd version other⟩
  · exact ⟨by omega, fun _ => length⟩

theorem completeChecksum_eq :
    completeChecksum options packet = some (writeU16 packet
      (options.csumStart.toNat + options.csumOffset.toNat)
      (completedChecksum packet options)) := by
  rw [completeChecksum, if_pos described.needsCsum]
  exact storeChecksum_eq described.field

/-- The field lies behind the addresses. -/
theorem addresses_writeU16 (value : UInt16) :
    let stored := writeU16 packet (options.csumStart.toNat + options.csumOffset.toNat) value
    srcAddrOf stored = srcAddrOf packet ∧ dstAddrOf stored = dstAddrOf packet := by
  intro stored
  have start := described.csumStart_ge
  have field := described.field
  have lengths : stored.length = packet.length := length_writeU16 _ _ _
  have before : ∀ k, k < options.csumStart.toNat → byteAt stored k = byteAt packet k := by
    intro k bound
    exact byteAt_writeU16_of_ne (by omega)
  have kept : ∀ position count, position + count ≤ options.csumStart.toNat →
        window stored position count = window packet position count := by
    intro position count bound
    exact window_congr (by omega) (by omega) fun k _ high => before k (by omega)
  have versionKept : ipVersionOf stored = ipVersionOf packet := by
    rw [ipVersionOf, ipVersionOf, before 0 (by omega)]
  unfold srcAddrOf dstAddrOf
  rw [versionKept]
  by_cases version : ipVersionOf packet = 4
  · rw [if_pos version, if_pos version, if_pos version, if_pos version]
    exact ⟨kept 12 4 (by omega), kept 16 4 (by omega)⟩
  · have header := start.2 version
    rw [if_neg version, if_neg version, if_neg version, if_neg version]
    exact ⟨kept 8 16 (by omega), kept 24 16 (by omega)⟩

theorem csumOffset_even : options.csumOffset.toNat % 2 = 0 := by
  rcases described.csumOffset with offset | offset <;> rw [offset] <;> rfl

theorem checksumCompleted :
    ChecksumCompleted packet options
      (writeU16 packet (options.csumStart.toNat + options.csumOffset.toNat)
        (completedChecksum packet options)) := by
  have field := described.field
  have length := described.length
  refine ⟨⟨_, rfl⟩, ?udp, ?transport⟩
  case udp =>
    intro udp
    have position : options.csumOffset.toNat = 6 := by
      rw [udp]
      rfl
    rw [position] at field ⊢
    rw [readU16_writeU16_self field, completedChecksum]
    simp only [if_pos udp]
    exact normalizeUDPChecksum_ne_zero _
  case transport =>
    obtain ⟨src, dst⟩ := described.addresses_writeU16 (completedChecksum packet options)
    rw [src, dst, TransportChecksumValid,
      ← writeU16_writeU16 packet _ 0 (completedChecksum packet options),
      drop_writeU16_of_le (Nat.le_add_right _ _), Nat.add_sub_cancel_left]
    refine balanced_of_complement_checksum _ (readU16 packet
        (options.csumStart.toNat + options.csumOffset.toNat)) _ _ _
      described.csumOffset_even ?inside ?cleared ?initial ?complement
    case inside =>
      rw [length_drop, length_writeU16]
      omega
    case cleared =>
      rw [drop_writeU16_of_le (Nat.le_add_right _ _), Nat.add_sub_cancel_left,
        readU16_writeU16_self (by rw [length_drop]; omega)]
    case initial =>
      rw [described.pseudoHeader, pseudoHeaderChecksum_toNat,
        toNat_ofNat', Nat.mod_eq_of_lt (by omega), length_writeU16,
        length_drop, length_writeU16]
    case complement =>
      rw [completedChecksum]
      by_cases udp : options.csumOffset = 6
      · exact .inr (by simp only [if_pos udp])
      · exact .inl (by simp only [if_neg udp])

/-- With a buffer for it `gsoSplit` produces the packet with its checksum. -/
theorem gsoSplit_packets {outBufs : List Bytes} {sizes : List Nat} {outOffset : Nat}
    (room : SplitRoom 1 packet.length outBufs sizes outOffset) :
    ∃ result, gsoSplit packet options outBufs sizes outOffset = some result ∧
        result.error = none ∧ result.count = 1 ∧ result.packets outOffset = [writeU16 packet
            (options.csumStart.toNat + options.csumOffset.toNat)
            (completedChecksum packet options)] := by
  have field := described.field
  have header := described.header
  obtain ⟨result, copied, rest⟩ := copySingle_packets
    described.completeChecksum_eq (length_writeU16 _ _ _) room
  refine ⟨result, ?_, rest⟩
  rw [gsoSplit]
  simp only
  rw [if_neg (by omega), if_neg (by omega), if_pos (.inl described.gsoType), copied]

end PartialChecksum

/-! ## The main theorem -/

/--
`gsoSplit` cuts a packet whose options describe it into correct packets with
the same data, and completes the checksum of a packet in one piece.
-/
theorem gsoSplit_correct (packet : Bytes) (options : GSOOptions) (outBufs : List Bytes)
    (sizes : List Nat) (outOffset : Nat) :
    (Segmentable packet options →
      SplitRoom (segmentCount packet options) packet.length outBufs sizes outOffset →
      ∃ result, gsoSplit packet options outBufs sizes outOffset = some result ∧
          result.error = none ∧ result.count = ((packet.length - options.hdrLen.toNat) ⌈/⌉
              options.gsoSize.toNat : Nat) ∧
          ((result.packets outOffset).length : Int) = result.count ∧
          (result.packets outOffset).flatMap (·.drop options.hdrLen.toNat) =
            packet.drop options.hdrLen.toNat ∧
          ∀ i segment, (result.packets outOffset)[i]? = some segment → SegmentCorrect packet options
              (result.packets outOffset).length i segment) ∧ (PartialChecksum packet options →
      SplitRoom 1 packet.length outBufs sizes outOffset → ∃ result out,
        gsoSplit packet options outBufs sizes outOffset = some result ∧
          result.error = none ∧ result.count = 1 ∧ result.packets outOffset = [out] ∧
          ChecksumCompleted packet options out) := by
  constructor
  · intro segmentable room
    obtain ⟨result, split, succeeded, counted, packets⟩ := segmentable.gsoSplit_packets room
    have lengths : (result.packets outOffset).length = segmentCount packet options := by
      rw [packets, length_segmentsOf]
    refine ⟨result, split, succeeded, counted, ?_, ?_, ?_⟩
    · rw [lengths, counted]
    · rw [packets]
      exact segments_payload segmentable.fits segmentable.gsoSize.1 0
        options.hdrLen.toNat (segmentCount packet options) rfl
    · intro i segment found
      rw [lengths]
      rw [packets] at found
      obtain ⟨inside, rfl⟩ := segment_of_getElem? found
      exact segmentable.segmentCorrect inside
  · intro described room
    obtain ⟨result, split, succeeded, counted, packets⟩ := described.gsoSplit_packets room
    exact ⟨result, _, split, succeeded, counted, packets, described.checksumCompleted⟩

/-- A datagram of three octets from port 12345 to port 53, to be cut. -/
def sampleDatagram : Bytes :=
  [0x45, 0, 0, 31, 0, 7, 0, 0, 64, 17, 0, 0, 10, 0, 0, 1, 10, 0, 0, 2,
    0x30, 0x39, 0, 53, 0, 11, 0, 0, 1, 2, 3]

/-- The options that cut `sampleDatagram` after two octets. -/
def sampleOptions : GSOOptions :=
  { gsoType := .udpl4, hdrLen := 28, csumStart := 20, csumOffset := 6,
    gsoSize := 2, needsCsum := true }

/-- The same datagram with its pseudo-header sum in the checksum field. -/
def samplePartial : Bytes :=
  writeU16 sampleDatagram 26 (pseudoHeaderChecksum udpProtocolNumber [10, 0, 0, 1] [10, 0, 0, 2] 11)

theorem gsoSplit_correct_sample :
    (∃ result, gsoSplit sampleDatagram sampleOptions
            [List.replicate 31 0, List.replicate 31 0] [0, 0] 0 = some result ∧ result.count = 2) ∧
      ∃ result, gsoSplit samplePartial { sampleOptions with gsoType := .none }
            [List.replicate 31 0] [0] 0 =
          some result ∧ result.count = 1 := by
  constructor
  · obtain ⟨result, split, -, counted, -⟩ := (gsoSplit_correct sampleDatagram sampleOptions
        [List.replicate 31 0, List.replicate 31 0] [0, 0] 0).1
        ⟨by decide, .inl (by decide), .inr (.inr rfl),
          absurd rfl, fun _ => by decide, by decide⟩
        ⟨by decide, by decide, by decide⟩
    exact ⟨result, split, counted⟩
  · obtain ⟨result, _, split, -, counted, -⟩ := (gsoSplit_correct samplePartial
        { sampleOptions with gsoType := .none } [List.replicate 31 0] [0] 0).2
        ⟨rfl, rfl, by decide, .inl (by decide), .inr rfl, by decide, by decide, by decide⟩
        ⟨by decide, by decide, by decide⟩
    exact ⟨result, split, counted⟩

end SingTun.Offload
