import SingTun.Header.Checksum

/-!
# Segmentation of offloaded packets

`gsoSplit` is `GSOSplit`: it cuts a packet that a device handed over in one
piece into the packets of the wire.

The functions are written in `Option`; `none` is a run-time panic of the
program, an index or a slice bound out of range.  Output buffers have
their length as capacity, as the callers allocate them.  `in` does not
overlap an output buffer here.
-/

namespace SingTun.Offload

open Foundation Header

/-! ## Options -/

/-- The type of segmentation offload. -/
inductive GSOType where
  | none
  | tcpv4
  | tcpv6
  | udpl4
  deriving DecidableEq, Repr

/-- `GSOType.String`. -/
def GSOType.string : GSOType → String
  | .none => "GSONone"
  | .tcpv4 => "GSOTCPv4"
  | .tcpv6 => "GSOTCPv6"
  | .udpl4 => "GSOUDPL4"

/-- GSO metadata, loosely modeled after `struct virtio_net_hdr`. -/
structure GSOOptions where
  gsoType : GSOType
  hdrLen : UInt16
  csumStart : UInt16
  csumOffset : UInt16
  gsoSize : UInt16
  needsCsum : Bool
  deriving DecidableEq, Repr

def ipv4SrcAddrOffset : Nat := 12
def ipv6SrcAddrOffset : Nat := 8
def tcpFlagsOffset : Nat := 13
def tcpFlagFIN : UInt8 := 0x01
def tcpFlagPSH : UInt8 := 0x08
def tcpFlagACK : UInt8 := 0x10
def ipProtoTCP : UInt8 := 6
def ipProtoUDP : UInt8 := 17

/-- The errors of `GSOSplit`, each with the values its text reports. -/
inductive GSOError where
  | checksumEnd (cSumEnd length : Nat)
  | shorterThanHdrLen (length hdrLen : Nat)
  | exceedsOutput (length output : Nat)
  | hdrLenBeforeCsumStart (hdrLen csumStart : Nat)
  | versionMismatch (ipVersion : Nat) (gsoType : GSOType)
  | shorterThanIPv4Header (length : Nat)
  | shorterThanIPv6Header (length : Nat)
  | invalidVersion (ipVersion : Nat)
  | shorterThanTCPHeader (length csumStart : Nat)
  | tooManySegments
  deriving DecidableEq, Repr

/-- The text of an error. -/
def GSOError.text : GSOError → String
  | .checksumEnd cSumEnd length =>
    "end of checksum offset (" ++ toString cSumEnd ++
      ") exceeds packet length (" ++ toString length ++ ")"
  | .shorterThanHdrLen length hdrLen =>
    "length of packet (" ++ toString length ++ ") < GSO HdrLen (" ++ toString hdrLen ++ ")"
  | .exceedsOutput length output =>
    "length of packet (" ++ toString length ++
      ") exceeds output element length (" ++ toString output ++ ")"
  | .hdrLenBeforeCsumStart hdrLen csumStart =>
    "GSO HdrLen (" ++ toString hdrLen ++ ") < GSO CsumStart (" ++ toString csumStart ++ ")"
  | .versionMismatch ipVersion gsoType =>
    "ip header version: " ++ toString ipVersion ++ ", GSO type: " ++ gsoType.string
  | .shorterThanIPv4Header length =>
    "length of packet (" ++ toString length ++ ") < minimum ipv4 header size (20)"
  | .shorterThanIPv6Header length =>
    "length of packet (" ++ toString length ++ ") < minimum ipv6 header size (40)"
  | .invalidVersion ipVersion =>
    "invalid ip header version: " ++ toString ipVersion
  | .shorterThanTCPHeader length csumStart =>
    "length of packet (" ++ toString length ++ ") < GSO CsumStart (" ++
      toString csumStart ++ ") + minimum TCP header size (20)"
  | .tooManySegments => "too many segments"

/--
What a call of `gsoSplit` leaves behind: the returned count and error, and
the memory it may have written.
-/
structure SplitResult where
  count : Int
  error : Option GSOError
  input : Bytes
  outBufs : List Bytes
  sizes : List Nat
  deriving DecidableEq, Repr

/-! ## One segment -/

/-- What the loop of `GSOSplit` reads and never changes. -/
structure SegmentContext where
  options : GSOOptions
  ipVersion : UInt8
  protocol : UInt8
  firstTCPSeqNum : UInt32
  srcTCPFlags : UInt8
  pseudoSumBase : UInt16

/-- Increment the ID field of every segment but the first. -/
def segmentID (i : Nat) (out : Bytes) : Option Bytes :=
  if 0 < i then do
    let id ← readU16? out 4
    writeU16? out 4 (id + UInt16.ofNat i)
  else some out

/-- The IP header of segment `i`, already copied to the front of `out`. -/
def segmentIPHeader (ctx : SegmentContext) (i totalLen : Nat) (out : Bytes) : Option Bytes := do
  let iphLen := ctx.options.csumStart.toNat
  if ctx.ipVersion = 4 then
    -- For IPv4 we are responsible for incrementing the ID field, updating
    -- the total len field, and recalculating the header checksum.
    let out ← segmentID i out
    let out ← setByte? out 10 0
    let out ← setByte? out 11 0
    let out ← writeU16? out 2 (UInt16.ofNat totalLen)
    let ipHeader ← slice? out 0 iphLen
    writeU16? out 10 (~~~(checksum ipHeader 0))
  else
    -- For IPv6 we are responsible for updating the payload length field.
    writeU16? out 4 (UInt16.ofNat (totalLen - iphLen))

/-- The sequence number and flags, or the UDP length, of segment `i`. -/
def segmentTransportHeader (ctx : SegmentContext) (i segmentDataLen : Nat) (last : Bool)
    (out : Bytes) : Option Bytes := do
  let options := ctx.options
  if ctx.protocol = ipProtoTCP then
    let tcpSeq := ctx.firstTCPSeqNum + (options.gsoSize * UInt16.ofNat i).toUInt32
    let out ← writeU32? out (options.csumStart + 4).toNat tcpSeq
    -- FIN and PSH should only be set on last segment.
    let tcpFlags :=
      if last then ctx.srcTCPFlags
      else ctx.srcTCPFlags &&& ~~~(tcpFlagFIN ||| tcpFlagPSH)
    setByte? out (options.csumStart + UInt16.ofNat tcpFlagsOffset).toNat tcpFlags
  else
    writeU16? out (options.csumStart + 4).toNat
      (UInt16.ofNat segmentDataLen + (options.hdrLen - options.csumStart))

/-- The transport checksum of a segment whose other octets are in place. -/
def segmentChecksum (ctx : SegmentContext) (segmentDataLen totalLen : Nat) (out : Bytes) :
    Option Bytes := do
  let options := ctx.options
  let transportCsumAt := (options.csumStart + options.csumOffset).toNat
  let out ← setByte? out transportCsumAt 0
  let out ← setByte? out (transportCsumAt + 1) 0
  let transportHeaderLen := (options.hdrLen - options.csumStart).toNat
  let lenForPseudo := UInt16.ofNat (transportHeaderLen + segmentDataLen)
  let transportCSum := combine ctx.pseudoSumBase lenForPseudo
  let segment ← slice? out options.csumStart.toNat totalLen
  let transportCSum := ~~~(checksum segment transportCSum)
  let transportCSum :=
    if ctx.protocol = ipProtoUDP then normalizeUDPChecksum transportCSum
    else transportCSum
  writeU16? out (options.csumStart + options.csumOffset).toNat transportCSum

/-- The body of the loop, with `out` the buffer from `outOffset` on. -/
def writeSegment (ctx : SegmentContext) (input : Bytes)
    (i nextSegmentDataAt nextSegmentEnd : Nat) (out : Bytes) : Option Bytes := do
  let hdrLen := ctx.options.hdrLen.toNat
  let segmentDataLen := nextSegmentEnd - nextSegmentDataAt
  let totalLen := hdrLen + segmentDataLen
  let _ ← slice? out 0 hdrLen
  let header ← slice? input 0 hdrLen
  let out := overwrite out 0 header
  let out ← segmentIPHeader ctx i totalLen out
  let out ← segmentTransportHeader ctx i segmentDataLen (nextSegmentEnd = input.length) out
  let payload ← slice? input nextSegmentDataAt nextSegmentEnd
  let out := overwrite out hdrLen payload
  segmentChecksum ctx segmentDataLen totalLen out

/-- `sizes[i] = size`. -/
def setSize? (sizes : List Nat) (i size : Nat) : Option (List Nat) :=
  if i < sizes.length then some (sizes.set i size) else none

/--
The loop of `GSOSplit`.  It is at segment `i`, whose data starts at
`nextSegmentDataAt`; `outBufs` are the buffers from `i` on.
-/
def splitLoop (ctx : SegmentContext) (input : Bytes) (outOffset : Nat) :
    (i nextSegmentDataAt : Nat) → (outBufs : List Bytes) → (sizes : List Nat) →
      Option (Int × Option GSOError × List Bytes × List Nat)
  | i, nextSegmentDataAt, outBufs, sizes =>
    if input.length ≤ nextSegmentDataAt then
      some (i, none, outBufs, sizes)
    else
      match outBufs with
      | [] => some ((i : Int) - 1, some .tooManySegments, [], sizes)
      | outBuf :: rest => do
          let gsoSize := ctx.options.gsoSize.toNat
          let nextSegmentEnd :=
            if input.length < nextSegmentDataAt + gsoSize then input.length
            else nextSegmentDataAt + gsoSize
          let segmentDataLen := nextSegmentEnd - nextSegmentDataAt
          let totalLen := ctx.options.hdrLen.toNat + segmentDataLen
          let sizes ← setSize? sizes i totalLen
          let out ← sliceFrom? outBuf outOffset
          let out ← writeSegment ctx input i nextSegmentDataAt nextSegmentEnd out
          let (count, error, rest, sizes) ←
            splitLoop ctx input outOffset (i + 1) (nextSegmentDataAt + gsoSize) rest sizes
          some (count, error, (outBuf.take outOffset ++ out) :: rest, sizes)

/-! ## `GSOSplit` -/

/-- Return an error; nothing was written. -/
def SplitResult.fail (error : GSOError) (input : Bytes) (outBufs : List Bytes)
    (sizes : List Nat) : Option SplitResult :=
  some ⟨0, some error, input, outBufs, sizes⟩

variable (options : GSOOptions) (input : Bytes)

/-- Replace the partial checksum of a packet by the complete one. -/
def storeChecksum : Option Bytes := do
  let cSumAt := options.csumStart.toNat + options.csumOffset.toNat
  -- The initial value at the checksum offset should be summed with the
  -- checksum we compute.  This is typically the pseudo-header sum.
  let initial ← readU16? input cSumAt
  let input ← setByte? input cSumAt 0
  let input ← setByte? input (cSumAt + 1) 0
  let covered ← sliceFrom? input options.csumStart.toNat
  let csum := ~~~(checksum covered initial)
  -- UDP's checksum field is 6 bytes into its transport header.
  let csum := if options.csumOffset = 6 then normalizeUDPChecksum csum else csum
  writeU16? input cSumAt csum

/-- The checksum of a packet handed over in one piece, where it needs one. -/
def completeChecksum : Option Bytes :=
  if options.needsCsum then storeChecksum options input else some input

variable (outBufs : List Bytes) (sizes : List Nat) (outOffset : Nat)

/-- Copy a packet in one piece to the first output buffer. -/
def copySingle : Option SplitResult := do
  let outBuf ← outBufs[0]?
  let out ← sliceFrom? outBuf outOffset
  if out.length < input.length then
    SplitResult.fail (.exceedsOutput input.length out.length) input outBufs sizes
  else
    let input ← completeChecksum options input
    let sizes ← setSize? sizes 0 input.length
    some ⟨1, none, input, outBufs.set 0 (outBuf.take outOffset ++ overwrite out 0 input), sizes⟩

/-- The checks on the IP version; `none` when they pass. -/
def versionError (ipVersion : UInt8) : Option GSOError :=
  if ipVersion = 4 then
    if options.gsoType ≠ .tcpv4 ∧ options.gsoType ≠ .udpl4 then
      some (.versionMismatch ipVersion.toNat options.gsoType)
    else if input.length < 20 then
      some (.shorterThanIPv4Header input.length)
    else none
  else if ipVersion = 6 then
    if options.gsoType ≠ .tcpv6 ∧ options.gsoType ≠ .udpl4 then
      some (.versionMismatch ipVersion.toNat options.gsoType)
    else if input.length < 40 then
      some (.shorterThanIPv6Header input.length)
    else none
  else some (.invalidVersion ipVersion.toNat)

/-- The pseudo-header sum without the length. -/
def pseudoSumBase (ipVersion protocol : UInt8) (input : Bytes) : Option UInt16 := do
  let srcAddrOffset :=
    if ipVersion = 4 then ipv4SrcAddrOffset else ipv6SrcAddrOffset
  let addrLen := if ipVersion = 4 then 4 else 16
  let srcAddr ← slice? input srcAddrOffset (srcAddrOffset + addrLen)
  let dstAddr ← slice? input (srcAddrOffset + addrLen) (srcAddrOffset + addrLen * 2)
  some (pseudoHeaderChecksum protocol srcAddr dstAddr 0)

/-- The first sequence number and the flags of a TCP packet. -/
def tcpFields : Option (UInt32 × UInt8) := do
  let firstTCPSeqNum ← readU32? input (options.csumStart + 4).toNat
  let srcTCPFlags ← byteAt? input (options.csumStart + UInt16.ofNat tcpFlagsOffset).toNat
  some (firstTCPSeqNum, srcTCPFlags)

/-- The cut into segments, after all checks but the one on the TCP header. -/
def splitSegments (ipVersion : UInt8) : Option SplitResult := do
  let tcp := options.gsoType = .tcpv4 ∨ options.gsoType = .tcpv6
  if tcp ∧ input.length < options.csumStart.toNat + 20 then
    SplitResult.fail (.shorterThanTCPHeader input.length options.csumStart.toNat)
      input outBufs sizes
  else
    let protocol := if tcp then ipProtoTCP else ipProtoUDP
    -- The fields are read before the loop because `in` may overlap the first
    -- output buffer in the program.
    let (firstTCPSeqNum, srcTCPFlags) ← (if tcp then tcpFields options input else some (0, 0))
    let pseudoSumBase ← pseudoSumBase ipVersion protocol input
    let ctx : SegmentContext :=
      { options, ipVersion, protocol, firstTCPSeqNum, srcTCPFlags,
        pseudoSumBase }
    let (count, error, outBufs, sizes) ←
      splitLoop ctx input outOffset 0 options.hdrLen.toNat outBufs sizes
    some ⟨count, error, input, outBufs, sizes⟩

/-- `GSOSplit`. -/
def gsoSplit (input : Bytes) (options : GSOOptions) (outBufs : List Bytes)
    (sizes : List Nat) (outOffset : Nat) : Option SplitResult := do
  let cSumAt := options.csumStart.toNat + options.csumOffset.toNat
  if input.length ≤ cSumAt + 1 then
    SplitResult.fail (.checksumEnd (cSumAt + 1) input.length) input outBufs sizes
  else if input.length < options.hdrLen.toNat then
    SplitResult.fail (.shorterThanHdrLen input.length options.hdrLen.toNat) input outBufs sizes
  else
    -- Handle the conditions where we are copying a single element.
    let payloadLen := input.length - options.hdrLen.toNat
    if options.gsoType = .none ∨ payloadLen < options.gsoSize.toNat then
      copySingle options input outBufs sizes outOffset
    else if options.hdrLen < options.csumStart then
      SplitResult.fail (.hdrLenBeforeCsumStart options.hdrLen.toNat options.csumStart.toNat)
        input outBufs sizes
    else
      let first ← byteAt? input 0
      let ipVersion := first >>> 4
      match versionError options input ipVersion with
      | some error => SplitResult.fail error input outBufs sizes
      | none => splitSegments options input outBufs sizes outOffset ipVersion

end SingTun.Offload
