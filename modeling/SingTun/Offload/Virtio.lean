import SingTun.Offload.Split

/-!
# The header of an offloaded packet

`VirtioNetHdr` is the header that the kernel and the program put in front of
a packet.  The program copies the memory of the structure, so its words have
the byte order of the host; every result holds for both orders.
`handleVirtioRead` takes such a header off and cuts the packet behind it.
-/

namespace SingTun.Offload

open Foundation Header

/-! ## The header -/

/-- The byte order of the host. -/
inductive ByteOrder where
  | little
  | big
  deriving DecidableEq, Repr

/-- The kernel symbol is `virtio_net_hdr`. -/
structure VirtioNetHdr where
  flags : UInt8
  gsoType : UInt8
  hdrLen : UInt16
  gsoSize : UInt16
  csumStart : UInt16
  csumOffset : UInt16
  deriving DecidableEq, Repr

/-- `virtioNetHdr{}`. -/
def VirtioNetHdr.zero : VirtioNetHdr :=
  { flags := 0, gsoType := 0, hdrLen := 0, gsoSize := 0, csumStart := 0,
    csumOffset := 0 }

def virtioNetHdrLen : Nat := 10

def virtioNetHdrFNeedsCsum : UInt8 := 1
def virtioNetHdrGSONone : UInt8 := 0
def virtioNetHdrGSOTCPv4 : UInt8 := 1
def virtioNetHdrGSOTCPv6 : UInt8 := 4
def virtioNetHdrGSOUDPL4 : UInt8 := 5

variable (order : ByteOrder)

/-- The memory of a 16-bit word. -/
def hostBytes (value : UInt16) : Bytes :=
  match order with
  | .little => [UInt8.ofNat value.toNat, UInt8.ofNat (value.toNat / 256)]
  | .big => [UInt8.ofNat (value.toNat / 256), UInt8.ofNat value.toNat]

/-- The 16-bit word in two octets of memory. -/
def hostWord (first second : UInt8) : UInt16 :=
  match order with
  | .little => UInt16.ofNat (second.toNat * 256 + first.toNat)
  | .big => UInt16.ofNat (first.toNat * 256 + second.toNat)

section

variable (hdr : VirtioNetHdr)

/-- The memory of a header. -/
def VirtioNetHdr.bytes : Bytes :=
  [hdr.flags, hdr.gsoType] ++ hostBytes order hdr.hdrLen ++
    hostBytes order hdr.gsoSize ++ hostBytes order hdr.csumStart ++ hostBytes order hdr.csumOffset

/-- `encode`: `none` is `io.ErrShortBuffer`. -/
def VirtioNetHdr.encode (b : Bytes) : Option Bytes :=
  if b.length < virtioNetHdrLen then none
  else some (overwrite b 0 (hdr.bytes order))

/-- `decode`: `none` is `io.ErrShortBuffer`. -/
def VirtioNetHdr.decode (b : Bytes) : Option VirtioNetHdr :=
  if b.length < virtioNetHdrLen then none
  else some
    { flags := byteAt b 0
      gsoType := byteAt b 1
      hdrLen := hostWord order (byteAt b 2) (byteAt b 3)
      gsoSize := hostWord order (byteAt b 4) (byteAt b 5)
      csumStart := hostWord order (byteAt b 6) (byteAt b 7)
      csumOffset := hostWord order (byteAt b 8) (byteAt b 9) }

@[simp]
theorem VirtioNetHdr.length_bytes : (hdr.bytes order).length = virtioNetHdrLen := by
  cases order <;> rfl

/-- A word written to memory is read back. -/
theorem hostWord_hostBytes (value : UInt16) :
    hostWord order (byteAt (hostBytes order value) 0)
        (byteAt (hostBytes order value) 1) =
      value := by
  have bound := value.toNat_lt
  apply UInt16.toNat_inj.mp
  cases order <;> simp only [hostWord, hostBytes, byteAt, List.getD_cons_zero,
      List.getD_cons_succ, UInt8.toNat_ofNat', UInt16.toNat_ofNat'] <;>
    omega

/-- A header is read back from the front of any memory it was written to. -/
theorem VirtioNetHdr.decode_bytes_append (rest : Bytes) :
    VirtioNetHdr.decode order (hdr.bytes order ++ rest) = some hdr := by
  have long : ¬(hdr.bytes order ++ rest).length < virtioNetHdrLen := by
    rw [List.length_append, VirtioNetHdr.length_bytes]
    omega
  have hdrLen := hostWord_hostBytes order hdr.hdrLen
  have gsoSize := hostWord_hostBytes order hdr.gsoSize
  have csumStart := hostWord_hostBytes order hdr.csumStart
  have csumOffset := hostWord_hostBytes order hdr.csumOffset
  cases order <;> exact congrArg some (by
        cases hdr
        simp only [VirtioNetHdr.mk.injEq]
        exact ⟨rfl, rfl, hdrLen, gsoSize, csumStart, csumOffset⟩)

theorem VirtioNetHdr.encode_eq (b : Bytes) (long : virtioNetHdrLen ≤ b.length) :
    hdr.encode order b = some (hdr.bytes order ++ b.drop virtioNetHdrLen) := by
  rw [VirtioNetHdr.encode, if_neg (by omega),
    overwrite_eq (by rw [VirtioNetHdr.length_bytes]; omega), VirtioNetHdr.length_bytes]
  simp

end

/-! ## Options -/

/-- The errors of `handleVirtioRead` before the packet is cut. -/
inductive VirtioReadError where
  | shortBuffer
  | unsupportedGSOType (gsoType : UInt8)
  | packetTooShort
  | tcpHeaderLen (tcpHLen : UInt16)
  deriving DecidableEq, Repr

/-- The text of an error. -/
def VirtioReadError.text : VirtioReadError → String
  | .shortBuffer => "short buffer"
  | .unsupportedGSOType gsoType =>
    "unsupported virtio gsoType: " ++ toString gsoType.toNat
  | .packetTooShort => "packet is too short"
  | .tcpHeaderLen tcpHLen =>
    "tcp header len is invalid: " ++ toString tcpHLen.toNat

/-- The segmentation type of a virtio number. -/
def gsoTypeOf (gsoType : UInt8) : Except VirtioReadError GSOType :=
  if gsoType = virtioNetHdrGSONone then .ok .none
  else if gsoType = virtioNetHdrGSOTCPv4 then .ok .tcpv4
  else if gsoType = virtioNetHdrGSOTCPv6 then .ok .tcpv6
  else if gsoType = virtioNetHdrGSOUDPL4 then .ok .udpl4
  else .error (.unsupportedGSOType gsoType)

/-- `toGSOOptions`. -/
def VirtioNetHdr.toGSOOptions (v : VirtioNetHdr) : Except VirtioReadError GSOOptions := do
  let gsoType ← gsoTypeOf v.gsoType
  .ok
    { gsoType
      hdrLen := v.hdrLen
      csumStart := v.csumStart
      csumOffset := v.csumOffset
      gsoSize := v.gsoSize
      needsCsum := v.flags &&& virtioNetHdrFNeedsCsum ≠ 0 }

/--
Don't trust `HdrLen` from the kernel.  Instead, parse the transport header
length and add it onto `CsumStart`, the IP header length.
-/
def parsedHdrLen (options : GSOOptions) (input : Bytes) : Option (Except VirtioReadError UInt16) :=
  if options.gsoType = .udpl4 then some (.ok (options.csumStart + 8))
  else if options.gsoType ≠ .none then
    if input.length ≤ (options.csumStart + 12).toNat then
      some (.error .packetTooShort)
    else do
      let dataOffset ← byteAt? input (options.csumStart + 12).toNat
      let tcpHLen := ((dataOffset >>> 4) * 4).toUInt16
      if tcpHLen < 20 ∨ 60 < tcpHLen then
        -- A TCP header must be between 20 and 60 bytes in length.
        some (.error (.tcpHeaderLen tcpHLen))
      else some (.ok (options.csumStart + tcpHLen))
  else some (.ok options.hdrLen)

/--
`handleVirtioRead`.  An error of its own comes with the count zero and leaves
all memory alone; otherwise the result is that of `gsoSplit`.
-/
def handleVirtioRead (input : Bytes) (bufs : List Bytes) (sizes : List Nat) (offset : Nat) :
    Option (Except VirtioReadError SplitResult) :=
  match VirtioNetHdr.decode order input with
  | none => some (.error .shortBuffer)
  | some hdr => do
      let input ← sliceFrom? input virtioNetHdrLen
      match hdr.toGSOOptions with
      | .error error => some (.error error)
      | .ok options =>
        match ← parsedHdrLen options input with
        | .error error => some (.error error)
        | .ok hdrLen => do
            let result ← gsoSplit input { options with hdrLen } bufs sizes offset
            some (.ok result)

end SingTun.Offload
