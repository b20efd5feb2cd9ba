import SingTun.Foundation.Multimap
import SingTun.Offload.Virtio

/-!
# Coalescing of a batch of packets

`handleGRO` merges packets of one flow before they are written to the
device.  As in `Offload.Gso`, `none` is a run-time panic.

A buffer is a slice: its octets and the capacity behind them.  The program
extends a slice into its capacity and copies a block of exactly that length
over it, so a buffer is extended by the block.  The buffers of a batch do not
overlap.

There are two history variables, which no function reads: the `members` of an
item are the indices of the packets merged into it, in the order of their
data, and `deleted` are the items that `deleteAt` took out of a table.
-/

namespace SingTun.Offload

open Foundation Header

/-! ## Buffers -/

/-- A slice: its octets, and how many more its capacity holds. -/
structure Buf where
  bytes : Bytes
  spare : Nat
  deriving DecidableEq, Repr

/-- `cap(buf)`. -/
def Buf.cap (buf : Buf) : Nat :=
  buf.bytes.length + buf.spare

/-- Reslice to a greater length and copy `block` to the end. -/
def Buf.extend? (buf : Buf) (block : Bytes) : Option Buf :=
  if block.length ≤ buf.spare then
    some { bytes := buf.bytes ++ block, spare := buf.spare - block.length }
  else none

/-- Replace the octets from `position` on. -/
def Buf.writeFrom (buf : Buf) (position : Nat) (block : Bytes) : Buf :=
  { buf with bytes := buf.bytes.take position ++ block }

/-- `bufs[index][offset:]`. -/
def packetAt? (bufs : List Buf) (index offset : Nat) : Option Bytes := do
  let buf ← bufs[index]?
  sliceFrom? buf.bytes offset

/-! ## Items and tables -/

/-- The key of a TCP flow. -/
structure TCPFlowKey where
  srcAddr : Bytes
  dstAddr : Bytes
  srcPort : UInt16
  dstPort : UInt16
  /-- Varying ack values should not be coalesced. -/
  rxAck : UInt32
  isV6 : Bool
  deriving DecidableEq, Repr

/-- The key of a UDP flow. -/
structure UDPFlowKey where
  srcAddr : Bytes
  dstAddr : Bytes
  srcPort : UInt16
  dstPort : UInt16
  isV6 : Bool
  deriving DecidableEq, Repr

/-- Bookkeeping data for a TCP packet. -/
structure TCPGROItem where
  key : TCPFlowKey
  /-- The sequence number. -/
  sentSeq : UInt32
  /-- The index into the original bufs slice. -/
  bufsIndex : UInt16
  /-- The number of packets merged into this item. -/
  numMerged : UInt16
  /-- Payload size. -/
  gsoSize : UInt16
  iphLen : UInt8
  tcphLen : UInt8
  pshSet : Bool
  /-- History variable. -/
  members : List Nat
  deriving DecidableEq, Repr

/-- Bookkeeping data for a UDP packet. -/
structure UDPGROItem where
  key : UDPFlowKey
  bufsIndex : UInt16
  numMerged : UInt16
  gsoSize : UInt16
  iphLen : UInt8
  /-- A false value does not imply valid, just unknown. -/
  cSumKnownInvalid : Bool
  /-- History variable. -/
  members : List Nat
  deriving DecidableEq, Repr

/--
`tcpGROTable` and `udpGROTable`.  Of the pool of empty slices only its size
matters.
-/
structure GROTable (κ ι : Type) where
  itemsByFlow : Multimap κ ι
  itemsPool : Nat
  /-- History variable. -/
  deleted : List ι

abbrev TCPGROTable := GROTable TCPFlowKey TCPGROItem
abbrev UDPGROTable := GROTable UDPFlowKey UDPGROItem

def idealBatchSize : Nat := 128

namespace GROTable

variable {κ ι : Type}

/-- `newTCPGROTable` and `newUDPGROTable`. -/
def new : GROTable κ ι :=
  { itemsByFlow := ∅, itemsPool := idealBatchSize, deleted := [] }

/-- All items of a table. -/
def items (table : GROTable κ ι) : List ι :=
  table.itemsByFlow.items

variable [DecidableEq κ]

variable (table : GROTable κ ι) (key : κ)

/-- The second half of `insert`: append the item to its flow. -/
def insert (item : ι) : Option (GROTable κ ι) :=
  match table.itemsByFlow.lookup key with
  | some items =>
    some { table with
      itemsByFlow := table.itemsByFlow.insert key (items ++ [item]) }
  | none =>
    -- `newItems` takes the last slice of the pool.
    if table.itemsPool = 0 then none
    else some { table with
      itemsByFlow := table.itemsByFlow.insert key [item]
      itemsPool := table.itemsPool - 1 }

/-- `updateAt`. -/
def updateAt (item : ι) (i : Nat) : Option (GROTable κ ι) := do
  let items := (table.itemsByFlow.lookup key).getD []
  if i < items.length then
    some { table with
      itemsByFlow := table.itemsByFlow.insert key (items.set i item) }
  else none

/-- `deleteAt`. -/
def deleteAt (i : Nat) : Option (GROTable κ ι) := do
  let items := (table.itemsByFlow.lookup key).getD []
  let item ← items[i]?
  some { table with
    itemsByFlow := table.itemsByFlow.insert key (items.eraseIdx i)
    deleted := table.deleted ++ [item] }

end GROTable

/-- `copy(key.srcAddr[:], addr)` into a zero array of 16 octets. -/
def addrArray (addr : Bytes) : Bytes :=
  overwrite (List.replicate 16 0) 0 addr

/-- `newTCPFlowKey`. -/
def newTCPFlowKey (pkt : Bytes) (srcAddrOffset dstAddrOffset tcphOffset : Nat) :
    Option TCPFlowKey := do
  let addrSize := dstAddrOffset - srcAddrOffset
  let srcAddr ← slice? pkt srcAddrOffset dstAddrOffset
  let dstAddr ← slice? pkt dstAddrOffset (dstAddrOffset + addrSize)
  let srcPort ← readU16? pkt tcphOffset
  let dstPort ← readU16? pkt (tcphOffset + 2)
  let rxAck ← readU32? pkt (tcphOffset + 8)
  some
    { srcAddr := addrArray srcAddr, dstAddr := addrArray dstAddr, srcPort,
      dstPort, rxAck, isV6 := addrSize = 16 }

/-- `newUDPFlowKey`. -/
def newUDPFlowKey (pkt : Bytes) (srcAddrOffset dstAddrOffset udphOffset : Nat) :
    Option UDPFlowKey := do
  let addrSize := dstAddrOffset - srcAddrOffset
  let srcAddr ← slice? pkt srcAddrOffset dstAddrOffset
  let dstAddr ← slice? pkt dstAddrOffset (dstAddrOffset + addrSize)
  let srcPort ← readU16? pkt udphOffset
  let dstPort ← readU16? pkt (udphOffset + 2)
  some
    { srcAddr := addrArray srcAddr, dstAddr := addrArray dstAddr, srcPort,
      dstPort, isV6 := addrSize = 16 }

def udphLen : Nat := 8

/-- The first half of the insertion into a TCP table: the new item. -/
def newTCPItem (key : TCPFlowKey) (pkt : Bytes) (tcphOffset tcphLen bufsIndex : Nat) :
    Option TCPGROItem := do
  let payload ← sliceFrom? pkt (tcphOffset + tcphLen)
  let sentSeq ← readU32? pkt (tcphOffset + 4)
  let flags ← byteAt? pkt (tcphOffset + tcpFlagsOffset)
  some
    { key
      sentSeq
      bufsIndex := UInt16.ofNat bufsIndex
      numMerged := 0
      gsoSize := UInt16.ofNat payload.length
      iphLen := UInt8.ofNat tcphOffset
      tcphLen := UInt8.ofNat tcphLen
      pshSet := flags &&& tcpFlagPSH ≠ 0
      members := [bufsIndex] }

/-- The first half of the insertion into a UDP table: the new item. -/
def newUDPItem (key : UDPFlowKey) (pkt : Bytes) (udphOffset bufsIndex : Nat)
    (cSumKnownInvalid : Bool) : Option UDPGROItem := do
  let payload ← sliceFrom? pkt (udphOffset + udphLen)
  some
    { key
      bufsIndex := UInt16.ofNat bufsIndex
      numMerged := 0
      gsoSize := UInt16.ofNat payload.length
      iphLen := UInt8.ofNat udphOffset
      cSumKnownInvalid
      members := [bufsIndex] }

/-! ## Which packets coalesce -/

/-- The outcome of checking if two packets are candidates for coalescing. -/
inductive CanCoalesce where
  | prepended
  | unavailable
  | appended
  deriving DecidableEq, Repr

/-- `ipHeadersCanCoalesce`; every index it reads is below nine. -/
def ipHeadersCanCoalesce (pktA pktB : Bytes) : Bool :=
  if pktA.length < 9 ∨ pktB.length < 9 then false
  else if byteAt pktA 0 >>> 4 = 6 then
    if byteAt pktA 0 ≠ byteAt pktB 0 ∨ byteAt pktA 1 >>> 4 ≠ byteAt pktB 1 >>> 4 then
      -- cannot coalesce with unequal Traffic class values
      false
    else if byteAt pktA 7 ≠ byteAt pktB 7 then
      -- cannot coalesce with unequal Hop limit values
      false
    else true
  else
    if byteAt pktA 1 ≠ byteAt pktB 1 then
      -- cannot coalesce with unequal ToS values
      false
    else if byteAt pktA 6 >>> 5 ≠ byteAt pktB 6 >>> 5 then
      -- cannot coalesce with unequal DF or reserved bits
      false
    else if byteAt pktA 8 ≠ byteAt pktB 8 then
      -- cannot coalesce with unequal TTL values
      false
    else true

/-- `length % int(size)`, which panics for a zero size. -/
def mod? (length : Nat) (size : UInt16) : Option Nat :=
  if size = 0 then none else some (length % size.toNat)

/-- `udpPacketsCanCoalesce`. -/
def udpPacketsCanCoalesce (pkt : Bytes) (iphLen : UInt8) (gsoSize : UInt16) (item : UDPGROItem)
    (bufs : List Buf) (bufsOffset : Nat) : Option CanCoalesce := do
  let pktTarget ← packetAt? bufs item.bufsIndex.toNat bufsOffset
  if ¬ipHeadersCanCoalesce pkt pktTarget then some .unavailable
  else
    let payload ← sliceFrom? pktTarget (iphLen + UInt8.ofNat udphLen).toNat
    let tail ← mod? payload.length item.gsoSize
    if tail ≠ 0 then
      -- A smaller than gsoSize packet has been appended previously.
      some .unavailable
    else if item.gsoSize < gsoSize then
      -- We cannot have a larger packet following a smaller one.
      some .unavailable
    else some .appended

/-- The TCP options of both packets are equal. -/
def tcpOptionsEqual (pkt : Bytes) (iphLen tcphLen : UInt8) (item : TCPGROItem)
    (pktTarget : Bytes) : Option Bool :=
  if 20 < tcphLen then do
    let options ← slice? pkt (iphLen + 20).toNat (iphLen + tcphLen).toNat
    let target ← slice? pktTarget (item.iphLen + 20).toNat (iphLen + tcphLen).toNat
    some (options = target)
  else some true

/-- `pkt` aligns following `item`: may it be appended? -/
def tcpCanAppend (iphLen tcphLen : UInt8) (gsoSize : UInt16) (item : TCPGROItem)
    (pktTarget : Bytes) : Option CanCoalesce :=
  if item.pshSet then
    -- We cannot append to a segment that has the PSH flag set.
    some .unavailable
  else do
    let payload ← sliceFrom? pktTarget (iphLen + tcphLen).toNat
    let tail ← mod? payload.length item.gsoSize
    if tail ≠ 0 then
      -- A smaller than gsoSize packet has been appended previously.
      some .unavailable
    else if item.gsoSize < gsoSize then
      -- We cannot have a larger packet following a smaller one.
      some .unavailable
    else some .appended

/-- `pkt` aligns in front of `item`: may it be prepended? -/
def tcpCanPrepend (pshSet : Bool) (gsoSize : UInt16) (item : TCPGROItem) : CanCoalesce :=
  if pshSet then
    -- We cannot prepend with a segment that has the PSH flag set.
    .unavailable
  else if gsoSize < item.gsoSize then
    -- We cannot have a larger packet following a smaller one.
    .unavailable
  else if item.gsoSize < gsoSize ∧ 0 < item.numMerged then
    -- This would put multiple smaller packets on the end.
    .unavailable
  else .prepended

/-- `tcpPacketsCanCoalesce`. -/
def tcpPacketsCanCoalesce (pkt : Bytes) (iphLen tcphLen : UInt8) (seq : UInt32) (pshSet : Bool)
    (gsoSize : UInt16) (item : TCPGROItem) (bufs : List Buf)
    (bufsOffset : Nat) : Option CanCoalesce := do
  let pktTarget ← packetAt? bufs item.bufsIndex.toNat bufsOffset
  if tcphLen ≠ item.tcphLen then
    -- cannot coalesce with unequal tcp options len
    some .unavailable
  else
    let optionsEqual ← tcpOptionsEqual pkt iphLen tcphLen item pktTarget
    if ¬optionsEqual then some .unavailable
    else if ¬ipHeadersCanCoalesce pkt pktTarget then some .unavailable
    else
      -- seq adjacency
      let lhsLen := item.gsoSize + item.numMerged * item.gsoSize
      if seq = item.sentSeq + lhsLen.toUInt32 then
        tcpCanAppend iphLen tcphLen gsoSize item pktTarget
      else if seq + gsoSize.toUInt32 = item.sentSeq then
        some (tcpCanPrepend pshSet gsoSize item)
      else some .unavailable

/-- `checksumValid`. -/
def checksumValid (pkt : Bytes) (iphLen proto : UInt8) (isV6 : Bool) : Option Bool := do
  let srcAddrAt := if isV6 then ipv6SrcAddrOffset else ipv4SrcAddrOffset
  let addrSize := if isV6 then 16 else 4
  let lenForPseudo := UInt16.ofNat (pkt.length - iphLen.toNat)
  let srcAddr ← slice? pkt srcAddrAt (srcAddrAt + addrSize)
  let dstAddr ← slice? pkt (srcAddrAt + addrSize) (srcAddrAt + addrSize * 2)
  let cSum := pseudoHeaderChecksum proto srcAddr dstAddr lenForPseudo
  let segment ← sliceFrom? pkt iphLen.toNat
  some (~~~(checksum segment cSum) = 0)

/-! ## Coalescing two packets -/

/-- The result of attempting to coalesce two packets. -/
inductive CoalesceResult where
  | insufficientCap
  | pshEnding
  | itemInvalidCSum
  | pktInvalidCSum
  | success
  deriving DecidableEq, Repr

/--
The validation of both packets before they are merged: `none` inside when
both pass.
-/
def tcpInvalidCSum (pkt pktTarget : Bytes) (item : TCPGROItem)
    (isV6 skipChecksumValidation : Bool) : Option (Option CoalesceResult) :=
  if skipChecksumValidation then some none
  else do
    let itemValid ← (if item.numMerged = 0 then
        checksumValid pktTarget item.iphLen ipProtoTCP isV6
      else some true)
    if ¬itemValid then some (some .itemInvalidCSum)
    else
      let pktValid ← checksumValid pkt item.iphLen ipProtoTCP isV6
      if ¬pktValid then some (some .pktInvalidCSum) else some none

/-- A zero UDP checksum, or an invalid one where it is validated. -/
def udpCSumUnusable (pkt : Bytes) (iphLen : UInt8) (isV6 skipChecksumValidation : Bool) :
    Option Bool := do
  let stored ← readU16? pkt (iphLen + 6).toNat
  if stored = 0 then some true
  else if skipChecksumValidation then some false
  else
    let valid ← checksumValid pkt iphLen ipProtoUDP isV6
    some (!valid)

/-- The same validation for UDP. -/
def udpInvalidCSum (pkt pktHead : Bytes) (item : UDPGROItem)
    (isV6 skipChecksumValidation : Bool) : Option (Option CoalesceResult) := do
  let itemInvalid ← (if item.numMerged = 0 then
      if item.cSumKnownInvalid then some true
      else udpCSumUnusable pktHead item.iphLen isV6 skipChecksumValidation
    else some false)
  if itemInvalid then some (some .itemInvalidCSum)
  else
    let pktInvalid ← udpCSumUnusable pkt item.iphLen isV6 skipChecksumValidation
    if pktInvalid then some (some .pktInvalidCSum) else some none

/-- `coalesceUDPPackets`, with `pkt` at `pktI`. -/
def coalesceUDPPackets (pkt : Bytes) (pktI : Nat) (item : UDPGROItem) (bufs : List Buf)
    (bufsOffset : Nat) (isV6 skipChecksumValidation : Bool) :
    Option (CoalesceResult × UDPGROItem × List Buf) := do
  let b ← bufs[item.bufsIndex.toNat]?
  let pktHead ← sliceFrom? b.bytes bufsOffset
  let headersLen := (item.iphLen + UInt8.ofNat udphLen).toNat
  let coalescedLen : Int := pktHead.length + pkt.length - headersLen
  if (b.cap : Int) - bufsOffset - bufsOffset < coalescedLen then
    -- We don't want to allocate a new underlying array.
    some (.insufficientCap, item, bufs)
  else
    match ← udpInvalidCSum pkt pktHead item isV6 skipChecksumValidation with
    | some invalid => some (invalid, item, bufs)
    | none => do
        let payload ← sliceFrom? pkt headersLen
        let b ← b.extend? payload
        some (.success,
            { item with
              numMerged := item.numMerged + 1
              members := item.members ++ [pktI] },
            bufs.set item.bufsIndex.toNat b)

/-- Set the PSH flag of the packet in `b` when one with PSH is appended. -/
def setPSH (b : Buf) (position : Nat) (pshSet : Bool) : Option Buf :=
  if pshSet then do
    let flags ← byteAt? b.bytes position
    some { b with bytes := b.bytes.set position (flags ||| tcpFlagPSH) }
  else some b

/-- The mode `coalescePrepend` of `coalesceTCPPackets`. -/
def prependTCPPacket (pkt : Bytes) (pktBuffsIndex : Nat) (seq : UInt32) (pshSet : Bool)
    (item : TCPGROItem) (bufs : List Buf) (bufsOffset : Nat) (isV6 skipChecksumValidation : Bool) :
    Option (CoalesceResult × TCPGROItem × List Buf) := do
  let target ← bufs[item.bufsIndex.toNat]?
  let pktTarget ← sliceFrom? target.bytes bufsOffset
  let b ← bufs[pktBuffsIndex]?
  let headersLen := (item.iphLen + item.tcphLen).toNat
  let coalescedLen : Int := pktTarget.length + pkt.length - headersLen
  if (b.cap : Int) - bufsOffset - bufsOffset < coalescedLen then
    some (.insufficientCap, item, bufs)
  else if pshSet then some (.pshEnding, item, bufs)
  else
    match ← tcpInvalidCSum pkt pktTarget item isV6 skipChecksumValidation with
    | some invalid => some (invalid, item, bufs)
    | none => do
        let payload ← sliceFrom? target.bytes (bufsOffset + headersLen)
        let b ← b.extend? payload
        -- Flip the slice headers in bufs as part of prepend.  The index of
        -- item is already being tracked for writing.
        some (.success,
            { item with
              sentSeq := seq
              members := pktBuffsIndex :: item.members },
            (bufs.set pktBuffsIndex target).set item.bufsIndex.toNat b)

/-- The mode `coalesceAppend` of `coalesceTCPPackets`. -/
def appendTCPPacket (pkt : Bytes) (pktBuffsIndex : Nat) (pshSet : Bool) (item : TCPGROItem)
    (bufs : List Buf) (bufsOffset : Nat) (isV6 skipChecksumValidation : Bool) :
    Option (CoalesceResult × TCPGROItem × List Buf) := do
  let b ← bufs[item.bufsIndex.toNat]?
  let pktHead ← sliceFrom? b.bytes bufsOffset
  let headersLen := (item.iphLen + item.tcphLen).toNat
  let coalescedLen : Int := pktHead.length + pkt.length - headersLen
  if (b.cap : Int) - bufsOffset - bufsOffset < coalescedLen then
    some (.insufficientCap, item, bufs)
  else
    match ← tcpInvalidCSum pkt pktHead item isV6 skipChecksumValidation with
    | some invalid => some (invalid, item, bufs)
    | none => do
        -- We are appending a segment with PSH set.
        let b ← setPSH b (bufsOffset + (item.iphLen + UInt8.ofNat tcpFlagsOffset).toNat) pshSet
        let payload ← sliceFrom? pkt headersLen
        let b ← b.extend? payload
        some (.success,
            { item with
              pshSet := item.pshSet || pshSet
              members := item.members ++ [pktBuffsIndex] },
            bufs.set item.bufsIndex.toNat b)

/-- `item` after a successful merge with a packet of `gsoSize` octets. -/
def TCPGROItem.merged (item : TCPGROItem) (gsoSize : UInt16) : TCPGROItem :=
  { item with
    gsoSize := if item.gsoSize < gsoSize then gsoSize else item.gsoSize
    numMerged := item.numMerged + 1 }

/-- `coalesceTCPPackets`. -/
def coalesceTCPPackets (mode : CanCoalesce) (pkt : Bytes) (pktBuffsIndex : Nat)
    (gsoSize : UInt16) (seq : UInt32) (pshSet : Bool) (item : TCPGROItem)
    (bufs : List Buf) (bufsOffset : Nat) (isV6 skipChecksumValidation : Bool) :
    Option (CoalesceResult × TCPGROItem × List Buf) := do
  let (result, item, bufs) ← (if mode = .prepended then
      prependTCPPacket pkt pktBuffsIndex seq pshSet item bufs bufsOffset isV6 skipChecksumValidation
    else
      appendTCPPacket pkt pktBuffsIndex pshSet item bufs bufsOffset isV6 skipChecksumValidation)
  if result = .success then some (result, item.merged gsoSize, bufs)
  else some (result, item, bufs)

/-! ## One packet -/

inductive GROResult where
  | noop
  | tableInsert
  | coalesced
  deriving DecidableEq, Repr

def maxUint16 : Nat := 65535
def ipv4FlagMoreFragments : UInt8 := 0x20

/-- The length of a packet as its IP header states it. -/
def statedLength (pkt : Bytes) (isV6 : Bool) : Option Nat :=
  if isV6 then do
    let ipv6HPayloadLen ← readU16? pkt 4
    some (ipv6HPayloadLen.toNat + 40)
  else do
    let totalLen ← readU16? pkt 2
    some totalLen.toNat

/--
The length of the IP header of a packet whose stated length is right; `none`
inside is a packet that is left alone.
-/
def groIPHeaderLen (pkt : Bytes) (isV6 : Bool) : Option (Option Nat) :=
  if maxUint16 < pkt.length then
    -- A valid IPv4 or IPv6 packet will never exceed this.
    some none
  else do
    let first ← byteAt? pkt 0
    let iphLen := if isV6 then 40 else ((first &&& 0x0f) * 4).toNat
    let stated ← statedLength pkt isV6
    if stated ≠ pkt.length then some none
    else if pkt.length < iphLen then some none
    else some (some iphLen)

/-- An IPv4 fragment; there is no GRO support for those. -/
def isFragment (pkt : Bytes) (isV6 : Bool) : Option Bool :=
  if isV6 then some false
  else do
    let high ← byteAt? pkt 6
    let low ← byteAt? pkt 7
    some (high &&& ipv4FlagMoreFragments ≠ 0 ∨ high <<< 3 ≠ 0 ∨ low ≠ 0)

/-- What `tcpGRO` reads of its packet. -/
structure TCPCandidate where
  iphLen : Nat
  tcphLen : Nat
  pshSet : Bool
  gsoSize : UInt16
  seq : UInt32
  deriving DecidableEq, Repr

/-- The checks of `tcpGRO` on its packet. -/
def tcpCandidate (pkt : Bytes) (isV6 : Bool) : Option (Option TCPCandidate) := do
  match ← groIPHeaderLen pkt isV6 with
  | none => some none
  | some iphLen => do
      let dataOffset ← byteAt? pkt (iphLen + 12)
      let tcphLen := ((dataOffset >>> 4) * 4).toNat
      if tcphLen < 20 ∨ 60 < tcphLen then some none
      else if pkt.length < iphLen + tcphLen then some none
      else
        let fragment ← isFragment pkt isV6
        if fragment then some none
        else
          let tcpFlags ← byteAt? pkt (iphLen + tcpFlagsOffset)
          -- not a candidate if any non-ACK flags (except PSH+ACK) are set
          if tcpFlags ≠ tcpFlagACK ∧ tcpFlags ≠ tcpFlagACK ||| tcpFlagPSH then
            some none
          else
            let gsoSize := UInt16.ofNat (pkt.length - tcphLen - iphLen)
            -- not a candidate if payload len is 0
            if gsoSize < 1 then some none
            else
              let seq ← readU32? pkt (iphLen + 4)
              some (some
                { iphLen, tcphLen, pshSet := tcpFlags ≠ tcpFlagACK, gsoSize,
                  seq })

def srcAddrOffset (isV6 : Bool) : Nat :=
  if isV6 then ipv6SrcAddrOffset else ipv4SrcAddrOffset

def addrLen (isV6 : Bool) : Nat :=
  if isV6 then 16 else 4

/--
The loop of `tcpGRO` over the items of the flow, from the last one on.  `i`
items are left.  `none` inside is a loop that ran to its end.
-/
def tcpGROLoop (pkt : Bytes) (pktI : Nat) (candidate : TCPCandidate) (bufs : List Buf)
    (offset : Nat) (isV6 skipChecksumValidation : Bool)
    (items : List TCPGROItem) : (i : Nat) → TCPGROTable →
      Option (Option (GROResult × List Buf) × TCPGROTable)
  | 0, table => some (none, table)
  | i + 1, table => do
      let item ← items[i]?
      let can ← tcpPacketsCanCoalesce pkt (UInt8.ofNat candidate.iphLen)
        (UInt8.ofNat candidate.tcphLen) candidate.seq candidate.pshSet
        candidate.gsoSize item bufs offset
      if can = .unavailable then
        tcpGROLoop pkt pktI candidate bufs offset isV6 skipChecksumValidation items i table
      else
        let (result, item, bufs') ← coalesceTCPPackets can pkt pktI candidate.gsoSize candidate.seq
            candidate.pshSet item bufs offset isV6 skipChecksumValidation
        match result with
        | .success => do
            let table ← table.updateAt item.key item i
            some (some (.coalesced, bufs'), table)
        | .itemInvalidCSum => do
            -- delete the item with an invalid csum
            let table ← table.deleteAt item.key i
            tcpGROLoop pkt pktI candidate bufs offset isV6 skipChecksumValidation items i table
        | .pktInvalidCSum =>
          -- no point in inserting an item that we can't coalesce
          some (some (.noop, bufs), table)
        | .insufficientCap | .pshEnding =>
          tcpGROLoop pkt pktI candidate bufs offset isV6 skipChecksumValidation items i table

/-- `tcpGRO`. -/
def tcpGRO (bufs : List Buf) (offset pktI : Nat) (table : TCPGROTable)
    (isV6 skipChecksumValidation : Bool) : Option (GROResult × List Buf × TCPGROTable) := do
  let pkt ← packetAt? bufs pktI offset
  match ← tcpCandidate pkt isV6 with
  | none => some (.noop, bufs, table)
  | some candidate =>
    if bufs.length = 1 then
      -- A lone packet has nothing to coalesce with.
      some (.noop, bufs, table)
    else do
      let src := srcAddrOffset isV6
      let key ← newTCPFlowKey pkt src (src + addrLen isV6) candidate.iphLen
      match table.itemsByFlow.lookup key with
      | none => do
          let item ← newTCPItem key pkt candidate.iphLen candidate.tcphLen pktI
          let table ← table.insert key item
          some (.tableInsert, bufs, table)
      | some items => do
          let (outcome, table) ← tcpGROLoop pkt pktI candidate bufs offset isV6
              skipChecksumValidation items items.length table
          match outcome with
          | some (result, bufs) => some (result, bufs, table)
          | none => do
              -- failed to coalesce with any other packets
              let item ← newTCPItem key pkt candidate.iphLen candidate.tcphLen pktI
              let table ← table.insert key item
              some (.tableInsert, bufs, table)

/-- What `udpGRO` reads of its packet. -/
structure UDPCandidate where
  iphLen : Nat
  gsoSize : UInt16
  deriving DecidableEq, Repr

/-- The checks of `udpGRO` on its packet. -/
def udpCandidate (pkt : Bytes) (isV6 : Bool) : Option (Option UDPCandidate) := do
  match ← groIPHeaderLen pkt isV6 with
  | none => some none
  | some iphLen =>
    if pkt.length < iphLen + udphLen then some none
    else do
      let fragment ← isFragment pkt isV6
      if fragment then some none
      else
        let gsoSize := UInt16.ofNat (pkt.length - udphLen - iphLen)
        -- not a candidate if payload len is 0
        if gsoSize < 1 then some none
        else some (some { iphLen, gsoSize })

/--
The attempt of `udpGRO` to coalesce with the last item of the flow: the new
item and buffers, or whether the packet's checksum is known to be invalid.
-/
def udpGROLast (pkt : Bytes) (pktI : Nat) (candidate : UDPCandidate) (item : UDPGROItem)
    (bufs : List Buf) (offset : Nat) (isV6 skipChecksumValidation : Bool) :
    Option (Except Bool (UDPGROItem × List Buf)) := do
  let can ← udpPacketsCanCoalesce pkt (UInt8.ofNat candidate.iphLen)
    candidate.gsoSize item bufs offset
  if can = .appended then
    let (result, item, bufs) ← coalesceUDPPackets pkt pktI item bufs offset
      isV6 skipChecksumValidation
    match result with
    | .success => some (.ok (item, bufs))
    | .pktInvalidCSum =>
      -- We must insert a new item, but we also mark it as invalid csum to
      -- prevent a repeat checksum validation.
      some (.error true)
    | .itemInvalidCSum | .insufficientCap | .pshEnding =>
      -- A new item will be stored after it.
      some (.error false)
  else some (.error false)

/-- `udpGRO`. -/
def udpGRO (bufs : List Buf) (offset pktI : Nat) (table : UDPGROTable)
    (isV6 skipChecksumValidation : Bool) : Option (GROResult × List Buf × UDPGROTable) := do
  let pkt ← packetAt? bufs pktI offset
  match ← udpCandidate pkt isV6 with
  | none => some (.noop, bufs, table)
  | some candidate =>
    if bufs.length = 1 then
      -- A lone packet has nothing to coalesce with.
      some (.noop, bufs, table)
    else do
      let src := srcAddrOffset isV6
      let key ← newUDPFlowKey pkt src (src + addrLen isV6) candidate.iphLen
      match table.itemsByFlow.lookup key with
      | none => do
          let item ← newUDPItem key pkt candidate.iphLen pktI false
          let table ← table.insert key item
          some (.tableInsert, bufs, table)
      | some items => do
          -- With UDP we only check the last item, otherwise we could
          -- reorder packets for a given flow.
          let item ← items.getLast?
          match ← udpGROLast pkt pktI candidate item bufs offset isV6
              skipChecksumValidation with
          | .ok (item, bufs) => do
              let table ← table.updateAt item.key item (items.length - 1)
              some (.coalesced, bufs, table)
          | .error pktCSumKnownInvalid => do
              let item ← newUDPItem key pkt candidate.iphLen pktI pktCSumKnownInvalid
              let table ← table.insert key item
              some (.tableInsert, bufs, table)

/-! ## Accounting -/

/-- The errors of `handleGRO`. -/
inductive GROError where
  | invalidOffset
  | shortBuffer
  deriving DecidableEq, Repr

/-- The text of an error. -/
def GROError.text : GROError → String
  | .invalidOffset => "invalid offset"
  | .shortBuffer => "short buffer"

/-- What the accounting reads of an item, TCP or UDP. -/
structure Accounting where
  bufsIndex : Nat
  numMerged : UInt16
  iphLen : UInt8
  isV6 : Bool
  protocol : UInt8
  /-- The header that describes the merged packet. -/
  hdr : VirtioNetHdr
  deriving DecidableEq, Repr

def TCPGROItem.accounting (item : TCPGROItem) : Accounting :=
  { bufsIndex := item.bufsIndex.toNat
    numMerged := item.numMerged
    iphLen := item.iphLen
    isV6 := item.key.isV6
    protocol := ipProtoTCP
    hdr :=
      { flags := virtioNetHdrFNeedsCsum
        gsoType :=
          if item.key.isV6 then virtioNetHdrGSOTCPv6 else virtioNetHdrGSOTCPv4
        hdrLen := (item.iphLen + item.tcphLen).toUInt16
        gsoSize := item.gsoSize
        csumStart := item.iphLen.toUInt16
        csumOffset := 16 } }

def UDPGROItem.accounting (item : UDPGROItem) : Accounting :=
  { bufsIndex := item.bufsIndex.toNat
    numMerged := item.numMerged
    iphLen := item.iphLen
    isV6 := item.key.isV6
    protocol := ipProtoUDP
    hdr :=
      { flags := virtioNetHdrFNeedsCsum
        gsoType := virtioNetHdrGSOUDPL4
        hdrLen := (item.iphLen + UInt8.ofNat udphLen).toUInt16
        gsoSize := item.gsoSize
        csumStart := item.iphLen.toUInt16
        csumOffset := 6 } }

section

variable (acc : Accounting) (pkt : Bytes)

/--
Recalculate the total len (IPv4) or payload len (IPv6), and the (IPv4) header
checksum.
-/
def accountIPHeader : Option Bytes :=
  if acc.isV6 then
    writeU16? pkt 4 (UInt16.ofNat pkt.length - acc.iphLen.toUInt16)
  else do
    let pkt ← setByte? pkt 10 0
    let pkt ← setByte? pkt 11 0
    let pkt ← writeU16? pkt 2 (UInt16.ofNat pkt.length)
    let ipHeader ← slice? pkt 0 acc.iphLen.toNat
    writeU16? pkt 10 (~~~(checksum ipHeader 0))

/-- Recalculate the UDP len field value. -/
def accountUDPLength : Option Bytes :=
  if acc.protocol = ipProtoUDP then do
    let segment ← sliceFrom? pkt acc.iphLen.toNat
    writeU16? pkt (acc.iphLen + 4).toNat (UInt16.ofNat segment.length)
  else some pkt

/--
Calculate the pseudo header checksum and place it at the checksum offset.
Downstream checksum offloading will combine this with computation of the
transport header and payload checksum.
-/
def accountChecksum : Option Bytes := do
  let addrOffset := srcAddrOffset acc.isV6
  let addrLen := addrLen acc.isV6
  let srcAddr ← slice? pkt addrOffset (addrOffset + addrLen)
  let dstAddr ← slice? pkt (addrOffset + addrLen) (addrOffset + addrLen * 2)
  let psum := pseudoHeaderChecksum acc.protocol srcAddr dstAddr
    (UInt16.ofNat (pkt.length - acc.iphLen.toNat))
  writeU16? pkt (acc.hdr.csumStart + acc.hdr.csumOffset).toNat (checksum [] psum)

end

/--
`hdr.encode(buf[offset-virtioNetHdrLen:])`; `none` inside is its error.
-/
def encodeBefore (order : ByteOrder) (hdr : VirtioNetHdr) (buf : Buf) (offset : Nat) :
    Option (Option Buf) :=
  if offset < virtioNetHdrLen then none
  else do
    let b ← sliceFrom? buf.bytes (offset - virtioNetHdrLen)
    match hdr.encode order b with
    | none => some none
    | some b => some (some (buf.writeFrom (offset - virtioNetHdrLen) b))

/-- The body of the accounting loops for one item. -/
def accountItem (order : ByteOrder) (offset : Nat) (bufs : List Buf) (acc : Accounting) :
    Option (Except (GROError × List Buf) (List Buf)) := do
  let buf ← bufs[acc.bufsIndex]?
  if 0 < acc.numMerged then
    let pkt ← sliceFrom? buf.bytes offset
    let pkt ← accountIPHeader acc pkt
    let buf := buf.writeFrom offset pkt
    match ← encodeBefore order acc.hdr buf offset with
    | none => some (.error (.shortBuffer, bufs.set acc.bufsIndex buf))
    | some buf => do
        let pkt ← accountUDPLength acc pkt
        let pkt ← accountChecksum acc pkt
        some (.ok (bufs.set acc.bufsIndex (buf.writeFrom offset pkt)))
  else
    match ← encodeBefore order .zero buf offset with
    | none => some (.error (.shortBuffer, bufs))
    | some buf => some (.ok (bufs.set acc.bufsIndex buf))

/-- An accounting loop; it stops at the first error. -/
def accountItems (order : ByteOrder) (offset : Nat) :
    List Accounting → List Buf → Option (List GROError × List Buf)
  | [], bufs => some ([], bufs)
  | acc :: rest, bufs => do
      match ← accountItem order offset bufs acc with
      | .error (error, bufs) => some ([error], bufs)
      | .ok bufs => accountItems order offset rest bufs

/-- An order in which the program may visit the entries of a map. -/
structure MapOrder (κ ι : Type) where
  visit : Multimap κ ι → List (List ι)
  perm : ∀ map, (visit map).Perm (map.entries.map fun entry => entry.2)

/-- `applyTCPCoalesceAccounting`. -/
def applyTCPCoalesceAccounting (order : ByteOrder) (mapOrder : MapOrder TCPFlowKey TCPGROItem)
    (bufs : List Buf) (offset : Nat) (table : TCPGROTable) : Option (List GROError × List Buf) :=
  accountItems order offset
    ((mapOrder.visit table.itemsByFlow).flatten.map TCPGROItem.accounting) bufs

/-- `applyUDPCoalesceAccounting`. -/
def applyUDPCoalesceAccounting (order : ByteOrder) (mapOrder : MapOrder UDPFlowKey UDPGROItem)
    (bufs : List Buf) (offset : Nat) (table : UDPGROTable) : Option (List GROError × List Buf) :=
  accountItems order offset
    ((mapOrder.visit table.itemsByFlow).flatten.map UDPGROItem.accounting) bufs

/-! ## A batch -/

inductive GROCandidateType where
  | notGROCandidate
  | tcp4GROCandidate
  | tcp6GROCandidate
  | udp4GROCandidate
  | udp6GROCandidate
  deriving DecidableEq, Repr

/-- `groDisablementFlags`: the two bits that are ever read. -/
structure GRODisablementFlags where
  tcpGRODisabled : Bool
  udpGRODisabled : Bool
  deriving DecidableEq, Repr

def GRODisablementFlags.canTCPGRO (gro : GRODisablementFlags) : Bool :=
  !gro.tcpGRODisabled

def GRODisablementFlags.canUDPGRO (gro : GRODisablementFlags) : Bool :=
  !gro.udpGRODisabled

/-- `packetIsGROCandidate`; every index it reads is below 28. -/
def packetIsGROCandidate (b : Bytes) (gro : GRODisablementFlags) :
    GROCandidateType :=
  if b.length < 28 then .notGROCandidate
  else if byteAt b 0 >>> 4 = 4 then
    if byteAt b 0 &&& 0x0f ≠ 5 then
      -- IPv4 packets w/IP options do not coalesce
      .notGROCandidate
    else if byteAt b 9 = ipProtoTCP ∧ 40 ≤ b.length ∧ gro.canTCPGRO then
      .tcp4GROCandidate
    else if byteAt b 9 = ipProtoUDP ∧ gro.canUDPGRO then .udp4GROCandidate
    else .notGROCandidate
  else if byteAt b 0 >>> 4 = 6 then
    if byteAt b 6 = ipProtoTCP ∧ 60 ≤ b.length ∧ gro.canTCPGRO then
      .tcp6GROCandidate
    else if byteAt b 6 = ipProtoUDP ∧ 48 ≤ b.length ∧ gro.canUDPGRO then
      .udp6GROCandidate
    else .notGROCandidate
  else .notGROCandidate

/-- What `handleGRO` works on. -/
structure GROState where
  bufs : List Buf
  tcpTable : TCPGROTable
  udpTable : UDPGROTable
  toWrite : List Nat

section

variable (state : GROState) (offset i : Nat) (isV6 skipChecksumValidation : Bool)

/-- `tcpGRO` on the state of a batch. -/
def GROState.tcpGRO : Option (GROResult × GROState) := do
  let (result, bufs, tcpTable) ← Offload.tcpGRO state.bufs offset i
    state.tcpTable isV6 skipChecksumValidation
  some (result, { state with bufs, tcpTable })

/-- `udpGRO` on the state of a batch. -/
def GROState.udpGRO : Option (GROResult × GROState) := do
  let (result, bufs, udpTable) ← Offload.udpGRO state.bufs offset i
    state.udpTable isV6 skipChecksumValidation
  some (result, { state with bufs, udpTable })

end

/-- The first `switch` of the loop of `handleGRO`. -/
def groPacket (offset : Nat) (gro : GRODisablementFlags) (skipChecksumValidation : Bool)
    (state : GROState) (i : Nat) : Option (GROResult × GROState) := do
  let pkt ← packetAt? state.bufs i offset
  match packetIsGROCandidate pkt gro with
  | .tcp4GROCandidate => state.tcpGRO offset i false skipChecksumValidation
  | .tcp6GROCandidate => state.tcpGRO offset i true skipChecksumValidation
  | .udp4GROCandidate => state.udpGRO offset i false skipChecksumValidation
  | .udp6GROCandidate => state.udpGRO offset i true skipChecksumValidation
  | .notGROCandidate => some (.noop, state)

/-- The parameters of a call of `handleGRO` that its loop never changes. -/
structure GROConfig where
  order : ByteOrder
  offset : Nat
  gro : GRODisablementFlags
  skipChecksumValidation : Bool

/-- The body of the loop of `handleGRO`. -/
def groStep (config : GROConfig) (state : GROState) (i : Nat) :
    Option (Except GROError GROState) := do
  let buf ← state.bufs[i]?
  if config.offset < virtioNetHdrLen ∨ buf.bytes.length ≤ config.offset then
    some (.error .invalidOffset)
  else
    let (result, state) ← groPacket config.offset config.gro config.skipChecksumValidation state i
    match result with
    | .noop => do
        let buf ← state.bufs[i]?
        match ← encodeBefore config.order .zero buf config.offset with
        | none => some (.error .shortBuffer)
        | some buf =>
          some (.ok { state with
            bufs := state.bufs.set i buf
            toWrite := state.toWrite ++ [i] })
    | .tableInsert =>
      some (.ok { state with toWrite := state.toWrite ++ [i] })
    | .coalesced => some (.ok state)

/-- The loop of `handleGRO`; it stops at the first error. -/
def groLoop (config : GROConfig) : List Nat → GROState → Option (List GROError × GROState)
  | [], state => some ([], state)
  | i :: rest, state => do
      match ← groStep config state i with
      | .error error => some ([error], state)
      | .ok state => groLoop config rest state

/--
`handleGRO`: the errors it joins, none when it returns nil, and what it
leaves behind.
-/
def handleGRO (config : GROConfig) (tcpOrder : MapOrder TCPFlowKey TCPGROItem)
    (udpOrder : MapOrder UDPFlowKey UDPGROItem) (state : GROState) :
    Option (List GROError × GROState) := do
  let (errors, state) ← groLoop config (List.range state.bufs.length) state
  if errors ≠ [] then some (errors, state)
  else
    let (errTCP, bufs) ← applyTCPCoalesceAccounting config.order tcpOrder
      state.bufs config.offset state.tcpTable
    let (errUDP, bufs) ← applyUDPCoalesceAccounting config.order udpOrder
      bufs config.offset state.udpTable
    some (errTCP ++ errUDP, { state with bufs })

/-- A batch with empty tables. -/
def GROState.new (bufs : List Buf) : GROState :=
  { bufs, tcpTable := .new, udpTable := .new, toWrite := [] }

end SingTun.Offload
