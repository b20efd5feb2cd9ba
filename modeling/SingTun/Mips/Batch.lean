import Mathlib.Data.List.Nodup
import Mathlib.Logic.Function.Basic
import SingTun.Foundation.InPlace
import SingTun.Header.Network

/-!
# Batches of packets

`Mipstack.processPackets`: every packet of a batch is dropped, or goes to the
stack, or is written back to the device.  The packets that are kept are put in
order in the slice in which they came.  An entry of the slice is a buffer, and
what a buffer holds is in the memory, where the addresses of a packet may be
swapped in place.
-/

namespace SingTun.Mips

open Foundation Header List Function

/-! ## The package -/

/-- `netip.Addr`. -/
abbrev NetipAddr := (family : Family) × Addr family

/-- `mipstack.IPPacket`, with what else it may hold. -/
structure IPPacket (Other : Type) where
  source : NetipAddr
  destination : NetipAddr
  protocol : UInt8
  payload : Bytes
  moreFragments : Bool
  fragmentOffset : Nat
  other : Other

/-- `parsed.Source, parsed.Destination = parsed.Destination, parsed.Source`. -/
def IPPacket.swap {Other : Type} (parsed : IPPacket Other) : IPPacket Other :=
  { parsed with source := parsed.destination, destination := parsed.source }

/-- What `IPPacket.Fragment` returns, with the answer of `IsAtomic`. -/
structure Fragment where
  offset : Nat
  protocol : UInt8
  payload : Bytes
  isAtomic : Bool

/--
The functions of the package `mipstack` that are called; an error is `none`.
`appendRawBinary` gives what the buffer holds afterwards, also if it fails, and
`write` what the memory holds when `Stack.Write` is done with its packets.
-/
structure Package (Other Buffer : Type) where
  parseIPPacket : Bytes → Option (IPPacket Other)
  fragment : IPPacket Other → Option Fragment
  upperLayer : IPPacket Other → Option (UInt8 × Bytes)
  tcpSegment : IPPacket Other → Option Bytes
  appendRawBinary : IPPacket Other → Bytes → Nat → Bytes × Bool
  write : List Buffer → Nat → (Buffer → Bytes) → Buffer → Bytes

/-! ## One packet -/

/-- The fields of the stack that are read. -/
structure Mipstack where
  broadcastAddr : Option (Addr .v4)
  inetLoopbackAddress : (family : Family) → List (Addr family)

def Mipstack.isBroadcast (s : Mipstack) : NetipAddr → Bool
  | ⟨.v4, addr⟩ => some addr = s.broadcastAddr
  | ⟨.v6, _⟩ => false

/-- The destination, as far as it can be read. -/
def mipsPacketDestination (packet : Bytes) : Option NetipAddr :=
  if packet.length < 1 then none
  else if byteAt packet 0 >>> 4 = 4 then
    if packet.length < 20 then none
    else (addrAt? .v4 packet 16).map (Sigma.mk .v4)
  else if byteAt packet 0 >>> 4 = 6 then
    if packet.length < 40 then none
    else (addrAt? .v6 packet 24).map (Sigma.mk .v6)
  else none

section Packets

variable {Other Buffer : Type}

/-- The segment of a fragment is not complete, so its checksum is not tested. -/
def mipsValidLoopbackPacket (mipstack : Package Other Buffer) (parsed : IPPacket Other) : Bool :=
  match mipstack.fragment parsed with
  | some ⟨offset, protocol, payload, false⟩ =>
    if offset ≠ 0 then protocol = tcpProtocolNumber
    else
      match mipstack.upperLayer { parsed with
          protocol, payload, moreFragments := false, fragmentOffset := 0 }
        with
      | some (protocol, _) => protocol = tcpProtocolNumber
      | none => false
  | _ => (mipstack.tcpSegment parsed).isSome

/-- Where a packet of a batch goes. -/
inductive Route
  | drop
  | stack
  | reflect
deriving DecidableEq

/--
The body of the loop, without the stores in the slice: where the packet goes,
and what its buffer holds afterwards.
-/
def Mipstack.classify (s : Mipstack) (mipstack : Package Other Buffer) (offset : Nat)
    (packet : Bytes) : Option (Route × Bytes) := do
  let ipPacket ← sliceFrom? packet offset
  match mipsPacketDestination ipPacket with
  | none => pure (.drop, packet)
  | some destination =>
    let reflected := s.isBroadcast destination || !destination.2.isGlobalUnicast
    let loopback := !reflected && decide (destination.2 ∈ s.inetLoopbackAddress destination.1)
    if reflected || loopback then
      match mipstack.parseIPPacket ipPacket with
      | none => pure (.drop, packet)
      | some parsed =>
        if loopback && mipsValidLoopbackPacket mipstack parsed then
          match mipstack.appendRawBinary parsed.swap packet offset with
          | (packet, false) => pure (.drop, packet)
          | (packet, true) => pure (.reflect, packet)
        else if reflected then pure (.reflect, packet)
        else pure (.stack, packet)
    else pure (.stack, packet)

end Packets

/-! ## The loop -/

/--
The variables of the loop.  `classified` is read by nothing: it is a record of
the entries on which the body has been run, with what they held.
-/
structure Batch (Buffer : Type) where
  memory : Buffer → Bytes
  packets : List Buffer
  stackCount : Nat
  packetCount : Nat
  classified : List (Buffer × Bytes)

/-- A call of `Stack.Write` or of `writePackets`. -/
structure Call (Buffer : Type) where
  packets : List Buffer
  memory : Buffer → Bytes

structure Outcome (Buffer : Type) where
  stackWrite : Option (Call Buffer)
  writePackets : Option (Call Buffer)
  classified : List (Buffer × Bytes)

section Loop

variable {Other Buffer : Type} [DecidableEq Buffer]

/-- `[stack packets][reflected packets]`. -/
def Batch.retain (batch : Batch Buffer) (route : Route) (packet : Buffer) : Option (Batch Buffer) :=
  let { stackCount, packetCount, packets, .. } := batch
  match route with
  | .drop => pure batch
  | .reflect => do
      let packets ← storeAt? packets packetCount packet
      pure { batch with packets, packetCount := packetCount + 1 }
  | .stack => do
      let packets ←
        if stackCount ≠ packetCount then
          copyEntries? packets (stackCount + 1) (packetCount + 1) stackCount packetCount
        else pure packets
      let packets ← storeAt? packets stackCount packet
      pure { batch with
        packets, stackCount := stackCount + 1, packetCount := packetCount + 1 }

variable (s : Mipstack) (mipstack : Package Other Buffer) (offset : Nat)

/-- One turn of the loop. -/
def Mipstack.processEntry (packet : Buffer) (batch : Batch Buffer) : Option (Batch Buffer) := do
  let octets := batch.memory packet
  let (route, octets') ← s.classify mipstack offset octets
  let batch := { batch with
    memory := update batch.memory packet octets'
    classified := batch.classified ++ [(packet, octets)] }
  batch.retain route packet

/-- Each of the two calls is made only if there is something to pass on. -/
def Batch.passOn (mipstack : Package Other Buffer) (offset : Nat) (batch : Batch Buffer) :
    Outcome Buffer :=
  let { memory, packets, stackCount, packetCount, classified } := batch
  let toStack := packets.take stackCount
  let reflected := (packets.drop stackCount).take (packetCount - stackCount)
  let memory' :=
    if stackCount > 0 then mipstack.write toStack offset memory else memory
  { stackWrite := if stackCount > 0 then some ⟨toStack, memory⟩ else none
    writePackets :=
      if stackCount < packetCount then some ⟨reflected, memory'⟩ else none
    classified }

def Mipstack.processPackets (packets : List Buffer) (memory : Buffer → Bytes) :
    Option (Outcome Buffer) := do
  let batch ← rangeEntries Batch.packets (s.processEntry mipstack offset) 0
    packets.length ⟨memory, packets, 0, 0, []⟩
  pure (batch.passOn mipstack offset)

end Loop

/-! ## What a batch is for -/

section Purpose

variable {Other Buffer : Type}

/-- Neither for the stack nor for a host beyond it. -/
def Mipstack.Bypasses (s : Mipstack) (destination : NetipAddr) : Prop :=
  s.isBroadcast destination = true ∨ destination.2.isGlobalUnicast = false

def Mipstack.LoopbackAddressed (s : Mipstack) (destination : NetipAddr) :
    Prop :=
  ¬s.Bypasses destination ∧ destination.2 ∈ s.inetLoopbackAddress destination.1

/-- The addresses of a packet changed places in its buffer. -/
structure Swapped
    (mipstack : Package Other Buffer) (offset : Nat) (parsed : IPPacket Other)
    (packet packet' : Bytes) : Prop where
  length : packet'.length = packet.length
  headroom : packet'.take offset = packet.take offset
  addresses : mipstack.parseIPPacket (packet'.drop offset) = some parsed.swap

variable (s : Mipstack) (mipstack : Package Other Buffer) (offset : Nat)

/-- A packet that is kept for the stack. -/
def ToStack (packet : Bytes) : Prop :=
  ∃ destination, mipsPacketDestination (packet.drop offset) = some destination ∧
      ¬s.Bypasses destination ∧ (s.LoopbackAddressed destination →
        ∃ parsed, mipstack.parseIPPacket (packet.drop offset) = some parsed ∧
          mipsValidLoopbackPacket mipstack parsed = false)

/-- A packet that is kept for the device, and what is written there. -/
inductive Reflected (packet : Bytes) : Bytes → Prop
  | bypass
      {destination : NetipAddr} {parsed : IPPacket Other}
      (read : mipsPacketDestination (packet.drop offset) = some destination)
      (bypasses : s.Bypasses destination)
      (complete : mipstack.parseIPPacket (packet.drop offset) = some parsed) :
      Reflected packet packet
  | loopback
      {destination : NetipAddr} {parsed : IPPacket Other} {packet' : Bytes}
      (read : mipsPacketDestination (packet.drop offset) = some destination)
      (addressed : s.LoopbackAddressed destination)
      (complete : mipstack.parseIPPacket (packet.drop offset) = some parsed)
      (valid : mipsValidLoopbackPacket mipstack parsed = true)
      (encoded : mipstack.appendRawBinary parsed.swap packet offset = (packet', true))
      (swapped : Swapped mipstack offset parsed packet packet') :
      Reflected packet packet'

/-- A packet that is lost, with the reason. -/
inductive Dropped (packet : Bytes) : Prop
  | unread (read : mipsPacketDestination (packet.drop offset) = none)
  | incomplete
      {destination : NetipAddr}
      (read : mipsPacketDestination (packet.drop offset) = some destination)
      (tested : s.Bypasses destination ∨ s.LoopbackAddressed destination)
      (incomplete : mipstack.parseIPPacket (packet.drop offset) = none)
  | notEncoded
      {destination : NetipAddr} {parsed : IPPacket Other}
      (read : mipsPacketDestination (packet.drop offset) = some destination)
      (addressed : s.LoopbackAddressed destination)
      (complete : mipstack.parseIPPacket (packet.drop offset) = some parsed)
      (valid : mipsValidLoopbackPacket mipstack parsed = true)
      (failed : (mipstack.appendRawBinary parsed.swap packet offset).2 = false)

/-- The packets that a call passes on, each with what its buffer holds. -/
def Call.entries : Option (Call Buffer) → List (Buffer × Bytes)
  | none => []
  | some call => call.packets.map fun packet => (packet, call.memory packet)

/-- The packets with a property, in the order in which they came. -/
structure Selected (packets : List Buffer) (Belongs : Buffer → Prop)
    (Holds : Buffer → Bytes → Prop) (entries : List (Buffer × Bytes)) :
    Prop where
  order : (entries.map Prod.fst).Sublist packets
  exactly : ∀ packet, packet ∈ entries.map Prod.fst ↔ packet ∈ packets ∧ Belongs packet
  octets : ∀ packet octets, (packet, octets) ∈ entries → Holds packet octets

/-- A stable partition of the batch, without the packets that are dropped. -/
structure Partitions (packets : List Buffer) (memory : Buffer → Bytes)
    (outcome : Outcome Buffer) : Prop where
  once : outcome.classified = packets.map fun packet => (packet, memory packet)
  stack : Selected packets (fun packet => ToStack s mipstack offset (memory packet))
    (fun packet octets => octets = memory packet) (Call.entries outcome.stackWrite)
  reflected : Selected packets
    (fun packet => ∃ octets, Reflected s mipstack offset (memory packet) octets)
    (fun packet octets => Reflected s mipstack offset (memory packet) octets)
    (Call.entries outcome.writePackets)
  dropped : ∀ packet ∈ packets, packet ∉ (Call.entries outcome.stackWrite).map Prod.fst →
      packet ∉ (Call.entries outcome.writePackets).map Prod.fst →
        Dropped s mipstack offset (memory packet)

end Purpose

/--
What the package promises: an encoded packet is read back as it was, it takes
the place of the packet from which it came, and `Stack.Write` stores in no
buffer but its own.
-/
structure Package.Lawful {Other Buffer : Type}
    (mipstack : Package Other Buffer) : Prop where
  appendRawBinary : ∀ {packet packet' : Bytes} {offset : Nat} {parsed}, offset ≤ packet.length →
      mipstack.parseIPPacket (packet.drop offset) = some parsed →
      mipstack.appendRawBinary parsed.swap packet offset = (packet', true) →
        Swapped mipstack offset parsed packet packet'
  write : ∀ {packets : List Buffer} {offset : Nat} {memory : Buffer → Bytes}
    {packet : Buffer}, packet ∉ packets →
      mipstack.write packets offset memory packet = memory packet

/-! ## Classification -/

section Classification

variable {Other Buffer : Type} {s : Mipstack} {mipstack : Package Other Buffer}
variable {offset : Nat} {packet packet' : Bytes}

theorem bypasses_iff (s : Mipstack) (destination : NetipAddr) :
    (s.isBroadcast destination || !destination.2.isGlobalUnicast) = true ↔
      s.Bypasses destination := by
  simp [Mipstack.Bypasses]

section

variable (inside : offset ≤ packet.length)
include inside

section

variable {destination : NetipAddr}
variable (read : mipsPacketDestination (packet.drop offset) = some destination)
include read

theorem classify_passed (stays : ¬s.Bypasses destination)
    (other : ¬s.LoopbackAddressed destination) :
    s.classify mipstack offset packet = some (.stack, packet) := by
  have reflected := Bool.eq_false_iff.mpr (mt (bypasses_iff s destination).mp stays)
  have loopback : decide (destination.2 ∈ s.inetLoopbackAddress destination.1) = false :=
    decide_eq_false fun member => other ⟨stays, member⟩
  unfold Mipstack.classify
  rw [sliceFrom?_eq_some inside]
  simp only [some_bind, read, reflected, loopback]
  rfl

theorem classify_bypass (bypasses : s.Bypasses destination) :
    s.classify mipstack offset packet =
      some (if (mipstack.parseIPPacket (packet.drop offset)).isSome then
        .reflect else .drop, packet) := by
  have reflected := (bypasses_iff s destination).mpr bypasses
  unfold Mipstack.classify
  rw [sliceFrom?_eq_some inside]
  simp only [some_bind, read, reflected]
  cases mipstack.parseIPPacket (packet.drop offset) <;> rfl

/-- A packet for a loopback address is parsed, tested and encoded. -/
theorem classify_loopback (addressed : s.LoopbackAddressed destination) :
    s.classify mipstack offset packet = match mipstack.parseIPPacket (packet.drop offset) with
      | none => some (.drop, packet)
      | some parsed =>
        let encoded := mipstack.appendRawBinary parsed.swap packet offset
        if mipsValidLoopbackPacket mipstack parsed then
          some (if encoded.2 then .reflect else .drop, encoded.1)
        else some (.stack, packet) := by
  obtain ⟨stays, member⟩ := addressed
  have reflected := Bool.eq_false_iff.mpr (mt (bypasses_iff s destination).mp stays)
  unfold Mipstack.classify
  rw [sliceFrom?_eq_some inside]
  simp only [some_bind, read, reflected, decide_eq_true member]
  cases mipstack.parseIPPacket (packet.drop offset) with
  | none => rfl
  | some parsed =>
    dsimp only
    cases mipsValidLoopbackPacket mipstack parsed with
    | false => rfl
    | true =>
      obtain ⟨packet', encoded⟩ := mipstack.appendRawBinary parsed.swap packet offset
      cases encoded <;> rfl

end

theorem classify_toStack (toStack : ToStack s mipstack offset packet) :
    s.classify mipstack offset packet = some (.stack, packet) := by
  obtain ⟨destination, read, stays, loopback⟩ := toStack
  by_cases addressed : s.LoopbackAddressed destination
  · obtain ⟨parsed, complete, invalid⟩ := loopback addressed
    rw [classify_loopback inside read addressed, complete]
    dsimp only
    rw [invalid]
    rfl
  · exact classify_passed inside read stays addressed

theorem classify_reflected (reflected : Reflected s mipstack offset packet packet') :
    s.classify mipstack offset packet = some (.reflect, packet') := by
  cases reflected with
  | bypass read bypasses complete =>
    rw [classify_bypass inside read bypasses, complete]
    rfl
  | loopback read addressed complete valid encoded swapped =>
    rw [classify_loopback inside read addressed, complete]
    dsimp only
    rw [valid, encoded]
    rfl

theorem classify_dropped (dropped : Dropped s mipstack offset packet) :
    ∃ packet', s.classify mipstack offset packet = some (.drop, packet') := by
  cases dropped with
  | unread read =>
    refine ⟨packet, ?_⟩
    unfold Mipstack.classify
    rw [sliceFrom?_eq_some inside]
    simp only [some_bind, read]
    rfl
  | incomplete read tested incomplete =>
    refine ⟨packet, ?_⟩
    rcases tested with bypasses | addressed
    · rw [classify_bypass inside read bypasses, incomplete]
      rfl
    · rw [classify_loopback inside read addressed, incomplete]
  | @notEncoded destination parsed read addressed complete valid failed =>
    rw [classify_loopback inside read addressed, complete]
    dsimp only
    rw [valid, failed]
    exact ⟨_, rfl⟩

end

/-- There is no fourth way. -/
theorem dropped_or_kept (lawful : mipstack.Lawful)
    (inside : offset ≤ packet.length) :
    Dropped s mipstack offset packet ∨ ToStack s mipstack offset packet ∨
      ∃ packet', Reflected s mipstack offset packet packet' := by
  cases read : mipsPacketDestination (packet.drop offset) with
  | none => exact .inl (.unread read)
  | some destination =>
    by_cases tested : s.Bypasses destination ∨ s.LoopbackAddressed destination
    · cases complete : mipstack.parseIPPacket (packet.drop offset) with
      | none => exact .inl (.incomplete read tested complete)
      | some parsed =>
        rcases tested with bypasses | addressed
        · exact .inr (.inr ⟨packet, .bypass read bypasses complete⟩)
        · cases valid : mipsValidLoopbackPacket mipstack parsed with
          | false =>
            exact .inr (.inl ⟨destination, read, addressed.1,
              fun _ => ⟨parsed, complete, valid⟩⟩)
          | true =>
            cases encoded : mipstack.appendRawBinary parsed.swap packet offset with
            | mk packet' done =>
              cases done with
              | false =>
                refine .inl (.notEncoded read addressed complete valid ?_)
                rw [encoded]
              | true =>
                exact .inr (.inr ⟨packet', .loopback read addressed complete valid encoded
                  (lawful.appendRawBinary inside complete encoded)⟩)
    · obtain ⟨stays, other⟩ := not_or.mp tested
      exact .inr (.inl ⟨destination, read, stays, fun addressed => absurd addressed other⟩)

/-- A route tells what the packet is. -/
theorem classify_cases (lawful : mipstack.Lawful)
    (inside : offset ≤ packet.length) {route : Route}
    (classified : s.classify mipstack offset packet = some (route, packet')) :
    (route = .drop → Dropped s mipstack offset packet) ∧
      (route = .stack → ToStack s mipstack offset packet ∧ packet' = packet) ∧
      (route = .reflect → Reflected s mipstack offset packet packet') := by
  rcases @dropped_or_kept _ _ s _ _ _ lawful inside with
    dropped | toStack | ⟨octets, reflected⟩
  · obtain ⟨octets, other⟩ := classify_dropped inside dropped
    cases classified.symm.trans other
    exact ⟨fun _ => dropped, nofun, nofun⟩
  · cases classified.symm.trans (classify_toStack inside toStack)
    exact ⟨nofun, fun _ => ⟨toStack, rfl⟩, nofun⟩
  · cases classified.symm.trans (classify_reflected inside reflected)
    exact ⟨nofun, nofun, fun _ => reflected⟩

theorem exists_classify (lawful : mipstack.Lawful) {octets : Bytes}
    (inside : offset ≤ octets.length) :
    ∃ route octets', s.classify mipstack offset octets = some (route, octets') := by
  rcases dropped_or_kept lawful inside with dropped | toStack | reflected
  · exact ⟨_, classify_dropped inside dropped⟩
  · exact ⟨_, _, classify_toStack inside toStack⟩
  · obtain ⟨octets', reflected⟩ := reflected
    exact ⟨_, _, classify_reflected inside reflected⟩

/-- Where a packet goes, by what its buffer held at the start. -/
def goes (s : Mipstack) (mipstack : Package Other Buffer) (offset : Nat)
    (memory : Buffer → Bytes) (route : Route) (packet : Buffer) : Bool :=
  (s.classify mipstack offset (memory packet)).map Prod.fst = some route

theorem filter_goes_append {memory : Buffer → Bytes} {done : List Buffer} {buffer : Buffer}
    {octets' : Bytes} {route : Route}
    (classified : s.classify mipstack offset (memory buffer) = some (route, octets'))
    (other : Route) :
    (done ++ [buffer]).filter (goes s mipstack offset memory other) =
      done.filter (goes s mipstack offset memory other) ++
        if route = other then [buffer] else [] := by
  rw [filter_append, filter_singleton]
  unfold goes
  rw [classified]
  by_cases same : route = other <;> simp [same]

end Classification

/-! ## Groups -/

section Groups

variable {Other Buffer : Type} {s : Mipstack} {mipstack : Package Other Buffer}
variable {offset : Nat} {memory : Buffer → Bytes} {packets : List Buffer}
variable {packet : Buffer}

/-- A group of the loop is one of the batch. -/
theorem selected_filter {route : Route} {Belongs : Buffer → Prop} {Holds : Buffer → Bytes → Prop}
    {later : Buffer → Bytes}
    (belongs : ∀ packet ∈ packets,
      (goes s mipstack offset memory route packet = true ↔ Belongs packet))
    (holds : ∀ packet ∈ packets, goes s mipstack offset memory route packet = true →
        Holds packet (later packet)) :
    Selected packets Belongs Holds
      ((packets.filter (goes s mipstack offset memory route)).map
        fun packet => (packet, later packet)) := by
  have entries : ((packets.filter (goes s mipstack offset memory route)).map
      fun packet => (packet, later packet)).map Prod.fst =
        packets.filter (goes s mipstack offset memory route) := by
    rw [map_map]
    exact map_id _
  constructor
  · rw [entries]
    exact filter_sublist
  · intro packet
    rw [entries, mem_filter]
    exact and_congr_right (belongs packet)
  · intro packet octets member
    obtain ⟨found, among, same⟩ := mem_map.mp member
    cases same
    obtain ⟨member, route⟩ := mem_filter.mp among
    exact holds packet member route

theorem goes_eq_true_iff {octets' : Bytes} {route : Route}
    (classified : s.classify mipstack offset (memory packet) = some (route, octets'))
    (other : Route) :
    goes s mipstack offset memory other packet = true ↔ route = other := by
  unfold goes
  rw [classified]
  simp

theorem goes_stack_iff (lawful : mipstack.Lawful)
    (inside : offset ≤ (memory packet).length) :
    goes s mipstack offset memory .stack packet = true ↔
      ToStack s mipstack offset (memory packet) := by
  obtain ⟨route, octets', classified⟩ := @exists_classify _ _ s _ _ lawful _ inside
  rw [goes_eq_true_iff classified]
  constructor
  · intro stack
    exact ((classify_cases lawful inside classified).2.1 stack).1
  · intro toStack
    cases classified.symm.trans (classify_toStack inside toStack)
    rfl

theorem goes_reflect_iff (lawful : mipstack.Lawful)
    (inside : offset ≤ (memory packet).length) :
    goes s mipstack offset memory .reflect packet = true ↔
      ∃ octets, Reflected s mipstack offset (memory packet) octets := by
  obtain ⟨route, octets', classified⟩ := @exists_classify _ _ s _ _ lawful _ inside
  rw [goes_eq_true_iff classified]
  constructor
  · intro reflect
    exact ⟨_, (classify_cases lawful inside classified).2.2 reflect⟩
  · rintro ⟨octets, reflected⟩
    cases classified.symm.trans (classify_reflected inside reflected)
    rfl

/-- A call that is not made passes on nothing, as it would if it were made. -/
theorem entries_call {count : Nat} {group : List Buffer}
    (size : count = group.length) (memory : Buffer → Bytes) :
    Call.entries (if count > 0 then some ⟨group, memory⟩ else none) =
      group.map fun packet => (packet, memory packet) := by
  subst size
  cases group with
  | nil => rfl
  | cons packet group => rfl

end Groups

/-! ## Turns -/

section Turns

variable {Other Buffer : Type}
variable {s : Mipstack} {mipstack : Package Other Buffer} {offset : Nat}
variable {batch : Batch Buffer} {packet : Buffer}
variable {first second unread : List Buffer} {position : Nat}

/-- The two groups and their sizes, before the turn at the position. -/
structure Batch.Arranged (first second unread : List Buffer) (position : Nat)
    (batch : Batch Buffer) : Prop where
  packets : Foundation.Arranged first second unread position batch.packets
  stackCount : batch.stackCount = first.length
  packetCount : batch.packetCount = first.length + second.length

/-- The packet is the last one of its group afterwards, if it has one. -/
theorem retain_spec (arranged : batch.Arranged first second (packet :: unread) position)
    (route : Route) :
    ∃ packets stackCount packetCount, batch.retain route packet =
        some { batch with packets, stackCount, packetCount } ∧
      Batch.Arranged (first ++ if route = .stack then [packet] else [])
        (second ++ if route = .reflect then [packet] else []) unread
        (position + 1) { batch with packets, stackCount, packetCount } := by
  obtain ⟨memory, packets, stackCount, packetCount, classified⟩ := batch
  obtain ⟨layout, stack, all⟩ := arranged
  dsimp only at layout stack all
  cases route with
  | drop =>
    refine ⟨packets, stackCount, packetCount, rfl, ?_⟩
    simp only [reduceCtorEq, if_false, append_nil]
    exact ⟨layout.skip, stack, all⟩
  | reflect =>
    obtain ⟨packets', stored, layout'⟩ := layout.addSecond
    refine ⟨packets', stackCount, packetCount + 1, ?_, ?_⟩
    · simp only [Batch.retain, all, stored]
      rfl
    · simp only [reduceCtorEq, if_false, if_true, append_nil]
      refine ⟨layout', stack, ?_⟩
      rw [length_append, length_singleton]
      dsimp only
      omega
  | stack =>
    have sizes : packetCount + 1 = (first ++ [packet]).length + second.length := by
      rw [length_append, length_singleton]
      omega
    have size : stackCount + 1 = (first ++ [packet]).length := by
      omega
    simp only [reduceCtorEq, if_false, if_true, append_nil]
    by_cases together : stackCount = packetCount
    · have empty : second = [] := by
        apply length_eq_zero_iff.mp
        omega
      subst empty
      obtain ⟨packets', stored, layout'⟩ := layout.addFirst_of_nil
      refine ⟨packets', stackCount + 1, packetCount + 1, ?_, layout', size, sizes⟩
      simp only [Batch.retain, together, ne_eq, not_true_eq_false, if_false]
      rw [← together, stack]
      change (storeAt? packets first.length packet).bind _ = _
      rw [stored]
      rfl
    · obtain ⟨shifted, packets', copied, stored, layout'⟩ := layout.addFirst
      refine ⟨packets', stackCount + 1, packetCount + 1, ?_, layout', size, sizes⟩
      simp only [Batch.retain, ne_eq, together, not_false_eq_true, if_true]
      rw [all, stack, copied]
      change (storeAt? shifted first.length packet).bind _ = _
      rw [stored]
      rfl

/-- The two calls pass on the groups, as the loop left them. -/
theorem passOn_entries (lawful : mipstack.Lawful)
    (arranged : batch.Arranged first second unread position)
    (apart : ∀ packet ∈ second, packet ∉ first) :
    Call.entries (batch.passOn mipstack offset).stackWrite =
        first.map (fun packet => (packet, batch.memory packet)) ∧
      Call.entries (batch.passOn mipstack offset).writePackets =
        second.map fun packet => (packet, batch.memory packet) := by
  obtain ⟨memory, packets, stackCount, packetCount, classified⟩ := batch
  obtain ⟨layout, stack, all⟩ := arranged
  have one := layout.take_first
  have two := layout.take_second
  dsimp only at one two stack all
  subst stack
  have rest : packetCount - first.length = second.length := by
    omega
  have more : first.length < packetCount ↔ second.length > 0 := by
    omega
  unfold Batch.passOn
  simp only [rest, more, one, two]
  rw [entries_call rfl, entries_call rfl]
  refine ⟨rfl, map_congr_left fun packet member => ?_⟩
  split
  · rw [lawful.write (apart packet member)]
  · rfl

/-- What the loop has done when some of the packets are still to be read. -/
structure LoopInv
    (s : Mipstack) (mipstack : Package Other Buffer) (offset : Nat)
    (memory : Buffer → Bytes) (done unread : List Buffer)
    (batch : Batch Buffer) : Prop where
  exclusive : (done ++ unread).Nodup
  inside : ∀ packet ∈ done ++ unread, offset ≤ (memory packet).length
  classified : batch.classified = done.map fun packet => (packet, memory packet)
  later : ∀ packet ∈ unread, batch.memory packet = memory packet
  earlier : ∀ packet ∈ done, ∃ route, s.classify mipstack offset (memory packet) =
      some (route, batch.memory packet)
  arranged : batch.Arranged (done.filter (goes s mipstack offset memory .stack))
    (done.filter (goes s mipstack offset memory .reflect)) unread done.length

variable [DecidableEq Buffer] {memory : Buffer → Bytes} {done : List Buffer}

/-- One turn. -/
theorem processEntry_inv (lawful : mipstack.Lawful)
    (inv : LoopInv s mipstack offset memory done (packet :: unread) batch) :
    batch.packets[done.length]? = some packet ∧
      ∃ batch', s.processEntry mipstack offset packet batch = some batch' ∧
        LoopInv s mipstack offset memory (done ++ [packet]) unread batch' := by
  refine ⟨inv.arranged.packets.read, ?_⟩
  have member : packet ∈ done ++ packet :: unread := by simp
  have apart : ∀ other ∈ done ++ unread, other ≠ packet := by
    rintro other among rfl
    exact (nodup_middle.mp inv.exclusive).notMem among
  obtain ⟨route, octets', classified⟩ :=
    @exists_classify _ _ s mipstack offset lawful _ (inv.inside packet member)
  have now : batch.memory packet = memory packet := inv.later packet mem_cons_self
  have same : Batch.Arranged (done.filter (goes s mipstack offset memory .stack))
      (done.filter (goes s mipstack offset memory .reflect)) (packet :: unread)
      done.length { batch with
        memory := update batch.memory packet octets'
        classified := batch.classified ++ [(packet, memory packet)] } :=
    ⟨inv.arranged.packets, inv.arranged.stackCount, inv.arranged.packetCount⟩
  obtain ⟨packets, stackCount, packetCount, retained, arranged⟩ := retain_spec same route
  refine ⟨_, Eq.trans ?_ retained, ?_⟩
  · unfold Mipstack.processEntry
    dsimp only
    rw [now, classified]
    rfl
  · constructor
    · rw [append_assoc]
      exact inv.exclusive
    · rw [append_assoc]
      exact inv.inside
    · rw [map_append, ← inv.classified]
      rfl
    · intro other among
      have different := apart other (mem_append_right _ among)
      exact (update_of_ne different _ _).trans
        (inv.later other (mem_cons_of_mem _ among))
    · intro other among
      rcases mem_append.mp among with earlier | last
      · have different := apart other (mem_append_left _ earlier)
        obtain ⟨way, found⟩ := inv.earlier other earlier
        refine ⟨way, found.trans ?_⟩
        dsimp only
        rw [update_of_ne different]
      · cases mem_singleton.mp last
        refine ⟨route, classified.trans ?_⟩
        dsimp only
        rw [update_self]
    · rw [filter_goes_append classified, filter_goes_append classified, length_append]
      exact arranged

/-- The whole loop, from the first packet to the last. -/
theorem rangeEntries_inv (lawful : mipstack.Lawful) {packets : List Buffer}
    (exclusive : packets.Nodup)
    (inside : ∀ packet ∈ packets, offset ≤ (memory packet).length) :
    ∃ batch, rangeEntries Batch.packets (s.processEntry mipstack offset) 0
        packets.length ⟨memory, packets, 0, 0, []⟩ = some batch ∧
      LoopInv s mipstack offset memory packets [] batch := by
  have start : LoopInv s mipstack offset memory [] packets ⟨memory, packets, 0, 0, []⟩ :=
    ⟨exclusive, inside, rfl, fun _ _ => rfl, nofun, .start packets, rfl, rfl⟩
  exact rangeEntries_spec (fun _ _ _ _ inv => processEntry_inv lawful inv) packets [] _ start

/-- A batch is split in two, and a packet is lost only for a reason. -/
theorem processPackets_partitions (s : Mipstack) (lawful : mipstack.Lawful)
    {packets : List Buffer}
    (exclusive : packets.Nodup)
    (inside : ∀ packet ∈ packets, offset ≤ (memory packet).length) :
    ∃ outcome, s.processPackets mipstack offset packets memory = some outcome ∧
      Partitions s mipstack offset packets memory outcome := by
  obtain ⟨batch, ran, inv⟩ := @rangeEntries_inv _ _ s mipstack offset _ memory
    lawful packets exclusive inside
  have kind : ∀ packet ∈ packets, ∃ route, s.classify mipstack offset (memory packet) =
          some (route, batch.memory packet) ∧
        ∀ other, goes s mipstack offset memory other packet = true ↔ route = other := by
    intro packet member
    obtain ⟨route, classified⟩ := inv.earlier packet member
    exact ⟨route, classified, goes_eq_true_iff classified⟩
  have apart : ∀ packet ∈ packets.filter (goes s mipstack offset memory .reflect),
      packet ∉ packets.filter (goes s mipstack offset memory .stack) := by
    intro packet second first
    obtain ⟨member, reflect⟩ := mem_filter.mp second
    obtain ⟨route, -, goes⟩ := kind packet member
    have both := ((goes _).mp reflect).symm.trans ((goes _).mp (mem_filter.mp first).2)
    cases both
  obtain ⟨stack, reflected⟩ :=
    @passOn_entries _ _ mipstack offset _ _ _ _ _ lawful inv.arranged apart
  have stackGroup : Selected packets (fun packet => ToStack s mipstack offset (memory packet))
      (fun packet octets => octets = memory packet)
      (Call.entries (batch.passOn mipstack offset).stackWrite) := by
    rw [stack]
    apply selected_filter
    · intro packet member
      exact goes_stack_iff lawful (inside packet member)
    · intro packet member goes
      obtain ⟨route, classified, same⟩ := kind packet member
      exact ((classify_cases lawful (inside packet member) classified).2.1 ((same _).mp goes)).2
  have reflectedGroup : Selected packets (fun packet =>
        ∃ octets, Reflected s mipstack offset (memory packet) octets)
      (fun packet octets => Reflected s mipstack offset (memory packet) octets)
      (Call.entries (batch.passOn mipstack offset).writePackets) := by
    rw [reflected]
    apply selected_filter
    · intro packet member
      exact goes_reflect_iff lawful (inside packet member)
    · intro packet member goes
      obtain ⟨route, classified, same⟩ := kind packet member
      exact (classify_cases lawful (inside packet member) classified).2.2 ((same _).mp goes)
  refine ⟨batch.passOn mipstack offset, ?_, inv.classified, stackGroup, reflectedGroup, ?_⟩
  · unfold Mipstack.processPackets
    rw [ran]
    rfl
  · intro packet member notFirst notSecond
    rcases dropped_or_kept lawful (inside packet member) with
      dropped | toStack | reflected
    · exact dropped
    · exact absurd ((stackGroup.exactly packet).mpr ⟨member, toStack⟩) notFirst
    · exact absurd ((reflectedGroup.exactly packet).mpr ⟨member, reflected⟩) notSecond

end Turns

/-! ## A batch -/

/-- An IPv4 packet; the octets before its header checksum are kept. -/
def ipv4Packet (other payload : Bytes) (source destination : Addr .v4) : IPPacket Bytes where
  source := ⟨.v4, source⟩
  destination := ⟨.v4, destination⟩
  protocol := byteAt other 9
  payload
  moreFragments := byteAt other 6 &&& 0x20 ≠ 0
  fragmentOffset := (readU16 other 6 <<< 3).toNat
  other

/-- The header of a packet, with its checksum. -/
def ipv4Header (parsed : IPPacket Bytes) : Bytes :=
  let cleared := parsed.other ++ [0, 0] ++ parsed.source.2.octets ++ parsed.destination.2.octets
  writeU16 cleared 10 (~~~checksum cleared 0)

/-- A package for IPv4 packets without options, which tests the checksums of
the header and of a TCP segment. -/
def samplePackage : Package Bytes Nat where
  parseIPPacket
    | version :: tos :: length1 :: length0 :: id1 :: id0 :: flags :: fragment :: ttl ::
        protocol :: sum1 :: sum0 :: s0 :: s1 :: s2 :: s3 :: d0 :: d1 :: d2 :: d3 :: rest =>
      let length := length1.toNat * 256 + length0.toNat
      let other := [version, tos, length1, length0, id1, id0, flags, fragment, ttl, protocol]
      if version = 0x45 ∧ 20 ≤ length ∧ length ≤ 20 + rest.length ∧
          IPv4ChecksumValid (other ++ [sum1, sum0, s0, s1, s2, s3, d0, d1, d2, d3]) then
        some (ipv4Packet other (rest.take (length - 20)) (.from4 s0 s1 s2 s3) (.from4 d0 d1 d2 d3))
      else none
    | _ => none
  fragment parsed :=
    if parsed.moreFragments ∨ parsed.fragmentOffset ≠ 0 then
      some ⟨parsed.fragmentOffset, parsed.protocol, parsed.payload, false⟩
    else none
  upperLayer parsed := some (parsed.protocol, parsed.payload)
  tcpSegment parsed :=
    let dataOffset := 4 * (byteAt parsed.payload 12 >>> 4).toNat
    if parsed.protocol = tcpProtocolNumber ∧ 20 ≤ dataOffset ∧
        dataOffset ≤ parsed.payload.length ∧
        TransportChecksumValid tcpProtocolNumber parsed.source.2.octets
          parsed.destination.2.octets parsed.payload then
      some parsed.payload
    else none
  appendRawBinary parsed packet offset :=
    let encoded := ipv4Header parsed ++ parsed.payload
    (packet.take offset ++ (encoded ++ packet.drop (offset + encoded.length)), true)
  write _ _ memory := memory

theorem samplePackage_lawful : samplePackage.Lawful := by
  refine ⟨?_, fun _ => rfl⟩
  intro packet packet' offset parsed inside complete encoded
  have front : (packet.take offset).length = offset := length_take_of_le inside
  have behind := @length_drop _ offset packet
  cases encoded
  generalize packet.drop offset = ipPacket at complete behind
  revert complete
  dsimp only [samplePackage]
  split
  · rename_i version tos length1 length0 id1 id0 flags fragment ttl protocol sum1 sum0
      s0 s1 s2 s3 d0 d1 d2 d3 rest
    split
    · rename_i valid
      obtain ⟨first, low, high, -⟩ := valid
      rintro ⟨⟩
      have data : (rest.take (length1.toNat * 256 + length0.toNat - 20)).length =
          length1.toNat * 256 + length0.toNat - 20 := length_take_of_le (by omega)
      have balanced := balanced_of_complement_checksum 0 0 [version, tos, length1, length0, id1,
        id0, flags, fragment, ttl, protocol, 0, 0, d0, d1, d2, d3, s0, s1, s2, s3] 10 _ rfl
        (by simp) (by simp [readU16, byteAt]) (by decide) (.inl rfl)
      simp only [length_cons] at behind
      generalize rest.take _ = payload at data
      have size : (ipv4Header (ipv4Packet [version, tos, length1, length0, id1, id0, flags,
        fragment, ttl, protocol] payload (.from4 d0 d1 d2 d3) (.from4 s0 s1 s2 s3))).length = 20 :=
        rfl
      constructor
      · simp only [IPPacket.swap, ipv4Packet] at size ⊢
        rw [length_append, length_append, length_append, front, length_drop, size, data]
        omega
      · exact take_left' front
      · rw [drop_left' front]
        generalize packet.drop (offset + _) = tail
        refine (if_pos ⟨first, low, ?inside, balanced⟩).trans ?same
        case inside =>
          change _ ≤ 20 + (payload ++ tail).length
          rw [length_append, data]
          omega
        case same => exact congrArg (fun read => some (ipv4Packet _ read _ _)) (take_left' data)
    · rintro ⟨⟩
  · rintro ⟨⟩

/-- A stack with the loopback address `198.18.0.9`. -/
def sampleMipstack : Mipstack where
  broadcastAddr := none
  inetLoopbackAddress
    | .v4 => [.from4 198 18 0 9]
    | .v6 => []

/-- Packets of `198.18.0.2`, with an octet of headroom: a datagram for
`224.0.0.1`, one for `8.8.8.8`, two for the loopback address of which one is a
TCP segment and the other is too short, and the first with a wrong checksum. -/
def sampleMemory : Nat → Bytes
  | 0 => [0, 69, 0, 0, 28, 0, 0, 64, 0, 64, 17, 148, 187, 198, 18, 0, 2, 224, 0, 0, 1,
      0, 53, 0, 53, 0, 8, 0, 0]
  | 1 => [0, 69, 0, 0, 28, 0, 0, 64, 0, 64, 17, 100, 173, 198, 18, 0, 2, 8, 8, 8, 8,
      0, 53, 0, 53, 0, 8, 0, 0]
  | 2 => [0, 69, 0, 0, 40, 0, 0, 64, 0, 64, 6, 174, 160, 198, 18, 0, 2, 198, 18, 0, 9,
      156, 64, 0, 80, 0, 0, 0, 100, 0, 0, 0, 0, 80, 2, 255, 255, 134, 190, 0, 0]
  | 3 => [0, 69, 0, 0, 22, 0, 0, 64, 0, 64, 6, 174, 178, 198, 18, 0, 2, 198, 18, 0, 9, 1, 2]
  | _ => [0, 69, 0, 0, 28, 0, 0, 64, 0, 64, 17, 148, 188, 198, 18, 0, 2, 224, 0, 0, 1,
      0, 53, 0, 53, 0, 8, 0, 0]

theorem processPackets_partitions_sample :
    ∃ outcome,
      sampleMipstack.processPackets samplePackage 1 [0, 1, 2, 3, 4] sampleMemory = some outcome ∧
        Partitions sampleMipstack samplePackage 1 [0, 1, 2, 3, 4] sampleMemory outcome ∧
        outcome.stackWrite.map Call.packets = some [1, 3] ∧
        outcome.writePackets.map Call.packets = some [0, 2] := by
  obtain ⟨outcome, ran, partitions⟩ := @processPackets_partitions _ _ samplePackage 1 _
    sampleMemory sampleMipstack samplePackage_lawful [0, 1, 2, 3, 4] (by decide) (by decide)
  have groups : (sampleMipstack.processPackets samplePackage 1 [0, 1, 2, 3, 4] sampleMemory).map
      (fun outcome => (outcome.stackWrite.map Call.packets,
        outcome.writePackets.map Call.packets)) = some (some [1, 3], some [0, 2]) := by
    decide +kernel
  rw [ran] at groups
  obtain ⟨stack, reflected⟩ := Prod.mk.inj (Option.some.inj groups)
  exact ⟨outcome, ran, partitions, stack, reflected⟩

end SingTun.Mips
