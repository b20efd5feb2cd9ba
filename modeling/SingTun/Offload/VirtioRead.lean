import SingTun.Offload.Cut
import SingTun.Offload.Virtio

/-!
# Buffers of the length of the MTU

The callers of `handleVirtioRead` give it buffers for packets of the MTU.  A
packet in one piece that does not fit is reported.  A packet that is cut is
not checked against the buffers: a first segment that is longer, or a checksum
field that lies behind the end, leads to an index out of range.
-/

namespace SingTun.Offload

open Foundation Header Option List

/-! ## The loop -/

section Loop

variable {ctx : SegmentContext} {input : Bytes} {outOffset mtu : Nat}

theorem SegmentContext.Room.mono {totalLen totalLen' length length' : Nat}
    (room : ctx.Room totalLen length)
    (shorter : totalLen' ≤ totalLen)
    (longer : length ≤ length') :
    ctx.Room totalLen' length' where
  total := shorter.trans (room.total.trans longer)
  ipv4 version := Nat.le_trans (room.ipv4 version) longer
  ipv6 version := Nat.le_trans (room.ipv6 version) longer
  tcp protocol := ⟨Nat.le_trans (room.tcp protocol).1 longer,
    Nat.lt_of_lt_of_le (room.tcp protocol).2 longer⟩
  udp protocol := Nat.le_trans (room.udp protocol) longer
  field := room.field.trans longer

section

variable (header : ctx.options.hdrLen.toNat ≤ input.length)
  (ordered : ctx.options.csumStart.toNat ≤ ctx.options.hdrLen.toNat)
  (i start : Nat) (outBufs : List Bytes) (sizes : List Nat)
include header ordered

/-- Room for the first segment is room for all. -/
theorem splitLoop_isSome
    (lengths : ∀ outBuf ∈ outBufs, outOffset + mtu ≤ outBuf.length)
    (slots : i + outBufs.length ≤ sizes.length)
    (room : start < input.length → ctx.Room (ctx.options.hdrLen.toNat +
      (segmentEnd ctx.options input start - start)) mtu) :
    (splitLoop ctx input outOffset i start outBufs sizes).isSome = true := by
  induction outBufs generalizing i start sizes with
  | nil =>
    rw [splitLoop]
    split <;> rfl
  | cons outBuf rest ih =>
    by_cases done : input.length ≤ start
    · rw [splitLoop, if_pos done]
      rfl
    · rw [length_cons] at slots
      have length := lengths outBuf mem_cons_self
      have here := room (by omega)
      have body := exactly_writeSegment header ordered i
        (le_segmentEnd ctx.options (Nat.le_of_not_le done))
        (segmentEnd_le ctx.options input start) (@List.length_drop _ outOffset outBuf)
      obtain ⟨out, written⟩ := isSome_iff_exists.mp
        (body.isSome_iff.mpr (here.mono le_rfl (by omega)))
      rw [splitLoop_cons done, setSize?, if_pos (by omega), bind_some,
        sliceFrom?_eq_some (by omega), bind_some, written, bind_some, isSome_map]
      refine ih (i + 1) (start + ctx.options.gsoSize.toNat) _
        (fun other member => lengths other (mem_cons_of_mem _ member)) ?_ fun _ => ?_
      · rw [length_set]
        omega
      · -- a segment is not longer than the one before
        refine here.mono (Nat.add_le_add_left ?_ _) le_rfl
        unfold segmentEnd
        split <;> split <;> omega

/-- With buffers of one length the first segment decides. -/
theorem splitLoop_isSome_iff
    (lengths : ∀ outBuf ∈ outBufs, outBuf.length = outOffset + mtu)
    (slots : i + outBufs.length ≤ sizes.length) :
    (splitLoop ctx input outOffset i start outBufs sizes).isSome = true ↔
      input.length ≤ start ∨ outBufs = [] ∨ ctx.Room (ctx.options.hdrLen.toNat +
          (segmentEnd ctx.options input start - start)) mtu := by
  constructor
  · intro returned
    by_cases done : input.length ≤ start
    · exact .inl done
    cases outBufs with
    | nil => exact .inr (.inl rfl)
    | cons outBuf rest =>
      have length := lengths outBuf mem_cons_self
      have known : (outBuf.drop outOffset).length = mtu := by
        rw [length_drop]
        omega
      obtain ⟨result, run⟩ := isSome_iff_exists.mp returned
      rw [splitLoop_cons done] at run
      obtain ⟨_, -, run⟩ := bind_eq_some_iff.mp run
      rw [sliceFrom?_eq_some (by omega), bind_some] at run
      obtain ⟨out, written, -⟩ := bind_eq_some_iff.mp run
      have body := exactly_writeSegment header ordered i
        (le_segmentEnd ctx.options (Nat.le_of_not_le done))
        (segmentEnd_le ctx.options input start) known
      rw [written] at body
      exact .inr (.inr (body.isSome_iff.mp rfl))
  · rintro (done | rfl | room)
    · cases outBufs <;> rw [splitLoop, if_pos done] <;> rfl
    · rw [splitLoop]
      split <;> rfl
    · exact splitLoop_isSome header ordered i start outBufs sizes
        (fun outBuf member => Nat.le_of_eq (lengths outBuf member).symm) slots fun _ => room

end

end Loop

/-! ## The call -/

section Call

variable {input : Bytes} {options : GSOOptions} {bufs : List Bytes}
  {sizes : List Nat} {offset mtu : Nat}

theorem Cut.isSome_iff (cut : Cut input options)
    (nonempty : bufs ≠ [])
    (lengths : ∀ buf ∈ bufs, buf.length = offset + mtu)
    (slots : sizes.length = bufs.length) :
    (gsoSplit input options bufs sizes offset).isSome = true ↔
      (options.hdrLen.toNat < input.length → ∀ ctx : SegmentContext,
          splitContext? options input (ipVersionOf input) = some ctx →
            ctx.Room (options.hdrLen.toNat + options.gsoSize.toNat) mtu) := by
  obtain ⟨ctx, context, same, -⟩ := cut.exists_context
  have whole : segmentEnd options input options.hdrLen.toNat -
      options.hdrLen.toNat = options.gsoSize.toNat := by
    have several := (not_or.mp cut.several).2
    unfold segmentEnd
    split <;> omega
  rw [cut.gsoSplit_eq, context, bind_some, isSome_map]
  rw [@splitLoop_isSome_iff ctx input offset mtu (same ▸ cut.header)
    (same ▸ cut.ordered) 0 _ bufs sizes lengths (by omega), same, whole]
  constructor
  · rintro (done | none | room) data other found
    · omega
    · exact absurd none nonempty
    · cases found
      exact room
  · intro rooms
    by_cases data : options.hdrLen.toNat < input.length
    · exact .inr (.inr (rooms data ctx rfl))
    · exact .inl (by omega)

/-- A packet in one piece is copied or reported. -/
theorem Single.isSome (single : Single input options)
    (nonempty : bufs ≠ [])
    (lengths : ∀ buf ∈ bufs, offset ≤ buf.length)
    (slots : sizes.length = bufs.length) :
    (gsoSplit input options bufs sizes offset).isSome = true := by
  have field := single.field
  obtain ⟨outBuf, rest, rfl⟩ := exists_cons_of_ne_nil nonempty
  have length := lengths outBuf mem_cons_self
  rw [single.gsoSplit_eq, copySingle, getElem?_cons_zero]
  simp only [some_bind]
  rw [sliceFrom?_eq_some (by omega)]
  simp only [some_bind]
  split
  · rfl
  · have stored : ∃ stored, completeChecksum options input = some stored := by
      unfold completeChecksum
      split
      · exact ⟨_, storeChecksum_eq field⟩
      · exact ⟨input, rfl⟩
    obtain ⟨stored, complete⟩ := stored
    rw [complete, some_bind, setSize?, if_pos (by simp [slots])]
    rfl

end Call

/-! ## Reading from the device -/

/-- The options that the packet behind the header is cut with, if there is no
error before. -/
def askedOptions? (order : ByteOrder) (input : Bytes) : Option GSOOptions := do
  let hdr ← VirtioNetHdr.decode order input
  let options ← hdr.toGSOOptions.toOption
  let parsed ← parsedHdrLen options (input.drop virtioNetHdrLen)
  let hdrLen ← parsed.toOption
  some { options with hdrLen }

section Read

variable {order : ByteOrder} {input : Bytes} {options : GSOOptions}

theorem parsedHdrLen_isSome (options : GSOOptions) (input : Bytes) :
    ∃ parsed, parsedHdrLen options input = some parsed := by
  unfold parsedHdrLen
  split
  · exact ⟨_, rfl⟩
  · split
    · split
      · exact ⟨_, rfl⟩
      · rename_i long
        rw [byteAt?_eq_some (by omega)]
        simp only [some_bind]
        split
        · exact ⟨_, rfl⟩
        · exact ⟨_, rfl⟩
    · exact ⟨_, rfl⟩

theorem decode_length {hdr : VirtioNetHdr} (decoded : VirtioNetHdr.decode order input = some hdr) :
    virtioNetHdrLen ≤ input.length := by
  unfold VirtioNetHdr.decode at decoded
  split at decoded
  · cases decoded
  · omega

/-- An error of its own, or a call of `gsoSplit`. -/
theorem handleVirtioRead_cases (order : ByteOrder) (input : Bytes) :
    (askedOptions? order input = none ∧
      ∃ error, ∀ (bufs : List Bytes) (sizes : List Nat) (offset : Nat),
        handleVirtioRead order input bufs sizes offset = some (.error error)) ∨
    ∃ options, askedOptions? order input = some options ∧
      ∀ (bufs : List Bytes) (sizes : List Nat) (offset : Nat),
        handleVirtioRead order input bufs sizes offset =
          (gsoSplit (input.drop virtioNetHdrLen) options bufs sizes offset).map .ok := by
  unfold askedOptions? handleVirtioRead
  cases decoded : VirtioNetHdr.decode order input with
  | none => exact .inl ⟨rfl, .shortBuffer, fun _ _ _ => rfl⟩
  | some hdr =>
    have long := decode_length decoded
    rw [sliceFrom?_eq_some long]
    simp only [some_bind]
    cases hdr.toGSOOptions with
    | error error => exact .inl ⟨rfl, error, fun _ _ _ => rfl⟩
    | ok options =>
      obtain ⟨parsed, length⟩ := parsedHdrLen_isSome options (input.drop virtioNetHdrLen)
      simp only [Except.toOption, some_bind, length]
      cases parsed with
      | error error => exact .inl ⟨rfl, error, fun _ _ _ => rfl⟩
      | ok hdrLen =>
        refine .inr ⟨{ options with hdrLen }, rfl, fun _ _ _ => ?_⟩
        exact map_eq_bind.symm

variable (asked : askedOptions? order input = some options)
include asked

/-- The header length that is parsed lies behind the start of the checksum by
the length of the transport header, modulo 2^16. -/
theorem asked_hdrLen :
    (options.gsoType = .udpl4 → options.hdrLen = options.csumStart + 8) ∧
      (options.gsoType = .tcpv4 ∨ options.gsoType = .tcpv6 →
        ∃ tcpHLen : UInt16, 20 ≤ tcpHLen.toNat ∧ tcpHLen.toNat ≤ 60 ∧
          options.hdrLen = options.csumStart + tcpHLen) := by
  obtain ⟨hdr, -, asked⟩ := bind_eq_some_iff.mp asked
  obtain ⟨parsed, -, asked⟩ := bind_eq_some_iff.mp asked
  obtain ⟨length, found, asked⟩ := bind_eq_some_iff.mp asked
  obtain ⟨hdrLen, own, asked⟩ := bind_eq_some_iff.mp asked
  cases asked
  cases length with
  | error error => cases own
  | ok value =>
    cases own
    unfold parsedHdrLen at found
    split at found
    · rename_i udp
      cases found
      refine ⟨fun _ => rfl, fun tcp => ?_⟩
      rw [udp] at tcp
      rcases tcp with tcp | tcp <;> cases tcp
    · rename_i other
      refine ⟨fun udp => absurd udp other, fun tcp => ?_⟩
      have typed : parsed.gsoType ≠ .none := by
        rintro plain
        rw [plain] at tcp
        rcases tcp with tcp | tcp <;> cases tcp
      rw [if_pos typed] at found
      split at found
      · cases found
      · obtain ⟨dataOffset, -, found⟩ := bind_eq_some_iff.mp found
        dsimp only at found
        split at found
        · cases found
        · rename_i bounds
          cases found
          rw [not_or, UInt16.lt_iff_toNat_lt, UInt16.lt_iff_toNat_lt] at bounds
          have low : ¬_ < 20 := bounds.1
          have high : ¬60 < _ := bounds.2
          exact ⟨_, by omega, by omega, rfl⟩

omit asked in
/-- A sum that is not smaller than its first part did not wrap. -/
theorem toNat_add_of_le {left right : UInt16}
    (le : left.toNat ≤ (left + right).toNat)
    (positive : 0 < right.toNat) :
    (left + right).toNat = left.toNat + right.toNat := by
  have rightBound := right.toNat_lt
  rw [UInt16.toNat_add] at le ⊢
  omega

/-- The transport header lies in front of the data. -/
theorem asked_transport (cut : Cut (input.drop virtioNetHdrLen) options) :
    (options.gsoType = .tcpv4 ∨ options.gsoType = .tcpv6 →
        options.csumStart.toNat + 20 ≤ options.hdrLen.toNat) ∧
      options.csumStart.toNat + 8 ≤ options.hdrLen.toNat := by
  have ordered := cut.ordered
  obtain ⟨udp, tcp⟩ := asked_hdrLen asked
  have long : options.gsoType = .tcpv4 ∨ options.gsoType = .tcpv6 →
      options.csumStart.toNat + 20 ≤ options.hdrLen.toNat := by
    intro type
    obtain ⟨tcpHLen, low, high, same⟩ := tcp type
    rw [same] at ordered ⊢
    rw [toNat_add_of_le ordered (by omega)]
    omega
  refine ⟨long, ?_⟩
  cases type : options.gsoType with
  | none => exact absurd (.inl type) cut.several
  | tcpv4 =>
    have := long (.inl type)
    omega
  | tcpv6 =>
    have := long (.inr type)
    omega
  | udpl4 =>
    have same := udp type
    rw [same] at ordered ⊢
    rw [toNat_add_of_le ordered (by decide)]
    exact le_rfl

/-- For a packet that is read from the device, two of the bounds decide. -/
theorem asked_room_iff (cut : Cut (input.drop virtioNetHdrLen) options)
    (short : input.length ≤ virtioNetHdrLen + 65536)
    {mtu : Nat} (large : 1280 ≤ mtu) {ctx : SegmentContext}
    (context : splitContext? options (input.drop virtioNetHdrLen)
      (ipVersionOf (input.drop virtioNetHdrLen)) = some ctx) :
    ctx.Room (options.hdrLen.toNat + options.gsoSize.toNat) mtu ↔
      options.hdrLen.toNat + options.gsoSize.toNat ≤ mtu ∧
        options.csumStart.toNat + options.csumOffset.toNat + 2 ≤ mtu := by
  obtain ⟨other, found, same, -, protocol⟩ := cut.exists_context
  cases context.symm.trans found
  have hdrLenBound := options.hdrLen.toNat_lt
  have transport := asked_transport asked cut
  have field := cut.field
  rw [length_drop] at field
  have fieldAt : (options.csumStart + options.csumOffset).toNat =
      options.csumStart.toNat + options.csumOffset.toNat :=
    toNat_add_of_lt (by omega)
  have seqAt : (options.csumStart + 4).toNat = options.csumStart.toNat + 4 :=
    toNat_add_of_lt (show _ + 4 < 65536 by omega)
  constructor
  · intro room
    have fieldRoom := room.field
    rw [same, fieldAt] at fieldRoom
    exact ⟨room.total, fieldRoom⟩
  · rintro ⟨total, fieldRoom⟩
    refine ⟨total, fun _ => by omega, fun _ => by omega, ?_, ?_, ?_⟩
    · intro tcp
      have type : options.gsoType = .tcpv4 ∨ options.gsoType = .tcpv6 := by
        by_contra other
        rw [tcp, if_neg other] at protocol
        cases protocol
      have long := transport.1 type
      have flagsAt : (options.csumStart + .ofNat tcpFlagsOffset).toNat =
          options.csumStart.toNat + 13 :=
        toNat_add_of_lt (show _ + 13 < 65536 by omega)
      rw [same, seqAt, flagsAt]
      omega
    · intro _
      rw [same, seqAt]
      omega
    · rw [same, fieldAt]
      exact fieldRoom

end Read

/-- With buffers for packets of the MTU, reading returns exactly if a packet that
is cut has a first segment that fits, and its checksum field inside. -/
theorem handleVirtioRead_returns_iff
    (order : ByteOrder) (input : Bytes) (bufs : List Bytes) (sizes : List Nat)
    (offset mtu : Nat) (short : input.length ≤ virtioNetHdrLen + 65536)
    (nonempty : bufs ≠ [])
    (lengths : ∀ buf ∈ bufs, buf.length = offset + mtu)
    (large : 1280 ≤ mtu)
    (slots : sizes.length = bufs.length) :
    (∃ result, handleVirtioRead order input bufs sizes offset = some result) ↔
      ∀ options ∈ askedOptions? order input, Cut (input.drop virtioNetHdrLen) options →
        options.hdrLen.toNat < (input.drop virtioNetHdrLen).length →
          options.hdrLen.toNat + options.gsoSize.toNat ≤ mtu ∧
            options.csumStart.toNat + options.csumOffset.toNat + 2 ≤ mtu := by
  rw [← isSome_iff_exists]
  rcases handleVirtioRead_cases order input with
    ⟨none, error, returns⟩ | ⟨options, asked, returns⟩
  · rw [returns, none]
    exact iff_of_true rfl nofun
  · rw [returns, isSome_map, asked]
    have unique : ∀ {P : GSOOptions → Prop},
        (∀ other ∈ some options, P other) ↔ P options := by
      intro P
      exact ⟨fun all => all options rfl, fun holds _ same => by cases same; exact holds⟩
    rw [unique]
    rcases splitPlan_cases (input.drop virtioNetHdrLen) options with
      ⟨error, fails, -, -, notCut⟩ | ⟨single, -⟩ | ⟨cut, -⟩
    · rw [gsoSplit_plan, fails]
      exact iff_of_true rfl fun cut => absurd cut notCut
    · refine iff_of_true (single.isSome nonempty (fun buf member => ?_) slots) fun cut => ?_
      · rw [lengths buf member]
        exact Nat.le_add_right _ _
      · exact absurd single.single cut.several
    · rw [cut.isSome_iff nonempty lengths slots]
      obtain ⟨ctx, context, -⟩ := cut.exists_context
      constructor
      · intro rooms _ data
        exact (asked_room_iff asked cut short large context).mp (rooms data ctx context)
      · intro fits data other found
        exact (asked_room_iff asked cut short large found).mpr (fits cut data)

/-! ## A datagram that does not fit -/

section Sample

/-- A header of UDP segments of `gsoSize` octets, and a datagram of one. -/
def longRead (gsoSize : Nat) : Bytes :=
  VirtioNetHdr.bytes .little
      { VirtioNetHdr.zero with
        flags := 1, gsoType := 5, gsoSize := UInt16.ofNat gsoSize
        csumStart := 20, csumOffset := 6 } ++
    ([0x45, 0, 0, 0, 0, 0, 0, 0, 64, 17, 0, 0, 10, 0, 0, 1, 10, 0, 0, 2,
      0x30, 0x39, 0, 53, 0, 0, 0, 0] ++ replicate gsoSize 0)

/-- One segment of 1281 octets for a buffer of 1280. -/
theorem handleVirtioRead_panics :
    (longRead 1253).length ≤ virtioNetHdrLen + 65536 ∧
      handleVirtioRead .little (longRead 1253) [replicate 1280 0] [0] 0 =
        none := by
  decide +kernel

/-- A segment of 1280 octets is read. -/
theorem handleVirtioRead_returns_full :
    ∃ result, handleVirtioRead .little (longRead 1252) [replicate 1280 0] [0] 0 = some result := by
  have asked : askedOptions? .little (longRead 1252) =
      some ⟨.udpl4, 28, 20, 6, 1252, true⟩ := by decide +kernel
  have short : (longRead 1252).length ≤ virtioNetHdrLen + 65536 := by
    decide +kernel
  refine (handleVirtioRead_returns_iff .little (longRead 1252)
    [replicate 1280 0] [0] 0 1280 short nofun ?_ (by decide) rfl).mpr ?_
  · intro buf member
    rw [mem_singleton.mp member, length_replicate]
  · intro options member _ _
    rw [asked] at member
    cases member
    decide

end Sample

end SingTun.Offload
