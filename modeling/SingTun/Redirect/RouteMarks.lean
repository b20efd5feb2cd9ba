import SingTun.Foundation.BitField
import SingTun.Redirect.Chains
import SingTun.Route.Policy

/-!
# The marks of the DNAT bypass

Connections with a translated destination get the mark of the bypass, which the
first rule of the device selects.  Packets to the backends of IPVS are marked
again at the output hook, so that the kernel looks for another route.
-/

namespace SingTun.Redirect

open Foundation Header Route

/-! ## Rules -/

section Rules

variable (host : Endian)

def appendRouteMark (expressions : NFTRule) (clearMask xorMask : UInt32) : NFTRule :=
  expressions ++ [.readMeta .mark 1,
      .bitwise 1 1 (host.putUint32 (~~~clearMask)) (host.putUint32 xorMask),
      .writeMeta .mark 1, .counter]

variable (options : Options)

/-- What comes before the mark is written. -/
def dnatMarkGuard : NFTRule :=
  nftablesDNATStatusExpressions host ++
    if options.autoRedirectMarkMode then
      [.readMeta .mark 1, .cmp .neq 1 (host.putUint32 options.autoRedirectInputMark)]
    else []

def dnatMarkExpressions : NFTRule :=
  appendRouteMark host (dnatMarkGuard host options)
    options.autoRouteDNATBypassMask options.autoRouteDNATBypassMark

/-- What a packet to a destination has in its headers. -/
def targetGuard (family : Family) (dst : IPVSDNSDestination) : NFTRule :=
  [.payload 1 .networkHeader (destinationOffset family) dst.family.addressSize,
    .cmp .eq 1 dst.endpoint.addr.octets] ++
  [.readMeta .l4proto 1, .cmp .eq 1 [UInt8.ofNat dst.protocol.number.toNat]] ++
  [.payload 1 .transportHeader 2 2, .cmp .eq 1 (bigEndian16 dst.endpoint.port)]

def targetRule (family : Family) (dst : IPVSDNSDestination) : NFTRule :=
  appendRouteMark host (targetGuard family dst) 0 options.autoRouteDNATBypassMark

end Rules

/-! ## Words in registers -/

theorem Endian.zipWith_putUint32 (host : Endian) (onOctets : UInt8 → UInt8 → UInt8)
    (onNumbers : Nat → Nat → Nat) (onWords : UInt32 → UInt32 → UInt32)
    (words : ∀ left right, (onWords left right).toNat = onNumbers left.toNat right.toNat)
    (octets : ∀ size left right,
      List.zipWith onOctets (beOctets size left) (beOctets size right) =
        beOctets size (onNumbers left right)) (left right : UInt32) :
    List.zipWith onOctets (host.putUint32 left) (host.putUint32 right) =
      host.putUint32 (onWords left right) := by
  have big : List.zipWith onOctets (bigEndian32 left) (bigEndian32 right) =
      bigEndian32 (onWords left right) := by
    unfold bigEndian32
    rw [octets, words]
  cases host with
  | little =>
    unfold Endian.putUint32
    rw [← big]
    exact (List.reverse_zipWith (by simp [bigEndian32])).symm
  | big => exact big

theorem Endian.zipWith_and (host : Endian) (left right : UInt32) :
    List.zipWith (· &&& ·) (host.putUint32 left) (host.putUint32 right) =
      host.putUint32 (left &&& right) :=
  host.zipWith_putUint32 _ (· &&& ·) (· &&& ·) UInt32.toNat_and
    (zipWith_beOctets _ _ (fun _ _ => @Nat.and_div_two_pow _ _ 8)
      fun _ _ => UInt8.ofNat_and ..) left right

theorem Endian.zipWith_xor (host : Endian) (left right : UInt32) :
    List.zipWith (· ^^^ ·) (host.putUint32 left) (host.putUint32 right) =
      host.putUint32 (left ^^^ right) :=
  host.zipWith_putUint32 _ (· ^^^ ·) (· ^^^ ·) UInt32.toNat_xor
    (zipWith_beOctets _ _ (fun _ _ => @Nat.xor_div_two_pow _ _ 8)
      fun _ _ => UInt8.ofNat_xor ..) left right

/-! ## Rules that write the mark -/

/-- Expressions that go on exactly for the packets with a property, which then
have another mark. -/
def Remarks (env : NFTEnv) (exprs : NFTRule) (Holds : NFTPacket → Prop)
    (write : UInt32 → UInt32) : Prop :=
  ∀ flow : Flow, ∃ after : Flow, Holds flow.packet ∧ after.packet =
        { flow.packet with mark := write flow.packet.mark } ∧
      evalRule env flow exprs = (after, .running) ∨
    ¬Holds flow.packet ∧ after.packet = flow.packet ∧ evalRule env flow exprs = (after, .mismatch)

section Remark

variable {env : NFTEnv}

theorem evalRule_routeMark (flow : Flow) (clearMask xorMask : UInt32) :
    ∃ after : Flow, after.packet = { flow.packet with
        mark := (flow.packet.mark &&& ~~~clearMask) ^^^ xorMask } ∧
      evalRule env flow (appendRouteMark env.host [] clearMask xorMask) = (after, .running) := by
  refine ⟨_, ?_, rfl⟩
  simp [Flow.setMark, Flow.load, Endian.zipWith_and, Endian.zipWith_xor, Endian.uint32_putUint32]

theorem Guards.remarks {exprs : NFTRule} {Holds : NFTPacket → Prop}
    (guards : Guards env exprs Holds) (clearMask xorMask : UInt32) :
    Remarks env (appendRouteMark env.host exprs clearMask xorMask) Holds
      fun mark => (mark &&& ~~~clearMask) ^^^ xorMask := by
  intro flow
  have split : appendRouteMark env.host exprs clearMask xorMask =
      exprs ++ appendRouteMark env.host [] clearMask xorMask := rfl
  obtain ⟨between, same, ⟨holds, runs⟩ | ⟨fails, stops⟩⟩ := guards flow
  · obtain ⟨after, marked, next⟩ := @evalRule_routeMark env between clearMask xorMask
    rw [same] at marked
    refine ⟨after, .inl ⟨holds, marked, ?_⟩⟩
    rw [split, evalRule_append, runs]
    exact next
  · refine ⟨between, .inr ⟨fails, same, ?_⟩⟩
    rw [split, evalRule_append, stops]

/-- The bit for DNAT in the status of a connection. -/
def dnatBit (host : Endian) (status : Bytes) : Bytes :=
  List.zipWith (· ^^^ ·) (List.zipWith (· &&& ·) status (host.putUint32 conntrackStatusDNAT))
    [0, 0, 0, 0]

/-- The destination of the connection was translated. -/
def DNATStatus (host : Endian) (packet : NFTPacket) : Prop :=
  ∃ status, packet.field .ctStatus = some status ∧
    dnatBit host status = host.putUint32 conntrackStatusDNAT

theorem guards_dnatStatus :
    Guards env (nftablesDNATStatusExpressions env.host) (DNATStatus env.host) := by
  intro flow
  unfold DNATStatus
  cases found : flow.packet.field .ctStatus with
  | none =>
    refine ⟨flow, rfl, .inr ⟨by simp, ?_⟩⟩
    simp [evalRule, nftablesDNATStatusExpressions, Expr.eval, Flow.loadField, found]
  | some status =>
    refine ⟨(flow.load 1 status).load 1 (dnatBit env.host status), rfl, ?_⟩
    by_cases bit : dnatBit env.host status = env.host.putUint32 conntrackStatusDNAT
    · refine .inl ⟨⟨status, rfl, bit⟩, ?_⟩
      unfold dnatBit at bit ⊢
      simp [evalRule, nftablesDNATStatusExpressions, Expr.eval,
        Flow.loadField, found, continueIf, bit]
    · refine .inr ⟨by simpa using bit, ?_⟩
      unfold dnatBit at bit ⊢
      simp [evalRule, nftablesDNATStatusExpressions, Expr.eval,
        Flow.loadField, found, continueIf, bit]

theorem guards_nil : Guards env [] fun _ => True :=
  fun flow => ⟨flow, rfl, .inl ⟨trivial, rfl⟩⟩

/-- What `dnatMarkExpressions` marks. -/
def MarksDNAT (host : Endian) (options : Options) (packet : NFTPacket) : Prop :=
  DNATStatus host packet ∧ (options.autoRedirectMarkMode = true →
      packet.mark ≠ options.autoRedirectInputMark)

theorem guards_dnatMark (options : Options) :
    Guards env (dnatMarkGuard env.host options) (MarksDNAT env.host options) := by
  unfold dnatMarkGuard MarksDNAT
  cases options.autoRedirectMarkMode with
  | true =>
    refine (guards_dnatStatus.append (guards_mark_ne _)).congr ?_
    simp
  | false =>
    refine (guards_dnatStatus.append guards_nil).congr ?_
    simp

theorem guards_payload_eq (base : PayloadBase) (offset len : Nat) (data : Bytes) :
    Guards env [.payload 1 base offset len, .cmp .eq 1 data] fun packet =>
      packet.field (.payload base offset len) = some data := by
  refine (guards_test (fun packet => packet.field (.payload base offset len))
    (· == data) (fun _ => rfl) fun _ => rfl).congr ?_
  intro packet
  simp

/-- The headers of a packet to a destination. -/
def IsTo (family : Family) (dst : IPVSDNSDestination) (packet : NFTPacket) :
    Prop :=
  (packet.field (.payload .networkHeader (destinationOffset family)
      dst.family.addressSize) = some dst.endpoint.addr.octets ∧
    packet.field (.metaKey .l4proto) = some [UInt8.ofNat dst.protocol.number.toNat]) ∧
  packet.field (.payload .transportHeader 2 2) = some (bigEndian16 dst.endpoint.port)

theorem guards_target (family : Family) (dst : IPVSDNSDestination) :
    Guards env (targetGuard family dst) (IsTo family dst) :=
  ((guards_payload_eq _ _ _ _).append (guards_metaKey (by decide) _)).append
    (guards_payload_eq _ _ _ _)

theorem target_remarks (options : Options) (family : Family) (dst : IPVSDNSDestination) :
    Remarks env (targetRule env.host options family dst) (IsTo family dst)
      (· ^^^ options.autoRouteDNATBypassMark) := by
  have remarks := (@guards_target env family dst).remarks 0 options.autoRouteDNATBypassMark
  unfold targetRule
  simpa using remarks

end Remark

/-! ## The mask -/

section Mask

variable (options : Options)

theorem outputMark_ne_zero : options.outputMark ≠ 0 := by
  unfold Options.outputMark
  split
  · decide
  · assumption

/-- The low bits, unless the output mark has none of them. -/
def markPart : UInt32 :=
  if options.outputMark &&& 0xfff = 0 then options.outputMark else 0xfff

/-- The bits in which the two marks differ. -/
def markDifference : UInt32 :=
  options.autoRedirectInputMark ^^^ options.outputMark

theorem autoRouteDNATBypassMask_cases :
    options.autoRouteDNATBypassMask = markPart options ∧
        (options.autoRedirectMarkMode = true → markDifference options &&& markPart options ≠ 0) ∨
      options.autoRouteDNATBypassMask = markPart options |||
          (markDifference options &&& (0 - markDifference options)) := by
  have unfolded : options.autoRouteDNATBypassMask =
      if options.autoRedirectMarkMode then
        if markDifference options &&& markPart options = 0 then
          markPart options ||| (markDifference options &&& (0 - markDifference options))
        else markPart options
      else markPart options := rfl
  rw [unfolded]
  split
  · split
    · exact .inr rfl
    · rename_i apart
      exact .inl ⟨rfl, fun _ => apart⟩
  · rename_i policy
    exact .inl ⟨rfl, fun mode => absurd mode policy⟩

theorem outputMark_and_markPart : options.outputMark &&& markPart options ≠ 0 := by
  unfold markPart
  split
  · rw [UInt32.and_self]
    exact outputMark_ne_zero options
  · assumption

/-- The field of the mark that the bypass owns. -/
def bypassField : BitField 32 where
  mask := options.autoRouteDNATBypassMask.toBitVec
  bits := options.autoRouteDNATBypassMark.toBitVec
  within := by
    unfold Options.autoRouteDNATBypassMark
    rw [UInt32.toBitVec_and, BitVec.and_assoc, BitVec.and_self]

theorem autoRouteDNATBypassMark_ne_zero : options.autoRouteDNATBypassMark ≠ 0 := by
  have shared := outputMark_and_markPart options
  unfold Options.autoRouteDNATBypassMark
  obtain ⟨mask, -⟩ | mask := autoRouteDNATBypassMask_cases options
  · rwa [mask]
  · rw [mask]
    intro zero
    apply shared
    have wider := congrArg UInt32.toBitVec zero
    exact UInt32.toBitVec_inj.mp (and_eq_zero_of_or wider)

theorem input_and_mask_ne (mode : options.autoRedirectMarkMode = true)
    (distinct : options.autoRedirectInputMark ≠ options.outputMark) :
    options.autoRedirectInputMark &&& options.autoRouteDNATBypassMask ≠
      options.autoRouteDNATBypassMark := by
  intro same
  have agree : (markDifference options).toBitVec &&& options.autoRouteDNATBypassMask.toBitVec = 0 :=
    (and_eq_and_iff _ _ _).mp (congrArg UInt32.toBitVec same)
  obtain ⟨mask, apart⟩ | mask := autoRouteDNATBypassMask_cases options
  · rw [mask] at agree
    exact apart mode (UInt32.toBitVec_inj.mp agree)
  · have nonzero : (markDifference options).toBitVec ≠ 0 := by
      intro zero
      apply distinct
      have equal := (and_eq_and_iff options.autoRedirectInputMark.toBitVec
        options.outputMark.toBitVec (BitVec.allOnes 32)).mpr (by
          rw [BitVec.and_allOnes]
          exact zero)
      rw [BitVec.and_allOnes, BitVec.and_allOnes] at equal
      exact UInt32.toBitVec_inj.mp equal
    apply and_or_lowestBit_ne_zero (markPart options).toBitVec nonzero
    rw [mask] at agree
    simpa [lowestBit] using agree

/-- The mark of the bypass is told from that of the input, and a packet that
gets it keeps the rest of its own.  In the mark mode `New` refuses an input mark
that is the output mark. -/
theorem dnatBypassMark_unambiguous
    (distinct : options.autoRedirectMarkMode = true →
      options.autoRedirectInputMark ≠ options.outputMark) :
    let mask := options.autoRouteDNATBypassMask
    let mark := options.autoRouteDNATBypassMark
    mark ≠ 0 ∧ mark &&& mask = mark ∧ options.outputMark &&& mask = mark ∧
    (options.autoRedirectMarkMode = true → options.autoRedirectInputMark &&& mask ≠ mark) ∧
    (∀ old : UInt32, ((old &&& ~~~mask) ^^^ mark) &&& mask = mark ∧
      ((old &&& ~~~mask) ^^^ mark) &&& ~~~mask = old &&& ~~~mask) ∧
    (∀ old : UInt32, old ^^^ mark ≠ old ∧ (old ^^^ mark) &&& ~~~mark = old &&& ~~~mark) ∧
    (∀ env : NFTEnv, Remarks env (dnatMarkExpressions env.host options) (MarksDNAT env.host options)
        fun old => (old &&& ~~~mask) ^^^ mark) ∧
    (∀ (env : NFTEnv) (family : Family) (dst : IPVSDNSDestination),
      Remarks env (targetRule env.host options family dst) (IsTo family dst)
        fun old => old ^^^ mark) ∧
    ∀ (tun : NativeTun) (family : Family) (priority : Int)
      (packet : Packet family), tun.options = options → tun.dnatBypass = true →
      ((dnatRule tun family priority).matches packet = true ↔ packet.mark &&& mask = mark) ∧
      ((markRule tun family priority).matches packet = true ↔ packet.mark &&& mask = mark) := by
  have nonzero := autoRouteDNATBypassMark_ne_zero options
  refine ⟨nonzero, UInt32.toBitVec_inj.mp (bypassField options).within, rfl,
    fun mode => input_and_mask_ne options mode (distinct mode), ?_, ?_,
    fun env => (guards_dnatMark options).remarks _ _,
    fun env family dst => target_remarks options family dst, ?_⟩
  · intro old
    constructor <;> apply UInt32.toBitVec_inj.mp
    · exact (bypassField options).write_selected old.toBitVec
    · exact (bypassField options).write_outside old.toBitVec
  · intro old
    constructor
    · intro same
      have bits : (bypassField options).bits ≠ 0 := fun zero =>
        nonzero (UInt32.toBitVec_inj.mp zero)
      exact (bypassField options).toggle_ne old.toBitVec bits (congrArg UInt32.toBitVec same)
    · apply UInt32.toBitVec_inj.mp
      exact (bypassField options).toggle_outside old.toBitVec
  · rintro tun family priority packet rfl bypass
    have selects := dnatRule_matches tun packet priority
    rw [markRule, if_pos bypass]
    exact ⟨selects, selects⟩

end Mask

/-- Marks that agree in the low bits. -/
def sharedFieldOptions : Options :=
  { sampleRedirect.tunOptions.toOptions with autoRedirectInputMark := 0x12024 }

theorem sharedField_unambiguous :
    sharedFieldOptions.autoRouteDNATBypassMask = 0x10fff ∧
      sharedFieldOptions.autoRouteDNATBypassMark = 0x2024 &&& 0x10fff ∧
      sharedFieldOptions.autoRedirectInputMark &&& sharedFieldOptions.autoRouteDNATBypassMask ≠
        sharedFieldOptions.autoRouteDNATBypassMark :=
  ⟨by decide, by decide, (dnatBypassMark_unambiguous sharedFieldOptions (by decide)).2.2.2.1 rfl⟩

end SingTun.Redirect
