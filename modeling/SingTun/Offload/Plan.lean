import SingTun.Offload.Segments

/-!
# The checks of `GSOSplit`

The options may be those of any header.  A call ends with an error before
anything is written, copies the packet in one piece, or cuts it with a context
that is read from its headers.
-/

namespace SingTun.Offload

open Foundation Header Option

/-- The version of an IP packet. -/
def ipVersionOf (packet : Bytes) : UInt8 :=
  byteAt packet 0 >>> 4

/-- The source address of an IP packet. -/
def srcAddrOf (packet : Bytes) : Bytes :=
  if ipVersionOf packet = 4 then window packet 12 4 else window packet 8 16

/-- The destination address of an IP packet. -/
def dstAddrOf (packet : Bytes) : Bytes :=
  if ipVersionOf packet = 4 then window packet 16 4 else window packet 24 16

/-- The packet is copied in one piece. -/
structure Single (input : Bytes) (options : GSOOptions) : Prop where
  field : options.csumStart.toNat + options.csumOffset.toNat + 1 < input.length
  header : options.hdrLen.toNat ≤ input.length
  single : options.gsoType = .none ∨ input.length - options.hdrLen.toNat < options.gsoSize.toNat

/-- The packet passes all checks and is cut. -/
structure Cut (input : Bytes) (options : GSOOptions) : Prop where
  field : options.csumStart.toNat + options.csumOffset.toNat + 1 < input.length
  header : options.hdrLen.toNat ≤ input.length
  several : ¬(options.gsoType = .none ∨ input.length - options.hdrLen.toNat < options.gsoSize.toNat)
  ordered : options.csumStart.toNat ≤ options.hdrLen.toNat
  version : versionError options input (ipVersionOf input) = none
  tcp : options.gsoType = .tcpv4 ∨ options.gsoType = .tcpv6 →
    options.csumStart.toNat + 20 ≤ input.length

/-- What the checks of `GSOSplit` come to. -/
inductive SplitPlan
  | fail (error : GSOError)
  | single
  | cut

/-- The checks, in their order. -/
def splitPlan (input : Bytes) (options : GSOOptions) : SplitPlan :=
  let cSumAt := options.csumStart.toNat + options.csumOffset.toNat
  if input.length ≤ cSumAt + 1 then .fail (.checksumEnd (cSumAt + 1) input.length)
  else if input.length < options.hdrLen.toNat then
    .fail (.shorterThanHdrLen input.length options.hdrLen.toNat)
  else if options.gsoType = .none ∨
      input.length - options.hdrLen.toNat < options.gsoSize.toNat then .single
  else if options.hdrLen < options.csumStart then
    .fail (.hdrLenBeforeCsumStart options.hdrLen.toNat options.csumStart.toNat)
  else
    match versionError options input (ipVersionOf input) with
    | some error => .fail error
    | none =>
      if (options.gsoType = .tcpv4 ∨ options.gsoType = .tcpv6) ∧
          input.length < options.csumStart.toNat + 20 then
        .fail (.shorterThanTCPHeader input.length options.csumStart.toNat)
      else .cut

/-- What the loop works with. -/
def splitContext? (options : GSOOptions) (input : Bytes) (ipVersion : UInt8) :
    Option SegmentContext := do
  let tcp := options.gsoType = .tcpv4 ∨ options.gsoType = .tcpv6
  let protocol := if tcp then ipProtoTCP else ipProtoUDP
  let (firstTCPSeqNum, srcTCPFlags) ← (if tcp then tcpFields options input else some (0, 0))
  let pseudoSumBase ← pseudoSumBase ipVersion protocol input
  some
    { options, ipVersion, protocol, firstTCPSeqNum, srcTCPFlags,
      pseudoSumBase }

/-- The result of the loop as that of the call. -/
def SplitResult.ofLoop (input : Bytes)
    (loop : Int × Option GSOError × List Bytes × List Nat) : SplitResult :=
  ⟨loop.1, loop.2.1, input, loop.2.2.1, loop.2.2.2⟩

section Outcome

variable {input : Bytes} {options : GSOOptions}

theorem versionError_ne_tooManySegments (ipVersion : UInt8) :
    versionError options input ipVersion ≠ some .tooManySegments := by
  unfold versionError
  split
  · split
    · exact nofun
    · split <;> exact nofun
  · split
    · split
      · exact nofun
      · split <;> exact nofun
    · exact nofun

theorem pseudoSumBase_eq
    (long : (ipVersionOf input = 4 ∧ 20 ≤ input.length) ∨
      (ipVersionOf input = 6 ∧ 40 ≤ input.length)) (protocol : UInt8) :
    pseudoSumBase (ipVersionOf input) protocol input =
      some (pseudoHeaderChecksum protocol (srcAddrOf input) (dstAddrOf input) 0) := by
  unfold pseudoSumBase srcAddrOf dstAddrOf ipv4SrcAddrOffset ipv6SrcAddrOffset
  rcases long with ⟨version, long⟩ | ⟨version, long⟩
  · simp only [version, if_true]
    rw [bind_of_eq_some (slice?_eq_some (by omega) (by omega)),
      bind_of_eq_some (slice?_eq_some (by omega) (by omega))]
  · have other : (6 : UInt8) ≠ 4 := by decide
    simp only [version, other, if_false]
    rw [bind_of_eq_some (slice?_eq_some (by omega) (by omega)),
      bind_of_eq_some (slice?_eq_some (by omega) (by omega))]

namespace Cut

/-- The addresses are inside. -/
theorem length (cut : Cut input options) :
    (ipVersionOf input = 4 ∧ 20 ≤ input.length) ∨ (ipVersionOf input = 6 ∧ 40 ≤ input.length) := by
  have passed := cut.version
  unfold versionError at passed
  split at passed
  · rename_i version
    split at passed
    · cases passed
    · split at passed
      · cases passed
      · exact .inl ⟨version, by omega⟩
  · split at passed
    · rename_i version
      split at passed
      · cases passed
      · split at passed
        · cases passed
        · exact .inr ⟨version, by omega⟩
    · cases passed

/-- Nothing is out of range before the loop. -/
theorem exists_context (cut : Cut input options) :
    ∃ ctx, splitContext? options input (ipVersionOf input) = some ctx ∧
      ctx.options = options ∧ ctx.ipVersion = ipVersionOf input ∧ ctx.protocol =
        if options.gsoType = .tcpv4 ∨ options.gsoType = .tcpv6 then ipProtoTCP
        else ipProtoUDP := by
  have fields : ∃ fields, (if options.gsoType = .tcpv4 ∨ options.gsoType = .tcpv6
      then tcpFields options input else some (0, 0)) = some fields := by
    split
    · rename_i type
      have long := cut.tcp type
      unfold tcpFields tcpFlagsOffset
      have seq : (options.csumStart + 4).toNat ≤ options.csumStart.toNat + 4 := Nat.mod_le _ _
      have flags : (options.csumStart + .ofNat 13).toNat ≤
          options.csumStart.toNat + 13 := Nat.mod_le _ _
      rw [readU32?_eq_some (by omega), byteAt?_eq_some (by omega)]
      exact ⟨_, rfl⟩
    · exact ⟨_, rfl⟩
  obtain ⟨fields, read⟩ := fields
  unfold splitContext?
  dsimp only
  rw [bind_of_eq_some read, bind_of_eq_some (pseudoSumBase_eq cut.length _)]
  exact ⟨_, rfl, rfl, rfl, rfl⟩

end Cut

/-- An error before anything is written, a copy, or a cut. -/
theorem splitPlan_cases (input : Bytes) (options : GSOOptions) :
    (∃ error, splitPlan input options = .fail error ∧
        error ≠ GSOError.tooManySegments ∧ ¬Single input options ∧ ¬Cut input options) ∨
      (Single input options ∧ splitPlan input options = .single) ∨
      (Cut input options ∧ splitPlan input options = .cut) := by
  unfold splitPlan
  dsimp only
  split
  · rename_i field
    refine .inl ⟨_, rfl, nofun, fun single => ?_, fun cut => ?_⟩
    · have := single.field
      omega
    · have := cut.field
      omega
  rename_i field
  split
  · rename_i header
    refine .inl ⟨_, rfl, nofun, fun single => ?_, fun cut => ?_⟩
    · have := single.header
      omega
    · have := cut.header
      omega
  rename_i header
  split
  · rename_i one
    exact .inr (.inl ⟨⟨by omega, by omega, one⟩, rfl⟩)
  rename_i several
  have notSingle : ¬Single input options := fun single => several single.single
  split
  · rename_i before
    refine .inl ⟨_, rfl, nofun, notSingle, fun cut => ?_⟩
    have ordered := cut.ordered
    rw [UInt16.lt_iff_toNat_lt] at before
    omega
  rename_i ordered
  rw [UInt16.lt_iff_toNat_lt] at ordered
  cases version : versionError options input (ipVersionOf input) with
  | some error =>
    refine .inl ⟨error, rfl, ?_, notSingle, fun cut => ?_⟩
    · rintro rfl
      exact versionError_ne_tooManySegments _ version
    · rw [cut.version] at version
      cases version
  | none =>
    dsimp only
    split
    · rename_i short
      refine .inl ⟨_, rfl, nofun, notSingle, fun cut => ?_⟩
      have := cut.tcp short.1
      omega
    · rename_i long
      refine .inr (.inr ⟨⟨by omega, by omega, several, by omega, version, fun type => ?_⟩, rfl⟩)
      by_contra short
      exact long ⟨type, by omega⟩

/-- A program that makes the checks in their order. -/
theorem checks_eq_splitPlan {β : Type} (fail : GSOError → Option β) (single : Option β)
    (cut : UInt8 → Option β) :
    (if input.length ≤
          options.csumStart.toNat + options.csumOffset.toNat + 1 then
        fail (.checksumEnd (options.csumStart.toNat + options.csumOffset.toNat + 1) input.length)
      else if input.length < options.hdrLen.toNat then
        fail (.shorterThanHdrLen input.length options.hdrLen.toNat)
      else if options.gsoType = .none ∨
          input.length - options.hdrLen.toNat < options.gsoSize.toNat then
        single
      else if options.hdrLen < options.csumStart then
        fail (.hdrLenBeforeCsumStart options.hdrLen.toNat options.csumStart.toNat)
      else (byteAt? input 0).bind fun first =>
        match versionError options input (first >>> 4) with
        | some error => fail error
        | none =>
          if (options.gsoType = .tcpv4 ∨ options.gsoType = .tcpv6) ∧
              input.length < options.csumStart.toNat + 20 then
            fail (.shorterThanTCPHeader input.length options.csumStart.toNat)
          else cut (first >>> 4)) =
      match splitPlan input options with
      | .fail error => fail error
      | .single => single
      | .cut => cut (ipVersionOf input) := by
  unfold splitPlan
  dsimp only
  split
  · rfl
  rename_i field
  split
  · rfl
  split
  · rfl
  split
  · rfl
  rw [byteAt?_eq_some (by omega), bind_some]
  change (match versionError options input (ipVersionOf input) with
    | some error => _
    | none => _) = _
  cases versionError options input (ipVersionOf input) with
  | some error => rfl
  | none =>
    dsimp only
    split <;> rfl

/-- The checks, and what follows. -/
theorem gsoSplit_plan (outBufs : List Bytes) (sizes : List Nat) (outOffset : Nat) :
    gsoSplit input options outBufs sizes outOffset = match splitPlan input options with
      | .fail error => SplitResult.fail error input outBufs sizes
      | .single => copySingle options input outBufs sizes outOffset
      | .cut =>
        (splitContext? options input (ipVersionOf input)).bind fun ctx =>
          (splitLoop ctx input outOffset 0 options.hdrLen.toNat outBufs
            sizes).map (SplitResult.ofLoop input) := by
  rw [← checks_eq_splitPlan _ _ fun version =>
    (splitContext? options input version).bind _]
  unfold gsoSplit splitSegments splitContext?
  simp only [bind_eq_bind, map_eq_bind, bind_assoc]
  rfl

theorem Single.splitPlan_eq (single : Single input options) :
    splitPlan input options = .single := by
  rcases splitPlan_cases input options with
    ⟨_, -, -, other, -⟩ | ⟨-, plan⟩ | ⟨cut, -⟩
  · exact absurd single other
  · exact plan
  · exact absurd single.single cut.several

theorem Cut.splitPlan_eq (cut : Cut input options) :
    splitPlan input options = .cut := by
  rcases splitPlan_cases input options with
    ⟨_, -, -, -, other⟩ | ⟨single, -⟩ | ⟨-, plan⟩
  · exact absurd cut other
  · exact absurd single.single cut.several
  · exact plan

theorem Single.gsoSplit_eq (single : Single input options)
    (outBufs : List Bytes) (sizes : List Nat) (outOffset : Nat) :
    gsoSplit input options outBufs sizes outOffset =
      copySingle options input outBufs sizes outOffset := by
  rw [gsoSplit_plan, single.splitPlan_eq]

theorem Cut.gsoSplit_eq (cut : Cut input options)
    (outBufs : List Bytes) (sizes : List Nat) (outOffset : Nat) :
    gsoSplit input options outBufs sizes outOffset =
      (splitContext? options input (ipVersionOf input)).bind fun ctx =>
        (splitLoop ctx input outOffset 0 options.hdrLen.toNat outBufs
          sizes).map (SplitResult.ofLoop input) := by
  rw [gsoSplit_plan, cut.splitPlan_eq]

end Outcome

end SingTun.Offload
