import SingTun.Offload.Reported

/-!
# An input that overlaps the first output

`GSOSplit` may be given an input that lies in the memory of the first output.
The first turn of its loop then rewrites the header that all later turns copy.
`gsoSplitOver` is the program on such memory: what it reads of the input is read
from the buffers.  Every field that a turn writes is written again by the next
turn before it is read, or is read before the loop; so the outputs are those of
an input in memory of its own.
-/

namespace SingTun.Offload

open Foundation Header List Option

/-! ## The program on overlapping memory -/

/-- `in`, the octets of the first buffer behind the offset. -/
def inputIn (length outOffset : Nat) (outBufs : List Bytes) : Bytes :=
  window (outBufs.headD []) outOffset length

/-- The body of the loop. -/
def writeSegmentIn (ctx : SegmentContext) (length outOffset i nextSegmentDataAt
      nextSegmentEnd : Nat) (outBufs : List Bytes) :
    Option (List Bytes) := do
  let hdrLen := ctx.options.hdrLen.toNat
  let segmentDataLen := nextSegmentEnd - nextSegmentDataAt
  let totalLen := hdrLen + segmentDataLen
  let outBuf ← outBufs[i]?
  let out ← sliceFrom? outBuf outOffset
  let _ ← slice? out 0 hdrLen
  let header ← slice? (inputIn length outOffset outBufs) 0 hdrLen
  let out := overwrite out 0 header
  let out ← segmentIPHeader ctx i totalLen out
  let out ← segmentTransportHeader ctx i segmentDataLen (nextSegmentEnd = length) out
  -- What is read of the input now is read behind these stores.
  let outBufs := outBufs.set i (outBuf.take outOffset ++ out)
  let payload ← slice? (inputIn length outOffset outBufs) nextSegmentDataAt nextSegmentEnd
  let out := overwrite out hdrLen payload
  let out ← segmentChecksum ctx segmentDataLen totalLen out
  some (outBufs.set i (outBuf.take outOffset ++ out))

/-- The loop, with `left` buffers from buffer `i` on. -/
def splitLoopOver (ctx : SegmentContext) (length outOffset : Nat) :
    (left i nextSegmentDataAt : Nat) → (outBufs : List Bytes) → (sizes : List Nat) →
      Option (Int × Option GSOError × List Bytes × List Nat)
  | left, i, nextSegmentDataAt, outBufs, sizes =>
    if length ≤ nextSegmentDataAt then some (i, none, outBufs, sizes)
    else
      match left with
      | 0 => some ((i : Int) - 1, some .tooManySegments, outBufs, sizes)
      | left + 1 => do
          let gsoSize := ctx.options.gsoSize.toNat
          let nextSegmentEnd :=
            if length < nextSegmentDataAt + gsoSize then length
            else nextSegmentDataAt + gsoSize
          let segmentDataLen := nextSegmentEnd - nextSegmentDataAt
          let totalLen := ctx.options.hdrLen.toNat + segmentDataLen
          let sizes ← setSize? sizes i totalLen
          let outBufs ← writeSegmentIn ctx length outOffset i
            nextSegmentDataAt nextSegmentEnd outBufs
          splitLoopOver ctx length outOffset left (i + 1)
            (nextSegmentDataAt + gsoSize) outBufs sizes

section

variable (options : GSOOptions) (length : Nat) (outBufs : List Bytes)
  (sizes : List Nat) (outOffset : Nat)

/-- Copy a packet in one piece to where it is. -/
def copySingleOver : Option SplitResult := do
  let outBuf ← outBufs[0]?
  let out ← sliceFrom? outBuf outOffset
  let input := inputIn length outOffset outBufs
  if out.length < length then
    SplitResult.fail (.exceedsOutput length out.length) input outBufs sizes
  else
    -- The checksum is stored in the memory of the input, which is `out`.
    let input ← completeChecksum options input
    let out := overwrite out 0 input
    let sizes ← setSize? sizes 0 length
    some ⟨1, none, input, outBufs.set 0 (outBuf.take outOffset ++
        overwrite out 0 (out.take length)), sizes⟩

def splitSegmentsOver (ipVersion : UInt8) : Option SplitResult := do
  let input := inputIn length outOffset outBufs
  let tcp := options.gsoType = .tcpv4 ∨ options.gsoType = .tcpv6
  if tcp ∧ length < options.csumStart.toNat + 20 then
    SplitResult.fail (.shorterThanTCPHeader length options.csumStart.toNat) input outBufs sizes
  else
    let ctx ← splitContext? options input ipVersion
    let (count, error, outBufs, sizes) ←
      splitLoopOver ctx length outOffset outBufs.length 0 options.hdrLen.toNat outBufs sizes
    some ⟨count, error, inputIn length outOffset outBufs, outBufs, sizes⟩

end

/-- `GSOSplit` for an input of `length` octets at the offset of the first
output. -/
def gsoSplitOver (length : Nat) (options : GSOOptions) (outBufs : List Bytes)
    (sizes : List Nat) (outOffset : Nat) : Option SplitResult := do
  let input := inputIn length outOffset outBufs
  let cSumAt := options.csumStart.toNat + options.csumOffset.toNat
  if length ≤ cSumAt + 1 then
    SplitResult.fail (.checksumEnd (cSumAt + 1) length) input outBufs sizes
  else if length < options.hdrLen.toNat then
    SplitResult.fail (.shorterThanHdrLen length options.hdrLen.toNat) input outBufs sizes
  else
    let payloadLen := length - options.hdrLen.toNat
    if options.gsoType = .none ∨ payloadLen < options.gsoSize.toNat then
      copySingleOver options length outBufs sizes outOffset
    else if options.hdrLen < options.csumStart then
      SplitResult.fail (.hdrLenBeforeCsumStart options.hdrLen.toNat options.csumStart.toNat)
        input outBufs sizes
    else
      let first ← byteAt? input 0
      let ipVersion := first >>> 4
      match versionError options input ipVersion with
      | some error => SplitResult.fail error input outBufs sizes
      | none =>
        splitSegmentsOver options length outBufs sizes outOffset ipVersion

/-! ## A header that was rewritten -/

section Header

variable {ctx : SegmentContext} {input : Bytes}

/-- The octets that the first turn changes. -/
def FirstRewritten (ctx : SegmentContext) (position : Nat) : Prop :=
  (if ctx.ipVersion = 4 then
      position = 2 ∨ position = 3 ∨ position = 10 ∨ position = 11
    else position = 4 ∨ position = 5) ∨
    TransportRewritten ctx position ∨
    position = ctx.options.csumStart.toNat + ctx.options.csumOffset.toNat ∨
    position = ctx.options.csumStart.toNat + ctx.options.csumOffset.toNat + 1

/-- The first turn does not number its segment. -/
theorem byteAt_ipHeaderOf_zero {totalLen position : Nat} {header : Bytes}
    (outside : ¬if ctx.ipVersion = 4 then
        position = 2 ∨ position = 3 ∨ position = 10 ∨ position = 11
      else position = 4 ∨ position = 5) :
    byteAt (ipHeaderOf ctx 0 totalLen header) position = byteAt header position := by
  unfold ipHeaderOf
  by_cases version : ctx.ipVersion = 4
  · simp only [version, if_true, Nat.lt_irrefl, if_false] at outside ⊢
    rw [byteAt_writeU16_of_ne (by omega), byteAt_writeU16_of_ne (by omega),
      byteAt_writeU16_of_ne (by omega)]
  · simp only [version, if_false] at outside ⊢
    rw [byteAt_writeU16_of_ne (by omega)]

theorem changedAt_first (totalLen segmentDataLen : Nat) (last : Bool) (header payload : Bytes) :
    ChangedAt (FirstRewritten ctx) header
      (checksummed ctx (transportHeaderOf ctx 0 segmentDataLen last
        (ipHeaderOf ctx 0 totalLen header)) payload) := by
  constructor
  · rw [length_checksummed, length_transportHeaderOf, length_ipHeaderOf]
  · intro position outside
    unfold FirstRewritten at outside
    rw [not_or, not_or, not_or] at outside
    obtain ⟨notIP, notTransport, notField⟩ := outside
    rw [byteAt_checksummed _ _ _ _ notField, byteAt_transportHeaderOf _ _ _ _ _ _ notTransport,
      byteAt_ipHeaderOf_zero notIP]

/-- What the IP header of a turn leaves of the difference. -/
def TransportField (ctx : SegmentContext) (position : Nat) : Prop :=
  TransportRewritten ctx position ∨
    position = ctx.options.csumStart.toNat + ctx.options.csumOffset.toNat ∨
    position = ctx.options.csumStart.toNat + ctx.options.csumOffset.toNat + 1

theorem le_of_transportField {position : Nat} (changed : TransportField ctx position) :
    ctx.options.csumStart.toNat ≤ position := by
  unfold TransportField TransportRewritten at changed
  by_cases protocol : ctx.protocol = ipProtoTCP
  · simp only [protocol, if_true] at changed
    omega
  · simp only [protocol, if_false] at changed
    omega

theorem changedAt_ipHeaderOf {header header' : Bytes} (start : 20 ≤ ctx.options.csumStart.toNat)
    (long : ctx.options.csumStart.toNat ≤ header.length)
    (change : ChangedAt (FirstRewritten ctx) header header') (i totalLen : Nat) :
    ChangedAt (TransportField ctx) (ipHeaderOf ctx i totalLen header)
      (ipHeaderOf ctx i totalLen header') := by
  have behind : ∀ position, position < 20 → ¬TransportField ctx position := by
    intro position small changed
    have := le_of_transportField changed
    omega
  unfold ipHeaderOf
  by_cases version : ctx.ipVersion = 4
  · simp only [version, if_true]
    have outside : ∀ position, position = 4 ∨ position = 5 → ¬FirstRewritten ctx position := by
      rintro position place (ip | changed)
      · simp only [version, if_true] at ip
        omega
      · exact behind position (by omega) changed
    have same : readU16 header' 4 = readU16 header 4 :=
      change.readU16_eq (outside 4 (by omega)) (outside 5 (by omega))
    rw [same]
    -- The ID is the same; the length and the checksum are stored in both.
    have numbered : ChangedAt (fun k => (TransportField ctx k ∨ 2 ≤ k ∧ k < 2 + 2) ∨
          10 ≤ k ∧ k < 10 + 2) (if 0 < i then writeU16 header 4 (readU16 header 4 + .ofNat i)
          else header)
        (if 0 < i then writeU16 header' 4 (readU16 header 4 + .ofNat i)
          else header') := by
      have before : ChangedAt (fun k => (TransportField ctx k ∨ 2 ≤ k ∧ k < 2 + 2) ∨
            10 ≤ k ∧ k < 10 + 2) header header' := by
        apply change.mono
        rintro position (ip | changed)
        · simp only [version, if_true] at ip
          omega
        · exact .inl (.inl changed)
      split
      · exact ChangedAt.writeU16_both _ (before.mono fun _ => .inl)
      · exact before
    have cleared := ChangedAt.writeU16_both (.ofNat totalLen)
      (ChangedAt.writeU16_both 0 numbered)
    have front : ∀ bytes : Bytes, bytes.take ctx.options.csumStart.toNat =
          window bytes 0 ctx.options.csumStart.toNat := fun _ => rfl
    have sum := @ChangedAt.window_eq _ _ _ cleared 0 ctx.options.csumStart.toNat (by
        rw [length_writeU16, length_writeU16]
        split
        · rw [length_writeU16]
          omega
        · omega)
      (fun k _ high changed => by
        have := le_of_transportField changed
        omega)
    rw [front, front, sum]
    exact ChangedAt.writeU16_both _ (cleared.mono fun _ => .inl)
  · simp only [version, if_false]
    apply ChangedAt.writeU16_both
    apply change.mono
    rintro position (ip | changed)
    · simp only [version, if_false] at ip
      omega
    · exact .inl changed

theorem changedAt_transportHeaderOf {header header' : Bytes}
    (change : ChangedAt (TransportField ctx) header header')
    (i segmentDataLen : Nat) (last : Bool) :
    ChangedAt
      (fun k => k = ctx.options.csumStart.toNat + ctx.options.csumOffset.toNat ∨
        k = ctx.options.csumStart.toNat + ctx.options.csumOffset.toNat + 1)
      (transportHeaderOf ctx i segmentDataLen last header)
      (transportHeaderOf ctx i segmentDataLen last header') := by
  unfold transportHeaderOf
  by_cases protocol : ctx.protocol = ipProtoTCP
  · simp only [protocol, if_true]
    apply ChangedAt.set_both
    apply ChangedAt.writeU32_both
    apply change.mono
    rintro position (transport | field)
    · unfold TransportRewritten at transport
      simp only [protocol, if_true] at transport
      omega
    · exact .inl (.inl field)
  · simp only [protocol, if_false]
    apply ChangedAt.writeU16_both
    apply change.mono
    rintro position (transport | field)
    · unfold TransportRewritten at transport
      simp only [protocol, if_false] at transport
      omega
    · exact .inl field

/-- A header whose first segment was written gives the same segments. -/
theorem checksummed_congr {header header' : Bytes} (start : 20 ≤ ctx.options.csumStart.toNat)
    (long : ctx.options.csumStart.toNat ≤ header.length)
    (change : ChangedAt (FirstRewritten ctx) header header')
    (i totalLen segmentDataLen : Nat) (last : Bool) (payload : Bytes) :
    checksummed ctx (transportHeaderOf ctx i segmentDataLen last
        (ipHeaderOf ctx i totalLen header')) payload =
      checksummed ctx (transportHeaderOf ctx i segmentDataLen last
        (ipHeaderOf ctx i totalLen header)) payload := by
  have transport := changedAt_transportHeaderOf
    (changedAt_ipHeaderOf start long change i totalLen) i segmentDataLen last
  have cleared : ChangedAt (fun _ => False) _ _ :=
    @ChangedAt.writeU16_both _ _ _ (ctx.options.csumStart.toNat + ctx.options.csumOffset.toNat) 0
      (transport.mono fun k here => .inr (by omega))
  unfold checksummed
  dsimp only
  rw [cleared.eq_of_covered fun _ _ => id]

/-- The input after the first turn: only its header is another one. -/
structure FirstTurned (ctx : SegmentContext) (input input' : Bytes) : Prop where
  header : input'.take ctx.options.hdrLen.toNat = segmentHeader ctx input 0 ctx.options.hdrLen.toNat
  data : input'.drop ctx.options.hdrLen.toNat = input.drop ctx.options.hdrLen.toNat
  length : input'.length = input.length

theorem FirstTurned.segmentEnd_eq
    {input' : Bytes} (turned : FirstTurned ctx input input') (start : Nat) :
    segmentEnd ctx.options input' start = segmentEnd ctx.options input start := by
  unfold segmentEnd
  rw [turned.length]

theorem FirstTurned.segmentBytes_eq {input' : Bytes} (within : ctx.Inside input)
    (turned : FirstTurned ctx input input')
    (i : Nat) {start : Nat} (behind : ctx.options.hdrLen.toNat ≤ start) :
    segmentBytes ctx input' i start = segmentBytes ctx input i start := by
  have ended := turned.segmentEnd_eq start
  have payload : segmentPayload ctx.options input' start =
      segmentPayload ctx.options input start := by
    have cut : ∀ bytes : Bytes, bytes.drop start = (bytes.drop ctx.options.hdrLen.toNat).drop
          (start - ctx.options.hdrLen.toNat) := by
      intro bytes
      rw [drop_drop]
      congr 1
      omega
    unfold segmentPayload window
    rw [ended, cut input', turned.data, ← cut input]
  have transport := within.transport
  have whole := within.header
  unfold segmentBytes
  congr 1
  unfold segmentHeader
  dsimp only
  rw [payload, ended, turned.length, turned.header]
  refine checksummed_congr within.start ?_ (changedAt_first _ _ _ _ _) _ _ _ _ _
  rw [length_take]
  omega

end Header

/-! ## The first turn -/

section Turn

variable {ctx : SegmentContext} {input outBuf : Bytes} {outOffset : Nat} {rest : List Bytes}

theorem inputIn_cons (length outOffset : Nat) (outBuf : Bytes) (rest : List Bytes) :
    inputIn length outOffset (outBuf :: rest) = window outBuf outOffset length :=
  rfl

/-- The view of the input depends on the first buffer alone. -/
theorem inputIn_set_succ (length outOffset i : Nat) (outBuf : Bytes) (outBufs : List Bytes) :
    inputIn length outOffset (outBufs.set (i + 1) outBuf) = inputIn length outOffset outBufs := by
  cases outBufs with
  | nil => rfl
  | cons first rest => rfl

/-- The memory of the input after its header was rewritten. -/
theorem window_rewritten (stored : window outBuf outOffset input.length = input)
    (room : outOffset + input.length ≤ outBuf.length) {header : Bytes}
    (short : header.length ≤ input.length) :
    window (overwrite outBuf outOffset header) outOffset input.length =
      header ++ input.drop header.length := by
  rw [window_overwrite_front room short, stored, overwrite_zero short]

/-- The first turn copies the input to where it is. -/
theorem writeSegmentIn_zero (within : ctx.Inside input)
    (stored : window outBuf outOffset input.length = input)
    (room : outOffset + input.length ≤ outBuf.length) {stop : Nat}
    (data : ctx.options.hdrLen.toNat ≤ stop)
    (inside : stop ≤ input.length) :
    writeSegmentIn ctx input.length outOffset 0 ctx.options.hdrLen.toNat stop (outBuf :: rest) =
      (writeSegment ctx input 0 ctx.options.hdrLen.toNat stop
        (outBuf.drop outOffset)).map fun out =>
          (outBuf.take outOffset ++ out) :: rest := by
  have takeLength := length_take_header within
  unfold writeSegmentIn writeSegment
  rw [List.getElem?_cons_zero, some_bind,
    sliceFrom?_eq_some (by omega), inputIn_cons, stored]
  simp only [some_bind]
  rw [slice?_eq_some (by omega) (by rw [length_drop]; omega), slice?_header within]
  simp only [some_bind]
  rw [overwrite_header within (by rw [length_drop]; omega),
    segmentIPHeader_eq within _ _ _ _ takeLength]
  simp only [some_bind]
  rw [segmentTransportHeader_eq within _ _ _ _ _ (by simpa using takeLength)]
  simp only [some_bind, set_cons_zero, inputIn_cons]
  generalize written : transportHeaderOf ctx 0 _ _ _ = patched
  have patchedLength : patched.length = ctx.options.hdrLen.toNat := by
    rw [← written, length_transportHeaderOf, length_ipHeaderOf, takeLength]
  -- The data is read from memory that the turn has already written to.
  have memory : outBuf.take outOffset ++ (patched ++
      (outBuf.drop outOffset).drop ctx.options.hdrLen.toNat) =
      overwrite outBuf outOffset patched := by
    rw [← take_append_overwrite (by omega),
      overwrite_zero (by rw [length_drop]; omega), patchedLength]
  have read : slice? (patched ++ input.drop patched.length) ctx.options.hdrLen.toNat stop =
      slice? input ctx.options.hdrLen.toNat stop := by
    rw [slice?_eq_some data inside, slice?_eq_some data (by
        rw [length_append, length_drop]
        omega), window, drop_left' patchedLength, patchedLength]
    rfl
  rw [memory, window_rewritten stored room (by omega), read]
  cases slice? input ctx.options.hdrLen.toNat stop with
  | none => rfl
  | some payload =>
    simp only [some_bind]
    cases segmentChecksum ctx (stop - ctx.options.hdrLen.toNat) _ _ with
    | none => rfl
    | some out => rfl

section

variable {length : Nat} {outBufs : List Bytes}
variable (known : (inputIn length outOffset outBufs).length = length)
include known

/-- Later turns read the first buffer and write another one. -/
theorem writeSegmentIn_succ {i start stop : Nat} :
    writeSegmentIn ctx length outOffset (i + 1) start stop outBufs =
      (outBufs[i + 1]?).bind fun outBuf =>
        (sliceFrom? outBuf outOffset).bind fun out =>
          (writeSegment ctx (inputIn length outOffset outBufs) (i + 1) start stop
            out).map fun out =>
              outBufs.set (i + 1) (outBuf.take outOffset ++ out) := by
  unfold writeSegmentIn writeSegment
  simp only [inputIn_set_succ, known, set_set]
  cases outBufs[i + 1]? with
  | none => rfl
  | some outBuf =>
    simp only [bind_eq_bind, bind_some]
    cases sliceFrom? outBuf outOffset with
    | none => rfl
    | some out =>
      simp only [bind_some, map_eq_bind, bind_assoc, Function.comp_def]

/-! ## The loop -/

/-- Behind the first buffer the loop is that of an input in other memory. -/
theorem splitLoopOver_succ {i start : Nat} {sizes : List Nat}
    (left : Nat) (buffers : outBufs.length = i + 1 + left) :
    splitLoopOver ctx length outOffset left (i + 1) start outBufs sizes =
      (splitLoop ctx (inputIn length outOffset outBufs) outOffset (i + 1) start
        (outBufs.drop (i + 1)) sizes).map fun loop =>
          (loop.1, loop.2.1, outBufs.take (i + 1) ++ loop.2.2.1, loop.2.2.2) := by
  induction left generalizing i start outBufs sizes with
  | zero =>
    have ended : outBufs.drop (i + 1) = [] := drop_of_length_le (by omega)
    have all : outBufs.take (i + 1) = outBufs := take_of_length_le (by omega)
    rw [splitLoopOver, ended, splitLoop, known]
    split
    · simp [all]
    · simp [all]
  | succ left ih =>
    have inside : i + 1 < outBufs.length := by omega
    have here : outBufs[i + 1]? = some outBufs[i + 1] := List.getElem?_eq_getElem inside
    rw [splitLoopOver, drop_eq_getElem_cons inside, splitLoop, known]
    split
    · simp
    · dsimp only
      rw [writeSegmentIn_succ known, here]
      simp only [bind_eq_bind, bind_some]
      cases setSize? sizes (i + 1) _ with
      | none => rfl
      | some sizes =>
        cases sliceFrom? outBufs[i + 1] outOffset with
        | none => rfl
        | some out =>
          simp only [bind_some]
          cases writeSegment ctx (inputIn length outOffset outBufs) (i + 1) start _ out with
          | none => rfl
          | some out =>
            simp only [map_some, bind_some]
            rw [ih (by rw [inputIn_set_succ, known])
              (by rw [length_set]; omega), inputIn_set_succ, drop_set_of_lt (by omega)]
            have taken : (outBufs.set (i + 1)
                (outBufs[i + 1].take outOffset ++ out)).take (i + 1 + 1) = outBufs.take (i + 1) ++
                  [outBufs[i + 1].take outOffset ++ out] := by
              rw [take_add_one, List.getElem?_set_self inside,
                List.take_set_of_le (le_rfl)]
              rfl
            rw [taken]
            cases splitLoop ctx (inputIn length outOffset outBufs)
              outOffset (i + 1 + 1) _ (outBufs.drop (i + 1 + 1)) sizes with
            | none => rfl
            | some loop => simp

end

/-- An input after the first turn gives the same outputs. -/
theorem FirstTurned.splitLoop_eq {input' : Bytes} (within : ctx.Inside input)
    (turned : FirstTurned ctx input input') (outBufs : List Bytes)
    (room : ∀ outBuf ∈ outBufs, outOffset + input.length ≤ outBuf.length)
    (i : Nat) {start : Nat} (behind : ctx.options.hdrLen.toNat ≤ start) (sizes : List Nat) :
    splitLoop ctx input' outOffset i start outBufs sizes =
      splitLoop ctx input outOffset i start outBufs sizes := by
  have within' : ctx.Inside input' :=
    { within with header := turned.length ▸ within.header }
  induction outBufs generalizing i start sizes with
  | nil => rw [splitLoop, splitLoop, turned.length]
  | cons outBuf rest ih =>
    by_cases data : input.length ≤ start
    · rw [splitLoop, splitLoop, turned.length, if_pos data, if_pos data]
    · have long := room outBuf mem_cons_self
      have ended : segmentEnd ctx.options input' start =
          segmentEnd ctx.options input start := turned.segmentEnd_eq start
      rw [splitLoop_cons (turned.length ▸ data), splitLoop_cons data, ended]
      cases setSize? sizes i _ with
      | none => rfl
      | some sizes =>
        have first := writeSegment_eq within i start (outBuf.drop outOffset)
          behind (by omega) (by rw [length_drop]; omega)
        have second := writeSegment_eq within' i start
          (outBuf.drop outOffset) behind (by rw [turned.length]; omega)
          (by rw [length_drop, turned.length]; omega)
        rw [turned.segmentBytes_eq within i behind, ended] at second
        rw [bind_some, bind_some, sliceFrom?_eq_some (by omega),
          bind_some, bind_some, first, second]
        rw [ih (fun buf member => room buf (mem_cons_of_mem _ member)) _ (by omega)]

/-- The memory of the first output after the first turn. -/
theorem firstTurned_written (within : ctx.Inside input)
    (stored : window outBuf outOffset input.length = input)
    (room : outOffset + input.length ≤ outBuf.length) :
    FirstTurned ctx input (window (overwrite outBuf outOffset
      (segmentBytes ctx input 0 ctx.options.hdrLen.toNat)) outOffset input.length) := by
  have header := within.header
  have ended := segmentEnd_le ctx.options input ctx.options.hdrLen.toNat
  have started := le_segmentEnd ctx.options header
  have headerLength := length_segmentHeader header 0 ctx.options.hdrLen.toNat
  have total := length_segmentBytes header 0 ctx.options.hdrLen.toNat
  -- The data of the first segment is followed by the rest of the input.
  have joined : window (overwrite outBuf outOffset
      (segmentBytes ctx input 0 ctx.options.hdrLen.toNat)) outOffset
        input.length = segmentHeader ctx input 0 ctx.options.hdrLen.toNat ++
        input.drop ctx.options.hdrLen.toNat := by
    rw [window_rewritten stored room (by omega), total,
      Nat.add_sub_cancel' started, segmentBytes, append_assoc,
      segmentPayload_append ctx.options header]
  rw [joined]
  constructor
  case header => exact take_left' headerLength
  case data => exact drop_left' headerLength
  case length =>
    rw [length_append, headerLength, length_drop]
    omega

end Turn

/-! ## The two runs -/

/-- The number of outputs that were populated. -/
def SplitResult.populated (result : SplitResult) : Nat :=
  if result.error = some .tooManySegments then result.outBufs.length
  else result.count.toNat

/-- The same return values and sizes, and the same octets in every populated
output. -/
structure SameOutputs (outOffset : Nat) (result result' : SplitResult) :
    Prop where
  count : result'.count = result.count
  error : result'.error = result.error
  sizes : result'.sizes = result.sizes
  packets : (packetsOf result'.outBufs result'.sizes outOffset).take result.populated =
      (packetsOf result.outBufs result.sizes outOffset).take result.populated

/-- The fields that a segmentation writes lie in the headers. -/
structure HeaderFields (options : GSOOptions) : Prop where
  start : 20 ≤ options.csumStart.toNat
  tcp : options.gsoType = .tcpv4 ∨ options.gsoType = .tcpv6 →
    options.csumStart.toNat + 20 ≤ options.hdrLen.toNat
  udp : options.gsoType = .udpl4 → options.csumStart.toNat + 8 ≤ options.hdrLen.toNat
  field : options.csumStart.toNat + options.csumOffset.toNat + 2 ≤ options.hdrLen.toNat

section Runs

variable {input outBuf : Bytes} {options : GSOOptions} {outOffset : Nat}
  {rest : List Bytes} {sizes : List Nat}

theorem sameOutputs_fail
    {error : GSOError} (other : error ≠ .tooManySegments) (input input' : Bytes)
    (outBufs outBufs' : List Bytes) (sizes : List Nat) (outOffset : Nat) :
    Option.Rel (SameOutputs outOffset) (SplitResult.fail error input outBufs sizes)
      (SplitResult.fail error input' outBufs' sizes) := by
  refine .some ⟨rfl, rfl, rfl, ?_⟩
  have nothing : (⟨0, some error, input, outBufs, sizes⟩ :
      SplitResult).populated = 0 := if_neg fun same => other (some.inj same)
  rw [nothing, take_zero, take_zero]

theorem rel_map {α β γ δ : Type} {R : α → β → Prop} {S : γ → δ → Prop} {left : Option α}
    {right : Option β} {f : α → γ} {g : β → δ} (related : Option.Rel R left right)
    (keeps : ∀ a b, R a b → S (f a) (g b)) :
    Option.Rel S (left.map f) (right.map g) := by
  cases related with
  | some pair => exact .some (keeps _ _ pair)
  | none => exact .none

theorem HeaderFields.inside (fields : HeaderFields options)
    (cut : Cut input options)
    {ctx : SegmentContext} (context : splitContext? options input (ipVersionOf input) = some ctx) :
    ctx.Inside input := by
  obtain ⟨other, found, rfl, -, protocol⟩ := cut.exists_context
  cases context.symm.trans found
  have tcp := fields.tcp
  constructor
  case start => exact fields.start
  case tcp =>
    intro own
    apply tcp
    by_contra other
    rw [own, if_neg other] at protocol
    cases protocol
  case transport =>
    cases type : ctx.options.gsoType with
    | none => exact absurd (.inl type) cut.several
    | tcpv4 =>
      have := tcp (.inl type)
      omega
    | tcpv6 =>
      have := tcp (.inr type)
      omega
    | udpl4 => exact fields.udp type
  case field => exact fields.field
  case header => exact cut.header

theorem stored_size {size : Nat} {sizes' : List Nat}
    (stored : setSize? sizes 0 size = some sizes') :
    sizes'[0]? = some size := by
  unfold setSize? at stored
  split at stored
  · rename_i slot
    cases stored
    exact List.getElem?_set_self slot
  · cases stored

/-- Only the first packets are to be compared. -/
theorem packetsOf_cons_congr {left right packet : Bytes} (first : sizes[0]? = some packet.length)
    (own : window left outOffset packet.length = packet)
    (other : window right outOffset packet.length = packet) :
    packetsOf (right :: rest) sizes outOffset = packetsOf (left :: rest) sizes outOffset := by
  cases sizes with
  | nil => cases first
  | cons size sizes =>
    cases first
    unfold packetsOf
    rw [zipWith_cons_cons, zipWith_cons_cons, own, other]

/-- The loops of the two runs. -/
theorem splitLoopOver_same {ctx : SegmentContext} {outBuf' : Bytes} (within : ctx.Inside input)
    (stored : window outBuf' outOffset input.length = input)
    (room : ∀ buf ∈ outBuf :: rest, outOffset + input.length ≤ buf.length)
    (room' : outOffset + input.length ≤ outBuf'.length) :
    Option.Rel (fun loop loop' => ∀ input', SameOutputs outOffset
        (SplitResult.ofLoop input loop) (SplitResult.ofLoop input' loop'))
      (splitLoop ctx input outOffset 0 ctx.options.hdrLen.toNat (outBuf :: rest)
        sizes) (splitLoopOver ctx input.length outOffset (rest.length + 1) 0
        ctx.options.hdrLen.toNat (outBuf' :: rest) sizes) := by
  by_cases done : input.length ≤ ctx.options.hdrLen.toNat
  · rw [splitLoop, splitLoopOver, if_pos done, if_pos done]
    exact .some fun _ => ⟨rfl, rfl, rfl, rfl⟩
  · have long := room outBuf mem_cons_self
    have ended := segmentEnd_le ctx.options input ctx.options.hdrLen.toNat
    have started := le_segmentEnd ctx.options within.header
    have total := length_segmentBytes within.header 0 ctx.options.hdrLen.toNat
    have own := writeSegment_eq within 0 ctx.options.hdrLen.toNat
      (outBuf.drop outOffset) (le_rfl) within.header (by rw [length_drop]; omega)
    have written := @writeSegmentIn_zero ctx input outBuf' outOffset rest within
      stored room' _ started ended
    rw [writeSegment_eq within 0 ctx.options.hdrLen.toNat
      (outBuf'.drop outOffset) (le_rfl) within.header
      (by rw [length_drop]; omega), map_some,
      take_append_overwrite (by omega)] at written
    have turned := firstTurned_written within stored room'
    rw [splitLoop_cons done, splitLoopOver, if_neg done]
    change Option.Rel _ _ (Option.bind (setSize? sizes 0 (ctx.options.hdrLen.toNat +
        (segmentEnd ctx.options input ctx.options.hdrLen.toNat -
          ctx.options.hdrLen.toNat))) fun sizes =>
        Option.bind (writeSegmentIn ctx input.length outOffset 0 ctx.options.hdrLen.toNat
          (segmentEnd ctx.options input ctx.options.hdrLen.toNat) (outBuf' :: rest)) _)
    rw [← total, written]
    cases sized : setSize? sizes 0 (segmentBytes ctx input 0 ctx.options.hdrLen.toNat).length with
    | none => exact .none
    | some sizes' =>
      rw [bind_some, bind_some, sliceFrom?_eq_some (by omega),
        bind_some, own, bind_some, bind_some, take_append_overwrite (by omega)]
      rw [splitLoopOver_succ (by rw [inputIn_cons, turned.length]) _
        (by rw [length_cons]; omega), inputIn_cons, drop_succ_cons, drop_zero]
      rw [turned.splitLoop_eq within _ (fun buf member => room buf
        (mem_cons_of_mem _ member)) _ (by omega)]
      cases tail : splitLoop ctx input outOffset (0 + 1)
        (ctx.options.hdrLen.toNat + ctx.options.gsoSize.toNat) rest sizes' with
      | none => exact .none
      | some loop =>
        obtain ⟨count, error, rest', sizes''⟩ := loop
        obtain ⟨_, -, kept, -⟩ := splitLoop_turned tail
        have first := stored_size sized
        rw [← kept.sizes 0 (.inl Nat.zero_lt_one)] at first
        refine .some fun _ => ⟨rfl, rfl, rfl, congrArg (List.take _) ?_⟩
        exact packetsOf_cons_congr first (window_overwrite (by omega)) (window_overwrite (by omega))

/-- A packet in one piece is copied to where it is. -/
theorem copySingleOver_same (single : Single input options) {outBuf' : Bytes}
    (stored : window outBuf' outOffset input.length = input)
    (room : outOffset + input.length ≤ outBuf.length)
    (room' : outOffset + input.length ≤ outBuf'.length) :
    Option.Rel (SameOutputs outOffset)
      (copySingle options input (outBuf :: rest) sizes outOffset)
      (copySingleOver options input.length (outBuf' :: rest) sizes outOffset) := by
  unfold copySingle copySingleOver
  rw [List.getElem?_cons_zero, List.getElem?_cons_zero]
  simp only [some_bind]
  rw [sliceFrom?_eq_some (by omega), sliceFrom?_eq_some (by omega)]
  simp only [some_bind]
  rw [if_neg (by rw [length_drop]; omega),
    if_neg (by rw [length_drop]; omega), inputIn_cons, stored]
  cases complete : completeChecksum options input with
  | none => exact .none
  | some packet =>
    have length := single.length_completeChecksum complete
    simp only [some_bind]
    rw [length]
    cases sized : setSize? sizes 0 input.length with
    | none => exact .none
    | some sizes' =>
      refine .some ⟨rfl, rfl, rfl, congrArg (List.take _) ?_⟩
      have first := stored_size sized
      rw [← length] at first
      have written : overwrite (outBuf'.drop outOffset) 0 packet =
          packet ++ (outBuf'.drop outOffset).drop packet.length :=
        overwrite_zero (by rw [length_drop]; omega)
      have again : overwrite (overwrite (outBuf'.drop outOffset) 0 packet) 0
          packet = overwrite (outBuf'.drop outOffset) 0 packet := by
        rw [written, overwrite_zero (by rw [length_append]; omega), drop_left]
      rw [← length, written, take_left, ← written, again,
        take_append_overwrite (by omega), take_append_overwrite (by omega)]
      exact packetsOf_cons_congr first (window_overwrite (by omega)) (window_overwrite (by omega))

end Runs

/-- The checks of the program on overlapping memory are the same. -/
theorem gsoSplitOver_plan {input : Bytes} {options : GSOOptions} {outBufs : List Bytes}
    {outOffset : Nat} (view : inputIn input.length outOffset outBufs = input) (sizes : List Nat) :
    gsoSplitOver input.length options outBufs sizes outOffset = match splitPlan input options with
      | .fail error => SplitResult.fail error input outBufs sizes
      | .single => copySingleOver options input.length outBufs sizes outOffset
      | .cut =>
        (splitContext? options input (ipVersionOf input)).bind fun ctx =>
          (splitLoopOver ctx input.length outOffset outBufs.length 0
            options.hdrLen.toNat outBufs sizes).map fun loop =>
              SplitResult.ofLoop (inputIn input.length outOffset loop.2.2.1)
                loop := by
  refine Eq.trans ?_ (checks_eq_splitPlan _ _ fun version =>
    (splitContext? options input version).bind _)
  unfold gsoSplitOver splitSegmentsOver
  simp only [view, map_eq_bind]
  rfl

/-- An input in the memory of the first output is cut as one in memory of its
own. -/
theorem gsoSplitOver_same
    (input : Bytes) (options : GSOOptions) (outBuf : Bytes) (rest : List Bytes)
    (sizes : List Nat) (outOffset : Nat) (fields : options.gsoType = .none ∨ HeaderFields options)
    (room : ∀ buf ∈ outBuf :: rest, outOffset + input.length ≤ buf.length) :
    Option.Rel (SameOutputs outOffset) (gsoSplit input options (outBuf :: rest) sizes outOffset)
      (gsoSplitOver input.length options
        (overwrite outBuf outOffset input :: rest) sizes outOffset) := by
  have long := room outBuf mem_cons_self
  have stored := window_overwrite long
  have room' : outOffset + input.length ≤ (overwrite outBuf outOffset input).length := by
    rw [length_overwrite long]
    exact long
  have view : inputIn input.length outOffset
      (overwrite outBuf outOffset input :: rest) = input := stored
  rw [gsoSplit_plan, gsoSplitOver_plan view]
  rcases splitPlan_cases input options with
    ⟨error, fails, other, -⟩ | ⟨single, plan⟩ | ⟨cut, plan⟩
  · rw [fails]
    exact sameOutputs_fail other _ _ _ _ _ _
  · rw [plan]
    exact copySingleOver_same single stored long room'
  · obtain ⟨ctx, context, same, -⟩ := cut.exists_context
    have fields : HeaderFields options := fields.resolve_left fun plain =>
      cut.several (.inl plain)
    have within := fields.inside cut context
    rw [plan, context]
    subst same
    exact rel_map (splitLoopOver_same within stored room room') fun _ _ outputs => outputs _

/-- The sample datagram at the front of the first of two outputs. -/
theorem gsoSplitOver_same_sample :
    HeaderFields sampleOptions ∧ Option.Rel (SameOutputs 0)
      (gsoSplit sampleDatagram sampleOptions [List.replicate 64 0, List.replicate 64 0] [0, 0] 0)
      (gsoSplitOver sampleDatagram.length sampleOptions
        [overwrite (List.replicate 64 0) 0 sampleDatagram, List.replicate 64 0] [0, 0] 0) := by
  have fields : HeaderFields sampleOptions := by
    constructor <;> decide
  refine ⟨fields, gsoSplitOver_same sampleDatagram sampleOptions _ _ [0, 0] 0 (.inr fields) ?_⟩
  decide

end SingTun.Offload
