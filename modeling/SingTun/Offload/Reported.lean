import SingTun.Offload.VirtioRead

/-!
# The count that `GSOSplit` returns

One turn of the loop populates one output.  When the data is used up, the
counter of the loop is the number of outputs.  When the outputs are used up,
the counter is that number too, and the program returns one less.
-/

namespace SingTun.Offload

open Foundation Header Option List

/-! ## The loop -/

/-- Output `i` holds the complete segment that starts at `start`. -/
structure Written (ctx : SegmentContext) (input : Bytes) (outOffset : Nat)
    (i start : Nat) (before after : Bytes) (size : Nat) : Prop where
  data : start < input.length
  body : ∃ out, writeSegment ctx input i start
      (segmentEnd ctx.options input start) (before.drop outOffset) = some out ∧
    after = before.take outOffset ++ out
  size : size = ctx.options.hdrLen.toNat + (segmentEnd ctx.options input start - start)

/-- What the loop leaves behind after `produced` turns from turn `i` on. -/
structure Turned (ctx : SegmentContext) (input : Bytes) (outOffset : Nat)
    (i start produced : Nat) (outBufs outBufs' : List Bytes)
    (sizes sizes' : List Nat) : Prop where
  populated : ∀ k < produced, ∃ before after size,
    outBufs[k]? = some before ∧ outBufs'[k]? = some after ∧
      sizes'[i + k]? = some size ∧ Written ctx input outOffset (i + k)
        (start + k * ctx.options.gsoSize.toNat) before after size
  buffers : ∀ k, produced ≤ k → outBufs'[k]? = outBufs[k]?
  sizes : ∀ j, j < i ∨ i + produced ≤ j → sizes'[j]? = sizes[j]?

/-- The data is used up, or the outputs are. -/
def Ended (ctx : SegmentContext) (input : Bytes) (i start produced : Nat)
    (outBufs : List Bytes) (count : Int) (error : Option GSOError) : Prop :=
  (error = none ∧ count = i + produced ∧
      input.length ≤ start + produced * ctx.options.gsoSize.toNat) ∨
    (error = some .tooManySegments ∧ count = i + produced - 1 ∧ produced = outBufs.length ∧
        start + produced * ctx.options.gsoSize.toNat < input.length)

section Loop

variable {ctx : SegmentContext} {input : Bytes} {outOffset : Nat}

theorem Turned.zero (i start : Nat) (outBufs : List Bytes) (sizes : List Nat) :
    Turned ctx input outOffset i start 0 outBufs outBufs sizes sizes where
  populated _ small := absurd small (Nat.not_lt_zero _)
  buffers _ _ := rfl
  sizes _ _ := rfl

/-- One turn in front of the others. -/
theorem Turned.cons {i start produced size : Nat} {before after : Bytes}
    {outBufs outBufs' : List Bytes} {sizes sizes' : List Nat} (slot : i < sizes.length)
    (first : Written ctx input outOffset i start before after size)
    (turned : Turned ctx input outOffset (i + 1)
      (start + ctx.options.gsoSize.toNat) produced outBufs outBufs' (sizes.set i size) sizes') :
    Turned ctx input outOffset i start (produced + 1) (before :: outBufs)
      (after :: outBufs') sizes sizes' := by
  constructor
  case populated =>
    intro k small
    cases k with
    | zero =>
      have stored : sizes'[i]? = some size := by
        rw [turned.sizes i (.inl (Nat.lt_succ_self i)), getElem?_set_self slot]
      refine ⟨before, after, size, rfl, rfl, stored, ?_⟩
      simpa using first
    | succ k =>
      obtain ⟨before', after', size', old, new, stored, written⟩ := turned.populated k (by omega)
      have place : i + 1 + k = i + (k + 1) := by omega
      have data : start + ctx.options.gsoSize.toNat + k * ctx.options.gsoSize.toNat =
          start + (k + 1) * ctx.options.gsoSize.toNat := by
        rw [Nat.succ_mul]
        omega
      rw [place] at stored written
      rw [data] at written
      exact ⟨before', after', size', old, new, stored, written⟩
  case buffers =>
    intro k large
    cases k with
    | zero => omega
    | succ k => exact turned.buffers k (by omega)
  case sizes =>
    intro j outside
    rw [turned.sizes j (by omega), getElem?_set_ne (by omega)]

theorem splitLoop_turned {i start : Nat} {outBufs outBufs' : List Bytes} {sizes sizes' : List Nat}
    {count : Int} {error : Option GSOError}
    (loop : splitLoop ctx input outOffset i start outBufs sizes =
      some (count, error, outBufs', sizes')) :
    ∃ produced, produced ≤ outBufs.length ∧
      Turned ctx input outOffset i start produced outBufs outBufs' sizes
        sizes' ∧ Ended ctx input i start produced outBufs count error := by
  induction outBufs generalizing i start sizes outBufs' sizes' with
  | nil =>
    rw [splitLoop] at loop
    split at loop
    · rename_i done
      cases loop
      exact ⟨0, Nat.zero_le _, .zero i start [] sizes, .inl ⟨rfl, by simp, by simpa using done⟩⟩
    · rename_i data
      cases loop
      exact ⟨0, Nat.zero_le _, .zero i start [] sizes,
        .inr ⟨rfl, by simp, rfl, by simpa using data⟩⟩
  | cons outBuf rest ih =>
    by_cases data : input.length ≤ start
    · rw [splitLoop, if_pos data] at loop
      cases loop
      exact ⟨0, Nat.zero_le _, .zero i start _ sizes, .inl ⟨rfl, by simp, by simpa using data⟩⟩
    · rw [splitLoop_cons data] at loop
      obtain ⟨stored, sized, loop⟩ := bind_eq_some_iff.mp loop
      obtain ⟨out, sliced, loop⟩ := bind_eq_some_iff.mp loop
      obtain ⟨written, body, loop⟩ := bind_eq_some_iff.mp loop
      obtain ⟨⟨_, _, rest', _⟩, tail, loop⟩ := map_eq_some_iff.mp loop
      cases loop
      unfold setSize? at sized
      split at sized
      · rename_i slot
        cases sized
        unfold sliceFrom? at sliced
        split at sliced
        · cases sliced
          obtain ⟨produced, fits, turned, ended⟩ := ih tail
          have first : Written ctx input outOffset i start outBuf
              (outBuf.take outOffset ++ written) (ctx.options.hdrLen.toNat +
                (segmentEnd ctx.options input start - start)) :=
            ⟨by omega, ⟨written, body, rfl⟩, rfl⟩
          refine ⟨produced + 1, Nat.succ_le_succ fits, turned.cons slot first, ?_⟩
          have data : start + ctx.options.gsoSize.toNat + produced * ctx.options.gsoSize.toNat =
              start + (produced + 1) * ctx.options.gsoSize.toNat := by
            rw [Nat.succ_mul]
            omega
          rcases ended with ⟨clean, counted, used⟩ | ⟨many, counted, all, more⟩
          · exact .inl ⟨clean, by push_cast at counted ⊢; omega, data ▸ used⟩
          · exact .inr ⟨many, by push_cast at counted ⊢; omega,
              congrArg Nat.succ all, data ▸ more⟩
        · cases sliced
      · cases sized

end Loop

/-! ## The call -/

/-- Output `k` holds a complete packet: the whole one, or segment `k`. -/
inductive Complete (input : Bytes) (options : GSOOptions) (outOffset : Nat) :
    Nat → Bytes → Bytes → Nat → Prop
  | whole {before packet : Bytes}
      (single : Single input options)
      (stored : completeChecksum options input = some packet)
      (fits : outOffset + packet.length ≤ before.length) :
      Complete input options outOffset 0 before
        (before.take outOffset ++ overwrite (before.drop outOffset) 0 packet) packet.length
  | segment {k : Nat} {before after : Bytes} {size : Nat} {ctx : SegmentContext}
      (cut : Cut input options)
      (context : splitContext? options input (ipVersionOf input) = some ctx)
      (written : Written ctx input outOffset k
        (options.hdrLen.toNat + k * options.gsoSize.toNat) before after size) :
      Complete input options outOffset k before after size

/-- The count is the number of leading outputs that were populated, and no
other output was written. -/
structure Reports (input : Bytes) (options : GSOOptions) (outOffset : Nat)
    (outBufs : List Bytes) (sizes : List Nat) (result : SplitResult) :
    Prop where
  leading : ∃ n : Nat, result.count = n ∧ (∀ k < n, ∃ before after size,
      outBufs[k]? = some before ∧ result.outBufs[k]? = some after ∧ result.sizes[k]? = some size ∧
        Complete input options outOffset k before after size) ∧
    ∀ k, n ≤ k → result.outBufs[k]? = outBufs[k]? ∧ result.sizes[k]? = sizes[k]?

section Call

variable {input : Bytes} {options : GSOOptions} {outOffset : Nat}
  {outBufs : List Bytes} {sizes : List Nat} {result : SplitResult}

theorem reports_fail {error : GSOError}
    (failed : SplitResult.fail error input outBufs sizes = some result) :
    Reports input options outOffset outBufs sizes result := by
  cases failed
  exact ⟨0, rfl, nofun, fun _ _ => ⟨rfl, rfl⟩⟩

theorem Single.length_completeChecksum (single : Single input options) {packet : Bytes}
    (stored : completeChecksum options input = some packet) :
    packet.length = input.length := by
  unfold completeChecksum at stored
  split at stored
  · rw [storeChecksum_eq single.field] at stored
    cases stored
    exact length_writeU16 _ _ _
  · cases stored
    rfl

theorem Single.reports (single : Single input options)
    (copied : copySingle options input outBufs sizes outOffset = some result) :
    Reports input options outOffset outBufs sizes result := by
  obtain ⟨outBuf, first, copied⟩ := bind_eq_some_iff.mp copied
  obtain ⟨out, sliced, copied⟩ := bind_eq_some_iff.mp copied
  unfold sliceFrom? at sliced
  split at sliced
  · rename_i inside
    cases sliced
    split at copied
    · exact reports_fail copied
    · rename_i room
      obtain ⟨packet, stored, copied⟩ := bind_eq_some_iff.mp copied
      obtain ⟨sizes', sized, copied⟩ := bind_eq_some_iff.mp copied
      cases copied
      unfold setSize? at sized
      split at sized
      · rename_i slot
        cases sized
        have length := single.length_completeChecksum stored
        rw [length_drop] at room
        obtain ⟨inside', -⟩ := List.getElem?_eq_some_iff.mp first
        refine ⟨1, rfl, ?_, ?_⟩
        · intro k small
          cases Nat.lt_one_iff.mp small
          refine ⟨outBuf, _, _, first, getElem?_set_self inside',
            getElem?_set_self slot, .whole single stored (by omega)⟩
        · intro k large
          exact ⟨getElem?_set_ne (by omega), getElem?_set_ne (by omega)⟩
      · cases sized
  · cases sliced

variable (cut : Cut input options)
include cut

/-- The runs of the loop, as results of the call. -/
theorem Cut.turned (returned : gsoSplit input options outBufs sizes outOffset = some result) :
    ∃ ctx produced, splitContext? options input (ipVersionOf input) = some ctx ∧
      ctx.options = options ∧ produced ≤ outBufs.length ∧
      Turned ctx input outOffset 0 options.hdrLen.toNat produced outBufs
        result.outBufs sizes result.sizes ∧
      Ended ctx input 0 options.hdrLen.toNat produced outBufs result.count result.error := by
  obtain ⟨ctx, context, same, -⟩ := cut.exists_context
  rw [cut.gsoSplit_eq, context, bind_some] at returned
  obtain ⟨loop, run, rfl⟩ := map_eq_some_iff.mp returned
  obtain ⟨produced, fits, turned, ended⟩ := splitLoop_turned run
  exact ⟨ctx, produced, context, same, fits, turned, ended⟩

theorem Cut.reports
    (enough : input.length ≤ options.hdrLen.toNat + outBufs.length * options.gsoSize.toNat)
    (returned : gsoSplit input options outBufs sizes outOffset = some result) :
    Reports input options outOffset outBufs sizes result := by
  obtain ⟨ctx, produced, context, rfl, fits, turned, ended⟩ := cut.turned returned
  rcases ended with ⟨-, counted, -⟩ | ⟨-, -, all, more⟩
  · refine ⟨produced, by simpa using counted, ?_, ?_⟩
    · intro k small
      obtain ⟨before, after, size, old, new, stored, written⟩ := turned.populated k small
      rw [Nat.zero_add] at stored written
      exact ⟨before, after, size, old, new, stored, .segment cut context written⟩
    · intro k large
      exact ⟨turned.buffers k large, turned.sizes k (.inr (by omega))⟩
  · rw [all] at more
    omega

/-- A packet that is cut and has its fields inside gives a result. -/
theorem Cut.isSome
    (inside : options.gsoType = .udpl4 → options.hdrLen.toNat < input.length →
      (options.csumStart + 4).toNat + 2 ≤ input.length)
    (lengths : ∀ outBuf ∈ outBufs, outOffset + input.length ≤ outBuf.length)
    (slots : sizes.length = outBufs.length) :
    (gsoSplit input options outBufs sizes outOffset).isSome = true := by
  obtain ⟨ctx, context, rfl, version, protocol⟩ := cut.exists_context
  rw [cut.gsoSplit_eq, context, bind_some, isSome_map]
  refine @splitLoop_isSome ctx input outOffset input.length cut.header cut.ordered 0 _ outBufs
    sizes lengths (by omega) fun data => ?_
  have header := cut.length
  have ended := segmentEnd_le ctx.options input ctx.options.hdrLen.toNat
  have field := cut.field
  have seqAt : (ctx.options.csumStart + 4).toNat ≤ ctx.options.csumStart.toNat + 4 :=
    Nat.mod_le _ _
  have flagsAt : (ctx.options.csumStart + .ofNat tcpFlagsOffset).toNat ≤
    ctx.options.csumStart.toNat + 13 := Nat.mod_le _ _
  have fieldAt : (ctx.options.csumStart + ctx.options.csumOffset).toNat ≤
    ctx.options.csumStart.toNat + ctx.options.csumOffset.toNat := Nat.mod_le _ _
  refine ⟨by omega, fun _ => by omega, fun _ => by omega, fun tcp => ?_, fun udp => ?_, by omega⟩
  · have type : ctx.options.gsoType = .tcpv4 ∨ ctx.options.gsoType = .tcpv6 := by
      by_contra other
      rw [tcp, if_neg other] at protocol
      cases protocol
    have long := cut.tcp type
    omega
  · refine inside ?_ data
    have other : ¬(ctx.options.gsoType = .tcpv4 ∨ ctx.options.gsoType = .tcpv6) :=
      fun type => udp (protocol.trans (if_pos type))
    cases type : ctx.options.gsoType with
    | none => exact absurd (.inl type) cut.several
    | tcpv4 => exact absurd (.inl type) other
    | tcpv6 => exact absurd (.inr type) other
    | udpl4 => rfl

/-- The length field of a UDP packet that gives segments is inside of it. -/
theorem Cut.field_inside (count outOffset : Nat) (positive : 0 < count)
    (returned : gsoSplit input options
      (replicate count (replicate (outOffset + input.length) 0))
      (replicate count 0) outOffset = some result)
    (udp : options.gsoType = .udpl4)
    (data : options.hdrLen.toNat < input.length) :
    (options.csumStart + 4).toNat + 2 ≤ input.length := by
  obtain ⟨ctx, context, same, -, protocol⟩ := cut.exists_context
  have rooms := (cut.isSome_iff (by simpa using Nat.ne_of_gt positive) (fun buf member => by
    rw [eq_of_mem_replicate member, length_replicate]) (by simp)).mp
    (isSome_iff_exists.mpr ⟨_, returned⟩)
  have room := (rooms data ctx context).udp (by
    rw [protocol, udp]
    decide)
  rwa [same] at room

end Call

/--
Every call with long outputs returns and reports what it produced, exactly if a
packet in one piece has an output, and a packet that is cut has enough of them
and, for UDP, its length field inside.
-/
theorem gsoSplit_reports_iff (input : Bytes) (options : GSOOptions) (count outOffset : Nat) :
    (∀ (outBufs : List Bytes) (sizes : List Nat),
      outBufs.length = count → sizes.length = count →
      (∀ outBuf ∈ outBufs, outOffset + input.length ≤ outBuf.length) →
      ∃ result, gsoSplit input options outBufs sizes outOffset = some result ∧
        Reports input options outOffset outBufs sizes result) ↔
      (Single input options → 0 < count) ∧
        (Cut input options →
          input.length ≤ options.hdrLen.toNat + count * options.gsoSize.toNat ∧
          (options.gsoType = .udpl4 → options.hdrLen.toNat < input.length →
            (options.csumStart + 4).toNat + 2 ≤ input.length)) := by
  constructor
  · intro reports
    have long : ∀ outBuf ∈ replicate count (replicate (outOffset + input.length) 0),
        outOffset + input.length ≤ @List.length UInt8 outBuf := by
      intro outBuf member
      rw [eq_of_mem_replicate member, length_replicate]
    refine ⟨fun single => ?_, fun cut => ?_⟩
    · by_contra none
      obtain rfl : count = 0 := by omega
      obtain ⟨result, returned, -⟩ := reports [] [] rfl rfl nofun
      rw [single.gsoSplit_eq] at returned
      cases returned
    · have enough : input.length ≤ options.hdrLen.toNat + count * options.gsoSize.toNat := by
        by_contra more
        -- A size that no segment has, in all outputs.
        obtain ⟨result, returned, n, counted, -, unchanged⟩ := reports _
          (replicate count (options.hdrLen.toNat + options.gsoSize.toNat + 1))
          length_replicate length_replicate long
        obtain ⟨ctx, produced, context, rfl, fits, turned, ended⟩ := cut.turned returned
        rw [length_replicate] at fits
        rcases ended with ⟨-, -, used⟩ | ⟨-, short, all, -⟩
        · have less := Nat.mul_le_mul_right ctx.options.gsoSize.toNat fits
          omega
        · rw [length_replicate] at all
          subst all
          have last : n < produced := by omega
          obtain ⟨_, _, size, -, -, stored, written⟩ := turned.populated n last
          have kept := (unchanged n (Nat.le_refl n)).2
          rw [Nat.zero_add] at stored
          rw [stored, getElem?_replicate, if_pos last] at kept
          have sized := written.size
          cases kept
          unfold segmentEnd at sized
          split at sized <;> omega
      refine ⟨enough, fun udp data => ?_⟩
      obtain ⟨result, returned, -⟩ := reports _ (replicate count 0)
        length_replicate length_replicate long
      refine cut.field_inside count outOffset (Nat.pos_of_ne_zero ?_) returned udp data
      rintro rfl
      omega
  · rintro ⟨one, enough⟩ outBufs sizes buffers slots room
    rcases splitPlan_cases input options with
      ⟨error, fails, -⟩ | ⟨single, -⟩ | ⟨cut, -⟩
    · rw [gsoSplit_plan, fails]
      exact ⟨_, rfl, reports_fail rfl⟩
    · have nonempty : outBufs ≠ [] := ne_nil_of_length_pos (buffers ▸ one single)
      obtain ⟨result, returned⟩ := isSome_iff_exists.mp (single.isSome nonempty
        (fun outBuf member => Nat.le_of_add_right_le (room outBuf member))
        (slots.trans buffers.symm))
      refine ⟨result, returned, ?_⟩
      rw [single.gsoSplit_eq] at returned
      exact single.reports returned
    · obtain ⟨few, inside⟩ := enough cut
      obtain ⟨result, returned⟩ := isSome_iff_exists.mp (cut.isSome inside room
        (slots.trans buffers.symm))
      exact ⟨result, returned, cut.reports (buffers ▸ few) returned⟩

/-- Two segments for one output: it is populated, and the count is zero. -/
theorem gsoSplit_count_short :
    ∃ result, gsoSplit sampleDatagram sampleOptions [replicate 64 0] [0] 0 =
        some result ∧ result.count = 0 ∧ result.error = some .tooManySegments ∧
      ¬Reports sampleDatagram sampleOptions 0 [replicate 64 0] [0]
        result := by
  have run : (gsoSplit sampleDatagram sampleOptions [replicate 64 0] [0]
      0).map (fun result => (result.count, result.error, result.sizes)) =
      some (0, some .tooManySegments, [30]) := by decide +kernel
  obtain ⟨result, returned, values⟩ := map_eq_some_iff.mp run
  injection values with counted rest
  injection rest with failed sized
  refine ⟨result, returned, counted, failed, ?_⟩
  rintro ⟨n, same, -, unchanged⟩
  have kept := (unchanged 0 (by omega)).2
  rw [sized] at kept
  cases kept

end SingTun.Offload
