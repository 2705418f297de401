import Driscord.Sfu.RtpHeader
import Driscord.Library.SerialNumber

/-!
# The RTP slot rewriter

`RtpSlotRewriter` gives the packets of changing publishers one continuous
sequence-number and timestamp timeline.  Each source change advances a
generation counter, and packets stamped with an older generation are refused.

The counter is modelled by the number of source changes; its 64-bit value is
that number modulo `2 ^ 64`, which is what `rewrite` compares.

Main results:

- Theorem `rewrite_beginSource` and theorem `rewrite_running`: the outcome of
  one call on a well-formed packet, for the first packet of a source and for a
  later one.
- Theorem `inOrderStream_forwarded_iff`: an in-order stream is forwarded
  completely exactly when it has at most `2 ^ 15` packets, because the anchor
  of the serial comparison never moves.
-/

namespace Driscord
namespace Sfu

open Library

/-- State of one `RtpSlotRewriter`. -/
structure RtpSlotRewriter where
  clockRate : UInt32
  timestampStep : UInt32
  generation : Nat := 0
  sourceInitialized : Bool := false
  outputInitialized : Bool := false
  sourceAnchorSequence : UInt16 := 0
  latestInputSequence : UInt16 := 0
  latestOutputSequence : UInt16 := 0
  sequenceOffset : UInt16 := 0
  latestInputTimestamp : UInt32 := 0
  latestOutputTimestamp : UInt32 := 0
  timestampOffset : UInt32 := 0
deriving DecidableEq, Repr

namespace RtpSlotRewriter

/-- The constructor: a rewriter without source and without output. -/
def create (clockRate defaultTimestampStep : UInt32) : RtpSlotRewriter where
  clockRate := clockRate
  timestampStep := defaultTimestampStep

/-- Two counts of source changes have the same `uint64_t` value. -/
def SameGeneration (left right : Nat) : Prop :=
  left % 2 ^ 64 = right % 2 ^ 64

instance (left right : Nat) : Decidable (SameGeneration left right) :=
  inferInstanceAs (Decidable (left % 2 ^ 64 = right % 2 ^ 64))

/-- `end_source`. -/
def endSource (rewriter : RtpSlotRewriter) : RtpSlotRewriter :=
  { rewriter with
    generation := rewriter.generation + 1
    sourceInitialized := false }

/-- `begin_source`: the new generation and the new state. -/
def beginSource (rewriter : RtpSlotRewriter) : Nat × RtpSlotRewriter :=
  let started := rewriter.endSource
  (started.generation, started)

@[simp]
theorem endSource_generation (rewriter : RtpSlotRewriter) :
    rewriter.endSource.generation = rewriter.generation + 1 :=
  rfl

@[simp]
theorem beginSource_fst (rewriter : RtpSlotRewriter) :
    rewriter.beginSource.1 = rewriter.generation + 1 :=
  rfl

@[simp]
theorem beginSource_snd (rewriter : RtpSlotRewriter) :
    rewriter.beginSource.2 = rewriter.endSource :=
  rfl

/-- `sequence_is_newer`. -/
def sequenceIsNewer (value reference : UInt16) : Bool :=
  decide (0 < serialDistance value reference)

/-- The branch of `rewrite` that starts a source: fix the anchor and choose the
offsets that continue the output timeline. -/
def anchorSource (rewriter : RtpSlotRewriter) (inputSequence : UInt16)
    (inputTimestamp : UInt32) : RtpSlotRewriter :=
  { rewriter with
    sourceAnchorSequence := inputSequence
    sequenceOffset :=
      if rewriter.outputInitialized then
        rewriter.latestOutputSequence + 1 - inputSequence
      else 0
    timestampOffset :=
      if rewriter.outputInitialized then
        rewriter.latestOutputTimestamp + rewriter.timestampStep - inputTimestamp
      else 0
    sourceInitialized := true
    latestInputSequence := inputSequence
    latestInputTimestamp := inputTimestamp }

/-- The tail of `rewrite`: a packet that advances the timeline becomes the
latest one and teaches the timestamp step. -/
def recordLatest (rewriter : RtpSlotRewriter) (firstForSource : Bool)
    (inputSequence : UInt16) (inputTimestamp : UInt32) : RtpSlotRewriter :=
  if firstForSource || !rewriter.outputInitialized
      || sequenceIsNewer inputSequence rewriter.latestInputSequence then
    let inputDelta := inputTimestamp - rewriter.latestInputTimestamp
    { rewriter with
      timestampStep :=
        if 0 < inputDelta ∧ inputDelta ≤ rewriter.clockRate * 10 then inputDelta
        else rewriter.timestampStep
      latestInputSequence := inputSequence
      latestInputTimestamp := inputTimestamp
      latestOutputSequence := inputSequence + rewriter.sequenceOffset
      latestOutputTimestamp := inputTimestamp + rewriter.timestampOffset
      outputInitialized := true }
  else rewriter

/-- Write the output sequence number and timestamp and update the timeline. -/
def emit (rewriter : RtpSlotRewriter) (packet : Bytes) (firstForSource : Bool) :
    Bool × Bytes × RtpSlotRewriter :=
  let inputSequence := networkU16 packet 2
  let inputTimestamp := networkU32 packet 4
  (true,
    setNetworkU32
      (setNetworkU16 packet 2 (inputSequence + rewriter.sequenceOffset)) 4
      (inputTimestamp + rewriter.timestampOffset),
    rewriter.recordLatest firstForSource inputSequence inputTimestamp)

/-- `rewrite`: the verdict, the edited packet and the new state. -/
def rewrite (isRtcp : Bytes → Bool) (rewriter : RtpSlotRewriter) (packet : Bytes)
    (sourceGeneration : Nat) (outputSsrc : UInt32) (midId : Option UInt8) :
    Bool × Bytes × RtpSlotRewriter :=
  let slotted := rewriteRtpForSlot isRtcp packet outputSsrc midId
  if slotted.1 then
    if SameGeneration sourceGeneration rewriter.generation then
      if rewriter.sourceInitialized then
        if serialDistance (networkU16 slotted.2 2) rewriter.sourceAnchorSequence < 0 then
          (false, slotted.2, rewriter)
        else rewriter.emit slotted.2 false
      else
        (rewriter.anchorSource (networkU16 slotted.2 2) (networkU32 slotted.2 4)).emit
          slotted.2 true
    else (false, slotted.2, rewriter)
  else (false, slotted.2, rewriter)

/-! ## Frame facts -/

@[simp]
theorem recordLatest_generation (rewriter : RtpSlotRewriter) (first : Bool)
    (sequence : UInt16) (timestamp : UInt32) :
    (rewriter.recordLatest first sequence timestamp).generation = rewriter.generation := by
  unfold recordLatest
  split <;> rfl

@[simp]
theorem recordLatest_sourceInitialized (rewriter : RtpSlotRewriter) (first : Bool)
    (sequence : UInt16) (timestamp : UInt32) :
    (rewriter.recordLatest first sequence timestamp).sourceInitialized =
      rewriter.sourceInitialized := by
  unfold recordLatest
  split <;> rfl

@[simp]
theorem recordLatest_sourceAnchorSequence (rewriter : RtpSlotRewriter) (first : Bool)
    (sequence : UInt16) (timestamp : UInt32) :
    (rewriter.recordLatest first sequence timestamp).sourceAnchorSequence =
      rewriter.sourceAnchorSequence := by
  unfold recordLatest
  split <;> rfl

@[simp]
theorem recordLatest_sequenceOffset (rewriter : RtpSlotRewriter) (first : Bool)
    (sequence : UInt16) (timestamp : UInt32) :
    (rewriter.recordLatest first sequence timestamp).sequenceOffset =
      rewriter.sequenceOffset := by
  unfold recordLatest
  split <;> rfl

/-- Rewriting never advances the generation. -/
@[simp]
theorem rewrite_generation (isRtcp : Bytes → Bool) (rewriter : RtpSlotRewriter)
    (packet : Bytes) (sourceGeneration : Nat) (outputSsrc : UInt32)
    (midId : Option UInt8) :
    (rewriter.rewrite isRtcp packet sourceGeneration outputSsrc midId).2.2.generation =
      rewriter.generation := by
  unfold rewrite
  dsimp only
  split_ifs
  · rfl
  · simp [emit]
  · simp [emit, anchorSource]
  · rfl
  · rfl

/-- A packet is only rewritten under the current generation. -/
theorem sameGeneration_of_rewrite {isRtcp : Bytes → Bool} {rewriter : RtpSlotRewriter}
    {packet : Bytes} {sourceGeneration : Nat} {outputSsrc : UInt32}
    {midId : Option UInt8}
    (h : (rewriter.rewrite isRtcp packet sourceGeneration outputSsrc midId).1 = true) :
    SameGeneration sourceGeneration rewriter.generation := by
  by_contra hgen
  simp [rewrite, hgen] at h

/-! ## One call on a well-formed packet -/

/-- What an accepted call yields: an output sequence number shifted by the
current offset, and a state with the same source. -/
structure Emitted (rewriter : RtpSlotRewriter) (input : UInt16)
    (result : Bool × Bytes × RtpSlotRewriter) : Prop where
  accepted : result.1 = true
  output : networkU16 result.2.1 2 = input + rewriter.sequenceOffset
  generation : result.2.2.generation = rewriter.generation
  initialized : result.2.2.sourceInitialized = rewriter.sourceInitialized
  anchor : result.2.2.sourceAnchorSequence = rewriter.sourceAnchorSequence
  offset : result.2.2.sequenceOffset = rewriter.sequenceOffset

theorem emit_emitted (rewriter : RtpSlotRewriter) {packet : Bytes}
    (hsize : fixedHeaderSize ≤ packet.length) (first : Bool) :
    Emitted rewriter (networkU16 packet 2) (rewriter.emit packet first) := by
  refine ⟨rfl, ?_, by simp [emit], by simp [emit], by simp [emit], by simp [emit]⟩
  unfold fixedHeaderSize at hsize
  rw [emit]
  dsimp only
  rw [networkU16_setNetworkU32_of_disjoint _ _ (by omega),
    networkU16_setNetworkU16 _ _ _ (by omega)]

section

variable {isRtcp : Bytes → Bool} {rewriter : RtpSlotRewriter} {packet : Bytes}
variable {sourceGeneration : Nat}

/-- The first well-formed packet of a source is accepted and becomes the anchor. -/
theorem rewrite_beginSource (outputSsrc : UInt32) (midId : Option UInt8)
    (hpacket : WellFormedRtp isRtcp packet)
    (hgeneration : SameGeneration sourceGeneration rewriter.generation)
    (hfresh : rewriter.sourceInitialized = false) :
    ∃ timestamp : UInt32,
      Emitted (rewriter.anchorSource (networkU16 packet 2) timestamp) (networkU16 packet 2)
        (rewriter.rewrite isRtcp packet sourceGeneration outputSsrc midId) := by
  rcases rewriteRtpForSlot_of_wellFormed outputSsrc midId hpacket with
    ⟨slotted, hslotted, hsequence, hsize⟩
  refine ⟨networkU32 slotted 4, ?_⟩
  have hcall : rewriter.rewrite isRtcp packet sourceGeneration outputSsrc midId =
      (rewriter.anchorSource (networkU16 slotted 2) (networkU32 slotted 4)).emit
        slotted true := by
    simp [rewrite, hslotted, hgeneration, hfresh]
  rw [hcall, ← hsequence]
  exact emit_emitted _ hsize true

/-- A later packet that is serially behind the anchor is refused. -/
theorem rewrite_behind (outputSsrc : UInt32) (midId : Option UInt8)
    (hpacket : WellFormedRtp isRtcp packet)
    (hgeneration : SameGeneration sourceGeneration rewriter.generation)
    (hrunning : rewriter.sourceInitialized = true)
    (hbehind : serialDistance (networkU16 packet 2) rewriter.sourceAnchorSequence < 0) :
    (rewriter.rewrite isRtcp packet sourceGeneration outputSsrc midId).1 = false := by
  rcases rewriteRtpForSlot_of_wellFormed outputSsrc midId hpacket with
    ⟨slotted, hslotted, hsequence, hsize⟩
  rw [← hsequence] at hbehind
  simp [rewrite, hslotted, hgeneration, hrunning, hbehind]

/-- A later packet that is not behind the anchor is accepted. -/
theorem rewrite_running (outputSsrc : UInt32) (midId : Option UInt8)
    (hpacket : WellFormedRtp isRtcp packet)
    (hgeneration : SameGeneration sourceGeneration rewriter.generation)
    (hrunning : rewriter.sourceInitialized = true)
    (hahead : ¬ serialDistance (networkU16 packet 2) rewriter.sourceAnchorSequence < 0) :
    Emitted rewriter (networkU16 packet 2)
      (rewriter.rewrite isRtcp packet sourceGeneration outputSsrc midId) := by
  rcases rewriteRtpForSlot_of_wellFormed outputSsrc midId hpacket with
    ⟨slotted, hslotted, hsequence, hsize⟩
  rw [← hsequence] at hahead ⊢
  have hcall : rewriter.rewrite isRtcp packet sourceGeneration outputSsrc midId =
      rewriter.emit slotted false := by
    simp [rewrite, hslotted, hgeneration, hrunning, hahead]
  rw [hcall]
  exact emit_emitted rewriter hsize false

end

/-! ## In-order streams -/

/-- The packet of one `rewrite` call with its slot arguments. -/
structure RewriteCall where
  packet : Bytes
  outputSsrc : UInt32
  midId : Option UInt8

/-- The sequence number of the call's packet. -/
def RewriteCall.sequence (call : RewriteCall) : UInt16 :=
  networkU16 call.packet 2

/-- The verdicts and output packets of successive calls under one generation. -/
def rewriteAll (isRtcp : Bytes → Bool) (sourceGeneration : Nat) :
    RtpSlotRewriter → List RewriteCall → List (Bool × Bytes)
  | _, [] => []
  | rewriter, call :: calls =>
      let result :=
        rewriter.rewrite isRtcp call.packet sourceGeneration call.outputSsrc call.midId
      (result.1, result.2.1) :: rewriteAll isRtcp sourceGeneration result.2.2 calls

/-- Every call succeeded and the output sequence numbers are consecutive. -/
def StreamForwarded (results : List (Bool × Bytes)) : Prop :=
  (∀ result ∈ results, result.1 = true) ∧
    Consecutive (results.map fun result => networkU16 result.2 2)

section

variable {isRtcp : Bytes → Bool} {sourceGeneration : Nat}

/-- While every call of a running source succeeds, the output numbers are the
input numbers shifted by the offset. -/
theorem rewriteAll_outputs {rewriter : RtpSlotRewriter} {calls : List RewriteCall}
    (hgeneration : SameGeneration sourceGeneration rewriter.generation)
    (hrunning : rewriter.sourceInitialized = true)
    (hcalls : ∀ call ∈ calls, WellFormedRtp isRtcp call.packet)
    (hok : ∀ result ∈ rewriteAll isRtcp sourceGeneration rewriter calls,
      result.1 = true) :
    (rewriteAll isRtcp sourceGeneration rewriter calls).map
        (fun result => networkU16 result.2 2) =
      (calls.map RewriteCall.sequence).map (· + rewriter.sequenceOffset) := by
  induction calls generalizing rewriter with
  | nil => rfl
  | cons call calls ih =>
      have hwf := hcalls call List.mem_cons_self
      simp only [rewriteAll, List.mem_cons, forall_eq_or_imp] at hok
      have hahead : ¬ serialDistance (networkU16 call.packet 2)
          rewriter.sourceAnchorSequence < 0 := by
        intro hbehind
        rw [rewrite_behind call.outputSsrc call.midId hwf hgeneration hrunning
          hbehind] at hok
        exact absurd hok.1 (by simp)
      have hstep := rewrite_running call.outputSsrc call.midId hwf hgeneration
        hrunning hahead
      have hrest := ih (by rw [hstep.generation]; exact hgeneration)
        (by rw [hstep.initialized]; exact hrunning)
        (fun other hother => hcalls other (List.mem_cons_of_mem _ hother)) hok.2
      simp only [rewriteAll, List.map_cons, hrest, hstep.output, hstep.offset]
      rfl

/-- The second of two consecutive numbers, read off the rest of a stream. -/
theorem sequence_of_mem_head? {call : RewriteCall} {calls : List RewriteCall}
    (horder : Consecutive ((call :: calls).map RewriteCall.sequence)) :
    ∀ next ∈ calls.head?, next.sequence = call.sequence + 1 := by
  intro next hmem
  cases calls with
  | nil => simp at hmem
  | cons second rest =>
      simp only [List.head?_cons, Option.mem_def, Option.some.injEq] at hmem
      subst hmem
      simpa using (List.isChain_cons_cons.mp horder).1

/-- From the packet `k` places after the anchor on, all calls succeed exactly
when the stream ends within the half range. -/
theorem rewriteAll_accepts_iff {rewriter : RtpSlotRewriter} {calls : List RewriteCall}
    {k : Nat} (hgeneration : SameGeneration sourceGeneration rewriter.generation)
    (hrunning : rewriter.sourceInitialized = true)
    (hcalls : ∀ call ∈ calls, WellFormedRtp isRtcp call.packet)
    (horder : Consecutive (calls.map RewriteCall.sequence))
    (hstart : ∀ call ∈ calls.head?,
      call.sequence = rewriter.sourceAnchorSequence + UInt16.ofNat k)
    (hk : k ≤ 2 ^ 15) :
    (∀ result ∈ rewriteAll isRtcp sourceGeneration rewriter calls, result.1 = true) ↔
      k + calls.length ≤ 2 ^ 15 := by
  induction calls generalizing rewriter k with
  | nil => simpa [rewriteAll] using hk
  | cons call calls ih =>
      have hwf := hcalls call List.mem_cons_self
      have hsequence : networkU16 call.packet 2 =
          rewriter.sourceAnchorSequence + UInt16.ofNat k := hstart call (by simp)
      have hbehind : serialDistance (networkU16 call.packet 2)
          rewriter.sourceAnchorSequence < 0 ↔ 2 ^ 15 ≤ k := by
        rw [hsequence]
        exact serialDistance_add_neg_iff _ (by omega)
      simp only [rewriteAll, List.mem_cons, forall_eq_or_imp, List.length_cons]
      by_cases hlimit : 2 ^ 15 ≤ k
      · rw [rewrite_behind call.outputSsrc call.midId hwf hgeneration hrunning
          (hbehind.mpr hlimit)]
        constructor
        · intro h
          exact absurd h.1 (by simp)
        · intro h
          omega
      · have hstep := rewrite_running call.outputSsrc call.midId hwf hgeneration
          hrunning (hbehind.not.mpr hlimit)
        have hnext : ∀ next ∈ calls.head?, next.sequence =
            (rewriter.rewrite isRtcp call.packet sourceGeneration call.outputSsrc
              call.midId).2.2.sourceAnchorSequence + UInt16.ofNat (k + 1) := by
          intro next hmem
          rw [sequence_of_mem_head? horder next hmem, hstep.anchor, RewriteCall.sequence,
            hsequence, UInt16.ofNat_add, UInt16.add_assoc]
          rfl
        have hrest := ih (by rw [hstep.generation]; exact hgeneration)
          (by rw [hstep.initialized]; exact hrunning)
          (fun other hother => hcalls other (List.mem_cons_of_mem _ hother))
          horder.tail hnext (by omega)
        rw [hrest]
        constructor
        · intro h
          omega
        · intro h
          exact ⟨hstep.accepted, by omega⟩

/-- An in-order stream right after `beginSource` is forwarded completely
exactly when it has at most `2 ^ 15` packets. -/
theorem forwarded_iff_length (rewriter : RtpSlotRewriter) {calls : List RewriteCall}
    (hcalls : ∀ call ∈ calls, WellFormedRtp isRtcp call.packet)
    (horder : Consecutive (calls.map RewriteCall.sequence)) :
    StreamForwarded (rewriteAll isRtcp rewriter.beginSource.1 rewriter.beginSource.2 calls) ↔
      calls.length ≤ 2 ^ 15 := by
  cases calls with
  | nil => simp [rewriteAll, StreamForwarded]
  | cons call calls =>
      have hcurrent : SameGeneration rewriter.beginSource.1
          rewriter.beginSource.2.generation := rfl
      rcases rewrite_beginSource call.outputSsrc call.midId
          (hcalls call List.mem_cons_self) hcurrent rfl with ⟨timestamp, hfirst⟩
      have hgeneration : SameGeneration rewriter.beginSource.1
          (rewriter.beginSource.2.rewrite isRtcp call.packet rewriter.beginSource.1
            call.outputSsrc call.midId).2.2.generation := by
        rw [hfirst.generation]
        rfl
      have hrunning := hfirst.initialized
      have hwf : ∀ other ∈ calls, WellFormedRtp isRtcp other.packet :=
        fun other hother => hcalls other (List.mem_cons_of_mem _ hother)
      have haccept := rewriteAll_accepts_iff (k := 1) hgeneration hrunning hwf
        horder.tail (by
          intro next hmem
          rw [hfirst.anchor, sequence_of_mem_head? horder next hmem]
          rfl) (by norm_num)
      constructor
      · intro h
        have hok := haccept.mp fun result hresult =>
          h.1 result (List.mem_cons_of_mem _ hresult)
        rw [List.length_cons]
        omega
      · intro hlen
        rw [List.length_cons] at hlen
        have hok := haccept.mpr (by omega)
        refine ⟨?_, ?_⟩
        · simp only [rewriteAll, List.mem_cons, forall_eq_or_imp]
          exact ⟨hfirst.accepted, hok⟩
        · have houtputs := rewriteAll_outputs hgeneration hrunning hwf hok
          have hshift := horder.map_add
            (rewriter.beginSource.2.anchorSource (networkU16 call.packet 2)
              timestamp).sequenceOffset
          simp only [rewriteAll, List.map_cons, houtputs, hfirst.output, hfirst.offset]
          simpa [RewriteCall.sequence] using hshift

/-- `RtpSlotRewriter` forwards an in-order stream of well-formed packets
completely, with consecutive output numbers, exactly when the stream has at
most `2 ^ 15` packets: the anchor of the serial comparison never moves. -/
theorem inOrderStream_forwarded_iff (rewriter : RtpSlotRewriter)
    {calls : List RewriteCall}
    (hcalls : ∀ call ∈ calls, WellFormedRtp isRtcp call.packet)
    (horder : Consecutive (calls.map RewriteCall.sequence)) :
    StreamForwarded (rewriteAll isRtcp rewriter.beginSource.1 rewriter.beginSource.2 calls) ↔
      calls.length ≤ 2 ^ 15 :=
  forwarded_iff_length rewriter hcalls horder

end

/-- `rtc::IsRtcp`, as libdatachannel decides it. -/
def libdatachannelIsRtcp (packet : Bytes) : Bool :=
  decide (8 ≤ packet.length) &&
    decide (64 ≤ (byteAt packet 1 &&& 0x7f).toNat ∧ (byteAt packet 1 &&& 0x7f).toNat ≤ 95)

/-- A minimal RTP packet with the given sequence number. -/
def plainCall (sequence : UInt16) : RewriteCall where
  packet := setNetworkU16 [0x80, 111, 0, 0, 0, 0, 0, 0, 0, 0, 0, 0] 2 sequence
  outputSsrc := 7
  midId := none

theorem byteAt_plainCall (sequence : UInt16) : byteAt (plainCall sequence).packet 0 = 0x80 := by
  simp [plainCall, byteAt, setNetworkU16]

theorem plainCall_wellFormed (sequence : UInt16) :
    WellFormedRtp libdatachannelIsRtcp (plainCall sequence).packet where
  fixedHeader := by simp [plainCall, fixedHeaderSize]
  version := by
    rw [byteAt_plainCall]
    decide
  notRtcp := by simp [libdatachannelIsRtcp, plainCall, byteAt, setNetworkU16]
  header := by
    rw [headerSize, byteAt_plainCall]
    simp [plainCall, fixedHeaderSize]
  extension h := by
    rw [hasExtension, byteAt_plainCall] at h
    exact absurd h (by decide)
  padding h := by
    rw [byteAt_plainCall] at h
    exact absurd h (by decide)

theorem plainCall_sequence (sequence : UInt16) : (plainCall sequence).sequence = sequence :=
  networkU16_setNetworkU16 _ _ _ (by norm_num)

/-- The in-order stream of minimal packets numbered from zero. -/
def plainStream (size : Nat) : List RewriteCall :=
  (List.range size).map fun index => plainCall (UInt16.ofNat index)

theorem plainStream_consecutive (size : Nat) :
    Consecutive ((plainStream size).map RewriteCall.sequence) := by
  have hsequences : (plainStream size).map RewriteCall.sequence =
      (List.range size).map UInt16.ofNat := by
    simp [plainStream, plainCall_sequence, Function.comp_def]
  rw [hsequences, Consecutive, List.isChain_iff_getElem]
  intro index hlt
  simp [UInt16.ofNat_add]

theorem plainStream_wellFormed (size : Nat) :
    ∀ call ∈ plainStream size, WellFormedRtp libdatachannelIsRtcp call.packet := by
  intro call hmem
  rcases List.mem_map.mp hmem with ⟨index, _, rfl⟩
  exact plainCall_wellFormed _

/-- Two packets across the wrap of the sequence space are forwarded. -/
theorem inOrderStream_forwarded_wrap :
    StreamForwarded
      (rewriteAll libdatachannelIsRtcp (create 48000 960).beginSource.1
        (create 48000 960).beginSource.2 [plainCall 65535, plainCall 0]) :=
  (inOrderStream_forwarded_iff (create 48000 960)
    (by
      intro call hmem
      rcases List.mem_pair.mp hmem with rfl | rfl <;> exact plainCall_wellFormed _)
    (by simp [plainCall_sequence])).mpr (by simp)

/-- An in-order stream of `2 ^ 15 + 1` packets is not forwarded completely. -/
theorem inOrderStream_starves :
    (∀ call ∈ plainStream (2 ^ 15 + 1), WellFormedRtp libdatachannelIsRtcp call.packet) ∧
      Consecutive ((plainStream (2 ^ 15 + 1)).map RewriteCall.sequence) ∧
        ¬ StreamForwarded
          (rewriteAll libdatachannelIsRtcp (create 48000 960).beginSource.1
            (create 48000 960).beginSource.2 (plainStream (2 ^ 15 + 1))) := by
  refine ⟨plainStream_wellFormed _, plainStream_consecutive _, ?_⟩
  intro hforwarded
  have hlength := (forwarded_iff_length (create 48000 960) (plainStream_wellFormed _)
    (plainStream_consecutive _)).mp hforwarded
  simp [plainStream] at hlength

end RtpSlotRewriter

end Sfu
end Driscord
