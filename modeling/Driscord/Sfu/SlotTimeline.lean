import Driscord.Sfu.Refusals

/-!
# The timeline of an output slot

A run of one `RtpSlotRewriter` is any order of `begin_source`, `end_source` and
`rewrite` calls.  The packets it forwards are logged with the source period
they belong to, which is the value of the generation counter: every source
change opens a new period.

Inside a period the output is the input shifted by constant offsets; at a
switch the offsets are chosen so that the output goes on behind the newest
packet sent so far.

Main results:

- Theorem `Timeline.call`: the step lemma of the run invariant.
- Theorem `publisher_switch_continuous`: what any run forwards has one
  continuous timeline, if no period runs over half of the sequence space.
-/

namespace Driscord
namespace Sfu

open Library

namespace RtpSlotRewriter

/-! ## Runs -/

/-- One call on a rewriter. -/
inductive Call where
  | beginSource
  | endSource
  | rewrite (packet : Bytes) (sourceGeneration : Nat) (outputSsrc : UInt32)
      (midId : Option UInt8)
deriving DecidableEq, Repr

/-- A forwarded packet: its source period and its number and time before and
after the call. -/
structure Forwarded where
  period : Nat
  inputSequence : UInt16
  inputTimestamp : UInt32
  outputSequence : UInt16
  outputTimestamp : UInt32
deriving DecidableEq, Repr

/-- What a `rewrite` call adds to the log. -/
def forwarded (rewriter : RtpSlotRewriter) (packet : Bytes)
    (result : Bool × Bytes × RtpSlotRewriter) : List Forwarded :=
  if result.1 then
    [{ period := rewriter.generation
       inputSequence := networkU16 packet 2
       inputTimestamp := networkU32 packet 4
       outputSequence := networkU16 result.2.1 2
       outputTimestamp := networkU32 result.2.1 4 }]
  else []

/-- A rewriter and the packets it has forwarded. -/
structure Run where
  rewriter : RtpSlotRewriter
  log : List Forwarded := []

section

variable (isRtcp : Bytes → Bool)

/-- One call in a run. -/
def Run.call (run : Run) : Call → Run
  | .beginSource => { run with rewriter := run.rewriter.beginSource.2 }
  | .endSource => { run with rewriter := run.rewriter.endSource }
  | .rewrite packet sourceGeneration outputSsrc midId =>
      let result := run.rewriter.rewrite isRtcp packet sourceGeneration outputSsrc midId
      { rewriter := result.2.2
        log := run.log ++ forwarded run.rewriter packet result }

/-- A new rewriter after the given calls. -/
def runOf (clockRate defaultTimestampStep : UInt32) (calls : List Call) : Run :=
  calls.foldl (Run.call isRtcp) { rewriter := create clockRate defaultTimestampStep }

end

/-! ## One continuous timeline -/

/-- The first packet of a period. -/
def firstOf (log : List Forwarded) (period : Nat) : Option Forwarded :=
  log.find? fun packet => packet.period == period

/-- The packet that is newest by its output number, over all periods. -/
def newestOf (log : List Forwarded) : Option Forwarded :=
  newest Forwarded.outputSequence log

/-- Every packet of a period is at most `2 ^ 15 - 2` ahead of the first one. -/
def WithinWindow (log : List Forwarded) : Prop :=
  ∀ packet ∈ log, ∀ first ∈ firstOf log packet.period,
    (packet.inputSequence - first.inputSequence).toNat ≤ 2 ^ 15 - 2

/-- `earlier` is the last period before `later` that forwarded a packet. -/
def Precedes (log : List Forwarded) (earlier later : Nat) : Prop :=
  earlier < later ∧ ∀ packet ∈ log, packet.period < later → packet.period ≤ earlier

/-- No packet of its period is newer than `packet`. -/
def NewestOfPeriod (log : List Forwarded) (packet : Forwarded) : Prop :=
  packet ∈ log ∧ ∀ other ∈ log, other.period = packet.period →
    ¬ Ahead other.outputSequence packet.outputSequence

/-- A forwarded packet that goes on behind `newest`. -/
structure Follows (clockRate : UInt32) (newest packet : Forwarded) : Prop where
  sequence : packet.outputSequence = newest.outputSequence + 1
  timestamp : ∃ step : UInt32, 0 < step.toNat ∧ step.toNat ≤ 10 * clockRate.toNat ∧
    packet.outputTimestamp = newest.outputTimestamp + step

/-- The first packet of each period follows the newest one before it. -/
def Switches (clockRate : UInt32) (log : List Forwarded) : Prop :=
  ∀ before packet after, log = before ++ packet :: after →
    (∀ other ∈ before, other.period ≠ packet.period) →
      ∀ newest ∈ newestOf before, Follows clockRate newest packet

/-- The packets of one period are shifted by the same amounts. -/
def Shifted (log : List Forwarded) : Prop :=
  ∀ packet ∈ log, ∀ other ∈ log, packet.period = other.period →
    packet.outputSequence - packet.inputSequence =
        other.outputSequence - other.inputSequence ∧
      packet.outputTimestamp - packet.inputTimestamp =
        other.outputTimestamp - other.inputTimestamp

/-! ## One call -/

/-- An accepted call: the packet is shifted by the offsets of `based` and
recorded in it. -/
structure Emits (based : RtpSlotRewriter) (firstForSource : Bool) (packet : Bytes)
    (result : Bool × Bytes × RtpSlotRewriter) : Prop where
  accepted : result.1 = true
  sequence : networkU16 result.2.1 2 = networkU16 packet 2 + based.sequenceOffset
  timestamp : networkU32 result.2.1 4 = networkU32 packet 4 + based.timestampOffset
  state : result.2.2 =
    based.recordLatest firstForSource (networkU16 packet 2) (networkU32 packet 4)

section

variable {isRtcp : Bytes → Bool} {packet : Bytes} {midId : Option UInt8}

/-- `rewriteRtpForSlot` keeps the timestamp of a packet it accepts. -/
theorem timestamp_of_slotAccepts (outputSsrc : UInt32)
    (haccepts : SlotAccepts isRtcp packet midId) :
    networkU32 (rewriteRtpForSlot isRtcp packet outputSsrc midId).2 4 =
      networkU32 packet 4 := by
  have haccepted := (rewriteRtpForSlot_accepted_iff isRtcp packet outputSsrc midId).mpr
    haccepts
  have hout := (rewritten_of_accepted haccepted).1
  exact networkU32_congr fun index hle hlt => hout.fixedHeader index (by omega) (by omega)

theorem emit_emits (based : RtpSlotRewriter) (firstForSource : Bool) (outputSsrc : UInt32)
    (haccepts : SlotAccepts isRtcp packet midId) :
    Emits based firstForSource packet
      (based.emit (rewriteRtpForSlot isRtcp packet outputSsrc midId).2 firstForSource) := by
  have haccepted := (rewriteRtpForSlot_accepted_iff isRtcp packet outputSsrc midId).mpr
    haccepts
  have hpayload := (rewritten_of_accepted haccepted).1.payloadFits
  have hstart := headerSize_le_payloadBegin packet
  have hsequence := sequence_of_slotAccepts isRtcp outputSsrc haccepts
  have htimestamp := timestamp_of_slotAccepts outputSsrc haccepts
  unfold fixedHeaderSize at hstart
  refine ⟨rfl, ?_, ?_, ?_⟩
  · rw [← hsequence, emit]
    dsimp only
    rw [networkU16_setNetworkU32_of_disjoint _ _ (by omega),
      networkU16_setNetworkU16 _ _ _ (by omega)]
  · rw [← htimestamp, emit]
    dsimp only
    rw [networkU32_setNetworkU32 _ _ _ (by rw [length_setNetworkU16]; omega)]
  · rw [← hsequence, ← htimestamp]
    rfl

/-- Everything a `rewrite` call can do. -/
theorem rewrite_cases (rewriter : RtpSlotRewriter) (sourceGeneration : Nat)
    (outputSsrc : UInt32) :
    ((rewriter.rewrite isRtcp packet sourceGeneration outputSsrc midId).1 = false ∧
        (rewriter.rewrite isRtcp packet sourceGeneration outputSsrc midId).2.2 = rewriter) ∨
      (rewriter.sourceInitialized = false ∧
        Emits (rewriter.anchorSource (networkU16 packet 2) (networkU32 packet 4)) true packet
          (rewriter.rewrite isRtcp packet sourceGeneration outputSsrc midId)) ∨
      (rewriter.sourceInitialized = true ∧
        Emits rewriter false packet
          (rewriter.rewrite isRtcp packet sourceGeneration outputSsrc midId)) := by
  cases hverdict : (rewriter.rewrite isRtcp packet sourceGeneration outputSsrc midId).1 with
  | false =>
      left
      exact ⟨rfl, congrArg Prod.snd
        (rewrite_refused isRtcp rewriter packet sourceGeneration outputSsrc midId hverdict)⟩
  | true =>
      have hnot : ¬ (¬ SlotAccepts isRtcp packet midId ∨
          rewriter.Refuses sourceGeneration (networkU16 packet 2)) := by
        rw [← rewrite_refused_iff isRtcp rewriter packet sourceGeneration outputSsrc midId,
          hverdict]
        simp
      rcases not_or.mp hnot with ⟨haccepts, hfine⟩
      rw [not_not] at haccepts
      rcases not_or.mp hfine with ⟨hgeneration, hahead⟩
      rw [not_not] at hgeneration
      have haccepted := (rewriteRtpForSlot_accepted_iff isRtcp packet outputSsrc midId).mpr
        haccepts
      have hsequence := sequence_of_slotAccepts isRtcp outputSsrc haccepts
      right
      rw [rewrite, if_pos haccepted, if_pos hgeneration]
      cases hrunning : rewriter.sourceInitialized with
      | false =>
          left
          rw [if_neg (by simp), hsequence, timestamp_of_slotAccepts outputSsrc haccepts]
          exact ⟨rfl, emit_emits _ true outputSsrc haccepts⟩
      | true =>
          right
          rw [if_pos rfl, hsequence, if_neg (fun hbehind => hahead ⟨hrunning, hbehind⟩)]
          exact ⟨rfl, emit_emits rewriter false outputSsrc haccepts⟩

end

/-! ## The invariant -/

/-- The state of a rewriter describes the packets it has forwarded. -/
structure Timeline (clockRate : UInt32) (rewriter : RtpSlotRewriter)
    (log : List Forwarded) : Prop where
  clock : rewriter.clockRate = clockRate
  stepPositive : 0 < rewriter.timestampStep.toNat
  stepBounded : rewriter.timestampStep.toNat ≤ 10 * clockRate.toNat
  sorted : log.Pairwise fun earlier later => earlier.period ≤ later.period
  periods : ∀ packet ∈ log, packet.period ≤ rewriter.generation
  running : rewriter.sourceInitialized = true ↔
    ∃ packet ∈ log, packet.period = rewriter.generation
  output : rewriter.outputInitialized = true ↔ log ≠ []
  latest : ∀ newest ∈ newestOf log,
    newest.outputSequence = rewriter.latestOutputSequence ∧
      newest.outputTimestamp = rewriter.latestOutputTimestamp
  latestInput : rewriter.sourceInitialized = true →
    rewriter.latestInputSequence + rewriter.sequenceOffset = rewriter.latestOutputSequence
  anchor : ∀ first ∈ firstOf log rewriter.generation,
    first.inputSequence = rewriter.sourceAnchorSequence
  offsets : ∀ packet ∈ log, packet.period = rewriter.generation →
    packet.outputSequence = packet.inputSequence + rewriter.sequenceOffset ∧
      packet.outputTimestamp = packet.inputTimestamp + rewriter.timestampOffset
  shifted : Shifted log
  switches : Switches clockRate log

/-- Nothing has been forwarded in a period that has just been opened. -/
theorem Timeline.fresh {clockRate : UInt32} {rewriter : RtpSlotRewriter}
    {log : List Forwarded} (h : Timeline clockRate rewriter log)
    (hfresh : rewriter.sourceInitialized = false) :
    ∀ packet ∈ log, packet.period ≠ rewriter.generation := by
  intro packet hmem hperiod
  have hrunning := h.running.mpr ⟨packet, hmem, hperiod⟩
  rw [hfresh] at hrunning
  contradiction

theorem firstOf_eq_none {log : List Forwarded} {period : Nat}
    (h : ∀ packet ∈ log, packet.period ≠ period) : firstOf log period = none := by
  rw [firstOf, List.find?_eq_none]
  intro packet hmem
  simpa using h packet hmem

theorem firstOf_append_singleton (log : List Forwarded) (packet : Forwarded) (period : Nat) :
    firstOf (log ++ [packet]) period =
      (firstOf log period).or (if packet.period = period then some packet else none) := by
  rw [firstOf, List.find?_append, List.find?_singleton]
  simp [firstOf]

theorem newestOf_append_singleton (log : List Forwarded) (packet : Forwarded) :
    newestOf (log ++ [packet]) = newer Forwarded.outputSequence (newestOf log) packet :=
  newest_append_singleton Forwarded.outputSequence log packet

/-- A packet with the shift of its period keeps `Shifted`. -/
theorem Shifted.append {log : List Forwarded} {packet : Forwarded} (h : Shifted log)
    (hsame : ∀ other ∈ log, other.period = packet.period →
      other.outputSequence - other.inputSequence =
          packet.outputSequence - packet.inputSequence ∧
        other.outputTimestamp - other.inputTimestamp =
          packet.outputTimestamp - packet.inputTimestamp) :
    Shifted (log ++ [packet]) := by
  intro left hleft right hright hperiod
  rw [List.mem_append, List.mem_singleton] at hleft hright
  rcases hleft with hleft | rfl <;> rcases hright with hright | rfl
  · exact h left hleft right hright hperiod
  · exact hsame left hleft hperiod
  · rcases hsame right hright hperiod.symm with ⟨hsequence, htimestamp⟩
    exact ⟨hsequence.symm, htimestamp.symm⟩
  · exact ⟨rfl, rfl⟩

/-- A packet that follows the newest one, or is not the first of its period,
keeps `Switches`. -/
theorem Switches.append {clockRate : UInt32} {log : List Forwarded} {packet : Forwarded}
    (h : Switches clockRate log)
    (hnext : (∀ other ∈ log, other.period ≠ packet.period) →
      ∀ newest ∈ newestOf log, Follows clockRate newest packet) :
    Switches clockRate (log ++ [packet]) := by
  intro before first after hsplit hfirst newest hnewest
  rcases List.eq_nil_or_concat after with rfl | ⟨rest, last, rfl⟩
  · obtain ⟨rfl, hpacket⟩ := List.append_inj' hsplit rfl
    obtain rfl : packet = first := by simpa using hpacket
    exact hnext hfirst newest hnewest
  · rw [List.concat_eq_append, ← List.cons_append, ← List.append_assoc] at hsplit
    obtain ⟨hlog, -⟩ := List.append_inj' hsplit rfl
    exact h before first rest hlog hfirst newest hnewest

theorem Timeline.create {clockRate defaultTimestampStep : UInt32}
    (hpos : 0 < defaultTimestampStep.toNat)
    (hle : defaultTimestampStep.toNat ≤ 10 * clockRate.toNat) :
    Timeline clockRate (create clockRate defaultTimestampStep) [] where
  clock := rfl
  stepPositive := hpos
  stepBounded := hle
  sorted := List.Pairwise.nil
  periods := by simp
  running := by simp [RtpSlotRewriter.create]
  output := by simp [RtpSlotRewriter.create]
  latest := by simp [newestOf]
  latestInput h := by contradiction
  anchor := by simp [firstOf]
  offsets := by simp
  shifted := by simp [Shifted]
  switches := by
    intro before packet after hsplit
    simp at hsplit

/-- Opening a period. -/
theorem Timeline.endSource {clockRate : UInt32} {rewriter : RtpSlotRewriter}
    {log : List Forwarded} (h : Timeline clockRate rewriter log) :
    Timeline clockRate rewriter.endSource log := by
  have hfresh : ∀ packet ∈ log, packet.period ≠ rewriter.endSource.generation := by
    intro packet hmem hperiod
    have hle := h.periods packet hmem
    rw [endSource_generation] at hperiod
    omega
  refine ⟨h.clock, h.stepPositive, h.stepBounded, h.sorted, ?_, ?_, h.output, h.latest, ?_,
    ?_, ?_, h.shifted, h.switches⟩
  · intro packet hmem
    have hle := h.periods packet hmem
    rw [endSource_generation]
    omega
  · refine ⟨fun hrunning => by contradiction, ?_⟩
    rintro ⟨packet, hmem, hperiod⟩
    exact (hfresh packet hmem hperiod).elim
  · intro hrunning
    contradiction
  · rw [firstOf_eq_none hfresh]
    simp
  · intro packet hmem hperiod
    exact (hfresh packet hmem hperiod).elim

/-- `recordLatest` for a packet that is ahead, or the first of its source. -/
theorem recordLatest_of_newer {rewriter : RtpSlotRewriter} {firstForSource : Bool}
    {sequence : UInt16} (timestamp : UInt32)
    (h : firstForSource = true ∨ sequenceIsNewer sequence rewriter.latestInputSequence = true) :
    rewriter.recordLatest firstForSource sequence timestamp =
      { rewriter with
        timestampStep :=
          if 0 < timestamp - rewriter.latestInputTimestamp ∧
              timestamp - rewriter.latestInputTimestamp ≤ rewriter.clockRate * 10 then
            timestamp - rewriter.latestInputTimestamp
          else rewriter.timestampStep
        latestInputSequence := sequence
        latestInputTimestamp := timestamp
        latestOutputSequence := sequence + rewriter.sequenceOffset
        latestOutputTimestamp := timestamp + rewriter.timestampOffset
        outputInitialized := true } := by
  apply if_pos
  rcases h with h | h <;> simp [h]

/-- `recordLatest` for any other packet. -/
theorem recordLatest_of_not_newer {rewriter : RtpSlotRewriter} {sequence : UInt16}
    (timestamp : UInt32) (houtput : rewriter.outputInitialized = true)
    (h : sequenceIsNewer sequence rewriter.latestInputSequence = false) :
    rewriter.recordLatest false sequence timestamp = rewriter := by
  apply if_neg
  simp [houtput, h]

/-- A learned timestamp step is positive and at most ten seconds. -/
theorem learnedStep_bounds (delta : UInt32) {clockRate step : UInt32} (hpos : 0 < step.toNat)
    (hle : step.toNat ≤ 10 * clockRate.toNat) :
    0 < (if 0 < delta ∧ delta ≤ clockRate * 10 then delta else step).toNat ∧
      (if 0 < delta ∧ delta ≤ clockRate * 10 then delta else step).toNat ≤
        10 * clockRate.toNat := by
  by_cases h : 0 < delta ∧ delta ≤ clockRate * 10
  · rw [if_pos h]
    rcases h with ⟨hdelta, hlimit⟩
    rw [UInt32.lt_iff_toNat_lt] at hdelta
    rw [UInt32.le_iff_toNat_le, UInt32.toNat_mul] at hlimit
    have hten : (10 : UInt32).toNat = 10 := rfl
    have hmod := Nat.mod_le (clockRate.toNat * 10) (2 ^ 32)
    rw [hten] at hlimit
    exact ⟨hdelta, by omega⟩
  · rw [if_neg h]
    exact ⟨hpos, hle⟩

/-- The log entry of a packet shifted by the offsets of `based`. -/
def entry (based : RtpSlotRewriter) (sequence : UInt16) (timestamp : UInt32) : Forwarded where
  period := based.generation
  inputSequence := sequence
  inputTimestamp := timestamp
  outputSequence := sequence + based.sequenceOffset
  outputTimestamp := timestamp + based.timestampOffset

/-- The first packet of a period. -/
theorem Timeline.first {clockRate : UInt32} {rewriter : RtpSlotRewriter}
    {log : List Forwarded} (h : Timeline clockRate rewriter log)
    (hfresh : rewriter.sourceInitialized = false) (sequence : UInt16) (timestamp : UInt32) :
    Timeline clockRate
      ((rewriter.anchorSource sequence timestamp).recordLatest true sequence timestamp)
      (log ++ [entry (rewriter.anchorSource sequence timestamp) sequence timestamp]) := by
  have hothers := h.fresh hfresh
  have hbounds := learnedStep_bounds (timestamp - timestamp) h.stepPositive h.stepBounded
  -- Behind earlier output the first packet takes the next number.
  have hfollows : ∀ newest ∈ newestOf log, Follows clockRate newest
      (entry (rewriter.anchorSource sequence timestamp) sequence timestamp) := by
    intro newest hnewest
    rcases h.latest newest hnewest with ⟨hsequence, htimestamp⟩
    have hlog : log ≠ [] := List.ne_nil_of_mem (newest_mem _ hnewest)
    have hoffset : (rewriter.anchorSource sequence timestamp).sequenceOffset =
        rewriter.latestOutputSequence + 1 - sequence := if_pos (h.output.mpr hlog)
    have hshift : (rewriter.anchorSource sequence timestamp).timestampOffset =
        rewriter.latestOutputTimestamp + rewriter.timestampStep - timestamp :=
      if_pos (h.output.mpr hlog)
    refine ⟨?_, rewriter.timestampStep, h.stepPositive, h.stepBounded, ?_⟩
    · rw [entry, hoffset, hsequence]
      grind
    · rw [entry, hshift, htimestamp]
      grind
  have hnewest : newestOf
      (log ++ [entry (rewriter.anchorSource sequence timestamp) sequence timestamp]) =
        some (entry (rewriter.anchorSource sequence timestamp) sequence timestamp) := by
    rw [newestOf_append_singleton]
    cases hold : newestOf log with
    | none => rfl
    | some old =>
        apply if_pos
        rw [(hfollows old hold).sequence]
        exact ahead_succ old.outputSequence
  have hfirst : firstOf
      (log ++ [entry (rewriter.anchorSource sequence timestamp) sequence timestamp])
        rewriter.generation =
          some (entry (rewriter.anchorSource sequence timestamp) sequence timestamp) := by
    rw [firstOf_append_singleton, firstOf_eq_none hothers, Option.none_or]
    exact if_pos rfl
  rw [recordLatest_of_newer timestamp (Or.inl rfl)]
  refine ⟨h.clock, ?_, ?_, ?_, ?_, ?_, ?_, ?_, fun _ => rfl, ?_, ?_, ?_, ?_⟩
  · rw [← h.clock] at hbounds
    exact hbounds.1
  · rw [← h.clock] at hbounds ⊢
    exact hbounds.2
  · rw [List.pairwise_append]
    refine ⟨h.sorted, List.pairwise_singleton _ _, ?_⟩
    intro packet hmem other hother
    rw [List.mem_singleton.mp hother]
    exact h.periods packet hmem
  · intro packet hmem
    rw [List.mem_append, List.mem_singleton] at hmem
    rcases hmem with hmem | rfl
    · exact h.periods packet hmem
    · exact le_rfl
  · exact iff_of_true rfl ⟨_, List.mem_append_right _ List.mem_cons_self, rfl⟩
  · exact iff_of_true rfl (by simp)
  · intro newest hmem
    rw [hnewest] at hmem
    obtain rfl := Option.some.inj hmem
    exact ⟨rfl, rfl⟩
  · intro first hmem
    obtain rfl := Option.some.inj (hfirst.symm.trans hmem)
    rfl
  · intro packet hmem hperiod
    rw [List.mem_append, List.mem_singleton] at hmem
    rcases hmem with hmem | rfl
    · exact (hothers packet hmem hperiod).elim
    · exact ⟨rfl, rfl⟩
  · exact h.shifted.append fun other hother hperiod => (hothers other hother hperiod).elim
  · exact h.switches.append fun _ => hfollows

/-- A later packet of a period. -/
theorem Timeline.later {clockRate : UInt32} {rewriter : RtpSlotRewriter}
    {log : List Forwarded} (h : Timeline clockRate rewriter log)
    (hrunning : rewriter.sourceInitialized = true) (sequence : UInt16) (timestamp : UInt32) :
    Timeline clockRate (rewriter.recordLatest false sequence timestamp)
      (log ++ [entry rewriter sequence timestamp]) := by
  obtain ⟨member, hmember, hcurrent⟩ := h.running.mp hrunning
  have hlog : log ≠ [] := List.ne_nil_of_mem hmember
  have houtput := h.output.mpr hlog
  have hsorted : (log ++ [entry rewriter sequence timestamp]).Pairwise
      fun earlier later => earlier.period ≤ later.period := by
    rw [List.pairwise_append]
    refine ⟨h.sorted, List.pairwise_singleton _ _, ?_⟩
    intro packet hmem other hother
    rw [List.mem_singleton.mp hother]
    exact h.periods packet hmem
  have hperiods : ∀ packet ∈ log ++ [entry rewriter sequence timestamp],
      packet.period ≤ rewriter.generation := by
    intro packet hmem
    rw [List.mem_append, List.mem_singleton] at hmem
    rcases hmem with hmem | rfl
    · exact h.periods packet hmem
    · exact le_rfl
  have hanchor : ∀ first ∈ firstOf (log ++ [entry rewriter sequence timestamp])
      rewriter.generation, first.inputSequence = rewriter.sourceAnchorSequence := by
    intro first hmem
    rw [firstOf_append_singleton] at hmem
    cases hfirst : firstOf log rewriter.generation with
    | none =>
        rw [firstOf, List.find?_eq_none] at hfirst
        exact (hfirst member hmember (by simpa using hcurrent)).elim
    | some old =>
        rw [hfirst] at hmem
        obtain rfl := Option.some.inj hmem
        exact h.anchor _ hfirst
  have hoffsets : ∀ packet ∈ log ++ [entry rewriter sequence timestamp],
      packet.period = rewriter.generation →
        packet.outputSequence = packet.inputSequence + rewriter.sequenceOffset ∧
          packet.outputTimestamp = packet.inputTimestamp + rewriter.timestampOffset := by
    intro packet hmem hperiod
    rw [List.mem_append, List.mem_singleton] at hmem
    rcases hmem with hmem | rfl
    · exact h.offsets packet hmem hperiod
    · exact ⟨rfl, rfl⟩
  have hshifted : Shifted (log ++ [entry rewriter sequence timestamp]) := by
    apply h.shifted.append
    intro other hother hperiod
    rcases h.offsets other hother hperiod with ⟨hsequence, htimestamp⟩
    rw [hsequence, htimestamp, entry]
    constructor <;> grind
  have hswitches : Switches clockRate (log ++ [entry rewriter sequence timestamp]) :=
    h.switches.append fun hnone => (hnone member hmember hcurrent).elim
  cases hnewest : newestOf log with
  | none => exact (hlog ((newest_eq_none_iff _ log).mp hnewest)).elim
  | some old =>
      rcases h.latest old hnewest with ⟨hsequence, htimestamp⟩
      -- The comparison of inputs and the one of outputs agree.
      have hahead : Ahead (entry rewriter sequence timestamp).outputSequence
          old.outputSequence ↔
            sequenceIsNewer sequence rewriter.latestInputSequence = true := by
        rw [hsequence, ← h.latestInput hrunning, sequenceIsNewer, decide_eq_true_iff, Ahead,
          entry, serialDistance_add_add]
      have hnext : newestOf (log ++ [entry rewriter sequence timestamp]) =
          if Ahead (entry rewriter sequence timestamp).outputSequence old.outputSequence then
            some (entry rewriter sequence timestamp)
          else some old := by
        rw [newestOf_append_singleton, hnewest]
        rfl
      cases hnew : sequenceIsNewer sequence rewriter.latestInputSequence with
      | true =>
          rw [if_pos (hahead.mpr hnew)] at hnext
          have hbounds := learnedStep_bounds (timestamp - rewriter.latestInputTimestamp)
            h.stepPositive h.stepBounded
          rw [recordLatest_of_newer timestamp (Or.inr hnew)]
          refine ⟨h.clock, ?_, ?_, hsorted, hperiods, ?_, ?_, ?_, fun _ => rfl, hanchor,
            hoffsets, hshifted, hswitches⟩
          · rw [← h.clock] at hbounds
            exact hbounds.1
          · rw [← h.clock] at hbounds ⊢
            exact hbounds.2
          · exact iff_of_true hrunning ⟨_, List.mem_append_right _ List.mem_cons_self, rfl⟩
          · exact iff_of_true rfl (by simp)
          · intro newest hmem
            rw [hnext] at hmem
            obtain rfl := Option.some.inj hmem
            exact ⟨rfl, rfl⟩
      | false =>
          rw [if_neg (by rw [hahead, hnew]; simp)] at hnext
          rw [recordLatest_of_not_newer timestamp houtput hnew]
          refine ⟨h.clock, h.stepPositive, h.stepBounded, hsorted, hperiods, ?_, ?_, ?_,
            h.latestInput, hanchor, hoffsets, hshifted, hswitches⟩
          · exact iff_of_true hrunning ⟨_, List.mem_append_right _ List.mem_cons_self, rfl⟩
          · exact iff_of_true houtput (by simp)
          · rw [hnext, ← hnewest]
            exact h.latest

section

variable (isRtcp : Bytes → Bool) {clockRate : UInt32}

/-- Every call keeps the invariant. -/
theorem Timeline.call {run : Run} (h : Timeline clockRate run.rewriter run.log) (call : Call) :
    Timeline clockRate (run.call isRtcp call).rewriter (run.call isRtcp call).log := by
  cases call with
  | beginSource => exact h.endSource
  | endSource => exact h.endSource
  | rewrite packet sourceGeneration outputSsrc midId =>
      simp only [Run.call, forwarded]
      rcases rewrite_cases run.rewriter sourceGeneration outputSsrc with
        ⟨hrefused, hstate⟩ | ⟨hfresh, hemits⟩ | ⟨hrunning, hemits⟩
      · rw [hrefused, hstate]
        simpa using h
      · rw [if_pos hemits.accepted, hemits.sequence, hemits.timestamp, hemits.state]
        exact h.first hfresh (networkU16 packet 2) (networkU32 packet 4)
      · rw [if_pos hemits.accepted, hemits.sequence, hemits.timestamp, hemits.state]
        exact h.later hrunning (networkU16 packet 2) (networkU32 packet 4)

theorem Timeline.calls {run : Run} (h : Timeline clockRate run.rewriter run.log)
    (calls : List Call) :
    Timeline clockRate (calls.foldl (Run.call isRtcp) run).rewriter
      (calls.foldl (Run.call isRtcp) run).log := by
  induction calls generalizing run with
  | nil => exact h
  | cons call calls ih => exact ih (h.call isRtcp call)

end

/-! ## The order of the output -/

/-- The log behind a packet, split at the first packet of its period. -/
theorem firstOf_eq_some_iff {log : List Forwarded} {period : Nat} {first : Forwarded} :
    firstOf log period = some first ↔ first.period = period ∧
      ∃ before after, log = before ++ first :: after ∧
        ∀ packet ∈ before, packet.period ≠ period := by
  rw [firstOf, List.find?_eq_some_iff_append]
  simp

theorem exists_firstOf {log : List Forwarded} {packet : Forwarded} (hmem : packet ∈ log) :
    ∃ first, firstOf log packet.period = some first := by
  rw [← Option.isSome_iff_exists, firstOf, List.find?_isSome]
  exact ⟨packet, hmem, by simp⟩

section

variable {clockRate : UInt32} {log : List Forwarded}

/-- The output numbers of a period lie in the window of its first packet. -/
theorem output_window (hshifted : Shifted log) (hwindow : WithinWindow log)
    {packet first : Forwarded} (hmem : packet ∈ log)
    (hfirst : firstOf log packet.period = some first) :
    (packet.outputSequence - first.outputSequence).toNat ≤ 2 ^ 15 - 2 := by
  have hmemFirst : first ∈ log := List.mem_of_find?_eq_some hfirst
  have hperiod : first.period = packet.period := (firstOf_eq_some_iff.mp hfirst).1
  have hshift := (hshifted packet hmem first hmemFirst hperiod.symm).1
  have hsame : packet.outputSequence - first.outputSequence =
      packet.inputSequence - first.inputSequence := by grind
  rw [hsame]
  exact hwindow packet hmem first hfirst

/-- The newest packet before a switch is the newest one of the last period that
forwarded a packet. -/
theorem newest_before (hsorted : log.Pairwise fun earlier later => earlier.period ≤ later.period)
    (hshifted : Shifted log) (hswitches : Switches clockRate log) (hwindow : WithinWindow log)
    {before after : List Forwarded} {first newest : Forwarded}
    (hlog : log = before ++ first :: after)
    (hfirst : ∀ other ∈ before, other.period ≠ first.period)
    (hnewest : newestOf before = some newest) :
    newest ∈ before ∧ Precedes log newest.period first.period ∧
      NewestOfPeriod log newest := by
  have hsplit := hsorted
  rw [hlog, List.pairwise_append] at hsplit
  obtain ⟨hbefore, hbehind, hcross⟩ := hsplit
  have hmem : newest ∈ before := newest_mem _ hnewest
  obtain ⟨rest, last, rfl⟩ : ∃ rest last, before = rest ++ [last] := by
    rcases List.eq_nil_or_concat before with rfl | ⟨rest, last, rfl⟩
    · contradiction
    · exact ⟨rest, last, List.concat_eq_append⟩
  have hle : ∀ other ∈ rest ++ [last], other.period ≤ last.period := by
    intro other hother
    rw [List.mem_append, List.mem_singleton] at hother
    rcases hother with hother | rfl
    · exact (List.pairwise_append.mp hbefore).2.2 other hother last List.mem_cons_self
    · exact le_rfl
  have hlt : last.period < first.period := by
    have hcrossed := hcross last (by simp) first List.mem_cons_self
    have hne := hfirst last (by simp)
    omega
  have hearly : ∀ other ∈ log, other.period < first.period → other ∈ rest ++ [last] := by
    intro other hother hperiod
    rw [hlog, List.mem_append] at hother
    rcases hother with hother | hother
    · exact hother
    · rcases List.mem_cons.mp hother with rfl | hother
      · omega
      · have := (List.pairwise_cons.mp hbehind).1 other hother
        omega
  -- Split what came before at the first packet of its last period.
  have hlastMem : last ∈ rest ++ [last] := by simp
  obtain ⟨start, hstart⟩ := exists_firstOf hlastMem
  obtain ⟨hperiod, early, late, heq, hother⟩ := firstOf_eq_some_iff.mp hstart
  have hlate : ∀ other ∈ start :: late, other.period = last.period := by
    intro other hmemOther
    have hupper := hle other (by rw [heq]; exact List.mem_append_right _ hmemOther)
    rcases List.mem_cons.mp hmemOther with rfl | hrest
    · exact hperiod
    · rw [heq, List.pairwise_append, List.pairwise_cons] at hbefore
      have hlower := hbefore.2.1.1 other hrest
      omega
  have hwhole : log = early ++ start :: (late ++ first :: after) := by
    rw [hlog, heq]
    simp
  have hrestart : newestOf (rest ++ [last]) = newestOf (start :: late) := by
    rw [heq]
    apply newest_append_of_ahead
    intro old hold
    have hfollows := hswitches early start _ hwhole (by rw [hperiod]; exact hother) old hold
    rw [hfollows.sequence]
    exact ahead_succ old.outputSequence
  rw [hrestart] at hnewest
  have hnewestPeriod := hlate newest (newest_mem _ hnewest)
  have hstartOf : firstOf log last.period = some start :=
    firstOf_eq_some_iff.mpr ⟨hperiod, early, _, hwhole, hother⟩
  have hinWindow : ∀ other ∈ start :: late,
      (other.outputSequence - start.outputSequence).toNat < 2 ^ 15 := by
    intro other hmemOther
    have hmemLog : other ∈ log := by
      rw [hwhole]
      apply List.mem_append_right
      rw [← List.cons_append]
      exact List.mem_append_left _ hmemOther
    have hfirstOther : firstOf log other.period = some start := by
      rw [hlate other hmemOther]
      exact hstartOf
    have hbound := output_window hshifted hwindow hmemLog hfirstOther
    omega
  refine ⟨hmem, ⟨by omega, ?_⟩, ?_, ?_⟩
  · intro other hmemOther hperiodOther
    rw [hnewestPeriod]
    exact hle other (hearly other hmemOther hperiodOther)
  · rw [hlog]
    exact List.mem_append_left _ hmem
  · intro other hmemOther hsame
    rw [hnewestPeriod] at hsame
    have hplace := hearly other hmemOther (by omega)
    rw [heq, List.mem_append] at hplace
    rcases hplace with hplace | hplace
    · exact (hother other hplace hsame).elim
    · exact newest_isNewest _ hinWindow hnewest other hplace

/-- Two newest packets of one period have the same output number. -/
theorem newest_unique (hshifted : Shifted log) (hwindow : WithinWindow log)
    {left right : Forwarded} (hleft : NewestOfPeriod log left)
    (hright : NewestOfPeriod log right) (hperiod : left.period = right.period) :
    left.outputSequence = right.outputSequence := by
  obtain ⟨first, hfirst⟩ := exists_firstOf hleft.1
  have hleftBound := output_window hshifted hwindow hleft.1 hfirst
  have hrightBound := output_window hshifted hwindow hright.1 (hperiod ▸ hfirst)
  have hle := hleft.2 right hright.1 hperiod.symm
  have hge := hright.2 left hleft.1 hperiod
  rw [ahead_iff_of_window first.outputSequence (by omega) (by omega)] at hle hge
  have hsame : left.outputSequence - first.outputSequence =
      right.outputSequence - first.outputSequence := UInt16.toNat_inj.mp (by omega)
  grind

/-- Everything a period sends is newer than what the one before it sent. -/
theorem ahead_of_precedes
    (hsorted : log.Pairwise fun earlier later => earlier.period ≤ later.period)
    (hshifted : Shifted log) (hswitches : Switches clockRate log) (hwindow : WithinWindow log)
    {packet newest : Forwarded} (hmem : packet ∈ log) (hnewest : NewestOfPeriod log newest)
    (hprecedes : Precedes log newest.period packet.period) :
    Ahead packet.outputSequence newest.outputSequence := by
  obtain ⟨first, hfirst⟩ := exists_firstOf hmem
  obtain ⟨hperiod, before, after, hlog, hother⟩ := firstOf_eq_some_iff.mp hfirst
  rw [← hperiod] at hother hprecedes
  have hplace : newest ∈ before := by
    have hmemNewest := hnewest.1
    rw [hlog, List.mem_append] at hmemNewest
    rcases hmemNewest with hplace | hplace
    · exact hplace
    · have hlt := hprecedes.1
      rw [hlog, List.pairwise_append, List.pairwise_cons] at hsorted
      rcases List.mem_cons.mp hplace with rfl | hplace
      · omega
      · have hle := hsorted.2.1.1 newest hplace
        omega
  cases hbefore : newestOf before with
  | none =>
      rw [(newest_eq_none_iff _ before).mp hbefore] at hplace
      contradiction
  | some last =>
      obtain ⟨hmemLast, hlast, hlastNewest⟩ :=
        newest_before hsorted hshifted hswitches hwindow hlog hother hbefore
      have hsame : newest.period = last.period := by
        have hle := hprecedes.2 last hlastNewest.1 hlast.1
        have hge := hlast.2 newest hnewest.1 hprecedes.1
        omega
      have hnumber := newest_unique hshifted hwindow hnewest hlastNewest hsame
      have hfollows := hswitches before first after hlog hother last hbefore
      have hbound := output_window hshifted hwindow hmem hfirst
      have hstep : packet.outputSequence - newest.outputSequence =
          packet.outputSequence - first.outputSequence + 1 := by
        rw [hnumber, hfollows.sequence]
        grind
      have hone : (1 : UInt16).toNat = 1 := rfl
      rw [ahead_iff, hstep, UInt16.toNat_add, hone]
      omega

/-- What a rewriter has forwarded forms one continuous timeline. -/
structure Continuous (clockRate : UInt32) (log : List Forwarded) : Prop where
  shifted : Shifted log
  order : ∀ packet ∈ log, ∀ other ∈ log, packet.period = other.period →
    serialDistance packet.outputSequence other.outputSequence =
      serialDistance packet.inputSequence other.inputSequence
  switches : Switches clockRate log
  newest : ∀ before first after, log = before ++ first :: after →
    (∀ other ∈ before, other.period ≠ first.period) →
      ∀ newest ∈ newestOf before,
        Precedes log newest.period first.period ∧ NewestOfPeriod log newest
  newer : ∀ packet ∈ log, ∀ newest, NewestOfPeriod log newest →
    Precedes log newest.period packet.period →
      Ahead packet.outputSequence newest.outputSequence

theorem Timeline.continuous {rewriter : RtpSlotRewriter}
    (h : Timeline clockRate rewriter log) (hwindow : WithinWindow log) :
    Continuous clockRate log where
  shifted := h.shifted
  order packet hpacket other hother hperiod := by
    have hshift := (h.shifted packet hpacket other hother hperiod).1
    have hsame : packet.outputSequence - other.outputSequence =
        packet.inputSequence - other.inputSequence := by grind
    rw [serialDistance, serialDistance, hsame]
  switches := h.switches
  newest before first after hlog hfirst newest hnewest :=
    (newest_before h.sorted h.shifted h.switches hwindow hlog hfirst hnewest).2
  newer packet hpacket newest hnewest hprecedes :=
    ahead_of_precedes h.sorted h.shifted h.switches hwindow hpacket hnewest hprecedes

/-- A packet behind the first one of the current period is refused, and the
rewriter stays as it is. -/
theorem Timeline.refuses_behind {rewriter : RtpSlotRewriter}
    (h : Timeline clockRate rewriter log) (isRtcp : Bytes → Bool) {first : Forwarded}
    (hfirst : firstOf log rewriter.generation = some first) {packet : Bytes}
    (hbehind : serialDistance (networkU16 packet 2) first.inputSequence < 0)
    (sourceGeneration : Nat) (outputSsrc : UInt32) (midId : Option UInt8) :
    (rewriter.rewrite isRtcp packet sourceGeneration outputSsrc midId).1 = false ∧
      (rewriter.rewrite isRtcp packet sourceGeneration outputSsrc midId).2.2 = rewriter := by
  have hrunning : rewriter.sourceInitialized = true :=
    h.running.mpr ⟨first, List.mem_of_find?_eq_some hfirst, (firstOf_eq_some_iff.mp hfirst).1⟩
  rw [h.anchor first hfirst] at hbehind
  have hrefused := (rewrite_refused_iff isRtcp rewriter packet sourceGeneration outputSsrc
    midId).mpr (Or.inr (Or.inr ⟨hrunning, hbehind⟩))
  exact ⟨hrefused, congrArg Prod.snd
    (rewrite_refused isRtcp rewriter packet sourceGeneration outputSsrc midId hrefused)⟩

end

/-- Over any run of source changes and packets, with a default timestamp step
of at most ten seconds and no period that runs over half of the sequence space,
the forwarded packets form one continuous timeline, and packets behind the
start of the current period are refused without a trace. -/
theorem publisher_switch_continuous (isRtcp : Bytes → Bool)
    {clockRate defaultTimestampStep : UInt32} (hpos : 0 < defaultTimestampStep.toNat)
    (hle : defaultTimestampStep.toNat ≤ 10 * clockRate.toNat) (calls : List Call)
    (hwindow : WithinWindow (runOf isRtcp clockRate defaultTimestampStep calls).log) :
    Continuous clockRate (runOf isRtcp clockRate defaultTimestampStep calls).log ∧
      ∀ first ∈ firstOf (runOf isRtcp clockRate defaultTimestampStep calls).log
          (runOf isRtcp clockRate defaultTimestampStep calls).rewriter.generation,
        ∀ packet sourceGeneration outputSsrc midId,
          serialDistance (networkU16 packet 2) first.inputSequence < 0 →
            ((runOf isRtcp clockRate defaultTimestampStep calls).rewriter.rewrite isRtcp packet
                sourceGeneration outputSsrc midId).1 = false ∧
              ((runOf isRtcp clockRate defaultTimestampStep calls).rewriter.rewrite isRtcp
                  packet sourceGeneration outputSsrc midId).2.2 =
                (runOf isRtcp clockRate defaultTimestampStep calls).rewriter := by
  let start : Run := { rewriter := create clockRate defaultTimestampStep }
  have hstart : Timeline clockRate start.rewriter start.log := Timeline.create hpos hle
  have h : Timeline clockRate (runOf isRtcp clockRate defaultTimestampStep calls).rewriter
      (runOf isRtcp clockRate defaultTimestampStep calls).log := hstart.calls isRtcp calls
  refine ⟨h.continuous hwindow, ?_⟩
  intro first hfirst packet sourceGeneration outputSsrc midId hbehind
  exact h.refuses_behind isRtcp hfirst hbehind sourceGeneration outputSsrc midId

/-- Two publishers, the second one switched in across the wrap of its numbers. -/
def switchedCalls : List Call :=
  [.beginSource, .rewrite (plainCall 10).packet 1 7 none,
    .rewrite (plainCall 9).packet 1 7 none, .rewrite (plainCall 12).packet 1 7 none,
    .endSource, .beginSource, .rewrite (plainCall 65535).packet 3 7 none,
    .rewrite (plainCall 0).packet 3 7 none]

/-- The run of two publishers is continuous: 10 and 12, then 13 and 14. -/
theorem publisher_switch_continuous_two :
    (runOf libdatachannelIsRtcp 48000 960 switchedCalls).log.map Forwarded.outputSequence =
        [10, 12, 13, 14] ∧
      Continuous 48000 (runOf libdatachannelIsRtcp 48000 960 switchedCalls).log :=
  ⟨by decide +kernel,
    (@publisher_switch_continuous libdatachannelIsRtcp 48000 960 (by decide) (by decide)
      switchedCalls (by unfold WithinWindow; decide +kernel)).1⟩

end RtpSlotRewriter

end Sfu
end Driscord
