import Driscord.Bytes
import Mathlib.Algebra.Order.Floor.Ring
import Mathlib.Data.Rat.Floor

/-!
# Fault injection and the link model

`apply_rtp_faults` drops, reorders and holds back packets of one source, and
`schedule_packet_departure` decides when a packet leaves a link of limited
capacity.  Both draw from a deterministic generator kept in the source's state.

Probabilities and delays are rational numbers: a draw of `next_unit` is a
dyadic fraction that a double represents exactly.  The floating-point formula
of `next_gaussian` is the parameter `gaussian`, and libdatachannel's RTCP test
is the parameter `isRtcp`.

Main results:

- Theorem `applyRtpFaults_rtcp`: RTCP passes alone and leaves the state as it is.
- Theorem `schedulePacketDeparture_refused`: a refused packet occupies nothing.
-/

namespace Driscord
namespace Sfu

/-! ## Random draws -/

/-- `next_random`: the drawn word and the new generator state. -/
def nextRandom (state : UInt64) : UInt64 × UInt64 :=
  let state := state + 0x9E3779B97F4A7C15
  let z := (state ^^^ (state >>> 30)) * 0xBF58476D1CE4E5B9
  let z := (z ^^^ (z >>> 27)) * 0x94D049BB133111EB
  (z ^^^ (z >>> 31), state)

/-- `next_unit`: a number in the half-open unit interval. -/
def nextUnit (state : UInt64) : ℚ × UInt64 :=
  let draw := nextRandom state
  (((draw.1 >>> 11).toNat : ℚ) / 2 ^ 53, draw.2)

/-- `next_gaussian`: the formula applied to two draws. -/
def nextGaussian (gaussian : ℚ → ℚ → ℚ) (state : UInt64) : ℚ × UInt64 :=
  let first := nextUnit state
  let second := nextUnit first.2
  (gaussian first.1 second.1, second.2)

/-! ## Configurations and states -/

/-- `BurstLossConfig`. -/
structure BurstLossConfig where
  goodToBad : ℚ := 0
  badToGood : ℚ := 1
  lossInGood : ℚ := 0
  lossInBad : ℚ := 1
  seed : UInt64 := 0
deriving DecidableEq, Repr

/-- `BurstLossConfig::enabled`. -/
def BurstLossConfig.enabled (config : BurstLossConfig) : Bool :=
  decide (0 < config.goodToBad) || decide (0 < config.lossInGood)

/-- `LinkModelConfig`. -/
structure LinkModelConfig where
  queueDelayMs : Int := 0
  delayStandardDeviationMs : Int := 0
  queueLengthPackets : Nat := 0
  linkCapacityKbps : Nat := 0
  allowReordering : Bool := false
  duplicateEveryNth : UInt32 := 0
  seed : UInt64 := 0
deriving DecidableEq, Repr

/-- `LinkModelConfig::enabled`. -/
def LinkModelConfig.enabled (config : LinkModelConfig) : Bool :=
  decide (0 < config.queueDelayMs) || decide (0 < config.delayStandardDeviationMs)
    || decide (0 < config.linkCapacityKbps) || decide (0 < config.duplicateEveryNth)

/-- `LinkModelState`. -/
structure LinkModelState where
  initialized : Bool := false
  rng : UInt64 := 0
  packetsSeen : UInt64 := 0
  capacityBusyUntilUs : Int := 0
  lastDepartureUs : Int := 0
  queuedPackets : Nat := 0
deriving DecidableEq, Repr

/-- `LinkScheduleResult`. -/
structure LinkScheduleResult where
  departureUs : Int
  duplicate : Bool := false
deriving DecidableEq, Repr

/-- `RtpFaultConfig`, without the packet tap, which only observes. -/
structure RtpFaultConfig where
  dropEveryNth : UInt32 := 0
  reorderEveryNth : UInt32 := 0
  burst : BurstLossConfig := {}
  link : LinkModelConfig := {}
  linkDown : Bool := false
deriving DecidableEq, Repr

/-- `RtpFaultState`. -/
structure RtpFaultState where
  packetsSeen : UInt64 := 0
  delayedPacket : Option Bytes := none
  burstInitialized : Bool := false
  inBadState : Bool := false
  rng : UInt64 := 0
deriving DecidableEq, Repr

/-- `RtpFaultResult`. -/
structure RtpFaultResult where
  first : Option Bytes := none
  second : Option Bytes := none
deriving DecidableEq, Repr

/-! ## Fault injection -/

/-- `burst_should_drop`. -/
def burstShouldDrop (burst : BurstLossConfig) (state : RtpFaultState) :
    Bool × RtpFaultState :=
  let state :=
    if state.burstInitialized then state
    else
      { state with
        rng := burst.seed + 0xD1B54A32D192ED03
        inBadState := false
        burstInitialized := true }
  let lossProbability := if state.inBadState then burst.lossInBad else burst.lossInGood
  let lossDraw := nextUnit state.rng
  let transition := if state.inBadState then burst.badToGood else burst.goodToBad
  let transitionDraw := nextUnit lossDraw.2
  (decide (lossDraw.1 < lossProbability),
    { state with
      rng := transitionDraw.2
      inBadState :=
        if transitionDraw.1 < transition then !state.inBadState else state.inBadState })

/-- The `n`-th packet rule: zero switches the rule off. -/
def everyNth (packetsSeen : UInt64) (n : UInt32) : Bool :=
  n != 0 && packetsSeen % n.toUInt64 == 0

/-- `apply_rtp_faults`. -/
def applyRtpFaults (isRtcp : Bytes → Bool) (config : RtpFaultConfig)
    (state : RtpFaultState) (packet : Bytes) : RtpFaultResult × RtpFaultState :=
  if isRtcp packet || (config.dropEveryNth == 0 && config.reorderEveryNth == 0
      && !config.burst.enabled) then
    (⟨some packet, none⟩, state)
  else
    let state := { state with packetsSeen := state.packetsSeen + 1 }
    let burst :=
      if config.burst.enabled then burstShouldDrop config.burst state else (false, state)
    let state := burst.2
    if burst.1 || everyNth state.packetsSeen config.dropEveryNth then ({}, state)
    else
      match state.delayedPacket with
      | some delayed => (⟨some packet, some delayed⟩, { state with delayedPacket := none })
      | none =>
          if everyNth state.packetsSeen config.reorderEveryNth then
            ({}, { state with delayedPacket := some packet })
          else (⟨some packet, none⟩, state)

theorem applyRtpFaults_rtcp {isRtcp : Bytes → Bool} {packet : Bytes}
    (config : RtpFaultConfig) (state : RtpFaultState) (hrtcp : isRtcp packet = true) :
    applyRtpFaults isRtcp config state packet = (⟨some packet, none⟩, state) := by
  simp [applyRtpFaults, hrtcp]

/-! ## The link model -/

/-- The serialization time of a packet on the link. -/
def LinkModelConfig.serializationUs (config : LinkModelConfig) (packetBytes : Nat) : Int :=
  if config.linkCapacityKbps = 0 then 0
  else (packetBytes * 8000 / config.linkCapacityKbps : Nat)

/-- The random queueing delay in microseconds and the new generator state. -/
def LinkModelConfig.delayUs (gaussian : ℚ → ℚ → ℚ) (config : LinkModelConfig)
    (rng : UInt64) : Int × UInt64 :=
  if 0 < config.queueDelayMs ∨ 0 < config.delayStandardDeviationMs then
    let jitter :=
      if 0 < config.delayStandardDeviationMs then
        let draw := nextGaussian gaussian rng
        (draw.1 * config.delayStandardDeviationMs, draw.2)
      else (0, rng)
    let delayMs : ℚ := max 0 (config.queueDelayMs + jitter.1)
    (⌊delayMs * 1000⌋, jitter.2)
  else (0, rng)

/-- The link state once a packet has arrived: seeded and counted. -/
def LinkModelState.arrive (config : LinkModelConfig) (state : LinkModelState) :
    LinkModelState where
  initialized := true
  rng := if state.initialized then state.rng else config.seed + 0x9E3779B97F4A7C15
  packetsSeen := state.packetsSeen + 1
  capacityBusyUntilUs := state.capacityBusyUntilUs
  lastDepartureUs := state.lastDepartureUs
  queuedPackets := state.queuedPackets

/-- Without reordering a packet does not depart before the last one. -/
def LinkModelConfig.inOrder (config : LinkModelConfig) (state : LinkModelState)
    (departureUs : Int) : Int :=
  if config.allowReordering then departureUs else max departureUs state.lastDepartureUs

/-- `schedule_packet_departure`: the departure, or `none` for a refused packet. -/
def schedulePacketDeparture (gaussian : ℚ → ℚ → ℚ) (config : LinkModelConfig)
    (state : LinkModelState) (arrivalUs : Int) (packetBytes : Nat) :
    Option LinkScheduleResult × LinkModelState :=
  if !config.enabled then (some { departureUs := arrivalUs }, state)
  else
    let state := state.arrive config
    let start := max arrivalUs state.capacityBusyUntilUs
    let serializationUs := config.serializationUs packetBytes
    let delay := config.delayUs gaussian state.rng
    let state := { state with rng := delay.2 }
    let departure := config.inOrder state (start + serializationUs + delay.1)
    if arrivalUs < departure ∧ config.queueLengthPackets ≠ 0
        ∧ config.queueLengthPackets ≤ state.queuedPackets then (none, state)
    else
      (some
        { departureUs := departure
          duplicate := everyNth state.packetsSeen config.duplicateEveryNth },
        { state with
          capacityBusyUntilUs := start + serializationUs
          lastDepartureUs := departure
          queuedPackets :=
            if arrivalUs < departure then state.queuedPackets + 1 else state.queuedPackets })

/-- A refused packet occupies neither the link nor the queue. -/
theorem schedulePacketDeparture_refused {gaussian : ℚ → ℚ → ℚ} {config : LinkModelConfig}
    {state state' : LinkModelState} {arrivalUs : Int} {packetBytes : Nat}
    (h : schedulePacketDeparture gaussian config state arrivalUs packetBytes =
      (none, state')) :
    state'.queuedPackets = state.queuedPackets ∧
      state'.capacityBusyUntilUs = state.capacityBusyUntilUs ∧
      state'.lastDepartureUs = state.lastDepartureUs := by
  unfold schedulePacketDeparture at h
  split at h
  · simp at h
  · dsimp only at h
    split at h
    · rcases Prod.mk.inj h with ⟨_, rfl⟩
      exact ⟨rfl, rfl, rfl⟩
    · simp at h

/-! ## Admission to the delay queue -/

section

variable {δ : Type}

/-- `delay_queue.emplace`: behind the entries that are not due later. -/
def emplaceDelayed (queue : List (Int × δ)) (departureUs : Int) (item : δ) :
    List (Int × δ) :=
  queue.takeWhile (fun entry => decide (entry.1 ≤ departureUs))
    ++ (departureUs, item) :: queue.dropWhile (fun entry => decide (entry.1 ≤ departureUs))

/-- What `route` decides packet by packet: the link state, the delay queue and
the packets that leave at once. -/
structure Admission (δ : Type) where
  linkState : LinkModelState
  delayQueue : List (Int × δ)
  immediate : List Bytes := []

/-- One turn of the packet loop of `route`.  `wrap` builds the delayed packet. -/
def Admission.admitPacket (gaussian : ℚ → ℚ → ℚ) (config : RtpFaultConfig) (executor : Bool)
    (rtcp : Bool) (wrap : Bytes → δ) (now : Int) (admission : Admission δ) :
    Option Bytes → Admission δ
  | none => admission
  | some packet =>
      if rtcp || !config.link.enabled then
        { admission with immediate := admission.immediate ++ [packet] }
      else
        let scheduled :=
          schedulePacketDeparture gaussian config.link admission.linkState now packet.length
        match scheduled.1 with
        | none => { admission with linkState := scheduled.2 }
        | some result =>
            let copies := if result.duplicate then 2 else 1
            if result.departureUs ≤ now ∨ executor = false then
              { admission with
                linkState := scheduled.2
                immediate := admission.immediate ++ List.replicate copies packet }
            else
              { admission with
                linkState := scheduled.2
                delayQueue := (fun queue =>
                  emplaceDelayed queue result.departureUs (wrap packet))^[copies]
                    admission.delayQueue }

end

end Sfu
end Driscord
