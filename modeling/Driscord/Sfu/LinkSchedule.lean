import Driscord.Library.SingleServer
import Driscord.Sfu.MediaUtils

/-!
# The schedule of a link

What `schedule_packet_departure` does with a sequence of packets.  The jitter of every
call is arbitrary, and packets that have left the queue may be counted down between the
calls.

The serialization time is a whole number of microseconds, rounded down, so the link is
faster than its capacity by up to a microsecond for each packet.

Main results:

- Theorem `scheduled_of_accepted`: what an accepted packet does to the link.
- Theorem `link_obeyed`: what a sequence of calls keeps.
- Theorem `truncation_exceeds_capacity`: a packet that is sent faster than the capacity
  allows.
-/

namespace Driscord
namespace Sfu

open Library

/-! ## One call -/

theorem LinkModelConfig.serializationUs_nonneg (config : LinkModelConfig) (packetBytes : Nat) :
    0 ≤ config.serializationUs packetBytes := by
  unfold serializationUs
  split
  · exact le_rfl
  · exact Int.natCast_nonneg _

/-- The serialization time is the time that the capacity asks for, rounded down. -/
theorem LinkModelConfig.lt_serializationUs_succ (config : LinkModelConfig) (packetBytes : Nat)
    (hcapacity : 0 < config.linkCapacityKbps) :
    (packetBytes * 8000 : Int) <
      config.linkCapacityKbps * (config.serializationUs packetBytes + 1) := by
  have hround := Nat.lt_mul_div_succ (packetBytes * 8000) hcapacity
  rw [serializationUs, if_neg hcapacity.ne']
  exact_mod_cast hround

theorem LinkModelConfig.delayUs_nonneg (gaussian : ℚ → ℚ → ℚ) (config : LinkModelConfig)
    (rng : UInt64) : 0 ≤ (config.delayUs gaussian rng).1 := by
  unfold delayUs
  split
  · apply Int.floor_nonneg.mpr
    positivity
  · exact le_rfl

theorem LinkModelConfig.le_inOrder (config : LinkModelConfig) (state : LinkModelState)
    (departureUs : Int) : departureUs ≤ config.inOrder state departureUs := by
  unfold inOrder
  split
  · exact le_rfl
  · exact le_max_left _ _

/-- What an accepted packet does to the link. -/
structure Scheduled (config : LinkModelConfig) (state : LinkModelState) (arrivalUs : Int)
    (packetBytes : Nat) (result : LinkScheduleResult) (state' : LinkModelState) : Prop where
  busy : state'.capacityBusyUntilUs =
    max arrivalUs state.capacityBusyUntilUs + config.serializationUs packetBytes
  last : state'.lastDepartureUs = result.departureUs
  sent : state'.capacityBusyUntilUs ≤ result.departureUs
  ordered : config.allowReordering = false → state.lastDepartureUs ≤ result.departureUs

theorem scheduled_of_accepted {gaussian : ℚ → ℚ → ℚ} {config : LinkModelConfig}
    {state state' : LinkModelState} {arrivalUs : Int} {packetBytes : Nat}
    {result : LinkScheduleResult} (henabled : config.enabled = true)
    (h : schedulePacketDeparture gaussian config state arrivalUs packetBytes =
      (some result, state')) :
    Scheduled config state arrivalUs packetBytes result state' := by
  simp only [schedulePacketDeparture, henabled, Bool.not_true, Bool.false_eq_true,
    if_false] at h
  split at h
  case isTrue => simp at h
  case isFalse =>
    rcases Prod.mk.inj h with ⟨hresult, rfl⟩
    rw [Option.some.injEq] at hresult
    subst hresult
    refine ⟨rfl, rfl, ?_, ?_⟩
    · have hdelay := config.delayUs_nonneg gaussian (state.arrive config).rng
      refine le_trans ?_ (config.le_inOrder _ _)
      exact le_add_of_nonneg_right hdelay
    · intro hreorder
      simp [LinkModelConfig.inOrder, hreorder, LinkModelState.arrive]

/-! ## Sequences of calls -/

/-- A call of `schedule_packet_departure`. -/
structure LinkCall where
  arrivalUs : Int
  packetBytes : Nat
  /-- The formula of the jitter in this call. -/
  gaussian : ℚ → ℚ → ℚ
  /-- The packets counted down since the call before. -/
  released : Nat := 0

/-- The state that a call finds. -/
def LinkCall.found (call : LinkCall) (state : LinkModelState) : LinkModelState :=
  { state with queuedPackets := state.queuedPackets - call.released }

/-- A call with the state that it found and the state that it left. -/
structure LinkOutcome where
  call : LinkCall
  before : LinkModelState
  result : Option LinkScheduleResult
  after : LinkModelState

/-- Make a call. -/
def LinkCall.make (config : LinkModelConfig) (state : LinkModelState) (call : LinkCall) :
    LinkOutcome :=
  let scheduled := schedulePacketDeparture call.gaussian config (call.found state)
    call.arrivalUs call.packetBytes
  { call, before := call.found state, result := scheduled.1, after := scheduled.2 }

/-- Make the calls in order. -/
def linkOutcomes (config : LinkModelConfig) (state : LinkModelState) :
    List LinkCall → List LinkOutcome
  | [] => []
  | call :: calls =>
      let outcome := call.make config state
      outcome :: linkOutcomes config outcome.after calls

/-- An accepted packet on the link. -/
structure Transmission where
  arrivalUs : Int
  packetBytes : Nat
  /-- The serialization interval. -/
  startUs : Int
  finishUs : Int
  departureUs : Int
deriving DecidableEq, Repr

/-- The transmission of a call, if its packet was accepted. -/
def LinkOutcome.transmission (config : LinkModelConfig) (outcome : LinkOutcome) :
    Option Transmission :=
  outcome.result.map fun result =>
    let startUs := max outcome.call.arrivalUs outcome.before.capacityBusyUntilUs
    { arrivalUs := outcome.call.arrivalUs
      packetBytes := outcome.call.packetBytes
      startUs
      finishUs := startUs + config.serializationUs outcome.call.packetBytes
      departureUs := result.departureUs }

/-- The transmissions of a sequence of calls. -/
def transmissions (config : LinkModelConfig) (state : LinkModelState) (calls : List LinkCall) :
    List Transmission :=
  (linkOutcomes config state calls).filterMap (LinkOutcome.transmission config)

/-- The calls have non-decreasing arrival times. -/
def ArriveInOrder (calls : List LinkCall) : Prop :=
  calls.Pairwise fun call next => call.arrivalUs ≤ next.arrivalUs

theorem make_eq_accepted {config : LinkModelConfig} {state : LinkModelState} {call : LinkCall}
    {result : LinkScheduleResult} (henabled : config.enabled = true)
    (h : (call.make config state).result = some result) :
    Scheduled config (call.found state) call.arrivalUs call.packetBytes result
      (call.make config state).after :=
  scheduled_of_accepted henabled (Prod.ext h rfl)

/-- A refused packet leaves the link as the call found it. -/
structure LinkOutcome.Untouched (outcome : LinkOutcome) : Prop where
  busy : outcome.after.capacityBusyUntilUs = outcome.before.capacityBusyUntilUs
  last : outcome.after.lastDepartureUs = outcome.before.lastDepartureUs
  queued : outcome.after.queuedPackets = outcome.before.queuedPackets

theorem untouched_of_refused {config : LinkModelConfig} {state : LinkModelState}
    {call : LinkCall} (h : (call.make config state).result = none) :
    (call.make config state).Untouched := by
  rcases schedulePacketDeparture_refused (Prod.ext h rfl) with ⟨hqueued, hbusy, hlast⟩
  exact ⟨hbusy, hlast, hqueued⟩

/-- What a call does not take back. -/
structure Advanced (config : LinkModelConfig) (state state' : LinkModelState) : Prop where
  busy : state.capacityBusyUntilUs ≤ state'.capacityBusyUntilUs
  last : config.allowReordering = false → state.lastDepartureUs ≤ state'.lastDepartureUs

theorem advanced_make {config : LinkModelConfig} (henabled : config.enabled = true)
    (state : LinkModelState) (call : LinkCall) :
    Advanced config state (call.make config state).after := by
  cases hresult : (call.make config state).result with
  | none =>
      have hsame := untouched_of_refused hresult
      exact ⟨hsame.busy.ge, fun _ => hsame.last.ge⟩
  | some result =>
      have hscheduled := make_eq_accepted henabled hresult
      constructor
      · have hserialization := config.serializationUs_nonneg call.packetBytes
        have hstart : state.capacityBusyUntilUs ≤
            max call.arrivalUs (call.found state).capacityBusyUntilUs := le_max_right _ _
        rw [hscheduled.busy]
        omega
      · intro hreorder
        rw [hscheduled.last]
        exact hscheduled.ordered hreorder

/-! ## Runs -/

section

variable {config : LinkModelConfig} {state : LinkModelState} {call : LinkCall}
variable {calls : List LinkCall} {sent : Transmission}

theorem transmissions_cons :
    transmissions config state (call :: calls) =
      ((call.make config state).transmission config).toList ++
        transmissions config (call.make config state).after calls := by
  rw [transmissions, linkOutcomes, List.filterMap_cons]
  cases (call.make config state).transmission config <;> rfl

/-- The transmission of an accepted packet. -/
theorem eq_of_transmission (henabled : config.enabled = true)
    (h : (call.make config state).transmission config = some sent) :
    sent.arrivalUs = call.arrivalUs ∧
      sent.startUs = max call.arrivalUs state.capacityBusyUntilUs ∧
      sent.finishUs = sent.startUs + config.serializationUs sent.packetBytes ∧
      sent.finishUs = (call.make config state).after.capacityBusyUntilUs ∧
      sent.departureUs = (call.make config state).after.lastDepartureUs ∧
      sent.finishUs ≤ sent.departureUs ∧
      (config.allowReordering = false → state.lastDepartureUs ≤ sent.departureUs) := by
  rcases Option.map_eq_some_iff.mp h with ⟨result, hresult, rfl⟩
  have hscheduled := make_eq_accepted henabled hresult
  refine ⟨rfl, rfl, rfl, hscheduled.busy.symm, hscheduled.last.symm, ?_, hscheduled.ordered⟩
  exact hscheduled.busy.symm.le.trans hscheduled.sent

/-- Later packets find the link as the earlier ones have left it. -/
theorem after_of_mem_transmissions (henabled : config.enabled = true)
    (hsent : sent ∈ transmissions config state calls) :
    state.capacityBusyUntilUs ≤ sent.startUs ∧
      (config.allowReordering = false → state.lastDepartureUs ≤ sent.departureUs) := by
  induction calls generalizing state with
  | nil => simp [transmissions, linkOutcomes] at hsent
  | cons call calls ih =>
      rw [transmissions_cons, List.mem_append, Option.mem_toList] at hsent
      rcases hsent with hhead | htail
      · rcases eq_of_transmission henabled hhead with ⟨-, hstart, -, -, -, -, hordered⟩
        exact ⟨hstart ▸ le_max_right _ _, hordered⟩
      · have hadvanced := advanced_make henabled state call
        rcases ih htail with ⟨hbusy, hlast⟩
        exact ⟨hadvanced.busy.trans hbusy, fun h => (hadvanced.last h).trans (hlast h)⟩

theorem exists_call_of_mem_transmissions (henabled : config.enabled = true)
    (hsent : sent ∈ transmissions config state calls) :
    ∃ call ∈ calls, sent.arrivalUs = call.arrivalUs := by
  induction calls generalizing state with
  | nil => simp [transmissions, linkOutcomes] at hsent
  | cons call calls ih =>
      rw [transmissions_cons, List.mem_append, Option.mem_toList] at hsent
      rcases hsent with hhead | htail
      · exact ⟨call, List.mem_cons_self, (eq_of_transmission henabled hhead).1⟩
      · rcases ih htail with ⟨other, hother, harrival⟩
        exact ⟨other, List.mem_cons_of_mem _ hother, harrival⟩

/-- A relation of each accepted packet to the later ones holds pairwise. -/
theorem pairwise_transmissions {related : Transmission → Transmission → Prop}
    (hrelated : ∀ (state : LinkModelState) (call : LinkCall) (calls : List LinkCall)
      (sent later : Transmission), ArriveInOrder (call :: calls) →
      (call.make config state).transmission config = some sent →
      later ∈ transmissions config (call.make config state).after calls → related sent later)
    (harrive : ArriveInOrder calls) :
    (transmissions config state calls).Pairwise related := by
  induction calls generalizing state with
  | nil => simp [transmissions, linkOutcomes]
  | cons call calls ih =>
      rw [transmissions_cons]
      refine List.pairwise_append.mpr ⟨?_, ih (List.pairwise_cons.mp harrive).2, ?_⟩
      · cases (call.make config state).transmission config <;> simp
      · intro sent hsent later hlater
        exact hrelated state call calls sent later harrive (Option.mem_toList.mp hsent) hlater

end

/-! ## What the link obeys -/

/-- The accepted packets whose serialization lies in a window. -/
def sentWithin (openingUs closingUs : Int) (sent : List Transmission) : List Transmission :=
  sent.filter fun packet => openingUs ≤ packet.startUs ∧ packet.finishUs ≤ closingUs

/-- In no window is more sent than the capacity allows, where each packet may finish
early by a grain of time. -/
def CapacityKept (config : LinkModelConfig) (grainUs : Int) (sent : List Transmission) : Prop :=
  ∀ openingUs closingUs : Int, openingUs ≤ closingUs →
    ((sentWithin openingUs closingUs sent).map fun packet =>
      (packet.packetBytes * 8000 : Int)).sum ≤
      config.linkCapacityKbps *
        (closingUs - openingUs + (sentWithin openingUs closingUs sent).length * grainUs)

/-- What a sequence of calls keeps, up to the rounding of the serialization times. -/
structure ObeysLink (config : LinkModelConfig) (grainUs : Int) (state : LinkModelState)
    (calls : List LinkCall) : Prop where
  late : ∀ packet ∈ transmissions config state calls,
    packet.arrivalUs + config.serializationUs packet.packetBytes ≤ packet.departureUs
  serialized : ∀ packet ∈ transmissions config state calls,
    packet.arrivalUs ≤ packet.startUs ∧
      packet.finishUs = packet.startUs + config.serializationUs packet.packetBytes
  disjoint : OneByOne Transmission.startUs Transmission.finishUs
    (transmissions config state calls)
  arrivalOrder : (transmissions config state calls).Pairwise fun packet later =>
    packet.arrivalUs ≤ later.arrivalUs
  capacity : 0 < config.linkCapacityKbps →
    CapacityKept config grainUs (transmissions config state calls)
  departureOrder : config.allowReordering = false →
    (transmissions config state calls).Pairwise fun packet later =>
      packet.departureUs ≤ later.departureUs
  refused : ∀ outcome ∈ linkOutcomes config state calls, outcome.result = none →
    outcome.Untouched

section

variable {config : LinkModelConfig} {state : LinkModelState} {calls : List LinkCall}

theorem serialized_of_mem_transmissions (henabled : config.enabled = true)
    {sent : Transmission} (hsent : sent ∈ transmissions config state calls) :
    sent.arrivalUs ≤ sent.startUs ∧
      sent.finishUs = sent.startUs + config.serializationUs sent.packetBytes ∧
      sent.finishUs ≤ sent.departureUs := by
  induction calls generalizing state with
  | nil => simp [transmissions, linkOutcomes] at hsent
  | cons call calls ih =>
      rw [transmissions_cons, List.mem_append, Option.mem_toList] at hsent
      rcases hsent with hhead | htail
      · rcases eq_of_transmission henabled hhead with
          ⟨harrival, hstart, hfinish, -, -, hdeparture, -⟩
        refine ⟨?_, hfinish, hdeparture⟩
        rw [harrival, hstart]
        exact le_max_left _ _
      · exact ih htail

theorem oneByOne_transmissions (state : LinkModelState) (henabled : config.enabled = true)
    (harrive : ArriveInOrder calls) :
    OneByOne Transmission.startUs Transmission.finishUs (transmissions config state calls) := by
  refine pairwise_transmissions ?_ harrive
  intro state call calls sent later _ hsent hlater
  rcases eq_of_transmission henabled hsent with ⟨-, -, -, hfinish, -⟩
  rw [hfinish]
  exact (after_of_mem_transmissions henabled hlater).1

theorem capacityKept_transmissions (henabled : config.enabled = true)
    (harrive : ArriveInOrder calls) (hcapacity : 0 < config.linkCapacityKbps) :
    CapacityKept config 1 (transmissions config state calls) := by
  intro openingUs closingUs hle
  have hordered := (oneByOne_transmissions state henabled harrive).sublist
    (List.filter_sublist (p := fun packet : Transmission =>
      openingUs ≤ packet.startUs ∧ packet.finishUs ≤ closingUs))
  refine sum_work_le (Int.natCast_nonneg _) hle hordered ?_ ?_
  · intro packet hpacket
    simpa using (List.mem_filter.mp hpacket).2
  · intro packet hpacket
    have hwork := config.lt_serializationUs_succ packet.packetBytes hcapacity
    rcases serialized_of_mem_transmissions henabled (List.mem_filter.mp hpacket).1 with
      ⟨-, hfinish, -⟩
    rw [hfinish, add_sub_cancel_left]
    exact hwork.le

theorem untouched_of_mem_linkOutcomes {outcome : LinkOutcome}
    (hmem : outcome ∈ linkOutcomes config state calls) (hresult : outcome.result = none) :
    outcome.Untouched := by
  induction calls generalizing state with
  | nil => simp [linkOutcomes] at hmem
  | cons call calls ih =>
      rcases List.mem_cons.mp hmem with rfl | hrest
      · exact untouched_of_refused hresult
      · exact ih hrest

end

/-- The link is obeyed, and its capacity up to a microsecond for each packet. -/
theorem link_obeyed {config : LinkModelConfig} {calls : List LinkCall}
    (henabled : config.enabled = true) (harrive : ArriveInOrder calls)
    (state : LinkModelState) : ObeysLink config 1 state calls where
  late packet hpacket := by
    rcases serialized_of_mem_transmissions henabled hpacket with
      ⟨harrival, hfinish, hdeparture⟩
    omega
  serialized packet hpacket := by
    rcases serialized_of_mem_transmissions henabled hpacket with ⟨harrival, hfinish, -⟩
    exact ⟨harrival, hfinish⟩
  disjoint := oneByOne_transmissions state henabled harrive
  arrivalOrder := by
    refine pairwise_transmissions ?_ harrive
    intro state call calls sent later hcalls hsent hlater
    rcases exists_call_of_mem_transmissions henabled hlater with ⟨other, hother, hlaterArrival⟩
    rw [(eq_of_transmission henabled hsent).1, hlaterArrival]
    exact (List.pairwise_cons.mp hcalls).1 other hother
  capacity := capacityKept_transmissions henabled harrive
  departureOrder hreorder := by
    refine pairwise_transmissions ?_ harrive
    intro state call calls sent later _ hsent hlater
    rcases eq_of_transmission henabled hsent with ⟨-, -, -, -, hdeparture, -⟩
    rw [hdeparture]
    exact (after_of_mem_transmissions henabled hlater).2 hreorder
  refused outcome hmem hresult := untouched_of_mem_linkOutcomes hmem hresult

/-- Two packets and a refused one on a link of 1000 kbps. -/
theorem link_obeyed_two_packets :
    ObeysLink { linkCapacityKbps := 1000, queueLengthPackets := 2 } 1 {}
      [⟨0, 1250, fun _ _ => 0, 0⟩, ⟨0, 1250, fun _ _ => 0, 0⟩, ⟨5, 1250, fun _ _ => 0, 0⟩] :=
  link_obeyed (by decide) (by simp [ArriveInOrder]) {}

/-- One byte leaves a link of 3 kbps after 2666 microseconds instead of 2667. -/
theorem truncation_exceeds_capacity :
    ¬ ∀ (config : LinkModelConfig) (state : LinkModelState) (calls : List LinkCall),
      config.enabled = true → ArriveInOrder calls → ObeysLink config 0 state calls := by
  intro h
  have hobeys := h { linkCapacityKbps := 3 } {} [⟨0, 1, fun _ _ => 0, 0⟩] (by decide)
    (by simp [ArriveInOrder])
  have hcapacity := hobeys.capacity (by decide) 0 2666 (by decide)
  revert hcapacity
  decide

end Sfu
end Driscord
