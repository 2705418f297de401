import Driscord.Library.HoldBack
import Driscord.Sfu.MediaUtils

/-!
# Runs of the fault injection

What `apply_rtp_faults` does with the packets of one source.  The configuration may be
another in every call, and the random part of the state may be any.  Packets are
told apart by the number of the call that they were passed in.

While neither a drop nor a reorder rule nor the burst loss is on, packets pass before
the held packet is looked at, so it stays behind.

Main results:

- Theorem `applyRtpFaults_effect`: what a call does with the packet in hand and the one
  that is held.
- Theorem `conserved_iff`: packets are conserved unless a packet passes while one is held.
- Theorem `held_packet_stays`: a run in which the held packet stays behind.
-/

namespace Driscord
namespace Sfu

open Library

/-! ## One call -/

/-- A rule of the configuration concerns RTP packets. -/
def RtpFaultConfig.active (config : RtpFaultConfig) : Bool :=
  config.dropEveryNth != 0 || config.reorderEveryNth != 0 || config.burst.enabled

/-- The packet of this call is lost to the burst or the drop rule. -/
def dropDecision (config : RtpFaultConfig) (state : RtpFaultState) : Bool :=
  let state := { state with packetsSeen := state.packetsSeen + 1 }
  config.active && (config.burst.enabled && (burstShouldDrop config.burst state).1
    || everyNth state.packetsSeen config.dropEveryNth)

/-- What comes out for an RTP packet, and which packet is held then. -/
def faultEffect (config : RtpFaultConfig) (state : RtpFaultState) (packet : Bytes) :
    RtpFaultResult × Option Bytes :=
  if config.active = false then (⟨some packet, none⟩, state.delayedPacket)
  else if dropDecision config state then ({}, state.delayedPacket)
  else
    match state.delayedPacket with
    | some delayed => (⟨some packet, some delayed⟩, none)
    | none =>
        if everyNth (state.packetsSeen + 1) config.reorderEveryNth then ({}, some packet)
        else (⟨some packet, none⟩, none)

/-- The draws change neither the count nor the held packet. -/
theorem burstShouldDrop_kept (burst : BurstLossConfig) (state : RtpFaultState) :
    (burstShouldDrop burst state).2.packetsSeen = state.packetsSeen ∧
      (burstShouldDrop burst state).2.delayedPacket = state.delayedPacket := by
  obtain ⟨drawn, hdrawn⟩ : ∃ drawn, burstShouldDrop burst state = drawn := ⟨_, rfl⟩
  rw [hdrawn]
  delta burstShouldDrop at hdrawn
  -- The draws themselves are of no interest, and must not be computed.
  generalize nextUnit = unit at hdrawn
  rcases state with ⟨packetsSeen, delayedPacket, burstInitialized, inBadState, rng⟩
  cases burstInitialized <;> rw [← hdrawn] <;> exact ⟨rfl, rfl⟩

/-- A call does with the packets what `faultEffect` says. -/
theorem applyRtpFaults_effect {isRtcp : Bytes → Bool} {packet : Bytes}
    (config : RtpFaultConfig) (state : RtpFaultState) (hrtp : isRtcp packet = false) :
    ((applyRtpFaults isRtcp config state packet).1,
      (applyRtpFaults isRtcp config state packet).2.delayedPacket) =
      faultEffect config state packet := by
  have hbypass : (config.dropEveryNth == 0 && config.reorderEveryNth == 0 &&
      !config.burst.enabled) = !config.active := by
    simp [RtpFaultConfig.active, bne]
  have hkept := burstShouldDrop_kept config.burst
  obtain ⟨call, hcall⟩ : ∃ call, call = applyRtpFaults isRtcp config state packet := ⟨_, rfl⟩
  obtain ⟨effect, heffect⟩ : ∃ effect, effect = faultEffect config state packet := ⟨_, rfl⟩
  rw [← hcall, ← heffect]
  delta applyRtpFaults at hcall
  delta faultEffect dropDecision at heffect
  generalize burstShouldDrop config.burst = burst at hkept hcall heffect
  subst hcall heffect
  simp only [hrtp, hbypass, Bool.false_or]
  cases hactive : config.active with
  | false => simp
  | true =>
      cases hburst : config.burst.enabled with
      | false =>
          simp only [Bool.not_true, Bool.false_eq_true, if_false, Bool.true_and, Bool.false_and,
            Bool.false_or, Bool.true_eq_false]
          cases everyNth (state.packetsSeen + 1) config.dropEveryNth with
          | true => simp
          | false =>
              cases state.delayedPacket with
              | some delayed => simp
              | none => cases everyNth (state.packetsSeen + 1) config.reorderEveryNth <;> simp
      | true =>
          rcases hkept { state with packetsSeen := state.packetsSeen + 1 } with ⟨hseen, hdelayed⟩
          obtain ⟨drawn, hdrawn⟩ :
              ∃ drawn, burst { state with packetsSeen := state.packetsSeen + 1 } = drawn := ⟨_, rfl⟩
          rw [hdrawn] at hseen hdelayed
          simp only [Bool.not_true, Bool.false_eq_true, if_false, Bool.true_and, if_true,
            hdrawn, hseen, hdelayed, Bool.true_eq_false]
          split
          · simp [hdelayed]
          · cases hheld : state.delayedPacket with
            | some delayed => simp
            | none =>
                cases everyNth (state.packetsSeen + 1) config.reorderEveryNth <;>
                  simp [hdelayed, hheld]

/-! ## Sequences of calls -/

/-- The part of the state that decides the burst losses. -/
structure BurstRandom where
  burstInitialized : Bool
  inBadState : Bool
  rng : UInt64

/-- The random part of a state. -/
def RtpFaultState.burstRandom (state : RtpFaultState) : BurstRandom where
  burstInitialized := state.burstInitialized
  inBadState := state.inBadState
  rng := state.rng

/-- A call of `apply_rtp_faults`.  The call finds any random part, as a rule the one that
the call before has left. -/
structure FaultCall where
  config : RtpFaultConfig
  packet : Bytes
  random : RtpFaultState → BurstRandom := RtpFaultState.burstRandom

/-- The state that a call finds. -/
def FaultCall.found (call : FaultCall) (state : RtpFaultState) : RtpFaultState where
  packetsSeen := state.packetsSeen
  delayedPacket := state.delayedPacket
  burstInitialized := (call.random state).burstInitialized
  inBadState := (call.random state).inBadState
  rng := (call.random state).rng

/-- A call with the state that it found, its result and the state that it left. -/
structure FaultOutcome where
  call : FaultCall
  before : RtpFaultState
  result : RtpFaultResult
  after : RtpFaultState

section

variable (isRtcp : Bytes → Bool)

/-- Make a call. -/
def FaultCall.make (state : RtpFaultState) (call : FaultCall) : FaultOutcome :=
  let applied := applyRtpFaults isRtcp call.config (call.found state) call.packet
  { call, before := call.found state, result := applied.1, after := applied.2 }

/-- Make the calls in order. -/
def faultOutcomes (state : RtpFaultState) : List FaultCall → List FaultOutcome
  | [] => []
  | call :: calls =>
      let outcome := call.make isRtcp state
      outcome :: faultOutcomes outcome.after calls

/-- The packet that is held after the calls. -/
def heldAfter (state : RtpFaultState) : List FaultCall → Option Bytes
  | [] => state.delayedPacket
  | call :: calls => heldAfter (call.make isRtcp state).after calls

/-- The packet of the call is an RTP packet. -/
def FaultOutcome.rtp (outcome : FaultOutcome) : Bool :=
  !isRtcp outcome.call.packet

/-- The packet of the call is dropped by a decision of this call. -/
def FaultOutcome.dropped (outcome : FaultOutcome) : Bool :=
  outcome.rtp isRtcp && dropDecision outcome.call.config outcome.before

/-- The packet of the call is an RTP packet and is not dropped. -/
def FaultOutcome.survives (outcome : FaultOutcome) : Bool :=
  outcome.rtp isRtcp && !dropDecision outcome.call.config outcome.before

/-- The packets of the calls of a kind, each with the number of its call. -/
def packetsOf (kind : FaultOutcome → Bool) (numbered : List (FaultOutcome × Nat)) :
    List (Nat × Bytes) :=
  (numbered.filter fun entry => kind entry.1).map fun entry => (entry.2, entry.1.call.packet)

/-- What comes out of the calls with RTP packets, in order. -/
def emittedBy (outcomes : List FaultOutcome) : List Bytes :=
  (outcomes.filter (FaultOutcome.rtp isRtcp)).flatMap fun outcome =>
    outcome.result.first.toList ++ outcome.result.second.toList

/-- Where the packets of a sequence of calls have gone: `emitted` names the packets that
came out, in order, and `held` the one that is held. -/
structure Accounting (calls : List FaultCall) (emitted : List (Nat × Bytes))
    (held : Option (Nat × Bytes)) : Prop where
  /-- They come out byte for byte. -/
  output : emitted.map Prod.snd = emittedBy isRtcp (faultOutcomes isRtcp {} calls)
  stored : held.map Prod.snd = heldAfter isRtcp {} calls
  /-- Each RTP packet is dropped, has come out, or is the held one, and only once. -/
  once : (packetsOf (FaultOutcome.dropped isRtcp) (faultOutcomes isRtcp {} calls).zipIdx ++
    emitted ++ held.toList).Perm
    (packetsOf (FaultOutcome.rtp isRtcp) (faultOutcomes isRtcp {} calls).zipIdx)
  buffered : HoldsBack (packetsOf (FaultOutcome.survives isRtcp)
    (faultOutcomes isRtcp {} calls).zipIdx) emitted held
  /-- A packet comes out at most one place from where it was passed in. -/
  displaced : ∀ place packet, emitted[place]? = some packet →
    Near (packetsOf (FaultOutcome.survives isRtcp) (faultOutcomes isRtcp {} calls).zipIdx)
      place packet

/-- The packets of a sequence of calls are conserved. -/
structure Conserved (calls : List FaultCall) : Prop where
  accounted : ∃ emitted held, Accounting isRtcp calls emitted held
  /-- The held packet comes out right behind the next one. -/
  together : ∀ outcome ∈ faultOutcomes isRtcp {} calls, outcome.survives isRtcp = true →
    ∀ held, outcome.before.delayedPacket = some held →
      outcome.result = ⟨some outcome.call.packet, some held⟩
  rtcp : ∀ outcome ∈ faultOutcomes isRtcp {} calls, isRtcp outcome.call.packet = true →
    outcome.result = ⟨some outcome.call.packet, none⟩ ∧ outcome.after = outcome.before

/-- No RTP packet passes the rules by while a packet is held. -/
def NonePassesHeld (outcomes : List FaultOutcome) : Prop :=
  ∀ outcome ∈ outcomes, outcome.rtp isRtcp = true → outcome.before.delayedPacket ≠ none →
    outcome.call.config.active = true

end

section

variable {isRtcp : Bytes → Bool} {state : RtpFaultState} {call : FaultCall}
variable {calls : List FaultCall}

theorem exists_make_of_mem {outcome : FaultOutcome}
    (h : outcome ∈ faultOutcomes isRtcp state calls) :
    ∃ (state : RtpFaultState) (call : FaultCall), outcome = call.make isRtcp state := by
  induction calls generalizing state with
  | nil => simp [faultOutcomes] at h
  | cons call calls ih =>
      rcases List.mem_cons.mp h with rfl | hrest
      · exact ⟨state, call, rfl⟩
      · exact ih hrest

theorem make_rtcp (hrtcp : isRtcp call.packet = true) :
    (call.make isRtcp state).result = ⟨some call.packet, none⟩ ∧
      (call.make isRtcp state).after = (call.make isRtcp state).before := by
  simp [FaultCall.make, applyRtpFaults_rtcp call.config (call.found state) hrtcp]

/-- What a call makes of an RTP packet. -/
theorem make_effect (state : RtpFaultState) (call : FaultCall)
    (hrtp : isRtcp call.packet = false) :
    ((call.make isRtcp state).result, (call.make isRtcp state).after.delayedPacket) =
      faultEffect call.config (call.found state) call.packet :=
  applyRtpFaults_effect call.config (call.found state) hrtp

theorem dropDecision_of_inactive {config : RtpFaultConfig} (h : config.active = false)
    (state : RtpFaultState) : dropDecision config state = false := by
  simp [dropDecision, h]

/-- The four things that may happen to an RTP packet, by the decision to drop it and by the
packet that was held; the last two are the result and the packet that is held then. -/
inductive PacketFate (packet : Bytes) :
    Bool → Option Bytes → RtpFaultResult → Option Bytes → Prop
  | dropped (held : Option Bytes) : PacketFate packet true held {} held
  | releases (held : Bytes) :
      PacketFate packet false (some held) ⟨some packet, some held⟩ none
  | isHeld : PacketFate packet false none {} (some packet)
  | passes : PacketFate packet false none ⟨some packet, none⟩ none

/-- The rules do one of the four, unless they are off while a packet is held. -/
theorem packetFate_faultEffect {config : RtpFaultConfig} {state : RtpFaultState}
    (hactive : state.delayedPacket ≠ none → config.active = true) (packet : Bytes) :
    PacketFate packet (dropDecision config state) state.delayedPacket
      (faultEffect config state packet).1 (faultEffect config state packet).2 := by
  unfold faultEffect
  by_cases hoff : config.active = false
  · have hnone : state.delayedPacket = none := by
      by_contra hheld
      rw [hactive hheld] at hoff
      contradiction
    rw [if_pos hoff, dropDecision_of_inactive hoff, hnone]
    exact PacketFate.passes
  · rw [if_neg hoff]
    cases dropDecision config state with
    | true => exact PacketFate.dropped state.delayedPacket
    | false =>
        rw [if_neg (by decide)]
        cases state.delayedPacket with
        | some held => exact PacketFate.releases held
        | none =>
            dsimp only
            split
            · exact PacketFate.isHeld
            · exact PacketFate.passes

/-- What a call that lets no packet by the held one does to an RTP packet. -/
theorem packetFate_make (hrtp : isRtcp call.packet = false)
    (hclear : NonePassesHeld isRtcp [call.make isRtcp state]) :
    PacketFate call.packet (dropDecision call.config (call.found state)) state.delayedPacket
      (call.make isRtcp state).result (call.make isRtcp state).after.delayedPacket := by
  have hactive : state.delayedPacket ≠ none → call.config.active = true :=
    hclear (call.make isRtcp state) List.mem_cons_self
      (by simp [FaultOutcome.rtp, FaultCall.make, hrtp])
  have hfate := @packetFate_faultEffect call.config (call.found state) hactive call.packet
  rw [← make_effect state call hrtp] at hfate
  exact hfate

theorem emittedBy_make (hrtp : isRtcp call.packet = false) :
    emittedBy isRtcp [call.make isRtcp state] =
      (call.make isRtcp state).result.first.toList ++
        (call.make isRtcp state).result.second.toList := by
  simp [emittedBy, FaultOutcome.rtp, FaultCall.make, hrtp]

/-- The packet of a call survives unless it is dropped. -/
theorem survivors_make (hrtp : isRtcp call.packet = false) (number : Nat) :
    packetsOf (FaultOutcome.survives isRtcp) [(call.make isRtcp state, number)] =
      if dropDecision call.config (call.found state) then [] else [(number, call.packet)] := by
  cases hdecision : dropDecision call.config (call.found state) <;>
    simp [packetsOf, FaultOutcome.survives, FaultOutcome.rtp, FaultCall.make, hrtp, hdecision]

/-- A call that lets no packet by the held one keeps the buffer. -/
theorem holdsBack_make {items passed : List (Nat × Bytes)} {held : Option (Nat × Bytes)}
    (h : HoldsBack items passed held) (hheld : held.map Prod.snd = state.delayedPacket)
    (hclear : NonePassesHeld isRtcp [call.make isRtcp state]) (number : Nat) :
    ∃ (emitted : List (Nat × Bytes)) (held' : Option (Nat × Bytes)),
      emitted.map Prod.snd = emittedBy isRtcp [call.make isRtcp state] ∧
        held'.map Prod.snd = (call.make isRtcp state).after.delayedPacket ∧
        HoldsBack (items ++ packetsOf (FaultOutcome.survives isRtcp)
          [(call.make isRtcp state, number)]) (passed ++ emitted) held' := by
  cases hrtcp : isRtcp call.packet with
  | true =>
      refine ⟨[], held, ?_, ?_, ?_⟩
      · simp [emittedBy, FaultOutcome.rtp, FaultCall.make, hrtcp]
      · rw [(make_rtcp hrtcp).2, hheld]
        rfl
      · simpa [packetsOf, FaultOutcome.survives, FaultOutcome.rtp, FaultCall.make, hrtcp] using h
  | false =>
      have hfate := packetFate_make hrtcp hclear
      rw [emittedBy_make hrtcp, survivors_make hrtcp]
      generalize dropDecision call.config (call.found state) = drop at hfate ⊢
      generalize (call.make isRtcp state).result = result at hfate ⊢
      generalize (call.make isRtcp state).after.delayedPacket = after at hfate ⊢
      rw [← hheld] at hfate
      cases held with
      | none =>
          cases hfate with
          | dropped => exact ⟨[], none, rfl, rfl, by simpa using h⟩
          | isHeld =>
              exact ⟨[], some (number, call.packet), rfl, rfl, by
                simpa using h.hold (number, call.packet)⟩
          | passes => exact ⟨[(number, call.packet)], none, rfl, rfl, h.pass _⟩
      | some labelled =>
          cases hfate with
          | dropped => exact ⟨[], some labelled, rfl, rfl, by simpa using h⟩
          | releases => exact ⟨[(number, call.packet), labelled], none, rfl, rfl, h.release _⟩

/-- Calls that let no packet by the held one keep the buffer. -/
theorem holdsBack_run {items passed : List (Nat × Bytes)} {held : Option (Nat × Bytes)}
    (h : HoldsBack items passed held) (hheld : held.map Prod.snd = state.delayedPacket)
    (hclear : NonePassesHeld isRtcp (faultOutcomes isRtcp state calls)) (number : Nat) :
    ∃ (emitted : List (Nat × Bytes)) (held' : Option (Nat × Bytes)),
      emitted.map Prod.snd = emittedBy isRtcp (faultOutcomes isRtcp state calls) ∧
        held'.map Prod.snd = heldAfter isRtcp state calls ∧
        HoldsBack (items ++ packetsOf (FaultOutcome.survives isRtcp)
          ((faultOutcomes isRtcp state calls).zipIdx number)) (passed ++ emitted) held' := by
  induction calls generalizing state items passed held number with
  | nil => exact ⟨[], held, rfl, hheld, by simpa [packetsOf, faultOutcomes] using h⟩
  | cons call calls ih =>
      have hfirst : NonePassesHeld isRtcp [call.make isRtcp state] := by
        intro outcome hmem
        rw [List.mem_singleton.mp hmem]
        exact hclear _ List.mem_cons_self
      rcases holdsBack_make h hheld hfirst number with ⟨emitted, held', hemitted, hheld', h'⟩
      rcases ih h' hheld' (fun outcome hmem => hclear outcome (List.mem_cons_of_mem _ hmem))
        (number + 1) with ⟨more, last, hmore, hlast, hall⟩
      refine ⟨emitted ++ more, last, ?_, hlast, ?_⟩
      · rw [List.map_append, hemitted, hmore]
        simp [emittedBy, faultOutcomes, List.filter_cons]
        split <;> simp
      · rw [List.append_assoc, List.append_assoc] at hall
        have hsplit : packetsOf (FaultOutcome.survives isRtcp)
            ((faultOutcomes isRtcp state (call :: calls)).zipIdx number) =
            packetsOf (FaultOutcome.survives isRtcp) [(call.make isRtcp state, number)] ++
              packetsOf (FaultOutcome.survives isRtcp)
                ((faultOutcomes isRtcp (call.make isRtcp state).after calls).zipIdx
                  (number + 1)) := by
          rw [packetsOf, packetsOf, packetsOf, ← List.map_append, ← List.filter_append]
          rfl
        rw [hsplit]
        exact hall

theorem dropped_append_survives (numbered : List (FaultOutcome × Nat)) :
    (packetsOf (FaultOutcome.dropped isRtcp) numbered ++
      packetsOf (FaultOutcome.survives isRtcp) numbered).Perm
      (packetsOf (FaultOutcome.rtp isRtcp) numbered) := by
  have hsplit := List.filter_append_perm
    (fun entry : FaultOutcome × Nat => dropDecision entry.1.call.config entry.1.before)
    (numbered.filter fun entry => entry.1.rtp isRtcp)
  rw [List.filter_filter, List.filter_filter] at hsplit
  rw [packetsOf, packetsOf, packetsOf, ← List.map_append]
  refine List.Perm.map _ ?_
  simpa only [FaultOutcome.dropped, FaultOutcome.survives, Bool.and_comm] using hsplit

/-- The held packet comes out right behind a packet that does not pass it by. -/
theorem together_of_active {held : Bytes} (hactive : call.config.active = true)
    (hsurvives : (call.make isRtcp state).survives isRtcp = true)
    (hheld : (call.make isRtcp state).before.delayedPacket = some held) :
    (call.make isRtcp state).result = ⟨some call.packet, some held⟩ := by
  rcases Bool.and_eq_true_iff.mp hsurvives with ⟨hrtp, hkept⟩
  have heffect := make_effect state call
    (by simpa [FaultOutcome.rtp, FaultCall.make] using hrtp)
  have hdrop : dropDecision call.config (call.found state) = false := by
    simpa [FaultCall.make] using hkept
  have hfound : (call.found state).delayedPacket = some held := hheld
  rw [faultEffect, if_neg (by simp [hactive]), hdrop, hfound] at heffect
  exact (Prod.mk.inj heffect).1

end

/-- Packets are conserved unless one passes the rules by while another is held. -/
theorem conserved_iff (isRtcp : Bytes → Bool) (calls : List FaultCall) :
    Conserved isRtcp calls ↔ NonePassesHeld isRtcp (faultOutcomes isRtcp {} calls) := by
  constructor
  · intro hconserved outcome hmem hrtp hne
    rcases Option.ne_none_iff_exists'.mp hne with ⟨held, hheld⟩
    rcases exists_make_of_mem hmem with ⟨state, call, rfl⟩
    by_contra hoff
    have hinactive : call.config.active = false := Bool.eq_false_iff.mpr hoff
    have hsurvives : (call.make isRtcp state).survives isRtcp = true := by
      rw [FaultOutcome.survives, hrtp, Bool.true_and, Bool.not_eq_true']
      exact dropDecision_of_inactive hinactive _
    have htogether := hconserved.together _ hmem hsurvives held hheld
    have heffect := make_effect state call
      (by simpa [FaultOutcome.rtp, FaultCall.make] using hrtp)
    rw [faultEffect, if_pos hinactive] at heffect
    rw [(Prod.mk.inj heffect).1] at htogether
    simp at htogether
  · intro hclear
    refine ⟨?_, ?_, ?_⟩
    · rcases holdsBack_run HoldsBack.start rfl hclear 0 with
        ⟨emitted, held, hemitted, hheld, hbuffer⟩
      rw [List.nil_append, List.nil_append] at hbuffer
      refine ⟨emitted, held, hemitted, hheld, ?_, hbuffer, fun _ _ => hbuffer.displaced⟩
      rw [List.append_assoc]
      exact (hbuffer.perm.append_left _).trans (dropped_append_survives _)
    · intro outcome hmem hsurvives held hheld
      have hrtp := (Bool.and_eq_true_iff.mp hsurvives).1
      have hactive := hclear outcome hmem hrtp (by simp [hheld])
      rcases exists_make_of_mem hmem with ⟨state, call, rfl⟩
      exact together_of_active hactive hsurvives hheld
    · intro outcome hmem hrtcp
      rcases exists_make_of_mem hmem with ⟨state, call, rfl⟩
      exact make_rtcp hrtcp

/-- The second packet is held; the third one arrives when the rules are off, and comes
out alone. -/
theorem held_packet_stays : ¬ ∀ (isRtcp : Bytes → Bool) (calls : List FaultCall),
    Conserved isRtcp calls := by
  intro h
  have hconserved := h (fun _ => false)
    [{ config := { reorderEveryNth := 2 }, packet := [1] },
      { config := { reorderEveryNth := 2 }, packet := [2] }, { config := {}, packet := [3] }]
  have htogether := hconserved.together _
    (List.mem_cons_of_mem _ (List.mem_cons_of_mem _ List.mem_cons_self)) (by decide) [2]
    (by decide)
  revert htogether
  decide

end Sfu
end Driscord
