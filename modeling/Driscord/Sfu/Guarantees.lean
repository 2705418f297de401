import Driscord.Sfu.ScreenService
import Driscord.Sfu.VoiceService

/-!
# Guarantees of the two routers

The laws of the voice router and of the screen router, put together for runs of
either router in which every critical section, every later turn of
`send_packets` and the expiry of tracks interleave.

Main results:

- Theorem `media_stays_with_holder`: a packet is rewritten for a slot only while
  the slot is bound to its publisher, unless the generation counter has gone
  round since the targets were collected.
- Theorem `screen_bindings_sound`: what a bound pair of the screen router relies
  on.
- Theorem `assignment_serves`: whenever no operation is in progress, every live
  publisher has one slot of every subscriber or all live slots are taken.
-/

namespace Driscord
namespace Sfu

open Library

/-! ## Runs of the voice router -/

namespace SampleRun

/-- The voice router with libdatachannel's `IsRtcp`. -/
abbrev router : RouterModel :=
  VoiceRouter.model RtpSlotRewriter.libdatachannelIsRtcp fun mean _ => mean

def talker : PeerId := ⟨[116]⟩

def other : PeerId := ⟨[111]⟩

def listener : PeerId := ⟨[108]⟩

/-- The track on which a peer sends its audio. -/
def input (id : TrackId) : Track where
  id := id
  mid := [105]
  mediaType := some MediaType.audio
  direction := Direction.recvOnly

/-- A track on which a peer receives audio. -/
def output (id : TrackId) (mid : Bytes) : Track where
  id := id
  mid := mid
  mediaType := some MediaType.audio
  direction := Direction.sendOnly

def fresh : router.System where
  router := {}

theorem reachable_fresh (midway : Bool) : router.ReachableSystem midway fresh :=
  Reachable.start ⟨⟨{}, false, rfl⟩, rfl, rfl, rfl⟩

/-- `register_track` from beginning to end. -/
def register (system : router.System) (owner : PeerId) (track : Track) : router.System :=
  system.perform (VoiceRouter.Operation.registerTrack owner (some track) 7)

/-- `remove_peer` from beginning to end. -/
def remove (system : router.System) (peerId : PeerId) : router.System :=
  system.perform (VoiceRouter.Operation.removePeer peerId)

/-- The death of a track. -/
def expire (system : router.System) (track : TrackId) : router.System :=
  { system with expired := Function.update system.expired track true }

section

variable {midway : Bool} {system : router.System}
variable (h : router.ReachableSystem midway system) (hidle : system.phase = Phase.idle)
include h hidle

theorem reachable_register (owner : PeerId) {track : Track}
    (halive : system.expired track.id = false) :
    router.ReachableSystem midway (register system owner track) := by
  refine h.perform hidle ?_ fun rest => rest.elim
  intro id hid
  have hsame : id = track.id := by
    simpa [router, VoiceRouter.model] using hid
  rw [hsame]
  exact halive

theorem reachable_remove (peerId : PeerId) :
    router.ReachableSystem midway (remove system peerId) := by
  refine h.perform hidle ?_ fun rest => rest.elim
  intro id hid
  simp [router, VoiceRouter.model] at hid

theorem reachable_expire (track : TrackId) :
    router.ReachableSystem midway (expire system track) := by
  refine h.step (RouterModel.Step.expire system track ?_)
  simp [RouterModel.System.held, hidle]

end

/-- One talker heard by one listener. -/
def paired : router.System :=
  register (register fresh talker (input 1)) listener (output 2 [48])

theorem reachable_paired (midway : Bool) : router.ReachableSystem midway paired :=
  reachable_register (reachable_register (reachable_fresh midway) rfl talker rfl) rfl listener rfl

/-- The listener's track dies and it registers another slot. -/
def deadSlot : router.System :=
  register (expire paired 2) listener (output 3 [49])

theorem reachable_deadSlot (midway : Bool) : router.ReachableSystem midway deadSlot :=
  reachable_register (reachable_expire (reachable_paired midway) rfl 2) rfl listener rfl

/-- The talker's track dies and another talker joins. -/
def deadTalker : router.System :=
  register (expire paired 1) other (input 4)

theorem reachable_deadTalker (midway : Bool) : router.ReachableSystem midway deadTalker :=
  reachable_register (reachable_expire (reachable_paired midway) rfl 1) rfl other rfl

end SampleRun

/-! ## Media stays with the holder -/

/-- A packet given to a track of a slot that is still there: the slot is bound to
the packet's publisher and its source is the one the targets were collected
for. -/
theorem media_stays_with_holder (isRtcp : Bytes → Bool) (gaussian : ℚ → ℚ → ℚ) :
    (∀ system, (VoiceRouter.model isRtcp gaussian).ReachableSystem true system →
      ∀ task ∈ system.tasks, ∀ send ∈ task.sends, ∀ isOpen sent,
        (VoiceRouter.sendTurn isRtcp system.router system.expired isOpen send).2 = some sent →
        ∀ subscriber, ∀ output ∈ VoiceRouter.outputsOf system.router subscriber,
          output.rewriter.id = send.target.rewriter →
          output.rewriter.generation < send.target.collectedAt + 2 ^ 64 →
            output.publisher = some send.publisher ∧
              output.rewriter.generation = send.target.collectedAt) ∧
    (∀ system, (ScreenRouter.model isRtcp gaussian).ReachableSystem true system →
      ∀ task ∈ system.tasks, ∀ send ∈ task.sends, ∀ isOpen sent,
        (ScreenRouter.sendTurn isRtcp system.router system.expired isOpen send).2 = some sent →
        ∀ subscriber, ∀ pair ∈ ScreenRouter.pairsOf system.router subscriber,
          ∀ output ∈ pair.outputs, output.rewriter.id = send.target.rewriter →
          output.rewriter.generation < send.target.collectedAt + 2 ^ 64 →
            pair.publisher = some send.publisher ∧
              output.rewriter.generation = send.target.collectedAt) := by
  constructor
  · intro system hreach task htask send hsend isOpen sent hsent subscriber output houtput hid hfew
    have hinv := (VoiceRouter.stateLaws isRtcp gaussian).reachable hreach
    have hflight := (VoiceRouter.leaseLaws isRtcp gaussian).reachable hreach task htask send hsend
    have hstamp := VoiceRouter.sameGeneration_of_sendTurn hinv hsent houtput hid
    exact holder_of_inFlight hflight (List.mem_map_of_mem (f := Voice.OutputSlot.port) houtput)
      hid hstamp hfew
  · intro system hreach task htask send hsend isOpen sent hsent subscriber pair hpair output
      houtput hid hfew
    have hinv := (ScreenRouter.stateLaws isRtcp gaussian).reachable hreach
    have hflight := (ScreenRouter.leaseLaws isRtcp gaussian).reachable hreach task htask send hsend
    have hstamp := ScreenRouter.sameGeneration_of_sendTurn hinv hsent hpair houtput hid
    exact holder_of_inFlight hflight (ScreenRouter.mem_portsOf hpair houtput) hid hstamp hfew

/-! ### A packet in flight while its publisher reconnects -/

/-- A new input of a publisher restarts every slot bound to it. -/
theorem VoiceRouter.restarts_bound {router : VoiceRouter} (hopen : router.closed = false)
    (expired : Expiry) {owner : PeerId} {track : Track}
    (hchanged : router.inputOf owner ≠ some track.id) (subscriber : PeerId) :
    List.Forall₂ (fun output output' => output.publisher = some owner →
        output' = Voice.OutputSlot.restart output) (router.outputsOf subscriber)
      ((router.registerInput expired owner track (some owner)).1.outputsOf subscriber) := by
  rw [registerInput_eq hopen]
  have hsource : router.sourceChanged owner track = true := by
    unfold sourceChanged
    cases hpeer : router.peers.lookup owner with
    | none => rfl
    | some peer => simpa [inputOf, hpeer] using hchanged
  have hfirst : (router.storeInput owner track).1.outputsOf subscriber =
      (router.outputsOf subscriber).map
        (Voice.OutputSlot.ifBoundTo owner Voice.OutputSlot.restart) := by
    simp only [storeInput, hsource, if_true, outputsOf_sweepBound]
    rw [outputsOf_modifyPeer (router.peerForLocked owner) owner subscriber
      (f := Voice.PeerState.setInput track (some owner)) fun _ => rfl, outputsOf_peerForLocked]
  have hkept := keeps_bindings (router.storeInput owner track).1 expired subscriber
  rw [hfirst, List.forall₂_map_left_iff] at hkept
  refine hkept.imp ?_
  intro output output' hone hbound
  simp only [Voice.OutputSlot.ifBoundTo, hbound, if_true] at hone
  exact hone (by simp [Voice.OutputSlot.restart, hbound])

theorem VoiceRouter.inputOf_registerInput {router : VoiceRouter}
    (hopen : router.closed = false) (expired : Expiry) (owner : PeerId) (track : Track) :
    (router.registerInput expired owner track (some owner)).1.inputOf owner =
      some track.id := by
  have hmem : owner ∈ (router.peerForLocked owner).peers := by simp
  rcases Table.mem_iff_exists_lookup.mp hmem with ⟨peer, hpeer⟩
  have hstored : ((router.peerForLocked owner).modifyPeer owner
      (Voice.PeerState.setInput track (some owner))).inputOf owner = some track.id := by
    simp [inputOf, lookup_modifyPeer, hpeer, Voice.PeerState.setInput]
  rw [registerInput_eq hopen, thenAssign, inputOf_assignAvailableLocked, storeInput]
  split
  · rw [inputOf_sweepBound, hstored]
  · exact hstored

theorem VoiceRouter.closed_registerInput {router : VoiceRouter}
    (hopen : router.closed = false) (expired : Expiry) (owner : PeerId) (track : Track) :
    (router.registerInput expired owner track (some owner)).1.closed = false := by
  rw [registerInput_eq hopen, thenAssign, storeInput]
  dsimp only
  unfold peerForLocked
  split <;> split <;> exact hopen

namespace SampleRun

/-- The listener's slot after `generation` source changes. -/
def slot (generation : Nat) : Voice.OutputSlot where
  mid := [48]
  ssrc := 7
  track := some 2
  publisher := some talker
  rewriter := ⟨0, { RtpSlotRewriter.create 48000 960 with generation := generation }⟩
  sourceGeneration := generation

/-- A packet of the talker, collected for the listener's first source. -/
def send : Send where
  publisher := talker
  packet := (RtpSlotRewriter.plainCall 5).packet
  midId := none
  target := ⟨some 2, 7, 0, 1, 1⟩

/-- The packet is in flight and the slot has the given generation. -/
structure InFlightAt (system : router.System) (generation : Nat) : Prop where
  reachable : router.ReachableSystem true system
  idle : system.phase = Phase.idle
  live : system.expired = fun _ => false
  tasks : system.tasks = [⟨[], [send]⟩]
  opened : VoiceRouter.closed system.router = false
  outputs : VoiceRouter.outputsOf system.router listener = [slot generation]
  input : ∃ id, VoiceRouter.inputOf system.router talker = some id

theorem exists_inFlightAt_one : ∃ system, InFlightAt system 1 := by
  have hstep := (reachable_paired true).step
    (RouterModel.Step.route paired ⟨talker, some 1, send.packet, 0, 0⟩)
  have hsends : (VoiceRouter.route RtpSlotRewriter.libdatachannelIsRtcp (fun mean _ => mean)
      paired.router paired.expired ⟨talker, some 1, send.packet, 0, 0⟩).2 = [send] := by decide
  refine ⟨_, hstep, rfl, rfl, ?_, rfl, ?_, 1, ?_⟩
  · exact congrArg (fun sends => [(⟨[], sends⟩ : Task _)]) hsends
  · decide
  · decide

/-- The talker reconnects with a new track. -/
theorem InFlightAt.reconnect {system : router.System} {generation : Nat}
    (h : InFlightAt system generation) : ∃ next, InFlightAt next (generation + 1) := by
  rcases h.input with ⟨id, hinput⟩
  let track := SampleRun.input (id + 1)
  have hchanged : VoiceRouter.inputOf system.router talker ≠ some track.id := by
    rw [hinput]
    simp [track, SampleRun.input]
  have houtputs := VoiceRouter.restarts_bound h.opened (fun _ _ => system.expired) hchanged
    listener
  rw [h.outputs] at houtputs
  rcases List.forall₂_cons_left_iff.mp houtputs with ⟨_, _, hone, hnil, heq⟩
  refine ⟨register system talker track, ?_, rfl, h.live, h.tasks, ?_, ?_, id + 1, ?_⟩
  · exact reachable_register h.reachable h.idle talker (by rw [h.live])
  · exact VoiceRouter.closed_registerInput h.opened _ _ _
  · rw [List.forall₂_nil_left_iff.mp hnil, hone rfl] at heq
    exact heq
  · exact VoiceRouter.inputOf_registerInput h.opened _ _ _

/-- The talker reconnects any number of times. -/
theorem exists_inFlightAt (count : Nat) : ∃ system, InFlightAt system (1 + count) := by
  induction count with
  | zero => exact exists_inFlightAt_one
  | succ count ih =>
      rcases ih with ⟨system, h⟩
      exact h.reconnect

/-- The packet is given to the listener's track when its stamp is current. -/
theorem InFlightAt.sent {system : router.System} {generation : Nat}
    (h : InFlightAt system generation)
    (hstamp : RtpSlotRewriter.SameGeneration 1 generation) :
    ∃ sent, (VoiceRouter.sendTurn RtpSlotRewriter.libdatachannelIsRtcp system.router
      system.expired true send).2 = some sent := by
  have hinv : VoiceRouter.Inv system.router :=
    (VoiceRouter.stateLaws _ _).reachable h.reachable
  have hslot : slot generation ∈ VoiceRouter.outputsOf system.router listener := by
    rw [h.outputs]
    exact List.mem_singleton_self _
  have hfind : (VoiceRouter.rewriters system.router).find?
      (fun rewriter => rewriter.id = send.target.rewriter) = some (slot generation).rewriter :=
    VoiceRouter.find_rewriter hinv.ports hslot
  have haccepted : ((slot generation).rewriter.state.rewrite
      RtpSlotRewriter.libdatachannelIsRtcp send.packet send.target.sourceGeneration
      send.target.ssrc send.midId).1 = true := by
    have hslotted : (rewriteRtpForSlot RtpSlotRewriter.libdatachannelIsRtcp send.packet
      send.target.ssrc send.midId).1 = true := by decide
    have hcurrent : RtpSlotRewriter.SameGeneration send.target.sourceGeneration
        (slot generation).rewriter.state.generation := hstamp
    simp only [RtpSlotRewriter.rewrite, hslotted, hcurrent, if_true]
    rfl
  have halive : trackExpired system.expired send.target.track = false := by
    rw [h.live]
    rfl
  simp [VoiceRouter.sendTurn, halive, hfind, haccepted]

end SampleRun

/-- A packet in flight is rewritten for its publisher's slot. -/
theorem media_stays_with_talker :
    ∃ system : SampleRun.router.System, SampleRun.InFlightAt system 1 ∧
      (SampleRun.slot 1).publisher = some SampleRun.send.publisher ∧
        (SampleRun.slot 1).rewriter.generation = SampleRun.send.target.collectedAt := by
  rcases SampleRun.exists_inFlightAt_one with ⟨system, h⟩
  rcases h.sent rfl with ⟨sent, hsent⟩
  have hslot : SampleRun.slot 1 ∈ VoiceRouter.outputsOf system.router SampleRun.listener := by
    rw [h.outputs]
    exact List.mem_singleton_self _
  exact ⟨system, h, (media_stays_with_holder RtpSlotRewriter.libdatachannelIsRtcp
    fun mean _ => mean).1 system h.reachable ⟨[], [SampleRun.send]⟩ (by rw [h.tasks]; simp)
    SampleRun.send (by simp) true sent hsent SampleRun.listener (SampleRun.slot 1) hslot rfl
    (by decide)⟩

/-- After `2 ^ 64` source changes the counter is the same again, and a packet
collected before the first of them is still rewritten. -/
theorem media_passes_after_wrap :
    ¬ ∀ system, SampleRun.router.ReachableSystem true system →
      ∀ task ∈ system.tasks, ∀ send ∈ task.sends, ∀ isOpen sent,
        (VoiceRouter.sendTurn RtpSlotRewriter.libdatachannelIsRtcp system.router
          system.expired isOpen send).2 = some sent →
        ∀ subscriber, ∀ output ∈ VoiceRouter.outputsOf system.router subscriber,
          output.rewriter.id = send.target.rewriter →
            output.publisher = some send.publisher ∧
              output.rewriter.generation = send.target.collectedAt := by
  intro hclaim
  rcases SampleRun.exists_inFlightAt (2 ^ 64) with ⟨system, h⟩
  have hstamp : RtpSlotRewriter.SameGeneration 1 (1 + 2 ^ 64) :=
    (Nat.add_mod_right 1 (2 ^ 64)).symm
  rcases h.sent hstamp with ⟨sent, hsent⟩
  have hslot : SampleRun.slot (1 + 2 ^ 64) ∈
      VoiceRouter.outputsOf system.router SampleRun.listener := by
    rw [h.outputs]
    exact List.mem_singleton_self _
  have hkept := (hclaim system h.reachable ⟨[], [SampleRun.send]⟩ (by rw [h.tasks]; simp)
    SampleRun.send (by simp) true sent hsent SampleRun.listener _ hslot rfl).2
  have hnumbers : 1 + 2 ^ 64 = 1 := hkept
  omega

/-! ## Bound pairs -/

/-- No two pairs of a subscriber are bound to one publisher.  A bound pair's
publisher is another peer that streams and is watched, both outputs are there
and ready, and they record the generations of their rewriters. -/
theorem screen_bindings_sound (isRtcp : Bytes → Bool) (gaussian : ℚ → ℚ → ℚ)
    {system : (ScreenRouter.model isRtcp gaussian).System}
    (hreach : (ScreenRouter.model isRtcp gaussian).ReachableSystem true system)
    (subscriber : PeerId) :
    ((ScreenRouter.pairsOf system.router subscriber).filterMap
        Screen.OutputPair.publisher).Nodup ∧
      ∀ pair ∈ ScreenRouter.pairsOf system.router subscriber, ∀ publisher,
        pair.publisher = some publisher →
          publisher ≠ subscriber ∧
          publisher ∈ ScreenRouter.peers system.router ∧
          ScreenRouter.streamingOf system.router publisher = true ∧
          publisher ∈ ScreenRouter.watchedOf system.router subscriber ∧
          ∃ video audio, pair.video = some video ∧ pair.audio = some audio ∧
            video.ready = true ∧ audio.ready = true ∧
            video.sourceGeneration = video.rewriter.generation ∧
            audio.sourceGeneration = audio.rewriter.generation := by
  have hinv : ScreenRouter.Inv system.router :=
    (ScreenRouter.stateLaws isRtcp gaussian).reachable hreach
  refine ⟨hinv.distinct subscriber, ?_⟩
  intro pair hpair publisher hpublisher
  have hok := hinv.bound subscriber pair hpair publisher hpublisher
  rcases hok.ready with ⟨video, audio, hvideo, haudio, hvideoReady, haudioReady⟩
  have hcurrent : ∀ output ∈ pair.outputs,
      output.sourceGeneration = output.rewriter.generation := fun output houtput =>
    hinv.ports.recorded subscriber _ (ScreenRouter.mem_portsOf hpair houtput)
      (by simp [Screen.OutputTrack.port, hpublisher])
  exact ⟨hok.other, ScreenRouter.mem_of_streamingOf hok.streaming, hok.streaming, hok.watched,
    video, audio, hvideo, haudio, hvideoReady, haudioReady,
    hcurrent video (by simp [Screen.OutputPair.outputs, hvideo]),
    hcurrent audio (by simp [Screen.OutputPair.outputs, haudio])⟩

/-! ### A watched stream -/

namespace SampleRun

/-- The screen router with libdatachannel's `IsRtcp`. -/
abbrev screen : RouterModel :=
  ScreenRouter.model RtpSlotRewriter.libdatachannelIsRtcp fun mean _ => mean

/-- A track of the talker's screen or of the listener's first pair. -/
def screenTrack (id : TrackId) (mid : Bytes) (mediaType : MediaType)
    (direction : Direction) : Track where
  id := id
  mid := mid
  mediaType := some mediaType
  direction := direction

/-- The talker streams, and the listener watches with one pair. -/
def watching : screen.System :=
  [ ScreenRouter.Operation.registerTrack talker
      (some (screenTrack 1 [118] MediaType.video Direction.recvOnly)) 5,
    ScreenRouter.Operation.registerTrack listener
      (some (screenTrack 2 [48] MediaType.video Direction.sendOnly)) 6,
    ScreenRouter.Operation.registerTrack listener
      (some (screenTrack 3 [49] MediaType.audio Direction.sendOnly)) 7,
    ScreenRouter.Operation.setWatching listener talker true,
    ScreenRouter.Operation.setStreaming talker true ].foldl RouterModel.System.perform
      { router := {} }

theorem reachable_foldl_perform {midway : Bool} {system : screen.System}
    (h : screen.ReachableSystem midway system) (hidle : system.phase = Phase.idle)
    (hlive : system.expired = fun _ => false) (operations : List ScreenRouter.Operation) :
    screen.ReachableSystem midway (operations.foldl RouterModel.System.perform system) := by
  induction operations generalizing system with
  | nil => exact h
  | cons operation operations ih =>
      have halive : ∀ track, system.expired track = false := fun _ => by rw [hlive]
      exact ih (h.perform hidle (fun track _ => halive track) fun _ _ track _ => halive track)
        rfl hlive

theorem reachable_watching (midway : Bool) : screen.ReachableSystem midway watching :=
  reachable_foldl_perform (Reachable.start ⟨⟨{}, false, rfl⟩, rfl, rfl, rfl⟩) rfl rfl _

end SampleRun

/-- The listener's pair is bound to the talker, which streams. -/
theorem screen_bindings_sound_watching :
    (ScreenRouter.pairsOf SampleRun.watching.router SampleRun.listener).filterMap
        Screen.OutputPair.publisher = [SampleRun.talker] ∧
      ∀ pair ∈ ScreenRouter.pairsOf SampleRun.watching.router SampleRun.listener,
        pair.publisher = some SampleRun.talker →
          ScreenRouter.streamingOf SampleRun.watching.router SampleRun.talker = true :=
  ⟨by decide, fun pair hpair hpublisher =>
    ((screen_bindings_sound _ _ (SampleRun.reachable_watching true) SampleRun.listener).2 pair
      hpair SampleRun.talker hpublisher).2.2.1⟩

/-! ## Service -/

/-- Whenever no operation is in progress, every live publisher has exactly one
slot of a subscriber, or every live slot of the subscriber is bound to another
publisher.  The assignment pass changes no binding. -/
theorem assignment_serves (isRtcp : Bytes → Bool) (gaussian : ℚ → ℚ → ℚ) :
    (∀ system, (VoiceRouter.model isRtcp gaussian).ReachableSystem false system →
      system.phase = Phase.idle → ∀ subscriber publisher,
        subscriber ∈ VoiceRouter.peers system.router → publisher ≠ subscriber →
        trackExpired system.expired (VoiceRouter.inputOf system.router publisher) = false →
          (VoiceRouter.outputsOf system.router subscriber).countP
              (fun output => output.publisher = some publisher) = 1 ∨
            ∀ output ∈ VoiceRouter.outputsOf system.router subscriber,
              trackExpired system.expired output.track = false →
                ∃ other, other ≠ publisher ∧ other ≠ subscriber ∧
                  VoiceRouter.inputOf system.router other ≠ none ∧
                  output.publisher = some other) ∧
    (∀ (router : VoiceRouter) (seen : Expiry) (subscriber : PeerId), List.Forall₂
      (fun output output' => output.publisher ≠ none → output' = output)
      (router.outputsOf subscriber)
      ((router.assignAvailableLocked seen).1.outputsOf subscriber)) ∧
    (∀ system, (ScreenRouter.model isRtcp gaussian).ReachableSystem false system →
      system.phase = Phase.idle → ∀ subscriber publisher, publisher ≠ subscriber →
        ScreenRouter.streamingOf system.router publisher = true →
        publisher ∈ ScreenRouter.watchedOf system.router subscriber →
        trackExpired system.expired (ScreenRouter.videoOf system.router publisher) = false →
          (ScreenRouter.pairsOf system.router subscriber).countP
              (fun pair => pair.publisher = some publisher) = 1 ∨
            ∀ pair ∈ ScreenRouter.pairsOf system.router subscriber,
              pair.live system.expired = true →
                ∃ other, other ≠ publisher ∧ other ≠ subscriber ∧
                  ScreenRouter.streamingOf system.router other = true ∧
                  other ∈ ScreenRouter.watchedOf system.router subscriber ∧
                  pair.publisher = some other) ∧
    (∀ (router : ScreenRouter) (seen : Expiry) (subscriber : PeerId), List.Forall₂
      (fun pair pair' => pair.publisher ≠ none → pair' = pair)
      (router.pairsOf subscriber)
      ((router.assignAvailableLocked seen).1.pairsOf subscriber)) := by
  refine ⟨?_, VoiceRouter.keeps_bindings, ?_, ScreenRouter.keeps_bindings⟩
  · intro system hreach hidle subscriber publisher hmem hne hlive
    have hinv : VoiceRouter.Inv system.router :=
      (VoiceRouter.stateLaws isRtcp gaussian).reachable hreach
    have hserving := (VoiceRouter.serviceLaws isRtcp gaussian).reachable hreach
    simp only [RouterModel.Serving, hidle] at hserving
    refine (hserving subscriber publisher hmem hne hlive).imp_right ?_
    intro hall output houtput htrack
    rcases hall output houtput htrack with ⟨other, hother, hpublisher⟩
    rcases hinv.bound subscriber other
      (VoiceRouter.mem_publishersOf.mpr ⟨output, houtput, hpublisher⟩) with ⟨hself, hinput⟩
    exact ⟨other, hother, hself, hinput, hpublisher⟩
  · intro system hreach hidle subscriber publisher hne hstreaming hwatched hlive
    have hinv : ScreenRouter.Inv system.router :=
      (ScreenRouter.stateLaws isRtcp gaussian).reachable hreach
    have hserving := (ScreenRouter.serviceLaws isRtcp gaussian).reachable hreach
    simp only [RouterModel.Serving, hidle] at hserving
    refine (hserving subscriber publisher hne hstreaming hwatched hlive).imp_right ?_
    intro hall pair hpair hpairLive
    rcases hall pair hpair hpairLive with ⟨other, hother, hpublisher⟩
    have hok := hinv.bound subscriber pair hpair other hpublisher
    exact ⟨other, hother, hok.other, hok.streaming, hok.watched, hpublisher⟩

/-- The listener of `paired` is served. -/
theorem assignment_serves_paired :
    (VoiceRouter.outputsOf SampleRun.paired.router SampleRun.listener).countP
        (fun output => output.publisher = some SampleRun.talker) = 1 ∨
      ∀ output ∈ VoiceRouter.outputsOf SampleRun.paired.router SampleRun.listener,
        trackExpired SampleRun.paired.expired output.track = false →
          ∃ other, other ≠ SampleRun.talker ∧ other ≠ SampleRun.listener ∧
            VoiceRouter.inputOf SampleRun.paired.router other ≠ none ∧
            output.publisher = some other :=
  (assignment_serves RtpSlotRewriter.libdatachannelIsRtcp fun mean _ => mean).1
    SampleRun.paired (SampleRun.reachable_paired false) rfl SampleRun.listener
    SampleRun.talker (by decide) (by decide) (by decide)

open SampleRun in
/-- A binding is kept when its slot's track dies, though another slot is free, and
when its publisher's track dies, though another publisher waits. -/
theorem assignment_keeps_dead_bindings :
    (¬ ∀ system, SampleRun.router.ReachableSystem false system → system.phase = Phase.idle →
      ∀ subscriber publisher, subscriber ∈ VoiceRouter.peers system.router →
        publisher ≠ subscriber →
        trackExpired system.expired (VoiceRouter.inputOf system.router publisher) = false →
          ((VoiceRouter.outputsOf system.router subscriber).countP
                (fun output => output.publisher = some publisher) = 1 ∧
              ∃ output ∈ VoiceRouter.outputsOf system.router subscriber,
                output.publisher = some publisher ∧
                  trackExpired system.expired output.track = false) ∨
            ∀ output ∈ VoiceRouter.outputsOf system.router subscriber,
              trackExpired system.expired output.track = false →
                ∃ other, other ≠ publisher ∧ output.publisher = some other) ∧
    (¬ ∀ system, SampleRun.router.ReachableSystem false system → system.phase = Phase.idle →
      ∀ subscriber publisher, subscriber ∈ VoiceRouter.peers system.router →
        publisher ≠ subscriber →
        trackExpired system.expired (VoiceRouter.inputOf system.router publisher) = false →
          (VoiceRouter.outputsOf system.router subscriber).countP
              (fun output => output.publisher = some publisher) = 1 ∨
            ∀ output ∈ VoiceRouter.outputsOf system.router subscriber,
              trackExpired system.expired output.track = false →
                ∃ other, other ≠ publisher ∧ output.publisher = some other ∧
                  trackExpired system.expired (VoiceRouter.inputOf system.router other) =
                    false) := by
  constructor
  · intro hclaim
    have hseats : (VoiceRouter.outputsOf deadSlot.router listener).map Voice.OutputSlot.seat =
        [(some 2, some talker), (some 3, none)] := by decide
    have hdead : trackExpired deadSlot.expired (some 2) = true := by decide
    have hlive : trackExpired deadSlot.expired (some 3) = false := by decide
    rcases hclaim deadSlot (reachable_deadSlot false) rfl listener talker (by decide) (by decide)
      (by decide) with ⟨_, output, houtput, hbound, htrack⟩ | hall
    · have hseat : output.seat ∈ [(some 2, some talker), (some 3, none)] := by
        rw [← hseats]
        exact List.mem_map_of_mem houtput
      simp only [Voice.OutputSlot.seat, hbound, List.mem_cons, Prod.mk.injEq, reduceCtorEq,
        and_false, List.not_mem_nil, or_false, and_true] at hseat
      rw [hseat, hdead] at htrack
      contradiction
    · have hfree : (some 3, none) ∈
          (VoiceRouter.outputsOf deadSlot.router listener).map Voice.OutputSlot.seat := by
        rw [hseats]
        simp
      rcases List.mem_map.mp hfree with ⟨output, houtput, hseat⟩
      rcases Prod.mk.inj hseat with ⟨htrack, hpublisher⟩
      rcases hall output houtput (by rw [htrack, hlive]) with ⟨_, _, hbound⟩
      rw [hpublisher] at hbound
      contradiction
  · intro hclaim
    have hseats : (VoiceRouter.outputsOf deadTalker.router listener).map Voice.OutputSlot.seat =
        [(some 2, some talker)] := by decide
    have hlive : trackExpired deadTalker.expired (some 2) = false := by decide
    have hgone : trackExpired deadTalker.expired
        (VoiceRouter.inputOf deadTalker.router talker) = true := by decide
    rcases hclaim deadTalker (reachable_deadTalker false) rfl listener other (by decide)
      (by decide) (by decide) with hone | hall
    · rw [VoiceRouter.countP_seat, hseats] at hone
      contradiction
    · have htaken : (some 2, some talker) ∈
          (VoiceRouter.outputsOf deadTalker.router listener).map Voice.OutputSlot.seat := by
        rw [hseats]
        simp
      rcases List.mem_map.mp htaken with ⟨output, houtput, hseat⟩
      rcases Prod.mk.inj hseat with ⟨htrack, hpublisher⟩
      rcases hall output houtput (by rw [htrack, hlive]) with ⟨holder, _, hbound, hholder⟩
      have hsame : talker = holder := by
        rw [hpublisher] at hbound
        exact Option.some.inj hbound
      rw [← hsame, hgone] at hholder
      contradiction

end Sfu
end Driscord
