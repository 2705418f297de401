import Driscord.Sfu.ScreenQueues
import Driscord.Sfu.VoiceQueues

/-!
# The queue counters over whole runs

`queued_packets` counts the packets that wait in every run of a router whose sections avoid
the branches that lose count.  These branches are reached: a duplicated packet is counted
down twice, a packet is counted without an executor to wait for, and a packet released while
its peer does not stream is not counted down.

Main results:

- Theorem `queues_accounted`: the counters of both routers are right in careful runs.
- Theorem `queues_lose_count`: without the care they are not.
-/

namespace Driscord
namespace Sfu

open Library

/-- In every run whose sections avoid the branches that lose count, the counters of both
routers count the packets that wait. -/
theorem queues_accounted (isRtcp : Bytes → Bool) (gaussian : ℚ → ℚ → ℚ) :
    (∀ system, Reachable (VoiceRouter.lineModel isRtcp gaussian).Initial
        ((VoiceRouter.lineModel isRtcp gaussian).CarefulStep isRtcp gaussian) system →
      (VoiceRouter.lineModel isRtcp gaussian).Accounted isRtcp gaussian system) ∧
    ∀ system, Reachable (ScreenRouter.lineModel isRtcp gaussian).Initial
        ((ScreenRouter.lineModel isRtcp gaussian).CarefulStep isRtcp gaussian) system →
      (ScreenRouter.lineModel isRtcp gaussian).Accounted isRtcp gaussian system :=
  ⟨fun _ h => LineModel.accounted_of_reachable (VoiceRouter.lineLaws isRtcp gaussian) h,
    fun _ h => LineModel.accounted_of_reachable (ScreenRouter.lineLaws isRtcp gaussian) h⟩

/-! ## Runs on a slow link -/

namespace QueueRuns

section

variable {model : RouterModel} {σ : Type} [DecidableEq σ] (view : LineModel model σ)

/-- What a careful run leads to; no packet is RTCP, and no delay is drawn. -/
def careful [DecidableEq model.Delayed] (start : LineSystem model)
    (actions : List (LineAction model)) : Option (LineSystem model) :=
  execute (view.Careful (fun _ => false) fun _ _ => 0)
    (view.act (fun _ => false) fun _ _ => 0) start actions

/-- What any run leads to. -/
def run (start : LineSystem model) (actions : List (LineAction model)) :
    Option (LineSystem model) :=
  execute (fun _ _ => True) (view.act (fun _ => false) fun _ _ => 0) start actions

/-- In every run from the system, the counters count the packets that wait. -/
def CountsFrom (start : LineSystem model) : Prop :=
  view.Initial start → ∀ system,
    Reachable (Eq start) (view.Step (fun _ => false) fun _ _ => 0) system →
    system.flushes.flatten = [] → ∀ source,
    ((view.line system.router).link source).queuedPackets =
      waitingFrom view.keys source ((view.line system.router).input source) system.waiting

variable {view}

theorem reachable_careful [DecidableEq model.Delayed] {start system : LineSystem model}
    {actions : List (LineAction model)} (hstart : view.Initial start)
    (h : careful view start actions = some system) :
    Reachable view.Initial (view.CarefulStep (fun _ => false) fun _ _ => 0) system :=
  Reachable.execute (fun _ action _ hcareful hact => ⟨action, hcareful, hact⟩)
    (Reachable.start hstart) h

/-- A run after which a counter is off. -/
theorem not_countsFrom {start : LineSystem model} (hstart : view.Initial start)
    (actions : List (LineAction model)) (source : σ)
    (hrun : (run view start actions).isSome = true)
    (hquiet : ((run view start actions).getD start).flushes.flatten = [])
    (hoff : ((view.line ((run view start actions).getD start).router).link source).queuedPackets ≠
      waitingFrom view.keys source
        ((view.line ((run view start actions).getD start).router).input source)
        ((run view start actions).getD start).waiting) :
    ¬ CountsFrom view start := by
  intro hcounts
  refine hoff (hcounts hstart _ ?_ hquiet source)
  exact Reachable.execute (fun _ action _ _ hact => ⟨action, hact⟩) (Reachable.start rfl)
    (execute_eq_some_getD hrun)

end

/-- A link that takes a millisecond for each byte. -/
def slowLink (duplicateEveryNth : UInt32) : RtpFaultConfig :=
  { link := { linkCapacityKbps := 8, duplicateEveryNth } }

def alice : PeerId :=
  ⟨[1]⟩

/-- A header without payload. -/
def packet : Bytes :=
  [0x80, 111, 0, 1, 0, 0, 0, 0, 0, 0, 0, 1]

/-! ### The voice router -/

abbrev voiceModel : RouterModel :=
  VoiceRouter.model (fun _ => false) fun _ _ => 0

abbrev voice : LineModel voiceModel PeerId :=
  VoiceRouter.lineModel (fun _ => false) fun _ _ => 0

instance : DecidableEq voiceModel.Delayed :=
  inferInstanceAs (DecidableEq Voice.DelayedPacket)

def freshVoice (duplicateEveryNth : UInt32) (executor : Bool) : LineSystem voiceModel where
  router := ({ faultConfig := slowLink duplicateEveryNth, executor } : VoiceRouter)

theorem initial_freshVoice {duplicateEveryNth : UInt32} {executor : Bool} :
    voice.Initial (freshVoice duplicateEveryNth executor) :=
  ⟨_, ⟨slowLink duplicateEveryNth, executor, rfl⟩, rfl, rfl⟩

/-- Alice speaks on a track. -/
def speakOn (track : TrackId) : LineAction voiceModel :=
  .operate (.registerTrack alice (some ⟨track, [], some .audio, .recvOnly, none⟩) 1)
    fun _ _ _ => false

/-- Alice's track 7 delivers a packet. -/
def spoken : LineAction voiceModel :=
  .route (⟨alice, some 7, packet, 0, 0⟩ : VoiceRouter.Arrival)

/-- Two packets of Alice, one of them forwarded. -/
def voiceRun : List (LineAction voiceModel) :=
  [speakOn 7, spoken, spoken, .flush 12000, .forward 0]

/-! ### The screen router -/

abbrev screenModel : RouterModel :=
  ScreenRouter.model (fun _ => false) fun _ _ => 0

abbrev screen : LineModel screenModel ScreenRouter.Source :=
  ScreenRouter.lineModel (fun _ => false) fun _ _ => 0

instance : DecidableEq screenModel.Delayed :=
  inferInstanceAs (DecidableEq Screen.DelayedPacket)

def freshScreen : LineSystem screenModel where
  router := ({ faultConfig := slowLink 0, executor := true } : ScreenRouter)

theorem initial_freshScreen : screen.Initial freshScreen :=
  ⟨_, ⟨slowLink 0, true, rfl⟩, rfl, rfl⟩

/-- Alice shows a track. -/
def showOn (track : TrackId) : LineAction screenModel :=
  .operate (.registerTrack alice (some ⟨track, [], some .video, .recvOnly, none⟩) 1)
    fun _ _ _ => false

def stream (streaming : Bool) : LineAction screenModel :=
  .operate (.setStreaming alice streaming) fun _ _ _ => false

/-- Alice's track 7 delivers a packet. -/
def shown : LineAction screenModel :=
  .route (⟨alice, .video, some 7, packet, 0, 0⟩ : ScreenRouter.Arrival)

/-- Two packets of Alice, one of them forwarded. -/
def screenRun : List (LineAction screenModel) :=
  [stream true, showOn 7, shown, shown, .flush 12000, .forward 0]

end QueueRuns

open QueueRuns in
/-- Both routers, after one of two packets is forwarded. -/
theorem queues_accounted_forwarded :
    (((careful voice (freshVoice 0 true) voiceRun).getD (freshVoice 0 true)).waiting.length = 1 ∧
      voice.Accounted (fun _ => false) (fun _ _ => 0)
        ((careful voice (freshVoice 0 true) voiceRun).getD (freshVoice 0 true))) ∧
    ((careful screen freshScreen screenRun).getD freshScreen).waiting.length = 1 ∧
      screen.Accounted (fun _ => false) (fun _ _ => 0)
        ((careful screen freshScreen screenRun).getD freshScreen) := by
  have h := queues_accounted (fun _ => false) fun _ _ => 0
  refine ⟨⟨by decide +kernel, h.1 _ ?_⟩, by decide +kernel, h.2 _ ?_⟩
  · exact reachable_careful initial_freshVoice (execute_eq_some_getD (by decide +kernel))
  · exact reachable_careful initial_freshScreen (execute_eq_some_getD (by decide +kernel))

open QueueRuns in
/-- The counters lose count: of a duplicated packet, without an executor, when a track is
registered again while its packets wait, and when a packet is released while its peer does
not stream. -/
theorem queues_lose_count :
    ¬ CountsFrom voice (freshVoice 1 true) ∧ ¬ CountsFrom voice (freshVoice 0 false) ∧
      ¬ CountsFrom voice (freshVoice 0 true) ∧ ¬ CountsFrom screen freshScreen := by
  refine ⟨?_, ?_, ?_, ?_⟩
  · exact not_countsFrom initial_freshVoice
      [speakOn 7, spoken, spoken, .flush 12000, .forward 0, .forward 0] alice
      (by decide +kernel) (by decide +kernel) (by decide +kernel)
  · exact not_countsFrom initial_freshVoice [speakOn 7, spoken] alice
      (by decide +kernel) (by decide +kernel) (by decide +kernel)
  · exact not_countsFrom initial_freshVoice [speakOn 7, spoken, speakOn 8, speakOn 7] alice
      (by decide +kernel) (by decide +kernel) (by decide +kernel)
  · exact not_countsFrom initial_freshScreen
      [stream true, showOn 7, shown, stream false, .flush 12000, .forward 0, stream true]
      (alice, .video) (by decide +kernel) (by decide +kernel) (by decide +kernel)

end Sfu
end Driscord
