import Driscord.Library.Custody
import Driscord.Library.TransitionSystem
import Driscord.Signaling.Json

/-!
# The voice session

`GoogleWebRtcVoiceSession` has one peer connection, the microphone track and a sink on
every remote track.  It is started and closed by calls of the user, while the threads of
WebRTC report tracks, candidates and the results of earlier requests.  All of them may run
at once, at the granularity of the sections under `mutex` and the calls into WebRTC.

What WebRTC answers is a parameter of each call.  A connection is open until `Close`, and a
sink is registered until `RemoveSink`: what is open or registered is `live`.  The audio
source, which is kept beside its track, the statistics, the delivery of audio and the
changes of state, which are only passed on, are left out.
-/

namespace Driscord
namespace Client

open Library Signaling

/-- `VoiceSessionConfig`. -/
structure VoiceSessionConfig where
  remoteTrackSlots : Nat := 16
  microphoneEnabled : Bool := true
  maxMicrophoneBitrateBps : Int := 64000

/-- Which of the `VoiceSessionCallbacks` are set. -/
structure VoiceSessionCallbacks where
  onOffer : Bool := true
  onCandidate : Bool := true
  onRemoteTrack : Bool := true
  onRemoteAudio : Bool := true
  onError : Bool := true

/-- The calls of the callbacks. -/
inductive VoiceCallback where
  | offer (sdp : Bytes)
  | candidate (candidate mid : Bytes)
  | remoteTrack (mid trackId : Bytes)
  | error (message : Bytes)
deriving DecidableEq, Repr

/-- The callback is set. -/
def VoiceSessionCallbacks.has (callbacks : VoiceSessionCallbacks) : VoiceCallback → Bool
  | VoiceCallback.offer _ => callbacks.onOffer
  | VoiceCallback.candidate _ _ => callbacks.onCandidate
  | VoiceCallback.remoteTrack _ _ => callbacks.onRemoteTrack
  | VoiceCallback.error _ => callbacks.onError

/-- `RemoteSinkBinding`: a sink, which knows its mid, and its track. -/
structure RemoteSinkBinding where
  track : Nat
  sink : Nat
  mid : Bytes
deriving DecidableEq, Repr

/-- What WebRTC keeps until it is given back. -/
inductive VoiceResource where
  | connection (connection : Nat)
  | sink (binding : RemoteSinkBinding)
deriving DecidableEq, Repr

/-- The requests that WebRTC answers later. -/
inductive VoiceRequest where
  | localDescription
  | remoteDescription
  | iceCandidate
deriving DecidableEq, Repr

/-- The steps of `start` while it holds the new connection. -/
inductive VoiceSetup where
  | audioSource
  | audioTrack
  | readMicrophone (track : Nat)
  | enableMicrophone (track : Nat) (enabled : Bool)
  | addSender (track : Nat)
  | addReceivers (track left : Nat)
  | install (track : Nat)
deriving DecidableEq, Repr

/-- The sections of the calls. -/
inductive VoicePeerSection where
  | start
  | createConnection
  | setUp (connection : Nat) (step : VoiceSetup)
  | startReturns (result : Bool)
  | close
  | closeConnection (connection : Nat)
  | removeSink (binding : RemoteSinkBinding)
  /-- `apply_answer` of a description that is parsed, or not. -/
  | applyAnswer (parseError : Option Bytes)
  | addRemoteCandidate (parseError : Option Bytes)
  /-- `SetLocalDescription`, `SetRemoteDescription` or `AddIceCandidate`. -/
  | send (request : VoiceRequest) (connection : Nat)
  /-- The observer of a request is called. -/
  | answered (request : VoiceRequest) (expected : Nat) (error description : Option Bytes)
  | setMicrophoneEnabled (enabled : Bool)
  | applyMicrophone (track : Nat) (enabled : Bool)
  /-- `OnIceCandidate`. -/
  | onIceCandidate (candidate mid : Bytes)
  /-- `OnTrack`, with the number and the id of the track if it is an audio track. -/
  | onTrack (mid : Option Bytes) (track : Option (Nat × Bytes))
  /-- `attach_remote_audio_sink`. -/
  | addSink (mid : Bytes) (track : Nat)
  | retainSink (binding : RemoteSinkBinding)
  | notify (callback : VoiceCallback)
deriving DecidableEq, Repr

/-- `GoogleWebRtcVoiceSession::Impl`, and what WebRTC has of it. -/
structure VoicePeerSession where
  config : VoiceSessionConfig
  callbacks : VoiceSessionCallbacks
  /-- `runtime && runtime->factory`. -/
  runtimeReady : Bool
  pc : Option Nat
  microphoneTrack : Option Nat
  remoteSinks : List RemoteSinkBinding
  started : Bool
  startAttempted : Bool
  closeRequested : Bool
  desiredMicrophoneEnabled : Bool
  /-- How many connections, tracks and sinks were created. -/
  connections : Nat
  tracks : Nat
  sinks : Nat
  live : Multiset VoiceResource
  /-- The local tracks that are enabled. -/
  enabledTracks : Finset Nat
  awaiting : List (VoiceRequest × Nat)
  notified : List VoiceCallback
  /-- What the calls of `start` have returned. -/
  startResults : List Bool

/-- `rtc_error_message`. -/
def rtcErrorMessage (context : String) (message : Bytes) : Bytes :=
  text context ++ text ": " ++ message

/-- The checks of the configuration, which come first. -/
def VoiceSessionConfig.refusal (config : VoiceSessionConfig) : Option String :=
  if 64 < config.remoteTrackSlots then
    some "voice receive slot count exceeds the safety limit"
  else if config.maxMicrophoneBitrateBps ≤ 0 || 510000 < config.maxMicrophoneBitrateBps then
    some "voice microphone bitrate is outside the Opus range"
  else none

namespace VoicePeerSection

/-- `report_error`. -/
def reportError (message : Bytes) : VoicePeerSection :=
  notify (VoiceCallback.error message)

/-- `start` fails before it has a connection. -/
def refused (message : Bytes) : List VoicePeerSection :=
  [reportError message, startReturns false]

/-- `start` fails with a connection. -/
def abandoned (connection : Nat) (message : Bytes) : List VoicePeerSection :=
  [reportError message, closeConnection connection, startReturns false]

/-- The next step of `start`. -/
def advanced (connection : Nat) (step : VoiceSetup) : List VoicePeerSection :=
  [setUp connection step]

end VoicePeerSection

namespace VoicePeerSession

open VoicePeerSection

/-- A new session. -/
def create (config : VoiceSessionConfig) (callbacks : VoiceSessionCallbacks)
    (runtimeReady : Bool) : VoicePeerSession where
  config := config
  callbacks := callbacks
  runtimeReady := runtimeReady
  pc := none
  microphoneTrack := none
  remoteSinks := []
  started := false
  startAttempted := false
  closeRequested := false
  desiredMicrophoneEnabled := config.microphoneEnabled
  connections := 0
  tracks := 0
  sinks := 0
  live := 0
  enabledTracks := ∅
  awaiting := []
  notified := []
  startResults := []

/-- `owns`. -/
def owns (session : VoicePeerSession) (other : Nat) : Bool :=
  session.started && session.pc == some other

/-- `set_enabled` of a local track. -/
def setEnabled (session : VoicePeerSession) (track : Nat) (enabled : Bool) :
    VoicePeerSession :=
  { session with
    enabledTracks :=
      if enabled then insert track session.enabledTracks
      else session.enabledTracks.erase track }

/-- One step of `start` with a new connection: the new session and the sections called
for.  `failure` is the error of the call into WebRTC. -/
def setUp (session : VoicePeerSession) (failure : Option Bytes) (connection : Nat) :
    VoiceSetup → VoicePeerSession × List VoicePeerSection
  | VoiceSetup.audioSource =>
      match failure with
      | some _ =>
          (session, abandoned connection (text "voice microphone source creation failed"))
      | none => (session, advanced connection VoiceSetup.audioTrack)
  | VoiceSetup.audioTrack =>
      match failure with
      | some _ => (session, abandoned connection (text "voice microphone track creation failed"))
      | none =>
          ({ session with tracks := session.tracks + 1 },
            advanced connection (VoiceSetup.readMicrophone session.tracks))
  | VoiceSetup.readMicrophone track =>
      (session, advanced connection
        (VoiceSetup.enableMicrophone track session.desiredMicrophoneEnabled))
  | VoiceSetup.enableMicrophone track enabled =>
      (session.setEnabled track enabled, advanced connection (VoiceSetup.addSender track))
  | VoiceSetup.addSender track =>
      match failure with
      | some reason =>
          (session, abandoned connection
            (rtcErrorMessage "voice microphone transceiver creation failed" reason))
      | none =>
          (session, advanced connection
            (VoiceSetup.addReceivers track session.config.remoteTrackSlots))
  | VoiceSetup.addReceivers track 0 => (session, advanced connection (VoiceSetup.install track))
  | VoiceSetup.addReceivers track (left + 1) =>
      match failure with
      | some reason =>
          (session, abandoned connection
            (rtcErrorMessage "voice receive transceiver creation failed" reason))
      | none => (session, advanced connection (VoiceSetup.addReceivers track left))
  | VoiceSetup.install track =>
      if session.closeRequested then
        (session, [closeConnection connection, startReturns false])
      else
        ({ session with pc := some connection, microphoneTrack := some track, started := true },
          [send VoiceRequest.localDescription connection, startReturns true])

/-- What the observer of a request does while the connection is the session's. -/
def observe (error description : Option Bytes) : VoiceRequest → List VoicePeerSection
  | VoiceRequest.localDescription =>
      match error, description with
      | some reason, _ =>
          [reportError (rtcErrorMessage "setting voice local description failed" reason)]
      | none, none => [reportError (text "serializing voice local description failed")]
      | none, some sdp => [notify (VoiceCallback.offer sdp)]
  | VoiceRequest.remoteDescription =>
      match error with
      | some reason =>
          [reportError (rtcErrorMessage "setting voice remote answer failed" reason)]
      | none => []
  | VoiceRequest.iceCandidate =>
      match error with
      | some reason =>
          [reportError (rtcErrorMessage "adding voice ICE candidate failed" reason)]
      | none => []

/-- Ask the current connection for something, unless the argument is malformed. -/
def ask (session : VoicePeerSession) (request : VoiceRequest) (unstarted invalid : String)
    (parseError : Option Bytes) : List VoicePeerSection :=
  match session.pc, parseError with
  | none, _ => [reportError (text unstarted)]
  | some _, some description => [reportError (rtcErrorMessage invalid description)]
  | some current, none => [send request current]

/-- What `OnTrack` does with a track while the session is started. -/
def trackSections (session : VoicePeerSession) (mid : Option Bytes)
    (track : Option (Nat × Bytes)) : List VoicePeerSection :=
  match mid, track with
  | some mid, some (track, trackId) =>
      (if session.callbacks.onRemoteAudio then [addSink mid track] else []) ++
        [notify (VoiceCallback.remoteTrack mid trackId)]
  | _, _ => []

/-- Run a section: the new session and the sections called for. -/
def run (session : VoicePeerSession) (failure : Option Bytes) :
    VoicePeerSection → VoicePeerSession × List VoicePeerSection
  | VoicePeerSection.start =>
      match session.config.refusal with
      | some message => (session, refused (text message))
      | none =>
          if session.startAttempted || session.closeRequested then
            (session, [startReturns session.started])
          else
            ({ session with startAttempted := true },
              if session.runtimeReady then [createConnection]
              else refused (text "Google WebRTC runtime is not ready"))
  | VoicePeerSection.createConnection =>
      match failure with
      | some reason =>
          (session, refused (rtcErrorMessage "voice PeerConnection creation failed" reason))
      | none =>
          ({ session with
              connections := session.connections + 1
              live := VoiceResource.connection session.connections ::ₘ session.live },
            advanced session.connections VoiceSetup.audioSource)
  | VoicePeerSection.setUp connection step => session.setUp failure connection step
  | VoicePeerSection.startReturns result =>
      ({ session with startResults := session.startResults ++ [result] }, [])
  | VoicePeerSection.close =>
      ({ session with
          pc := none
          microphoneTrack := none
          remoteSinks := []
          started := false
          closeRequested := true },
        session.remoteSinks.map removeSink ++ session.pc.toList.map closeConnection)
  | VoicePeerSection.closeConnection connection =>
      ({ session with live := session.live.erase (VoiceResource.connection connection) }, [])
  | VoicePeerSection.removeSink binding =>
      ({ session with live := session.live.erase (VoiceResource.sink binding) }, [])
  | VoicePeerSection.applyAnswer parseError =>
      (session, session.ask VoiceRequest.remoteDescription
        "voice answer received before session start" "invalid voice answer SDP" parseError)
  | VoicePeerSection.addRemoteCandidate parseError =>
      (session, session.ask VoiceRequest.iceCandidate
        "voice ICE candidate received before session start" "invalid voice ICE candidate"
        parseError)
  | VoicePeerSection.send request connection =>
      ({ session with awaiting := session.awaiting ++ [(request, connection)] }, [])
  | VoicePeerSection.answered request expected error description =>
      (session, if session.owns expected then observe error description request else [])
  | VoicePeerSection.setMicrophoneEnabled enabled =>
      ({ session with desiredMicrophoneEnabled := enabled },
        session.microphoneTrack.toList.map (applyMicrophone · enabled))
  | VoicePeerSection.applyMicrophone track enabled => (session.setEnabled track enabled, [])
  | VoicePeerSection.onIceCandidate candidate mid =>
      (session,
        if session.started then [notify (VoiceCallback.candidate candidate mid)] else [])
  | VoicePeerSection.onTrack mid track =>
      (session, if session.started then session.trackSections mid track else [])
  | VoicePeerSection.addSink mid track =>
      ({ session with
          sinks := session.sinks + 1
          live := VoiceResource.sink ⟨track, session.sinks, mid⟩ ::ₘ session.live },
        [retainSink ⟨track, session.sinks, mid⟩])
  | VoicePeerSection.retainSink binding =>
      if session.started ∧ ∀ other ∈ session.remoteSinks, other.mid ≠ binding.mid then
        ({ session with remoteSinks := session.remoteSinks ++ [binding] }, [])
      else (session, [removeSink binding])
  | VoicePeerSection.notify callback =>
      if session.callbacks.has callback then
        ({ session with notified := session.notified ++ [callback] }, [])
      else (session, [])

end VoicePeerSession

/-! ## The system -/

/-- The calls of the user, and those of WebRTC that answer no request. -/
inductive VoicePeerCall where
  | start
  | close
  | applyAnswer (parseError : Option Bytes)
  | addRemoteCandidate (parseError : Option Bytes)
  | setMicrophoneEnabled (enabled : Bool)
  | onIceCandidate (candidate mid : Bytes)
  | onTrack (mid : Option Bytes) (track : Option (Nat × Bytes))
deriving DecidableEq, Repr

/-- The first section of a call. -/
def VoicePeerCall.body : VoicePeerCall → VoicePeerSection
  | start => VoicePeerSection.start
  | close => VoicePeerSection.close
  | applyAnswer parseError => VoicePeerSection.applyAnswer parseError
  | addRemoteCandidate parseError => VoicePeerSection.addRemoteCandidate parseError
  | setMicrophoneEnabled enabled => VoicePeerSection.setMicrophoneEnabled enabled
  | onIceCandidate candidate mid => VoicePeerSection.onIceCandidate candidate mid
  | onTrack mid track => VoicePeerSection.onTrack mid track

/-- The session and all running calls. -/
structure VoicePeerSystem where
  session : VoicePeerSession
  threads : Pool VoicePeerSection

/-- What may happen next. -/
inductive VoicePeerAction where
  | call (call : VoicePeerCall)
  /-- WebRTC answers a request. -/
  | answer (request : VoiceRequest) (connection : Nat) (error description : Option Bytes)
  /-- Thread `index` runs its next section. -/
  | run (index : Nat) (failure : Option Bytes)

namespace VoicePeerSystem

/-- Begin a thread. -/
def spawn (system : VoicePeerSystem) (item : VoicePeerSection) : VoicePeerSystem :=
  { system with threads := system.threads ++ [[item]] }

/-- Do an action, if it is possible. -/
def act (system : VoicePeerSystem) : VoicePeerAction → Option VoicePeerSystem
  | VoicePeerAction.call call => some (system.spawn call.body)
  | VoicePeerAction.answer request connection error description =>
      if (request, connection) ∈ system.session.awaiting then
        some { system.spawn (VoicePeerSection.answered request connection error description) with
          session :=
            { system.session with
              awaiting := system.session.awaiting.erase (request, connection) } }
      else none
  | VoicePeerAction.run index failure =>
      match system.threads[index]? with
      | some (head :: rest) =>
          let result := system.session.run failure head
          some { system with
            session := result.1
            threads := system.threads.set index (result.2 ++ rest) }
      | _ => none

/-- One step of the system. -/
def Step (system next : VoicePeerSystem) : Prop :=
  ∃ action, system.act action = some next

/-- A new session, of any configuration. -/
def Initial (system : VoicePeerSystem) : Prop :=
  ∃ config callbacks runtimeReady,
    system = { session := VoicePeerSession.create config callbacks runtimeReady, threads := [] }

end VoicePeerSystem

end Client
end Driscord
