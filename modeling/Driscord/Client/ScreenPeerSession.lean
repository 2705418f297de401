import Driscord.Client.VoicePeerSession
import Driscord.Library.LatestSlot

/-!
# The screen session

`GoogleWebRtcScreenSession` keeps its sinks in two objects of its own.
`RemoteScreenSinks` has a sink on every remote track, `LocalVideoSink` one on the local
video track while the preview is shown.  The session and its calls share these objects: a
call that has copied the pointer goes on with it after `close`, and the destructor clears
the object when the last pointer is gone.  The sinks call back into the objects, so no
sink may be left on a track by then.

The calls run at once, at the granularity of the sections under `mutex`,
`binding_mutex_` and `sinks_mutex_` and the calls into WebRTC, whose answers are
parameters.  Everything that has to be given back is `live`: an open connection, a sink
on a track, a pointer to one of the two objects.

The descriptions, candidates, changes of state and statistics, which touch no sink, are
left out, and so are the frames and the capture of the desktop.
-/

namespace Driscord
namespace Client

open Library Signaling

/-- `ScreenSessionConfig`. -/
structure ScreenSessionConfig where
  remoteStreamSlots : Nat := 4
  sharingEnabled : Bool := false
  systemAudioEnabled : Bool := false
  localPreviewEnabled : Bool := false
  maxVideoBitrateBps : Int := 4000000
  maxSystemAudioBitrateBps : Int := 128000

/-- The kind of a remote track. -/
inductive ScreenTrackKind where
  | video
  | audio
deriving DecidableEq, Repr

/-- Which of the `ScreenSessionCallbacks` are set. -/
structure ScreenSessionCallbacks where
  onRemoteTrack : Bool := true
  onLocalVideo : Bool := true
  onError : Bool := true

/-- The calls of the callbacks. -/
inductive ScreenCallback where
  | remoteTrack (mid trackId : Bytes) (kind : ScreenTrackKind)
  | error (message : Bytes)
deriving DecidableEq, Repr

/-- The callback is set. -/
def ScreenSessionCallbacks.has (callbacks : ScreenSessionCallbacks) : ScreenCallback → Bool
  | ScreenCallback.remoteTrack _ _ _ => callbacks.onRemoteTrack
  | ScreenCallback.error _ => callbacks.onError

/-- The checks of the configuration, which come first. -/
def ScreenSessionConfig.refusal (config : ScreenSessionConfig) : Option String :=
  if 16 < config.remoteStreamSlots then
    some "screen receive slot count exceeds the safety limit"
  else if config.maxVideoBitrateBps ≤ 0 || 50000000 < config.maxVideoBitrateBps then
    some "screen video bitrate is outside the safety range"
  else if config.maxSystemAudioBitrateBps ≤ 0 || 510000 < config.maxSystemAudioBitrateBps then
    some "screen audio bitrate is outside the Opus range"
  else none

/-! ## The sinks -/

/-- The sink of the preview and its track. -/
structure PreviewBinding where
  track : Nat
  sink : Nat
deriving DecidableEq, Repr

/-- What has to be given back. -/
inductive ScreenResource where
  | connection (connection : Nat)
  /-- A sink on a remote track. -/
  | remoteSink (kind : ScreenTrackKind) (binding : RemoteSinkBinding)
  /-- A sink on the local video track. -/
  | previewSink (binding : PreviewBinding)
  /-- A pointer to the `RemoteScreenSinks`. -/
  | remoteSinks
  /-- A pointer to the `LocalVideoSink`. -/
  | localSink
deriving DecidableEq, Repr

/-- `RemoteScreenSinks`. -/
structure RemoteScreenSinks where
  video : List RemoteSinkBinding := []
  audio : List RemoteSinkBinding := []
deriving DecidableEq, Repr

namespace RemoteScreenSinks

/-- The sinks of a kind. -/
def bindings (sinks : RemoteScreenSinks) : ScreenTrackKind → List RemoteSinkBinding
  | ScreenTrackKind.video => sinks.video
  | ScreenTrackKind.audio => sinks.audio

/-- `push_back`. -/
def add (sinks : RemoteScreenSinks) (binding : RemoteSinkBinding) :
    ScreenTrackKind → RemoteScreenSinks
  | ScreenTrackKind.video => { sinks with video := sinks.video ++ [binding] }
  | ScreenTrackKind.audio => { sinks with audio := sinks.audio ++ [binding] }

/-- All sinks, as resources. -/
def resources (sinks : RemoteScreenSinks) : List ScreenResource :=
  sinks.video.map (ScreenResource.remoteSink ScreenTrackKind.video) ++
    sinks.audio.map (ScreenResource.remoteSink ScreenTrackKind.audio)

end RemoteScreenSinks

/-- What `set_audio_enabled` and `set_audio_volume` set. -/
inductive RemoteAudioSetting where
  | enabled (enabled : Bool)
  | volume (volume : ℚ)
deriving DecidableEq

/-- The range of a volume. -/
def RemoteAudioSetting.valid : RemoteAudioSetting → Bool
  | enabled _ => true
  | volume value => 0 ≤ value && value ≤ 10

/-! ## The sections -/

/-- The variables of `start` once the connection is there. -/
structure ScreenStart where
  sharingEnabled : Bool
  systemAudioEnabled : Bool
  connection : Nat := 0
  videoTrack : Nat := 0
  audioTrack : Nat := 0
deriving DecidableEq, Repr

/-- The steps of `start` while it holds the new connection and the new objects. -/
inductive ScreenSetup where
  | videoTrack
  | enableVideo
  | preview
  | audioTrack
  | enableAudio
  | addVideoSender
  | addAudioSender
  | addReceivers (left : Nat)
  | install
deriving DecidableEq, Repr

/-- Who attaches the preview. -/
inductive PreviewUser where
  | starting (locals : ScreenStart)
  | setting
deriving DecidableEq, Repr

/-- The sections of the calls. -/
inductive ScreenPeerSection where
  | start
  | createConnection (locals : ScreenStart)
  | setUp (locals : ScreenStart) (step : ScreenSetup)
  | startReturns (result : Bool)
  | close
  | closeConnection (connection : Nat)
  | setSharingEnabled (enabled : Bool)
  | setSystemAudioEnabled (enabled : Bool)
  /-- `set_enabled` of a local track. -/
  | applyEnabled (track : Nat) (enabled : Bool)
  | setLocalPreviewEnabled (enabled : Bool)
  /-- `LocalVideoSink::attach`: the first section, `AddOrUpdateSink`, the second section. -/
  | attachPreview (track : Nat) (user : PreviewUser)
  | addPreview (generation track : Nat) (user : PreviewUser)
  | retainPreview (generation : Nat) (binding : PreviewBinding) (user : PreviewUser)
  /-- `LocalVideoSink::clear`. -/
  | clearPreview
  | removePreview (binding : PreviewBinding)
  /-- A pointer to the `LocalVideoSink` goes out of scope. -/
  | dropPreview
  /-- `OnTrack`, with the kind, the number and the id of the track. -/
  | onTrack (mid : Option Bytes) (track : Option (Option ScreenTrackKind × Nat × Bytes))
  /-- `attach_video` and `attach_audio`: add the sink, keep it. -/
  | addRemote (kind : ScreenTrackKind) (mid : Bytes) (track : Nat) (trackId : Bytes)
  | retainRemote (kind : ScreenTrackKind) (binding : RemoteSinkBinding) (trackId : Bytes)
  /-- `RemoteScreenSinks::clear`. -/
  | clearRemote
  | removeRemote (kind : ScreenTrackKind) (binding : RemoteSinkBinding)
  /-- A pointer to the `RemoteScreenSinks` goes out of scope. -/
  | dropRemote
  /-- `set_remote_audio_enabled` and `set_remote_audio_volume`. -/
  | setRemoteAudio (mid : Bytes) (setting : RemoteAudioSetting)
  | applyRemoteAudio (mid : Bytes) (setting : RemoteAudioSetting)
  | notify (callback : ScreenCallback)
deriving DecidableEq

/-- `GoogleWebRtcScreenSession::Impl`, its two objects, and what WebRTC has of it.  Only
one `start` gets to make the objects, so they are there from the beginning. -/
structure ScreenPeerSession where
  config : ScreenSessionConfig
  callbacks : ScreenSessionCallbacks
  /-- `runtime && runtime->factory`. -/
  runtimeReady : Bool
  /-- `runtime && runtime->injected_pcm_source`. -/
  injectedPcm : Bool
  pc : Option Nat
  videoTrack : Option Nat
  audioTrack : Option Nat
  /-- `remote_sinks` and `local_preview_sink` are set. -/
  hasRemoteSinks : Bool
  hasLocalSink : Bool
  started : Bool
  startAttempted : Bool
  closeRequested : Bool
  desiredSharingEnabled : Bool
  desiredSystemAudioEnabled : Bool
  desiredLocalPreviewEnabled : Bool
  remote : RemoteScreenSinks
  preview : LatestSlot PreviewBinding
  /-- How many connections, local tracks and sinks were created. -/
  connections : Nat
  tracks : Nat
  sinks : Nat
  live : Multiset ScreenResource
  /-- The local tracks that are enabled. -/
  enabledTracks : Finset Nat
  /-- What was set on the remote audio tracks. -/
  remoteAudio : List (Nat × RemoteAudioSetting)
  notified : List ScreenCallback
  /-- What the calls of `start` have returned. -/
  startResults : List Bool
  /-- The track of the last `attach`, unless a `clear` came later. -/
  previewWish : Option Nat

namespace ScreenPeerSection

/-- `report_error`. -/
def reportError (message : Bytes) : ScreenPeerSection :=
  notify (ScreenCallback.error message)

/-- `start` fails before it has a connection. -/
def refused (message : Bytes) : List ScreenPeerSection :=
  [reportError message, startReturns false]

/-- `start` closes the connection, and its pointers go out of scope. -/
def cancelled (locals : ScreenStart) : List ScreenPeerSection :=
  [closeConnection locals.connection, dropPreview, dropRemote, startReturns false]

/-- `start` fails with a connection. -/
def abandoned (locals : ScreenStart) (message : Bytes) : List ScreenPeerSection :=
  reportError message :: cancelled locals

/-- The next step of `start`. -/
def advanced (locals : ScreenStart) (step : ScreenSetup) : List ScreenPeerSection :=
  [setUp locals step]

/-- What comes after `attach`. -/
def afterAttach : PreviewUser → List ScreenPeerSection
  | PreviewUser.starting locals => advanced locals ScreenSetup.audioTrack
  | PreviewUser.setting => [dropPreview]

/-- What `OnTrack` does with a track once it has the pointer. -/
def attachTrack (mid : Option Bytes) (track : Option (Option ScreenTrackKind × Nat × Bytes)) :
    List ScreenPeerSection :=
  match mid, track with
  | some mid, some (some kind, track, trackId) => [addRemote kind mid track trackId]
  | _, _ => [dropRemote]

/-- What comes after `attach_video` and `attach_audio`. -/
def afterRemote (kind : ScreenTrackKind) (mid trackId : Bytes) : List ScreenPeerSection :=
  [notify (ScreenCallback.remoteTrack mid trackId kind), dropRemote]

/-- `RemoveSink` of every binding. -/
def removals (sinks : RemoteScreenSinks) : List ScreenPeerSection :=
  sinks.video.map (removeRemote ScreenTrackKind.video) ++
    sinks.audio.map (removeRemote ScreenTrackKind.audio)

end ScreenPeerSection

namespace ScreenPeerSession

open ScreenPeerSection

/-- A new session. -/
def create (config : ScreenSessionConfig) (callbacks : ScreenSessionCallbacks)
    (runtimeReady injectedPcm : Bool) : ScreenPeerSession where
  config := config
  callbacks := callbacks
  runtimeReady := runtimeReady
  injectedPcm := injectedPcm
  pc := none
  videoTrack := none
  audioTrack := none
  hasRemoteSinks := false
  hasLocalSink := false
  started := false
  startAttempted := false
  closeRequested := false
  desiredSharingEnabled := config.sharingEnabled
  desiredSystemAudioEnabled := config.systemAudioEnabled
  desiredLocalPreviewEnabled := config.localPreviewEnabled
  remote := {}
  preview := {}
  connections := 0
  tracks := 0
  sinks := 0
  live := 0
  enabledTracks := ∅
  remoteAudio := []
  notified := []
  startResults := []
  previewWish := none

/-- `set_enabled` of a local track. -/
def setEnabled (session : ScreenPeerSession) (track : Nat) (enabled : Bool) :
    ScreenPeerSession :=
  { session with
    enabledTracks :=
      if enabled then insert track session.enabledTracks
      else session.enabledTracks.erase track }

/-- A step of `start` that WebRTC may refuse. -/
def attempt (session : ScreenPeerSession) (failure : Option Bytes) (locals : ScreenStart)
    (message : Bytes → Bytes) (step : ScreenSetup) :
    ScreenPeerSession × List ScreenPeerSection :=
  match failure with
  | some reason => (session, abandoned locals (message reason))
  | none => (session, advanced locals step)

/-- `CreateVideoTrack` and `CreateAudioTrack`: `step` goes on with the new track. -/
def newTrack (session : ScreenPeerSession) (failure : Option Bytes) (locals : ScreenStart)
    (message : Bytes) (next : ScreenStart) (step : ScreenSetup) :
    ScreenPeerSession × List ScreenPeerSection :=
  match failure with
  | some _ => (session, abandoned locals message)
  | none => ({ session with tracks := session.tracks + 1 }, advanced next step)

/-- One step of `start` with a new connection: the new session and the sections called
for.  `failure` is the error of the call into WebRTC. -/
def setUp (session : ScreenPeerSession) (failure : Option Bytes) (locals : ScreenStart) :
    ScreenSetup → ScreenPeerSession × List ScreenPeerSection
  | ScreenSetup.videoTrack =>
      session.newTrack failure locals (text "screen video track creation failed")
        { locals with videoTrack := session.tracks } ScreenSetup.enableVideo
  | ScreenSetup.enableVideo =>
      (session.setEnabled locals.videoTrack locals.sharingEnabled,
        advanced locals ScreenSetup.preview)
  | ScreenSetup.preview =>
      (session,
        if session.config.localPreviewEnabled && session.callbacks.onLocalVideo then
          [attachPreview locals.videoTrack (PreviewUser.starting locals)]
        else advanced locals ScreenSetup.audioTrack)
  | ScreenSetup.audioTrack =>
      session.newTrack failure locals (text "screen system-audio track creation failed")
        { locals with audioTrack := session.tracks } ScreenSetup.enableAudio
  | ScreenSetup.enableAudio =>
      (session.setEnabled locals.audioTrack locals.systemAudioEnabled,
        advanced locals ScreenSetup.addVideoSender)
  | ScreenSetup.addVideoSender =>
      session.attempt failure locals
        (rtcErrorMessage "screen video transceiver creation failed") ScreenSetup.addAudioSender
  | ScreenSetup.addAudioSender =>
      session.attempt failure locals
        (rtcErrorMessage "screen audio transceiver creation failed")
        (ScreenSetup.addReceivers session.config.remoteStreamSlots)
  | ScreenSetup.addReceivers 0 => (session, advanced locals ScreenSetup.install)
  | ScreenSetup.addReceivers (left + 1) =>
      session.attempt failure locals
        (fun _ => text "screen receive-pair transceiver creation failed")
        (ScreenSetup.addReceivers left)
  | ScreenSetup.install =>
      if session.closeRequested then (session, cancelled locals)
      else
        ({ session with
            pc := some locals.connection
            videoTrack := some locals.videoTrack
            audioTrack := some locals.audioTrack
            hasRemoteSinks := true
            hasLocalSink := true
            started := true },
          [startReturns true])

/-- `LocalVideoSink::clear`. -/
def clearLocal (session : ScreenPeerSession) : ScreenPeerSession :=
  { session with preview := session.preview.withdraw, previewWish := none }

/-- The sink that an emptied slot had. -/
def oldPreview (session : ScreenPeerSession) : List ScreenPeerSection :=
  session.preview.binding.toList.map removePreview

/-- The mid has a sink of this kind. -/
def Duplicate (session : ScreenPeerSession) (kind : ScreenTrackKind)
    (binding : RemoteSinkBinding) : Prop :=
  ∃ other ∈ session.remote.bindings kind, other.mid = binding.mid

instance (session : ScreenPeerSession) (kind : ScreenTrackKind) (binding : RemoteSinkBinding) :
    Decidable (session.Duplicate kind binding) :=
  inferInstanceAs (Decidable (∃ other ∈ _, _))

/-- `set_audio_enabled` and `set_audio_volume`. -/
def setAudio (session : ScreenPeerSession) (mid : Bytes) (setting : RemoteAudioSetting) :
    ScreenPeerSession :=
  match session.remote.audio.find? fun binding => binding.mid == mid with
  | some binding =>
      if setting.valid then
        { session with remoteAudio := session.remoteAudio ++ [(binding.track, setting)] }
      else session
  | none => session

/-- Run a section: the new session and the sections called for. -/
def run (session : ScreenPeerSession) (failure : Option Bytes) :
    ScreenPeerSection → ScreenPeerSession × List ScreenPeerSection
  | ScreenPeerSection.start =>
      match session.config.refusal with
      | some message => (session, refused (text message))
      | none =>
          if session.startAttempted || session.closeRequested then
            (session, [startReturns session.started])
          else
            ({ session with startAttempted := true },
              if !session.runtimeReady then refused (text "Google WebRTC runtime is not ready")
              else if session.desiredSystemAudioEnabled && !session.injectedPcm then
                refused (text "screen system audio requires an injected-audio runtime")
              else
                [createConnection
                  { sharingEnabled := session.desiredSharingEnabled
                    systemAudioEnabled := session.desiredSystemAudioEnabled }])
  | ScreenPeerSection.createConnection locals =>
      match failure with
      | some reason =>
          (session, refused (rtcErrorMessage "screen PeerConnection creation failed" reason))
      | none =>
          ({ session with
              connections := session.connections + 1
              live := ScreenResource.connection session.connections ::ₘ
                ScreenResource.remoteSinks ::ₘ ScreenResource.localSink ::ₘ session.live },
            advanced { locals with connection := session.connections } ScreenSetup.videoTrack)
  | ScreenPeerSection.setUp locals step => session.setUp failure locals step
  | ScreenPeerSection.startReturns result =>
      ({ session with startResults := session.startResults ++ [result] }, [])
  | ScreenPeerSection.close =>
      ({ session with
          pc := none
          videoTrack := none
          audioTrack := none
          hasRemoteSinks := false
          hasLocalSink := false
          started := false
          closeRequested := true },
        (if session.hasRemoteSinks then [clearRemote] else []) ++
          (if session.hasLocalSink then [clearPreview] else []) ++
            session.pc.toList.map closeConnection ++
              (if session.hasLocalSink then [dropPreview] else []) ++
                if session.hasRemoteSinks then [dropRemote] else [])
  | ScreenPeerSection.closeConnection connection =>
      ({ session with live := session.live.erase (ScreenResource.connection connection) }, [])
  | ScreenPeerSection.setSharingEnabled enabled =>
      ({ session with desiredSharingEnabled := enabled },
        session.videoTrack.toList.map (applyEnabled · enabled))
  | ScreenPeerSection.setSystemAudioEnabled enabled =>
      if enabled && !session.injectedPcm then
        (session, [reportError (text "screen system audio requires an injected-audio runtime")])
      else
        ({ session with desiredSystemAudioEnabled := enabled },
          session.audioTrack.toList.map (applyEnabled · enabled))
  | ScreenPeerSection.applyEnabled track enabled => (session.setEnabled track enabled, [])
  | ScreenPeerSection.setLocalPreviewEnabled enabled =>
      if session.hasLocalSink then
        ({ session with
            desiredLocalPreviewEnabled := enabled
            live := ScreenResource.localSink ::ₘ session.live },
          if enabled && session.callbacks.onLocalVideo then
            match session.videoTrack with
            | some track => [attachPreview track PreviewUser.setting]
            | none => [dropPreview]
          else [clearPreview, dropPreview])
      else ({ session with desiredLocalPreviewEnabled := enabled }, [])
  | ScreenPeerSection.attachPreview track user =>
      if session.preview.binding.map PreviewBinding.track = some track then
        ({ session with previewWish := some track }, afterAttach user)
      else
        ({ session with preview := session.preview.withdraw, previewWish := some track },
          session.oldPreview ++ [addPreview session.preview.withdraw.generation track user])
  | ScreenPeerSection.addPreview generation track user =>
      ({ session with
          sinks := session.sinks + 1
          live := ScreenResource.previewSink ⟨track, session.sinks⟩ ::ₘ session.live },
        [retainPreview generation ⟨track, session.sinks⟩ user])
  | ScreenPeerSection.retainPreview generation binding user =>
      ({ session with preview := session.preview.offer generation binding },
        (if session.preview.Accepts generation then [] else [removePreview binding]) ++
          afterAttach user)
  | ScreenPeerSection.clearPreview => (session.clearLocal, session.oldPreview)
  | ScreenPeerSection.removePreview binding =>
      ({ session with live := session.live.erase (ScreenResource.previewSink binding) }, [])
  | ScreenPeerSection.dropPreview =>
      let dropped := { session with live := session.live.erase ScreenResource.localSink }
      if ScreenResource.localSink ∈ dropped.live then (dropped, [])
      else (dropped.clearLocal, session.oldPreview)
  | ScreenPeerSection.onTrack mid track =>
      if session.started && session.hasRemoteSinks then
        ({ session with live := ScreenResource.remoteSinks ::ₘ session.live },
          attachTrack mid track)
      else (session, [])
  | ScreenPeerSection.addRemote kind mid track trackId =>
      ({ session with
          sinks := session.sinks + 1
          live := ScreenResource.remoteSink kind ⟨track, session.sinks, mid⟩ ::ₘ session.live },
        [retainRemote kind ⟨track, session.sinks, mid⟩ trackId])
  | ScreenPeerSection.retainRemote kind binding trackId =>
      if session.Duplicate kind binding then
        (session, removeRemote kind binding :: afterRemote kind binding.mid trackId)
      else
        ({ session with remote := session.remote.add binding kind },
          afterRemote kind binding.mid trackId)
  | ScreenPeerSection.clearRemote => ({ session with remote := {} }, removals session.remote)
  | ScreenPeerSection.removeRemote kind binding =>
      ({ session with live := session.live.erase (ScreenResource.remoteSink kind binding) }, [])
  | ScreenPeerSection.dropRemote =>
      let dropped := { session with live := session.live.erase ScreenResource.remoteSinks }
      if ScreenResource.remoteSinks ∈ dropped.live then (dropped, [])
      else ({ dropped with remote := {} }, removals session.remote)
  | ScreenPeerSection.setRemoteAudio mid setting =>
      if session.hasRemoteSinks then
        ({ session with live := ScreenResource.remoteSinks ::ₘ session.live },
          [applyRemoteAudio mid setting])
      else (session, [])
  | ScreenPeerSection.applyRemoteAudio mid setting => (session.setAudio mid setting, [dropRemote])
  | ScreenPeerSection.notify callback =>
      if session.callbacks.has callback then
        ({ session with notified := session.notified ++ [callback] }, [])
      else (session, [])

end ScreenPeerSession

/-! ## The system -/

/-- The calls of the user and of WebRTC. -/
inductive ScreenPeerCall where
  | start
  | close
  | setSharingEnabled (enabled : Bool)
  | setSystemAudioEnabled (enabled : Bool)
  | setLocalPreviewEnabled (enabled : Bool)
  | setRemoteAudio (mid : Bytes) (setting : RemoteAudioSetting)
  | onTrack (mid : Option Bytes) (track : Option (Option ScreenTrackKind × Nat × Bytes))
deriving DecidableEq

/-- The first section of a call. -/
def ScreenPeerCall.body : ScreenPeerCall → ScreenPeerSection
  | start => ScreenPeerSection.start
  | close => ScreenPeerSection.close
  | setSharingEnabled enabled => ScreenPeerSection.setSharingEnabled enabled
  | setSystemAudioEnabled enabled => ScreenPeerSection.setSystemAudioEnabled enabled
  | setLocalPreviewEnabled enabled => ScreenPeerSection.setLocalPreviewEnabled enabled
  | setRemoteAudio mid setting => ScreenPeerSection.setRemoteAudio mid setting
  | onTrack mid track => ScreenPeerSection.onTrack mid track

/-- The session and all running calls. -/
structure ScreenPeerSystem where
  session : ScreenPeerSession
  threads : Pool ScreenPeerSection

/-- What may happen next. -/
inductive ScreenPeerAction where
  | call (call : ScreenPeerCall)
  /-- Thread `index` runs its next section. -/
  | run (index : Nat) (failure : Option Bytes)

namespace ScreenPeerSystem

/-- Do an action, if it is possible. -/
def act (system : ScreenPeerSystem) : ScreenPeerAction → Option ScreenPeerSystem
  | ScreenPeerAction.call call =>
      some { system with threads := system.threads ++ [[call.body]] }
  | ScreenPeerAction.run index failure =>
      match system.threads[index]? with
      | some (head :: rest) =>
          let result := system.session.run failure head
          some { session := result.1, threads := system.threads.set index (result.2 ++ rest) }
      | _ => none

/-- One step of the system. -/
def Step (system next : ScreenPeerSystem) : Prop :=
  ∃ action, system.act action = some next

/-- A new session, of any configuration. -/
def Initial (system : ScreenPeerSystem) : Prop :=
  ∃ config callbacks runtimeReady injectedPcm,
    system =
      { session := ScreenPeerSession.create config callbacks runtimeReady injectedPcm
        threads := [] }

end ScreenPeerSystem

end Client
end Driscord
