import Driscord.Client.Bindings
import Driscord.Client.ScreenSharing
import Driscord.Library.ThreadPool
import Driscord.Library.TransitionSystem

/-!
# Voice settings of the client

Mute, deafen and the settings of single peers are read under `mutex` and applied
to the voice session after the lock is released.  A new session is built from a
copy of the mute setting and published later.  This module models the calls of
the user, the binding messages, the callbacks for remote tracks and the starts,
stops and recoveries of the session, at the granularity of the sections under
`mutex` and the calls into the session.

Volumes are exact numbers, so the rounding of their product is left out, and so
are the statistics, the device selection and the playout of the screen audio.
`remove_peer`, which forgets the settings of a peer, is not modelled.
-/

namespace Driscord
namespace Client

open Library

/-! ## Volumes -/

/-- A volume between 0 and 2. -/
structure Volume where
  value : ℚ
  nonneg : 0 ≤ value
  le_two : value ≤ 2

namespace Volume

/-- The volume of a peer that was never set, and the first master volume. -/
def one : Volume where
  value := 1
  nonneg := by norm_num
  le_two := by norm_num

/-- `clamp_volume`. -/
def clampVolume (volume : ℚ) : Volume where
  value := max 0 (min volume 2)
  nonneg := le_max_left _ _
  le_two := max_le (by norm_num) (min_le_right _ _)

/-- `set_remote_track_volume` accepts the product of two volumes. -/
theorem mul_mem (first second : Volume) :
    0 ≤ first.value * second.value ∧ first.value * second.value ≤ 10 := by
  constructor
  · exact mul_nonneg first.nonneg second.nonneg
  · have hmul : first.value * second.value ≤ 2 * 2 :=
      mul_le_mul first.le_two second.le_two second.nonneg (by norm_num)
    linarith

end Volume

/-! ## The media session -/

/-- A remote audio track. -/
structure RemoteTrack where
  enabled : Bool
  volume : ℚ
deriving Repr

/-- `GoogleWebRtcVoiceSession`, as far as the client controls it. -/
structure VoiceSession where
  microphoneEnabled : Bool
  remoteTracks : Table Bytes RemoteTrack := ∅

namespace VoiceSession

/-- `set_remote_track_enabled`. -/
def setRemoteTrackEnabled (session : VoiceSession) (mid : Bytes) (enabled : Bool) :
    VoiceSession :=
  { session with
    remoteTracks := Table.modify mid ({ · with enabled := enabled }) session.remoteTracks }

/-- `set_remote_track_volume`. -/
def setRemoteTrackVolume (session : VoiceSession) (mid : Bytes) (volume : ℚ) : VoiceSession :=
  if volume < 0 ∨ 10 < volume then session
  else
    { session with
      remoteTracks := Table.modify mid ({ · with volume := volume }) session.remoteTracks }

/-- The library reports a remote track; a track that is known stays as it is. -/
def addRemoteTrack (session : VoiceSession) (mid : Bytes) (track : RemoteTrack) : VoiceSession :=
  if mid ∈ session.remoteTracks then session
  else { session with remoteTracks := session.remoteTracks.insert mid track }

end VoiceSession

/-! ## The client -/

/-- The state that the sections share.  A session is named by its position in
`sessions`. -/
structure VoiceClient where
  voiceRequested : Bool := false
  voiceMuted : Bool := false
  voiceDeafened : Bool := false
  voiceSession : Option SessionId := none
  voiceBindings : Table Bytes PeerId := ∅
  voicePeerVolumes : Table PeerId Volume := ∅
  voicePeerMuted : Table PeerId Bool := ∅
  masterVolume : Volume := Volume.one
  voiceLifecycleMutex : Option Nat := none
  recovering : Bool := false
  connected : Bool := false
  sessions : List VoiceSession := []

/-- The sections of the calls. -/
inductive VoiceSection where
  /-- The beginning of `start_voice`. -/
  | requestVoice
  /-- The beginning of `stop_voice`. -/
  | forgetVoice
  /-- `start_voice_if_requested`: take `voice_lifecycle_mutex`, look at the state. -/
  | checkVoice
  /-- Make a session with this microphone setting and start it. -/
  | startSession (microphoneEnabled : Bool)
  /-- Keep the new session, unless something has changed. -/
  | retainSession (session : SessionId)
  /-- The end of `start_voice_if_requested` and of `stop_voice_session`. -/
  | releaseVoice
  /-- `stop_voice_session`: take `voice_lifecycle_mutex`, clear the state. -/
  | clearVoice
  | setMuted (muted : Bool)
  | setDeafened (deafened : Bool)
  | setMasterVolume (volume : ℚ)
  | setPeerVolume (peer : PeerId) (volume : ℚ)
  | setPeerMuted (peer : PeerId) (muted : Bool)
  /-- `apply_binding` for the voice connection. -/
  | bindTrack (mid : Bytes) (peerId : Option PeerId)
  /-- The callback `on_remote_track`. -/
  | onRemoteTrack (mid : Bytes)
  /-- `set_microphone_enabled`. -/
  | enableMicrophone (session : SessionId) (enabled : Bool)
  /-- `set_remote_track_enabled`. -/
  | enableTrack (session : SessionId) (mid : Bytes) (enabled : Bool)
  /-- `set_remote_track_volume`. -/
  | scaleTrack (session : SessionId) (mid : Bytes) (volume : ℚ)
  /-- The beginning of `recover_voice_session`. -/
  | checkToken (token : SessionId)
  /-- The recovery worker goes back to its queue. -/
  | endTask
deriving DecidableEq, Repr

/-- `VoiceTrackUpdate`. -/
structure VoiceTrackUpdate where
  session : SessionId
  mid : Bytes
  enabled : Bool
  volume : Option ℚ

/-- `apply`: the calls of an update. -/
def VoiceTrackUpdate.calls (update : VoiceTrackUpdate) : List VoiceSection :=
  VoiceSection.enableTrack update.session update.mid update.enabled ::
    (update.volume.map (VoiceSection.scaleTrack update.session update.mid)).toList

namespace VoiceClient

/-- `peer_muted`. -/
def peerMuted (client : VoiceClient) (peer : PeerId) : Bool :=
  (client.voicePeerMuted.lookup peer).getD false

/-- `peer_volume`. -/
def peerVolume (client : VoiceClient) (peer : PeerId) : Volume :=
  (client.voicePeerVolumes.lookup peer).getD Volume.one

/-- `voice_update_locked`. -/
def voiceUpdate (client : VoiceClient) (mid : Bytes) : Option VoiceTrackUpdate :=
  client.voiceSession.map fun session =>
    match client.voiceBindings.lookup mid with
    | none => { session, mid, enabled := false, volume := none }
    | some peer =>
        { session, mid
          enabled := !client.voiceDeafened && !client.peerMuted peer
          volume := some (client.masterVolume.value * (client.peerVolume peer).value) }

/-- `all_voice_updates_locked`. -/
def allVoiceUpdates (client : VoiceClient) : List VoiceTrackUpdate :=
  client.voiceBindings.keys.filterMap client.voiceUpdate

/-- The calls of all updates. -/
def allCalls (client : VoiceClient) : List VoiceSection :=
  client.allVoiceUpdates.flatMap VoiceTrackUpdate.calls

/-- Change a session. -/
def inSession (client : VoiceClient) (session : SessionId) (f : VoiceSession → VoiceSession) :
    VoiceClient :=
  { client with sessions := client.sessions.modify session f }

/-- The final check of `start_voice_if_requested`. -/
def retains (client : VoiceClient) : Bool :=
  client.voiceRequested && client.voiceSession.isNone && client.connected

/-- Run a section of thread `self`: the new state and the sections called for.
`succeeds` is the outcome of `next->start()`.  The result is `none` while the lock
is taken. -/
def run (client : VoiceClient) (self : Nat) (succeeds : Bool) :
    VoiceSection → Option (VoiceClient × List VoiceSection)
  | VoiceSection.requestVoice => some ({ client with voiceRequested := true }, [])
  | VoiceSection.forgetVoice => some ({ client with voiceRequested := false }, [])
  | VoiceSection.checkVoice =>
      if client.voiceLifecycleMutex = none then
        if !client.voiceRequested || client.voiceSession.isSome || !client.connected then
          some (client, [])
        else
          some ({ client with voiceLifecycleMutex := some self },
            [VoiceSection.startSession !client.voiceMuted])
      else none
  | VoiceSection.startSession microphoneEnabled =>
      if succeeds then
        some ({ client with
            sessions := client.sessions ++ [{ microphoneEnabled := microphoneEnabled }] },
          [VoiceSection.retainSession client.sessions.length])
      else some (client, [VoiceSection.releaseVoice])
  | VoiceSection.retainSession session =>
      if client.retains then
        let published := { client with voiceSession := some session }
        some (published, published.allCalls ++ [VoiceSection.releaseVoice])
      else some (client, [VoiceSection.releaseVoice])
  | VoiceSection.releaseVoice => some ({ client with voiceLifecycleMutex := none }, [])
  | VoiceSection.clearVoice =>
      if client.voiceLifecycleMutex = none then
        some ({ client with
            voiceLifecycleMutex := some self
            voiceSession := none
            voiceBindings := ∅ },
          [VoiceSection.releaseVoice])
      else none
  | VoiceSection.setMuted muted =>
      some ({ client with voiceMuted := muted },
        (client.voiceSession.map fun session =>
          VoiceSection.enableMicrophone session !muted).toList)
  | VoiceSection.setDeafened deafened =>
      let changed := { client with voiceDeafened := deafened }
      some (changed, changed.allCalls)
  | VoiceSection.setMasterVolume volume =>
      let changed := { client with masterVolume := Volume.clampVolume volume }
      some (changed, changed.allCalls)
  | VoiceSection.setPeerVolume peer volume =>
      let changed := { client with
        voicePeerVolumes := client.voicePeerVolumes.insert peer (Volume.clampVolume volume) }
      some (changed, changed.allCalls)
  | VoiceSection.setPeerMuted peer muted =>
      let changed := { client with voicePeerMuted := client.voicePeerMuted.insert peer muted }
      some (changed, changed.allCalls)
  | VoiceSection.bindTrack mid peerId =>
      let changed := { client with
        voiceBindings := applyBinding client.voiceBindings mid peerId }
      some (changed, ((changed.voiceUpdate mid).map VoiceTrackUpdate.calls).getD [])
  | VoiceSection.onRemoteTrack mid =>
      some (client, ((client.voiceUpdate mid).map VoiceTrackUpdate.calls).getD [])
  | VoiceSection.enableMicrophone session enabled =>
      some (client.inSession session ({ · with microphoneEnabled := enabled }), [])
  | VoiceSection.enableTrack session mid enabled =>
      some (client.inSession session (·.setRemoteTrackEnabled mid enabled), [])
  | VoiceSection.scaleTrack session mid volume =>
      some (client.inSession session (·.setRemoteTrackVolume mid volume), [])
  | VoiceSection.checkToken token =>
      if !client.voiceRequested || client.voiceSession ≠ some token || !client.connected then
        some (client, [])
      else some (client, [VoiceSection.clearVoice, VoiceSection.checkVoice])
  | VoiceSection.endTask => some ({ client with recovering := false }, [])

end VoiceClient

/-- The calls of the user. -/
inductive VoiceCall where
  | startVoice
  | stopVoice
  | setMuted (muted : Bool)
  | setDeafened (deafened : Bool)
  | setMasterVolume (volume : ℚ)
  | setPeerVolume (peer : PeerId) (volume : ℚ)
  | setPeerMuted (peer : PeerId) (muted : Bool)

/-- The sections of a call. -/
def VoiceCall.sections : VoiceCall → List VoiceSection
  | startVoice => [VoiceSection.requestVoice, VoiceSection.checkVoice]
  | stopVoice => [VoiceSection.forgetVoice, VoiceSection.clearVoice]
  | setMuted muted => [VoiceSection.setMuted muted]
  | setDeafened deafened => [VoiceSection.setDeafened deafened]
  | setMasterVolume volume => [VoiceSection.setMasterVolume volume]
  | setPeerVolume peer volume => [VoiceSection.setPeerVolume peer volume]
  | setPeerMuted peer muted => [VoiceSection.setPeerMuted peer muted]

/-- The client with the calls in progress. -/
structure VoiceSystem where
  client : VoiceClient := {}
  threads : Pool VoiceSection := []

/-- What may happen next. -/
inductive VoiceAction where
  | call (call : VoiceCall)
  /-- A binding message for the voice connection. -/
  | binding (mid : Bytes) (peerId : Option PeerId)
  /-- The library reports a remote track of a session, in whatever state. -/
  | remoteTrack (session : SessionId) (mid : Bytes) (track : RemoteTrack)
  /-- The worker takes the task of a failed session. -/
  | recover (token : SessionId)
  | loseConnection
  | regainConnection
  /-- Thread `index` runs its next section. -/
  | run (index : Nat) (succeeds : Bool)

namespace VoiceSystem

/-- Begin a thread. -/
def spawn (system : VoiceSystem) (thread : List VoiceSection) : VoiceSystem :=
  { system with threads := system.threads ++ [thread] }

/-- Do an action, if it is possible. -/
def act (system : VoiceSystem) : VoiceAction → Option VoiceSystem
  | VoiceAction.call call => some (system.spawn call.sections)
  | VoiceAction.binding mid peerId => some (system.spawn [VoiceSection.bindTrack mid peerId])
  | VoiceAction.remoteTrack session mid track =>
      some { system.spawn [VoiceSection.onRemoteTrack mid] with
        client := system.client.inSession session (·.addRemoteTrack mid track) }
  | VoiceAction.recover token =>
      if system.client.recovering then none
      else
        some { system.spawn [VoiceSection.checkToken token, VoiceSection.endTask] with
          client := { system.client with recovering := true } }
  | VoiceAction.loseConnection =>
      if system.client.connected then
        some { system.spawn [VoiceSection.clearVoice] with
          client := { system.client with connected := false } }
      else none
  | VoiceAction.regainConnection =>
      if system.client.connected then none
      else
        some { system.spawn [VoiceSection.checkVoice] with
          client := { system.client with connected := true } }
  | VoiceAction.run index succeeds =>
      match system.threads[index]? with
      | some (head :: rest) =>
          (system.client.run index succeeds head).map fun result =>
            { client := result.1
              threads := system.threads.set index (result.2 ++ rest) }
      | _ => none

/-- One step of any interleaving. -/
def Step (system next : VoiceSystem) : Prop :=
  ∃ action, system.act action = some next

end VoiceSystem

end Client
end Driscord
