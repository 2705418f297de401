import Driscord.Bytes
import Driscord.Library.ThreadPool
import Driscord.Library.TransitionSystem

/-!
# Screen sharing of the client

`GoogleWebRtcClient` shares the screen from user calls, from the transport's
connection events and from a recovery worker, all of which may run at once.
This module models each of them at the granularity of its sections under
`mutex` and its calls into the session and the transport.  `sharing_mutex` and
`screen_lifecycle_mutex` are held across several sections; a section that waits
for one of them cannot run while another thread holds it.

What decides nothing about sharing is left out: the watched peers, the remote
tracks, the volumes, the audio capture and the local preview.

The signaling channel of the current connection is a queue of streaming
messages, and `listed` says whether the server has this session in
`streaming_peers`.
-/

namespace Driscord
namespace Client

open Library

/-- The session's identity; `screen_session_token` is made with it, set with it
and reset with it. -/
abbrev SessionId := Nat

/-- `driscord::media::DesktopCaptureKind`. -/
inductive DesktopCaptureKind where
  | screen
  | window
deriving DecidableEq, Repr

/-- `SharingRequest`, with its `CaptureSelection`. -/
structure SharingRequest where
  kind : DesktopCaptureKind
  id : Int
  maxWidth : Int := 0
  maxHeight : Int := 0
  fps : Int := 0
  shareAudio : Bool := false
  audioTarget : Bytes := []
deriving DecidableEq, Repr

/-- The streaming messages of the client. -/
inductive StreamingMessage where
  | streamingStart
  | streamingStop
deriving DecidableEq, Repr

/-- The state that the sections share. -/
structure ScreenClient where
  screenRequested : Bool := false
  sharingActive : Bool := false
  sharingRequest : Option SharingRequest := none
  screenSession : Option SessionId := none
  nextSession : SessionId := 0
  sharingMutex : Option Nat := none
  screenLifecycleMutex : Option Nat := none
  /-- The recovery worker runs a task. -/
  recovering : Bool := false
  connected : Bool := false
  /-- The streaming messages on their way to the server. -/
  channel : List StreamingMessage := []
  /-- The server lists the session of this connection in `streaming_peers`. -/
  listed : Bool := false
deriving DecidableEq, Repr

/-- Who called `apply_sharing`. -/
inductive Origin where
  | startSharing
  | recovery
deriving DecidableEq, Repr

/-- The sections of the calls. -/
inductive ScreenSection where
  /-- `apply_sharing`: take `sharing_mutex`, look at the state. -/
  | checkSharing (origin : Origin) (request : SharingRequest)
  /-- Start the desktop capture and the audio capture. -/
  | startCapture (origin : Origin) (request : SharingRequest) (session : SessionId)
  /-- Set `sharing_active`, unless something has changed. -/
  | commitSharing (origin : Origin) (request : SharingRequest) (session : SessionId)
  /-- `send_streaming_start`, and return true. -/
  | announceStart (origin : Origin) (request : SharingRequest)
  /-- The end of `start_sharing`. -/
  | recordRequest (request : SharingRequest)
  /-- The end of `recover_screen_session` when sharing could not be resumed. -/
  | dropRequest
  /-- `stop_sharing`: take `sharing_mutex`, clear the state. -/
  | clearSharing
  /-- Stop the captures, `send_streaming_stop` if sharing was active. -/
  | announceStop (wasSharing : Bool)
  /-- The beginning of `init_screen`. -/
  | requestScreen
  /-- The beginning of `deinit_screen`. -/
  | forgetScreen
  /-- `stop_screen_session`: take both locks, clear the state. -/
  | clearSession
  /-- Close the old session. -/
  | closeSession
  /-- `start_screen_if_requested`: take `screen_lifecycle_mutex`, look at the state. -/
  | checkScreen
  /-- `next->start()`. -/
  | startSession
  /-- Keep the new session, unless something has changed. -/
  | retainSession
  /-- The beginning of `recover_screen_session`. -/
  | snapshotSharing (token : SessionId)
  /-- `send_streaming_stop` of `recover_screen_session`. -/
  | retractSharing
  /-- The recovery worker goes back to its queue. -/
  | endTask
deriving DecidableEq, Repr

/-- What counts for the promises made to the user. -/
inductive SharingEvent where
  /-- A `start_sharing` call returned true. -/
  | startReturned
  /-- A `stop_sharing` or `deinit_screen` call was begun. -/
  | stopBegun
deriving DecidableEq, Repr

/-- The calls of the user. -/
inductive ScreenCall where
  /-- `none` when `parse_capture_selection` fails. -/
  | startSharing (request : Option SharingRequest)
  | stopSharing
  | initScreen
  | deinitScreen
deriving DecidableEq, Repr

/-- The sections of a call. -/
def ScreenCall.sections : ScreenCall → List ScreenSection
  | startSharing none => []
  | startSharing (some request) => [ScreenSection.checkSharing Origin.startSharing request]
  | stopSharing => [ScreenSection.clearSharing]
  | initScreen => [ScreenSection.requestScreen, ScreenSection.checkScreen]
  | deinitScreen =>
      [ScreenSection.forgetScreen, ScreenSection.clearSharing, ScreenSection.clearSession]

/-- The event of beginning a call. -/
def ScreenCall.events : ScreenCall → List SharingEvent
  | stopSharing | deinitScreen => [SharingEvent.stopBegun]
  | _ => []

/-- The event of running a section. -/
def ScreenSection.events : ScreenSection → List SharingEvent
  | recordRequest _ => [SharingEvent.startReturned]
  | _ => []

/-- What follows when `apply_sharing` returns false. -/
def Origin.failed : Origin → List ScreenSection
  | startSharing => []
  | recovery => [ScreenSection.dropRequest]

/-- What follows when `apply_sharing` returns true. -/
def Origin.succeeded (request : SharingRequest) : Origin → List ScreenSection
  | startSharing => [ScreenSection.recordRequest request]
  | recovery => []

namespace ScreenClient

/-- `send_signal`: nothing is sent while disconnected. -/
def send (client : ScreenClient) (message : StreamingMessage) : ScreenClient :=
  if client.connected then { client with channel := client.channel ++ [message] } else client

/-- The server has heard, or will hear, that this session streams. -/
def told (client : ScreenClient) : Bool :=
  match client.channel.getLast? with
  | none => client.listed
  | some message => decide (message = StreamingMessage.streamingStart)

/-- The final check of `apply_sharing`. -/
def commits (client : ScreenClient) (session : SessionId) : Bool :=
  client.screenRequested && !client.sharingActive && decide (client.screenSession = some session)

/-- Run a section of thread `self`: the new state and the sections called for.
`succeeds` is the outcome of a call into the media session.  The result is
`none` while a lock is taken. -/
def run (client : ScreenClient) (self : Nat) (succeeds : Bool) :
    ScreenSection → Option (ScreenClient × List ScreenSection)
  | ScreenSection.checkSharing origin request =>
      if client.sharingMutex = none then
        match client.screenSession with
        | none => some (client, origin.failed)
        | some session =>
            if client.sharingActive || !client.screenRequested then some (client, origin.failed)
            else
              some ({ client with sharingMutex := some self },
                [ScreenSection.startCapture origin request session])
      else none
  | ScreenSection.startCapture origin request session =>
      if succeeds then some (client, [ScreenSection.commitSharing origin request session])
      else some ({ client with sharingMutex := none }, origin.failed)
  | ScreenSection.commitSharing origin request session =>
      if client.commits session then
        some ({ client with sharingActive := true },
          [ScreenSection.announceStart origin request])
      else some ({ client with sharingMutex := none }, origin.failed)
  | ScreenSection.announceStart origin request =>
      some ({ client.send StreamingMessage.streamingStart with sharingMutex := none },
        origin.succeeded request)
  | ScreenSection.recordRequest request =>
      some ({ client with sharingRequest := some request }, [])
  | ScreenSection.dropRequest => some ({ client with sharingRequest := none }, [])
  | ScreenSection.clearSharing =>
      if client.sharingMutex = none then
        some ({ client with
            sharingMutex := some self
            sharingActive := false
            sharingRequest := none },
          [ScreenSection.announceStop client.sharingActive])
      else none
  | ScreenSection.announceStop wasSharing =>
      some ({ (if wasSharing then client.send StreamingMessage.streamingStop else client) with
          sharingMutex := none }, [])
  | ScreenSection.requestScreen => some ({ client with screenRequested := true }, [])
  | ScreenSection.forgetScreen => some ({ client with screenRequested := false }, [])
  | ScreenSection.clearSession =>
      if client.screenLifecycleMutex = none ∧ client.sharingMutex = none then
        some ({ client with
            screenLifecycleMutex := some self
            sharingMutex := some self
            screenSession := none
            sharingActive := false },
          [ScreenSection.closeSession])
      else none
  | ScreenSection.closeSession =>
      some ({ client with
        screenLifecycleMutex := none
        sharingMutex := none }, [])
  | ScreenSection.checkScreen =>
      if client.screenLifecycleMutex = none then
        if !client.screenRequested || client.screenSession.isSome || !client.connected then
          some (client, [])
        else
          some ({ client with screenLifecycleMutex := some self }, [ScreenSection.startSession])
      else none
  | ScreenSection.startSession =>
      if succeeds then some (client, [ScreenSection.retainSession])
      else some ({ client with screenLifecycleMutex := none }, [])
  | ScreenSection.retainSession =>
      if client.screenRequested && client.screenSession.isNone && client.connected then
        some ({ client with
            screenSession := some client.nextSession
            nextSession := client.nextSession + 1
            screenLifecycleMutex := none }, [])
      else some ({ client with screenLifecycleMutex := none }, [])
  | ScreenSection.snapshotSharing token =>
      if !client.screenRequested || client.screenSession ≠ some token || !client.connected then
        some (client, [])
      else
        some (client,
          (if client.sharingActive then [ScreenSection.retractSharing] else []) ++
            [ScreenSection.clearSession, ScreenSection.checkScreen] ++
              if client.sharingActive then
                client.sharingRequest.toList.map
                  (ScreenSection.checkSharing Origin.recovery)
              else [])
  | ScreenSection.retractSharing => some (client.send StreamingMessage.streamingStop, [])
  | ScreenSection.endTask => some ({ client with recovering := false }, [])

/-- What one run of a section can do. -/
inductive Ran (client : ScreenClient) (self : Nat) :
    ScreenSection → ScreenClient → List ScreenSection → Prop
  | sharingRefused (origin request) (hfree : client.sharingMutex = none) :
      Ran client self (ScreenSection.checkSharing origin request) client origin.failed
  | sharingChecked (origin request session) (hfree : client.sharingMutex = none)
      (hsession : client.screenSession = some session) (hidle : client.sharingActive = false) :
      Ran client self (ScreenSection.checkSharing origin request)
        { client with sharingMutex := some self }
        [ScreenSection.startCapture origin request session]
  | captured (origin request session) :
      Ran client self (ScreenSection.startCapture origin request session) client
        [ScreenSection.commitSharing origin request session]
  | captureFailed (origin request session) :
      Ran client self (ScreenSection.startCapture origin request session)
        { client with sharingMutex := none } origin.failed
  | committed (origin request session) (hcommits : client.commits session = true) :
      Ran client self (ScreenSection.commitSharing origin request session)
        { client with sharingActive := true } [ScreenSection.announceStart origin request]
  | notRetained (origin request session) :
      Ran client self (ScreenSection.commitSharing origin request session)
        { client with sharingMutex := none } origin.failed
  | startAnnounced (origin request) :
      Ran client self (ScreenSection.announceStart origin request)
        { client.send StreamingMessage.streamingStart with sharingMutex := none }
        (origin.succeeded request)
  | requestRecorded (request) :
      Ran client self (ScreenSection.recordRequest request)
        { client with sharingRequest := some request } []
  | requestDropped :
      Ran client self ScreenSection.dropRequest { client with sharingRequest := none } []
  | sharingCleared (hfree : client.sharingMutex = none) :
      Ran client self ScreenSection.clearSharing
        { client with
          sharingMutex := some self
          sharingActive := false
          sharingRequest := none }
        [ScreenSection.announceStop client.sharingActive]
  | stopAnnounced (wasSharing) :
      Ran client self (ScreenSection.announceStop wasSharing)
        { (if wasSharing then client.send StreamingMessage.streamingStop else client) with
          sharingMutex := none } []
  | screenRequested :
      Ran client self ScreenSection.requestScreen { client with screenRequested := true } []
  | screenForgotten :
      Ran client self ScreenSection.forgetScreen { client with screenRequested := false } []
  | sessionCleared (hfree : client.sharingMutex = none) :
      Ran client self ScreenSection.clearSession
        { client with
          screenLifecycleMutex := some self
          sharingMutex := some self
          screenSession := none
          sharingActive := false }
        [ScreenSection.closeSession]
  | sessionClosed :
      Ran client self ScreenSection.closeSession
        { client with
          screenLifecycleMutex := none
          sharingMutex := none } []
  | screenRefused : Ran client self ScreenSection.checkScreen client []
  | screenChecked :
      Ran client self ScreenSection.checkScreen { client with screenLifecycleMutex := some self }
        [ScreenSection.startSession]
  | sessionStarted : Ran client self ScreenSection.startSession client [ScreenSection.retainSession]
  | sessionFailed :
      Ran client self ScreenSection.startSession { client with screenLifecycleMutex := none } []
  | sessionRetained (hconnected : client.connected = true) :
      Ran client self ScreenSection.retainSession
        { client with
          screenSession := some client.nextSession
          nextSession := client.nextSession + 1
          screenLifecycleMutex := none } []
  | sessionDropped :
      Ran client self ScreenSection.retainSession { client with screenLifecycleMutex := none } []
  | recoveryRefused (token) : Ran client self (ScreenSection.snapshotSharing token) client []
  | recoveryBegun (token) :
      Ran client self (ScreenSection.snapshotSharing token) client
        ((if client.sharingActive then [ScreenSection.retractSharing] else []) ++
          [ScreenSection.clearSession, ScreenSection.checkScreen] ++
            if client.sharingActive then
              client.sharingRequest.toList.map (ScreenSection.checkSharing Origin.recovery)
            else [])
  | sharingRetracted :
      Ran client self ScreenSection.retractSharing (client.send StreamingMessage.streamingStop) []
  | taskEnded : Ran client self ScreenSection.endTask { client with recovering := false } []

theorem ran_of_run {client client' : ScreenClient} {self : Nat} {succeeds : Bool}
    {head : ScreenSection} {pushed : List ScreenSection}
    (h : client.run self succeeds head = some (client', pushed)) :
    Ran client self head client' pushed := by
  cases head <;> simp only [run] at h <;> grind [Ran]

end ScreenClient

/-- The client with the calls in progress and the history of its promises. -/
structure ScreenSystem where
  client : ScreenClient := {}
  threads : Pool ScreenSection := []
  history : List SharingEvent := []
deriving DecidableEq, Repr

/-- What may happen next. -/
inductive ScreenAction where
  | call (call : ScreenCall)
  /-- The worker takes the task of a failed session. -/
  | recover (token : SessionId)
  | loseConnection
  | regainConnection
  /-- The server handles the oldest message. -/
  | deliver
  /-- Thread `index` runs its next section. -/
  | run (index : Nat) (succeeds : Bool)
deriving DecidableEq, Repr

namespace ScreenSystem

/-- Begin a thread. -/
def spawn (system : ScreenSystem) (thread : List ScreenSection) : ScreenSystem :=
  { system with threads := system.threads ++ [thread] }

/-- Do an action, if it is possible.  A lost connection ends the server's
session, and the handlers of `on_signaling_state` are threads of their own. -/
def act (system : ScreenSystem) : ScreenAction → Option ScreenSystem
  | ScreenAction.call call =>
      some { system.spawn call.sections with history := system.history ++ call.events }
  | ScreenAction.recover token =>
      if system.client.recovering then none
      else
        some { system.spawn [ScreenSection.snapshotSharing token, ScreenSection.endTask] with
          client := { system.client with recovering := true } }
  | ScreenAction.loseConnection =>
      if system.client.connected then
        some { system.spawn [ScreenSection.clearSession] with
          client := { system.client with connected := false, channel := [], listed := false } }
      else none
  | ScreenAction.regainConnection =>
      if system.client.connected then none
      else
        some { system.spawn [ScreenSection.checkScreen] with
          client := { system.client with connected := true, channel := [], listed := false } }
  | ScreenAction.deliver =>
      match system.client.channel with
      | [] => none
      | message :: channel =>
          some { system with
            client := { system.client with
              channel := channel
              listed := decide (message = StreamingMessage.streamingStart) } }
  | ScreenAction.run index succeeds =>
      match system.threads[index]? with
      | some (head :: rest) =>
          (system.client.run index succeeds head).map fun result =>
            { client := result.1
              threads := system.threads.set index (result.2 ++ rest)
              history := system.history ++ head.events }
      | _ => none

/-- One step of any interleaving. -/
def Step (system next : ScreenSystem) : Prop :=
  ∃ action, system.act action = some next

end ScreenSystem

end Client
end Driscord
