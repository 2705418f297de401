import Driscord.Client.Transport
import Driscord.Library.TransitionSystem

/-!
# The connection state of the application

`AppState` joins and leaves voice channels on the UI thread.  `DriscordBridge` turns
the events of the transport into signals that are queued for that thread, and starts
and stops the voice on a pool with one thread.

The events of the transport are single steps here.  A queued signal carries no
connection: `wsDisconnected` says that some connection is over, not which.

What decides nothing about the connection is left out: the profile, the servers, the
users, the usernames of the peers, the streams and the statistics.
-/

namespace Driscord
namespace Client

open Library Signaling

/-- `m_connectionState`. -/
inductive ConnectionState where
  | disconnected
  | connecting
  | connected
deriving DecidableEq, Repr

/-- The signals of `DriscordBridge` that are queued for the UI thread. -/
inductive BridgeSignal where
  | wsConnected
  | wsDisconnected
  | peerJoined (id : PeerId)
  | peerLeft (id : PeerId)
deriving DecidableEq, Repr

/-- The tasks of `m_audioPool`. -/
inductive AudioTask where
  | start (generation : Nat)
  | stop
deriving DecidableEq, Repr

/-- `DriscordBridge`, with the core it owns. -/
structure DriscordBridge where
  transport : Transport := {}
  /-- The sockets made so far. -/
  sockets : Nat := 0
  /-- The socket of the latest `connect`, if it could be made. -/
  latestConnect : Option SocketId := none
  /-- The sockets that have reported their opening. -/
  opened : Finset SocketId := ∅
  /-- The sockets that have reported an error or their end. -/
  failed : Finset SocketId := ∅
  /-- The sockets whose notify-once flag is set. -/
  notified : Finset SocketId := ∅
  /-- The queued signals. -/
  events : List BridgeSignal := []
  audioGeneration : Nat := 0
  audioPool : List AudioTask := []
  voiceStarted : Bool := false
  screenRequested : Bool := false

namespace DriscordBridge

/-- `QMetaObject::invokeMethod` with a queued connection. -/
def post (bridge : DriscordBridge) (signal : BridgeSignal) : DriscordBridge :=
  { bridge with events := bridge.events ++ [signal] }

/-- The transport without a socket. -/
def released (bridge : DriscordBridge) : DriscordBridge :=
  { bridge with transport := {} }

/-- `Transport::disconnect`. -/
def disconnect (bridge : DriscordBridge) : DriscordBridge :=
  if bridge.transport.wsConnected then bridge.released.post BridgeSignal.wsDisconnected
  else bridge.released

/-- `Transport::connect`; `created` is whether the socket could be made. -/
def connect (bridge : DriscordBridge) (created : Bool) : DriscordBridge :=
  let closed := bridge.disconnect
  if created then
    { closed with
      transport := { closed.transport with ws := some closed.sockets }
      sockets := closed.sockets + 1
      latestConnect := some closed.sockets }
  else { closed with latestConnect := none }

/-- `notify_disconnected`. -/
def notifyDisconnected (bridge : DriscordBridge) (socket : SocketId) : DriscordBridge :=
  if socket ∈ bridge.notified then bridge
  else
    post { bridge with
      notified := insert socket bridge.notified
      transport := { bridge.transport with peers := ∅, peerUsernames := ∅ } }
      BridgeSignal.wsDisconnected

/-- `onOpen`. -/
def onOpen (bridge : DriscordBridge) (socket : SocketId) : DriscordBridge :=
  let heard := { bridge with opened := insert socket bridge.opened }
  if bridge.transport.ws = some socket then
    post { heard with transport := { heard.transport with wsConnected := true } }
      BridgeSignal.wsConnected
  else heard

/-- `onClosed`. -/
def onClosed (bridge : DriscordBridge) (socket : SocketId) : DriscordBridge :=
  let heard := { bridge with failed := insert socket bridge.failed }
  if bridge.transport.ws = some socket then
    notifyDisconnected { heard with
      transport := { heard.transport with
        ws := none
        wsConnected := false
        localId := ⟨[]⟩ } } socket
  else heard

/-- `onError`. -/
def onError (bridge : DriscordBridge) (socket : SocketId) : DriscordBridge :=
  let heard := { bridge with failed := insert socket bridge.failed }
  if bridge.transport.ws = some socket then
    notifyDisconnected { heard with
      transport := { heard.transport with
        wsConnected := false
        localId := ⟨[]⟩ } } socket
  else heard

/-- The signal of an update. -/
def signalOf : TransportUpdate → Option BridgeSignal
  | TransportUpdate.notify (PeerEvent.peerJoined id) => some (BridgeSignal.peerJoined id)
  | TransportUpdate.notify (PeerEvent.peerLeft id) => some (BridgeSignal.peerLeft id)
  | _ => none

/-- `onMessage`. -/
def onMessage (bridge : DriscordBridge) (socket : SocketId) (raw : Option Json) :
    DriscordBridge :=
  if bridge.transport.ws = some socket then
    { bridge with
      transport := (onWsMessage raw).foldl Transport.update bridge.transport
      events := bridge.events ++ (onWsMessage raw).filterMap signalOf }
  else bridge

/-- `audioStart`. -/
def audioStart (bridge : DriscordBridge) : DriscordBridge :=
  { bridge with
    audioGeneration := bridge.audioGeneration + 1
    audioPool := bridge.audioPool ++ [AudioTask.start (bridge.audioGeneration + 1)] }

/-- `audioStop`. -/
def audioStop (bridge : DriscordBridge) : DriscordBridge :=
  { bridge with
    audioGeneration := bridge.audioGeneration + 1
    audioPool := bridge.audioPool ++ [AudioTask.stop] }

/-- What a task of the pool does to the voice. -/
def runTask (generation : Nat) (voiceStarted : Bool) : AudioTask → Bool
  | AudioTask.start started => if started = generation then true else voiceStarted
  | AudioTask.stop => false

/-- `initScreenSession`. -/
def initScreenSession (bridge : DriscordBridge) : DriscordBridge :=
  { bridge with screenRequested := true }

/-- `deinitScreenSession`. -/
def deinitScreenSession (bridge : DriscordBridge) : DriscordBridge :=
  { bridge with screenRequested := false }

end DriscordBridge

/-- An entry of `m_channels`. -/
structure Channel where
  id : Int
  voice : Bool
deriving DecidableEq, Repr

/-- `AppState`. -/
structure AppState where
  bridge : DriscordBridge := {}
  loggedIn : Bool := false
  connectionState : ConnectionState := ConnectionState.disconnected
  selectedServerId : Int := -1
  selectedChannelId : Int := -1
  channels : List Channel := []
  peers : List PeerId := []

namespace AppState

/-- `leaveVoiceChannel`. -/
def leaveVoiceChannel (app : AppState) : AppState :=
  { app with
    bridge := app.bridge.audioStop.deinitScreenSession.disconnect
    connectionState := ConnectionState.disconnected
    peers := [] }

/-- `leaveVoiceChannel`, unless it has been left already. -/
def leaveIfActive (app : AppState) : AppState :=
  if app.connectionState = ConnectionState.disconnected then app else app.leaveVoiceChannel

/-- `joinVoiceChannel`. -/
def joinVoiceChannel (app : AppState) (channelId : Int) (created : Bool) : AppState :=
  if ⟨channelId, true⟩ ∈ app.channels then
    let left := app.leaveIfActive
    { left with
      bridge := (left.bridge.initScreenSession.connect created).audioStart
      selectedChannelId := channelId
      connectionState := ConnectionState.connecting }
  else app

/-- `selectServer`. -/
def selectServer (app : AppState) (id : Int) : AppState :=
  let left := if id = app.selectedServerId then app else app.leaveIfActive
  { left with
    selectedServerId := id
    selectedChannelId := -1
    channels := [] }

/-- `authChanged` after a logout. -/
def logout (app : AppState) : AppState :=
  { app.leaveVoiceChannel with
    loggedIn := false
    channels := []
    selectedServerId := -1
    selectedChannelId := -1 }

/-- The slot of `wsConnected`. -/
def onWsConnected (app : AppState) : AppState :=
  if !app.loggedIn || app.selectedChannelId < 0 then
    { app with bridge := app.bridge.disconnect }
  else { app with connectionState := ConnectionState.connected }

/-- The slot of `wsDisconnected`. -/
def onWsDisconnected (app : AppState) : AppState :=
  { app with
    bridge :=
      if app.connectionState = ConnectionState.disconnected then app.bridge
      else app.bridge.audioStop.deinitScreenSession
    connectionState := ConnectionState.disconnected
    peers := [] }

/-- The peers after a signal. -/
def showSignal (peers : List PeerId) : BridgeSignal → List PeerId
  | BridgeSignal.wsConnected => peers
  | BridgeSignal.wsDisconnected => []
  | BridgeSignal.peerJoined id => peers ++ [id]
  | BridgeSignal.peerLeft id => peers.filter (· ≠ id)

/-- A queued signal is delivered. -/
def onSignal (app : AppState) : BridgeSignal → AppState
  | BridgeSignal.wsConnected => app.onWsConnected
  | BridgeSignal.wsDisconnected => app.onWsDisconnected
  | BridgeSignal.peerJoined id =>
      { app with peers := showSignal app.peers (BridgeSignal.peerJoined id) }
  | BridgeSignal.peerLeft id =>
      { app with peers := showSignal app.peers (BridgeSignal.peerLeft id) }

end AppState

/-- The calls of the user, the events of the transport, and the work that is queued. -/
inductive AppAction where
  | login
  | logout
  /-- The answer to `listChannels`. -/
  | channelsListed (serverId : Int) (channels : List Channel)
  | selectServer (id : Int)
  | selectChannel (id : Int)
  | joinVoiceChannel (channelId : Int) (created : Bool)
  | leaveVoiceChannel
  | opened (socket : SocketId)
  | message (socket : SocketId) (raw : Option Json)
  | error (socket : SocketId)
  | closed (socket : SocketId)
  /-- The UI thread delivers the next signal. -/
  | deliver
  /-- The audio pool runs its next task. -/
  | runAudio

namespace AppState

/-- A socket opens once, and not after it has failed; it has messages only while it
is open. -/
def act (app : AppState) : AppAction → Option AppState
  | AppAction.login => some { app with loggedIn := true }
  | AppAction.logout => some app.logout
  | AppAction.channelsListed serverId channels =>
      some (if app.loggedIn ∧ app.selectedServerId = serverId then { app with channels }
        else app)
  | AppAction.selectServer id => some (app.selectServer id)
  | AppAction.selectChannel id => some { app with selectedChannelId := id }
  | AppAction.joinVoiceChannel channelId created =>
      some (app.joinVoiceChannel channelId created)
  | AppAction.leaveVoiceChannel => some app.leaveVoiceChannel
  | AppAction.opened socket =>
      if socket < app.bridge.sockets ∧ socket ∉ app.bridge.opened ∧
          socket ∉ app.bridge.failed then
        some { app with bridge := app.bridge.onOpen socket }
      else none
  | AppAction.message socket raw =>
      if socket ∈ app.bridge.opened ∧ socket ∉ app.bridge.failed then
        some { app with bridge := app.bridge.onMessage socket raw }
      else none
  | AppAction.error socket =>
      if socket < app.bridge.sockets then some { app with bridge := app.bridge.onError socket }
      else none
  | AppAction.closed socket =>
      if socket < app.bridge.sockets then some { app with bridge := app.bridge.onClosed socket }
      else none
  | AppAction.deliver =>
      match app.bridge.events with
      | [] => none
      | signal :: events =>
          some (onSignal { app with bridge := { app.bridge with events } } signal)
  | AppAction.runAudio =>
      match app.bridge.audioPool with
      | [] => none
      | task :: audioPool =>
          some { app with
            bridge := { app.bridge with
              audioPool
              voiceStarted :=
                DriscordBridge.runTask app.bridge.audioGeneration app.bridge.voiceStarted task } }

def Step (app next : AppState) : Prop :=
  ∃ action, act app action = some next

/-- The application starts. -/
def Initial (app : AppState) : Prop :=
  app = {}

end AppState

end Client
end Driscord
