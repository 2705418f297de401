import Driscord.Library.ThreadPool
import Driscord.Server.MediaConnections
import Driscord.Server.RoomRouters
import Driscord.Server.Sessions

/-!
# The media server

The server with the media connections of its sessions and the routers of its rooms.
The io thread handles one event after the other: a handler is a list of sections, and
what it does to the rooms is one event of `SignalingSystem`, because no other thread
writes them.  The media library calls back on threads of its own, which run between
any two sections of the io thread.

A room names its routers by a handle, since a room that becomes empty is dropped and
its routers live on in the callbacks that have looked them up.
-/

namespace Driscord
namespace Server

open Library Signaling Sfu SignalingSystem

/-- The sections of the io thread. -/
inductive IoSection where
  /-- `close_media_connections`. -/
  | closeMediaConnections (id : PeerId)
  /-- What the handler does to the rooms. -/
  | signal (event : ServerEvent)
  /-- A call to a router after `rooms_mutex_` was released. -/
  | call (handle : Nat) (routerCall : RouterCall)
  /-- `accept_offer`, up to the first release of the mutex. -/
  | acceptOffer (id : PeerId) (connection : ConnectionId)
  /-- `remove_and_close`. -/
  | removeAndClose (id : PeerId) (connection : ConnectionId) (pc : Nat)
  /-- `accept_offer` from the creation of the PeerConnection on. -/
  | createPeerConnection (id : PeerId) (connection : ConnectionId)
  /-- `apply_offer`. -/
  | applyOffer (id : PeerId) (connection : ConnectionId) (pc : Nat)

/-- A track that a PeerConnection delivers, with the SSRC that the router will draw. -/
structure Delivery where
  pc : PeerConnection
  track : Track
  ssrc : UInt32
deriving DecidableEq, Repr

/-- The sections of a callback of the media library. -/
inductive CallbackSection where
  /-- `MediaConnections::Impl::register_track`. -/
  | registerTrack (delivery : Delivery)
  /-- `register_voice_track` or `register_screen_track`, up to the release of
  `rooms_mutex_`. -/
  | trackReady (delivery : Delivery)
  /-- The call to the router that was found. -/
  | callRouter (handle : Nat) (delivery : Delivery)
deriving DecidableEq, Repr

/-- The call by which a router hears of a delivery. -/
def Delivery.routerCall (delivery : Delivery) : RouterCall :=
  RouterCall.registerTrack delivery.pc.connection delivery.pc.owner delivery.track delivery.ssrc

/-- `WebSocketServer` with its sessions and its threads.  `created` and `delivered` are
bookkeeping that no code reads. -/
structure MediaServer where
  faultConfig : RtpFaultConfig := {}
  signaling : SignalingSystem := {}
  /-- The handles of the routers of the rooms. -/
  handles : Table RoomId Nat := ∅
  routers : List RoomRouters := []
  /-- `media_connections_` of the sessions that have not closed them. -/
  media : Table PeerId MediaConnections := ∅
  io : List IoSection := []
  callbacks : Pool CallbackSection := []
  created : List PeerConnection := []
  delivered : List Delivery := []

/-- What happens to the server. -/
inductive MediaAction where
  /-- The io thread takes the next handler. -/
  | handle (event : ServerEvent)
  /-- The io thread runs its next section.  A call of the media library may fail. -/
  | runIo (seen : Expiry) (failed : Bool)
  /-- A PeerConnection calls `onTrack`. -/
  | onTrack (delivery : Delivery)
  /-- A callback runs its next section; `alive` is what locking the session yields. -/
  | runCallback (index : Nat) (seen : Expiry) (alive : Bool)
  /-- A PeerConnection has failed or was closed. -/
  | connectionLost (pc : PeerConnection)
  /-- A registered track calls `onClosed`. -/
  | trackClosed (pc : PeerConnection) (mid : Bytes) (track : TrackId)

namespace MediaServer

/-! ## Rooms and routers -/

/-- The routers that a room has, if there is such a room. -/
def handleOf (server : MediaServer) (roomId : RoomId) : Option Nat :=
  if roomId ∈ server.signaling.server.rooms then server.handles.lookup roomId else none

/-- The current PeerConnection of a session. -/
def current (server : MediaServer) (id : PeerId) (connection : ConnectionId) : Option Nat :=
  (server.media.lookup id).bind fun media => media.current connection

/-- Change the media connections of a session, if it still has them. -/
def modifyMedia (server : MediaServer) (id : PeerId)
    (f : MediaConnections → MediaConnections) : MediaServer :=
  { server with media := Table.modify id f server.media }

/-- Call the routers with a handle. -/
def callRouters (server : MediaServer) (seen : Expiry) (handle : Nat)
    (routerCall : RouterCall) : MediaServer :=
  { server with
    routers := server.routers.modify handle fun routers => routers.call seen routerCall }

/-! ## Handlers -/

/-- The session that an event closes, if it was open. -/
def closing (system : SignalingSystem) : ServerEvent → Option PeerId
  | ServerEvent.readFailed id | ServerEvent.written id true =>
      match system.sessions.lookup id with
      | some session => if session.closed then none else some id
      | none => none
  | _ => none

/-- What the visitor of `on_read` does after it has released `rooms_mutex_`. -/
def messageSections (server : MediaServer) (id : PeerId) (roomId : RoomId) :
    Message → List IoSection
  | Message.offer _ connection => [IoSection.acceptOffer id connection]
  | Message.streamingStart _ =>
      (server.handleOf roomId).toList.map fun handle =>
        IoSection.call handle (RouterCall.setStreaming id true)
  | Message.streamingStop _ =>
      (server.handleOf roomId).toList.map fun handle =>
        IoSection.call handle (RouterCall.setStreaming id false)
  | Message.watchStart publisher =>
      match server.signaling.server.rooms.lookup roomId with
      | none => []
      | some room =>
          if id ∈ room.sessions ∧ room.watchRejection id publisher = none ∧
              publisher ∉ room.watched id then
            (server.handleOf roomId).toList.map fun handle =>
              IoSection.call handle (RouterCall.setWatching id publisher true)
          else []
  | Message.watchStop publisher =>
      (server.handleOf roomId).toList.map fun handle =>
        IoSection.call handle (RouterCall.setWatching id publisher false)
  | _ => []

/-- What `unregister_session` does after it has released `rooms_mutex_`. -/
def unregisterSections (server : MediaServer) (id : PeerId) : List IoSection :=
  match server.signaling.sessions.lookup id with
  | none => []
  | some session =>
      match server.signaling.server.rooms.lookup session.roomId with
      | none => []
      | some room =>
          if id ∈ room.sessions then
            (server.handleOf session.roomId).toList.flatMap fun handle =>
              [IoSection.call handle (RouterCall.removePeer ConnectionId.voice id),
                IoSection.call handle (RouterCall.removePeer ConnectionId.screen id)]
          else []

/-- What `stop` does after it has released `rooms_mutex_`. -/
def stopSections (server : MediaServer) : List IoSection :=
  let rooms := server.signaling.server.rooms.keys
  let handles := rooms.filterMap server.handleOf
  (handles.map fun handle => IoSection.call handle (RouterCall.close ConnectionId.voice)) ++
    (handles.map fun handle => IoSection.call handle (RouterCall.close ConnectionId.screen)) ++
      (server.signaling.server.rooms.entries.flatMap fun entry =>
        entry.2.sessions.keys.map IoSection.closeMediaConnections)

/-- What a handler does after its event. -/
def followUp (server : MediaServer) : ServerEvent → List IoSection
  | ServerEvent.read id raw =>
      match server.signaling.sessions.lookup id, parse raw with
      | some session, Except.ok message => server.messageSections id session.roomId message
      | _, _ => []
  | ServerEvent.stop => server.stopSections
  | event =>
      match closing server.signaling event with
      | some id => server.unregisterSections id
      | none => []

/-- A new room gets routers, and an accepted session has media connections. -/
def opened (server : MediaServer) (next : SignalingSystem) : ServerEvent → MediaServer
  | ServerEvent.accept random roomId _ =>
      let media :=
        if next.ended ∨ next.server.stopping then server.media
        else server.media.insert (generateId random) {}
      if roomId ∈ next.server.rooms ∧ roomId ∉ server.signaling.server.rooms then
        { server with
          signaling := next
          media := media
          handles := server.handles.insert roomId server.routers.length
          routers := server.routers ++ [RoomRouters.create server.faultConfig] }
      else { server with signaling := next, media := media }
  | _ => { server with signaling := next }

/-- Run a section of the io thread; the sections that it calls for are run next. -/
def runSection (server : MediaServer) (seen : Expiry) (failed : Bool) :
    IoSection → Option (MediaServer × List IoSection)
  | IoSection.closeMediaConnections id =>
      some ({ server with media := server.media.erase id }, [])
  | IoSection.signal event =>
      (server.signaling.act event).map fun next =>
        (server.opened next event, server.followUp event)
  | IoSection.call handle routerCall => some (server.callRouters seen handle routerCall, [])
  | IoSection.acceptOffer id connection =>
      match server.media.lookup id with
      | none => some (server, [])
      | some media =>
          some (server,
            ((media.current connection).toList.map fun pc =>
              IoSection.removeAndClose id connection pc) ++
                [IoSection.createPeerConnection id connection])
  | IoSection.removeAndClose id connection pc =>
      some (server.modifyMedia id fun media => media.removeAndClose connection pc, [])
  | IoSection.createPeerConnection id connection =>
      if failed then some (server, [])
      else
        let pc := server.created.length
        some ({ server.modifyMedia id fun media => media.install connection pc with
            created := server.created ++ [⟨pc, id, connection⟩] },
          [IoSection.applyOffer id connection pc])
  | IoSection.applyOffer id connection pc =>
      some (server, if failed then [IoSection.removeAndClose id connection pc] else [])

/-! ## Callbacks -/

/-- Run a section of a callback; the sections that it calls for are run next. -/
def runCallbackSection (server : MediaServer) (seen : Expiry) (alive : Bool) :
    CallbackSection → Option (MediaServer × List CallbackSection)
  | CallbackSection.registerTrack delivery =>
      match (server.media.lookup delivery.pc.owner).bind fun media =>
          media.registerTrack delivery.pc.connection delivery.pc.number delivery.track.mid
            delivery.track.id with
      | none => some (server, [])
      | some media =>
          some ({ server with media := server.media.insert delivery.pc.owner media },
            [CallbackSection.trackReady delivery])
  | CallbackSection.trackReady delivery =>
      -- A session that has its media connections is in the room or about to be accepted.
      if alive = false then
        if delivery.pc.owner ∈ server.media then none else some (server, [])
      else
        match server.signaling.sessions.lookup delivery.pc.owner with
        | none => some (server, [])
        | some session =>
            some (server, (server.handleOf session.roomId).toList.map fun handle =>
              CallbackSection.callRouter handle delivery)
  | CallbackSection.callRouter handle delivery =>
      some (server.callRouters seen handle delivery.routerCall, [])

/-- Do an action, if it can happen.  A track belongs to one PeerConnection. -/
def act (server : MediaServer) : MediaAction → Option MediaServer
  | MediaAction.handle event =>
      if server.io = [] ∧ (server.signaling.act event).isSome then
        some { server with
          io := (closing server.signaling event).toList.map IoSection.closeMediaConnections ++
            [IoSection.signal event] }
      else none
  | MediaAction.runIo seen failed =>
      match server.io with
      | [] => none
      | head :: rest =>
          (server.runSection seen failed head).map fun result =>
            { result.1 with io := result.2 ++ rest }
  | MediaAction.onTrack delivery =>
      if delivery.pc ∈ server.created ∧
          (∀ other ∈ server.delivered, other.track.id = delivery.track.id →
            other.pc = delivery.pc) then
        some { server with
          callbacks := server.callbacks ++ [[CallbackSection.registerTrack delivery]]
          delivered := server.delivered ++ [delivery] }
      else none
  | MediaAction.runCallback index seen alive =>
      match server.callbacks[index]? with
      | some (head :: rest) =>
          (server.runCallbackSection seen alive head).map fun result =>
            { result.1 with callbacks := server.callbacks.set index (result.2 ++ rest) }
      | _ => none
  | MediaAction.connectionLost pc =>
      some (server.modifyMedia pc.owner fun media => media.removeAndClose pc.connection pc.number)
  | MediaAction.trackClosed pc mid track =>
      some (server.modifyMedia pc.owner fun media => media.trackClosed pc.connection mid track)

/-- No session has been accepted. -/
def Initial (server : MediaServer) : Prop :=
  ∃ faultConfig, server = { faultConfig := faultConfig }

/-- One action. -/
def Step (server next : MediaServer) : Prop :=
  ∃ action, server.act action = some next

/-- No handler and no callback is running. -/
def Quiet (server : MediaServer) : Prop :=
  server.io = [] ∧ Pool.Quiet server.callbacks

end MediaServer

end Server
end Driscord
