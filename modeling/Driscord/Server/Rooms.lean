import Driscord.Library.Table
import Driscord.Server.Upgrade
import Driscord.Signaling.Protocol
import Mathlib.Data.Finset.Card

/-!
# Rooms of the signaling server

`WebSocketServer` keeps the rooms with their sessions, their streaming peers and
their watchers.  Every operation is one section under `rooms_mutex_` followed by
the messages that it sends; the media routers are left out.  An operation that
serialises a message may raise an error, and then the changes made before remain.

A session is named by its id, and a room holds the usernames of its sessions.
-/

namespace Driscord
namespace Server

open Library Signaling

/-- `kScreenReceiveSlots`. -/
def screenReceiveSlots : Nat := 8

/-- `WebSocketServer::Room`. -/
structure Room where
  sessions : Table PeerId Username := ∅
  streamingPeers : List PeerId := []
  videoWatchers : Table PeerId (Finset PeerId) := ∅

/-- `WebSocketServer`. -/
structure WebSocketServer where
  rooms : Table RoomId Room := ∅
  stopping : Bool := false

/-- The messages that an operation sends, with their recipients. -/
abbrev Sends := List (PeerId × Message)

/-- Dump a message and send it to these sessions. -/
def sendTo (recipients : List PeerId) (message : Message) : Except JsonError Sends := do
  let _ ← dump message
  return recipients.map fun recipient => (recipient, message)

namespace Room

/-- The sessions except one. -/
def others (room : Room) (id : PeerId) : List PeerId :=
  room.sessions.keys.filter (· ≠ id)

/-- The sessions as the welcome lists them. -/
def identities (room : Room) : List PeerIdentity :=
  room.sessions.entries.map fun entry => ⟨entry.1, entry.2⟩

/-- `sessions.emplace`. -/
def emplace (room : Room) (id : PeerId) (username : Username) : Room :=
  if id ∈ room.sessions then room
  else { room with sessions := room.sessions.insert id username }

/-- The publishers that a session watches. -/
def watched (room : Room) (id : PeerId) : Finset PeerId :=
  (room.videoWatchers.lookup id).getD ∅

/-- The watchers without a peer, and without the entries that become empty. -/
def watchersWithout (room : Room) (id : PeerId) : Table PeerId (Finset PeerId) :=
  Table.filterMapValues
    (fun watcher watched =>
      if watcher = id ∨ watched.erase id = ∅ then none else some (watched.erase id))
    room.videoWatchers

/-- The part of `unregister_session` that removes the session. -/
def leave (room : Room) (id : PeerId) : Room where
  sessions := room.sessions.erase id
  streamingPeers := room.streamingPeers.filter (· ≠ id)
  videoWatchers := room.watchersWithout id

/-- The answer of `add_video_watcher` to a session of the room. -/
def watchRejection (room : Room) (id publisher : PeerId) : Option WatchRejectReason :=
  if publisher ∉ room.sessions ∨ id = publisher then some WatchRejectReason.unknownPeer
  else if publisher ∉ room.streamingPeers then some WatchRejectReason.notStreaming
  else if publisher ∈ room.watched id then none
  else if screenReceiveSlots ≤ (room.watched id).card then some WatchRejectReason.capacity
  else none

/-- The room after a watch was accepted. -/
def watch (room : Room) (id publisher : PeerId) : Room :=
  { room with
    videoWatchers := room.videoWatchers.insert id (insert publisher (room.watched id)) }

/-- The room after a watch was given up. -/
def unwatch (room : Room) (id publisher : PeerId) : Room :=
  match room.videoWatchers.lookup id with
  | none => room
  | some watched =>
      if watched.erase publisher = ∅ then
        { room with videoWatchers := room.videoWatchers.erase id }
      else
        { room with videoWatchers := room.videoWatchers.insert id (watched.erase publisher) }

/-- What the remaining sessions hear of a session that leaves. -/
def farewellMessages (room : Room) (id : PeerId) : List Message :=
  (if id ∈ room.streamingPeers then [Message.streamingStop (some id)] else []) ++
    [Message.peerLeft id]

/-- The messages of `unregister_session`. -/
def farewell (room : Room) (id : PeerId) : Except JsonError Sends := do
  let _ ← (room.farewellMessages id).mapM dump
  return (room.others id).flatMap fun recipient =>
    (room.farewellMessages id).map fun message => (recipient, message)

end Room

namespace WebSocketServer

/-- Change a room, if it is there. -/
def inRoom (server : WebSocketServer) (roomId : RoomId) (f : Room → Room) : WebSocketServer :=
  { server with rooms := Table.modify roomId f server.rooms }

/-- `register_and_build_welcome`, and the messages of `on_accept`: first every
session of the room hears of the new one, then the new one is welcomed. -/
def registerAndBuildWelcome (server : WebSocketServer) (id : PeerId) (roomId : RoomId)
    (username : Username) : WebSocketServer × Except JsonError Sends :=
  if server.stopping then (server, Except.ok [])
  else
    let room := (server.rooms.lookup roomId).getD {}
    match sendTo [id] (Message.welcome id room.identities room.streamingPeers) with
    | Except.error error =>
        ({ server with rooms := server.rooms.insert roomId room }, Except.error error)
    | Except.ok welcome =>
        ({ server with rooms := server.rooms.insert roomId (room.emplace id username) },
          (sendTo room.sessions.keys (Message.peerJoined id username)).map (· ++ welcome))

/-- The rooms after a session has left; an empty room is removed. -/
def roomsWithout (server : WebSocketServer) (id : PeerId) (roomId : RoomId) (room : Room) :
    Table RoomId Room :=
  if room.others id = [] then server.rooms.erase roomId
  else server.rooms.insert roomId (room.leave id)

/-- `unregister_session`, if it finds the session. -/
def unregisterSession (server : WebSocketServer) (id : PeerId) (roomId : RoomId) :
    Option (WebSocketServer × Except JsonError Sends) :=
  match server.rooms.lookup roomId with
  | none => none
  | some room =>
      if id ∈ room.sessions then
        some ({ server with rooms := server.roomsWithout id roomId room }, room.farewell id)
      else none

/-- `broadcast`. -/
def broadcast (server : WebSocketServer) (id : PeerId) (roomId : RoomId) (message : Message) :
    Except JsonError Sends :=
  sendTo (((server.rooms.lookup roomId).map fun room => room.others id).getD []) message

/-- `add_streaming_peer`. -/
def addStreamingPeer (server : WebSocketServer) (id : PeerId) (roomId : RoomId) :
    WebSocketServer :=
  server.inRoom roomId fun room =>
    { room with streamingPeers := List.insert id room.streamingPeers }

/-- `remove_streaming_peer`. -/
def removeStreamingPeer (server : WebSocketServer) (id : PeerId) (roomId : RoomId) :
    WebSocketServer :=
  server.inRoom roomId fun room =>
    { room with streamingPeers := room.streamingPeers.filter (· ≠ id) }

/-- `add_video_watcher`. -/
def addVideoWatcher (server : WebSocketServer) (id : PeerId) (roomId : RoomId)
    (publisher : PeerId) : WebSocketServer × Except JsonError Sends :=
  match server.rooms.lookup roomId with
  | none => (server, Except.ok [])
  | some room =>
      if id ∈ room.sessions then
        match room.watchRejection id publisher with
        | some reason => (server, sendTo [id] (Message.watchRejected publisher reason))
        | none => (server.inRoom roomId (·.watch id publisher), Except.ok [])
      else (server, Except.ok [])

/-- `remove_video_watcher`. -/
def removeVideoWatcher (server : WebSocketServer) (id : PeerId) (roomId : RoomId)
    (publisher : PeerId) : WebSocketServer :=
  server.inRoom roomId (·.unwatch id publisher)

/-- The part of `stop` that changes the rooms. -/
def stop (server : WebSocketServer) : WebSocketServer :=
  { server with stopping := true, rooms := ∅ }

/-- `presence_json`. -/
def presenceJson (server : WebSocketServer) : Except JsonError Json :=
  (Json.object (server.rooms.entries.map fun entry =>
    (entry.1.value, Json.array (entry.2.identities.map PeerIdentity.encode)))).dump

end WebSocketServer

/-! ## Messages that can be written -/

theorem dump_eq_ok {message : Message} (h : message.strings.all validUtf8 = true) :
    dump message = Except.ok (encode message) := by
  rw [dump, Json.dump_eq_ok_iff, valid_encode]
  exact ⟨h, rfl⟩

theorem sendTo_eq_ok {message : Message} (h : message.strings.all validUtf8 = true)
    (recipients : List PeerId) :
    sendTo recipients message =
      Except.ok (recipients.map fun recipient => (recipient, message)) := by
  rw [sendTo, dump_eq_ok h]
  rfl

theorem sendTo_eq_error {message : Message} (h : message.strings.all validUtf8 = false)
    (recipients : List PeerId) :
    sendTo recipients message = Except.error JsonError.invalidUtf8 := by
  have hdump : dump message = Except.error JsonError.invalidUtf8 := by
    rw [dump, Json.dump, valid_encode, h]
    rfl
  rw [sendTo, hdump]
  rfl

theorem mem_of_sendTo {recipients : List PeerId} {message : Message} {sends : Sends}
    (h : sendTo recipients message = Except.ok sends) :
    sends = recipients.map fun recipient => (recipient, message) := by
  by_cases hvalid : message.strings.all validUtf8 = true
  · rw [sendTo_eq_ok hvalid, Except.ok.injEq] at h
    exact h.symm
  · rw [sendTo_eq_error (by simpa using hvalid)] at h
    contradiction

end Server
end Driscord
