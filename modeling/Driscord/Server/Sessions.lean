import Driscord.Library.TransitionSystem
import Driscord.Server.Rooms

/-!
# Sessions of the signaling server

A session is accepted into its room, reads messages and is closed when a read or a
write fails.  Every handler of a session is one event.  `on_read` does not ask
whether its session is closed, so a read that was completed before is still
handled after the close.  An exception that escapes a handler ends the server.

The log holds what was sent to whom and who was unregistered, in order.
-/

namespace Driscord
namespace Server

open Library Signaling

/-- `Session`, as far as the room is concerned. -/
structure Session where
  roomId : RoomId
  username : Username
  closed : Bool := false
  /-- An `async_read` has not been completed. -/
  reading : Bool := true
deriving DecidableEq, Repr

/-- What happens to the sessions. -/
inductive LogEntry where
  | sent (recipient : PeerId) (message : Message)
  | unregistered (id : PeerId)
deriving DecidableEq, Repr

/-- The server with the sessions accepted so far. -/
structure SignalingSystem where
  server : WebSocketServer := {}
  sessions : Table PeerId Session := ∅
  /-- An exception has ended the server. -/
  ended : Bool := false
  log : List LogEntry := []

/-- The events of the server. -/
inductive ServerEvent where
  /-- The upgrade of a new session is accepted, with the id made from `random`. -/
  | accept (random : UInt64) (roomId : RoomId) (username : Username)
  /-- A read fails. -/
  | readFailed (id : PeerId)
  /-- A read is completed. -/
  | read (id : PeerId) (raw : Option Json)
  /-- A write is completed. -/
  | written (id : PeerId) (failed : Bool)
  /-- Someone asks for `/presence`. -/
  | presence
  | stop

namespace SignalingSystem

/-- Take the result of an operation: its messages are sent, or its exception ends
the server. -/
def conclude (system : SignalingSystem) (result : WebSocketServer × Except JsonError Sends) :
    SignalingSystem :=
  match result.2 with
  | Except.ok sends =>
      { system with
        server := result.1
        log := system.log ++ sends.map fun sent => LogEntry.sent sent.1 sent.2 }
  | Except.error _ => { system with server := result.1, ended := true }

/-- `on_close`. -/
def onClose (system : SignalingSystem) (id : PeerId) (session : Session) : SignalingSystem :=
  if session.closed then system
  else
    let closed := { system with
      sessions := system.sessions.insert id { session with closed := true } }
    match system.server.unregisterSession id session.roomId with
    | none => closed
    | some result =>
        { closed with log := closed.log ++ [LogEntry.unregistered id] }.conclude result

/-- The visitor of `on_read`. -/
def onMessage (server : WebSocketServer) (id : PeerId) (roomId : RoomId) :
    Message → WebSocketServer × Except JsonError Sends
  | Message.streamingStart _ =>
      let changed := server.addStreamingPeer id roomId
      (changed, changed.broadcast id roomId (Message.streamingStart (some id)))
  | Message.streamingStop _ =>
      let changed := server.removeStreamingPeer id roomId
      (changed, changed.broadcast id roomId (Message.streamingStop (some id)))
  | Message.watchStart publisher => server.addVideoWatcher id roomId publisher
  | Message.watchStop publisher =>
      (server.removeVideoWatcher id roomId publisher, Except.ok [])
  | _ => (server, Except.ok [])

/-- Handle an event, if it can happen. -/
def act (system : SignalingSystem) (event : ServerEvent) : Option SignalingSystem :=
  if system.ended then none
  else
    match event with
    | ServerEvent.accept random roomId username =>
        let id := generateId random
        if id ∈ system.sessions then none
        else
          let accepted :=
            if system.server.stopping then system
            else { system with sessions := system.sessions.insert id { roomId, username } }
          some (accepted.conclude
            (system.server.registerAndBuildWelcome id roomId username))
    | ServerEvent.readFailed id =>
        match system.sessions.lookup id with
        | none => none
        | some session =>
            if session.reading then
              let stopped := { session with reading := false }
              some ({ system with sessions := system.sessions.insert id stopped }.onClose id
                stopped)
            else none
    | ServerEvent.read id raw =>
        match system.sessions.lookup id with
        | none => none
        | some session =>
            if session.reading then
              match parse raw with
              | Except.error _ => some system
              | Except.ok message =>
                  some (system.conclude (onMessage system.server id session.roomId message))
            else none
    | ServerEvent.written id failed =>
        match system.sessions.lookup id with
        | none => none
        | some session => some (if failed then system.onClose id session else system)
    | ServerEvent.presence =>
        match system.server.presenceJson with
        | Except.ok _ => some system
        | Except.error _ => some { system with ended := true }
    | ServerEvent.stop => some { system with server := system.server.stop }

/-- What one event can do. -/
inductive Acted (system : SignalingSystem) : ServerEvent → SignalingSystem → Prop
  | refused (random roomId username) (hstopping : system.server.stopping = true)
      (hfresh : generateId random ∉ system.sessions) :
      Acted system (ServerEvent.accept random roomId username)
        (system.conclude (system.server, Except.ok []))
  | accepted (random roomId username) (hopen : system.server.stopping = false)
      (hfresh : generateId random ∉ system.sessions) :
      Acted system (ServerEvent.accept random roomId username)
        ({ system with
          sessions := system.sessions.insert (generateId random) { roomId, username } }.conclude
          (system.server.registerAndBuildWelcome (generateId random) roomId username))
  | readFailed (id) {session} (hsession : system.sessions.lookup id = some session) :
      Acted system (ServerEvent.readFailed id)
        ({ system with
          sessions := system.sessions.insert id { session with reading := false } }.onClose id
          { session with reading := false })
  | unparsed (id raw) : Acted system (ServerEvent.read id raw) system
  | parsed (id) {raw session message} (hsession : system.sessions.lookup id = some session)
      (hparse : parse raw = Except.ok message) :
      Acted system (ServerEvent.read id raw)
        (system.conclude (onMessage system.server id session.roomId message))
  | written (id) : Acted system (ServerEvent.written id false) system
  | writeFailed (id) {session} (hsession : system.sessions.lookup id = some session) :
      Acted system (ServerEvent.written id true) (system.onClose id session)
  | listed : Acted system ServerEvent.presence system
  | unlisted {error} (herror : system.server.presenceJson = Except.error error) :
      Acted system ServerEvent.presence { system with ended := true }
  | stopped : Acted system ServerEvent.stop { system with server := system.server.stop }

theorem running_of_act {system next : SignalingSystem} {event : ServerEvent}
    (h : system.act event = some next) : system.ended = false := by
  unfold act at h
  split at h
  · contradiction
  · simp_all

theorem acted_of_act {system next : SignalingSystem} {event : ServerEvent}
    (h : system.act event = some next) : Acted system event next := by
  have hrunning := running_of_act h
  unfold act at h
  rw [if_neg (by simp [hrunning])] at h
  cases event with
  | accept random roomId username =>
      simp only at h
      split at h
      · contradiction
      · rename_i hfresh
        rw [Option.some.injEq] at h
        by_cases hstopping : system.server.stopping = true
        · rw [if_pos hstopping, WebSocketServer.registerAndBuildWelcome, if_pos hstopping] at h
          rw [← h]
          exact Acted.refused random roomId username hstopping hfresh
        · rw [if_neg hstopping] at h
          rw [← h]
          exact Acted.accepted random roomId username (by simpa using hstopping) hfresh
  | readFailed id =>
      cases hsession : system.sessions.lookup id with
      | none => simp [hsession] at h
      | some session =>
          simp only [hsession] at h
          split at h
          · rw [← Option.some.inj h]
            exact Acted.readFailed id hsession
          · contradiction
  | read id raw =>
      cases hsession : system.sessions.lookup id with
      | none => simp [hsession] at h
      | some session =>
          simp only [hsession] at h
          split at h
          · split at h
            · rw [← Option.some.inj h]
              exact Acted.unparsed id raw
            · rename_i message hparse
              rw [← Option.some.inj h]
              exact Acted.parsed id hsession hparse
          · contradiction
  | written id failed =>
      cases hsession : system.sessions.lookup id with
      | none => simp [hsession] at h
      | some session =>
          simp only [hsession] at h
          rw [← Option.some.inj h]
          cases failed with
          | false => exact Acted.written id
          | true => exact Acted.writeFailed id hsession
  | presence =>
      simp only at h
      split at h
      · rw [← Option.some.inj h]
        exact Acted.listed
      · rename_i error herror
        rw [← Option.some.inj h]
        exact Acted.unlisted herror
  | stop =>
      rw [← Option.some.inj h]
      exact Acted.stopped

/-- No session has been accepted. -/
def Initial (system : SignalingSystem) : Prop :=
  system = {}

/-- One event. -/
def Step (system next : SignalingSystem) : Prop :=
  ∃ event, system.act event = some next

end SignalingSystem

end Server
end Driscord
