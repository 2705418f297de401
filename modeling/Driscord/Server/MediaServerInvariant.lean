import Driscord.Server.MediaServer
import Driscord.Server.Registry

/-!
# What holds of the media server in every run

The rooms that exist have open routers of their own, the io thread writes the rooms
only when no call to a router is pending, and the media connections that are left
belong to open sessions.

Main results:

- Theorem `acted_of_act`: what one action can do.
- Theorem `sound_of_reachable`: the invariant of every run.
-/

namespace Driscord
namespace Server

open Library Signaling Sfu

/-! ## What an event does to the sessions and the rooms -/

namespace SignalingSystem

variable {system next : SignalingSystem} {event : ServerEvent}

theorem sessions_onClose (id : PeerId) (session : Session) :
    (system.onClose id session).sessions =
      if session.closed then system.sessions
      else system.sessions.insert id { session with closed := true } := by
  unfold onClose
  split
  · rfl
  · dsimp only
    split
    · rfl
    · rw [sessions_conclude]

/-- Closing a session leaves the rooms as they are or takes the session out of its
room. -/
theorem server_onClose (id : PeerId) (session : Session) :
    (system.onClose id session).server = system.server ∨
      ∃ room, system.server.rooms.lookup session.roomId = some room ∧
        (system.onClose id session).server =
          { system.server with
            rooms := system.server.roomsWithout id session.roomId room } := by
  unfold onClose
  split
  · exact Or.inl rfl
  · unfold WebSocketServer.unregisterSession
    cases hroom : system.server.rooms.lookup session.roomId with
    | none => exact Or.inl rfl
    | some room =>
        by_cases hmem : id ∈ room.sessions
        · simp only [if_pos hmem, server_conclude]
          exact Or.inr ⟨room, rfl, rfl⟩
        · simp [hmem]

/-- The visitor changes one room in place, if any. -/
theorem server_onMessage (server : WebSocketServer) (id : PeerId) (roomId : RoomId)
    (message : Message) :
    (onMessage server id roomId message).1 = server ∨
      ∃ f, (onMessage server id roomId message).1 = server.inRoom roomId f := by
  cases message with
  | streamingStart sender => exact Or.inr ⟨_, rfl⟩
  | streamingStop sender => exact Or.inr ⟨_, rfl⟩
  | watchStart publisher =>
      simp only [onMessage, WebSocketServer.addVideoWatcher]
      split
      · exact Or.inl rfl
      · split
        · split
          · exact Or.inl rfl
          · exact Or.inr ⟨_, rfl⟩
        · exact Or.inl rfl
  | watchStop publisher => exact Or.inr ⟨_, rfl⟩
  | _ => exact Or.inl rfl

/-- An open session whose read fails, or whose write does, is closed. -/
theorem closing_eq_some {id : PeerId} {session : Session}
    (hsession : system.sessions.lookup id = some session) (hopen : session.closed = false)
    (hevent : event = ServerEvent.readFailed id ∨ event = ServerEvent.written id true) :
    MediaServer.closing system event = some id := by
  rcases hevent with rfl | rfl <;> simp [MediaServer.closing, hsession, hopen]

/-- A session stays in its room, and only its own read or write closes it. -/
theorem session_act (hact : system.act event = some next) {id : PeerId} {session : Session}
    (hsession : system.sessions.lookup id = some session) :
    ∃ session', next.sessions.lookup id = some session' ∧
      session'.roomId = session.roomId ∧
        (session'.closed = session.closed ∨ MediaServer.closing system event = some id) := by
  cases acted_of_act hact with
  | refused random roomId username hstopping hfresh =>
      exact ⟨session, by rw [sessions_conclude, hsession], rfl, Or.inl rfl⟩
  | accepted random roomId username hopen hfresh =>
      have hne : id ≠ generateId random := by
        rintro rfl
        exact hfresh (Table.mem_of_lookup hsession)
      refine ⟨session, ?_, rfl, Or.inl rfl⟩
      rw [sessions_conclude, AList.lookup_insert_ne hne, hsession]
  | @readFailed closed found hfound =>
      rw [sessions_onClose]
      by_cases hsame : id = closed
      · subst hsame
        obtain rfl : session = found := by simpa [hsession] using hfound
        cases hclosed : session.closed with
        | true =>
            refine ⟨{ session with reading := false }, ?_, rfl, Or.inl hclosed⟩
            simp [hclosed]
        | false =>
            refine ⟨{ session with reading := false, closed := true }, ?_, rfl, Or.inr ?_⟩
            · simp
            · exact closing_eq_some hsession hclosed (Or.inl rfl)
      · refine ⟨session, ?_, rfl, Or.inl rfl⟩
        split <;> simp [AList.lookup_insert_ne hsame, hsession]
  | @writeFailed closed found hfound =>
      rw [sessions_onClose]
      by_cases hsame : id = closed
      · subst hsame
        obtain rfl : session = found := by simpa [hsession] using hfound
        cases hclosed : session.closed with
        | true => exact ⟨session, by simpa [hclosed] using hsession, rfl, Or.inl hclosed⟩
        | false =>
            refine ⟨{ session with closed := true }, by simp, rfl, Or.inr ?_⟩
            exact closing_eq_some hsession hclosed (Or.inr rfl)
      · refine ⟨session, ?_, rfl, Or.inl rfl⟩
        split <;> simp [AList.lookup_insert_ne hsame, hsession]
  | parsed other hfound hparse =>
      exact ⟨session, by rw [sessions_conclude, hsession], rfl, Or.inl rfl⟩
  | unparsed => exact ⟨session, hsession, rfl, Or.inl rfl⟩
  | written => exact ⟨session, hsession, rfl, Or.inl rfl⟩
  | listed => exact ⟨session, hsession, rfl, Or.inl rfl⟩
  | unlisted => exact ⟨session, hsession, rfl, Or.inl rfl⟩
  | stopped => exact ⟨session, hsession, rfl, Or.inl rfl⟩

theorem stopping_onClose (id : PeerId) (session : Session) :
    (system.onClose id session).server.stopping = system.server.stopping := by
  rcases server_onClose id session with heq | ⟨room, _, heq⟩ <;> rw [heq]

/-- Only stopping the server stops it. -/
theorem stopping_act (hact : system.act event = some next) :
    next.server.stopping = true ↔
      system.server.stopping = true ∨ event = ServerEvent.stop := by
  cases acted_of_act hact with
  | refused => simp
  | accepted random roomId username hopen =>
      rw [server_conclude, WebSocketServer.registerAndBuildWelcome, if_neg (by simp [hopen])]
      dsimp only
      split <;> simp
  | readFailed id hsession => simp [stopping_onClose]
  | writeFailed id hsession => simp [stopping_onClose]
  | @parsed id raw session message hsession hparse =>
      rw [server_conclude]
      rcases server_onMessage system.server id session.roomId message with heq | ⟨f, heq⟩
      · simp [heq]
      · simp [heq, WebSocketServer.inRoom]
  | unparsed => simp
  | written => simp
  | listed => simp
  | unlisted => simp
  | stopped => simp [WebSocketServer.stop]

theorem mem_roomsWithout {server : WebSocketServer} {id : PeerId} {roomId other : RoomId}
    {room : Room} (hroom : server.rooms.lookup roomId = some room)
    (h : other ∈ server.roomsWithout id roomId room) : other ∈ server.rooms := by
  unfold WebSocketServer.roomsWithout at h
  split at h
  · exact (AList.mem_erase.mp h).2
  · rcases (AList.mem_insert _).mp h with rfl | hmem
    · exact Table.mem_of_lookup hroom
    · exact hmem

/-- Only accepting a session makes a room. -/
theorem room_of_act (hact : system.act event = some next) {roomId : RoomId}
    (hroom : roomId ∈ next.server.rooms) :
    roomId ∈ system.server.rooms ∨
      system.server.stopping = false ∧
        ∃ random username, event = ServerEvent.accept random roomId username := by
  cases acted_of_act hact with
  | refused =>
      rw [server_conclude] at hroom
      exact Or.inl hroom
  | accepted random joined username hopen hfresh =>
      rw [server_conclude, WebSocketServer.registerAndBuildWelcome,
        if_neg (by simp [hopen])] at hroom
      by_cases hsame : roomId = joined
      · subst hsame
        exact Or.inr ⟨hopen, random, username, rfl⟩
      · left
        dsimp only at hroom
        split at hroom
        · exact ((AList.mem_insert _).mp hroom).resolve_left hsame
        · exact ((AList.mem_insert _).mp hroom).resolve_left hsame
  | @readFailed id session hsession =>
      rcases server_onClose id { session with reading := false } with heq | ⟨room, hfound, heq⟩
      · rw [heq] at hroom
        exact Or.inl hroom
      · rw [heq] at hroom
        exact Or.inl (mem_roomsWithout hfound hroom)
  | @writeFailed id session hsession =>
      rcases server_onClose id session with heq | ⟨room, hfound, heq⟩
      · rw [heq] at hroom
        exact Or.inl hroom
      · rw [heq] at hroom
        exact Or.inl (mem_roomsWithout hfound hroom)
  | @parsed id raw session message hsession hparse =>
      rw [server_conclude] at hroom
      rcases server_onMessage system.server id session.roomId message with heq | ⟨f, heq⟩
      · rw [heq] at hroom
        exact Or.inl hroom
      · rw [heq] at hroom
        exact Or.inl ((Table.mem_modify _ _ _ _).mp hroom)
  | unparsed => exact Or.inl hroom
  | written => exact Or.inl hroom
  | listed => exact Or.inl hroom
  | unlisted => exact Or.inl hroom
  | stopped => exact absurd hroom (AList.notMem_empty roomId)

end SignalingSystem

/-- A section of `accept_offer`. -/
def IoSection.offers : IoSection → Bool
  | IoSection.acceptOffer _ _ | IoSection.removeAndClose _ _ _
  | IoSection.createPeerConnection _ _ | IoSection.applyOffer _ _ _ => true
  | _ => false

namespace MediaServer

open SignalingSystem

/-! ## What one action can do -/

/-- What one action can do. -/
inductive Acted (server : MediaServer) : MediaAction → MediaServer → Prop
  | handled (event) (hidle : server.io = [])
      (hact : (server.signaling.act event).isSome = true) :
      Acted server (MediaAction.handle event)
        { server with
          io := (closing server.signaling event).toList.map IoSection.closeMediaConnections ++
            [IoSection.signal event] }
  | mediaClosed (seen failed id rest)
      (hio : server.io = IoSection.closeMediaConnections id :: rest) :
      Acted server (MediaAction.runIo seen failed)
        { server with media := server.media.erase id, io := rest }
  | signaled (seen failed) {event rest next} (hio : server.io = IoSection.signal event :: rest)
      (hact : server.signaling.act event = some next) :
      Acted server (MediaAction.runIo seen failed)
        { server.opened next event with io := server.followUp event ++ rest }
  | called (seen failed handle routerCall rest)
      (hio : server.io = IoSection.call handle routerCall :: rest) :
      Acted server (MediaAction.runIo seen failed)
        { server.callRouters seen handle routerCall with io := rest }
  | offered (seen failed) {head rest pushed} (hio : server.io = head :: rest)
      (hhead : IoSection.offers head = true)
      (hpushed : ∀ item ∈ pushed, IoSection.offers item = true) :
      Acted server (MediaAction.runIo seen failed) { server with io := pushed ++ rest }
  | removed (seen failed id connection pc rest)
      (hio : server.io = IoSection.removeAndClose id connection pc :: rest) :
      Acted server (MediaAction.runIo seen failed)
        { server.modifyMedia id fun media => media.removeAndClose connection pc with
          io := rest }
  | created (seen id connection rest)
      (hio : server.io = IoSection.createPeerConnection id connection :: rest) :
      Acted server (MediaAction.runIo seen false)
        { server.modifyMedia id fun media => media.install connection server.created.length with
          created := server.created ++ [⟨server.created.length, id, connection⟩]
          io := IoSection.applyOffer id connection server.created.length :: rest }
  | delivered (delivery) (hcreated : delivery.pc ∈ server.created)
      (hown : ∀ other ∈ server.delivered, other.track.id = delivery.track.id →
        other.pc = delivery.pc) :
      Acted server (MediaAction.onTrack delivery)
        { server with
          callbacks := server.callbacks ++ [[CallbackSection.registerTrack delivery]]
          delivered := server.delivered ++ [delivery] }
  | registered (index seen alive) {delivery rest media media'}
      (hhead : server.callbacks[index]? = some (CallbackSection.registerTrack delivery :: rest))
      (hmedia : server.media.lookup delivery.pc.owner = some media)
      (hregistered : media.registerTrack delivery.pc.connection delivery.pc.number
        delivery.track.mid delivery.track.id = some media') :
      Acted server (MediaAction.runCallback index seen alive)
        { server with
          media := server.media.insert delivery.pc.owner media'
          callbacks := server.callbacks.set index
            ([CallbackSection.trackReady delivery] ++ rest) }
  | rejected (index seen alive) {delivery rest}
      (hhead : server.callbacks[index]? = some (CallbackSection.registerTrack delivery :: rest))
      (hother : server.current delivery.pc.owner delivery.pc.connection ≠
        some delivery.pc.number) :
      Acted server (MediaAction.runCallback index seen alive)
        { server with callbacks := server.callbacks.set index ([] ++ rest) }
  | orphaned (index seen alive) {delivery rest}
      (hhead : server.callbacks[index]? = some (CallbackSection.trackReady delivery :: rest))
      (hgone : delivery.pc.owner ∉ server.media ∨
        server.signaling.sessions.lookup delivery.pc.owner = none) :
      Acted server (MediaAction.runCallback index seen alive)
        { server with callbacks := server.callbacks.set index ([] ++ rest) }
  | found (index seen alive) {delivery rest session}
      (hhead : server.callbacks[index]? = some (CallbackSection.trackReady delivery :: rest))
      (hsession : server.signaling.sessions.lookup delivery.pc.owner = some session) :
      Acted server (MediaAction.runCallback index seen alive)
        { server with
          callbacks := server.callbacks.set index
            ((server.handleOf session.roomId).toList.map
              (fun handle => CallbackSection.callRouter handle delivery) ++ rest) }
  | routed (index seen alive) {handle delivery rest}
      (hhead : server.callbacks[index]? =
        some (CallbackSection.callRouter handle delivery :: rest)) :
      Acted server (MediaAction.runCallback index seen alive)
        { server.callRouters seen handle delivery.routerCall with
          callbacks := server.callbacks.set index ([] ++ rest) }
  | lost (pc) :
      Acted server (MediaAction.connectionLost pc)
        (server.modifyMedia pc.owner fun media =>
          media.removeAndClose pc.connection pc.number)
  | closedTrack (pc mid track) :
      Acted server (MediaAction.trackClosed pc mid track)
        (server.modifyMedia pc.owner fun media => media.trackClosed pc.connection mid track)

variable {server next : MediaServer} {action : MediaAction}

theorem acted_of_runIo {seen : Expiry} {failed : Bool}
    (h : server.act (MediaAction.runIo seen failed) = some next) :
    Acted server (MediaAction.runIo seen failed) next := by
  simp only [act] at h
  cases hio : server.io with
  | nil => simp [hio] at h
  | cons head rest =>
      simp only [hio, Option.map_eq_some_iff] at h
      rcases h with ⟨result, hrun, rfl⟩
      cases head with
      | closeMediaConnections id =>
          rw [← Option.some.inj hrun]
          exact Acted.mediaClosed seen failed id rest hio
      | signal event =>
          rcases Option.map_eq_some_iff.mp hrun with ⟨system, hact, rfl⟩
          exact Acted.signaled seen failed hio hact
      | call handle routerCall =>
          rw [← Option.some.inj hrun]
          exact Acted.called seen failed handle routerCall rest hio
      | acceptOffer id connection =>
          simp only [runSection] at hrun
          split at hrun
          · rw [← Option.some.inj hrun]
            exact Acted.offered seen failed hio rfl (by simp)
          · rw [← Option.some.inj hrun]
            refine Acted.offered seen failed hio rfl ?_
            intro item hitem
            rcases List.mem_append.mp hitem with hitem | hitem
            · rcases List.mem_map.mp hitem with ⟨pc, _, rfl⟩
              rfl
            · rw [List.mem_singleton.mp hitem]
              rfl
      | removeAndClose id connection pc =>
          rw [← Option.some.inj hrun]
          exact Acted.removed seen failed id connection pc rest hio
      | createPeerConnection id connection =>
          cases failed with
          | true =>
              rw [← Option.some.inj hrun]
              exact Acted.offered seen true hio rfl (by simp)
          | false =>
              rw [← Option.some.inj hrun]
              exact Acted.created seen id connection rest hio
      | applyOffer id connection pc =>
          rw [← Option.some.inj hrun]
          refine Acted.offered seen failed hio rfl ?_
          intro item hitem
          cases failed with
          | true =>
              rw [List.mem_singleton.mp hitem]
              rfl
          | false => contradiction

theorem acted_of_runCallback {index : Nat} {seen : Expiry} {alive : Bool}
    (h : server.act (MediaAction.runCallback index seen alive) = some next) :
    Acted server (MediaAction.runCallback index seen alive) next := by
  simp only [act] at h
  split at h
  case h_2 => contradiction
  case h_1 head rest hhead =>
    rcases Option.map_eq_some_iff.mp h with ⟨result, hrun, rfl⟩
    cases head with
    | registerTrack delivery =>
        simp only [runCallbackSection] at hrun
        split at hrun
        · rename_i hnone
          rw [← Option.some.inj hrun]
          refine Acted.rejected index seen alive hhead ?_
          intro hcurrent
          rcases Option.bind_eq_some_iff.mp hcurrent with ⟨media, hmedia, hpc⟩
          rw [hmedia, Option.bind_some] at hnone
          exact MediaConnections.registerTrack_eq_none hnone hpc
        · rename_i media' hsome
          rw [← Option.some.inj hrun]
          rcases Option.bind_eq_some_iff.mp hsome with ⟨media, hmedia, hregistered⟩
          exact Acted.registered index seen alive hhead hmedia hregistered
    | trackReady delivery =>
        simp only [runCallbackSection] at hrun
        split at hrun
        · split at hrun
          · contradiction
          · rename_i hgone
            rw [← Option.some.inj hrun]
            exact Acted.orphaned index seen alive hhead (Or.inl hgone)
        · split at hrun
          · rename_i hnone
            rw [← Option.some.inj hrun]
            exact Acted.orphaned index seen alive hhead (Or.inr hnone)
          · rename_i session hsession
            rw [← Option.some.inj hrun]
            exact Acted.found index seen alive hhead hsession
    | callRouter handle delivery =>
        rw [← Option.some.inj hrun]
        exact Acted.routed index seen alive hhead

theorem acted_of_act (h : server.act action = some next) : Acted server action next := by
  cases action with
  | handle event =>
      simp only [act] at h
      split at h
      · rename_i hidle
        rw [← Option.some.inj h]
        exact Acted.handled event hidle.1 hidle.2
      · contradiction
  | runIo seen failed => exact acted_of_runIo h
  | onTrack delivery =>
      simp only [act] at h
      split at h
      · rename_i hown
        rw [← Option.some.inj h]
        exact Acted.delivered delivery hown.1 hown.2
      · contradiction
  | runCallback index seen alive => exact acted_of_runCallback h
  | connectionLost pc =>
      rw [← Option.some.inj h]
      exact Acted.lost pc
  | trackClosed pc mid track =>
      rw [← Option.some.inj h]
      exact Acted.closedTrack pc mid track

/-! ## Rooms have routers -/

/-- Every room has routers of its own, and they are open. -/
structure Housed (server : MediaServer) : Prop where
  stopped : server.signaling.server.stopping = true →
    ∀ roomId, roomId ∉ server.signaling.server.rooms
  housed : ∀ roomId ∈ server.signaling.server.rooms, roomId ∈ server.handles
  inRange : ∀ roomId handle, server.handles.lookup roomId = some handle →
    handle < server.routers.length
  distinct : ∀ roomId other handle, server.handles.lookup roomId = some handle →
    server.handles.lookup other = some handle → other = roomId
  sound : ∀ routers ∈ server.routers, routers.Sound
  opened : ∀ roomId handle routers, server.handleOf roomId = some handle →
    server.routers[handle]? = some routers → ∀ connection, routers.closed connection = false

/-- What the io thread still has to do fits the rooms and the sessions. -/
structure Duties (server : MediaServer) : Prop where
  closings : ∀ handle connection,
    IoSection.call handle (RouterCall.close connection) ∈ server.io →
      ∀ roomId, server.handleOf roomId ≠ some handle
  removals : ∀ handle connection id,
    IoSection.call handle (RouterCall.removePeer connection id) ∈ server.io →
      id ∉ server.media
  registrations : ∀ handle connection owner track ssrc,
    IoSection.call handle (RouterCall.registerTrack connection owner track ssrc) ∉ server.io
  busy : (∀ event, IoSection.signal event ∉ server.io) ∨
    (∃ event, server.io = [IoSection.signal event] ∧
      ∀ id, closing server.signaling event = some id → id ∉ server.media) ∨
    ∃ id event, server.io = [IoSection.closeMediaConnections id, IoSection.signal event] ∧
      closing server.signaling event = some id

/-- Rooms, sessions, routers and the io thread fit each other. -/
structure Sound (server : MediaServer) : Prop where
  registry : Registry server.signaling
  housed : Housed server
  owners : ∀ id ∈ server.media, ∃ session,
    server.signaling.sessions.lookup id = some session ∧ session.closed = false
  duties : Duties server

theorem handleOf_eq_some {roomId : RoomId} {handle : Nat} :
    server.handleOf roomId = some handle ↔
      roomId ∈ server.signaling.server.rooms ∧ server.handles.lookup roomId = some handle := by
  unfold handleOf
  split
  · rename_i hmem
    simp [hmem]
  · rename_i hmem
    simp [hmem]

theorem Housed.exists_routers (h : Housed server) {roomId : RoomId} {handle : Nat}
    (hhandle : server.handleOf roomId = some handle) :
    ∃ routers, server.routers[handle]? = some routers ∧ routers.Sound := by
  have hlt := h.inRange roomId handle (handleOf_eq_some.mp hhandle).2
  refine ⟨server.routers[handle], List.getElem?_eq_getElem hlt, ?_⟩
  exact h.sound _ (List.getElem_mem hlt)

/-- Two rooms with the same routers are the same. -/
theorem Housed.room_eq (h : Housed server) {roomId other : RoomId} {handle : Nat}
    (hroom : server.handleOf roomId = some handle)
    (hother : server.handleOf other = some handle) : other = roomId :=
  h.distinct roomId other handle (handleOf_eq_some.mp hroom).2 (handleOf_eq_some.mp hother).2

/-! ### Calls to routers -/

theorem handleOf_congr {server' : MediaServer} (hsignaling : server'.signaling = server.signaling)
    (hhandles : server'.handles = server.handles) (roomId : RoomId) :
    server'.handleOf roomId = server.handleOf roomId := by
  rw [handleOf, handleOf, hsignaling, hhandles]

theorem Housed.congr {server' : MediaServer} (h : Housed server)
    (hsignaling : server'.signaling = server.signaling)
    (hhandles : server'.handles = server.handles)
    (hrouters : server'.routers = server.routers) : Housed server' := by
  refine ⟨?_, ?_, ?_, ?_, ?_, ?_⟩
  · rw [hsignaling]
    exact h.stopped
  · rw [hsignaling, hhandles]
    exact h.housed
  · rw [hhandles, hrouters]
    exact h.inRange
  · rw [hhandles]
    exact h.distinct
  · rw [hrouters]
    exact h.sound
  · intro roomId handle routers hhandle hfound
    rw [handleOf_congr hsignaling hhandles] at hhandle
    rw [hrouters] at hfound
    exact h.opened roomId handle routers hhandle hfound

theorem getElem?_callRouters (server : MediaServer) (seen : Expiry) (handle other : Nat)
    (routerCall : RouterCall) :
    (server.callRouters seen handle routerCall).routers[other]? =
      if other = handle then
        (server.routers[other]?).map fun routers => routers.call seen routerCall
      else server.routers[other]? := by
  rw [callRouters, List.getElem?_modify]
  by_cases hsame : handle = other
  · simp [hsame]
  · have hne : other ≠ handle := fun h => hsame h.symm
    simp [hsame, hne]

/-- A call keeps the routers of the rooms open, unless it closes them. -/
theorem Housed.callRouters (h : Housed server) (seen : Expiry) {handle : Nat}
    {routerCall : RouterCall}
    (hclose : ∀ connection, routerCall = RouterCall.close connection →
      ∀ roomId, server.handleOf roomId ≠ some handle) :
    Housed (server.callRouters seen handle routerCall) where
  stopped := h.stopped
  housed := h.housed
  inRange roomId found hfound := by
    rw [MediaServer.callRouters, List.length_modify]
    exact h.inRange roomId found hfound
  distinct := h.distinct
  sound routers hrouters := by
    rcases List.mem_iff_getElem?.mp hrouters with ⟨index, hindex⟩
    rw [getElem?_callRouters] at hindex
    split at hindex
    · rcases Option.map_eq_some_iff.mp hindex with ⟨old, hold, rfl⟩
      exact (h.sound old (List.mem_of_getElem? hold)).call seen routerCall
    · exact h.sound routers (List.mem_of_getElem? hindex)
  opened roomId found routers hfound hrouters connection := by
    have hroom : server.handleOf roomId = some found := hfound
    rw [getElem?_callRouters] at hrouters
    split at hrouters
    · rename_i hsame
      rcases Option.map_eq_some_iff.mp hrouters with ⟨old, hold, rfl⟩
      rw [RoomRouters.closed_call]
      · exact h.opened roomId found old hroom hold connection
      · intro hcall
        rw [hsame] at hroom
        exact hclose connection hcall roomId hroom
    · exact h.opened roomId found routers hroom hrouters connection

/-! ### Events -/

@[simp]
theorem signaling_opened (server : MediaServer) (system : SignalingSystem)
    (event : ServerEvent) : (server.opened system event).signaling = system := by
  cases event with
  | accept random roomId username =>
      simp only [opened]
      split <;> rfl
  | _ => rfl

section

variable {system : SignalingSystem} {event : ServerEvent}
variable (hact : server.signaling.act event = some system)
include hact

/-- An event leaves the routers as they are or makes some for a new room. -/
theorem opened_cases :
    ((server.opened system event).handles = server.handles ∧
        (server.opened system event).routers = server.routers ∧
        ∀ roomId ∈ system.server.rooms, roomId ∈ server.signaling.server.rooms) ∨
      ∃ roomId, roomId ∉ server.signaling.server.rooms ∧ roomId ∈ system.server.rooms ∧
        server.signaling.server.stopping = false ∧
        (server.opened system event).handles =
          server.handles.insert roomId server.routers.length ∧
        (server.opened system event).routers =
          server.routers ++ [RoomRouters.create server.faultConfig] ∧
        ∀ other ∈ system.server.rooms, other ≠ roomId →
          other ∈ server.signaling.server.rooms := by
  have hrooms := fun (roomId : RoomId) (hroom : roomId ∈ system.server.rooms) =>
    room_of_act hact hroom
  cases event with
  | accept random roomId username =>
      have hothers : ∀ other ∈ system.server.rooms, other ≠ roomId →
          other ∈ server.signaling.server.rooms := by
        intro other hother hne
        rcases hrooms other hother with hold | ⟨_, _, _, heq⟩
        · exact hold
        · rw [ServerEvent.accept.injEq] at heq
          exact absurd heq.2.1.symm hne
      by_cases hnew : roomId ∈ system.server.rooms ∧ roomId ∉ server.signaling.server.rooms
      · right
        refine ⟨roomId, hnew.2, hnew.1, ?_, ?_, ?_, hothers⟩
        · rcases hrooms roomId hnew.1 with hold | ⟨hopen, _⟩
          · exact absurd hold hnew.2
          · exact hopen
        · simp only [opened, if_pos hnew]
        · simp only [opened, if_pos hnew]
      · left
        refine ⟨by simp only [opened, if_neg hnew], by simp only [opened, if_neg hnew], ?_⟩
        intro other hother
        by_cases hsame : other = roomId
        · subst hsame
          by_contra hcontra
          exact hnew ⟨hother, hcontra⟩
        · exact hothers other hother hsame
  | _ =>
      refine Or.inl ⟨rfl, rfl, fun roomId hroom => ?_⟩
      rcases hrooms roomId hroom with hold | ⟨_, _, _, heq⟩
      · exact hold
      · contradiction

/-- The routers of a room were there before the event or are new. -/
theorem handleOf_opened {roomId : RoomId} {handle : Nat}
    (hhandle : (server.opened system event).handleOf roomId = some handle) :
    server.handleOf roomId = some handle ∨
      roomId ∉ server.signaling.server.rooms ∧ handle = server.routers.length ∧
        (server.opened system event).routers =
          server.routers ++ [RoomRouters.create server.faultConfig] := by
  rcases handleOf_eq_some.mp hhandle with ⟨hroom, hlookup⟩
  rw [signaling_opened] at hroom
  rcases opened_cases hact with ⟨hhandles, _, hrooms⟩ | ⟨new, hnew, _, _, hhandles, hrouters, hrooms⟩
  · rw [hhandles] at hlookup
    exact Or.inl (handleOf_eq_some.mpr ⟨hrooms roomId hroom, hlookup⟩)
  · rw [hhandles] at hlookup
    by_cases hsame : roomId = new
    · subst hsame
      rw [AList.lookup_insert, Option.some.injEq] at hlookup
      exact Or.inr ⟨hnew, hlookup.symm, hrouters⟩
    · rw [AList.lookup_insert_ne hsame] at hlookup
      exact Or.inl (handleOf_eq_some.mpr ⟨hrooms roomId hroom hsame, hlookup⟩)

/-- Routers that are there stay. -/
theorem getElem?_opened {handle : Nat} {routers : RoomRouters}
    (h : server.routers[handle]? = some routers) :
    (server.opened system event).routers[handle]? = some routers := by
  rcases opened_cases hact with ⟨_, hrouters, _⟩ | ⟨_, _, _, _, _, hrouters, _⟩
  · rw [hrouters, h]
  · have hlt : handle < server.routers.length := (List.getElem?_eq_some_iff.mp h).choose
    rw [hrouters, List.getElem?_append_left hlt, h]

/-- An event leaves every room with open routers of its own. -/
theorem Housed.signal (h : Housed server) : Housed (server.opened system event) := by
  have hstopping := stopping_act hact
  have hrooms := fun (roomId : RoomId) (hroom : roomId ∈ system.server.rooms) =>
    room_of_act hact hroom
  refine ⟨?_, ?_, ?_, ?_, ?_, ?_⟩
  · intro hstopped roomId hroom
    rw [signaling_opened] at hstopped hroom
    rcases hstopping.mp hstopped with hold | rfl
    · rcases hrooms roomId hroom with hmem | ⟨hopen, _⟩
      · exact h.stopped hold roomId hmem
      · rw [hopen] at hold
        contradiction
    · cases SignalingSystem.acted_of_act hact
      exact AList.notMem_empty roomId hroom
  · intro roomId hroom
    rw [signaling_opened] at hroom
    rcases opened_cases hact with ⟨hhandles, _, hold⟩ | ⟨new, _, _, _, hhandles, _, hold⟩
    · rw [hhandles]
      exact h.housed roomId (hold roomId hroom)
    · rw [hhandles, AList.mem_insert]
      by_cases hsame : roomId = new
      · exact Or.inl hsame
      · exact Or.inr (h.housed roomId (hold roomId hroom hsame))
  · intro roomId handle hlookup
    rcases opened_cases hact with ⟨hhandles, hrouters, _⟩ | ⟨new, _, _, _, hhandles, hrouters, _⟩
    · rw [hhandles] at hlookup
      rw [hrouters]
      exact h.inRange roomId handle hlookup
    · rw [hhandles] at hlookup
      rw [hrouters, List.length_append, List.length_singleton]
      by_cases hsame : roomId = new
      · rw [hsame, AList.lookup_insert, Option.some.injEq] at hlookup
        omega
      · rw [AList.lookup_insert_ne hsame] at hlookup
        have hlt := h.inRange roomId handle hlookup
        omega
  · intro roomId other handle hroom hother
    rcases opened_cases hact with ⟨hhandles, _⟩ | ⟨new, _, _, _, hhandles, _⟩
    · rw [hhandles] at hroom hother
      exact h.distinct roomId other handle hroom hother
    · rw [hhandles] at hroom hother
      by_cases hsame : roomId = new
      · subst hsame
        by_cases hsame' : other = roomId
        · exact hsame'
        · rw [AList.lookup_insert, Option.some.injEq] at hroom
          rw [AList.lookup_insert_ne hsame'] at hother
          have hlt := h.inRange other handle hother
          omega
      · rw [AList.lookup_insert_ne hsame] at hroom
        by_cases hsame' : other = new
        · subst hsame'
          rw [AList.lookup_insert, Option.some.injEq] at hother
          have hlt := h.inRange roomId handle hroom
          omega
        · rw [AList.lookup_insert_ne hsame'] at hother
          exact h.distinct roomId other handle hroom hother
  · intro routers hmem
    rcases opened_cases hact with ⟨_, hrouters, _⟩ | ⟨_, _, _, _, _, hrouters, _⟩
    · rw [hrouters] at hmem
      exact h.sound routers hmem
    · rw [hrouters] at hmem
      rcases List.mem_append.mp hmem with hold | hnew
      · exact h.sound routers hold
      · rw [List.mem_singleton.mp hnew]
        exact RoomRouters.sound_create server.faultConfig
  · intro roomId handle routers hhandle hfound connection
    rcases handleOf_opened hact hhandle with hold | ⟨_, rfl, hrouters⟩
    · rcases h.exists_routers hold with ⟨old, hbefore, _⟩
      rw [getElem?_opened hact hbefore, Option.some.injEq] at hfound
      rw [← hfound]
      exact h.opened roomId handle old hold hbefore connection
    · rw [hrouters, List.getElem?_append_right (le_refl _), Nat.sub_self] at hfound
      obtain rfl : RoomRouters.create server.faultConfig = routers := by simpa using hfound
      cases connection <;> rfl

end

/-! ## What a handler still has to do -/

/-- What follows a message. -/
theorem mem_messageSections {id : PeerId} {roomId : RoomId} {message : Message}
    {item : IoSection} (h : item ∈ server.messageSections id roomId message) :
    (∃ id connection, item = IoSection.acceptOffer id connection) ∨
    (∃ handle streaming, server.handleOf roomId = some handle ∧
      item = IoSection.call handle (RouterCall.setStreaming id streaming)) ∨
    ∃ handle publisher watching, server.handleOf roomId = some handle ∧
      item = IoSection.call handle (RouterCall.setWatching id publisher watching) ∧
        (watching = true → ∃ room, server.signaling.server.rooms.lookup roomId = some room ∧
          publisher ∈ room.sessions) := by
  have hcall : ∀ routerCall : RouterCall,
      item ∈ ((server.handleOf roomId).toList.map fun handle =>
        IoSection.call handle routerCall) →
      ∃ handle, server.handleOf roomId = some handle ∧
        item = IoSection.call handle routerCall := by
    intro routerCall hmem
    rcases List.mem_map.mp hmem with ⟨handle, hhandle, rfl⟩
    exact ⟨handle, Option.mem_toList.mp hhandle, rfl⟩
  cases message with
  | offer sdp connection => exact Or.inl ⟨id, connection, List.mem_singleton.mp h⟩
  | streamingStart sender =>
      rcases hcall _ h with ⟨handle, hhandle, rfl⟩
      exact Or.inr (Or.inl ⟨handle, true, hhandle, rfl⟩)
  | streamingStop sender =>
      rcases hcall _ h with ⟨handle, hhandle, rfl⟩
      exact Or.inr (Or.inl ⟨handle, false, hhandle, rfl⟩)
  | watchStart publisher =>
      simp only [messageSections] at h
      split at h
      case h_1 => contradiction
      case h_2 room hroom =>
        split at h
        case isFalse => contradiction
        case isTrue haccepted =>
          rcases hcall _ h with ⟨handle, hhandle, rfl⟩
          refine Or.inr (Or.inr ⟨handle, publisher, true, hhandle, rfl, fun _ => ?_⟩)
          refine ⟨room, hroom, ?_⟩
          by_contra hcontra
          have hrejected := haccepted.2.1
          rw [Room.watchRejection, if_pos (Or.inl hcontra)] at hrejected
          contradiction
  | watchStop publisher =>
      rcases hcall _ h with ⟨handle, hhandle, rfl⟩
      exact Or.inr (Or.inr ⟨handle, publisher, false, hhandle, rfl, fun h => by contradiction⟩)
  | _ => simp [messageSections] at h

/-- What follows a failed read or write. -/
theorem mem_closing_followUp {event : ServerEvent} {id : PeerId} {item : IoSection}
    (hevent : event = ServerEvent.readFailed id ∨ event = ServerEvent.written id true)
    (h : item ∈ server.followUp event) :
    ∃ handle connection, closing server.signaling event = some id ∧
      item = IoSection.call handle (RouterCall.removePeer connection id) := by
  have hsections : closing server.signaling event = some id ∧
      item ∈ server.unregisterSections id := by
    rcases hevent with rfl | rfl
    all_goals
      simp only [followUp] at h
      split at h
      case h_2 => contradiction
      case h_1 other hclosing =>
        have hsame : other = id := by
          simp only [closing] at hclosing
          split at hclosing
          · split at hclosing
            · contradiction
            · exact (Option.some.inj hclosing).symm
          · contradiction
        rw [hsame] at hclosing h
        exact ⟨hclosing, h⟩
  rcases hsections with ⟨hclosing, hmem⟩
  unfold unregisterSections at hmem
  split at hmem
  case h_1 => contradiction
  case h_2 session hsession =>
    split at hmem
    case h_1 => contradiction
    case h_2 room hroom =>
      split at hmem
      case isFalse => contradiction
      case isTrue =>
        rcases List.mem_flatMap.mp hmem with ⟨handle, _, hcall⟩
        rcases List.mem_cons.mp hcall with rfl | hcall
        · exact ⟨handle, ConnectionId.voice, hclosing, rfl⟩
        · rw [List.mem_singleton.mp hcall]
          exact ⟨handle, ConnectionId.screen, hclosing, rfl⟩

/-- The sections that follow an event. -/
theorem mem_followUp {event : ServerEvent} {item : IoSection}
    (h : item ∈ server.followUp event) :
    (∃ id connection, item = IoSection.acceptOffer id connection) ∨
    (∃ id session handle streaming,
      server.signaling.sessions.lookup id = some session ∧
        server.handleOf session.roomId = some handle ∧
          item = IoSection.call handle (RouterCall.setStreaming id streaming)) ∨
    (∃ id session handle publisher watching,
      server.signaling.sessions.lookup id = some session ∧
        server.handleOf session.roomId = some handle ∧
          item = IoSection.call handle (RouterCall.setWatching id publisher watching) ∧
            (watching = true → ∃ room,
              server.signaling.server.rooms.lookup session.roomId = some room ∧
                publisher ∈ room.sessions)) ∨
    (∃ id handle connection, closing server.signaling event = some id ∧
      item = IoSection.call handle (RouterCall.removePeer connection id)) ∨
    event = ServerEvent.stop ∧
      ((∃ handle connection, item = IoSection.call handle (RouterCall.close connection)) ∨
        ∃ id, item = IoSection.closeMediaConnections id) := by
  cases event with
  | accept random roomId username => simp [followUp, closing] at h
  | presence => simp [followUp, closing] at h
  | readFailed id =>
      rcases mem_closing_followUp (Or.inl rfl) h with ⟨handle, connection, hclosing, rfl⟩
      exact Or.inr (Or.inr (Or.inr (Or.inl ⟨id, handle, connection, hclosing, rfl⟩)))
  | written id failed =>
      cases failed with
      | false => simp [followUp, closing] at h
      | true =>
          rcases mem_closing_followUp (Or.inr rfl) h with ⟨handle, connection, hclosing, rfl⟩
          exact Or.inr (Or.inr (Or.inr (Or.inl ⟨id, handle, connection, hclosing, rfl⟩)))
  | read id raw =>
      simp only [followUp] at h
      split at h
      case h_2 => contradiction
      case h_1 session message hsession hparse =>
        rcases mem_messageSections h with hoffer | ⟨handle, streaming, hhandle, rfl⟩ |
          ⟨handle, publisher, watching, hhandle, rfl, hroom⟩
        · exact Or.inl hoffer
        · exact Or.inr (Or.inl ⟨id, session, handle, streaming, hsession, hhandle, rfl⟩)
        · exact Or.inr (Or.inr (Or.inl
            ⟨id, session, handle, publisher, watching, hsession, hhandle, rfl, hroom⟩))
  | stop =>
      refine Or.inr (Or.inr (Or.inr (Or.inr ⟨rfl, ?_⟩)))
      simp only [followUp, stopSections, List.mem_append, List.mem_map,
        List.mem_flatMap] at h
      rcases h with (⟨handle, _, rfl⟩ | ⟨handle, _, rfl⟩) | ⟨_, _, id, _, rfl⟩
      · exact Or.inl ⟨handle, ConnectionId.voice, rfl⟩
      · exact Or.inl ⟨handle, ConnectionId.screen, rfl⟩
      · exact Or.inr ⟨id, rfl⟩

/-! ## The duties -/

/-- A session that was accepted has media connections; nobody else gets any. -/
theorem mem_media_opened {system : SignalingSystem} {event : ServerEvent} {id : PeerId}
    (h : id ∈ (server.opened system event).media) :
    id ∈ server.media ∨ system.server.stopping = false ∧
      ∃ random roomId username, event = ServerEvent.accept random roomId username ∧
        id = generateId random := by
  cases event with
  | accept random roomId username =>
      have hmem : id ∈ (if system.ended = true ∨ system.server.stopping = true then server.media
          else server.media.insert (generateId random) {}) := by
        simp only [opened] at h
        split at h <;> exact h
      split at hmem
      · exact Or.inl hmem
      · rename_i hrunning
        rcases (AList.mem_insert _).mp hmem with rfl | hold
        · refine Or.inr ⟨?_, random, roomId, username, rfl, rfl⟩
          simpa using fun hstopping => hrunning (Or.inr hstopping)
        · exact Or.inl hold
  | _ => exact Or.inl h

/-- The session that a running server has accepted. -/
theorem lookup_accepted {system next : SignalingSystem} {random : UInt64} {roomId : RoomId}
    {username : Username}
    (hact : system.act (ServerEvent.accept random roomId username) = some next)
    (hrunning : next.server.stopping = false) :
    next.sessions.lookup (generateId random) = some { roomId, username } := by
  cases SignalingSystem.acted_of_act hact with
  | refused _ _ _ hstopping _ =>
      rw [server_conclude, hstopping] at hrunning
      contradiction
  | accepted _ _ _ _ _ => rw [sessions_conclude, AList.lookup_insert]

theorem Duties.signal_head (h : Duties server) {event : ServerEvent} {rest : List IoSection}
    (hio : server.io = IoSection.signal event :: rest) :
    rest = [] ∧ ∀ id, closing server.signaling event = some id → id ∉ server.media := by
  rcases h.busy with hworking | ⟨other, hsame, hgone⟩ | ⟨id, other, hsame, _⟩
  · rw [hio] at hworking
    exact absurd List.mem_cons_self (hworking event)
  · rw [hio, List.cons.injEq, IoSection.signal.injEq] at hsame
    rw [hsame.1]
    exact ⟨hsame.2, hgone⟩
  · rw [hio] at hsame
    simp at hsame

/-- No event waits behind a section that is neither an event nor a close. -/
theorem Duties.working (h : Duties server) {head : IoSection} {rest : List IoSection}
    (hio : server.io = head :: rest) (hevent : ∀ event, head ≠ IoSection.signal event)
    (hclose : ∀ id, head ≠ IoSection.closeMediaConnections id) (event : ServerEvent) :
    IoSection.signal event ∉ server.io := by
  rcases h.busy with hworking | ⟨other, hsame, _⟩ | ⟨id, other, hsame, _⟩
  · exact hworking event
  · rw [hio, List.cons.injEq] at hsame
    exact absurd hsame.1 (hevent other)
  · rw [hio, List.cons.injEq] at hsame
    exact absurd hsame.1 (hclose id)

/-- Sections that are done, and sections of `accept_offer` that are added. -/
theorem Duties.proceed {server' : MediaServer} (h : Duties server)
    (hsignaling : server'.signaling = server.signaling)
    (hhandles : server'.handles = server.handles)
    (hmedia : ∀ id ∈ server'.media, id ∈ server.media)
    (hworking : ∀ event, IoSection.signal event ∉ server.io)
    (hio : ∀ item ∈ server'.io, item ∈ server.io ∨ item.offers = true) : Duties server' where
  closings handle connection hmem roomId := by
    rw [handleOf_congr hsignaling hhandles]
    rcases hio _ hmem with hold | hoffers
    · exact h.closings handle connection hold roomId
    · contradiction
  removals handle connection id hmem hid := by
    rcases hio _ hmem with hold | hoffers
    · exact h.removals handle connection id hold (hmedia id hid)
    · contradiction
  registrations handle connection owner track ssrc hmem := by
    rcases hio _ hmem with hold | hoffers
    · exact h.registrations handle connection owner track ssrc hold
    · contradiction
  busy := by
    refine Or.inl fun event hmem => ?_
    rcases hio _ hmem with hold | hoffers
    · exact hworking event hold
    · contradiction

/-- What other threads do leaves the duties as they are. -/
theorem Duties.congr {server' : MediaServer} (h : Duties server)
    (hsignaling : server'.signaling = server.signaling)
    (hhandles : server'.handles = server.handles)
    (hmedia : ∀ id ∈ server'.media, id ∈ server.media) (hio : server'.io = server.io) :
    Duties server' where
  closings handle connection hmem roomId := by
    rw [handleOf_congr hsignaling hhandles]
    rw [hio] at hmem
    exact h.closings handle connection hmem roomId
  removals handle connection id hmem hid := by
    rw [hio] at hmem
    exact h.removals handle connection id hmem (hmedia id hid)
  registrations := by
    rw [hio]
    exact h.registrations
  busy := by
    rw [hio, hsignaling]
    rcases h.busy with hworking | ⟨event, hsame, hgone⟩ | hclosing
    · exact Or.inl hworking
    · exact Or.inr (Or.inl ⟨event, hsame, fun id hid hmem => hgone id hid (hmedia id hmem)⟩)
    · exact Or.inr (Or.inr hclosing)

theorem duties_handle (server : MediaServer) (event : ServerEvent) :
    Duties { server with
      io := (closing server.signaling event).toList.map IoSection.closeMediaConnections ++
        [IoSection.signal event] } := by
  have hitem : ∀ handle routerCall, IoSection.call handle routerCall ∉
      (closing server.signaling event).toList.map IoSection.closeMediaConnections ++
        [IoSection.signal event] := by simp
  refine ⟨fun handle connection hmem => absurd hmem (hitem _ _),
    fun handle connection id hmem => absurd hmem (hitem _ _),
    fun handle connection owner track ssrc => hitem _ _, Or.inr ?_⟩
  cases hclosing : closing server.signaling event with
  | none =>
      refine Or.inl ⟨event, rfl, fun id hid => ?_⟩
      rw [hclosing] at hid
      contradiction
  | some id => exact Or.inr ⟨id, event, rfl, hclosing⟩

theorem Duties.closeMedia (h : Duties server) {id : PeerId} {rest : List IoSection}
    (hio : server.io = IoSection.closeMediaConnections id :: rest) :
    Duties { server with media := server.media.erase id, io := rest } := by
  have hsub : ∀ item ∈ rest, item ∈ server.io := by
    intro item hitem
    rw [hio]
    exact List.mem_cons_of_mem _ hitem
  have hkeep : ∀ other ∈ server.media.erase id, other ∈ server.media :=
    fun other hother => (AList.mem_erase.mp hother).2
  refine ⟨fun handle connection hmem => h.closings handle connection (hsub _ hmem),
    fun handle connection other hmem hother =>
      h.removals handle connection other (hsub _ hmem) (hkeep other hother),
    fun handle connection owner track ssrc hmem =>
      h.registrations handle connection owner track ssrc (hsub _ hmem), ?_⟩
  rcases h.busy with hworking | ⟨event, hsame, _⟩ | ⟨other, event, hsame, hclosing⟩
  · exact Or.inl fun event hmem => hworking event (hsub _ hmem)
  · rw [hio] at hsame
    simp at hsame
  · rw [hio, List.cons.injEq, IoSection.closeMediaConnections.injEq] at hsame
    refine Or.inr (Or.inl ⟨event, hsame.2, fun found hfound hmem => ?_⟩)
    rw [hclosing, Option.some.injEq] at hfound
    rw [← hfound, ← hsame.1] at hmem
    exact (AList.mem_erase.mp hmem).1 rfl

theorem Duties.signal (h : Duties server) {event : ServerEvent} {rest : List IoSection}
    {system : SignalingSystem} (hio : server.io = IoSection.signal event :: rest)
    (hact : server.signaling.act event = some system) :
    Duties { server.opened system event with io := server.followUp event ++ rest } := by
  rcases h.signal_head hio with ⟨rfl, hgone⟩
  rw [List.append_nil]
  refine ⟨?_, ?_, ?_, ?_⟩
  · intro handle connection hmem roomId hhandle
    rcases mem_followUp hmem with ⟨_, _, h⟩ | ⟨_, _, _, _, _, _, h⟩ | ⟨_, _, _, _, _, _, _, h, _⟩ |
      ⟨_, _, _, _, h⟩ | ⟨rfl, _⟩
    · contradiction
    · simp at h
    · simp at h
    · simp at h
    · have hroom := (handleOf_eq_some.mp hhandle).1
      cases SignalingSystem.acted_of_act hact
      exact AList.notMem_empty roomId hroom
  · intro handle connection id hmem hid
    rcases mem_followUp hmem with ⟨_, _, h⟩ | ⟨_, _, _, _, _, _, h⟩ | ⟨_, _, _, _, _, _, _, h, _⟩ |
      ⟨closed, _, _, hclosing, h⟩ | ⟨rfl, ⟨_, _, h⟩ | ⟨_, h⟩⟩
    · contradiction
    · simp at h
    · simp at h
    · simp only [IoSection.call.injEq, RouterCall.removePeer.injEq] at h
      rw [← h.2.2] at hclosing
      rcases mem_media_opened hid with hold | ⟨_, _, _, _, rfl, _⟩
      · exact hgone id hclosing hold
      · contradiction
    · simp at h
    · contradiction
  · intro handle connection owner track ssrc hmem
    rcases mem_followUp hmem with ⟨_, _, h⟩ | ⟨_, _, _, _, _, _, h⟩ | ⟨_, _, _, _, _, _, _, h, _⟩ |
      ⟨_, _, _, _, h⟩ | ⟨_, ⟨_, _, h⟩ | ⟨_, h⟩⟩ <;> simp at h
  · refine Or.inl fun other hmem => ?_
    rcases mem_followUp hmem with ⟨_, _, h⟩ | ⟨_, _, _, _, _, _, h⟩ | ⟨_, _, _, _, _, _, _, h, _⟩ |
      ⟨_, _, _, _, h⟩ | ⟨_, ⟨_, _, h⟩ | ⟨_, h⟩⟩ <;> contradiction

/-! ## Every run -/

/-- The sessions with media connections are open. -/
def OwnersOpen (server : MediaServer) : Prop :=
  ∀ id ∈ server.media, ∃ session,
    server.signaling.sessions.lookup id = some session ∧ session.closed = false

theorem ownersOpen_signal (h : OwnersOpen server) {event : ServerEvent} {system : SignalingSystem}
    (hact : server.signaling.act event = some system)
    (hgone : ∀ id, closing server.signaling event = some id → id ∉ server.media) :
    OwnersOpen (server.opened system event) := by
  intro id hmem
  rw [signaling_opened]
  rcases mem_media_opened hmem with hold | ⟨hrunning, random, roomId, username, rfl, rfl⟩
  · rcases h id hold with ⟨session, hsession, hopen⟩
    rcases session_act hact hsession with ⟨later, hlater, _, hclosed | hclosing⟩
    · exact ⟨later, hlater, hclosed.trans hopen⟩
    · exact absurd hold (hgone id hclosing)
  · exact ⟨_, lookup_accepted hact hrunning, rfl⟩

/-- The threads of the media library change neither the rooms nor the io thread, and give
nobody media connections. -/
theorem Sound.congr {server' : MediaServer} (h : Sound server)
    (hsignaling : server'.signaling = server.signaling)
    (hhandles : server'.handles = server.handles)
    (hhoused : Housed server') (hmedia : ∀ id ∈ server'.media, id ∈ server.media)
    (hio : server'.io = server.io) : Sound server' where
  registry := by
    rw [hsignaling]
    exact h.registry
  housed := hhoused
  owners id hid := by
    rw [hsignaling]
    exact h.owners id (hmedia id hid)
  duties := h.duties.congr hsignaling hhandles hmedia hio

/-- The io thread has run a section that is not an event. -/
theorem Sound.proceed {server' : MediaServer} (h : Sound server)
    (hsignaling : server'.signaling = server.signaling)
    (hhandles : server'.handles = server.handles)
    (hhoused : Housed server') (hmedia : ∀ id ∈ server'.media, id ∈ server.media)
    {head : IoSection} {rest pushed : List IoSection} (hhead : server.io = head :: rest)
    (hevent : ∀ event, head ≠ IoSection.signal event)
    (hclose : ∀ id, head ≠ IoSection.closeMediaConnections id)
    (hio : server'.io = pushed ++ rest) (hpushed : ∀ item ∈ pushed, item.offers = true) :
    Sound server' where
  registry := by
    rw [hsignaling]
    exact h.registry
  housed := hhoused
  owners id hid := by
    rw [hsignaling]
    exact h.owners id (hmedia id hid)
  duties := by
    refine h.duties.proceed hsignaling hhandles hmedia
      (h.duties.working hhead hevent hclose) fun item hitem => ?_
    rw [hio] at hitem
    rcases List.mem_append.mp hitem with hitem | hitem
    · exact Or.inr (hpushed item hitem)
    · rw [hhead]
      exact Or.inl (List.mem_cons_of_mem _ hitem)

theorem mem_modifyMedia {id other : PeerId} {f : MediaConnections → MediaConnections}
    (h : other ∈ (server.modifyMedia id f).media) : other ∈ server.media :=
  (Table.mem_modify _ _ _ _).mp h

/-- A registered track leaves the session its media connections. -/
theorem mem_insertMedia {id other : PeerId} {media media' : MediaConnections}
    (hmedia : server.media.lookup id = some media)
    (h : other ∈ server.media.insert id media') : other ∈ server.media := by
  rcases (AList.mem_insert _).mp h with rfl | hold
  · exact Table.mem_of_lookup hmedia
  · exact hold

theorem sound_initial (h : Initial server) : Sound server := by
  rcases h with ⟨faultConfig, rfl⟩
  refine ⟨registry_initial, ⟨?_, ?_, ?_, ?_, ?_, ?_⟩, ?_, ⟨?_, ?_, ?_, ?_⟩⟩ <;>
    simp [handleOf]

/-- Every action keeps the invariant. -/
theorem Sound.step (h : Sound server) (hact : server.act action = some next) : Sound next := by
  cases acted_of_act hact with
  | handled event hidle hevent =>
      exact ⟨h.registry, h.housed.congr rfl rfl rfl, h.owners, duties_handle server event⟩
  | mediaClosed seen failed id rest hio =>
      refine ⟨h.registry, h.housed.congr rfl rfl rfl, fun other hother => ?_,
        h.duties.closeMedia hio⟩
      exact h.owners other (AList.mem_erase.mp hother).2
  | signaled seen failed hio hsignal =>
      refine ⟨?_, (h.housed.signal hsignal).congr rfl rfl rfl, ?_, h.duties.signal hio hsignal⟩
      · change Registry (server.opened _ _).signaling
        rw [signaling_opened]
        exact h.registry.step ⟨_, hsignal⟩
      · exact ownersOpen_signal h.owners hsignal (h.duties.signal_head hio).2
  | called seen failed handle routerCall rest hio =>
      have hhoused : Housed (server.callRouters seen handle routerCall) := by
        refine h.housed.callRouters seen fun connection hclose => ?_
        apply h.duties.closings handle connection
        rw [hio, hclose]
        exact List.mem_cons_self
      exact h.proceed rfl rfl (hhoused.congr rfl rfl rfl) (fun _ hid => hid) hio (by simp)
        (by simp) (List.nil_append rest).symm (by simp)
  | offered seen failed hio hhead hpushed =>
      refine h.proceed rfl rfl (h.housed.congr rfl rfl rfl) (fun _ hid => hid) hio ?_ ?_ rfl
        hpushed
      · rintro event rfl
        contradiction
      · rintro id rfl
        contradiction
  | removed seen failed id connection pc rest hio =>
      exact h.proceed rfl rfl (h.housed.congr rfl rfl rfl) (fun _ hid => mem_modifyMedia hid) hio
        (by simp) (by simp) (List.nil_append rest).symm (by simp)
  | created seen id connection rest hio =>
      refine h.proceed rfl rfl (h.housed.congr rfl rfl rfl) (fun _ hid => mem_modifyMedia hid) hio
        (by simp) (by simp) List.singleton_append.symm ?_
      intro item hitem
      rw [List.mem_singleton.mp hitem]
      rfl
  | delivered delivery hcreated hown =>
      exact h.congr rfl rfl (h.housed.congr rfl rfl rfl) (fun _ hid => hid) rfl
  | registered index seen alive hhead hmedia hregistered =>
      exact h.congr rfl rfl (h.housed.congr rfl rfl rfl)
        (fun _ hid => mem_insertMedia hmedia hid) rfl
  | rejected index seen alive hhead hother =>
      exact h.congr rfl rfl (h.housed.congr rfl rfl rfl) (fun _ hid => hid) rfl
  | orphaned index seen alive hhead hgone =>
      exact h.congr rfl rfl (h.housed.congr rfl rfl rfl) (fun _ hid => hid) rfl
  | found index seen alive hhead hsession =>
      exact h.congr rfl rfl (h.housed.congr rfl rfl rfl) (fun _ hid => hid) rfl
  | @routed index seen alive handle delivery rest hhead =>
      have hhoused : Housed (server.callRouters seen handle delivery.routerCall) :=
        h.housed.callRouters seen fun connection hclose => by contradiction
      exact h.congr rfl rfl (hhoused.congr rfl rfl rfl) (fun _ hid => hid) rfl
  | lost pc =>
      exact h.congr rfl rfl (h.housed.congr rfl rfl rfl) (fun _ hid => mem_modifyMedia hid) rfl
  | closedTrack pc mid track =>
      exact h.congr rfl rfl (h.housed.congr rfl rfl rfl) (fun _ hid => mem_modifyMedia hid) rfl

theorem sound_of_reachable (h : Reachable Initial Step server) : Sound server := by
  refine Reachable.invariant (fun _ hstart => sound_initial hstart) ?_ h
  rintro state later - hsound ⟨action, hact⟩
  exact hsound.step hact

/-! ## Alice and Bob -/

/-- The io thread handles an event with a number of sections. -/
def handling (event : ServerEvent) (sections : Nat) : List MediaAction :=
  MediaAction.handle event ::
    List.replicate sections (MediaAction.runIo (fun _ _ _ => false) false)

/-- A callback runs a number of sections. -/
def registering (index sections : Nat) : List MediaAction :=
  List.replicate sections (MediaAction.runCallback index (fun _ _ _ => false) true)

/-- Bob offers a PeerConnection. -/
def bobOffers (sections : Nat) : List MediaAction :=
  handling (ServerEvent.read (generateId 2)
    (some (encode (Message.offer (text "sdp") ConnectionId.voice)))) sections

/-- The microphone of one of Bob's PeerConnections. -/
def bobSpeaks (number : Nat) : Delivery where
  pc := ⟨number, generateId 2, ConnectionId.voice⟩
  track := ⟨number + 1, text "0", some MediaType.audio, Direction.recvOnly, none⟩
  ssrc := 1

/-- Alice and Bob join, and Bob's PeerConnection delivers a track. -/
def bobJoins : List MediaAction :=
  handling (ServerEvent.accept 1 ⟨text "lobby"⟩ ⟨text "alice"⟩) 1 ++
    handling (ServerEvent.accept 2 ⟨text "lobby"⟩ ⟨text "bob"⟩) 1 ++
      bobOffers 4 ++ [MediaAction.onTrack (bobSpeaks 0)]

end MediaServer

end Server
end Driscord
