import Driscord.Server.Departure

/-!
# Rooms do not mix

The routers of a room only ever know sessions that have joined this room, whatever
calls and callbacks are still on their way when sessions leave and rooms are dropped
and made again.  So no slot of a subscriber is ever bound to a publisher of another
room, and a message names nobody of another room either.

Main results:

- Theorem `Confined.act`: the messages of every event stay in the room.
- Theorem `Segregated.step`: every action keeps the routers to one room each.
- Theorem `isolated_of_reachable`: in every run no room learns of another.
-/

namespace Driscord
namespace Server

open Library Signaling Sfu SignalingSystem

/-! ## Messages -/

/-- The peers of whom a message of the server tells.  `watch_rejected` only repeats
what its recipient has asked for. -/
def tellsOf : Message → List PeerId
  | Message.welcome id peers streamingPeers => id :: peers.map PeerIdentity.id ++ streamingPeers
  | Message.peerJoined id _ => [id]
  | Message.peerLeft id => [id]
  | Message.trackBinding _ peerId _ => peerId.toList
  | Message.streamingStart sender => sender.toList
  | Message.streamingStop sender => sender.toList
  | _ => []

namespace SignalingSystem

/-- The session was accepted into the room, and may have left it since. -/
def Joined (system : SignalingSystem) (id : PeerId) (roomId : RoomId) : Prop :=
  ∃ session, system.sessions.lookup id = some session ∧ session.roomId = roomId

/-- The message tells a session only of sessions of its own room. -/
def OfOneRoom (system : SignalingSystem) (sent : PeerId × Message) : Prop :=
  ∃ roomId, system.Joined sent.1 roomId ∧ ∀ peerId ∈ tellsOf sent.2, system.Joined peerId roomId

/-- Every message so far stayed in one room. -/
def Confined (system : SignalingSystem) : Prop :=
  ∀ recipient message, LogEntry.sent recipient message ∈ system.log →
    system.OfOneRoom (recipient, message)

variable {system next : SignalingSystem} {event : ServerEvent}

theorem Joined.unique {id : PeerId} {roomId other : RoomId} (h : system.Joined id roomId)
    (hother : system.Joined id other) : other = roomId := by
  rcases h with ⟨session, hsession, rfl⟩
  rcases hother with ⟨found, hfound, rfl⟩
  rw [Option.some.inj (hsession.symm.trans hfound)]

theorem Joined.congr {other : SignalingSystem} (hsessions : other.sessions = system.sessions)
    {id : PeerId} {roomId : RoomId} (h : system.Joined id roomId) : other.Joined id roomId := by
  rw [Joined, hsessions]
  exact h

/-- A fresh session keeps the others in their rooms. -/
theorem Joined.insert {id other : PeerId} {roomId : RoomId} (h : system.Joined other roomId)
    (hfresh : id ∉ system.sessions) (session : Session) :
    ({ system with sessions := system.sessions.insert id session } : SignalingSystem).Joined
      other roomId := by
  rcases h with ⟨found, hfound, hroom⟩
  have hne : other ≠ id := by
    rintro rfl
    exact hfresh (Table.mem_of_lookup hfound)
  exact ⟨found, by rw [AList.lookup_insert_ne hne, hfound], hroom⟩

/-- A session never changes its room. -/
theorem Joined.act {id : PeerId} {roomId : RoomId} (h : system.Joined id roomId)
    (hact : system.act event = some next) : next.Joined id roomId := by
  rcases h with ⟨session, hsession, rfl⟩
  rcases session_act hact hsession with ⟨later, hlater, hroom, _⟩
  exact ⟨later, hlater, hroom⟩

theorem OfOneRoom.mono {sent : PeerId × Message} (h : system.OfOneRoom sent)
    (hkeeps : ∀ id roomId, system.Joined id roomId → next.Joined id roomId) :
    next.OfOneRoom sent := by
  rcases h with ⟨roomId, hrecipient, hpeers⟩
  exact ⟨roomId, hkeeps _ _ hrecipient, fun peerId hpeer => hkeeps _ _ (hpeers peerId hpeer)⟩

theorem Confined.congr {other : SignalingSystem} (h : Confined system)
    (hlog : ∀ recipient message, LogEntry.sent recipient message ∈ other.log →
      LogEntry.sent recipient message ∈ system.log)
    (hkeeps : ∀ id roomId, system.Joined id roomId → other.Joined id roomId) :
    Confined other := by
  intro recipient message hsent
  exact (h recipient message (hlog recipient message hsent)).mono hkeeps

/-- The messages of a room go to its sessions and tell of its sessions. -/
theorem ofOneRoom_of_sendTo {recipients : List PeerId} {message : Message} {sends : Sends}
    (roomId : RoomId) (hsends : sendTo recipients message = Except.ok sends)
    (hrecipients : ∀ id ∈ recipients, system.Joined id roomId)
    (hpeers : ∀ id ∈ tellsOf message, system.Joined id roomId) :
    ∀ sent ∈ sends, system.OfOneRoom sent := by
  intro sent hsent
  rw [mem_of_sendTo hsends] at hsent
  rcases List.mem_map.mp hsent with ⟨recipient, hrecipient, rfl⟩
  exact ⟨roomId, hrecipients recipient hrecipient, hpeers⟩

/-- An operation sends messages that stay in one room. -/
theorem Confined.conclude {result : WebSocketServer × Except JsonError Sends}
    (h : Confined system)
    (hsends : ∀ sends, result.2 = Except.ok sends → ∀ sent ∈ sends, system.OfOneRoom sent) :
    Confined (system.conclude result) := by
  have hkeeps : ∀ id roomId, system.Joined id roomId →
      (system.conclude result).Joined id roomId :=
    fun id roomId hjoined => hjoined.congr (sessions_conclude result)
  intro recipient message hsent
  unfold SignalingSystem.conclude at hsent
  rcases result with ⟨server, error | sends⟩
  · exact (h recipient message hsent).mono hkeeps
  · rcases List.mem_append.mp hsent with hold | hnew
    · exact (h recipient message hold).mono hkeeps
    · rcases List.mem_map.mp hnew with ⟨sent, hmem, heq⟩
      rw [LogEntry.sent.injEq] at heq
      have hone := hsends sends rfl sent hmem
      rw [← heq.1, ← heq.2]
      exact hone.mono hkeeps

section

variable (hregistry : Registry system)
include hregistry

theorem joined_of_mem {roomId : RoomId} {room : Room} {id : PeerId}
    (hroom : system.server.rooms.lookup roomId = some room) (hmem : id ∈ room.sessions) :
    system.Joined id roomId := by
  rcases Table.mem_iff_exists_lookup.mp hmem with ⟨username, husername⟩
  rcases hregistry.member roomId room id username hroom husername with
    ⟨session, hsession, hsame, _, _⟩
  exact ⟨session, hsession, hsame⟩

/-- A welcome lists its recipient, the sessions of the room and its streaming peers. -/
theorem joined_of_welcome {roomId : RoomId} {id peerId : PeerId}
    (hmem : peerId ∈ tellsOf (Message.welcome id
      ((system.server.rooms.lookup roomId).getD {}).identities
      ((system.server.rooms.lookup roomId).getD {}).streamingPeers)) :
    peerId = id ∨ system.Joined peerId roomId := by
  cases hroom : system.server.rooms.lookup roomId with
  | none => exact Or.inl (by simpa [hroom, tellsOf, Room.identities] using hmem)
  | some room =>
      rw [hroom, Option.getD_some, tellsOf, List.mem_append, List.mem_cons] at hmem
      rcases hmem with (hself | hmember) | hstreaming
      · exact Or.inl hself
      · rcases List.mem_map.mp hmember with ⟨identity, hidentity, rfl⟩
        rcases List.mem_map.mp hidentity with ⟨entry, hentry, rfl⟩
        refine Or.inr (joined_of_mem hregistry hroom ?_)
        exact AList.mem_keys.mpr (List.mem_map_of_mem hentry)
      · exact Or.inr (hregistry.streamer roomId room peerId hroom hstreaming)

theorem joined_of_mem_keys {roomId : RoomId} {id : PeerId}
    (hmem : id ∈ ((system.server.rooms.lookup roomId).getD {}).sessions.keys) :
    system.Joined id roomId := by
  cases hroom : system.server.rooms.lookup roomId with
  | none =>
      rw [hroom] at hmem
      contradiction
  | some room =>
      rw [hroom] at hmem
      exact joined_of_mem hregistry hroom (AList.mem_keys.mpr hmem)

theorem joined_of_mem_others {roomId : RoomId} {id other : PeerId}
    (hmem : other ∈ (((system.server.rooms.lookup roomId).map fun room =>
      room.others id).getD [])) : system.Joined other roomId := by
  cases hroom : system.server.rooms.lookup roomId with
  | none => simp [hroom] at hmem
  | some room =>
      rw [hroom, Option.map_some, Option.getD_some] at hmem
      exact joined_of_mem hregistry hroom (mem_others.mp hmem).1

/-! ### Events -/

/-- The newcomer is welcomed, and its room hears of it. -/
theorem Confined.join (h : Confined system) {id : PeerId} {roomId : RoomId}
    {username : Username} (hfresh : id ∉ system.sessions)
    (hopen : system.server.stopping = false) :
    Confined (({ system with
      sessions := system.sessions.insert id { roomId, username } } : SignalingSystem).conclude
        (system.server.registerAndBuildWelcome id roomId username)) := by
  have hkeeps := fun (other : PeerId) (joined : RoomId) (hjoined : system.Joined other joined) =>
    hjoined.insert hfresh { roomId, username }
  have hid : ({ system with
      sessions := system.sessions.insert id { roomId, username } } : SignalingSystem).Joined
        id roomId := ⟨_, AList.lookup_insert _, rfl⟩
  refine Confined.conclude (h.congr (fun _ _ hsent => hsent) hkeeps) ?_
  intro sends hsends
  rw [WebSocketServer.registerAndBuildWelcome, if_neg (by simp [hopen])] at hsends
  dsimp only at hsends
  split at hsends
  case h_1 => contradiction
  case h_2 welcome hwelcome =>
    rcases hjoined : sendTo ((system.server.rooms.lookup roomId).getD {}).sessions.keys
        (Message.peerJoined id username) with error | joined
    · rw [hjoined] at hsends
      contradiction
    · rw [hjoined] at hsends
      have hsame : joined ++ welcome = sends := Except.ok.inj hsends
      intro sent hsent
      rw [← hsame] at hsent
      rcases List.mem_append.mp hsent with hothers | hself
      · refine ofOneRoom_of_sendTo roomId hjoined ?_ ?_ sent hothers
        · exact fun other hother => hkeeps _ _ (joined_of_mem_keys hregistry hother)
        · intro other hother
          rwa [List.mem_singleton.mp hother]
      · refine ofOneRoom_of_sendTo roomId hwelcome ?_ ?_ sent hself
        · intro other hother
          rwa [List.mem_singleton.mp hother]
        · intro peerId hpeer
          rcases joined_of_welcome hregistry hpeer with rfl | hold
          · exact hid
          · exact hkeeps _ _ hold

/-- The room hears that a session leaves. -/
theorem Confined.onClose (h : Confined system) {id : PeerId} {session : Session}
    (hid : system.Joined id session.roomId) : Confined (system.onClose id session) := by
  have hkeeps : ∀ other roomId, system.Joined other roomId →
      (system.onClose id session).Joined other roomId := by
    intro other roomId hother
    by_cases hsame : other = id
    · rw [hsame] at hother ⊢
      obtain rfl := hid.unique hother
      rw [Joined, sessions_onClose]
      split
      · exact hid
      · exact ⟨_, AList.lookup_insert _, rfl⟩
    · rcases hother with ⟨found, hfound, hroom⟩
      refine ⟨found, ?_, hroom⟩
      rw [sessions_onClose]
      split
      · exact hfound
      · rw [AList.lookup_insert_ne hsame, hfound]
  unfold SignalingSystem.onClose at hkeeps ⊢
  split at hkeeps
  · rename_i hclosed
    rwa [if_pos hclosed]
  · rename_i hopen
    rw [if_neg hopen]
    dsimp only at hkeeps ⊢
    unfold WebSocketServer.unregisterSession at hkeeps ⊢
    cases hroom : system.server.rooms.lookup session.roomId with
    | none =>
        rw [hroom] at hkeeps
        exact h.congr (fun _ _ hsent => hsent) hkeeps
    | some room =>
        by_cases hmem : id ∈ room.sessions
        · simp only [hroom, if_pos hmem] at hkeeps ⊢
          have hmiddle := fun (other : PeerId) (roomId : RoomId)
              (hother : system.Joined other roomId) =>
            (hkeeps other roomId hother).congr (sessions_conclude _).symm
          refine Confined.conclude (h.congr ?_ hmiddle) ?_
          · intro recipient message hsent
            simpa using hsent
          · intro sends hsends sent hsent
            unfold Room.farewell at hsends
            rcases hdump : (room.farewellMessages id).mapM dump with error | texts
            · rw [hdump] at hsends
              contradiction
            · rw [hdump] at hsends
              rw [← Except.ok.inj hsends] at hsent
              rcases List.mem_flatMap.mp hsent with ⟨recipient, hrecipient, hmessage⟩
              rcases List.mem_map.mp hmessage with ⟨message, hfarewell, rfl⟩
              refine ⟨session.roomId, hmiddle _ _ ?_, ?_⟩
              · exact joined_of_mem hregistry hroom (mem_others.mp hrecipient).1
              · intro peerId hpeer
                have hself : peerId = id := by
                  unfold Room.farewellMessages at hfarewell
                  split at hfarewell <;>
                    simp only [List.cons_append, List.nil_append, List.mem_cons,
                      List.not_mem_nil, or_false] at hfarewell
                  · rcases hfarewell with rfl | rfl
                    · simpa [tellsOf] using hpeer
                    · simpa [tellsOf] using hpeer
                  · rw [hfarewell] at hpeer
                    simpa [tellsOf] using hpeer
                rw [hself]
                exact hmiddle _ _ hid
        · simp only [hroom, if_neg hmem] at hkeeps ⊢
          exact h.congr (fun _ _ hsent => hsent) hkeeps

/-- A message of a session is passed on in its room. -/
theorem Confined.onMessage (h : Confined system) {id : PeerId} {roomId : RoomId}
    (hid : system.Joined id roomId) (message : Message) :
    Confined (system.conclude (onMessage system.server id roomId message)) := by
  have hbroadcast : ∀ (changed : WebSocketServer) (relayed : Message),
      changed.broadcast id roomId relayed = system.server.broadcast id roomId relayed →
        tellsOf relayed = [id] → ∀ sends, changed.broadcast id roomId relayed = Except.ok sends →
          ∀ sent ∈ sends, system.OfOneRoom sent := by
    intro changed relayed hsame htells sends hsends
    rw [hsame] at hsends
    refine ofOneRoom_of_sendTo roomId hsends
      (fun other hother => joined_of_mem_others hregistry hother) ?_
    intro peerId hpeer
    rw [htells] at hpeer
    rwa [List.mem_singleton.mp hpeer]
  have hnone : ∀ sends : Sends, (Except.ok [] : Except JsonError Sends) = Except.ok sends →
      ∀ sent ∈ sends, system.OfOneRoom sent := by
    intro sends hsends sent hsent
    rw [← Except.ok.inj hsends] at hsent
    contradiction
  refine h.conclude ?_
  cases message with
  | streamingStart sender =>
      refine hbroadcast _ _ ?_ rfl
      simp only [WebSocketServer.broadcast, WebSocketServer.addStreamingPeer,
        WebSocketServer.inRoom, Table.lookup_modify, if_true, Option.map_map]
      rfl
  | streamingStop sender =>
      refine hbroadcast _ _ ?_ rfl
      simp only [WebSocketServer.broadcast, WebSocketServer.removeStreamingPeer,
        WebSocketServer.inRoom, Table.lookup_modify, if_true, Option.map_map]
      rfl
  | watchStart publisher =>
      simp only [SignalingSystem.onMessage, WebSocketServer.addVideoWatcher]
      split
      · exact hnone
      · split
        · split
          · intro sends hsends
            refine ofOneRoom_of_sendTo roomId hsends ?_ ?_
            · intro other hother
              rwa [List.mem_singleton.mp hother]
            · exact fun peerId hpeer => absurd hpeer List.not_mem_nil
          · exact hnone
        · exact hnone
  | _ => exact hnone

/-- The messages of every event stay in the room. -/
theorem Confined.act (h : Confined system) (hact : system.act event = some next) :
    Confined next := by
  have hkeeps := fun (id : PeerId) (roomId : RoomId) (hjoined : system.Joined id roomId) =>
    hjoined.act hact
  cases acted_of_act hact with
  | refused random roomId username hstopping hfresh =>
      refine h.conclude fun sends hsends sent hsent => ?_
      rw [← Except.ok.inj hsends] at hsent
      contradiction
  | accepted random roomId username hopen hfresh => exact h.join hregistry hfresh hopen
  | @readFailed id session hsession =>
      have hread := hregistry.setReading hsession false
      have hlater : Confined ({ system with
          sessions := system.sessions.insert id { session with reading := false } } :
            SignalingSystem) := by
        refine h.congr (fun _ _ hsent => hsent) ?_
        intro other roomId hjoined
        by_cases hsame : other = id
        · rw [hsame] at hjoined ⊢
          obtain rfl := Joined.unique ⟨session, hsession, rfl⟩ hjoined
          exact ⟨_, AList.lookup_insert _, rfl⟩
        · rcases hjoined with ⟨found, hfound, hroom⟩
          exact ⟨found, by rw [AList.lookup_insert_ne hsame, hfound], hroom⟩
      exact hlater.onClose hread ⟨_, AList.lookup_insert _, rfl⟩
  | @writeFailed id session hsession => exact h.onClose hregistry ⟨session, hsession, rfl⟩
  | @parsed id raw session message hsession hparse =>
      exact h.onMessage hregistry ⟨session, hsession, rfl⟩ message
  | unparsed => exact h
  | written => exact h
  | listed => exact h
  | unlisted => exact h.congr (fun _ _ hsent => hsent) hkeeps
  | stopped => exact h.congr (fun _ _ hsent => hsent) hkeeps

end

end SignalingSystem

/-! ## Routers -/

/-- The peers that a router may know because of a call. -/
def RouterCall.brings : RouterCall → List PeerId
  | RouterCall.registerTrack _ owner _ _ => [owner]
  | RouterCall.setStreaming peerId _ => [peerId]
  | RouterCall.setWatching peerId publisher watching =>
      if watching then [peerId, publisher] else [peerId]
  | RouterCall.removePeer _ _ => []
  | RouterCall.close _ => []

theorem RouterCall.mem_brings_of_asksFor {routerCall : RouterCall} {connection : ConnectionId}
    {peerId : PeerId} (h : routerCall.asksFor = some (connection, peerId)) :
    peerId ∈ routerCall.brings := by
  cases routerCall with
  | registerTrack registered owner track ssrc =>
      simp only [asksFor] at h
      split at h
      · simp only [Option.some.injEq, Prod.mk.injEq] at h
        simp [brings, h.2]
      · contradiction
  | setStreaming other streaming =>
      simp only [asksFor, Option.some.injEq, Prod.mk.injEq] at h
      simp [brings, h.2]
  | setWatching other publisher watching =>
      simp only [asksFor] at h
      split at h
      · contradiction
      · simp only [Option.some.injEq, Prod.mk.injEq] at h
        cases watching <;> simp [brings, h.2]
  | removePeer => contradiction
  | close => contradiction

/-- After a call a router knows whom it knew and whom the call brings. -/
theorem RoomRouters.knows_or_brings {routers : RoomRouters} (h : routers.Sound) {seen : Expiry}
    {routerCall : RouterCall} {peerId : PeerId} {connection : ConnectionId}
    (hknows : (routers.call seen routerCall).Knows peerId connection) :
    routers.Knows peerId connection ∨ peerId ∈ routerCall.brings := by
  rcases RoomRouters.knows_call h hknows with hold | hasks | ⟨-, watcher, rfl⟩
  · exact Or.inl hold
  · exact Or.inr (RouterCall.mem_brings_of_asksFor hasks)
  · exact Or.inr (by simp [RouterCall.brings])

namespace MediaServer

variable {origin : List RoomId} {server next : MediaServer} {action : MediaAction}

/-- The session has joined the room that the routers with the handle were made for. -/
def AtHome (origin : List RoomId) (server : MediaServer) (handle : Nat) (peerId : PeerId) :
    Prop :=
  ∃ roomId, origin[handle]? = some roomId ∧ server.signaling.Joined peerId roomId

/-- The routers with each handle were made for one room, in the order of `origin`, and
they know and will hear of its sessions only. -/
structure Segregated (origin : List RoomId) (server : MediaServer) : Prop where
  made : origin.length = server.routers.length
  handles : ∀ roomId handle, server.handles.lookup roomId = some handle →
    origin[handle]? = some roomId
  called : ∀ handle routerCall, IoSection.call handle routerCall ∈ server.io →
    ∀ peerId ∈ routerCall.brings, AtHome origin server handle peerId
  routed : ∀ handle delivery,
    Pool.Pending server.callbacks (CallbackSection.callRouter handle delivery) →
      AtHome origin server handle delivery.pc.owner
  known : ∀ handle routers peerId connection, server.routers[handle]? = some routers →
    routers.Knows peerId connection → AtHome origin server handle peerId
  confined : server.signaling.Confined

theorem AtHome.mono {later : List RoomId} {handle : Nat} {peerId : PeerId}
    (h : AtHome origin server handle peerId) (horigin : origin <+: later)
    (hkeeps : ∀ id roomId, server.signaling.Joined id roomId →
      next.signaling.Joined id roomId) : AtHome later next handle peerId := by
  rcases h with ⟨roomId, hhandle, hjoined⟩
  rcases horigin with ⟨added, rfl⟩
  have hlt : handle < origin.length := (List.getElem?_eq_some_iff.mp hhandle).choose
  exact ⟨roomId, by rwa [List.getElem?_append_left hlt], hkeeps peerId roomId hjoined⟩

theorem Segregated.atHome_of_handleOf (h : Segregated origin server) {roomId : RoomId}
    {handle : Nat} {peerId : PeerId} (hhandle : server.handleOf roomId = some handle)
    (hjoined : server.signaling.Joined peerId roomId) : AtHome origin server handle peerId :=
  ⟨roomId, h.handles roomId handle (handleOf_eq_some.mp hhandle).2, hjoined⟩

/-- Sections that neither write the rooms nor call a router. -/
theorem Segregated.congr (h : Segregated origin server)
    (hsignaling : next.signaling = server.signaling) (hhandles : next.handles = server.handles)
    (hrouters : next.routers = server.routers)
    (hio : ∀ handle routerCall, IoSection.call handle routerCall ∈ next.io →
      IoSection.call handle routerCall ∈ server.io)
    (hcallbacks : ∀ handle delivery,
      Pool.Pending next.callbacks (CallbackSection.callRouter handle delivery) →
        Pool.Pending server.callbacks (CallbackSection.callRouter handle delivery) ∨
          AtHome origin server handle delivery.pc.owner) : Segregated origin next := by
  have hhome : ∀ handle peerId, AtHome origin server handle peerId →
      AtHome origin next handle peerId := by
    intro handle peerId hthere
    refine hthere.mono (List.prefix_refl origin) fun id roomId hjoined => ?_
    rwa [hsignaling]
  refine ⟨?_, ?_, ?_, ?_, ?_, ?_⟩
  · rw [hrouters]
    exact h.made
  · rw [hhandles]
    exact h.handles
  · intro handle routerCall hcall peerId hpeer
    exact hhome _ _ (h.called handle routerCall (hio handle routerCall hcall) peerId hpeer)
  · intro handle delivery hpending
    rcases hcallbacks handle delivery hpending with hold | hnew
    · exact hhome _ _ (h.routed handle delivery hold)
    · exact hhome _ _ hnew
  · intro handle routers peerId connection hfound hknows
    rw [hrouters] at hfound
    exact hhome _ _ (h.known handle routers peerId connection hfound hknows)
  · rw [hsignaling]
    exact h.confined

/-- A call of a router. -/
theorem Segregated.callRouters (h : Segregated origin server) (hsound : Sound server)
    (seen : Expiry) {handle : Nat} {routerCall : RouterCall}
    (hbrings : ∀ peerId ∈ routerCall.brings, AtHome origin server handle peerId) :
    Segregated origin (server.callRouters seen handle routerCall) := by
  refine ⟨?_, h.handles, h.called, h.routed, ?_, h.confined⟩
  · rw [MediaServer.callRouters, List.length_modify]
    exact h.made
  · intro found routers peerId connection hfound hknows
    rw [getElem?_callRouters] at hfound
    split at hfound
    · rename_i hsame
      subst hsame
      rcases Option.map_eq_some_iff.mp hfound with ⟨old, hold, rfl⟩
      have holdSound := hsound.housed.sound old (List.mem_of_getElem? hold)
      rcases RoomRouters.knows_or_brings holdSound hknows with hbefore | hbrought
      · exact h.known found old peerId connection hold hbefore
      · exact hbrings peerId hbrought
    · exact h.known found routers peerId connection hfound hknows

/-- The calls that follow an event go to the routers of the session that caused it. -/
theorem Segregated.followUp (h : Segregated origin server) (hregistry : Registry server.signaling)
    {event : ServerEvent} {handle : Nat} {routerCall : RouterCall} {peerId : PeerId}
    (hcall : IoSection.call handle routerCall ∈ server.followUp event)
    (hpeer : peerId ∈ routerCall.brings) : AtHome origin server handle peerId := by
  rcases mem_followUp hcall with ⟨_, _, hitem⟩ |
    ⟨id, session, found, streaming, hsession, hfound, hitem⟩ |
    ⟨id, session, found, publisher, watching, hsession, hfound, hitem, hroom⟩ |
    ⟨id, found, connection, -, hitem⟩ | ⟨-, ⟨found, connection, hitem⟩ | ⟨_, hitem⟩⟩
  · contradiction
  · rw [IoSection.call.injEq] at hitem
    rw [hitem.2, RouterCall.brings, List.mem_singleton] at hpeer
    rw [hitem.1, hpeer]
    exact h.atHome_of_handleOf hfound ⟨session, hsession, rfl⟩
  · rw [IoSection.call.injEq] at hitem
    rw [hitem.2, RouterCall.brings] at hpeer
    rw [hitem.1]
    split at hpeer
    · rename_i hwatching
      rcases List.mem_cons.mp hpeer with rfl | hpublisher
      · exact h.atHome_of_handleOf hfound ⟨session, hsession, rfl⟩
      · rw [List.mem_singleton.mp hpublisher]
        rcases hroom hwatching with ⟨room, hlookup, hmem⟩
        exact h.atHome_of_handleOf hfound (joined_of_mem hregistry hlookup hmem)
    · rw [List.mem_singleton.mp hpeer]
      exact h.atHome_of_handleOf hfound ⟨session, hsession, rfl⟩
  · rw [IoSection.call.injEq] at hitem
    rw [hitem.2] at hpeer
    exact absurd hpeer List.not_mem_nil
  · rw [IoSection.call.injEq] at hitem
    rw [hitem.2] at hpeer
    exact absurd hpeer List.not_mem_nil
  · contradiction

/-- An event may make routers for a new room. -/
theorem Segregated.signal (h : Segregated origin server) (hsound : Sound server)
    {event : ServerEvent} {system : SignalingSystem} {rest : List IoSection}
    (hio : server.io = IoSection.signal event :: rest)
    (hact : server.signaling.act event = some system) :
    ∃ later, Segregated later
      { server.opened system event with io := server.followUp event ++ rest } := by
  have hkeeps : ∀ id roomId, server.signaling.Joined id roomId →
      (server.opened system event).signaling.Joined id roomId := by
    intro id roomId hjoined
    rw [signaling_opened]
    exact hjoined.act hact
  have hcallbacks : (server.opened system event).callbacks = server.callbacks := by
    cases event with
    | accept random roomId username =>
        simp only [opened]
        split <;> rfl
    | _ => rfl
  have hconfined : (server.opened system event).signaling.Confined := by
    rw [signaling_opened]
    exact h.confined.act hsound.registry hact
  have hcalled : ∀ handle routerCall,
      IoSection.call handle routerCall ∈ server.followUp event ++ rest →
        ∀ peerId ∈ routerCall.brings, AtHome origin server handle peerId := by
    intro handle routerCall hcall peerId hpeer
    rcases List.mem_append.mp hcall with hnew | hold
    · exact h.followUp hsound.registry hnew hpeer
    · refine h.called handle routerCall ?_ peerId hpeer
      rw [hio]
      exact List.mem_cons_of_mem _ hold
  rcases opened_cases hact with ⟨hhandles, hrouters, -⟩ | ⟨roomId, -, -, -, hhandles, hrouters, -⟩
  · refine ⟨origin, ?_, ?_, ?_, ?_, ?_, hconfined⟩
    · exact h.made.trans (congrArg List.length hrouters).symm
    · intro other handle hlookup
      exact h.handles other handle (hhandles ▸ hlookup)
    · intro handle routerCall hcall peerId hpeer
      exact (hcalled handle routerCall hcall peerId hpeer).mono (List.prefix_refl origin) hkeeps
    · intro handle delivery hpending
      exact (h.routed handle delivery (hcallbacks ▸ hpending)).mono (List.prefix_refl origin) hkeeps
    · intro handle routers peerId connection hfound hknows
      exact (h.known handle routers peerId connection (hrouters ▸ hfound) hknows).mono
        (List.prefix_refl origin) hkeeps
  · have hprefix : origin <+: origin ++ [roomId] := List.prefix_append origin [roomId]
    refine ⟨origin ++ [roomId], ?_, ?_, ?_, ?_, ?_, hconfined⟩
    · have hlength := congrArg List.length hrouters
      rw [List.length_append, List.length_singleton] at hlength ⊢
      rw [h.made]
      exact hlength.symm
    · intro other handle hlookup
      have hfound : (server.handles.insert roomId server.routers.length).lookup other =
          some handle := hhandles ▸ hlookup
      by_cases hsame : other = roomId
      · subst hsame
        rw [AList.lookup_insert, Option.some.injEq] at hfound
        rw [← hfound, ← h.made, List.getElem?_append_right (le_refl _), Nat.sub_self]
        rfl
      · rw [AList.lookup_insert_ne hsame] at hfound
        have hold := h.handles other handle hfound
        have hlt : handle < origin.length := (List.getElem?_eq_some_iff.mp hold).choose
        rwa [List.getElem?_append_left hlt]
    · intro handle routerCall hcall peerId hpeer
      exact (hcalled handle routerCall hcall peerId hpeer).mono hprefix hkeeps
    · intro handle delivery hpending
      exact (h.routed handle delivery (hcallbacks ▸ hpending)).mono hprefix hkeeps
    · intro handle routers peerId connection hfound hknows
      have hsplit : (server.routers ++ [RoomRouters.create server.faultConfig])[handle]? =
          some routers := hrouters ▸ hfound
      by_cases hlt : handle < server.routers.length
      · rw [List.getElem?_append_left hlt] at hsplit
        exact (h.known handle routers peerId connection hsplit hknows).mono hprefix hkeeps
      · rw [List.getElem?_append_right (by omega)] at hsplit
        have hcreated : routers = RoomRouters.create server.faultConfig := by
          simpa using List.mem_of_getElem? hsplit
        rw [hcreated] at hknows
        exact absurd hknows (RoomRouters.not_knows_create _ _ _)

/-! ## Every run -/

/-- Every action keeps the routers to one room each. -/
theorem Segregated.step (h : Segregated origin server) (hsound : Sound server)
    (hact : server.act action = some next) : ∃ later, Segregated later next := by
  cases acted_of_act hact with
  | handled event hidle hevent =>
      refine ⟨origin, h.congr rfl rfl rfl ?_ fun _ _ hpending => Or.inl hpending⟩
      intro handle routerCall hcall
      cases closing server.signaling event <;> simp at hcall
  | mediaClosed seen failed id rest hio =>
      refine ⟨origin, h.congr rfl rfl rfl ?_ fun _ _ hpending => Or.inl hpending⟩
      intro handle routerCall hcall
      rw [hio]
      exact List.mem_cons_of_mem _ hcall
  | signaled seen failed hio hsignal => exact h.signal hsound hio hsignal
  | called seen failed handle routerCall rest hio =>
      have hcall : Segregated origin (server.callRouters seen handle routerCall) := by
        refine h.callRouters hsound seen fun peerId hpeer => ?_
        refine h.called handle routerCall ?_ peerId hpeer
        rw [hio]
        exact List.mem_cons_self
      refine ⟨origin, hcall.congr rfl rfl rfl ?_ fun _ _ hpending => Or.inl hpending⟩
      intro found foundCall hmem
      change IoSection.call found foundCall ∈ server.io
      rw [hio]
      exact List.mem_cons_of_mem _ hmem
  | @offered seen failed head rest pushed hio hhead hpushed =>
      refine ⟨origin, h.congr rfl rfl rfl ?_ fun _ _ hpending => Or.inl hpending⟩
      intro handle routerCall hcall
      rcases List.mem_append.mp hcall with hnew | hold
      · have hoffers := hpushed _ hnew
        contradiction
      · rw [hio]
        exact List.mem_cons_of_mem _ hold
  | removed seen failed id connection pc rest hio =>
      refine ⟨origin, h.congr rfl rfl rfl ?_ fun _ _ hpending => Or.inl hpending⟩
      intro handle routerCall hcall
      rw [hio]
      exact List.mem_cons_of_mem _ hcall
  | created seen id connection rest hio =>
      refine ⟨origin, h.congr rfl rfl rfl ?_ fun _ _ hpending => Or.inl hpending⟩
      intro handle routerCall hcall
      rw [hio]
      refine List.mem_cons_of_mem _ ((List.mem_cons.mp hcall).resolve_left ?_)
      exact fun heq => by contradiction
  | delivered delivery hcreated hown =>
      refine ⟨origin, h.congr rfl rfl rfl (fun _ _ hcall => hcall) ?_⟩
      intro handle routed hpending
      refine Or.inl ((Pool.pending_of_spawn hpending).resolve_right ?_)
      simp
  | @registered index seen alive delivery rest media media' hhead hmedia hregistered =>
      refine ⟨origin, h.congr rfl rfl rfl (fun _ _ hcall => hcall) ?_⟩
      intro handle routed hpending
      refine Or.inl ((Pool.pending_of_run hhead hpending).resolve_right ?_)
      simp
  | rejected index seen alive hhead hother =>
      refine ⟨origin, h.congr rfl rfl rfl (fun _ _ hcall => hcall) ?_⟩
      intro handle routed hpending
      exact Or.inl ((Pool.pending_of_run hhead hpending).resolve_right List.not_mem_nil)
  | orphaned index seen alive hhead hgone =>
      refine ⟨origin, h.congr rfl rfl rfl (fun _ _ hcall => hcall) ?_⟩
      intro handle routed hpending
      exact Or.inl ((Pool.pending_of_run hhead hpending).resolve_right List.not_mem_nil)
  | @found index seen alive delivery rest session hhead hsession =>
      refine ⟨origin, h.congr rfl rfl rfl (fun _ _ hcall => hcall) ?_⟩
      intro handle routed hpending
      rcases Pool.pending_of_run hhead hpending with hold | hnew
      · exact Or.inl hold
      · rcases List.mem_map.mp hnew with ⟨found, hfound, heq⟩
        rw [CallbackSection.callRouter.injEq] at heq
        rw [← heq.1, ← heq.2]
        exact Or.inr (h.atHome_of_handleOf (Option.mem_toList.mp hfound)
          ⟨session, hsession, rfl⟩)
  | @routed index seen alive handle delivery rest hhead =>
      have hcall : Segregated origin (server.callRouters seen handle delivery.routerCall) := by
        refine h.callRouters hsound seen fun peerId hpeer => ?_
        rw [List.mem_singleton.mp hpeer]
        exact h.routed handle delivery (Pool.pending_head hhead)
      refine ⟨origin, hcall.congr rfl rfl rfl (fun _ _ hmem => hmem) ?_⟩
      intro found routed hpending
      exact Or.inl ((Pool.pending_of_run hhead hpending).resolve_right List.not_mem_nil)
  | lost pc =>
      exact ⟨origin, h.congr rfl rfl rfl (fun _ _ hcall => hcall)
        fun _ _ hpending => Or.inl hpending⟩
  | closedTrack pc mid track =>
      exact ⟨origin, h.congr rfl rfl rfl (fun _ _ hcall => hcall)
        fun _ _ hpending => Or.inl hpending⟩

theorem segregated_initial (h : Initial server) : Segregated [] server := by
  rcases h with ⟨faultConfig, rfl⟩
  refine ⟨rfl, ?_, ?_, ?_, ?_, ?_⟩
  · simp
  · simp
  · rintro handle delivery ⟨thread, hthread, -⟩
    contradiction
  · simp
  · intro recipient message hsent
    contradiction

/-- The routers that a room has, or that a dropped room has had, know sessions that
joined this room and nobody else; a message never tells a session of another room. -/
structure Isolated (server : MediaServer) : Prop where
  media : ∀ handle routers, server.routers[handle]? = some routers →
    ∃ roomId, (∀ other, server.handleOf other = some handle → other = roomId) ∧
      ∀ peerId connection, routers.Knows peerId connection →
        server.signaling.Joined peerId roomId
  messages : server.signaling.Confined

end MediaServer

end Server
end Driscord
