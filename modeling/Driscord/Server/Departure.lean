import Driscord.Server.MediaServerInvariant

/-!
# Peers that have left their room

`unregister_session` takes a session out of its room and then removes the peer from
both routers.  The routers make a state for every peer that a call looks for, so a
call that comes after the removal brings the peer back.

Main results:

- Theorem `Accounted.step`: the invariant of runs in which every call looks for a peer
  that is in the room or will still be removed.
- Theorem `departed_of_reachable`: there no router knows a peer that has left.
- Theorem `late_registration_revives`: otherwise it may.
-/

namespace Driscord
namespace Server

open Library Signaling Sfu SignalingSystem

/-- The call that a section makes, if it makes one. -/
def IoSection.called : IoSection → Option (Nat × RouterCall)
  | IoSection.call handle routerCall => some (handle, routerCall)
  | _ => none

namespace RoomRouters

theorem not_knows_create (faultConfig : RtpFaultConfig) (peerId : PeerId)
    (connection : ConnectionId) : ¬ (create faultConfig).Knows peerId connection := by
  have hsound := sound_create faultConfig
  intro hknows
  cases connection with
  | voice => exact absurd (hsound.knows_voice_iff.mp hknows) (AList.notMem_empty peerId)
  | screen =>
      rcases hsound.knows_screen_iff.mp hknows with hmem | ⟨subscriber, hwatched⟩
      · exact absurd hmem (AList.notMem_empty peerId)
      · exact absurd (ScreenRouter.mem_peers_of_mem_watchedOf hwatched)
          (AList.notMem_empty subscriber)

end RoomRouters

namespace MediaServer

variable {server next : MediaServer} {action : MediaAction}

/-! ## What is promised -/

/-- The calls that the io thread still has to make. -/
def pendingCalls (server : MediaServer) : List (Nat × RouterCall) :=
  server.io.filterMap IoSection.called

theorem mem_pendingCalls {handle : Nat} {routerCall : RouterCall} :
    (handle, routerCall) ∈ server.pendingCalls ↔
      IoSection.call handle routerCall ∈ server.io := by
  rw [pendingCalls, List.mem_filterMap]
  constructor
  · rintro ⟨item, hitem, hcalled⟩
    cases item with
    | call found foundCall =>
        rw [IoSection.called, Option.some.injEq, Prod.mk.injEq] at hcalled
        rwa [← hcalled.1, ← hcalled.2]
    | _ => contradiction
  · exact fun hmem => ⟨_, hmem, rfl⟩

/-- The session is in the room. -/
def InRoom (server : MediaServer) (roomId : RoomId) (peerId : PeerId) : Prop :=
  match server.signaling.server.rooms.lookup roomId with
  | some room => peerId ∈ room.sessions
  | none => False

instance (server : MediaServer) (roomId : RoomId) (peerId : PeerId) :
    Decidable (server.InRoom roomId peerId) := by
  unfold InRoom
  split <;> infer_instance

/-- The peer will still be removed from the router. -/
def Removing (server : MediaServer) (handle : Nat) (connection : ConnectionId)
    (peerId : PeerId) : Prop :=
  (handle, RouterCall.removePeer connection peerId) ∈ server.pendingCalls

instance (server : MediaServer) (handle : Nat) (connection : ConnectionId) (peerId : PeerId) :
    Decidable (server.Removing handle connection peerId) :=
  inferInstanceAs (Decidable (_ ∈ _))

/-- Once a session is not in a room and `unregister_session` has finished, no router of
the room knows its peer. -/
def Departed (server : MediaServer) : Prop :=
  ∀ roomId handle routers peerId, server.handleOf roomId = some handle →
    server.routers[handle]? = some routers → ¬ server.InRoom roomId peerId →
      (∀ connection, ¬ server.Removing handle connection peerId) →
        ∀ connection, ¬ routers.Knows peerId connection

/-- The peer that a call looks for is in the room of the router, or will still be
removed from it. -/
def Belongs (server : MediaServer) (handle : Nat) (routerCall : RouterCall) : Prop :=
  match routerCall.asksFor with
  | some (connection, peerId) =>
      ∀ roomId ∈ server.signaling.server.rooms.keys, server.handleOf roomId = some handle →
        server.InRoom roomId peerId ∨ server.Removing handle connection peerId
  | none => True

instance (server : MediaServer) (handle : Nat) (routerCall : RouterCall) :
    Decidable (server.Belongs handle routerCall) := by
  unfold Belongs
  split <;> infer_instance

/-- No call looks for a peer that has left and has been removed. -/
def Careful (server : MediaServer) : MediaAction → Prop
  | MediaAction.runIo _ _ =>
      match server.io.head?.bind IoSection.called with
      | some (handle, routerCall) => server.Belongs handle routerCall
      | none => True
  | MediaAction.runCallback index _ _ =>
      match server.callbacks[index]? with
      | some (CallbackSection.callRouter handle delivery :: _) =>
          server.Belongs handle delivery.routerCall
      | _ => True
  | _ => True

instance (server : MediaServer) (action : MediaAction) : Decidable (Careful server action) := by
  unfold Careful
  repeat' split
  all_goals infer_instance

/-- One action that is careful. -/
def CarefulStep (server next : MediaServer) : Prop :=
  ∃ action, Careful server action ∧ server.act action = some next

/-! ## The invariant -/

/-- Whom the routers know. -/
structure Accounted (server : MediaServer) : Prop where
  known : ∀ roomId handle routers peerId connection, server.handleOf roomId = some handle →
    server.routers[handle]? = some routers → routers.Knows peerId connection →
      server.InRoom roomId peerId ∨ server.Removing handle connection peerId
  watched : ∀ handle watcher publisher,
    (handle, RouterCall.setWatching watcher publisher true) ∈ server.pendingCalls →
      ∀ roomId, server.handleOf roomId = some handle → server.InRoom roomId publisher

theorem Accounted.departed (h : Accounted server) : Departed server := by
  intro roomId handle routers peerId hhandle hrouters habsent hremoved connection hknows
  rcases h.known roomId handle routers peerId connection hhandle hrouters hknows with hin | hgoing
  · exact habsent hin
  · exact hremoved connection hgoing

theorem inRoom_congr {server' : MediaServer} (hsignaling : server'.signaling = server.signaling)
    (roomId : RoomId) (peerId : PeerId) :
    server'.InRoom roomId peerId ↔ server.InRoom roomId peerId := by
  unfold InRoom
  rw [hsignaling]

theorem inRoom_iff {roomId : RoomId} {peerId : PeerId} :
    server.InRoom roomId peerId ↔
      ∃ room, server.signaling.server.rooms.lookup roomId = some room ∧
        peerId ∈ room.sessions := by
  unfold InRoom
  cases hroom : server.signaling.server.rooms.lookup roomId with
  | none => simp
  | some room => simp

/-- Threads that call no router leave it as it is. -/
theorem Accounted.congr {server' : MediaServer} (h : Accounted server)
    (hsignaling : server'.signaling = server.signaling)
    (hhandles : server'.handles = server.handles)
    (hrouters : server'.routers = server.routers)
    (hcalls : server'.pendingCalls = server.pendingCalls) : Accounted server' where
  known roomId handle routers peerId connection hhandle hfound hknows := by
    rw [handleOf_congr hsignaling hhandles] at hhandle
    rw [hrouters] at hfound
    rw [inRoom_congr hsignaling, Removing, hcalls]
    exact h.known roomId handle routers peerId connection hhandle hfound hknows
  watched handle watcher publisher hmem roomId hhandle := by
    rw [handleOf_congr hsignaling hhandles] at hhandle
    rw [hcalls] at hmem
    rw [inRoom_congr hsignaling]
    exact h.watched handle watcher publisher hmem roomId hhandle

/-! ### Calls -/

/-- After a call a router knows peers that are in its room or will be removed by another
call. -/
theorem Accounted.known_call (h : Accounted server) (hsound : Sound server) {seen : Expiry}
    {handle : Nat} {routerCall : RouterCall} (hbelongs : server.Belongs handle routerCall)
    (hwatched : ∀ watcher publisher, routerCall = RouterCall.setWatching watcher publisher true →
      ∀ roomId, server.handleOf roomId = some handle → server.InRoom roomId publisher)
    {roomId : RoomId} {found : Nat} {routers : RoomRouters} {peerId : PeerId}
    {connection : ConnectionId} (hfound : server.handleOf roomId = some found)
    (hrouters : (server.callRouters seen handle routerCall).routers[found]? = some routers)
    (hknows : routers.Knows peerId connection) :
    server.InRoom roomId peerId ∨ server.Removing found connection peerId ∧
      (found, RouterCall.removePeer connection peerId) ≠ (handle, routerCall) := by
  rw [getElem?_callRouters] at hrouters
  by_cases hsame : found = handle
  · subst hsame
    rw [if_pos rfl] at hrouters
    rcases Option.map_eq_some_iff.mp hrouters with ⟨old, hold, rfl⟩
    have holdSound := hsound.housed.sound old (List.mem_of_getElem? hold)
    have hother : RouterCall.removePeer connection peerId ≠ routerCall := by
      rintro rfl
      exact RoomRouters.not_knows_removePeer holdSound seen connection peerId hknows
    have hpair : (found, RouterCall.removePeer connection peerId) ≠ (found, routerCall) :=
      fun heq => hother (Prod.mk.inj heq).2
    rcases RoomRouters.knows_call holdSound hknows with hbefore | hasks | ⟨_, watcher, hwatch⟩
    · rcases h.known roomId found old peerId connection hfound hold hbefore with hin | hgoing
      · exact Or.inl hin
      · exact Or.inr ⟨hgoing, hpair⟩
    · rw [Belongs, hasks] at hbelongs
      have hroom := AList.mem_keys.mp (handleOf_eq_some.mp hfound).1
      rcases hbelongs roomId hroom hfound with hin | hgoing
      · exact Or.inl hin
      · exact Or.inr ⟨hgoing, hpair⟩
    · exact Or.inl (hwatched watcher peerId hwatch roomId hfound)
  · rw [if_neg hsame] at hrouters
    rcases h.known roomId found routers peerId connection hfound hrouters hknows with hin | hgoing
    · exact Or.inl hin
    · exact Or.inr ⟨hgoing, fun heq => hsame (Prod.mk.inj heq).1⟩

/-- The io thread makes a call. -/
theorem Accounted.called (h : Accounted server) (hsound : Sound server) (seen : Expiry)
    {handle : Nat} {routerCall : RouterCall} {rest : List IoSection}
    (hio : server.io = IoSection.call handle routerCall :: rest)
    (hbelongs : server.Belongs handle routerCall) :
    Accounted { server.callRouters seen handle routerCall with io := rest } := by
  have hcalls : server.pendingCalls = (handle, routerCall) :: rest.filterMap IoSection.called := by
    rw [pendingCalls, hio]
    rfl
  have hwatched : ∀ watcher publisher,
      routerCall = RouterCall.setWatching watcher publisher true →
        ∀ roomId, server.handleOf roomId = some handle → server.InRoom roomId publisher := by
    rintro watcher publisher rfl
    apply h.watched handle watcher publisher
    rw [hcalls]
    exact List.mem_cons_self
  constructor
  · intro roomId found routers peerId connection hfound hrouters hknows
    rcases h.known_call hsound hbelongs hwatched hfound hrouters hknows with hin | ⟨hgoing, hne⟩
    · exact Or.inl hin
    · rw [Removing, hcalls] at hgoing
      exact Or.inr ((List.mem_cons.mp hgoing).resolve_left hne)
  · intro found watcher publisher hmem
    apply h.watched found watcher publisher
    rw [hcalls]
    exact List.mem_cons_of_mem _ hmem

/-- A callback registers a track. -/
theorem Accounted.routed (h : Accounted server) (hsound : Sound server) (seen : Expiry)
    {handle : Nat} {delivery : Delivery} (callbacks : Pool CallbackSection)
    (hbelongs : server.Belongs handle delivery.routerCall) :
    Accounted { server.callRouters seen handle delivery.routerCall with
      callbacks := callbacks } := by
  refine ⟨?_, h.watched⟩
  intro roomId found routers peerId connection hfound hrouters hknows
  have hwatched : ∀ watcher publisher,
      delivery.routerCall = RouterCall.setWatching watcher publisher true →
        ∀ roomId, server.handleOf roomId = some handle → server.InRoom roomId publisher := by
    intro watcher publisher hwatch
    contradiction
  rcases h.known_call hsound hbelongs hwatched hfound hrouters hknows with hin | ⟨hgoing, _⟩
  · exact Or.inl hin
  · exact Or.inr hgoing

/-! ### Events -/

/-- Only a failed read or write closes a session. -/
theorem event_of_closing {system : SignalingSystem} {event : ServerEvent} {peerId : PeerId}
    (h : closing system event = some peerId) :
    event = ServerEvent.readFailed peerId ∨ event = ServerEvent.written peerId true := by
  have hself : ∀ id, closing system (ServerEvent.readFailed id) = some peerId → id = peerId := by
    intro id hid
    simp only [closing] at hid
    split at hid
    · split at hid
      · contradiction
      · exact Option.some.inj hid
    · contradiction
  cases event with
  | readFailed id =>
      rw [← hself id h]
      exact Or.inl rfl
  | written id failed =>
      cases failed with
      | true =>
          rw [← hself id h]
          exact Or.inr rfl
      | false => contradiction
  | _ => contradiction

/-- A session stays in its room while the room is there, unless the event closes it. -/
theorem inRoom_opened (hregistry : Registry server.signaling) {event : ServerEvent}
    {system : SignalingSystem} (hact : server.signaling.act event = some system)
    (hhoused : Housed (server.opened system event)) {roomId other : RoomId} {peerId : PeerId}
    (hother : other ∈ system.server.rooms) (hin : server.InRoom roomId peerId) :
    (server.opened system event).InRoom roomId peerId ∨
      closing server.signaling event = some peerId := by
  rcases inRoom_iff.mp hin with ⟨room, hroom, hmem⟩
  rcases Table.mem_iff_exists_lookup.mp hmem with ⟨username, husername⟩
  rcases hregistry.member roomId room peerId username hroom husername with
    ⟨session, hsession, hsame, _, hopen⟩
  rcases session_act hact hsession with ⟨later, hlater, hlaterRoom, hclosed | hclosing⟩
  · have hrunning : system.server.stopping = false := by
      by_contra hstopping
      rw [Bool.not_eq_false] at hstopping
      exact hhoused.stopped (by rwa [signaling_opened]) other (by rwa [signaling_opened])
    rcases (hregistry.step ⟨event, hact⟩).registered hrunning peerId later hlater
      (hclosed.trans hopen) with ⟨left, hleft, hstays⟩
    rw [hlaterRoom, hsame] at hleft
    exact Or.inl (inRoom_iff.mpr ⟨left, by rwa [signaling_opened], hstays⟩)
  · exact Or.inr hclosing

/-- A session that closes will be removed from the routers of its room. -/
theorem removing_followUp (hregistry : Registry server.signaling) {event : ServerEvent}
    {roomId : RoomId} {handle : Nat} {peerId : PeerId}
    (hclosing : closing server.signaling event = some peerId)
    (hhandle : server.handleOf roomId = some handle) (hin : server.InRoom roomId peerId)
    (connection : ConnectionId) :
    IoSection.call handle (RouterCall.removePeer connection peerId) ∈ server.followUp event := by
  rcases inRoom_iff.mp hin with ⟨room, hroom, hmem⟩
  rcases Table.mem_iff_exists_lookup.mp hmem with ⟨username, husername⟩
  rcases hregistry.member roomId room peerId username hroom husername with
    ⟨session, hsession, rfl, _, _⟩
  have hsections : IoSection.call handle (RouterCall.removePeer connection peerId) ∈
      server.unregisterSections peerId := by
    unfold unregisterSections
    simp only [hsession, hroom, if_pos hmem, hhandle, Option.toList_some, List.flatMap_singleton]
    cases connection <;> simp
  rcases event_of_closing hclosing with rfl | rfl
  · simp only [followUp, hclosing]
    exact hsections
  · simp only [followUp, hclosing]
    exact hsections

/-- The publisher of an accepted watch is in the room, and the event closes nobody. -/
theorem watched_followUp {event : ServerEvent} {handle : Nat} {watcher publisher : PeerId}
    (h : IoSection.call handle (RouterCall.setWatching watcher publisher true) ∈
      server.followUp event) :
    (∃ roomId, server.handleOf roomId = some handle ∧ server.InRoom roomId publisher) ∧
      ∀ peerId, closing server.signaling event ≠ some peerId := by
  constructor
  · rcases mem_followUp h with ⟨_, _, hitem⟩ | ⟨_, _, _, _, _, _, hitem⟩ |
      ⟨_, session, found, _, _, _, hfound, hitem, hroom⟩ | ⟨_, _, _, _, hitem⟩ |
      ⟨_, ⟨_, _, hitem⟩ | ⟨_, hitem⟩⟩
    · contradiction
    · simp at hitem
    · simp only [IoSection.call.injEq, RouterCall.setWatching.injEq] at hitem
      rcases hitem with ⟨rfl, rfl, rfl, rfl⟩
      exact ⟨session.roomId, hfound, inRoom_iff.mpr (hroom rfl)⟩
    · simp at hitem
    · simp at hitem
    · contradiction
  · intro peerId hclosing
    rcases mem_closing_followUp (event_of_closing hclosing) h with ⟨_, _, _, hitem⟩
    simp at hitem

theorem Accounted.signal (h : Accounted server) (hsound : Sound server) {event : ServerEvent}
    {system : SignalingSystem} {rest : List IoSection}
    (hio : server.io = IoSection.signal event :: rest)
    (hact : server.signaling.act event = some system) :
    Accounted { server.opened system event with io := server.followUp event ++ rest } := by
  rcases hsound.duties.signal_head hio with ⟨rfl, -⟩
  rw [List.append_nil]
  have hhoused := hsound.housed.signal hact
  have hidle : server.pendingCalls = [] := by
    rw [pendingCalls, hio]
    rfl
  constructor
  · intro roomId handle routers peerId connection hhandle hrouters hknows
    have hroom : roomId ∈ (server.opened system event).signaling.server.rooms :=
      (handleOf_eq_some.mp hhandle).1
    rw [signaling_opened] at hroom
    rcases handleOf_opened hact hhandle with hold | ⟨-, rfl, hnew⟩
    · rcases hsound.housed.exists_routers hold with ⟨old, hbefore, -⟩
      have hsame : some old = some routers := (getElem?_opened hact hbefore).symm.trans hrouters
      rw [hsame] at hbefore
      rcases h.known roomId handle routers peerId connection hold hbefore hknows with hin | hgoing
      · rcases inRoom_opened hsound.registry hact hhoused hroom hin with hstays | hclosing
        · exact Or.inl hstays
        · exact Or.inr (mem_pendingCalls.mpr
            (removing_followUp hsound.registry hclosing hold hin connection))
      · rw [Removing, hidle] at hgoing
        contradiction
    · have hcreated : (server.opened system event).routers[server.routers.length]? =
          some routers := hrouters
      rw [hnew, List.getElem?_append_right (le_refl _), Nat.sub_self] at hcreated
      rw [← Option.some.inj hcreated] at hknows
      exact absurd hknows (RoomRouters.not_knows_create _ _ _)
  · intro handle watcher publisher hmem roomId hhandle
    have hroom : roomId ∈ (server.opened system event).signaling.server.rooms :=
      (handleOf_eq_some.mp hhandle).1
    rw [signaling_opened] at hroom
    rcases watched_followUp (mem_pendingCalls.mp hmem) with ⟨⟨first, hfirst, hin⟩, hnobody⟩
    rcases handleOf_opened hact hhandle with hold | ⟨-, rfl, -⟩
    · obtain rfl := hsound.housed.room_eq hold hfirst
      rcases inRoom_opened hsound.registry hact hhoused hroom hin with hstays | hclosing
      · exact hstays
      · exact absurd hclosing (hnobody publisher)
    · have hlt := hsound.housed.inRange first _ (handleOf_eq_some.mp hfirst).2
      omega

/-! ## Every run -/

/-- Every careful action keeps the invariant. -/
theorem Accounted.step (h : Accounted server) (hsound : Sound server)
    (hcareful : Careful server action) (hact : server.act action = some next) :
    Accounted next := by
  cases acted_of_act hact with
  | handled event hidle hevent =>
      refine h.congr rfl rfl rfl ?_
      rw [pendingCalls, pendingCalls, hidle]
      cases closing server.signaling event <;> rfl
  | mediaClosed seen failed id rest hio =>
      refine h.congr rfl rfl rfl ?_
      rw [pendingCalls, pendingCalls, hio]
      rfl
  | signaled seen failed hio hsignal => exact h.signal hsound hio hsignal
  | called seen failed handle routerCall rest hio =>
      rw [Careful, hio] at hcareful
      exact h.called hsound seen hio hcareful
  | @offered seen failed head rest pushed hio hhead hpushed =>
      refine h.congr rfl rfl rfl ?_
      have hnone : ∀ item : IoSection, item.offers = true → item.called = none := by
        intro item hoffers
        cases item <;> first | rfl | contradiction
      rw [pendingCalls, pendingCalls, hio, List.filterMap_append,
        List.filterMap_cons_none (hnone head hhead),
        List.filterMap_eq_nil_iff.mpr fun item hitem => hnone item (hpushed item hitem)]
      rfl
  | removed seen failed id connection pc rest hio =>
      refine h.congr rfl rfl rfl ?_
      rw [pendingCalls, pendingCalls, hio]
      rfl
  | created seen id connection rest hio =>
      refine h.congr rfl rfl rfl ?_
      rw [pendingCalls, pendingCalls, hio]
      rfl
  | routed index seen alive hhead =>
      rw [Careful, hhead] at hcareful
      exact h.routed hsound seen _ hcareful
  | delivered => exact h.congr rfl rfl rfl rfl
  | registered => exact h.congr rfl rfl rfl rfl
  | rejected => exact h.congr rfl rfl rfl rfl
  | orphaned => exact h.congr rfl rfl rfl rfl
  | found => exact h.congr rfl rfl rfl rfl
  | lost => exact h.congr rfl rfl rfl rfl
  | closedTrack => exact h.congr rfl rfl rfl rfl

theorem accounted_initial (h : Initial server) : Accounted server := by
  rcases h with ⟨faultConfig, rfl⟩
  constructor <;> simp [handleOf]

/-- In every careful run no router knows a peer that has left. -/
theorem departed_of_reachable (h : Reachable Initial CarefulStep server) : Departed server := by
  apply Accounted.departed
  refine Reachable.invariant (fun _ hstart => accounted_initial hstart) ?_ h
  rintro state later hreachable haccounted ⟨action, hcareful, hact⟩
  have hsound : Sound state :=
    sound_of_reachable (hreachable.mono (fun _ _ ⟨action, _, hact⟩ => ⟨action, hact⟩))
  exact haccounted.step hsound hcareful hact

/-! ## Bob leaves -/

/-- Bob's session ends. -/
def bobLeaves : List MediaAction :=
  handling (ServerEvent.readFailed (generateId 2)) 4

/-- The track is registered before Bob leaves. -/
def departedServer : MediaServer :=
  (execute Careful act {} (bobJoins ++ registering 0 3 ++ bobLeaves)).getD {}

theorem departedServer_departed : Departed departedServer :=
  departed_of_reachable (Reachable.execute
    (fun _ action _ hcareful hact => ⟨action, hcareful, hact⟩) (Reachable.start ⟨{}, rfl⟩)
    (execute_eq_some_getD (by decide +kernel)))

/-- The callback has found the router before Bob leaves, and calls it afterwards. -/
def revivedServer : MediaServer :=
  (execute (fun _ _ => True) act {} (bobJoins ++ registering 0 2 ++ bobLeaves ++
    registering 0 1)).getD {}

/-- Everything has finished, Bob is not in the room, and its voice router has a state of
him. -/
theorem late_registration_revives :
    Reachable Initial Step revivedServer ∧ Quiet revivedServer ∧
      ¬ revivedServer.InRoom ⟨text "lobby"⟩ (generateId 2) ∧
      (∃ handle routers, revivedServer.handleOf ⟨text "lobby"⟩ = some handle ∧
        revivedServer.routers[handle]? = some routers ∧
          routers.Knows (generateId 2) ConnectionId.voice) ∧
      ¬ Departed revivedServer := by
  have hquiet : Quiet revivedServer := by
    constructor <;> decide +kernel
  have hleft : ¬ revivedServer.InRoom ⟨text "lobby"⟩ (generateId 2) := by
    decide +kernel
  have hhandle : revivedServer.handleOf ⟨text "lobby"⟩ = some 0 := by
    decide +kernel
  have hpeers : (revivedServer.routers[0]?).any (fun routers =>
      generateId 2 ∈ routers.voice.peers) = true := by
    decide +kernel
  rcases Option.any_eq_true .. |>.mp hpeers with ⟨routers, hrouters, hpeer⟩
  have hknows : routers.Knows (generateId 2) ConnectionId.voice :=
    Or.inl (of_decide_eq_true hpeer)
  refine ⟨?_, hquiet, hleft, ⟨0, routers, hhandle, hrouters, hknows⟩, ?_⟩
  · exact Reachable.execute (fun _ action _ _ hact => ⟨action, hact⟩) (Reachable.start ⟨{}, rfl⟩)
      (execute_eq_some_getD (by decide +kernel))
  · intro hdeparted
    refine hdeparted _ 0 routers _ hhandle hrouters hleft ?_ ConnectionId.voice hknows
    intro connection hremoving
    have hidle : revivedServer.pendingCalls = [] := by
      rw [pendingCalls, hquiet.1]
      rfl
    rw [Removing, hidle] at hremoving
    contradiction

end MediaServer

end Server
end Driscord
