import Driscord.Server.Departure

/-!
# Stopping the server

`stop` empties the rooms and then closes their routers and the media connections of
their sessions, while callbacks of the media library go on.  A callback that has found
a router before may still call it afterwards.

Main results:

- Theorem `Dismissed.step`: once the server stops, media connections are only left
  where `close_media_connections` is still due.
- Theorem `Stopping.step`: the routers that the rooms had are closed or about to be.
- Theorem `shut_down`: when the handler of `stop` has finished nothing is left, and
  nothing comes back.
-/

namespace Driscord
namespace Server

open Library Signaling Sfu SignalingSystem

namespace RoomRouters

theorem closed_close (routers : RoomRouters) (seen : Expiry) (connection : ConnectionId) :
    (routers.call seen (RouterCall.close connection)).closed connection = true := by
  cases connection with
  | voice =>
      simp only [call, closed, VoiceRouter.close]
      split
      · assumption
      · rfl
  | screen =>
      simp only [call, closed, ScreenRouter.close]
      split
      · assumption
      · rfl

/-- A closed router knows nobody. -/
theorem Sound.not_knows_of_closed {routers : RoomRouters} (h : routers.Sound)
    {connection : ConnectionId} (hclosed : routers.closed connection = true) (peerId : PeerId) :
    ¬ routers.Knows peerId connection := by
  intro hknows
  cases connection with
  | voice => exact h.emptied hclosed peerId (h.knows_voice_iff.mp hknows)
  | screen =>
      rcases h.knows_screen_iff.mp hknows with hmem | ⟨subscriber, hwatched⟩
      · exact h.screen.closed hclosed peerId hmem
      · exact h.screen.closed hclosed subscriber (ScreenRouter.mem_peers_of_mem_watchedOf hwatched)

end RoomRouters

namespace MediaServer

variable {served : Set Nat} {server next : MediaServer} {action : MediaAction}

/-! ## Media connections -/

/-- A server that stops has media connections only of sessions whose
`close_media_connections` is still due. -/
def Dismissed (server : MediaServer) : Prop :=
  server.signaling.server.stopping = true →
    ∀ id ∈ server.media, IoSection.closeMediaConnections id ∈ server.io

/-- Sections that leave the rooms alone and take no `close_media_connections` away. -/
theorem Dismissed.congr (h : Dismissed server) (hsignaling : next.signaling = server.signaling)
    (hmedia : ∀ id ∈ next.media, id ∈ server.media)
    (hio : ∀ id, IoSection.closeMediaConnections id ∈ server.io → id ∈ next.media →
      IoSection.closeMediaConnections id ∈ next.io) : Dismissed next := by
  intro hstopping id hid
  rw [hsignaling] at hstopping
  exact hio id (h hstopping id (hmedia id hid)) hid

/-- The sections of `stop` close the media connections of every session of a room. -/
theorem closeMedia_mem_stopSections {roomId : RoomId} {room : Room} {id : PeerId}
    (hroom : server.signaling.server.rooms.lookup roomId = some room)
    (hmem : id ∈ room.sessions) :
    IoSection.closeMediaConnections id ∈ server.followUp ServerEvent.stop := by
  have hentry : (⟨roomId, room⟩ : Sigma fun _ : RoomId => Room) ∈
      server.signaling.server.rooms.entries := AList.mem_lookup_iff.mp hroom
  refine List.mem_append_right _ (List.mem_flatMap.mpr ⟨_, hentry, ?_⟩)
  exact List.mem_map_of_mem (AList.mem_keys.mp hmem)

/-- A session with media connections is in a room until the server stops. -/
theorem exists_room_of_media (hsound : Sound server)
    (hrunning : server.signaling.server.stopping = false) {id : PeerId} (hid : id ∈ server.media) :
    ∃ roomId room, server.signaling.server.rooms.lookup roomId = some room ∧
      id ∈ room.sessions := by
  rcases hsound.owners id hid with ⟨session, hsession, hopen⟩
  rcases hsound.registry.registered hrunning id session hsession hopen with ⟨room, hroom, hmem⟩
  exact ⟨session.roomId, room, hroom, hmem⟩

theorem Dismissed.signal (h : Dismissed server) (hsound : Sound server) {event : ServerEvent}
    {system : SignalingSystem} {rest : List IoSection}
    (hio : server.io = IoSection.signal event :: rest)
    (hact : server.signaling.act event = some system) :
    Dismissed { server.opened system event with io := server.followUp event ++ rest } := by
  intro hstopping id hid
  have hstopped : system.server.stopping = true := by
    have hsystem : (server.opened system event).signaling.server.stopping = true := hstopping
    rwa [signaling_opened] at hsystem
  have hold : id ∈ server.media := by
    rcases mem_media_opened hid with hmem | ⟨hrunning, _⟩
    · exact hmem
    · rw [hstopped] at hrunning
      contradiction
  cases hbefore : server.signaling.server.stopping with
  | true =>
      have hdue := h hbefore id hold
      rw [hio] at hdue
      rcases List.mem_cons.mp hdue with heq | hrest
      · contradiction
      · exact List.mem_append_right _ hrest
  | false =>
      rcases (stopping_act hact).mp hstopped with hcontra | rfl
      · rw [hbefore] at hcontra
        contradiction
      · rcases exists_room_of_media hsound hbefore hold with ⟨roomId, room, hroom, hmem⟩
        exact List.mem_append_left _ (closeMedia_mem_stopSections hroom hmem)

/-- Every action keeps what is due. -/
theorem Dismissed.step (h : Dismissed server) (hsound : Sound server)
    (hact : server.act action = some next) : Dismissed next := by
  have hcons : ∀ (pushed : List IoSection) {head : IoSection} {rest : List IoSection} {id : PeerId},
      server.io = head :: rest → head ≠ IoSection.closeMediaConnections id →
        IoSection.closeMediaConnections id ∈ server.io →
          IoSection.closeMediaConnections id ∈ pushed ++ rest := by
    intro pushed head rest id hio hne hmem
    rw [hio] at hmem
    exact List.mem_append_right _ ((List.mem_cons.mp hmem).resolve_left (Ne.symm hne))
  cases acted_of_act hact with
  | handled event hidle hevent =>
      refine h.congr rfl (fun _ hid => hid) ?_
      intro id hdue
      rw [hidle] at hdue
      contradiction
  | mediaClosed seen failed id rest hio =>
      refine h.congr rfl (fun _ hid => (AList.mem_erase.mp hid).2) ?_
      intro other hdue hother
      refine hcons [] hio ?_ hdue
      rintro heq
      rw [IoSection.closeMediaConnections.injEq] at heq
      exact (AList.mem_erase.mp hother).1 heq.symm
  | signaled seen failed hio hsignal => exact h.signal hsound hio hsignal
  | called seen failed handle routerCall rest hio =>
      exact h.congr rfl (fun _ hid => hid) fun _ hdue _ => hcons [] hio (by simp) hdue
  | offered seen failed hio hhead hpushed =>
      refine h.congr rfl (fun _ hid => hid) fun _ hdue _ => hcons _ hio ?_ hdue
      rintro rfl
      contradiction
  | removed seen failed id connection pc rest hio =>
      exact h.congr rfl (fun _ hid => mem_modifyMedia hid) fun _ hdue _ =>
        hcons [] hio (by simp) hdue
  | created seen id connection rest hio =>
      exact h.congr rfl (fun _ hid => mem_modifyMedia hid) fun _ hdue _ =>
        hcons [_] hio (by simp) hdue
  | registered index seen alive hhead hmedia hregistered =>
      exact h.congr rfl (fun _ hid => mem_insertMedia hmedia hid) fun _ hdue _ => hdue
  | lost pc => exact h.congr rfl (fun _ hid => mem_modifyMedia hid) fun _ hdue _ => hdue
  | closedTrack pc mid track =>
      exact h.congr rfl (fun _ hid => mem_modifyMedia hid) fun _ hdue _ => hdue
  | delivered => exact h.congr rfl (fun _ hid => hid) fun _ hdue _ => hdue
  | rejected => exact h.congr rfl (fun _ hid => hid) fun _ hdue _ => hdue
  | orphaned => exact h.congr rfl (fun _ hid => hid) fun _ hdue _ => hdue
  | found => exact h.congr rfl (fun _ hid => hid) fun _ hdue _ => hdue
  | routed => exact h.congr rfl (fun _ hid => hid) fun _ hdue _ => hdue

theorem dismissed_of_reachable (h : Reachable Initial Step server) : Dismissed server := by
  refine Reachable.invariant (motive := Dismissed) ?_ ?_ h
  · rintro state ⟨faultConfig, rfl⟩ hstopping
    contradiction
  · rintro state later hreachable hstate ⟨action, hact⟩
    exact hstate.step (sound_of_reachable hreachable) hact

/-! ## Routers -/

/-- The router is closed, or `close` is still due. -/
def ClosedOrDue (server : MediaServer) (handle : Nat) (connection : ConnectionId) : Prop :=
  IoSection.call handle (RouterCall.close connection) ∈ server.io ∨
    ∀ routers, server.routers[handle]? = some routers → routers.closed connection = true

/-- `stop` is about to run while the rooms have these routers, or it has run. -/
def Stopping (served : Set Nat) (server : MediaServer) : Prop :=
  (server.io = [IoSection.signal ServerEvent.stop] ∧
      ∀ handle ∈ served, ∃ roomId, server.handleOf roomId = some handle) ∨
    server.signaling.server.stopping = true ∧
      ∀ handle ∈ served, ∀ connection, server.ClosedOrDue handle connection

/-- Sections that call no router. -/
theorem Stopping.congr (h : Stopping served server)
    (hsignaling : next.signaling = server.signaling) (hhandles : next.handles = server.handles)
    (hrouters : next.routers = server.routers)
    (hstop : server.io = [IoSection.signal ServerEvent.stop] → next.io = server.io)
    (hio : ∀ handle connection, IoSection.call handle (RouterCall.close connection) ∈ server.io →
      IoSection.call handle (RouterCall.close connection) ∈ next.io) : Stopping served next := by
  rcases h with ⟨hwaiting, hrooms⟩ | ⟨hstopping, hclosed⟩
  · refine Or.inl ⟨(hstop hwaiting).trans hwaiting, fun handle hserved => ?_⟩
    rcases hrooms handle hserved with ⟨roomId, hroom⟩
    exact ⟨roomId, by rw [handleOf_congr hsignaling hhandles, hroom]⟩
  · refine Or.inr ⟨by rwa [hsignaling], fun handle hserved connection => ?_⟩
    rcases hclosed handle hserved connection with hdue | hclosed
    · exact Or.inl (hio handle connection hdue)
    · refine Or.inr ?_
      rwa [hrouters]

/-- A call keeps closed routers closed, and `close` closes. -/
theorem ClosedOrDue.callRouters {handle : Nat} {connection : ConnectionId}
    (h : server.ClosedOrDue handle connection) (seen : Expiry) (called : Nat)
    (routerCall : RouterCall) {io : List IoSection}
    (hio : ∀ item ∈ server.io, item ∈ io ∨ item = IoSection.call called routerCall) :
    ClosedOrDue { server.callRouters seen called routerCall with io := io } handle connection := by
  have hcalled : ∀ routers,
      (server.callRouters seen called routerCall).routers[handle]? = some routers →
        (∀ old, server.routers[handle]? = some old → old.closed connection = true) ∨
            called = handle ∧ routerCall = RouterCall.close connection →
          routers.closed connection = true := by
    intro routers hfound hcause
    rw [getElem?_callRouters] at hfound
    split at hfound
    · rcases Option.map_eq_some_iff.mp hfound with ⟨old, hold, rfl⟩
      by_cases hclose : routerCall = RouterCall.close connection
      · rw [hclose]
        exact RoomRouters.closed_close old seen connection
      · rw [RoomRouters.closed_call old seen hclose]
        rcases hcause with hbefore | ⟨-, hcontra⟩
        · exact hbefore old hold
        · exact absurd hcontra hclose
    · rename_i hne
      rcases hcause with hbefore | ⟨hcontra, -⟩
      · exact hbefore routers hfound
      · exact absurd hcontra.symm hne
  rcases h with hdue | hclosed
  · rcases hio _ hdue with hstays | heq
    · exact Or.inl hstays
    · rw [IoSection.call.injEq] at heq
      exact Or.inr fun routers hfound => hcalled routers hfound (Or.inr ⟨heq.1.symm, heq.2.symm⟩)
  · exact Or.inr fun routers hfound => hcalled routers hfound (Or.inl hclosed)

/-- The sections of `stop` close the routers of every room. -/
theorem close_mem_stopSections {roomId : RoomId} {handle : Nat}
    (hhandle : server.handleOf roomId = some handle) (connection : ConnectionId) :
    IoSection.call handle (RouterCall.close connection) ∈ server.followUp ServerEvent.stop := by
  have hmem : handle ∈ server.signaling.server.rooms.keys.filterMap server.handleOf :=
    List.mem_filterMap.mpr ⟨roomId, AList.mem_keys.mp (handleOf_eq_some.mp hhandle).1, hhandle⟩
  refine List.mem_append_left _ ?_
  cases connection with
  | voice => exact List.mem_append_left _ (List.mem_map_of_mem hmem)
  | screen => exact List.mem_append_right _ (List.mem_map_of_mem hmem)

theorem Stopping.signal (h : Stopping served server) {event : ServerEvent}
    {system : SignalingSystem} {rest : List IoSection}
    (hio : server.io = IoSection.signal event :: rest)
    (hact : server.signaling.act event = some system) :
    Stopping served { server.opened system event with io := server.followUp event ++ rest } := by
  have hsystem : (server.opened system event).signaling = system := signaling_opened ..
  right
  rcases h with ⟨hwaiting, hrooms⟩ | ⟨hstopping, hclosed⟩
  · rw [hwaiting, List.cons.injEq, IoSection.signal.injEq] at hio
    rw [← hio.1] at hact hsystem ⊢
    refine ⟨?_, fun handle hserved connection => Or.inl ?_⟩
    · change (server.opened system ServerEvent.stop).signaling.server.stopping = true
      rw [hsystem]
      exact (stopping_act hact).mpr (Or.inr rfl)
    · rcases hrooms handle hserved with ⟨roomId, hroom⟩
      exact List.mem_append_left _ (close_mem_stopSections hroom connection)
  · refine ⟨?_, fun handle hserved connection => ?_⟩
    · change (server.opened system event).signaling.server.stopping = true
      rw [hsystem]
      exact (stopping_act hact).mpr (Or.inl hstopping)
    · rcases hclosed handle hserved connection with hdue | hbefore
      · rw [hio] at hdue
        rcases List.mem_cons.mp hdue with heq | hrest
        · contradiction
        · exact Or.inl (List.mem_append_right _ hrest)
      · -- A server that stops makes no routers.
        refine Or.inr fun routers hfound => ?_
        rcases opened_cases hact with ⟨-, hrouters, -⟩ | ⟨_, -, -, hrunning, -⟩
        · exact hbefore routers (hrouters ▸ hfound)
        · rw [hstopping] at hrunning
          contradiction

/-- Every action keeps the routers closed or about to be. -/
theorem Stopping.step (h : Stopping served server) (hact : server.act action = some next) :
    Stopping served next := by
  have hcons : ∀ (pushed : List IoSection) {head : IoSection} {rest : List IoSection}
      {handle : Nat} {connection : ConnectionId}, server.io = head :: rest →
        head ≠ IoSection.call handle (RouterCall.close connection) →
          IoSection.call handle (RouterCall.close connection) ∈ server.io →
            IoSection.call handle (RouterCall.close connection) ∈ pushed ++ rest := by
    intro pushed head rest handle connection hio hne hmem
    rw [hio] at hmem
    exact List.mem_append_right _ ((List.mem_cons.mp hmem).resolve_left (Ne.symm hne))
  have hbusy : ∀ {head : IoSection} {rest : List IoSection}, server.io = head :: rest →
      (∀ event, head ≠ IoSection.signal event) →
        server.io ≠ [IoSection.signal ServerEvent.stop] := by
    intro head rest hio hne hwaiting
    rw [hio, List.cons.injEq] at hwaiting
    exact hne _ hwaiting.1
  cases acted_of_act hact with
  | handled event hidle hevent =>
      refine h.congr rfl rfl rfl (fun hwaiting => ?_) fun handle connection hdue => ?_
      · rw [hidle] at hwaiting
        contradiction
      · rw [hidle] at hdue
        contradiction
  | mediaClosed seen failed id rest hio =>
      exact h.congr rfl rfl rfl (fun hwaiting => absurd hwaiting (hbusy hio (by simp)))
        fun handle connection hdue => hcons [] hio (by simp) hdue
  | signaled seen failed hio hsignal => exact h.signal hio hsignal
  | called seen failed handle routerCall rest hio =>
      rcases h with ⟨hwaiting, -⟩ | ⟨hstopping, hclosed⟩
      · exact absurd hwaiting (hbusy hio (by simp))
      · refine Or.inr ⟨hstopping, fun found hserved connection => ?_⟩
        refine (hclosed found hserved connection).callRouters seen handle routerCall ?_
        intro item hitem
        rw [hio] at hitem
        exact (List.mem_cons.mp hitem).symm
  | offered seen failed hio hhead hpushed =>
      refine h.congr rfl rfl rfl (fun hwaiting => absurd hwaiting (hbusy hio ?_))
        fun handle connection hdue => hcons _ hio ?_ hdue
      · rintro event rfl
        contradiction
      · rintro rfl
        contradiction
  | removed seen failed id connection pc rest hio =>
      exact h.congr rfl rfl rfl (fun hwaiting => absurd hwaiting (hbusy hio (by simp)))
        fun handle connection hdue => hcons [] hio (by simp) hdue
  | created seen id connection rest hio =>
      exact h.congr rfl rfl rfl (fun hwaiting => absurd hwaiting (hbusy hio (by simp)))
        fun handle connection hdue => hcons [_] hio (by simp) hdue
  | @routed index seen alive handle delivery rest hhead =>
      rcases h with ⟨hwaiting, hrooms⟩ | ⟨hstopping, hclosed⟩
      · exact Or.inl ⟨hwaiting, hrooms⟩
      · refine Or.inr ⟨hstopping, fun found hserved connection => ?_⟩
        exact (hclosed found hserved connection).callRouters seen handle delivery.routerCall
          fun item hitem => Or.inl hitem
  | delivered => exact h.congr rfl rfl rfl (fun _ => rfl) fun _ _ hdue => hdue
  | registered => exact h.congr rfl rfl rfl (fun _ => rfl) fun _ _ hdue => hdue
  | rejected => exact h.congr rfl rfl rfl (fun _ => rfl) fun _ _ hdue => hdue
  | orphaned => exact h.congr rfl rfl rfl (fun _ => rfl) fun _ _ hdue => hdue
  | found => exact h.congr rfl rfl rfl (fun _ => rfl) fun _ _ hdue => hdue
  | lost => exact h.congr rfl rfl rfl (fun _ => rfl) fun _ _ hdue => hdue
  | closedTrack => exact h.congr rfl rfl rfl (fun _ => rfl) fun _ _ hdue => hdue

/-! ## After the handler of `stop` -/

/-- No room is left, no session has media connections, and the routers that the rooms
of `before` had are closed and know nobody. -/
structure ShutDown (before server : MediaServer) : Prop where
  stopping : server.signaling.server.stopping = true
  rooms : ∀ roomId, roomId ∉ server.signaling.server.rooms
  media : ∀ id, id ∉ server.media
  routers : ∀ roomId handle routers, before.handleOf roomId = some handle →
    server.routers[handle]? = some routers → ∀ connection,
      routers.closed connection = true ∧ ∀ peerId, ¬ routers.Knows peerId connection

/-- When the handler of `stop` has finished nothing is left, and nothing comes back,
whatever callbacks run and whatever the io thread is asked to do afterwards. -/
theorem shut_down {later : MediaServer} (h : Reachable Initial Step server)
    (hstop : server.io = [IoSection.signal ServerEvent.stop])
    (hrun : Reachable (· = server) Step later) (hidle : later.io = []) :
    ShutDown server later := by
  have hlater : Reachable Initial Step later := by
    rcases h with ⟨start, hstart, hbefore⟩
    rcases hrun with ⟨_, rfl, hafter⟩
    exact ⟨start, hstart, hbefore.trans hafter⟩
  have hsound := sound_of_reachable hlater
  have hstopping : Stopping { handle | ∃ roomId, server.handleOf roomId = some handle } later := by
    refine Reachable.invariant ?_ ?_ hrun
    · rintro state rfl
      exact Or.inl ⟨hstop, fun handle hserved => hserved⟩
    · rintro state next - hstate ⟨action, hact⟩
      exact hstate.step hact
  rcases hstopping with ⟨hwaiting, -⟩ | ⟨hstopped, hclosed⟩
  · rw [hidle] at hwaiting
    contradiction
  · refine ⟨hstopped, hsound.housed.stopped hstopped, ?_, ?_⟩
    · intro id hid
      have hdue := dismissed_of_reachable hlater hstopped id hid
      rw [hidle] at hdue
      contradiction
    · intro roomId handle routers hhandle hrouters connection
      rcases hclosed handle ⟨roomId, hhandle⟩ connection with hdue | hdone
      · rw [hidle] at hdue
        contradiction
      · have hroutersSound := hsound.housed.sound routers (List.mem_of_getElem? hrouters)
        exact ⟨hdone routers hrouters,
          hroutersSound.not_knows_of_closed (hdone routers hrouters)⟩

/-- Bob's track has found its router when the server is asked to stop. -/
def stoppingServer : MediaServer :=
  (execute (fun _ _ => True) act {} (bobJoins ++ registering 0 2 ++
    handling ServerEvent.stop 0)).getD {}

/-- The handler of `stop` runs, the track is registered, and Carol wants to join. -/
def stoppedServer : MediaServer :=
  (execute (fun _ _ => True) act stoppingServer
    (List.replicate 5 (MediaAction.runIo (fun _ _ _ => false) false) ++ registering 0 1 ++
      handling (ServerEvent.accept 3 ⟨text "lobby"⟩ ⟨text "carol"⟩) 1)).getD {}

theorem stoppedServer_shut_down : ShutDown stoppingServer stoppedServer := by
  refine shut_down ?_ (by rfl) ?_ (by rfl)
  · exact Reachable.execute (fun _ action _ _ hact => ⟨action, hact⟩) (Reachable.start ⟨{}, rfl⟩)
      (execute_eq_some_getD (by decide +kernel))
  · exact Reachable.execute (fun _ action _ _ hact => ⟨action, hact⟩) (Reachable.start rfl)
      (execute_eq_some_getD (by decide +kernel))

end MediaServer

end Server
end Driscord
