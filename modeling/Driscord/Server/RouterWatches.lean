import Driscord.Server.Watches

/-!
# Watches of the screen router

`video_watchers` of a room and `watched_publishers` of its screen router are changed by
the same events, the router only after `rooms_mutex_` was released.  What the io thread
still has to call makes up the difference.

Main results:

- Theorem `Mirrored.step`: every action keeps the router behind its room by the pending
  calls only.
- Theorem `watchedOf_iff`: while no handler is running, the router and the room agree.
-/

namespace Driscord
namespace Server

open Library Signaling Sfu SignalingSystem

/-! ## Calls -/

/-- Who watches whom. -/
abbrev Watching := PeerId → PeerId → Prop

/-- The watches of a room. -/
def Room.watching (room : Room) : Watching :=
  fun watcher watched => watched ∈ room.watched watcher

/-- The watches of the screen router. -/
def RoomRouters.watching (routers : RoomRouters) : Watching :=
  fun watcher watched => watched ∈ routers.screen.watchedOf watcher

/-- What a call does to the watches of an open screen router. -/
def RouterCall.watching (watching : Watching) : RouterCall → Watching
  | RouterCall.setWatching peerId publisher start => fun watcher watched =>
      if peerId ≠ publisher ∧ watcher = peerId ∧ watched = publisher then start = true
      else watching watcher watched
  | RouterCall.removePeer ConnectionId.screen peerId => fun watcher watched =>
      watching watcher watched ∧ watcher ≠ peerId ∧ watched ≠ peerId
  | _ => watching

/-- What a section does to the watches of the routers with a handle. -/
def IoSection.watching (handle : Nat) (watching : Watching) : IoSection → Watching
  | IoSection.call called routerCall =>
      if called = handle then routerCall.watching watching else watching
  | _ => watching

theorem watching_call {routers : RoomRouters} (seen : Expiry) {routerCall : RouterCall}
    (hopen : routers.closed ConnectionId.screen = false)
    (hne : routerCall ≠ RouterCall.close ConnectionId.screen) :
    (routers.call seen routerCall).watching = routerCall.watching routers.watching := by
  funext watcher watched
  apply propext
  cases routerCall with
  | registerTrack connection owner track ssrc =>
      cases connection with
      | voice => rfl
      | screen =>
          simp only [RoomRouters.watching, RoomRouters.call, RouterCall.watching,
            RoomRouters.watchedOf_registerScreenTrack]
  | setStreaming peerId streaming =>
      simp only [RoomRouters.watching, RoomRouters.call, RouterCall.watching,
        ScreenRouter.watchedOf_setStreaming]
  | setWatching peerId publisher start =>
      simp only [RoomRouters.watching, RoomRouters.call, RouterCall.watching]
      by_cases hself : peerId = publisher
      · simp [ScreenRouter.setWatching, hself]
      · rw [ScreenRouter.mem_watchedOf_setWatching hopen hself]
        simp [hself]
  | removePeer connection peerId =>
      cases connection with
      | voice => rfl
      | screen => exact ScreenRouter.mem_watchedOf_removePeer hopen seen
  | close connection =>
      cases connection with
      | voice => rfl
      | screen => exact absurd rfl hne

/-- Sections that leave the watches alone. -/
theorem foldl_watching {handle : Nat} {sections : List IoSection} {watching : Watching}
    (h : ∀ item ∈ sections, ∀ watching, item.watching handle watching = watching) :
    sections.foldl (IoSection.watching handle) watching = watching := by
  induction sections with
  | nil => rfl
  | cons item rest ih =>
      rw [List.foldl_cons, h item List.mem_cons_self]
      exact ih fun other hother => h other (List.mem_cons_of_mem _ hother)

namespace MediaServer

variable {server next : MediaServer} {system : SignalingSystem} {event : ServerEvent}
variable {roomId : RoomId} {room changed : Room} {handle : Nat} {id publisher : PeerId}

/-- The routers of a room are called only for the room. -/
theorem watching_callTo (h : Housed server) (hhandle : server.handleOf roomId = some handle)
    {other : RoomId} (routerCall : RouterCall) (watching : Watching) :
    ((server.handleOf other).toList.map fun called =>
        IoSection.call called routerCall).foldl (IoSection.watching handle) watching =
      if roomId = other then routerCall.watching watching else watching := by
  by_cases hsame : roomId = other
  · subst hsame
    simp [hhandle, IoSection.watching]
  · rw [if_neg hsame]
    cases hother : server.handleOf other with
    | none => rfl
    | some called =>
        have hne : called ≠ handle := by
          rintro rfl
          exact hsame (h.room_eq hother hhandle)
        simp [IoSection.watching, hne]

/-- A message changes the room as its calls will change the router. -/
theorem watching_messageSections (h : Housed server)
    (hroom : server.signaling.server.rooms.lookup roomId = some room)
    (hhandle : server.handleOf roomId = some handle)
    (hself : ∀ watcher, ¬ room.watching watcher watcher)
    {owner : RoomId} {message : Message}
    (hchanged : (onMessage server.signaling.server id owner message).1.rooms.lookup roomId =
      some changed) :
    (server.messageSections id owner message).foldl (IoSection.watching handle) room.watching =
      changed.watching := by
  have hinRoom : ∀ f : Room → Room,
      (server.signaling.server.inRoom owner f).rooms.lookup roomId = some changed →
        changed = if roomId = owner then f room else room := by
    intro f hlookup
    rw [lookup_inRoom, hroom, Option.map_some, Option.some.injEq] at hlookup
    exact hlookup.symm
  have hkept : server.signaling.server.rooms.lookup roomId = some changed → changed = room := by
    intro hlookup
    rw [hroom, Option.some.injEq] at hlookup
    exact hlookup.symm
  cases message with
  | streamingStart _ | streamingStop _ =>
      rw [messageSections, watching_callTo h hhandle]
      rw [hinRoom _ hchanged]
      split <;> rfl
  | watchStop publisher =>
      rw [messageSections, watching_callTo h hhandle, hinRoom _ hchanged]
      split
      · funext watcher watched
        apply propext
        simp only [RouterCall.watching, Room.watching, Room.mem_watched_unwatch]
        have hwatcher : watcher ∉ room.watched watcher := hself watcher
        split
        · rename_i hcase
          simp [hcase]
        · rename_i hcase
          constructor
          · intro hmem
            refine ⟨hmem, ?_⟩
            rintro ⟨rfl, rfl⟩
            refine hcase ⟨?_, rfl, rfl⟩
            rintro rfl
            exact hwatcher hmem
          · exact And.left
      · rfl
  | watchStart publisher =>
      simp only [onMessage, WebSocketServer.addVideoWatcher] at hchanged
      rw [messageSections]
      cases hplace : server.signaling.server.rooms.lookup owner with
      | none =>
          simp only [hplace] at hchanged ⊢
          rw [hkept hchanged]
          rfl
      | some place =>
          simp only [hplace] at hchanged ⊢
          by_cases hin : id ∈ place.sessions
          · cases hrejection : place.watchRejection id publisher with
            | some reason =>
                rw [if_pos hin] at hchanged
                simp only [hrejection] at hchanged
                rw [hkept hchanged]
                simp
            | none =>
                rw [if_pos hin] at hchanged
                simp only [hrejection] at hchanged
                rw [hinRoom _ hchanged]
                have hne := Room.ne_of_watchRejection hrejection
                by_cases hnew : publisher ∈ place.watched id
                · rw [if_neg (by simp [hnew])]
                  split
                  · rename_i hhere
                    rw [hhere, hplace, Option.some.injEq] at hroom
                    subst hroom
                    funext watcher watched
                    apply propext
                    simp only [Room.watching, Room.mem_watched_watch]
                    constructor
                    · exact Or.inl
                    · rintro (hold | ⟨rfl, rfl⟩)
                      · exact hold
                      · exact hnew
                  · rfl
                · rw [if_pos ⟨hin, rfl, hnew⟩, watching_callTo h hhandle]
                  split
                  · funext watcher watched
                    apply propext
                    simp only [RouterCall.watching, Room.watching, Room.mem_watched_watch]
                    by_cases hcase : watcher = id ∧ watched = publisher
                    · simp [hcase, hne]
                    · simp [hcase]
                  · rfl
          · rw [if_neg hin] at hchanged
            rw [if_neg (by simp [hin]), hkept hchanged]
            rfl
  | offer sdp connection =>
      rw [hkept hchanged]
      rfl
  | _ =>
      rw [hkept hchanged]
      rfl

/-- What `on_close` leaves of the rooms. -/
theorem server_onClose_eq (id : PeerId) (session : Session) :
    (system.onClose id session).server =
      if session.closed then system.server
      else ((system.server.unregisterSession id session.roomId).map Prod.fst).getD
        system.server := by
  unfold SignalingSystem.onClose
  split
  · rfl
  · cases system.server.unregisterSession id session.roomId with
    | none => rfl
    | some result => exact server_conclude result

/-- A session that leaves changes the room as its calls will change the router. -/
theorem watching_unregisterSections (h : Housed server) {session : Session}
    (hroom : server.signaling.server.rooms.lookup roomId = some room)
    (hhandle : server.handleOf roomId = some handle)
    (hsession : server.signaling.sessions.lookup id = some session)
    (hchanged : (((server.signaling.server.unregisterSession id session.roomId).map
      Prod.fst).getD server.signaling.server).rooms.lookup roomId = some changed) :
    (server.unregisterSections id).foldl (IoSection.watching handle) room.watching =
      changed.watching := by
  have hkept : server.signaling.server.rooms.lookup roomId = some changed → changed = room := by
    intro hlookup
    rw [hroom, Option.some.injEq] at hlookup
    exact hlookup.symm
  unfold WebSocketServer.unregisterSession at hchanged
  simp only [unregisterSections, hsession]
  cases hplace : server.signaling.server.rooms.lookup session.roomId with
  | none =>
      simp only [hplace] at hchanged
      rw [hkept hchanged]
      rfl
  | some place =>
      simp only [hplace] at hchanged ⊢
      by_cases hin : id ∈ place.sessions
      · rw [if_pos hin] at hchanged ⊢
        simp only [Option.map_some, Option.getD_some] at hchanged
        by_cases hhere : roomId = session.roomId
        · subst hhere
          rw [hroom, Option.some.injEq] at hplace
          subst hplace
          rw [lookup_roomsWithout_self] at hchanged
          split at hchanged
          · contradiction
          rw [Option.some.injEq] at hchanged
          subst hchanged
          rw [hhandle]
          funext watcher watched
          apply propext
          simp [IoSection.watching, RouterCall.watching, Room.watching, Room.mem_watched_leave]
        · rw [lookup_roomsWithout_ne _ _ _ hhere] at hchanged
          rw [hkept hchanged]
          cases hother : server.handleOf session.roomId with
          | none => rfl
          | some called =>
              have hne : called ≠ handle := by
                rintro rfl
                exact hhere (h.room_eq hother hhandle)
              simp [IoSection.watching, hne]
      · rw [if_neg hin] at hchanged ⊢
        rw [hkept hchanged]
        rfl

/-- An event changes a room as the calls that follow will change its router. -/
theorem watching_followUp (h : Housed server) (hwatchers : Watchers server.signaling)
    (hact : server.signaling.act event = some system)
    (hroom : server.signaling.server.rooms.lookup roomId = some room)
    (hhandle : server.handleOf roomId = some handle)
    (hchanged : system.server.rooms.lookup roomId = some changed) :
    (server.followUp event).foldl (IoSection.watching handle) room.watching =
      changed.watching := by
  have hself : ∀ watcher, ¬ room.watching watcher watcher :=
    hwatchers.others roomId room hroom
  have hkept : ∀ before : Room, before.videoWatchers = room.videoWatchers →
      before.watching = room.watching := by
    intro before hsame
    funext watcher watched
    rw [Room.watching, Room.watched_congr hsame]
    rfl
  have hsame : server.signaling.server.rooms.lookup roomId = some changed → changed = room := by
    intro hlookup
    rw [hroom, Option.some.injEq] at hlookup
    exact hlookup.symm
  have hclosed : ∀ id session, server.signaling.sessions.lookup id = some session →
      (if session.closed then server.signaling.server
        else ((server.signaling.server.unregisterSession id session.roomId).map
          Prod.fst).getD server.signaling.server).rooms.lookup roomId = some changed →
      (server.followUp (ServerEvent.readFailed id)).foldl (IoSection.watching handle)
        room.watching = changed.watching := by
    intro id session hsession hlookup
    simp only [followUp, closing, hsession]
    cases hopen : session.closed with
    | true =>
        simp only [hopen, if_true] at hlookup ⊢
        rw [hsame hlookup]
        rfl
    | false =>
        simp only [hopen, Bool.false_eq_true, if_false] at hlookup ⊢
        exact watching_unregisterSections h hroom hhandle hsession hlookup
  cases event with
  | accept random joined username =>
      have hnothing : server.followUp (ServerEvent.accept random joined username) = [] := rfl
      rw [hnothing, List.foldl_nil]
      cases SignalingSystem.acted_of_act hact with
      | refused =>
          rw [server_conclude] at hchanged
          rw [hsame hchanged]
      | accepted =>
          rw [server_conclude] at hchanged
          have hwatch := watchersChanged_accept hchanged
          have hbefore : (AList.lookup roomId server.signaling.server.rooms).getD {} = room := by
            rw [hroom]
            rfl
          exact (hkept changed (hwatch.trans (by rw [← hbefore]))).symm
  | readFailed id =>
      cases SignalingSystem.acted_of_act hact with
      | readFailed _ hsession =>
          rw [server_onClose_eq] at hchanged
          exact hclosed id _ hsession hchanged
  | written id failed =>
      cases failed with
      | false =>
          cases SignalingSystem.acted_of_act hact
          rw [hsame hchanged]
          rfl
      | true =>
          cases SignalingSystem.acted_of_act hact with
          | writeFailed _ hsession =>
              rw [server_onClose_eq] at hchanged
              exact hclosed id _ hsession hchanged
  | read id raw =>
      rcases act_read hact with ⟨session, hsession, ⟨⟨error, hparse⟩, rfl⟩ |
        ⟨message, hparse, rfl⟩⟩
      · simp only [followUp, hsession, hparse]
        rw [hsame hchanged]
        rfl
      · simp only [followUp, hsession, hparse]
        rw [server_conclude] at hchanged
        exact watching_messageSections h hroom hhandle hself hchanged
  | presence =>
      have hnothing : server.followUp ServerEvent.presence = [] := rfl
      rw [hnothing, List.foldl_nil]
      cases SignalingSystem.acted_of_act hact with
      | listed => rw [hsame hchanged]
      | unlisted herror => rw [hsame hchanged]
  | stop =>
      cases SignalingSystem.acted_of_act hact
      exact absurd hchanged (by simp [WebSocketServer.stop])

/-! ## The invariant -/

/-- Once the pending calls have run, the screen router of a room has its watches. -/
structure Mirrored (server : MediaServer) : Prop where
  watchers : Watchers server.signaling
  mirrored : ∀ roomId room handle routers,
    server.signaling.server.rooms.lookup roomId = some room →
      server.handleOf roomId = some handle → server.routers[handle]? = some routers →
        server.io.foldl (IoSection.watching handle) routers.watching = room.watching

theorem mirrored_initial (h : Initial server) : Mirrored server := by
  rcases h with ⟨faultConfig, rfl⟩
  exact ⟨watchers_initial, fun _ _ _ _ hroom => by simp at hroom⟩

/-- What leaves the rooms, the routers and the pending calls as they are. -/
theorem Mirrored.congr (h : Mirrored server) (hsignaling : next.signaling = server.signaling)
    (hhandles : next.handles = server.handles) (hrouters : next.routers = server.routers)
    (hio : ∀ handle watching, next.io.foldl (IoSection.watching handle) watching =
      server.io.foldl (IoSection.watching handle) watching) : Mirrored next where
  watchers := by
    rw [hsignaling]
    exact h.watchers
  mirrored roomId room handle routers hroom hhandle hfound := by
    rw [hsignaling] at hroom
    rw [handleOf_congr hsignaling hhandles] at hhandle
    rw [hrouters] at hfound
    rw [hio]
    exact h.mirrored roomId room handle routers hroom hhandle hfound

/-- The event of a handler. -/
theorem Mirrored.signal (h : Mirrored server) (hhoused : Housed server)
    (hio : server.io = [IoSection.signal event]) (hact : server.signaling.act event = some system) :
    Mirrored { server.opened system event with io := server.followUp event } := by
  refine ⟨by rw [signaling_opened]; exact h.watchers.step hact, ?_⟩
  intro roomId changed handle routers hchanged hhandle hrouters
  simp only [signaling_opened] at hchanged
  rcases handleOf_opened hact hhandle with hold | ⟨hnew, hlength, hcreated⟩
  · have hmem := (handleOf_eq_some.mp hold).1
    rcases Table.mem_iff_exists_lookup.mp hmem with ⟨room, hroom⟩
    rcases hhoused.exists_routers hold with ⟨before, hbefore, _⟩
    have hsame := getElem?_opened hact hbefore
    have hrouters' : (server.opened system event).routers[handle]? = some routers := hrouters
    rw [hsame, Option.some.injEq] at hrouters'
    subst hrouters'
    have hmirror := h.mirrored roomId room handle before hroom hold hbefore
    rw [hio] at hmirror
    have hwatching : before.watching = room.watching := hmirror
    rw [hwatching]
    exact watching_followUp hhoused h.watchers hact hroom hold hchanged
  · -- A new room and its new routers have no watches.
    have hrouters' : (server.opened system event).routers[handle]? = some routers := hrouters
    rw [hcreated, hlength, List.getElem?_concat_length, Option.some.injEq] at hrouters'
    rcases room_of_act hact (Table.mem_of_lookup hchanged) with hold | ⟨_, random, username, rfl⟩
    · exact absurd hold hnew
    · have hempty : changed.watching = fun _ _ => False := by
        cases SignalingSystem.acted_of_act hact with
        | refused =>
            rw [server_conclude] at hchanged
            exact absurd (Table.mem_of_lookup hchanged) hnew
        | accepted =>
            rw [server_conclude] at hchanged
            have hsame := watchersChanged_accept hchanged
            have hnone : AList.lookup roomId server.signaling.server.rooms = none :=
              AList.lookup_eq_none.mpr hnew
            funext watcher watched
            rw [Room.watching, Room.watched, hsame]
            simp [hnone]
      have hnothing : server.followUp (ServerEvent.accept random roomId username) = [] := rfl
      rw [hnothing, List.foldl_nil, hempty, ← hrouters']
      funext watcher watched
      apply propext
      simp [RoomRouters.watching, RoomRouters.create, ScreenRouter.watchedOf]

/-- A call to the routers of a room. -/
theorem Mirrored.call (h : Mirrored server) (hhoused : Housed server)
    {called : Nat} {routerCall : RouterCall} {rest : List IoSection} (seen : Expiry)
    (hio : server.io = IoSection.call called routerCall :: rest)
    (hclose : ∀ connection, routerCall = RouterCall.close connection →
      ∀ roomId, server.handleOf roomId ≠ some called) :
    Mirrored { server.callRouters seen called routerCall with io := rest } where
  watchers := h.watchers
  mirrored roomId room handle routers hroom hhandle hrouters := by
    have hhandle' : server.handleOf roomId = some handle := hhandle
    have hrouters' : (server.callRouters seen called routerCall).routers[handle]? =
        some routers := hrouters
    rw [getElem?_callRouters] at hrouters'
    split at hrouters'
    · rename_i hsame
      subst hsame
      rcases Option.map_eq_some_iff.mp hrouters' with ⟨before, hbefore, rfl⟩
      have hmirror := h.mirrored roomId room handle before hroom hhandle' hbefore
      rw [hio, List.foldl_cons, IoSection.watching, if_pos rfl] at hmirror
      rw [watching_call seen (hhoused.opened roomId handle before hhandle' hbefore _)]
      · exact hmirror
      · intro hcall
        exact hclose _ hcall roomId hhandle'
    · rename_i hother
      have hmirror := h.mirrored roomId room handle routers hroom hhandle' hrouters'
      rw [hio, List.foldl_cons, IoSection.watching, if_neg (Ne.symm hother)] at hmirror
      exact hmirror

/-- A registered track changes no watch. -/
theorem Mirrored.deliver (h : Mirrored server) (hhoused : Housed server) (seen : Expiry)
    (called : Nat) (delivery : Delivery) :
    Mirrored (server.callRouters seen called delivery.routerCall) where
  watchers := h.watchers
  mirrored roomId room handle routers hroom hhandle hrouters := by
    have hhandle' : server.handleOf roomId = some handle := hhandle
    rw [getElem?_callRouters] at hrouters
    split at hrouters
    · rcases Option.map_eq_some_iff.mp hrouters with ⟨before, hbefore, rfl⟩
      rw [watching_call seen (hhoused.opened roomId handle before hhandle' hbefore _)]
      · exact h.mirrored roomId room handle before hroom hhandle' hbefore
      · simp [Delivery.routerCall]
    · exact h.mirrored roomId room handle routers hroom hhandle' hrouters

/-- Every action keeps the router behind its room by the pending calls only. -/
theorem Mirrored.step (h : Mirrored server) (hsound : Sound server)
    {action : MediaAction} (hact : server.act action = some next) : Mirrored next := by
  have hquiet : ∀ {head rest pushed}, server.io = head :: rest →
      (∀ handle watching, head.watching handle watching = watching) →
      (∀ item ∈ pushed, IoSection.offers item = true) → ∀ handle watching,
        (pushed ++ rest).foldl (IoSection.watching handle) watching =
          server.io.foldl (IoSection.watching handle) watching := by
    intro head rest pushed hio hhead hpushed handle watching
    have hnone : pushed.foldl (IoSection.watching handle) watching = watching := by
      apply foldl_watching
      intro item hitem other
      have hoffer := hpushed item hitem
      cases item <;> first | rfl | contradiction
    rw [hio, List.foldl_append, hnone, List.foldl_cons, hhead]
  cases acted_of_act hact with
  | handled event hidle hevent =>
      refine h.congr rfl rfl rfl ?_
      intro handle watching
      rw [hidle]
      apply foldl_watching
      intro item hitem other
      rcases List.mem_append.mp hitem with hclosing | hsignal
      · rcases List.mem_map.mp hclosing with ⟨id, _, rfl⟩
        rfl
      · rw [List.mem_singleton.mp hsignal]
        rfl
  | mediaClosed seen failed id rest hio =>
      exact h.congr rfl rfl rfl
        (@hquiet _ rest [] hio (fun _ _ => rfl) (by simp))
  | signaled seen failed hio hevent =>
      rcases hsound.duties.signal_head hio with ⟨rfl, _⟩
      rw [List.append_nil]
      exact h.signal hsound.housed hio hevent
  | called seen failed handle routerCall rest hio =>
      refine h.call hsound.housed seen hio ?_
      rintro connection rfl roomId
      exact hsound.duties.closings handle connection (by rw [hio]; exact List.mem_cons_self) roomId
  | offered seen failed hio hhead hpushed =>
      rename_i head rest pushed
      refine h.congr rfl rfl rfl (hquiet hio ?_ hpushed)
      cases head <;> first | exact fun _ _ => rfl | contradiction
  | removed seen failed id connection pc rest hio =>
      exact h.congr rfl rfl rfl
        (@hquiet _ rest [] hio (fun _ _ => rfl) (by simp))
  | created seen id connection rest hio =>
      exact h.congr rfl rfl rfl
        (@hquiet _ rest [IoSection.applyOffer id connection server.created.length] hio
          (fun _ _ => rfl) (by simp [IoSection.offers]))
  | routed index seen alive hhead =>
      rename_i called delivery rest
      exact (h.deliver hsound.housed seen called delivery).congr rfl rfl rfl fun _ _ => rfl
  | delivered | registered | rejected | orphaned | found | lost | closedTrack =>
      exact h.congr rfl rfl rfl fun _ _ => rfl

/-- While no handler is running, the screen router of a room has its watches. -/
theorem Mirrored.watchedOf_iff (h : Mirrored server) (hidle : server.io = []) {roomId : RoomId}
    {room : Room} {handle : Nat} {routers : RoomRouters}
    (hroom : server.signaling.server.rooms.lookup roomId = some room)
    (hhandle : server.handleOf roomId = some handle)
    (hrouters : server.routers[handle]? = some routers) (watcher watched : PeerId) :
    watched ∈ routers.screen.watchedOf watcher ↔ watched ∈ room.watched watcher := by
  have hmirror := h.mirrored roomId room handle routers hroom hhandle hrouters
  rw [hidle, List.foldl_nil] at hmirror
  exact iff_of_eq (congrFun (congrFun hmirror watcher) watched)

end MediaServer

end Server
end Driscord
