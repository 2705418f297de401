import Driscord.Server.MediaServerInvariant

/-!
# Tracks follow the current PeerConnection

A callback registers its track with the media connections, which refuse a track of a
replaced PeerConnection, and then calls a router without looking at them again.  So
the callback of a replaced PeerConnection may call a router after those of the
current one.

Main results:

- Theorem `Followed.step`: the invariant of runs in which no track of a replaced
  PeerConnection is written over one of the current PeerConnection.
- Theorem `tracks_follow`: there the routers hold the tracks that the current
  PeerConnection has delivered.
- Theorem `overtaken_registration_stays`: otherwise they may not.
-/

namespace Driscord
namespace Server

open Library Signaling Sfu SignalingSystem

theorem PeerConnection.eq_of_number {first second : PeerConnection}
    (hnumber : first.number = second.number) (howner : first.owner = second.owner)
    (hconnection : first.connection = second.connection) : first = second := by
  cases first
  cases second
  cases hnumber
  cases howner
  cases hconnection
  rfl

/-- The delivery that a section is about. -/
def CallbackSection.delivery : CallbackSection → Delivery
  | CallbackSection.registerTrack delivery => delivery
  | CallbackSection.trackReady delivery => delivery
  | CallbackSection.callRouter _ delivery => delivery

/-- Where the router of its connection keeps a delivery. -/
def Delivery.place (delivery : Delivery) : Option Place :=
  placeIn delivery.pc.connection delivery.track

namespace MediaServer

variable {server next : MediaServer} {action : MediaAction}

/-! ## What is promised -/

/-- The PeerConnection has delivered the track. -/
def TrackOf (server : MediaServer) (pc : PeerConnection) (track : TrackId) : Prop :=
  ∃ delivery ∈ server.delivered, delivery.pc = pc ∧ delivery.track.id = track

instance (server : MediaServer) (pc : PeerConnection) (track : TrackId) :
    Decidable (server.TrackOf pc track) :=
  inferInstanceAs (Decidable (∃ delivery ∈ server.delivered, _ ∧ _))

/-- A callback of the owner is running. -/
def Registering (server : MediaServer) (owner : PeerId) : Prop :=
  ∃ item, Pool.Pending server.callbacks item ∧ item.delivery.pc.owner = owner

/-- The place of a delivery holds a track that its PeerConnection has delivered. -/
def HeldAt (server : MediaServer) (delivery : Delivery) (place : Place) : Prop :=
  ∀ session handle routers, server.signaling.sessions.lookup delivery.pc.owner = some session →
    server.handleOf session.roomId = some handle → server.routers[handle]? = some routers →
      ∃ track,
        (routers.holdingsOf delivery.pc.owner delivery.pc.connection).tracksAt place =
          [some track] ∧ server.TrackOf delivery.pc track

/-- Where the current PeerConnection of a session has delivered a track, the router of
the room holds one of its tracks, and no track of another PeerConnection. -/
def Follows (server : MediaServer) : Prop :=
  ∀ delivery ∈ server.delivered, ∀ place, delivery.place = some place →
    server.current delivery.pc.owner delivery.pc.connection = some delivery.pc.number →
      ¬ server.Registering delivery.pc.owner →
        server.HeldAt delivery place ∧
          ∀ track pc, server.TrackOf delivery.pc track → server.TrackOf pc track →
            pc = delivery.pc

/-- The place of a delivery holds a track of the current PeerConnection. -/
def HoldsCurrent (server : MediaServer) (handle : Nat) (delivery : Delivery) : Prop :=
  match server.current delivery.pc.owner delivery.pc.connection, server.routers[handle]?,
    delivery.place with
  | some pc, some routers, some place =>
      ∃ held ∈ (routers.holdingsOf delivery.pc.owner delivery.pc.connection).tracksAt place,
        ∃ other ∈ server.delivered,
          other.pc = ⟨pc, delivery.pc.owner, delivery.pc.connection⟩ ∧
            held = some other.track.id
  | _, _, _ => False

instance (server : MediaServer) (handle : Nat) (delivery : Delivery) :
    Decidable (server.HoldsCurrent handle delivery) := by
  unfold HoldsCurrent
  split <;> infer_instance

/-- The delivery is of the current PeerConnection, or no track of that one is written
over. -/
def Timely (server : MediaServer) (handle : Nat) (delivery : Delivery) : Prop :=
  server.current delivery.pc.owner delivery.pc.connection = some delivery.pc.number ∨
    ¬ server.HoldsCurrent handle delivery

instance (server : MediaServer) (handle : Nat) (delivery : Delivery) :
    Decidable (server.Timely handle delivery) :=
  inferInstanceAs (Decidable (_ ∨ _))

/-- No callback writes a track of a replaced PeerConnection over one of the current. -/
def Ordered (server : MediaServer) : MediaAction → Prop
  | MediaAction.runCallback index _ _ =>
      match server.callbacks[index]? with
      | some (CallbackSection.callRouter handle delivery :: _) => server.Timely handle delivery
      | _ => True
  | _ => True

instance (server : MediaServer) (action : MediaAction) : Decidable (Ordered server action) := by
  rcases action with _ | _ | _ | index | _ | _
  case runCallback =>
    dsimp only [Ordered]
    generalize server.callbacks[index]? = sections
    rcases sections with _ | (_ | ⟨_ | _, _⟩)
    all_goals infer_instance
  all_goals exact instDecidableTrue

/-- One action in order. -/
def OrderedStep (server next : MediaServer) : Prop :=
  ∃ action, Ordered server action ∧ server.act action = some next

/-! ## The current PeerConnection -/

theorem mem_media_of_current {id : PeerId} {connection : ConnectionId} {pc : Nat}
    (h : server.current id connection = some pc) : id ∈ server.media := by
  rcases Option.bind_eq_some_iff.mp h with ⟨media, hmedia, -⟩
  exact Table.mem_of_lookup hmedia

/-- What a change to the media connections of a session leaves current. -/
theorem current_modifyMedia {id other : PeerId} {connection : ConnectionId} {pc : Nat}
    {f : MediaConnections → MediaConnections}
    (h : (server.modifyMedia id f).current other connection = some pc) :
    (other ≠ id ∧ server.current other connection = some pc) ∨
      other = id ∧ ∃ media, server.media.lookup id = some media ∧
        (f media).current connection = some pc := by
  rw [current, modifyMedia, Table.lookup_modify] at h
  by_cases hsame : other = id
  · subst hsame
    simp only [if_true, Option.bind_map] at h
    rcases Option.bind_eq_some_iff.mp h with ⟨media, hmedia, hcurrent⟩
    exact Or.inr ⟨rfl, media, hmedia, hcurrent⟩
  · simp only [if_neg hsame, Option.map_id'] at h
    exact Or.inl ⟨hsame, h⟩

/-- A removal makes no PeerConnection current. -/
theorem current_of_removed {id other : PeerId} {connection removed : ConnectionId}
    {pc found : Nat}
    (h : (server.modifyMedia id fun media => media.removeAndClose removed pc).current other
      connection = some found) : server.current other connection = some found := by
  rcases current_modifyMedia h with ⟨-, hsame⟩ | ⟨rfl, media, hmedia, hcurrent⟩
  · exact hsame
  · rw [current, hmedia]
    exact MediaConnections.current_removeAndClose media removed connection pc hcurrent

theorem current_of_trackClosed {id other : PeerId} {connection closed : ConnectionId}
    {mid : Bytes} {track : TrackId} {found : Nat}
    (h : (server.modifyMedia id fun media => media.trackClosed closed mid track).current other
      connection = some found) : server.current other connection = some found := by
  rcases current_modifyMedia h with ⟨-, hsame⟩ | ⟨rfl, media, hmedia, hcurrent⟩
  · exact hsame
  · rw [MediaConnections.current_trackClosed] at hcurrent
    rw [current, hmedia]
    exact hcurrent

/-- The new PeerConnection is current, and of the others no more than before. -/
theorem current_of_installed {id other : PeerId} {connection installed : ConnectionId}
    {pc found : Nat}
    (h : (server.modifyMedia id fun media => media.install installed pc).current other
      connection = some found) : found = pc ∨ server.current other connection = some found := by
  rcases current_modifyMedia h with ⟨-, hsame⟩ | ⟨rfl, media, hmedia, hcurrent⟩
  · exact Or.inr hsame
  · rw [MediaConnections.current_install] at hcurrent
    split at hcurrent
    · exact Or.inl (Option.some.inj hcurrent).symm
    · rw [current, hmedia]
      exact Or.inr hcurrent

/-- An id is given to one session only. -/
theorem fresh_of_accept {system next : SignalingSystem} {random : UInt64} {roomId : RoomId}
    {username : Username}
    (hact : system.act (ServerEvent.accept random roomId username) = some next) :
    generateId random ∉ system.sessions := by
  cases SignalingSystem.acted_of_act hact with
  | refused _ _ _ _ hfresh => exact hfresh
  | accepted _ _ _ _ hfresh => exact hfresh

/-- An event makes no PeerConnection current. -/
theorem current_of_opened {event : ServerEvent} {system : SignalingSystem} {id : PeerId}
    {connection : ConnectionId} {found : Nat}
    (h : (server.opened system event).current id connection = some found) :
    server.current id connection = some found := by
  cases event with
  | accept random roomId username =>
      have hmedia : (server.opened system (ServerEvent.accept random roomId username)).media =
          if system.ended = true ∨ system.server.stopping = true then server.media
          else server.media.insert (generateId random) {} := by
        simp only [opened]
        split <;> rfl
      rw [current, hmedia] at h
      split at h
      · exact h
      · by_cases hsame : id = generateId random
        · subst hsame
          simp [MediaConnections.current] at h
        · rw [AList.lookup_insert_ne hsame] at h
          exact h
  | _ => exact h

/-! ## The invariant -/

/-- A callback for the delivery is running. -/
def Awaited (server : MediaServer) (delivery : Delivery) : Prop :=
  ∃ item, Pool.Pending server.callbacks item ∧ item.delivery = delivery

/-- What runs in order keep. -/
structure Followed (server : MediaServer) : Prop where
  numbers : ∀ pc ∈ server.created, pc.number < server.created.length
  created : ∀ delivery ∈ server.delivered, delivery.pc ∈ server.created
  own : ∀ first ∈ server.delivered, ∀ second ∈ server.delivered,
    first.track.id = second.track.id → first.pc = second.pc
  running : ∀ item, Pool.Pending server.callbacks item → item.delivery ∈ server.delivered
  found : ∀ handle delivery,
    Pool.Pending server.callbacks (CallbackSection.callRouter handle delivery) →
      ∃ session, server.signaling.sessions.lookup delivery.pc.owner = some session ∧
        (delivery.pc.owner ∈ server.media → ∀ current,
          server.handleOf session.roomId = some current → current = handle)
  held : ∀ delivery ∈ server.delivered, ∀ place, delivery.place = some place →
    server.current delivery.pc.owner delivery.pc.connection = some delivery.pc.number →
      server.Awaited delivery ∨ server.HeldAt delivery place

theorem Followed.follows (h : Followed server) : Follows server := by
  intro delivery hdelivery place hplace hcurrent hidle
  constructor
  · rcases h.held delivery hdelivery place hplace hcurrent with ⟨item, hpending, rfl⟩ | hheld
    · exact absurd ⟨item, hpending, rfl⟩ hidle
    · exact hheld
  · rintro track pc ⟨first, hfirst, hpc, htrack⟩ ⟨second, hsecond, rfl, hsame⟩
    rw [← hpc]
    exact h.own second hsecond first hfirst (hsame.trans htrack.symm)

theorem HeldAt.congr {server' : MediaServer} {delivery : Delivery} {place : Place}
    (h : server.HeldAt delivery place) (hsignaling : server'.signaling = server.signaling)
    (hhandles : server'.handles = server.handles) (hrouters : server'.routers = server.routers)
    (hdelivered : ∀ other ∈ server.delivered, other ∈ server'.delivered) :
    server'.HeldAt delivery place := by
  intro session handle routers hsession hhandle hfound
  rw [hsignaling] at hsession
  rw [handleOf_congr hsignaling hhandles] at hhandle
  rw [hrouters] at hfound
  rcases h session handle routers hsession hhandle hfound with
    ⟨track, htracks, other, hother, hpc, hid⟩
  exact ⟨track, htracks, other, hdelivered other hother, hpc, hid⟩

/-- Sections that call no router and run no callback, and make no PeerConnection
current. -/
theorem Followed.congr {server' : MediaServer} (h : Followed server)
    (hsignaling : server'.signaling = server.signaling)
    (hhandles : server'.handles = server.handles) (hrouters : server'.routers = server.routers)
    (hcreated : server'.created = server.created)
    (hdelivered : server'.delivered = server.delivered)
    (hcallbacks : server'.callbacks = server.callbacks)
    (hmedia : ∀ id ∈ server'.media, id ∈ server.media)
    (hcurrent : ∀ id connection pc, server'.current id connection = some pc →
      server.current id connection = some pc) : Followed server' where
  numbers := by
    rw [hcreated]
    exact h.numbers
  created := by
    rw [hcreated, hdelivered]
    exact h.created
  own := by
    rw [hdelivered]
    exact h.own
  running := by
    rw [hcallbacks, hdelivered]
    exact h.running
  found handle delivery hpending := by
    rw [hcallbacks] at hpending
    rcases h.found handle delivery hpending with ⟨session, hsession, hfound⟩
    refine ⟨session, by rwa [hsignaling], fun howner current hhandle => ?_⟩
    rw [handleOf_congr hsignaling hhandles] at hhandle
    exact hfound (hmedia _ howner) current hhandle
  held delivery hdelivery place hplace hnow := by
    rw [hdelivered] at hdelivery
    rcases h.held delivery hdelivery place hplace (hcurrent _ _ _ hnow) with hawaited | hheld
    · left
      rwa [Awaited, hcallbacks]
    · exact Or.inr (hheld.congr hsignaling hhandles hrouters fun _ hmem => hdelivered ▸ hmem)

/-! ### PeerConnections and deliveries -/

/-- A new PeerConnection has delivered nothing yet. -/
theorem Followed.install (h : Followed server) (id : PeerId) (connection : ConnectionId)
    (io : List IoSection) :
    Followed { server.modifyMedia id fun media =>
        media.install connection server.created.length with
      created := server.created ++ [⟨server.created.length, id, connection⟩]
      io := io } := by
  refine ⟨?_, ?_, h.own, h.running, ?_, ?_⟩
  · intro pc hpc
    rw [List.length_append, List.length_singleton]
    rcases List.mem_append.mp hpc with hold | hnew
    · have hlt := h.numbers pc hold
      omega
    · rw [List.mem_singleton.mp hnew]
      exact Nat.lt_succ_self _
  · exact fun delivery hdelivery => List.mem_append_left _ (h.created delivery hdelivery)
  · intro handle delivery hpending
    rcases h.found handle delivery hpending with ⟨session, hsession, hfound⟩
    exact ⟨session, hsession, fun howner => hfound (mem_modifyMedia howner)⟩
  · intro delivery hdelivery place hplace hnow
    rcases current_of_installed hnow with hnew | hold
    · have hlt := h.numbers _ (h.created delivery hdelivery)
      omega
    · exact h.held delivery hdelivery place hplace hold

theorem Followed.onTrack (h : Followed server) {delivery : Delivery}
    (hcreated : delivery.pc ∈ server.created)
    (hown : ∀ other ∈ server.delivered, other.track.id = delivery.track.id →
      other.pc = delivery.pc) :
    Followed { server with
      callbacks := server.callbacks ++ [[CallbackSection.registerTrack delivery]]
      delivered := server.delivered ++ [delivery] } := by
  refine ⟨h.numbers, ?_, ?_, ?_, ?_, ?_⟩
  · intro other hother
    rcases List.mem_append.mp hother with hold | hnew
    · exact h.created other hold
    · rw [List.mem_singleton.mp hnew]
      exact hcreated
  · intro first hfirst second hsecond hsame
    rcases List.mem_append.mp hfirst with hfirst | hfirst
    · rcases List.mem_append.mp hsecond with hsecond | hsecond
      · exact h.own first hfirst second hsecond hsame
      · rw [List.mem_singleton.mp hsecond] at hsame ⊢
        exact hown first hfirst hsame
    · rw [List.mem_singleton.mp hfirst] at hsame ⊢
      rcases List.mem_append.mp hsecond with hsecond | hsecond
      · exact (hown second hsecond hsame.symm).symm
      · rw [List.mem_singleton.mp hsecond]
  · intro item hpending
    rcases Pool.pending_of_spawn hpending with hold | hnew
    · exact List.mem_append_left _ (h.running item hold)
    · rw [List.mem_singleton.mp hnew]
      exact List.mem_append_right _ (List.mem_singleton_self _)
  · intro handle other hpending
    rcases Pool.pending_of_spawn hpending with hold | hnew
    · exact h.found handle other hold
    · exact absurd (List.mem_singleton.mp hnew) (by simp)
  · intro other hother place hplace hnow
    rcases List.mem_append.mp hother with hold | hnew
    · rcases h.held other hold place hplace hnow with ⟨item, hpending, rfl⟩ | hheld
      · exact Or.inl ⟨item, hpending.spawn _, rfl⟩
      · exact Or.inr (hheld.congr rfl rfl rfl fun _ hmem => List.mem_append_left _ hmem)
    · rw [List.mem_singleton.mp hnew]
      exact Or.inl ⟨CallbackSection.registerTrack delivery,
        Pool.pending_spawned (List.mem_singleton_self _) _, rfl⟩

/-! ### Events -/

/-- The room of a session with media connections keeps its routers. -/
theorem handleOf_of_opened (hsound : Sound server) {event : ServerEvent}
    {system : SignalingSystem} (hact : server.signaling.act event = some system) {id : PeerId}
    (howner : id ∈ server.media) {session : Session}
    (hsession : server.signaling.sessions.lookup id = some session) {handle : Nat}
    (hhandle : (server.opened system event).handleOf session.roomId = some handle) :
    server.handleOf session.roomId = some handle := by
  rcases handleOf_opened hact hhandle with hold | ⟨hfresh, -, -⟩
  · exact hold
  · exfalso
    rcases hsound.owners id howner with ⟨found, hfound, hopen⟩
    rw [hsession, Option.some.injEq] at hfound
    have hroom : session.roomId ∈ system.server.rooms := by
      have hmem := (handleOf_eq_some.mp hhandle).1
      rwa [signaling_opened] at hmem
    rcases room_of_act hact hroom with hold | ⟨hrunning, -⟩
    · exact hfresh hold
    · rcases hsound.registry.registered hrunning id session hsession (hfound ▸ hopen) with
        ⟨room, hlookup, -⟩
      exact hfresh (Table.mem_of_lookup hlookup)

/-- A session that was there before an event is still of the same room. -/
theorem roomId_of_opened {event : ServerEvent} {system : SignalingSystem}
    (hact : server.signaling.act event = some system) {id : PeerId} {session later : Session}
    (hsession : server.signaling.sessions.lookup id = some session)
    (hlater : (server.opened system event).signaling.sessions.lookup id = some later) :
    later.roomId = session.roomId := by
  rcases session_act hact hsession with ⟨found, hfound, hroomId, -⟩
  rw [signaling_opened, hfound, Option.some.injEq] at hlater
  rw [← hlater, hroomId]

theorem Followed.signal (h : Followed server) (hsound : Sound server) {event : ServerEvent}
    {system : SignalingSystem} (hact : server.signaling.act event = some system)
    (io : List IoSection) : Followed { server.opened system event with io := io } := by
  have hcreated : (server.opened system event).created = server.created := by
    cases event <;> simp only [opened]
    split <;> rfl
  have hdelivered : (server.opened system event).delivered = server.delivered := by
    cases event <;> simp only [opened]
    split <;> rfl
  have hcallbacks : (server.opened system event).callbacks = server.callbacks := by
    cases event <;> simp only [opened]
    split <;> rfl
  have hkept : Followed (server.opened system event) := by
    refine ⟨?_, ?_, ?_, ?_, ?_, ?_⟩
    · rw [hcreated]
      exact h.numbers
    · rw [hcreated, hdelivered]
      exact h.created
    · rw [hdelivered]
      exact h.own
    · rw [hcallbacks, hdelivered]
      exact h.running
    · intro handle delivery hpending
      rw [hcallbacks] at hpending
      rcases h.found handle delivery hpending with ⟨session, hsession, hfound⟩
      rcases session_act hact hsession with ⟨later, hlater, hroomId, -⟩
      refine ⟨later, by rwa [signaling_opened], fun howner current hhandle => ?_⟩
      rw [hroomId] at hhandle
      have hbefore : delivery.pc.owner ∈ server.media := by
        rcases mem_media_opened howner with hold | ⟨-, random, roomId, username, rfl, hid⟩
        · exact hold
        · exact absurd (hid ▸ Table.mem_of_lookup hsession) (fresh_of_accept hact)
      exact hfound hbefore current
        (handleOf_of_opened hsound hact hbefore hsession hhandle)
    · intro delivery hdelivery place hplace hnow
      rw [hdelivered] at hdelivery
      have hbefore := current_of_opened hnow
      have howner := mem_media_of_current hbefore
      rcases hsound.owners _ howner with ⟨session, hsession, -⟩
      rcases h.held delivery hdelivery place hplace hbefore with hawaited | hheld
      · left
        rwa [Awaited, hcallbacks]
      · right
        intro later handle routers hlater hhandle hrouters
        rw [roomId_of_opened hact hsession hlater] at hhandle
        have hold := handleOf_of_opened hsound hact howner hsession hhandle
        rcases hsound.housed.exists_routers hold with ⟨old, hfound, -⟩
        have hsame : some old = some routers :=
          (getElem?_opened hact hfound).symm.trans hrouters
        rw [hsame] at hfound
        rcases hheld session handle routers hsession hold hfound with
          ⟨track, htracks, other, hother, hpc, hid⟩
        exact ⟨track, htracks, other, hdelivered ▸ hother, hpc, hid⟩
  exact hkept.congr rfl rfl rfl rfl rfl rfl (fun _ hid => hid) fun _ _ _ hnow => hnow

/-! ### Calls -/

/-- A call that does not concern the peer leaves its places as they are. -/
theorem HeldAt.call {delivery : Delivery} {place : Place} (h : server.HeldAt delivery place)
    (seen : Expiry) {handle : Nat} {routerCall : RouterCall}
    (hother : ∀ session, server.signaling.sessions.lookup delivery.pc.owner = some session →
      server.handleOf session.roomId = some handle →
        ¬ routerCall.Concerns delivery.pc.owner delivery.pc.connection) :
    (server.callRouters seen handle routerCall).HeldAt delivery place := by
  intro session found routers hsession hfound hrouters
  rw [getElem?_callRouters] at hrouters
  by_cases hsame : found = handle
  · rw [if_pos hsame] at hrouters
    rcases Option.map_eq_some_iff.mp hrouters with ⟨old, hold, rfl⟩
    rw [RoomRouters.holdingsOf_call old seen (hother session hsession (hsame ▸ hfound))]
    exact h session found old hsession hfound hold
  · rw [if_neg hsame] at hrouters
    exact h session found routers hsession hfound hrouters

/-- The io thread calls a router. -/
theorem Followed.called (h : Followed server) (hsound : Sound server) (seen : Expiry)
    {handle : Nat} {routerCall : RouterCall} {rest : List IoSection}
    (hio : server.io = IoSection.call handle routerCall :: rest) :
    Followed { server.callRouters seen handle routerCall with io := rest } := by
  have hhead : IoSection.call handle routerCall ∈ server.io := by
    rw [hio]
    exact List.mem_cons_self
  have hkept : Followed (server.callRouters seen handle routerCall) := by
    refine ⟨h.numbers, h.created, h.own, h.running, h.found, ?_⟩
    intro delivery hdelivery place hplace hnow
    rcases h.held delivery hdelivery place hplace hnow with hawaited | hheld
    · exact Or.inl hawaited
    · refine Or.inr (hheld.call seen fun session hsession hhandle hconcerns => ?_)
      -- No registration is made on the io thread, and the others come too late.
      rcases hconcerns with ⟨track, ssrc, rfl⟩ | rfl | rfl
      · exact hsound.duties.registrations _ _ _ _ _ hhead
      · exact hsound.duties.removals _ _ _ hhead (mem_media_of_current hnow)
      · exact hsound.duties.closings _ _ hhead session.roomId hhandle
  exact hkept.congr rfl rfl rfl rfl rfl rfl (fun _ hid => hid) fun _ _ _ hnow => hnow

/-- A written place holds a track of the PeerConnection that is current. -/
theorem heldAt_written (hsound : Sound server) (seen : Expiry) {handle : Nat}
    {delivery other : Delivery} {place : Place} (hdelivery : delivery ∈ server.delivered)
    (hplace : delivery.place = some place) (hpc : delivery.pc = other.pc)
    (hhandle : ∀ session current, server.signaling.sessions.lookup other.pc.owner = some session →
      server.handleOf session.roomId = some current → current = handle) :
    (server.callRouters seen handle delivery.routerCall).HeldAt other place := by
  intro session found routers hsession hfound hrouters
  rw [getElem?_callRouters, if_pos (hhandle session found hsession hfound)] at hrouters
  rcases Option.map_eq_some_iff.mp hrouters with ⟨old, hold, rfl⟩
  have hopen := hsound.housed.opened session.roomId found old hfound hold delivery.pc.connection
  have hplaced := RoomRouters.placed_call hopen seen delivery.pc.owner delivery.ssrc hplace
  refine ⟨delivery.track.id, ?_, delivery, hdelivery, hpc, rfl⟩
  rw [← hpc]
  exact hplaced.holds ((hsound.housed.sound old (List.mem_of_getElem? hold)).distinct_holdingsOf
    delivery.pc.owner delivery.pc.connection)

/-- A track that is not written over one of the current PeerConnection leaves its places
held. -/
theorem HeldAt.routed {other : Delivery} {place : Place} (h : server.HeldAt other place)
    (hsound : Sound server) (seen : Expiry) {handle : Nat} {delivery : Delivery}
    (hdelivery : delivery ∈ server.delivered)
    (hnow : server.current other.pc.owner other.pc.connection = some other.pc.number)
    (htimely : server.Timely handle delivery) :
    (server.callRouters seen handle delivery.routerCall).HeldAt other place := by
  intro session found routers hsession hfound hrouters
  rw [getElem?_callRouters] at hrouters
  by_cases hsame : found = handle
  · rw [if_pos hsame] at hrouters
    rcases Option.map_eq_some_iff.mp hrouters with ⟨old, hold, rfl⟩
    have hbefore := h session found old hsession hfound hold
    by_cases hmine : delivery.pc.owner = other.pc.owner ∧
        delivery.pc.connection = other.pc.connection
    · cases hwritten : delivery.place with
      | none =>
          rw [Delivery.routerCall, RoomRouters.call_of_placeIn_eq_none old seen _ _ hwritten]
          exact hbefore
      | some written =>
          have hopen := hsound.housed.opened session.roomId found old hfound hold
            delivery.pc.connection
          have hplaced := RoomRouters.placed_call hopen seen delivery.pc.owner delivery.ssrc
            hwritten
          have hsoundOld := hsound.housed.sound old (List.mem_of_getElem? hold)
          have hdistinct := hsoundOld.distinct_holdingsOf delivery.pc.owner delivery.pc.connection
          rw [← hmine.1, ← hmine.2] at hnow hbefore ⊢
          by_cases hplace : place = written
          · subst hplace
            rcases htimely with hcurrent | hfree
            · rw [hnow, Option.some.injEq] at hcurrent
              exact ⟨delivery.track.id, hplaced.holds hdistinct, delivery, hdelivery,
                PeerConnection.eq_of_number hcurrent.symm hmine.1 hmine.2, rfl⟩
            · exfalso
              rcases hbefore with ⟨track, htracks, first, hfirst, hpc, hid⟩
              apply hfree
              simp only [HoldsCurrent, hnow, hwritten, ← hsame, hold]
              refine ⟨some track, ?_, first, hfirst, ?_, by rw [hid]⟩
              · rw [htracks]
                exact List.mem_singleton_self _
              · rw [hpc]
                exact PeerConnection.eq_of_number rfl hmine.1.symm hmine.2.symm
          · rcases hbefore with ⟨track, htracks, hof⟩
            exact ⟨track, (hplaced.elsewhere hplace).trans htracks, hof⟩
    · rw [RoomRouters.holdingsOf_call old seen]
      · exact hbefore
      · rintro (⟨track, ssrc, hcall⟩ | hcall | hcall)
        · rw [Delivery.routerCall, RouterCall.registerTrack.injEq] at hcall
          exact hmine ⟨hcall.2.1, hcall.1⟩
        · contradiction
        · contradiction
  · rw [if_neg hsame] at hrouters
    exact h session found routers hsession hfound hrouters

/-! ### Callbacks -/

/-- A callback runs a section and goes on with others for the same delivery. -/
theorem Awaited.run {other : Delivery} (h : server.Awaited other) {index : Nat}
    {head : CallbackSection} {rest : List CallbackSection}
    (hhead : server.callbacks[index]? = some (head :: rest)) (hne : head.delivery ≠ other)
    (pushed : List CallbackSection) :
    ({ server with
      callbacks := server.callbacks.set index (pushed ++ rest) } : MediaServer).Awaited other := by
  rcases h with ⟨item, hpending, rfl⟩
  refine ⟨item, hpending.run hhead ?_ pushed, rfl⟩
  rintro rfl
  exact hne rfl

/-- A callback calls no router. -/
theorem Followed.run (h : Followed server) {index : Nat} {head : CallbackSection}
    {rest pushed : List CallbackSection}
    (hhead : server.callbacks[index]? = some (head :: rest))
    (hpushed : ∀ item ∈ pushed, item.delivery = head.delivery)
    (hfound : ∀ handle delivery, CallbackSection.callRouter handle delivery ∈ pushed →
      ∃ session, server.signaling.sessions.lookup delivery.pc.owner = some session ∧
        (delivery.pc.owner ∈ server.media → ∀ current,
          server.handleOf session.roomId = some current → current = handle))
    (hheld : server.current head.delivery.pc.owner head.delivery.pc.connection =
      some head.delivery.pc.number → pushed ≠ [] ∨ ∀ place, server.HeldAt head.delivery place) :
    Followed { server with callbacks := server.callbacks.set index (pushed ++ rest) } := by
  have hmem := h.running head (Pool.pending_head hhead)
  refine ⟨h.numbers, h.created, h.own, ?_, ?_, ?_⟩
  · intro item hpending
    rcases Pool.pending_of_run hhead hpending with hold | hnew
    · exact h.running item hold
    · rw [hpushed item hnew]
      exact hmem
  · intro handle delivery hpending
    rcases Pool.pending_of_run hhead hpending with hold | hnew
    · exact h.found handle delivery hold
    · exact hfound handle delivery hnew
  · intro other hother place hplace hnow
    by_cases hsame : head.delivery = other
    · subst hsame
      rcases hheld hnow with hgoes | hdone
      · rcases List.exists_mem_of_ne_nil _ hgoes with ⟨item, hitem⟩
        exact Or.inl ⟨item, Pool.pending_pushed hhead hitem, hpushed item hitem⟩
      · exact Or.inr ((hdone place).congr rfl rfl rfl fun _ hkept => hkept)
    · rcases h.held other hother place hplace hnow with hawaited | hheldBefore
      · exact Or.inl (hawaited.run hhead hsame pushed)
      · exact Or.inr (hheldBefore.congr rfl rfl rfl fun _ hkept => hkept)

/-- The media connections take a track of the current PeerConnection. -/
theorem Followed.registered (h : Followed server) {delivery : Delivery}
    {media media' : MediaConnections}
    (hmedia : server.media.lookup delivery.pc.owner = some media)
    (hregistered : media.registerTrack delivery.pc.connection delivery.pc.number
      delivery.track.mid delivery.track.id = some media') :
    Followed { server with media := server.media.insert delivery.pc.owner media' } := by
  refine h.congr rfl rfl rfl rfl rfl rfl (fun _ hid => mem_insertMedia hmedia hid) ?_
  intro id connection pc hnow
  by_cases hsame : id = delivery.pc.owner
  · subst hsame
    simp only [current, AList.lookup_insert, Option.bind_some] at hnow
    rw [(MediaConnections.registerTrack_eq_some hregistered).2] at hnow
    rw [current, hmedia]
    exact hnow
  · simp only [current, AList.lookup_insert_ne hsame] at hnow
    exact hnow

/-- A callback calls the router that it has found. -/
theorem Followed.routed (h : Followed server) (hsound : Sound server) (seen : Expiry)
    {index handle : Nat} {delivery : Delivery} {rest : List CallbackSection}
    (hhead : server.callbacks[index]? = some (CallbackSection.callRouter handle delivery :: rest))
    (htimely : server.Timely handle delivery) :
    Followed { server.callRouters seen handle delivery.routerCall with
      callbacks := server.callbacks.set index ([] ++ rest) } := by
  have hpending := Pool.pending_head hhead
  have hmem : delivery ∈ server.delivered := h.running _ hpending
  refine ⟨h.numbers, h.created, h.own, ?_, ?_, ?_⟩
  · intro item hitem
    exact h.running item ((Pool.pending_of_run hhead hitem).resolve_right List.not_mem_nil)
  · intro found other hother
    exact h.found found other ((Pool.pending_of_run hhead hother).resolve_right List.not_mem_nil)
  · intro other hother place hplace hnow
    by_cases hsame : delivery = other
    · subst hsame
      rcases h.found handle delivery hpending with ⟨session, hsession, hfound⟩
      have hroom : ∀ found current,
          server.signaling.sessions.lookup delivery.pc.owner = some found →
            server.handleOf found.roomId = some current → current = handle := by
        intro found current hlookup hcurrent
        rw [hsession, Option.some.injEq] at hlookup
        rw [← hlookup] at hcurrent
        exact hfound (mem_media_of_current hnow) current hcurrent
      exact Or.inr ((heldAt_written hsound seen hmem hplace rfl hroom).congr rfl rfl rfl
        fun _ hkept => hkept)
    · rcases h.held other hother place hplace hnow with hawaited | hheld
      · exact Or.inl (hawaited.run hhead hsame [])
      · exact Or.inr ((hheld.routed hsound seen hmem hnow htimely).congr rfl rfl rfl
          fun _ hkept => hkept)

/-! ## Every run -/

/-- Every action in order keeps the invariant. -/
theorem Followed.step (h : Followed server) (hsound : Sound server)
    (hordered : Ordered server action) (hact : server.act action = some next) :
    Followed next := by
  cases acted_of_act hact with
  | handled event hidle hevent =>
      exact h.congr rfl rfl rfl rfl rfl rfl (fun _ hid => hid) fun _ _ _ hnow => hnow
  | mediaClosed seen failed id rest hio =>
      refine h.congr rfl rfl rfl rfl rfl rfl (fun _ hid => (AList.mem_erase.mp hid).2) ?_
      intro other connection pc hnow
      rcases Option.bind_eq_some_iff.mp hnow with ⟨media, hmedia, hcurrent⟩
      rw [current, (Table.lookup_of_lookup_erase hmedia).2]
      exact hcurrent
  | signaled seen failed hio hsignal => exact h.signal hsound hsignal _
  | called seen failed handle routerCall rest hio => exact h.called hsound seen hio
  | offered seen failed hio hhead hpushed =>
      exact h.congr rfl rfl rfl rfl rfl rfl (fun _ hid => hid) fun _ _ _ hnow => hnow
  | removed seen failed id connection pc rest hio =>
      exact h.congr rfl rfl rfl rfl rfl rfl (fun _ hid => mem_modifyMedia hid)
        fun _ _ _ hnow => current_of_removed hnow
  | created seen id connection rest hio => exact h.install id connection _
  | delivered delivery hcreated hown => exact h.onTrack hcreated hown
  | registered index seen alive hhead hmedia hregistered =>
      refine (h.registered hmedia hregistered).run hhead ?_ ?_ fun _ => Or.inl (by simp)
      · intro item hitem
        rw [List.mem_singleton.mp hitem]
        rfl
      · intro handle delivery hmem
        simp at hmem
  | rejected index seen alive hhead hother =>
      exact h.run hhead (by simp) (by simp) fun hnow => absurd hnow hother
  | orphaned index seen alive hhead hgone =>
      refine h.run hhead (by simp) (by simp) fun hnow => ?_
      have howner := mem_media_of_current hnow
      rcases hsound.owners _ howner with ⟨session, hsession, -⟩
      rcases hgone with habsent | hnone
      · exact absurd howner habsent
      · exact absurd (hsession.symm.trans hnone) (by simp)
  | @found index seen alive delivery rest session hhead hsession =>
      refine h.run hhead ?_ ?_ ?_
      · intro item hitem
        rcases List.mem_map.mp hitem with ⟨handle, -, rfl⟩
        rfl
      · intro handle other hmem
        rcases List.mem_map.mp hmem with ⟨found, hfound, hsame⟩
        rw [CallbackSection.callRouter.injEq] at hsame
        rw [← hsame.1, ← hsame.2]
        refine ⟨session, hsession, fun _ current hcurrent => ?_⟩
        exact Option.some.inj (hcurrent.symm.trans (Option.mem_toList.mp hfound))
      · intro hnow
        cases hhandle : server.handleOf session.roomId with
        | some handle => exact Or.inl (by simp)
        | none =>
            refine Or.inr fun place found handle routers hfound hcurrent _ => ?_
            obtain rfl : session = found := Option.some.inj (hsession.symm.trans hfound)
            exact absurd (hcurrent.symm.trans hhandle) (by simp)
  | routed index seen alive hhead =>
      rw [Ordered, hhead] at hordered
      exact h.routed hsound seen hhead hordered
  | lost pc =>
      exact h.congr rfl rfl rfl rfl rfl rfl (fun _ hid => mem_modifyMedia hid)
        fun _ _ _ hnow => current_of_removed hnow
  | closedTrack pc mid track =>
      exact h.congr rfl rfl rfl rfl rfl rfl (fun _ hid => mem_modifyMedia hid)
        fun _ _ _ hnow => current_of_trackClosed hnow

theorem followed_initial (h : Initial server) : Followed server := by
  rcases h with ⟨faultConfig, rfl⟩
  constructor <;> simp [Pool.Pending]

/-- In every run in order the routers hold tracks of the current PeerConnections. -/
theorem tracks_follow (h : Reachable Initial OrderedStep server) : Follows server := by
  apply Followed.follows
  refine Reachable.invariant (fun _ hstart => followed_initial hstart) ?_ h
  rintro state later hreachable hfollowed ⟨action, hordered, hact⟩
  have hsound : Sound state :=
    sound_of_reachable (hreachable.mono (fun _ _ ⟨action, _, hact⟩ => ⟨action, hact⟩))
  exact hfollowed.step hsound hordered hact

/-! ## Bob offers again -/

/-- Bob's second PeerConnection registers its track after the first one has. -/
def followedServer : MediaServer :=
  (execute Ordered act {} (bobJoins ++ registering 0 3 ++ bobOffers 5 ++
    [MediaAction.onTrack (bobSpeaks 1)] ++ registering 1 3)).getD {}

theorem followedServer_follows : Follows followedServer :=
  tracks_follow (Reachable.execute
    (fun _ action _ hordered hact => ⟨action, hordered, hact⟩) (Reachable.start ⟨{}, rfl⟩)
    (execute_eq_some_getD (by decide +kernel)))

/-- The second PeerConnection is between the two checks of the first one. -/
def overtakenServer : MediaServer :=
  (execute (fun _ _ => True) act {} (bobJoins ++ registering 0 1 ++ bobOffers 5 ++
    [MediaAction.onTrack (bobSpeaks 1)] ++ registering 1 3 ++ registering 0 2)).getD {}

/-- Everything has finished, the second PeerConnection is current and has delivered a
track, and the voice router holds the track of the first one. -/
theorem overtaken_registration_stays :
    Reachable Initial Step overtakenServer ∧ Quiet overtakenServer ∧
      overtakenServer.current (generateId 2) ConnectionId.voice = some 1 ∧
      bobSpeaks 1 ∈ overtakenServer.delivered ∧
      ((overtakenServer.routers[0]?).map fun routers =>
        (routers.holdingsOf (generateId 2) ConnectionId.voice).tracksAt
          (Place.input MediaType.audio)) = some [some 1] ∧
      ¬ Follows overtakenServer := by
  have hquiet : Quiet overtakenServer := by
    constructor <;> decide +kernel
  have hcurrent : overtakenServer.current (generateId 2) ConnectionId.voice = some 1 := by
    decide +kernel
  have hdelivered : bobSpeaks 1 ∈ overtakenServer.delivered := by
    decide +kernel
  have hheld : ((overtakenServer.routers[0]?).map fun routers =>
      (routers.holdingsOf (generateId 2) ConnectionId.voice).tracksAt
        (Place.input MediaType.audio)) = some [some 1] := by
    decide +kernel
  refine ⟨?_, hquiet, hcurrent, hdelivered, hheld, ?_⟩
  · exact Reachable.execute (fun _ action _ _ hact => ⟨action, hact⟩) (Reachable.start ⟨{}, rfl⟩)
      (execute_eq_some_getD (by decide +kernel))
  · intro hfollows
    have hidle : ¬ overtakenServer.Registering (generateId 2) := by
      rintro ⟨item, hpending, -⟩
      exact hquiet.2.not_pending item hpending
    have hheldAt := (hfollows _ hdelivered (Place.input MediaType.audio) rfl hcurrent hidle).1
    have hsession : overtakenServer.signaling.sessions.lookup (generateId 2) =
        some { roomId := ⟨text "lobby"⟩, username := ⟨text "bob"⟩ } := by
      decide +kernel
    have hhandle : overtakenServer.handleOf ⟨text "lobby"⟩ = some 0 := by
      decide +kernel
    rcases Option.map_eq_some_iff.mp hheld with ⟨routers, hrouters, htracks⟩
    rcases hheldAt _ 0 routers hsession hhandle hrouters with ⟨track, hsame, hof⟩
    have hone : [some 1] = [some track] := htracks.symm.trans hsame
    obtain rfl : track = 1 := by simpa using hone.symm
    have hother : ¬ overtakenServer.TrackOf (bobSpeaks 1).pc 1 := by
      decide +kernel
    exact hother hof

end MediaServer

end Server
end Driscord
