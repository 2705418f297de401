import Driscord.Server.Sessions

/-!
# Registered sessions

What holds in every run of the server, whatever the sessions send: the members of
a room are the open sessions that were accepted into it, under their usernames.
While no exception has ended the server, all names in a room are valid UTF-8, so
that a welcome can always be written.

Main results:

- Theorem `Registry.step`: every event keeps the registry.
- Theorem `registry_of_reachable`: the registry is right in every run.
-/

namespace Driscord
namespace Server

open Library Signaling

/-! ## Operations on a room -/

namespace Room

@[simp]
theorem sessions_watch (room : Room) (id publisher : PeerId) :
    (room.watch id publisher).sessions = room.sessions := rfl

@[simp]
theorem streamingPeers_watch (room : Room) (id publisher : PeerId) :
    (room.watch id publisher).streamingPeers = room.streamingPeers := rfl

@[simp]
theorem sessions_unwatch (room : Room) (id publisher : PeerId) :
    (room.unwatch id publisher).sessions = room.sessions := by
  unfold unwatch
  split
  · rfl
  · split <;> rfl

@[simp]
theorem streamingPeers_unwatch (room : Room) (id publisher : PeerId) :
    (room.unwatch id publisher).streamingPeers = room.streamingPeers := by
  unfold unwatch
  split
  · rfl
  · split <;> rfl

theorem lookup_leave_self (room : Room) (id : PeerId) :
    (room.leave id).sessions.lookup id = none :=
  AList.lookup_erase id room.sessions

theorem lookup_leave_ne (room : Room) {id other : PeerId} (h : other ≠ id) :
    (room.leave id).sessions.lookup other = room.sessions.lookup other :=
  AList.lookup_erase_ne h

end Room

namespace SignalingSystem

/-- The members of the rooms are the open sessions. -/
structure Registry (system : SignalingSystem) : Prop where
  ids : ∀ id session, system.sessions.lookup id = some session →
    validUtf8 id.value = true ∧ id.value ≠ []
  member : ∀ roomId room id username, system.server.rooms.lookup roomId = some room →
    room.sessions.lookup id = some username →
      ∃ session, system.sessions.lookup id = some session ∧ session.roomId = roomId ∧
        session.username = username ∧ session.closed = false
  streamer : ∀ roomId room id, system.server.rooms.lookup roomId = some room →
    id ∈ room.streamingPeers →
      ∃ session, system.sessions.lookup id = some session ∧ session.roomId = roomId
  occupied : ∀ roomId room, system.server.rooms.lookup roomId = some room →
    ∃ id, id ∈ room.sessions
  registered : system.server.stopping = false → ∀ id session,
    system.sessions.lookup id = some session → session.closed = false →
      ∃ room, system.server.rooms.lookup session.roomId = some room ∧ id ∈ room.sessions
  names : system.ended = false → ∀ roomId room id username,
    system.server.rooms.lookup roomId = some room →
      room.sessions.lookup id = some username → validUtf8 username.value = true
  gone : ∀ id, LogEntry.unregistered id ∈ system.log →
    ∃ session, system.sessions.lookup id = some session ∧ session.closed = true

theorem registry_initial : Registry {} where
  ids _ _ h := by simp at h
  member _ _ _ _ h := by simp at h
  streamer _ _ _ h := by simp at h
  occupied _ _ h := by simp at h
  registered _ _ _ h := by simp at h
  names _ _ _ _ _ h := by simp at h
  gone _ h := by simp at h

variable {system : SignalingSystem}

@[simp]
theorem sessions_conclude (result : WebSocketServer × Except JsonError Sends) :
    (system.conclude result).sessions = system.sessions := by
  unfold SignalingSystem.conclude
  split <;> rfl

@[simp]
theorem server_conclude (result : WebSocketServer × Except JsonError Sends) :
    (system.conclude result).server = result.1 := by
  unfold SignalingSystem.conclude
  split <;> rfl

theorem rooms_conclude (result : WebSocketServer × Except JsonError Sends) :
    (system.conclude result).server.rooms = result.1.rooms := by
  rw [server_conclude]

/-- Messages leave the registry alone, and an exception ends the server. -/
theorem Registry.conclude {result : WebSocketServer × Except JsonError Sends}
    (h : Registry { system with
      server := result.1
      ended := !result.2.isOk || system.ended }) : Registry (system.conclude result) := by
  unfold SignalingSystem.conclude
  rcases result with ⟨server, error | sends⟩
  · exact ⟨h.ids, h.member, h.streamer, h.occupied, h.registered, fun hended => by contradiction,
      h.gone⟩
  · refine ⟨h.ids, h.member, h.streamer, h.occupied, h.registered, h.names, ?_⟩
    intro id hlog
    rcases List.mem_append.mp hlog with hold | hnew
    · exact h.gone id hold
    · simp at hnew

/-- An exception only ever removes the promise on names. -/
theorem Registry.orEnded (h : Registry system) (ended : Bool) :
    Registry { system with ended := ended || system.ended } :=
  ⟨h.ids, h.member, h.streamer, h.occupied, h.registered,
    fun hended => h.names (Bool.or_eq_false_iff.mp hended).2, h.gone⟩

/-- A change to a room that keeps its sessions and adds at most one of them to the
streaming peers. -/
theorem Registry.inRoom (h : Registry system) {roomId : RoomId} {f : Room → Room}
    (hsessions : ∀ room, (f room).sessions = room.sessions)
    (hstreaming : ∀ room id, id ∈ (f room).streamingPeers → id ∈ room.streamingPeers ∨
      ∃ session, system.sessions.lookup id = some session ∧ session.roomId = roomId) :
    Registry { system with server := system.server.inRoom roomId f } := by
  have hlookup : ∀ other changed,
      (system.server.inRoom roomId f).rooms.lookup other = some changed →
        ∃ room, system.server.rooms.lookup other = some room ∧
          changed.sessions = room.sessions ∧
          ∀ id ∈ changed.streamingPeers, id ∈ room.streamingPeers ∨
            ∃ session, system.sessions.lookup id = some session ∧ session.roomId = other := by
    intro other changed hchanged
    rw [WebSocketServer.inRoom, Table.lookup_modify, Option.map_eq_some_iff] at hchanged
    rcases hchanged with ⟨room, hroom, rfl⟩
    by_cases hsame : other = roomId
    · subst hsame
      rw [if_pos rfl]
      exact ⟨room, hroom, hsessions room, hstreaming room⟩
    · rw [if_neg hsame]
      exact ⟨room, hroom, rfl, fun _ => Or.inl⟩
  refine ⟨h.ids, ?_, ?_, ?_, ?_, ?_, h.gone⟩
  · intro other changed id username hchanged husername
    rcases hlookup other changed hchanged with ⟨room, hroom, hsame, _⟩
    exact h.member other room id username hroom (hsame ▸ husername)
  · intro other changed id hchanged hid
    rcases hlookup other changed hchanged with ⟨room, hroom, _, hpeers⟩
    rcases hpeers id hid with hold | hnew
    · exact h.streamer other room id hroom hold
    · exact hnew
  · intro other changed hchanged
    rcases hlookup other changed hchanged with ⟨room, hroom, hsame, _⟩
    rw [hsame]
    exact h.occupied other room hroom
  · intro hrunning id session hsession hopen
    rcases h.registered hrunning id session hsession hopen with ⟨room, hroom, hid⟩
    rw [WebSocketServer.inRoom]
    refine ⟨if session.roomId = roomId then f room else room, ?_, ?_⟩
    · rw [Table.lookup_modify, hroom, Option.map_some]
    · split
      · rwa [hsessions]
      · exact hid
  · intro hended other changed id username hchanged husername
    rcases hlookup other changed hchanged with ⟨room, hroom, hsame, _⟩
    exact h.names hended other room id username hroom (hsame ▸ husername)

/-- A session that only changes its `reading` flag. -/
theorem Registry.setReading (h : Registry system) {id : PeerId} {session : Session}
    (hsession : system.sessions.lookup id = some session) (reading : Bool) :
    Registry { system with
      sessions := system.sessions.insert id { session with reading := reading } } := by
  have hlookup : ∀ other found, system.sessions.lookup other = some found →
      ∃ changed, (system.sessions.insert id { session with reading := reading }).lookup other =
        some changed ∧ changed.roomId = found.roomId ∧ changed.username = found.username ∧
          changed.closed = found.closed := by
    intro other found hfound
    by_cases hsame : other = id
    · subst hsame
      rw [hsession, Option.some.injEq] at hfound
      subst hfound
      exact ⟨_, AList.lookup_insert _, rfl, rfl, rfl⟩
    · exact ⟨found, by rw [AList.lookup_insert_ne hsame, hfound], rfl, rfl, rfl⟩
  have hback : ∀ other changed,
      (system.sessions.insert id { session with reading := reading }).lookup other =
        some changed → ∃ found, system.sessions.lookup other = some found ∧
          found.roomId = changed.roomId ∧ found.closed = changed.closed := by
    intro other changed hchanged
    by_cases hsame : other = id
    · subst hsame
      rw [AList.lookup_insert, Option.some.injEq] at hchanged
      subst hchanged
      exact ⟨session, hsession, rfl, rfl⟩
    · rw [AList.lookup_insert_ne hsame] at hchanged
      exact ⟨changed, hchanged, rfl, rfl⟩
  refine ⟨?_, ?_, ?_, h.occupied, ?_, h.names, ?_⟩
  · intro other changed hchanged
    rcases hback other changed hchanged with ⟨found, hfound, _⟩
    exact h.ids other found hfound
  · intro roomId room other username hroom husername
    rcases h.member roomId room other username hroom husername with
      ⟨found, hfound, hroomId, hname, hopen⟩
    rcases hlookup other found hfound with ⟨changed, hchanged, hroom', hname', hopen'⟩
    exact ⟨changed, hchanged, hroom'.trans hroomId, hname'.trans hname, hopen'.trans hopen⟩
  · intro roomId room other hroom hother
    rcases h.streamer roomId room other hroom hother with ⟨found, hfound, hroomId⟩
    rcases hlookup other found hfound with ⟨changed, hchanged, hroom', _⟩
    exact ⟨changed, hchanged, hroom'.trans hroomId⟩
  · intro hrunning other changed hchanged hopen
    rcases hback other changed hchanged with ⟨found, hfound, hroomId, hclosed⟩
    rw [← hroomId]
    exact h.registered hrunning other found hfound (hclosed.trans hopen)
  · intro other hlog
    rcases h.gone other hlog with ⟨found, hfound, hclosed⟩
    rcases hlookup other found hfound with ⟨changed, hchanged, _, _, hclosed'⟩
    exact ⟨changed, hchanged, hclosed'.trans hclosed⟩

/-- A session is closed and has left its room. -/
theorem Registry.close (h : Registry system) {id : PeerId} {session : Session}
    {rooms : Table RoomId Room}
    (hsession : system.sessions.lookup id = some session)
    (hself : ∀ room, rooms.lookup session.roomId = some room → id ∉ room.sessions)
    (hrooms : ∀ roomId left, rooms.lookup roomId = some left →
      (∃ other, other ∈ left.sessions) ∧
        ∃ room, system.server.rooms.lookup roomId = some room ∧
          (∀ other, other ≠ id → left.sessions.lookup other = room.sessions.lookup other) ∧
            (roomId ≠ session.roomId → left = room) ∧
            ∀ other ∈ left.streamingPeers, other ∈ room.streamingPeers)
    (hkeep : ∀ roomId room other, system.server.rooms.lookup roomId = some room →
      other ∈ room.sessions → other ≠ id → ∃ left, rooms.lookup roomId = some left ∧
        other ∈ left.sessions) (entries : List LogEntry)
    (hentries : ∀ other, LogEntry.unregistered other ∈ entries → other = id) :
    Registry { system with
      server := { system.server with rooms := rooms }
      sessions := system.sessions.insert id { session with closed := true }
      log := system.log ++ entries } := by
  have hmember : ∀ roomId left other, rooms.lookup roomId = some left →
      other ∈ left.sessions → other ≠ id := by
    rintro roomId left other hleft hother rfl
    rcases hrooms roomId left hleft with ⟨_, room, hroom, _, hsame, _⟩
    by_cases hhere : roomId = session.roomId
    · exact hself left (hhere ▸ hleft) hother
    · rw [hsame hhere] at hother
      rcases Table.mem_iff_exists_lookup.mp hother with ⟨username, husername⟩
      rcases h.member roomId room other username hroom husername with
        ⟨found, hfound, hroomId, _⟩
      rw [hsession, Option.some.injEq] at hfound
      exact hhere (hfound ▸ hroomId.symm)
  have hfound : ∀ other found, system.sessions.lookup other = some found →
      ∃ changed, (system.sessions.insert id { session with closed := true }).lookup other =
        some changed ∧ changed.roomId = found.roomId := by
    intro other found hfound
    by_cases hsame : other = id
    · subst hsame
      rw [hsession, Option.some.injEq] at hfound
      exact ⟨_, AList.lookup_insert _, by rw [← hfound]⟩
    · exact ⟨found, by rw [AList.lookup_insert_ne hsame, hfound], rfl⟩
  refine ⟨?_, ?_, ?_, ?_, ?_, ?_, ?_⟩
  · intro other changed hchanged
    by_cases hsame : other = id
    · exact hsame ▸ h.ids id session hsession
    · rw [AList.lookup_insert_ne hsame] at hchanged
      exact h.ids other changed hchanged
  · intro roomId left other username hleft husername
    have hne := hmember roomId left other hleft (Table.mem_of_lookup husername)
    rcases hrooms roomId left hleft with ⟨_, room, hroom, hlookup, _⟩
    rw [hlookup other hne] at husername
    rw [AList.lookup_insert_ne hne]
    exact h.member roomId room other username hroom husername
  · intro roomId left other hleft hother
    rcases hrooms roomId left hleft with ⟨_, room, hroom, _, _, hpeers⟩
    rcases h.streamer roomId room other hroom (hpeers other hother) with ⟨old, hold, hroomId⟩
    rcases hfound other old hold with ⟨changed, hchanged, hsame⟩
    exact ⟨changed, hchanged, hsame.trans hroomId⟩
  · exact fun roomId left hleft => (hrooms roomId left hleft).1
  · intro hrunning other changed hchanged hopen
    by_cases hsame : other = id
    · rw [hsame, AList.lookup_insert, Option.some.injEq] at hchanged
      rw [← hchanged] at hopen
      contradiction
    · rw [AList.lookup_insert_ne hsame] at hchanged
      rcases h.registered hrunning other changed hchanged hopen with ⟨room, hroom, hother⟩
      exact hkeep changed.roomId room other hroom hother hsame
  · intro hended roomId left other username hleft husername
    have hne := hmember roomId left other hleft (Table.mem_of_lookup husername)
    rcases hrooms roomId left hleft with ⟨_, room, hroom, hlookup, _⟩
    rw [hlookup other hne] at husername
    exact h.names hended roomId room other username hroom husername
  · intro other hlog
    rcases List.mem_append.mp hlog with hold | hnew
    · rcases h.gone other hold with ⟨old, holdSession, hclosed⟩
      by_cases hsame : other = id
      · rw [hsame]
        exact ⟨_, AList.lookup_insert _, rfl⟩
      · exact ⟨old, by rw [AList.lookup_insert_ne hsame, holdSession], hclosed⟩
    · rw [hentries other hnew]
      exact ⟨_, AList.lookup_insert _, rfl⟩

theorem mem_others {room : Room} {id other : PeerId} :
    other ∈ room.others id ↔ other ∈ room.sessions ∧ other ≠ id := by
  simp [Room.others, AList.mem_keys]

theorem lookup_roomsWithout_self (server : WebSocketServer) (id : PeerId) (roomId : RoomId)
    (room : Room) : (server.roomsWithout id roomId room).lookup roomId =
      if room.others id = [] then none else some (room.leave id) := by
  unfold WebSocketServer.roomsWithout
  split
  · exact AList.lookup_erase _ _
  · exact AList.lookup_insert _

theorem lookup_roomsWithout_ne (server : WebSocketServer) (id : PeerId) {roomId other : RoomId}
    (room : Room) (h : other ≠ roomId) :
    (server.roomsWithout id roomId room).lookup other = server.rooms.lookup other := by
  unfold WebSocketServer.roomsWithout
  split
  · exact AList.lookup_erase_ne h
  · exact AList.lookup_insert_ne h

/-- A session leaves its room. -/
theorem Registry.leave (h : Registry system) {id : PeerId} {session : Session} {room : Room}
    (hsession : system.sessions.lookup id = some session)
    (hroom : system.server.rooms.lookup session.roomId = some room) :
    Registry { system with
      server := { system.server with
        rooms := system.server.roomsWithout id session.roomId room }
      sessions := system.sessions.insert id { session with closed := true }
      log := system.log ++ [LogEntry.unregistered id] } := by
  apply h.close hsession
  · intro left hleft
    rw [lookup_roomsWithout_self] at hleft
    split at hleft
    · contradiction
    · rw [← Option.some.inj hleft, ← AList.lookup_eq_none]
      exact room.lookup_leave_self id
  · intro roomId left hleft
    by_cases hhere : roomId = session.roomId
    · subst hhere
      rw [lookup_roomsWithout_self] at hleft
      split at hleft
      · contradiction
      · rename_i hothers
        rw [← Option.some.inj hleft]
        refine ⟨?_, room, hroom, ?_, ?_, ?_⟩
        · rcases List.exists_mem_of_ne_nil _ hothers with ⟨other, hother⟩
          rcases mem_others.mp hother with ⟨hmem, hne⟩
          exact ⟨other, (AList.mem_erase).mpr ⟨hne, hmem⟩⟩
        · exact fun other hne => room.lookup_leave_ne hne
        · exact fun hne => absurd rfl hne
        · exact fun other hother => (List.mem_filter.mp hother).1
    · rw [lookup_roomsWithout_ne _ _ _ hhere] at hleft
      exact ⟨h.occupied roomId left hleft, left, hleft, fun _ _ => rfl, fun _ => rfl,
        fun _ hpeer => hpeer⟩
  · intro roomId found other hfound hother hne
    by_cases hhere : roomId = session.roomId
    · subst hhere
      rw [hroom, Option.some.injEq] at hfound
      rw [← hfound] at hother
      have hothers : room.others id ≠ [] :=
        List.ne_nil_of_mem (mem_others.mpr ⟨hother, hne⟩)
      refine ⟨room.leave id, ?_, AList.mem_erase.mpr ⟨hne, hother⟩⟩
      rw [lookup_roomsWithout_self, if_neg hothers]
    · rw [lookup_roomsWithout_ne _ _ _ hhere]
      exact ⟨found, hfound, hother⟩
  · simp

/-- `on_close`. -/
theorem Registry.onClose (h : Registry system) {id : PeerId} {session : Session}
    (hsession : system.sessions.lookup id = some session) :
    Registry (system.onClose id session) := by
  unfold SignalingSystem.onClose
  split
  · exact h
  · have hunchanged : (∀ room, system.server.rooms.lookup session.roomId = some room →
        id ∉ room.sessions) → Registry { system with
          sessions := system.sessions.insert id { session with closed := true } } := by
      intro habsent
      have hclosed := h.close hsession habsent
        (fun roomId room hroom => ⟨h.occupied roomId room hroom, room, hroom,
          fun _ _ => rfl, fun _ => rfl, fun _ hpeer => hpeer⟩)
        (fun roomId room other hroom hother _ => ⟨room, hroom, hother⟩) [] (by simp)
      simpa using hclosed
    cases hroom : system.server.rooms.lookup session.roomId with
    | none => 
        simp only [WebSocketServer.unregisterSession, hroom]
        exact hunchanged fun room hfound => by simp [hroom] at hfound
    | some room =>
        by_cases hmem : id ∈ room.sessions
        · simp only [WebSocketServer.unregisterSession, hroom, if_pos hmem]
          have hleft := h.leave hsession hroom
          exact Registry.conclude (hleft.orEnded _)
        · simp only [WebSocketServer.unregisterSession, hroom, if_neg hmem]
          apply hunchanged
          intro found hfound
          rw [hroom, Option.some.injEq] at hfound
          rwa [← hfound]

/-! ## Joining -/

theorem strings_welcome (room : Room) (id : PeerId) :
    (Message.welcome id room.identities room.streamingPeers).strings =
      id.value :: (room.sessions.entries.flatMap fun entry => [entry.1.value, entry.2.value]) ++
        room.streamingPeers.map PeerId.value := by
  simp [Message.strings, Room.identities, List.flatMap_map]

/-- While no exception has ended the server, every welcome can be written. -/
theorem Registry.welcome (h : Registry system) (hended : system.ended = false)
    (roomId : RoomId) {id : PeerId} (hid : validUtf8 id.value = true) :
    (Message.welcome id ((system.server.rooms.lookup roomId).getD {}).identities
      ((system.server.rooms.lookup roomId).getD {}).streamingPeers).strings.all validUtf8 =
        true := by
  rw [strings_welcome, List.all_eq_true]
  intro value hvalue
  cases hroom : system.server.rooms.lookup roomId with
  | none =>
      rw [hroom] at hvalue
      have hsame : value = id.value := by
        have hnil : ((none : Option Room).getD {}).sessions.entries = [] := rfl
        simpa [hnil] using hvalue
      rw [hsame]
      exact hid
  | some room =>
      rw [hroom, Option.getD_some] at hvalue
      rcases List.mem_append.mp hvalue with hhead | hstreaming
      · rcases List.mem_cons.mp hhead with rfl | hmember
        · exact hid
        · rcases List.mem_flatMap.mp hmember with ⟨⟨other, username⟩, hentry, hstring⟩
          have hlookup : room.sessions.lookup other = some username :=
            AList.mem_lookup_iff.mpr hentry
          rcases h.member roomId room other username hroom hlookup with
            ⟨session, hsession, _⟩
          rcases List.mem_cons.mp hstring with rfl | hlast
          · exact (h.ids other session hsession).1
          · rw [List.mem_singleton.mp hlast]
            exact h.names hended roomId room other username hroom hlookup
      · rcases List.mem_map.mp hstreaming with ⟨other, hother, rfl⟩
        rcases h.streamer roomId room other hroom hother with ⟨session, hsession, _⟩
        exact (h.ids other session hsession).1

/-- A fresh session is in no room. -/
theorem Registry.not_member (h : Registry system) {id : PeerId}
    (hfresh : system.sessions.lookup id = none) (roomId : RoomId) :
    id ∉ ((system.server.rooms.lookup roomId).getD {}).sessions := by
  intro hmem
  cases hroom : system.server.rooms.lookup roomId with
  | none => simp [hroom] at hmem
  | some room =>
      rw [hroom, Option.getD_some] at hmem
      rcases Table.mem_iff_exists_lookup.mp hmem with ⟨username, husername⟩
      rcases h.member roomId room id username hroom husername with ⟨session, hsession, _⟩
      rw [hfresh] at hsession
      contradiction

/-- The rooms after a session has joined. -/
def joinedRooms (server : WebSocketServer) (id : PeerId) (roomId : RoomId)
    (username : Username) : Table RoomId Room :=
  server.rooms.insert roomId
    { (server.rooms.lookup roomId).getD {} with
      sessions := ((server.rooms.lookup roomId).getD {}).sessions.insert id username }

/-- What `on_accept` does while the server is running. -/
theorem Registry.registerAndBuildWelcome (h : Registry system) (hended : system.ended = false)
    (hrunning : system.server.stopping = false) {id : PeerId}
    (hfresh : system.sessions.lookup id = none) (hid : validUtf8 id.value = true)
    (roomId : RoomId) (username : Username) :
    system.server.registerAndBuildWelcome id roomId username =
      ({ system.server with rooms := joinedRooms system.server id roomId username },
        (sendTo ((system.server.rooms.lookup roomId).getD {}).sessions.keys
          (Message.peerJoined id username)).map
            (· ++ [(id, Message.welcome id
              ((system.server.rooms.lookup roomId).getD {}).identities
              ((system.server.rooms.lookup roomId).getD {}).streamingPeers)])) := by
  rw [WebSocketServer.registerAndBuildWelcome, if_neg (by simp [hrunning])]
  simp only
  rw [sendTo_eq_ok (h.welcome hended roomId hid)]
  simp only [Room.emplace, if_neg (h.not_member hfresh roomId), joinedRooms, List.map_cons,
    List.map_nil]

/-- A fresh session joins a room.  An exception is raised for a bad username. -/
theorem Registry.join (h : Registry system) {id : PeerId}
    (hfresh : system.sessions.lookup id = none) (hid : validUtf8 id.value = true)
    (hne : id.value ≠ []) (roomId : RoomId) (username : Username) {ended : Bool}
    (hvalid : ended = false → system.ended = false ∧ validUtf8 username.value = true) :
    Registry { system with
      server := { system.server with rooms := joinedRooms system.server id roomId username }
      sessions := system.sessions.insert id { roomId, username }
      ended := ended } := by
  have hold : ∀ other found, system.sessions.lookup other = some found →
      (system.sessions.insert id { roomId, username }).lookup other = some found := by
    intro other found hfound
    have hother : other ≠ id := by
      rintro rfl
      rw [hfresh] at hfound
      contradiction
    rwa [AList.lookup_insert_ne hother]
  have hmember : ∀ otherRoom room other name,
      (joinedRooms system.server id roomId username).lookup otherRoom = some room →
        room.sessions.lookup other = some name →
          (other = id ∧ otherRoom = roomId ∧ name = username) ∨
            ∃ found, system.server.rooms.lookup otherRoom = some found ∧
              found.sessions.lookup other = some name := by
    intro otherRoom room other name hroom hname
    by_cases hhere : otherRoom = roomId
    · subst hhere
      rw [joinedRooms, AList.lookup_insert, Option.some.injEq] at hroom
      rw [← hroom] at hname
      by_cases hsame : other = id
      · subst hsame
        rw [AList.lookup_insert, Option.some.injEq] at hname
        exact Or.inl ⟨rfl, rfl, hname.symm⟩
      · rw [AList.lookup_insert_ne hsame] at hname
        cases hfound : system.server.rooms.lookup otherRoom with
        | none => simp [hfound] at hname
        | some found =>
            rw [hfound, Option.getD_some] at hname
            exact Or.inr ⟨found, rfl, hname⟩
    · rw [joinedRooms, AList.lookup_insert_ne hhere] at hroom
      exact Or.inr ⟨room, hroom, hname⟩
  refine ⟨?_, ?_, ?_, ?_, ?_, ?_, ?_⟩
  · intro other found hfound
    by_cases hsame : other = id
    · exact hsame ▸ ⟨hid, hne⟩
    · rw [AList.lookup_insert_ne hsame] at hfound
      exact h.ids other found hfound
  · intro otherRoom room other name hroom hname
    rcases hmember otherRoom room other name hroom hname with
      ⟨rfl, rfl, rfl⟩ | ⟨found, hfound, hlookup⟩
    · exact ⟨_, AList.lookup_insert _, rfl, rfl, rfl⟩
    · rcases h.member otherRoom found other name hfound hlookup with ⟨session, hsession, hrest⟩
      exact ⟨session, hold other session hsession, hrest⟩
  · intro otherRoom room other hroom hother
    have hstreamer : ∃ found, system.server.rooms.lookup otherRoom = some found ∧
        other ∈ found.streamingPeers := by
      by_cases hhere : otherRoom = roomId
      · subst hhere
        rw [joinedRooms, AList.lookup_insert, Option.some.injEq] at hroom
        rw [← hroom] at hother
        cases hfound : system.server.rooms.lookup otherRoom with
        | none => simp [hfound] at hother
        | some found =>
            rw [hfound, Option.getD_some] at hother
            exact ⟨found, rfl, hother⟩
      · rw [joinedRooms, AList.lookup_insert_ne hhere] at hroom
        exact ⟨room, hroom, hother⟩
    rcases hstreamer with ⟨found, hfound, hpeer⟩
    rcases h.streamer otherRoom found other hfound hpeer with ⟨session, hsession, hroomId⟩
    exact ⟨session, hold other session hsession, hroomId⟩
  · intro otherRoom room hroom
    by_cases hhere : otherRoom = roomId
    · subst hhere
      rw [joinedRooms, AList.lookup_insert, Option.some.injEq] at hroom
      rw [← hroom]
      exact ⟨id, (AList.mem_insert _).mpr (Or.inl rfl)⟩
    · rw [joinedRooms, AList.lookup_insert_ne hhere] at hroom
      exact h.occupied otherRoom room hroom
  · intro hrunning other session hsession hopen
    by_cases hsame : other = id
    · rw [hsame, AList.lookup_insert, Option.some.injEq] at hsession
      rw [← hsession, hsame]
      exact ⟨_, AList.lookup_insert _, (AList.mem_insert _).mpr (Or.inl rfl)⟩
    · rw [AList.lookup_insert_ne hsame] at hsession
      rcases h.registered hrunning other session hsession hopen with ⟨room, hroom, hmem⟩
      by_cases hhere : session.roomId = roomId
      · refine ⟨_, by rw [hhere, joinedRooms, AList.lookup_insert], ?_⟩
        rw [← hhere, hroom, Option.getD_some]
        exact (AList.mem_insert _).mpr (Or.inr hmem)
      · exact ⟨room, by rw [joinedRooms, AList.lookup_insert_ne hhere, hroom], hmem⟩
  · intro hended otherRoom room other name hroom hname
    rcases hvalid hended with ⟨hrunning, husername⟩
    rcases hmember otherRoom room other name hroom hname with
      ⟨_, _, rfl⟩ | ⟨found, hfound, hlookup⟩
    · exact husername
    · exact h.names hrunning otherRoom found other name hfound hlookup
  · intro other hlog
    rcases h.gone other hlog with ⟨session, hsession, hclosed⟩
    exact ⟨session, hold other session hsession, hclosed⟩

/-! ## Every event -/

/-- The visitor of `on_read`. -/
theorem Registry.onMessage (h : Registry system) {id : PeerId} {session : Session}
    (hsession : system.sessions.lookup id = some session) (message : Message) :
    Registry { system with
      server := (SignalingSystem.onMessage system.server id session.roomId message).1 } := by
  cases message with
  | streamingStart sender =>
      apply h.inRoom (by exact fun _ => rfl)
      intro room other hother
      rcases List.mem_insert_iff.mp hother with rfl | hold
      · exact Or.inr ⟨session, hsession, rfl⟩
      · exact Or.inl hold
  | streamingStop sender =>
      apply h.inRoom (by exact fun _ => rfl)
      exact fun room other hother => Or.inl (List.mem_filter.mp hother).1
  | watchStart publisher =>
      simp only [SignalingSystem.onMessage, WebSocketServer.addVideoWatcher]
      split
      · exact h
      · split
        · split
          · exact h
          · apply h.inRoom (by exact fun _ => rfl)
            exact fun _ _ => Or.inl
        · exact h
  | watchStop publisher =>
      apply h.inRoom (fun room => room.sessions_unwatch id publisher)
      intro room other hother
      rw [room.streamingPeers_unwatch] at hother
      exact Or.inl hother
  | _ => exact h

/-- Every event keeps the registry. -/
theorem Registry.step (h : Registry system) {next : SignalingSystem} (hstep : Step system next) :
    Registry next := by
  rcases hstep with ⟨event, hact⟩
  have hended := running_of_act hact
  cases acted_of_act hact with
  | refused random roomId username hstopping hfresh => exact Registry.conclude (h.orEnded _)
  | accepted random roomId username hopen hnew =>
      have hfresh := AList.lookup_eq_none.mpr hnew
      have hid := validUtf8_generateId random
      rw [h.registerAndBuildWelcome hended hopen hfresh hid]
      apply Registry.conclude
      apply h.join hfresh hid (generateId_ne_nil random)
      intro hok
      refine ⟨hended, ?_⟩
      by_contra hcontra
      have hinvalid : validUtf8 username.value = false := by simpa using hcontra
      have hbad : (Message.peerJoined (generateId random) username).strings.all validUtf8 =
          false := by
        simp [Message.strings, hinvalid]
      rw [sendTo_eq_error hbad] at hok
      simp [Except.map, Except.isOk, Except.toBool] at hok
  | readFailed id hsession =>
      exact Registry.onClose (h.setReading hsession false) (AList.lookup_insert _)
  | parsed id hsession hparse => exact Registry.conclude ((h.onMessage hsession _).orEnded _)
  | writeFailed id hsession => exact h.onClose hsession
  | unparsed | written | listed => exact h
  | unlisted herror => exact h.orEnded true
  | stopped =>
      exact ⟨h.ids, fun _ _ _ _ hroom => by simp [WebSocketServer.stop] at hroom,
        fun _ _ _ hroom => by simp [WebSocketServer.stop] at hroom,
        fun _ _ hroom => by simp [WebSocketServer.stop] at hroom,
        fun hnot => by simp [WebSocketServer.stop] at hnot,
        fun _ _ _ _ _ hroom => by simp [WebSocketServer.stop] at hroom, h.gone⟩

/-- The registry is right in every run. -/
theorem registry_of_reachable (h : Reachable Initial Step system) : Registry system := by
  refine Reachable.invariant ?_ (fun _ _ _ hregistry hstep => hregistry.step hstep) h
  intro start hstart
  rw [hstart]
  exact registry_initial

end SignalingSystem

end Server
end Driscord
