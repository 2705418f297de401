import Driscord.Server.MediaServerInvariant
import Driscord.Server.Roster

/-!
# Watches on the server

What the events of the server do to `video_watchers` of a room, and what the watching
session is told meanwhile: a watch that the session has not given up itself ends only
with its publisher, of whose leaving the session hears.

Main results:

- Theorem `Registry.rewatched`: what an event does to the watches of a session that
  stays in its room.
-/

namespace Driscord
namespace Server

open Library Signaling Sfu

/-! ## Watches of a room -/

namespace Room

variable {room : Room} {id publisher watcher watched : PeerId}

theorem watched_congr {changed : Room} (h : changed.videoWatchers = room.videoWatchers)
    (watcher : PeerId) : changed.watched watcher = room.watched watcher := by
  rw [Room.watched, Room.watched, h]

theorem mem_watched_watch :
    watched ∈ (room.watch id publisher).watched watcher ↔
      watched ∈ room.watched watcher ∨ watcher = id ∧ watched = publisher := by
  by_cases hsame : watcher = id
  · subst hsame
    rw [Room.watch, Room.watched, AList.lookup_insert, Option.getD_some, Finset.mem_insert]
    tauto
  · rw [Room.watch, Room.watched, AList.lookup_insert_ne hsame]
    simp [hsame, Room.watched]

theorem mem_watched_unwatch :
    watched ∈ (room.unwatch id publisher).watched watcher ↔
      watched ∈ room.watched watcher ∧ ¬ (watcher = id ∧ watched = publisher) := by
  have hother : ∀ found : Finset PeerId, watcher ≠ id →
      (room.videoWatchers.erase id).lookup watcher = room.videoWatchers.lookup watcher ∧
        (room.videoWatchers.insert id found).lookup watcher =
          room.videoWatchers.lookup watcher :=
    fun _ hne => ⟨AList.lookup_erase_ne hne, AList.lookup_insert_ne hne⟩
  unfold Room.unwatch
  cases hlookup : room.videoWatchers.lookup id with
  | none =>
      by_cases hsame : watcher = id
      · subst hsame
        simp [Room.watched, hlookup]
      · simp [hsame]
  | some found =>
      simp only
      split
      · rename_i hempty
        by_cases hsame : watcher = id
        · subst hsame
          have hall := Finset.ext_iff.mp hempty watched
          rw [Finset.mem_erase] at hall
          simp only [Room.watched, AList.lookup_erase, Option.getD_none, hlookup,
            Option.getD_some]
          simp only [Finset.notMem_empty, iff_false] at hall ⊢
          tauto
        · simp [Room.watched, (hother found hsame).1, hsame]
      · by_cases hsame : watcher = id
        · subst hsame
          simp only [Room.watched, AList.lookup_insert, Option.getD_some, hlookup,
            Finset.mem_erase]
          tauto
        · simp [Room.watched, AList.lookup_insert_ne hsame, hsame]

theorem mem_watched_leave :
    watched ∈ (room.leave id).watched watcher ↔
      watched ∈ room.watched watcher ∧ watcher ≠ id ∧ watched ≠ id := by
  simp only [Room.watched, Room.leave, Room.watchersWithout, Table.lookup_filterMapValues]
  cases room.videoWatchers.lookup watcher with
  | none => simp
  | some found =>
      rw [Option.bind_some, Option.getD_some]
      split
      · rename_i hgone
        rcases hgone with rfl | hempty
        · simp
        · have hall := Finset.ext_iff.mp hempty watched
          rw [Finset.mem_erase] at hall
          simp only [Finset.notMem_empty, iff_false, Option.getD_none] at hall ⊢
          tauto
      · rename_i hkept
        rw [not_or] at hkept
        rw [Option.getD_some, Finset.mem_erase]
        tauto

theorem mem_keys_watch (hmem : watcher ∈ (room.watch id publisher).videoWatchers) :
    watcher ∈ room.videoWatchers ∨ watcher = id := by
  rcases (AList.mem_insert _).mp hmem with hsame | hold
  · exact Or.inr hsame
  · exact Or.inl hold

theorem mem_keys_unwatch (hmem : watcher ∈ (room.unwatch id publisher).videoWatchers) :
    watcher ∈ room.videoWatchers := by
  unfold Room.unwatch at hmem
  split at hmem
  · exact hmem
  · rename_i found hfound
    split at hmem
    · exact (AList.mem_erase.mp hmem).2
    · rcases (AList.mem_insert _).mp hmem with rfl | hold
      · exact Table.mem_of_lookup hfound
      · exact hold

theorem mem_keys_leave (hmem : watcher ∈ (room.leave id).videoWatchers) :
    watcher ∈ room.videoWatchers := by
  rcases Table.mem_iff_exists_lookup.mp hmem with ⟨found, hfound⟩
  rw [Room.leave, Room.watchersWithout, Table.lookup_filterMapValues,
    Option.bind_eq_some_iff] at hfound
  rcases hfound with ⟨old, hold, _⟩
  exact Table.mem_of_lookup hold

/-- A watch that is accepted is one of another session. -/
theorem ne_of_watchRejection (h : room.watchRejection id publisher = none) :
    id ≠ publisher := by
  rintro rfl
  rw [Room.watchRejection, if_pos (Or.inr rfl)] at h
  contradiction

end Room

namespace SignalingSystem

/-! ## Watches of a session -/

/-- What an event does to the watches of a session in a room, and what the session is
told of it. -/
inductive Rewatched (id : PeerId) (before : Finset PeerId) :
    ServerEvent → Finset PeerId → List Message → Prop
  | accepted {raw publisher} (hparse : parse raw = Except.ok (Message.watchStart publisher)) :
      Rewatched id before (ServerEvent.read id raw) (insert publisher before) []
  | rejected {raw publisher} (reason)
      (hparse : parse raw = Except.ok (Message.watchStart publisher)) :
      Rewatched id before (ServerEvent.read id raw) before
        [Message.watchRejected publisher reason]
  | givenUp {raw publisher} (hparse : parse raw = Except.ok (Message.watchStop publisher)) :
      Rewatched id before (ServerEvent.read id raw) (before.erase publisher) []
  | unasked {event after told}
      (hother : ∀ raw publisher, event = ServerEvent.read id raw →
        parse raw ≠ Except.ok (Message.watchStart publisher) ∧
          parse raw ≠ Except.ok (Message.watchStop publisher))
      (hsub : ∀ publisher ∈ after, publisher ∈ before)
      (hgone : ∀ publisher ∈ before, publisher ∈ after ∨ Message.peerLeft publisher ∈ told) :
      Rewatched id before event after told

variable {system next : SignalingSystem} {event : ServerEvent} {id : PeerId} {session : Session}
variable {room changed : Room}

/-- The watches are as they were. -/
theorem Rewatched.same (hother : ∀ raw publisher, event = ServerEvent.read id raw →
      parse raw ≠ Except.ok (Message.watchStart publisher) ∧
        parse raw ≠ Except.ok (Message.watchStop publisher))
    (hsame : changed.videoWatchers = room.videoWatchers) (told : List Message) :
    Rewatched id (room.watched id) event (changed.watched id) told := by
  rw [Room.watched_congr hsame]
  exact Rewatched.unasked hother (fun _ hmem => hmem) fun _ hmem => Or.inl hmem

/-- While the server runs, what an operation sends is queued. -/
theorem inbox_conclude {result : WebSocketServer × Except JsonError Sends}
    (hrunning : (system.conclude result).ended = false) (id : PeerId) :
    ∃ sends, result.2 = Except.ok sends ∧
      inbox (system.conclude result).log id = inbox system.log id ++ sentTo sends id := by
  cases hresult : result.2 with
  | error error =>
      rw [ended_conclude_error hresult] at hrunning
      contradiction
  | ok sends =>
      refine ⟨sends, rfl, ?_⟩
      rw [conclude, hresult]
      exact inbox_sends system.log sends id

/-- What a text leads to. -/
theorem act_read {raw : Option Json} (hact : system.act (ServerEvent.read id raw) = some next) :
    ∃ session, system.sessions.lookup id = some session ∧
      ((∃ error, parse raw = Except.error error) ∧ next = system ∨
        ∃ message, parse raw = Except.ok message ∧
          next = system.conclude (onMessage system.server id session.roomId message)) := by
  have hrunning := running_of_act hact
  unfold act at hact
  rw [if_neg (by simp [hrunning])] at hact
  cases hsession : system.sessions.lookup id with
  | none => simp [hsession] at hact
  | some session =>
      simp only [hsession] at hact
      refine ⟨session, rfl, ?_⟩
      split at hact
      · cases hparse : parse raw with
        | error error =>
            simp only [hparse, Option.some.injEq] at hact
            exact Or.inl ⟨⟨error, rfl⟩, hact.symm⟩
        | ok message =>
            simp only [hparse, Option.some.injEq] at hact
            exact Or.inr ⟨message, rfl, hact.symm⟩
      · contradiction

theorem lookup_inRoom (server : WebSocketServer) (roomId : RoomId) (f : Room → Room)
    (other : RoomId) : (server.inRoom roomId f).rooms.lookup other =
      (server.rooms.lookup other).map fun room => if other = roomId then f room else room :=
  Table.lookup_modify roomId f server.rooms other

section

variable {sender : PeerId} {owner : Session} {raw : Option Json} {sends : Sends}
variable {publisher : PeerId}

/-- Another session asks. -/
theorem unasked_of_ne (hne : sender ≠ id) (raw' : Option Json) (publisher : PeerId)
    (heq : ServerEvent.read sender raw = ServerEvent.read id raw') :
    parse raw' ≠ Except.ok (Message.watchStart publisher) ∧
      parse raw' ≠ Except.ok (Message.watchStop publisher) := by
  rw [ServerEvent.read.injEq] at heq
  exact absurd heq.1 hne

/-- A text that asks for no watch and gives none up. -/
theorem unasked_of_parse (hnot : ∀ publisher,
      parse raw ≠ Except.ok (Message.watchStart publisher) ∧
        parse raw ≠ Except.ok (Message.watchStop publisher))
    (raw' : Option Json) (publisher : PeerId)
    (heq : ServerEvent.read sender raw = ServerEvent.read id raw') :
    parse raw' ≠ Except.ok (Message.watchStart publisher) ∧
      parse raw' ≠ Except.ok (Message.watchStop publisher) := by
  rw [ServerEvent.read.injEq] at heq
  rw [← heq.2]
  exact hnot publisher

/-- A message that leaves the watchers of all rooms alone. -/
theorem rewatched_inRoom {f : Room → Room} (hsessions : ∀ room, (f room).sessions = room.sessions)
    (hwatchers : ∀ room, (f room).videoWatchers = room.videoWatchers)
    (hnot : ∀ publisher, parse raw ≠ Except.ok (Message.watchStart publisher) ∧
      parse raw ≠ Except.ok (Message.watchStop publisher)) {roomId : RoomId}
    (hchanged : (system.server.inRoom roomId f).rooms.lookup session.roomId = some changed)
    (hmem : id ∈ changed.sessions) (told : List Message) :
    ∃ room, system.server.rooms.lookup session.roomId = some room ∧ id ∈ room.sessions ∧
      Rewatched id (room.watched id) (ServerEvent.read sender raw) (changed.watched id) told := by
  rw [lookup_inRoom, Option.map_eq_some_iff] at hchanged
  rcases hchanged with ⟨room, hroom, rfl⟩
  refine ⟨room, hroom, ?_, ?_⟩
  · split at hmem
    · rwa [hsessions] at hmem
    · exact hmem
  · split
    · exact Rewatched.same (unasked_of_parse hnot) (hwatchers room) told
    · exact Rewatched.same (unasked_of_parse hnot) rfl told

/-- `add_video_watcher`. -/
theorem rewatched_addVideoWatcher (hsession : system.sessions.lookup id = some session)
    (howner : system.sessions.lookup sender = some owner)
    (hparse : parse raw = Except.ok (Message.watchStart publisher))
    (hsends : (system.server.addVideoWatcher sender owner.roomId publisher).2 = Except.ok sends)
    (hchanged : (system.server.addVideoWatcher sender owner.roomId publisher).1.rooms.lookup
      session.roomId = some changed) (hmem : id ∈ changed.sessions) :
    ∃ room, system.server.rooms.lookup session.roomId = some room ∧ id ∈ room.sessions ∧
      Rewatched id (room.watched id) (ServerEvent.read sender raw) (changed.watched id)
        (sentTo sends id) := by
  have hself : sender = id → session.roomId = owner.roomId := by
    rintro rfl
    rw [hsession, Option.some.injEq] at howner
    rw [howner]
  unfold WebSocketServer.addVideoWatcher at hsends hchanged
  cases hplace : system.server.rooms.lookup owner.roomId with
  | none =>
      simp only [hplace] at hchanged
      refine ⟨changed, hchanged, hmem, Rewatched.same (unasked_of_ne ?_) rfl _⟩
      intro hsame
      rw [hself hsame, hplace] at hchanged
      contradiction
  | some place =>
      simp only [hplace] at hsends hchanged
      split at hchanged
      · rename_i hin
        rw [if_pos hin] at hsends
        cases hrejection : place.watchRejection sender publisher with
        | some reason =>
            simp only [hrejection] at hsends hchanged
            refine ⟨changed, hchanged, hmem, ?_⟩
            by_cases hsender : sender = id
            · subst hsender
              rw [sentTo_of_sendTo (List.nodup_singleton _) hsends, if_pos (by simp)]
              exact Rewatched.rejected reason hparse
            · exact Rewatched.same (unasked_of_ne hsender) rfl _
        | none =>
            simp only [hrejection] at hsends hchanged
            rw [lookup_inRoom, Option.map_eq_some_iff] at hchanged
            rcases hchanged with ⟨room, hroom, rfl⟩
            refine ⟨room, hroom, by split at hmem <;> exact hmem, ?_⟩
            by_cases hsender : sender = id
            · subst hsender
              have hafter : (room.watch sender publisher).watched sender =
                  insert publisher (room.watched sender) := by
                ext watched
                rw [Room.mem_watched_watch, Finset.mem_insert]
                tauto
              rw [if_pos (hself rfl), ← Except.ok.inj hsends, hafter]
              exact Rewatched.accepted hparse
            · have hafter : (if session.roomId = owner.roomId then room.watch sender publisher
                  else room).watched id = room.watched id := by
                split
                · ext watched
                  rw [Room.mem_watched_watch]
                  simp [Ne.symm hsender]
                · rfl
              rw [hafter]
              exact Rewatched.unasked (unasked_of_ne hsender) (fun _ h => h) fun _ h => Or.inl h
      · rename_i hout
        refine ⟨changed, hchanged, hmem, Rewatched.same (unasked_of_ne ?_) rfl _⟩
        intro hsame
        rw [hself hsame, hplace, Option.some.injEq] at hchanged
        rw [hsame, hchanged] at hout
        exact hout hmem

/-- `remove_video_watcher`. -/
theorem rewatched_removeVideoWatcher (hsession : system.sessions.lookup id = some session)
    (howner : system.sessions.lookup sender = some owner)
    (hparse : parse raw = Except.ok (Message.watchStop publisher))
    (hchanged : (system.server.removeVideoWatcher sender owner.roomId publisher).rooms.lookup
      session.roomId = some changed) (hmem : id ∈ changed.sessions) :
    ∃ room, system.server.rooms.lookup session.roomId = some room ∧ id ∈ room.sessions ∧
      Rewatched id (room.watched id) (ServerEvent.read sender raw) (changed.watched id) [] := by
  rw [WebSocketServer.removeVideoWatcher, lookup_inRoom, Option.map_eq_some_iff] at hchanged
  rcases hchanged with ⟨room, hroom, rfl⟩
  refine ⟨room, hroom, ?_, ?_⟩
  · split at hmem
    · rwa [Room.sessions_unwatch] at hmem
    · exact hmem
  · by_cases hsender : sender = id
    · subst hsender
      rw [hsession, Option.some.injEq] at howner
      have hafter : (room.unwatch sender publisher).watched sender =
          (room.watched sender).erase publisher := by
        ext watched
        rw [Room.mem_watched_unwatch, Finset.mem_erase]
        tauto
      rw [howner, if_pos rfl, hafter]
      exact Rewatched.givenUp hparse
    · have hafter : (if session.roomId = owner.roomId then room.unwatch sender publisher
          else room).watched id = room.watched id := by
        split
        · ext watched
          rw [Room.mem_watched_unwatch]
          simp [Ne.symm hsender]
        · rfl
      rw [hafter]
      exact Rewatched.unasked (unasked_of_ne hsender) (fun _ h => h) fun _ h => Or.inl h

/-- A message of any session. -/
theorem rewatched_onMessage {message : Message}
    (hsession : system.sessions.lookup id = some session)
    (howner : system.sessions.lookup sender = some owner)
    (hparse : parse raw = Except.ok message)
    (hsends : (onMessage system.server sender owner.roomId message).2 = Except.ok sends)
    (hchanged : (onMessage system.server sender owner.roomId message).1.rooms.lookup
      session.roomId = some changed) (hmem : id ∈ changed.sessions) :
    ∃ room, system.server.rooms.lookup session.roomId = some room ∧ id ∈ room.sessions ∧
      Rewatched id (room.watched id) (ServerEvent.read sender raw) (changed.watched id)
        (sentTo sends id) := by
  cases message with
  | watchStart publisher =>
      exact rewatched_addVideoWatcher hsession howner hparse hsends hchanged hmem
  | watchStop publisher =>
      rw [← Except.ok.inj hsends]
      exact rewatched_removeVideoWatcher hsession howner hparse hchanged hmem
  | streamingStart _ | streamingStop _ =>
      refine rewatched_inRoom ?_ ?_ ?_ hchanged hmem _
      · exact fun _ => rfl
      · exact fun _ => rfl
      · simp [hparse]
  | _ =>
      refine ⟨changed, hchanged, hmem, Rewatched.same (unasked_of_parse ?_) rfl _⟩
      simp [hparse]

end

/-- A session that closes.  Its watchers hear that it has left. -/
theorem rewatched_onClose (h : Registry system) {leaver : PeerId} {owner : Session}
    (howner : system.sessions.lookup leaver = some owner) {roomId : RoomId}
    (hrunning : (system.onClose leaver owner).ended = false)
    (hchanged : (system.onClose leaver owner).server.rooms.lookup roomId = some changed)
    (hmem : id ∈ changed.sessions) :
    ∃ room told, system.server.rooms.lookup roomId = some room ∧ id ∈ room.sessions ∧
      inbox (system.onClose leaver owner).log id = inbox system.log id ++ told ∧
        (∀ publisher ∈ changed.watched id, publisher ∈ room.watched id) ∧
          ∀ publisher ∈ room.watched id,
            publisher ∈ changed.watched id ∨ Message.peerLeft publisher ∈ told := by
  have hunchanged : system.server.rooms.lookup roomId = some changed →
      inbox (system.onClose leaver owner).log id = inbox system.log id →
      ∃ room told, system.server.rooms.lookup roomId = some room ∧ id ∈ room.sessions ∧
        inbox (system.onClose leaver owner).log id = inbox system.log id ++ told ∧
          (∀ publisher ∈ changed.watched id, publisher ∈ room.watched id) ∧
            ∀ publisher ∈ room.watched id,
              publisher ∈ changed.watched id ∨ Message.peerLeft publisher ∈ told :=
    fun hlookup hinbox => ⟨changed, [], hlookup, hmem, by rw [hinbox, List.append_nil],
      fun _ hin => hin, fun _ hin => Or.inl hin⟩
  unfold onClose at hrunning hchanged hunchanged ⊢
  split
  · rename_i hclosed
    rw [if_pos hclosed] at hchanged hunchanged
    exact hunchanged hchanged rfl
  · rename_i hopen
    rw [if_neg hopen] at hrunning hchanged hunchanged
    cases hresult : system.server.unregisterSession leaver owner.roomId with
    | none =>
        simp only [hresult] at hchanged hunchanged
        exact hunchanged hchanged trivial
    | some result =>
        simp only [hresult] at hrunning hchanged ⊢
        unfold WebSocketServer.unregisterSession at hresult
        split at hresult
        · contradiction
        rename_i place hplace
        split at hresult
        case isFalse => contradiction
        case isTrue hin =>
        rw [Option.some.injEq] at hresult
        subst hresult
        rcases inbox_conclude hrunning id with ⟨sends, hsends, hinbox⟩
        rw [server_conclude] at hchanged
        by_cases hhere : roomId = owner.roomId
        · rw [hhere, lookup_roomsWithout_self] at hchanged
          split at hchanged
          · contradiction
          rw [Option.some.injEq] at hchanged
          subst hchanged
          rw [Room.leave, AList.mem_erase] at hmem
          refine ⟨place, sentTo sends id, hhere ▸ hplace, hmem.2, ?_, ?_, ?_⟩
          · rw [hinbox, inbox_unregistered]
          · exact fun publisher hwatched => (Room.mem_watched_leave.mp hwatched).1
          · intro publisher hwatched
            by_cases hleft : publisher = leaver
            · subst hleft
              right
              rw [farewell_eq_ok place (h.ids _ owner howner).1, Except.ok.injEq] at hsends
              have hnodup : (place.others publisher).Nodup := place.sessions.keys_nodup.filter _
              rw [← hsends, sentTo_flatMap hnodup, if_pos (mem_others.mpr ⟨hmem.2, hmem.1⟩)]
              simp [Room.farewellMessages]
            · exact Or.inl (Room.mem_watched_leave.mpr ⟨hwatched, hmem.1, hleft⟩)
        · rw [lookup_roomsWithout_ne _ _ _ hhere] at hchanged
          refine ⟨changed, sentTo sends id, hchanged, hmem, ?_, fun _ hin => hin,
            fun _ hin => Or.inl hin⟩
          rw [hinbox, inbox_unregistered]

/-- What an event does to the watches of a session that stays in its room. -/
theorem Registry.rewatched (h : Registry system) (hact : system.act event = some next)
    (hrunning : next.ended = false) (hsession : system.sessions.lookup id = some session)
    (hchanged : next.server.rooms.lookup session.roomId = some changed)
    (hmem : id ∈ changed.sessions) :
    ∃ room told, system.server.rooms.lookup session.roomId = some room ∧ id ∈ room.sessions ∧
      inbox next.log id = inbox system.log id ++ told ∧
        Rewatched id (room.watched id) event (changed.watched id) told := by
  have hended := running_of_act hact
  cases acted_of_act hact with
  | refused random roomId username hstopping hfresh =>
      rcases inbox_conclude hrunning id with ⟨sends, _, hinbox⟩
      rw [server_conclude] at hchanged
      exact ⟨changed, _, hchanged, hmem, hinbox, Rewatched.same (by simp) rfl _⟩
  | accepted random roomId username hopen hnew =>
      rcases inbox_conclude hrunning id with ⟨sends, _, hinbox⟩
      have hne : id ≠ generateId random := by
        rintro rfl
        exact hnew (Table.mem_of_lookup hsession)
      rw [server_conclude, h.registerAndBuildWelcome hended hopen (AList.lookup_eq_none.mpr hnew)
        (validUtf8_generateId random)] at hchanged
      by_cases hhere : session.roomId = roomId
      · subst hhere
        rw [joinedRooms, AList.lookup_insert, Option.some.injEq] at hchanged
        subst hchanged
        rw [AList.mem_insert] at hmem
        have hold := hmem.resolve_left hne
        cases hroom : system.server.rooms.lookup session.roomId with
        | none =>
            rw [hroom, Option.getD_none] at hold
            exact absurd hold (AList.notMem_empty id)
        | some room =>
            rw [hroom, Option.getD_some] at hold
            exact ⟨room, _, rfl, hold, hinbox, Rewatched.same (by simp) rfl _⟩
      · rw [joinedRooms, AList.lookup_insert_ne hhere] at hchanged
        exact ⟨changed, _, hchanged, hmem, hinbox, Rewatched.same (by simp) rfl _⟩
  | readFailed leaver hleaver =>
      rcases rewatched_onClose (h.setReading hleaver false) (AList.lookup_insert _) hrunning
        hchanged hmem with ⟨room, told, hroom, hin, hinbox, hsub, hgone⟩
      exact ⟨room, told, hroom, hin, hinbox, Rewatched.unasked (by simp) hsub hgone⟩
  | writeFailed leaver hleaver =>
      rcases rewatched_onClose h hleaver hrunning hchanged hmem with
        ⟨room, told, hroom, hin, hinbox, hsub, hgone⟩
      exact ⟨room, told, hroom, hin, hinbox, Rewatched.unasked (by simp) hsub hgone⟩
  | unparsed sender raw =>
      rcases act_read hact with ⟨owner, howner, ⟨⟨error, hparse⟩, _⟩ | ⟨message, hparse, hnext⟩⟩
      · exact ⟨changed, [], hchanged, hmem, (List.append_nil _).symm,
          Rewatched.same (unasked_of_parse (by simp [hparse])) rfl _⟩
      · rw [hnext] at hrunning hchanged
        rcases inbox_conclude hrunning id with ⟨sends, hsends, hinbox⟩
        rw [server_conclude] at hchanged
        rcases rewatched_onMessage hsession howner hparse hsends hchanged hmem with
          ⟨room, hroom, hin, hrewatched⟩
        exact ⟨room, _, hroom, hin, by rw [← hinbox, ← hnext], hrewatched⟩
  | parsed sender howner hparse =>
      rcases inbox_conclude hrunning id with ⟨sends, hsends, hinbox⟩
      rw [server_conclude] at hchanged
      rcases rewatched_onMessage hsession howner hparse hsends hchanged hmem with
        ⟨room, hroom, hin, hrewatched⟩
      exact ⟨room, _, hroom, hin, hinbox, hrewatched⟩
  | written | listed =>
      exact ⟨changed, [], hchanged, hmem, (List.append_nil _).symm,
        Rewatched.same (by simp) rfl _⟩
  | unlisted => exact absurd hrunning (by simp)
  | stopped => exact absurd hchanged (by simp [WebSocketServer.stop])

/-! ## Watchers are sessions -/

/-- The watchers are sessions that were accepted, and none watches itself. -/
structure Watchers (system : SignalingSystem) : Prop where
  known : ∀ roomId room, system.server.rooms.lookup roomId = some room →
    ∀ watcher ∈ room.videoWatchers, watcher ∈ system.sessions
  others : ∀ roomId room, system.server.rooms.lookup roomId = some room →
    ∀ watcher, watcher ∉ room.watched watcher

/-- What an event can do to the watchers of a room. -/
inductive WatchersChanged (system : SignalingSystem) (room : Room) : Room → Prop
  | kept {after : Room} (h : after.videoWatchers = room.videoWatchers) :
      WatchersChanged system room after
  | watched {watcher publisher : PeerId} (hknown : watcher ∈ system.sessions)
      (hne : watcher ≠ publisher) : WatchersChanged system room (room.watch watcher publisher)
  | unwatched (watcher publisher : PeerId) :
      WatchersChanged system room (room.unwatch watcher publisher)
  | left (leaver : PeerId) : WatchersChanged system room (room.leave leaver)

theorem watchers_onClose {leaver : PeerId} {owner : Session} {roomId : RoomId}
    (hchanged : (system.onClose leaver owner).server.rooms.lookup roomId = some changed) :
    system.server.rooms.lookup roomId = some changed ∨
      ∃ room, system.server.rooms.lookup roomId = some room ∧ changed = room.leave leaver := by
  rcases @server_onClose system leaver owner with hsame | ⟨room, hroom, hleft⟩
  · rw [hsame] at hchanged
    exact Or.inl hchanged
  · rw [hleft] at hchanged
    by_cases hhere : roomId = owner.roomId
    · subst hhere
      rw [lookup_roomsWithout_self] at hchanged
      split at hchanged
      · contradiction
      · exact Or.inr ⟨room, hroom, (Option.some.inj hchanged).symm⟩
    · rw [lookup_roomsWithout_ne _ _ _ hhere] at hchanged
      exact Or.inl hchanged

theorem watchersChanged_onMessage {sender : PeerId} {owner : Session} {message : Message}
    {roomId : RoomId} (howner : system.sessions.lookup sender = some owner)
    (hchanged : (onMessage system.server sender owner.roomId message).1.rooms.lookup roomId =
      some changed) :
    WatchersChanged system ((system.server.rooms.lookup roomId).getD {}) changed := by
  have hkept : system.server.rooms.lookup roomId = some changed →
      WatchersChanged system ((system.server.rooms.lookup roomId).getD {}) changed := by
    intro hlookup
    rw [hlookup]
    exact WatchersChanged.kept rfl
  have hinRoom : ∀ f : Room → Room, (∀ room, WatchersChanged system room (f room)) →
      (system.server.inRoom owner.roomId f).rooms.lookup roomId = some changed →
        WatchersChanged system ((system.server.rooms.lookup roomId).getD {}) changed := by
    intro f hf hlookup
    rw [lookup_inRoom, Option.map_eq_some_iff] at hlookup
    rcases hlookup with ⟨room, hroom, rfl⟩
    rw [hroom, Option.getD_some]
    split
    · exact hf room
    · exact WatchersChanged.kept rfl
  cases message with
  | streamingStart _ | streamingStop _ =>
      refine hinRoom _ ?_ hchanged
      exact fun _ => WatchersChanged.kept rfl
  | watchStop publisher => exact hinRoom _ (fun _ => WatchersChanged.unwatched _ _) hchanged
  | watchStart publisher =>
      simp only [onMessage, WebSocketServer.addVideoWatcher] at hchanged
      split at hchanged
      · exact hkept hchanged
      · split at hchanged
        · split at hchanged
          · exact hkept hchanged
          · rename_i hrejection
            exact hinRoom _ (fun _ => WatchersChanged.watched (Table.mem_of_lookup howner)
              (Room.ne_of_watchRejection hrejection)) hchanged
        · exact hkept hchanged
  | _ => exact hkept hchanged

theorem watchersChanged_accept {newcomer : PeerId} {joined roomId : RoomId}
    {username : Username}
    (hchanged : (system.server.registerAndBuildWelcome newcomer joined username).1.rooms.lookup
      roomId = some changed) :
    changed.videoWatchers = ((system.server.rooms.lookup roomId).getD {}).videoWatchers := by
  have hinsert : ∀ place : Room,
      place.videoWatchers = ((system.server.rooms.lookup joined).getD {}).videoWatchers →
      (system.server.rooms.insert joined place).lookup roomId = some changed →
        changed.videoWatchers = ((system.server.rooms.lookup roomId).getD {}).videoWatchers := by
    intro place hplace hlookup
    by_cases hhere : roomId = joined
    · subst hhere
      rw [AList.lookup_insert, Option.some.injEq] at hlookup
      rw [← hlookup, hplace]
    · rw [AList.lookup_insert_ne hhere] at hlookup
      rw [hlookup]
      rfl
  unfold WebSocketServer.registerAndBuildWelcome at hchanged
  split at hchanged
  · rw [hchanged]
    rfl
  · simp only at hchanged
    split at hchanged
    · exact hinsert _ rfl hchanged
    · refine hinsert _ ?_ hchanged
      unfold Room.emplace
      split <;> rfl

/-- What an event can do to the watchers of a room. -/
theorem watchersChanged_of_act (hact : system.act event = some next) {roomId : RoomId}
    (hchanged : next.server.rooms.lookup roomId = some changed) :
    WatchersChanged system ((system.server.rooms.lookup roomId).getD {}) changed := by
  have hkept : system.server.rooms.lookup roomId = some changed →
      WatchersChanged system ((system.server.rooms.lookup roomId).getD {}) changed := by
    intro hlookup
    rw [hlookup]
    exact WatchersChanged.kept rfl
  have hclosed : ∀ {leaver}, (system.server.rooms.lookup roomId = some changed ∨
      ∃ room, system.server.rooms.lookup roomId = some room ∧ changed = room.leave leaver) →
        WatchersChanged system ((system.server.rooms.lookup roomId).getD {}) changed := by
    intro leaver hcases
    rcases hcases with hsame | ⟨room, hroom, rfl⟩
    · exact hkept hsame
    · rw [hroom]
      exact WatchersChanged.left leaver
  cases acted_of_act hact with
  | refused =>
      rw [server_conclude] at hchanged
      exact hkept hchanged
  | accepted random joined username hopen hnew =>
      rw [server_conclude] at hchanged
      exact WatchersChanged.kept (watchersChanged_accept hchanged)
  | readFailed leaver hleaver =>
      have hcases := watchers_onClose hchanged
      exact hclosed hcases
  | writeFailed leaver hleaver => exact hclosed (watchers_onClose hchanged)
  | parsed sender howner hparse =>
      rw [server_conclude] at hchanged
      exact watchersChanged_onMessage howner hchanged
  | unparsed | written | listed | unlisted => exact hkept hchanged
  | stopped => exact absurd hchanged (by simp [WebSocketServer.stop])

theorem watchers_initial : Watchers {} where
  known _ _ h := by simp at h
  others _ _ h := by simp at h

/-- Every event keeps the watchers. -/
theorem Watchers.step (h : Watchers system) (hact : system.act event = some next) :
    Watchers next := by
  have hsessions : ∀ watcher ∈ system.sessions, watcher ∈ next.sessions := by
    intro watcher hmem
    rcases Table.mem_iff_exists_lookup.mp hmem with ⟨session, hsession⟩
    rcases session_act hact hsession with ⟨kept, hkept, _⟩
    exact Table.mem_of_lookup hkept
  have hknown : ∀ roomId, ∀ watcher ∈
      ((system.server.rooms.lookup roomId).getD {}).videoWatchers, watcher ∈ system.sessions := by
    intro roomId watcher hmem
    cases hroom : system.server.rooms.lookup roomId with
    | none =>
        rw [hroom] at hmem
        exact absurd hmem (AList.notMem_empty watcher)
    | some room =>
        rw [hroom] at hmem
        exact h.known roomId room hroom watcher hmem
  have hothers : ∀ roomId watcher, watcher ∉
      ((system.server.rooms.lookup roomId).getD {}).watched watcher := by
    intro roomId watcher hmem
    cases hroom : system.server.rooms.lookup roomId with
    | none =>
        rw [hroom] at hmem
        exact absurd hmem (Finset.notMem_empty watcher)
    | some room =>
        rw [hroom] at hmem
        exact h.others roomId room hroom watcher hmem
  constructor
  · intro roomId changed hchanged watcher hmem
    apply hsessions
    cases watchersChanged_of_act hact hchanged with
    | kept hsame => exact hknown roomId watcher (hsame ▸ hmem)
    | watched hid hne =>
        rcases Room.mem_keys_watch hmem with hold | rfl
        · exact hknown roomId watcher hold
        · exact hid
    | unwatched id publisher => exact hknown roomId watcher (Room.mem_keys_unwatch hmem)
    | left id => exact hknown roomId watcher (Room.mem_keys_leave hmem)
  · intro roomId changed hchanged watcher hmem
    cases watchersChanged_of_act hact hchanged with
    | kept hsame => exact hothers roomId watcher (Room.watched_congr hsame watcher ▸ hmem)
    | watched hid hne =>
        rcases Room.mem_watched_watch.mp hmem with hold | ⟨rfl, rfl⟩
        · exact hothers roomId watcher hold
        · exact hne rfl
    | unwatched id publisher =>
        exact hothers roomId watcher (Room.mem_watched_unwatch.mp hmem).1
    | left id => exact hothers roomId watcher (Room.mem_watched_leave.mp hmem).1

/-- A session that was not accepted yet watches nobody. -/
theorem Watchers.watched_of_fresh (h : Watchers system) {roomId : RoomId}
    (hroom : system.server.rooms.lookup roomId = some room) (hfresh : id ∉ system.sessions) :
    room.watched id = ∅ := by
  have hnone : room.videoWatchers.lookup id = none :=
    AList.lookup_eq_none.mpr fun hmem => hfresh (h.known roomId room hroom id hmem)
  rw [Room.watched, hnone, Option.getD_none]

end SignalingSystem

end Server
end Driscord
