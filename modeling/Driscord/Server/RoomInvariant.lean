import Driscord.Server.Registry

/-!
# The room invariant

`add_streaming_peer` does not ask whether the peer is a session of the room.  As
long as every `streaming_start` is handled while its session is in its room, the
streaming peers and the watchers are sessions, and nobody hears of a stream of a
session that has left.

Main results:

- Theorem `Sound.step`: a careful event keeps the rooms sound.
- Theorem `rooms_stay_sound`: the rooms are sound in every careful run.
- Theorem `closed_session_streams`: a read that is handled after the close leaves a
  streaming peer that is no session.
-/

namespace Driscord
namespace Server

open Library Signaling

/-! ## Sound rooms -/

/-- Streaming peers and watchers are sessions of the room. -/
structure Room.Sound (room : Room) : Prop where
  streaming : ∀ id ∈ room.streamingPeers, id ∈ room.sessions
  watching : ∀ watcher watched, room.videoWatchers.lookup watcher = some watched →
    watcher ∈ room.sessions ∧ watched.Nonempty ∧ (∀ id ∈ watched, id ∈ room.sessions) ∧
      watcher ∉ watched ∧ watched.card ≤ screenReceiveSlots

namespace Room

variable {room : Room} (h : room.Sound)
include h

theorem Sound.join (id : PeerId) (username : Username) :
    { room with sessions := room.sessions.insert id username }.Sound where
  streaming other hother := (AList.mem_insert _).mpr (Or.inr (h.streaming other hother))
  watching watcher watched hwatched := by
    rcases h.watching watcher watched hwatched with ⟨hmem, hnonempty, hall, hself, hcard⟩
    exact ⟨(AList.mem_insert _).mpr (Or.inr hmem), hnonempty,
      fun other hother => (AList.mem_insert _).mpr (Or.inr (hall other hother)), hself, hcard⟩

theorem Sound.leave (id : PeerId) : (room.leave id).Sound where
  streaming other hother := by
    rcases List.mem_filter.mp hother with ⟨hmem, hne⟩
    exact AList.mem_erase.mpr ⟨by simpa using hne, h.streaming other hmem⟩
  watching watcher watched hwatched := by
    simp only [Room.leave, Room.watchersWithout, Table.lookup_filterMapValues,
      Option.bind_eq_some_iff] at hwatched
    rcases hwatched with ⟨old, hold, hwatched⟩
    split at hwatched
    · contradiction
    · rename_i hkept
      rw [not_or] at hkept
      rw [← Option.some.inj hwatched]
      rcases h.watching watcher old hold with ⟨hmem, _, hall, hself, hcard⟩
      refine ⟨AList.mem_erase.mpr ⟨hkept.1, hmem⟩, ?_, ?_, ?_, ?_⟩
      · exact Finset.nonempty_iff_ne_empty.mpr hkept.2
      · intro other hother
        rcases Finset.mem_erase.mp hother with ⟨hne, hin⟩
        exact AList.mem_erase.mpr ⟨hne, hall other hin⟩
      · exact fun hin => hself (Finset.mem_of_mem_erase hin)
      · exact (Finset.card_erase_le).trans hcard

theorem Sound.startStreaming {id : PeerId} (hid : id ∈ room.sessions) :
    { room with streamingPeers := List.insert id room.streamingPeers }.Sound where
  streaming other hother := by
    rcases List.mem_insert_iff.mp hother with rfl | hold
    · exact hid
    · exact h.streaming other hold
  watching := h.watching

theorem Sound.stopStreaming (id : PeerId) :
    { room with streamingPeers := room.streamingPeers.filter (· ≠ id) }.Sound where
  streaming other hother := h.streaming other (List.mem_filter.mp hother).1
  watching := h.watching

theorem Sound.watched_subset (id : PeerId) :
    (∀ other ∈ room.watched id, other ∈ room.sessions) ∧ id ∉ room.watched id ∧
      (room.watched id).card ≤ screenReceiveSlots := by
  unfold Room.watched
  cases hwatched : room.videoWatchers.lookup id with
  | none => simp
  | some watched =>
      rcases h.watching id watched hwatched with ⟨_, _, hall, hself, hcard⟩
      exact ⟨hall, hself, hcard⟩

theorem Sound.watch {id publisher : PeerId} (hid : id ∈ room.sessions)
    (haccepted : room.watchRejection id publisher = none) : (room.watch id publisher).Sound where
  streaming := h.streaming
  watching watcher watched hwatched := by
    rcases h.watched_subset id with ⟨hall, hself, hcard⟩
    unfold Room.watchRejection at haccepted
    split at haccepted
    · contradiction
    · rename_i hknown
      rw [not_or, not_not] at hknown
      split at haccepted
      · contradiction
      · by_cases hsame : watcher = id
        · subst hsame
          simp only [Room.watch, AList.lookup_insert, Option.some.injEq] at hwatched
          rw [← hwatched]
          refine ⟨hid, Finset.insert_nonempty _ _, ?_, ?_, ?_⟩
          · intro other hother
            rcases Finset.mem_insert.mp hother with rfl | hold
            · exact hknown.1
            · exact hall other hold
          · rw [Finset.mem_insert, not_or]
            exact ⟨hknown.2, hself⟩
          · split at haccepted
            · rename_i halready
              rwa [Finset.insert_eq_of_mem halready]
            · rename_i hnew
              split at haccepted
              · contradiction
              · rw [Finset.card_insert_of_notMem hnew]
                omega
        · simp only [Room.watch, AList.lookup_insert_ne hsame] at hwatched
          exact h.watching watcher watched hwatched

theorem Sound.unwatch (id publisher : PeerId) : (room.unwatch id publisher).Sound := by
  unfold Room.unwatch
  cases hold : room.videoWatchers.lookup id with
  | none => exact h
  | some old =>
      rcases h.watching id old hold with ⟨hid, _, hall, hself, hcard⟩
      simp only
      split
      · refine ⟨h.streaming, ?_⟩
        intro watcher watched hwatched
        by_cases hsame : watcher = id
        · rw [hsame, AList.lookup_erase] at hwatched
          contradiction
        · rw [AList.lookup_erase_ne hsame] at hwatched
          exact h.watching watcher watched hwatched
      · rename_i hnonempty
        refine ⟨h.streaming, ?_⟩
        intro watcher watched hwatched
        by_cases hsame : watcher = id
        · subst hsame
          rw [AList.lookup_insert, Option.some.injEq] at hwatched
          rw [← hwatched]
          refine ⟨hid, Finset.nonempty_iff_ne_empty.mpr hnonempty, ?_, ?_, ?_⟩
          · exact fun other hother => hall other (Finset.mem_of_mem_erase hother)
          · exact fun hin => hself (Finset.mem_of_mem_erase hin)
          · exact (Finset.card_erase_le).trans hcard
        · rw [AList.lookup_insert_ne hsame] at hwatched
          exact h.watching watcher watched hwatched

end Room

namespace SignalingSystem

/-! ## The log -/

/-- The later entry tells a session of a stream of the session that the earlier
entry removed. -/
def Revives (earlier later : LogEntry) : Prop :=
  ∃ id recipient, earlier = LogEntry.unregistered id ∧
    later = LogEntry.sent recipient (Message.streamingStart (some id))

/-- No `streaming_start` of a session is sent after it was unregistered. -/
def Silent (log : List LogEntry) : Prop :=
  log.Pairwise fun earlier later => ¬ Revives earlier later

theorem Silent.append {log : List LogEntry} (h : Silent log) {sends : Sends}
    (hsends : ∀ recipient id, (recipient, Message.streamingStart (some id)) ∈ sends →
      LogEntry.unregistered id ∉ log) :
    Silent (log ++ sends.map fun sent => LogEntry.sent sent.1 sent.2) := by
  rw [Silent, List.pairwise_append]
  refine ⟨h, ?_, ?_⟩
  · rw [List.pairwise_map]
    apply List.pairwise_of_forall
    rintro first second ⟨id, recipient, hearlier, _⟩
    contradiction
  · rintro earlier hmem later hlater ⟨id, recipient, rfl, hsent⟩
    rcases List.mem_map.mp hlater with ⟨⟨other, message⟩, hin, rfl⟩
    injection hsent with hother hmessage
    subst hother
    subst hmessage
    exact hsends other id hin hmem

theorem Silent.unregister {log : List LogEntry} (h : Silent log) (id : PeerId) :
    Silent (log ++ [LogEntry.unregistered id]) := by
  rw [Silent, List.pairwise_append]
  refine ⟨h, List.pairwise_singleton _ _, ?_⟩
  rintro earlier _ later hlater ⟨other, recipient, _, hsent⟩
  rw [List.mem_singleton.mp hlater] at hsent
  contradiction

/-! ## Careful runs -/

/-- The text is a `streaming_start`. -/
def isStreamingStart (raw : Option Json) : Bool :=
  match parse raw with
  | Except.ok (Message.streamingStart _) => true
  | _ => false

/-- A `streaming_start` is handled while its session is in its room, or the room is
gone. -/
def Careful (system : SignalingSystem) : ServerEvent → Prop
  | ServerEvent.read id raw =>
      isStreamingStart raw = true → ∀ session ∈ system.sessions.lookup id,
        ∀ room ∈ system.server.rooms.lookup session.roomId, id ∈ room.sessions
  | _ => True

instance (system : SignalingSystem) : DecidablePred system.Careful
  | ServerEvent.read id raw =>
      inferInstanceAs (Decidable (isStreamingStart raw = true →
        ∀ session ∈ system.sessions.lookup id,
          ∀ room ∈ system.server.rooms.lookup session.roomId, id ∈ room.sessions))
  | ServerEvent.accept .. | ServerEvent.readFailed _ | ServerEvent.written .. |
      ServerEvent.presence | ServerEvent.stop => inferInstanceAs (Decidable True)

/-- One event of a careful run. -/
def CarefulStep (system next : SignalingSystem) : Prop :=
  ∃ event, system.Careful event ∧ system.act event = some next

/-- The registry is right, the rooms are sound, and the log is silent. -/
structure Sound (system : SignalingSystem) : Prop where
  registry : Registry system
  rooms : ∀ roomId room, system.server.rooms.lookup roomId = some room → room.Sound
  silent : Silent system.log

variable {system : SignalingSystem}

theorem silent_conclude {result : WebSocketServer × Except JsonError Sends}
    (h : Silent system.log)
    (hsends : ∀ sends recipient id, result.2 = Except.ok sends →
      (recipient, Message.streamingStart (some id)) ∈ sends →
        LogEntry.unregistered id ∉ system.log) :
    Silent (system.conclude result).log := by
  unfold SignalingSystem.conclude
  split
  · rename_i sends hsame
    exact h.append fun recipient id => hsends sends recipient id hsame
  · exact h

/-- A change to a room that keeps it sound keeps all rooms sound. -/
theorem sound_inRoom
    (h : ∀ roomId room, system.server.rooms.lookup roomId = some room → room.Sound)
    {roomId : RoomId} {f : Room → Room}
    (hf : ∀ room, system.server.rooms.lookup roomId = some room → (f room).Sound) :
    ∀ other room, (system.server.inRoom roomId f).rooms.lookup other = some room →
      room.Sound := by
  intro other room hroom
  rw [WebSocketServer.inRoom, Table.lookup_modify, Option.map_eq_some_iff] at hroom
  rcases hroom with ⟨old, hold, rfl⟩
  by_cases hsame : other = roomId
  · subst hsame
    rw [if_pos rfl]
    exact hf old hold
  · rw [if_neg hsame]
    exact h other old hold

theorem no_start_of_sendTo {recipients : List PeerId} {message : Message} {sends : Sends}
    (hsends : sendTo recipients message = Except.ok sends)
    (hmessage : ∀ id, message ≠ Message.streamingStart (some id)) (recipient id : PeerId) :
    (recipient, Message.streamingStart (some id)) ∉ sends := by
  rw [mem_of_sendTo hsends, List.mem_map]
  rintro ⟨other, _, hsame⟩
  rw [Prod.mk.injEq] at hsame
  exact hmessage id hsame.2

/-- What a careful message does to the rooms. -/
theorem Sound.rooms_onMessage (h : Sound system) {id : PeerId} {session : Session}
    {message : Message}
    (hcareful : ∀ sender, message = Message.streamingStart sender →
      ∀ room, system.server.rooms.lookup session.roomId = some room → id ∈ room.sessions) :
    ∀ roomId room, (onMessage system.server id session.roomId message).1.rooms.lookup roomId =
      some room → room.Sound := by
  cases message with
  | streamingStart sender =>
      apply sound_inRoom h.rooms
      intro room hroom
      exact (h.rooms _ room hroom).startStreaming (hcareful sender rfl room hroom)
  | streamingStop sender =>
      apply sound_inRoom h.rooms
      exact fun room hroom => (h.rooms _ room hroom).stopStreaming id
  | watchStart publisher =>
      simp only [onMessage, WebSocketServer.addVideoWatcher]
      split
      · exact h.rooms
      · rename_i room hroom
        split
        · rename_i hid
          split
          · exact h.rooms
          · rename_i haccepted
            apply sound_inRoom h.rooms
            intro found hfound
            rw [hroom, Option.some.injEq] at hfound
            rw [← hfound]
            exact (h.rooms _ room hroom).watch hid haccepted
        · exact h.rooms
  | watchStop publisher =>
      apply sound_inRoom h.rooms
      exact fun room hroom => (h.rooms _ room hroom).unwatch id publisher
  | _ => exact h.rooms

/-- A careful message announces only streams of sessions that are there. -/
theorem Sound.sends_onMessage (h : Sound system) {id : PeerId} {session : Session}
    {message : Message}
    (hcareful : ∀ sender, message = Message.streamingStart sender →
      ∀ room, system.server.rooms.lookup session.roomId = some room → id ∈ room.sessions)
    {sends : Sends} {recipient other : PeerId}
    (hsends : (onMessage system.server id session.roomId message).2 = Except.ok sends)
    (hsent : (recipient, Message.streamingStart (some other)) ∈ sends) :
    LogEntry.unregistered other ∉ system.log := by
  cases message with
  | streamingStart sender =>
      intro hgone
      have hmem := mem_of_sendTo hsends
      rw [hmem, List.mem_map] at hsent
      rcases hsent with ⟨target, htarget, hsame⟩
      rw [Prod.mk.injEq, Message.streamingStart.injEq, Option.some.injEq] at hsame
      rcases hsame with ⟨_, rfl⟩
      cases hroom : system.server.rooms.lookup session.roomId with
      | none =>
          simp [WebSocketServer.addStreamingPeer, WebSocketServer.inRoom, hroom] at htarget
      | some room =>
          rcases Table.mem_iff_exists_lookup.mp (hcareful sender rfl room hroom) with
            ⟨username, husername⟩
          rcases h.registry.member _ room id username hroom husername with
            ⟨found, hfound, _, _, hopen⟩
          rcases h.registry.gone id hgone with ⟨closed, hclosed, hisClosed⟩
          rw [hfound, Option.some.injEq] at hclosed
          rw [hclosed, hisClosed] at hopen
          contradiction
  | streamingStop sender =>
      exact absurd hsent (no_start_of_sendTo hsends (by simp) recipient other)
  | watchStart publisher =>
      simp only [onMessage, WebSocketServer.addVideoWatcher] at hsends
      split at hsends
      · cases hsends
        simp at hsent
      · split at hsends
        · split at hsends
          · exact absurd hsent (no_start_of_sendTo hsends (by simp) recipient other)
          · cases hsends
            simp at hsent
        · cases hsends
          simp at hsent
  | _ =>
      cases hsends
      simp at hsent

theorem no_start_of_farewell {room : Room} {id : PeerId} {sends : Sends}
    (hsends : room.farewell id = Except.ok sends) (recipient other : PeerId) :
    (recipient, Message.streamingStart (some other)) ∉ sends := by
  intro hsent
  have hmem : (recipient, Message.streamingStart (some other)) ∈
      (room.others id).flatMap fun recipient =>
        (room.farewellMessages id).map fun message => (recipient, message) := by
    unfold Room.farewell at hsends
    cases hdump : (room.farewellMessages id).mapM dump with
    | error error =>
        rw [hdump] at hsends
        contradiction
    | ok written =>
        rw [hdump] at hsends
        rw [← Except.ok.inj hsends] at hsent
        exact hsent
  rcases List.mem_flatMap.mp hmem with ⟨target, _, hmessage⟩
  rcases List.mem_map.mp hmessage with ⟨message, hin, hsame⟩
  rw [Prod.mk.injEq] at hsame
  rw [hsame.2] at hin
  simp [Room.farewellMessages] at hin

/-- `on_close` keeps the rooms sound. -/
theorem Sound.onClose (h : Sound system) {id : PeerId} {session : Session}
    (hsession : system.sessions.lookup id = some session) :
    Sound (system.onClose id session) := by
  refine ⟨h.registry.onClose hsession, ?_, ?_⟩
  · unfold SignalingSystem.onClose
    split
    · exact h.rooms
    · cases hroom : system.server.rooms.lookup session.roomId with
      | none =>
          simp only [WebSocketServer.unregisterSession, hroom]
          exact h.rooms
      | some room =>
          by_cases hmem : id ∈ room.sessions
          · simp only [WebSocketServer.unregisterSession, hroom, if_pos hmem, rooms_conclude]
            intro roomId left hleft
            by_cases hsame : roomId = session.roomId
            · subst hsame
              rw [lookup_roomsWithout_self] at hleft
              split at hleft
              · contradiction
              · rw [← Option.some.inj hleft]
                exact (h.rooms _ room hroom).leave id
            · rw [lookup_roomsWithout_ne _ _ _ hsame] at hleft
              exact h.rooms roomId left hleft
          · simp only [WebSocketServer.unregisterSession, hroom, if_neg hmem]
            exact h.rooms
  · unfold SignalingSystem.onClose
    split
    · exact h.silent
    · cases hroom : system.server.rooms.lookup session.roomId with
      | none =>
          simp only [WebSocketServer.unregisterSession, hroom]
          exact h.silent
      | some room =>
          by_cases hmem : id ∈ room.sessions
          · simp only [WebSocketServer.unregisterSession, hroom, if_pos hmem]
            apply silent_conclude (h.silent.unregister id)
            intro sends recipient other hsends hsent
            exact absurd hsent (no_start_of_farewell hsends recipient other)
          · simp only [WebSocketServer.unregisterSession, hroom, if_neg hmem]
            exact h.silent

/-- `on_accept` keeps the rooms sound. -/
theorem Sound.accept (h : Sound system) (hended : system.ended = false)
    (hrunning : system.server.stopping = false) {id : PeerId}
    (hfresh : system.sessions.lookup id = none) (hid : validUtf8 id.value = true)
    (roomId : RoomId) (username : Username) (sessions : Table PeerId Session) :
    let accepted := { system with sessions := sessions }.conclude
      (system.server.registerAndBuildWelcome id roomId username)
    (∀ other room, accepted.server.rooms.lookup other = some room → room.Sound) ∧
      Silent accepted.log := by
  rw [h.registry.registerAndBuildWelcome hended hrunning hfresh hid]
  constructor
  · rw [rooms_conclude]
    intro other room hroom
    by_cases hsame : other = roomId
    · subst hsame
      rw [joinedRooms, AList.lookup_insert, Option.some.injEq] at hroom
      rw [← hroom]
      apply Room.Sound.join
      cases hfound : system.server.rooms.lookup other with
      | none => exact ⟨by simp, by simp⟩
      | some found => exact h.rooms other found hfound
    · rw [joinedRooms, AList.lookup_insert_ne hsame] at hroom
      exact h.rooms other room hroom
  · have hsilent : Silent { system with sessions := sessions }.log := h.silent
    apply silent_conclude hsilent
    intro sends recipient other hsends hsent
    cases hjoined : sendTo ((system.server.rooms.lookup roomId).getD {}).sessions.keys
        (Message.peerJoined id username) with
    | error error =>
        rw [hjoined] at hsends
        contradiction
    | ok joined =>
        rw [hjoined, Except.map, Except.ok.injEq] at hsends
        rw [← hsends] at hsent
        rcases List.mem_append.mp hsent with hpeer | hself
        · exact absurd hpeer (no_start_of_sendTo hjoined (by simp) recipient other)
        · simp at hself

/-- A careful event keeps the rooms sound. -/
theorem Sound.step (h : Sound system) {next : SignalingSystem}
    (hstep : CarefulStep system next) : Sound next := by
  rcases hstep with ⟨event, hcareful, hact⟩
  have hregistry : Registry next := h.registry.step ⟨event, hact⟩
  have hended := running_of_act hact
  cases acted_of_act hact with
  | refused random roomId username hstopping hfresh =>
      refine ⟨hregistry, h.rooms, ?_⟩
      apply silent_conclude h.silent
      intro sends recipient other hsends hsent
      rw [← Except.ok.inj hsends] at hsent
      exact absurd hsent List.not_mem_nil
  | accepted random roomId username hopen hnew =>
      have haccepted := h.accept hended hopen (AList.lookup_eq_none.mpr hnew)
        (validUtf8_generateId random) roomId username
        (system.sessions.insert (generateId random) { roomId, username })
      exact ⟨hregistry, haccepted.1, haccepted.2⟩
  | readFailed id hsession =>
      rename_i session
      have hstopped : Sound { system with
          sessions := system.sessions.insert id { session with reading := false } } :=
        ⟨h.registry.setReading hsession false, h.rooms, h.silent⟩
      exact hstopped.onClose (AList.lookup_insert _)
  | parsed id hsession hparse =>
      rename_i raw session message
      have hthere : ∀ sender, message = Message.streamingStart sender →
          ∀ room, system.server.rooms.lookup session.roomId = some room →
            id ∈ room.sessions := by
        rintro sender rfl room hroom
        exact hcareful (by simp [isStreamingStart, hparse]) session hsession room hroom
      refine ⟨hregistry, ?_, ?_⟩
      · rw [rooms_conclude]
        exact h.rooms_onMessage hthere
      · apply silent_conclude h.silent
        exact fun sends recipient other => h.sends_onMessage hthere
  | writeFailed id hsession => exact h.onClose hsession
  | unparsed | written | listed => exact h
  | unlisted herror => exact ⟨hregistry, h.rooms, h.silent⟩
  | stopped =>
      exact ⟨hregistry, fun _ _ hroom => by simp [WebSocketServer.stop] at hroom, h.silent⟩

/-! ## The rooms of a run -/

theorem sound_of_reachable (h : Reachable Initial CarefulStep system) : Sound system := by
  refine Reachable.invariant ?_ (fun _ _ _ hsound hstep => hsound.step hstep) h
  intro start hstart
  rw [hstart]
  exact ⟨registry_initial, fun _ _ hroom => by simp at hroom, List.Pairwise.nil⟩

/-- In every careful run the rooms are sound, exactly the rooms with an open session
are there, and nobody hears of a stream of a session that was unregistered. -/
theorem rooms_stay_sound (h : Reachable Initial CarefulStep system) :
    (∀ roomId room, system.server.rooms.lookup roomId = some room →
      room.Sound ∧ ∃ id, id ∈ room.sessions) ∧
    (system.server.stopping = false → ∀ roomId, roomId ∈ system.server.rooms ↔
      ∃ id session, system.sessions.lookup id = some session ∧ session.roomId = roomId ∧
        session.closed = false) ∧
    Silent system.log := by
  have hsound := sound_of_reachable h
  refine ⟨?_, ?_, hsound.silent⟩
  · intro roomId room hroom
    exact ⟨hsound.rooms roomId room hroom, hsound.registry.occupied roomId room hroom⟩
  · intro hrunning roomId
    constructor
    · intro hmem
      rcases Table.mem_iff_exists_lookup.mp hmem with ⟨room, hroom⟩
      rcases hsound.registry.occupied roomId room hroom with ⟨id, hid⟩
      rcases Table.mem_iff_exists_lookup.mp hid with ⟨username, husername⟩
      rcases hsound.registry.member roomId room id username hroom husername with
        ⟨session, hsession, hroomId, _, hopen⟩
      exact ⟨id, session, hsession, hroomId, hopen⟩
    · rintro ⟨id, session, hsession, rfl, hopen⟩
      rcases hsound.registry.registered hrunning id session hsession hopen with ⟨room, hroom, _⟩
      exact Table.mem_iff_exists_lookup.mpr ⟨room, hroom⟩

/-- Alice shares her screen in a room, Bob watches her, and Alice leaves. -/
def watchedShare : List ServerEvent :=
  [ServerEvent.accept 1 ⟨text "lobby"⟩ ⟨text "alice"⟩,
    ServerEvent.accept 2 ⟨text "lobby"⟩ ⟨text "bob"⟩,
    ServerEvent.read (generateId 1) (some (encode (Message.streamingStart none))),
    ServerEvent.read (generateId 2) (some (encode (Message.watchStart (generateId 1)))),
    ServerEvent.accept 3 ⟨text "lobby"⟩ ⟨text "carol"⟩,
    ServerEvent.readFailed (generateId 1)]

/-- The server after `watchedShare`. -/
def watchedSystem : SignalingSystem :=
  (execute Careful act {} watchedShare).getD {}

theorem rooms_stay_sound_watched :
    (∀ roomId room, watchedSystem.server.rooms.lookup roomId = some room →
      room.Sound ∧ ∃ id, id ∈ room.sessions) ∧
    (watchedSystem.server.stopping = false → ∀ roomId, roomId ∈ watchedSystem.server.rooms ↔
      ∃ id session, watchedSystem.sessions.lookup id = some session ∧
        session.roomId = roomId ∧ session.closed = false) ∧
    Silent watchedSystem.log :=
  rooms_stay_sound (Reachable.execute (fun _ event _ hcareful hact => ⟨event, hcareful, hact⟩)
    (Reachable.start rfl) (execute_eq_some_getD (by decide +kernel)))

/-- Bob's session is closed by a failed write, and then a `streaming_start` that was
read before is handled. -/
def lateStart : List ServerEvent :=
  [ServerEvent.accept 1 ⟨text "lobby"⟩ ⟨text "alice"⟩,
    ServerEvent.accept 2 ⟨text "lobby"⟩ ⟨text "bob"⟩,
    ServerEvent.written (generateId 2) true,
    ServerEvent.read (generateId 2) (some (encode (Message.streamingStart none)))]

/-- The server after `lateStart`. -/
def lateSystem : SignalingSystem :=
  (execute (fun _ _ => True) act {} lateStart).getD {}

/-- Bob's stream is listed and announced to Alice although Bob has left. -/
theorem closed_session_streams :
    Reachable Initial Step lateSystem ∧
    (∃ room, lateSystem.server.rooms.lookup ⟨text "lobby"⟩ = some room ∧
      generateId 2 ∈ room.streamingPeers ∧ generateId 2 ∉ room.sessions) ∧
    ¬ Silent lateSystem.log := by
  refine ⟨?_, ?_, ?_⟩
  · exact Reachable.execute (fun _ event _ _ hact => ⟨event, hact⟩) (Reachable.start rfl)
      (execute_eq_some_getD (by decide +kernel))
  · have hroom : (lateSystem.server.rooms.lookup ⟨text "lobby"⟩).any (fun room =>
        generateId 2 ∈ room.streamingPeers ∧ generateId 2 ∉ room.sessions) = true := by
      decide +kernel
    simpa [Option.any_eq_true] using hroom
  · intro hsilent
    have hlog : lateSystem.log =
        [LogEntry.sent (generateId 1) (Message.welcome (generateId 1) [] []),
          LogEntry.sent (generateId 1) (Message.peerJoined (generateId 2) ⟨text "bob"⟩),
          LogEntry.sent (generateId 2)
            (Message.welcome (generateId 2) [⟨generateId 1, ⟨text "alice"⟩⟩] []),
          LogEntry.unregistered (generateId 2),
          LogEntry.sent (generateId 1) (Message.peerLeft (generateId 2)),
          LogEntry.sent (generateId 1) (Message.streamingStart (some (generateId 2)))] := by
      decide +kernel
    rw [hlog, Silent] at hsilent
    have hpair := (List.pairwise_iff_getElem.mp hsilent) 3 5 (by decide) (by decide) (by decide)
    exact hpair ⟨generateId 2, generateId 1, rfl, rfl⟩

end SignalingSystem

end Server
end Driscord
