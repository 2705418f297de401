import Driscord.Server.Registry

/-!
# Names that can be serialised

The username and the room of an upgrade request are any bytes, and a string that is
not UTF-8 makes the JSON library raise an exception, which ends the server.  Nothing
else can raise one: the ids are made by the server and the texts of the clients
were parsed.

Main results:

- Theorem `Serialisable.step`: a clean event raises no exception.
- Theorem `upgrade_completes_iff`: an upgrade completes exactly if its names and the
  names of the rooms are valid UTF-8, or the server refuses it.
- Theorem `invalid_name_ends_server`: a username of one byte ends the server.
-/

namespace Driscord
namespace Server

open Library Signaling

namespace SignalingSystem

/-! ## Clean runs -/

/-- The names of a request that the server does not refuse are valid UTF-8. -/
def Clean (system : SignalingSystem) : ServerEvent → Prop
  | ServerEvent.accept _ roomId username =>
      system.server.stopping = true ∨
        validUtf8 username.value = true ∧ validUtf8 roomId.value = true
  | _ => True

/-- One event of a clean run. -/
def CleanStep (system next : SignalingSystem) : Prop :=
  ∃ event, system.Clean event ∧ system.act event = some next

/-- No exception has ended the server, and all that is in the rooms can be
serialised. -/
structure Serialisable (system : SignalingSystem) : Prop where
  registry : Registry system
  running : system.ended = false
  rooms : ∀ roomId ∈ system.server.rooms, validUtf8 roomId.value = true

variable {system : SignalingSystem}

/-- The sessions of a room can be listed. -/
theorem Serialisable.identities (h : Serialisable system) {roomId : RoomId} {room : Room}
    (hroom : system.server.rooms.lookup roomId = some room) :
    Json.validItems (room.identities.map PeerIdentity.encode) = true := by
  rw [valid_peers, List.all_eq_true]
  intro value hvalue
  rcases List.mem_flatMap.mp hvalue with ⟨peer, hpeer, hstring⟩
  rcases List.mem_map.mp hpeer with ⟨⟨id, username⟩, hentry, rfl⟩
  have hlookup : room.sessions.lookup id = some username := AList.mem_lookup_iff.mpr hentry
  rcases h.registry.member roomId room id username hroom hlookup with ⟨session, hsession, _⟩
  rcases List.mem_cons.mp hstring with rfl | hlast
  · exact (h.registry.ids id session hsession).1
  · rw [List.mem_singleton.mp hlast]
    exact h.registry.names h.running roomId room id username hroom hlookup

/-- `presence_json` is valid exactly if every room can be listed. -/
theorem presenceJson_eq_ok_iff (server : WebSocketServer) :
    (∃ written, server.presenceJson = Except.ok written) ↔
      ∀ roomId room, server.rooms.lookup roomId = some room →
        validUtf8 roomId.value = true ∧
          Json.validItems (room.identities.map PeerIdentity.encode) = true := by
  have hvalid : ∀ value : Json, (∃ written, value.dump = Except.ok written) ↔
      value.valid = true := by
    intro value
    constructor
    · rintro ⟨written, hwritten⟩
      exact (Json.dump_eq_ok_iff.mp hwritten).1
    · exact fun h => ⟨value, Json.dump_eq_ok_iff.mpr ⟨h, rfl⟩⟩
  rw [WebSocketServer.presenceJson, hvalid, Json.valid, Json.validMembers_eq_all,
    List.all_map, List.all_eq_true]
  constructor
  · intro hall roomId room hroom
    have hentry := hall ⟨roomId, room⟩ (AList.mem_lookup_iff.mp hroom)
    simpa [Json.valid] using hentry
  · rintro hall ⟨roomId, room⟩ hentry
    simpa [Json.valid] using hall roomId room (AList.mem_lookup_iff.mpr hentry)

theorem Serialisable.presenceJson (h : Serialisable system) :
    ∃ written, system.server.presenceJson = Except.ok written := by
  rw [presenceJson_eq_ok_iff]
  intro roomId room hroom
  exact ⟨h.rooms roomId (Table.mem_of_lookup hroom), h.identities hroom⟩

/-! ## Operations that raise nothing -/

theorem ended_conclude {result : WebSocketServer × Except JsonError Sends} {sends : Sends}
    (h : result.2 = Except.ok sends) : (system.conclude result).ended = system.ended := by
  unfold SignalingSystem.conclude
  rw [h]

theorem ended_conclude_error {result : WebSocketServer × Except JsonError Sends}
    {error : JsonError} (h : result.2 = Except.error error) :
    (system.conclude result).ended = true := by
  unfold SignalingSystem.conclude
  rw [h]

theorem farewell_eq_ok (room : Room) {id : PeerId} (hid : validUtf8 id.value = true) :
    room.farewell id = Except.ok ((room.others id).flatMap fun recipient =>
      (room.farewellMessages id).map fun message => (recipient, message)) := by
  have hleft : dump (Message.peerLeft id) = Except.ok (encode (Message.peerLeft id)) :=
    dump_eq_ok (by simpa [Message.strings] using hid)
  have hstop : dump (Message.streamingStop (some id)) =
      Except.ok (encode (Message.streamingStop (some id))) :=
    dump_eq_ok (by simpa [Message.strings] using hid)
  have hdump : ∃ written, (room.farewellMessages id).mapM dump = Except.ok written := by
    unfold Room.farewellMessages
    split <;> simp only [List.singleton_append, List.nil_append, List.mapM_cons, hleft, hstop] <;>
      exact ⟨_, rfl⟩
  rcases hdump with ⟨written, hwritten⟩
  rw [Room.farewell, hwritten]
  rfl

theorem mem_rooms_inRoom (server : WebSocketServer) (roomId : RoomId) (f : Room → Room)
    (other : RoomId) : other ∈ (server.inRoom roomId f).rooms ↔ other ∈ server.rooms :=
  Table.mem_modify roomId f server.rooms other

theorem mem_rooms_onMessage (server : WebSocketServer) (id : PeerId) (roomId : RoomId)
    (message : Message) (other : RoomId) :
    other ∈ (onMessage server id roomId message).1.rooms ↔ other ∈ server.rooms := by
  cases message with
  | streamingStart _ | streamingStop _ | watchStop _ => exact mem_rooms_inRoom _ _ _ _
  | watchStart publisher =>
      simp only [onMessage, WebSocketServer.addVideoWatcher]
      split
      · rfl
      · split
        · split
          · rfl
          · exact mem_rooms_inRoom _ _ _ _
        · rfl
  | _ => rfl

/-- A parsed message of a session raises nothing. -/
theorem onMessage_eq_ok (server : WebSocketServer) {id : PeerId} (roomId : RoomId)
    {message : Message} (hid : validUtf8 id.value = true)
    (hmessage : message.strings.all validUtf8 = true) :
    ∃ sends, (onMessage server id roomId message).2 = Except.ok sends := by
  cases message with
  | streamingStart _ | streamingStop _ =>
      exact ⟨_, sendTo_eq_ok (by simpa [Message.strings] using hid) _⟩
  | watchStart publisher =>
      simp only [onMessage, WebSocketServer.addVideoWatcher]
      split
      · exact ⟨[], rfl⟩
      · split
        · split
          · exact ⟨_, sendTo_eq_ok (by simpa [Message.strings] using hmessage) _⟩
          · exact ⟨[], rfl⟩
        · exact ⟨[], rfl⟩
  | _ => exact ⟨[], rfl⟩

theorem running_onClose (h : Registry system) (hrunning : system.ended = false) {id : PeerId}
    {session : Session} (hsession : system.sessions.lookup id = some session) :
    (system.onClose id session).ended = false := by
  unfold SignalingSystem.onClose
  split
  · exact hrunning
  · cases hresult : system.server.unregisterSession id session.roomId with
    | none => exact hrunning
    | some result =>
        unfold WebSocketServer.unregisterSession at hresult
        split at hresult
        · contradiction
        · rename_i room _
          split at hresult
          · rw [← Option.some.inj hresult]
            exact (ended_conclude (farewell_eq_ok room (h.ids id session hsession).1)).trans hrunning
          · contradiction

/-- The names that the event serialises first are valid UTF-8. -/
def Quiet (system : SignalingSystem) : ServerEvent → Prop
  | ServerEvent.accept _ _ username =>
      system.server.stopping = true ∨ validUtf8 username.value = true
  | ServerEvent.presence => ∃ written, system.server.presenceJson = Except.ok written
  | _ => True

/-- A quiet event raises no exception. -/
theorem Registry.running (h : Registry system) {event : ServerEvent} {next : SignalingSystem}
    (hquiet : system.Quiet event) (hact : system.act event = some next) :
    next.ended = false := by
  have hrunning := running_of_act hact
  cases acted_of_act hact with
  | accepted random roomId username hopen hnew =>
      have husername := hquiet.resolve_left (by simp [hopen])
      have hid := validUtf8_generateId random
      rw [h.registerAndBuildWelcome hrunning hopen (AList.lookup_eq_none.mpr hnew) hid,
        sendTo_eq_ok (by simp [Message.strings, hid, husername])]
      exact hrunning
  | readFailed id hsession =>
      exact running_onClose (h.setReading hsession false) hrunning (AList.lookup_insert _)
  | parsed id hsession hparse =>
      rcases onMessage_eq_ok system.server _ (h.ids id _ hsession).1
        (validUtf8_of_parse hparse) with ⟨sends, hsends⟩
      rw [ended_conclude hsends]
      exact hrunning
  | writeFailed id hsession => exact running_onClose h hrunning hsession
  | unlisted herror =>
      rcases hquiet with ⟨written, hwritten⟩
      rw [herror] at hwritten
      contradiction
  | refused | unparsed | written | listed | stopped => exact hrunning

theorem mem_rooms_onClose {id : PeerId} {session : Session} {roomId : RoomId}
    (h : roomId ∈ (system.onClose id session).server.rooms) : roomId ∈ system.server.rooms := by
  unfold SignalingSystem.onClose at h
  split at h
  · exact h
  · cases hresult : system.server.unregisterSession id session.roomId with
    | none => rwa [hresult] at h
    | some result =>
        rw [hresult] at h
        unfold WebSocketServer.unregisterSession at hresult
        split at hresult
        · contradiction
        · rename_i room hroom
          split at hresult
          · rw [← Option.some.inj hresult] at h
            simp only [rooms_conclude] at h
            unfold WebSocketServer.roomsWithout at h
            split at h
            · exact (AList.mem_erase.mp h).2
            · rcases (AList.mem_insert _).mp h with rfl | hold
              · exact Table.mem_of_lookup hroom
              · exact hold
          · contradiction

/-- A clean event raises no exception. -/
theorem Serialisable.step (h : Serialisable system) {next : SignalingSystem}
    (hstep : CleanStep system next) : Serialisable next := by
  rcases hstep with ⟨event, hclean, hact⟩
  have hquiet : system.Quiet event := by
    cases event with
    | accept random roomId username => exact hclean.imp_right And.left
    | presence => exact h.presenceJson
    | _ => exact trivial
  refine ⟨h.registry.step ⟨event, hact⟩, h.registry.running hquiet hact, ?_⟩
  intro other hother
  cases acted_of_act hact with
  | accepted random roomId username hopen hnew =>
      rw [rooms_conclude, h.registry.registerAndBuildWelcome h.running hopen
        (AList.lookup_eq_none.mpr hnew) (validUtf8_generateId random)] at hother
      rcases (AList.mem_insert _).mp hother with rfl | hold
      · exact (hclean.resolve_left (by simp [hopen])).2
      · exact h.rooms other hold
  | readFailed id hsession =>
      have hold := mem_rooms_onClose hother
      exact h.rooms other hold
  | parsed id hsession hparse =>
      rw [rooms_conclude] at hother
      exact h.rooms other ((mem_rooms_onMessage _ _ _ _ _).mp hother)
  | writeFailed id hsession => exact h.rooms other (mem_rooms_onClose hother)
  | stopped => simp [WebSocketServer.stop] at hother
  | refused | unparsed | written | listed | unlisted => exact h.rooms other hother

/-! ## Upgrade requests -/

/-- The upgrade is refused and the rooms are left as they are, or it registers the
session without an exception, and in every clean run from there nothing that is
serialised raises one. -/
def Completes (system : SignalingSystem) (random : UInt64) (target : Bytes) : Prop :=
  ∀ next, system.act
      (ServerEvent.accept random (parseRoomId target) (parseUsernameParam target)) = some next →
    next.ended = false ∧
      ((next.server.rooms = system.server.rooms ∧ generateId random ∉ next.sessions) ∨
        ∀ later, Relation.ReflTransGen CleanStep next later →
          later.ended = false ∧ ∃ written, later.server.presenceJson = Except.ok written)

/-- The names of the request and of the rooms are valid UTF-8, or the request is
refused. -/
def NamesValid (system : SignalingSystem) (target : Bytes) : Prop :=
  system.server.stopping = true ∨
    validUtf8 (parseUsernameParam target).value = true ∧
      validUtf8 (parseRoomId target).value = true ∧
      ∀ roomId ∈ system.server.rooms, validUtf8 roomId.value = true

/-- While the server is stopping, an upgrade changes nothing. -/
theorem act_accept_stopping (hrunning : system.ended = false)
    (hstopping : system.server.stopping = true) {random : UInt64}
    (hfresh : generateId random ∉ system.sessions) (roomId : RoomId) (username : Username) :
    system.act (ServerEvent.accept random roomId username) =
      some (system.conclude (system.server, Except.ok [])) := by
  unfold act
  rw [if_neg (by simp [hrunning])]
  simp only [if_neg hfresh, if_pos hstopping, WebSocketServer.registerAndBuildWelcome]

/-- Otherwise the session joins its room. -/
theorem act_accept_open (h : Registry system) (hrunning : system.ended = false)
    (hopen : system.server.stopping = false) {random : UInt64}
    (hfresh : generateId random ∉ system.sessions) (roomId : RoomId) (username : Username) :
    ∃ welcome, system.act (ServerEvent.accept random roomId username) =
      some ({ system with
        sessions := system.sessions.insert (generateId random) { roomId, username } }.conclude
          ({ system.server with
            rooms := joinedRooms system.server (generateId random) roomId username },
          (sendTo ((system.server.rooms.lookup roomId).getD {}).sessions.keys
            (Message.peerJoined (generateId random) username)).map (· ++ welcome))) := by
  have hjoined := h.registerAndBuildWelcome hrunning hopen
    (AList.lookup_eq_none.mpr hfresh) (validUtf8_generateId random) roomId username
  refine ⟨[(generateId random, Message.welcome (generateId random)
    ((system.server.rooms.lookup roomId).getD {}).identities
    ((system.server.rooms.lookup roomId).getD {}).streamingPeers)], ?_⟩
  unfold act
  rw [if_neg (by simp [hrunning])]
  simp only [if_neg hfresh, hopen, Bool.false_eq_true, if_false, hjoined]

theorem completes_of_namesValid (h : Registry system) (hrunning : system.ended = false)
    {random : UInt64} (hfresh : generateId random ∉ system.sessions) {target : Bytes}
    (hvalid : NamesValid system target) : Completes system random target := by
  intro next hact
  rcases hvalid with hstopping | ⟨husername, hroomId, hrooms⟩
  · rw [act_accept_stopping hrunning hstopping hfresh, Option.some.injEq] at hact
    rw [← hact]
    exact ⟨hrunning, Or.inl ⟨rfl, hfresh⟩⟩
  · have hclean : system.Clean
        (ServerEvent.accept random (parseRoomId target) (parseUsernameParam target)) :=
      Or.inr ⟨husername, hroomId⟩
    have hjoined : Serialisable next := Serialisable.step ⟨h, hrunning, hrooms⟩ ⟨_, hclean, hact⟩
    refine ⟨hjoined.running, Or.inr ?_⟩
    intro later hrun
    have hlater : Serialisable later := by
      induction hrun with
      | refl => exact hjoined
      | tail _ hlast ih => exact ih.step hlast
    exact ⟨hlater.running, hlater.presenceJson⟩

theorem namesValid_of_completes (h : Registry system) (hrunning : system.ended = false)
    {random : UInt64} (hfresh : generateId random ∉ system.sessions) {target : Bytes}
    (hcompletes : Completes system random target) : NamesValid system target := by
  by_cases hstopping : system.server.stopping = true
  · exact Or.inl hstopping
  · right
    have hopen : system.server.stopping = false := by simpa using hstopping
    rcases act_accept_open h hrunning hopen hfresh (parseRoomId target)
      (parseUsernameParam target) with ⟨welcome, hact⟩
    rcases hcompletes _ hact with ⟨hended, hrefused | hlater⟩
    · have hjoined := hrefused.2
      rw [sessions_conclude] at hjoined
      exact absurd ((AList.mem_insert _).mpr (Or.inl rfl)) hjoined
    · have husername : validUtf8 (parseUsernameParam target).value = true := by
        by_contra hcontra
        have hinvalid : (Message.peerJoined (generateId random)
            (parseUsernameParam target)).strings.all validUtf8 = false := by
          have hname : validUtf8 (parseUsernameParam target).value = false := by
            simpa using hcontra
          simp [Message.strings, hname]
        rw [sendTo_eq_error hinvalid, ended_conclude_error rfl] at hended
        exact Bool.noConfusion hended
      have hrooms : ∀ roomId, roomId = parseRoomId target ∨ roomId ∈ system.server.rooms →
          validUtf8 roomId.value = true := by
        intro roomId hroomId
        rcases hlater _ Relation.ReflTransGen.refl with ⟨_, hpresence⟩
        rw [presenceJson_eq_ok_iff, rooms_conclude] at hpresence
        rcases Table.mem_iff_exists_lookup.mp ((AList.mem_insert _).mpr hroomId) with ⟨room, hroom⟩
        exact (hpresence roomId room hroom).1
      exact ⟨husername, hrooms _ (Or.inl rfl), fun roomId hmem => hrooms roomId (Or.inr hmem)⟩

/-- An upgrade completes exactly if its names and those of the rooms are valid
UTF-8, or the server refuses it. -/
theorem upgrade_completes_iff (h : Reachable Initial Step system)
    (hrunning : system.ended = false) {random : UInt64}
    (hfresh : generateId random ∉ system.sessions) (target : Bytes) :
    Completes system random target ↔ NamesValid system target :=
  ⟨namesValid_of_completes (registry_of_reachable h) hrunning hfresh,
    completes_of_namesValid (registry_of_reachable h) hrunning hfresh⟩

theorem upgrade_completes_first :
    Completes {} 1 (text "/channels/1?u=ann") ↔ NamesValid {} (text "/channels/1?u=ann") :=
  upgrade_completes_iff (Reachable.start rfl) rfl (by decide) _

/-- A username of one byte that is not UTF-8: the session is registered, nobody is
told, and the server has ended. -/
theorem invalid_name_ends_server :
    ¬ Completes {} 1 (text "/channels/1?u=%FF") ∧
    ((({} : SignalingSystem).act (ServerEvent.accept 1 (parseRoomId (text "/channels/1?u=%FF"))
      (parseUsernameParam (text "/channels/1?u=%FF")))).any fun next =>
        next.ended && next.log.isEmpty &&
          (next.server.rooms.lookup ⟨text "1"⟩).any fun room =>
            generateId 1 ∈ room.sessions) = true := by
  have hjoin : ((({} : SignalingSystem).act (ServerEvent.accept 1
      (parseRoomId (text "/channels/1?u=%FF"))
        (parseUsernameParam (text "/channels/1?u=%FF")))).any fun next =>
        next.ended && next.log.isEmpty &&
          (next.server.rooms.lookup ⟨text "1"⟩).any fun room =>
            generateId 1 ∈ room.sessions) = true := by
    decide +kernel
  refine ⟨?_, hjoin⟩
  intro hcompletes
  rcases (Option.any_eq_true _ _).mp hjoin with ⟨next, hact, hnext⟩
  rw [Bool.and_eq_true, Bool.and_eq_true] at hnext
  rw [(hcompletes next hact).1] at hnext
  exact absurd hnext.1.1 (by decide)

end SignalingSystem

end Server
end Driscord
