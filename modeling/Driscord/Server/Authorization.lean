import Driscord.Server.ChannelAccess
import Driscord.Server.Serialisation

/-!
# Authorised sessions

With an authenticator every upgrade request asks the API first, and the session is
accepted when the API has answered 200 with a username.  Any number of upgrades are
under way at the same time, and the answers come in any order.

The room is the text of the target, and the API reads an integer in it.  Two texts may
spell one integer.

Main results:

- Theorem `sound_of_reachable`: no session without an answer to its own question,
  in every run.
- Theorem `rooms_agree`: rooms are channels if every channel is spelled in one way.
- Theorem `one_channel_two_rooms`: two members of a channel in two rooms.
-/

namespace Driscord
namespace Server

open Library Signaling

/-! ## Upgrades -/

/-- `bearer_token`. -/
def bearerToken (authorization target : Bytes) : Bytes :=
  if (text "Bearer ").length < authorization.length ∧ text "Bearer " <+: authorization then
    authorization.drop (text "Bearer ").length
  else parseQueryParam target "t"

/-- The answer of the API; the body may not be JSON. -/
structure ApiReply where
  status : ℕ
  body : Option Json

/-- `Call::on_read`: the username of the identity, if there is one. -/
def ApiReply.identity (reply : ApiReply) : Option Username :=
  if reply.status = 200 then
    match reply.body.bind fun body => body.find (text "username") with
    | some (.string username) => if username = [] then none else some ⟨username⟩
    | _ => none
  else none

/-- How far an upgrade is. -/
inductive UpgradeStage where
  /-- The API has not answered. -/
  | asking
  /-- The WebSocket is being accepted. -/
  | accepting (username : Username)
  /-- The session is accepted or refused. -/
  | finished
deriving DecidableEq, Repr

/-- An upgrade request. -/
structure Upgrade where
  random : UInt64
  target : Bytes
  token : Bytes
  stage : UpgradeStage
deriving DecidableEq, Repr

/-- `room_id_`. -/
def Upgrade.roomId (upgrade : Upgrade) : RoomId :=
  parseRoomId upgrade.target

/-- The question of an upgrade, and the answer of the API. -/
structure ApiAnswer where
  target : Bytes
  token : Bytes
  reply : ApiReply

/-- The server with its upgrades, and the answers of the API so far. -/
structure AuthorizingServer where
  signaling : SignalingSystem := {}
  upgrades : List Upgrade := []
  answers : List ApiAnswer := []

/-- What happens. -/
inductive AuthorizingAction where
  /-- `on_http_read` of an upgrade request. -/
  | upgrade (random : UInt64) (target authorization : Bytes)
  /-- The API answers, or the call fails. -/
  | reply (index : ℕ) (reply : Option ApiReply)
  /-- `on_accept`. -/
  | accepted (index : ℕ) (failed : Bool)
  /-- Anything else happens to a session. -/
  | event (event : ServerEvent)

namespace AuthorizingServer

/-- Change the stage of an upgrade. -/
def setStage (system : AuthorizingServer) (index : ℕ) (upgrade : Upgrade) (stage : UpgradeStage) :
    AuthorizingServer :=
  { system with upgrades := system.upgrades.set index { upgrade with stage } }

/-- The stage after the answer. -/
def stageOf (identity : Option Username) : UpgradeStage :=
  match identity with
  | some username => .accepting username
  | none => .finished

variable (parseInt : Bytes → Option ℕ)

/-- One action.  The API answers 200 only to the question for a channel. -/
def act (system : AuthorizingServer) : AuthorizingAction → Option AuthorizingServer
  | .upgrade random target authorization =>
      let token := bearerToken authorization target
      -- Without a token nothing is asked.
      let stage := if token = [] then .finished else .asking
      some { system with upgrades := system.upgrades ++ [{ random, target, token, stage }] }
  | .reply index reply =>
      match system.upgrades[index]? with
      | none => none
      | some upgrade =>
          if upgrade.stage = .asking then
            let target := accessTarget upgrade.roomId.value
            match reply with
            | none => some (system.setStage index upgrade .finished)
            | some reply =>
                if reply.status = 200 → (accessChannel parseInt target).isSome = true then
                  some { system.setStage index upgrade (stageOf reply.identity) with
                    answers := system.answers ++ [⟨target, upgrade.token, reply⟩] }
                else none
          else none
  | .accepted index failed =>
      match system.upgrades[index]? with
      | none => none
      | some upgrade =>
          match upgrade.stage with
          | .accepting username =>
              if failed then some (system.setStage index upgrade .finished)
              else
                (system.signaling.act (.accept upgrade.random upgrade.roomId username)).map
                  fun signaling => { system.setStage index upgrade .finished with signaling }
          | _ => none
  | .event event =>
      match event with
      | .accept _ _ _ => none
      | _ => (system.signaling.act event).map fun signaling => { system with signaling }

/-- The API has answered 200 to the question of an upgrade, for this channel and
under this username. -/
def Confirmed (answers : List ApiAnswer) (upgrade : Upgrade) (channel : ℕ) (username : Username) :
    Prop :=
  ∃ answer ∈ answers, answer.target = accessTarget upgrade.roomId.value ∧
    answer.token = upgrade.token ∧ answer.reply.status = 200 ∧
      answer.reply.identity = some username ∧
        accessChannel parseInt answer.target = some channel

/-- The session is of an upgrade to the room that the API has confirmed. -/
def AuthorisedFor (system : AuthorizingServer) (id : PeerId) (roomId : RoomId)
    (username : Username) (channel : ℕ) : Prop :=
  ∃ upgrade ∈ system.upgrades, generateId upgrade.random = id ∧ upgrade.roomId = roomId ∧
    Confirmed parseInt system.answers upgrade channel username

/-- Every channel is spelled in one way in the targets of upgrades. -/
def SpelledAs (spelling : ℕ → Bytes) : AuthorizingAction → Prop
  | .upgrade _ target _ => ∀ channel, parseInt (parseRoomId target).value = some channel →
      (parseRoomId target).value = spelling channel
  | _ => True

/-- What every run keeps. -/
structure Sound (spelling : ℕ → Bytes) (system : AuthorizingServer) : Prop where
  run : Reachable SignalingSystem.Initial SignalingSystem.Step system.signaling
  accepting : ∀ upgrade ∈ system.upgrades, ∀ username, upgrade.stage = .accepting username →
    ∃ channel, Confirmed parseInt system.answers upgrade channel username
  sessions : ∀ id session, system.signaling.sessions.lookup id = some session →
    ∃ channel, AuthorisedFor parseInt system id session.roomId session.username channel
  spelled : ∀ upgrade ∈ system.upgrades, ∀ channel,
    parseInt upgrade.roomId.value = some channel → upgrade.roomId.value = spelling channel

/-! ## What one action keeps -/

section

variable {parseInt} {spelling : ℕ → Bytes} {system : AuthorizingServer}

theorem Confirmed.append {answers : List ApiAnswer} {upgrade : Upgrade} {channel : ℕ}
    {username : Username} (h : Confirmed parseInt answers upgrade channel username)
    (more : List ApiAnswer) : Confirmed parseInt (answers ++ more) upgrade channel username := by
  rcases h with ⟨answer, hmem, hanswer⟩
  exact ⟨answer, List.mem_append_left _ hmem, hanswer⟩

/-- A new stage leaves what an upgrade is about. -/
theorem exists_mem_setStage {index : ℕ} {upgrade : Upgrade}
    (hindex : system.upgrades[index]? = some upgrade) (stage : UpgradeStage) {other : Upgrade}
    (hmem : other ∈ system.upgrades) :
    ∃ later ∈ (system.setStage index upgrade stage).upgrades, later.random = other.random ∧
      later.target = other.target ∧ later.token = other.token := by
  rcases List.mem_iff_getElem?.mp hmem with ⟨place, hplace⟩
  by_cases hsame : index = place
  · subst hsame
    obtain rfl := Option.some.inj (hindex.symm.trans hplace)
    refine ⟨{ upgrade with stage }, ?_, rfl, rfl, rfl⟩
    exact List.mem_set (List.getElem?_eq_some_iff.mp hindex).1 _
  · refine ⟨other, ?_, rfl, rfl, rfl⟩
    apply List.mem_of_getElem? (i := place)
    rw [setStage, List.getElem?_set_ne hsame, hplace]

theorem AuthorisedFor.setStage {index : ℕ} {upgrade : Upgrade}
    (hindex : system.upgrades[index]? = some upgrade) (stage : UpgradeStage) {id : PeerId}
    {roomId : RoomId} {username : Username} {channel : ℕ}
    (h : AuthorisedFor parseInt system id roomId username channel) :
    AuthorisedFor parseInt (system.setStage index upgrade stage) id roomId username channel := by
  rcases h with ⟨other, hmem, hid, hroom, hconfirmed⟩
  rcases exists_mem_setStage hindex stage hmem with ⟨later, hlater, hrandom, htarget, htoken⟩
  refine ⟨later, hlater, by rw [hrandom, hid], ?_, ?_⟩
  · rw [Upgrade.roomId, htarget]
    exact hroom
  · unfold Confirmed Upgrade.roomId at hconfirmed ⊢
    rw [htarget, htoken]
    exact hconfirmed

end

end AuthorizingServer

/-! ## Sessions of the signaling server -/

namespace SignalingSystem

theorem sessions_onClose_cases {system : SignalingSystem} {closed id : PeerId}
    {found session : Session}
    (hlookup : (system.onClose closed found).sessions.lookup id = some session) :
    system.sessions.lookup id = some session ∨
      id = closed ∧ session = { found with closed := true } := by
  unfold onClose at hlookup
  split at hlookup
  · exact Or.inl hlookup
  · dsimp only at hlookup
    split at hlookup
    · rcases Table.lookup_insert_cases hlookup with hnew | hold
      · exact Or.inr hnew
      · exact Or.inl hold.2
    · rw [sessions_conclude] at hlookup
      rcases Table.lookup_insert_cases hlookup with hnew | hold
      · exact Or.inr hnew
      · exact Or.inl hold.2

/-- A session keeps its room and its username, and is new only when it is accepted. -/
theorem session_of_act {system next : SignalingSystem} {event : ServerEvent}
    (hact : system.act event = some next) {id : PeerId} {session : Session}
    (hlookup : next.sessions.lookup id = some session) :
    (∃ old, system.sessions.lookup id = some old ∧ old.roomId = session.roomId ∧
        old.username = session.username) ∨
      ∃ random, event = .accept random session.roomId session.username ∧
        generateId random = id := by
  cases acted_of_act hact with
  | refused random roomId username hstopping hfresh =>
      rw [sessions_conclude] at hlookup
      exact Or.inl ⟨session, hlookup, rfl, rfl⟩
  | accepted random roomId username hopen hfresh =>
      rw [sessions_conclude] at hlookup
      rcases Table.lookup_insert_cases hlookup with ⟨rfl, rfl⟩ | ⟨-, hold⟩
      · exact Or.inr ⟨random, rfl, rfl⟩
      · exact Or.inl ⟨session, hold, rfl, rfl⟩
  | @readFailed closed found hfound =>
      rcases sessions_onClose_cases hlookup with hold | ⟨rfl, rfl⟩
      · rcases Table.lookup_insert_cases hold with ⟨rfl, rfl⟩ | ⟨-, hold⟩
        · exact Or.inl ⟨found, hfound, rfl, rfl⟩
        · exact Or.inl ⟨session, hold, rfl, rfl⟩
      · exact Or.inl ⟨found, hfound, rfl, rfl⟩
  | parsed closed hsession hparse =>
      rw [sessions_conclude] at hlookup
      exact Or.inl ⟨session, hlookup, rfl, rfl⟩
  | @writeFailed closed found hfound =>
      rcases sessions_onClose_cases hlookup with hold | ⟨rfl, rfl⟩
      · exact Or.inl ⟨session, hold, rfl, rfl⟩
      · exact Or.inl ⟨found, hfound, rfl, rfl⟩
  | unparsed | written | listed | unlisted | stopped =>
      exact Or.inl ⟨session, hlookup, rfl, rfl⟩

end SignalingSystem

/-! ## Every run -/

namespace AuthorizingServer

variable {parseInt : Bytes → Option ℕ} {spelling : ℕ → Bytes}
variable {system next : AuthorizingServer}

theorem parseRoomId_ne_nil (target : Bytes) : (parseRoomId target).value ≠ [] := by
  unfold parseRoomId
  split
  · dsimp only
    split
    · decide
    · assumption
  · decide

/-- The channel of a confirmed upgrade is the integer that its room spells. -/
theorem Confirmed.parseInt_eq {answers : List ApiAnswer} {upgrade : Upgrade} {channel : ℕ}
    {username : Username} (h : Confirmed parseInt answers upgrade channel username) :
    parseInt upgrade.roomId.value = some channel := by
  rcases h with ⟨answer, -, htarget, -, -, -, hchannel⟩
  have hne : upgrade.roomId.value ≠ [] := parseRoomId_ne_nil _
  rw [htarget, accessChannel_accessTarget _ hne] at hchannel
  by_cases hslash : 47 ∈ upgrade.roomId.value
  · rw [if_pos hslash] at hchannel
    contradiction
  · rwa [if_neg hslash] at hchannel

/-- What the server keeps when an upgrade goes on. -/
theorem Sound.setStage (h : Sound parseInt spelling system) {index : ℕ} {upgrade : Upgrade}
    (hindex : system.upgrades[index]? = some upgrade) {stage : UpgradeStage}
    (hstage : ∀ username, stage = .accepting username →
      ∃ channel, Confirmed parseInt system.answers upgrade channel username) :
    Sound parseInt spelling (system.setStage index upgrade stage) where
  run := h.run
  accepting other hmem username hother := by
    rcases List.mem_or_eq_of_mem_set hmem with hmem | rfl
    · exact h.accepting other hmem username hother
    · exact hstage username hother
  sessions id session hlookup := by
    rcases h.sessions id session hlookup with ⟨channel, hauthorised⟩
    exact ⟨channel, hauthorised.setStage hindex stage⟩
  spelled other hmem := by
    rcases List.mem_or_eq_of_mem_set hmem with hmem | rfl
    · exact h.spelled other hmem
    · exact h.spelled upgrade (List.mem_of_getElem? hindex)

/-- More answers confirm no less. -/
theorem Sound.answer (h : Sound parseInt spelling system) (answer : ApiAnswer) :
    Sound parseInt spelling { system with answers := system.answers ++ [answer] } where
  run := h.run
  accepting upgrade hmem username hstage := by
    rcases h.accepting upgrade hmem username hstage with ⟨channel, hconfirmed⟩
    exact ⟨channel, hconfirmed.append _⟩
  sessions id session hlookup := by
    rcases h.sessions id session hlookup with ⟨channel, upgrade, hmem, hid, hroom, hconfirmed⟩
    exact ⟨channel, upgrade, hmem, hid, hroom, hconfirmed.append _⟩
  spelled := h.spelled

/-- An event of a session adds at most the session of a confirmed upgrade. -/
theorem Sound.signal (h : Sound parseInt spelling system) {event : ServerEvent}
    {signaling : SignalingSystem} (hact : system.signaling.act event = some signaling)
    (haccept : ∀ random roomId username, event = .accept random roomId username →
      ∃ channel, AuthorisedFor parseInt system (generateId random) roomId username channel) :
    Sound parseInt spelling { system with signaling } where
  run := h.run.snoc ⟨event, hact⟩
  accepting := h.accepting
  sessions id session hlookup := by
    rcases SignalingSystem.session_of_act hact hlookup with
      ⟨old, hold, hroom, husername⟩ | ⟨random, hevent, rfl⟩
    · rw [← hroom, ← husername]
      exact h.sessions id old hold
    · exact haccept random _ _ hevent
  spelled := h.spelled

/-- A request arrives; its room is spelled as the others. -/
theorem Sound.upgrade (h : Sound parseInt spelling system) {upgrade : Upgrade}
    (hstage : ∀ username, upgrade.stage ≠ .accepting username)
    (hspelled : ∀ channel, parseInt upgrade.roomId.value = some channel →
      upgrade.roomId.value = spelling channel) :
    Sound parseInt spelling { system with upgrades := system.upgrades ++ [upgrade] } where
  run := h.run
  accepting other hmem username hother := by
    rcases List.mem_append.mp hmem with hmem | hmem
    · exact h.accepting other hmem username hother
    · rw [List.mem_singleton.mp hmem] at hother
      exact absurd hother (hstage username)
  sessions id session hlookup := by
    rcases h.sessions id session hlookup with ⟨channel, other, hmem, hother⟩
    exact ⟨channel, other, List.mem_append_left _ hmem, hother⟩
  spelled other hmem := by
    rcases List.mem_append.mp hmem with hmem | hmem
    · exact h.spelled other hmem
    · rw [List.mem_singleton.mp hmem]
      exact hspelled

/-- Every action keeps the invariant. -/
theorem Sound.step (h : Sound parseInt spelling system) {action : AuthorizingAction}
    (hspelled : SpelledAs parseInt spelling action)
    (hact : act parseInt system action = some next) : Sound parseInt spelling next := by
  cases action with
  | upgrade random target authorization =>
      rw [act, Option.some.injEq] at hact
      rw [← hact]
      refine h.upgrade (fun username => ?_) fun channel hparse => hspelled channel hparse
      dsimp only
      split <;> simp
  | reply index reply =>
      rw [act] at hact
      split at hact
      · contradiction
      · rename_i upgrade hindex
        split at hact
        · cases reply with
          | none =>
              rw [← Option.some.inj hact]
              exact h.setStage hindex (by simp)
          | some reply =>
              dsimp only at hact
              by_cases hchannel : reply.status = 200 →
                  (accessChannel parseInt (accessTarget upgrade.roomId.value)).isSome = true
              · rw [if_pos hchannel, Option.some.injEq] at hact
                rw [← hact]
                apply (h.answer _).setStage hindex
                intro username hstage
                cases hidentity : reply.identity with
                | none =>
                    rw [hidentity] at hstage
                    contradiction
                | some found =>
                    rw [hidentity] at hstage
                    obtain rfl := UpgradeStage.accepting.inj hstage
                    have hstatus : reply.status = 200 := by
                      by_contra hother
                      rw [ApiReply.identity, if_neg hother] at hidentity
                      contradiction
                    rcases Option.isSome_iff_exists.mp (hchannel hstatus) with
                      ⟨channel, hfound⟩
                    exact ⟨channel, ⟨_, upgrade.token, reply⟩,
                      List.mem_append_right _ (List.mem_singleton_self _), rfl, rfl, hstatus,
                      hidentity, hfound⟩
              · rw [if_neg hchannel] at hact
                contradiction
        · contradiction
  | accepted index failed =>
      rw [act] at hact
      split at hact
      · contradiction
      · rename_i upgrade hindex
        split at hact
        · rename_i username hstage
          cases failed with
          | true =>
              rw [if_pos rfl, Option.some.injEq] at hact
              rw [← hact]
              exact h.setStage hindex (by simp)
          | false =>
              rw [if_neg Bool.false_ne_true] at hact
              rcases Option.map_eq_some_iff.mp hact with ⟨signaling, hsignaling, rfl⟩
              have hmem := List.mem_of_getElem? hindex
              rcases h.accepting upgrade hmem username hstage with ⟨channel, hconfirmed⟩
              apply (h.signal hsignaling ?_).setStage hindex (by simp)
              intro random roomId name hevent
              obtain ⟨rfl, rfl, rfl⟩ := ServerEvent.accept.inj hevent
              exact ⟨channel, upgrade, hmem, rfl, rfl, hconfirmed⟩
        · contradiction
  | event event =>
      unfold act at hact
      dsimp only at hact
      split at hact
      · contradiction
      · rename_i hother
        rcases Option.map_eq_some_iff.mp hact with ⟨signaling, hsignaling, rfl⟩
        apply h.signal hsignaling
        intro random roomId username hevent
        exact absurd hevent (hother random roomId username)

/-- One action in which channels are spelled in one way. -/
def Step (parseInt : Bytes → Option ℕ) (spelling : ℕ → Bytes) (system next : AuthorizingServer) :
    Prop :=
  ∃ action, SpelledAs parseInt spelling action ∧ act parseInt system action = some next

/-- Nobody has connected. -/
def Initial (system : AuthorizingServer) : Prop :=
  system = {}

theorem sound_of_reachable
    (h : Reachable Initial (Step parseInt spelling) system) : Sound parseInt spelling system := by
  apply Reachable.invariant _ _ h
  · rintro state rfl
    refine ⟨Reachable.start rfl, ?_, ?_, ?_⟩ <;> simp
  · rintro state next - hsound ⟨action, hspelled, hact⟩
    exact hsound.step hspelled hact

/-- A session of a room. -/
def Registered (system : AuthorizingServer) (id : PeerId) (roomId : RoomId)
    (username : Username) : Prop :=
  ∃ room, system.signaling.server.rooms.lookup roomId = some room ∧
    room.sessions.lookup id = some username

/-- Rooms are the channels that the API has confirmed. -/
structure RoomsAgree (parseInt : Bytes → Option ℕ) (system : AuthorizingServer) : Prop where
  authorised : ∀ id roomId username, Registered system id roomId username →
    ∃ channel, AuthorisedFor parseInt system id roomId username channel
  agree : ∀ id roomId username channel other otherRoom otherName otherChannel,
    Registered system id roomId username → Registered system other otherRoom otherName →
      AuthorisedFor parseInt system id roomId username channel →
        AuthorisedFor parseInt system other otherRoom otherName otherChannel →
          (roomId = otherRoom ↔ channel = otherChannel)

/-- In every run every registered session was authorised, and two are in one room
exactly if they were authorised for one channel, as long as a channel is spelled in
one way. -/
theorem rooms_agree (parseInt : Bytes → Option ℕ) (spelling : ℕ → Bytes)
    {system : AuthorizingServer}
    (h : Reachable Initial (Step parseInt spelling) system) : RoomsAgree parseInt system := by
  have hsound := sound_of_reachable h
  have hregistry := SignalingSystem.registry_of_reachable hsound.run
  constructor
  · rintro id roomId username ⟨room, hroom, hmember⟩
    rcases hregistry.member roomId room id username hroom hmember with
      ⟨session, hsession, rfl, rfl, -⟩
    exact hsound.sessions id session hsession
  · rintro id roomId username channel other otherRoom otherName otherChannel - -
      ⟨upgrade, hmem, -, rfl, hconfirmed⟩ ⟨second, hsecond, -, rfl, hotherConfirmed⟩
    have hparse := hconfirmed.parseInt_eq
    have hotherParse := hotherConfirmed.parseInt_eq
    constructor
    · intro hroom
      rw [hroom, hotherParse] at hparse
      exact (Option.some.inj hparse).symm
    · rintro rfl
      have hspelled := hsound.spelled upgrade hmem channel hparse
      have hotherSpelled := hsound.spelled second hsecond channel hotherParse
      have hvalue := hspelled.trans hotherSpelled.symm
      cases hfirst : upgrade.roomId
      cases hlast : second.roomId
      rw [hfirst, hlast] at hvalue
      exact congrArg RoomId.mk hvalue

instance (action : AuthorizingAction) : Decidable (SpelledAs parseInt spelling action) := by
  cases action with
  | upgrade random target authorization =>
      exact decidable_of_iff (∀ channel ∈ parseInt (parseRoomId target).value,
        (parseRoomId target).value = spelling channel) Iff.rfl
  | _ => exact isTrue trivial

/-- `int()` of ASCII text; a negative integer is no channel. -/
def pythonInt (value : Bytes) : Option ℕ :=
  let isSpace : UInt8 → Bool := fun byte => byte = 32 ∨ 9 ≤ byte ∧ byte ≤ 13
  let stripped := ((value.dropWhile isSpace).reverse.dropWhile isSpace).reverse
  let unsigned := if stripped.head? = some 43 then stripped.tail else stripped
  let groups := unsigned.splitOn 95
  if groups.all fun group => group ≠ [] && group.all fun byte => 48 ≤ byte && byte ≤ 57 then
    some (groups.flatten.foldl (fun number byte => 10 * number + (byte.toNat - 48)) 0)
  else none

example : pythonInt (text "05") = some 5 := by decide

/-- The answer for a user. -/
def confirming (username : String) : ApiReply where
  status := 200
  body := some (.object [(text "username", .string (text username))])

/-- Two users upgrade to these targets, one after the other. -/
def upgradeActions (first second : String) : List AuthorizingAction :=
  [.upgrade 1 (text first) (text "Bearer a"), .upgrade 2 (text second) (text "Bearer b"),
    .reply 1 (some (confirming "bob")), .reply 0 (some (confirming "ann")),
    .accepted 0 false, .accepted 1 false]

/-- The digits of a channel as the API writes them. -/
def canonical (channel : ℕ) : Bytes :=
  text (toString channel)

def oneRoom : AuthorizingServer :=
  (execute (fun _ action => SpelledAs pythonInt canonical action) (act pythonInt) {}
    (upgradeActions "/channels/5" "/channels/5/")).getD {}

theorem reachable_oneRoom : Reachable Initial (Step pythonInt canonical) oneRoom :=
  Reachable.execute (fun _ action _ hspelled hact => ⟨action, hspelled, hact⟩)
    (Reachable.start rfl) (execute_eq_some_getD (by decide +kernel))

theorem oneRoom_agrees : RoomsAgree pythonInt oneRoom :=
  rooms_agree pythonInt canonical reachable_oneRoom

def twoRooms : AuthorizingServer :=
  (execute (fun _ _ => True) (act pythonInt) {}
    (upgradeActions "/channels/5" "/channels/05")).getD {}

theorem registered_of_lookup {id : PeerId} {roomId : RoomId} {username : Username}
    (h : ((system.signaling.server.rooms.lookup roomId).bind fun room =>
      room.sessions.lookup id) = some username) : Registered system id roomId username :=
  Option.bind_eq_some_iff.mp h

/-- Two members of one channel are in two rooms. -/
theorem one_channel_two_rooms :
    Reachable Initial (fun state next => ∃ action, act pythonInt state action = some next)
      twoRooms ∧ ¬ RoomsAgree pythonInt twoRooms := by
  refine ⟨Reachable.execute (fun _ action _ _ hact => ⟨action, hact⟩)
    (Reachable.start rfl) (execute_eq_some_getD (by decide +kernel)), fun hagrees => ?_⟩
  have hfirst : Registered twoRooms (generateId 1) ⟨text "5"⟩ ⟨text "ann"⟩ :=
    registered_of_lookup (by decide +kernel)
  have hsecond : Registered twoRooms (generateId 2) ⟨text "05"⟩ ⟨text "bob"⟩ :=
    registered_of_lookup (by decide +kernel)
  rcases hagrees.authorised _ _ _ hfirst with ⟨channel, hauthorised⟩
  rcases hagrees.authorised _ _ _ hsecond with ⟨otherChannel, hotherAuthorised⟩
  have hchannel : channel = 5 := by
    rcases hauthorised with ⟨upgrade, -, -, hroom, hconfirmed⟩
    have hparse := hconfirmed.parseInt_eq
    rw [hroom] at hparse
    exact (Option.some.inj hparse).symm
  have hotherChannel : otherChannel = 5 := by
    rcases hotherAuthorised with ⟨upgrade, -, -, hroom, hconfirmed⟩
    have hparse := hconfirmed.parseInt_eq
    rw [hroom] at hparse
    exact (Option.some.inj hparse).symm
  have hroom := (hagrees.agree _ _ _ _ _ _ _ _ hfirst hsecond hauthorised hotherAuthorised).mpr
    (hchannel.trans hotherChannel.symm)
  revert hroom
  decide

end AuthorizingServer

end Server
end Driscord
