import Driscord.Client.Transport
import Driscord.Server.Serialisation

/-!
# Rosters

A session gets a snapshot of its room in the welcome and hears of every change
after it.  Its client folds these messages, and once it has handled all that were
queued to it, it knows its room as the server does.

Main results:

- Theorem `Informed.step`: every event keeps the clients informed.
- Theorem `rosters_agree`: in every run each open session's client agrees with the
  server.
-/

namespace Driscord
namespace Server

open Library Signaling Client

/-! ## Inboxes -/

/-- The messages among these that go to a session. -/
def sentTo (sends : Sends) (id : PeerId) : List Message :=
  (sends.filter fun sent => sent.1 = id).map Prod.snd

@[simp]
theorem sentTo_append (first second : Sends) (id : PeerId) :
    sentTo (first ++ second) id = sentTo first id ++ sentTo second id := by
  simp [sentTo]

/-- What each of some recipients gets. -/
theorem sentTo_flatMap {recipients : List PeerId} (hnodup : recipients.Nodup)
    (messages : List Message) (id : PeerId) :
    sentTo (recipients.flatMap fun recipient => messages.map fun message => (recipient, message))
      id = if id ∈ recipients then messages else [] := by
  have hone : ∀ recipient, sentTo (messages.map fun message => (recipient, message)) id =
      if recipient = id then messages else [] := by
    intro recipient
    by_cases hsame : recipient = id
    · simp [sentTo, hsame, List.filter_map, Function.comp_def]
    · simp [sentTo, hsame, List.filter_map, Function.comp_def]
  induction recipients with
  | nil => rfl
  | cons recipient recipients ih =>
      rw [List.nodup_cons] at hnodup
      rw [List.flatMap_cons, sentTo_append, hone, ih hnodup.2]
      by_cases hsame : recipient = id
      · subst hsame
        simp [hnodup.1]
      · have hne : id ≠ recipient := fun h => hsame h.symm
        simp [hsame, hne]

theorem sentTo_of_sendTo {recipients : List PeerId} (hnodup : recipients.Nodup)
    {message : Message} {sends : Sends} (h : sendTo recipients message = Except.ok sends)
    (id : PeerId) : sentTo sends id = if id ∈ recipients then [message] else [] := by
  rw [mem_of_sendTo h, ← sentTo_flatMap hnodup [message] id]
  congr 1
  exact List.map_eq_flatMap

/-- The messages queued to a session. -/
def inbox (log : List LogEntry) (id : PeerId) : List Message :=
  log.filterMap fun entry =>
    match entry with
    | LogEntry.sent recipient message => if recipient = id then some message else none
    | LogEntry.unregistered _ => none

theorem inbox_sends (log : List LogEntry) (sends : Sends) (id : PeerId) :
    inbox (log ++ sends.map fun sent => LogEntry.sent sent.1 sent.2) id =
      inbox log id ++ sentTo sends id := by
  rw [inbox, List.filterMap_append, inbox]
  congr 1
  induction sends with
  | nil => rfl
  | cons sent sends ih =>
      by_cases hsame : sent.1 = id
      · simp [hsame, sentTo, ih]
      · simp [hsame, sentTo, ih]

theorem inbox_unregistered (log : List LogEntry) (other id : PeerId) :
    inbox (log ++ [LogEntry.unregistered other]) id = inbox log id := by
  simp [inbox]

/-! ## Agreement with a room -/

/-- The client of a session knows its room. -/
structure Agrees (room : Room) (id : PeerId) (roster : Roster) : Prop where
  peers : ∀ other, other ∈ roster.transport.peers ↔ other ∈ room.sessions ∧ other ≠ id
  usernames : ∀ other, other ≠ id →
    roster.transport.peerUsername other = (room.sessions.lookup other).getD ⟨[]⟩
  streaming : ∀ other, other ∈ roster.streaming ↔ other ∈ room.streamingPeers ∧ other ≠ id

namespace Agrees

variable {room : Room} {id other : PeerId} {roster : Roster}

theorem congr {changed : Room} (h : Agrees room id roster)
    (hsessions : changed.sessions = room.sessions)
    (hstreaming : changed.streamingPeers = room.streamingPeers) : Agrees changed id roster := by
  refine ⟨?_, ?_, ?_⟩
  · rw [hsessions]
    exact h.peers
  · rw [hsessions]
    exact h.usernames
  · rw [hstreaming]
    exact h.streaming

/-- The welcome tells a new session of the room. -/
theorem welcome (room : Room) {id : PeerId} (hnew : id ∉ room.sessions)
    (hidle : id ∉ room.streamingPeers) (username : Username) :
    Agrees { room with sessions := room.sessions.insert id username } id
      (({} : Roster).handle (Message.welcome id room.identities room.streamingPeers)) := by
  have hids : room.identities.map PeerIdentity.id = room.sessions.keys := by
    simp only [Room.identities, List.map_map]
    rfl
  have hnodup : (room.identities.map PeerIdentity.id).Nodup := by
    rw [hids]
    exact room.sessions.keys_nodup
  rcases Roster.handle_welcome id hnodup room.streamingPeers with
    ⟨hpeers, hnames, hothers, hstreaming⟩
  refine ⟨?_, ?_, ?_⟩
  · intro other
    rw [hpeers, hids, AList.mem_insert]
    constructor
    · intro hmem
      exact ⟨Or.inr (AList.mem_keys.mpr hmem), fun hsame => hnew (hsame ▸ AList.mem_keys.mpr hmem)⟩
    · rintro ⟨hsame | hmem, hne⟩
      · exact absurd hsame hne
      · exact AList.mem_keys.mp hmem
  · intro other hne
    rw [AList.lookup_insert_ne hne]
    cases hlookup : room.sessions.lookup other with
    | none =>
        apply hothers
        rw [hids]
        intro hmem
        exact AList.lookup_eq_none.mp hlookup (AList.mem_keys.mpr hmem)
    | some name =>
        have hpeer : (⟨other, name⟩ : PeerIdentity) ∈ room.identities :=
          List.mem_map.mpr ⟨⟨other, name⟩, AList.mem_lookup_iff.mp hlookup, rfl⟩
        exact hnames _ hpeer
  · intro other
    rw [hstreaming]
    exact ⟨fun hmem => ⟨hmem, fun hsame => hidle (hsame ▸ hmem)⟩, And.left⟩

theorem join (h : Agrees room id roster) (hnew : other ∉ room.sessions) (hne : other ≠ id)
    (username : Username) :
    Agrees { room with sessions := room.sessions.insert other username } id
      (roster.handle (Message.peerJoined other username)) := by
  rcases Roster.foldl_joinUpdates roster other username with ⟨hpeers, hstreaming, _⟩
  have hunknown : roster.transport.peerUsername other = ⟨[]⟩ := by
    rw [h.usernames other hne, AList.lookup_eq_none.mpr hnew]
    rfl
  refine ⟨?_, ?_, ?_⟩
  · intro peer
    rw [Roster.handle, messageUpdates, hpeers, Finset.mem_insert, h.peers, AList.mem_insert]
    constructor
    · rintro (rfl | ⟨hmem, hpeer⟩)
      · exact ⟨Or.inl rfl, hne⟩
      · exact ⟨Or.inr hmem, hpeer⟩
    · rintro ⟨hsame | hmem, hpeer⟩
      · exact Or.inl hsame
      · exact Or.inr ⟨hmem, hpeer⟩
  · intro peer hpeer
    rw [Roster.handle, messageUpdates, Roster.peerUsername_join roster username hunknown]
    split
    · rename_i hsame
      rw [hsame, AList.lookup_insert, Option.getD_some]
    · rename_i hother
      rw [AList.lookup_insert_ne hother]
      exact h.usernames peer hpeer
  · intro peer
    rw [Roster.handle, messageUpdates, hstreaming]
    exact h.streaming peer

theorem start (h : Agrees room id roster) (hne : other ≠ id) :
    Agrees { room with streamingPeers := List.insert other room.streamingPeers } id
      (roster.handle (Message.streamingStart (some other))) := by
  refine ⟨h.peers, h.usernames, ?_⟩
  intro peer
  have hhear : (roster.handle (Message.streamingStart (some other))).streaming =
      insert other roster.streaming := rfl
  rw [hhear, Finset.mem_insert, h.streaming, List.mem_insert_iff]
  constructor
  · rintro (rfl | ⟨hmem, hpeer⟩)
    · exact ⟨Or.inl rfl, hne⟩
    · exact ⟨Or.inr hmem, hpeer⟩
  · rintro ⟨hsame | hmem, hpeer⟩
    · exact Or.inl hsame
    · exact Or.inr ⟨hmem, hpeer⟩

/-- A session does not hear of its own stream. -/
theorem start_self (h : Agrees room id roster) :
    Agrees { room with streamingPeers := List.insert id room.streamingPeers } id roster := by
  refine ⟨h.peers, h.usernames, ?_⟩
  intro peer
  rw [h.streaming, List.mem_insert_iff]
  tauto

theorem stop (h : Agrees room id roster) :
    Agrees { room with streamingPeers := room.streamingPeers.filter (· ≠ other) } id
      (roster.handle (Message.streamingStop (some other))) := by
  refine ⟨h.peers, h.usernames, ?_⟩
  intro peer
  have hhear : (roster.handle (Message.streamingStop (some other))).streaming =
      roster.streaming.erase other := rfl
  rw [hhear, Finset.mem_erase, h.streaming, List.mem_filter, decide_eq_true_eq]
  tauto

theorem stop_self (h : Agrees room id roster) :
    Agrees { room with streamingPeers := room.streamingPeers.filter (· ≠ id) } id roster := by
  refine ⟨h.peers, h.usernames, ?_⟩
  intro peer
  rw [h.streaming, List.mem_filter, decide_eq_true_eq]
  tauto

/-- The farewell of a session. -/
theorem leave (h : Agrees room id roster) :
    Agrees (room.leave other) id ((room.farewellMessages other).foldl Roster.handle roster) := by
  have hsplit : (room.farewellMessages other).foldl Roster.handle roster =
      (if other ∈ room.streamingPeers then
        roster.handle (Message.streamingStop (some other)) else roster).handle
          (Message.peerLeft other) := by
    unfold Room.farewellMessages
    split <;> rfl
  have hstopped : ∀ before : Roster, before.transport = roster.transport →
      before.streaming.erase other = roster.streaming.erase other →
        Agrees (room.leave other) id (before.handle (Message.peerLeft other)) := by
    intro before htransport hstreaming
    rcases Roster.handle_peerLeft before other with ⟨hpeers, hheard, hnames⟩
    refine ⟨?_, ?_, ?_⟩
    · intro peer
      rw [hpeers, htransport, Finset.mem_erase, h.peers, Room.leave, AList.mem_erase]
      tauto
    · intro peer hpeer
      rw [hnames]
      split
      · rename_i hsame
        rw [hsame, Room.lookup_leave_self]
        rfl
      · rename_i hother
        rw [htransport, Room.lookup_leave_ne room hother]
        exact h.usernames peer hpeer
    · intro peer
      rw [hheard, hstreaming, Finset.mem_erase, h.streaming, Room.leave, List.mem_filter,
        decide_eq_true_eq]
      tauto
  rw [hsplit]
  split
  · exact hstopped _ rfl (Finset.erase_idem)
  · exact hstopped _ rfl rfl

end Agrees

/-! ## Informed clients -/

/-- The sessions that a message tells of.  A rejection only repeats the name that
its receiver has asked for. -/
def concerns : Message → List PeerId
  | Message.welcome id peers streamingPeers =>
      id :: (peers.map PeerIdentity.id ++ streamingPeers)
  | Message.peerJoined id _ | Message.peerLeft id => [id]
  | Message.streamingStart sender | Message.streamingStop sender => sender.toList
  | _ => []

/-- What a client knows after it has handled all messages queued to its session. -/
def view (log : List LogEntry) (id : PeerId) : Roster :=
  (inbox log id).foldl Roster.handle {}

namespace SignalingSystem

/-- The session is one of the room of the other session. -/
def Neighbours (system : SignalingSystem) (id other : PeerId) : Prop :=
  ∃ session neighbour, system.sessions.lookup id = some session ∧
    system.sessions.lookup other = some neighbour ∧ neighbour.roomId = session.roomId

/-- A message may be sent to a session. -/
structure Proper (system : SignalingSystem) (id : PeerId) (message : Message) : Prop where
  wellFormed : message.WellFormed
  valid : message.strings.all validUtf8 = true
  accepted : ∃ session, system.sessions.lookup id = some session
  neighbours : ∀ other ∈ concerns message, system.Neighbours id other

/-- Every client knows its room. -/
structure Informed (system : SignalingSystem) : Prop where
  registry : Registry system
  opened : system.server.stopping = false
  agrees : ∀ roomId room, system.server.rooms.lookup roomId = some room →
    ∀ id ∈ room.sessions, Agrees room id (view system.log id)
  welcomed : ∀ roomId room, system.server.rooms.lookup roomId = some room →
    ∀ id ∈ room.sessions, ∃ peers streamingPeers later,
      inbox system.log id = Message.welcome id peers streamingPeers :: later
  proper : ∀ id, ∀ message ∈ inbox system.log id, system.Proper id message

variable {system : SignalingSystem}

theorem informed_initial : Informed {} where
  registry := registry_initial
  opened := rfl
  agrees _ _ h := by simp at h
  welcomed _ _ h := by simp at h
  proper _ _ h := absurd h List.not_mem_nil

/-- The sessions stay in their rooms. -/
def Keeps (system next : SignalingSystem) : Prop :=
  ∀ id session, system.sessions.lookup id = some session →
    ∃ kept, next.sessions.lookup id = some kept ∧ kept.roomId = session.roomId

theorem Proper.keep {next : SignalingSystem} (hkeeps : Keeps system next) {id : PeerId}
    {message : Message} (h : system.Proper id message) : next.Proper id message := by
  rcases h.accepted with ⟨session, hsession⟩
  refine ⟨h.wellFormed, h.valid, ?_, ?_⟩
  · rcases hkeeps id session hsession with ⟨kept, hkept, _⟩
    exact ⟨kept, hkept⟩
  · intro other hother
    rcases h.neighbours other hother with ⟨first, second, hfirst, hsecond, hsame⟩
    rcases hkeeps id first hfirst with ⟨first', hfirst', hroom⟩
    rcases hkeeps other second hsecond with ⟨second', hsecond', hroom'⟩
    exact ⟨first', second', hfirst', hsecond', hroom'.trans (hsame.trans hroom.symm)⟩

/-- Changes of the rooms of which every member hears keep the clients informed. -/
theorem Informed.tell (h : Informed system) {next : SignalingSystem} (hregistry : Registry next)
    (hopened : next.server.stopping = false) (hkeeps : Keeps system next)
    (messages : PeerId → List Message)
    (hinbox : ∀ id, inbox next.log id = inbox system.log id ++ messages id)
    (hproper : ∀ id, ∀ message ∈ messages id, next.Proper id message)
    (hrooms : ∀ roomId changed, next.server.rooms.lookup roomId = some changed →
      ∀ id ∈ changed.sessions,
        (∃ room, system.server.rooms.lookup roomId = some room ∧ id ∈ room.sessions ∧
          ∀ roster, Agrees room id roster →
            Agrees changed id ((messages id).foldl Roster.handle roster)) ∨
        (inbox system.log id = [] ∧ ∃ peers streamingPeers,
          messages id = [Message.welcome id peers streamingPeers] ∧
          Agrees changed id
            (({} : Roster).handle (Message.welcome id peers streamingPeers)))) :
    Informed next := by
  refine ⟨hregistry, hopened, ?_, ?_, ?_⟩
  · intro roomId changed hchanged id hid
    rw [view, hinbox, List.foldl_append]
    rcases hrooms roomId changed hchanged id hid with
      ⟨room, hroom, hmem, hagrees⟩ | ⟨hempty, peers, streamingPeers, hmessages, hagrees⟩
    · exact hagrees _ (h.agrees roomId room hroom id hmem)
    · rw [hempty, hmessages]
      exact hagrees
  · intro roomId changed hchanged id hid
    rw [hinbox]
    rcases hrooms roomId changed hchanged id hid with
      ⟨room, hroom, hmem, _⟩ | ⟨hempty, peers, streamingPeers, hmessages, _⟩
    · rcases h.welcomed roomId room hroom id hmem with ⟨peers, streamingPeers, later, hlater⟩
      exact ⟨peers, streamingPeers, later ++ messages id, by rw [hlater]; rfl⟩
    · exact ⟨peers, streamingPeers, [], by rw [hempty, hmessages]; rfl⟩
  · intro id message hmessage
    rw [hinbox] at hmessage
    rcases List.mem_append.mp hmessage with hold | hnew
    · exact (h.proper id message hold).keep hkeeps
    · exact hproper id message hnew

/-- A member of a room is an open session that was accepted into it. -/
theorem Registry.session_of_mem (h : Registry system) {roomId : RoomId} {room : Room}
    (hroom : system.server.rooms.lookup roomId = some room) {id : PeerId}
    (hid : id ∈ room.sessions) :
    ∃ session, system.sessions.lookup id = some session ∧ session.roomId = roomId := by
  rcases Table.mem_iff_exists_lookup.mp hid with ⟨username, husername⟩
  rcases h.member roomId room id username hroom husername with ⟨session, hsession, hroomId, _⟩
  exact ⟨session, hsession, hroomId⟩

/-- What does not concern the rosters keeps the clients informed. -/
theorem Informed.unchanged (h : Informed system) {next : SignalingSystem}
    (hregistry : Registry next) (hopened : next.server.stopping = false)
    (hkeeps : Keeps system next) (hinbox : ∀ id, inbox next.log id = inbox system.log id)
    (hrooms : ∀ roomId changed, next.server.rooms.lookup roomId = some changed →
      ∃ room, system.server.rooms.lookup roomId = some room ∧
        changed.sessions = room.sessions ∧ changed.streamingPeers = room.streamingPeers) :
    Informed next := by
  have hnothing : ∀ id, inbox next.log id = inbox system.log id ++ (fun _ => []) id := by
    intro id
    rw [hinbox, List.append_nil]
  apply h.tell hregistry hopened hkeeps (fun _ => []) hnothing
  · intro id message hmessage
    exact absurd hmessage List.not_mem_nil
  · intro roomId changed hchanged id hid
    rcases hrooms roomId changed hchanged with ⟨room, hroom, hsessions, hstreaming⟩
    refine Or.inl ⟨room, hroom, hsessions ▸ hid, ?_⟩
    exact fun roster hagrees => hagrees.congr hsessions hstreaming

theorem keeps_conclude (result : WebSocketServer × Except JsonError Sends) :
    Keeps system (system.conclude result) := by
  intro id session hsession
  exact ⟨session, by rwa [sessions_conclude], rfl⟩

/-- A session that only changes its flags. -/
theorem keeps_insert {id : PeerId} {session changed : Session} {next : SignalingSystem}
    (hsession : system.sessions.lookup id = some session)
    (hnext : next.sessions = system.sessions.insert id changed)
    (hroom : changed.roomId = session.roomId) : Keeps system next := by
  intro other found hfound
  rw [hnext]
  by_cases hsame : other = id
  · subst hsame
    rw [hsession, Option.some.injEq] at hfound
    exact ⟨changed, AList.lookup_insert _, by rw [hroom, hfound]⟩
  · exact ⟨found, by rw [AList.lookup_insert_ne hsame, hfound], rfl⟩

/-- A session whose inbox holds something was accepted. -/
theorem Informed.inbox_of_fresh (h : Informed system) {id : PeerId}
    (hfresh : system.sessions.lookup id = none) : inbox system.log id = [] := by
  cases hinbox : inbox system.log id with
  | nil => rfl
  | cons message later =>
      have hmessage : message ∈ inbox system.log id := by
        rw [hinbox]
        exact List.mem_cons_self
      rcases (h.proper id message hmessage).accepted with ⟨session, hsession⟩
      rw [hfresh] at hsession
      contradiction

/-- The message of a stream reaches the other members of the room. -/
theorem Informed.broadcast (h : Informed system) {id : PeerId} {session : Session}
    (hsession : system.sessions.lookup id = some session) (f : Room → Room)
    (hf : ∀ room, (f room).sessions = room.sessions) (message : Message)
    (hwell : message.WellFormed) (hvalid : message.strings.all validUtf8 = true)
    (hconcerns : concerns message = [id])
    (hagrees : ∀ room other roster, Agrees room other roster →
      Agrees (f room) other (if other = id then roster else roster.handle message))
    (hregistry : Registry (system.conclude (system.server.inRoom session.roomId f,
      (system.server.inRoom session.roomId f).broadcast id session.roomId message))) :
    Informed (system.conclude (system.server.inRoom session.roomId f,
      (system.server.inRoom session.roomId f).broadcast id session.roomId message)) := by
  cases hroom : system.server.rooms.lookup session.roomId with
  | none =>
      have hlookup : ∀ other, (system.server.inRoom session.roomId f).rooms.lookup other =
          system.server.rooms.lookup other := by
        intro other
        rw [WebSocketServer.inRoom, Table.lookup_modify]
        by_cases hsame : other = session.roomId
        · rw [hsame, hroom, Option.map_none]
        · cases system.server.rooms.lookup other with
          | none => rfl
          | some room => rw [Option.map_some, if_neg hsame]
      have hsends : (system.server.inRoom session.roomId f).broadcast id session.roomId message =
          Except.ok [] := by
        rw [WebSocketServer.broadcast, hlookup, hroom]
        exact sendTo_eq_ok hvalid []
      rw [hsends] at hregistry ⊢
      apply h.unchanged hregistry h.opened (keeps_conclude _)
      · intro other
        rw [← List.append_nil (inbox system.log other)]
        exact inbox_sends system.log [] other
      · intro roomId changed hchanged
        rw [rooms_conclude, hlookup] at hchanged
        exact ⟨changed, hchanged, rfl, rfl⟩
  | some room =>
      have hlookup : (system.server.inRoom session.roomId f).rooms.lookup session.roomId =
          some (f room) := by
        rw [WebSocketServer.inRoom, Table.lookup_modify, hroom, Option.map_some, if_pos rfl]
      have hothers : (f room).others id = room.others id := by
        rw [Room.others, hf, Room.others]
      have hsends : (system.server.inRoom session.roomId f).broadcast id session.roomId message =
          Except.ok ((room.others id).map fun recipient => (recipient, message)) := by
        rw [WebSocketServer.broadcast, hlookup, Option.map_some, Option.getD_some, hothers]
        exact sendTo_eq_ok hvalid _
      have hmember : ∀ other, other ∈ room.sessions → ∃ found,
          system.sessions.lookup other = some found ∧ found.roomId = session.roomId :=
        fun other hother => h.registry.session_of_mem hroom hother
      rw [hsends] at hregistry ⊢
      refine h.tell hregistry h.opened (keeps_conclude _)
        (fun other => if other ∈ room.others id then [message] else []) ?_ ?_ ?_
      · intro other
        have hnodup : (room.others id).Nodup := room.sessions.keys_nodup.filter _
        rw [← sentTo_of_sendTo hnodup (sendTo_eq_ok hvalid _) other]
        exact inbox_sends system.log _ other
      · intro other told htold
        by_cases hother : other ∈ room.others id
        · rw [if_pos hother, List.mem_singleton] at htold
          subst htold
          rcases hmember other (mem_others.mp hother).1 with ⟨found, hfound, hroomId⟩
          refine Proper.keep (keeps_conclude _) ⟨hwell, hvalid, ⟨found, hfound⟩, ?_⟩
          intro named hnamed
          rw [hconcerns, List.mem_singleton] at hnamed
          rw [hnamed]
          exact ⟨found, session, hfound, hsession, hroomId.symm⟩
        · rw [if_neg hother] at htold
          exact absurd htold List.not_mem_nil
      · intro roomId changed hchanged other hother
        left
        rw [rooms_conclude, WebSocketServer.inRoom, Table.lookup_modify,
          Option.map_eq_some_iff] at hchanged
        rcases hchanged with ⟨before, hbefore, hsame⟩
        by_cases hhere : roomId = session.roomId
        · subst hhere
          rw [hroom, Option.some.injEq] at hbefore
          rw [if_pos rfl, ← hbefore] at hsame
          subst hsame
          rw [hf] at hother
          refine ⟨room, hroom, hother, ?_⟩
          intro roster hbefore
          have hafter := hagrees room other roster hbefore
          by_cases hself : other = id
          · rw [if_pos hself] at hafter
            rwa [if_neg fun hin => (mem_others.mp hin).2 hself]
          · rw [if_neg hself] at hafter
            rwa [if_pos (mem_others.mpr ⟨hother, hself⟩)]
        · rw [if_neg hhere] at hsame
          subst hsame
          refine ⟨before, hbefore, hother, ?_⟩
          intro roster hagree
          rwa [if_neg]
          intro hin
          rcases hmember other (mem_others.mp hin).1 with ⟨found, hfound, hroomId⟩
          rcases h.registry.session_of_mem hbefore hother with ⟨same, hsame, hroomId'⟩
          rw [hfound, Option.some.injEq] at hsame
          exact hhere (by rw [← hroomId', ← hsame, hroomId])

/-- A message of a client keeps the clients informed. -/
theorem Informed.parsed (h : Informed system) {id : PeerId} {session : Session}
    (hsession : system.sessions.lookup id = some session) {message : Message}
    (hwell : message.WellFormed) (hvalid : message.strings.all validUtf8 = true)
    (hregistry : Registry (system.conclude (onMessage system.server id session.roomId message))) :
    Informed (system.conclude (onMessage system.server id session.roomId message)) := by
  have hid := h.registry.ids id session hsession
  have hnothing : ∀ other, inbox (system.log ++ ([] : Sends).map fun sent =>
      LogEntry.sent sent.1 sent.2) other = inbox system.log other := by
    intro other
    rw [List.map_nil, List.append_nil]
  have hsame : ∀ {roomId : RoomId} {f : Room → Room},
      (∀ room, (f room).sessions = room.sessions) →
      (∀ room, (f room).streamingPeers = room.streamingPeers) →
      ∀ other changed, (system.server.inRoom roomId f).rooms.lookup other = some changed →
        ∃ room, system.server.rooms.lookup other = some room ∧
          changed.sessions = room.sessions ∧ changed.streamingPeers = room.streamingPeers := by
    intro roomId f hsessions hstreaming other changed hchanged
    rw [WebSocketServer.inRoom, Table.lookup_modify, Option.map_eq_some_iff] at hchanged
    rcases hchanged with ⟨room, hroom, rfl⟩
    refine ⟨room, hroom, ?_⟩
    split
    · exact ⟨hsessions room, hstreaming room⟩
    · exact ⟨rfl, rfl⟩
  cases message with
  | streamingStart sender =>
      refine h.broadcast hsession (fun room =>
        { room with streamingPeers := List.insert id room.streamingPeers }) (fun _ => rfl)
        (Message.streamingStart (some id)) ?_ ?_ rfl ?_ hregistry
      · exact fun peer hpeer => Option.some.inj hpeer ▸ hid.2
      · simpa [Message.strings] using hid.1
      · intro room other roster hagrees
        split
        · rename_i hself
          rw [← hself]
          exact hagrees.start_self
        · rename_i hother
          exact hagrees.start fun heq => hother heq.symm
  | streamingStop sender =>
      refine h.broadcast hsession (fun room =>
        { room with streamingPeers := room.streamingPeers.filter (· ≠ id) }) (fun _ => rfl)
        (Message.streamingStop (some id)) ?_ ?_ rfl ?_ hregistry
      · exact fun peer hpeer => Option.some.inj hpeer ▸ hid.2
      · simpa [Message.strings] using hid.1
      · intro room other roster hagrees
        split
        · rename_i hself
          rw [← hself]
          exact hagrees.stop_self
        · exact hagrees.stop
  | watchStart publisher =>
      simp only [onMessage, WebSocketServer.addVideoWatcher] at hregistry ⊢
      cases hroom : system.server.rooms.lookup session.roomId with
      | none =>
          simp only [hroom] at hregistry ⊢
          exact h.unchanged hregistry h.opened (keeps_conclude _) hnothing
            fun roomId room hfound => ⟨room, hfound, rfl, rfl⟩
      | some room =>
          simp only [hroom] at hregistry ⊢
          by_cases hmem : id ∈ room.sessions
          · rw [if_pos hmem] at hregistry ⊢
            cases hrejection : room.watchRejection id publisher with
            | none =>
                simp only [hrejection] at hregistry ⊢
                exact h.unchanged hregistry h.opened (keeps_conclude _) hnothing
                  (hsame (fun _ => rfl) fun _ => rfl)
            | some reason =>
                simp only [hrejection] at hregistry ⊢
                have hsends : sendTo [id] (Message.watchRejected publisher reason) =
                    Except.ok [(id, Message.watchRejected publisher reason)] :=
                  sendTo_eq_ok (by simpa [Message.strings] using hvalid) _
                rw [hsends] at hregistry ⊢
                refine h.tell hregistry h.opened (keeps_conclude _)
                  (fun other => if other = id then [Message.watchRejected publisher reason]
                    else []) ?_ ?_ ?_
                · intro other
                  have hsent := sentTo_of_sendTo (List.nodup_singleton id) hsends other
                  simp only [List.mem_singleton] at hsent
                  rw [← hsent]
                  exact inbox_sends system.log _ other
                · intro other told htold
                  split at htold
                  · rename_i hself
                    rw [List.mem_singleton.mp htold]
                    refine Proper.keep (keeps_conclude _) ⟨hwell, ?_, ?_, ?_⟩
                    · simpa [Message.strings] using hvalid
                    · exact ⟨session, hself ▸ hsession⟩
                    · exact fun named hnamed => absurd hnamed List.not_mem_nil
                  · exact absurd htold List.not_mem_nil
                · intro roomId changed hchanged other hother
                  refine Or.inl ⟨changed, hchanged, hother, ?_⟩
                  intro roster hagrees
                  split <;> exact hagrees
          · rw [if_neg hmem] at hregistry ⊢
            exact h.unchanged hregistry h.opened (keeps_conclude _) hnothing
              fun roomId found hfound => ⟨found, hfound, rfl, rfl⟩
  | watchStop publisher =>
      exact h.unchanged hregistry h.opened (keeps_conclude _) hnothing
        (hsame (fun room => room.sessions_unwatch id publisher)
          fun room => room.streamingPeers_unwatch id publisher)
  | _ =>
      exact h.unchanged hregistry h.opened (keeps_conclude _) hnothing
        fun roomId room hfound => ⟨room, hfound, rfl, rfl⟩

/-- The end of a session keeps the clients informed. -/
theorem Informed.onClose (h : Informed system) {id : PeerId} {session : Session}
    (hsession : system.sessions.lookup id = some session) :
    Informed (system.onClose id session) := by
  have hregistry := h.registry.onClose hsession
  have hid := h.registry.ids id session hsession
  by_cases hclosed : session.closed = true
  · rwa [SignalingSystem.onClose, if_pos hclosed]
  · rcases h.registry.registered h.opened id session hsession (by simpa using hclosed) with
      ⟨room, hroom, hmem⟩
    have hunregister : system.server.unregisterSession id session.roomId =
        some ({ system.server with
            rooms := system.server.roomsWithout id session.roomId room },
          Except.ok ((room.others id).flatMap fun recipient =>
            (room.farewellMessages id).map fun message => (recipient, message))) := by
      rw [WebSocketServer.unregisterSession, hroom]
      simp only [if_pos hmem]
      rw [farewell_eq_ok room hid.1]
    rw [SignalingSystem.onClose, if_neg hclosed] at hregistry ⊢
    simp only [hunregister] at hregistry ⊢
    have hkeeps : Keeps system ({ system with
        sessions := system.sessions.insert id { session with closed := true }
        log := system.log ++ [LogEntry.unregistered id] }.conclude
          ({ system.server with rooms := system.server.roomsWithout id session.roomId room },
            Except.ok ((room.others id).flatMap fun recipient =>
              (room.farewellMessages id).map fun message => (recipient, message)))) :=
      keeps_insert hsession rfl rfl
    refine h.tell hregistry h.opened hkeeps
      (fun other => if other ∈ room.others id then room.farewellMessages id else []) ?_ ?_ ?_
    · intro other
      have hnodup : (room.others id).Nodup := room.sessions.keys_nodup.filter _
      rw [← sentTo_flatMap hnodup, ← inbox_unregistered system.log id other]
      exact inbox_sends _ _ other
    · intro other told htold
      split at htold
      · rename_i hother
        rcases h.registry.session_of_mem hroom (mem_others.mp hother).1 with ⟨found, hfound, hroomId⟩
        have hneighbours : system.Neighbours other id :=
          ⟨found, session, hfound, hsession, hroomId.symm⟩
        apply Proper.keep hkeeps
        rcases List.mem_append.mp htold with hstop | hleft
        · split at hstop
          · rw [List.mem_singleton.mp hstop]
            refine ⟨fun peer hpeer => Option.some.inj hpeer ▸ hid.2, ?_, ⟨found, hfound⟩, ?_⟩
            · simpa [Message.strings] using hid.1
            · intro named hnamed
              rw [List.mem_singleton.mp hnamed]
              exact hneighbours
          · exact absurd hstop List.not_mem_nil
        · rw [List.mem_singleton.mp hleft]
          refine ⟨hid.2, ?_, ⟨found, hfound⟩, ?_⟩
          · simpa [Message.strings] using hid.1
          · intro named hnamed
            rw [List.mem_singleton.mp hnamed]
            exact hneighbours
      · exact absurd htold List.not_mem_nil
    · intro roomId changed hchanged other hother
      left
      rw [rooms_conclude] at hchanged
      by_cases hhere : roomId = session.roomId
      · subst hhere
        rw [lookup_roomsWithout_self] at hchanged
        split at hchanged
        · contradiction
        · rw [Option.some.injEq] at hchanged
          subst hchanged
          rw [Room.leave, AList.mem_erase] at hother
          refine ⟨room, hroom, hother.2, ?_⟩
          intro roster hagrees
          rw [if_pos (mem_others.mpr ⟨hother.2, hother.1⟩)]
          exact hagrees.leave
      · rw [lookup_roomsWithout_ne _ _ _ hhere] at hchanged
        refine ⟨changed, hchanged, hother, ?_⟩
        intro roster hagrees
        rwa [if_neg]
        intro hin
        rcases h.registry.session_of_mem hroom (mem_others.mp hin).1 with ⟨found, hfound, hroomId⟩
        rcases h.registry.session_of_mem hchanged hother with ⟨same, hsame, hroomId'⟩
        rw [hfound, Option.some.injEq] at hsame
        exact hhere (by rw [← hroomId', ← hsame, hroomId])

/-- A session that joins keeps the clients informed. -/
theorem Informed.join (h : Informed system) (hrunning : system.ended = false) {id : PeerId}
    (hfresh : system.sessions.lookup id = none) (hid : validUtf8 id.value = true)
    (hne : id.value ≠ []) (roomId : RoomId) {username : Username}
    (husername : validUtf8 username.value = true)
    (hregistry : Registry ({ system with
      sessions := system.sessions.insert id { roomId, username } }.conclude
        (system.server.registerAndBuildWelcome id roomId username))) :
    Informed ({ system with
      sessions := system.sessions.insert id { roomId, username } }.conclude
        (system.server.registerAndBuildWelcome id roomId username)) := by
  have hvalid : (Message.peerJoined id username).strings.all validUtf8 = true := by
    simp [Message.strings, hid, husername]
  rw [h.registry.registerAndBuildWelcome hrunning h.opened hfresh hid,
    sendTo_eq_ok hvalid] at hregistry ⊢
  have hwelcome := h.registry.welcome hrunning roomId hid
  have hstranger := h.registry.not_member hfresh roomId
  have hkeeps : ∀ other found, system.sessions.lookup other = some found →
      (system.sessions.insert id { roomId, username }).lookup other = some found := by
    intro other found hfound
    have hother : other ≠ id := by
      rintro rfl
      rw [hfresh] at hfound
      contradiction
    rwa [AList.lookup_insert_ne hother]
  have hmember : ∀ other, other ∈ ((system.server.rooms.lookup roomId).getD {}).sessions →
      ∃ room found, system.server.rooms.lookup roomId = some room ∧ other ∈ room.sessions ∧
        system.sessions.lookup other = some found ∧ found.roomId = roomId := by
    intro other hother
    cases hroom : system.server.rooms.lookup roomId with
    | none => simp [hroom] at hother
    | some room =>
        rw [hroom, Option.getD_some] at hother
        rcases h.registry.session_of_mem hroom hother with ⟨found, hfound, hroomId⟩
        exact ⟨room, found, rfl, hother, hfound, hroomId⟩
  have hstreamer : ∀ other,
      other ∈ ((system.server.rooms.lookup roomId).getD {}).streamingPeers →
        ∃ found, system.sessions.lookup other = some found ∧ found.roomId = roomId := by
    intro other hother
    cases hroom : system.server.rooms.lookup roomId with
    | none => simp [hroom] at hother
    | some room =>
        rw [hroom, Option.getD_some] at hother
        exact h.registry.streamer roomId room other hroom hother
  have hidle : id ∉ ((system.server.rooms.lookup roomId).getD {}).streamingPeers := by
    intro hmem
    rcases hstreamer id hmem with ⟨found, hfound, _⟩
    rw [hfresh] at hfound
    contradiction
  have hself : (system.sessions.insert id { roomId, username }).lookup id =
      some { roomId, username } := AList.lookup_insert _
  refine h.tell hregistry h.opened
    (fun other found hfound => ⟨found, hkeeps other found hfound, rfl⟩)
    (fun other =>
      (if other ∈ ((system.server.rooms.lookup roomId).getD {}).sessions.keys then
        [Message.peerJoined id username] else []) ++
      if other = id then [Message.welcome id
        ((system.server.rooms.lookup roomId).getD {}).identities
        ((system.server.rooms.lookup roomId).getD {}).streamingPeers] else []) ?_ ?_ ?_
  · intro other
    have hjoined := sentTo_of_sendTo (AList.keys_nodup _) (sendTo_eq_ok hvalid
      ((system.server.rooms.lookup roomId).getD {}).sessions.keys) other
    have hwelcomed := sentTo_of_sendTo (List.nodup_singleton id) (sendTo_eq_ok hwelcome [id]) other
    simp only [List.mem_singleton, List.map_cons, List.map_nil] at hwelcomed
    rw [← hjoined, ← hwelcomed, ← sentTo_append]
    exact inbox_sends system.log _ other
  · intro other told htold
    rcases List.mem_append.mp htold with hpeer | hown
    · split at hpeer
      · rename_i hother
        rw [List.mem_singleton.mp hpeer]
        rcases hmember other (AList.mem_keys.mpr hother) with
          ⟨_, found, _, _, hfound, hroomId⟩
        refine ⟨hne, hvalid, ⟨found, hkeeps other found hfound⟩, ?_⟩
        intro named hnamed
        rw [List.mem_singleton.mp hnamed]
        exact ⟨found, _, hkeeps other found hfound, hself, hroomId.symm⟩
      · exact absurd hpeer List.not_mem_nil
    · split at hown
      · rename_i hother
        subst hother
        rw [List.mem_singleton.mp hown]
        have hnear : ∀ named found, system.sessions.lookup named = some found →
            found.roomId = roomId → Neighbours ({ system with
              sessions := system.sessions.insert other { roomId, username } }) other named :=
          fun named found hfound hroomId => ⟨_, found, hself, hkeeps named found hfound, hroomId⟩
        have hpeers : ∀ peer ∈ ((system.server.rooms.lookup roomId).getD {}).identities,
            ∃ found, system.sessions.lookup peer.id = some found ∧ found.roomId = roomId := by
          intro peer hpeer
          rcases List.mem_map.mp hpeer with ⟨⟨named, name⟩, hentry, rfl⟩
          rcases hmember named (Table.mem_of_lookup (AList.mem_lookup_iff.mpr hentry)) with
            ⟨_, found, _, _, hfound, hroomId⟩
          exact ⟨found, hfound, hroomId⟩
        refine ⟨⟨hne, ?_, ?_⟩, hwelcome, ⟨_, hself⟩, ?_⟩
        · intro peer hpeer
          rcases hpeers peer hpeer with ⟨found, hfound, _⟩
          exact (h.registry.ids peer.id found hfound).2
        · intro peer hpeer
          rcases hstreamer peer hpeer with ⟨found, hfound, _⟩
          exact (h.registry.ids peer found hfound).2
        · intro named hnamed
          rcases List.mem_cons.mp hnamed with rfl | hlater
          · exact ⟨_, _, hself, hself, rfl⟩
          · rcases List.mem_append.mp hlater with hpeer | hstreaming
            · rcases List.mem_map.mp hpeer with ⟨peer, hmem, rfl⟩
              rcases hpeers peer hmem with ⟨found, hfound, hroomId⟩
              exact hnear peer.id found hfound hroomId
            · rcases hstreamer named hstreaming with ⟨found, hfound, hroomId⟩
              exact hnear named found hfound hroomId
      · exact absurd hown List.not_mem_nil
  · intro other changed hchanged member hmem
    rw [rooms_conclude] at hchanged
    have hnotSelf : ∀ room, system.server.rooms.lookup other = some room →
        member ∈ room.sessions → member ≠ id := by
      rintro room hroom hin rfl
      rcases h.registry.session_of_mem hroom hin with ⟨found, hfound, _⟩
      rw [hfresh] at hfound
      contradiction
    by_cases hhere : other = roomId
    · subst hhere
      rw [joinedRooms, AList.lookup_insert, Option.some.injEq] at hchanged
      subst hchanged
      rcases (AList.mem_insert _).mp hmem with rfl | hold
      · right
        refine ⟨h.inbox_of_fresh hfresh, _, _, ?_, Agrees.welcome _ hstranger hidle username⟩
        have hnotKey : member ∉ ((system.server.rooms.lookup other).getD {}).sessions.keys :=
          fun hin => hstranger (AList.mem_keys.mpr hin)
        rw [if_neg hnotKey, if_pos rfl, List.nil_append]
      · left
        rcases hmember member hold with ⟨room, _, hroom, hin, _, _⟩
        have hne' := hnotSelf room hroom hin
        refine ⟨room, hroom, hin, ?_⟩
        intro roster hagrees
        rw [if_pos (AList.mem_keys.mp hold), if_neg hne', List.append_nil]
        rw [hroom, Option.getD_some] at hstranger ⊢
        exact hagrees.join hstranger (Ne.symm hne') username
    · left
      rw [joinedRooms, AList.lookup_insert_ne hhere] at hchanged
      refine ⟨changed, hchanged, hmem, ?_⟩
      intro roster hagrees
      rw [if_neg, if_neg (hnotSelf changed hchanged hmem), List.append_nil]
      · exact hagrees
      · intro hin
        rcases hmember member (AList.mem_keys.mpr hin) with ⟨_, found, _, _, hfound, hroomId⟩
        rcases h.registry.session_of_mem hchanged hmem with ⟨same, hsame, hroomId'⟩
        rw [hfound, Option.some.injEq] at hsame
        exact hhere (by rw [← hroomId', ← hsame, hroomId])

/-! ## Every run -/

/-- The events of the sessions: names are valid UTF-8, and nobody stops the server
or asks it for the presence list. -/
def Orderly : ServerEvent → Prop
  | ServerEvent.accept _ _ username => validUtf8 username.value = true
  | ServerEvent.presence | ServerEvent.stop => False
  | _ => True

instance : DecidablePred Orderly
  | ServerEvent.accept _ _ username =>
      inferInstanceAs (Decidable (validUtf8 username.value = true))
  | ServerEvent.presence | ServerEvent.stop => isFalse id
  | ServerEvent.read .. | ServerEvent.readFailed _ | ServerEvent.written .. => isTrue trivial

/-- One event of the sessions. -/
def OrderlyStep (system next : SignalingSystem) : Prop :=
  ∃ event, Orderly event ∧ system.act event = some next

/-- Every event keeps the clients informed. -/
theorem Informed.step (h : Informed system) {next : SignalingSystem}
    (hstep : OrderlyStep system next) : Informed next := by
  rcases hstep with ⟨event, horderly, hact⟩
  have hregistry : Registry next := h.registry.step ⟨event, hact⟩
  have hrunning := running_of_act hact
  cases acted_of_act hact with
  | refused random roomId username hstopping hfresh =>
      rw [h.opened] at hstopping
      contradiction
  | accepted random roomId username hopen hnew =>
      exact h.join hrunning (AList.lookup_eq_none.mpr hnew) (validUtf8_generateId random)
        (generateId_ne_nil random) roomId horderly hregistry
  | readFailed id hsession =>
      rename_i session
      have hstopped : Informed { system with
          sessions := system.sessions.insert id { session with reading := false } } :=
        h.unchanged (h.registry.setReading hsession false) h.opened
          (keeps_insert hsession rfl rfl) (fun _ => rfl)
          fun roomId room hroom => ⟨room, hroom, rfl, rfl⟩
      exact hstopped.onClose (AList.lookup_insert _)
  | parsed id hsession hparse =>
      exact h.parsed hsession (wellFormed_of_parse hparse) (validUtf8_of_parse hparse) hregistry
  | writeFailed id hsession => exact h.onClose hsession
  | unparsed | written => exact h
  | listed | unlisted | stopped => exact absurd horderly id

/-- In every run, the client of an open session that has handled all messages queued
to it agrees with the server on its room; the welcome was the first of them, and
none was about a session of another room. -/
theorem rosters_agree (h : Reachable Initial OrderlyStep system) {id : PeerId}
    {session : Session} (hsession : system.sessions.lookup id = some session)
    (hopen : session.closed = false) :
    ∃ room, system.server.rooms.lookup session.roomId = some room ∧ id ∈ room.sessions ∧
      Agrees room id (((inbox system.log id).map fun message => some (encode message)).foldl
        Roster.receive {}) ∧
      (∃ peers streamingPeers later,
        inbox system.log id = Message.welcome id peers streamingPeers :: later) ∧
      ∀ message ∈ inbox system.log id, ∀ other ∈ concerns message, ∃ neighbour,
        system.sessions.lookup other = some neighbour ∧ neighbour.roomId = session.roomId := by
  have hinformed : Informed system := by
    refine Reachable.invariant ?_ (fun _ _ _ hinformed hstep => hinformed.step hstep) h
    intro start hstart
    rw [hstart]
    exact informed_initial
  rcases hinformed.registry.registered hinformed.opened id session hsession hopen with
    ⟨room, hroom, hmem⟩
  have hreceive : ∀ messages : List Message, (∀ message ∈ messages, message.WellFormed ∧
      message.strings.all validUtf8 = true) → ∀ roster : Roster,
        (messages.map fun message => some (encode message)).foldl Roster.receive roster =
          messages.foldl Roster.handle roster := by
    intro messages
    induction messages with
    | nil => exact fun _ _ => rfl
    | cons message later ih =>
        intro hall roster
        have hmessage := hall message List.mem_cons_self
        rw [List.map_cons, List.foldl_cons, List.foldl_cons,
          Roster.receive_encode roster hmessage.1 hmessage.2]
        exact ih (fun other hother => hall other (List.mem_cons_of_mem _ hother)) _
  refine ⟨room, hroom, hmem, ?_, hinformed.welcomed _ room hroom id hmem, ?_⟩
  · rw [hreceive _ fun message hmessage =>
      ⟨(hinformed.proper id message hmessage).wellFormed,
        (hinformed.proper id message hmessage).valid⟩]
    exact hinformed.agrees _ room hroom id hmem
  · intro message hmessage other hother
    rcases (hinformed.proper id message hmessage).neighbours other hother with
      ⟨found, neighbour, hfound, hneighbour, hsame⟩
    rw [hsession, Option.some.injEq] at hfound
    exact ⟨neighbour, hneighbour, by rw [hsame, hfound]⟩

/-- Alice streams when Carol joins, and Bob leaves. -/
def busyRoom : List ServerEvent :=
  [ServerEvent.accept 1 ⟨text "lobby"⟩ ⟨text "alice"⟩,
    ServerEvent.accept 2 ⟨text "lobby"⟩ ⟨text "bob"⟩,
    ServerEvent.read (generateId 1) (some (encode (Message.streamingStart none))),
    ServerEvent.accept 3 ⟨text "lobby"⟩ ⟨text "carol"⟩,
    ServerEvent.readFailed (generateId 2)]

/-- The server after `busyRoom`. -/
def busySystem : SignalingSystem :=
  (execute (fun _ => Orderly) act {} busyRoom).getD {}

theorem rosters_agree_carol :
    ∃ room, busySystem.server.rooms.lookup ⟨text "lobby"⟩ = some room ∧
      generateId 3 ∈ room.sessions ∧
      Agrees room (generateId 3) (((inbox busySystem.log (generateId 3)).map fun message =>
        some (encode message)).foldl Roster.receive {}) ∧
      (∃ peers streamingPeers later, inbox busySystem.log (generateId 3) =
        Message.welcome (generateId 3) peers streamingPeers :: later) ∧
      ∀ message ∈ inbox busySystem.log (generateId 3), ∀ other ∈ concerns message, ∃ neighbour,
        busySystem.sessions.lookup other = some neighbour ∧
          neighbour.roomId = ⟨text "lobby"⟩ := by
  have hsession : busySystem.sessions.lookup (generateId 3) =
      some { roomId := ⟨text "lobby"⟩, username := ⟨text "carol"⟩ } := by
    decide +kernel
  exact rosters_agree (Reachable.execute (fun _ event _ horderly hact => ⟨event, horderly, hact⟩)
    (Reachable.start rfl) (execute_eq_some_getD (by decide +kernel))) hsession rfl

end SignalingSystem

end Server
end Driscord
