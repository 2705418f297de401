import Driscord.Client.StreamWatching
import Driscord.Server.WatchRequests

/-!
# A client that watches streams on the media server

One client with its calls and its connection, and the media server with everybody else.
The texts of a connection reach the server in the order in which they were sent, and the
client handles what was queued to its session in that order, one message after the
other.

Every connection is a session of its own: the server draws a new id when it takes up the
connection.  Once the connection is lost, its session is like those of all the others, of
which the server may read anything.  The messages of the routers change no watch and are
not among the queued ones.

Main results:

- Theorem `acted_of_act`: what one action can do.
-/

namespace Driscord
namespace Client

open Library Signaling Server

/-- The client, its calls, its connection and the server. -/
structure WatchSystem where
  server : MediaServer := {}
  client : WatchClient := {}
  threads : Pool WatchSection := []
  /-- The session of the current socket. -/
  socket : Option PeerId := none
  /-- How many messages of the session the client has taken up. -/
  heard : Nat := 0
  /-- The thread that handles the last one. -/
  reader : Option Nat := none

/-- What may happen next. -/
inductive WatchAction where
  /-- The server does anything but read a text of the client. -/
  | serve (action : MediaAction)
  /-- The io thread takes the oldest text of the client. -/
  | deliver
  /-- The client connects, and the server takes up the connection. -/
  | connect (random : UInt64) (roomId : RoomId) (username : Username)
  /-- `onOpen`. -/
  | opened
  /-- `onClosed` or `onError`. -/
  | closed
  /-- `disconnect`. -/
  | disconnect
  | call (call : WatchCall)
  /-- The worker takes the task of a failed session. -/
  | recover (token : Nat)
  /-- The client sends a text that is no request for a watch. -/
  | say (raw : Option Json)
  /-- `onMessage`. -/
  | receive
  /-- Thread `index` runs its next section. -/
  | run (index : Nat) (succeeds : Bool) (order : List PeerId)

/-- The text neither asks for a watch nor gives one up. -/
def unasking (raw : Option Json) : Bool :=
  match parse raw with
  | Except.ok (Message.watchStart _) | Except.ok (Message.watchStop _) => false
  | _ => true

namespace WatchSystem

/-- Begin a thread. -/
def spawn (system : WatchSystem) (thread : List WatchSection) : WatchSystem :=
  { system with threads := system.threads ++ [thread] }

/-- The action is not one by which the server takes a text of the client. -/
def foreign (system : WatchSystem) : MediaAction → Bool
  | MediaAction.handle (ServerEvent.read id _) => system.socket ≠ some id
  | _ => true

/-- The messages queued to the session of the client. -/
def queued (system : WatchSystem) : List Message :=
  (system.socket.map (inbox system.server.signaling.log)).getD []

/-- The client has handled the last message that it took up. -/
def Idle (system : WatchSystem) : Prop :=
  ∀ index ∈ system.reader, system.threads[index]? = some []

instance (system : WatchSystem) : Decidable system.Idle :=
  inferInstanceAs (Decidable (∀ index ∈ system.reader, _))

/-- Do an action, if it is possible. -/
def act (system : WatchSystem) : WatchAction → Option WatchSystem
  | WatchAction.serve action =>
      if system.foreign action then
        (system.server.act action).map fun server => { system with server }
      else none
  | WatchAction.deliver =>
      match system.socket, system.client.channel with
      | some id, raw :: channel =>
          (system.server.act (MediaAction.handle (ServerEvent.read id raw))).map fun server =>
            { system with server, client := { system.client with channel } }
      | _, _ => none
  | WatchAction.connect random roomId username =>
      if system.socket = none then
        (system.server.act (MediaAction.handle (ServerEvent.accept random roomId username))).map
          fun server =>
            { system with server, socket := some (generateId random), heard := 0, reader := none }
      else none
  | WatchAction.opened =>
      if system.socket.isSome && !system.client.connected then
        some { system.spawn [WatchSection.checkScreen] with
          client := { system.client with connected := true } }
      else none
  | WatchAction.closed =>
      if system.socket.isSome then
        some { system.spawn [WatchSection.clearSession] with
          client := { system.client with connected := false, channel := [] }
          socket := none }
      else none
  | WatchAction.disconnect =>
      if system.socket.isSome then
        some { system.spawn
            (if system.client.connected then [WatchSection.clearSession] else []) with
          client := { system.client with connected := false, channel := [] }
          socket := none }
      else none
  | WatchAction.call call => some (system.spawn call.sections)
  | WatchAction.recover token => some (system.spawn [WatchSection.recoverScreen token])
  | WatchAction.say raw =>
      if system.client.connected && unasking raw then
        some { system with
          client := { system.client with channel := system.client.channel ++ [raw] } }
      else none
  | WatchAction.receive =>
      match system.queued[system.heard]? with
      | none => none
      | some message =>
          if system.client.connected = true ∧ system.Idle then
            some { system.spawn (watchSections (some (encode message))) with
              heard := system.heard + 1
              reader := some system.threads.length }
          else none
  | WatchAction.run index succeeds order =>
      match system.threads[index]? with
      | some (head :: rest) =>
          (system.client.run index succeeds order head).map fun result =>
            { system with
              client := result.1
              threads := system.threads.set index (result.2 ++ rest) }
      | _ => none

/-- What one action can do. -/
inductive Acted (system : WatchSystem) : WatchAction → WatchSystem → Prop
  | served {action server} (hforeign : system.foreign action = true)
      (hact : system.server.act action = some server) :
      Acted system (WatchAction.serve action) { system with server }
  | delivered {id raw channel server} (hsocket : system.socket = some id)
      (hchannel : system.client.channel = raw :: channel)
      (hact : system.server.act (MediaAction.handle (ServerEvent.read id raw)) = some server) :
      Acted system WatchAction.deliver
        { system with server, client := { system.client with channel } }
  | connected {random roomId username server} (hsocket : system.socket = none)
      (hact : system.server.act (MediaAction.handle
        (ServerEvent.accept random roomId username)) = some server) :
      Acted system (WatchAction.connect random roomId username)
        { system with server, socket := some (generateId random), heard := 0, reader := none }
  | opened {id} (hsocket : system.socket = some id) (hclosed : system.client.connected = false) :
      Acted system WatchAction.opened
        { system.spawn [WatchSection.checkScreen] with
          client := { system.client with connected := true } }
  | ended {action thread} (haction : action = WatchAction.closed ∨ action = WatchAction.disconnect)
      (hthread : thread = [WatchSection.clearSession] ∨
        thread = [] ∧ system.client.connected = false) :
      Acted system action
        { system.spawn thread with
          client := { system.client with connected := false, channel := [] }
          socket := none }
  | called (call) : Acted system (WatchAction.call call) (system.spawn call.sections)
  | recovered (token) :
      Acted system (WatchAction.recover token) (system.spawn [WatchSection.recoverScreen token])
  | said {raw} (hconnected : system.client.connected = true) (hunasking : unasking raw = true) :
      Acted system (WatchAction.say raw)
        { system with
          client := { system.client with channel := system.client.channel ++ [raw] } }
  | received {message} (hmessage : system.queued[system.heard]? = some message)
      (hconnected : system.client.connected = true) :
      Acted system WatchAction.receive
        { system.spawn (watchSections (some (encode message))) with
          heard := system.heard + 1
          reader := some system.threads.length }
  | ran {index succeeds order head rest client pushed}
      (hhead : system.threads[index]? = some (head :: rest))
      (hran : WatchClient.Ran system.client index head client pushed) :
      Acted system (WatchAction.run index succeeds order)
        { system with client, threads := system.threads.set index (pushed ++ rest) }

theorem acted_of_act {system next : WatchSystem} {action : WatchAction}
    (h : system.act action = some next) : Acted system action next := by
  cases action with
  | serve action =>
      simp only [act, Option.ite_none_right_eq_some, Option.map_eq_some_iff] at h
      rcases h with ⟨hforeign, server, hact, rfl⟩
      exact Acted.served hforeign hact
  | deliver =>
      simp only [act] at h
      split at h
      · rename_i hsocket hchannel
        rcases Option.map_eq_some_iff.mp h with ⟨server, hact, rfl⟩
        exact Acted.delivered hsocket hchannel hact
      · contradiction
  | connect random roomId username =>
      simp only [act, Option.ite_none_right_eq_some, Option.map_eq_some_iff] at h
      rcases h with ⟨hsocket, server, hact, rfl⟩
      exact Acted.connected hsocket hact
  | opened =>
      simp only [act, Option.ite_none_right_eq_some, Option.some.injEq, Bool.and_eq_true,
        Bool.not_eq_true'] at h
      rcases h with ⟨⟨hsome, hclosed⟩, rfl⟩
      rcases Option.isSome_iff_exists.mp hsome with ⟨id, hsocket⟩
      exact Acted.opened hsocket hclosed
  | closed =>
      simp only [act, Option.ite_none_right_eq_some, Option.some.injEq] at h
      rcases h with ⟨-, rfl⟩
      exact Acted.ended (Or.inl rfl) (Or.inl rfl)
  | disconnect =>
      simp only [act, Option.ite_none_right_eq_some, Option.some.injEq] at h
      rcases h with ⟨-, rfl⟩
      refine Acted.ended (Or.inr rfl) ?_
      cases hconnected : system.client.connected with
      | true => exact Or.inl rfl
      | false => exact Or.inr ⟨rfl, rfl⟩
  | call call =>
      rw [← Option.some.inj h]
      exact Acted.called call
  | recover token =>
      rw [← Option.some.inj h]
      exact Acted.recovered token
  | say raw =>
      simp only [act, Option.ite_none_right_eq_some, Option.some.injEq, Bool.and_eq_true] at h
      rcases h with ⟨⟨hconnected, hunasking⟩, rfl⟩
      exact Acted.said hconnected hunasking
  | receive =>
      simp only [act] at h
      split at h
      · contradiction
      · rename_i message hmessage
        rw [Option.ite_none_right_eq_some, Option.some.injEq] at h
        rcases h with ⟨⟨hconnected, -⟩, rfl⟩
        exact Acted.received hmessage hconnected
  | run index succeeds order =>
      simp only [act] at h
      split at h
      · rename_i head rest hhead
        rcases Option.map_eq_some_iff.mp h with ⟨⟨client, pushed⟩, hrun, rfl⟩
        exact Acted.ran hhead (WatchClient.ran_of_run hrun)
      · contradiction

/-! ## Agreement -/

/-- No call is running, and no message is on its way. -/
def Quiet (system : WatchSystem) : Prop :=
  Pool.Quiet system.threads ∧ system.server.io = [] ∧ system.client.channel = [] ∧
    system.heard = system.queued.length

instance (system : WatchSystem) : Decidable system.Quiet :=
  inferInstanceAs (Decidable (_ ∧ _))

/-- The client is connected with a live screen session, and nothing is on its way. -/
structure Settled (system : WatchSystem) (id : PeerId) (roomId : RoomId) (room : Room) :
    Prop where
  quiet : system.Quiet
  connected : system.client.connected = true
  live : system.client.screenSession.isSome = true
  socket : system.socket = some id
  running : system.server.signaling.ended = false
  found : system.server.signaling.server.rooms.lookup roomId = some room
  member : id ∈ room.sessions

/-- The client, the room and the screen router have the same watches. -/
def WatchesAgree (system : WatchSystem) : Prop :=
  ∀ id roomId room, Settled system id roomId room →
    system.client.watchedPeers = room.watched id ∧
      ∃ handle routers, system.server.handleOf roomId = some handle ∧
        system.server.routers[handle]? = some routers ∧
          ∀ peer, peer ∈ routers.screen.watchedOf id ↔ peer ∈ system.client.watchedPeers

/-- No session has been accepted, and the client was just made. -/
def Initial (system : WatchSystem) : Prop :=
  ∃ faultConfig, system = { server := { faultConfig := faultConfig } }

/-- One step of any interleaving. -/
def Step (system next : WatchSystem) : Prop :=
  ∃ action, system.act action = some next

/-! ## Orderly runs -/

/-- The watches that the server has of the client. -/
def granted (system : WatchSystem) : Finset PeerId :=
  (system.socket.map system.server.signaling.watchedBy).getD ∅

/-- The texts of the client that the server has not handled. -/
def coming (system : WatchSystem) : List (Option Json) :=
  (system.socket.map system.server.reading).getD [] ++ system.client.channel

/-- The server has the watch once it has handled what is coming, if it rejects nothing. -/
def expected (system : WatchSystem) (peer : PeerId) : Bool :=
  system.coming.foldl (wants peer) (decide (peer ∈ system.granted))

/-- The client will take the peer out of the set. -/
def Leaving (system : WatchSystem) (peer : PeerId) : Prop :=
  (∃ message ∈ system.queued.drop system.heard, drops peer message = true) ∨
    Pool.Owes (WatchSection.drops peer) system.threads

/-- The server has a session for the connection of the client. -/
def Linked (system : WatchSystem) : Prop :=
  system.client.connected = true ∧ ∃ id ∈ system.socket, system.server.signaling.Serves id

/-- The section fits the requests that are still to be sent and those that are coming:
a request that tells the server otherwise than the client has it is corrected by a later
one, and a rejection is that of the last request. -/
def Timely (system : WatchSystem) : WatchSection → Prop
  | WatchSection.sendWatchStart peer =>
      peer ∈ system.client.watchedPeers ∨
        Pool.Pending system.threads (WatchSection.sendWatchStop peer)
  | WatchSection.sendWatchStop peer =>
      peer ∈ system.client.watchedPeers → system.client.screenSession.isSome = true →
        Pool.Pending system.threads WatchSection.clearSession ∨
          Pool.Pending system.threads (WatchSection.sendWatchStart peer) ∨
            system.Leaving peer
  | WatchSection.handleWatchRejected peer =>
      peer ∈ system.client.watchedPeers → system.expected peer = true →
        Pool.Pending system.threads (WatchSection.sendWatchStop peer)
  | _ => True

/-- A peer id that the server accepts in a request. -/
def Named (peer : PeerId) : Prop :=
  peer.value ≠ [] ∧ validUtf8 peer.value = true

/-- The peers that are joined have names, and every section runs in time. -/
def Orderly (system : WatchSystem) : WatchAction → Prop
  | WatchAction.call (WatchCall.joinStream peer) => Named peer
  | WatchAction.run index _ _ =>
      system.Linked → ∀ head ∈ (system.threads[index]?).bind List.head?, system.Timely head
  | _ => True

/-- One step of an orderly run. -/
def OrderlyStep (system next : WatchSystem) : Prop :=
  ∃ action, system.Orderly action ∧ system.act action = some next

instance (system : WatchSystem) (peer : PeerId) : Decidable (system.Leaving peer) :=
  inferInstanceAs (Decidable (_ ∨ _))

instance (system : WatchSystem) : Decidable system.Linked :=
  inferInstanceAs (Decidable (_ ∧ _))

instance (system : WatchSystem) : DecidablePred system.Timely
  | WatchSection.sendWatchStart _ => inferInstanceAs (Decidable (_ ∨ _))
  | WatchSection.sendWatchStop _ | WatchSection.handleWatchRejected _ =>
      inferInstanceAs (Decidable (_ → _))
  | WatchSection.joinStream _ | WatchSection.leaveStream _ | WatchSection.leaveStreams
  | WatchSection.peerStoppedStreaming _ | WatchSection.requestScreen | WatchSection.forgetScreen
  | WatchSection.checkScreen | WatchSection.startSession | WatchSection.retainSession
  | WatchSection.endStart | WatchSection.clearSession | WatchSection.closeSession
  | WatchSection.recoverScreen _ => isTrue trivial

instance (peer : PeerId) : Decidable (Named peer) :=
  inferInstanceAs (Decidable (_ ∧ _))

instance (system : WatchSystem) : DecidablePred system.Orderly
  | WatchAction.call (WatchCall.joinStream peer) => inferInstanceAs (Decidable (Named peer))
  | WatchAction.run _ _ _ => inferInstanceAs (Decidable (_ → _))
  | WatchAction.call (WatchCall.leaveStream _) | WatchAction.call WatchCall.leaveStreams
  | WatchAction.call WatchCall.initScreen | WatchAction.call WatchCall.deinitScreen
  | WatchAction.serve _ | WatchAction.deliver | WatchAction.connect .. | WatchAction.opened
  | WatchAction.closed | WatchAction.disconnect | WatchAction.recover _ | WatchAction.say _
  | WatchAction.receive => isTrue trivial

end WatchSystem

end Client
end Driscord
