import Driscord.Client.Transport
import Driscord.Library.ThreadPool
import Driscord.Library.TransitionSystem

/-!
# The connection of the transport

`Transport::connect` and `Transport::disconnect` run beside the callbacks of the
current and of earlier sockets.  This module models them at the granularity of the
sections under a mutex, the accesses of `ws_connected_` and of the notify-once flag,
and the calls of the listeners.

Every callback starts by asking whether its socket is still the current one.  Nothing
holds between that question and what the callback does next.

A socket is installed and opened in one step: until it is opened it has no callbacks,
so this takes no interleaving away.  The statistics are left out.
-/

namespace Driscord
namespace Client

open Library Signaling

/-- The sections of the calls. -/
inductive TransportSection where
  /-- `disconnect`: `ws_connected_.exchange(false)`. -/
  | exchangeConnected
  /-- `disconnect`: move `ws_` out and clear `local_id_`. -/
  | releaseSocket (wasConnected : Bool)
  /-- The two halves of `clear_peers`. -/
  | clearPeers
  | clearUsernames
  /-- `connect`: store `ws_` and open it. -/
  | installSocket
  /-- `onOpen`: `is_current_socket`. -/
  | checkOpened (socket : SocketId)
  /-- `onOpen`: `ws_connected_ = true`. -/
  | markConnected (socket : SocketId)
  /-- `onClosed`: `is_current_socket`. -/
  | checkClosed (socket : SocketId)
  /-- `onClosed`: `ws_connected_.exchange(false)`. -/
  | exchangeClosed (socket : SocketId)
  /-- `onClosed`: reset `ws_` and clear `local_id_`, if the socket is still current. -/
  | resetSocket (socket : SocketId)
  /-- `onError`: `is_current_socket`. -/
  | checkError (socket : SocketId)
  /-- `onError`: `ws_connected_ = false`. -/
  | storeDisconnected (socket : SocketId)
  /-- `onError`: clear `local_id_`, if the socket is still current. -/
  | forgetId (socket : SocketId)
  /-- `notify_disconnected`: `disconnect_notified->exchange(true)`. -/
  | notifyOnce (socket : SocketId)
  /-- `onMessage`: `is_current_socket`. -/
  | checkMessage (socket : SocketId) (updates : List TransportUpdate)
  /-- One update of `on_ws_message`. -/
  | apply (update : TransportUpdate)
  /-- Call a listener. -/
  | tell (listener : Nat) (connected : Bool)
deriving DecidableEq, Repr

/-- The calls of the user and of the sockets. -/
inductive TransportCall where
  /-- `created` is whether the socket could be made. -/
  | connect (created : Bool)
  | disconnect
  | opened (socket : SocketId)
  | message (socket : SocketId) (raw : Option Json)
  | error (socket : SocketId)
  | closed (socket : SocketId)

/-- The sections of a call. -/
def TransportCall.sections : TransportCall → List TransportSection
  | connect created =>
      TransportSection.exchangeConnected ::
        if created then [TransportSection.installSocket] else []
  | disconnect => [TransportSection.exchangeConnected]
  | opened socket => [TransportSection.checkOpened socket]
  | message socket raw => [TransportSection.checkMessage socket (onWsMessage raw)]
  | error socket => [TransportSection.checkError socket]
  | closed socket => [TransportSection.checkClosed socket]

/-- The transport, the calls that run on it, and what has happened so far. -/
structure TransportSystem where
  transport : Transport := {}
  /-- The entries of `connection_listeners_`, then `on_connected_` with
  `on_disconnected_`. -/
  listeners : Nat := 0
  /-- The sockets made so far. -/
  sockets : Nat := 0
  /-- The sockets whose notify-once flag is set. -/
  notified : Finset SocketId := ∅
  threads : Pool TransportSection := []
  /-- The last connection event that each listener was told. -/
  heard : Nat → Option Bool := fun _ => none
  /-- The sockets whose open callback has begun. -/
  opened : Finset SocketId := ∅
  /-- The sockets whose error or close callback has begun. -/
  failed : Finset SocketId := ∅
  /-- The sockets whose error or close callback has found them current. -/
  dropped : Finset SocketId := ∅
  /-- No `connect` was begun after the last `disconnect`. -/
  disconnectedLast : Bool := false

namespace TransportSystem

/-- Tell all listeners. -/
def tellAll (listeners : Nat) (connected : Bool) : List TransportSection :=
  (List.range listeners).map fun listener => TransportSection.tell listener connected

/-- Run a section: the new state and the sections called for. -/
def runSection (system : TransportSystem) :
    TransportSection → TransportSystem × List TransportSection
  | TransportSection.exchangeConnected =>
      ({ system with transport := { system.transport with wsConnected := false } },
        [TransportSection.releaseSocket system.transport.wsConnected])
  | TransportSection.releaseSocket wasConnected =>
      ({ system with transport := { system.transport with ws := none, localId := ⟨[]⟩ } },
        [TransportSection.clearPeers, TransportSection.clearUsernames] ++
          if wasConnected then tellAll system.listeners false else [])
  | TransportSection.clearPeers =>
      ({ system with transport := { system.transport with peers := ∅ } }, [])
  | TransportSection.clearUsernames =>
      ({ system with transport := { system.transport with peerUsernames := ∅ } }, [])
  | TransportSection.installSocket =>
      ({ system with
          transport := { system.transport with ws := some system.sockets }
          sockets := system.sockets + 1 }, [])
  | TransportSection.checkOpened socket =>
      (system,
        if system.transport.ws = some socket then [TransportSection.markConnected socket]
        else [])
  | TransportSection.markConnected _ =>
      ({ system with transport := { system.transport with wsConnected := true } },
        tellAll system.listeners true)
  | TransportSection.checkClosed socket =>
      (system,
        if system.transport.ws = some socket then [TransportSection.exchangeClosed socket]
        else [])
  | TransportSection.exchangeClosed socket =>
      ({ system with
          transport := { system.transport with wsConnected := false }
          dropped := insert socket system.dropped },
        [TransportSection.resetSocket socket, TransportSection.notifyOnce socket])
  | TransportSection.resetSocket socket =>
      (if system.transport.ws = some socket then
        { system with transport := { system.transport with ws := none, localId := ⟨[]⟩ } }
      else system, [])
  | TransportSection.checkError socket =>
      (system,
        if system.transport.ws = some socket then [TransportSection.storeDisconnected socket]
        else [])
  | TransportSection.storeDisconnected socket =>
      ({ system with
          transport := { system.transport with wsConnected := false }
          dropped := insert socket system.dropped },
        [TransportSection.forgetId socket, TransportSection.notifyOnce socket])
  | TransportSection.forgetId socket =>
      (if system.transport.ws = some socket then
        { system with transport := { system.transport with localId := ⟨[]⟩ } }
      else system, [])
  | TransportSection.notifyOnce socket =>
      if socket ∈ system.notified then (system, [])
      else
        ({ system with notified := insert socket system.notified },
          [TransportSection.clearPeers, TransportSection.clearUsernames] ++
            tellAll system.listeners false)
  | TransportSection.checkMessage socket updates =>
      (system,
        if system.transport.ws = some socket then updates.map TransportSection.apply else [])
  | TransportSection.apply update =>
      ({ system with transport := system.transport.update update }, [])
  | TransportSection.tell listener connected =>
      ({ system with heard := Function.update system.heard listener (some connected) }, [])

/-- A call begins. -/
def begin (system : TransportSystem) (call : TransportCall) : TransportSystem :=
  let threads := system.threads ++ [call.sections]
  match call with
  | TransportCall.connect _ => { system with threads, disconnectedLast := false }
  | TransportCall.disconnect => { system with threads, disconnectedLast := true }
  | TransportCall.opened socket =>
      { system with threads, opened := insert socket system.opened }
  | TransportCall.message _ _ => { system with threads }
  | TransportCall.error socket | TransportCall.closed socket =>
      { system with threads, failed := insert socket system.failed }

/-- A socket has callbacks once it is made. -/
def possible (system : TransportSystem) : TransportCall → Bool
  | TransportCall.connect _ | TransportCall.disconnect => true
  | TransportCall.opened socket | TransportCall.message socket _
  | TransportCall.error socket | TransportCall.closed socket => socket < system.sockets

end TransportSystem

/-- A call begins, or a thread runs its next section. -/
inductive TransportAction where
  | call (call : TransportCall)
  | run (index : Nat)

namespace TransportSystem

def act (system : TransportSystem) : TransportAction → Option TransportSystem
  | TransportAction.call call =>
      if system.possible call then some (system.begin call) else none
  | TransportAction.run index =>
      match system.threads[index]? with
      | some (head :: rest) =>
          let ran := system.runSection head
          some { ran.1 with threads := system.threads.set index (ran.2 ++ rest) }
      | _ => none

def Step (system next : TransportSystem) : Prop :=
  ∃ action, act system action = some next

/-- The transport is made, and its listeners are registered. -/
def Initial (system : TransportSystem) : Prop :=
  ∃ listeners, system = { listeners }

/-- What an action does. -/
theorem act_cases {system next : TransportSystem} {action : TransportAction}
    (h : act system action = some next) :
    (∃ call, action = TransportAction.call call ∧ system.possible call = true ∧
        next = system.begin call) ∨
      ∃ index head rest, action = TransportAction.run index ∧
        system.threads[index]? = some (head :: rest) ∧
        next = { (system.runSection head).1 with
          threads := system.threads.set index ((system.runSection head).2 ++ rest) } := by
  cases action with
  | call call =>
      rw [act] at h
      split at h
      · rename_i hpossible
        rw [Option.some.injEq] at h
        exact Or.inl ⟨call, rfl, hpossible, h.symm⟩
      · contradiction
  | run index =>
      rw [act] at h
      split at h
      · rename_i head rest hhead
        rw [Option.some.injEq] at h
        exact Or.inr ⟨index, head, rest, rfl, hhead, h.symm⟩
      · contradiction

end TransportSystem

end Client
end Driscord
