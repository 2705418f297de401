import Driscord.Client.Transport
import Driscord.Library.ThreadPool

/-!
# Watched streams of the client

`GoogleWebRtcClient` keeps the peers whose streams the user has joined, and tells the
server of every change.  User calls, the callbacks of the transport and a recovery worker
change the set at the same time, at the granularity of the sections under `mutex`; the
requests are sent after `mutex` was released.  `screen_lifecycle_mutex` is held across
several sections.

An iteration over the set may take any order, which is a parameter of the section.  The
statistics, the volumes, the sharing and the tracks are left out: they change neither the
set nor the session.

Main results:

- Theorem `ran_of_run`: what one section can do.
-/

namespace Driscord
namespace Client

open Library Signaling

/-- `GoogleWebRtcClient::Impl`, as far as the watched streams are concerned.  A session
is known by its number, which stands for `screen_session_token` as well. -/
structure WatchClient where
  watchedPeers : Finset PeerId := ∅
  screenRequested : Bool := false
  screenSession : Option Nat := none
  nextSession : Nat := 0
  /-- The thread that holds `screen_lifecycle_mutex`. -/
  screenLifecycleMutex : Option Nat := none
  connected : Bool := false
  /-- The texts on their way to the server. -/
  channel : List (Option Json) := []

/-- The sections of the calls. -/
inductive WatchSection where
  | joinStream (peer : PeerId)
  | leaveStream (peer : PeerId)
  | leaveStreams
  | peerStoppedStreaming (peer : PeerId)
  | handleWatchRejected (peer : PeerId)
  | sendWatchStart (peer : PeerId)
  | sendWatchStop (peer : PeerId)
  /-- The beginning of `init_screen`. -/
  | requestScreen
  /-- The beginning of `deinit_screen`. -/
  | forgetScreen
  /-- `start_screen_if_requested`: take `screen_lifecycle_mutex`, look at the state. -/
  | checkScreen
  /-- `next->start()`. -/
  | startSession
  /-- Keep the new session, unless something has changed. -/
  | retainSession
  /-- `start_screen_if_requested` returns. -/
  | endStart
  /-- `stop_screen_session`: take the lock, clear the state. -/
  | clearSession
  /-- Close the old session. -/
  | closeSession
  /-- `recover_screen_session`, up to the first call. -/
  | recoverScreen (token : Nat)
deriving DecidableEq, Repr

/-- The calls of the user. -/
inductive WatchCall where
  | joinStream (peer : PeerId)
  | leaveStream (peer : PeerId)
  | leaveStreams
  | initScreen
  | deinitScreen
deriving DecidableEq, Repr

/-- The sections of a call. -/
def WatchCall.sections : WatchCall → List WatchSection
  | joinStream peer => [WatchSection.joinStream peer]
  | leaveStream peer => [WatchSection.leaveStream peer]
  | leaveStreams => [WatchSection.leaveStreams]
  | initScreen => [WatchSection.requestScreen, WatchSection.checkScreen]
  | deinitScreen => [WatchSection.forgetScreen, WatchSection.clearSession]

/-- What a callback of the transport runs.  Beside the volumes, `remove_peer` does what
`peer_stopped_streaming` does. -/
def watchSection : TransportUpdate → Option WatchSection
  | TransportUpdate.notify (PeerEvent.peerLeft peer)
  | TransportUpdate.notify (PeerEvent.streamingStopped peer) =>
      some (WatchSection.peerStoppedStreaming peer)
  | TransportUpdate.notify (PeerEvent.watchRejected peer _) =>
      some (WatchSection.handleWatchRejected peer)
  | _ => none

/-- The sections of a message. -/
def watchSections (raw : Option Json) : List WatchSection :=
  (onWsMessage raw).filterMap watchSection

namespace WatchClient

/-- `send_signal`: nothing is sent while disconnected. -/
def send (client : WatchClient) (message : Message) : WatchClient :=
  if client.connected then
    { client with channel := client.channel ++ [some (encode message)] }
  else client

@[simp]
theorem watchedPeers_send (client : WatchClient) (message : Message) :
    (client.send message).watchedPeers = client.watchedPeers := by
  unfold send
  split <;> rfl

@[simp]
theorem screenSession_send (client : WatchClient) (message : Message) :
    (client.send message).screenSession = client.screenSession := by
  unfold send
  split <;> rfl

@[simp]
theorem connected_send (client : WatchClient) (message : Message) :
    (client.send message).connected = client.connected := by
  unfold send
  split <;> rfl

/-- Erase a peer, and tell the server if it was watched. -/
def forget (client : WatchClient) (peer : PeerId) : WatchClient × List WatchSection :=
  if peer ∈ client.watchedPeers then
    ({ client with watchedPeers := client.watchedPeers.erase peer },
      [WatchSection.sendWatchStop peer])
  else (client, [])

/-- An order of the watched peers. -/
def Iterates (client : WatchClient) (order : List PeerId) : Prop :=
  order.Nodup ∧ order.toFinset = client.watchedPeers

instance (client : WatchClient) (order : List PeerId) : Decidable (client.Iterates order) :=
  inferInstanceAs (Decidable (_ ∧ _))

/-- Run a section of thread `self`: the new state and the sections called for.
`succeeds` is the outcome of a call into the media session.  The result is `none` while
the lock is taken. -/
def run (client : WatchClient) (self : Nat) (succeeds : Bool) (order : List PeerId) :
    WatchSection → Option (WatchClient × List WatchSection)
  | WatchSection.joinStream peer =>
      some (if peer ∈ client.watchedPeers then (client, [])
        else
          ({ client with watchedPeers := insert peer client.watchedPeers },
            [WatchSection.sendWatchStart peer]))
  | WatchSection.leaveStream peer | WatchSection.peerStoppedStreaming peer =>
      some (client.forget peer)
  | WatchSection.leaveStreams =>
      if client.Iterates order then
        some ({ client with watchedPeers := ∅ }, order.map WatchSection.sendWatchStop)
      else none
  | WatchSection.handleWatchRejected peer =>
      some ({ client with watchedPeers := client.watchedPeers.erase peer }, [])
  | WatchSection.sendWatchStart peer => some (client.send (Message.watchStart peer), [])
  | WatchSection.sendWatchStop peer => some (client.send (Message.watchStop peer), [])
  | WatchSection.requestScreen => some ({ client with screenRequested := true }, [])
  | WatchSection.forgetScreen =>
      if client.Iterates order then
        some ({ client with screenRequested := false, watchedPeers := ∅ },
          order.map WatchSection.sendWatchStop)
      else none
  | WatchSection.checkScreen =>
      if client.screenLifecycleMutex = none then
        if !client.screenRequested || client.screenSession.isSome || !client.connected then
          some (client, [])
        else some ({ client with screenLifecycleMutex := some self }, [WatchSection.startSession])
      else none
  | WatchSection.startSession =>
      if succeeds then some (client, [WatchSection.retainSession])
      else some ({ client with screenLifecycleMutex := none }, [])
  | WatchSection.retainSession =>
      if client.screenRequested && client.screenSession.isNone && client.connected then
        if client.Iterates order then
          some ({ client with
              screenSession := some client.nextSession
              nextSession := client.nextSession + 1 },
            order.map WatchSection.sendWatchStart ++ [WatchSection.endStart])
        else none
      else some ({ client with screenLifecycleMutex := none }, [])
  | WatchSection.endStart | WatchSection.closeSession =>
      some ({ client with screenLifecycleMutex := none }, [])
  | WatchSection.clearSession =>
      if client.screenLifecycleMutex = none then
        some ({ client with screenLifecycleMutex := some self, screenSession := none },
          [WatchSection.closeSession])
      else none
  | WatchSection.recoverScreen token =>
      some (client,
        if client.screenRequested && decide (client.screenSession = some token) &&
          client.connected then [WatchSection.clearSession, WatchSection.checkScreen]
        else [])

end WatchClient

/-! ## What one section can do -/

namespace WatchSection

/-- The section takes the peer out of the set. -/
def drops (peer : PeerId) : WatchSection → Bool
  | leaveStream other | peerStoppedStreaming other | handleWatchRejected other => other = peer
  | _ => false

/-- The section only looks after the session. -/
def minds : WatchSection → Bool
  | requestScreen | checkScreen | startSession | retainSession | endStart | closeSession
  | recoverScreen _ => true
  | _ => false

/-- The peer whose watch the section asks for or gives up. -/
def names : WatchSection → Option PeerId
  | joinStream peer | sendWatchStart peer | sendWatchStop peer => some peer
  | _ => none

end WatchSection

namespace WatchClient

/-- What one run of a section can do. -/
inductive Ran (client : WatchClient) (self : Nat) :
    WatchSection → WatchClient → List WatchSection → Prop
  | joined (peer) (hnew : peer ∉ client.watchedPeers) :
      Ran client self (WatchSection.joinStream peer)
        { client with watchedPeers := insert peer client.watchedPeers }
        [WatchSection.sendWatchStart peer]
  | forgotten {head} (peer) (hmem : peer ∈ client.watchedPeers)
      (hhead : head = WatchSection.leaveStream peer ∨
        head = WatchSection.peerStoppedStreaming peer) :
      Ran client self head { client with watchedPeers := client.watchedPeers.erase peer }
        [WatchSection.sendWatchStop peer]
  | emptied {head} (requested order) (horder : client.Iterates order)
      (hhead : head = WatchSection.leaveStreams ∨ head = WatchSection.forgetScreen) :
      Ran client self head
        { client with screenRequested := requested, watchedPeers := ∅ }
        (order.map WatchSection.sendWatchStop)
  | rejected (peer) :
      Ran client self (WatchSection.handleWatchRejected peer)
        { client with watchedPeers := client.watchedPeers.erase peer } []
  | startSent (peer) :
      Ran client self (WatchSection.sendWatchStart peer)
        (client.send (Message.watchStart peer)) []
  | stopSent (peer) :
      Ran client self (WatchSection.sendWatchStop peer)
        (client.send (Message.watchStop peer)) []
  | retained (order) (horder : client.Iterates order) (hconnected : client.connected = true) :
      Ran client self WatchSection.retainSession
        { client with
          screenSession := some client.nextSession
          nextSession := client.nextSession + 1 }
        (order.map WatchSection.sendWatchStart ++ [WatchSection.endStart])
  | cleared :
      Ran client self WatchSection.clearSession
        { client with screenLifecycleMutex := some self, screenSession := none }
        [WatchSection.closeSession]
  | minded {head pushed} (requested mutex) (hhead : head.minds = true)
      (hpushed : ∀ item ∈ pushed, item.minds = true ∨ item = WatchSection.clearSession) :
      Ran client self head
        { client with screenRequested := requested, screenLifecycleMutex := mutex } pushed
  | kept {head} (hhead : (∃ peer ∈ client.watchedPeers, head = WatchSection.joinStream peer) ∨
        ∃ peer ∉ client.watchedPeers, head = WatchSection.leaveStream peer ∨
          head = WatchSection.peerStoppedStreaming peer) :
      Ran client self head client []

variable {client client' : WatchClient} {self : Nat} {head : WatchSection}
variable {pushed : List WatchSection}

/-- What only looks after the session leaves the rest of the client alone. -/
theorem Ran.mind (hhead : head.minds = true)
    (hpushed : ∀ item ∈ pushed, item.minds = true ∨ item = WatchSection.clearSession) :
    Ran client self head client pushed :=
  Ran.minded client.screenRequested client.screenLifecycleMutex hhead hpushed

theorem ran_of_run {succeeds : Bool} {order : List PeerId}
    (h : client.run self succeeds order head = some (client', pushed)) :
    Ran client self head client' pushed := by
  cases head with
  | joinStream peer =>
      simp only [run, Option.some.injEq] at h
      split at h
      · rename_i hmem
        rw [Prod.mk.injEq] at h
        rcases h with ⟨rfl, rfl⟩
        exact Ran.kept (Or.inl ⟨peer, hmem, rfl⟩)
      · rename_i hnew
        rw [Prod.mk.injEq] at h
        rcases h with ⟨rfl, rfl⟩
        exact Ran.joined peer hnew
  | leaveStream peer | peerStoppedStreaming peer =>
      simp only [run, forget, Option.some.injEq] at h
      split at h
      · rename_i hmem
        rw [Prod.mk.injEq] at h
        rcases h with ⟨rfl, rfl⟩
        exact Ran.forgotten peer hmem (by simp)
      · rename_i hnew
        rw [Prod.mk.injEq] at h
        rcases h with ⟨rfl, rfl⟩
        exact Ran.kept (Or.inr ⟨peer, hnew, by simp⟩)
  | leaveStreams | forgetScreen =>
      simp only [run, Option.ite_none_right_eq_some, Option.some.injEq, Prod.mk.injEq] at h
      rcases h with ⟨horder, rfl, rfl⟩
      exact Ran.emptied _ order horder (by simp)
  | handleWatchRejected peer =>
      simp only [run, Option.some.injEq, Prod.mk.injEq] at h
      rcases h with ⟨rfl, rfl⟩
      exact Ran.rejected peer
  | sendWatchStart peer =>
      simp only [run, Option.some.injEq, Prod.mk.injEq] at h
      rcases h with ⟨rfl, rfl⟩
      exact Ran.startSent peer
  | sendWatchStop peer =>
      simp only [run, Option.some.injEq, Prod.mk.injEq] at h
      rcases h with ⟨rfl, rfl⟩
      exact Ran.stopSent peer
  | requestScreen | endStart | closeSession =>
      simp only [run, Option.some.injEq, Prod.mk.injEq] at h
      rcases h with ⟨rfl, rfl⟩
      exact Ran.minded _ _ rfl (by simp)
  | checkScreen =>
      simp only [run, Option.ite_none_right_eq_some] at h
      rcases h with ⟨-, h⟩
      split at h
      · rw [Option.some.injEq, Prod.mk.injEq] at h
        rcases h with ⟨rfl, rfl⟩
        exact Ran.mind rfl (by simp)
      · rw [Option.some.injEq, Prod.mk.injEq] at h
        rcases h with ⟨rfl, rfl⟩
        exact Ran.minded _ _ rfl (by simp [WatchSection.minds])
  | startSession =>
      simp only [run] at h
      split at h
      · rw [Option.some.injEq, Prod.mk.injEq] at h
        rcases h with ⟨rfl, rfl⟩
        exact Ran.mind rfl (by simp [WatchSection.minds])
      · rw [Option.some.injEq, Prod.mk.injEq] at h
        rcases h with ⟨rfl, rfl⟩
        exact Ran.minded _ _ rfl (by simp)
  | retainSession =>
      simp only [run] at h
      split at h
      · rename_i hretains
        rw [Option.ite_none_right_eq_some, Option.some.injEq, Prod.mk.injEq] at h
        rcases h with ⟨horder, rfl, rfl⟩
        simp only [Bool.and_eq_true] at hretains
        exact Ran.retained order horder hretains.2
      · rw [Option.some.injEq, Prod.mk.injEq] at h
        rcases h with ⟨rfl, rfl⟩
        exact Ran.minded _ _ rfl (by simp)
  | clearSession =>
      simp only [run, Option.ite_none_right_eq_some, Option.some.injEq, Prod.mk.injEq] at h
      rcases h with ⟨-, rfl, rfl⟩
      exact Ran.cleared
  | recoverScreen token =>
      simp only [run, Option.some.injEq, Prod.mk.injEq] at h
      rcases h with ⟨rfl, rfl⟩
      refine Ran.mind rfl ?_
      intro item hitem
      split at hitem
      · simp only [List.mem_cons, List.not_mem_nil, or_false] at hitem
        rcases hitem with rfl | rfl
        · exact Or.inr rfl
        · exact Or.inl rfl
      · exact absurd hitem List.not_mem_nil

end WatchClient

end Client
end Driscord
