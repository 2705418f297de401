import Driscord.Library.Table
import Driscord.Signaling.Protocol
import Mathlib.Data.Finset.Insert

/-!
# The transport of the client

`Transport` keeps the peers that the server told it of.  A message is handled in
several updates, each under a mutex of its own or a call of a callback; this module
has the updates of every message and what they come to when no other call
interferes.

The roster is the transport with the streaming peers, which only the callbacks tell
of.

Main results:

- Theorem `Roster.receive_encode`: a well-formed message is handled as it was sent.
-/

namespace Driscord
namespace Client

open Library Signaling

/-- A socket; every connection has its own. -/
abbrev SocketId := Nat

/-- `Transport`. -/
structure Transport where
  ws : Option SocketId := none
  wsConnected : Bool := false
  localId : PeerId := ⟨[]⟩
  peers : Finset PeerId := ∅
  peerUsernames : Table PeerId Username := ∅

/-- The calls of the callbacks that a message leads to. -/
inductive PeerEvent where
  | peerIdentity (id : PeerId) (username : Username)
  | peerJoined (id : PeerId)
  | peerLeft (id : PeerId)
  | streamingStarted (id : PeerId)
  | streamingStopped (id : PeerId)
  | mediaAnswer (connection : ConnectionId) (sdp : Bytes)
  | mediaCandidate (connection : ConnectionId) (candidate sdpMid : Bytes)
  | mediaTrackBinding (connection : ConnectionId) (sdpMid : Bytes) (peerId : Option PeerId)
  | watchRejected (id : PeerId) (reason : WatchRejectReason)
deriving DecidableEq, Repr

/-- The updates of `on_ws_message`. -/
inductive TransportUpdate where
  | storeLocalId (id : PeerId)
  | storeUsername (id : PeerId) (username : Username)
  | insertPeer (id : PeerId)
  | erasePeer (id : PeerId)
  | eraseUsername (id : PeerId)
  | notify (event : PeerEvent)
deriving DecidableEq, Repr

/-- `set_peer_identity_`. -/
def setPeerIdentity (id : PeerId) (username : Username) : List TransportUpdate :=
  if username.value = [] then []
  else
    [TransportUpdate.storeUsername id username,
      TransportUpdate.notify (PeerEvent.peerIdentity id username)]

/-- A peer of a welcome, or one that joins. -/
def joinUpdates (id : PeerId) (username : Username) : List TransportUpdate :=
  setPeerIdentity id username ++
    [TransportUpdate.insertPeer id, TransportUpdate.notify (PeerEvent.peerJoined id)]

/-- The updates of a message. -/
def messageUpdates : Message → List TransportUpdate
  | Message.welcome id peers streamingPeers =>
      TransportUpdate.storeLocalId id ::
        (peers.flatMap fun peer => joinUpdates peer.id peer.username) ++
          streamingPeers.map fun peer => TransportUpdate.notify (PeerEvent.streamingStarted peer)
  | Message.peerJoined id username => joinUpdates id username
  | Message.peerLeft id =>
      [TransportUpdate.erasePeer id, TransportUpdate.eraseUsername id,
        TransportUpdate.notify (PeerEvent.peerLeft id)]
  | Message.answer sdp connection =>
      [TransportUpdate.notify (PeerEvent.mediaAnswer connection sdp)]
  | Message.candidate candidate sdpMid connection =>
      [TransportUpdate.notify (PeerEvent.mediaCandidate connection candidate sdpMid)]
  | Message.trackBinding sdpMid peerId connection =>
      [TransportUpdate.notify (PeerEvent.mediaTrackBinding connection sdpMid peerId)]
  | Message.streamingStart (some sender) =>
      [TransportUpdate.notify (PeerEvent.streamingStarted sender)]
  | Message.streamingStop (some sender) =>
      [TransportUpdate.notify (PeerEvent.streamingStopped sender)]
  | Message.watchRejected peerId reason =>
      [TransportUpdate.notify (PeerEvent.watchRejected peerId reason)]
  | Message.streamingStart none | Message.streamingStop none | Message.watchStart _
  | Message.watchStop _ | Message.offer .. => []

/-- The updates of `on_ws_message`. -/
def onWsMessage (raw : Option Json) : List TransportUpdate :=
  match parse raw with
  | Except.error _ => []
  | Except.ok message => messageUpdates message

namespace Transport

/-- `peer_username`. -/
def peerUsername (transport : Transport) (id : PeerId) : Username :=
  (transport.peerUsernames.lookup id).getD ⟨[]⟩

/-- One update. -/
def update (transport : Transport) : TransportUpdate → Transport
  | TransportUpdate.storeLocalId id => { transport with localId := id }
  | TransportUpdate.storeUsername id username =>
      { transport with peerUsernames := transport.peerUsernames.insert id username }
  | TransportUpdate.insertPeer id => { transport with peers := insert id transport.peers }
  | TransportUpdate.erasePeer id => { transport with peers := transport.peers.erase id }
  | TransportUpdate.eraseUsername id =>
      { transport with peerUsernames := transport.peerUsernames.erase id }
  | TransportUpdate.notify _ => transport

end Transport

/-! ## The roster -/

/-- What a client knows of its room. -/
structure Roster where
  transport : Transport := {}
  streaming : Finset PeerId := ∅

namespace Roster

/-- The streaming peers after a callback. -/
def hear (streaming : Finset PeerId) : PeerEvent → Finset PeerId
  | PeerEvent.streamingStarted id => insert id streaming
  | PeerEvent.streamingStopped id | PeerEvent.peerLeft id => streaming.erase id
  | _ => streaming

/-- One update. -/
def update (roster : Roster) (step : TransportUpdate) : Roster where
  transport := roster.transport.update step
  streaming :=
    match step with
    | TransportUpdate.notify event => hear roster.streaming event
    | _ => roster.streaming

/-- All updates of a text. -/
def receive (roster : Roster) (raw : Option Json) : Roster :=
  (onWsMessage raw).foldl update roster

/-- All updates of a message. -/
def handle (roster : Roster) (message : Message) : Roster :=
  (messageUpdates message).foldl update roster

/-- A well-formed message is handled as it was sent. -/
theorem receive_encode (roster : Roster) {message : Message} (hwell : message.WellFormed)
    (hvalid : message.strings.all validUtf8 = true) :
    roster.receive (some (encode message)) = roster.handle message := by
  rw [receive, handle, onWsMessage, parse, valid_encode, if_pos hvalid, parseJson_encode hwell]

/-! ## Messages of the roster -/

/-- What a join does. -/
theorem foldl_joinUpdates (roster : Roster) (id : PeerId) (username : Username) :
    ((joinUpdates id username).foldl update roster).transport.peers =
        insert id roster.transport.peers ∧
      ((joinUpdates id username).foldl update roster).streaming = roster.streaming ∧
      ((joinUpdates id username).foldl update roster).transport.peerUsernames =
        if username.value = [] then roster.transport.peerUsernames
        else roster.transport.peerUsernames.insert id username := by
  unfold joinUpdates setPeerIdentity
  by_cases hempty : username.value = []
  · simp [hempty, update, Transport.update, hear]
  · simp [hempty, update, Transport.update, hear]

/-- A peer that was not known before is known by its username after it joined. -/
theorem peerUsername_join (roster : Roster) {id : PeerId} (username : Username)
    (hnew : roster.transport.peerUsername id = ⟨[]⟩) (other : PeerId) :
    ((joinUpdates id username).foldl update roster).transport.peerUsername other =
      if other = id then username else roster.transport.peerUsername other := by
  have hnames := (foldl_joinUpdates roster id username).2.2
  rw [Transport.peerUsername, hnames]
  by_cases hempty : username.value = []
  · rw [if_pos hempty]
    split
    · rename_i hsame
      rw [hsame]
      exact hnew.trans (by cases username; simp_all)
    · rfl
  · rw [if_neg hempty]
    split
    · rename_i hsame
      rw [hsame, AList.lookup_insert, Option.getD_some]
    · rename_i hother
      rw [AList.lookup_insert_ne hother]
      rfl

/-- What the peers of a welcome do. -/
theorem foldl_peers (peers : List PeerIdentity) (hnodup : (peers.map PeerIdentity.id).Nodup)
    (roster : Roster) (hnew : ∀ peer ∈ peers, roster.transport.peerUsername peer.id = ⟨[]⟩) :
    let welcomed := (peers.flatMap fun peer => joinUpdates peer.id peer.username).foldl update
      roster
    (∀ other, other ∈ welcomed.transport.peers ↔
      other ∈ roster.transport.peers ∨ other ∈ peers.map PeerIdentity.id) ∧
    welcomed.streaming = roster.streaming ∧
    (∀ peer ∈ peers, welcomed.transport.peerUsername peer.id = peer.username) ∧
    ∀ other, other ∉ peers.map PeerIdentity.id →
      welcomed.transport.peerUsername other = roster.transport.peerUsername other := by
  induction peers generalizing roster with
  | nil => simp
  | cons peer peers ih =>
      rw [List.map_cons, List.nodup_cons] at hnodup
      have hpeer := hnew peer List.mem_cons_self
      rcases foldl_joinUpdates roster peer.id peer.username with ⟨hpeers, hstreaming, _⟩
      have hname := peerUsername_join roster peer.username hpeer
      have hrest : ∀ other ∈ peers, ((joinUpdates peer.id peer.username).foldl update
          roster).transport.peerUsername other.id = ⟨[]⟩ := by
        intro other hother
        have hne : other.id ≠ peer.id := by
          intro hsame
          exact hnodup.1 (hsame ▸ List.mem_map_of_mem hother)
        rw [hname, if_neg hne]
        exact hnew other (List.mem_cons_of_mem _ hother)
      rcases ih hnodup.2 _ hrest with ⟨hmem, hstream, hnames, hothers⟩
      simp only [List.flatMap_cons, List.foldl_append]
      refine ⟨?_, hstream.trans hstreaming, ?_, ?_⟩
      · intro other
        rw [hmem, hpeers, Finset.mem_insert, List.map_cons, List.mem_cons]
        tauto
      · intro other hother
        rcases List.mem_cons.mp hother with rfl | hlater
        · rw [hothers _ hnodup.1, hname, if_pos rfl]
        · exact hnames other hlater
      · intro other hother
        rw [List.map_cons, List.mem_cons, not_or] at hother
        rw [hothers other hother.2, hname, if_neg hother.1]

/-- What the streaming peers of a welcome do. -/
theorem foldl_streamingPeers (peers : List PeerId) (roster : Roster) :
    let told := (peers.map fun peer =>
      TransportUpdate.notify (PeerEvent.streamingStarted peer)).foldl update roster
    told.transport = roster.transport ∧
      ∀ other, other ∈ told.streaming ↔ other ∈ roster.streaming ∨ other ∈ peers := by
  induction peers generalizing roster with
  | nil => simp
  | cons peer peers ih =>
      rcases ih (roster.update (TransportUpdate.notify (PeerEvent.streamingStarted peer))) with
        ⟨htransport, hstreaming⟩
      refine ⟨htransport, ?_⟩
      intro other
      rw [List.map_cons, List.foldl_cons, hstreaming, List.mem_cons]
      simp only [update, hear, Finset.mem_insert]
      tauto

/-- What a welcome does to a new connection. -/
theorem handle_welcome (id : PeerId) {peers : List PeerIdentity}
    (hnodup : (peers.map PeerIdentity.id).Nodup) (streamingPeers : List PeerId) :
    let welcomed := ({} : Roster).handle (Message.welcome id peers streamingPeers)
    (∀ other, other ∈ welcomed.transport.peers ↔ other ∈ peers.map PeerIdentity.id) ∧
    (∀ peer ∈ peers, welcomed.transport.peerUsername peer.id = peer.username) ∧
    (∀ other, other ∉ peers.map PeerIdentity.id →
      welcomed.transport.peerUsername other = ⟨[]⟩) ∧
    ∀ other, other ∈ welcomed.streaming ↔ other ∈ streamingPeers := by
  have hpeers := foldl_peers peers hnodup { transport := { localId := id } } fun _ _ => rfl
  rcases hpeers with ⟨hmem, hstreaming, hnames, hothers⟩
  have htold := foldl_streamingPeers streamingPeers
    ((peers.flatMap fun peer => joinUpdates peer.id peer.username).foldl update
      { transport := { localId := id } })
  rcases htold with ⟨htransport, hstarted⟩
  have hhandle : ({} : Roster).handle (Message.welcome id peers streamingPeers) =
      (streamingPeers.map fun peer =>
        TransportUpdate.notify (PeerEvent.streamingStarted peer)).foldl update
        ((peers.flatMap fun peer => joinUpdates peer.id peer.username).foldl update
          { transport := { localId := id } }) := by
    rw [handle, messageUpdates, List.foldl_append]
    rfl
  simp only [hhandle, htransport]
  refine ⟨?_, hnames, hothers, ?_⟩
  · intro other
    rw [hmem]
    simp
  · intro other
    rw [hstarted, hstreaming]
    simp

/-- What the end of a peer does. -/
theorem handle_peerLeft (roster : Roster) (id : PeerId) :
    (roster.handle (Message.peerLeft id)).transport.peers = roster.transport.peers.erase id ∧
      (roster.handle (Message.peerLeft id)).streaming = roster.streaming.erase id ∧
      ∀ other, (roster.handle (Message.peerLeft id)).transport.peerUsername other =
        if other = id then ⟨[]⟩ else roster.transport.peerUsername other := by
  refine ⟨rfl, rfl, ?_⟩
  intro other
  have hnames : (roster.handle (Message.peerLeft id)).transport.peerUsernames =
      roster.transport.peerUsernames.erase id := rfl
  rw [Transport.peerUsername, hnames]
  split
  · rename_i hsame
    rw [hsame, AList.lookup_erase, Option.getD_none]
  · rename_i hother
    rw [AList.lookup_erase_ne hother]
    rfl

end Roster

end Client
end Driscord
