import Driscord.Identity
import Driscord.Signaling.Json

/-!
# The signaling protocol

The twelve messages between the server and its clients, their JSON encoding and
its parser.  Fields are required, optional or may be absent, as the parser has it;
a message that keeps its required fields non-empty is well formed.

Main results:

- Theorem `parseJson_encode`: a well-formed message is parsed back.
- Theorem `valid_encode`: a message whose strings are valid UTF-8 can be dumped.
-/

namespace Driscord
namespace Signaling

/-! ## Messages -/

inductive ConnectionId where
  | voice
  | screen
deriving DecidableEq, Repr

inductive WatchRejectReason where
  | unknownPeer
  | notStreaming
  | capacity
deriving DecidableEq, Repr

inductive ParseError where
  | invalidJson
  | missingType
  | unknownType
  | missingField
  | invalidField
deriving DecidableEq, Repr

structure PeerIdentity where
  id : PeerId
  username : Username
deriving DecidableEq, Repr

/-- `signaling::Message`.  The field `from` of the streaming messages is called
`sender`. -/
inductive Message where
  | welcome (id : PeerId) (peers : List PeerIdentity) (streamingPeers : List PeerId)
  | peerJoined (id : PeerId) (username : Username)
  | peerLeft (id : PeerId)
  | offer (sdp : Bytes) (connection : ConnectionId)
  | answer (sdp : Bytes) (connection : ConnectionId)
  | candidate (candidate sdpMid : Bytes) (connection : ConnectionId)
  | trackBinding (sdpMid : Bytes) (peerId : Option PeerId) (connection : ConnectionId)
  | streamingStart (sender : Option PeerId)
  | streamingStop (sender : Option PeerId)
  | watchStart (peerId : PeerId)
  | watchStop (peerId : PeerId)
  | watchRejected (peerId : PeerId) (reason : WatchRejectReason)
deriving DecidableEq, Repr

/-- `to_string` of a connection. -/
def ConnectionId.toText : ConnectionId → Bytes
  | voice => text "voice"
  | screen => text "screen"

/-- `to_string` of a reason. -/
def WatchRejectReason.toText : WatchRejectReason → Bytes
  | unknownPeer => text "unknown_peer"
  | notStreaming => text "not_streaming"
  | capacity => text "capacity"

/-! ## Encoding -/

/-- `with_type`, and the members set after it. -/
def withType (type : String) (members : List (Bytes × Json)) : Json :=
  Json.object ((text "type", Json.string (text type)) :: members)

/-- `add_from`. -/
def addFrom (sender : Option PeerId) : List (Bytes × Json) :=
  match sender with
  | some peer => if peer.value = [] then [] else [(text "from", Json.string peer.value)]
  | none => []

/-- `add_connection`. -/
def addConnection (connection : ConnectionId) : List (Bytes × Json) :=
  [(text "connection", Json.string connection.toText)]

/-- A peer of a welcome. -/
def PeerIdentity.encode (peer : PeerIdentity) : Json :=
  Json.object
    [(text "id", Json.string peer.id.value),
      (text "username", Json.string peer.username.value)]

/-- `encode`. -/
def encode : Message → Json
  | Message.welcome id peers streamingPeers =>
      withType "welcome"
        [(text "id", Json.string id.value),
          (text "peers", Json.array (peers.map PeerIdentity.encode)),
          (text "streaming_peers",
            Json.array (streamingPeers.map fun peer => Json.string peer.value))]
  | Message.peerJoined id username =>
      withType "peer_joined"
        [(text "id", Json.string id.value), (text "username", Json.string username.value)]
  | Message.peerLeft id => withType "peer_left" [(text "id", Json.string id.value)]
  | Message.offer sdp connection =>
      withType "offer" ((text "sdp", Json.string sdp) :: addConnection connection)
  | Message.answer sdp connection =>
      withType "answer" ((text "sdp", Json.string sdp) :: addConnection connection)
  | Message.candidate candidate sdpMid connection =>
      withType "candidate"
        ((text "candidate", Json.string candidate) :: (text "sdpMid", Json.string sdpMid) ::
          addConnection connection)
  | Message.trackBinding sdpMid peerId connection =>
      withType "track_binding"
        ((text "sdpMid", Json.string sdpMid) ::
          (text "peerId", (peerId.map fun peer => Json.string peer.value).getD Json.null) ::
          addConnection connection)
  | Message.streamingStart sender => withType "streaming_start" (addFrom sender)
  | Message.streamingStop sender => withType "streaming_stop" (addFrom sender)
  | Message.watchStart peerId =>
      withType "watch_start" [(text "peerId", Json.string peerId.value)]
  | Message.watchStop peerId =>
      withType "watch_stop" [(text "peerId", Json.string peerId.value)]
  | Message.watchRejected peerId reason =>
      withType "watch_rejected"
        [(text "peerId", Json.string peerId.value), (text "reason", Json.string reason.toText)]

/-- `dump` of a message. -/
def dump (message : Message) : Except JsonError Json :=
  (encode message).dump

/-! ## Parsing -/

/-- `required_string`. -/
def requiredString (json : Json) (key : String) : Option Bytes :=
  match json.find (text key) with
  | some (Json.string value) => if value = [] then none else some value
  | _ => none

/-- `optional_string`. -/
def optionalString (json : Json) (key : String) : Option Bytes :=
  match json.find (text key) with
  | none | some Json.null => none
  | some (Json.string value) => some value
  | some _ => some []

/-- `required_peer_id`. -/
def requiredPeerId (json : Json) (key : String) : Option PeerId :=
  (requiredString json key).map PeerId.mk

/-- `optional_peer_id`. -/
def optionalPeerId (json : Json) (key : String) : Option PeerId :=
  match optionalString json key with
  | none | some [] => none
  | some value => some ⟨value⟩

/-- The optional field `username`. -/
def parseUsername (json : Json) : Username :=
  ⟨(optionalString json "username").getD []⟩

/-- A missing required field is an error. -/
def orMissing {α : Type} (value : Option α) : Except ParseError α :=
  match value with
  | some value => Except.ok value
  | none => Except.error ParseError.missingField

/-- `parse_connection`. -/
def parseConnection (json : Json) : Except ParseError ConnectionId :=
  match json.find (text "connection") with
  | none => Except.error ParseError.missingField
  | some (Json.string value) =>
      if value = text "voice" then Except.ok ConnectionId.voice
      else if value = text "screen" then Except.ok ConnectionId.screen
      else Except.error ParseError.invalidField
  | some _ => Except.error ParseError.invalidField

/-- `parse_watch_reject_reason`. -/
def parseWatchRejectReason (json : Json) : Except ParseError WatchRejectReason :=
  match requiredString json "reason" with
  | none => Except.error ParseError.missingField
  | some value =>
      if value = text "unknown_peer" then Except.ok WatchRejectReason.unknownPeer
      else if value = text "not_streaming" then Except.ok WatchRejectReason.notStreaming
      else if value = text "capacity" then Except.ok WatchRejectReason.capacity
      else Except.error ParseError.invalidField

/-- A peer of a welcome. -/
def parsePeerIdentity (json : Json) : Except ParseError PeerIdentity :=
  match json, requiredPeerId json "id" with
  | Json.object _, some id => Except.ok ⟨id, parseUsername json⟩
  | _, _ => Except.error ParseError.invalidField

/-- The field `peers` of a welcome. -/
def parsePeers (json : Json) : Except ParseError (List PeerIdentity) :=
  match json.find (text "peers") with
  | none => Except.ok []
  | some (Json.array items) => items.mapM parsePeerIdentity
  | some _ => Except.error ParseError.invalidField

/-- A peer of the field `streaming_peers`. -/
def parseStreamingPeer : Json → Except ParseError PeerId
  | Json.string value => Except.ok ⟨value⟩
  | _ => Except.error ParseError.invalidField

/-- The field `streaming_peers` of a welcome. -/
def parseStreamingPeers (json : Json) : Except ParseError (List PeerId) :=
  match json.find (text "streaming_peers") with
  | none => Except.ok []
  | some (Json.array items) => do
      let peers ← items.mapM parseStreamingPeer
      return peers.filter fun peer => peer.value ≠ []
  | some _ => Except.error ParseError.invalidField

/-- The field `peerId` of a track binding. -/
def parseBoundPeer (json : Json) : Except ParseError (Option PeerId) :=
  match json.find (text "peerId") with
  | none => Except.error ParseError.missingField
  | some (Json.string value) =>
      if value = [] then Except.error ParseError.invalidField else Except.ok (some ⟨value⟩)
  | some Json.null => Except.ok none
  | some _ => Except.error ParseError.invalidField

/-- The branches of `parse_json`. -/
def parseTyped (json : Json) (type : Bytes) : Except ParseError Message :=
  if type = text "welcome" then do
    let id ← orMissing (requiredPeerId json "id")
    let peers ← parsePeers json
    let streamingPeers ← parseStreamingPeers json
    return Message.welcome id peers streamingPeers
  else if type = text "peer_joined" then do
    let id ← orMissing (requiredPeerId json "id")
    return Message.peerJoined id (parseUsername json)
  else if type = text "peer_left" then do
    let id ← orMissing (requiredPeerId json "id")
    return Message.peerLeft id
  else if type = text "offer" then do
    let sdp ← orMissing (requiredString json "sdp")
    let connection ← parseConnection json
    return Message.offer sdp connection
  else if type = text "answer" then do
    let sdp ← orMissing (requiredString json "sdp")
    let connection ← parseConnection json
    return Message.answer sdp connection
  else if type = text "candidate" then do
    let candidate ← orMissing (requiredString json "candidate")
    let sdpMid ← orMissing (requiredString json "sdpMid")
    let connection ← parseConnection json
    return Message.candidate candidate sdpMid connection
  else if type = text "track_binding" then do
    let sdpMid ← orMissing (requiredString json "sdpMid")
    let peerId ← parseBoundPeer json
    let connection ← parseConnection json
    return Message.trackBinding sdpMid peerId connection
  else if type = text "streaming_start" then
    Except.ok (Message.streamingStart (optionalPeerId json "from"))
  else if type = text "streaming_stop" then
    Except.ok (Message.streamingStop (optionalPeerId json "from"))
  else if type = text "watch_start" then do
    let peerId ← orMissing (requiredPeerId json "peerId")
    return Message.watchStart peerId
  else if type = text "watch_stop" then do
    let peerId ← orMissing (requiredPeerId json "peerId")
    return Message.watchStop peerId
  else if type = text "watch_rejected" then do
    let peerId ← orMissing (requiredPeerId json "peerId")
    let reason ← parseWatchRejectReason json
    return Message.watchRejected peerId reason
  else Except.error ParseError.unknownType

/-- `parse_json`. -/
def parseJson (json : Json) : Except ParseError Message :=
  match json with
  | Json.object _ =>
      match requiredString json "type" with
      | none => Except.error ParseError.missingType
      | some type => parseTyped json type
  | _ => Except.error ParseError.invalidField

/-- `parse`: `none` is a text that is no JSON, and no text holds a string that is
not UTF-8. -/
def parse (raw : Option Json) : Except ParseError Message :=
  match raw with
  | none => Except.error ParseError.invalidJson
  | some json => if json.valid then parseJson json else Except.error ParseError.invalidJson

/-! ## Round trip -/

/-- The required fields are not empty, and no optional or listed id is. -/
def Message.WellFormed : Message → Prop
  | welcome id peers streamingPeers =>
      id.value ≠ [] ∧ (∀ peer ∈ peers, peer.id.value ≠ []) ∧
        ∀ peer ∈ streamingPeers, peer.value ≠ []
  | peerJoined id _ | peerLeft id | watchStart id | watchStop id | watchRejected id _ =>
      id.value ≠ []
  | offer sdp _ | answer sdp _ => sdp ≠ []
  | candidate line sdpMid _ => line ≠ [] ∧ sdpMid ≠ []
  | trackBinding sdpMid peerId _ => sdpMid ≠ [] ∧ ∀ peer ∈ peerId, peer.value ≠ []
  | streamingStart sender | streamingStop sender => ∀ peer ∈ sender, peer.value ≠ []

theorem parseConnection_addConnection {json : Json} (connection : ConnectionId)
    (h : json.find (text "connection") = some (Json.string connection.toText)) :
    parseConnection json = Except.ok connection := by
  cases connection <;> simp [parseConnection, h, ConnectionId.toText]

theorem parsePeers_encode {json : Json} {peers : List PeerIdentity}
    (h : json.find (text "peers") = some (Json.array (peers.map PeerIdentity.encode)))
    (hids : ∀ peer ∈ peers, peer.id.value ≠ []) : parsePeers json = Except.ok peers := by
  simp only [parsePeers, h]
  clear h
  induction peers with
  | nil => rfl
  | cons peer peers ih =>
      have hid := hids peer List.mem_cons_self
      have hpeer : parsePeerIdentity peer.encode = Except.ok peer := by
        simp [parsePeerIdentity, PeerIdentity.encode, requiredPeerId, requiredString, parseUsername,
          optionalString, Json.find_cons, hid]
      rw [List.map_cons, List.mapM_cons, hpeer,
        ih fun other hother => hids other (List.mem_cons_of_mem _ hother)]
      rfl

theorem parseStreamingPeers_encode {json : Json} {peers : List PeerId}
    (h : json.find (text "streaming_peers") =
      some (Json.array (peers.map fun peer => Json.string peer.value)))
    (hids : ∀ peer ∈ peers, peer.value ≠ []) : parseStreamingPeers json = Except.ok peers := by
  have hparse : (peers.map fun peer => Json.string peer.value).mapM parseStreamingPeer =
      Except.ok peers := by
    clear h hids
    induction peers with
    | nil => rfl
    | cons peer peers ih =>
        rw [List.map_cons, List.mapM_cons, ih]
        rfl
  have hfilter : peers.filter (fun peer => peer.value ≠ []) = peers := by
    rw [List.filter_eq_self]
    exact fun peer hpeer => by simpa using hids peer hpeer
  simp only [parseStreamingPeers, h, hparse]
  exact congrArg Except.ok hfilter

theorem optionalPeerId_addFrom {type : String} {sender : Option PeerId}
    (h : ∀ peer ∈ sender, peer.value ≠ []) :
    optionalPeerId (withType type (addFrom sender)) "from" = sender := by
  cases sender with
  | none => simp [optionalPeerId, optionalString, withType, addFrom, Json.find_cons]
  | some peer =>
      have hpeer := h peer rfl
      simp [optionalPeerId, optionalString, withType, addFrom, Json.find_cons, hpeer]

theorem parseJson_withType {type : String} {members : List (Bytes × Json)} (h : type ≠ "") :
    parseJson (withType type members) = parseTyped (withType type members) (text type) := by
  have hne : text type ≠ [] := by
    intro hnil
    exact h (text_inj.mp (hnil.trans rfl))
  simp [parseJson, withType, requiredString, Json.find_cons, hne]

theorem parseBoundPeer_encode {json : Json} {peerId : Option PeerId}
    (h : json.find (text "peerId") =
      some ((peerId.map fun peer => Json.string peer.value).getD Json.null))
    (hid : ∀ peer ∈ peerId, peer.value ≠ []) : parseBoundPeer json = Except.ok peerId := by
  cases peerId with
  | none => simp [parseBoundPeer, h]
  | some peer =>
      have hpeer := hid peer rfl
      simp [parseBoundPeer, h, hpeer]

theorem parseWatchRejectReason_encode {json : Json} (reason : WatchRejectReason)
    (h : json.find (text "reason") = some (Json.string reason.toText)) :
    parseWatchRejectReason json = Except.ok reason := by
  have hne : reason.toText ≠ [] := by cases reason <;> decide
  cases reason <;>
    simp_all [parseWatchRejectReason, requiredString, WatchRejectReason.toText]

theorem orMissing_requiredString {json : Json} {key : String} {value : Bytes}
    (h : json.find (text key) = some (Json.string value)) (hne : value ≠ []) :
    orMissing (requiredString json key) = Except.ok value := by
  simp [orMissing, requiredString, h, hne]

theorem orMissing_requiredPeerId {json : Json} {key : String} {peer : PeerId}
    (h : json.find (text key) = some (Json.string peer.value)) (hne : peer.value ≠ []) :
    orMissing (requiredPeerId json key) = Except.ok peer := by
  simp [orMissing, requiredPeerId, requiredString, h, hne]

/-- A well-formed message is parsed back. -/
theorem parseJson_encode {message : Message} (h : message.WellFormed) :
    parseJson (encode message) = Except.ok message := by
  cases message with
  | welcome id peers streamingPeers =>
      rcases h with ⟨hid, hpeers, hstreaming⟩
      rw [encode, parseJson_withType (by decide), parseTyped, if_pos rfl,
        orMissing_requiredPeerId (by simp [withType, Json.find_cons]) hid,
        parsePeers_encode (by simp [withType, Json.find_cons]) hpeers,
        parseStreamingPeers_encode (by simp [withType, Json.find_cons]) hstreaming]
      rfl
  | peerJoined id username =>
      rw [encode, parseJson_withType (by decide)]
      simp only [parseTyped, text_inj, String.reduceEq, if_false, if_true]
      rw [orMissing_requiredPeerId (by simp [withType, Json.find_cons]) h]
      simp [parseUsername, optionalString, withType, Json.find_cons, Bind.bind, Except.bind, pure,
        Except.pure]
  | peerLeft id =>
      rw [encode, parseJson_withType (by decide)]
      simp only [parseTyped, text_inj, String.reduceEq, if_false, if_true]
      rw [orMissing_requiredPeerId (by simp [withType, Json.find_cons]) h]
      rfl
  | offer sdp connection | answer sdp connection =>
      rw [encode, parseJson_withType (by decide)]
      simp only [parseTyped, text_inj, String.reduceEq, if_false, if_true]
      rw [orMissing_requiredString (by simp [withType, Json.find_cons]) h,
        parseConnection_addConnection connection (by simp [withType, addConnection, Json.find_cons])]
      rfl
  | candidate line sdpMid connection =>
      rw [encode, parseJson_withType (by decide)]
      simp only [parseTyped, text_inj, String.reduceEq, if_false, if_true]
      rw [orMissing_requiredString (by simp [withType, Json.find_cons]) h.1,
        orMissing_requiredString (by simp [withType, Json.find_cons]) h.2,
        parseConnection_addConnection connection (by simp [withType, addConnection, Json.find_cons])]
      rfl
  | trackBinding sdpMid peerId connection =>
      rw [encode, parseJson_withType (by decide)]
      simp only [parseTyped, text_inj, String.reduceEq, if_false, if_true]
      rw [orMissing_requiredString (by simp [withType, Json.find_cons]) h.1,
        parseBoundPeer_encode (by simp [withType, Json.find_cons]) h.2,
        parseConnection_addConnection connection (by simp [withType, addConnection, Json.find_cons])]
      rfl
  | streamingStart sender | streamingStop sender =>
      rw [encode, parseJson_withType (by decide)]
      simp only [parseTyped, text_inj, String.reduceEq, if_false, if_true]
      rw [optionalPeerId_addFrom h]
  | watchStart peerId | watchStop peerId =>
      rw [encode, parseJson_withType (by decide)]
      simp only [parseTyped, text_inj, String.reduceEq, if_false, if_true]
      rw [orMissing_requiredPeerId (by simp [withType, Json.find_cons]) h]
      rfl
  | watchRejected peerId reason =>
      rw [encode, parseJson_withType (by decide)]
      simp only [parseTyped, text_inj, String.reduceEq, if_false, if_true]
      rw [orMissing_requiredPeerId (by simp [withType, Json.find_cons]) h,
        parseWatchRejectReason_encode reason (by simp [withType, Json.find_cons])]
      rfl

/-! ## What is parsed -/

/-- The fields of the message are those of the value. -/
def Message.ReadFrom (json : Json) : Message → Prop
  | welcome id peers streamingPeers =>
      requiredPeerId json "id" = some id ∧ parsePeers json = Except.ok peers ∧
        parseStreamingPeers json = Except.ok streamingPeers
  | peerJoined id username => requiredPeerId json "id" = some id ∧ parseUsername json = username
  | peerLeft id => requiredPeerId json "id" = some id
  | offer sdp connection | answer sdp connection =>
      requiredString json "sdp" = some sdp ∧ parseConnection json = Except.ok connection
  | candidate line sdpMid connection =>
      requiredString json "candidate" = some line ∧ requiredString json "sdpMid" = some sdpMid ∧
        parseConnection json = Except.ok connection
  | trackBinding sdpMid peerId connection =>
      requiredString json "sdpMid" = some sdpMid ∧ parseBoundPeer json = Except.ok peerId ∧
        parseConnection json = Except.ok connection
  | streamingStart sender | streamingStop sender => optionalPeerId json "from" = sender
  | watchStart peerId | watchStop peerId => requiredPeerId json "peerId" = some peerId
  | watchRejected peerId reason =>
      requiredPeerId json "peerId" = some peerId ∧ parseWatchRejectReason json = Except.ok reason

theorem bind_eq_ok {ε α β : Type} {value : Except ε α} {f : α → Except ε β} {result : β}
    (h : (value >>= f) = Except.ok result) :
    ∃ middle, value = Except.ok middle ∧ f middle = Except.ok result := by
  cases value with
  | error error => contradiction
  | ok middle => exact ⟨middle, rfl, h⟩

theorem eq_some_of_orMissing {α : Type} {value : Option α} {result : α}
    (h : orMissing value = Except.ok result) : value = some result := by
  cases value with
  | none => contradiction
  | some found => rw [Except.ok.inj h]

/-- What a branch of the parser returns was read from the value. -/
theorem readFrom_of_parseTyped {json : Json} {type : Bytes} {message : Message}
    (h : parseTyped json type = Except.ok message) : message.ReadFrom json := by
  unfold parseTyped at h
  by_cases hwelcome : type = text "welcome"
  · rw [if_pos hwelcome] at h
    rcases bind_eq_ok h with ⟨id, hid, h⟩
    rcases bind_eq_ok h with ⟨peers, hpeers, h⟩
    rcases bind_eq_ok h with ⟨streamingPeers, hstreaming, h⟩
    rw [← Except.ok.inj h]
    exact ⟨eq_some_of_orMissing hid, hpeers, hstreaming⟩
  rw [if_neg hwelcome] at h
  by_cases hjoined : type = text "peer_joined"
  · rw [if_pos hjoined] at h
    rcases bind_eq_ok h with ⟨id, hid, h⟩
    rw [← Except.ok.inj h]
    exact ⟨eq_some_of_orMissing hid, rfl⟩
  rw [if_neg hjoined] at h
  by_cases hleft : type = text "peer_left"
  · rw [if_pos hleft] at h
    rcases bind_eq_ok h with ⟨id, hid, h⟩
    rw [← Except.ok.inj h]
    exact eq_some_of_orMissing hid
  rw [if_neg hleft] at h
  by_cases hoffer : type = text "offer"
  · rw [if_pos hoffer] at h
    rcases bind_eq_ok h with ⟨sdp, hsdp, h⟩
    rcases bind_eq_ok h with ⟨connection, hconnection, h⟩
    rw [← Except.ok.inj h]
    exact ⟨eq_some_of_orMissing hsdp, hconnection⟩
  rw [if_neg hoffer] at h
  by_cases hanswer : type = text "answer"
  · rw [if_pos hanswer] at h
    rcases bind_eq_ok h with ⟨sdp, hsdp, h⟩
    rcases bind_eq_ok h with ⟨connection, hconnection, h⟩
    rw [← Except.ok.inj h]
    exact ⟨eq_some_of_orMissing hsdp, hconnection⟩
  rw [if_neg hanswer] at h
  by_cases hcandidate : type = text "candidate"
  · rw [if_pos hcandidate] at h
    rcases bind_eq_ok h with ⟨line, hline, h⟩
    rcases bind_eq_ok h with ⟨sdpMid, hmid, h⟩
    rcases bind_eq_ok h with ⟨connection, hconnection, h⟩
    rw [← Except.ok.inj h]
    exact ⟨eq_some_of_orMissing hline, eq_some_of_orMissing hmid, hconnection⟩
  rw [if_neg hcandidate] at h
  by_cases hbinding : type = text "track_binding"
  · rw [if_pos hbinding] at h
    rcases bind_eq_ok h with ⟨sdpMid, hmid, h⟩
    rcases bind_eq_ok h with ⟨peerId, hpeer, h⟩
    rcases bind_eq_ok h with ⟨connection, hconnection, h⟩
    rw [← Except.ok.inj h]
    exact ⟨eq_some_of_orMissing hmid, hpeer, hconnection⟩
  rw [if_neg hbinding] at h
  by_cases hstart : type = text "streaming_start"
  · rw [if_pos hstart] at h
    rw [← Except.ok.inj h]
    exact rfl
  rw [if_neg hstart] at h
  by_cases hstop : type = text "streaming_stop"
  · rw [if_pos hstop] at h
    rw [← Except.ok.inj h]
    exact rfl
  rw [if_neg hstop] at h
  by_cases hwatch : type = text "watch_start"
  · rw [if_pos hwatch] at h
    rcases bind_eq_ok h with ⟨peerId, hpeer, h⟩
    rw [← Except.ok.inj h]
    exact eq_some_of_orMissing hpeer
  rw [if_neg hwatch] at h
  by_cases hunwatch : type = text "watch_stop"
  · rw [if_pos hunwatch] at h
    rcases bind_eq_ok h with ⟨peerId, hpeer, h⟩
    rw [← Except.ok.inj h]
    exact eq_some_of_orMissing hpeer
  rw [if_neg hunwatch] at h
  by_cases hrejected : type = text "watch_rejected"
  · rw [if_pos hrejected] at h
    rcases bind_eq_ok h with ⟨peerId, hpeer, h⟩
    rcases bind_eq_ok h with ⟨reason, hreason, h⟩
    rw [← Except.ok.inj h]
    exact ⟨eq_some_of_orMissing hpeer, hreason⟩
  rw [if_neg hrejected] at h
  contradiction

theorem readFrom_of_parseJson {json : Json} {message : Message}
    (h : parseJson json = Except.ok message) : message.ReadFrom json := by
  unfold parseJson at h
  split at h
  · split at h
    · contradiction
    · exact readFrom_of_parseTyped h
  · contradiction

theorem find_of_requiredString {json : Json} {key : String} {value : Bytes}
    (h : requiredString json key = some value) :
    json.find (text key) = some (Json.string value) ∧ value ≠ [] := by
  unfold requiredString at h
  split at h
  · rename_i found hfind
    split at h
    · contradiction
    · rename_i hne
      rw [← Option.some.inj h]
      exact ⟨hfind, hne⟩
  · contradiction

theorem find_of_requiredPeerId {json : Json} {key : String} {peer : PeerId}
    (h : requiredPeerId json key = some peer) :
    json.find (text key) = some (Json.string peer.value) ∧ peer.value ≠ [] := by
  rcases Option.map_eq_some_iff.mp h with ⟨value, hvalue, rfl⟩
  exact find_of_requiredString hvalue

/-! ## What can be dumped -/

/-- The strings that a message carries. -/
def Message.strings : Message → List Bytes
  | welcome id peers streamingPeers =>
      id.value :: (peers.flatMap fun peer => [peer.id.value, peer.username.value]) ++
        streamingPeers.map PeerId.value
  | peerJoined id username => [id.value, username.value]
  | peerLeft id | watchStart id | watchStop id | watchRejected id _ => [id.value]
  | offer sdp _ | answer sdp _ => [sdp]
  | candidate line sdpMid _ => [line, sdpMid]
  | trackBinding sdpMid peerId _ => sdpMid :: (peerId.map PeerId.value).toList
  | streamingStart sender | streamingStop sender => (sender.map PeerId.value).toList

theorem valid_addFrom (sender : Option PeerId) :
    Json.validMembers (addFrom sender) = (sender.map PeerId.value).toList.all validUtf8 := by
  cases sender with
  | none => rfl
  | some peer =>
      by_cases hempty : peer.value = []
      · simp [addFrom, hempty, Json.validMembers]
        decide
      · simp [addFrom, hempty, Json.validMembers, Json.valid]

theorem valid_peers (peers : List PeerIdentity) :
    Json.validItems (peers.map PeerIdentity.encode) =
      (peers.flatMap fun peer => [peer.id.value, peer.username.value]).all validUtf8 := by
  induction peers with
  | nil => rfl
  | cons peer peers ih =>
      simp [Json.validItems, ih, PeerIdentity.encode, Json.valid, Json.validMembers,
        Bool.and_assoc]

theorem valid_streamingPeers (peers : List PeerId) :
    Json.validItems (peers.map fun peer => Json.string peer.value) =
      (peers.map PeerId.value).all validUtf8 := by
  induction peers with
  | nil => rfl
  | cons peer peers ih => simp [Json.validItems, ih, Json.valid]

@[simp]
theorem validUtf8_toText_connection (connection : ConnectionId) :
    validUtf8 connection.toText = true := by
  cases connection <;> exact validUtf8_text _

@[simp]
theorem validUtf8_toText_reason (reason : WatchRejectReason) :
    validUtf8 reason.toText = true := by
  cases reason <;> exact validUtf8_text _

/-- A message can be dumped exactly if all its strings are valid UTF-8. -/
theorem valid_encode (message : Message) :
    (encode message).valid = message.strings.all validUtf8 := by
  cases message with
  | streamingStart sender | streamingStop sender =>
      simp [encode, withType, Json.valid, Json.validMembers, valid_addFrom, Message.strings]
  | welcome id peers streamingPeers =>
      simp [encode, withType, Json.valid, Json.validMembers, valid_peers, valid_streamingPeers,
        Message.strings]
  | trackBinding sdpMid peerId connection =>
      cases peerId <;>
        simp [encode, withType, Json.valid, Json.validMembers, addConnection, Message.strings]
  | _ =>
      simp [encode, withType, Json.valid, Json.validMembers, addConnection, Message.strings]

/-! ## Strings of a parsed message -/

theorem validUtf8_of_requiredString {json : Json} {key : String} {value : Bytes}
    (hvalid : json.valid = true) (h : requiredString json key = some value) :
    validUtf8 value = true := by
  have hfind := Json.valid_of_find hvalid (find_of_requiredString h).1
  rwa [Json.valid] at hfind

theorem validUtf8_of_requiredPeerId {json : Json} {key : String} {peer : PeerId}
    (hvalid : json.valid = true) (h : requiredPeerId json key = some peer) :
    validUtf8 peer.value = true := by
  rcases Option.map_eq_some_iff.mp h with ⟨value, hvalue, rfl⟩
  exact validUtf8_of_requiredString hvalid hvalue

theorem validUtf8_of_optionalString {json : Json} {key : String} {value : Bytes}
    (hvalid : json.valid = true) (h : optionalString json key = some value) :
    validUtf8 value = true := by
  unfold optionalString at h
  split at h
  · contradiction
  · contradiction
  · rename_i found hfind
    have hfound := Json.valid_of_find hvalid hfind
    rw [← Option.some.inj h]
    rwa [Json.valid] at hfound
  · rw [← Option.some.inj h]
    exact validUtf8_of_ascii (by simp)

theorem validUtf8_parseUsername {json : Json} (hvalid : json.valid = true) :
    validUtf8 (parseUsername json).value = true := by
  unfold parseUsername
  cases hname : optionalString json "username" with
  | none => exact validUtf8_of_ascii (by simp)
  | some value => exact validUtf8_of_optionalString hvalid hname

theorem validUtf8_of_optionalPeerId {json : Json} {key : String} {peer : PeerId}
    (hvalid : json.valid = true) (h : optionalPeerId json key = some peer) :
    validUtf8 peer.value = true := by
  unfold optionalPeerId at h
  split at h
  · contradiction
  · contradiction
  · rename_i value _ hvalue
    rw [← Option.some.inj h]
    exact validUtf8_of_optionalString hvalid hvalue

theorem mem_of_mapM {α β ε : Type} {f : α → Except ε β} {items : List α} {results : List β}
    (h : items.mapM f = Except.ok results) {result : β} (hresult : result ∈ results) :
    ∃ item ∈ items, f item = Except.ok result := by
  induction items generalizing results with
  | nil =>
      rw [List.mapM_nil] at h
      rw [← Except.ok.inj h] at hresult
      contradiction
  | cons item items ih =>
      rw [List.mapM_cons] at h
      rcases bind_eq_ok h with ⟨first, hfirst, h⟩
      rcases bind_eq_ok h with ⟨rest, hrest, h⟩
      rw [← Except.ok.inj h] at hresult
      rcases List.mem_cons.mp hresult with rfl | hlater
      · exact ⟨item, List.mem_cons_self, hfirst⟩
      · rcases ih hrest hlater with ⟨other, hother, hsame⟩
        exact ⟨other, List.mem_cons_of_mem _ hother, hsame⟩

/-- The peers of a welcome come from the items of its list. -/
theorem mem_of_parsePeers {json : Json} {peers : List PeerIdentity}
    (h : parsePeers json = Except.ok peers) {peer : PeerIdentity} (hpeer : peer ∈ peers) :
    ∃ items item, json.find (text "peers") = some (Json.array items) ∧ item ∈ items ∧
      requiredPeerId item "id" = some peer.id ∧ peer.username = parseUsername item := by
  unfold parsePeers at h
  split at h
  · rw [← Except.ok.inj h] at hpeer
    contradiction
  · rename_i items hfind
    rcases mem_of_mapM h hpeer with ⟨item, hitem, hparse⟩
    refine ⟨items, item, hfind, hitem, ?_⟩
    unfold parsePeerIdentity at hparse
    split at hparse
    · rename_i id hid
      rw [← Except.ok.inj hparse]
      exact ⟨hid, rfl⟩
    · contradiction
  · contradiction

/-- The streaming peers of a welcome come from the items of its list. -/
theorem mem_of_parseStreamingPeers {json : Json} {peers : List PeerId}
    (h : parseStreamingPeers json = Except.ok peers) {peer : PeerId} (hpeer : peer ∈ peers) :
    peer.value ≠ [] ∧ ∃ items, json.find (text "streaming_peers") = some (Json.array items) ∧
      Json.string peer.value ∈ items := by
  unfold parseStreamingPeers at h
  split at h
  · rw [← Except.ok.inj h] at hpeer
    contradiction
  · rename_i items hfind
    rcases bind_eq_ok h with ⟨all, hall, h⟩
    rw [← Except.ok.inj h] at hpeer
    rcases List.mem_filter.mp hpeer with ⟨hmem, hne⟩
    rcases mem_of_mapM hall hmem with ⟨item, hitem, hparse⟩
    refine ⟨by simpa using hne, items, hfind, ?_⟩
    unfold parseStreamingPeer at hparse
    split at hparse
    · rw [← Except.ok.inj hparse]
      exact hitem
    · contradiction
  · contradiction

/-- The bound peer of a track binding is not empty. -/
theorem find_of_parseBoundPeer {json : Json} {peerId : Option PeerId}
    (h : parseBoundPeer json = Except.ok peerId) {peer : PeerId} (hpeer : peerId = some peer) :
    peer.value ≠ [] ∧ json.find (text "peerId") = some (Json.string peer.value) := by
  subst hpeer
  unfold parseBoundPeer at h
  split at h
  · contradiction
  · rename_i value hfind
    split at h
    · contradiction
    · rename_i hne
      rw [← Option.some.inj (Except.ok.inj h)]
      exact ⟨hne, hfind⟩
  · cases h
  · contradiction

/-- The strings of a message that was read from a valid value are valid UTF-8. -/
theorem validUtf8_of_readFrom {json : Json} (hvalid : json.valid = true) {message : Message}
    (h : message.ReadFrom json) : message.strings.all validUtf8 = true := by
  cases message with
  | welcome id peers streamingPeers =>
      rcases h with ⟨hid, hpeers, hstreaming⟩
      rw [Message.strings, List.all_append, List.all_cons, Bool.and_eq_true, Bool.and_eq_true]
      refine ⟨⟨validUtf8_of_requiredPeerId hvalid hid, ?_⟩, ?_⟩
      · rw [List.all_eq_true]
        intro value hvalue
        rcases List.mem_flatMap.mp hvalue with ⟨peer, hpeer, hstring⟩
        rcases mem_of_parsePeers hpeers hpeer with ⟨items, item, hfind, hitem, hpeerId, hname⟩
        have hitemValid := Json.valid_of_mem (Json.valid_of_find hvalid hfind) hitem
        rcases List.mem_cons.mp hstring with rfl | hlast
        · exact validUtf8_of_requiredPeerId hitemValid hpeerId
        · rw [List.mem_singleton.mp hlast, hname]
          exact validUtf8_parseUsername hitemValid
      · rw [List.all_eq_true]
        intro value hvalue
        rcases List.mem_map.mp hvalue with ⟨peer, hpeer, rfl⟩
        rcases mem_of_parseStreamingPeers hstreaming hpeer with ⟨_, items, hfind, hitem⟩
        have hitemValid := Json.valid_of_mem (Json.valid_of_find hvalid hfind) hitem
        rwa [Json.valid] at hitemValid
  | peerJoined id username =>
      rcases h with ⟨hid, rfl⟩
      simp [Message.strings, validUtf8_of_requiredPeerId hvalid hid,
        validUtf8_parseUsername hvalid]
  | peerLeft id | watchStart id | watchStop id =>
      simp [Message.strings, validUtf8_of_requiredPeerId hvalid h]
  | watchRejected id reason => simp [Message.strings, validUtf8_of_requiredPeerId hvalid h.1]
  | offer sdp connection | answer sdp connection =>
      simp [Message.strings, validUtf8_of_requiredString hvalid h.1]
  | candidate line sdpMid connection =>
      simp [Message.strings, validUtf8_of_requiredString hvalid h.1,
        validUtf8_of_requiredString hvalid h.2.1]
  | trackBinding sdpMid peerId connection =>
      have hmid := validUtf8_of_requiredString hvalid h.1
      cases hpeer : peerId with
      | none => simp [Message.strings, hmid]
      | some peer =>
          have hfind := Json.valid_of_find hvalid (find_of_parseBoundPeer h.2.1 hpeer).2
          rw [Json.valid] at hfind
          simp [Message.strings, hmid, hfind]
  | streamingStart sender | streamingStop sender =>
      cases sender with
      | none => rfl
      | some peer => simp [Message.strings, validUtf8_of_optionalPeerId hvalid h]

/-- What is read from a value is well formed. -/
theorem wellFormed_of_readFrom {json : Json} {message : Message} (h : message.ReadFrom json) :
    message.WellFormed := by
  cases message with
  | welcome id peers streamingPeers =>
      rcases h with ⟨hid, hpeers, hstreaming⟩
      refine ⟨(find_of_requiredPeerId hid).2, ?_, ?_⟩
      · intro peer hpeer
        rcases mem_of_parsePeers hpeers hpeer with ⟨_, _, _, _, hpeerId, _⟩
        exact (find_of_requiredPeerId hpeerId).2
      · intro peer hpeer
        exact (mem_of_parseStreamingPeers hstreaming hpeer).1
  | peerJoined id username => exact (find_of_requiredPeerId h.1).2
  | peerLeft id | watchStart id | watchStop id => exact (find_of_requiredPeerId h).2
  | watchRejected id reason => exact (find_of_requiredPeerId h.1).2
  | offer sdp connection | answer sdp connection => exact (find_of_requiredString h.1).2
  | candidate line sdpMid connection =>
      exact ⟨(find_of_requiredString h.1).2, (find_of_requiredString h.2.1).2⟩
  | trackBinding sdpMid peerId connection =>
      refine ⟨(find_of_requiredString h.1).2, ?_⟩
      intro peer hpeer
      exact (find_of_parseBoundPeer h.2.1 hpeer).1
  | streamingStart sender | streamingStop sender =>
      intro peer hpeer
      rw [Message.ReadFrom, hpeer, optionalPeerId] at h
      split at h
      · contradiction
      · contradiction
      · rename_i value hempty _
        rw [← Option.some.inj h]
        exact hempty

theorem wellFormed_of_parse {raw : Option Json} {message : Message}
    (h : parse raw = Except.ok message) : message.WellFormed := by
  unfold parse at h
  split at h
  · contradiction
  · split at h
    · exact wellFormed_of_readFrom (readFrom_of_parseJson h)
    · contradiction

/-- The strings of a parsed message are valid UTF-8. -/
theorem validUtf8_of_parse {raw : Option Json} {message : Message}
    (h : parse raw = Except.ok message) : message.strings.all validUtf8 = true := by
  unfold parse at h
  split at h
  · contradiction
  · split at h
    · rename_i json hvalid
      exact validUtf8_of_readFrom hvalid (readFrom_of_parseJson h)
    · contradiction

end Signaling
end Driscord
