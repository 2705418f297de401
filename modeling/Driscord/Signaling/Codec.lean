import Driscord.Signaling.Protocol

/-!
# The codec

The encoder and the parser are separate code for twelve shapes.  On well-formed
messages the parser undoes the encoder, it returns only well-formed messages, and
it does not look at members that are no fields of the type.

Main results:

- Theorem `parseJson_extends`: other members make no difference.
- Theorem `codec_round_trip`: the codec is a round trip in both directions.
-/

namespace Driscord
namespace Signaling

/-! ## Fields -/

/-- The field names of the type of a message. -/
def Message.fields : Message → List String
  | welcome .. => ["type", "id", "peers", "streaming_peers"]
  | peerJoined .. => ["type", "id", "username"]
  | peerLeft _ => ["type", "id"]
  | offer .. | answer .. => ["type", "sdp", "connection"]
  | candidate .. => ["type", "candidate", "sdpMid", "connection"]
  | trackBinding .. => ["type", "sdpMid", "peerId", "connection"]
  | streamingStart _ | streamingStop _ => ["type", "from"]
  | watchStart _ | watchStop _ => ["type", "peerId"]
  | watchRejected .. => ["type", "peerId", "reason"]

/-- The object has the fields of the message as its encoding has them.  Its other
members are any. -/
def Extends (members : List (Bytes × Json)) (message : Message) : Prop :=
  ∀ field ∈ message.fields,
    (Json.object members).find (text field) = (encode message).find (text field)

/-- The members that are fields of the message. -/
def fieldMembers (message : Message) (members : List (Bytes × Json)) : List (Bytes × Json) :=
  members.filter fun member => member.1 ∈ message.fields.map text

theorem lookup_fieldMembers {message : Message} {field : String} (h : field ∈ message.fields)
    (members : List (Bytes × Json)) :
    (fieldMembers message members).lookup (text field) = members.lookup (text field) := by
  induction members with
  | nil => rfl
  | cons member members ih =>
      by_cases hmember : member.1 ∈ message.fields.map text
      · rw [fieldMembers, List.filter_cons_of_pos (by simpa using hmember), List.lookup_cons,
          List.lookup_cons, ← ih]
        rfl
      · have hne : (text field == member.1) = false := by
          rw [beq_eq_false_iff_ne]
          intro hsame
          exact hmember (hsame ▸ List.mem_map_of_mem h)
        rw [fieldMembers, List.filter_cons_of_neg (by simpa using hmember), List.lookup_cons, hne]
        exact ih

/-- Members that are no fields may be added anywhere. -/
theorem extends_of_fieldMembers {message : Message} {members : List (Bytes × Json)}
    (h : Json.object (fieldMembers message members) = encode message) :
    Extends members message := by
  intro field hfield
  rw [← h, Json.find, Json.find, lookup_fieldMembers hfield]

/-! ## Members that are no fields -/

section

variable {first second : Json} {key : String}

theorem requiredString_congr (h : first.find (text key) = second.find (text key)) :
    requiredString first key = requiredString second key := by
  rw [requiredString, requiredString, h]

theorem requiredPeerId_congr (h : first.find (text key) = second.find (text key)) :
    requiredPeerId first key = requiredPeerId second key := by
  rw [requiredPeerId, requiredPeerId, requiredString_congr h]

theorem optionalPeerId_congr (h : first.find (text key) = second.find (text key)) :
    optionalPeerId first key = optionalPeerId second key := by
  rw [optionalPeerId, optionalPeerId, optionalString, optionalString, h]

theorem parseUsername_congr
    (h : first.find (text "username") = second.find (text "username")) :
    parseUsername first = parseUsername second := by
  rw [parseUsername, parseUsername, optionalString, optionalString, h]

theorem parseConnection_congr
    (h : first.find (text "connection") = second.find (text "connection")) :
    parseConnection first = parseConnection second := by
  rw [parseConnection, parseConnection, h]

theorem parseWatchRejectReason_congr
    (h : first.find (text "reason") = second.find (text "reason")) :
    parseWatchRejectReason first = parseWatchRejectReason second := by
  rw [parseWatchRejectReason, parseWatchRejectReason, requiredString_congr h]

end

/-- An object and an encoding of one type are parsed by the same branch. -/
theorem parseJson_object {members encoded : List (Bytes × Json)} {type : String}
    (hne : type ≠ "")
    (h : (Json.object members).find (text "type") =
      (withType type encoded).find (text "type")) :
    parseJson (Json.object members) = parseTyped (Json.object members) (text type) ∧
      parseJson (withType type encoded) = parseTyped (withType type encoded) (text type) := by
  have htext : text type ≠ [] := fun hnil => hne (text_inj.mp (hnil.trans rfl))
  have htype : requiredString (Json.object members) "type" = some (text type) := by
    rw [requiredString_congr h]
    simp [requiredString, withType, Json.find_cons, htext]
  refine ⟨?_, parseJson_withType hne⟩
  rw [parseJson, htype]

/-- Members that are no fields of its type make no difference to a message. -/
theorem parseJson_extends {members : List (Bytes × Json)} {message : Message}
    (h : Extends members message) :
    parseJson (Json.object members) = parseJson (encode message) := by
  have htype := h "type" (by cases message <;> simp [Message.fields])
  cases message with
  | welcome id peers streamingPeers =>
      have hid := requiredPeerId_congr (h "id" (by simp [Message.fields]))
      have hpeers := h "peers" (by simp [Message.fields])
      have hstreaming := h "streaming_peers" (by simp [Message.fields])
      rcases parseJson_object (by decide) htype with ⟨hfirst, hsecond⟩
      rw [hfirst, encode, hsecond, ← encode]
      simp only [parseTyped, if_true, parsePeers, parseStreamingPeers, hid, hpeers, hstreaming]
  | peerJoined id username =>
      have hid := requiredPeerId_congr (h "id" (by simp [Message.fields]))
      have hname := parseUsername_congr (h "username" (by simp [Message.fields]))
      rcases parseJson_object (by decide) htype with ⟨hfirst, hsecond⟩
      rw [hfirst, encode, hsecond, ← encode]
      simp only [parseTyped, text_inj, String.reduceEq, if_false, if_true, hid, hname]
  | peerLeft id =>
      have hid := requiredPeerId_congr (h "id" (by simp [Message.fields]))
      rcases parseJson_object (by decide) htype with ⟨hfirst, hsecond⟩
      rw [hfirst, encode, hsecond, ← encode]
      simp only [parseTyped, text_inj, String.reduceEq, if_false, if_true, hid]
  | offer sdp connection | answer sdp connection =>
      have hsdp := requiredString_congr (h "sdp" (by simp [Message.fields]))
      have hconnection := parseConnection_congr (h "connection" (by simp [Message.fields]))
      rcases parseJson_object (by decide) htype with ⟨hfirst, hsecond⟩
      rw [hfirst, encode, hsecond, ← encode]
      simp only [parseTyped, text_inj, String.reduceEq, if_false, if_true, hsdp, hconnection]
  | candidate line sdpMid connection =>
      have hline := requiredString_congr (h "candidate" (by simp [Message.fields]))
      have hmid := requiredString_congr (h "sdpMid" (by simp [Message.fields]))
      have hconnection := parseConnection_congr (h "connection" (by simp [Message.fields]))
      rcases parseJson_object (by decide) htype with ⟨hfirst, hsecond⟩
      rw [hfirst, encode, hsecond, ← encode]
      simp only [parseTyped, text_inj, String.reduceEq, if_false, if_true, hline, hmid,
        hconnection]
  | trackBinding sdpMid peerId connection =>
      have hmid := requiredString_congr (h "sdpMid" (by simp [Message.fields]))
      have hpeer := h "peerId" (by simp [Message.fields])
      have hconnection := parseConnection_congr (h "connection" (by simp [Message.fields]))
      rcases parseJson_object (by decide) htype with ⟨hfirst, hsecond⟩
      rw [hfirst, encode, hsecond, ← encode]
      simp only [parseTyped, text_inj, String.reduceEq, if_false, if_true, hmid, parseBoundPeer,
        hpeer, hconnection]
  | streamingStart sender | streamingStop sender =>
      have hsender := optionalPeerId_congr (h "from" (by simp [Message.fields]))
      rcases parseJson_object (by decide) htype with ⟨hfirst, hsecond⟩
      rw [hfirst, encode, hsecond, ← encode]
      simp only [parseTyped, text_inj, String.reduceEq, if_false, if_true, hsender]
  | watchStart peerId | watchStop peerId =>
      have hpeer := requiredPeerId_congr (h "peerId" (by simp [Message.fields]))
      rcases parseJson_object (by decide) htype with ⟨hfirst, hsecond⟩
      rw [hfirst, encode, hsecond, ← encode]
      simp only [parseTyped, text_inj, String.reduceEq, if_false, if_true, hpeer]
  | watchRejected peerId reason =>
      have hpeer := requiredPeerId_congr (h "peerId" (by simp [Message.fields]))
      have hreason := parseWatchRejectReason_congr (h "reason" (by simp [Message.fields]))
      rcases parseJson_object (by decide) htype with ⟨hfirst, hsecond⟩
      rw [hfirst, encode, hsecond, ← encode]
      simp only [parseTyped, text_inj, String.reduceEq, if_false, if_true, hpeer, hreason]

/-! ## The round trip -/

/-- Encoding and parsing a well-formed message gives it back; the parser returns
only well-formed messages, which are therefore given back as well; and further
members that are no fields of the type change nothing. -/
theorem codec_round_trip :
    (∀ message : Message, message.WellFormed → parseJson (encode message) = Except.ok message) ∧
    (∀ json message, parseJson json = Except.ok message →
      message.WellFormed ∧ parseJson (encode message) = Except.ok message) ∧
    ∀ message members, Json.object (fieldMembers message members) = encode message →
      parseJson (Json.object members) = parseJson (encode message) := by
  refine ⟨fun message => parseJson_encode, ?_,
    fun message members hmembers => parseJson_extends (extends_of_fieldMembers hmembers)⟩
  intro json message hparse
  have hwell := wellFormed_of_readFrom (readFrom_of_parseJson hparse)
  exact ⟨hwell, parseJson_encode hwell⟩

end Signaling
end Driscord
