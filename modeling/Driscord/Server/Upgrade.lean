import Driscord.Identity
import Driscord.Signaling.Json

/-!
# Upgrade requests

The target of an upgrade request names the room of the new session and, while no
authenticator is configured, its username.  Both may be any byte strings.  The id
of the session is made by the server.

Main results:

- Theorem `validUtf8_generateId`: session ids are valid UTF-8.
-/

namespace Driscord
namespace Server

open Signaling

/-- A lowercase hexadecimal digit. -/
def hexDigit (value : Nat) : UInt8 :=
  if value < 10 then UInt8.ofNat (48 + value) else UInt8.ofNat (87 + value)

/-- `generate_id`: sixteen digits of a random number. -/
def generateId (random : UInt64) : PeerId where
  value := (List.range 16).map fun index => hexDigit (random.toNat / 16 ^ (15 - index) % 16)

/-- Remove the bytes of a kind from the end. -/
def removeSuffix (byte : UInt8) (bytes : Bytes) : Bytes :=
  (bytes.reverse.dropWhile (· = byte)).reverse

/-- `parse_room_id`. -/
def parseRoomId (target : Bytes) : RoomId :=
  if (text "/channels/").length < target.length ∧
      target.take (text "/channels/").length = text "/channels/" then
    let rest := removeSuffix 47 ((target.drop (text "/channels/").length).takeWhile (· ≠ 63))
    if rest = [] then ⟨text "default"⟩ else ⟨rest⟩
  else ⟨text "default"⟩

/-- The value of a hexadecimal digit. -/
def hexValue (byte : UInt8) : Option UInt8 :=
  if 48 ≤ byte ∧ byte ≤ 57 then some (byte - 48)
  else if 97 ≤ byte ∧ byte ≤ 102 then some (byte - 87)
  else if 65 ≤ byte ∧ byte ≤ 70 then some (byte - 55)
  else none

/-- `url_decode`. -/
def urlDecode : Bytes → Bytes
  | [] => []
  | [byte] => [if byte = 43 then 32 else byte]
  | [byte, next] => (if byte = 43 then 32 else byte) :: urlDecode [next]
  | byte :: high :: low :: rest =>
      if byte = 43 then 32 :: urlDecode (high :: low :: rest)
      else if byte = 37 then
        match hexValue high, hexValue low with
        | some high, some low => (high <<< 4 ||| low) :: urlDecode rest
        | _, _ => byte :: urlDecode (high :: low :: rest)
      else byte :: urlDecode (high :: low :: rest)

/-- `parse_query_param`: the value of the first pair with the key. -/
def parseQueryParam (target : Bytes) (key : String) : Bytes :=
  let pairs := ((target.dropWhile (· ≠ 63)).drop 1).splitOn 38
  match pairs.find? fun pair => 61 ∈ pair ∧ pair.takeWhile (· ≠ 61) = text key with
  | some pair => urlDecode ((pair.dropWhile (· ≠ 61)).drop 1)
  | none => []

example : parseRoomId (text "/channels/42/?u=ann") = ⟨text "42"⟩ := by decide

example : parseQueryParam (text "/channels/42?u=a%2Bb+c%") "u" = text "a+b c%" := by decide

/-- The username of an upgrade request without an authenticator. -/
def parseUsernameParam (target : Bytes) : Username :=
  ⟨parseQueryParam target "u"⟩

theorem hexDigit_lt (value : Nat) (h : value < 16) : hexDigit value < 128 := by
  interval_cases value <;> decide

/-- Session ids are valid UTF-8. -/
theorem validUtf8_generateId (random : UInt64) :
    validUtf8 (generateId random).value = true := by
  apply validUtf8_of_ascii
  intro byte hbyte
  rcases List.mem_map.mp hbyte with ⟨index, _, rfl⟩
  exact hexDigit_lt _ (Nat.mod_lt _ (by norm_num))

theorem generateId_ne_nil (random : UInt64) : (generateId random).value ≠ [] := by
  simp [generateId]

end Server
end Driscord
