import Driscord.Server.Upgrade
import Mathlib.Data.List.TakeWhile

/-!
# Asking the API for channel access

Before a session is accepted the server asks the API whether the bearer of the token
may join the channel.  The room of the target is escaped into the path of the
question; the API unescapes the path, matches its route and parses the path parameter
as an integer.

How the API parses an integer is a parameter.

Main results:

- Theorem `unquote_urlEscape`: the API reads the room that was escaped.
- Theorem `accessChannel_accessTarget`: the channel of a question is the integer that
  the room spells.
-/

namespace Driscord
namespace Server

open Signaling

/-! ## Escaping -/

/-- The bytes that stay as they are. -/
def isUnreserved (byte : UInt8) : Bool :=
  (97 ≤ byte ∧ byte ≤ 122) ∨ (65 ≤ byte ∧ byte ≤ 90) ∨ (48 ≤ byte ∧ byte ≤ 57) ∨
    byte = 45 ∨ byte = 46 ∨ byte = 95 ∨ byte = 126

/-- `kHex`. -/
def upperHexDigit (value : UInt8) : UInt8 :=
  if value < 10 then 48 + value else 55 + value

/-- `url_escape`. -/
def urlEscape (value : Bytes) : Bytes :=
  value.flatMap fun byte =>
    if isUnreserved byte then [byte]
    else [37, upperHexDigit (byte >>> 4), upperHexDigit (byte &&& 15)]

/-- The bytes of a percent-encoded path. -/
def unquote : Bytes → Bytes
  | byte :: high :: low :: rest =>
      if byte = 37 then
        match hexValue high, hexValue low with
        | some high, some low => (high <<< 4 ||| low) :: unquote rest
        | _, _ => byte :: unquote (high :: low :: rest)
      else byte :: unquote (high :: low :: rest)
  | short => short

theorem hexValue_upperHexDigit (byte : UInt8) :
    hexValue (upperHexDigit (byte >>> 4)) = some (byte >>> 4) ∧
      hexValue (upperHexDigit (byte &&& 15)) = some (byte &&& 15) ∧
        (byte >>> 4) <<< 4 ||| byte &&& 15 = byte := by
  have hall : ∀ value : Fin 256,
      hexValue (upperHexDigit (UInt8.ofFin value >>> 4)) = some (UInt8.ofFin value >>> 4) ∧
        hexValue (upperHexDigit (UInt8.ofFin value &&& 15)) = some (UInt8.ofFin value &&& 15) ∧
          (UInt8.ofFin value >>> 4) <<< 4 ||| UInt8.ofFin value &&& 15 = UInt8.ofFin value := by
    decide +kernel
  simpa using hall byte.toFin

theorem unquote_cons {byte : UInt8} (h : byte ≠ 37) (rest : Bytes) :
    unquote (byte :: rest) = byte :: unquote rest := by
  match rest with
  | [] => rfl
  | [_] => rfl
  | high :: low :: rest => rw [unquote, if_neg h]

/-- Bytes without a percent sign are read as they are. -/
theorem unquote_append {bytes : Bytes} (h : 37 ∉ bytes) (rest : Bytes) :
    unquote (bytes ++ rest) = bytes ++ unquote rest := by
  induction bytes with
  | nil => rfl
  | cons byte bytes ih =>
      rw [List.mem_cons, not_or] at h
      rw [List.cons_append, unquote_cons (Ne.symm h.1), ih h.2, List.cons_append]

/-- What was escaped is read back. -/
theorem unquote_urlEscape (value rest : Bytes) :
    unquote (urlEscape value ++ rest) = value ++ unquote rest := by
  induction value with
  | nil => rfl
  | cons byte value ih =>
      have hsplit : urlEscape (byte :: value) = (if isUnreserved byte then [byte]
          else [37, upperHexDigit (byte >>> 4), upperHexDigit (byte &&& 15)]) ++
            urlEscape value := List.flatMap_cons
      rw [hsplit, List.append_assoc]
      by_cases hkept : isUnreserved byte = true
      · have hne : byte ≠ 37 := by
          rintro rfl
          contradiction
        rw [if_pos hkept, List.singleton_append, unquote_cons hne, ih, List.cons_append]
      · rcases hexValue_upperHexDigit byte with ⟨hhigh, hlow, hbyte⟩
        rw [if_neg hkept, List.cons_append, List.cons_append, List.singleton_append, unquote,
          if_pos rfl, hhigh, hlow]
        change ((byte >>> 4) <<< 4 ||| byte &&& 15) :: unquote (urlEscape value ++ rest) = _
        rw [hbyte, ih, List.cons_append]

theorem isUnreserved_upperHexDigit (byte : UInt8) :
    upperHexDigit (byte >>> 4) ≠ 63 ∧ upperHexDigit (byte &&& 15) ≠ 63 := by
  have hall : ∀ value : Fin 256, upperHexDigit (UInt8.ofFin value >>> 4) ≠ 63 ∧
      upperHexDigit (UInt8.ofFin value &&& 15) ≠ 63 := by
    decide +kernel
  simpa using hall byte.toFin

theorem ne_question_of_mem_urlEscape {value : Bytes} {byte : UInt8} (h : byte ∈ urlEscape value) :
    byte ≠ 63 := by
  rcases List.mem_flatMap.mp h with ⟨source, -, hmem⟩
  by_cases hkept : isUnreserved source = true
  · rw [if_pos hkept, List.mem_singleton] at hmem
    rw [hmem]
    rintro rfl
    contradiction
  · rw [if_neg hkept] at hmem
    have hdigits := isUnreserved_upperHexDigit source
    rcases List.mem_cons.mp hmem with rfl | hmem
    · decide
    · rcases List.mem_cons.mp hmem with rfl | hmem
      · exact hdigits.1
      · rw [List.mem_singleton.mp hmem]
        exact hdigits.2

/-! ## The route -/

/-- The path of the question that `authorize_channel` asks. -/
def accessTarget (channel : Bytes) : Bytes :=
  text "/channels/" ++ urlEscape channel ++ text "/access"

/-- The channel of `/channels/{channel_id}/access`, where `parseInt` parses the path
parameter. -/
def accessChannel (parseInt : Bytes → Option ℕ) (target : Bytes) : Option ℕ :=
  let path := unquote (target.takeWhile (· ≠ 63))
  if text "/channels/" <+: path then
    let rest := path.drop (text "/channels/").length
    let parameter := rest.takeWhile (· ≠ 47)
    if parameter ≠ [] ∧ rest = parameter ++ text "/access" then parseInt parameter else none
  else none

/-- The API asks for the integer that the room spells, unless it has a slash. -/
theorem accessChannel_accessTarget (parseInt : Bytes → Option ℕ) {channel : Bytes}
    (hne : channel ≠ []) :
    accessChannel parseInt (accessTarget channel) =
      if 47 ∈ channel then none else parseInt channel := by
  have hpath : (accessTarget channel).takeWhile (· ≠ 63) = accessTarget channel := by
    apply List.takeWhile_eq_self_iff.mpr
    intro byte hmem
    rw [accessTarget, List.mem_append, List.mem_append] at hmem
    rw [decide_eq_true_eq]
    rcases hmem with (hmem | hmem) | hmem
    · rintro rfl
      revert hmem
      decide
    · exact ne_question_of_mem_urlEscape hmem
    · rintro rfl
      revert hmem
      decide
  have hsuffix : unquote (text "/access") = text "/access" := by decide
  have hread : unquote (accessTarget channel) =
      text "/channels/" ++ (channel ++ text "/access") := by
    rw [accessTarget, List.append_assoc, unquote_append (by decide), unquote_urlEscape, hsuffix]
  unfold accessChannel
  simp only [hpath, hread, List.drop_left, List.prefix_append, if_true]
  by_cases hslash : 47 ∈ channel
  · rw [if_pos hslash, if_neg]
    rintro ⟨-, hrest⟩
    have hsame := List.append_cancel_right hrest
    rw [hsame] at hslash
    have hfree := List.mem_takeWhile_imp hslash
    contradiction
  · have hparameter : (channel ++ text "/access").takeWhile (· ≠ 47) = channel := by
      rw [List.takeWhile_append_of_pos]
      · have hstop : (text "/access").takeWhile (· ≠ 47) = [] := by decide
        rw [hstop, List.append_nil]
      · rintro byte hmem
        rw [decide_eq_true_eq]
        rintro rfl
        exact hslash hmem
    rw [if_neg hslash, hparameter, if_pos ⟨hne, rfl⟩]

end Server
end Driscord
