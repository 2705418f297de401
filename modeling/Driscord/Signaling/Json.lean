import Driscord.Bytes

/-!
# JSON values

Signaling messages are JSON values.  The strings of a value are byte strings,
which need not be UTF-8: `dump` raises an error for a value that holds one that is
not.  The text of a value stands for the value itself, so `dump` gives back the
value that it could write.

Main results:

- Theorem `validUtf8_of_ascii`: bytes below 128 are valid UTF-8.
- Theorem `dump_eq_ok_iff`: what `dump` writes is valid.
-/

namespace Driscord
namespace Signaling

/-! ## UTF-8 -/

/-- The bytes are valid UTF-8. -/
def validUtf8 (bytes : Bytes) : Bool :=
  bytes.toByteArray.validateUTF8

theorem validUtf8_iff {bytes : Bytes} :
    validUtf8 bytes = true ↔ bytes.toByteArray.IsValidUTF8 :=
  ByteArray.validateUTF8_eq_true_iff

theorem isValidUTF8_singleton {byte : UInt8} (h : byte < 128) :
    [byte].toByteArray.IsValidUTF8 := by
  have hlt : byte.toNat < 128 := h
  have hchar : String.utf8EncodeChar (Char.ofUInt8 byte) = [byte] := by
    have hval : (Char.ofUInt8 byte).val.toNat = byte.toNat :=
      UInt8.toNat_toUInt32 byte
    simp [String.utf8EncodeChar, hval, show byte.toNat ≤ 127 by omega]
  rw [← hchar]
  exact Char.isValidUTF8_toByteArray_utf8EncodeChar

/-- Bytes below 128 are valid UTF-8. -/
theorem validUtf8_of_ascii {bytes : Bytes} (h : ∀ byte ∈ bytes, byte < 128) :
    validUtf8 bytes = true := by
  rw [validUtf8_iff]
  induction bytes with
  | nil => exact ByteArray.isValidUTF8_empty
  | cons byte bytes ih =>
      have hbyte := isValidUTF8_singleton (h byte List.mem_cons_self)
      have hbytes := ih fun other hother => h other (List.mem_cons_of_mem _ hother)
      rw [← List.singleton_append, List.toByteArray_append]
      exact hbyte.append hbytes

/-- The bytes of a literal of the source. -/
def text (literal : String) : Bytes :=
  literal.toByteArray.data.toList

@[simp]
theorem text_inj {first second : String} : text first = text second ↔ first = second := by
  constructor
  · intro h
    rw [← String.toByteArray_inj]
    exact ByteArray.ext (Array.toList_inj.mp h)
  · exact congrArg text

@[simp]
theorem validUtf8_text (literal : String) : validUtf8 (text literal) = true := by
  have hsame : (text literal).toByteArray = literal.toByteArray := by
    apply ByteArray.ext
    simp [text]
  rw [validUtf8_iff, hsame]
  exact literal.isValidUTF8

/-! ## Values -/

/-- `nlohmann::json`. -/
inductive Json where
  | null
  | boolean (value : Bool)
  | number (value : Int)
  | string (value : Bytes)
  | array (items : List Json)
  | object (members : List (Bytes × Json))

/-- The errors of the JSON library. -/
inductive JsonError where
  /-- `type_error.316`. -/
  | invalidUtf8
deriving DecidableEq, Repr

namespace Json

/-- `find`: the member of an object. -/
def find (json : Json) (key : Bytes) : Option Json :=
  match json with
  | object members => members.lookup key
  | _ => none

@[simp]
theorem find_nil (key : Bytes) : (object []).find key = none := rfl

theorem find_cons (key other : Bytes) (value : Json) (members : List (Bytes × Json)) :
    (object ((other, value) :: members)).find key =
      if key = other then some value else (object members).find key := by
  by_cases hkey : key = other
  · simp [find, hkey]
  · have hne : (key == other) = false := by simpa using hkey
    simp [find, List.lookup_cons, hkey, hne]

mutual

/-- All strings and keys of the value are valid UTF-8. -/
def valid : Json → Bool
  | null | boolean _ | number _ => true
  | string value => validUtf8 value
  | array items => validItems items
  | object members => validMembers members

def validItems : List Json → Bool
  | [] => true
  | item :: items => item.valid && validItems items

def validMembers : List (Bytes × Json) → Bool
  | [] => true
  | (key, value) :: members => validUtf8 key && value.valid && validMembers members

end

theorem validItems_eq_all (items : List Json) : validItems items = items.all valid := by
  induction items with
  | nil => rfl
  | cons item items ih => rw [validItems, ih, List.all_cons]

theorem validMembers_eq_all (members : List (Bytes × Json)) :
    validMembers members = members.all fun member => validUtf8 member.1 && member.2.valid := by
  induction members with
  | nil => rfl
  | cons member members ih => rw [validMembers, ih, List.all_cons]

/-- The members of a valid object are valid. -/
theorem valid_of_find {json value : Json} {key : Bytes} (h : json.valid = true)
    (hfind : json.find key = some value) : value.valid = true := by
  cases json with
  | object members =>
      rw [valid, validMembers_eq_all, List.all_eq_true] at h
      rcases List.lookup_eq_some_iff.mp hfind with ⟨before, after, rfl, _⟩
      have hmember := h (key, value) (by simp)
      rw [Bool.and_eq_true] at hmember
      exact hmember.2
  | _ => contradiction

theorem valid_of_mem {items : List Json} {item : Json} (h : (array items).valid = true)
    (hitem : item ∈ items) : item.valid = true := by
  rw [valid, validItems_eq_all, List.all_eq_true] at h
  exact h item hitem

/-- `dump`. -/
def dump (json : Json) : Except JsonError Json :=
  if json.valid then Except.ok json else Except.error JsonError.invalidUtf8

theorem dump_eq_ok_iff {json written : Json} :
    json.dump = Except.ok written ↔ json.valid = true ∧ json = written := by
  rw [dump]
  split <;> simp_all

end Json

end Signaling
end Driscord
