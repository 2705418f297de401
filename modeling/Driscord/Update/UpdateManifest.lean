import Driscord.Signaling.Json

/-!
# Update manifests

`parseUpdateManifest` reads the first file of a manifest that has the suffix of an
archive.

Main result:

- Theorem `parseUpdateManifest_ok`: what is accepted is for the channel and the target
  that were asked for, and its file has a plausible size.
-/

namespace Driscord
namespace Update

open Signaling

/-- `QJsonValue`. -/
inductive QJsonValue where
  | null
  | bool (value : Bool)
  | double (value : ℚ)
  | string (value : Bytes)
  | array (items : List QJsonValue)
  | object (members : List (Bytes × QJsonValue))

namespace QJsonValue

/-- `value`, of an object. -/
def value (members : List (Bytes × QJsonValue)) (key : Bytes) : QJsonValue :=
  (members.lookup key).getD null

/-- `toInt`: a number with a fraction counts as no number. -/
def toInt : QJsonValue → Int
  | double value => if value.den = 1 then value.num else 0
  | _ => 0

/-- `toDouble`. -/
def toDouble : QJsonValue → ℚ
  | double value => value
  | _ => 0

/-- `toString`. -/
def toString : QJsonValue → Bytes
  | string value => value
  | _ => []

/-- `toArray`. -/
def toArray : QJsonValue → List QJsonValue
  | array items => items
  | _ => []

/-- `toObject`. -/
def toObject : QJsonValue → List (Bytes × QJsonValue)
  | object members => members
  | _ => []

end QJsonValue

/-- The `qint64` of a double. -/
def truncate (value : ℚ) : Int :=
  value.num.tdiv value.den

/-! ## Versions -/

/-- `VersionTriple`. -/
structure VersionTriple where
  major : Nat := 0
  minor : Nat := 0
  patch : Nat := 0
deriving DecidableEq, Repr

namespace VersionTriple

/-- `operator<=>`. -/
instance : LT VersionTriple where
  lt first second :=
    first.major < second.major ∨ first.major = second.major ∧
      (first.minor < second.minor ∨ first.minor = second.minor ∧ first.patch < second.patch)

instance (first second : VersionTriple) : Decidable (first < second) :=
  inferInstanceAs (Decidable (_ ∨ _ ∧ (_ ∨ _ ∧ _)))

/-- A number of the pattern: zero, or up to nine digits that do not begin with zero. -/
def number : Bytes → Option Nat
  | [] => none
  | [48] => some 0
  | first :: rest =>
      if 49 ≤ first ∧ first ≤ 57 ∧ rest.length ≤ 8 ∧
          (rest.all fun digit => 48 ≤ digit ∧ digit ≤ 57) then
        some ((first :: rest).foldl (fun value digit => 10 * value + (digit.toNat - 48)) 0)
      else none

/-- The end of a pattern also matches before a last newline. -/
def beforeNewline (subject : Bytes) : Bytes :=
  if subject.getLast? = some 10 then subject.dropLast else subject

/-- `VersionTriple::parse`. -/
def parse (subject : Bytes) : Option VersionTriple :=
  match (beforeNewline subject).splitOn 46 with
  | [major, minor, patch] =>
      match number major, number minor, number patch with
      | some major, some minor, some patch => some ⟨major, minor, patch⟩
      | _, _, _ => none
  | _ => none

end VersionTriple

/-! ## Manifests -/

/-- `UpdateFileEntry`. -/
structure UpdateFileEntry where
  name : Bytes
  sha256 : Bytes
  size : Int
  url : Bytes
deriving DecidableEq, Repr

/-- `UpdateManifest`. -/
structure UpdateManifest where
  version : VersionTriple
  channel : Bytes
  target : Bytes
  file : UpdateFileEntry
deriving DecidableEq, Repr

def maxArchiveBytes : Int :=
  2 ^ 30

/-- `isRelativeUrl`. -/
def isRelativeUrl (url : Bytes) : Bool :=
  !(url.isEmpty || url.head? = some 47 || url.contains 92) && !url.contains 58 &&
    (url.splitOn 47).all fun segment => !segment.isEmpty && segment ≠ text ".."

/-- `sha256Pattern`. -/
def matchesSha256 (subject : Bytes) : Bool :=
  (VersionTriple.beforeNewline subject).length = 64 &&
    (VersionTriple.beforeNewline subject).all fun digit =>
      (48 ≤ digit && digit ≤ 57) || (97 ≤ digit && digit ≤ 102)

/-- An entry of `files`. -/
def fileEntry (value : QJsonValue) : UpdateFileEntry where
  name := (QJsonValue.value value.toObject (text "name")).toString
  sha256 := (QJsonValue.value value.toObject (text "sha256")).toString
  size := truncate (QJsonValue.value value.toObject (text "size")).toDouble
  url := (QJsonValue.value value.toObject (text "url")).toString

/-- The loop of `parseUpdateManifest` over the files. -/
def findFile (archiveSuffix : Bytes) : List QJsonValue → Except Bytes UpdateFileEntry
  | [] => Except.error (text "manifest carries no '" ++ archiveSuffix ++ text "' archive")
  | value :: values =>
      let file := fileEntry value
      if ¬ archiveSuffix.isSuffixOf file.name then findFile archiveSuffix values
      else if ¬ matchesSha256 file.sha256 then
        Except.error (text "file '" ++ file.name ++ text "' has no valid sha256")
      else if file.size ≤ 0 ∨ maxArchiveBytes < file.size then
        Except.error (text "file '" ++ file.name ++ text "' has an implausible size")
      else if ¬ isRelativeUrl file.url then
        Except.error (text "file '" ++ file.name ++ text "' has a non-relative url")
      else Except.ok file

/-- `parseUpdateManifest`; `document` is the answer of `QJsonDocument::fromJson`, or the
text of its error. -/
def parseUpdateManifest (document : Except Bytes QJsonValue)
    (expectedChannel expectedTarget archiveSuffix : Bytes) : Except Bytes UpdateManifest :=
  match document with
  | Except.error error => Except.error (text "manifest is not a JSON object: " ++ error)
  | Except.ok (QJsonValue.object object) =>
      let channel := (QJsonValue.value object (text "channel")).toString
      let target := (QJsonValue.value object (text "target")).toString
      if (QJsonValue.value object (text "schema")).toInt ≠ 1 then
        Except.error (text "unsupported manifest schema")
      else if (QJsonValue.value object (text "project")).toString ≠ text "driscord" then
        Except.error (text "manifest is for another project")
      else if channel ≠ expectedChannel then
        Except.error (text "manifest channel '" ++ channel ++ text "' does not match '" ++
          expectedChannel ++ text "'")
      else if target ≠ expectedTarget then
        Except.error (text "manifest target '" ++ target ++ text "' does not match '" ++
          expectedTarget ++ text "'")
      else
        match VersionTriple.parse (QJsonValue.value object (text "version")).toString with
        | none => Except.error (text "manifest version is not X.Y.Z")
        | some version =>
            match findFile archiveSuffix (QJsonValue.value object (text "files")).toArray with
            | Except.error error => Except.error error
            | Except.ok file => Except.ok ⟨version, channel, target, file⟩
  | Except.ok _ => Except.error (text "manifest is not a JSON object: no error occurred")

theorem findFile_ok {archiveSuffix : Bytes} {values : List QJsonValue} {file : UpdateFileEntry}
    (h : findFile archiveSuffix values = Except.ok file) :
    archiveSuffix.isSuffixOf file.name = true ∧ 0 < file.size ∧ file.size ≤ maxArchiveBytes ∧
      isRelativeUrl file.url = true := by
  induction values with
  | nil => contradiction
  | cons value values ih =>
      rw [findFile] at h
      by_cases hsuffix : ¬ archiveSuffix.isSuffixOf (fileEntry value).name = true
      · rw [if_pos hsuffix] at h
        exact ih h
      rw [if_neg hsuffix] at h
      by_cases hsha : ¬ matchesSha256 (fileEntry value).sha256 = true
      · rw [if_pos hsha] at h
        contradiction
      rw [if_neg hsha] at h
      by_cases hsize : (fileEntry value).size ≤ 0 ∨ maxArchiveBytes < (fileEntry value).size
      · rw [if_pos hsize] at h
        contradiction
      rw [if_neg hsize] at h
      by_cases hurl : ¬ isRelativeUrl (fileEntry value).url = true
      · rw [if_pos hurl] at h
        contradiction
      rw [if_neg hurl, Except.ok.injEq] at h
      subst h
      rw [not_or, not_le, not_lt] at hsize
      rw [not_not] at hsuffix hurl
      exact ⟨hsuffix, hsize.1, hsize.2, hurl⟩

/-- What is accepted is for the channel and the target that were asked for, and its
file passed every check. -/
theorem parseUpdateManifest_ok {document : Except Bytes QJsonValue}
    {expectedChannel expectedTarget archiveSuffix : Bytes} {manifest : UpdateManifest}
    (h : parseUpdateManifest document expectedChannel expectedTarget archiveSuffix =
      Except.ok manifest) :
    manifest.channel = expectedChannel ∧ manifest.target = expectedTarget ∧
      archiveSuffix.isSuffixOf manifest.file.name = true ∧ 0 < manifest.file.size ∧
        manifest.file.size ≤ maxArchiveBytes ∧ isRelativeUrl manifest.file.url = true := by
  unfold parseUpdateManifest at h
  split at h
  · contradiction
  · rename_i object
    dsimp only at h
    by_cases hschema : (QJsonValue.value object (text "schema")).toInt ≠ 1
    · rw [if_pos hschema] at h
      contradiction
    rw [if_neg hschema] at h
    by_cases hproject :
        (QJsonValue.value object (text "project")).toString ≠ text "driscord"
    · rw [if_pos hproject] at h
      contradiction
    rw [if_neg hproject] at h
    by_cases hchannel :
        (QJsonValue.value object (text "channel")).toString ≠ expectedChannel
    · rw [if_pos hchannel] at h
      contradiction
    rw [if_neg hchannel] at h
    by_cases htarget : (QJsonValue.value object (text "target")).toString ≠ expectedTarget
    · rw [if_pos htarget] at h
      contradiction
    rw [if_neg htarget] at h
    split at h
    · contradiction
    · split at h
      · contradiction
      · rename_i file hfile
        rw [Except.ok.injEq] at h
        subst h
        exact ⟨not_not.mp hchannel, not_not.mp htarget, findFile_ok hfile⟩
  · contradiction

end Update
end Driscord
