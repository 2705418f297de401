import Driscord.Library.RelativeReference
import Driscord.Update.UpdateManifest

/-!
# Where a manifest sends a download

`UpdateManager::downloadUpdate` resolves the url of the manifest's file against the url
of the manifest, and appends the name of the file to the staging directory.
`isRelativeUrl` looks at the url as it is written; `QUrl` reads percent escapes before it
resolves, and nothing looks at the name.

How `QUrl` reads a path and an authority is a parameter.

Main result:

- Theorem `manifest_confined_iff`: exactly when an accepted manifest stays beneath its
  own directory and inside the staging directory.
-/

namespace Driscord
namespace Update

open Library Signaling

/-! ## Urls -/

/-- Host and port of a url. -/
structure Authority where
  host : Bytes := []
  port : Option Nat := none
deriving DecidableEq, Repr

/-- A `QUrl` with an absolute path, which is the list of its segments. -/
structure Url where
  scheme : Bytes
  authority : Authority
  path : List Bytes
  query : Option Bytes := none
  fragment : Option Bytes := none
deriving DecidableEq, Repr

/-- How `QUrl` reads the parts of a url. -/
structure UrlReader where
  /-- The path, with the percent escapes decoded that stand for themselves. -/
  path : Bytes → Bytes
  authority : Bytes → Authority

/-- What the code relies on: reading neither makes nor loses a path, and turns no
relative path into an absolute one (an escaped slash stays escaped). -/
structure UrlReader.Lawful (reader : UrlReader) : Prop where
  path_eq_nil : ∀ text, reader.path text = [] ↔ text = []
  path_relative : ∀ text, text.head? ≠ some 47 → (reader.path text).head? ≠ some 47

/-- The parts of a url reference, as they are written. -/
structure Reference where
  scheme : Option Bytes
  authority : Option Bytes
  path : Bytes
  query : Option Bytes
  fragment : Option Bytes
deriving DecidableEq, Repr

/-- What stands before the first of the given separators. -/
def before (separators url : Bytes) : Bytes :=
  url.takeWhile fun char => !separators.contains char

/-- What stands behind the separator, if there is one. -/
def behind (separator : UInt8) (url : Bytes) : Option Bytes :=
  match url.dropWhile (· ≠ separator) with
  | [] => none
  | _ :: rest => some rest

/-- `QUrl`, of a text: scheme, authority, path, query and fragment. -/
def Reference.parse (url : Bytes) : Reference :=
  let head := before (text "#") url
  let beforeQuery := before (text "?") head
  let first := before (text ":/") beforeQuery
  let scheme := if (beforeQuery.drop first.length).head? = some 58 then some first else none
  let rest := if scheme.isSome then beforeQuery.drop (first.length + 1) else beforeQuery
  let authority :=
    if (text "//").isPrefixOf rest then some (before (text "/") (rest.drop 2)) else none
  { scheme
    authority
    path := match authority with
      | some authority => rest.drop (2 + authority.length)
      | none => rest
    query := behind 63 head
    fragment := behind 35 url }

/-- The segments of a path that begins with a slash, and of one that does not. -/
def segments (path : Bytes) : List Bytes :=
  if path.head? = some 47 then (path.drop 1).splitOn 47 else path.splitOn 47

/-- The path of a url without its dot segments. -/
def normalizedPath (path : List Bytes) : List Bytes :=
  removeDotSegments (text ".") (text "..") [] path

/-- `QUrl::resolved`. -/
def Url.resolved (reader : UrlReader) (base : Url) (relative : Reference) : Url :=
  let path := reader.path relative.path
  match relative.scheme, relative.authority with
  | some scheme, authority =>
      { scheme
        authority := (authority.map reader.authority).getD {}
        path := normalizedPath (segments path)
        query := relative.query
        fragment := relative.fragment }
  | none, some authority =>
      { scheme := base.scheme
        authority := reader.authority authority
        path := normalizedPath (segments path)
        query := relative.query
        fragment := relative.fragment }
  | none, none =>
      if path = [] then
        { base with
          path := normalizedPath base.path
          query := relative.query.or base.query
          fragment := relative.fragment }
      else
        { base with
          path :=
            if path.head? = some 47 then normalizedPath (segments path)
            else normalizedPath (base.path.dropLast ++ segments path)
          query := relative.query
          fragment := relative.fragment }

/-- `manifestUrl`: the directory of the manifest is the one of `baseUrl`, with the
channel and the target. -/
def manifestUrl (scheme : Bytes) (authority : Authority) (directory : List Bytes) : Url where
  scheme := scheme
  authority := authority
  path := directory ++ [text "latest.json"]

/-! ## Files -/

/-- The name of the file that `downloadUpdate` opens. -/
def downloadFileName (staging name : Bytes) : Bytes :=
  staging ++ text "/download" ++ text "/" ++ name ++ text ".part"

/-- `archivePath`: the name of the file that `onDownloadFinished` renames it to. -/
def archivePath (staging name : Bytes) : Bytes :=
  (downloadFileName staging name).take
    ((downloadFileName staging name).length - (text ".part").length)

/-- The characters that separate the directories of a path. -/
def isSeparator (windows : Bool) (char : UInt8) : Bool :=
  char = 47 || (windows && char = 92)

/-- The part of a path behind its last separator. -/
def baseName (windows : Bool) (path : Bytes) : Bytes :=
  (path.reverse.takeWhile fun char => !isSeparator windows char).reverse

/-- The part of a path before its last separator. -/
def directoryOf (windows : Bool) (path : Bytes) : Bytes :=
  ((path.reverse.dropWhile fun char => !isSeparator windows char).drop 1).reverse

/-- A name that a directory can hold. -/
def EntryName (name : Bytes) : Prop :=
  name ≠ [] ∧ name ≠ text "." ∧ name ≠ text ".."

instance (name : Bytes) : Decidable (EntryName name) :=
  inferInstanceAs (Decidable (_ ∧ _ ∧ _))

/-- The path names an entry of the directory. -/
structure DirectlyInside (windows : Bool) (directory path : Bytes) : Prop where
  directory : directoryOf windows path = directory
  entry : EntryName (baseName windows path)

theorem archivePath_eq (staging name : Bytes) :
    archivePath staging name = staging ++ text "/download" ++ text "/" ++ name := by
  rw [archivePath, downloadFileName, List.length_append, Nat.add_sub_cancel]
  exact List.take_left

/-- What the last separator of a path splits. -/
theorem split_at_separator {windows : Bool} {separator : UInt8} (directory : Bytes)
    {name : Bytes} (hseparator : isSeparator windows separator = true)
    (hname : ∀ char ∈ name, isSeparator windows char = false) :
    directoryOf windows (directory ++ separator :: name) = directory ∧
      baseName windows (directory ++ separator :: name) = name := by
  have hpos : ∀ char ∈ name.reverse, (!isSeparator windows char) = true := by
    intro char hmem
    rw [hname char (List.mem_reverse.mp hmem)]
    rfl
  have hreverse : (directory ++ separator :: name).reverse =
      name.reverse ++ separator :: directory.reverse := by simp
  constructor
  · rw [directoryOf, hreverse, List.dropWhile_append_of_pos hpos,
      List.dropWhile_cons_of_neg (by simp [hseparator]), List.drop_one, List.tail_cons,
      List.reverse_reverse]
  · rw [baseName, hreverse, List.takeWhile_append_of_pos hpos,
      List.takeWhile_cons_of_neg (by simp [hseparator]), List.append_nil,
      List.reverse_reverse]

/-- The last separator of a name that has one. -/
theorem exists_last_separator {windows : Bool} {name : Bytes}
    (h : ∃ char ∈ name, isSeparator windows char = true) :
    ∃ front separator back, name = front ++ separator :: back ∧
      isSeparator windows separator = true ∧
        ∀ other ∈ back, isSeparator windows other = false := by
  induction name with
  | nil => simp at h
  | cons first rest ih =>
      by_cases hrest : ∃ char ∈ rest, isSeparator windows char = true
      · obtain ⟨front, separator, back, rfl, hseparator, hback⟩ := ih hrest
        exact ⟨first :: front, separator, back, rfl, hseparator, hback⟩
      · have hback : ∀ other ∈ rest, isSeparator windows other = false := by
          simpa using hrest
        refine ⟨[], first, rest, rfl, ?_, hback⟩
        rcases h with ⟨char, hmem, hchar⟩
        rcases List.mem_cons.mp hmem with rfl | hmem
        · exact hchar
        · rw [hback char hmem] at hchar
          contradiction

/-- An entry of the directory has a name without separators. -/
theorem directlyInside_iff (windows : Bool) (directory name : Bytes) :
    DirectlyInside windows directory (directory ++ text "/" ++ name) ↔
      (∀ char ∈ name, isSeparator windows char = false) ∧ EntryName name := by
  have hslash : isSeparator windows 47 = true := by simp [isSeparator]
  have hpath : directory ++ text "/" ++ name = directory ++ 47 :: name := by
    have htext : text "/" = [47] := rfl
    simp [htext]
  rw [hpath]
  constructor
  · intro h
    have hname : ∀ char ∈ name, isSeparator windows char = false := by
      intro char hmem
      by_contra hchar
      obtain ⟨front, separator, back, rfl, hseparator, hback⟩ :=
        exists_last_separator ⟨char, hmem, by simpa using hchar⟩
      have hlonger := (split_at_separator (directory ++ 47 :: front) hseparator hback).1
      have hsame := h.directory
      rw [List.append_assoc, List.cons_append, hsame] at hlonger
      simpa using congrArg List.length hlonger
    refine ⟨hname, ?_⟩
    have hentry := h.entry
    rwa [(split_at_separator directory hslash hname).2] at hentry
  · rintro ⟨hname, hentry⟩
    rcases split_at_separator directory hslash hname with ⟨hdirectory, hbase⟩
    exact ⟨hdirectory, by rw [hbase]; exact hentry⟩

/-! ## What `isRelativeUrl` ensures -/

theorem mem_of_mem_before {separators url : Bytes} {char : UInt8}
    (hmem : char ∈ before separators url) : char ∈ url :=
  (List.takeWhile_sublist _).subset hmem

theorem head?_of_head?_before {separators url : Bytes} {char : UInt8}
    (hhead : (before separators url).head? = some char) : url.head? = some char := by
  cases url with
  | nil => contradiction
  | cons first rest =>
      rw [before, List.takeWhile_cons] at hhead
      split at hhead
      · exact hhead
      · contradiction

/-- A url that passes the filter names no scheme, no host and no absolute path. -/
theorem parse_of_isRelativeUrl {url : Bytes} (h : isRelativeUrl url = true) :
    (Reference.parse url).scheme = none ∧ (Reference.parse url).authority = none ∧
      (Reference.parse url).path.head? ≠ some 47 := by
  simp only [isRelativeUrl, Bool.and_eq_true, Bool.not_eq_true', Bool.or_eq_false_iff,
    decide_eq_false_iff_not] at h
  obtain ⟨⟨⟨⟨-, hslash⟩, -⟩, hcolon⟩, -⟩ := h
  have hrelative : (before (text "?") (before (text "#") url)).head? ≠ some 47 :=
    fun hhead => hslash (head?_of_head?_before (head?_of_head?_before hhead))
  have hscheme : ((before (text "?") (before (text "#") url)).drop
      (before (text ":/") (before (text "?") (before (text "#") url))).length).head? ≠
        some 58 := by
    intro hhead
    have hmem := List.mem_of_mem_head? hhead
    have hin := mem_of_mem_before (mem_of_mem_before (List.mem_of_mem_drop hmem))
    simp [hin] at hcolon
  have hauthority : (text "//").isPrefixOf (before (text "?") (before (text "#") url)) =
      false := by
    cases hrest : before (text "?") (before (text "#") url) with
    | nil => rfl
    | cons first rest =>
        rw [hrest] at hrelative
        have hne : first ≠ 47 := by simpa using hrelative
        have htext : text "//" = [47, 47] := rfl
        rw [htext, List.isPrefixOf_cons_cons]
        simp [hne.symm]
  simp only [Reference.parse, if_neg hscheme, Option.isSome_none, Bool.false_eq_true,
    if_false, hauthority]
  exact ⟨trivial, trivial, hrelative⟩

/-! ## Confinement -/

section

variable (reader : UrlReader) (windows : Bool)
variable (scheme : Bytes) (authority : Authority) (directory : List Bytes)
variable (staging : Bytes)

/-- `artifactUrl`. -/
def artifactUrl (file : UpdateFileEntry) : Url :=
  (manifestUrl scheme authority directory).resolved reader (Reference.parse file.url)

/-- The directory of the manifest, without dot segments. -/
def manifestDirectory : List Bytes :=
  walk (text ".") (text "..") [] directory

/-- The download of a file stays at the origin and beneath the directory of its
manifest, and what it writes stays inside the staging directory. -/
structure Confined (file : UpdateFileEntry) : Prop where
  sameScheme : (artifactUrl reader scheme authority directory file).scheme = scheme
  sameAuthority :
    (artifactUrl reader scheme authority directory file).authority = authority
  beneath : StrictlyBeneath [] (manifestDirectory directory)
    (artifactUrl reader scheme authority directory file).path
  part : DirectlyInside windows (staging ++ text "/download")
    (downloadFileName staging file.name)
  archive : DirectlyInside windows (staging ++ text "/download")
    (archivePath staging file.name)

/-- The url has no path, or its path names again every directory that it climbs out of
and then goes on. -/
def UrlStays (url : Bytes) : Prop :=
  let path := reader.path (Reference.parse url).path
  let form := relative (text ".") (text "..") (path.splitOn 47)
  path = [] ∨
    StrictlyBeneath []
      ((manifestDirectory directory).drop ((manifestDirectory directory).length - form.1))
      (form.2 ++ closing (text ".") (text "..") [] (path.splitOn 47))

/-- The name is one entry of a directory. -/
def NameStays (name : Bytes) : Prop :=
  (∀ char ∈ name, isSeparator windows char = false) ∧ EntryName name

/-- The manifest itself is beneath its directory. -/
theorem manifest_beneath :
    StrictlyBeneath [] (manifestDirectory directory)
      (normalizedPath (directory ++ [text "latest.json"])) := by
  refine ⟨[text "latest.json"], ?_, by simp, by decide⟩
  have hdot : text "latest.json" ≠ text "." := by decide
  have hdotDot : text "latest.json" ≠ text ".." := by decide
  rw [normalizedPath, removeDotSegments, walk_append, closing, if_neg (by
    rw [List.getLast?_append_of_ne_nil directory (by simp)]
    simp [hdot, hdotDot]), List.append_nil, manifestDirectory, walk]
  simp [walk, walkStep, hdot, hdotDot]

/-- The url of an accepted file stays at the origin, and beneath the manifest's
directory exactly if it does not leave it by its dot segments. -/
theorem artifactUrl_of_relative {reader : UrlReader} (hreader : reader.Lawful)
    {file : UpdateFileEntry} (hurl : isRelativeUrl file.url = true) :
    (artifactUrl reader scheme authority directory file).scheme = scheme ∧
      (artifactUrl reader scheme authority directory file).authority = authority ∧
        (StrictlyBeneath [] (manifestDirectory directory)
            (artifactUrl reader scheme authority directory file).path ↔
          UrlStays reader directory file.url) := by
  obtain ⟨hscheme, hauthority, hhead⟩ := parse_of_isRelativeUrl hurl
  have hrelative := hreader.path_relative _ hhead
  rw [artifactUrl, Url.resolved, hscheme, hauthority]
  dsimp only
  by_cases hempty : reader.path (Reference.parse file.url).path = []
  · rw [if_pos hempty]
    exact ⟨rfl, rfl, iff_of_true (manifest_beneath directory) (Or.inl hempty)⟩
  · rw [if_neg hempty, if_neg hrelative]
    refine ⟨rfl, rfl, ?_⟩
    have hdirectory : (manifestUrl scheme authority directory).path.dropLast = directory := by
      simp [manifestUrl]
    have hsegments : segments (reader.path (Reference.parse file.url).path) =
        (reader.path (Reference.parse file.url).path).splitOn 47 := if_neg hrelative
    have hne : (reader.path (Reference.parse file.url).path).splitOn 47 ≠ [] :=
      List.splitOn_ne_nil 47 _
    dsimp only
    rw [hdirectory, hsegments, normalizedPath, manifestDirectory,
      strictlyBeneath_resolve_iff (text ".") (text "..") [] directory hne]
    simp only [UrlStays, hempty, false_or, manifestDirectory]

/-- The `.part` file of an entry is an entry. -/
theorem entryName_part (name : Bytes) : EntryName (name ++ text ".part") := by
  have hlength : (text ".part").length = 5 := rfl
  have hshort : ∀ other : Bytes, other.length < 5 → name ++ text ".part" ≠ other := by
    intro other hother heq
    have hsize := congrArg List.length heq
    rw [List.length_append, hlength] at hsize
    omega
  exact ⟨hshort _ (by decide), hshort _ (by decide), hshort _ (by decide)⟩

theorem files_inside_iff (name : Bytes) :
    DirectlyInside windows (staging ++ text "/download") (downloadFileName staging name) ∧
        DirectlyInside windows (staging ++ text "/download") (archivePath staging name) ↔
      NameStays windows name := by
  have hpart : downloadFileName staging name =
      staging ++ text "/download" ++ text "/" ++ (name ++ text ".part") := by
    rw [downloadFileName, List.append_assoc _ name]
  rw [hpart, archivePath_eq, directlyInside_iff, directlyInside_iff, NameStays]
  refine ⟨fun h => h.2, fun h => ⟨⟨?_, entryName_part name⟩, h⟩⟩
  intro char hmem
  rcases List.mem_append.mp hmem with hmem | hmem
  · exact h.1 char hmem
  · have hletters : ∀ char ∈ text ".part", isSeparator windows char = false := by
      cases windows <;> decide +kernel
    exact hletters char hmem

/-- An accepted manifest stays beneath its own directory and inside the staging
directory exactly if its url does not leave the directory by dot segments, read as
`QUrl` reads them, and its name is one entry of a directory. -/
theorem manifest_confined_iff {reader : UrlReader} (hreader : reader.Lawful)
    {document : Except Bytes QJsonValue} {channel target archiveSuffix : Bytes}
    {manifest : UpdateManifest}
    (haccepted : parseUpdateManifest document channel target archiveSuffix =
      Except.ok manifest) :
    Confined reader windows scheme authority directory staging manifest.file ↔
      UrlStays reader directory manifest.file.url ∧ NameStays windows manifest.file.name := by
  obtain ⟨-, -, -, -, -, hurl⟩ := parseUpdateManifest_ok haccepted
  obtain ⟨hscheme, hauthority, hbeneath⟩ :=
    artifactUrl_of_relative scheme authority directory hreader hurl
  have hfiles := files_inside_iff windows staging manifest.file.name
  constructor
  · intro h
    exact ⟨hbeneath.mp h.beneath, hfiles.mp ⟨h.part, h.archive⟩⟩
  · rintro ⟨hstays, hname⟩
    rcases hfiles.mpr hname with ⟨hpart, harchive⟩
    exact ⟨hscheme, hauthority, hbeneath.mpr hstays, hpart, harchive⟩

end

/-! ## Hostile manifests -/

/-- The value of a hexadecimal digit. -/
def hexDigit (char : UInt8) : Option UInt8 :=
  if 48 ≤ char ∧ char ≤ 57 then some (char - 48)
  else if 97 ≤ char ∧ char ≤ 102 then some (char - 87)
  else if 65 ≤ char ∧ char ≤ 70 then some (char - 55)
  else none

/-- The characters that stand for themselves, escaped or not. -/
def isUnreserved (char : UInt8) : Bool :=
  (48 ≤ char && char ≤ 57) || (65 ≤ char && char ≤ 90) || (97 ≤ char && char ≤ 122) ||
    char = 45 || char = 46 || char = 95 || char = 126

/-- The unreserved character that an escape stands for. -/
def escaped (high low : UInt8) : Option UInt8 :=
  match hexDigit high, hexDigit low with
  | some upper, some lower =>
      if isUnreserved (16 * upper + lower) then some (16 * upper + lower) else none
  | _, _ => none

/-- Escapes of unreserved characters decoded. -/
def decodeUnreserved : Bytes → Bytes
  | 37 :: high :: low :: rest =>
      match escaped high low with
      | some char => char :: decodeUnreserved rest
      | none => 37 :: decodeUnreserved (high :: low :: rest)
  | char :: rest => char :: decodeUnreserved rest
  | [] => []

/-- A reader that decodes the escapes of unreserved characters. -/
def decodingReader : UrlReader where
  path := decodeUnreserved
  authority host := { host }

theorem decodingReader_lawful : decodingReader.Lawful where
  path_eq_nil url := by
    change decodeUnreserved url = [] ↔ url = []
    fun_cases decodeUnreserved url <;> simp_all
  path_relative url hhead := by
    change (decodeUnreserved url).head? ≠ some 47
    fun_cases decodeUnreserved url with
    | case1 high low rest char hchar =>
        have hreserved : isUnreserved 47 = false := by decide
        intro hslash
        have hsame : char = 47 := by simpa using hslash
        subst hsame
        unfold escaped at hchar
        split at hchar
        · split at hchar
          · rename_i hunreserved
            rw [Option.some.injEq] at hchar
            rw [hchar, hreserved] at hunreserved
            contradiction
          · contradiction
        · contradiction
    | case2 high low rest hchar => simp
    | case3 char rest => simpa using hhead
    | case4 => simp

/-- A hash with the right form. -/
def zeroHash : Bytes :=
  List.replicate 64 48

/-- The members of a manifest, and of its file. -/
def manifestDocument (name url : Bytes) : QJsonValue :=
  .object [(text "schema", .double 1), (text "project", .string (text "driscord")),
    (text "channel", .string (text "stable")), (text "target", .string (text "linux/amd64")),
    (text "version", .string (text "1.2.3")),
    (text "files", .array [.object [(text "name", .string name),
      (text "sha256", .string zeroHash), (text "size", .double 1024),
      (text "url", .string url)]])]

/-- The file of the manifest document. -/
def manifestFile (name url : Bytes) : UpdateFileEntry :=
  ⟨name, zeroHash, 1024, url⟩

theorem parse_manifestDocument (name url : Bytes)
    (hname : (text ".tar.gz").isSuffixOf name = true) (hurl : isRelativeUrl url = true) :
    parseUpdateManifest (Except.ok (manifestDocument name url)) (text "stable")
        (text "linux/amd64") (text ".tar.gz") =
      Except.ok ⟨⟨1, 2, 3⟩, text "stable", text "linux/amd64", manifestFile name url⟩ := by
  have hversion : VersionTriple.parse (text "1.2.3") = some ⟨1, 2, 3⟩ := by decide +kernel
  have hsha : matchesSha256 zeroHash = true := by decide +kernel
  have hsize : truncate 1024 = 1024 := by decide +kernel
  have htext : ∀ first second : String, (text first == text second) = decide (first = second) := by
    intro first second
    rw [beq_eq_decide, decide_eq_decide]
    exact text_inj
  have hfile : findFile (text ".tar.gz") [.object [(text "name", .string name),
      (text "sha256", .string zeroHash), (text "size", .double 1024),
      (text "url", .string url)]] = Except.ok (manifestFile name url) := by
    have hentry : fileEntry (.object [(text "name", .string name),
        (text "sha256", .string zeroHash), (text "size", .double 1024),
        (text "url", .string url)]) = manifestFile name url := by
      simp [fileEntry, QJsonValue.value, QJsonValue.toObject, QJsonValue.toString,
        QJsonValue.toDouble, List.lookup_cons, htext, hsize, manifestFile]
    rw [findFile, hentry]
    simp [manifestFile, hname, hsha, hurl, maxArchiveBytes]
  simp [parseUpdateManifest, manifestDocument, QJsonValue.value, QJsonValue.toString,
    QJsonValue.toInt, QJsonValue.toArray, List.lookup_cons, htext, hversion, hfile]

/-- A manifest as it is published is confined. -/
theorem manifest_confined_published :
    Confined decodingReader false (text "https") { host := text "updates.example" }
      [text "stable", text "linux-amd64"] (text "/home/me/.update")
      (manifestFile (text "driscord.tar.gz") (text "1.2.3/driscord.tar.gz")) :=
  (manifest_confined_iff false (text "https") { host := text "updates.example" }
    [text "stable", text "linux-amd64"] (text "/home/me/.update") decodingReader_lawful
    (parse_manifestDocument (text "driscord.tar.gz") (text "1.2.3/driscord.tar.gz")
      (by decide +kernel) (by decide +kernel))).mpr
    ⟨Or.inr ⟨[text "1.2.3", text "driscord.tar.gz"], by decide +kernel, by decide +kernel,
      by decide +kernel⟩, by decide +kernel, by decide +kernel⟩

/-- The confinement of a manifest document that is published in one directory. -/
def DocumentConfined (name url : Bytes) : Prop :=
  Confined decodingReader false (text "https") { host := text "updates.example" }
    [text "stable", text "linux-amd64"] (text "/home/me/.update") (manifestFile name url)

/-- Accepted manifests that write outside the staging directory, that fetch from outside
the manifest's directory, and that fetch the directory itself. -/
theorem hostile_manifests_escape :
    (parseUpdateManifest
        (Except.ok (manifestDocument (text "../../evil.tar.gz") (text "1.2.3/x.tar.gz")))
        (text "stable") (text "linux/amd64") (text ".tar.gz")).isOk = true ∧
      ¬ DocumentConfined (text "../../evil.tar.gz") (text "1.2.3/x.tar.gz") ∧
    (parseUpdateManifest
        (Except.ok (manifestDocument (text "x.tar.gz") (text "%2e%2e/x.tar.gz")))
        (text "stable") (text "linux/amd64") (text ".tar.gz")).isOk = true ∧
      ¬ DocumentConfined (text "x.tar.gz") (text "%2e%2e/x.tar.gz") ∧
    (parseUpdateManifest (Except.ok (manifestDocument (text "x.tar.gz") (text ".")))
        (text "stable") (text "linux/amd64") (text ".tar.gz")).isOk = true ∧
      ¬ DocumentConfined (text "x.tar.gz") (text ".") := by
  refine ⟨?_, ?_, ?_, ?_, ?_, ?_⟩
  · rw [parse_manifestDocument _ _ (by decide +kernel) (by decide +kernel)]
    rfl
  · intro h
    exact absurd h.archive.directory (by decide +kernel)
  · rw [parse_manifestDocument _ _ (by decide +kernel) (by decide +kernel)]
    rfl
  · intro h
    obtain ⟨rest, hpath, -⟩ := h.beneath
    have hdirectory : manifestDirectory [text "stable", text "linux-amd64"] =
        [text "stable", text "linux-amd64"] := by decide +kernel
    have htarget : (artifactUrl decodingReader (text "https")
        { host := text "updates.example" } [text "stable", text "linux-amd64"]
          (manifestFile (text "x.tar.gz") (text "%2e%2e/x.tar.gz"))).path[1]? =
        some (text "linux-amd64") := by
      rw [hpath, hdirectory]
      rfl
    exact absurd htarget (by decide +kernel)
  · rw [parse_manifestDocument _ _ (by decide +kernel) (by decide +kernel)]
    rfl
  · intro h
    obtain ⟨rest, hpath, -, hrest⟩ := h.beneath
    have hdirectory : (artifactUrl decodingReader (text "https")
        { host := text "updates.example" } [text "stable", text "linux-amd64"]
          (manifestFile (text "x.tar.gz") (text "."))).path =
        manifestDirectory [text "stable", text "linux-amd64"] ++ [[]] := by decide +kernel
    rw [hdirectory] at hpath
    exact hrest (List.append_cancel_left hpath).symm

end Update
end Driscord
