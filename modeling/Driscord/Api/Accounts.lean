import Driscord.Api.Database
import Driscord.Library.Decimal
import Driscord.Library.RelativeReference
import Driscord.Library.Transactions
import Driscord.Signaling.Json

/-!
# Accounts, tokens and avatar files

The rows of users with what their routes read and write of them, the claims of the
tokens that the API hands out, its passwords, and the files of avatars below the data
directory.  `bcrypt` is a parameter.

Main results:

- Theorem `tokenUserId_decimal`: a token names the user that it was made for.
- Theorem `containedPath_avatarUrl`: the url of an avatar leads to its file, below the
  data directory.
- Theorem `avatarFile_inj`: users do not share an avatar file.
-/

namespace Driscord
namespace Api
namespace Accounts

open Library Signaling

/-! ## Tokens -/

/-- The claims of a token that the API reads; there are none in a token that
`decode_token` rejects. -/
structure Payload where
  sub : Option Bytes := none
  type : Option String := none
deriving DecidableEq, Repr

/-- `create_access_token`. -/
def createAccessToken (userId : ℕ) : Payload where
  sub := some (decimal userId)
  type := some "access"

/-- `create_refresh_token`. -/
def createRefreshToken (userId : ℕ) : Payload where
  sub := some (decimal userId)
  type := some "refresh"

/-- `token_user_id`. -/
def tokenUserId (payload : Payload) : Option ℕ :=
  (payload.sub.bind ofDecimal).filter fun userId => decide (0 < userId)

/-- The user that a token of the given type names. -/
def Payload.userOf (payload : Payload) (type : String) : Option ℕ :=
  if payload.type = some type then tokenUserId payload else none

/-- A token names the user that it was made for. -/
theorem tokenUserId_decimal {userId : ℕ} (hpos : 0 < userId) (type : Option String) :
    tokenUserId { sub := some (decimal userId), type } = some userId := by
  rw [tokenUserId, Option.bind_some, ofDecimal_decimal, Option.filter_some,
    if_pos (decide_eq_true hpos)]

/-- The token of a user for one of the two purposes. -/
theorem userOf_decimal {userId : ℕ} (hpos : 0 < userId) (type other : String) :
    ({ sub := some (decimal userId), type := some type } : Payload).userOf other =
      if type = other then some userId else none := by
  simp only [Payload.userOf, tokenUserId_decimal hpos, Option.some.injEq]

/-! ## Passwords -/

/-- `bcrypt`: what raises `ValueError` has no result. -/
structure Bcrypt where
  hashpw : Bytes → Bytes → Option Bytes
  checkpw : Bytes → Bytes → Option Bool

/-- `BCRYPT_MAX_BYTES`. -/
def bcryptMaxBytes : ℕ := 72

/-- `_encode`. -/
def encode (password : Bytes) : Option Bytes :=
  if bcryptMaxBytes < password.length then none else some password

/-- `hash_password`, with the salt that `gensalt` returns. -/
def hashPassword (bcrypt : Bcrypt) (password salt : Bytes) : Option Bytes :=
  (encode password).bind fun encoded => bcrypt.hashpw encoded salt

/-- `verify_password`. -/
def verifyPassword (bcrypt : Bcrypt) (plain hashed : Bytes) : Bool :=
  ((encode plain).bind fun encoded => bcrypt.checkpw encoded hashed).getD false

/-! ## Rows and files -/

/-- `User`. -/
structure Account where
  username : Bytes
  email : Bytes
  hashedPassword : Bytes
  displayName : Option Bytes := none
  avatarUrl : Option Bytes := none
deriving DecidableEq, Repr

/-- The committed rows, and the files by the names on their paths. -/
structure AccountRows where
  users : Table ℕ Account := ∅
  nextUser : ℕ := 1
  files : Table (List Bytes) Bytes := ∅

namespace AccountRows

/-- The row with a username. -/
def userByUsername (rows : AccountRows) (username : Bytes) : Option (ℕ × Account) :=
  Table.findEntry (fun _ account => decide (account.username = username)) rows.users

/-- The row with an email address. -/
def userByEmail (rows : AccountRows) (email : Bytes) : Option (ℕ × Account) :=
  Table.findEntry (fun _ account => decide (account.email = email)) rows.users

/-- The row with a primary key. -/
def userById (rows : AccountRows) (userId : ℕ) : Option (ℕ × Account) :=
  (rows.users.lookup userId).map fun account => (userId, account)

theorem userByUsername_eq_some {rows : AccountRows} {username : Bytes} {user : ℕ × Account}
    (h : rows.userByUsername username = some user) :
    rows.users.lookup user.1 = some user.2 ∧ user.2.username = username := by
  rcases Table.lookup_of_findEntry h with ⟨hlookup, htest⟩
  exact ⟨hlookup, of_decide_eq_true htest⟩

theorem userByUsername_eq_none_iff {rows : AccountRows} {username : Bytes} :
    rows.userByUsername username = none ↔
      ∀ id account, rows.users.lookup id = some account → account.username ≠ username := by
  simp [userByUsername, Table.findEntry_eq_none_iff]

theorem userByEmail_eq_none_iff {rows : AccountRows} {email : Bytes} :
    rows.userByEmail email = none ↔
      ∀ id account, rows.users.lookup id = some account → account.email ≠ email := by
  simp [userByEmail, Table.findEntry_eq_none_iff]

theorem userById_eq_some {rows : AccountRows} {userId : ℕ} {user : ℕ × Account}
    (h : rows.userById userId = some user) :
    user.1 = userId ∧ rows.users.lookup user.1 = some user.2 := by
  rcases Option.map_eq_some_iff.mp h with ⟨account, hlookup, rfl⟩
  exact ⟨rfl, hlookup⟩

theorem userById_eq_none {rows : AccountRows} {userId : ℕ} (h : rows.userById userId = none) :
    userId ∉ rows.users :=
  AList.lookup_eq_none.mp (Option.map_eq_none_iff.mp h)

end AccountRows

/-- What a statement writes. -/
inductive AccountWrite where
  | insertUser (username email hashedPassword : Bytes)
  | setDisplayName (id : ℕ) (displayName : Option Bytes)
  | setAvatarUrl (id : ℕ) (url : Bytes)
  /-- `write_bytes`. -/
  | writeFile (path : List Bytes) (content : Bytes)
deriving DecidableEq, Repr

namespace AccountRows

/-- The constraint that a write breaks. -/
def refusal (write : AccountWrite) (rows : AccountRows) : Option WriteError :=
  match write with
  | .insertUser username email _ =>
      if rows.userByUsername username = none ∧ rows.userByEmail email = none then none
      else some .integrity
  | .setDisplayName id _ | .setAvatarUrl id _ => if id ∈ rows.users then none else some .stale
  | .writeFile _ _ => none

/-- The primary key of the row that is written. -/
def key (write : AccountWrite) (rows : AccountRows) : ℕ :=
  match write with
  | .insertUser _ _ _ => rows.nextUser
  | .setDisplayName id _ | .setAvatarUrl id _ => id
  | .writeFile _ _ => 0

/-- The rows after a write. -/
def perform (write : AccountWrite) (rows : AccountRows) : AccountRows :=
  match write with
  | .insertUser username email hashedPassword =>
      { rows with
        users := rows.users.insert rows.nextUser { username, email, hashedPassword }
        nextUser := rows.nextUser + 1 }
  | .setDisplayName id displayName =>
      { rows with
        users := Table.modify id (fun account => { account with displayName }) rows.users }
  | .setAvatarUrl id url =>
      { rows with
        users := Table.modify id (fun account => { account with avatarUrl := some url })
          rows.users }
  | .writeFile path content => { rows with files := rows.files.insert path content }

/-- A commit: the primary key that was written, and the new rows. -/
def apply (write : AccountWrite) (rows : AccountRows) : Except WriteError (ℕ × AccountRows) :=
  match rows.refusal write with
  | some error => Except.error error
  | none => Except.ok (rows.key write, rows.perform write)

theorem apply_eq_ok {write : AccountWrite} {rows changed : AccountRows} {id : ℕ}
    (h : rows.apply write = Except.ok (id, changed)) :
    rows.refusal write = none ∧ id = rows.key write ∧ changed = rows.perform write := by
  unfold apply at h
  split at h
  · contradiction
  · rename_i hnone
    rw [Except.ok.injEq, Prod.mk.injEq] at h
    exact ⟨hnone, h.1.symm, h.2.symm⟩

end AccountRows

/-! ## Avatar files -/

/-- The characters that `str.strip` removes. -/
def whitespace : List Bytes :=
  [[9], [10], [11], [12], [13], [28], [29], [30], [31], [32], [0xc2, 0x85], [0xc2, 0xa0],
    [0xe1, 0x9a, 0x80], [0xe2, 0x80, 0xa8], [0xe2, 0x80, 0xa9], [0xe2, 0x80, 0xaf],
    [0xe2, 0x81, 0x9f], [0xe3, 0x80, 0x80]] ++
    (List.range 11).map fun last => [0xe2, 0x80, UInt8.ofNat (0x80 + last)]

/-- Nothing is left of a text of at most so many bytes when it is stripped. -/
def isBlank : ℕ → Bytes → Bool
  | 0, value => value.isEmpty
  | bound + 1, value => value.isEmpty || whitespace.any fun char =>
      char.isPrefixOf value && isBlank bound (value.drop char.length)

/-- `contained_path` for one part, below a resolved root: the names on the path.
There are no symbolic links below the root. -/
def containedPath (root : List Bytes) (part : Bytes) : Option (List Bytes) :=
  if part = [] ∨ part = text "." ∨ part = text ".." ∨ 0 ∈ part then none
  else
    -- An absolute path replaces the root.
    let start := if part.head? = some 47 then [] else root
    let candidate :=
      walk (text ".") (text "..") start ((part.splitOn 47).filter fun name => decide (name ≠ []))
    if root <+: candidate then some candidate else none

/-- `avatar_path`. -/
def avatarPath (dataDir : List Bytes) (files : Table (List Bytes) Bytes) (value : Option Bytes) :
    Option (List Bytes) :=
  value.bind fun value =>
    if isBlank value.length value then none
    else (containedPath dataDir value).filter fun path => decide (path ∈ files)

/-- `available_avatar_url`. -/
def availableAvatarUrl (dataDir : List Bytes) (files : Table (List Bytes) Bytes)
    (value : Option Bytes) : Option Bytes :=
  if (avatarPath dataDir files value).isSome then value else none

/-- `_ALLOWED_IMAGE_TYPES`. -/
def allowedImageTypes : List String :=
  ["image/jpeg", "image/png", "image/gif", "image/webp"]

/-- `_EXT_MAP`. -/
def extMap : List (String × Bytes) :=
  [("image/jpeg", text "jpg"), ("image/png", text "png"), ("image/gif", text "gif"),
    ("image/webp", text "webp")]

/-- `_MAX_AVATAR_BYTES`. -/
def maxAvatarBytes : ℕ := 5 * 1024 * 1024

/-- The name of an avatar file. -/
def avatarFilename (userId : ℕ) (ext : Bytes) : Bytes :=
  decimal userId ++ text "." ++ ext

/-- The column of an account with an avatar. -/
def avatarUrl (userId : ℕ) (ext : Bytes) : Bytes :=
  text "avatars/" ++ avatarFilename userId ext

/-- Where an avatar is written. -/
def avatarFile (dataDir : List Bytes) (userId : ℕ) (ext : Bytes) : List Bytes :=
  dataDir ++ [text "avatars", avatarFilename userId ext]

/-- The extensions of avatar files. -/
def extensions : List Bytes :=
  extMap.map Prod.snd

theorem mem_extensions {contentType : String} {ext : Bytes}
    (h : extMap.lookup contentType = some ext) : ext ∈ extensions := by
  rcases List.lookup_eq_some_iff.mp h with ⟨before, after, hmap, -⟩
  rw [extensions, hmap]
  simp

/-- Every allowed type has an extension. -/
theorem exists_ext {contentType : String} (h : contentType ∈ allowedImageTypes) :
    ∃ ext, extMap.lookup contentType = some ext := by
  have hkeys : ∀ type ∈ allowedImageTypes, (extMap.lookup type).isSome = true := by decide
  exact Option.isSome_iff_exists.mp (hkeys contentType h)

section

variable {userId other : ℕ} {ext ext' : Bytes}

/-- The text in front of the dot is the number of the user. -/
theorem takeWhile_avatarFilename (userId : ℕ) (ext : Bytes) :
    (avatarFilename userId ext).takeWhile isDigit = decimal userId := by
  have hdigits : ∀ byte ∈ decimal userId, isDigit byte = true :=
    fun byte hbyte => digit_of_mem_decimal hbyte
  rw [avatarFilename, List.append_assoc, List.takeWhile_append_of_pos hdigits]
  change decimal userId ++ (46 :: ext).takeWhile isDigit = _
  rw [List.takeWhile_cons_of_neg (by decide), List.append_nil]

/-- Users do not share an avatar file. -/
theorem avatarFilename_inj (h : avatarFilename userId ext = avatarFilename other ext') :
    userId = other := by
  apply decimal_injective
  rw [← takeWhile_avatarFilename userId ext, h, takeWhile_avatarFilename]

theorem avatarUrl_inj (h : avatarUrl userId ext = avatarUrl other ext') : userId = other :=
  avatarFilename_inj (List.append_cancel_left h)

theorem avatarFile_inj {dataDir : List Bytes}
    (h : avatarFile dataDir userId ext = avatarFile dataDir other ext') : userId = other := by
  have hnames := List.append_cancel_left h
  rw [List.cons.injEq, List.cons.injEq] at hnames
  exact avatarFilename_inj hnames.2.1

/-- A byte that is in no extension, no digit and not the dot. -/
theorem not_mem_avatarFilename {byte : UInt8} (hext : ext ∈ extensions)
    (hdigit : isDigit byte = false) (hbyte : byte ∉ text "." ++ extensions.flatten) :
    byte ∉ avatarFilename userId ext := by
  intro hmem
  rw [avatarFilename, List.append_assoc] at hmem
  rcases List.mem_append.mp hmem with hmem | hmem
  · rw [digit_of_mem_decimal hmem] at hdigit
    contradiction
  · rcases List.mem_append.mp hmem with hmem | hmem
    · exact hbyte (List.mem_append_left _ hmem)
    · exact hbyte (List.mem_append_right _ (List.mem_flatten_of_mem hext hmem))

/-- The name is longer than a dot segment. -/
theorem two_lt_length_avatarFilename (userId : ℕ) (hext : ext ∈ extensions) :
    2 < (avatarFilename userId ext).length := by
  have hlengths : ∀ ext ∈ extensions, 3 ≤ ext.length := by decide
  have hlength := hlengths ext hext
  simp only [avatarFilename, List.length_append]
  omega

theorem avatarUrl_eq (userId : ℕ) (ext : Bytes) :
    avatarUrl userId ext = text "avatars" ++ 47 :: avatarFilename userId ext := by
  rfl

theorem ne_dots_of_two_lt_length {part : Bytes} (h : 2 < part.length) :
    part ≠ [] ∧ part ≠ text "." ∧ part ≠ text ".." := by
  refine ⟨?_, ?_, ?_⟩ <;>
  · rintro rfl
    exact absurd h (by decide)

/-- `contained_path` joins the url. -/
theorem admissible_avatarUrl (userId : ℕ) (hext : ext ∈ extensions) :
    ¬ (avatarUrl userId ext = [] ∨ avatarUrl userId ext = text "." ∨
      avatarUrl userId ext = text ".." ∨ 0 ∈ avatarUrl userId ext) := by
  have hlong := two_lt_length_avatarFilename userId hext
  have hlength : 2 < (avatarUrl userId ext).length := by
    rw [avatarUrl, List.length_append]
    omega
  rcases ne_dots_of_two_lt_length hlength with ⟨hempty, hdot, hdots⟩
  rintro (hsame | hsame | hsame | hmem)
  · exact hempty hsame
  · exact hdot hsame
  · exact hdots hsame
  · rw [avatarUrl] at hmem
    rcases List.mem_append.mp hmem with hmem | hmem
    · exact absurd hmem (by decide)
    · exact not_mem_avatarFilename hext (by decide) (by decide) hmem

/-- The url of an avatar leads to its file, below the data directory. -/
theorem containedPath_avatarUrl (dataDir : List Bytes) (userId : ℕ) (hext : ext ∈ extensions) :
    containedPath dataDir (avatarUrl userId ext) = some (avatarFile dataDir userId ext) := by
  have hslash : (47 : UInt8) ∉ avatarFilename userId ext :=
    not_mem_avatarFilename hext (by decide) (by decide)
  have hshort := ne_dots_of_two_lt_length (two_lt_length_avatarFilename userId hext)
  have hsplit : (avatarUrl userId ext).splitOn 47 =
      [text "avatars", avatarFilename userId ext] := by
    rw [avatarUrl_eq, List.splitOn_append_cons_self_of_not_mem (by decide),
      List.splitOn_eq_singleton hslash]
  have hnames : [text "avatars", avatarFilename userId ext].filter
      (fun name => decide (name ≠ [])) = [text "avatars", avatarFilename userId ext] := by
    rw [List.filter_eq_self]
    intro name hname
    rcases List.mem_cons.mp hname with rfl | hname
    · rfl
    · rw [List.mem_singleton.mp hname]
      exact decide_eq_true hshort.1
  have hwalk : walk (text ".") (text "..") dataDir [text "avatars", avatarFilename userId ext] =
      avatarFile dataDir userId ext := by
    rw [walk, List.foldl_cons, List.foldl_cons, List.foldl_nil, walkStep, walkStep,
      if_neg hshort.2.1, if_neg hshort.2.2, if_neg (by decide), if_neg (by decide),
      List.append_assoc]
    rfl
  have hhead : (avatarUrl userId ext).head? ≠ some 47 := by
    rw [avatarUrl_eq]
    change some (97 : UInt8) ≠ some 47
    decide
  rw [containedPath, if_neg (admissible_avatarUrl userId hext), hsplit, hnames]
  simp only [if_neg hhead, hwalk]
  exact if_pos (List.prefix_append _ _)

/-- A text is not blank if its first byte starts no whitespace. -/
theorem isBlank_cons {first : UInt8} (rest : Bytes) (bound : ℕ)
    (hfirst : ∀ char ∈ whitespace, char.head? ≠ some first) :
    isBlank bound (first :: rest) = false := by
  cases bound with
  | zero => rfl
  | succ bound =>
      rw [isBlank, List.isEmpty_cons, Bool.false_or, List.any_eq_false]
      intro char hchar hblank
      have hprefix := List.isPrefixOf_iff_prefix.mp (Bool.and_eq_true_iff.mp hblank).1
      cases char with
      | nil => exact absurd hchar (by decide)
      | cons byte char =>
          rw [List.cons_prefix_cons] at hprefix
          exact hfirst _ hchar (congrArg some hprefix.1)

/-- The url of an avatar is available when its file is there. -/
theorem avatarPath_avatarUrl {dataDir : List Bytes} {files : Table (List Bytes) Bytes}
    (hext : ext ∈ extensions) (hfile : avatarFile dataDir userId ext ∈ files) :
    avatarPath dataDir files (some (avatarUrl userId ext)) =
      some (avatarFile dataDir userId ext) := by
  have hblank : isBlank (avatarUrl userId ext).length (avatarUrl userId ext) = false :=
    isBlank_cons _ _ (by decide)
  rw [avatarPath, Option.bind_some, hblank, if_neg Bool.false_ne_true,
    containedPath_avatarUrl dataDir userId hext, Option.filter_some,
    if_pos (decide_eq_true hfile)]

end

end Accounts
end Api
end Driscord
