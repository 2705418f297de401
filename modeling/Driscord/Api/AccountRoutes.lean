import Driscord.Api.Accounts

/-!
# The routes of accounts

Registration, login, token refresh and the routes of users as programs of database
statements.  A request has passed the validation of its path and body, and an exception
that no handler catches is answered with 500.

A request brings the claims of its token.  Signatures are not forged, so they are those
of a token that an answer has handed out, or there are none.
-/

namespace Driscord
namespace Api
namespace Accounts

open Library

/-! ## Answers -/

/-- `UserResponse`. -/
structure Profile where
  id : ℕ
  username : Bytes
  displayName : Option Bytes := none
  avatarUrl : Option Bytes := none
deriving DecidableEq, Repr

/-- The body of an answer. -/
inductive Body where
  | empty
  | detail (text : String)
  /-- `TokenResponse`. -/
  | tokens (access refresh : Payload) (userId : ℕ) (avatarUrl displayName : Option Bytes)
  | user (profile : Profile)
  | users (profiles : List Profile)
  /-- `MeResponse`. -/
  | me (profile : Profile) (email : Bytes)
  | file (content : Bytes)
deriving DecidableEq, Repr

/-- A status code and a body. -/
structure Answer where
  status : ℕ
  body : Body := .empty
deriving DecidableEq, Repr

/-- The answer is an error. -/
def Answer.Fails (answer : Answer) : Prop :=
  400 ≤ answer.status

instance (answer : Answer) : Decidable answer.Fails :=
  inferInstanceAs (Decidable (_ ≤ _))

/-- The tokens that an answer hands out. -/
def Answer.tokens (answer : Answer) : List Payload :=
  match answer.body with
  | .tokens access refresh _ _ _ => [access, refresh]
  | _ => []

/-- The accounts that an answer shows. -/
def Answer.profiles (answer : Answer) : List Profile :=
  match answer.body with
  | .user profile => [profile]
  | .users profiles => profiles
  | .me profile _ => [profile]
  | _ => []

/-- A handler, or a part of one. -/
abbrev Handler (α : Type) := Program AccountRows AccountWrite ℕ WriteError Answer α

/-- `raise HTTPException`. -/
def raise {α : Type} (status : ℕ) (detail : String) : Handler α :=
  .answer { status, body := .detail detail }

/-- Any other exception. -/
def fail {α : Type} : Handler α :=
  .answer { status := 500 }

/-- A `select` statement, or a look at the files. -/
def query {α : Type} (read : AccountRows → α) : Handler α :=
  .select fun rows => .pure (read rows)

/-- `scalar_one_or_none`, and what is raised for `None`. -/
def queryOr {α : Type} (read : AccountRows → Option α) (status : ℕ) (detail : String) :
    Handler α :=
  query read >>= fun found =>
    match found with
    | some value => pure value
    | none => raise status detail

/-- A write whose errors are not caught. -/
def commit (write : AccountWrite) : Handler ℕ :=
  .commit write fun result =>
    match result with
    | Except.ok id => .pure id
    | Except.error _ => fail

/-- A read that raises when nothing is there. -/
def refresh {α : Type} (read : AccountRows → Option α) : Handler α :=
  query read >>= fun found =>
    match found with
    | some value => pure value
    | none => fail

/-- What the API is configured with. -/
structure Settings where
  bcrypt : Bcrypt
  /-- `data_dir`, resolved: the names on its path. -/
  dataDir : List Bytes
  /-- The order of usernames in the database. -/
  collate : Bytes → Bytes → Bool

/-- A user of a response, with the avatar if it is available. -/
def profileOf (settings : Settings) (rows : AccountRows) (user : ℕ × Account) : Profile where
  id := user.1
  username := user.2.username
  displayName := user.2.displayName
  avatarUrl := availableAvatarUrl settings.dataDir rows.files user.2.avatarUrl

/-- A session returns the object that it has loaded already. -/
def loaded (caller user : ℕ × Account) : ℕ × Account :=
  if user.1 = caller.1 then caller else user

/-! ## Registration and login -/

/-- The tokens of a user. -/
def tokenResponse (settings : Settings) (status : ℕ) (user : ℕ × Account) : Handler Answer := do
  let profile ← query fun rows => profileOf settings rows user
  pure ⟨status, .tokens (createAccessToken user.1) (createRefreshToken user.1) user.1
    profile.avatarUrl user.2.displayName⟩

/-- The insert of `register`. -/
def insertUser (settings : Settings) (username email hashedPassword : Bytes) : Handler Answer :=
  .commit (.insertUser username email hashedPassword) fun result =>
    match result with
    | Except.ok id => do
        let user ← refresh fun rows => rows.userById id
        tokenResponse settings 201 user
    | Except.error .integrity => raise 409 "Username or email already registered"
    | Except.error .stale => fail

/-- `register`, with the salt that `gensalt` returns. -/
def register (settings : Settings) (username email password salt : Bytes) : Handler Answer := do
  let existing ← query fun rows => rows.userByUsername username
  match existing with
  | some _ => raise 409 "Username already taken"
  | none => do
      let existing ← query fun rows => rows.userByEmail email
      match existing with
      | some _ => raise 409 "Email already registered"
      | none =>
          match hashPassword settings.bcrypt password salt with
          | none => fail
          | some hashed => insertUser settings username email hashed

/-- `login`. -/
def login (settings : Settings) (username password : Bytes) : Handler Answer := do
  let user ← queryOr (fun rows => rows.userByUsername username) 401 "Invalid credentials"
  if verifyPassword settings.bcrypt password user.2.hashedPassword then
    tokenResponse settings 200 user
  else raise 401 "Invalid credentials"

/-- `refresh`. -/
def refreshTokens (settings : Settings) (token : Payload) : Handler Answer :=
  match token.userOf "refresh" with
  | none => raise 401 "Invalid refresh token"
  | some userId => do
      let user ← queryOr (fun rows => rows.userById userId) 401 "User not found"
      tokenResponse settings 200 user

/-! ## Users -/

/-- `get_current_user`. -/
def getCurrentUser (token : Payload) : Handler (ℕ × Account) :=
  match token.userOf "access" with
  | none => raise 401 "Invalid token"
  | some userId => queryOr (fun rows => rows.userById userId) 401 "User not found"

/-- The response with a user. -/
def userResponse (settings : Settings) (user : ℕ × Account) : Handler Answer := do
  let profile ← query fun rows => profileOf settings rows user
  pure ⟨200, .user profile⟩

/-- The response with the caller. -/
def meResponse (settings : Settings) (user : ℕ × Account) : Handler Answer := do
  let profile ← query fun rows => profileOf settings rows user
  pure ⟨200, .me profile user.2.email⟩

/-- The users in the order of their usernames. -/
def orderedUsers (settings : Settings) (rows : AccountRows) : List (ℕ × Account) :=
  (rows.users.entries.map fun entry => (entry.1, entry.2)).mergeSort fun first second =>
    settings.collate first.2.username second.2.username

/-- `list_users`. -/
def listUsers (settings : Settings) (token : Payload) : Handler Answer := do
  let caller ← getCurrentUser token
  let users ← query fun rows => orderedUsers settings rows
  let profiles ← query fun rows =>
    users.map fun user => profileOf settings rows (loaded caller user)
  pure ⟨200, .users profiles⟩

/-- `get_me`. -/
def getMe (settings : Settings) (token : Payload) : Handler Answer := do
  let caller ← getCurrentUser token
  meResponse settings caller

/-- Set a column of the caller, if that changes it, and read the row again. -/
def commitChange (caller : ℕ × Account) (changed : Bool) (write : AccountWrite) :
    Handler (ℕ × Account) :=
  if changed then do
    let _ ← commit write
    refresh fun rows => rows.userById caller.1
  else refresh fun rows => rows.userById caller.1

/-- The change of a display name that is in the fields of the body. -/
def updateProfile (caller : ℕ × Account) (displayName : Option (Option Bytes)) :
    Handler (ℕ × Account) :=
  let displayName := displayName.getD caller.2.displayName
  commitChange caller (decide (displayName ≠ caller.2.displayName))
    (.setDisplayName caller.1 displayName)

/-- `update_me`. -/
def updateMe (settings : Settings) (token : Payload) (displayName : Option (Option Bytes)) :
    Handler Answer := do
  let caller ← getCurrentUser token
  let user ← updateProfile caller displayName
  meResponse settings user

/-- `lookup_user`. -/
def lookupUser (settings : Settings) (token : Payload) (username : Bytes) : Handler Answer := do
  let caller ← getCurrentUser token
  let user ← queryOr (fun rows => rows.userByUsername username) 404 "User not found"
  userResponse settings (loaded caller user)

/-- `get_avatar`. -/
def getAvatar (settings : Settings) (userId : ℕ) : Handler Answer := do
  let user ← queryOr (fun rows => rows.userById userId) 404 "Avatar not found"
  let path ← queryOr (fun rows => avatarPath settings.dataDir rows.files user.2.avatarUrl) 404
    "Avatar file not found"
  let content ← refresh fun rows => rows.files.lookup path
  pure ⟨200, .file content⟩

/-- `upload_avatar` from the write of the file on. -/
def storeAvatar (settings : Settings) (caller : ℕ × Account) (ext content : Bytes) :
    Handler Answer := do
  let _ ← commit (.writeFile (avatarFile settings.dataDir caller.1 ext) content)
  let url := avatarUrl caller.1 ext
  let user ← commitChange caller (decide (some url ≠ caller.2.avatarUrl))
    (.setAvatarUrl caller.1 url)
  userResponse settings user

/-- `upload_avatar`. -/
def uploadAvatar (settings : Settings) (token : Payload) (userId : ℕ)
    (contentType : Option String) (content : Bytes) : Handler Answer := do
  let caller ← getCurrentUser token
  if caller.1 ≠ userId then raise 403 "Cannot modify another user's avatar"
  else if contentType ∉ allowedImageTypes.map some then raise 415 "Unsupported image type"
  else if content = [] then raise 400 "File is empty"
  else if maxAvatarBytes < content.length then raise 413 "File too large (max 5 MB)"
  else
    match contentType.bind fun type => extMap.lookup type with
    | none => fail
    | some ext => storeAvatar settings caller ext content

/-- `update_user`. -/
def updateUser (settings : Settings) (token : Payload) (userId : ℕ)
    (displayName : Option (Option Bytes)) : Handler Answer := do
  let caller ← getCurrentUser token
  if caller.1 ≠ userId then raise 403 "Cannot modify another user's profile"
  else do
    let user ← updateProfile caller displayName
    userResponse settings user

/-- `get_user`. -/
def getUser (settings : Settings) (token : Payload) (userId : ℕ) : Handler Answer := do
  let caller ← getCurrentUser token
  let user ← queryOr (fun rows => rows.userById userId) 404 "User not found"
  userResponse settings (loaded caller user)

/-! ## Routes -/

/-- A route with its parameters. -/
inductive Call where
  | register (username email password salt : Bytes)
  | login (username password : Bytes)
  | refresh
  | listUsers
  | getMe
  | updateMe (displayName : Option (Option Bytes))
  | lookupUser (username : Bytes)
  | getAvatar (userId : ℕ)
  | uploadAvatar (userId : ℕ) (contentType : Option String) (content : Bytes)
  | updateUser (userId : ℕ) (displayName : Option (Option Bytes))
  | getUser (userId : ℕ)
deriving DecidableEq, Repr

/-- A request, with the claims of the token in its header or body. -/
structure Request where
  token : Payload := {}
  call : Call
deriving DecidableEq, Repr

/-- The handler of a request. -/
def handler (settings : Settings) (request : Request) : Handler Answer :=
  match request.call with
  | .register username email password salt => register settings username email password salt
  | .login username password => login settings username password
  | .refresh => refreshTokens settings request.token
  | .listUsers => listUsers settings request.token
  | .getMe => getMe settings request.token
  | .updateMe displayName => updateMe settings request.token displayName
  | .lookupUser username => lookupUser settings request.token username
  | .getAvatar userId => getAvatar settings userId
  | .uploadAvatar userId contentType content =>
      uploadAvatar settings request.token userId contentType content
  | .updateUser userId displayName => updateUser settings request.token userId displayName
  | .getUser userId => getUser settings request.token userId

/-! ## All requests together -/

/-- The rows, and the requests so far. -/
abbrev AccountSystem := System Request AccountRows AccountWrite ℕ WriteError Answer

/-- A request, and what it has done so far. -/
abbrev AccountThread := Running Request AccountRows AccountWrite ℕ WriteError Answer

/-- A request arrives or runs a statement; nothing else writes accounts. -/
abbrev AccountAction := SystemAction Request Empty

/-- One action. -/
def act (settings : Settings) (system : AccountSystem) (action : AccountAction) :
    Option AccountSystem :=
  System.act (handler settings) AccountRows.apply (fun change _ => change.elim) system action

/-- An answer has handed out a token with the claims. -/
def Issued (system : AccountSystem) (payload : Payload) : Prop :=
  ∃ thread ∈ system.running, ∃ answer ∈ thread.program.answerOf, payload ∈ answer.tokens

instance (system : AccountSystem) (payload : Payload) : Decidable (Issued system payload) :=
  inferInstanceAs (Decidable (∃ thread ∈ system.running, _))

/-- A request that arrives has no token, or one that was handed out. -/
def Genuine (system : AccountSystem) : AccountAction → Prop
  | .arrive request => request.token = {} ∨ Issued system request.token
  | _ => True

instance (system : AccountSystem) :
    (action : AccountAction) → Decidable (Genuine system action)
  | .arrive request => inferInstanceAs (Decidable (request.token = {} ∨ _))
  | .run _ | .other _ => instDecidableTrue

/-- One step of the system. -/
def Step (settings : Settings) (system next : AccountSystem) : Prop :=
  ∃ action, Genuine system action ∧ act settings system action = some next

end Accounts
end Api
end Driscord
