import Driscord.Library.TransitionSystem
import Driscord.Update.UpdateManifest

/-!
# The session of the user

`AuthManager` logs in, registers, restores the stored session and logs out.  A reply
counts only in the generation in which its request was made.

The manager runs on one thread: each call and each reply is one step.  The signals are
returned with the new state, because nothing happens in a function after its last one.
`QString::trimmed` is a parameter.
-/

namespace Driscord
namespace Client

open Library Signaling Update

/-- `SessionData`. -/
structure SessionData where
  refreshToken : Bytes
  username : Bytes
  userId : Int
deriving DecidableEq, Repr

/-- `AuthManager`, with the access token of the API client and the stored session. -/
structure AuthManager where
  accessToken : Bytes := []
  stored : Option SessionData := none
  username : Bytes := []
  refreshToken : Bytes := []
  avatarUrl : Bytes := []
  displayName : Bytes := []
  userId : Int := 0
  loggedIn : Bool := false
  authPending : Bool := false
  requestGeneration : Nat := 0
deriving DecidableEq, Repr

/-- The signals. -/
inductive AuthSignal where
  | authChanged
  | loginError (message : Bytes)
  | sessionRestored
  | sessionRestoreFailed
  | authPendingChanged
deriving DecidableEq, Repr

/-- The requests of the manager. -/
inductive AuthRequest where
  | login (username password : Bytes)
  | registration (username email password : Bytes)
  | refresh (username refreshToken : Bytes)
deriving DecidableEq, Repr

namespace AuthRequest

def path : AuthRequest → Bytes
  | login _ _ => text "/auth/login"
  | registration _ _ _ => text "/auth/register"
  | refresh _ _ => text "/auth/refresh"

def body : AuthRequest → List (Bytes × QJsonValue)
  | login username password =>
      [(text "username", .string username), (text "password", .string password)]
  | registration username email password =>
      [(text "username", .string username), (text "email", .string email),
        (text "password", .string password)]
  | refresh _ refreshToken => [(text "refresh_token", .string refreshToken)]

/-- The username that the callback has captured. -/
def username : AuthRequest → Bytes
  | login username _ => username
  | registration username _ _ => username
  | refresh username _ => username

end AuthRequest

/-- A reply that is not finished. -/
structure AuthReply where
  generation : Nat
  request : AuthRequest
deriving DecidableEq, Repr

/-- What a reply finishes with: an error of the network or of the server, and the object
of its body. -/
structure AuthAnswer where
  failed : Bool
  json : List (Bytes × QJsonValue) := []

/-- What `applyTokenResponse` takes from an answer. -/
structure TokenResponse where
  accessToken : Bytes
  refreshToken : Bytes
  userId : Int
  avatarUrl : Bytes
  displayName : Bytes
  username : Bytes
deriving DecidableEq, Repr

/-- `toString` with a default. -/
def stringOr (default : Bytes) : QJsonValue → Bytes
  | .string value => value
  | _ => default

/-- `displayName`. -/
def AuthManager.shownName (auth : AuthManager) : Bytes :=
  if auth.displayName = [] then auth.username else auth.displayName

namespace SessionStore

/-- `SessionStore::load`: a session without a refresh token is none. -/
def load (stored : Option SessionData) : Option SessionData :=
  stored.filter fun data => data.refreshToken ≠ []

end SessionStore

namespace AuthManager

/-- `setAuthPending`. -/
def setAuthPending (auth : AuthManager) (pending : Bool) : AuthManager × List AuthSignal :=
  if auth.authPending = pending then (auth, [])
  else ({ auth with authPending := pending }, [.authPendingChanged])

/-- The request is made in a new generation. -/
def beginRequest (auth : AuthManager) : AuthManager × List AuthSignal :=
  setAuthPending { auth with requestGeneration := auth.requestGeneration + 1 } true

/-- `login`, with the request that it posts. -/
def login (auth : AuthManager) (username password : Bytes) :
    AuthManager × List AuthSignal × Option AuthRequest :=
  if auth.authPending then (auth, [], none)
  else
    let begun := auth.beginRequest
    (begun.1, begun.2, some (.login username password))

/-- `registerUser`. -/
def registerUser (auth : AuthManager) (username email password : Bytes) :
    AuthManager × List AuthSignal × Option AuthRequest :=
  if auth.authPending then (auth, [], none)
  else
    let begun := auth.beginRequest
    (begun.1, begun.2, some (.registration username email password))

/-- `tryRestoreSession`. -/
def tryRestoreSession (auth : AuthManager) : AuthManager × List AuthSignal × Option AuthRequest :=
  if auth.authPending then (auth, [], none)
  else
    match SessionStore.load auth.stored with
    | none => (auth, [.sessionRestoreFailed], none)
    | some data =>
        let begun := auth.beginRequest
        ({ begun.1 with username := data.username, userId := data.userId }, begun.2,
          some (.refresh data.username data.refreshToken))

/-- `logout`. -/
def logout (auth : AuthManager) : AuthManager × List AuthSignal :=
  let idle := setAuthPending { auth with requestGeneration := auth.requestGeneration + 1 } false
  ({ idle.1 with
      accessToken := []
      stored := none
      refreshToken := []
      username := []
      avatarUrl := []
      displayName := []
      userId := 0
      loggedIn := false }, idle.2 ++ [.authChanged])

/-- A refused `tryRestoreSession`. -/
def refuseRestore (auth : AuthManager) : AuthManager :=
  { auth with stored := none, username := [], avatarUrl := [], displayName := [], userId := 0 }

section

variable (trimmed : Bytes → Bytes)

/-- The values of an answer. -/
def readResponse (json : List (Bytes × QJsonValue)) (username : Bytes) : TokenResponse where
  accessToken := (QJsonValue.value json (text "access_token")).toString
  refreshToken := (QJsonValue.value json (text "refresh_token")).toString
  userId := (QJsonValue.value json (text "user_id")).toInt
  avatarUrl := trimmed (QJsonValue.value json (text "avatar_url")).toString
  displayName := (QJsonValue.value json (text "display_name")).toString
  username := username

/-- `applyTokenResponse`. -/
def applyTokenResponse (auth : AuthManager) (response : TokenResponse) :
    AuthManager × List AuthSignal :=
  ({ auth with
      accessToken := response.accessToken
      refreshToken := response.refreshToken
      username := response.username
      userId := response.userId
      avatarUrl := response.avatarUrl
      displayName := response.displayName
      loggedIn := true
      stored := some ⟨response.refreshToken, response.username, response.userId⟩ },
    [.authChanged])

/-- What a callback does with a failed answer. -/
def failRequest (auth : AuthManager) (json : List (Bytes × QJsonValue)) :
    AuthRequest → AuthManager × List AuthSignal
  | .login _ _ =>
      (auth, [.loginError (stringOr (text "Login failed") (QJsonValue.value json (text "detail")))])
  | .registration _ _ _ =>
      (auth, [.loginError
        (stringOr (text "Registration failed") (QJsonValue.value json (text "detail")))])
  | .refresh _ _ => (auth.refuseRestore, [.sessionRestoreFailed])

/-- What a callback does with a successful answer. -/
def finishRequest (auth : AuthManager) (json : List (Bytes × QJsonValue)) (request : AuthRequest) :
    AuthManager × List AuthSignal :=
  let applied := auth.applyTokenResponse (readResponse trimmed json request.username)
  match request with
  | .refresh _ _ => (applied.1, applied.2 ++ [.sessionRestored])
  | _ => applied

/-- The callbacks: a reply of an earlier generation is dropped. -/
def onReply (auth : AuthManager) (reply : AuthReply) (answer : AuthAnswer) :
    AuthManager × List AuthSignal :=
  if reply.generation ≠ auth.requestGeneration then (auth, [])
  else
    let idle := auth.setAuthPending false
    let finished :=
      if answer.failed then idle.1.failRequest answer.json reply.request
      else idle.1.finishRequest trimmed answer.json reply.request
    (finished.1, idle.2 ++ finished.2)

end

end AuthManager

/-! ## The manager with its replies -/

/-- The manager and the replies that it waits for. -/
structure AuthSystem where
  auth : AuthManager := {}
  replies : List AuthReply := []
  /-- The latest request, which is not in the source. -/
  latest : Option AuthReply := none
  /-- A logout has begun since the latest request, which is not in the source. -/
  loggedOut : Bool := false
  /-- The last answer that was applied since the last logout, which is not in the source. -/
  applied : Option TokenResponse := none
  /-- A restore has been refused since then, which is not in the source. -/
  refused : Bool := false
deriving DecidableEq

/-- The calls of the user, and the replies. -/
inductive AuthAction where
  | login (username password : Bytes)
  | registerUser (username email password : Bytes)
  | tryRestoreSession
  | logout
  | finished (reply : AuthReply) (answer : AuthAnswer)

namespace AuthSystem

/-- A call that may post a request. -/
def post (system : AuthSystem) (called : AuthManager × List AuthSignal × Option AuthRequest) :
    AuthSystem × List AuthSignal :=
  match called.2.2 with
  | none => ({ system with auth := called.1 }, called.2.1)
  | some request =>
      let reply : AuthReply := ⟨called.1.requestGeneration, request⟩
      ({ system with
          auth := called.1
          replies := system.replies ++ [reply]
          latest := some reply
          loggedOut := false }, called.2.1)

/-- `logout`. -/
def logout (system : AuthSystem) : AuthSystem × List AuthSignal :=
  ({ system with
      auth := system.auth.logout.1
      loggedOut := true
      applied := none
      refused := false }, system.auth.logout.2)

section

variable (trimmed : Bytes → Bytes)

/-- A reply is finished. -/
def finish (system : AuthSystem) (reply : AuthReply) (answer : AuthAnswer) :
    AuthSystem × List AuthSignal :=
  let called := system.auth.onReply trimmed reply answer
  let left := { system with
    auth := called.1
    replies := system.replies.filter fun other => other ≠ reply }
  if reply.generation ≠ system.auth.requestGeneration then (left, called.2)
  else if answer.failed then
    match reply.request with
    | .refresh _ _ => ({ left with refused := true }, called.2)
    | _ => (left, called.2)
  else
    ({ left with
        applied := some (AuthManager.readResponse trimmed answer.json reply.request.username)
        refused := false }, called.2)

/-- One call or one reply, with the signals. -/
def act (system : AuthSystem) : AuthAction → Option (AuthSystem × List AuthSignal)
  | .login username password => some (system.post (system.auth.login username password))
  | .registerUser username email password =>
      some (system.post (system.auth.registerUser username email password))
  | .tryRestoreSession => some (system.post system.auth.tryRestoreSession)
  | .logout => some system.logout
  | .finished reply answer =>
      if reply ∈ system.replies then some (system.finish trimmed reply answer) else none

def Step (system next : AuthSystem) : Prop :=
  ∃ action signals, act trimmed system action = some (next, signals)

end

/-- The manager is made, with whatever session is stored. -/
def Initial (system : AuthSystem) : Prop :=
  ∃ stored, system = { auth := { stored } }

end AuthSystem

end Client
end Driscord
