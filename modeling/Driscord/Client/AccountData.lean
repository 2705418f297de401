import Driscord.Client.AuthManager

/-!
# The data of the account

`AppState` shows the profile of the user, the servers, the channels of the selected server
and the users that can be invited.  All of it comes from answers of the API, which arrive in
any order or never.  Each callback looks at who is logged in before it writes.

The voice connection is the other half of `AppState`: `leaveVoiceChannel` touches nothing of
what is modelled here.  The base URL of the API and `QString::trimmed` are parameters.
-/

namespace Driscord
namespace Client

open Library Signaling Update

/-! ## What is shown -/

/-- `m_userProfile`, unless it is empty. -/
structure UserProfile where
  id : Int
  username : Bytes
  displayName : Bytes
  email : Option Bytes := none
  avatarUrl : Bytes
deriving DecidableEq, Repr

/-- An entry of `m_servers`. -/
structure ServerItem where
  id : Int
  name : Bytes
  ownerId : Int
deriving DecidableEq, Repr

/-- An entry of `m_channels`. -/
structure ChannelItem where
  id : Int
  name : Bytes
  kind : Bytes
deriving DecidableEq, Repr

/-- An entry of `m_users`. -/
structure UserItem where
  id : Int
  username : Bytes
  displayName : Bytes
  avatarUrl : Bytes
deriving DecidableEq, Repr

/-- The part of `AppState` that is filled from answers of the API. -/
structure AccountData where
  userProfile : Option UserProfile := none
  apiError : Bytes := []
  servers : List ServerItem := []
  selectedServerId : Int := -1
  channels : List ChannelItem := []
  users : List UserItem := []
  selectedChannelId : Int := -1
deriving DecidableEq, Repr

/-! ## Requests and answers -/

/-- The functions of `ServerRepository` and `UserRepository` that `AppState` calls. -/
inductive ApiCall where
  | listServers
  | createServer (name description : Bytes)
  | listChannels (serverId : Int)
  | createChannel (serverId : Int) (name kind : Bytes)
  | acceptInvite (code : Bytes)
  | addMember (serverId userId : Int)
  | getMe
  | updateProfile (userId : Int) (displayName : Bytes)
  | uploadAvatar (userId : Int) (data ext : Bytes)
  | listUsers
deriving DecidableEq, Repr

/-- A call with the user id that its callback has captured.  The callbacks of
`updateProfile` and `uploadAvatar` do not look at it. -/
structure ApiRequest where
  call : ApiCall
  requestedUserId : Int
deriving DecidableEq, Repr

/-- What a callback is called with: an object or an array, whichever the call asks for. -/
structure ApiAnswer where
  ok : Bool
  json : List (Bytes × QJsonValue) := []
  items : List QJsonValue := []

/-- What the callbacks check before they write. -/
def AuthManager.Serves (auth : AuthManager) (request : ApiRequest) : Prop :=
  auth.loggedIn = true ∧ auth.userId = request.requestedUserId

instance (auth : AuthManager) (request : ApiRequest) : Decidable (auth.Serves request) :=
  inferInstanceAs (Decidable (_ ∧ _))

/-! ## Reading answers -/

section

variable (apiBaseUrl : Bytes) (trimmed : Bytes → Bytes)

/-- The URL of an avatar. -/
def avatarUrl (userId : Int) : Bytes :=
  apiBaseUrl ++ text "/users/" ++ text (toString userId) ++ text "/avatar"

/-- `avatarUrlFor`; `cacheBust` is the time, if it is to be appended. -/
def avatarUrlFor (user : List (Bytes × QJsonValue)) (userId : Int) (cacheBust : Option Nat) :
    Bytes :=
  match QJsonValue.value user (text "avatar_url") with
  | .string url =>
      if trimmed url = [] then []
      else
        match cacheBust with
        | none => avatarUrl apiBaseUrl userId
        | some now => avatarUrl apiBaseUrl userId ++ text "?t=" ++ text (toString now)
  | _ => []

/-- The display name, or else the username. -/
def displayNameOf (user : List (Bytes × QJsonValue)) : Bytes :=
  let displayName := (QJsonValue.value user (text "display_name")).toString
  if displayName = [] then (QJsonValue.value user (text "username")).toString else displayName

def profileItem (json : List (Bytes × QJsonValue)) (now : Nat) : UserProfile where
  id := (QJsonValue.value json (text "id")).toInt
  username := (QJsonValue.value json (text "username")).toString
  displayName := displayNameOf json
  email := some (QJsonValue.value json (text "email")).toString
  avatarUrl := avatarUrlFor apiBaseUrl trimmed json (QJsonValue.value json (text "id")).toInt
    (some now)

def serverItems (items : List QJsonValue) : List ServerItem :=
  items.map fun item =>
    { id := (QJsonValue.value item.toObject (text "id")).toInt
      name := (QJsonValue.value item.toObject (text "name")).toString
      ownerId := (QJsonValue.value item.toObject (text "owner_id")).toInt }

def channelItems (items : List QJsonValue) : List ChannelItem :=
  items.map fun item =>
    { id := (QJsonValue.value item.toObject (text "id")).toInt
      name := (QJsonValue.value item.toObject (text "name")).toString
      kind := (QJsonValue.value item.toObject (text "kind")).toString }

/-- The users without the one who is logged in. -/
def userItems (ownId : Int) (items : List QJsonValue) : List UserItem :=
  (items.filter fun item => (QJsonValue.value item.toObject (text "id")).toInt ≠ ownId).map
    fun item =>
      let userId := (QJsonValue.value item.toObject (text "id")).toInt
      { id := userId
        username := (QJsonValue.value item.toObject (text "username")).toString
        displayName := displayNameOf item.toObject
        avatarUrl := avatarUrlFor apiBaseUrl trimmed item.toObject userId none }

end

/-! ## The functions of `AppState` -/

namespace AccountData

/-- `setApiError`. -/
def setApiError (data : AccountData) (error : Bytes) : AccountData :=
  { data with apiError := error }

/-- `canManageSelectedServer`: the first entry with the id decides. -/
def canManageSelectedServer (data : AccountData) (auth : AuthManager) : Bool :=
  match data.servers.find? fun server => server.id = data.selectedServerId with
  | some server => server.ownerId = auth.userId
  | none => false

/-- `fetchCurrentUserProfile`. -/
def fetchCurrentUserProfile (auth : AuthManager) : List ApiRequest :=
  if auth.userId ≤ 0 then [] else [⟨.getMe, auth.userId⟩]

/-- `reloadServers`. -/
def reloadServers (auth : AuthManager) : List ApiRequest :=
  [⟨.listServers, auth.userId⟩]

/-- `reloadChannels`. -/
def reloadChannels (data : AccountData) (auth : AuthManager) : List ApiRequest :=
  if data.selectedServerId < 0 then []
  else [⟨.listChannels data.selectedServerId, auth.userId⟩]

/-- `selectServer`. -/
def selectServer (data : AccountData) (auth : AuthManager) (id : Int) :
    AccountData × List ApiRequest :=
  let selected := { data with selectedServerId := id, selectedChannelId := -1, channels := [] }
  (selected, selected.reloadChannels auth)

/-- `selectChannel`. -/
def selectChannel (data : AccountData) (id : Int) : AccountData :=
  { data with selectedChannelId := id }

/-- `createServer`. -/
def createServer (data : AccountData) (auth : AuthManager) (name description : Bytes) :
    AccountData × List ApiRequest :=
  (data, [⟨.createServer name description, auth.userId⟩])

/-- `createChannel`. -/
def createChannel (data : AccountData) (auth : AuthManager) (name kind : Bytes) :
    AccountData × List ApiRequest :=
  if data.selectedServerId < 0 then (data, [])
  else (data, [⟨.createChannel data.selectedServerId name kind, auth.userId⟩])

/-- `acceptInvite`. -/
def acceptInvite (data : AccountData) (auth : AuthManager) (code : Bytes) :
    AccountData × List ApiRequest :=
  (data, [⟨.acceptInvite code, auth.userId⟩])

/-- `loadUsers`. -/
def loadUsers (data : AccountData) (auth : AuthManager) : AccountData × List ApiRequest :=
  (data, [⟨.listUsers, auth.userId⟩])

/-- `inviteUser`. -/
def inviteUser (data : AccountData) (auth : AuthManager) (userId : Int) :
    AccountData × List ApiRequest :=
  if data.canManageSelectedServer auth then
    (data, [⟨.addMember data.selectedServerId userId, auth.userId⟩])
  else (data.setApiError (text "Only the server owner can invite users"), [])

/-- The id in `m_userProfile`, which is 0 when it is empty. -/
def profileId (data : AccountData) : Int :=
  (data.userProfile.map UserProfile.id).getD 0

/-- `updateDisplayName`. -/
def updateDisplayName (data : AccountData) (auth : AuthManager) (name : Bytes) :
    AccountData × List ApiRequest :=
  (data, [⟨.updateProfile data.profileId name, auth.userId⟩])

/-- `uploadAvatar`. -/
def uploadAvatar (data : AccountData) (auth : AuthManager) (avatar ext : Bytes) :
    AccountData × List ApiRequest :=
  (data, [⟨.uploadAvatar data.profileId avatar ext, auth.userId⟩])

section

variable (apiBaseUrl : Bytes) (trimmed : Bytes → Bytes)

/-- `loadInitialData`. -/
def loadInitialData (data : AccountData) (auth : AuthManager) : AccountData × List ApiRequest :=
  ({ data with
      userProfile := some
        { id := auth.userId
          username := auth.username
          displayName := auth.shownName
          avatarUrl := if auth.avatarUrl = [] then [] else avatarUrl apiBaseUrl auth.userId } },
    fetchCurrentUserProfile auth ++ reloadServers auth)

/-- The slot of `authChanged`. -/
def onAuthChanged (data : AccountData) (auth : AuthManager) : AccountData × List ApiRequest :=
  if auth.loggedIn then data.loadInitialData apiBaseUrl auth
  else ({ apiError := data.apiError }, [])

/-- The slots of the signals of `AuthManager`. -/
def onAuthSignal (data : AccountData) (auth : AuthManager) :
    AuthSignal → AccountData × List ApiRequest
  | .authChanged => data.onAuthChanged apiBaseUrl auth
  | .loginError message => (data.setApiError message, [])
  | _ => (data, [])

/-- The callbacks; `now` is the time in milliseconds. -/
def onAnswer (data : AccountData) (auth : AuthManager) (request : ApiRequest)
    (answer : ApiAnswer) (now : Nat) : AccountData × List ApiRequest :=
  match request.call with
  | .getMe =>
      if ¬ answer.ok ∨ ¬ auth.Serves request then (data, [])
      else ({ data with userProfile := some (profileItem apiBaseUrl trimmed answer.json now) }, [])
  | .listServers =>
      if ¬ answer.ok ∨ ¬ auth.Serves request then (data, [])
      else ({ data with servers := serverItems answer.items }, [])
  | .listChannels serverId =>
      if ¬ answer.ok ∨ ¬ auth.Serves request ∨ data.selectedServerId ≠ serverId then (data, [])
      else ({ data with channels := channelItems answer.items }, [])
  | .createServer _ _ =>
      if ¬ auth.Serves request then (data, [])
      else if answer.ok then (data, reloadServers auth)
      else (data.setApiError (text "Failed to create server"), [])
  | .createChannel serverId _ _ =>
      if ¬ auth.Serves request then (data, [])
      else if answer.ok then
        if data.selectedServerId = serverId then (data, data.reloadChannels auth) else (data, [])
      else (data.setApiError (text "Failed to create channel"), [])
  | .acceptInvite _ =>
      if ¬ auth.Serves request then (data, [])
      else if answer.ok then
        let selected := data.selectServer auth
          (QJsonValue.value answer.json (text "server_id")).toInt
        (selected.1, reloadServers auth ++ selected.2)
      else (data.setApiError (text "Invalid invite code"), [])
  | .listUsers =>
      if ¬ auth.Serves request then (data, [])
      else if answer.ok then
        ({ data with users := userItems apiBaseUrl trimmed auth.userId answer.items }, [])
      else (data.setApiError (text "Failed to load users"), [])
  | .addMember serverId userId =>
      if ¬ auth.Serves request ∨ data.selectedServerId ≠ serverId then (data, [])
      else if answer.ok then
        ({ data with users := data.users.filter fun user => user.id ≠ userId }, [])
      else (data.setApiError (text "Failed to add user; they may already be a member"), [])
  | .updateProfile _ _ | .uploadAvatar _ _ _ =>
      if answer.ok then (data, fetchCurrentUserProfile auth) else (data, [])

end

end AccountData

/-! ## The application with its answers -/

/-- A request that is sent. -/
structure SentRequest where
  request : ApiRequest
  /-- The user who was logged in then, which is not in the source. -/
  account : Option Int
deriving DecidableEq, Repr

/-- The session, the data of the account and the answers that are waited for. -/
structure AccountSystem where
  session : AuthSystem := {}
  data : AccountData := {}
  requests : List SentRequest := []
  /-- The answers that have arrived, which is not in the source. -/
  delivered : List (SentRequest × ApiAnswer) := []

/-- The calls of the user, and the replies and answers. -/
inductive AccountAction where
  | session (action : AuthAction)
  | selectServer (id : Int)
  | selectChannel (id : Int)
  | createServer (name description : Bytes)
  | createChannel (name kind : Bytes)
  | acceptInvite (code : Bytes)
  | loadUsers
  | inviteUser (userId : Int)
  | updateDisplayName (name : Bytes)
  | uploadAvatar (avatar ext : Bytes)
  | answered (sent : SentRequest) (answer : ApiAnswer) (now : Nat)

namespace AccountSystem

def auth (app : AccountSystem) : AuthManager :=
  app.session.auth

/-- The user who is logged in, by the answer that was applied last. -/
def account (app : AccountSystem) : Option Int :=
  app.session.applied.map TokenResponse.userId

/-- What a function has written, and what it has sent. -/
def done (app : AccountSystem) (called : AccountData × List ApiRequest) : AccountSystem :=
  { app with
    data := called.1
    requests := app.requests ++ called.2.map fun request => ⟨request, app.account⟩ }

section

variable (apiBaseUrl : Bytes) (trimmed : Bytes → Bytes)

/-- The signals are handled where they are emitted. -/
def signalled (app : AccountSystem) (signals : List AuthSignal) : AccountSystem :=
  signals.foldl
    (fun app signal => app.done (app.data.onAuthSignal apiBaseUrl app.auth signal)) app

/-- An answer arrives. -/
def answered (app : AccountSystem) (sent : SentRequest) (answer : ApiAnswer) (now : Nat) :
    AccountSystem :=
  { app with
      requests := app.requests.erase sent
      delivered := app.delivered ++ [(sent, answer)] }.done
    (app.data.onAnswer apiBaseUrl trimmed app.auth sent.request answer now)

/-- One call, one reply or one answer. -/
def act (app : AccountSystem) : AccountAction → Option AccountSystem
  | .session action =>
      (AuthSystem.act trimmed app.session action).map fun next =>
        { app with session := next.1 }.signalled apiBaseUrl next.2
  | .selectServer id => some (app.done (app.data.selectServer app.auth id))
  | .selectChannel id => some (app.done (app.data.selectChannel id, []))
  | .createServer name description =>
      some (app.done (app.data.createServer app.auth name description))
  | .createChannel name kind => some (app.done (app.data.createChannel app.auth name kind))
  | .acceptInvite code => some (app.done (app.data.acceptInvite app.auth code))
  | .loadUsers => some (app.done (app.data.loadUsers app.auth))
  | .inviteUser userId => some (app.done (app.data.inviteUser app.auth userId))
  | .updateDisplayName name => some (app.done (app.data.updateDisplayName app.auth name))
  | .uploadAvatar avatar ext => some (app.done (app.data.uploadAvatar app.auth avatar ext))
  | .answered sent answer now =>
      if sent ∈ app.requests then some (app.answered apiBaseUrl trimmed sent answer now)
      else none

def Step (app next : AccountSystem) : Prop :=
  ∃ action, act apiBaseUrl trimmed app action = some next

end

/-- The application is started, with whatever session is stored. -/
def Initial (app : AccountSystem) : Prop :=
  ∃ session, AuthSystem.Initial session ∧ app = { session }

end AccountSystem

end Client
end Driscord
