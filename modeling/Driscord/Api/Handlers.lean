import Driscord.Api.Database
import Driscord.Library.Transactions

/-!
# The requests of the API

The routes of servers, invites and channels as programs of database statements.
A request has passed the validation of its path and body, and its token names a
user.  An exception that no handler catches is answered with 500.

The routes that only list rows are left out; they write nothing.

Main results:

- Theorem `alone_queryOr_bind`: a read that finds something goes on with it.
-/

namespace Driscord
namespace Api

open Library

/-! ## Answers -/

/-- The body of an answer. -/
inductive Body where
  | empty
  | detail (text : String)
  | server (id : ℕ) (server : Server)
  | added (userId : ℕ)
  | invite (invite : ServerInvite)
  | accepted (serverId : ℕ) (status : String)
  | channel (id : ℕ) (channel : Channel)
  | access (channelId serverId userId : ℕ) (username : Bytes) (displayName : Option Bytes)
deriving DecidableEq, Repr

/-- A status code and a body. -/
structure Answer where
  status : ℕ
  body : Body := .empty
deriving DecidableEq, Repr

/-- The answer is an error. -/
def Answer.Fails (answer : Answer) : Prop :=
  400 ≤ answer.status

instance (answer : Answer) : Decidable answer.Fails :=
  inferInstanceAs (Decidable (_ ≤ _))

/-- A handler, or a part of one. -/
abbrev Handler (α : Type) := Program Rows Write ℕ WriteError Answer α

/-- `raise HTTPException`. -/
def raise {α : Type} (status : ℕ) (detail : String) : Handler α :=
  .answer { status, body := .detail detail }

/-- Any other exception. -/
def fail {α : Type} : Handler α :=
  .answer { status := 500 }

/-- A `select` statement. -/
def query {α : Type} (read : Rows → α) : Handler α :=
  .select fun rows => .pure (read rows)

/-- A `select` statement with `scalar_one_or_none`, and what is raised for `None`. -/
def queryOr {α : Type} (read : Rows → Option α) (status : ℕ) (detail : String) : Handler α :=
  query read >>= fun found =>
    match found with
    | some value => pure value
    | none => raise status detail

/-- `db.commit`, whose errors are not caught. -/
def commit (write : Write) : Handler ℕ :=
  .commit write fun result =>
    match result with
    | Except.ok id => .pure id
    | Except.error _ => fail

/-- `db.refresh`, which raises when the row is gone. -/
def refresh {α : Type} (read : Rows → Option α) : Handler α :=
  query read >>= fun found =>
    match found with
    | some value => pure value
    | none => fail

section

variable {α : Type} {rows : Rows}

theorem alone_queryOr_bind {read : Rows → Option α} {status : ℕ} {detail : String} {value : α}
    (hfound : read rows = some value) (next : α → Handler Answer) :
    (queryOr read status detail >>= next).alone Rows.apply rows =
      (next value).alone Rows.apply rows := by
  change ((match read rows with
    | some found => (.pure found : Handler α)
    | none => raise status detail).bind next).alone Rows.apply rows = _
  rw [hfound]
  rfl

theorem alone_refresh_bind {read : Rows → Option α} {value : α}
    (hfound : read rows = some value) (next : α → Handler Answer) :
    (refresh read >>= next).alone Rows.apply rows = (next value).alone Rows.apply rows := by
  change ((match read rows with
    | some found => (.pure found : Handler α)
    | none => fail).bind next).alone Rows.apply rows = _
  rw [hfound]
  rfl

end

/-! ## Shared checks -/

/-- `get_current_user`: the user that an access token names. -/
def getCurrentUser (caller : Option ℕ) : Handler (ℕ × User) :=
  match caller with
  | none => raise 401 "Invalid token"
  | some userId =>
      queryOr (fun rows => (rows.users.lookup userId).map fun user => (userId, user))
        401 "User not found"

/-- `_get_server_or_404`. -/
def getServerOr404 (serverId : ℕ) : Handler Server :=
  queryOr (fun rows => rows.servers.lookup serverId) 404 "Server not found"

/-- `_require_server_member`. -/
def requireServerMember (serverId userId : ℕ) : Handler Server := do
  let server ← getServerOr404 serverId
  let _ ← queryOr (fun rows => rows.memberOf serverId userId) 403 "Not a server member"
  pure server

/-- `_get_channel_in_server`. -/
def getChannelInServer (serverId channelId : ℕ) : Handler Channel :=
  queryOr (fun rows => (rows.channels.lookup channelId).filter fun channel =>
    decide (channel.serverId = serverId)) 404 "Channel not found"

/-- Raise unless the user owns the server. -/
def requireOwner (server : Server) (userId : ℕ) (detail : String) : Handler Unit :=
  if server.ownerId = userId then pure () else raise 403 detail

/-! ## Servers -/

/-- `create_server`. -/
def createServer (caller : Option ℕ) (name : Bytes) (description : Option Bytes) :
    Handler Answer := do
  let user ← getCurrentUser caller
  let id ← commit (.createServer name description user.1)
  let server ← refresh fun rows => rows.servers.lookup id
  pure { status := 201, body := .server id server }

/-- `get_server`. -/
def getServer (caller : Option ℕ) (serverId : ℕ) : Handler Answer := do
  let user ← getCurrentUser caller
  let server ← requireServerMember serverId user.1
  pure { status := 200, body := .server serverId server }

/-- Commit the columns that differ from the row that was read; nothing is sent
when none does. -/
def commitChanges (changed : Bool) (write : Write) : Handler Unit :=
  if changed then commit write >>= fun _ => pure () else pure ()

/-- `update_server`. -/
def updateServer (caller : Option ℕ) (serverId : ℕ) (name : Option Bytes)
    (description : Option (Option Bytes)) : Handler Answer := do
  let user ← getCurrentUser caller
  let server ← getServerOr404 serverId
  requireOwner server user.1 "Only the owner can update this server"
  let name := name.filter fun name => decide (name ≠ server.name)
  let description := description.filter fun text => decide (text ≠ server.description)
  commitChanges (name.isSome || description.isSome) (.updateServer serverId name description)
  let server ← refresh fun rows => rows.servers.lookup serverId
  pure { status := 200, body := .server serverId server }

/-- `delete_server`. -/
def deleteServer (caller : Option ℕ) (serverId : ℕ) : Handler Answer := do
  let user ← getCurrentUser caller
  let server ← getServerOr404 serverId
  requireOwner server user.1 "Only the owner can delete this server"
  let _ ← commit (.deleteServer serverId)
  pure { status := 204 }

/-- `join_server`. -/
def joinServer (caller : Option ℕ) : Handler Answer := do
  let _ ← getCurrentUser caller
  raise 403 "An invite is required to join this server"

/-- `add_server_member`. -/
def addServerMember (caller : Option ℕ) (serverId userId : ℕ) : Handler Answer := do
  let user ← getCurrentUser caller
  let server ← getServerOr404 serverId
  requireOwner server user.1 "Only the owner can add members"
  let _ ← queryOr (fun rows => rows.users.lookup userId) 404 "User not found"
  let existing ← query fun rows => rows.memberOf serverId userId
  match existing with
  | some _ => raise 409 "Already a member"
  | none => do
      let _ ← commit (.addMember serverId userId)
      pure { status := 201, body := .added userId }

/-- `leave_server`. -/
def leaveServer (caller : Option ℕ) (serverId : ℕ) : Handler Answer := do
  let user ← getCurrentUser caller
  let server ← getServerOr404 serverId
  if server.ownerId = user.1 then
    raise 400 "Owner cannot leave the server; delete it instead"
  else do
    let member ← queryOr (fun rows => rows.memberOf serverId user.1) 404 "Not a member"
    let _ ← commit (.deleteMember member.1)
    pure { status := 204 }

/-! ## Invites -/

/-- `_MAX_GEN_ATTEMPTS`. -/
def maxGenAttempts : ℕ := 5

/-- The loop of `create_invite` from one attempt on.  A rollback expires the row of
the caller, and reading an expired row outside of a statement raises. -/
def generateInvite (serverId userId : ℕ) (codes : ℕ → Bytes) :
    ℕ → ℕ → Bool → Handler Answer
  | 0, _, _ => raise 503 "Failed to generate a unique invite code"
  | attempts + 1, attempt, expired =>
      if expired then fail
      else .commit (.addInvite (codes attempt) serverId userId) fun result =>
        match result with
        | Except.ok id => do
            let invite ← refresh fun rows => rows.invites.lookup id
            pure { status := 201, body := .invite invite }
        | Except.error .integrity =>
            generateInvite serverId userId codes attempts (attempt + 1) true
        | Except.error .stale => fail

/-- `create_invite`, with the codes that `_generate_code` returns one after the other. -/
def createInvite (caller : Option ℕ) (serverId : ℕ) (codes : ℕ → Bytes) :
    Handler Answer := do
  let user ← getCurrentUser caller
  let _ ← requireServerMember serverId user.1
  generateInvite serverId user.1 codes maxGenAttempts 0 false

/-- `revoke_invite`. -/
def revokeInvite (caller : Option ℕ) (serverId : ℕ) (code : Bytes) : Handler Answer := do
  let user ← getCurrentUser caller
  let server ← getServerOr404 serverId
  let invite ← queryOr (fun rows => (rows.inviteOf code).filter fun invite =>
    decide (invite.2.serverId = serverId)) 404 "Invite not found"
  if server.ownerId ≠ user.1 ∧ invite.2.creatorId ≠ user.1 then
    raise 403 "Only the owner or the invite creator can revoke it"
  else do
    let _ ← commit (.deleteInvite invite.1)
    pure { status := 204 }

/-- `accept_invite`. -/
def acceptInvite (caller : Option ℕ) (code : Bytes) : Handler Answer := do
  let user ← getCurrentUser caller
  let invite ← queryOr (fun rows => rows.inviteOf code) 404 "Invalid invite code"
  let existing ← query fun rows => rows.memberOf invite.2.serverId user.1
  match existing with
  | some _ => pure { status := 200, body := .accepted invite.2.serverId "already_member" }
  | none => do
      let _ ← commit (.addMember invite.2.serverId user.1)
      pure { status := 200, body := .accepted invite.2.serverId "joined" }

/-! ## Channels -/

/-- `check_channel_access`. -/
def checkChannelAccess (caller : Option ℕ) (channelId : ℕ) : Handler Answer := do
  let user ← getCurrentUser caller
  let channel ← queryOr (fun rows => rows.channels.lookup channelId) 404 "Channel not found"
  let _ ← requireServerMember channel.serverId user.1
  pure ⟨200, .access channelId channel.serverId user.1 user.2.username user.2.displayName⟩

/-- `create_channel`. -/
def createChannel (caller : Option ℕ) (channel : Channel) : Handler Answer := do
  let user ← getCurrentUser caller
  let server ← requireServerMember channel.serverId user.1
  requireOwner server user.1 "Only the owner can create channels"
  let id ← commit (.addChannel channel)
  let channel ← refresh fun rows => rows.channels.lookup id
  pure { status := 201, body := .channel id channel }

/-- `get_channel`. -/
def getChannel (caller : Option ℕ) (serverId channelId : ℕ) : Handler Answer := do
  let user ← getCurrentUser caller
  let _ ← requireServerMember serverId user.1
  let channel ← getChannelInServer serverId channelId
  pure { status := 200, body := .channel channelId channel }

/-- `update_channel`. -/
def updateChannel (caller : Option ℕ) (serverId channelId : ℕ) (name : Option Bytes)
    (position : Option ℕ) : Handler Answer := do
  let user ← getCurrentUser caller
  let server ← requireServerMember serverId user.1
  requireOwner server user.1 "Only the owner can update channels"
  let channel ← getChannelInServer serverId channelId
  let name := name.filter fun name => decide (name ≠ channel.name)
  let position := position.filter fun position => decide (position ≠ channel.position)
  commitChanges (name.isSome || position.isSome) (.updateChannel channelId name position)
  let channel ← refresh fun rows => rows.channels.lookup channelId
  pure { status := 200, body := .channel channelId channel }

/-- `delete_channel`. -/
def deleteChannel (caller : Option ℕ) (serverId channelId : ℕ) : Handler Answer := do
  let user ← getCurrentUser caller
  let server ← requireServerMember serverId user.1
  requireOwner server user.1 "Only the owner can delete channels"
  let _ ← getChannelInServer serverId channelId
  let _ ← commit (.deleteChannel channelId)
  pure { status := 204 }

/-! ## Routes -/

/-- A route with its parameters. -/
inductive Call where
  | createServer (name : Bytes) (description : Option Bytes)
  | getServer (serverId : ℕ)
  | updateServer (serverId : ℕ) (name : Option Bytes) (description : Option (Option Bytes))
  | deleteServer (serverId : ℕ)
  | joinServer (serverId : ℕ)
  | addServerMember (serverId userId : ℕ)
  | leaveServer (serverId : ℕ)
  | createInvite (serverId : ℕ) (codes : ℕ → Bytes)
  | revokeInvite (serverId : ℕ) (code : Bytes)
  | acceptInvite (code : Bytes)
  | checkChannelAccess (channelId : ℕ)
  | createChannel (channel : Channel)
  | getChannel (serverId channelId : ℕ)
  | updateChannel (serverId channelId : ℕ) (name : Option Bytes) (position : Option ℕ)
  | deleteChannel (serverId channelId : ℕ)

/-- A request, with the user that its access token names. -/
structure Request where
  caller : Option ℕ
  call : Call

/-- The handler of a request. -/
def handler (request : Request) : Handler Answer :=
  match request.call with
  | .createServer name description => createServer request.caller name description
  | .getServer serverId => getServer request.caller serverId
  | .updateServer serverId name description =>
      updateServer request.caller serverId name description
  | .deleteServer serverId => deleteServer request.caller serverId
  | .joinServer _ => joinServer request.caller
  | .addServerMember serverId userId => addServerMember request.caller serverId userId
  | .leaveServer serverId => leaveServer request.caller serverId
  | .createInvite serverId codes => createInvite request.caller serverId codes
  | .revokeInvite serverId code => revokeInvite request.caller serverId code
  | .acceptInvite code => acceptInvite request.caller code
  | .checkChannelAccess channelId => checkChannelAccess request.caller channelId
  | .createChannel channel => createChannel request.caller channel
  | .getChannel serverId channelId => getChannel request.caller serverId channelId
  | .updateChannel serverId channelId name position =>
      updateChannel request.caller serverId channelId name position
  | .deleteChannel serverId channelId => deleteChannel request.caller serverId channelId

end Api
end Driscord
