import Driscord.Api.AccessAnswers
import Driscord.Api.Accounts
import Driscord.Server.Authorization

/-!
# Admission from the token to the session

The signaling server and the API together: the call of an upgrade is a request of the
API like any other, runs against the rows of the database among all the others, and its
answer is what `on_read` reads.  Calls fail or come back in any order.

Main results:

- Theorem `identity_accessReply`: the server reads the username that the API writes.
- Theorem `AdmittedBy.step`: the server admits who was vouched for.
- Theorem `sessions_admitted_of_reachable`: every session of a room is one of a user
  whose access token it brought, who was seen to be a member of the channel's server.
-/

namespace Driscord
namespace Server

open Library Signaling

/-! ## What the API writes and the server reads -/

/-- The bodies that `check_channel_access` answers with, as JSON.  A 500 has a body
that is none, and the bodies of other routes are not read here. -/
def accessBody : Api.Body → Option Json
  | .access channelId serverId userId username displayName =>
      some (.object [(text "channel_id", .number channelId), (text "server_id", .number serverId),
        (text "user_id", .number userId), (text "username", .string username),
        (text "display_name", (displayName.map Json.string).getD .null)])
  | .detail detail => some (.object [(text "detail", .string (text detail))])
  | _ => none

/-- The answer as it reaches the server. -/
def accessReply (answer : Api.Answer) : ApiReply where
  status := answer.status
  body := accessBody answer.body

/-- The server reads the username that the API writes. -/
theorem identity_accessReply (channelId serverId userId : ℕ) (username : Bytes)
    (displayName : Option Bytes) :
    (accessReply ⟨200, .access channelId serverId userId username displayName⟩).identity =
      if username = [] then none else some ⟨username⟩ := by
  have hfind : (accessBody (.access channelId serverId userId username displayName)).bind
      (fun body => body.find (text "username")) = some (.string username) := by
    simp [accessBody, Json.find_cons]
  simp only [ApiReply.identity, accessReply, if_true, hfind]

/-- Only an answer with 200 has an identity. -/
theorem status_of_identity {reply : ApiReply} {username : Username}
    (h : reply.identity = some username) : reply.status = 200 := by
  by_contra hstatus
  rw [ApiReply.identity, if_neg hstatus] at h
  contradiction

/-! ## Who the server admits -/

namespace AuthorizingServer

/-- Upgrades that are being accepted, and sessions, were vouched for: by target, token
and username. -/
structure AdmittedBy (vouched : Bytes → Bytes → Username → Prop) (system : AuthorizingServer) :
    Prop where
  run : Reachable SignalingSystem.Initial SignalingSystem.Step system.signaling
  accepting : ∀ upgrade ∈ system.upgrades, ∀ username, upgrade.stage = .accepting username →
    vouched upgrade.target upgrade.token username
  sessions : ∀ id session, system.signaling.sessions.lookup id = some session →
    ∃ upgrade ∈ system.upgrades, generateId upgrade.random = id ∧
      upgrade.roomId = session.roomId ∧ vouched upgrade.target upgrade.token session.username

section

variable {parseInt : Bytes → Option ℕ} {vouched : Bytes → Bytes → Username → Prop}
variable {system next : AuthorizingServer}

theorem AdmittedBy.mono {vouched' : Bytes → Bytes → Username → Prop}
    (h : AdmittedBy vouched system)
    (himp : ∀ target token username, vouched target token username →
      vouched' target token username) : AdmittedBy vouched' system where
  run := h.run
  accepting upgrade hmem username hstage := himp _ _ _ (h.accepting upgrade hmem username hstage)
  sessions id session hlookup := by
    rcases h.sessions id session hlookup with ⟨upgrade, hmem, hid, hroom, hvouched⟩
    exact ⟨upgrade, hmem, hid, hroom, himp _ _ _ hvouched⟩

/-- An upgrade goes on. -/
theorem AdmittedBy.setStage (h : AdmittedBy vouched system) {index : ℕ} {upgrade : Upgrade}
    (hindex : system.upgrades[index]? = some upgrade) {stage : UpgradeStage}
    (hstage : ∀ username, stage = .accepting username →
      vouched upgrade.target upgrade.token username) :
    AdmittedBy vouched (system.setStage index upgrade stage) where
  run := h.run
  accepting other hmem username hother := by
    rcases List.mem_or_eq_of_mem_set hmem with hmem | rfl
    · exact h.accepting other hmem username hother
    · exact hstage username hother
  sessions id session hlookup := by
    rcases h.sessions id session hlookup with ⟨other, hmem, hid, hroom, hvouched⟩
    rcases exists_mem_setStage hindex stage hmem with ⟨later, hlater, hrandom, htarget, htoken⟩
    refine ⟨later, hlater, by rw [hrandom, hid], ?_, ?_⟩
    · rw [Upgrade.roomId, htarget]
      exact hroom
    · rw [htarget, htoken]
      exact hvouched

/-- An event of a session adds at most the session of an upgrade that was vouched for. -/
theorem AdmittedBy.signal (h : AdmittedBy vouched system) {event : ServerEvent}
    {signaling : SignalingSystem} (hact : system.signaling.act event = some signaling)
    (haccept : ∀ random roomId username, event = .accept random roomId username →
      ∃ upgrade ∈ system.upgrades, upgrade.random = random ∧ upgrade.roomId = roomId ∧
        vouched upgrade.target upgrade.token username) :
    AdmittedBy vouched { system with signaling } where
  run := h.run.snoc ⟨event, hact⟩
  accepting := h.accepting
  sessions id session hlookup := by
    rcases SignalingSystem.session_of_act hact hlookup with
      ⟨old, hold, hroom, husername⟩ | ⟨random, hevent, rfl⟩
    · rw [← hroom, ← husername]
      exact h.sessions id old hold
    · rcases haccept random _ _ hevent with ⟨upgrade, hmem, rfl, hroom, hvouched⟩
      exact ⟨upgrade, hmem, rfl, hroom, hvouched⟩

/-- The server admits who was vouched for, whatever happens. -/
theorem AdmittedBy.step (h : AdmittedBy vouched system) {action : AuthorizingAction}
    (hact : act parseInt system action = some next)
    (hreply : ∀ index reply upgrade username, action = .reply index (some reply) →
      system.upgrades[index]? = some upgrade → reply.identity = some username →
        vouched upgrade.target upgrade.token username) :
    AdmittedBy vouched next := by
  cases action with
  | upgrade random target authorization =>
      rw [act, Option.some.injEq] at hact
      rw [← hact]
      refine ⟨h.run, fun upgrade hmem username hstage => ?_, fun id session hlookup => ?_⟩
      · rcases List.mem_append.mp hmem with hmem | hmem
        · exact h.accepting upgrade hmem username hstage
        · rw [List.mem_singleton.mp hmem] at hstage
          dsimp only at hstage
          split at hstage <;> contradiction
      · rcases h.sessions id session hlookup with ⟨upgrade, hmem, hvouched⟩
        exact ⟨upgrade, List.mem_append_left _ hmem, hvouched⟩
  | reply index reply =>
      rw [act] at hact
      split at hact
      · contradiction
      · rename_i upgrade hindex
        split at hact
        · cases reply with
          | none =>
              rw [← Option.some.inj hact]
              exact h.setStage hindex (by simp)
          | some reply =>
              dsimp only at hact
              split at hact
              · rw [← Option.some.inj hact]
                have hadmitted : AdmittedBy vouched
                    (system.setStage index upgrade (stageOf reply.identity)) := by
                  apply h.setStage hindex
                  intro username hstage
                  cases hidentity : reply.identity with
                  | none =>
                      rw [hidentity] at hstage
                      contradiction
                  | some found =>
                      rw [hidentity] at hstage
                      obtain rfl := UpgradeStage.accepting.inj hstage
                      exact hreply index reply upgrade found rfl hindex hidentity
                exact ⟨hadmitted.run, hadmitted.accepting, hadmitted.sessions⟩
              · contradiction
        · contradiction
  | accepted index failed =>
      rw [act] at hact
      split at hact
      · contradiction
      · rename_i upgrade hindex
        split at hact
        · rename_i username hstage
          cases failed with
          | true =>
              rw [if_pos rfl, Option.some.injEq] at hact
              rw [← hact]
              exact h.setStage hindex (by simp)
          | false =>
              rw [if_neg Bool.false_ne_true] at hact
              rcases Option.map_eq_some_iff.mp hact with ⟨signaling, hsignaling, rfl⟩
              have hmem := List.mem_of_getElem? hindex
              apply (h.signal hsignaling ?_).setStage hindex (by simp)
              intro random roomId name hevent
              obtain ⟨rfl, rfl, rfl⟩ := ServerEvent.accept.inj hevent
              exact ⟨upgrade, hmem, rfl, rfl, h.accepting upgrade hmem username hstage⟩
        · contradiction
  | event event =>
      unfold act at hact
      dsimp only at hact
      split at hact
      · contradiction
      · rename_i hother
        rcases Option.map_eq_some_iff.mp hact with ⟨signaling, hsignaling, rfl⟩
        apply h.signal hsignaling
        intro random roomId username hevent
        exact absurd hevent (hother random roomId username)

theorem upgrade_setStage {index : ℕ} {upgrade : Upgrade}
    (hindex : system.upgrades[index]? = some upgrade) (stage : UpgradeStage) {place : ℕ}
    {other : Upgrade} (hplace : system.upgrades[place]? = some other) :
    ∃ later, (system.setStage index upgrade stage).upgrades[place]? = some later ∧
      later.target = other.target ∧ later.token = other.token := by
  by_cases hsame : index = place
  · subst hsame
    obtain rfl := Option.some.inj (hindex.symm.trans hplace)
    exact ⟨_, List.getElem?_set_self (List.getElem?_eq_some_iff.mp hindex).1, rfl, rfl⟩
  · exact ⟨other, (List.getElem?_set_ne hsame).trans hplace, rfl, rfl⟩

/-- An upgrade stays in its place, and keeps its target and its token. -/
theorem upgrade_act {action : AuthorizingAction} (hact : act parseInt system action = some next)
    {place : ℕ} {upgrade : Upgrade} (hplace : system.upgrades[place]? = some upgrade) :
    ∃ later, next.upgrades[place]? = some later ∧ later.target = upgrade.target ∧
      later.token = upgrade.token := by
  cases action with
  | upgrade random target authorization =>
      rw [act, Option.some.injEq] at hact
      rw [← hact]
      refine ⟨upgrade, ?_, rfl, rfl⟩
      exact (List.getElem?_append_left (List.getElem?_eq_some_iff.mp hplace).1).trans hplace
  | reply index reply =>
      rw [act] at hact
      split at hact
      · contradiction
      · rename_i asked hindex
        split at hact
        · cases reply with
          | none =>
              rw [← Option.some.inj hact]
              exact upgrade_setStage hindex _ hplace
          | some reply =>
              dsimp only at hact
              split at hact
              · rw [← Option.some.inj hact]
                exact upgrade_setStage hindex _ hplace
              · contradiction
        · contradiction
  | accepted index failed =>
      rw [act] at hact
      split at hact
      · contradiction
      · rename_i accepted hindex
        split at hact
        · cases failed with
          | true =>
              rw [if_pos rfl, Option.some.injEq] at hact
              rw [← hact]
              exact upgrade_setStage hindex _ hplace
          | false =>
              rw [if_neg Bool.false_ne_true] at hact
              rcases Option.map_eq_some_iff.mp hact with ⟨signaling, -, rfl⟩
              exact upgrade_setStage hindex _ hplace
        · contradiction
  | event event =>
      unfold act at hact
      dsimp only at hact
      split at hact
      · contradiction
      · rcases Option.map_eq_some_iff.mp hact with ⟨signaling, -, rfl⟩
        exact ⟨upgrade, hplace, rfl, rfl⟩

end

end AuthorizingServer

/-! ## The server and the API -/

/-- A call that the API has received: the place of the upgrade and of the request. -/
structure AccessCall where
  upgrade : ℕ
  request : ℕ
deriving DecidableEq, Repr

/-- A request of the API. -/
abbrev ApiThread := Running Api.Request Api.Rows Api.Write ℕ Api.WriteError Api.Answer

/-- The signaling server, the API, and the calls between them. -/
structure Deployment where
  server : AuthorizingServer := {}
  api : Api.ApiSystem
  calls : List AccessCall := []

/-- What happens. -/
inductive DeploymentAction where
  /-- Something at the server, where no call comes back with 200. -/
  | serve (action : AuthorizingAction)
  /-- Another request of the API, a statement of any, or a change of the users. -/
  | request (action : Api.ApiAction)
  /-- The API receives the call of an upgrade. -/
  | call (upgrade : ℕ)
  /-- The answer to a call reaches the server. -/
  | reply (call : ℕ)

/-- The status of a call that comes back. -/
def AuthorizingAction.status : AuthorizingAction → Option ℕ
  | .reply _ answer => answer.map ApiReply.status
  | _ => none

namespace Deployment

variable (parseInt : Bytes → Option ℕ) (decodeToken : Bytes → Api.Accounts.Payload)

/-- The question of an upgrade as a request, with what `decode_token` makes of its token. -/
def accessRequest (upgrade : Upgrade) (channelId : ℕ) : Api.Request where
  caller := (decodeToken upgrade.token).userOf "access"
  call := .checkChannelAccess channelId

/-- The API receives the call of an upgrade, once. -/
def receive (system : Deployment) (index : ℕ) (upgrade : Upgrade) : Option Deployment :=
  if upgrade.stage = .asking ∧ ∀ call ∈ system.calls, call.upgrade ≠ index then
    (accessChannel parseInt (accessTarget upgrade.roomId.value)).bind fun channelId =>
      (Api.act system.api (.arrive (accessRequest decodeToken upgrade channelId))).map fun api =>
        { system with api, calls := system.calls ++ [⟨index, system.api.running.length⟩] }
  else none

/-- The answer of a request reaches the server. -/
def deliver (system : Deployment) (call : AccessCall) (answer : Api.Answer) : Option Deployment :=
  let reply := .reply call.upgrade (some (accessReply answer))
  (AuthorizingServer.act parseInt system.server reply).map fun server => { system with server }

/-- One action. -/
def act (system : Deployment) : DeploymentAction → Option Deployment
  | .serve action =>
      if action.status = some 200 then none
      else (AuthorizingServer.act parseInt system.server action).map fun server =>
        { system with server }
  | .request action => (Api.act system.api action).map fun api => { system with api }
  | .call index =>
      system.server.upgrades[index]?.bind fun upgrade =>
        receive parseInt decodeToken system index upgrade
  | .reply index =>
      system.calls[index]?.bind fun call =>
        system.api.running[call.request]?.bind fun thread =>
          thread.program.answerOf.bind fun answer => deliver parseInt system call answer

/-- One step. -/
def Step (system next : Deployment) : Prop :=
  ∃ action, act parseInt decodeToken system action = some next

/-- Nobody has connected, and no request has arrived. -/
def Initial (system : Deployment) : Prop :=
  system.server = {} ∧ system.api.running = [] ∧ system.calls = []

/-- A request of the token's user for the channel that the target spells has read that
the user has the username and is a member of the server of the channel. -/
def Vouches (api : Api.ApiSystem) (target token : Bytes) (username : Username) : Prop :=
  ∃ thread ∈ api.running, ∃ channelId userId user channel,
    parseInt (parseRoomId target).value = some channelId ∧
      (decodeToken token).userOf "access" = some userId ∧
        thread.request = ⟨some userId, .checkChannelAccess channelId⟩ ∧
          user.username = username.value ∧
            Api.Saw (fun rows => rows.users.lookup userId = some user) thread.history ∧
              Api.Saw (fun rows => rows.channels.lookup channelId = some channel) thread.history ∧
                Api.Saw (fun rows => rows.IsMember channel.serverId userId) thread.history

/-- A call is the question of its upgrade. -/
def Asks (system : Deployment) (call : AccessCall) : Prop :=
  ∃ upgrade thread channelId, system.server.upgrades[call.upgrade]? = some upgrade ∧
    system.api.running[call.request]? = some thread ∧
      parseInt upgrade.roomId.value = some channelId ∧
        thread.request = accessRequest decodeToken upgrade channelId

/-- What every run keeps. -/
structure Admitting (system : Deployment) : Prop where
  admitted : AuthorizingServer.AdmittedBy (Vouches parseInt decodeToken system.api) system.server
  verified : Api.AccessVerified system.api
  calls : ∀ call ∈ system.calls, Asks parseInt decodeToken system call

section

variable {parseInt decodeToken} {system next : Deployment}

/-- A request that has vouched goes on vouching. -/
theorem Vouches.later {api later : Api.ApiSystem} {action : Api.ApiAction}
    (hact : Api.act api action = some later) {target token : Bytes} {username : Username}
    (h : Vouches parseInt decodeToken api target token username) :
    Vouches parseInt decodeToken later target token username := by
  rcases h with ⟨thread, hmem, channelId, userId, user, channel, hparse, htoken, hrequest, hname,
    huser, hchannel, hmember⟩
  rcases System.later_act _ _ _ hact hmem with ⟨after, hafter, hsame, hprefix⟩
  exact ⟨after, hafter, channelId, userId, user, channel, hparse, htoken, hsame.trans hrequest,
    hname, huser.later hprefix, hchannel.later hprefix, hmember.later hprefix⟩

/-- A call stays the question of its upgrade. -/
theorem Asks.later {call : AccessCall} (h : Asks parseInt decodeToken system call)
    (hupgrade : ∀ (place : ℕ) (upgrade : Upgrade), system.server.upgrades[place]? = some upgrade →
      ∃ later : Upgrade, next.server.upgrades[place]? = some later ∧
        later.target = upgrade.target ∧ later.token = upgrade.token)
    (hrequest : ∀ (place : ℕ) (thread : ApiThread), system.api.running[place]? = some thread →
      ∃ later : ApiThread, next.api.running[place]? = some later ∧
        later.request = thread.request) :
    Asks parseInt decodeToken next call := by
  rcases h with ⟨upgrade, thread, channelId, hplace, hrunning, hparse, hsame⟩
  rcases hupgrade _ _ hplace with ⟨later, hlater, htarget, htoken⟩
  rcases hrequest _ _ hrunning with ⟨after, hafter, hrequest⟩
  refine ⟨later, after, channelId, hlater, hafter, ?_, ?_⟩
  · rw [Upgrade.roomId, htarget]
    exact hparse
  · rw [hrequest, hsame, accessRequest, accessRequest, htoken]

/-- The answer to a call vouches for the identity that the server reads. -/
theorem Admitting.vouches (h : Admitting parseInt decodeToken system) {call : AccessCall}
    (hcall : call ∈ system.calls) {thread : ApiThread}
    (hthread : system.api.running[call.request]? = some thread)
    {answer : Api.Answer} (hanswer : thread.program.answerOf = some answer) {upgrade : Upgrade}
    (hupgrade : system.server.upgrades[call.upgrade]? = some upgrade) {username : Username}
    (hidentity : (accessReply answer).identity = some username) :
    Vouches parseInt decodeToken system.api upgrade.target upgrade.token username := by
  rcases h.calls call hcall with ⟨asked, running, channelId, hasked, hrunning, hparse, hrequest⟩
  obtain rfl := Option.some.inj (hupgrade.symm.trans hasked)
  obtain rfl := Option.some.inj (hthread.symm.trans hrunning)
  have hmem := List.mem_of_getElem? hthread
  have hstatus : answer.status = 200 := status_of_identity hidentity
  have hcheck : thread.request.call = .checkChannelAccess channelId := by
    rw [hrequest, accessRequest]
  rcases (h.verified thread hmem).answers hanswer channelId hcheck hstatus with
    ⟨userId, user, channel, hcaller, hbody, huser, hchannel, hmember⟩
  refine ⟨thread, hmem, channelId, userId, user, channel, hparse, ?_, ?_, ?_, huser, hchannel,
    hmember⟩
  · rw [hrequest] at hcaller
    exact hcaller
  · rw [← hcaller, ← hcheck]
  · have hanswer : answer =
        ⟨200, .access channelId channel.serverId userId user.username user.displayName⟩ := by
      rw [← hstatus, ← hbody]
    rw [hanswer, identity_accessReply] at hidentity
    split at hidentity
    · contradiction
    · rw [← Option.some.inj hidentity]

/-- Something at the server. -/
theorem Admitting.serve (h : Admitting parseInt decodeToken system) {action : AuthorizingAction}
    {server : AuthorizingServer}
    (hact : AuthorizingServer.act parseInt system.server action = some server)
    (hreply : ∀ index reply upgrade username, action = .reply index (some reply) →
      system.server.upgrades[index]? = some upgrade → reply.identity = some username →
        Vouches parseInt decodeToken system.api upgrade.target upgrade.token username) :
    Admitting parseInt decodeToken { system with server } where
  admitted := h.admitted.step hact hreply
  verified := h.verified
  calls call hcall := (h.calls call hcall).later
    (fun _ _ hplace => AuthorizingServer.upgrade_act hact hplace)
    fun _ thread hplace => ⟨thread, hplace, rfl⟩

/-- Something at the API. -/
theorem Admitting.request (h : Admitting parseInt decodeToken system) {action : Api.ApiAction}
    {api : Api.ApiSystem} (hact : Api.act system.api action = some api) :
    Admitting parseInt decodeToken { system with api } where
  admitted := h.admitted.mono fun _ _ _ hvouches => hvouches.later hact
  verified := Api.accessTrue_step h.verified hact
  calls call hcall := (h.calls call hcall).later
    (fun _ upgrade hplace => ⟨upgrade, hplace, rfl, rfl⟩) fun place thread hplace => by
      rcases System.getElem?_act _ _ _ hact hplace with ⟨later, hlater, hrequest, -⟩
      exact ⟨later, hlater, hrequest⟩

/-- A request that arrives is the last. -/
theorem getElem?_arrive {api later : Api.ApiSystem} {request : Api.Request}
    (hact : Api.act api (.arrive request) = some later) :
    later.running[api.running.length]? =
      some { request := request, program := Api.handler request } := by
  rw [Api.act, System.act, Option.some.injEq] at hact
  rw [← hact]
  exact List.getElem?_concat_length

/-- The API receives a call. -/
theorem Admitting.receive (h : Admitting parseInt decodeToken system) {index : ℕ}
    {upgrade : Upgrade} (hindex : system.server.upgrades[index]? = some upgrade)
    (hact : receive parseInt decodeToken system index upgrade = some next) :
    Admitting parseInt decodeToken next := by
  unfold Deployment.receive at hact
  split at hact
  · rcases Option.bind_eq_some_iff.mp hact with ⟨channelId, hchannel, hrest⟩
    rcases Option.map_eq_some_iff.mp hrest with ⟨api, harrive, rfl⟩
    have hnext := h.request harrive
    refine ⟨hnext.admitted, hnext.verified, fun call hcall => ?_⟩
    rcases List.mem_append.mp hcall with hcall | hcall
    · exact hnext.calls call hcall
    · obtain rfl := List.mem_singleton.mp hcall
      have hparse : parseInt upgrade.roomId.value = some channelId := by
        rw [Upgrade.roomId, accessChannel_accessTarget _ (AuthorizingServer.parseRoomId_ne_nil _)]
          at hchannel
        split at hchannel
        · contradiction
        · exact hchannel
      exact ⟨upgrade, _, channelId, hindex, getElem?_arrive harrive, hparse, rfl⟩
  · contradiction

/-- Every action keeps who is admitted. -/
theorem Admitting.step (h : Admitting parseInt decodeToken system) {action : DeploymentAction}
    (hact : act parseInt decodeToken system action = some next) :
    Admitting parseInt decodeToken next := by
  cases action with
  | serve action =>
      rw [act] at hact
      split at hact
      · contradiction
      · rename_i hplain
        rcases Option.map_eq_some_iff.mp hact with ⟨server, hserver, rfl⟩
        refine h.serve hserver fun index reply upgrade username hsame _ hidentity => ?_
        refine absurd ?_ hplain
        rw [hsame, AuthorizingAction.status, Option.map_some, status_of_identity hidentity]
  | request action =>
      rcases Option.map_eq_some_iff.mp hact with ⟨api, hapi, rfl⟩
      exact h.request hapi
  | call index =>
      rcases Option.bind_eq_some_iff.mp hact with ⟨upgrade, hindex, hreceive⟩
      exact h.receive hindex hreceive
  | reply index =>
      rcases Option.bind_eq_some_iff.mp hact with ⟨call, hcall, hrest⟩
      rcases Option.bind_eq_some_iff.mp hrest with ⟨thread, hthread, hrest⟩
      rcases Option.bind_eq_some_iff.mp hrest with ⟨answer, hanswer, hdeliver⟩
      rcases Option.map_eq_some_iff.mp hdeliver with ⟨server, hserver, rfl⟩
      refine h.serve hserver fun place reply upgrade username hsame hplace hidentity => ?_
      injection hsame with hplace' hreply
      subst hplace'
      obtain rfl := Option.some.inj hreply
      exact h.vouches (List.mem_of_getElem? hcall) hthread hanswer hplace hidentity

theorem admitting_of_reachable (h : Reachable Initial (Step parseInt decodeToken) system) :
    Admitting parseInt decodeToken system := by
  apply Reachable.invariant _ _ h
  · rintro state ⟨hserver, hrunning, hcalls⟩
    refine ⟨?_, ?_, ?_⟩
    · rw [hserver]
      refine ⟨Reachable.start rfl, ?_, ?_⟩ <;> simp
    · intro thread hmem
      rw [hrunning] at hmem
      contradiction
    · intro call hcall
      rw [hcalls] at hcall
      contradiction
  · rintro state later - hadmitting ⟨action, hact⟩
    exact hadmitting.step hact

/-- From the token to the session: in every run of the signaling server and the API, a
session of a room brought an access token of a user, and some request of the API had
read that this user has the session's username and is a member of the server of the
channel that the room spells. -/
theorem sessions_admitted_of_reachable
    (h : Reachable Initial (Step parseInt decodeToken) system) :
    ∀ id roomId username, system.server.Registered id roomId username →
      ∃ upgrade ∈ system.server.upgrades, generateId upgrade.random = id ∧
        upgrade.roomId = roomId ∧
          Vouches parseInt decodeToken system.api upgrade.target upgrade.token username := by
  rintro id roomId username ⟨room, hroom, hmember⟩
  have hadmitted := (admitting_of_reachable h).admitted
  have hregistry := SignalingSystem.registry_of_reachable hadmitted.run
  rcases hregistry.member roomId room id username hroom hmember with
    ⟨session, hsession, rfl, rfl, -⟩
  exact hadmitted.sessions id session hsession

end

/-! ## A run -/

/-- Two users, the second of whom is no member of the server of the channel. -/
def sampleRows : Api.Rows where
  users := AList.insert 1 ⟨text "ann", none⟩ (AList.insert 2 ⟨text "bob", none⟩ ∅)
  servers := AList.insert 1 ⟨text "home", none, 1⟩ ∅
  members := AList.insert 1 ⟨1, 1⟩ ∅
  channels := AList.insert 1 { serverId := 1, name := text "talk" } ∅
  nextUser := 3
  nextServer := 2
  nextMember := 2
  nextChannel := 2

/-- The access tokens of the two users. -/
def sampleToken (token : Bytes) : Api.Accounts.Payload :=
  if token = text "a" then Api.Accounts.createAccessToken 1
  else if token = text "b" then Api.Accounts.createAccessToken 2
  else {}

def sampleActions : List DeploymentAction :=
  [.serve (.upgrade 1 (text "/channels/1") (text "Bearer a")),
    .serve (.upgrade 2 (text "/channels/1?t=b") []), .call 1, .call 0] ++
    [1, 0, 1, 0, 1, 1, 0, 0].map (fun place => .request (.run place)) ++
    [.reply 1, .reply 0, .serve (.accepted 0 false)]

def sampleDeployment : Deployment :=
  (execute (fun _ _ => True) (act AuthorizingServer.pythonInt sampleToken)
    { api := { rows := sampleRows } } sampleActions).getD { api := { rows := sampleRows } }

theorem sampleDeployment_admitted :
    sampleDeployment.api.running.map (fun thread => thread.program.answerOf.map Api.Answer.status) =
      [some 403, some 200] ∧
      ∃ upgrade ∈ sampleDeployment.server.upgrades, generateId upgrade.random = generateId 1 ∧
        upgrade.roomId = ⟨text "1"⟩ ∧ Vouches AuthorizingServer.pythonInt sampleToken
          sampleDeployment.api upgrade.target upgrade.token ⟨text "ann"⟩ :=
  ⟨by decide +kernel, sessions_admitted_of_reachable
    (Reachable.execute (fun _ action _ _ hact => ⟨action, hact⟩)
      (Reachable.start ⟨rfl, rfl, rfl⟩) (execute_eq_some_getD (by decide +kernel))) _ _ _
    (AuthorizingServer.registered_of_lookup (by decide +kernel))⟩

end Deployment

end Server
end Driscord
