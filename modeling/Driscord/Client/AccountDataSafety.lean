import Driscord.Client.AccountData
import Driscord.Client.AuthManagerSafety

/-!
# Whose data is shown

A callback writes only for the user whose id it has captured, and a logout empties
everything.  What a login does not do is empty anything: when another user is logged in
without a logout between, the data of the first one stays.

Main results:

- Theorem `Owned.onAnswer`: what an answer writes belongs to the user who is logged in.
- Theorem `Sound.step`: what one call, one reply or one answer keeps.
- Theorem `account_data_of_reachable`: the data shown is of the user who is logged in, in
  every run in which another user is logged in only while nothing is shown.
- Theorem `second_login_keeps_servers`: without that condition it is not.
-/

namespace Driscord
namespace Client

open Library Signaling Update

/-! ## Data of one user -/

/-- The answer has come to a request that was made for the user whose id it has captured. -/
def Answered (delivered : List (SentRequest × ApiAnswer)) (request : ApiRequest)
    (answer : ApiAnswer) : Prop :=
  ∃ account, (⟨request, account⟩, answer) ∈ delivered ∧
    (∀ user, account = some user → user = request.requestedUserId) ∧ answer.ok = true

/-- The profile that a login shows until `/users/me` is answered. -/
def sessionProfile (apiBaseUrl : Bytes) (response : TokenResponse) : UserProfile where
  id := response.userId
  username := response.username
  displayName := if response.displayName = [] then response.username else response.displayName
  avatarUrl := if response.avatarUrl = [] then [] else avatarUrl apiBaseUrl response.userId

section

variable (apiBaseUrl : Bytes) (trimmed : Bytes → Bytes)

/-- What is shown has been answered to requests for the user who is logged in. -/
structure Owned (delivered : List (SentRequest × ApiAnswer)) (applied : Option TokenResponse)
    (auth : AuthManager) (data : AccountData) : Prop where
  loggedOut : auth.loggedIn = false →
    data.servers = [] ∧ data.channels = [] ∧ data.users = [] ∧ data.userProfile = none
  servers : data.servers = [] ∨ ∃ answer,
    Answered delivered ⟨.listServers, auth.userId⟩ answer ∧
      data.servers = serverItems answer.items
  channels : data.channels = [] ∨ ∃ answer,
    Answered delivered ⟨.listChannels data.selectedServerId, auth.userId⟩ answer ∧
      data.channels = channelItems answer.items
  /-- Invited users are taken out. -/
  users : data.users = [] ∨ ∃ answer,
    Answered delivered ⟨.listUsers, auth.userId⟩ answer ∧
      data.users.Sublist (userItems apiBaseUrl trimmed auth.userId answer.items)
  profile : data.userProfile = none ∨
    (∃ response, applied = some response ∧ response.userId = auth.userId ∧
      data.userProfile = some (sessionProfile apiBaseUrl response)) ∨
    ∃ answer now, Answered delivered ⟨.getMe, auth.userId⟩ answer ∧
      data.userProfile = some (profileItem apiBaseUrl trimmed answer.json now)

end

namespace Owned

variable {apiBaseUrl : Bytes} {trimmed : Bytes → Bytes}
variable {delivered : List (SentRequest × ApiAnswer)} {applied : Option TokenResponse}
variable {auth : AuthManager} {data : AccountData}

theorem initial (h : data.servers = [] ∧ data.channels = [] ∧ data.users = [] ∧
    data.userProfile = none) : Owned apiBaseUrl trimmed delivered applied auth data where
  loggedOut _ := h
  servers := Or.inl h.1
  channels := Or.inl h.2.1
  users := Or.inl h.2.2.1
  profile := Or.inl h.2.2.2

/-- Nothing depends on the error that is shown or on the selected channel. -/
theorem congr (h : Owned apiBaseUrl trimmed delivered applied auth data) {next : AccountData}
    (hservers : next.servers = data.servers) (hchannels : next.channels = data.channels)
    (hselected : next.selectedServerId = data.selectedServerId)
    (husers : next.users = data.users) (hprofile : next.userProfile = data.userProfile) :
    Owned apiBaseUrl trimmed delivered applied auth next := by
  constructor
  · rw [hservers, hchannels, husers, hprofile]
    exact h.loggedOut
  · rw [hservers]
    exact h.servers
  · rw [hchannels, hselected]
    exact h.channels
  · rw [husers]
    exact h.users
  · rw [hprofile]
    exact h.profile

theorem setApiError (h : Owned apiBaseUrl trimmed delivered applied auth data) (error : Bytes) :
    Owned apiBaseUrl trimmed delivered applied auth (data.setApiError error) :=
  h.congr rfl rfl rfl rfl rfl

/-- More answers change nothing. -/
theorem mono (h : Owned apiBaseUrl trimmed delivered applied auth data)
    {more : List (SentRequest × ApiAnswer)} (hmore : delivered ⊆ more) :
    Owned apiBaseUrl trimmed more applied auth data := by
  have hanswered : ∀ {request answer}, Answered delivered request answer →
      Answered more request answer := fun ⟨account, hmem, hrest⟩ => ⟨account, hmore hmem, hrest⟩
  refine ⟨h.loggedOut, ?_, ?_, ?_, ?_⟩
  · exact h.servers.imp_right fun ⟨answer, hold, heq⟩ => ⟨answer, hanswered hold, heq⟩
  · exact h.channels.imp_right fun ⟨answer, hold, heq⟩ => ⟨answer, hanswered hold, heq⟩
  · exact h.users.imp_right fun ⟨answer, hold, heq⟩ => ⟨answer, hanswered hold, heq⟩
  · exact h.profile.imp_right fun hprofile => hprofile.imp_right
      fun ⟨answer, now, hold, heq⟩ => ⟨answer, now, hanswered hold, heq⟩

/-- The manager may change as long as the user who is logged in stays the same. -/
theorem of_sameUser (h : Owned apiBaseUrl trimmed delivered applied auth data)
    {next : AuthManager} (hloggedIn : next.loggedIn = auth.loggedIn)
    (huser : auth.loggedIn = true → next.userId = auth.userId) :
    Owned apiBaseUrl trimmed delivered applied next data := by
  cases hcurrent : auth.loggedIn with
  | false => exact initial (h.loggedOut hcurrent)
  | true =>
      have hid := huser hcurrent
      refine ⟨?_, ?_, ?_, ?_, ?_⟩
      · rw [hloggedIn]
        exact h.loggedOut
      · rw [hid]
        exact h.servers
      · rw [hid]
        exact h.channels
      · rw [hid]
        exact h.users
      · rw [hid]
        exact h.profile

/-- `selectServer`: the channels of the other server are gone. -/
theorem selectServer (h : Owned apiBaseUrl trimmed delivered applied auth data) (id : Int) :
    Owned apiBaseUrl trimmed delivered applied auth (data.selectServer auth id).1 where
  loggedOut hout := ⟨(h.loggedOut hout).1, rfl, (h.loggedOut hout).2.2⟩
  servers := h.servers
  channels := Or.inl rfl
  users := h.users
  profile := h.profile

/-- `loadInitialData`, for the same user or when nothing is shown. -/
theorem loadInitialData (h : Owned apiBaseUrl trimmed delivered applied auth data)
    {next : AuthManager} {response : TokenResponse} (hloggedIn : next.loggedIn = true)
    (huser : next.userId = auth.userId ∨
      data.servers = [] ∧ data.channels = [] ∧ data.users = [])
    (hresponse : response.userId = next.userId)
    (hprofile : (data.loadInitialData apiBaseUrl next).1.userProfile =
      some (sessionProfile apiBaseUrl response)) :
    Owned apiBaseUrl trimmed delivered (some response) next
      (data.loadInitialData apiBaseUrl next).1 := by
  have hout : ¬ next.loggedIn = false := by simp [hloggedIn]
  refine ⟨fun hloggedOut => absurd hloggedOut hout, ?_, ?_, ?_,
    Or.inr (Or.inl ⟨response, rfl, hresponse, hprofile⟩)⟩
  · rcases huser with hsame | hempty
    · rw [hsame]
      exact h.servers
    · exact Or.inl hempty.1
  · rcases huser with hsame | hempty
    · rw [hsame]
      exact h.channels
    · exact Or.inl hempty.2.1
  · rcases huser with hsame | hempty
    · rw [hsame]
      exact h.users
    · exact Or.inl hempty.2.2

/-- What an answer writes belongs to the user who is logged in. -/
theorem onAnswer (h : Owned apiBaseUrl trimmed delivered applied auth data)
    {request : ApiRequest} {account : Option Int} {answer : ApiAnswer}
    (hdelivered : (⟨request, account⟩, answer) ∈ delivered)
    (haccount : ∀ user, account = some user → user = request.requestedUserId) (now : Nat) :
    Owned apiBaseUrl trimmed delivered applied auth
      (data.onAnswer apiBaseUrl trimmed auth request answer now).1 := by
  rcases request with ⟨call, requestedUserId⟩
  have hanswered : ∀ (_ : answer.ok = true) (_ : auth.Serves ⟨call, requestedUserId⟩),
      Answered delivered ⟨call, auth.userId⟩ answer := by
    intro hok hserves
    rw [hserves.2]
    exact ⟨account, hdelivered, haccount, hok⟩
  have hloggedIn : auth.Serves ⟨call, requestedUserId⟩ → ¬ auth.loggedIn = false := by
    intro hserves
    simp [hserves.1]
  unfold AccountData.onAnswer
  cases call with
  | getMe =>
      dsimp only
      split
      · exact h
      · rename_i hguard
        simp only [not_or, not_not] at hguard
        exact ⟨fun hout => absurd hout (hloggedIn hguard.2), h.servers, h.channels, h.users,
          Or.inr (Or.inr ⟨answer, now, hanswered hguard.1 hguard.2, rfl⟩)⟩
  | listServers =>
      dsimp only
      split
      · exact h
      · rename_i hguard
        simp only [not_or, not_not] at hguard
        exact ⟨fun hout => absurd hout (hloggedIn hguard.2),
          Or.inr ⟨answer, hanswered hguard.1 hguard.2, rfl⟩, h.channels, h.users, h.profile⟩
  | listChannels serverId =>
      dsimp only
      split
      · exact h
      · rename_i hguard
        simp only [not_or, not_not, ne_eq] at hguard
        rcases hguard with ⟨hok, hserves, rfl⟩
        exact ⟨fun hout => absurd hout (hloggedIn hserves), h.servers,
          Or.inr ⟨answer, hanswered hok hserves, rfl⟩, h.users, h.profile⟩
  | listUsers =>
      dsimp only
      split
      · exact h
      · rename_i hserves
        rw [not_not] at hserves
        split
        · rename_i hok
          exact ⟨fun hout => absurd hout (hloggedIn hserves), h.servers, h.channels,
            Or.inr ⟨answer, hanswered hok hserves, List.Sublist.refl _⟩, h.profile⟩
        · exact h.setApiError _
  | addMember serverId userId =>
      dsimp only
      split
      · exact h
      · rename_i hguard
        simp only [not_or, not_not, ne_eq] at hguard
        split
        · refine ⟨fun hout => absurd hout (hloggedIn hguard.1), h.servers, h.channels, ?_,
            h.profile⟩
          rcases h.users with hnone | ⟨loaded, hloaded, hsub⟩
          · exact Or.inl (by simp [hnone])
          · exact Or.inr ⟨loaded, hloaded, List.filter_sublist.trans hsub⟩
        · exact h.setApiError _
  | acceptInvite code =>
      dsimp only
      split
      · exact h
      · split
        · exact h.selectServer _
        · exact h.setApiError _
  | createServer name description =>
      dsimp only
      split
      · exact h
      · split
        · exact h
        · exact h.setApiError _
  | createChannel serverId name kind =>
      dsimp only
      split
      · exact h
      · split
        · split <;> exact h
        · exact h.setApiError _
  | updateProfile userId displayName =>
      dsimp only
      split <;> exact h
  | uploadAvatar userId avatar ext =>
      dsimp only
      split <;> exact h

end Owned

/-! ## The requests -/

namespace AccountData

variable {apiBaseUrl : Bytes} {trimmed : Bytes → Bytes} {data : AccountData}
variable {auth : AuthManager}

/-- Every request captures the id of the user at that moment. -/
def Captures (auth : AuthManager) (requests : List ApiRequest) : Prop :=
  ∀ request ∈ requests, request.requestedUserId = auth.userId

theorem captures_nil : Captures auth [] := by
  simp [Captures]

theorem captures_one (call : ApiCall) : Captures auth [⟨call, auth.userId⟩] := by
  simp [Captures]

theorem Captures.append {first second : List ApiRequest} (hfirst : Captures auth first)
    (hsecond : Captures auth second) : Captures auth (first ++ second) := by
  intro request hrequest
  exact (List.mem_append.mp hrequest).elim (hfirst request) (hsecond request)

theorem captures_fetchCurrentUserProfile : Captures auth (fetchCurrentUserProfile auth) := by
  unfold fetchCurrentUserProfile
  split
  · exact captures_nil
  · exact captures_one _

theorem captures_reloadServers : Captures auth (reloadServers auth) :=
  captures_one _

theorem captures_reloadChannels : Captures auth (data.reloadChannels auth) := by
  unfold reloadChannels
  split
  · exact captures_nil
  · exact captures_one _

theorem captures_createChannel (name kind : Bytes) :
    Captures auth (data.createChannel auth name kind).2 := by
  unfold createChannel
  split
  · exact captures_nil
  · exact captures_one _

theorem captures_inviteUser (userId : Int) : Captures auth (data.inviteUser auth userId).2 := by
  unfold inviteUser
  split
  · exact captures_one _
  · exact captures_nil

theorem captures_onAuthChanged : Captures auth (data.onAuthChanged apiBaseUrl auth).2 := by
  unfold onAuthChanged
  split
  · exact captures_fetchCurrentUserProfile.append captures_reloadServers
  · exact captures_nil

theorem captures_onAnswer (request : ApiRequest) (answer : ApiAnswer) (now : Nat) :
    Captures auth (data.onAnswer apiBaseUrl trimmed auth request answer now).2 := by
  unfold onAnswer
  cases request.call with
  | getMe => dsimp only; split <;> exact captures_nil
  | listServers => dsimp only; split <;> exact captures_nil
  | listChannels serverId => dsimp only; split <;> exact captures_nil
  | listUsers =>
      dsimp only
      split
      · exact captures_nil
      · split <;> exact captures_nil
  | addMember serverId userId =>
      dsimp only
      split
      · exact captures_nil
      · split <;> exact captures_nil
  | createServer name description =>
      dsimp only
      split
      · exact captures_nil
      · split
        · exact captures_reloadServers
        · exact captures_nil
  | createChannel serverId name kind =>
      dsimp only
      split
      · exact captures_nil
      · split
        · split
          · exact captures_reloadChannels
          · exact captures_nil
        · exact captures_nil
  | acceptInvite code =>
      dsimp only
      split
      · exact captures_nil
      · split
        · exact captures_reloadServers.append captures_reloadChannels
        · exact captures_nil
  | updateProfile userId displayName =>
      dsimp only
      split
      · exact captures_fetchCurrentUserProfile
      · exact captures_nil
  | uploadAvatar userId avatar ext =>
      dsimp only
      split
      · exact captures_fetchCurrentUserProfile
      · exact captures_nil

end AccountData

/-! ## The invariant -/

namespace AccountSystem

open AccountData

section

variable (apiBaseUrl : Bytes) (trimmed : Bytes → Bytes)

/-- What holds of the session and of the requests. -/
structure Attributed (app : AccountSystem) : Prop where
  session : AuthSystem.Sound app.session
  user : ∀ response, app.session.applied = some response → app.auth.userId = response.userId
  /-- The stored session is the one of the user who is logged in. -/
  stored : app.auth.loggedIn = true → ∀ stored, app.auth.stored = some stored →
    stored.userId = app.auth.userId
  sent : ∀ sent ∈ app.requests, ∀ user, sent.account = some user →
    user = sent.request.requestedUserId

/-- What holds after every call, every reply and every answer. -/
structure Sound (app : AccountSystem) : Prop extends Attributed app where
  owned : Owned apiBaseUrl trimmed app.delivered app.session.applied app.auth app.data

end

namespace Sound

variable {apiBaseUrl : Bytes} {trimmed : Bytes → Bytes} {app : AccountSystem}

theorem initial (h : Initial app) : Sound apiBaseUrl trimmed app := by
  rcases h with ⟨session, hsession, rfl⟩
  refine ⟨⟨AuthSystem.sound_initial hsession, ?_, ?_, ?_⟩, Owned.initial ⟨rfl, rfl, rfl, rfl⟩⟩
  · rcases hsession with ⟨stored, rfl⟩
    simp
  · rcases hsession with ⟨stored, rfl⟩
    simp [auth]
  · simp

/-- What a function keeps that writes only for the user who is logged in. -/
theorem done (h : Attributed app) {called : AccountData × List ApiRequest}
    (howned : Owned apiBaseUrl trimmed app.delivered app.session.applied app.auth called.1)
    (hcaptures : Captures app.auth called.2) : Sound apiBaseUrl trimmed (app.done called) := by
  refine ⟨⟨h.session, h.user, h.stored, ?_⟩, howned⟩
  intro sent hsent user haccount
  rcases List.mem_append.mp hsent with hold | hnew
  · exact h.sent sent hold user haccount
  · rcases List.mem_map.mp hnew with ⟨request, hrequest, rfl⟩
    rcases Option.map_eq_some_iff.mp haccount with ⟨response, happlied, rfl⟩
    rw [hcaptures request hrequest]
    exact (h.user response happlied).symm

/-- An answer arrives. -/
theorem answered (h : Sound apiBaseUrl trimmed app) {sent : SentRequest}
    (hsent : sent ∈ app.requests) (answer : ApiAnswer) (now : Nat) :
    Sound apiBaseUrl trimmed (app.answered apiBaseUrl trimmed sent answer now) := by
  have htaken : Attributed { app with
      requests := app.requests.erase sent
      delivered := app.delivered ++ [(sent, answer)] } :=
    ⟨h.session, h.user, h.stored,
      fun other hother => h.sent other (List.mem_of_mem_erase hother)⟩
  refine done htaken ?_ (captures_onAnswer _ _ _)
  exact (h.owned.mono (List.subset_append_left _ _)).onAnswer
    (List.mem_append.mpr (Or.inr (List.mem_singleton_self _))) (h.sent sent hsent) now

end Sound

variable {apiBaseUrl : Bytes} {trimmed : Bytes → Bytes} {app : AccountSystem}

theorem signalled_append (app : AccountSystem) (first second : List AuthSignal) :
    app.signalled apiBaseUrl (first ++ second) =
      (app.signalled apiBaseUrl first).signalled apiBaseUrl second :=
  List.foldl_append

/-- Signals without `authChanged` only show an error. -/
theorem signalled_unchanged (apiBaseUrl : Bytes) (app : AccountSystem) {signals : List AuthSignal}
    (hsignals : AuthSignal.authChanged ∉ signals) :
    ∃ error, app.signalled apiBaseUrl signals =
      { app with data := app.data.setApiError error } := by
  induction signals generalizing app with
  | nil => exact ⟨app.data.apiError, rfl⟩
  | cons signal rest ih =>
      rw [List.mem_cons, not_or] at hsignals
      rcases ih (app.done (app.data.onAuthSignal apiBaseUrl app.auth signal)) hsignals.2 with
        ⟨error, herror⟩
      refine ⟨error, herror.trans ?_⟩
      cases signal with
      | authChanged => exact absurd rfl hsignals.1
      | _ => simp [AccountSystem.done, onAuthSignal, AccountData.setApiError]

namespace Sound

theorem signalled (h : Sound apiBaseUrl trimmed app) {signals : List AuthSignal}
    (hsignals : AuthSignal.authChanged ∉ signals) :
    Sound apiBaseUrl trimmed (app.signalled apiBaseUrl signals) := by
  rcases signalled_unchanged apiBaseUrl app hsignals with ⟨error, herror⟩
  rw [herror]
  exact ⟨⟨h.session, h.user, h.stored, h.sent⟩, h.owned.setApiError error⟩

/-- `authChanged` is told, and the slot writes only for the user who is logged in. -/
theorem changed (h : Attributed app) {before after : List AuthSignal}
    (hbefore : AuthSignal.authChanged ∉ before) (hafter : AuthSignal.authChanged ∉ after)
    (howned : ∀ error, Owned apiBaseUrl trimmed app.delivered app.session.applied app.auth
      ((app.data.setApiError error).onAuthChanged apiBaseUrl app.auth).1) :
    Sound apiBaseUrl trimmed
      (app.signalled apiBaseUrl (before ++ AuthSignal.authChanged :: after)) := by
  rcases signalled_unchanged apiBaseUrl app hbefore with ⟨error, herror⟩
  have hsplit : app.signalled apiBaseUrl (before ++ AuthSignal.authChanged :: after) =
      (({ app with data := app.data.setApiError error }).done
        ((app.data.setApiError error).onAuthChanged apiBaseUrl app.auth)).signalled
          apiBaseUrl after := by
    rw [signalled_append, herror]
    rfl
  rw [hsplit]
  refine signalled (done ?_ (howned error) captures_onAuthChanged) hafter
  exact ⟨h.session, h.user, h.stored, h.sent⟩

/-- The session may change as long as whoever is logged in stays. -/
theorem kept (h : Sound apiBaseUrl trimmed app) {next : AuthSystem} {signals : List AuthSignal}
    (hsession : AuthSystem.Sound next) (happlied : next.applied = app.session.applied)
    (hloggedIn : next.auth.loggedIn = app.auth.loggedIn)
    (huser : app.auth.loggedIn = true → next.auth.userId = app.auth.userId)
    (hstored : ∀ stored, next.auth.stored = some stored → app.auth.stored = some stored)
    (hsignals : AuthSignal.authChanged ∉ signals) :
    Sound apiBaseUrl trimmed ({ app with session := next }.signalled apiBaseUrl signals) := by
  have hnext : Sound apiBaseUrl trimmed { app with session := next } := by
    refine ⟨⟨hsession, ?_, ?_, h.sent⟩, ?_⟩
    · intro response hresponse
      have hold : app.session.applied = some response := happlied.symm.trans hresponse
      have hcurrent : app.auth.loggedIn = true :=
        h.session.loggedIn.mpr (Option.isSome_iff_exists.mpr ⟨response, hold⟩)
      exact (huser hcurrent).trans (h.user response hold)
    · intro hcurrent stored hdata
      have hold : app.auth.loggedIn = true := hloggedIn.symm.trans hcurrent
      exact (h.stored hold stored (hstored stored hdata)).trans (huser hold).symm
    · have howned := h.owned.of_sameUser hloggedIn huser
      rwa [← happlied] at howned
  exact hnext.signalled hsignals

/-- A call that may post a request: a restore reads back the id of whoever is logged in. -/
theorem posted (h : Sound apiBaseUrl trimmed app)
    {called : AuthManager × List AuthSignal × Option AuthRequest}
    (hcalled : Called app.auth called) :
    Sound apiBaseUrl trimmed
      ({ app with session := (app.session.post called).1 }.signalled apiBaseUrl
        (app.session.post called).2) := by
  have hsession := h.session.post hcalled
  cases hcalled with
  | refused signals hsignals => exact h.signalled hsignals
  | begun next signals request hsignals hgeneration hpending htoken hstored hloggedIn hidentity =>
      refine h.kept hsession rfl hloggedIn ?_ (fun stored hdata => hstored.symm.trans hdata)
        hsignals
      intro hcurrent
      rcases hidentity with ⟨-, hsame⟩ | ⟨stored, hdata, -, hid⟩
      · exact hsame
      · exact hid.trans (h.stored hcurrent stored hdata)

/-- `logout` empties everything. -/
theorem logout (h : Sound apiBaseUrl trimmed app) :
    Sound apiBaseUrl trimmed
      ({ app with session := app.session.logout.1 }.signalled apiBaseUrl
        app.session.logout.2) := by
  have hout : app.session.logout.1.auth.loggedIn = false := by
    simp [AuthSystem.logout, AuthManager.logout]
  have hnext : Attributed { app with session := app.session.logout.1 } := by
    refine ⟨h.session.logout, ?_, ?_, h.sent⟩
    · intro response happlied
      exact absurd happlied (by simp [AuthSystem.logout])
    · intro hcurrent
      exact absurd hcurrent (by simp [auth, hout])
  refine changed hnext (AuthManager.setAuthPending_snd _ _) List.not_mem_nil fun error => ?_
  apply Owned.initial
  simp [onAuthChanged, auth, hout]

end Sound

/-! ## Replies to the requests of the session -/

/-- The id of the user after a reply of the current generation. -/
def userAfter (auth : AuthManager) (reply : AuthReply) (answer : AuthAnswer) : Int :=
  if answer.failed then
    match reply.request with
    | .refresh _ _ => 0
    | _ => auth.userId
  else (QJsonValue.value answer.json (text "user_id")).toInt

/-- Another user is logged in only while nothing is shown, and a restore is not refused
while someone is logged in. -/
def Careful (app : AccountSystem) : AccountAction → Prop
  | .session (.finished reply answer) =>
      app.auth.loggedIn = true → reply.generation = app.auth.requestGeneration →
        userAfter app.auth reply answer = app.auth.userId ∨
          answer.failed = false ∧ app.data.servers = [] ∧ app.data.channels = [] ∧
            app.data.users = []
  | _ => True

instance (app : AccountSystem) (action : AccountAction) : Decidable (app.Careful action) := by
  unfold Careful
  split <;> infer_instance

def CarefulStep (apiBaseUrl : Bytes) (trimmed : Bytes → Bytes) (app next : AccountSystem) :
    Prop :=
  ∃ action, app.Careful action ∧ act apiBaseUrl trimmed app action = some next

/-- What a refused request leaves of the user. -/
theorem onReply_failed_user (trimmed : Bytes → Bytes) {auth : AuthManager} {reply : AuthReply}
    {answer : AuthAnswer} (hcurrent : reply.generation = auth.requestGeneration)
    (hfailed : answer.failed = true) :
    (auth.onReply trimmed reply answer).1.loggedIn = auth.loggedIn ∧
      (auth.onReply trimmed reply answer).1.userId = userAfter auth reply answer ∧
      ∀ stored, (auth.onReply trimmed reply answer).1.stored = some stored →
        auth.stored = some stored := by
  rw [AuthManager.onReply_failed trimmed hcurrent hfailed, userAfter, if_pos hfailed]
  cases reply.request with
  | refresh username refreshToken => exact ⟨rfl, rfl, fun stored hnone => nomatch hnone⟩
  | login username password => exact ⟨rfl, rfl, fun stored hsame => hsame⟩
  | registration username email password => exact ⟨rfl, rfl, fun stored hsame => hsame⟩

namespace Sound

variable {reply : AuthReply} {answer : AuthAnswer}

/-- A request that succeeds shows the data of its user. -/
theorem finish_ok (h : Sound apiBaseUrl trimmed app) (hreply : reply ∈ app.session.replies)
    (hcareful : app.Careful (.session (.finished reply answer)))
    (hcurrent : reply.generation = app.auth.requestGeneration)
    (hok : answer.failed = false) :
    Sound apiBaseUrl trimmed
      ({ app with session := (app.session.finish trimmed reply answer).1 }.signalled apiBaseUrl
        (app.session.finish trimmed reply answer).2) := by
  have hsession : AuthSystem.Sound (app.session.finish trimmed reply answer).1 :=
    h.session.finish hreply
  have happlied := AuthSystem.finish_applied_ok trimmed hcurrent hok
  have hauth : (app.session.finish trimmed reply answer).1.auth =
      (app.auth.onReply trimmed reply answer).1 :=
    (AuthSystem.finish_auth trimmed app.session reply answer).1
  have hsignals : (app.session.finish trimmed reply answer).2 =
      (app.auth.onReply trimmed reply answer).2 :=
    (AuthSystem.finish_auth trimmed app.session reply answer).2
  rw [AuthManager.onReply_ok trimmed hcurrent hok] at hauth
  rcases AuthManager.onReply_ok_signals trimmed hcurrent hok with
    ⟨before, after, hsplit, hbefore, hafter⟩
  rw [hsignals, hsplit]
  generalize (app.session.finish trimmed reply answer).1 = next at *
  have hloggedIn : next.auth.loggedIn = true := by simp [hauth, AuthManager.applyTokenResponse]
  have huser : next.auth.userId =
      (AuthManager.readResponse trimmed answer.json reply.request.username).userId := by
    simp [hauth, AuthManager.applyTokenResponse]
  have hnext : Attributed { app with session := next } := by
    refine ⟨hsession, ?_, ?_, h.sent⟩
    · intro response hresponse
      cases happlied.symm.trans hresponse
      exact huser
    · intro _ stored hstored
      refine Eq.trans ?_ huser.symm
      have hsaved : next.auth.stored = some stored := hstored
      rw [hauth] at hsaved
      cases hsaved
      rfl
  refine changed hnext hbefore hafter fun error => ?_
  have hchanged : (app.data.setApiError error).onAuthChanged apiBaseUrl next.auth =
      (app.data.setApiError error).loadInitialData apiBaseUrl next.auth := by
    rw [onAuthChanged, if_pos hloggedIn]
  change Owned apiBaseUrl trimmed app.delivered next.applied next.auth
    ((app.data.setApiError error).onAuthChanged apiBaseUrl next.auth).1
  rw [hchanged, happlied]
  refine (h.owned.setApiError error).loadInitialData hloggedIn ?_ huser.symm ?_
  · cases hbefore : app.auth.loggedIn with
    | false =>
        have hempty := h.owned.loggedOut hbefore
        exact Or.inr ⟨hempty.1, hempty.2.1, hempty.2.2.1⟩
    | true =>
        refine (hcareful hbefore hcurrent).imp ?_ And.right
        intro hsame
        rw [userAfter, hok] at hsame
        exact huser.trans hsame
  · rw [hauth]
    rfl

/-- A reply keeps the invariant. -/
theorem finish (h : Sound apiBaseUrl trimmed app) (hreply : reply ∈ app.session.replies)
    (hcareful : app.Careful (.session (.finished reply answer))) :
    Sound apiBaseUrl trimmed
      ({ app with session := (app.session.finish trimmed reply answer).1 }.signalled apiBaseUrl
        (app.session.finish trimmed reply answer).2) := by
  have hsession : AuthSystem.Sound (app.session.finish trimmed reply answer).1 :=
    h.session.finish hreply
  rcases AuthSystem.finish_auth trimmed app.session reply answer with ⟨hauth, hsignals⟩
  by_cases hcurrent : reply.generation = app.auth.requestGeneration
  · cases hfailed : answer.failed with
    | false => exact h.finish_ok hreply hcareful hcurrent hfailed
    | true =>
        rcases onReply_failed_user trimmed hcurrent hfailed with ⟨hloggedIn, huser, hstored⟩
        refine h.kept hsession (AuthSystem.finish_applied_kept trimmed fun _ => hfailed) ?_ ?_ ?_ ?_
        · rw [hauth]
          exact hloggedIn
        · intro hcurrentUser
          rw [hauth]
          refine huser.trans ?_
          rcases hcareful hcurrentUser hcurrent with hsame | ⟨hok, -⟩
          · exact hsame
          · exact absurd (hok.symm.trans hfailed) Bool.false_ne_true
        · rw [hauth]
          exact hstored
        · rw [hsignals]
          exact AuthManager.onReply_failed_signals trimmed hfailed
  · have hlate := AuthManager.onReply_late trimmed hcurrent answer
    rw [auth] at hlate
    rw [hlate] at hauth hsignals
    refine h.kept hsession
      (AuthSystem.finish_applied_kept trimmed fun hsame => absurd hsame hcurrent) ?_ ?_ ?_ ?_
    · rw [hauth, auth]
    · rw [hauth]
      exact fun _ => rfl
    · rw [hauth]
      exact fun _ hsame => hsame
    · rw [hsignals]
      exact List.not_mem_nil

/-- One call, one reply or one answer keeps the invariant. -/
theorem step (h : Sound apiBaseUrl trimmed app) {next : AccountSystem}
    (hstep : CarefulStep apiBaseUrl trimmed app next) : Sound apiBaseUrl trimmed next := by
  rcases hstep with ⟨action, hcareful, hact⟩
  cases action with
  | session action =>
      rcases Option.map_eq_some_iff.mp hact with ⟨result, hresult, rfl⟩
      cases action with
      | login username password =>
          rw [AuthSystem.act, Option.some.injEq] at hresult
          subst hresult
          exact h.posted (AuthManager.called_login username password)
      | registerUser username email password =>
          rw [AuthSystem.act, Option.some.injEq] at hresult
          subst hresult
          exact h.posted (AuthManager.called_registerUser username email password)
      | tryRestoreSession =>
          rw [AuthSystem.act, Option.some.injEq] at hresult
          subst hresult
          exact h.posted AuthManager.called_tryRestoreSession
      | logout =>
          rw [AuthSystem.act, Option.some.injEq] at hresult
          subst hresult
          exact h.logout
      | finished reply answer =>
          rw [AuthSystem.act] at hresult
          split at hresult
          case isTrue hreply =>
            rw [Option.some.injEq] at hresult
            subst hresult
            exact h.finish hreply hcareful
          case isFalse => contradiction
  | selectServer id =>
      cases hact
      exact done h.toAttributed (h.owned.selectServer id) captures_reloadChannels
  | selectChannel id =>
      cases hact
      exact done h.toAttributed (h.owned.congr rfl rfl rfl rfl rfl) captures_nil
  | createServer name description =>
      cases hact
      exact done h.toAttributed h.owned (captures_one _)
  | createChannel name kind =>
      cases hact
      refine done h.toAttributed ?_ (captures_createChannel name kind)
      unfold AccountData.createChannel
      split <;> exact h.owned
  | acceptInvite code =>
      cases hact
      exact done h.toAttributed h.owned (captures_one _)
  | loadUsers =>
      cases hact
      exact done h.toAttributed h.owned (captures_one _)
  | inviteUser userId =>
      cases hact
      refine done h.toAttributed ?_ (captures_inviteUser userId)
      unfold AccountData.inviteUser
      split
      · exact h.owned
      · exact h.owned.setApiError _
  | updateDisplayName name =>
      cases hact
      exact done h.toAttributed h.owned (captures_one _)
  | uploadAvatar avatar ext =>
      cases hact
      exact done h.toAttributed h.owned (captures_one _)
  | answered sent answer now =>
      rw [act] at hact
      split at hact
      case isTrue hsent =>
        rw [Option.some.injEq] at hact
        subst hact
        exact h.answered hsent answer now
      case isFalse => contradiction

end Sound

/-! ## The data in every run -/

section

variable (apiBaseUrl : Bytes) (trimmed : Bytes → Bytes)

/-- All data shown is of the user who is logged in and of the server that is selected. -/
structure OfCurrentUser (app : AccountSystem) : Prop where
  /-- `userId` is the id of whoever is logged in. -/
  user : app.auth.loggedIn = true → app.account = some app.auth.userId
  owned : Owned apiBaseUrl trimmed app.delivered app.session.applied app.auth app.data
  /-- An invited user is taken out only while the server of the request is selected. -/
  invited : ∀ sent ∈ app.requests, ∀ serverId userId,
    sent.request.call = .addMember serverId userId → ∀ answer now,
    (app.answered apiBaseUrl trimmed sent answer now).data.users = app.data.users ∨
      app.data.selectedServerId = serverId ∧
        (app.answered apiBaseUrl trimmed sent answer now).data.users =
          app.data.users.filter fun user => user.id ≠ userId

variable {apiBaseUrl trimmed} {app : AccountSystem}

theorem users_of_addMember {sent : SentRequest} {serverId userId : Int}
    (hcall : sent.request.call = .addMember serverId userId) (answer : ApiAnswer) (now : Nat) :
    (app.answered apiBaseUrl trimmed sent answer now).data.users = app.data.users ∨
      app.data.selectedServerId = serverId ∧
        (app.answered apiBaseUrl trimmed sent answer now).data.users =
          app.data.users.filter fun user => user.id ≠ userId := by
  have hanswered : (app.answered apiBaseUrl trimmed sent answer now).data =
      (app.data.onAnswer apiBaseUrl trimmed app.auth sent.request answer now).1 := rfl
  rw [hanswered, onAnswer, hcall]
  dsimp only
  split
  · exact Or.inl rfl
  · rename_i hguard
    simp only [not_or, not_not, ne_eq] at hguard
    split
    · exact Or.inr ⟨hguard.2, rfl⟩
    · exact Or.inl rfl

/-- The data shown belongs to the user who is logged in, in every run in which another user
is logged in only while nothing is shown. -/
theorem account_data_of_reachable
    (h : Reachable Initial (CarefulStep apiBaseUrl trimmed) app) :
    OfCurrentUser apiBaseUrl trimmed app := by
  have hsound : Sound apiBaseUrl trimmed app :=
    h.invariant (fun _ => Sound.initial) fun _ _ _ hsound hstep => hsound.step hstep
  refine ⟨?_, hsound.owned, fun sent _ serverId userId hcall => users_of_addMember hcall⟩
  intro hloggedIn
  rcases Option.isSome_iff_exists.mp (hsound.session.loggedIn.mp hloggedIn) with
    ⟨response, hresponse⟩
  rw [account, hresponse, hsound.user response hresponse]
  rfl

end

/-! ## Runs -/

section

/-- A server that grants the request to a user. -/
private def grantedTo (userId : Int) : AuthAnswer where
  failed := false
  json := [(text "access_token", .string (text "acc")),
    (text "refresh_token", .string (text "ref")), (text "user_id", .double userId)]

/-- The list of the one server of a user. -/
private def serversOf (userId : Int) : ApiAnswer where
  ok := true
  items := [.object [(text "id", .double (10 * userId)), (text "name", .string (text "home")),
    (text "owner_id", .double userId)]]

/-- A login, the reply and the list of servers. -/
private def arrival (generation : Nat) (userId : Int) : List AccountAction :=
  [.session (.login (text "user") (text "pw")),
    .session (.finished ⟨generation, .login (text "user") (text "pw")⟩ (grantedTo userId)),
    .answered ⟨⟨.listServers, userId⟩, some userId⟩ (serversOf userId) 0]

/-- Two users one after the other, with a logout between. -/
private def switched : AccountSystem :=
  (execute Careful (act [] id) {} (arrival 1 1 ++ .session .logout :: arrival 3 2)).getD {}

theorem account_data_of_reachable_switched :
    switched.data.servers = [⟨20, text "home", 2⟩] ∧ OfCurrentUser [] id switched :=
  ⟨by decide +kernel, account_data_of_reachable (Reachable.execute
    (fun _ action _ hcareful hact => ⟨action, hcareful, hact⟩)
    (Reachable.start ⟨{}, ⟨none, rfl⟩, rfl⟩) (execute_eq_some_getD (by decide +kernel)))⟩

/-- The second user logs in without a logout. -/
private def overtaken : AccountSystem :=
  (execute (fun _ _ => True) (act [] id) {} (arrival 1 1 ++ (arrival 2 2).take 2)).getD {}

private theorem answered_overtaken :
    ∀ delivered ∈ overtaken.delivered, delivered.1.request.requestedUserId = 1 := by
  decide +kernel

/-- The second user sees the servers of the first one. -/
theorem second_login_keeps_servers :
    ¬ ∀ app : AccountSystem, Reachable Initial (Step [] id) app → OfCurrentUser [] id app := by
  intro hclaim
  have howned := (hclaim overtaken (Reachable.execute
    (fun _ action _ _ hact => ⟨action, hact⟩) (Reachable.start ⟨{}, ⟨none, rfl⟩, rfl⟩)
    (execute_eq_some_getD (by decide +kernel)))).owned
  rcases howned.servers with hnone | ⟨answer, ⟨account, hmem, -⟩, -⟩
  · exact absurd hnone (by decide +kernel)
  · have hfirst : overtaken.auth.userId = 1 := answered_overtaken _ hmem
    exact absurd hfirst (by decide +kernel)

end

end AccountSystem

end Client
end Driscord
