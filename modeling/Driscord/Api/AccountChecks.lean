import Driscord.Api.AccountRoutes

/-!
# What a route of accounts has checked

A route writes its caller's own row and avatar and nothing else, except that a
registration inserts a row.  Tokens are handed out after an insert, a verified
password or a refresh token, an email address is shown to its owner, and a request
that fails has written nothing, unless a row that it knew of is gone.

Main results:

- Theorem `handler_respects`: every route keeps to `Permitted` and `Answered`.
-/

namespace Driscord
namespace Api
namespace Accounts

open Library

/-- The statements that a request has executed. -/
abbrev History := List (Executed AccountRows AccountWrite ℕ WriteError)

/-- A statement of the request has read rows that satisfy a condition. -/
def Saw (condition : AccountRows → Prop) (history : History) : Prop :=
  ∃ rows, .read rows ∈ history ∧ condition rows

theorem Saw.later {condition : AccountRows → Prop} {history later : History}
    (h : Saw condition history) (hlater : history <+: later) : Saw condition later := by
  rcases h with ⟨rows, hmem, hrows⟩
  exact ⟨rows, hlater.subset hmem, hrows⟩

theorem Saw.imp {condition condition' : AccountRows → Prop} {history : History}
    (h : Saw condition history) (himp : ∀ rows, condition rows → condition' rows) :
    Saw condition' history := by
  rcases h with ⟨rows, hmem, hrows⟩
  exact ⟨rows, hmem, himp rows hrows⟩

theorem Saw.append {condition : AccountRows → Prop} {rows : AccountRows} (history : History)
    (h : condition rows) : Saw condition (history ++ [.read rows]) :=
  ⟨rows, List.mem_append_right _ (List.mem_singleton_self _), h⟩

/-- The request has read the row of a user. -/
def SawUser (user : ℕ × Account) (history : History) : Prop :=
  Saw (fun rows => rows.users.lookup user.1 = some user.2) history

/-- The request has written nothing. -/
def Unwritten (history : History) : Prop :=
  ∀ write id, .wrote write id ∉ history

theorem Unwritten.nil : Unwritten [] :=
  fun _ _ => List.not_mem_nil

theorem Unwritten.read {history : History} (h : Unwritten history) (rows : AccountRows) :
    Unwritten (history ++ [.read rows]) := by
  intro write id hmem
  rcases List.mem_append.mp hmem with hmem | hmem
  · exact h write id hmem
  · have hsame := List.mem_singleton.mp hmem
    contradiction

theorem Unwritten.refused {history : History} (h : Unwritten history) (write : AccountWrite)
    (error : WriteError) : Unwritten (history ++ [.refused write error]) := by
  intro other id hmem
  rcases List.mem_append.mp hmem with hmem | hmem
  · exact h other id hmem
  · have hsame := List.mem_singleton.mp hmem
    contradiction

/-- The request has inserted the row of a user. -/
def Inserted (username email hashedPassword : Bytes) (userId : ℕ) (history : History) : Prop :=
  .wrote (.insertUser username email hashedPassword) userId ∈ history

/-- The request has read or inserted the row of a user. -/
def Known (userId : ℕ) (history : History) : Prop :=
  Saw (fun rows => userId ∈ rows.users) history ∨
    ∃ username email hashedPassword, Inserted username email hashedPassword userId history

theorem SawUser.known {user : ℕ × Account} {history : History} (h : SawUser user history) :
    Known user.1 history :=
  Or.inl (h.imp fun _ hlookup => Table.mem_of_lookup hlookup)

theorem Known.later {userId : ℕ} {history later : History} (h : Known userId history)
    (hlater : history <+: later) : Known userId later := by
  rcases h with hsaw | ⟨username, email, hashedPassword, hinserted⟩
  · exact Or.inl (hsaw.later hlater)
  · exact Or.inr ⟨username, email, hashedPassword, hlater.subset hinserted⟩

theorem SawUser.append {user : ℕ × Account} {rows : AccountRows} (history : History)
    (h : rows.users.lookup user.1 = some user.2) : SawUser user (history ++ [.read rows]) :=
  Saw.append history h

/-- The user whose columns a write sets. -/
def AccountWrite.target : AccountWrite → Option ℕ
  | .setDisplayName id _ | .setAvatarUrl id _ => some id
  | .insertUser _ _ _ | .writeFile _ _ => none

/-- The statement did not find the row of the user. -/
def Misses (userId : ℕ) : Executed AccountRows AccountWrite ℕ WriteError → Prop
  | .read rows => userId ∉ rows.users
  | .refused write _ => write.target = some userId
  | .wrote _ _ => False

/-- The last statement did not find a row that the request knew of. -/
def Lost (history : History) : Prop :=
  ∃ before userId last, history = before ++ [last] ∧ Known userId before ∧ Misses userId last

/-! ## Permitted writes and answers -/

/-- The user that the access token of a request names. -/
def Request.caller (request : Request) : Option ℕ :=
  request.token.userOf "access"

section

variable (settings : Settings) (request : Request)

/-- The request uploads the content as an avatar of its caller. -/
def Uploads (userId : ℕ) (ext content : Bytes) : Prop :=
  request.caller = some userId ∧ ext ∈ extensions ∧ content ≠ [] ∧
    content.length ≤ maxAvatarBytes ∧
      ∃ contentType, request.call = .uploadAvatar userId contentType content

/-- What justifies a write. -/
def Permitted (history : History) (write : AccountWrite) : Prop :=
  match write with
  | .insertUser username email hashedPassword =>
      ∃ password salt, request.call = .register username email password salt ∧
        hashPassword settings.bcrypt password salt = some hashedPassword
  | .setDisplayName id displayName =>
      request.caller = some id ∧
        (request.call = .updateMe (some displayName) ∨
          request.call = .updateUser id (some displayName))
  | .setAvatarUrl id url =>
      ∃ ext content value, Uploads request id ext content ∧ url = avatarUrl id ext ∧
        .wrote (.writeFile (avatarFile settings.dataDir id ext) content) value ∈ history
  | .writeFile path content =>
      ∃ userId ext, Uploads request userId ext content ∧
        path = avatarFile settings.dataDir userId ext

/-- What the request knows of a user before it hands out tokens. -/
def Authenticated (history : History) (userId : ℕ) : Prop :=
  match request.call with
  | .register username email password salt =>
      ∃ hashedPassword, hashPassword settings.bcrypt password salt = some hashedPassword ∧
        Inserted username email hashedPassword userId history
  | .login username password =>
      Saw (fun rows => ∃ account, rows.users.lookup userId = some account ∧
        account.username = username ∧
          verifyPassword settings.bcrypt password account.hashedPassword = true) history
  | .refresh => request.token.userOf "refresh" = some userId
  | _ => False

/-- The last statement looked for the avatar of a row that had been read. -/
def Shown (history : History) (profile : Profile) : Prop :=
  ∃ before rows account, history = before ++ [.read rows] ∧
    SawUser (profile.id, account) before ∧ profile = profileOf settings rows (profile.id, account)

/-- What justifies an answer. -/
structure Answered (history : History) (answer : Answer) : Prop where
  fails : answer.Fails → Unwritten history ∨ Lost history
  registered : ∀ username email password salt,
    request.call = .register username email password salt → ¬ answer.Fails →
      ∃ userId, Authenticated settings request history userId
  tokens : ∀ access refresh userId avatarUrl displayName,
    answer.body = .tokens access refresh userId avatarUrl displayName →
      access = createAccessToken userId ∧ refresh = createRefreshToken userId ∧
        Authenticated settings request history userId ∧ Known userId history
  shown : ∀ profile ∈ answer.profiles, Shown settings history profile
  email : ∀ profile email, answer.body = .me profile email →
    request.caller = some profile.id ∧
      ∃ account, SawUser (profile.id, account) history ∧ account.email = email

end

section

variable {settings : Settings} {request : Request} {history : History}

theorem Authenticated.later {later : History} {userId : ℕ}
    (h : Authenticated settings request history userId) (hlater : history <+: later) :
    Authenticated settings request later userId := by
  unfold Authenticated at h ⊢
  cases hcall : request.call with
  | register username email password salt =>
      rw [hcall] at h
      rcases h with ⟨hashedPassword, hhash, hinserted⟩
      exact ⟨hashedPassword, hhash, hlater.subset hinserted⟩
  | login username password =>
      rw [hcall] at h
      exact Saw.later h hlater
  | _ =>
      rw [hcall] at h
      exact h

/-- An error shows nothing. -/
theorem Answered.error {answer : Answer} (hfails : answer.Fails)
    (hbody : answer.body = .empty ∨ ∃ detail, answer.body = .detail detail)
    (h : Unwritten history ∨ Lost history) : Answered settings request history answer := by
  refine ⟨fun _ => h, fun _ _ _ _ _ hsuccess => absurd hfails hsuccess, ?_, ?_, ?_⟩
  · rintro access refresh userId avatarUrl displayName hsame
    rcases hbody with hbody | ⟨detail, hbody⟩ <;>
      rw [hbody] at hsame <;> contradiction
  · intro profile hprofile
    rcases hbody with hbody | ⟨detail, hbody⟩ <;>
      rw [Answer.profiles, hbody] at hprofile <;> contradiction
  · intro profile email hsame
    rcases hbody with hbody | ⟨detail, hbody⟩ <;>
      rw [hbody] at hsame <;> contradiction

/-- An answer to another request than a registration that hands out no tokens. -/
theorem Answered.showing {body : Body}
    (hcall : ∀ username email password salt,
      request.call ≠ .register username email password salt)
    (htokens : ∀ access refresh userId avatarUrl displayName,
      body ≠ .tokens access refresh userId avatarUrl displayName)
    (hshown : ∀ profile ∈ (Answer.mk 200 body).profiles, Shown settings history profile)
    (hemail : ∀ profile email, body = .me profile email → request.caller = some profile.id ∧
      ∃ account, SawUser (profile.id, account) history ∧ account.email = email) :
    Answered settings request history ⟨200, body⟩ where
  fails hfails := absurd hfails (show ¬ 400 ≤ 200 by omega)
  registered username email password salt hsame := absurd hsame (hcall _ _ _ _)
  tokens access refresh userId avatarUrl displayName hsame := absurd hsame (htokens _ _ _ _ _)
  shown := hshown
  email := hemail

/-! ## Parts of routes -/

variable {α β : Type} {ends : History → α → Prop}

/-- A part of a route that starts with a history keeps to what is permitted, and its
value satisfies a condition. -/
def Keeping (settings : Settings) (request : Request) (ends : History → α → Prop)
    (history : History) (part : Handler α) : Prop :=
  Program.Respects (Permitted settings request) (Answered settings request) ends history part

theorem Keeping.mono {ends' : History → α → Prop} {part : Handler α}
    (h : Keeping settings request ends history part)
    (himp : ∀ later value, ends later value → ends' later value) :
    Keeping settings request ends' history part :=
  Program.Respects.mono himp h

theorem Keeping.bind {middle : History → α → Prop} {ends : History → β → Prop}
    {part : Handler α} {next : α → Handler β} (h : Keeping settings request middle history part)
    (hnext : ∀ later value, history <+: later → middle later value →
      Keeping settings request ends later (next value)) :
    Keeping settings request ends history (part >>= next) :=
  Program.Respects.bind h hnext

theorem Keeping.raise {status : ℕ} {detail : String} (hstatus : 400 ≤ status)
    (h : Unwritten history ∨ Lost history) :
    Keeping settings request ends history (raise status detail) :=
  Answered.error hstatus (Or.inr ⟨detail, rfl⟩) h

theorem Keeping.fail (h : Unwritten history ∨ Lost history) :
    Keeping settings request ends history fail :=
  Answered.error (show 400 ≤ 500 by omega) (Or.inl rfl) h

theorem query_keeping {read : AccountRows → α} :
    Keeping settings request
      (fun later value => ∃ rows, later = history ++ [.read rows] ∧ read rows = value) history
      (query read) :=
  fun rows => ⟨rows, rfl, rfl⟩

theorem queryOr_keeping {read : AccountRows → Option α} {status : ℕ} {detail : String}
    (hstatus : 400 ≤ status) (h : Unwritten history) :
    Keeping settings request
      (fun later value => ∃ rows, later = history ++ [.read rows] ∧ read rows = some value)
      history (queryOr read status detail) := by
  apply query_keeping.bind
  rintro later found - ⟨rows, rfl, hread⟩
  cases found with
  | none => exact Keeping.raise hstatus (Or.inl (h.read rows))
  | some value => exact ⟨rows, rfl, hread⟩

theorem refresh_keeping {read : AccountRows → Option α} (h : Unwritten history) :
    Keeping settings request
      (fun later value => ∃ rows, later = history ++ [.read rows] ∧ read rows = some value)
      history (refresh read) := by
  apply query_keeping.bind
  rintro later found - ⟨rows, rfl, hread⟩
  cases found with
  | none => exact Keeping.fail (Or.inl (h.read rows))
  | some value => exact ⟨rows, rfl, hread⟩

/-- A row that the request knows of is read again. -/
theorem refreshUser_keeping {userId : ℕ} (h : Known userId history) :
    Keeping settings request
      (fun later user => user.1 = userId ∧ SawUser user later) history
      (refresh fun rows => rows.userById userId) := by
  apply query_keeping.bind
  rintro later found - ⟨rows, rfl, hread⟩
  cases found with
  | none =>
      apply Keeping.fail
      have hmissing := AccountRows.userById_eq_none hread
      exact Or.inr ⟨history, userId, .read rows, rfl, h, hmissing⟩
  | some user =>
      have huser := AccountRows.userById_eq_some hread
      exact ⟨huser.1, SawUser.append history huser.2⟩

theorem getCurrentUser_keeping (h : Unwritten history) :
    Keeping settings request
      (fun later user => Unwritten later ∧ SawUser user later ∧
        request.caller = some user.1) history (getCurrentUser request.token) := by
  unfold getCurrentUser
  cases hcaller : request.token.userOf "access" with
  | none => exact Keeping.raise (by omega) (Or.inl h)
  | some userId =>
      refine (queryOr_keeping (by omega) h).mono fun later user hfound => ?_
      rcases hfound with ⟨rows, rfl, hread⟩
      have huser := AccountRows.userById_eq_some hread
      refine ⟨h.read rows, SawUser.append history huser.2, ?_⟩
      rw [Request.caller, hcaller, huser.1]

/-- The tokens of a user that the request has authenticated. -/
theorem tokenResponse_keeping {status : ℕ} {user : ℕ × Account} (hstatus : status < 400)
    (hknown : Known user.1 history)
    (hauthenticated : Authenticated settings request history user.1) :
    Keeping settings request (Answered settings request) history
      (tokenResponse settings status user) := by
  intro rows
  have hlater : history <+: history ++ [.read rows] := List.prefix_append _ _
  refine ⟨fun hfails => absurd hfails (by simpa [Answer.Fails] using hstatus), ?_, ?_, ?_, ?_⟩
  · exact fun _ _ _ _ _ _ => ⟨user.1, hauthenticated.later hlater⟩
  · rintro access refresh userId avatarUrl displayName hsame
    injection hsame with haccess hrefresh huser
    subst haccess hrefresh huser
    exact ⟨rfl, rfl, hauthenticated.later hlater, hknown.later hlater⟩
  · intro profile hprofile
    contradiction
  · intro profile email hsame
    contradiction

theorem userResponse_keeping {user : ℕ × Account} (huser : SawUser user history)
    (hcall : ∀ username email password salt,
      request.call ≠ .register username email password salt) :
    Keeping settings request (Answered settings request) history (userResponse settings user) := by
  intro rows
  refine Answered.showing hcall (fun _ _ _ _ _ hsame => ?_) ?_ (fun _ _ hsame => ?_)
  · contradiction
  · intro profile hprofile
    obtain rfl := List.mem_singleton.mp hprofile
    exact ⟨history, rows, user.2, rfl, huser, rfl⟩
  · contradiction

theorem meResponse_keeping {user : ℕ × Account} (huser : SawUser user history)
    (hcaller : request.caller = some user.1)
    (hcall : ∀ username email password salt,
      request.call ≠ .register username email password salt) :
    Keeping settings request (Answered settings request) history (meResponse settings user) := by
  intro rows
  refine Answered.showing hcall (fun _ _ _ _ _ hsame => ?_) ?_ ?_
  · contradiction
  · intro profile hprofile
    obtain rfl := List.mem_singleton.mp hprofile
    exact ⟨history, rows, user.2, rfl, huser, rfl⟩
  · intro profile email hsame
    injection hsame with hprofile hemail
    subst hprofile
    exact ⟨hcaller, user.2, huser.later (List.prefix_append _ _), hemail⟩

/-- A session returns a row that was read. -/
theorem sawUser_loaded {caller user : ℕ × Account} (hcaller : SawUser caller history)
    (huser : SawUser user history) : SawUser (loaded caller user) history := by
  unfold loaded
  split
  · exact hcaller
  · exact huser

/-- A column of the caller is set, or it had the value already. -/
theorem commitChange_keeping {caller : ℕ × Account} {changed : Bool} {write : AccountWrite}
    (hwrite : Permitted settings request history write)
    (htarget : write.target = some caller.1) (hcaller : SawUser caller history) :
    Keeping settings request (fun later user => user.1 = caller.1 ∧ SawUser user later) history
      (commitChange caller changed write) := by
  cases changed with
  | false => exact refreshUser_keeping hcaller.known
  | true =>
      refine ⟨hwrite, fun value => ?_, fun error => ?_⟩
      · have hlater : SawUser caller (history ++ [.wrote write value]) :=
          hcaller.later (List.prefix_append _ _)
        exact refreshUser_keeping hlater.known
      · apply Keeping.fail
        exact Or.inr ⟨history, caller.1, .refused write error, rfl, hcaller.known, htarget⟩

/-! ## Routes -/

theorem register_keeping {username email password salt : Bytes}
    (hcall : request.call = .register username email password salt) :
    Keeping settings request (Answered settings request) []
      (register settings username email password salt) := by
  apply query_keeping.bind
  rintro first existing - ⟨rows, rfl, -⟩
  have hunwritten := Unwritten.nil.read rows
  cases existing with
  | some user => exact Keeping.raise (by omega) (Or.inl hunwritten)
  | none =>
      apply query_keeping.bind
      rintro later existing - ⟨rows, rfl, -⟩
      have hunwritten := hunwritten.read rows
      cases existing with
      | some user => exact Keeping.raise (by omega) (Or.inl hunwritten)
      | none =>
          dsimp only
          cases hhash : hashPassword settings.bcrypt password salt with
          | none => exact Keeping.fail (Or.inl hunwritten)
          | some hashed =>
              refine ⟨⟨password, salt, hcall, hhash⟩, fun userId => ?_, fun error => ?_⟩
              · generalize hhistory : _ ++ [Executed.wrote _ _] = later
                have hinserted : Inserted username email hashed userId later := by
                  rw [Inserted, ← hhistory]
                  simp
                apply (refreshUser_keeping (Or.inr ⟨_, _, _, hinserted⟩)).bind
                rintro last user hlast ⟨rfl, huser⟩
                apply tokenResponse_keeping (by omega) huser.known
                rw [Authenticated, hcall]
                exact ⟨hashed, hhash, hlast.subset hinserted⟩
              · cases error with
                | integrity =>
                    exact Keeping.raise (by omega) (Or.inl (hunwritten.refused _ _))
                | stale => exact Keeping.fail (Or.inl (hunwritten.refused _ _))

theorem login_keeping {username password : Bytes}
    (hcall : request.call = .login username password) :
    Keeping settings request (Answered settings request) [] (login settings username password) := by
  apply (queryOr_keeping (by omega) Unwritten.nil).bind
  rintro later user - ⟨rows, rfl, hread⟩
  rcases AccountRows.userByUsername_eq_some hread with ⟨hlookup, hname⟩
  by_cases hverify : verifyPassword settings.bcrypt password user.2.hashedPassword = true
  · rw [if_pos hverify]
    apply tokenResponse_keeping (by omega) (SawUser.append _ hlookup).known
    rw [Authenticated, hcall]
    exact Saw.append _ ⟨user.2, hlookup, hname, hverify⟩
  · rw [if_neg hverify]
    exact Keeping.raise (by omega) (Or.inl (Unwritten.nil.read rows))

theorem refreshTokens_keeping (hcall : request.call = .refresh) :
    Keeping settings request (Answered settings request) []
      (refreshTokens settings request.token) := by
  unfold refreshTokens
  cases huser : request.token.userOf "refresh" with
  | none => exact Keeping.raise (by omega) (Or.inl Unwritten.nil)
  | some userId =>
      apply (queryOr_keeping (by omega) Unwritten.nil).bind
      rintro later user - ⟨rows, rfl, hread⟩
      rcases AccountRows.userById_eq_some hread with ⟨rfl, hlookup⟩
      apply tokenResponse_keeping (by omega) (SawUser.append _ hlookup).known
      rw [Authenticated, hcall]
      exact huser

theorem listUsers_keeping (hcall : request.call = .listUsers) :
    Keeping settings request (Answered settings request) []
      (listUsers settings request.token) := by
  apply (getCurrentUser_keeping Unwritten.nil).bind
  rintro first caller - ⟨-, hcaller, -⟩
  apply query_keeping.bind
  rintro later users hlater ⟨rows, rfl, rfl⟩
  intro files
  refine Answered.showing (fun _ _ _ _ hsame => ?_) (fun _ _ _ _ _ hsame => ?_) ?_
    (fun _ _ hsame => ?_)
  · rw [hcall] at hsame
    contradiction
  · contradiction
  · intro profile hprofile
    rcases List.mem_map.mp hprofile with ⟨user, huser, rfl⟩
    rcases List.mem_map.mp (List.mem_mergeSort.mp huser) with ⟨entry, hentry, rfl⟩
    have hlookup := AList.mem_lookup_iff.mpr hentry
    refine ⟨_, files, _, rfl, ?_, rfl⟩
    exact sawUser_loaded (hcaller.later hlater) (SawUser.append _ hlookup)
  · contradiction

theorem getMe_keeping (hcall : request.call = .getMe) :
    Keeping settings request (Answered settings request) [] (getMe settings request.token) := by
  apply (getCurrentUser_keeping Unwritten.nil).bind
  rintro later caller - ⟨-, hsaw, hcaller⟩
  apply meResponse_keeping hsaw hcaller
  simp [hcall]

/-- A display name that the body brings is set. -/
theorem updateProfile_keeping {caller : ℕ × Account} {displayName : Option (Option Bytes)}
    (hcall : ∀ name, displayName = some name →
      request.call = .updateMe (some name) ∨ request.call = .updateUser caller.1 (some name))
    (hcaller : request.caller = some caller.1) (hsaw : SawUser caller history) :
    Keeping settings request (fun later user => user.1 = caller.1 ∧ SawUser user later) history
      (updateProfile caller displayName) := by
  cases displayName with
  | none =>
      rw [updateProfile, Option.getD_none, decide_eq_false (not_not_intro rfl)]
      exact refreshUser_keeping hsaw.known
  | some name => exact commitChange_keeping ⟨hcaller, hcall name rfl⟩ rfl hsaw

theorem updateMe_keeping {displayName : Option (Option Bytes)}
    (hcall : request.call = .updateMe displayName) :
    Keeping settings request (Answered settings request) []
      (updateMe settings request.token displayName) := by
  apply (getCurrentUser_keeping Unwritten.nil).bind
  rintro first caller - ⟨-, hsaw, hcaller⟩
  have hname : ∀ name, displayName = some name →
      request.call = .updateMe (some name) ∨ request.call = .updateUser caller.1 (some name) := by
    rintro name rfl
    exact Or.inl hcall
  apply (updateProfile_keeping hname hcaller hsaw).bind
  rintro later user - ⟨hsame, huser⟩
  apply meResponse_keeping huser (hcaller.trans (congrArg some hsame.symm))
  simp [hcall]

theorem lookupUser_keeping {username : Bytes} (hcall : request.call = .lookupUser username) :
    Keeping settings request (Answered settings request) []
      (lookupUser settings request.token username) := by
  apply (getCurrentUser_keeping Unwritten.nil).bind
  rintro first caller - ⟨hunwritten, hcaller, -⟩
  apply (queryOr_keeping (by omega) hunwritten).bind
  rintro later user hlater ⟨rows, rfl, hread⟩
  have hlookup := (AccountRows.userByUsername_eq_some hread).1
  apply userResponse_keeping (sawUser_loaded (hcaller.later hlater) (SawUser.append _ hlookup))
  simp [hcall]

theorem getAvatar_keeping {userId : ℕ} (hcall : request.call = .getAvatar userId) :
    Keeping settings request (Answered settings request) [] (getAvatar settings userId) := by
  apply (queryOr_keeping (by omega) Unwritten.nil).bind
  rintro first user - ⟨rows, rfl, -⟩
  have hunwritten := Unwritten.nil.read rows
  apply (queryOr_keeping (by omega) hunwritten).bind
  rintro second path - ⟨files, rfl, -⟩
  apply (refresh_keeping (hunwritten.read files)).bind
  rintro last content - ⟨contents, rfl, -⟩
  refine Answered.showing (fun _ _ _ _ hsame => ?_) (fun _ _ _ _ _ hsame => ?_)
    (fun _ hprofile => ?_) (fun _ _ hsame => ?_)
  · rw [hcall] at hsame
    contradiction
  · contradiction
  · contradiction
  · contradiction

/-- The avatar is written, and the column of the caller after it. -/
theorem storeAvatar_keeping {caller : ℕ × Account} {ext content : Bytes}
    (huploads : Uploads request caller.1 ext content) (hunwritten : Unwritten history)
    (hsaw : SawUser caller history) :
    Keeping settings request (Answered settings request) history
      (storeAvatar settings caller ext content) := by
  have hfile : Permitted settings request history
      (.writeFile (avatarFile settings.dataDir caller.1 ext) content) :=
    ⟨caller.1, ext, huploads, rfl⟩
  refine ⟨hfile, fun value => ?_, fun error => Keeping.fail (Or.inl (hunwritten.refused _ error))⟩
  generalize hhistory : history ++ [Executed.wrote _ value] = written
  have hwritten : .wrote (.writeFile (avatarFile settings.dataDir caller.1 ext) content) value ∈
      written := by
    rw [← hhistory]
    exact List.mem_append_right _ (List.mem_singleton_self _)
  have hlater : SawUser caller written := by
    rw [← hhistory]
    exact hsaw.later (List.prefix_append _ _)
  have hwrite : Permitted settings request written
      (.setAvatarUrl caller.1 (avatarUrl caller.1 ext)) :=
    ⟨ext, content, value, huploads, rfl, hwritten⟩
  apply (commitChange_keeping hwrite rfl hlater).bind
  rintro later user - ⟨-, huser⟩
  apply userResponse_keeping huser
  rcases huploads with ⟨-, -, -, -, contentType, hcall⟩
  simp [hcall]

theorem uploadAvatar_keeping {userId : ℕ} {contentType : Option String} {content : Bytes}
    (hcall : request.call = .uploadAvatar userId contentType content) :
    Keeping settings request (Answered settings request) []
      (uploadAvatar settings request.token userId contentType content) := by
  apply (getCurrentUser_keeping Unwritten.nil).bind
  rintro first caller - ⟨hunwritten, hsaw, hcaller⟩
  have hraise : ∀ {status detail}, 400 ≤ status →
      Keeping settings request (Answered settings request) first (raise status detail) :=
    fun hstatus => Keeping.raise hstatus (Or.inl hunwritten)
  by_cases hself : caller.1 = userId
  · rw [if_neg (not_not_intro hself)]
    by_cases htype : contentType ∉ allowedImageTypes.map some
    · rw [if_pos htype]
      exact hraise (by omega)
    · rw [if_neg htype]
      by_cases hempty : content = []
      · rw [if_pos hempty]
        exact hraise (by omega)
      · rw [if_neg hempty]
        by_cases hlarge : maxAvatarBytes < content.length
        · rw [if_pos hlarge]
          exact hraise (by omega)
        · rw [if_neg hlarge]
          cases hext : contentType.bind fun type => extMap.lookup type with
          | none => exact Keeping.fail (Or.inl hunwritten)
          | some ext =>
              rcases Option.bind_eq_some_iff.mp hext with ⟨type, -, hlookup⟩
              have huploads : Uploads request caller.1 ext content :=
                ⟨hcaller, mem_extensions hlookup, hempty, not_lt.mp hlarge, contentType,
                  hself ▸ hcall⟩
              exact storeAvatar_keeping huploads hunwritten hsaw
  · rw [if_pos hself]
    exact hraise (by omega)

theorem updateUser_keeping {userId : ℕ} {displayName : Option (Option Bytes)}
    (hcall : request.call = .updateUser userId displayName) :
    Keeping settings request (Answered settings request) []
      (updateUser settings request.token userId displayName) := by
  apply (getCurrentUser_keeping Unwritten.nil).bind
  rintro first caller - ⟨hunwritten, hsaw, hcaller⟩
  by_cases hself : caller.1 = userId
  · rw [if_neg (not_not_intro hself)]
    have hname : ∀ name, displayName = some name → request.call = .updateMe (some name) ∨
        request.call = .updateUser caller.1 (some name) := by
      rintro name rfl
      exact Or.inr (hself ▸ hcall)
    apply (updateProfile_keeping hname hcaller hsaw).bind
    rintro later user - ⟨-, huser⟩
    apply userResponse_keeping huser
    simp [hcall]
  · rw [if_pos hself]
    exact Keeping.raise (by omega) (Or.inl hunwritten)

theorem getUser_keeping {userId : ℕ} (hcall : request.call = .getUser userId) :
    Keeping settings request (Answered settings request) []
      (getUser settings request.token userId) := by
  apply (getCurrentUser_keeping Unwritten.nil).bind
  rintro first caller - ⟨hunwritten, hcaller, -⟩
  apply (queryOr_keeping (by omega) hunwritten).bind
  rintro later user hlater ⟨rows, rfl, hread⟩
  have hlookup := (AccountRows.userById_eq_some hread).2
  apply userResponse_keeping (sawUser_loaded (hcaller.later hlater) (SawUser.append _ hlookup))
  simp [hcall]

end

/-- Every route keeps to what is permitted. -/
theorem handler_respects (settings : Settings) (request : Request) :
    Program.Respects (Permitted settings request) (Answered settings request)
      (Answered settings request) [] (handler settings request) := by
  rcases hrequest : request.call with ⟨username, email, password, salt⟩ | ⟨username, password⟩ |
    _ | _ | _ | displayName | username | userId | ⟨userId, contentType, content⟩ |
    ⟨userId, displayName⟩ | userId <;> rw [handler, hrequest]
  case register => exact register_keeping hrequest
  case login => exact login_keeping hrequest
  case refresh => exact refreshTokens_keeping hrequest
  case listUsers => exact listUsers_keeping hrequest
  case getMe => exact getMe_keeping hrequest
  case updateMe => exact updateMe_keeping hrequest
  case lookupUser => exact lookupUser_keeping hrequest
  case getAvatar => exact getAvatar_keeping hrequest
  case uploadAvatar => exact uploadAvatar_keeping hrequest
  case updateUser => exact updateUser_keeping hrequest
  case getUser => exact getUser_keeping hrequest

end Accounts
end Api
end Driscord
