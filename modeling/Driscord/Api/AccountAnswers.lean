import Driscord.Api.AccountsSafety

/-!
# What answers say of accounts

Every answer was true when it was given, and what it says of names and avatars stays
true.  Registrations that succeed get an account each.

Main results:

- Theorem `not_lost`: no request misses a row that it knows of.
- Theorem `Apart.step`: no two requests insert the same account.
- Theorem `answers_true_of_reachable`: profiles stay true, stored avatars are never
  hidden, and a request that fails has written nothing.
- Theorem `registrations_apart_of_reachable`: registrations that succeed have different
  accounts, usernames and email addresses.
-/

namespace Driscord
namespace Api
namespace Accounts

open Library Signaling

section

variable {settings : Settings} {system next : AccountSystem} {action : AccountAction}

/-! ## Profiles -/

/-- Rows of users that a request knows of are found, and a column of theirs can be set. -/
theorem not_misses {dataDir : List Bytes} {before : History} {rows : AccountRows} {userId : ℕ}
    (h : Linked dataDir before rows) (hknown : Known userId before)
    {last : Executed AccountRows AccountWrite ℕ WriteError}
    (hlast : System.ExecutedOn AccountRows.apply rows last) : ¬ Misses userId last := by
  have hmem := h.mem_of_known hknown
  intro hmisses
  cases last with
  | read seen =>
      obtain rfl : seen = rows := hlast
      exact hmisses hmem
  | wrote write value => exact hmisses
  | refused write error =>
      have hfine : rows.refusal write = none := by
        cases write with
        | setDisplayName id displayName =>
            obtain rfl := Option.some.inj hmisses
            exact if_pos hmem
        | setAvatarUrl id url =>
            obtain rfl := Option.some.inj hmisses
            exact if_pos hmem
        | insertUser username email hashedPassword => contradiction
        | writeFile path content => contradiction
      rw [System.ExecutedOn, AccountRows.apply, hfine] at hlast
      contradiction

/-- No request misses a row that it knows of. -/
theorem not_lost (h : Sound settings system) {thread} (hmem : thread ∈ system.running) :
    ¬ Lost thread.history := by
  rintro ⟨before, userId, last, hhistory, hknown, hmisses⟩
  rcases h.appended thread hmem before last hhistory with ⟨rows, hlinked, hlast⟩
  exact not_misses hlinked hknown hlast hmisses

/-- What an answer says of an account. -/
structure ProfileTrue (settings : Settings) (rows : AccountRows) (history : History)
    (profile : Profile) : Prop where
  /-- The username is the one of the account. -/
  username : ∃ account, rows.users.lookup profile.id = some account ∧
    profile.username = account.username
  /-- The other columns were read, and the avatar was not hidden. -/
  columns : ∃ account, SawUser (profile.id, account) history ∧
    profile.displayName = account.displayName ∧ profile.avatarUrl = account.avatarUrl
  /-- The avatar is a file of the account that is there. -/
  avatar : ∀ url, profile.avatarUrl = some url → ∃ ext ∈ extensions,
    url = avatarUrl profile.id ext ∧
      avatarPath settings.dataDir rows.files (some url) =
        some (avatarFile settings.dataDir profile.id ext)

theorem AvatarStored.later {dataDir : List Bytes} {rows later : AccountRows} {id : ℕ}
    {account : Account} (h : AvatarStored dataDir rows id account) (hkeeps : Keeps rows later) :
    AvatarStored dataDir later id account := by
  intro url hurl
  rcases h url hurl with ⟨ext, hext, hsame, hfile⟩
  exact ⟨ext, hext, hsame, hkeeps.files _ hfile⟩

/-- What an answer shows of an account was read, and stays true. -/
theorem Shown.profileTrue {profile : Profile} {thread} (h : Shown settings thread.history profile)
    (hsound : Sound settings system) (hmem : thread ∈ system.running) :
    ProfileTrue settings system.rows thread.history profile := by
  rcases h with ⟨before, files, account, hhistory, hsaw, hprofile⟩
  rcases hsound.appended thread hmem before (.read files) hhistory with ⟨rows, hlinked, hlast⟩
  obtain rfl : files = rows := hlast
  have hlater : SawUser (profile.id, account) thread.history := by
    rw [hhistory]
    exact hsaw.later (List.prefix_append _ _)
  rcases hsaw with ⟨first, hread, hlookup⟩
  rcases hlinked.reads first hread with ⟨hfirst, hkeeps⟩
  have hstored := hfirst.avatars profile.id account hlookup
  have hshown : profile.avatarUrl = account.avatarUrl := by
    rw [hprofile]
    exact availableAvatarUrl_of_stored (hstored.later hkeeps)
  have hsince : Keeps first system.rows := by
    refine (hsound.reads thread hmem first ?_).2
    rw [hhistory]
    exact List.mem_append_left _ hread
  refine ⟨?_, ⟨account, hlater, ?_, hshown⟩, ?_⟩
  · rcases hsince.users profile.id account hlookup with ⟨now, hnow, hsame⟩
    refine ⟨now, hnow, ?_⟩
    rw [hsame.username, hprofile]
    rfl
  · rw [hprofile]
    rfl
  · intro url hurl
    rcases hstored.later hsince url (hshown ▸ hurl) with ⟨ext, hext, rfl, hfile⟩
    exact ⟨ext, hext, rfl, avatarPath_avatarUrl hext hfile⟩

/-- Answers over every run: what they show of an account was read, and its username and
avatar stay true; a request that fails has written nothing. -/
theorem answers_true_of_reachable
    (h : Reachable (Initial settings) (Step settings) system) :
    ∀ thread ∈ system.running, ∀ answer ∈ thread.program.answerOf,
      (answer.Fails → Unwritten thread.history) ∧
        ∀ profile ∈ answer.profiles,
          ProfileTrue settings system.rows thread.history profile := by
  intro thread hmem answer hanswer
  have hsound := sound_of_reachable h
  have hanswered := (hsound.verified thread hmem).answers hanswer
  refine ⟨fun hfails => ?_, fun profile hprofile => ?_⟩
  · exact (hanswered.fails hfails).resolve_right (not_lost hsound hmem)
  · exact (hanswered.shown profile hprofile).profileTrue hsound hmem

theorem sampleSystem_answers_true :
    ∃ thread ∈ sampleSystem.running, ∃ answer ∈ thread.program.answerOf,
      answer.profiles.map Profile.avatarUrl = [some (avatarUrl 1 (text "png"))] ∧
        ∀ profile ∈ answer.profiles,
          ProfileTrue sampleSettings sampleSystem.rows thread.history profile := by
  have hanswered : ((sampleSystem.running[5]?).bind (fun thread => thread.program.answerOf)).map
      (fun answer => answer.profiles.map Profile.avatarUrl) =
        some [some (avatarUrl 1 (text "png"))] := by
    decide +kernel
  rcases Option.map_eq_some_iff.mp hanswered with ⟨answer, hanswer, hprofiles⟩
  rcases Option.bind_eq_some_iff.mp hanswer with ⟨thread, hthread, hanswer⟩
  have hmem := List.mem_of_getElem? hthread
  have htrue := answers_true_of_reachable sampleSystem_reachable thread hmem answer hanswer
  exact ⟨thread, hmem, answer, hanswer, hprofiles, htrue.2⟩

/-! ## Registrations -/

/-- The request has inserted the account. -/
def InsertedBy (userId : ℕ) (history : History) : Prop :=
  ∃ username email hashedPassword, Inserted username email hashedPassword userId history

/-- No two requests have inserted the same account. -/
def Apart (system : AccountSystem) : Prop :=
  ∀ (first second : ℕ) (left right : AccountThread), first ≠ second →
    system.running[first]? = some left → system.running[second]? = some right →
      ∀ userId, InsertedBy userId left.history → ¬ InsertedBy userId right.history

/-- An account that was inserted before, or by this action. -/
theorem insertedBy_act (hact : act settings system action = some next) {index : ℕ} {thread}
    (hthread : next.running[index]? = some thread) {userId : ℕ}
    (h : InsertedBy userId thread.history) :
    (∃ earlier, system.running[index]? = some earlier ∧ InsertedBy userId earlier.history) ∨
      action = .run index ∧ userId = system.rows.nextUser := by
  rcases h with ⟨username, email, hashedPassword, hinserted⟩
  rcases System.act_cases _ _ _ hact with ⟨request, -, rfl⟩ |
    ⟨other, before, after, haction, hbefore, hstatement, hrunning⟩ | ⟨change, -, -⟩
  · rw [List.getElem?_append] at hthread
    split at hthread
    · exact Or.inl ⟨thread, hthread, username, email, hashedPassword, hinserted⟩
    · have hnew := List.mem_singleton.mp (List.mem_of_getElem? hthread)
      rw [hnew] at hinserted
      contradiction
  · rw [hrunning] at hthread
    by_cases hindex : other = index
    · subst hindex
      rw [List.getElem?_set_self (List.getElem?_eq_some_iff.mp hbefore).1] at hthread
      obtain rfl := Option.some.inj hthread
      rcases System.statement_history _ hstatement with ⟨-, last, hhistory, hlast⟩
      rw [Inserted, hhistory] at hinserted
      rcases List.mem_append.mp hinserted with hold | hlatest
      · exact Or.inl ⟨before, hbefore, username, email, hashedPassword, hold⟩
      · rw [← List.mem_singleton.mp hlatest] at hlast
        rcases hlast with ⟨changed, happly⟩
        exact Or.inr ⟨haction, (AccountRows.apply_eq_ok happly).2.1⟩
    · rw [List.getElem?_set_ne hindex] at hthread
      exact Or.inl ⟨thread, hthread, username, email, hashedPassword, hinserted⟩
  · exact change.elim

/-- An account that is inserted is a new one. -/
theorem InsertedBy.ne_nextUser (hsound : Sound settings system) {thread}
    (hmem : thread ∈ system.running) {userId : ℕ} (h : InsertedBy userId thread.history) :
    userId ≠ system.rows.nextUser := by
  rcases h with ⟨username, email, hashedPassword, hinserted⟩
  rcases hsound.writes thread hmem _ _ hinserted with ⟨account, hlookup, -⟩
  exact (hsound.consistent.userKeys userId account hlookup).2.ne

/-- No two requests insert the same account. -/
theorem Apart.step (h : Apart system) (hsound : Sound settings system)
    (hact : act settings system action = some next) : Apart next := by
  intro first second left right hne hleft hright userId hfirst hsecond
  rcases insertedBy_act hact hleft hfirst with ⟨left', hleft', hfirst'⟩ | ⟨haction, huser⟩ <;>
    rcases insertedBy_act hact hright hsecond with ⟨right', hright', hsecond'⟩ | ⟨haction', huser'⟩
  · exact h first second left' right' hne hleft' hright' userId hfirst' hsecond'
  · exact hfirst'.ne_nextUser hsound (List.mem_of_getElem? hleft') huser'
  · exact hsecond'.ne_nextUser hsound (List.mem_of_getElem? hright') huser
  · rw [haction] at haction'
    injection haction' with hindex
    exact hne hindex

theorem apart_of_reachable (h : Reachable (Initial settings) (Step settings) system) :
    Apart system := by
  apply Reachable.invariant _ _ h
  · rintro start hinitial first second left right - hleft
    rw [hinitial.running] at hleft
    contradiction
  · rintro state later hreach hapart ⟨action, -, hact⟩
    exact hapart.step (sound_of_reachable hreach) hact

/-- The request has registered the account with an answer that is no error. -/
def Registers (thread : AccountThread) (username email : Bytes) : Prop :=
  (∃ password salt, thread.request.call = .register username email password salt) ∧
    ∃ answer ∈ thread.program.answerOf, ¬ answer.Fails

/-- A registration that succeeds has inserted its account. -/
theorem Registers.inserted (hsound : Sound settings system) {thread}
    (hmem : thread ∈ system.running) {username email : Bytes}
    (h : Registers thread username email) :
    ∃ userId account, InsertedBy userId thread.history ∧
      system.rows.users.lookup userId = some account ∧
        account.username = username ∧ account.email = email := by
  rcases h with ⟨⟨password, salt, hcall⟩, answer, hanswer, hsuccess⟩
  rcases ((hsound.verified thread hmem).answers hanswer).registered _ _ _ _ hcall hsuccess with
    ⟨userId, hauthenticated⟩
  rw [Authenticated, hcall] at hauthenticated
  rcases hauthenticated with ⟨hashedPassword, -, hinserted⟩
  rcases hsound.writes thread hmem _ _ hinserted with ⟨account, hlookup, hsame⟩
  exact ⟨userId, account, ⟨_, _, _, hinserted⟩, hlookup, hsame.username, hsame.email⟩

/-- Of any number of registrations at the same time, those that succeed have different
accounts, usernames and email addresses, and the accounts stay. -/
theorem registrations_apart_of_reachable
    (h : Reachable (Initial settings) (Step settings) system)
    {first second : ℕ} {left right : AccountThread}
    (hne : first ≠ second) (hleft : system.running[first]? = some left)
    (hright : system.running[second]? = some right) {username email username' email' : Bytes}
    (hfirst : Registers left username email) (hsecond : Registers right username' email') :
    username ≠ username' ∧ email ≠ email' ∧ ∃ userId userId' account account',
      userId ≠ userId' ∧ system.rows.users.lookup userId = some account ∧
        system.rows.users.lookup userId' = some account' ∧ account.username = username ∧
          account'.username = username' := by
  have hsound := sound_of_reachable h
  rcases hfirst.inserted hsound (List.mem_of_getElem? hleft) with
    ⟨userId, account, hinserted, hlookup, rfl, rfl⟩
  rcases hsecond.inserted hsound (List.mem_of_getElem? hright) with
    ⟨userId', account', hinserted', hlookup', rfl, rfl⟩
  have hdifferent : userId ≠ userId' := by
    rintro rfl
    exact apart_of_reachable h first second left right hne hleft hright userId hinserted hinserted'
  refine ⟨fun hsame => ?_, fun hsame => ?_, userId, userId', account, account', hdifferent,
    hlookup, hlookup', rfl, rfl⟩
  · exact hdifferent (hsound.consistent.usernames _ _ _ _ hlookup hlookup' hsame)
  · exact hdifferent (hsound.consistent.emails _ _ _ _ hlookup hlookup' hsame)

/-- A registration of the run that was answered with 201. -/
theorem registers_of_created {index : ℕ} {username email : Bytes}
    (h : (sampleSystem.running[index]?).map (fun thread : AccountThread =>
        (thread.request.call, thread.program.answerOf.map Answer.status)) =
      some (.register username email (text "pw12345") (text "salt"), some 201)) :
    ∃ thread, sampleSystem.running[index]? = some thread ∧ Registers thread username email := by
  rcases Option.map_eq_some_iff.mp h with ⟨thread, hthread, hboth⟩
  rcases Prod.mk.inj hboth with ⟨hcall, hstatus⟩
  rcases Option.map_eq_some_iff.mp hstatus with ⟨answer, hanswer, hstatus⟩
  refine ⟨thread, hthread, ⟨text "pw12345", text "salt", hcall⟩, answer, hanswer, ?_⟩
  rw [Answer.Fails, hstatus]
  omega

theorem sampleSystem_registrations_apart :
    text "alice" ≠ text "bob" ∧ text "a@example.com" ≠ text "b@example.com" ∧
      ∃ userId userId' account account', userId ≠ userId' ∧
        sampleSystem.rows.users.lookup userId = some account ∧
          sampleSystem.rows.users.lookup userId' = some account' ∧
            account.username = text "alice" ∧ account'.username = text "bob" := by
  have hfirst : (sampleSystem.running[0]?).map (fun thread : AccountThread =>
        (thread.request.call, thread.program.answerOf.map Answer.status)) =
      some (.register (text "alice") (text "a@example.com") (text "pw12345") (text "salt"),
        some 201) := by
    decide +kernel
  have hsecond : (sampleSystem.running[2]?).map (fun thread : AccountThread =>
        (thread.request.call, thread.program.answerOf.map Answer.status)) =
      some (.register (text "bob") (text "b@example.com") (text "pw12345") (text "salt"),
        some 201) := by
    decide +kernel
  rcases registers_of_created hfirst with ⟨left, hleft, hleft'⟩
  rcases registers_of_created hsecond with ⟨right, hright, hright'⟩
  exact registrations_apart_of_reachable sampleSystem_reachable (by decide) hleft hright hleft'
    hright'

end

end Accounts
end Api
end Driscord
