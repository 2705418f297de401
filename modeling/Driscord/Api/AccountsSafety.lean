import Driscord.Api.AccountChecks

/-!
# Accounts over all interleavings

Any number of requests run one statement after the other.  Rows of users are never
deleted and avatar files never removed, so what a request has read of them stays true
where it matters: a username, an email address and a password never change.

Main results:

- Theorem `Sound.step`: the invariant of the running requests.
- Theorem `accounts_kept_of_reachable`: usernames and email addresses stay unique, and an
  account or an avatar is changed by a request with its owner's access token only.
- Theorem `tokens_traced_of_reachable`: every token goes back to a registration or a login
  with the password of the account.
- Theorem `answers_true_of_reachable`: what answers say of accounts stays true, and
  failed requests have written nothing.
-/

namespace Driscord
namespace Api
namespace Accounts

open Library Signaling

/-! ## Rows -/

/-- What a registration fixes. -/
structure SameAccount (account later : Account) : Prop where
  username : later.username = account.username
  email : later.email = account.email
  hashedPassword : later.hashedPassword = account.hashedPassword

theorem SameAccount.refl (account : Account) : SameAccount account account :=
  ⟨rfl, rfl, rfl⟩

theorem SameAccount.trans {account later last : Account} (h : SameAccount account later)
    (h' : SameAccount later last) : SameAccount account last where
  username := h'.username.trans h.username
  email := h'.email.trans h.email
  hashedPassword := h'.hashedPassword.trans h.hashedPassword

/-- The column of an avatar names a file of the account that is there. -/
def AvatarStored (dataDir : List Bytes) (rows : AccountRows) (id : ℕ) (account : Account) : Prop :=
  ∀ url, account.avatarUrl = some url →
    ∃ ext ∈ extensions, url = avatarUrl id ext ∧ avatarFile dataDir id ext ∈ rows.files

/-- The unique constraints, primary keys below the next one, and avatars with files. -/
structure Consistent (dataDir : List Bytes) (rows : AccountRows) : Prop where
  nextUser : 0 < rows.nextUser
  userKeys : Table.All (fun id _ => 0 < id ∧ id < rows.nextUser) rows.users
  usernames : Table.Unique Account.username rows.users
  emails : Table.Unique Account.email rows.users
  avatars : Table.All (AvatarStored dataDir rows) rows.users

theorem Consistent.empty (dataDir : List Bytes) : Consistent dataDir {} where
  nextUser := Nat.one_pos
  userKeys := by intro id account hlookup; contradiction
  usernames := by intro first second left right hfirst; contradiction
  emails := by intro first second left right hfirst; contradiction
  avatars := by intro id account hlookup; contradiction

/-- Rows, and what they may have become. -/
structure Keeps (before rows : AccountRows) : Prop where
  users : ∀ id account, before.users.lookup id = some account →
    ∃ later, rows.users.lookup id = some later ∧ SameAccount account later
  files : ∀ path, path ∈ before.files → path ∈ rows.files
  nextUser : before.nextUser ≤ rows.nextUser

theorem Keeps.refl (rows : AccountRows) : Keeps rows rows :=
  ⟨fun _ account hlookup => ⟨account, hlookup, SameAccount.refl account⟩, fun _ hmem => hmem,
    le_rfl⟩

theorem Keeps.trans {before rows later : AccountRows} (h : Keeps before rows)
    (h' : Keeps rows later) : Keeps before later where
  users id account hlookup := by
    rcases h.users id account hlookup with ⟨middle, hmiddle, hsame⟩
    rcases h'.users id middle hmiddle with ⟨last, hlast, hsame'⟩
    exact ⟨last, hlast, hsame.trans hsame'⟩
  files path hmem := h'.files path (h.files path hmem)
  nextUser := h.nextUser.trans h'.nextUser

theorem Keeps.mem {before rows : AccountRows} (h : Keeps before rows) {userId : ℕ}
    (hmem : userId ∈ before.users) : userId ∈ rows.users := by
  rcases Table.mem_iff_exists_lookup.mp hmem with ⟨account, hlookup⟩
  rcases h.users userId account hlookup with ⟨later, hlater, -⟩
  exact Table.mem_of_lookup hlater

/-- Rows that are there keep their fixed columns when one row is modified. -/
theorem keeps_modify (rows : AccountRows) (key : ℕ) {f : Account → Account}
    (hsame : ∀ account, SameAccount account (f account)) :
    Keeps rows { rows with users := Table.modify key f rows.users } where
  users id account hlookup := by
    by_cases hkey : id = key
    · subst hkey
      refine ⟨f account, ?_, hsame account⟩
      rw [Table.lookup_modify_self, hlookup]
      rfl
    · refine ⟨account, ?_, SameAccount.refl account⟩
      rw [Table.lookup_modify_ne _ _ hkey]
      exact hlookup
  files path hmem := hmem
  nextUser := le_rfl

section

variable {dataDir : List Bytes} {rows : AccountRows}

theorem Consistent.lookup_nextUser (h : Consistent dataDir rows) :
    rows.users.lookup rows.nextUser = none := by
  cases hlookup : rows.users.lookup rows.nextUser with
  | none => rfl
  | some account => exact absurd (h.userKeys _ account hlookup).2 (lt_irrefl _)

/-- No write changes what a registration fixes, or removes a row or a file. -/
theorem Keeps.perform (h : Consistent dataDir rows) (write : AccountWrite) :
    Keeps rows (rows.perform write) := by
  cases write with
  | insertUser username email hashedPassword =>
      refine ⟨fun id account hlookup => ⟨account, ?_, SameAccount.refl account⟩,
        fun _ hmem => hmem, Nat.le_succ _⟩
      have hne : id ≠ rows.nextUser := (h.userKeys id account hlookup).2.ne
      exact (AList.lookup_insert_ne hne).trans hlookup
  | setDisplayName id displayName => exact keeps_modify rows id fun _ => ⟨rfl, rfl, rfl⟩
  | setAvatarUrl id url => exact keeps_modify rows id fun _ => ⟨rfl, rfl, rfl⟩
  | writeFile path content =>
      exact ⟨(Keeps.refl rows).users, fun other hmem => (AList.mem_insert _).mpr (Or.inr hmem),
        le_rfl⟩

/-- The file is there before the column of an avatar is set. -/
def Stored (dataDir : List Bytes) (rows : AccountRows) : AccountWrite → Prop
  | .setAvatarUrl id url =>
      ∃ ext ∈ extensions, url = avatarUrl id ext ∧ avatarFile dataDir id ext ∈ rows.files
  | _ => True

/-- Every commit keeps the constraints. -/
theorem Consistent.perform (h : Consistent dataDir rows) {write : AccountWrite}
    (hfine : rows.refusal write = none) (hstored : Stored dataDir rows write) :
    Consistent dataDir (rows.perform write) := by
  cases write with
  | insertUser username email hashedPassword =>
      have hnew : rows.userByUsername username = none ∧ rows.userByEmail email = none := by
        by_contra hcontra
        rw [AccountRows.refusal, if_neg hcontra] at hfine
        contradiction
      refine ⟨Nat.succ_pos _, ?_, ?_, ?_, ?_⟩
      · exact (h.userKeys.mono fun _ _ hkey => ⟨hkey.1, Nat.lt_succ_of_lt hkey.2⟩).insert
          ⟨h.nextUser, Nat.lt_succ_self _⟩
      · exact h.usernames.insert (AccountRows.userByUsername_eq_none_iff.mp hnew.1)
      · exact h.emails.insert (AccountRows.userByEmail_eq_none_iff.mp hnew.2)
      · refine Table.All.insert (fun id account hlookup => h.avatars id account hlookup) ?_
        intro url hurl
        contradiction
  | setDisplayName id displayName =>
      exact ⟨h.nextUser, h.userKeys.modify id fun _ hkey => hkey,
        h.usernames.modify id fun _ => rfl, h.emails.modify id fun _ => rfl,
        h.avatars.modify id fun _ hstored => hstored⟩
  | setAvatarUrl id url =>
      refine ⟨h.nextUser, h.userKeys.modify id fun _ hkey => hkey,
        h.usernames.modify id fun _ => rfl, h.emails.modify id fun _ => rfl,
        h.avatars.modify id fun account _ other hother => ?_⟩
      obtain rfl := Option.some.inj hother
      exact hstored
  | writeFile path content =>
      refine ⟨h.nextUser, h.userKeys, h.usernames, h.emails, ?_⟩
      refine h.avatars.mono fun id account hold url hurl => ?_
      rcases hold url hurl with ⟨ext, hext, hsame, hfile⟩
      exact ⟨ext, hext, hsame, (AList.mem_insert _).mpr (Or.inr hfile)⟩

/-- An avatar that is set is available. -/
theorem availableAvatarUrl_of_stored {id : ℕ} {account : Account}
    (h : AvatarStored dataDir rows id account) :
    availableAvatarUrl dataDir rows.files account.avatarUrl = account.avatarUrl := by
  unfold availableAvatarUrl
  cases hurl : account.avatarUrl with
  | none =>
      split <;> rfl
  | some url =>
      rcases h url hurl with ⟨ext, hext, rfl, hfile⟩
      rw [avatarPath_avatarUrl hext hfile, Option.isSome_some, if_pos rfl]

end

/-! ## The invariant -/

/-- What a committed write leaves in the rows. -/
def Holds (write : AccountWrite) (value : ℕ) (rows : AccountRows) : Prop :=
  match write with
  | .insertUser username email hashedPassword =>
      ∃ account, rows.users.lookup value = some account ∧
        SameAccount { username, email, hashedPassword } account
  | .writeFile path _ => path ∈ rows.files
  | .setDisplayName _ _ | .setAvatarUrl _ _ => True

theorem Holds.later {write : AccountWrite} {value : ℕ} {rows later : AccountRows}
    (h : Holds write value rows) (hkeeps : Keeps rows later) : Holds write value later := by
  cases write with
  | insertUser username email hashedPassword =>
      rcases h with ⟨account, hlookup, hsame⟩
      rcases hkeeps.users value account hlookup with ⟨last, hlast, hsame'⟩
      exact ⟨last, hlast, hsame.trans hsame'⟩
  | writeFile path content => exact hkeeps.files path h
  | setDisplayName id displayName => exact trivial
  | setAvatarUrl id url => exact trivial

theorem Holds.perform (write : AccountWrite) (rows : AccountRows) :
    Holds write (rows.key write) (rows.perform write) := by
  cases write with
  | insertUser username email hashedPassword =>
      exact ⟨_, AList.lookup_insert _, SameAccount.refl _⟩
  | writeFile path content => exact (AList.mem_insert _).mpr (Or.inl rfl)
  | setDisplayName id displayName => exact trivial
  | setAvatarUrl id url => exact trivial

/-- The statements of a request against the rows of now. -/
structure Linked (dataDir : List Bytes) (history : History) (rows : AccountRows) : Prop where
  consistent : Consistent dataDir rows
  reads : ∀ before, .read before ∈ history → Consistent dataDir before ∧ Keeps before rows
  writes : ∀ write value, .wrote write value ∈ history → Holds write value rows

/-- What every run keeps. -/
structure Sound (settings : Settings) (system : AccountSystem) : Prop where
  consistent : Consistent settings.dataDir system.rows
  verified : ∀ thread ∈ system.running,
    System.Verified (Permitted settings) (Answered settings) thread
  reads : ∀ thread ∈ system.running, ∀ before, .read before ∈ thread.history →
    Consistent settings.dataDir before ∧ Keeps before system.rows
  writes : ∀ thread ∈ system.running, ∀ write value, .wrote write value ∈ thread.history →
    Holds write value system.rows
  appended : ∀ thread ∈ system.running, ∀ before last, thread.history = before ++ [last] →
    ∃ rows, Linked settings.dataDir before rows ∧
      System.ExecutedOn AccountRows.apply rows last

/-- No request has arrived yet. -/
structure Initial (settings : Settings) (system : AccountSystem) : Prop where
  running : system.running = []
  consistent : Consistent settings.dataDir system.rows

section

variable {settings : Settings} {system next : AccountSystem} {action : AccountAction}

theorem Initial.sound (h : Initial settings system) : Sound settings system := by
  refine ⟨h.consistent, ?_, ?_, ?_, ?_⟩ <;>
  · intro thread hmem
    rw [h.running] at hmem
    contradiction

theorem Sound.linked (h : Sound settings system) {thread} (hmem : thread ∈ system.running) :
    Linked settings.dataDir thread.history system.rows :=
  ⟨h.consistent, h.reads thread hmem, h.writes thread hmem⟩

/-- The file of an avatar is there when its column is set. -/
theorem Sound.stored (h : Sound settings system) {thread} (hmem : thread ∈ system.running)
    {write : AccountWrite} (hwrite : Permitted settings thread.request thread.history write) :
    Stored settings.dataDir system.rows write := by
  cases write with
  | setAvatarUrl id url =>
      rcases hwrite with ⟨ext, content, value, huploads, rfl, hwrote⟩
      exact ⟨ext, huploads.2.1, rfl, h.writes thread hmem _ _ hwrote⟩
  | _ => exact trivial

/-- The rows change by a permitted commit only. -/
theorem Sound.rows_cases (h : Sound settings system)
    (hact : act settings system action = some next) :
    next.rows = system.rows ∨ ∃ index thread write, action = .run index ∧
      system.running[index]? = some thread ∧ thread ∈ system.running ∧
        Permitted settings thread.request thread.history write ∧
          system.rows.refusal write = none ∧ next.rows = system.rows.perform write := by
  rcases System.rows_act _ _ _ hact with hsame |
    ⟨index, thread, write, rest, value, haction, hthread, hprogram, happly⟩ | ⟨change, -, -⟩
  · exact Or.inl hsame
  · have hmem := List.mem_of_getElem? hthread
    rcases AccountRows.apply_eq_ok happly with ⟨hfine, -, hrows⟩
    exact Or.inr ⟨index, thread, write, haction, hthread, hmem,
      (h.verified thread hmem).permits hprogram, hfine, hrows⟩
  · exact change.elim

theorem Sound.keeps (h : Sound settings system) (hact : act settings system action = some next) :
    Keeps system.rows next.rows := by
  rcases h.rows_cases hact with hsame | ⟨index, thread, write, -, -, -, -, -, hrows⟩
  · rw [hsame]
    exact Keeps.refl _
  · rw [hrows]
    exact Keeps.perform h.consistent write

theorem Sound.consistent_step (h : Sound settings system)
    (hact : act settings system action = some next) :
    Consistent settings.dataDir next.rows := by
  rcases h.rows_cases hact with hsame | ⟨index, thread, write, -, -, hmem, hwrite, hfine, hrows⟩
  · rw [hsame]
    exact h.consistent
  · rw [hrows]
    exact h.consistent.perform hfine (h.stored hmem hwrite)

/-- Every action keeps the invariant. -/
theorem Sound.step (h : Sound settings system) (hact : act settings system action = some next) :
    Sound settings next := by
  have hkeeps := h.keeps hact
  refine ⟨h.consistent_step hact,
    System.respects_step _ _ _ (handler_respects settings) hact h.verified, ?_, ?_,
    System.appended_step _ _ _ (Linked settings.dataDir) hact (fun _ hmem => h.linked hmem)
      h.appended⟩
  · apply System.reads_step _ _ _
      (fun before rows => Consistent settings.dataDir before ∧ Keeps before rows) hact
      ⟨h.consistent, Keeps.refl _⟩ _ h.reads
    intro thread hmem before hread hold
    exact ⟨hold.1, hold.2.trans hkeeps⟩
  · apply System.writes_step _ _ _ Holds hact _ _ h.writes
    · intro write value happly
      rcases AccountRows.apply_eq_ok happly with ⟨-, rfl, hrows⟩
      rw [hrows]
      exact Holds.perform write system.rows
    · exact fun write value hold => hold.later hkeeps

theorem sound_of_reachable (h : Reachable (Initial settings) (Step settings) system) :
    Sound settings system := by
  apply Reachable.invariant (fun _ hinitial => hinitial.sound) _ h
  rintro state later - hsound ⟨action, -, hact⟩
  exact hsound.step hact

end

/-! ## Alice and Bob -/

/-- Hashes that are not secret. -/
def plainBcrypt : Bcrypt where
  hashpw password salt := some (salt ++ 36 :: password)
  checkpw password hashed := some (decide (hashed.dropWhile (· ≠ 36) = 36 :: password))

/-- Settings for two users. -/
def sampleSettings : Settings where
  bcrypt := plainBcrypt
  dataDir := [text "data"]
  collate first second := decide (first ≤ second)

/-- The registration of a user. -/
def registering (username email : String) : AccountAction :=
  .arrive { call := .register (text username) (text email) (text "pw12345") (text "salt") }

/-- A request with the access token of a user. -/
def asking (userId : ℕ) (call : Call) : AccountAction :=
  .arrive { token := createAccessToken userId, call }

/-- Two requests want the same username at once; its owner logs in, uploads an avatar
and looks at the result. -/
def sampleSystem : AccountSystem :=
  (execute Genuine (act sampleSettings) { rows := {} }
    ([registering "alice" "a@example.com", registering "alice" "other@example.com",
        registering "bob" "b@example.com"] ++
      [0, 1, 0, 1, 0, 1, 0, 0, 2, 2, 2, 2, 2].map (SystemAction.run ·) ++
      [.arrive { call := .login (text "alice") (text "pw12345") }, .run 3, .run 3,
        asking 1 (.uploadAvatar 1 (some "image/png") [137, 80])] ++
      List.replicate 5 (.run 4) ++ [asking 1 .getMe, .run 5, .run 5])).getD { rows := {} }

theorem sampleSystem_reachable :
    Reachable (Initial sampleSettings) (Step sampleSettings) sampleSystem :=
  Reachable.execute (fun _ action _ hgenuine hact => ⟨action, hgenuine, hact⟩)
    (Reachable.start ⟨rfl, Consistent.empty _⟩) (execute_eq_some_getD (by decide +kernel))

example : sampleSystem.running.map (fun thread => thread.program.answerOf.map Answer.status) =
    [some 201, some 409, some 201, some 200, some 200, some 200] := by
  decide +kernel

/-! ## Who changes an account -/

/-- The action runs a request that satisfies a condition. -/
def RunsRequest (system : AccountSystem) (action : AccountAction) (condition : Request → Prop) :
    Prop :=
  ∃ index thread, action = .run index ∧ system.running[index]? = some thread ∧
    condition thread.request

/-- What one action may do to accounts and avatars. -/
structure StepAuthorised (settings : Settings) (system : AccountSystem) (action : AccountAction)
    (next : AccountSystem) : Prop where
  kept : ∀ id account, system.rows.users.lookup id = some account →
    ∃ later, next.rows.users.lookup id = some later ∧ SameAccount account later ∧
      (later = account ∨ RunsRequest system action fun request => request.caller = some id)
  added : ∀ id account, next.rows.users.lookup id = some account →
    id ∈ system.rows.users ∨ RunsRequest system action fun request =>
      ∃ password salt, request.call = .register account.username account.email password salt ∧
        hashPassword settings.bcrypt password salt = some account.hashedPassword
  files : ∀ path content, next.rows.files.lookup path = some content →
    system.rows.files.lookup path = some content ∨
      ∃ id ext, path = avatarFile settings.dataDir id ext ∧
        RunsRequest system action fun request => Uploads request id ext content

section

variable {settings : Settings} {system next : AccountSystem} {action : AccountAction}

/-- Nothing changes. -/
theorem StepAuthorised.of_eq (h : next.rows = system.rows) :
    StepAuthorised settings system action next where
  kept _ account hlookup :=
    ⟨account, h.symm ▸ hlookup, SameAccount.refl account, Or.inl rfl⟩
  added _ _ hlookup := Or.inl (Table.mem_of_lookup (h ▸ hlookup))
  files _ _ hlookup := Or.inl (h ▸ hlookup)

/-- A column of the caller is set. -/
theorem StepAuthorised.of_modify {key : ℕ} {f : Account → Account}
    (hsame : ∀ account, SameAccount account (f account))
    (hcaller : RunsRequest system action fun request => request.caller = some key)
    (h : next.rows = { system.rows with users := Table.modify key f system.rows.users }) :
    StepAuthorised settings system action next where
  kept id account hlookup := by
    by_cases hkey : id = key
    · subst hkey
      refine ⟨f account, ?_, hsame account, Or.inr hcaller⟩
      rw [h, Table.lookup_modify_self, hlookup]
      rfl
    · refine ⟨account, ?_, SameAccount.refl account, Or.inl rfl⟩
      rw [h, Table.lookup_modify_ne _ _ hkey]
      exact hlookup
  added id account hlookup := by
    rw [h] at hlookup
    exact Or.inl ((Table.mem_modify _ _ _ _).mp (Table.mem_of_lookup hlookup))
  files path content hlookup := by
    rw [h] at hlookup
    exact Or.inl hlookup

/-- Only the owner's token changes an account, and only a registration adds one. -/
theorem Sound.authorised (h : Sound settings system)
    (hact : act settings system action = some next) :
    StepAuthorised settings system action next := by
  rcases h.rows_cases hact with
    hsame | ⟨index, thread, write, haction, hthread, -, hwrite, -, hrows⟩
  · exact StepAuthorised.of_eq hsame
  · have hruns : ∀ condition : Request → Prop, condition thread.request →
        RunsRequest system action condition :=
      fun condition hcondition => ⟨index, thread, haction, hthread, hcondition⟩
    cases write with
    | insertUser username email hashedPassword =>
        refine ⟨fun id account hlookup => ?_, fun id account hlookup => ?_,
          fun path content hlookup => ?_⟩
        · have hne : id ≠ system.rows.nextUser := (h.consistent.userKeys id account hlookup).2.ne
          refine ⟨account, ?_, SameAccount.refl account, Or.inl rfl⟩
          rw [hrows]
          exact (AList.lookup_insert_ne hne).trans hlookup
        · rw [hrows] at hlookup
          rcases Table.lookup_insert_cases hlookup with ⟨-, rfl⟩ | ⟨-, hold⟩
          · exact Or.inr (hruns _ hwrite)
          · exact Or.inl (Table.mem_of_lookup hold)
        · rw [hrows] at hlookup
          exact Or.inl hlookup
    | setDisplayName id displayName =>
        exact StepAuthorised.of_modify (f := fun account => { account with displayName })
          (fun _ => ⟨rfl, rfl, rfl⟩) (hruns _ hwrite.1) hrows
    | setAvatarUrl id url =>
        rcases hwrite with ⟨ext, content, value, huploads, -, -⟩
        exact StepAuthorised.of_modify (f := fun account => { account with avatarUrl := some url })
          (fun _ => ⟨rfl, rfl, rfl⟩) (hruns _ huploads.1) hrows
    | writeFile path content =>
        rcases hwrite with ⟨id, ext, huploads, rfl⟩
        refine ⟨fun id account hlookup => ?_, fun id account hlookup => ?_,
          fun other found hlookup => ?_⟩
        · refine ⟨account, ?_, SameAccount.refl account, Or.inl rfl⟩
          rw [hrows]
          exact hlookup
        · rw [hrows] at hlookup
          exact Or.inl (Table.mem_of_lookup hlookup)
        · rw [hrows] at hlookup
          rcases Table.lookup_insert_cases hlookup with ⟨rfl, rfl⟩ | ⟨-, hold⟩
          · exact Or.inr ⟨id, ext, rfl, hruns _ huploads⟩
          · exact Or.inl hold

/-- Accounts over every run: the constraints hold, rows and files stay, and an account or
an avatar is changed by a request with its owner's access token only. -/
theorem accounts_kept_of_reachable
    (h : Reachable (Initial settings) (Step settings) system) :
    Consistent settings.dataDir system.rows ∧
      ∀ action next, act settings system action = some next →
        StepAuthorised settings system action next :=
  ⟨(sound_of_reachable h).consistent, fun _ _ hact => (sound_of_reachable h).authorised hact⟩

theorem sampleSystem_accounts_kept :
    (sampleSystem.rows.users.lookup 1).bind Account.avatarUrl =
        some (avatarUrl 1 (text "png")) ∧
      Consistent sampleSettings.dataDir sampleSystem.rows :=
  ⟨by decide +kernel, (accounts_kept_of_reachable sampleSystem_reachable).1⟩

/-! ## Where tokens come from -/

/-- The request has inserted the account, or brought its password. -/
def Proves (settings : Settings) (userId : ℕ) (account : Account) (call : Call)
    (history : History) : Prop :=
  (∃ password salt, call = .register account.username account.email password salt ∧
      hashPassword settings.bcrypt password salt = some account.hashedPassword ∧
        Inserted account.username account.email account.hashedPassword userId history) ∨
    ∃ password, call = .login account.username password ∧
      verifyPassword settings.bcrypt password account.hashedPassword = true

theorem Proves.later {userId : ℕ} {account last : Account} {call : Call} {history later : History}
    (h : Proves settings userId account call history) (hlater : history <+: later)
    (hsame : SameAccount account last) : Proves settings userId last call later := by
  rw [Proves, hsame.username, hsame.email, hsame.hashedPassword]
  rcases h with ⟨password, salt, hcall, hhash, hinserted⟩ | hlogin
  · exact Or.inl ⟨password, salt, hcall, hhash, hlater.subset hinserted⟩
  · exact Or.inr hlogin

/-- Some request has proved to be the user's. -/
def Origin (settings : Settings) (system : AccountSystem) (userId : ℕ) : Prop :=
  ∃ account, system.rows.users.lookup userId = some account ∧
    ∃ thread ∈ system.running, Proves settings userId account thread.request.call thread.history

theorem Origin.later {userId : ℕ} (h : Origin settings system userId)
    (hsound : Sound settings system) (hact : act settings system action = some next) :
    Origin settings next userId := by
  rcases h with ⟨account, hlookup, thread, hmem, hproves⟩
  rcases (hsound.keeps hact).users userId account hlookup with ⟨last, hlast, hsame⟩
  rcases System.later_act _ _ _ hact hmem with ⟨later, hlater, hrequest, hprefix⟩
  refine ⟨last, hlast, later, hlater, ?_⟩
  rw [hrequest]
  exact hproves.later hprefix hsame

theorem Issued.later {payload : Payload} (h : Issued system payload)
    (hact : act settings system action = some next) : Issued next payload := by
  rcases h with ⟨thread, hmem, answer, hanswer, htoken⟩
  exact ⟨thread, System.answered_act _ _ _ hact hmem hanswer, answer, hanswer, htoken⟩

/-- What the tokens of the requests go back to. -/
structure Traced (settings : Settings) (system : AccountSystem) : Prop where
  issued : ∀ thread ∈ system.running,
    thread.request.token = {} ∨ Issued system thread.request.token
  origin : ∀ thread ∈ system.running, ∀ type userId,
    thread.request.token.userOf type = some userId → Origin settings system userId

/-- A user that a request knows of is still there. -/
theorem Linked.mem_of_known {dataDir : List Bytes} {history : History} {rows : AccountRows}
    (h : Linked dataDir history rows) {userId : ℕ} (hknown : Known userId history) :
    userId ∈ rows.users := by
  rcases hknown with ⟨before, hread, hmem⟩ | ⟨username, email, hashedPassword, hinserted⟩
  · exact (h.reads before hread).2.mem hmem
  · rcases h.writes _ _ hinserted with ⟨account, hlookup, -⟩
    exact Table.mem_of_lookup hlookup

/-- A request that has authenticated a user goes back to a proof. -/
theorem origin_of_authenticated (hsound : Sound settings system) (htraced : Traced settings system)
    {thread} (hmem : thread ∈ system.running) {userId : ℕ}
    (h : Authenticated settings thread.request thread.history userId) :
    Origin settings system userId := by
  unfold Authenticated at h
  cases hcall : thread.request.call with
  | register username email password salt =>
      rw [hcall] at h
      rcases h with ⟨hashedPassword, hhash, hinserted⟩
      rcases hsound.writes thread hmem _ _ hinserted with ⟨account, hlookup, hsame⟩
      refine ⟨account, hlookup, thread, hmem, Or.inl ⟨password, salt, ?_⟩⟩
      rw [hsame.username, hsame.email, hsame.hashedPassword]
      exact ⟨hcall, hhash, hinserted⟩
  | login username password =>
      rw [hcall] at h
      rcases h with ⟨before, hread, account, hlookup, hname, hverify⟩
      rcases (hsound.reads thread hmem before hread).2.users userId account hlookup with
        ⟨later, hlater, hsame⟩
      refine ⟨later, hlater, thread, hmem, Or.inr ⟨password, ?_⟩⟩
      rw [hsame.username, hsame.hashedPassword, hname]
      exact ⟨hcall, hverify⟩
  | refresh =>
      rw [hcall] at h
      exact htraced.origin thread hmem "refresh" userId h
  | _ =>
      rw [hcall] at h
      contradiction

/-- A token that was handed out is one of a user who has proved to be it. -/
theorem Traced.of_issued (h : Traced settings system) (hsound : Sound settings system)
    {payload : Payload} (hissued : Issued system payload) :
    ∃ userId, 0 < userId ∧
      (payload = createAccessToken userId ∨ payload = createRefreshToken userId) ∧
        Origin settings system userId := by
  rcases hissued with ⟨thread, hmem, answer, hanswer, htoken⟩
  have hanswered := (hsound.verified thread hmem).answers hanswer
  cases hbody : answer.body with
  | tokens access refresh userId avatarUrl displayName =>
      rcases hanswered.tokens _ _ _ _ _ hbody with ⟨rfl, rfl, hauthenticated, hknown⟩
      have huser := (hsound.linked hmem).mem_of_known hknown
      rcases Table.mem_iff_exists_lookup.mp huser with ⟨account, hlookup⟩
      refine ⟨userId, (hsound.consistent.userKeys userId account hlookup).1, ?_,
        origin_of_authenticated hsound h hmem hauthenticated⟩
      rw [Answer.tokens, hbody] at htoken
      simpa using htoken
  | _ =>
      rw [Answer.tokens, hbody] at htoken
      contradiction

/-- The user of a token that was handed out. -/
theorem origin_of_userOf (h : Traced settings system) (hsound : Sound settings system)
    {payload : Payload} (hissued : Issued system payload) {type : String} {userId : ℕ}
    (huser : payload.userOf type = some userId) :
    payload = ⟨some (decimal userId), some type⟩ ∧ Origin settings system userId := by
  rcases h.of_issued hsound hissued with ⟨owner, hpos, hpayload, horigin⟩
  have hform : ∃ kind, payload = ⟨some (decimal owner), some kind⟩ := by
    rcases hpayload with rfl | rfl
    · exact ⟨"access", rfl⟩
    · exact ⟨"refresh", rfl⟩
  rcases hform with ⟨kind, rfl⟩
  rw [userOf_decimal hpos] at huser
  split at huser
  case isTrue hkind =>
    obtain rfl := Option.some.inj huser
    exact ⟨by rw [hkind], horigin⟩
  case isFalse => contradiction

theorem Initial.traced (h : Initial settings system) : Traced settings system := by
  refine ⟨?_, ?_⟩ <;>
  · intro thread hmem
    rw [h.running] at hmem
    contradiction

/-- Every action keeps what tokens go back to. -/
theorem Traced.step (h : Traced settings system) (hsound : Sound settings system)
    (hgenuine : Genuine system action) (hact : act settings system action = some next) :
    Traced settings next := by
  have hnew : ∀ thread ∈ next.running, (∃ earlier ∈ system.running,
      thread.request = earlier.request) ∨
        (thread.request.token = {} ∨ Issued system thread.request.token) := by
    intro thread hmem
    rcases System.act_cases _ _ _ hact with ⟨request, rfl, rfl⟩ |
      ⟨index, before, after, -, hbefore, hstatement, hrunning⟩ | ⟨change, -, -⟩
    · rcases List.mem_append.mp hmem with hmem | hmem
      · exact Or.inl ⟨thread, hmem, rfl⟩
      · rw [List.mem_singleton.mp hmem]
        exact Or.inr hgenuine
    · rw [hrunning] at hmem
      rcases List.mem_or_eq_of_mem_set hmem with hmem | rfl
      · exact Or.inl ⟨thread, hmem, rfl⟩
      · exact Or.inl ⟨before, List.mem_of_getElem? hbefore,
          (System.statement_history _ hstatement).1⟩
    · exact change.elim
  refine ⟨fun thread hmem => ?_, fun thread hmem type userId huser => ?_⟩
  · have htoken : thread.request.token = {} ∨ Issued system thread.request.token := by
      rcases hnew thread hmem with ⟨earlier, hearlier, hrequest⟩ | htoken
      · rw [hrequest]
        exact h.issued earlier hearlier
      · exact htoken
    exact htoken.imp_right fun hissued => hissued.later hact
  · rcases hnew thread hmem with ⟨earlier, hearlier, hrequest⟩ | htoken | hissued
    · rw [hrequest] at huser
      exact (h.origin earlier hearlier type userId huser).later hsound hact
    · rw [htoken, Payload.userOf] at huser
      contradiction
    · exact (origin_of_userOf h hsound hissued huser).2.later hsound hact

theorem traced_of_reachable (h : Reachable (Initial settings) (Step settings) system) :
    Traced settings system := by
  apply Reachable.invariant (fun _ hinitial => hinitial.traced) _ h
  rintro state later hreach htraced ⟨action, hgenuine, hact⟩
  exact htraced.step (sound_of_reachable hreach) hgenuine hact

/-- The access token of a caller was handed out to a user who had proved to be it. -/
theorem caller_of_traced (h : Traced settings system) (hsound : Sound settings system) {thread}
    (hmem : thread ∈ system.running) {userId : ℕ} (hcaller : thread.request.caller = some userId) :
    thread.request.token = createAccessToken userId ∧ Issued system thread.request.token ∧
      Origin settings system userId := by
  rcases h.issued thread hmem with htoken | hissued
  · rw [Request.caller, htoken, Payload.userOf] at hcaller
    contradiction
  · rcases origin_of_userOf h hsound hissued hcaller with ⟨htoken, horigin⟩
    exact ⟨htoken, hissued, horigin⟩

/-- Tokens over every run: one that was handed out, or by which a request acts, goes back
to a registration of its user or a login with the password, refresh tokens act for nobody,
and an email address is shown to its owner only. -/
theorem tokens_traced_of_reachable
    (h : Reachable (Initial settings) (Step settings) system) :
    (∀ payload, Issued system payload → ∃ userId,
      (payload = createAccessToken userId ∨ payload = createRefreshToken userId) ∧
        Origin settings system userId) ∧
    (∀ thread ∈ system.running, ∀ userId, thread.request.caller = some userId →
      thread.request.token = createAccessToken userId ∧ Issued system thread.request.token ∧
        Origin settings system userId) ∧
    ∀ thread ∈ system.running, ∀ answer ∈ thread.program.answerOf, ∀ profile email,
      answer.body = .me profile email →
        thread.request.token = createAccessToken profile.id ∧
          ∃ account, system.rows.users.lookup profile.id = some account ∧
            account.email = email := by
  have hsound := sound_of_reachable h
  have htraced := traced_of_reachable h
  refine ⟨fun payload hissued => ?_, fun thread hmem userId hcaller => ?_,
    fun thread hmem answer hanswer profile email hbody => ?_⟩
  · rcases htraced.of_issued hsound hissued with ⟨userId, -, hpayload, horigin⟩
    exact ⟨userId, hpayload, horigin⟩
  · exact caller_of_traced htraced hsound hmem hcaller
  · have hanswered := (hsound.verified thread hmem).answers hanswer
    rcases hanswered.email profile email hbody with ⟨hcaller, seen, hsaw, rfl⟩
    refine ⟨(caller_of_traced htraced hsound hmem hcaller).1, ?_⟩
    rcases hsaw with ⟨before, hread, hlookup⟩
    rcases (hsound.reads thread hmem before hread).2.users profile.id seen hlookup with
      ⟨account, haccount, hsame⟩
    exact ⟨account, haccount, hsame.email⟩

theorem sampleSystem_tokens_traced :
    Issued sampleSystem (createRefreshToken 2) ∧ Origin sampleSettings sampleSystem 1 := by
  have hcaller : (sampleSystem.running[4]?).bind (fun thread => thread.request.caller) =
      some 1 := by
    decide +kernel
  rcases Option.bind_eq_some_iff.mp hcaller with ⟨thread, hthread, hcaller⟩
  have htraced := (tokens_traced_of_reachable sampleSystem_reachable).2.1 thread
    (List.mem_of_getElem? hthread) 1 hcaller
  exact ⟨by decide +kernel, htraced.2.2⟩

end

end Accounts
end Api
end Driscord
