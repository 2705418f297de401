import Driscord.Api.Handlers

/-!
# What a handler has checked

Every commit of a handler follows reads of the same request that justify it, and
an answer with 200 to the question for channel access follows a read of the
membership.  A request that answers with an error has committed nothing, unless the
row that it committed was gone when it read it back.

The reads are of earlier moments; what still holds of them later is shown
elsewhere.

Main results:

- Theorem `handler_respects`: every handler keeps to `Permitted` and `Answered`.
-/

namespace Driscord
namespace Api

open Library

/-- The statements that a request has executed. -/
abbrev History := List (Executed Rows Write ℕ WriteError)

/-- A statement of the request has read rows that satisfy a condition. -/
def Saw (condition : Rows → Prop) (history : History) : Prop :=
  ∃ rows, .read rows ∈ history ∧ condition rows

theorem Saw.later {condition : Rows → Prop} {history later : History} (h : Saw condition history)
    (hlater : history <+: later) : Saw condition later := by
  rcases h with ⟨rows, hmem, hrows⟩
  exact ⟨rows, hlater.subset hmem, hrows⟩

theorem Saw.imp {condition condition' : Rows → Prop} {history : History}
    (h : Saw condition history) (himp : ∀ rows, condition rows → condition' rows) :
    Saw condition' history := by
  rcases h with ⟨rows, hmem, hrows⟩
  exact ⟨rows, hmem, himp rows hrows⟩

/-- The request has committed nothing. -/
def Unwritten (history : History) : Prop :=
  ∀ write id, .wrote write id ∉ history

theorem Unwritten.nil : Unwritten [] :=
  fun _ _ => List.not_mem_nil

theorem Unwritten.read {history : History} (h : Unwritten history) (rows : Rows) :
    Unwritten (history ++ [.read rows]) := by
  intro write id hmem
  rcases List.mem_append.mp hmem with hmem | hmem
  · exact h write id hmem
  · have hsame := List.mem_singleton.mp hmem
    contradiction

theorem Unwritten.refused {history : History} (h : Unwritten history) (write : Write)
    (error : WriteError) : Unwritten (history ++ [.refused write error]) := by
  intro other id hmem
  rcases List.mem_append.mp hmem with hmem | hmem
  · exact h other id hmem
  · have hsame := List.mem_singleton.mp hmem
    contradiction

/-- The row that a write is about is there, if the handler reads it back. -/
def Stays (write : Write) (id : ℕ) (rows : Rows) : Prop :=
  match write with
  | .createServer _ _ _ => id ∈ rows.servers
  | .updateServer serverId _ _ => serverId ∈ rows.servers
  | .addInvite _ _ _ => id ∈ rows.invites
  | .addChannel _ => id ∈ rows.channels
  | .updateChannel channelId _ _ => channelId ∈ rows.channels
  | .deleteServer _ | .addMember _ _ | .deleteMember _ | .deleteInvite _ | .deleteChannel _ =>
      True

instance (write : Write) (id : ℕ) (rows : Rows) : Decidable (Stays write id rows) := by
  cases write <;> unfold Stays <;> infer_instance

/-- The last statement read back a committed row that was gone. -/
def LostRow (history : History) : Prop :=
  ∃ before write id rows, history = before ++ [.wrote write id, .read rows] ∧
    ¬ Stays write id rows

/-! ## Permitted writes and answers -/

/-- The caller was seen to own the server. -/
def SawOwner (request : Request) (serverId : ℕ) (history : History) : Prop :=
  ∃ userId, request.caller = some userId ∧
    Saw (fun rows => ∃ server, rows.servers.lookup serverId = some server ∧
      server.ownerId = userId) history

theorem SawOwner.later {request : Request} {serverId : ℕ} {history later : History}
    (h : SawOwner request serverId history) (hlater : history <+: later) :
    SawOwner request serverId later := by
  rcases h with ⟨userId, hcaller, hserver⟩
  exact ⟨userId, hcaller, hserver.later hlater⟩

/-- The reads that justify a write. -/
def Permitted (request : Request) (history : History) (write : Write) : Prop :=
  match write with
  | .createServer name description ownerId =>
      request.call = .createServer name description ∧ request.caller = some ownerId
  | .updateServer serverId _ _ =>
      (∃ name description, request.call = .updateServer serverId name description) ∧
        SawOwner request serverId history
  | .deleteServer serverId =>
      request.call = .deleteServer serverId ∧ SawOwner request serverId history
  | .addMember serverId userId =>
      request.call = .addServerMember serverId userId ∧ SawOwner request serverId history ∨
        ∃ code, request.call = .acceptInvite code ∧ request.caller = some userId ∧
          Saw (fun rows => ∃ id row, rows.inviteOf code = some (id, row) ∧
            row.serverId = serverId) history
  | .deleteMember id =>
      ∃ serverId userId, request.call = .leaveServer serverId ∧ request.caller = some userId ∧
        Saw (fun rows => ∃ server, rows.servers.lookup serverId = some server ∧
          server.ownerId ≠ userId) history ∧
        Saw (fun rows => rows.members.lookup id = some ⟨serverId, userId⟩) history
  | .addInvite code serverId userId =>
      ∃ codes attempt, request.call = .createInvite serverId codes ∧ codes attempt = code ∧
        request.caller = some userId ∧ Saw (fun rows => rows.IsMember serverId userId) history
  | .deleteInvite id =>
      ∃ serverId code, request.call = .revokeInvite serverId code ∧
        Saw (fun rows => ∃ row, rows.invites.lookup id = some row ∧ row.code = code) history
  | .addChannel channel =>
      request.call = .createChannel channel ∧ SawOwner request channel.serverId history
  | .updateChannel id _ _ =>
      ∃ serverId, (∃ name position, request.call = .updateChannel serverId id name position) ∧
        SawOwner request serverId history ∧
          Saw (fun rows => ∃ channel, rows.channels.lookup id = some channel ∧
            channel.serverId = serverId) history
  | .deleteChannel id =>
      ∃ serverId, request.call = .deleteChannel serverId id ∧
        SawOwner request serverId history ∧
          Saw (fun rows => ∃ channel, rows.channels.lookup id = some channel ∧
            channel.serverId = serverId) history

/-- The reads that justify an answer. -/
structure Answered (request : Request) (history : History) (answer : Answer) : Prop where
  fails : answer.Fails → Unwritten history ∨ LostRow history
  access : ∀ channelId, request.call = .checkChannelAccess channelId → answer.status = 200 →
    ∃ userId channel, request.caller = some userId ∧
      Saw (fun rows => rows.channels.lookup channelId = some channel) history ∧
        Saw (fun rows => rows.IsMember channel.serverId userId) history

section

variable {request : Request} {history : History}

theorem Answered.error {answer : Answer} (hfails : answer.Fails)
    (h : Unwritten history ∨ LostRow history) : Answered request history answer where
  fails _ := h
  access channelId _ hstatus := by
    rw [Answer.Fails, hstatus] at hfails
    omega

/-- An answer to another request than the one for channel access. -/
theorem Answered.success {answer : Answer} (hsuccess : ¬ answer.Fails)
    (hcall : ∀ channelId, request.call ≠ .checkChannelAccess channelId) :
    Answered request history answer where
  fails hfails := absurd hfails hsuccess
  access channelId hsame := absurd hsame (hcall channelId)

/-! ## Parts of handlers -/

/-- A part of a handler that starts with a history keeps to what is permitted, and
its value satisfies a condition. -/
def Keeping {α : Type} (request : Request) (ends : History → α → Prop) (history : History)
    (part : Handler α) : Prop :=
  Program.Respects (Permitted request) (Answered request) ends history part

variable {α β : Type} {ends : History → α → Prop}

theorem Keeping.pure {value : α} (h : ends history value) :
    Keeping request ends history (pure value) :=
  h

theorem Keeping.mono {ends' : History → α → Prop} {part : Handler α}
    (h : Keeping request ends history part)
    (himp : ∀ later value, ends later value → ends' later value) :
    Keeping request ends' history part :=
  Program.Respects.mono himp h

theorem Keeping.bind {middle : History → α → Prop} {ends : History → β → Prop}
    {part : Handler α} {next : α → Handler β} (h : Keeping request middle history part)
    (hnext : ∀ later value, history <+: later → middle later value →
      Keeping request ends later (next value)) :
    Keeping request ends history (part >>= next) :=
  Program.Respects.bind h hnext

theorem Keeping.raise {status : ℕ} {detail : String} (hstatus : 400 ≤ status)
    (h : Unwritten history) : Keeping request ends history (raise status detail) :=
  Answered.error hstatus (Or.inl h)

theorem Keeping.fail (h : Unwritten history ∨ LostRow history) :
    Keeping request ends history fail :=
  Answered.error (show 400 ≤ 500 by omega) h

theorem query_keeping {read : Rows → α} (h : Unwritten history) :
    Keeping request (fun later value => Unwritten later ∧ Saw (fun rows => read rows = value) later)
      history (query read) := by
  intro rows
  exact ⟨h.read rows, rows, List.mem_append_right _ (List.mem_singleton_self _), rfl⟩

theorem queryOr_keeping {read : Rows → Option α} {status : ℕ} {detail : String}
    (hstatus : 400 ≤ status) (h : Unwritten history) :
    Keeping request
      (fun later value => Unwritten later ∧ Saw (fun rows => read rows = some value) later)
      history (queryOr read status detail) := by
  apply (query_keeping h).bind
  rintro later found - ⟨hunwritten, hsaw⟩
  cases found with
  | none => exact Keeping.raise hstatus hunwritten
  | some value => exact ⟨hunwritten, hsaw⟩

theorem commit_keeping {write : Write} (hwrite : Permitted request history write)
    (h : Unwritten history) :
    Keeping request (fun later id => later = history ++ [.wrote write id]) history
      (commit write) :=
  ⟨hwrite, fun _ => rfl, fun error => Keeping.fail (Or.inl (h.refused write error))⟩

/-- The row that was committed is read back. -/
theorem refresh_keeping {read : Rows → Option α} {write : Write} {id : ℕ}
    (hlost : ∀ rows, read rows = none → ¬ Stays write id rows) :
    Keeping request (fun _ _ => True) (history ++ [.wrote write id]) (refresh read) := by
  intro rows
  dsimp only
  cases hread : read rows with
  | none =>
      apply Keeping.fail
      exact Or.inr ⟨history, write, id, rows, by simp, hlost rows hread⟩
  | some value => exact trivial

/-- A row that was not committed is read again. -/
theorem refresh_keeping_of_unwritten {read : Rows → Option α} (h : Unwritten history) :
    Keeping request (fun _ _ => True) history (refresh read) := by
  apply (query_keeping h).bind
  rintro later found - ⟨hunwritten, -⟩
  cases found with
  | none => exact Keeping.fail (Or.inl hunwritten)
  | some value => exact trivial

theorem getCurrentUser_keeping (h : Unwritten history) :
    Keeping request (fun later user => Unwritten later ∧ request.caller = some user.1) history
      (getCurrentUser request.caller) := by
  cases hcaller : request.caller with
  | none => exact Keeping.raise (by omega) h
  | some userId =>
      apply (query_keeping h).bind
      rintro later found - ⟨hunwritten, rows, -, hread⟩
      cases hlookup : rows.users.lookup userId with
      | none =>
          rw [hlookup] at hread
          subst hread
          exact Keeping.raise (by omega) hunwritten
      | some user =>
          rw [hlookup] at hread
          subst hread
          exact ⟨hunwritten, rfl⟩

theorem getServerOr404_keeping {serverId : ℕ} (h : Unwritten history) :
    Keeping request (fun later server => Unwritten later ∧
      Saw (fun rows => rows.servers.lookup serverId = some server) later) history
      (getServerOr404 serverId) :=
  queryOr_keeping (by omega) h

theorem requireServerMember_keeping {serverId userId : ℕ} (h : Unwritten history) :
    Keeping request (fun later server => Unwritten later ∧
      Saw (fun rows => rows.servers.lookup serverId = some server) later ∧
        Saw (fun rows => rows.IsMember serverId userId) later) history
      (requireServerMember serverId userId) := by
  apply (getServerOr404_keeping h).bind
  rintro later server - ⟨hunwritten, hserver⟩
  apply (queryOr_keeping (by omega) hunwritten).bind
  rintro last entry hlast ⟨hunwritten, hmember⟩
  exact ⟨hunwritten, hserver.later hlast,
    hmember.imp fun rows hfound => Rows.isMember_of_memberOf hfound⟩

theorem getChannelInServer_keeping {serverId channelId : ℕ} (h : Unwritten history) :
    Keeping request (fun later _ => Unwritten later ∧
      Saw (fun rows => ∃ channel, rows.channels.lookup channelId = some channel ∧
        channel.serverId = serverId) later) history (getChannelInServer serverId channelId) := by
  refine (queryOr_keeping (by omega) h).mono fun later channel hlater => ⟨hlater.1, ?_⟩
  refine hlater.2.imp fun rows hfound => ?_
  rcases Option.filter_eq_some_iff.mp hfound with ⟨hlookup, hserver⟩
  exact ⟨channel, hlookup, of_decide_eq_true hserver⟩

theorem requireOwner_keeping {server : Server} {serverId userId : ℕ} {detail : String}
    (h : Unwritten history) (hcaller : request.caller = some userId)
    (hserver : Saw (fun rows => rows.servers.lookup serverId = some server) history) :
    Keeping request (fun later _ => Unwritten later ∧ SawOwner request serverId later) history
      (requireOwner server userId detail) := by
  unfold requireOwner
  by_cases howner : server.ownerId = userId
  · rw [if_pos howner]
    exact ⟨h, userId, hcaller, hserver.imp fun rows hlookup => ⟨server, hlookup, howner⟩⟩
  · rw [if_neg howner]
    exact Keeping.raise (by omega) h

/-- Changes are committed, or nothing differs; the row is read back afterwards. -/
theorem commitChanges_refresh_keeping {read : Rows → Option α} {changed : Bool} {write : Write}
    {next : α → Handler Answer} (hwrite : Permitted request history write)
    (h : Unwritten history)
    (hlost : ∀ rows, read rows = none → ∀ id, ¬ Stays write id rows)
    (hnext : ∀ later value, Keeping request (Answered request) later (next value)) :
    Keeping request (Answered request) history
      (commitChanges changed write >>= fun _ => refresh read >>= next) := by
  cases changed with
  | false =>
      apply (refresh_keeping_of_unwritten h).bind
      exact fun later value _ _ => hnext later value
  | true =>
      rw [commitChanges, if_pos rfl, Program.bind_assoc]
      apply (commit_keeping hwrite h).bind
      rintro later id - rfl
      apply (refresh_keeping fun rows hnone => hlost rows hnone id).bind
      exact fun later value _ _ => hnext later value

/-! ## Servers -/

theorem createServer_keeping {name : Bytes} {description : Option Bytes}
    (hcall : request.call = .createServer name description) :
    Keeping request (Answered request) [] (createServer request.caller name description) := by
  apply (getCurrentUser_keeping Unwritten.nil).bind
  rintro later user - ⟨hunwritten, hcaller⟩
  have hwrite : Permitted request later (.createServer name description user.1) :=
    ⟨hcall, hcaller⟩
  apply (commit_keeping hwrite hunwritten).bind
  rintro later id - rfl
  apply (refresh_keeping fun rows hnone => AList.lookup_eq_none.mp hnone).bind
  intro later server _ _
  exact Answered.success (by simp [Answer.Fails]) (by simp [hcall])

theorem getServer_keeping {serverId : ℕ} (hcall : request.call = .getServer serverId) :
    Keeping request (Answered request) [] (getServer request.caller serverId) := by
  apply (getCurrentUser_keeping Unwritten.nil).bind
  rintro later user - ⟨hunwritten, -⟩
  apply (requireServerMember_keeping hunwritten).bind
  intro later server _ _
  exact Answered.success (by simp [Answer.Fails]) (by simp [hcall])

theorem updateServer_keeping {serverId : ℕ} {name : Option Bytes}
    {description : Option (Option Bytes)}
    (hcall : request.call = .updateServer serverId name description) :
    Keeping request (Answered request) []
      (updateServer request.caller serverId name description) := by
  apply (getCurrentUser_keeping Unwritten.nil).bind
  rintro later user - ⟨hunwritten, hcaller⟩
  apply (getServerOr404_keeping hunwritten).bind
  rintro later server - ⟨hunwritten, hserver⟩
  apply (requireOwner_keeping hunwritten hcaller hserver).bind
  rintro later - - ⟨hunwritten, howner⟩
  have hwrite : ∀ changedName changedDescription,
      Permitted request later (.updateServer serverId changedName changedDescription) :=
    fun _ _ => ⟨⟨name, description, hcall⟩, howner⟩
  apply commitChanges_refresh_keeping (hwrite _ _) hunwritten
  · exact fun rows hnone _ => AList.lookup_eq_none.mp hnone
  · exact fun later value => Answered.success (by simp [Answer.Fails]) (by simp [hcall])

theorem deleteServer_keeping {serverId : ℕ} (hcall : request.call = .deleteServer serverId) :
    Keeping request (Answered request) [] (deleteServer request.caller serverId) := by
  apply (getCurrentUser_keeping Unwritten.nil).bind
  rintro later user - ⟨hunwritten, hcaller⟩
  apply (getServerOr404_keeping hunwritten).bind
  rintro later server - ⟨hunwritten, hserver⟩
  apply (requireOwner_keeping hunwritten hcaller hserver).bind
  rintro later - - ⟨hunwritten, howner⟩
  have hwrite : Permitted request later (.deleteServer serverId) := ⟨hcall, howner⟩
  apply (commit_keeping hwrite hunwritten).bind
  intro later id _ _
  exact Answered.success (by simp [Answer.Fails]) (by simp [hcall])

theorem joinServer_keeping :
    Keeping request (Answered request) [] (joinServer request.caller) := by
  apply (getCurrentUser_keeping Unwritten.nil).bind
  rintro later user - ⟨hunwritten, -⟩
  exact Keeping.raise (by omega) hunwritten

theorem addServerMember_keeping {serverId userId : ℕ}
    (hcall : request.call = .addServerMember serverId userId) :
    Keeping request (Answered request) []
      (addServerMember request.caller serverId userId) := by
  apply (getCurrentUser_keeping Unwritten.nil).bind
  rintro later user - ⟨hunwritten, hcaller⟩
  apply (getServerOr404_keeping hunwritten).bind
  rintro later server - ⟨hunwritten, hserver⟩
  apply (requireOwner_keeping hunwritten hcaller hserver).bind
  rintro checked - - ⟨hunwritten, howner⟩
  apply (queryOr_keeping (by omega) hunwritten).bind
  rintro found - hfound ⟨hunwritten, -⟩
  apply (query_keeping hunwritten).bind
  rintro later existing hlater ⟨hunwritten, -⟩
  have howner := howner.later (hfound.trans hlater)
  cases existing with
  | some entry => exact Keeping.raise (by omega) hunwritten
  | none =>
      have hwrite : Permitted request later (.addMember serverId userId) :=
        Or.inl ⟨hcall, howner⟩
      apply (commit_keeping hwrite hunwritten).bind
      intro later id _ _
      exact Answered.success (by simp [Answer.Fails]) (by simp [hcall])

theorem leaveServer_keeping {serverId : ℕ} (hcall : request.call = .leaveServer serverId) :
    Keeping request (Answered request) [] (leaveServer request.caller serverId) := by
  apply (getCurrentUser_keeping Unwritten.nil).bind
  rintro later user - ⟨hunwritten, hcaller⟩
  apply (getServerOr404_keeping hunwritten).bind
  rintro later server - ⟨hunwritten, hserver⟩
  by_cases howner : server.ownerId = user.1
  · rw [if_pos howner]
    exact Keeping.raise (by omega) hunwritten
  · rw [if_neg howner]
    apply (queryOr_keeping (by omega) hunwritten).bind
    rintro found entry hfound ⟨hunwritten, hmember⟩
    have hwrite : Permitted request found (.deleteMember entry.1) := by
      refine ⟨serverId, user.1, hcall, hcaller, (hserver.later hfound).imp ?_, hmember.imp ?_⟩
      · exact fun rows hlookup => ⟨server, hlookup, howner⟩
      · intro rows hentry
        rcases Rows.memberOf_eq_some hentry with ⟨hlookup, hrow⟩
        rw [hlookup, hrow]
    apply (commit_keeping hwrite hunwritten).bind
    intro later id _ _
    exact Answered.success (by simp [Answer.Fails]) (by simp [hcall])

/-! ## Invites -/

theorem generateInvite_keeping {serverId userId : ℕ} {codes : ℕ → Bytes}
    (hcall : request.call = .createInvite serverId codes) (hcaller : request.caller = some userId)
    (attempts attempt : ℕ) (expired : Bool) (h : Unwritten history)
    (hmember : Saw (fun rows => rows.IsMember serverId userId) history) :
    Keeping request (Answered request) history
      (generateInvite serverId userId codes attempts attempt expired) := by
  induction attempts generalizing attempt expired history with
  | zero => exact Keeping.raise (by omega) h
  | succ attempts ih =>
      rw [generateInvite]
      cases expired with
      | true => exact Keeping.fail (Or.inl h)
      | false =>
          rw [if_neg Bool.false_ne_true]
          refine ⟨⟨codes, attempt, hcall, rfl, hcaller, hmember⟩, fun id => ?_, fun error => ?_⟩
          · apply (refresh_keeping fun rows hnone => AList.lookup_eq_none.mp hnone).bind
            intro later invite _ _
            exact Answered.success (by simp [Answer.Fails]) (by simp [hcall])
          · cases error with
            | integrity =>
                exact ih (attempt + 1) true (h.refused _ _)
                  (hmember.later (List.prefix_append _ _))
            | stale => exact Keeping.fail (Or.inl (h.refused _ _))

theorem createInvite_keeping {serverId : ℕ} {codes : ℕ → Bytes}
    (hcall : request.call = .createInvite serverId codes) :
    Keeping request (Answered request) [] (createInvite request.caller serverId codes) := by
  apply (getCurrentUser_keeping Unwritten.nil).bind
  rintro later user - ⟨hunwritten, hcaller⟩
  apply (requireServerMember_keeping hunwritten).bind
  rintro later server - ⟨hunwritten, -, hmember⟩
  exact generateInvite_keeping hcall hcaller _ _ _ hunwritten hmember

theorem revokeInvite_keeping {serverId : ℕ} {code : Bytes}
    (hcall : request.call = .revokeInvite serverId code) :
    Keeping request (Answered request) [] (revokeInvite request.caller serverId code) := by
  apply (getCurrentUser_keeping Unwritten.nil).bind
  rintro later user - ⟨hunwritten, -⟩
  apply (getServerOr404_keeping hunwritten).bind
  rintro later server - ⟨hunwritten, -⟩
  apply (queryOr_keeping (by omega) hunwritten).bind
  rintro later invite - ⟨hunwritten, hinvite⟩
  by_cases hother : server.ownerId ≠ user.1 ∧ invite.2.creatorId ≠ user.1
  · rw [if_pos hother]
    exact Keeping.raise (by omega) hunwritten
  · rw [if_neg hother]
    have hwrite : Permitted request later (.deleteInvite invite.1) := by
      refine ⟨serverId, code, hcall, hinvite.imp fun rows hfound => ?_⟩
      exact ⟨invite.2, Rows.inviteOf_eq_some (Option.filter_eq_some_iff.mp hfound).1⟩
    apply (commit_keeping hwrite hunwritten).bind
    intro later id _ _
    exact Answered.success (by simp [Answer.Fails]) (by simp [hcall])

theorem acceptInvite_keeping {code : Bytes} (hcall : request.call = .acceptInvite code) :
    Keeping request (Answered request) [] (acceptInvite request.caller code) := by
  apply (getCurrentUser_keeping Unwritten.nil).bind
  rintro later user - ⟨hunwritten, hcaller⟩
  apply (queryOr_keeping (by omega) hunwritten).bind
  rintro found invite - ⟨hunwritten, hinvite⟩
  apply (query_keeping hunwritten).bind
  rintro later existing hlater ⟨hunwritten, -⟩
  cases existing with
  | some entry => exact Answered.success (by simp [Answer.Fails]) (by simp [hcall])
  | none =>
      have hwrite : Permitted request later (.addMember invite.2.serverId user.1) := by
        refine Or.inr ⟨code, hcall, hcaller, (hinvite.later hlater).imp fun rows hfound => ?_⟩
        exact ⟨invite.1, invite.2, hfound, rfl⟩
      apply (commit_keeping hwrite hunwritten).bind
      intro later id _ _
      exact Answered.success (by simp [Answer.Fails]) (by simp [hcall])

/-! ## Channels -/

theorem checkChannelAccess_keeping {channelId : ℕ}
    (hcall : request.call = .checkChannelAccess channelId) :
    Keeping request (Answered request) [] (checkChannelAccess request.caller channelId) := by
  apply (getCurrentUser_keeping Unwritten.nil).bind
  rintro later user - ⟨hunwritten, hcaller⟩
  apply (queryOr_keeping (by omega) hunwritten).bind
  rintro found channel - ⟨hunwritten, hchannel⟩
  apply (requireServerMember_keeping hunwritten).bind
  rintro later server hlater ⟨-, -, hmember⟩
  constructor
  · intro hfails
    simp [Answer.Fails] at hfails
  · intro asked hasked _
    rw [hcall, Call.checkChannelAccess.injEq] at hasked
    subst hasked
    exact ⟨user.1, channel, hcaller, hchannel.later hlater, hmember⟩

theorem createChannel_keeping {channel : Channel}
    (hcall : request.call = .createChannel channel) :
    Keeping request (Answered request) [] (createChannel request.caller channel) := by
  apply (getCurrentUser_keeping Unwritten.nil).bind
  rintro later user - ⟨hunwritten, hcaller⟩
  apply (requireServerMember_keeping hunwritten).bind
  rintro later server - ⟨hunwritten, hserver, -⟩
  apply (requireOwner_keeping hunwritten hcaller hserver).bind
  rintro later - - ⟨hunwritten, howner⟩
  have hwrite : Permitted request later (.addChannel channel) := ⟨hcall, howner⟩
  apply (commit_keeping hwrite hunwritten).bind
  rintro later id - rfl
  apply (refresh_keeping fun rows hnone => AList.lookup_eq_none.mp hnone).bind
  intro later created _ _
  exact Answered.success (by simp [Answer.Fails]) (by simp [hcall])

theorem getChannel_keeping {serverId channelId : ℕ}
    (hcall : request.call = .getChannel serverId channelId) :
    Keeping request (Answered request) [] (getChannel request.caller serverId channelId) := by
  apply (getCurrentUser_keeping Unwritten.nil).bind
  rintro later user - ⟨hunwritten, -⟩
  apply (requireServerMember_keeping hunwritten).bind
  rintro later server - ⟨hunwritten, -, -⟩
  apply (getChannelInServer_keeping hunwritten).bind
  intro later channel _ _
  exact Answered.success (by simp [Answer.Fails]) (by simp [hcall])

theorem updateChannel_keeping {serverId channelId : ℕ} {name : Option Bytes}
    {position : Option ℕ}
    (hcall : request.call = .updateChannel serverId channelId name position) :
    Keeping request (Answered request) []
      (updateChannel request.caller serverId channelId name position) := by
  apply (getCurrentUser_keeping Unwritten.nil).bind
  rintro later user - ⟨hunwritten, hcaller⟩
  apply (requireServerMember_keeping hunwritten).bind
  rintro later server - ⟨hunwritten, hserver, -⟩
  apply (requireOwner_keeping hunwritten hcaller hserver).bind
  rintro checked - - ⟨hunwritten, howner⟩
  apply (getChannelInServer_keeping hunwritten).bind
  rintro later channel hlater ⟨hunwritten, hchannel⟩
  have hwrite : ∀ changedName changedPosition,
      Permitted request later (.updateChannel channelId changedName changedPosition) :=
    fun _ _ => ⟨serverId, ⟨name, position, hcall⟩, howner.later hlater, hchannel⟩
  apply commitChanges_refresh_keeping (hwrite _ _) hunwritten
  · exact fun rows hnone _ => AList.lookup_eq_none.mp hnone
  · exact fun later value => Answered.success (by simp [Answer.Fails]) (by simp [hcall])

theorem deleteChannel_keeping {serverId channelId : ℕ}
    (hcall : request.call = .deleteChannel serverId channelId) :
    Keeping request (Answered request) []
      (deleteChannel request.caller serverId channelId) := by
  apply (getCurrentUser_keeping Unwritten.nil).bind
  rintro later user - ⟨hunwritten, hcaller⟩
  apply (requireServerMember_keeping hunwritten).bind
  rintro later server - ⟨hunwritten, hserver, -⟩
  apply (requireOwner_keeping hunwritten hcaller hserver).bind
  rintro checked - - ⟨hunwritten, howner⟩
  apply (getChannelInServer_keeping hunwritten).bind
  rintro later channel hlater ⟨hunwritten, hchannel⟩
  have hwrite : Permitted request later (.deleteChannel channelId) :=
    ⟨serverId, hcall, howner.later hlater, hchannel⟩
  apply (commit_keeping hwrite hunwritten).bind
  intro later id _ _
  exact Answered.success (by simp [Answer.Fails]) (by simp [hcall])

end

/-- Every handler commits and answers only what its reads justify. -/
theorem handler_respects (request : Request) :
    Program.Respects (Permitted request) (Answered request) (Answered request) []
      (handler request) := by
  unfold handler
  cases hcall : request.call with
  | createServer name description => exact createServer_keeping hcall
  | getServer serverId => exact getServer_keeping hcall
  | updateServer serverId name description => exact updateServer_keeping hcall
  | deleteServer serverId => exact deleteServer_keeping hcall
  | joinServer serverId => exact joinServer_keeping
  | addServerMember serverId userId => exact addServerMember_keeping hcall
  | leaveServer serverId => exact leaveServer_keeping hcall
  | createInvite serverId codes => exact createInvite_keeping hcall
  | revokeInvite serverId code => exact revokeInvite_keeping hcall
  | acceptInvite code => exact acceptInvite_keeping hcall
  | checkChannelAccess channelId => exact checkChannelAccess_keeping hcall
  | createChannel channel => exact createChannel_keeping hcall
  | getChannel serverId channelId => exact getChannel_keeping hcall
  | updateChannel serverId channelId name position => exact updateChannel_keeping hcall
  | deleteChannel serverId channelId => exact deleteChannel_keeping hcall

end Api
end Driscord
