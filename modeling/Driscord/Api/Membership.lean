import Driscord.Api.Authorisation

/-!
# Membership over all interleavings

Any number of requests run one statement after the other.  What a request has
checked is older than the rows that it commits to, and still justifies the commit:
the owner of a server and a membership row never change while they exist, and no
primary key is used again.

Main results:

- Theorem `Sound.step`: the invariant of the running requests.
- Theorem `ownersAreMembers_perform`: no permitted commit takes an owner's membership.
- Theorem `stepAuthorised_of_sound`: who changes memberships, servers and channels.
- Theorem `api_authorised`: authorisation over every run, and that failed requests
  leave the rows alone if no row is gone when it is read back.
-/

namespace Driscord
namespace Api

open Library

/-- The rows, and the requests so far. -/
abbrev ApiSystem := System Request Rows Write ℕ WriteError Answer

/-- A request arrives or runs a statement, or a user changes. -/
abbrev ApiAction := SystemAction Request UserChange

/-- One action. -/
def act (system : ApiSystem) (action : ApiAction) : Option ApiSystem :=
  System.act handler Rows.apply Rows.changeUser system action

/-- Every owner of a server is a member of it. -/
def OwnersAreMembers (rows : Rows) : Prop :=
  Table.All (fun serverId server => rows.IsMember serverId server.ownerId) rows.servers

/-- No request has arrived yet. -/
structure Initial (system : ApiSystem) : Prop where
  running : system.running = []
  consistent : Consistent system.rows
  owners : OwnersAreMembers system.rows

/-! ## The invariant -/

/-- Consistent rows, and what they may have become. -/
def Earlier (before rows : Rows) : Prop :=
  Consistent before ∧ Keeps before rows

/-- The reads of a request against the rows of now. -/
def Dated (history : History) (rows : Rows) : Prop :=
  ∀ before, .read before ∈ history → Earlier before rows

/-- What every run keeps. -/
structure Sound (system : ApiSystem) : Prop where
  consistent : Consistent system.rows
  owners : OwnersAreMembers system.rows
  verified : ∀ thread ∈ system.running, System.Verified Permitted Answered thread
  reads : ∀ thread ∈ system.running, Dated thread.history system.rows

theorem Initial.sound {system : ApiSystem} (h : Initial system) : Sound system where
  consistent := h.consistent
  owners := h.owners
  verified thread hmem := by
    rw [h.running] at hmem
    contradiction
  reads thread hmem := by
    rw [h.running] at hmem
    contradiction

section

variable {rows : Rows} {request : Request} {history : History}

/-- A caller that was seen to own a server owns it while it exists. -/
theorem SawOwner.current {serverId : ℕ} {server : Server} (h : SawOwner request serverId history)
    (hdated : Dated history rows) (hserver : rows.servers.lookup serverId = some server) :
    request.caller = some server.ownerId := by
  rcases h with ⟨userId, hcaller, before, hread, seen, hseen, howner⟩
  have hkept := hdated before hread
  have hsame := hkept.2.servers.same_of_lookup hkept.1.serverKeys hseen hserver
  rw [hcaller, hsame, howner]

theorem isMember_insertMember (hrows : Consistent rows) {serverId userId : ℕ}
    (h : rows.IsMember serverId userId) (newServer newUser : ℕ) :
    (rows.insertMember newServer newUser).IsMember serverId userId := by
  rcases h with ⟨id, hlookup⟩
  have hne : id ≠ rows.nextMember := (hrows.memberKeys id _ hlookup).ne
  exact ⟨id, (AList.lookup_insert_ne hne).trans hlookup⟩

/-- No permitted commit takes the membership of an owner. -/
theorem ownersAreMembers_perform (hrows : Consistent rows) (howners : OwnersAreMembers rows)
    (hdated : Dated history rows) {write : Write} (hwrite : Permitted request history write) :
    OwnersAreMembers (rows.perform write) := by
  cases write with
  | createServer name description ownerId =>
      refine Table.All.insert ?_ ⟨rows.nextMember, AList.lookup_insert _⟩
      exact howners.mono fun _ _ hmember => isMember_insertMember hrows hmember _ _
  | updateServer serverId name description =>
      exact howners.modify serverId fun _ hmember => hmember
  | deleteServer serverId =>
      intro other server hlookup
      rcases Table.lookup_of_lookup_erase hlookup with ⟨hne, hold⟩
      rcases howners other server hold with ⟨id, hmember⟩
      refine ⟨id, ?_⟩
      rw [Rows.perform, Rows.withoutServer, Table.lookup_filterMapValues, hmember,
        Option.bind_some, if_neg hne]
  | addMember serverId userId =>
      exact howners.mono fun _ _ hmember => isMember_insertMember hrows hmember _ _
  | deleteMember id =>
      rcases hwrite with ⟨serverId, userId, -, -, hserver, before, hread, hseen⟩
      intro other server hlookup
      rcases howners other server hlookup with ⟨member, hmember⟩
      refine ⟨member, (AList.lookup_erase_ne ?_).trans hmember⟩
      rintro rfl
      have hkept := hdated before hread
      have hsame := hkept.2.members.same_of_lookup hkept.1.memberKeys hseen hmember
      injection hsame with hserverId hownerId
      subst hserverId
      rcases hserver with ⟨earlier, hearlier, old, hold, hother⟩
      have hkept := hdated earlier hearlier
      have howner := hkept.2.servers.same_of_lookup hkept.1.serverKeys hold hlookup
      exact hother (howner.symm.trans hownerId)
  | _ => exact howners

end

section

variable {system next : ApiSystem} {action : ApiAction}

/-- Every action keeps the invariant. -/
theorem Sound.step (h : Sound system) (hact : act system action = some next) : Sound next := by
  rcases System.rows_act _ _ _ hact with hsame |
    ⟨index, thread, write, rest, value, -, hthread, hprogram, happly⟩ | ⟨change, -, hchange⟩
  · refine ⟨hsame ▸ h.consistent, hsame ▸ h.owners,
      System.respects_step _ _ _ handler_respects hact h.verified,
      System.reads_step _ _ _ Earlier hact ⟨h.consistent, Keeps.refl _⟩ ?_ h.reads⟩
    intro thread hmem rows hread hkept
    rw [hsame]
    exact hkept
  · have hmem := List.mem_of_getElem? hthread
    have hpermitted := (h.verified thread hmem).permits hprogram
    rcases Rows.apply_eq_ok happly with ⟨hfine, -, hnext⟩
    refine ⟨hnext ▸ h.consistent.perform hfine,
      hnext ▸ ownersAreMembers_perform h.consistent h.owners (h.reads thread hmem) hpermitted,
      System.respects_step _ _ _ handler_respects hact h.verified,
      System.reads_step _ _ _ Earlier hact ⟨h.consistent, Keeps.refl _⟩ ?_ h.reads⟩
    intro thread hmem rows hread hkept
    rw [hnext]
    exact ⟨hkept.1, hkept.2.perform write⟩
  · refine ⟨hchange ▸ h.consistent.changeUser change, ?_,
      System.respects_step _ _ _ handler_respects hact h.verified,
      System.reads_step _ _ _ Earlier hact ⟨h.consistent, Keeps.refl _⟩ ?_ h.reads⟩
    · rw [hchange]
      cases change <;> exact h.owners
    · intro thread hmem rows hread hkept
      rw [hchange]
      exact ⟨hkept.1, hkept.2.changeUser change⟩

/-! ## Who changes what -/

/-- The request that the action runs. -/
def Runs (system : ApiSystem) (action : ApiAction) (request : Request) (history : History) :
    Prop :=
  ∃ index program, action = .run index ∧
    system.running[index]? = some { request, program, history }

/-- The three ways into a server. -/
def Joins (system next : ApiSystem) (request : Request) (history : History)
    (serverId userId : ℕ) : Prop :=
  (∃ name description server, request.call = .createServer name description ∧
      request.caller = some userId ∧ serverId ∉ system.rows.servers ∧
        next.rows.servers.lookup serverId = some server ∧ server.ownerId = userId) ∨
    (∃ server, request.call = .addServerMember serverId userId ∧
      system.rows.servers.lookup serverId = some server ∧
        request.caller = some server.ownerId) ∨
    ∃ code, request.call = .acceptInvite code ∧ request.caller = some userId ∧
      Saw (fun rows => rows.Invites code serverId) history

/-- Who changes memberships, servers and channels in one action. -/
structure StepAuthorised (system : ApiSystem) (action : ApiAction) (next : ApiSystem) :
    Prop where
  members : ∀ id row, next.rows.members.lookup id = some row →
    system.rows.members.lookup id = some row ∨
      ∃ request history, Runs system action request history ∧
        Joins system next request history row.serverId row.userId
  servers : ∀ id, next.rows.servers.lookup id ≠ system.rows.servers.lookup id →
    ∃ request history server, Runs system action request history ∧
      (system.rows.servers.lookup id = some server ∨
        id ∉ system.rows.servers ∧ next.rows.servers.lookup id = some server) ∧
      request.caller = some server.ownerId
  channels : ∀ id, next.rows.channels.lookup id ≠ system.rows.channels.lookup id →
    ∃ request history channel server, Runs system action request history ∧
      (system.rows.channels.lookup id = some channel ∨
        next.rows.channels.lookup id = some channel) ∧
      system.rows.servers.lookup channel.serverId = some server ∧
        request.caller = some server.ownerId

theorem runs_of_getElem? {index : ℕ} {thread : Running Request Rows Write ℕ WriteError Answer}
    (hthread : system.running[index]? = some thread) :
    Runs system (.run index) thread.request thread.history :=
  ⟨index, thread.program, rfl, hthread⟩

/-- Nothing is new, so nothing needs a reason. -/
theorem StepAuthorised.of_eq (hmembers : next.rows.members = system.rows.members)
    (hservers : next.rows.servers = system.rows.servers)
    (hchannels : next.rows.channels = system.rows.channels) :
    StepAuthorised system action next where
  members id row hlookup := by
    rw [hmembers] at hlookup
    exact Or.inl hlookup
  servers id hne := by
    rw [hservers] at hne
    exact absurd rfl hne
  channels id hne := by
    rw [hchannels] at hne
    exact absurd rfl hne

section

variable {request : Request} {history : History} {write : Write}

/-- A new membership is one of the three ways in. -/
theorem joins_of_permitted (h : Sound system) (hdated : Dated history system.rows)
    (hwrite : Permitted request history write) (hfine : system.rows.refusal write = none)
    (hnext : next.rows = system.rows.perform write) {id : ℕ} {row : ServerMember}
    (hlookup : next.rows.members.lookup id = some row) :
    system.rows.members.lookup id = some row ∨
      Joins system next request history row.serverId row.userId := by
  rw [hnext] at hlookup
  rcases members_perform hlookup with hold | ⟨name, description, rfl, hserver⟩ | rfl
  · exact Or.inl hold
  · refine Or.inr (Or.inl ⟨name, description, ⟨name, description, row.userId⟩, hwrite.1,
      hwrite.2, ?_, ?_, rfl⟩)
    · intro hmem
      obtain ⟨server, hfound⟩ := Table.mem_iff_exists_lookup.mp hmem
      exact absurd (h.consistent.serverKeys _ server hfound) (by omega)
    · rw [hnext, hserver]
      exact AList.lookup_insert _
  · refine Or.inr (Or.inr ?_)
    rcases hwrite with ⟨hcall, howner⟩ | ⟨code, hcall, hcaller, hsaw⟩
    · by_cases haccepts : row.serverId ∈ system.rows.servers ∧ row.userId ∈ system.rows.users ∧
          system.rows.memberOf row.serverId row.userId = none
      · obtain ⟨server, hserver⟩ := Table.mem_iff_exists_lookup.mp haccepts.1
        exact Or.inl ⟨server, hcall, hserver, howner.current hdated hserver⟩
      · rw [Rows.refusal, if_neg haccepts] at hfine
        contradiction
    · refine Or.inr ⟨code, hcall, hcaller, hsaw.imp ?_⟩
      rintro rows ⟨inviteId, invite, hfound, hserver⟩
      rcases Rows.inviteOf_eq_some hfound with ⟨hlookup, rfl⟩
      exact ⟨inviteId, invite.creatorId, by rw [hlookup, ← hserver]⟩

/-- A server that differs is one of the caller. -/
theorem server_changes_of_permitted (h : Sound system) (hdated : Dated history system.rows)
    (hwrite : Permitted request history write) (hfine : system.rows.refusal write = none)
    (hnext : next.rows = system.rows.perform write) {id : ℕ}
    (hne : next.rows.servers.lookup id ≠ system.rows.servers.lookup id) :
    ∃ server, (system.rows.servers.lookup id = some server ∨
        id ∉ system.rows.servers ∧ next.rows.servers.lookup id = some server) ∧
      request.caller = some server.ownerId := by
  rw [hnext] at hne ⊢
  rcases servers_perform hne with ⟨name, description, ownerId, rfl, rfl, hlookup⟩ |
    ⟨name, description, rfl⟩ | rfl
  · refine ⟨_, Or.inr ⟨?_, hlookup⟩, hwrite.2⟩
    intro hmem
    obtain ⟨server, hfound⟩ := Table.mem_iff_exists_lookup.mp hmem
    exact absurd (h.consistent.serverKeys _ server hfound) (lt_irrefl _)
  · by_cases hmem : id ∈ system.rows.servers
    · obtain ⟨server, hserver⟩ := Table.mem_iff_exists_lookup.mp hmem
      exact ⟨server, Or.inl hserver, hwrite.2.current hdated hserver⟩
    · rw [Rows.refusal, if_neg hmem] at hfine
      contradiction
  · cases hserver : system.rows.servers.lookup id with
    | none =>
        rw [hserver, Rows.perform, Rows.withoutServer] at hne
        exact absurd (AList.lookup_erase _ _) hne
    | some server => exact ⟨server, Or.inl rfl, hwrite.2.current hdated hserver⟩

/-- A channel that differs belongs to a server of the caller. -/
theorem channel_changes_of_permitted (h : Sound system) (hdated : Dated history system.rows)
    (hwrite : Permitted request history write) (hfine : system.rows.refusal write = none)
    (hnext : next.rows = system.rows.perform write) {id : ℕ}
    (hne : next.rows.channels.lookup id ≠ system.rows.channels.lookup id) :
    ∃ channel server, (system.rows.channels.lookup id = some channel ∨
        next.rows.channels.lookup id = some channel) ∧
      system.rows.servers.lookup channel.serverId = some server ∧
        request.caller = some server.ownerId := by
  rw [hnext] at hne ⊢
  rcases channels_perform hne with ⟨channel, rfl, hlookup⟩ | ⟨channel, hlookup, hcases⟩
  · by_cases hmem : channel.serverId ∈ system.rows.servers
    · obtain ⟨server, hserver⟩ := Table.mem_iff_exists_lookup.mp hmem
      exact ⟨channel, server, Or.inr hlookup, hserver, hwrite.2.current hdated hserver⟩
    · rw [Rows.refusal, if_neg hmem] at hfine
      contradiction
  · have hmem := h.consistent.channelServers id channel hlookup
    obtain ⟨server, hserver⟩ := Table.mem_iff_exists_lookup.mp hmem
    refine ⟨channel, server, Or.inl hlookup, hserver, ?_⟩
    have hsame : ∀ serverId, Saw (fun rows => ∃ seen, rows.channels.lookup id = some seen ∧
        seen.serverId = serverId) history → channel.serverId = serverId := by
      rintro serverId ⟨before, hread, seen, hseen, rfl⟩
      have hkept := hdated before hread
      exact hkept.2.channels.same_of_lookup hkept.1.channelKeys hseen hlookup
    rcases hcases with ⟨name, position, rfl⟩ | rfl | rfl
    · rcases hwrite with ⟨serverId, -, howner, hseen⟩
      obtain rfl := hsame serverId hseen
      exact howner.current hdated hserver
    · rcases hwrite with ⟨serverId, -, howner, hseen⟩
      obtain rfl := hsame serverId hseen
      exact howner.current hdated hserver
    · exact hwrite.2.current hdated hserver

end

/-- Every action of a sound system is authorised. -/
theorem stepAuthorised_of_sound (h : Sound system) (hact : act system action = some next) :
    StepAuthorised system action next := by
  rcases System.rows_act _ _ _ hact with hsame |
    ⟨index, thread, write, rest, value, rfl, hthread, hprogram, happly⟩ | ⟨change, -, hchange⟩
  · exact StepAuthorised.of_eq (by rw [hsame]) (by rw [hsame]) (by rw [hsame])
  · rcases Rows.apply_eq_ok happly with ⟨hfine, -, hnext⟩
    have hmem := List.mem_of_getElem? hthread
    have hdated := h.reads thread hmem
    have hwrite := (h.verified thread hmem).permits hprogram
    have hruns := runs_of_getElem? hthread
    constructor
    · intro id row hlookup
      exact (joins_of_permitted h hdated hwrite hfine hnext hlookup).imp_right
        fun hjoins => ⟨_, _, hruns, hjoins⟩
    · intro id hne
      rcases server_changes_of_permitted h hdated hwrite hfine hnext hne with ⟨server, hserver⟩
      exact ⟨_, _, server, hruns, hserver⟩
    · intro id hne
      rcases channel_changes_of_permitted h hdated hwrite hfine hnext hne with
        ⟨channel, server, hchannel⟩
      exact ⟨_, _, channel, server, hruns, hchannel⟩
  · cases change <;>
      exact StepAuthorised.of_eq (by rw [hchange]; rfl) (by rw [hchange]; rfl)
        (by rw [hchange]; rfl)

/-! ## Requests that fail -/

/-- No row that a request has committed is gone when the request reads it back. -/
def KeepsCommitted (system : ApiSystem) : ApiAction → Prop
  | .run index =>
      match system.running[index]? with
      | some thread =>
          match thread.program, thread.history.getLast? with
          | .select _, some (.wrote write id) => Stays write id system.rows
          | _, _ => True
      | none => True
  | _ => True

instance (system : ApiSystem) (action : ApiAction) : Decidable (KeepsCommitted system action) := by
  unfold KeepsCommitted
  repeat' split
  all_goals infer_instance

/-- Requests that have answered with an error have committed nothing. -/
def FailsUnwritten (system : ApiSystem) : Prop :=
  ∀ thread ∈ system.running, ∀ answer, thread.program.answerOf = some answer →
    answer.Fails → Unwritten thread.history

/-- A statement that leaves a committed row behind lost has just read it back. -/
theorem stays_of_keepsCommitted {index : ℕ} {before after : Running Request Rows Write ℕ WriteError Answer}
    {changed : Rows} (hkeeps : KeepsCommitted system (.run index))
    (hbefore : system.running[index]? = some before)
    (hstatement : System.statement Rows.apply before system.rows = some (after, changed)) :
    ¬ LostRow after.history := by
  rintro ⟨earlier, write, id, rows, hhistory, hlost⟩
  have hsplit : after.history = (earlier ++ [.wrote write id]) ++ [.read rows] := by
    rw [hhistory, List.append_assoc]
    rfl
  rcases System.statement_cases _ hstatement with ⟨rest, hprogram, -, rfl⟩ |
    ⟨other, rest, value, -, -, rfl⟩ | ⟨other, rest, error, -, -, -, rfl⟩
  · rcases List.append_inj' hsplit rfl with ⟨hold, hread⟩
    have hrows : system.rows = rows := by simpa using hread
    have hlast : before.history.getLast? = some (.wrote write id) := by
      rw [hold, List.getLast?_concat]
    simp only [KeepsCommitted, hbefore, hprogram, hlast] at hkeeps
    rw [hrows] at hkeeps
    exact hlost hkeeps
  · have hlast := (List.append_inj' hsplit rfl).2
    simp at hlast
  · have hlast := (List.append_inj' hsplit rfl).2
    simp at hlast

theorem FailsUnwritten.step (h : FailsUnwritten system) (hnext : Sound next)
    (hkeeps : KeepsCommitted system action) (hact : act system action = some next) :
    FailsUnwritten next := by
  intro thread hmem answer hanswer hfails
  rcases System.mem_running_act _ _ _ hact hmem with
    hold | ⟨request, rfl⟩ | ⟨index, before, rfl, hbefore, hstatement⟩
  · exact h thread hold answer hanswer hfails
  · exact Unwritten.nil
  · have hanswered := (hnext.verified thread hmem).answers hanswer
    rcases hanswered.fails hfails with hunwritten | hlost
    · exact hunwritten
    · exact absurd hlost (stays_of_keepsCommitted hkeeps hbefore hstatement)

end

/-! ## Over every run -/

/-- Authorisation in a state, and in every action from it. -/
structure Safe (system : ApiSystem) : Prop where
  owners : OwnersAreMembers system.rows
  unique : ∀ first second row, system.rows.members.lookup first = some row →
    system.rows.members.lookup second = some row → first = second
  access : ∀ thread ∈ system.running, ∀ channelId,
    thread.request.call = .checkChannelAccess channelId →
      ∀ answer, thread.program.answerOf = some answer → answer.status = 200 →
        ∃ userId channel, thread.request.caller = some userId ∧
          Saw (fun rows => rows.channels.lookup channelId = some channel) thread.history ∧
            Saw (fun rows => rows.IsMember channel.serverId userId) thread.history
  failed : FailsUnwritten system
  steps : ∀ action next, act system action = some next → StepAuthorised system action next

/-- One action that loses no committed row. -/
def Step (system next : ApiSystem) : Prop :=
  ∃ action, KeepsCommitted system action ∧ act system action = some next

theorem sound_of_reachable {system : ApiSystem} (h : Reachable Initial Step system) :
    Sound system := by
  apply Reachable.invariant _ _ h
  · exact fun _ hinitial => hinitial.sound
  · rintro state next - hsound ⟨action, -, hact⟩
    exact hsound.step hact

theorem failsUnwritten_of_reachable {system : ApiSystem} (h : Reachable Initial Step system) :
    FailsUnwritten system := by
  apply Reachable.invariant _ _ h
  · intro state hinitial thread hmem
    rw [hinitial.running] at hmem
    contradiction
  · rintro state next hstate hfails ⟨action, hkeeps, hact⟩
    exact hfails.step ((sound_of_reachable hstate).step hact) hkeeps hact

/-- In every run in which no committed row is gone when it is read back, memberships
and rows are changed by those who may, and requests that fail change nothing. -/
theorem api_authorised {system : ApiSystem} (h : Reachable Initial Step system) :
    Safe system := by
  have hsound := sound_of_reachable h
  refine ⟨hsound.owners, ?_, ?_, failsUnwritten_of_reachable h, ?_⟩
  · intro first second row hfirst hsecond
    exact hsound.consistent.memberUnique first second row row hfirst hsecond rfl
  · intro thread hmem channelId hcall answer hanswer hstatus
    exact ((hsound.verified thread hmem).answers hanswer).access channelId hcall hstatus
  · exact fun action next hact => stepAuthorised_of_sound hsound hact

/-- Two users, and a server of the first. -/
def createActions : List ApiAction :=
  [.other (.register { username := [97] }), .other (.register { username := [98] }),
    .arrive ⟨some 1, .createServer [115] none⟩, .run 0, .run 0, .run 0]

/-- The owner adds the second user. -/
def addActions : List ApiAction :=
  [.arrive ⟨some 1, .addServerMember 1 2⟩, .run 1, .run 1, .run 1, .run 1, .run 1]

def addedSystem : ApiSystem :=
  (execute KeepsCommitted act { rows := {} } (createActions ++ addActions)).getD { rows := {} }

theorem initial_empty : Initial { rows := {} } := by
  refine ⟨rfl, Consistent.empty, ?_⟩
  intro id server hlookup
  contradiction

theorem reachable_addedSystem : Reachable Initial Step addedSystem :=
  Reachable.execute (fun _ action _ hkeeps hact => ⟨action, hkeeps, hact⟩)
    (Reachable.start initial_empty) (execute_eq_some_getD (by decide +kernel))

theorem addedSystem_authorised : Safe addedSystem :=
  api_authorised reachable_addedSystem

/-- The owner renames the server and deletes it before the first request reads it back. -/
def renameActions : List ApiAction :=
  [.arrive ⟨some 1, .updateServer 1 (some [116]) none⟩, .run 1, .run 1, .run 1,
    .arrive ⟨some 1, .deleteServer 1⟩, .run 2, .run 2, .run 2, .run 1]

def renamedSystem : ApiSystem :=
  (execute (fun _ _ => True) act { rows := {} } (createActions ++ renameActions)).getD
    { rows := {} }

/-- The request has committed something. -/
def hasWritten (history : History) : Bool :=
  history.any fun executed =>
    match executed with
    | .wrote _ _ => true
    | _ => false

theorem unwritten_iff_hasWritten {history : History} :
    Unwritten history ↔ hasWritten history = false := by
  rw [hasWritten, List.any_eq_false]
  constructor
  · intro h executed hmem
    cases executed with
    | wrote write id => exact absurd hmem (h write id)
    | read rows => exact Bool.false_ne_true
    | refused write error => exact Bool.false_ne_true
  · exact fun h write id hmem => h _ hmem rfl

/-- A request answers with an error after it has committed. -/
theorem failed_request_has_committed :
    ∃ system, Reachable Initial (fun state next => ∃ action, act state action = some next)
        system ∧ ¬ FailsUnwritten system := by
  refine ⟨renamedSystem, Reachable.execute (fun _ action _ _ hact => ⟨action, hact⟩)
    (Reachable.start initial_empty) (execute_eq_some_getD (by decide +kernel)), ?_⟩
  have hthread : (renamedSystem.running[1]?.map fun thread =>
      (thread.program.answerOf, hasWritten thread.history)) =
        some (some { status := 500 }, true) := by decide +kernel
  rcases Option.map_eq_some_iff.mp hthread with ⟨thread, hindex, hpair⟩
  rcases Prod.mk.inj hpair with ⟨hanswer, hwritten⟩
  intro hfails
  have hunwritten := hfails thread (List.mem_of_getElem? hindex) _ hanswer (by decide)
  rw [unwritten_iff_hasWritten, hwritten] at hunwritten
  contradiction

end Api
end Driscord
