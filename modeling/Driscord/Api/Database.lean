import Driscord.Bytes
import Driscord.Library.Table

/-!
# The database of the API

The rows of users, servers, members, invites and channels, each under its
primary key, and the writes that a transaction commits.  A commit checks the
unique constraints and the foreign keys; deleting a server deletes the rows that
refer to it.

Rows that are flushed but not committed are seen by nobody else and keep the keys
that they use locked, so the writes of a transaction take effect together when it
commits.

Main results:

- Theorem `Consistent.perform`: every commit keeps the constraints.
- Theorems `members_perform`, `servers_perform`, `channels_perform`: what a commit
  changes in each table.
- Theorem `Keeps.perform`: no commit changes the owner of a server, the server of a
  channel or of an invite, or uses a primary key again.
-/

namespace Driscord
namespace Api

open Library

/-! ## Rows -/

/-- `User`. -/
structure User where
  username : Bytes
  displayName : Option Bytes := none
deriving DecidableEq, Repr

/-- `Server`. -/
structure Server where
  name : Bytes
  description : Option Bytes := none
  ownerId : ℕ
deriving DecidableEq, Repr

/-- `ServerMember`. -/
structure ServerMember where
  serverId : ℕ
  userId : ℕ
deriving DecidableEq, Repr

/-- `ServerInvite`. -/
structure ServerInvite where
  code : Bytes
  serverId : ℕ
  creatorId : ℕ
deriving DecidableEq, Repr

/-- `ChannelKind`. -/
inductive ChannelKind where
  | voice
  | text
deriving DecidableEq, Repr

/-- `Channel`. -/
structure Channel where
  serverId : ℕ
  name : Bytes
  kind : ChannelKind := .voice
  position : ℕ := 0
deriving DecidableEq, Repr

/-- The committed rows, and the next value of every primary key. -/
structure Rows where
  users : Table ℕ User := ∅
  servers : Table ℕ Server := ∅
  members : Table ℕ ServerMember := ∅
  invites : Table ℕ ServerInvite := ∅
  channels : Table ℕ Channel := ∅
  nextUser : ℕ := 1
  nextServer : ℕ := 1
  nextMember : ℕ := 1
  nextInvite : ℕ := 1
  nextChannel : ℕ := 1

namespace Rows

/-- The membership row of a user. -/
def memberOf (rows : Rows) (serverId userId : ℕ) : Option (ℕ × ServerMember) :=
  Table.findEntry (fun _ row => decide (row.serverId = serverId ∧ row.userId = userId))
    rows.members

/-- The invite with a code. -/
def inviteOf (rows : Rows) (code : Bytes) : Option (ℕ × ServerInvite) :=
  Table.findEntry (fun _ row => decide (row.code = code)) rows.invites

/-- The user has a membership row of the server. -/
def IsMember (rows : Rows) (serverId userId : ℕ) : Prop :=
  ∃ id, rows.members.lookup id = some ⟨serverId, userId⟩

/-- The code is one of an invite to the server. -/
def Invites (rows : Rows) (code : Bytes) (serverId : ℕ) : Prop :=
  ∃ id creatorId, rows.invites.lookup id = some ⟨code, serverId, creatorId⟩

theorem memberOf_eq_some {rows : Rows} {serverId userId id : ℕ} {row : ServerMember}
    (h : rows.memberOf serverId userId = some (id, row)) :
    rows.members.lookup id = some row ∧ row = ⟨serverId, userId⟩ := by
  rcases Table.lookup_of_findEntry h with ⟨hlookup, htest⟩
  rcases of_decide_eq_true htest with ⟨hserver, huser⟩
  refine ⟨hlookup, ?_⟩
  rw [← hserver, ← huser]

theorem isMember_of_memberOf {rows : Rows} {serverId userId id : ℕ} {row : ServerMember}
    (h : rows.memberOf serverId userId = some (id, row)) : rows.IsMember serverId userId := by
  rcases memberOf_eq_some h with ⟨hlookup, rfl⟩
  exact ⟨id, hlookup⟩

theorem memberOf_eq_none_iff {rows : Rows} {serverId userId : ℕ} :
    rows.memberOf serverId userId = none ↔ ¬ rows.IsMember serverId userId := by
  rw [memberOf, Table.findEntry_eq_none_iff]
  constructor
  · rintro h ⟨id, hlookup⟩
    simpa using h id _ hlookup
  · intro h id row hlookup
    rw [decide_eq_false_iff_not]
    rintro ⟨rfl, rfl⟩
    exact h ⟨id, hlookup⟩

theorem inviteOf_eq_some {rows : Rows} {code : Bytes} {id : ℕ} {row : ServerInvite}
    (h : rows.inviteOf code = some (id, row)) :
    rows.invites.lookup id = some row ∧ row.code = code := by
  rcases Table.lookup_of_findEntry h with ⟨hlookup, htest⟩
  exact ⟨hlookup, of_decide_eq_true htest⟩

theorem inviteOf_eq_none_iff {rows : Rows} {code : Bytes} :
    rows.inviteOf code = none ↔
      ∀ id row, rows.invites.lookup id = some row → row.code ≠ code := by
  rw [inviteOf, Table.findEntry_eq_none_iff]
  constructor
  · intro h id row hlookup
    simpa using h id row hlookup
  · intro h id row hlookup
    simpa using h id row hlookup

end Rows

/-! ## Writes -/

/-- What a transaction commits. -/
inductive Write where
  /-- The server and the membership of its owner. -/
  | createServer (name : Bytes) (description : Option Bytes) (ownerId : ℕ)
  | updateServer (id : ℕ) (name : Option Bytes) (description : Option (Option Bytes))
  | deleteServer (id : ℕ)
  | addMember (serverId userId : ℕ)
  | deleteMember (id : ℕ)
  | addInvite (code : Bytes) (serverId creatorId : ℕ)
  | deleteInvite (id : ℕ)
  | addChannel (channel : Channel)
  | updateChannel (id : ℕ) (name : Option Bytes) (position : Option ℕ)
  | deleteChannel (id : ℕ)
deriving DecidableEq, Repr

/-- `IntegrityError`, and `StaleDataError` of an update that matches no row. -/
inductive WriteError where
  | integrity
  | stale
deriving DecidableEq, Repr

namespace Rows

/-- A server without its rows. -/
def withoutServer (rows : Rows) (serverId : ℕ) : Rows :=
  { rows with
    servers := rows.servers.erase serverId
    members := Table.filterMapValues (fun _ row =>
      if row.serverId = serverId then none else some row) rows.members
    invites := Table.filterMapValues (fun _ row =>
      if row.serverId = serverId then none else some row) rows.invites
    channels := Table.filterMapValues (fun _ row =>
      if row.serverId = serverId then none else some row) rows.channels }

/-- A new server. -/
def insertServer (rows : Rows) (server : Server) : Rows :=
  { rows with
    servers := rows.servers.insert rows.nextServer server
    nextServer := rows.nextServer + 1 }

/-- A new membership row. -/
def insertMember (rows : Rows) (serverId userId : ℕ) : Rows :=
  { rows with
    members := rows.members.insert rows.nextMember ⟨serverId, userId⟩
    nextMember := rows.nextMember + 1 }

/-- The constraint that a write breaks. -/
def refusal (write : Write) (rows : Rows) : Option WriteError :=
  match write with
  | .createServer _ _ ownerId => if ownerId ∈ rows.users then none else some .integrity
  | .updateServer id _ _ => if id ∈ rows.servers then none else some .stale
  | .addMember serverId userId =>
      if serverId ∈ rows.servers ∧ userId ∈ rows.users ∧
          rows.memberOf serverId userId = none then none
      else some .integrity
  | .addInvite code serverId creatorId =>
      if serverId ∈ rows.servers ∧ creatorId ∈ rows.users ∧ rows.inviteOf code = none then none
      else some .integrity
  | .addChannel channel => if channel.serverId ∈ rows.servers then none else some .integrity
  | .updateChannel id _ _ => if id ∈ rows.channels then none else some .stale
  -- A delete that matches no row only warns.
  | .deleteServer _ | .deleteMember _ | .deleteInvite _ | .deleteChannel _ => none

/-- The primary key of the row that is written. -/
def key (write : Write) (rows : Rows) : ℕ :=
  match write with
  | .createServer _ _ _ => rows.nextServer
  | .addMember _ _ => rows.nextMember
  | .addInvite _ _ _ => rows.nextInvite
  | .addChannel _ => rows.nextChannel
  | .updateServer id _ _ | .deleteServer id | .deleteMember id | .deleteInvite id
  | .updateChannel id _ _ | .deleteChannel id => id

/-- The rows after a write. -/
def perform (write : Write) (rows : Rows) : Rows :=
  match write with
  | .createServer name description ownerId =>
      insertMember (rows.insertServer { name, description, ownerId }) rows.nextServer ownerId
  | .updateServer id name description =>
      { rows with
        servers := Table.modify id (fun server =>
          { server with
            name := name.getD server.name
            description := description.getD server.description }) rows.servers }
  | .deleteServer id => rows.withoutServer id
  | .addMember serverId userId => rows.insertMember serverId userId
  | .deleteMember id => { rows with members := rows.members.erase id }
  | .addInvite code serverId creatorId =>
      { rows with
        invites := rows.invites.insert rows.nextInvite ⟨code, serverId, creatorId⟩
        nextInvite := rows.nextInvite + 1 }
  | .deleteInvite id => { rows with invites := rows.invites.erase id }
  | .addChannel channel =>
      { rows with
        channels := rows.channels.insert rows.nextChannel channel
        nextChannel := rows.nextChannel + 1 }
  | .updateChannel id name position =>
      { rows with
        channels := Table.modify id (fun channel =>
          { channel with
            name := name.getD channel.name
            position := position.getD channel.position }) rows.channels }
  | .deleteChannel id => { rows with channels := rows.channels.erase id }

/-- A commit: the primary key that was written, and the new rows. -/
def apply (write : Write) (rows : Rows) : Except WriteError (ℕ × Rows) :=
  match rows.refusal write with
  | some error => Except.error error
  | none => Except.ok (rows.key write, rows.perform write)

theorem apply_eq_ok {write : Write} {rows changed : Rows} {id : ℕ}
    (h : rows.apply write = Except.ok (id, changed)) :
    rows.refusal write = none ∧ id = rows.key write ∧ changed = rows.perform write := by
  unfold apply at h
  split at h
  · contradiction
  · rename_i hnone
    rw [Except.ok.injEq, Prod.mk.injEq] at h
    exact ⟨hnone, h.1.symm, h.2.symm⟩

end Rows

/-- What the other requests do to users: no route deletes one. -/
inductive UserChange where
  | register (user : User)
  | updateProfile (id : ℕ) (user : User)
deriving DecidableEq, Repr

/-- The rows after a change of the users. -/
def Rows.changeUser (change : UserChange) (rows : Rows) : Rows :=
  match change with
  | .register user =>
      { rows with
        users := rows.users.insert rows.nextUser user
        nextUser := rows.nextUser + 1 }
  | .updateProfile id user =>
      { rows with users := Table.modify id (fun _ => user) rows.users }


/-! ## Constraints -/

/-- The foreign keys, the unique constraints, and primary keys below the next ones. -/
structure Consistent (rows : Rows) : Prop where
  userKeys : Table.All (fun id _ => id < rows.nextUser) rows.users
  serverKeys : Table.All (fun id _ => id < rows.nextServer) rows.servers
  memberKeys : Table.All (fun id _ => id < rows.nextMember) rows.members
  inviteKeys : Table.All (fun id _ => id < rows.nextInvite) rows.invites
  channelKeys : Table.All (fun id _ => id < rows.nextChannel) rows.channels
  memberServers : Table.All (fun _ row => row.serverId ∈ rows.servers) rows.members
  memberUsers : Table.All (fun _ row => row.userId ∈ rows.users) rows.members
  inviteServers : Table.All (fun _ row => row.serverId ∈ rows.servers) rows.invites
  channelServers : Table.All (fun _ row => row.serverId ∈ rows.servers) rows.channels
  memberUnique : Table.Unique id rows.members
  inviteUnique : Table.Unique ServerInvite.code rows.invites

theorem Consistent.empty : Consistent {} := by
  constructor <;> intro <;> intros <;> contradiction

/-- Keys below the next one, after a row was inserted there. -/
theorem all_below {α : Type} {table : Table ℕ α} {next : ℕ}
    (h : Table.All (fun id _ => id < next) table) {value : α} :
    Table.All (fun id _ => id < next + 1) (table.insert next value) :=
  (h.mono fun _ _ hlt => Nat.lt_succ_of_lt hlt).insert (Nat.lt_succ_self next)

theorem mem_insert_of_mem {α : Type} {table : Table ℕ α} {id : ℕ} (h : id ∈ table) (key : ℕ)
    (value : α) : id ∈ table.insert key value :=
  (AList.mem_insert _).mpr (Or.inr h)

theorem mem_erase_of_ne {servers : Table ℕ Server} {serverId other : ℕ}
    (hmem : other ∈ servers) (hne : other ≠ serverId) : other ∈ servers.erase serverId :=
  AList.mem_erase.mpr ⟨hne, hmem⟩

namespace Consistent

variable {rows : Rows}

theorem changeUser (h : Consistent rows) (change : UserChange) :
    Consistent (rows.changeUser change) := by
  cases change with
  | register user =>
      exact { h with
        userKeys := all_below h.userKeys
        memberUsers := h.memberUsers.mono fun _ _ hmem => mem_insert_of_mem hmem _ _ }
  | updateProfile id user =>
      exact { h with
        userKeys := h.userKeys.modify id fun _ hlt => hlt
        memberUsers := h.memberUsers.mono fun _ _ hmem => (Table.mem_modify _ _ _ _).mpr hmem }

theorem insertServer (h : Consistent rows) (server : Server) :
    Consistent (rows.insertServer server) :=
  { h with
    serverKeys := all_below h.serverKeys
    memberServers := h.memberServers.mono fun _ _ hmem => mem_insert_of_mem hmem _ _
    inviteServers := h.inviteServers.mono fun _ _ hmem => mem_insert_of_mem hmem _ _
    channelServers := h.channelServers.mono fun _ _ hmem => mem_insert_of_mem hmem _ _ }

theorem insertMember (h : Consistent rows) {serverId userId : ℕ}
    (hserver : serverId ∈ rows.servers) (huser : userId ∈ rows.users)
    (hnew : ¬ rows.IsMember serverId userId) :
    Consistent (rows.insertMember serverId userId) where
  userKeys := h.userKeys
  serverKeys := h.serverKeys
  memberKeys := all_below h.memberKeys
  inviteKeys := h.inviteKeys
  channelKeys := h.channelKeys
  memberServers := h.memberServers.insert hserver
  memberUsers := h.memberUsers.insert huser
  inviteServers := h.inviteServers
  channelServers := h.channelServers
  memberUnique := by
    refine h.memberUnique.insert ?_
    rintro id row hlookup rfl
    exact hnew ⟨id, hlookup⟩
  inviteUnique := h.inviteUnique

theorem withoutServer (h : Consistent rows) (serverId : ℕ) :
    Consistent (rows.withoutServer serverId) where
  userKeys := h.userKeys
  serverKeys := h.serverKeys.erase serverId
  memberKeys := (h.memberKeys.reject _).mono fun _ _ hkept => hkept.1
  inviteKeys := (h.inviteKeys.reject _).mono fun _ _ hkept => hkept.1
  channelKeys := (h.channelKeys.reject _).mono fun _ _ hkept => hkept.1
  memberServers := (h.memberServers.reject _).mono fun _ _ hkept =>
    mem_erase_of_ne hkept.1 hkept.2
  memberUsers := (h.memberUsers.reject _).mono fun _ _ hkept => hkept.1
  inviteServers := (h.inviteServers.reject _).mono fun _ _ hkept =>
    mem_erase_of_ne hkept.1 hkept.2
  channelServers := (h.channelServers.reject _).mono fun _ _ hkept =>
    mem_erase_of_ne hkept.1 hkept.2
  memberUnique := h.memberUnique.reject _
  inviteUnique := h.inviteUnique.reject _

/-- The next server has no members yet. -/
theorem not_isMember_nextServer (h : Consistent rows) (userId : ℕ) :
    ¬ rows.IsMember rows.nextServer userId := by
  rintro ⟨member, hlookup⟩
  have hmem := h.memberServers member _ hlookup
  obtain ⟨server, hserver⟩ := Table.mem_iff_exists_lookup.mp hmem
  exact absurd (h.serverKeys _ server hserver) (lt_irrefl _)

/-- Every commit keeps the constraints. -/
theorem perform (h : Consistent rows) {write : Write} (hfine : rows.refusal write = none) :
    Consistent (rows.perform write) := by
  cases write with
  | createServer name description ownerId =>
      have huser : ownerId ∈ rows.users := by
        by_contra hmissing
        rw [Rows.refusal, if_neg hmissing] at hfine
        contradiction
      apply (h.insertServer _).insertMember _ huser (h.not_isMember_nextServer ownerId)
      exact (AList.mem_insert _).mpr (Or.inl rfl)
  | updateServer id name description =>
      have hsame : ∀ other, other ∈ rows.servers →
          other ∈ (rows.perform (.updateServer id name description)).servers :=
        fun other hmem => (Table.mem_modify _ _ _ other).mpr hmem
      exact { h with
        serverKeys := h.serverKeys.modify id fun _ hlt => hlt
        memberServers := h.memberServers.mono fun _ _ => hsame _
        inviteServers := h.inviteServers.mono fun _ _ => hsame _
        channelServers := h.channelServers.mono fun _ _ => hsame _ }
  | deleteServer id => exact h.withoutServer id
  | addMember serverId userId =>
      by_cases haccepts : serverId ∈ rows.servers ∧ userId ∈ rows.users ∧
          rows.memberOf serverId userId = none
      · exact h.insertMember haccepts.1 haccepts.2.1
          (Rows.memberOf_eq_none_iff.mp haccepts.2.2)
      · rw [Rows.refusal, if_neg haccepts] at hfine
        contradiction
  | deleteMember id =>
      exact { h with
        memberKeys := h.memberKeys.erase id
        memberServers := h.memberServers.erase id
        memberUsers := h.memberUsers.erase id
        memberUnique := h.memberUnique.erase id }
  | addInvite code serverId creatorId =>
      by_cases haccepts : serverId ∈ rows.servers ∧ creatorId ∈ rows.users ∧
          rows.inviteOf code = none
      · exact { h with
          inviteKeys := all_below h.inviteKeys
          inviteServers := h.inviteServers.insert haccepts.1
          inviteUnique := h.inviteUnique.insert (Rows.inviteOf_eq_none_iff.mp haccepts.2.2) }
      · rw [Rows.refusal, if_neg haccepts] at hfine
        contradiction
  | deleteInvite id =>
      exact { h with
        inviteKeys := h.inviteKeys.erase id
        inviteServers := h.inviteServers.erase id
        inviteUnique := h.inviteUnique.erase id }
  | addChannel channel =>
      by_cases hserver : channel.serverId ∈ rows.servers
      · exact { h with
          channelKeys := all_below h.channelKeys
          channelServers := h.channelServers.insert hserver }
      · rw [Rows.refusal, if_neg hserver] at hfine
        contradiction
  | updateChannel id name position =>
      exact { h with
        channelKeys := h.channelKeys.modify id fun _ hlt => hlt
        channelServers := h.channelServers.modify id fun _ hmem => hmem }
  | deleteChannel id =>
      exact { h with
        channelKeys := h.channelKeys.erase id
        channelServers := h.channelServers.erase id }

end Consistent

/-! ## What a commit changes -/

section

variable {rows : Rows} {write : Write} {id : ℕ}

/-- A membership is new only by a new server or by adding a member. -/
theorem members_perform {row : ServerMember}
    (h : (rows.perform write).members.lookup id = some row) :
    rows.members.lookup id = some row ∨
      (∃ name description, write = .createServer name description row.userId ∧
        row.serverId = rows.nextServer) ∨
        write = .addMember row.serverId row.userId := by
  cases write with
  | createServer name description ownerId =>
      rcases Table.lookup_insert_cases h with ⟨-, rfl⟩ | ⟨-, hold⟩
      · exact Or.inr (Or.inl ⟨name, description, rfl, rfl⟩)
      · exact Or.inl hold
  | addMember serverId userId =>
      rcases Table.lookup_insert_cases h with ⟨-, rfl⟩ | ⟨-, hold⟩
      · exact Or.inr (Or.inr rfl)
      · exact Or.inl hold
  | deleteServer serverId => exact Or.inl (Table.lookup_of_lookup_reject h)
  | deleteMember memberId => exact Or.inl (Table.lookup_of_lookup_erase h).2
  | _ => exact Or.inl h

/-- A server differs only by a write about that server. -/
theorem servers_perform (h : (rows.perform write).servers.lookup id ≠ rows.servers.lookup id) :
    (∃ name description ownerId, write = .createServer name description ownerId ∧
        id = rows.nextServer ∧
          (rows.perform write).servers.lookup id = some { name, description, ownerId }) ∨
      (∃ name description, write = .updateServer id name description) ∨
        write = .deleteServer id := by
  cases write with
  | createServer name description ownerId =>
      by_cases hid : id = rows.nextServer
      · subst hid
        exact Or.inl ⟨name, description, ownerId, rfl, rfl, AList.lookup_insert _⟩
      · exact absurd (AList.lookup_insert_ne hid) h
  | updateServer serverId name description =>
      by_cases hid : id = serverId
      · exact Or.inr (Or.inl ⟨name, description, by rw [hid]⟩)
      · exact absurd (Table.lookup_modify_ne _ _ hid) h
  | deleteServer serverId =>
      by_cases hid : id = serverId
      · exact Or.inr (Or.inr (by rw [hid]))
      · exact absurd (AList.lookup_erase_ne hid) h
  | _ => exact absurd rfl h

/-- A channel differs only by a write about it, or with its server. -/
theorem channels_perform
    (h : (rows.perform write).channels.lookup id ≠ rows.channels.lookup id) :
    (∃ channel, write = .addChannel channel ∧
        (rows.perform write).channels.lookup id = some channel) ∨
      (∃ channel, rows.channels.lookup id = some channel ∧
        ((∃ name position, write = .updateChannel id name position) ∨
          write = .deleteChannel id ∨ write = .deleteServer channel.serverId)) := by
  cases write with
  | addChannel channel =>
      by_cases hid : id = rows.nextChannel
      · subst hid
        exact Or.inl ⟨channel, rfl, AList.lookup_insert _⟩
      · exact absurd (AList.lookup_insert_ne hid) h
  | updateChannel channelId name position =>
      by_cases hid : id = channelId
      · subst hid
        cases hchannel : rows.channels.lookup id with
        | none =>
            refine absurd ?_ h
            simp [Rows.perform, hchannel]
        | some channel => exact Or.inr ⟨channel, rfl, Or.inl ⟨name, position, rfl⟩⟩
      · exact absurd (Table.lookup_modify_ne _ _ hid) h
  | deleteChannel channelId =>
      by_cases hid : id = channelId
      · subst hid
        cases hchannel : rows.channels.lookup id with
        | none =>
            refine absurd ?_ h
            simp [Rows.perform, hchannel]
        | some channel => exact Or.inr ⟨channel, rfl, Or.inr (Or.inl rfl)⟩
      · exact absurd (AList.lookup_erase_ne hid) h
  | deleteServer serverId =>
      have hkept := Table.lookup_filterMapValues (fun _ (row : Channel) =>
        if row.serverId = serverId then none else some row) rows.channels id
      cases hchannel : rows.channels.lookup id with
      | none =>
          rw [hchannel] at h hkept
          exact absurd hkept h
      | some channel =>
          by_cases hserver : channel.serverId = serverId
          · exact Or.inr ⟨channel, rfl, Or.inr (Or.inr (by rw [hserver]))⟩
          · rw [hchannel, Option.bind_some, if_neg hserver] at hkept
            rw [hchannel] at h
            exact absurd hkept h
  | _ => exact absurd rfl h

end

/-! ## What no commit changes -/

/-- Rows and later rows: primary keys are not used again, and the owner of a server,
the server of a channel, memberships and invites do not change. -/
structure Keeps (before after : Rows) : Prop where
  servers : Table.Evolves (fun server later => later.ownerId = server.ownerId)
    before.nextServer after.nextServer before.servers after.servers
  members : Table.Evolves (fun row later => later = row)
    before.nextMember after.nextMember before.members after.members
  invites : Table.Evolves (fun row later => later = row)
    before.nextInvite after.nextInvite before.invites after.invites
  channels : Table.Evolves (fun channel later => later.serverId = channel.serverId)
    before.nextChannel after.nextChannel before.channels after.channels

namespace Keeps

variable {before rows : Rows}

theorem refl (rows : Rows) : Keeps rows rows := by
  constructor <;>
    · apply Table.Evolves.refl
      intro value
      rfl

theorem changeUser (h : Keeps before rows) (change : UserChange) :
    Keeps before (rows.changeUser change) := by
  cases change <;> exact { h with }

theorem perform (h : Keeps before rows) (write : Write) :
    Keeps before (rows.perform write) := by
  cases write with
  | createServer name description ownerId =>
      exact { h with servers := h.servers.insert _, members := h.members.insert _ }
  | updateServer id name description =>
      exact { h with servers := h.servers.modify id fun _ _ hsame => hsame }
  | deleteServer id =>
      exact ⟨h.servers.erase id, h.members.reject _, h.invites.reject _, h.channels.reject _⟩
  | addMember serverId userId => exact { h with members := h.members.insert _ }
  | deleteMember id => exact { h with members := h.members.erase id }
  | addInvite code serverId creatorId => exact { h with invites := h.invites.insert _ }
  | deleteInvite id => exact { h with invites := h.invites.erase id }
  | addChannel channel => exact { h with channels := h.channels.insert _ }
  | updateChannel id name position =>
      exact { h with channels := h.channels.modify id fun _ _ hsame => hsame }
  | deleteChannel id => exact { h with channels := h.channels.erase id }

end Keeps

end Api
end Driscord
