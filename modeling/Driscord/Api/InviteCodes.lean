import Driscord.Api.Handlers

/-!
# Invite codes that are in use

`create_invite` tries five codes.  After a collision it rolls back, which expires
the row of the caller, and the next attempt reads that row.

Main results:

- Theorem `createInvite_unused`: an unused first code gives one new invite.
- Theorem `createInvite_used`: a first code in use makes the request fail.
- Theorem `createInvite_survives_iff`: the loop does what it is for exactly if it
  is not needed.
-/

namespace Driscord
namespace Api

open Library

/-- An invite has the code. -/
def InUse (rows : Rows) (code : Bytes) : Prop :=
  ∃ id row, rows.invites.lookup id = some row ∧ row.code = code

theorem not_inUse_iff {rows : Rows} {code : Bytes} :
    ¬ InUse rows code ↔ rows.inviteOf code = none := by
  rw [Rows.inviteOf_eq_none_iff]
  constructor
  · intro h id row hlookup hcode
    exact h ⟨id, row, hlookup, hcode⟩
  · rintro h ⟨id, row, hlookup, hcode⟩
    exact h id row hlookup hcode

/-- One invite is new, and nothing else of the invites differs. -/
def GainsInvite (before after : Rows) (invite : ServerInvite) : Prop :=
  ∃ id, before.invites.lookup id = none ∧ after.invites.lookup id = some invite ∧
    ∀ other, other ≠ id → after.invites.lookup other = before.invites.lookup other

/-- The first unused one of five codes becomes an invite, and without one the answer
is 503 and the invites are the same. -/
def SurvivesCollisions (rows : Rows) (callerId serverId : ℕ) (codes : ℕ → Bytes) : Prop :=
  let outcome := (createInvite (some callerId) serverId codes).alone Rows.apply rows
  (∀ attempt, attempt < 5 → (∀ earlier, earlier < attempt → InUse rows (codes earlier)) →
    ¬ InUse rows (codes attempt) →
      outcome.1 = ⟨201, .invite ⟨codes attempt, serverId, callerId⟩⟩ ∧
        GainsInvite rows outcome.2 ⟨codes attempt, serverId, callerId⟩) ∧
    ((∀ attempt, attempt < 5 → InUse rows (codes attempt)) →
      outcome.1.status = 503 ∧ outcome.2.invites = rows.invites)

section

variable {rows : Rows} {callerId serverId : ℕ} {codes : ℕ → Bytes}

/-- A member passes the checks before the loop. -/
theorem createInvite_alone (hrows : Consistent rows) (hmember : rows.IsMember serverId callerId) :
    (createInvite (some callerId) serverId codes).alone Rows.apply rows =
      (generateInvite serverId callerId codes maxGenAttempts 0 false).alone Rows.apply rows := by
  obtain ⟨id, hlookup⟩ := hmember
  obtain ⟨user, huser⟩ := Table.mem_iff_exists_lookup.mp (hrows.memberUsers id _ hlookup)
  obtain ⟨server, hserver⟩ := Table.mem_iff_exists_lookup.mp (hrows.memberServers id _ hlookup)
  have hentry : ∃ entry, rows.memberOf serverId callerId = some entry := by
    rw [← Option.ne_none_iff_exists']
    intro hnone
    exact Rows.memberOf_eq_none_iff.mp hnone ⟨id, hlookup⟩
  obtain ⟨entry, hentry⟩ := hentry
  have hcaller : (rows.users.lookup callerId).map (fun user => (callerId, user)) =
      some (callerId, user) := by
    rw [huser, Option.map_some]
  unfold createInvite getCurrentUser requireServerMember getServerOr404
  rw [alone_queryOr_bind hcaller, Program.bind_assoc, alone_queryOr_bind hserver,
    Program.bind_assoc, alone_queryOr_bind hentry]
  rfl

theorem refusal_addInvite (hrows : Consistent rows) (hmember : rows.IsMember serverId callerId)
    (code : Bytes) :
    rows.refusal (.addInvite code serverId callerId) =
      if rows.inviteOf code = none then none else some .integrity := by
  obtain ⟨id, hlookup⟩ := hmember
  have huser : callerId ∈ rows.users := hrows.memberUsers id _ hlookup
  have hserver : serverId ∈ rows.servers := hrows.memberServers id _ hlookup
  simp [Rows.refusal, huser, hserver]

/-- An attempt whose code collides leaves the rest of the loop with an expired caller. -/
theorem generateInvite_used {attempts attempt : ℕ}
    (hcommit : rows.apply (.addInvite (codes attempt) serverId callerId) =
      Except.error .integrity) :
    (generateInvite serverId callerId codes (attempts + 1) attempt false).alone Rows.apply rows =
      (generateInvite serverId callerId codes attempts (attempt + 1) true).alone
        Rows.apply rows := by
  rw [generateInvite, if_neg Bool.false_ne_true, Program.alone, hcommit]

/-- An attempt whose code does not collide ends the loop. -/
theorem generateInvite_unused {attempts attempt id : ℕ} {changed : Rows} {invite : ServerInvite}
    (hcommit : rows.apply (.addInvite (codes attempt) serverId callerId) =
      Except.ok (id, changed))
    (hfound : changed.invites.lookup id = some invite) :
    (generateInvite serverId callerId codes (attempts + 1) attempt false).alone Rows.apply rows =
      (⟨201, .invite invite⟩, changed) := by
  rw [generateInvite, if_neg Bool.false_ne_true, Program.alone, hcommit]
  exact alone_refresh_bind hfound _

/-- An unused first code gives one new invite. -/
theorem createInvite_unused (hrows : Consistent rows)
    (hmember : rows.IsMember serverId callerId) (hunused : rows.inviteOf (codes 0) = none) :
    (createInvite (some callerId) serverId codes).alone Rows.apply rows =
      (⟨201, .invite ⟨codes 0, serverId, callerId⟩⟩,
        rows.perform (.addInvite (codes 0) serverId callerId)) := by
  rw [createInvite_alone hrows hmember]
  have hrefusal := refusal_addInvite hrows hmember (codes 0)
  rw [if_pos hunused] at hrefusal
  have hcommit : rows.apply (.addInvite (codes 0) serverId callerId) =
      Except.ok (rows.nextInvite, rows.perform (.addInvite (codes 0) serverId callerId)) := by
    rw [Rows.apply, hrefusal]
    rfl
  have hfound : (rows.perform (.addInvite (codes 0) serverId callerId)).invites.lookup
      rows.nextInvite = some ⟨codes 0, serverId, callerId⟩ :=
    AList.lookup_insert _
  exact generateInvite_unused hcommit hfound

/-- After a collision the second attempt raises. -/
theorem createInvite_used (hrows : Consistent rows) (hmember : rows.IsMember serverId callerId)
    (hused : rows.inviteOf (codes 0) ≠ none) :
    (createInvite (some callerId) serverId codes).alone Rows.apply rows =
      ({ status := 500 }, rows) := by
  rw [createInvite_alone hrows hmember]
  have hrefusal := refusal_addInvite hrows hmember (codes 0)
  rw [if_neg hused] at hrefusal
  have hcommit : rows.apply (.addInvite (codes 0) serverId callerId) =
      Except.error .integrity := by
    rw [Rows.apply, hrefusal]
  rw [show maxGenAttempts = 4 + 1 from rfl, generateInvite_used hcommit]
  rfl

theorem gainsInvite_addInvite (hrows : Consistent rows) (invite : ServerInvite) :
    GainsInvite rows
      (rows.perform (.addInvite invite.code invite.serverId invite.creatorId)) invite := by
  refine ⟨rows.nextInvite, ?_, AList.lookup_insert _, fun other hne => AList.lookup_insert_ne hne⟩
  rw [Option.eq_none_iff_forall_ne_some]
  intro row hlookup
  exact absurd (hrows.inviteKeys _ row hlookup) (lt_irrefl _)

end

/-- The loop survives collisions exactly if the first code does not collide. -/
theorem createInvite_survives_iff {rows : Rows} (hrows : Consistent rows)
    {callerId serverId : ℕ} (hmember : rows.IsMember serverId callerId) (codes : ℕ → Bytes) :
    SurvivesCollisions rows callerId serverId codes ↔ ¬ InUse rows (codes 0) := by
  constructor
  · rintro ⟨hfirst, hall⟩ hused
    have hcollides : rows.inviteOf (codes 0) ≠ none :=
      fun hnone => not_inUse_iff.mpr hnone hused
    rw [createInvite_used hrows hmember hcollides] at hfirst hall
    by_cases hnever : ∀ attempt, attempt < 5 → InUse rows (codes attempt)
    · have hstatus : 500 = 503 := (hall hnever).1
      omega
    · classical
      push Not at hnever
      have hleast := Nat.find_spec hnever
      have hanswer := (hfirst (Nat.find hnever) hleast.1 (fun earlier hearlier => by
        by_contra hunused
        have hbound := hleast.1
        exact Nat.find_min hnever hearlier ⟨by omega, hunused⟩) hleast.2).1
      have hstatus : 500 = 201 := congrArg Answer.status hanswer
      omega
  · intro hunused
    have hnone := not_inUse_iff.mp hunused
    unfold SurvivesCollisions
    rw [createInvite_unused hrows hmember hnone]
    refine ⟨fun attempt hattempt hearlier _ => ?_, fun hall => absurd (hall 0 (by omega)) hunused⟩
    cases attempt with
    | zero => exact ⟨rfl, gainsInvite_addInvite hrows ⟨codes 0, serverId, callerId⟩⟩
    | succ attempt => exact absurd (hearlier 0 (Nat.succ_pos attempt)) hunused

/-- A server with its owner and one invite. -/
def invitedRows : Rows :=
  ((({} : Rows).changeUser (.register { username := [97] })).perform
    (.createServer [115] none 1)).perform (.addInvite [65] 1 1)

theorem consistent_invitedRows : Consistent invitedRows := by
  have huser : Consistent (({} : Rows).changeUser (.register { username := [97] })) :=
    Consistent.empty.changeUser _
  have hserver : Consistent ((({} : Rows).changeUser (.register { username := [97] })).perform
      (.createServer [115] none 1)) :=
    huser.perform (by decide)
  exact hserver.perform (by decide)

theorem invitedRows_isMember : invitedRows.IsMember 1 1 :=
  ⟨1, by decide⟩

theorem createInvite_survives_fresh :
    SurvivesCollisions invitedRows 1 1 (fun _ => [66]) ↔ ¬ InUse invitedRows [66] :=
  createInvite_survives_iff consistent_invitedRows invitedRows_isMember fun _ => [66]

/-- The first code is in use and the others are not, and the answer is 500. -/
theorem createInvite_collision_fails :
    ∃ rows codes, Consistent rows ∧ rows.IsMember 1 1 ∧ ¬ InUse rows (codes 1) ∧
      ((createInvite (some 1) 1 codes).alone Rows.apply rows).1.status = 500 ∧
        ¬ SurvivesCollisions rows 1 1 codes := by
  let codes : ℕ → Bytes := fun attempt => if attempt = 0 then [65] else [66]
  refine ⟨invitedRows, codes, consistent_invitedRows, invitedRows_isMember, ?_, ?_⟩
  · exact not_inUse_iff.mpr (by decide)
  · have hcollides : invitedRows.inviteOf (codes 0) ≠ none := by decide
    have hused := createInvite_used consistent_invitedRows invitedRows_isMember hcollides
    refine ⟨congrArg (fun outcome => outcome.1.status) hused, fun hsurvives => ?_⟩
    have hsecond := (hsurvives.1 1 (by omega) (fun earlier hearlier => ?_)
      (not_inUse_iff.mpr (by decide))).1
    · rw [hused] at hsecond
      have hstatus : 500 = 201 := congrArg Answer.status hsecond
      omega
    · obtain rfl : earlier = 0 := by omega
      exact ⟨1, ⟨[65], 1, 1⟩, by decide, by decide⟩

end Api
end Driscord
