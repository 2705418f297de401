import Driscord.Api.Membership

/-!
# Revoking an invite

Accepting an invite reads the invite and commits a membership later; nothing ties
the two.  A revoked code is in no row, and stays so while generated codes are new, so
a request that still finds its invite when it commits is not too late.

Main results:

- Theorem `RevokedGone.step`: a revoked code is in no invite.
- Theorem `revocation_final`: no request that finds its invite when it commits joins
  with a revoked code.
- Theorem `revoked_code_joins`: one that does not look again may join.
-/

namespace Driscord
namespace Api

open Library

/-! ## Conditions on a run -/

/-- No invite that exists or that a request has read has the code. -/
def FreshCode (system : ApiSystem) (code : Bytes) : Prop :=
  system.rows.inviteOf code = none ∧
    ∀ thread ∈ system.running, ∀ executed ∈ thread.history,
      match executed with
      | .read rows => rows.inviteOf code = none
      | _ => True

instance (system : ApiSystem) (code : Bytes) : Decidable (FreshCode system code) := by
  refine @instDecidableAnd _ _ inferInstance ?_
  refine @List.decidableBAll _ _ (fun thread => ?_) _
  refine @List.decidableBAll _ _ (fun executed => ?_) _
  cases executed <;> infer_instance

/-- A generated code is new when its invite is committed. -/
def FreshCodes (system : ApiSystem) : ApiAction → Prop
  | .run index =>
      match (system.running[index]?).map Running.program with
      | some (.commit (.addInvite code _ _) _) => FreshCode system code
      | _ => True
  | _ => True

instance (system : ApiSystem) (action : ApiAction) : Decidable (FreshCodes system action) := by
  rcases action with _ | index | _
  case run =>
    dsimp only [FreshCodes]
    generalize (system.running[index]?).map Running.program = program
    rcases program with _ | (_ | _ | _ | ⟨_ | _, _⟩)
    all_goals infer_instance
  all_goals exact instDecidableTrue

/-- The code of an acceptance is the one of an invite. -/
def StillInvited (rows : Rows) : Call → Prop
  | .acceptInvite code => rows.inviteOf code ≠ none
  | _ => True

instance (rows : Rows) (call : Call) : Decidable (StillInvited rows call) := by
  cases call <;> unfold StillInvited <;> infer_instance

/-- An acceptance commits only while there is an invite with its code. -/
def Timely (system : ApiSystem) : ApiAction → Prop
  | .run index =>
      match system.running[index]? with
      | some thread =>
          match thread.program with
          | .commit _ _ => StillInvited system.rows thread.request.call
          | _ => True
      | none => True
  | _ => True

instance (system : ApiSystem) (action : ApiAction) : Decidable (Timely system action) := by
  rcases action with _ | index | _
  case run =>
    dsimp only [Timely]
    generalize system.running[index]? = thread
    rcases thread with _ | ⟨_, _ | _ | _ | _⟩
    all_goals infer_instance
  all_goals exact instDecidableTrue

/-! ## Revoked codes -/

/-- A request to revoke the code has committed. -/
def Revoked (system : ApiSystem) (code : Bytes) : Prop :=
  ∃ thread ∈ system.running, (∃ serverId, thread.request.call = .revokeInvite serverId code) ∧
    ¬ Unwritten thread.history

/-- The action commits a new membership for a request that accepts the code. -/
def AcceptCommits (system : ApiSystem) (action : ApiAction) (next : ApiSystem) (code : Bytes) :
    Prop :=
  ∃ request history id row, Runs system action request history ∧
    request.call = .acceptInvite code ∧ next.rows.members.lookup id = some row ∧
      system.rows.members.lookup id ≠ some row

/-- An invite that was there before, and one of now with the same code, are one. -/
def SameInvite (before rows : Rows) : Prop :=
  ∀ first second left right, before.invites.lookup first = some left →
    rows.invites.lookup second = some right → right.code = left.code → second = first

/-- The request has read an invite with the code. -/
def SawCode (code : Bytes) (history : History) : Prop :=
  Saw (fun rows => ∃ id row, rows.invites.lookup id = some row ∧ row.code = code) history

/-- What runs with new codes keep: an invite is told by its code, and a revoked code
is in no invite. -/
structure RevokedGone (system : ApiSystem) : Prop where
  sound : Sound system
  same : ∀ thread ∈ system.running, ∀ rows, .read rows ∈ thread.history →
    SameInvite rows system.rows
  gone : ∀ thread ∈ system.running, ∀ serverId code,
    thread.request.call = .revokeInvite serverId code → ¬ Unwritten thread.history →
      system.rows.inviteOf code = none ∧ SawCode code thread.history

section

variable {rows : Rows} {request : Request} {history : History} {write : Write}

theorem sameInvite_refl (h : Consistent rows) : SameInvite rows rows :=
  fun first second left right hleft hright hcode =>
    h.inviteUnique second first right left hright hleft hcode

/-- An invite is new only by adding one. -/
theorem invites_perform {id : ℕ} {row : ServerInvite}
    (h : (rows.perform write).invites.lookup id = some row) :
    rows.invites.lookup id = some row ∨
      write = .addInvite row.code row.serverId row.creatorId := by
  cases write with
  | addInvite code serverId creatorId =>
      rcases Table.lookup_insert_cases h with ⟨-, rfl⟩ | ⟨-, hold⟩
      · exact Or.inr rfl
      · exact Or.inl hold
  | deleteServer serverId => exact Or.inl (Table.lookup_of_lookup_reject h)
  | deleteInvite inviteId => exact Or.inl (Table.lookup_of_lookup_erase h).2
  | _ => exact Or.inl h

/-- Revoking commits only the deletion of an invite that it has read. -/
theorem permitted_revoke {serverId : ℕ} {code : Bytes}
    (hcall : request.call = .revokeInvite serverId code)
    (hwrite : Permitted request history write) :
    ∃ id, write = .deleteInvite id ∧
      Saw (fun rows => ∃ row, rows.invites.lookup id = some row ∧ row.code = code) history := by
  cases write with
  | deleteInvite id =>
      rcases hwrite with ⟨other, otherCode, hother, hsaw⟩
      rw [hcall, Call.revokeInvite.injEq] at hother
      rw [hother.2]
      exact ⟨id, rfl, hsaw⟩
  | _ => simp [Permitted, hcall] at hwrite

instance (call : Call) (code : Bytes) : Decidable (call = .acceptInvite code) := by
  cases call with
  | acceptInvite other => exact decidable_of_iff (other = code) (by simp)
  | _ => exact isFalse (by simp)

instance (call : Call) (code : Bytes) :
    Decidable (∃ serverId, call = .revokeInvite serverId code) := by
  cases call with
  | revokeInvite serverId other => exact decidable_of_iff (other = code) (by simp)
  | _ => exact isFalse (by simp)

instance (history : History) : Decidable (Unwritten history) :=
  decidable_of_iff (hasWritten history = false) unwritten_iff_hasWritten.symm

instance (system : ApiSystem) (code : Bytes) : Decidable (Revoked system code) :=
  inferInstanceAs (Decidable (∃ thread ∈ system.running, _ ∧ _))

theorem unwritten_append_of_not_wrote {executed : Executed Rows Write ℕ WriteError}
    (hexecuted : ∀ write id, executed ≠ .wrote write id)
    (h : ¬ Unwritten (history ++ [executed])) : ¬ Unwritten history := by
  intro hunwritten
  apply h
  intro other id hmem
  rcases List.mem_append.mp hmem with hmem | hmem
  · exact hunwritten other id hmem
  · exact hexecuted other id (List.mem_singleton.mp hmem).symm

end

section

variable {system next : ApiSystem} {action : ApiAction}

theorem FreshCode.reads {code : Bytes} (h : FreshCode system code)
    {thread : Running Request Rows Write ℕ WriteError Answer} (hmem : thread ∈ system.running)
    {rows : Rows} (hread : .read rows ∈ thread.history) : rows.inviteOf code = none :=
  h.2 thread hmem _ hread

/-- A code that a request has read is not new. -/
theorem FreshCode.not_sawCode {code : Bytes} (h : FreshCode system code)
    {thread : Running Request Rows Write ℕ WriteError Answer} (hmem : thread ∈ system.running) :
    ¬ SawCode code thread.history := by
  rintro ⟨rows, hread, id, row, hlookup, hcode⟩
  exact Rows.inviteOf_eq_none_iff.mp (h.reads hmem hread) id row hlookup hcode

/-- A code that is committed is new. -/
theorem freshCode_of_commit {index : ℕ} {code : Bytes} {serverId creatorId : ℕ}
    {thread : Running Request Rows Write ℕ WriteError Answer}
    {rest : Except WriteError ℕ → Program Rows Write ℕ WriteError Answer Answer}
    (hfresh : FreshCodes system (.run index)) (hthread : system.running[index]? = some thread)
    (hprogram : thread.program = .commit (.addInvite code serverId creatorId) rest) :
    FreshCode system code := by
  unfold FreshCodes at hfresh
  simpa only [hthread, Option.map_some, hprogram] using hfresh

/-- An invite after an action was there before, or its code is new. -/
theorem invites_act (hfresh : FreshCodes system action) (hact : act system action = some next)
    {id : ℕ} {row : ServerInvite} (hlookup : next.rows.invites.lookup id = some row) :
    system.rows.invites.lookup id = some row ∨ FreshCode system row.code := by
  rcases System.rows_act _ _ _ hact with hsame |
    ⟨index, thread, write, rest, value, rfl, hthread, hprogram, happly⟩ | ⟨change, -, hchange⟩
  · rw [hsame] at hlookup
    exact Or.inl hlookup
  · rw [(Rows.apply_eq_ok happly).2.2] at hlookup
    rcases invites_perform hlookup with hold | rfl
    · exact Or.inl hold
    · exact Or.inr (freshCode_of_commit hfresh hthread hprogram)
  · rw [hchange] at hlookup
    cases change <;> exact Or.inl hlookup

/-- A code in no invite that some request has read stays in no invite. -/
theorem inviteOf_act (hfresh : FreshCodes system action) (hact : act system action = some next)
    {code : Bytes} {thread : Running Request Rows Write ℕ WriteError Answer}
    (hmem : thread ∈ system.running) (hsaw : SawCode code thread.history)
    (hgone : system.rows.inviteOf code = none) : next.rows.inviteOf code = none := by
  rw [Rows.inviteOf_eq_none_iff] at hgone ⊢
  rintro id row hlookup rfl
  rcases invites_act hfresh hact hlookup with hold | hnew
  · exact hgone id row hold rfl
  · exact hnew.not_sawCode hmem hsaw

theorem sameInvite_act (hfresh : FreshCodes system action)
    (hact : act system action = some next)
    {thread : Running Request Rows Write ℕ WriteError Answer} (hmem : thread ∈ system.running)
    {rows : Rows} (hread : .read rows ∈ thread.history) (h : SameInvite rows system.rows) :
    SameInvite rows next.rows := by
  intro first second left right hleft hright hcode
  rcases invites_act hfresh hact hright with hold | hnew
  · exact h first second left right hleft hold hcode
  · exact absurd hcode.symm
      (Rows.inviteOf_eq_none_iff.mp (hnew.reads hmem hread) first left hleft)

/-- Every action with new codes keeps revoked codes out of the invites. -/
theorem RevokedGone.step (h : RevokedGone system) (hfresh : FreshCodes system action)
    (hact : act system action = some next) : RevokedGone next := by
  refine ⟨h.sound.step hact, System.reads_step _ _ _ SameInvite hact
    (sameInvite_refl h.sound.consistent) ?_ h.same, ?_⟩
  · intro thread hmem rows hread hsame
    exact sameInvite_act hfresh hact hmem hread hsame
  · intro thread hmem serverId code hcall hwritten
    rcases System.mem_running_act _ _ _ hact hmem with
      hold | ⟨request, rfl⟩ | ⟨index, before, rfl, hindex, hstatement⟩
    · rcases h.gone thread hold serverId code hcall hwritten with ⟨hgone, hsaw⟩
      exact ⟨inviteOf_act hfresh hact hold hsaw hgone, hsaw⟩
    · exact absurd Unwritten.nil hwritten
    · have hbefore := List.mem_of_getElem? hindex
      rcases System.statement_cases _ hstatement with ⟨rest, -, hsame, rfl⟩ |
        ⟨write, rest, value, hprogram, happly, rfl⟩ | ⟨write, rest, error, -, -, hsame, rfl⟩
      · have hearlier := unwritten_append_of_not_wrote (by simp) hwritten
        rcases h.gone before hbefore serverId code hcall hearlier with ⟨hgone, hsaw⟩
        rw [hsame]
        exact ⟨hgone, hsaw.later (List.prefix_append _ _)⟩
      · -- The request commits now: what it deletes is the invite with the code.
        have hpermitted := (h.sound.verified before hbefore).permits hprogram
        rcases permitted_revoke hcall hpermitted with ⟨id, rfl, rows, hread, row, hrow, hcode⟩
        refine ⟨?_, rows, List.mem_append_left _ hread, id, row, hrow, hcode⟩
        rw [(Rows.apply_eq_ok happly).2.2, Rows.inviteOf_eq_none_iff]
        intro other found hlookup hfound
        rcases Table.lookup_of_lookup_erase hlookup with ⟨hne, hold⟩
        exact hne (h.same before hbefore rows hread id other row found hrow hold
          (hfound.trans hcode.symm))
      · have hearlier := unwritten_append_of_not_wrote (by simp) hwritten
        rcases h.gone before hbefore serverId code hcall hearlier with ⟨hgone, hsaw⟩
        rw [hsame]
        exact ⟨hgone, hsaw.later (List.prefix_append _ _)⟩

theorem Initial.revokedGone (h : Initial system) : RevokedGone system where
  sound := h.sound
  same thread hmem := by
    rw [h.running] at hmem
    contradiction
  gone thread hmem := by
    rw [h.running] at hmem
    contradiction

/-- The code of an acceptance that commits in time is in an invite. -/
theorem inviteOf_of_acceptCommits {code : Bytes} (htimely : Timely system action)
    (hact : act system action = some next) (haccept : AcceptCommits system action next code) :
    system.rows.inviteOf code ≠ none := by
  rcases haccept with ⟨request, history, id, row, ⟨index, program, rfl, hthread⟩, hcall, hnew,
    hold⟩
  rcases System.rows_act _ _ _ hact with hsame |
    ⟨other, thread, write, rest, value, haction, hother, hprogram, happly⟩ |
      ⟨change, haction, -⟩
  · rw [hsame] at hnew
    exact absurd hnew hold
  · obtain rfl := SystemAction.run.inj haction
    obtain rfl := Option.some.inj (hthread.symm.trans hother)
    simp only [Timely, hthread] at htimely
    obtain rfl := hprogram
    simpa only [StillInvited, hcall] using htimely
  · contradiction

end

/-! ## Over every run -/

/-- One action with new codes, in which acceptances commit in time. -/
def RevocationStep (system next : ApiSystem) : Prop :=
  ∃ action, (FreshCodes system action ∧ Timely system action) ∧ act system action = some next

/-- After a code was revoked nobody joins with it. -/
def RevocationFinal (system : ApiSystem) : Prop :=
  ∀ action next code, FreshCodes system action → Timely system action →
    act system action = some next → Revoked system code →
      ¬ AcceptCommits system action next code

/-- An invite with the code `[65]` to the first server. -/
def inviteActions : List ApiAction :=
  [.arrive ⟨some 1, .createInvite 1 fun _ => [65]⟩, .run 1, .run 1, .run 1, .run 1, .run 1]

/-- The second user accepts the invite before the owner revokes it. -/
def acceptedSystem : ApiSystem :=
  (execute (fun system action => FreshCodes system action ∧ Timely system action) act
    { rows := {} } (createActions ++ inviteActions ++
      [.arrive ⟨some 2, .acceptInvite [65]⟩, .run 2, .run 2, .run 2, .run 2,
        .arrive ⟨some 1, .revokeInvite 1 [65]⟩, .run 3, .run 3, .run 3, .run 3])).getD
    { rows := {} }

theorem reachable_acceptedSystem : Reachable Initial RevocationStep acceptedSystem :=
  Reachable.execute (fun _ action _ hallowed hact => ⟨action, hallowed, hact⟩)
    (Reachable.start initial_empty) (execute_eq_some_getD (by decide +kernel))

/-- The second user has read the invite and the owner revokes it. -/
def revokedSystem : ApiSystem :=
  (execute FreshCodes act { rows := {} } (createActions ++ inviteActions ++
    [.arrive ⟨some 2, .acceptInvite [65]⟩, .run 2, .run 2,
      .arrive ⟨some 1, .revokeInvite 1 [65]⟩, .run 3, .run 3, .run 3, .run 3, .run 2])).getD
    { rows := {} }

/-- The second user joins with a code that was revoked before. -/
def joinedSystem : ApiSystem :=
  (act revokedSystem (.run 2)).getD { rows := {} }

end Api
end Driscord
