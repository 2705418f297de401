import Driscord.Api.Membership

/-!
# What an answer for channel access says

An answer with 200 to the question for channel access carries the caller that the
request read, and follows reads of the channel and of the caller's membership.

Main results:

- Theorem `handler_accessTrue`: every handler keeps to it.
- Theorem `accessTrue_step`: so does every request of the system.
-/

namespace Driscord
namespace Api

open Library

/-- The reads behind an answer for channel access. -/
def AccessAnswered (request : Request) (history : History) (channelId : ℕ) (answer : Answer) :
    Prop :=
  ∃ userId user channel, request.caller = some userId ∧
    answer.body = .access channelId channel.serverId userId user.username user.displayName ∧
      Saw (fun rows => rows.users.lookup userId = some user) history ∧
        Saw (fun rows => rows.channels.lookup channelId = some channel) history ∧
          Saw (fun rows => rows.IsMember channel.serverId userId) history

/-- An answer with 200 for channel access is justified. -/
def AccessTrue (request : Request) (history : History) (answer : Answer) : Prop :=
  ∀ channelId, request.call = .checkChannelAccess channelId → answer.status = 200 →
    AccessAnswered request history channelId answer

section

variable {request : Request} {history : History} {α : Type}

/-- A part of a handler whose answers are justified, with a condition on its value. -/
def Justified (request : Request) (ends : History → α → Prop) (history : History)
    (part : Handler α) : Prop :=
  Program.Respects (fun _ _ => True) (AccessTrue request) ends history part

theorem AccessTrue.of_status {answer : Answer} (h : answer.status ≠ 200) :
    AccessTrue request history answer :=
  fun _ _ hstatus => absurd hstatus h

theorem queryOr_justified {read : Rows → Option α} {status : ℕ} {detail : String}
    (hstatus : status ≠ 200) :
    Justified request (fun later value => Saw (fun rows => read rows = some value) later) history
      (queryOr read status detail) := by
  intro rows
  dsimp only
  cases hread : read rows with
  | none => exact AccessTrue.of_status hstatus
  | some value =>
      exact ⟨rows, List.mem_append_right _ (List.mem_singleton_self _), hread⟩

/-- The caller that a request has read. -/
theorem getCurrentUser_justified :
    Justified request (fun later user => request.caller = some user.1 ∧
      Saw (fun rows => rows.users.lookup user.1 = some user.2) later) history
      (getCurrentUser request.caller) := by
  unfold getCurrentUser
  cases hcaller : request.caller with
  | none => exact AccessTrue.of_status (by decide)
  | some userId =>
      refine Program.Respects.mono ?_ (queryOr_justified (by decide))
      intro later user hsaw
      rcases hsaw with ⟨rows, hread, hfound⟩
      rcases Option.map_eq_some_iff.mp hfound with ⟨account, hlookup, rfl⟩
      exact ⟨rfl, rows, hread, hlookup⟩

theorem checkChannelAccess_justified {channelId : ℕ}
    (hcall : request.call = .checkChannelAccess channelId) :
    Justified request (AccessTrue request) [] (checkChannelAccess request.caller channelId) := by
  apply Program.Respects.bind getCurrentUser_justified
  rintro first user - ⟨hcaller, huser⟩
  apply Program.Respects.bind (queryOr_justified (by decide))
  intro second channel hsecond hchannel
  have hmember : Justified request (fun later _ =>
      Saw (fun rows => rows.IsMember channel.serverId user.1) later) second
      (requireServerMember channel.serverId user.1) := by
    apply Program.Respects.bind (queryOr_justified (by decide))
    rintro later server - -
    apply Program.Respects.bind (queryOr_justified (by decide))
    rintro last entry - hsaw
    exact hsaw.imp fun rows hfound => Rows.isMember_of_memberOf hfound
  apply Program.Respects.bind hmember
  intro last server hlast hsaw asked hasked hstatus
  rw [hcall, Call.checkChannelAccess.injEq] at hasked
  subst hasked
  exact ⟨user.1, user.2, channel, hcaller, rfl, (huser.later hsecond).later hlast,
    hchannel.later hlast, hsaw⟩

end

/-- Every answer for channel access is justified. -/
theorem handler_accessTrue (request : Request) :
    Justified request (AccessTrue request) [] (handler request) := by
  by_cases hcall : ∃ channelId, request.call = .checkChannelAccess channelId
  · rcases hcall with ⟨channelId, hcall⟩
    rw [handler, hcall]
    exact checkChannelAccess_justified hcall
  · have hother : ∀ history answer, AccessTrue request history answer :=
      fun _ _ channelId hsame => absurd ⟨channelId, hsame⟩ hcall
    exact Program.Respects.of_forall (fun _ _ => trivial) hother hother [] (handler request)

/-- What remains of the requests keeps to it. -/
def AccessVerified (system : ApiSystem) : Prop :=
  ∀ thread ∈ system.running,
    System.Verified (fun _ _ _ => True) (fun request => AccessTrue request) thread

theorem accessTrue_step {system next : ApiSystem} {action : ApiAction}
    (h : AccessVerified system) (hact : act system action = some next) : AccessVerified next :=
  System.respects_step _ _ _ handler_accessTrue hact h

end Api
end Driscord
