import Driscord.Client.AuthManager

/-!
# What replies can do to the session

The reply of the current generation is the one of the latest request, unless a logout has
begun since.  A refused restore takes the name, the id and the stored session back even
while someone is logged in, so the identity is that of the last answer only as long as no
restore has been refused.

Main results:

- Theorem `Sound.step`: what one call or one reply keeps.
- Theorem `session_consistent`: in every run the session is the one of the last answer
  that was applied.
- Theorem `logout_ends_pending`: after a logout nothing is pending, although a reply may
  be outstanding.
-/

namespace Driscord
namespace Client

open Library Signaling Update

/-! ## Calls and replies -/

/-- What a call that may post a request does to the manager. -/
inductive Called (auth : AuthManager) : AuthManager × List AuthSignal × Option AuthRequest → Prop
  | refused (signals : List AuthSignal) (hsignals : AuthSignal.authChanged ∉ signals) :
      Called auth (auth, signals, none)
  | begun (next : AuthManager) (signals : List AuthSignal) (request : AuthRequest)
      (hsignals : AuthSignal.authChanged ∉ signals)
      (hgeneration : next.requestGeneration = auth.requestGeneration + 1)
      (hpending : next.authPending = true) (htoken : next.accessToken = auth.accessToken)
      (hstored : next.stored = auth.stored) (hloggedIn : next.loggedIn = auth.loggedIn)
      (hidentity : next.username = auth.username ∧ next.userId = auth.userId ∨
        ∃ data, auth.stored = some data ∧ next.username = data.username ∧
          next.userId = data.userId) :
      Called auth (next, signals, some request)

namespace AuthManager

variable {auth : AuthManager}

theorem setAuthPending_fst (auth : AuthManager) (pending : Bool) :
    (auth.setAuthPending pending).1 = { auth with authPending := pending } := by
  unfold setAuthPending
  split
  · rename_i hsame
    rw [← hsame]
  · rfl

theorem setAuthPending_snd (auth : AuthManager) (pending : Bool) :
    AuthSignal.authChanged ∉ (auth.setAuthPending pending).2 := by
  unfold setAuthPending
  split <;> simp

theorem called_login (username password : Bytes) : Called auth (auth.login username password) := by
  unfold login
  split
  · exact Called.refused _ (by simp)
  · refine Called.begun _ _ _ (setAuthPending_snd _ _) ?_ ?_ ?_ ?_ ?_ (Or.inl ?_) <;>
      simp [beginRequest, setAuthPending_fst]

theorem called_registerUser (username email password : Bytes) :
    Called auth (auth.registerUser username email password) := by
  unfold registerUser
  split
  · exact Called.refused _ (by simp)
  · refine Called.begun _ _ _ (setAuthPending_snd _ _) ?_ ?_ ?_ ?_ ?_ (Or.inl ?_) <;>
      simp [beginRequest, setAuthPending_fst]

theorem called_tryRestoreSession : Called auth auth.tryRestoreSession := by
  unfold tryRestoreSession
  split
  · exact Called.refused _ (by simp)
  · cases hload : SessionStore.load auth.stored with
    | none => exact Called.refused _ (by simp)
    | some data =>
        have hstored := (Option.filter_eq_some_iff.mp hload).1
        refine Called.begun _ _ _ (setAuthPending_snd _ _) ?_ ?_ ?_ ?_ ?_
          (Or.inr ⟨data, hstored, rfl, rfl⟩) <;>
          simp [beginRequest, setAuthPending_fst]

section

variable (trimmed : Bytes → Bytes) {reply : AuthReply} {answer : AuthAnswer}

/-- A reply of an earlier generation does nothing. -/
theorem onReply_late (h : reply.generation ≠ auth.requestGeneration) (answer : AuthAnswer) :
    auth.onReply trimmed reply answer = (auth, []) := by
  rw [onReply, if_pos h]

/-- The refused request of the current generation. -/
theorem onReply_failed (h : reply.generation = auth.requestGeneration)
    (hfailed : answer.failed = true) :
    (auth.onReply trimmed reply answer).1 =
      match reply.request with
      | .refresh _ _ => { auth.refuseRestore with authPending := false }
      | _ => { auth with authPending := false } := by
  rw [onReply, if_neg (by simp [h])]
  simp only [hfailed, if_true]
  cases reply.request <;> simp [failRequest, setAuthPending_fst, refuseRestore]

/-- The successful request of the current generation. -/
theorem onReply_ok (h : reply.generation = auth.requestGeneration)
    (hok : answer.failed = false) :
    (auth.onReply trimmed reply answer).1 =
      { (auth.applyTokenResponse
          (readResponse trimmed answer.json reply.request.username)).1 with
        authPending := false } := by
  rw [onReply, if_neg (by simp [h])]
  simp only [hok, Bool.false_eq_true, if_false, finishRequest]
  cases reply.request <;> simp [setAuthPending_fst, applyTokenResponse]

/-- A request that fails does not tell that the session has changed. -/
theorem onReply_failed_signals (hfailed : answer.failed = true) :
    AuthSignal.authChanged ∉ (auth.onReply trimmed reply answer).2 := by
  by_cases hcurrent : reply.generation = auth.requestGeneration
  · rw [onReply, if_neg (by simp [hcurrent])]
    simp only [hfailed, if_true]
    refine List.not_mem_append (setAuthPending_snd auth false) ?_
    cases reply.request <;> simp [failRequest]
  · simp [onReply_late trimmed hcurrent]

/-- A request that succeeds tells it once. -/
theorem onReply_ok_signals (h : reply.generation = auth.requestGeneration)
    (hok : answer.failed = false) :
    ∃ before after, (auth.onReply trimmed reply answer).2 =
        before ++ AuthSignal.authChanged :: after ∧
      AuthSignal.authChanged ∉ before ∧ AuthSignal.authChanged ∉ after := by
  rw [onReply, if_neg (by simp [h])]
  simp only [hok, Bool.false_eq_true, if_false, finishRequest, applyTokenResponse]
  refine ⟨(auth.setAuthPending false).2, ?_⟩
  cases reply.request with
  | refresh username refreshToken =>
      exact ⟨[.sessionRestored], rfl, setAuthPending_snd auth false, by simp⟩
  | login username password => exact ⟨[], rfl, setAuthPending_snd auth false, by simp⟩
  | registration username email password =>
      exact ⟨[], rfl, setAuthPending_snd auth false, by simp⟩

end

end AuthManager

namespace AuthSystem

/-- What one call or one reply does to the system. -/
inductive Moved (trimmed : Bytes → Bytes) (system : AuthSystem) : AuthSystem → Prop
  | posted (called : AuthManager × List AuthSignal × Option AuthRequest)
      (hcalled : Called system.auth called) : Moved trimmed system (system.post called).1
  | loggedOut : Moved trimmed system system.logout.1
  | finished (reply : AuthReply) (answer : AuthAnswer) (hreply : reply ∈ system.replies) :
      Moved trimmed system (system.finish trimmed reply answer).1

theorem moved_of_step {trimmed : Bytes → Bytes} {system next : AuthSystem}
    (hstep : Step trimmed system next) : Moved trimmed system next := by
  rcases hstep with ⟨action, signals, hact⟩
  cases action with
  | login username password =>
      rw [act, Option.some.injEq] at hact
      have hmoved : Moved trimmed system (system.post (system.auth.login username password)).1 :=
        Moved.posted _ (AuthManager.called_login username password)
      rwa [hact] at hmoved
  | registerUser username email password =>
      rw [act, Option.some.injEq] at hact
      have hmoved : Moved trimmed system
          (system.post (system.auth.registerUser username email password)).1 :=
        Moved.posted _ (AuthManager.called_registerUser username email password)
      rwa [hact] at hmoved
  | tryRestoreSession =>
      rw [act, Option.some.injEq] at hact
      have hmoved : Moved trimmed system (system.post system.auth.tryRestoreSession).1 :=
        Moved.posted _ AuthManager.called_tryRestoreSession
      rwa [hact] at hmoved
  | logout =>
      rw [act, Option.some.injEq] at hact
      have hmoved : Moved trimmed system system.logout.1 := Moved.loggedOut
      rwa [hact] at hmoved
  | finished reply answer =>
      rw [act] at hact
      split at hact
      case isTrue hreply =>
        rw [Option.some.injEq] at hact
        have hmoved : Moved trimmed system (system.finish trimmed reply answer).1 :=
          Moved.finished reply answer hreply
        rwa [hact] at hmoved
      case isFalse => contradiction

/-! ## The invariant -/

/-- The session is the one of `answer`. -/
structure SessionOf (auth : AuthManager) (answer : TokenResponse) : Prop where
  username : auth.username = answer.username
  userId : auth.userId = answer.userId
  stored : auth.stored = some ⟨answer.refreshToken, answer.username, answer.userId⟩

/-- What holds after every call and every reply. -/
structure Sound (system : AuthSystem) : Prop where
  bounded : ∀ reply ∈ system.replies, reply.generation ≤ system.auth.requestGeneration
  unique : ∀ reply ∈ system.replies, ∀ other ∈ system.replies,
    reply.generation = other.generation → reply = other
  current : ∀ reply ∈ system.replies, reply.generation = system.auth.requestGeneration →
    system.latest = some reply ∧ system.loggedOut = false
  newest : ∀ reply, system.latest = some reply → system.loggedOut = false →
    reply.generation = system.auth.requestGeneration
  pending : system.auth.authPending = true ↔
    ∃ reply ∈ system.replies, reply.generation = system.auth.requestGeneration
  loggedIn : system.auth.loggedIn = true ↔ system.applied.isSome = true
  token : system.auth.accessToken = (system.applied.map TokenResponse.accessToken).getD []
  session : ∀ answer, system.applied = some answer → system.refused = false →
    SessionOf system.auth answer

theorem sound_initial {system : AuthSystem} (h : Initial system) : Sound system := by
  rcases h with ⟨stored, rfl⟩
  refine ⟨?_, ?_, ?_, ?_, ?_, ?_, ?_, ?_⟩ <;> simp

namespace Sound

variable {system : AuthSystem}

/-- The reply of the current generation is the one that the user waits for. -/
theorem current_iff (h : Sound system) {reply : AuthReply} (hreply : reply ∈ system.replies) :
    reply.generation = system.auth.requestGeneration ↔
      system.latest = some reply ∧ system.loggedOut = false :=
  ⟨h.current reply hreply, fun hwaits => h.newest reply hwaits.1 hwaits.2⟩

/-- What a call that may post a request keeps. -/
theorem post (h : Sound system) {called : AuthManager × List AuthSignal × Option AuthRequest}
    (hcalled : Called system.auth called) : Sound (system.post called).1 := by
  cases hcalled with
  | refused signals => exact h
  | begun next signals request hsignals hgeneration hpending htoken hstored hloggedIn hidentity =>
      have hnew : ∀ reply ∈ system.replies ++ [⟨next.requestGeneration, request⟩],
          reply ∈ system.replies ∧ reply.generation < next.requestGeneration ∨
            reply = ⟨next.requestGeneration, request⟩ := by
        intro reply hreply
        rcases List.mem_append.mp hreply with hold | hlast
        · have hle := h.bounded reply hold
          exact Or.inl ⟨hold, by omega⟩
        · exact Or.inr (List.mem_singleton.mp hlast)
      constructor
      · intro reply hreply
        rcases hnew reply hreply with ⟨-, hlt⟩ | rfl
        · exact hlt.le
        · exact le_rfl
      · intro reply hreply other hother hsame
        rcases hnew reply hreply with ⟨hold, hlt⟩ | rfl
        · rcases hnew other hother with ⟨hold', -⟩ | rfl
          · exact h.unique reply hold other hold' hsame
          · exact absurd hsame hlt.ne
        · rcases hnew other hother with ⟨-, hlt⟩ | rfl
          · exact absurd hsame.symm hlt.ne
          · rfl
      · intro reply hreply hsame
        rcases hnew reply hreply with ⟨-, hlt⟩ | rfl
        · exact absurd hsame hlt.ne
        · exact ⟨rfl, rfl⟩
      · intro reply hlatest _
        cases hlatest
        rfl
      · exact iff_of_true hpending
          ⟨_, List.mem_append.mpr (Or.inr (List.mem_singleton_self _)), rfl⟩
      · exact (congrArg (· = true) hloggedIn).to_iff.trans h.loggedIn
      · exact htoken.trans h.token
      · intro answer hanswer hrefused
        have hsession := h.session answer hanswer hrefused
        have hkept : next.stored = some ⟨answer.refreshToken, answer.username, answer.userId⟩ :=
          hstored.trans hsession.stored
        rcases hidentity with ⟨husername, huserId⟩ | ⟨data, hdata, husername, huserId⟩
        · exact ⟨husername.trans hsession.username, huserId.trans hsession.userId, hkept⟩
        · cases hsession.stored.symm.trans hdata
          exact ⟨husername, huserId, hkept⟩

/-- What `logout` keeps: every reply is one of an earlier generation. -/
theorem logout (h : Sound system) : Sound system.logout.1 := by
  have hgeneration : system.logout.1.auth.requestGeneration =
      system.auth.requestGeneration + 1 := by
    simp [AuthSystem.logout, AuthManager.logout, AuthManager.setAuthPending_fst]
  have hlate : ∀ reply ∈ system.replies,
      reply.generation < system.logout.1.auth.requestGeneration := by
    intro reply hreply
    have hle := h.bounded reply hreply
    omega
  constructor
  · exact fun reply hreply => (hlate reply hreply).le
  · exact h.unique
  · exact fun reply hreply hsame => absurd hsame (hlate reply hreply).ne
  · intro reply _ hloggedOut
    exact absurd hloggedOut (by simp [AuthSystem.logout])
  · refine iff_of_false ?_ ?_
    · simp [AuthSystem.logout, AuthManager.logout, AuthManager.setAuthPending_fst]
    · rintro ⟨reply, hreply, hsame⟩
      exact absurd hsame (hlate reply hreply).ne
  · simp [AuthSystem.logout, AuthManager.logout]
  · simp [AuthSystem.logout, AuthManager.logout]
  · intro answer hanswer _
    exact absurd hanswer (by simp [AuthSystem.logout])

variable {trimmed : Bytes → Bytes} {reply : AuthReply} {answer : AuthAnswer}

/-- After the reply of the current generation nothing is pending. -/
private theorem answered (h : Sound system) (hreply : reply ∈ system.replies)
    (hcurrent : reply.generation = system.auth.requestGeneration) :
    ¬ ∃ other ∈ system.replies.filter (fun other => other ≠ reply),
      other.generation = system.auth.requestGeneration := by
  rintro ⟨other, hother, hsame⟩
  have hmem := List.mem_filter.mp hother
  have heq : other = reply := h.unique other hmem.1 reply hreply (hsame.trans hcurrent.symm)
  exact absurd heq (by simpa using hmem.2)

/-- The parts of the invariant that only speak of the replies that are left. -/
private theorem of_fewer (h : Sound system) {next : AuthSystem}
    (hreplies : ∀ other ∈ next.replies, other ∈ system.replies)
    (hgeneration : next.auth.requestGeneration = system.auth.requestGeneration)
    (hlatest : next.latest = system.latest) (hloggedOut : next.loggedOut = system.loggedOut)
    (hpending : next.auth.authPending = true ↔
      ∃ other ∈ next.replies, other.generation = system.auth.requestGeneration)
    (hloggedIn : next.auth.loggedIn = true ↔ next.applied.isSome = true)
    (htoken : next.auth.accessToken = (next.applied.map TokenResponse.accessToken).getD [])
    (hsession : ∀ answer, next.applied = some answer → next.refused = false →
      SessionOf next.auth answer) : Sound next := by
  constructor
  · rw [hgeneration]
    exact fun other hother => h.bounded other (hreplies other hother)
  · exact fun first hfirst second hsecond =>
      h.unique first (hreplies first hfirst) second (hreplies second hsecond)
  · rw [hgeneration, hlatest, hloggedOut]
    exact fun other hother => h.current other (hreplies other hother)
  · rw [hgeneration, hlatest, hloggedOut]
    exact h.newest
  · rw [hgeneration]
    exact hpending
  · exact hloggedIn
  · exact htoken
  · exact hsession

/-- A refused login or registration only ends the request. -/
private theorem idle (h : Sound system) (hreply : reply ∈ system.replies)
    (hcurrent : reply.generation = system.auth.requestGeneration) :
    Sound { system with
      auth := { system.auth with authPending := false }
      replies := system.replies.filter fun other => other ≠ reply } := by
  refine h.of_fewer (fun other hother => (List.mem_filter.mp hother).1) rfl rfl rfl
    (iff_of_false Bool.false_ne_true (h.answered hreply hcurrent)) h.loggedIn h.token ?_
  intro answer hanswer hrefused
  have hsession := h.session answer hanswer hrefused
  exact ⟨hsession.username, hsession.userId, hsession.stored⟩

/-- What a reply keeps. -/
theorem finish (h : Sound system) (hreply : reply ∈ system.replies) :
    Sound (system.finish trimmed reply answer).1 := by
  have hfewer : ∀ other ∈ system.replies.filter (fun other => other ≠ reply),
      other ∈ system.replies := fun other hother => (List.mem_filter.mp hother).1
  unfold AuthSystem.finish
  by_cases hcurrent : reply.generation = system.auth.requestGeneration
  · have hdone := h.answered hreply hcurrent
    simp only [hcurrent, ne_eq, not_true_eq_false, if_false]
    cases hfailed : answer.failed with
    | true =>
        have hauth := AuthManager.onReply_failed trimmed hcurrent hfailed
        -- only a refused restore takes the identity back
        cases hrequest : reply.request with
        | refresh username refreshToken =>
            simp only [hrequest] at hauth
            refine h.of_fewer hfewer ?_ rfl rfl (iff_of_false ?_ hdone) ?_ ?_ ?_
            · simp [hauth, AuthManager.refuseRestore]
            · simp [hauth]
            · simpa [hauth, AuthManager.refuseRestore] using h.loggedIn
            · simpa [hauth, AuthManager.refuseRestore] using h.token
            · intro answer' _ hrefused
              exact absurd hrefused (by simp)
        | login username password =>
            simp only [hrequest] at hauth
            rw [hauth]
            exact h.idle hreply hcurrent
        | registration username email password =>
            simp only [hrequest] at hauth
            rw [hauth]
            exact h.idle hreply hcurrent
    | false =>
        have hauth := AuthManager.onReply_ok trimmed hcurrent hfailed
        refine h.of_fewer hfewer ?_ rfl rfl (iff_of_false ?_ hdone) ?_ ?_ ?_
        · simp [hauth, AuthManager.applyTokenResponse]
        · simp [hauth]
        · simp [hauth, AuthManager.applyTokenResponse]
        · simp [hauth, AuthManager.applyTokenResponse]
        · intro answer' hanswer' _
          cases hanswer'
          constructor <;> simp [hauth, AuthManager.applyTokenResponse]
  · have hauth := AuthManager.onReply_late trimmed hcurrent answer
    rw [if_pos hcurrent, hauth]
    refine h.of_fewer hfewer rfl rfl rfl ?_ h.loggedIn h.token h.session
    refine h.pending.trans ⟨?_, ?_⟩
    · rintro ⟨other, hother, hsame⟩
      refine ⟨other, List.mem_filter.mpr ⟨hother, ?_⟩, hsame⟩
      simpa using fun heq : other = reply => hcurrent (heq ▸ hsame)
    · rintro ⟨other, hother, hsame⟩
      exact ⟨other, hfewer other hother, hsame⟩

/-- One call or one reply keeps the invariant. -/
theorem step (h : Sound system) {next : AuthSystem} (hstep : Step trimmed system next) :
    Sound next := by
  cases moved_of_step hstep with
  | posted called hcalled => exact h.post hcalled
  | loggedOut => exact h.logout
  | finished reply answer hreply => exact h.finish hreply

end Sound

section

variable {trimmed : Bytes → Bytes}

theorem sound_of_reachable {system : AuthSystem}
    (h : Reachable Initial (Step trimmed) system) : Sound system :=
  h.invariant (fun _ => sound_initial) fun _ _ _ hsound hstep => hsound.step hstep

/-! ## Generations only grow -/

theorem generation_post_le (system : AuthSystem)
    {called : AuthManager × List AuthSignal × Option AuthRequest}
    (hcalled : Called system.auth called) :
    system.auth.requestGeneration ≤ (system.post called).1.auth.requestGeneration := by
  cases hcalled with
  | refused signals => exact le_rfl
  | begun next signals request hsignals hgeneration =>
      have heq : (system.post (next, signals, some request)).1.auth = next := rfl
      rw [heq, hgeneration]
      exact Nat.le_succ _

theorem generation_onReply (auth : AuthManager) (reply : AuthReply) (answer : AuthAnswer) :
    (auth.onReply trimmed reply answer).1.requestGeneration = auth.requestGeneration := by
  by_cases hcurrent : reply.generation = auth.requestGeneration
  · cases hfailed : answer.failed with
    | true =>
        rw [AuthManager.onReply_failed trimmed hcurrent hfailed]
        cases reply.request <;> rfl
    | false =>
        rw [AuthManager.onReply_ok trimmed hcurrent hfailed]
        rfl
  · rw [AuthManager.onReply_late trimmed hcurrent]

theorem finish_auth (trimmed : Bytes → Bytes) (system : AuthSystem) (reply : AuthReply)
    (answer : AuthAnswer) :
    (system.finish trimmed reply answer).1.auth =
        (system.auth.onReply trimmed reply answer).1 ∧
      (system.finish trimmed reply answer).2 =
        (system.auth.onReply trimmed reply answer).2 := by
  unfold finish
  split
  · exact ⟨rfl, rfl⟩
  · split
    · cases reply.request <;> exact ⟨rfl, rfl⟩
    · exact ⟨rfl, rfl⟩

/-- Nothing is applied unless the request of the current generation succeeds. -/
theorem finish_applied_kept (trimmed : Bytes → Bytes) {system : AuthSystem} {reply : AuthReply}
    {answer : AuthAnswer} (h : reply.generation = system.auth.requestGeneration →
      answer.failed = true) : (system.finish trimmed reply answer).1.applied = system.applied := by
  unfold finish
  split
  · rfl
  · rename_i hcurrent
    simp only [h (not_not.mp hcurrent), if_true]
    cases reply.request <;> rfl

theorem finish_applied_ok (trimmed : Bytes → Bytes) {system : AuthSystem} {reply : AuthReply}
    {answer : AuthAnswer} (h : reply.generation = system.auth.requestGeneration)
    (hok : answer.failed = false) : (system.finish trimmed reply answer).1.applied =
      some (AuthManager.readResponse trimmed answer.json reply.request.username) := by
  unfold finish
  simp [h, hok]

theorem generation_le {system next : AuthSystem} (hstep : Step trimmed system next) :
    system.auth.requestGeneration ≤ next.auth.requestGeneration := by
  cases moved_of_step hstep with
  | posted called hcalled => exact generation_post_le system hcalled
  | loggedOut => simp [logout, AuthManager.logout, AuthManager.setAuthPending_fst]
  | finished reply answer => rw [(finish_auth trimmed system reply answer).1, generation_onReply]

theorem generation_le_of_run {system later : AuthSystem}
    (hrun : Relation.ReflTransGen (Step trimmed) system later) :
    system.auth.requestGeneration ≤ later.auth.requestGeneration := by
  induction hrun with
  | refl => exact le_rfl
  | tail _ hstep ih => exact ih.trans (generation_le hstep)

/-- A reply that is finished in an earlier generation does nothing. -/
theorem finished_late {system next : AuthSystem} {reply : AuthReply} {answer : AuthAnswer}
    {signals : List AuthSignal} (hlate : reply.generation ≠ system.auth.requestGeneration)
    (hact : act trimmed system (.finished reply answer) = some (next, signals)) :
    next.auth = system.auth ∧ signals = [] := by
  rw [act] at hact
  split at hact
  case isTrue =>
    rw [Option.some.injEq] at hact
    have hfinish := finish_auth trimmed system reply answer
    rwa [hact, AuthManager.onReply_late trimmed hlate] at hfinish
  case isFalse => contradiction

/-! ## The session in every run -/

/-- The session is the one that the calls and the replies have made. -/
structure SessionConsistent (trimmed : Bytes → Bytes) (system : AuthSystem) : Prop where
  /-- A reply changes the manager only if no later request or logout has begun. -/
  late : ∀ reply answer next signals,
    act trimmed system (.finished reply answer) = some (next, signals) →
    ¬ (system.latest = some reply ∧ system.loggedOut = false) →
    next.auth = system.auth ∧ signals = []
  /-- The manager waits exactly as long as the latest reply is outstanding and no logout
  has begun since its request. -/
  pending : system.auth.authPending = true ↔
    ∃ reply ∈ system.replies, system.latest = some reply ∧ system.loggedOut = false
  /-- Whatever happens after a logout, a reply of an earlier request does nothing. -/
  afterLogout : ∀ later, Relation.ReflTransGen (Step trimmed) system.logout.1 later →
    ∀ reply ∈ system.replies, ∀ answer next signals,
      act trimmed later (.finished reply answer) = some (next, signals) →
      next.auth = later.auth ∧ signals = []
  loggedIn : system.auth.loggedIn = true ↔ system.applied.isSome = true
  token : ∀ answer, system.applied = some answer →
    system.auth.accessToken = answer.accessToken
  /-- Unless a restore has been refused since the last answer was applied. -/
  session : ∀ answer, system.applied = some answer → system.refused = false →
    SessionOf system.auth answer

/-- Every interleaving of the calls and the replies keeps the session consistent. -/
theorem session_consistent {system : AuthSystem}
    (h : Reachable Initial (Step trimmed) system) : SessionConsistent trimmed system := by
  have hsound := sound_of_reachable h
  constructor
  · intro reply answer next signals hact hwaits
    have hreply : reply ∈ system.replies := by
      by_contra hnot
      rw [act, if_neg hnot] at hact
      contradiction
    exact finished_late (fun hcurrent => hwaits ((hsound.current_iff hreply).mp hcurrent)) hact
  · rw [hsound.pending]
    exact exists_congr fun reply => and_congr_right fun hreply => hsound.current_iff hreply
  · intro later hrun reply hreply answer next signals hact
    have hbounded := hsound.bounded reply hreply
    have hgrown := generation_le_of_run hrun
    have hbegun : system.logout.1.auth.requestGeneration =
        system.auth.requestGeneration + 1 := by
      simp [logout, AuthManager.logout, AuthManager.setAuthPending_fst]
    exact finished_late (by omega) hact
  · exact hsound.loggedIn
  · intro answer hanswer
    rw [hsound.token, hanswer]
    rfl
  · exact hsound.session

end

/-! ## Runs -/

section

/-- A server that grants every request. -/
private def granted : AuthAnswer where
  failed := false
  json := [(text "access_token", .string (text "acc")),
    (text "refresh_token", .string (text "ref")), (text "user_id", .double 42)]

private def doActions (actions : List AuthAction) : Option AuthSystem :=
  execute (fun _ _ => True) (fun system action => (act id system action).map Prod.fst) {} actions

private theorem reachable_done {actions : List AuthAction} {system : AuthSystem}
    (h : doActions actions = some system) : Reachable Initial (Step id) system := by
  refine Reachable.execute (fun _ action next _ hact => ?_) (Reachable.start ⟨none, rfl⟩) h
  rcases Option.map_eq_some_iff.mp hact with ⟨⟨next', signals⟩, hact', rfl⟩
  exact ⟨action, signals, hact'⟩

/-- Log in, log out and log in again; the reply of the first login comes last. -/
private def lateReply : AuthSystem :=
  (doActions [.login (text "alice") (text "pw"), .logout, .login (text "bob") (text "pw"),
    .finished ⟨3, .login (text "bob") (text "pw")⟩ granted,
    .finished ⟨1, .login (text "alice") (text "pw")⟩ granted]).getD {}

theorem session_consistent_late_reply :
    lateReply.auth.username = text "bob" ∧ lateReply.auth.userId = 42 ∧
      SessionConsistent id lateReply :=
  ⟨by decide +kernel, by decide +kernel,
    session_consistent (reachable_done (execute_eq_some_getD (by decide +kernel)))⟩

/-- A login, and a logout before its reply. -/
private def leftPending : AuthSystem :=
  (doActions [.login (text "alice") (text "pw"), .logout]).getD {}

/-- After a logout nothing is pending, although the reply of the latest request is
outstanding. -/
theorem logout_ends_pending :
    ¬ ∀ system : AuthSystem, Reachable Initial (Step id) system →
      (system.auth.authPending = true ↔
        ∃ reply ∈ system.replies, system.latest = some reply) := by
  intro hclaim
  have hpending := hclaim leftPending
    (reachable_done (execute_eq_some_getD (by decide +kernel)))
  have houtstanding : ∃ reply ∈ leftPending.replies, leftPending.latest = some reply :=
    ⟨⟨1, .login (text "alice") (text "pw")⟩, by decide +kernel, by decide +kernel⟩
  exact absurd (hpending.mpr houtstanding) (by decide +kernel)

end

end AuthSystem

end Client
end Driscord
