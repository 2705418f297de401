import Driscord.Client.VoiceLifecycle

/-!
# The voice session follows the user and the connection

The client never has two open voice sessions, whatever its threads do.  Once they have
finished, the open session is the one that it keeps, and voice is wanted and the transport
connected; no session is recovered twice.  If the reports of the transport do not overlap,
a session is also missing only if its start has failed.

Main results:

- Theorem `LifecycleSystem.sound_of_reachable`: the invariant of all interleavings.
- Theorem `LifecycleSystem.one_session_of_reachable`: the open sessions.
- Theorem `LifecycleSystem.settled_of_reachable`: the invariant of orderly interleavings.
- Theorem `LifecycleSystem.voice_follows_of_reachable`: the session that the user wants.
-/

namespace Driscord
namespace Client

open Library

/-- What a task asks for. -/
def AudioTask.wanted : AudioTask → Bool
  | start _ => true
  | stop => false

namespace LifecycleSection

/-- The section runs while its thread holds `voice_lifecycle_mutex`. -/
def InLifecycle : LifecycleSection → Prop
  | startSession | retainSession _ | closeSession _ | releaseVoice => True
  | _ => False

/-- The session in the hands of a section. -/
def holds : LifecycleSection → Multiset SessionId
  | retainSession session | closeSession session => {session}
  | _ => 0

/-- The sessions that a section has or is about to have. -/
def handles : LifecycleSection → Nat
  | startSession | retainSession _ | closeSession _ => 1
  | _ => 0

/-- The section gives up the session. -/
def clears : LifecycleSection → Bool
  | clearVoice _ => true
  | _ => false

/-- The section will look whether a session is missing, or is starting one. -/
def looks : LifecycleSection → Bool
  | checkVoice | startSession | retainSession _ | clearVoice StopCause.recovery => true
  | _ => false

/-- The section runs in the audio pool. -/
def InAudio : LifecycleSection → Prop
  | audioStart _ | requestVoice | forgetVoice | clearVoice StopCause.stopVoice => True
  | _ => False

/-- The section runs in a report of the transport. -/
def InCallback : LifecycleSection → Prop
  | onSignalingState _ | clearVoice StopCause.disconnected => True
  | _ => False

/-- The section will ask for voice, or give it up. -/
def asks : LifecycleSection → Option Bool
  | audioStart _ | requestVoice => some true
  | forgetVoice => some false
  | _ => none

theorem inAudio_of_asks {item : LifecycleSection} {wanted : Bool} (h : item.asks = some wanted) :
    item.InAudio := by
  cases item with
  | audioStart | requestVoice | forgetVoice => trivial
  | _ => contradiction

/-- The recoveries of a session that a section will schedule. -/
def schedules (session : SessionId) : LifecycleSection → Nat
  | scheduleRecovery other => if other = session then 1 else 0
  | _ => 0

end LifecycleSection

namespace LifecycleClient

open LifecycleSection

/-! ## What one section can do -/

/-- What one run of a section of thread `self` can do. -/
inductive LifecycleRan (client : LifecycleClient) (self : Nat) :
    LifecycleSection → LifecycleClient → List LifecycleSection → Prop
  | started :
      LifecycleRan client self (audioStart client.audioGeneration) client [requestVoice]
  | requested :
      LifecycleRan client self requestVoice { client with voiceRequested := true } [checkVoice]
  | forgot :
      LifecycleRan client self forgetVoice { client with voiceRequested := false }
        [clearVoice StopCause.stopVoice]
  | connected :
      LifecycleRan client self (onSignalingState true) { client with connected := true }
        [checkVoice]
  | disconnected :
      LifecycleRan client self (onSignalingState false) { client with connected := false }
        [clearVoice StopCause.disconnected]
  | checked (hfree : client.voiceLifecycleMutex = none) (hwants : client.wants = true) :
      LifecycleRan client self checkVoice { client with voiceLifecycleMutex := some self }
        [startSession]
  | created :
      LifecycleRan client self startSession
        { client with
          created := client.created + 1
          live := client.created ::ₘ client.live
          startResults := client.startResults ++ [true] }
        [retainSession client.created]
  | failed :
      LifecycleRan client self startSession
        { client with startResults := client.startResults ++ [false] } [releaseVoice]
  | retained (session : SessionId) (hwants : client.wants = true) :
      LifecycleRan client self (retainSession session)
        { client with voiceSession := some session } [releaseVoice]
  | refused (session : SessionId) (hwants : client.wants = false) :
      LifecycleRan client self (retainSession session) client [closeSession session]
  | cleared (cause : StopCause) (hfree : client.voiceLifecycleMutex = none) :
      LifecycleRan client self (clearVoice cause)
        { client with voiceLifecycleMutex := some self, voiceSession := none }
        ((client.voiceSession.elim releaseVoice closeSession) :: cause.rest)
  | closed (session : SessionId) :
      LifecycleRan client self (closeSession session)
        { client with live := client.live.erase session, voiceLifecycleMutex := none } []
  | released :
      LifecycleRan client self releaseVoice { client with voiceLifecycleMutex := none } []
  | marked (session : SessionId) (hnew : session ∉ client.recoveryScheduled) :
      LifecycleRan client self (onFailed session)
        { client with recoveryScheduled := insert session client.recoveryScheduled }
        [scheduleRecovery session]
  | scheduled (session : SessionId) :
      LifecycleRan client self (scheduleRecovery session)
        { client with recoveryQueue := client.recoveryQueue ++ [session] } []
  | recovering (session : SessionId) :
      LifecycleRan client self (recoverVoice session) client [clearVoice StopCause.recovery]
  | skipped {head : LifecycleSection} (hhead : (∃ generation, head = audioStart generation ∧
      generation ≠ client.audioGeneration) ∨ (head = checkVoice ∧ client.wants = false) ∨
        ∃ session, head = onFailed session ∨ head = scheduleRecovery session ∨
          head = recoverVoice session) :
      LifecycleRan client self head client []

variable {client next : LifecycleClient} {self : Nat} {succeeds : Bool}
variable {head : LifecycleSection} {pushed : List LifecycleSection}

theorem lifecycleRan_of_run (h : client.run self succeeds head = some (next, pushed)) :
    LifecycleRan client self head next pushed := by
  cases head with
  | audioStart generation =>
      rw [run, Option.some.injEq, Prod.mk.injEq] at h
      rcases h with ⟨rfl, rfl⟩
      split
      · rename_i hcurrent
        rw [hcurrent]
        exact LifecycleRan.started
      · rename_i hstale
        exact LifecycleRan.skipped (Or.inl ⟨generation, rfl, hstale⟩)
  | requestVoice =>
      rw [run, Option.some.injEq, Prod.mk.injEq] at h
      rcases h with ⟨rfl, rfl⟩
      exact LifecycleRan.requested
  | forgetVoice =>
      rw [run, Option.some.injEq, Prod.mk.injEq] at h
      rcases h with ⟨rfl, rfl⟩
      exact LifecycleRan.forgot
  | onSignalingState connected =>
      rw [run, Option.some.injEq, Prod.mk.injEq] at h
      rcases h with ⟨rfl, rfl⟩
      cases connected with
      | true => exact LifecycleRan.connected
      | false => exact LifecycleRan.disconnected
  | checkVoice =>
      simp only [run, Option.ite_none_right_eq_some] at h
      rcases h with ⟨hfree, h⟩
      split at h
      · rename_i hwants
        rw [Option.some.injEq, Prod.mk.injEq] at h
        rcases h with ⟨rfl, rfl⟩
        exact LifecycleRan.checked hfree hwants
      · rename_i hwants
        rw [Option.some.injEq, Prod.mk.injEq] at h
        rcases h with ⟨rfl, rfl⟩
        exact LifecycleRan.skipped (Or.inr (Or.inl ⟨rfl, Bool.eq_false_of_not_eq_true hwants⟩))
  | startSession =>
      rw [run] at h
      split at h
      · rw [Option.some.injEq, Prod.mk.injEq] at h
        rcases h with ⟨rfl, rfl⟩
        exact LifecycleRan.created
      · rw [Option.some.injEq, Prod.mk.injEq] at h
        rcases h with ⟨rfl, rfl⟩
        exact LifecycleRan.failed
  | retainSession session =>
      rw [run] at h
      split at h
      · rename_i hwants
        rw [Option.some.injEq, Prod.mk.injEq] at h
        rcases h with ⟨rfl, rfl⟩
        exact LifecycleRan.retained session hwants
      · rename_i hwants
        rw [Option.some.injEq, Prod.mk.injEq] at h
        rcases h with ⟨rfl, rfl⟩
        exact LifecycleRan.refused session (Bool.eq_false_of_not_eq_true hwants)
  | clearVoice cause =>
      simp only [run, Option.ite_none_right_eq_some, Option.some.injEq, Prod.mk.injEq] at h
      rcases h with ⟨hfree, rfl, rfl⟩
      have hcleared : LifecycleRan client self (clearVoice cause) _ _ :=
        LifecycleRan.cleared cause hfree
      cases hsession : client.voiceSession with
      | none => rwa [hsession] at hcleared
      | some session => rwa [hsession] at hcleared
  | closeSession session =>
      rw [run, Option.some.injEq, Prod.mk.injEq] at h
      rcases h with ⟨rfl, rfl⟩
      exact LifecycleRan.closed session
  | releaseVoice =>
      rw [run, Option.some.injEq, Prod.mk.injEq] at h
      rcases h with ⟨rfl, rfl⟩
      exact LifecycleRan.released
  | onFailed session =>
      rw [run] at h
      split at h
      · rw [Option.some.injEq, Prod.mk.injEq] at h
        rcases h with ⟨rfl, rfl⟩
        exact LifecycleRan.skipped (Or.inr (Or.inr ⟨session, Or.inl rfl⟩))
      · rename_i hnew
        rw [Option.some.injEq, Prod.mk.injEq] at h
        rcases h with ⟨rfl, rfl⟩
        exact LifecycleRan.marked session hnew
  | scheduleRecovery session =>
      rw [run] at h
      split at h
      · rw [Option.some.injEq, Prod.mk.injEq] at h
        rcases h with ⟨rfl, rfl⟩
        exact LifecycleRan.skipped (Or.inr (Or.inr ⟨session, Or.inr (Or.inl rfl)⟩))
      · rw [Option.some.injEq, Prod.mk.injEq] at h
        rcases h with ⟨rfl, rfl⟩
        exact LifecycleRan.scheduled session
  | recoverVoice session =>
      rw [run, Option.some.injEq, Prod.mk.injEq] at h
      rcases h with ⟨rfl, rfl⟩
      split
      · exact LifecycleRan.recovering session
      · exact LifecycleRan.skipped (Or.inr (Or.inr ⟨session, Or.inr (Or.inr rfl)⟩))

/-! ## The sessions -/

/-- The session that the client keeps. -/
def stored (client : LifecycleClient) : Multiset SessionId :=
  client.voiceSession.toList

theorem voiceSession_of_wants (h : client.wants = true) : client.voiceSession = none := by
  rw [wants, Bool.and_eq_true, Bool.and_eq_true] at h
  exact Option.isNone_iff_eq_none.mp h.1.2

/-- A section passes on, keeps or closes the session that it has. -/
theorem LifecycleRan.balance (h : LifecycleRan client self head next pushed)
    (hle : head.holds ≤ client.live) :
    next.live + client.stored + head.holds =
      client.live + next.stored + Pool.load holds pushed := by
  cases h with
  | started | requested | forgot | connected | disconnected | checked | failed | refused |
    released | marked | scheduled | recovering => rfl
  | created =>
      change (client.created ::ₘ client.live) + client.stored + 0 =
        client.live + client.stored + ({client.created} + 0)
      rw [← Multiset.singleton_add]
      abel
  | retained session hwants =>
      change client.live + client.stored + {session} = client.live + {session} + (0 + 0)
      rw [stored, voiceSession_of_wants hwants]
      change client.live + 0 + {session} = _
      abel
  | cleared cause hfree =>
      have hrest : Pool.load holds cause.rest = 0 := by cases cause <;> rfl
      rw [Pool.load_cons, hrest, stored]
      cases client.voiceSession with
      | none => rfl
      | some session =>
          change client.live + {session} + 0 = client.live + 0 + ({session} + 0)
          abel
  | closed session =>
      have hmem : session ∈ client.live := Multiset.singleton_le.mp hle
      change client.live.erase session + client.stored + {session} =
        client.live + client.stored + 0
      rw [add_right_comm, add_comm (client.live.erase session), Multiset.singleton_add,
        Multiset.cons_erase hmem, add_zero]
  | skipped hhead =>
      rcases hhead with ⟨generation, rfl, -⟩ | ⟨rfl, -⟩ | ⟨session, rfl | rfl | rfl⟩ <;> rfl

/-- Only a start that holds the lock brings a second session into play. -/
theorem LifecycleRan.handles_le (h : LifecycleRan client self head next pushed) :
    next.voiceSession.toList.length + Pool.load handles pushed ≤
        client.voiceSession.toList.length + head.handles ∨
      client.voiceLifecycleMutex = none ∧ next.voiceSession = none ∧ pushed = [startSession] ∧
        head.handles = 0 := by
  cases h with
  | checked hfree hwants => exact Or.inr ⟨hfree, voiceSession_of_wants hwants, rfl, rfl⟩
  | retained session hwants =>
      rw [voiceSession_of_wants hwants]
      exact Or.inl le_rfl
  | cleared cause hfree =>
      have hrest : Pool.load handles cause.rest = 0 := by cases cause <;> rfl
      rw [Pool.load_cons, hrest]
      cases client.voiceSession with
      | none => exact Or.inl le_rfl
      | some session => exact Or.inl le_rfl
  | failed | closed => exact Or.inl (Nat.le_add_right _ _)
  | started | requested | forgot | connected | disconnected | created | refused | released |
    marked | scheduled | recovering => exact Or.inl le_rfl
  | skipped hhead => exact Or.inl (Nat.le_add_right _ _)

/-- A section that holds the lock keeps it or gives it back, and one that takes it has
found it free. -/
theorem LifecycleRan.lock (h : LifecycleRan client self head next pushed) :
    (next.voiceLifecycleMutex = client.voiceLifecycleMutex ∨ client.voiceLifecycleMutex = none ∨
      head.InLifecycle) ∧
    (∀ item ∈ pushed.tail, ¬ item.InLifecycle) ∧
    ∀ item ∈ pushed, item.InLifecycle →
      next.voiceLifecycleMutex = some self ∨
        head.InLifecycle ∧ next.voiceLifecycleMutex = client.voiceLifecycleMutex := by
  cases h with
  | checked hfree hwants => exact ⟨Or.inr (Or.inl hfree), by simp, fun _ _ _ => Or.inl rfl⟩
  | cleared cause hfree =>
      refine ⟨Or.inr (Or.inl hfree), fun item hitem => ?_, fun _ _ _ => Or.inl rfl⟩
      cases cause with
      | stopVoice | disconnected => exact absurd hitem List.not_mem_nil
      | recovery =>
          rw [List.mem_singleton.mp hitem]
          exact id
  | created | failed | retained | refused =>
      exact ⟨Or.inl rfl, by simp, fun _ _ _ => Or.inr ⟨trivial, rfl⟩⟩
  | closed | released => exact ⟨Or.inr (Or.inr trivial), by simp, by simp⟩
  | started | requested | forgot | connected | disconnected | marked | scheduled | recovering |
    skipped => exact ⟨Or.inl rfl, by simp, by simp [InLifecycle]⟩

/-- Whoever stops wanting voice calls for a section that gives up the session. -/
theorem LifecycleRan.followed (h : LifecycleRan client self head next pushed)
    (hsession : next.voiceSession.isSome = true) :
    (next.voiceRequested = true ∧ next.connected = true) ∨
      client.voiceSession.isSome = true ∧ head.clears = false ∧
        (client.voiceRequested = true → next.voiceRequested = true ∨ pushed.any clears = true) ∧
        (client.connected = true → next.connected = true ∨ pushed.any clears = true) := by
  cases h with
  | retained session hwants =>
      rw [wants, Bool.and_eq_true, Bool.and_eq_true] at hwants
      exact Or.inl ⟨hwants.1.1, hwants.2⟩
  | cleared => contradiction
  | requested => exact Or.inr ⟨hsession, rfl, fun _ => Or.inl rfl, Or.inl⟩
  | connected => exact Or.inr ⟨hsession, rfl, Or.inl, fun _ => Or.inl rfl⟩
  | forgot => exact Or.inr ⟨hsession, rfl, fun _ => Or.inr rfl, Or.inl⟩
  | disconnected => exact Or.inr ⟨hsession, rfl, Or.inl, fun _ => Or.inr rfl⟩
  | started | checked | created | failed | refused | closed | released | marked | scheduled |
    recovering => exact Or.inr ⟨hsession, rfl, Or.inl, Or.inl⟩
  | skipped hhead =>
      refine Or.inr ⟨hsession, ?_, Or.inl, Or.inl⟩
      rcases hhead with ⟨generation, rfl, -⟩ | ⟨rfl, -⟩ | ⟨session, rfl | rfl | rfl⟩ <;> rfl

/-! ## The recoveries -/

/-- How often a session was or will be recovered. -/
def recoveries (client : LifecycleClient) (session : SessionId) : Nat :=
  client.recovered.count session + client.recoveryQueue.count session

/-- How often a session may be recovered. -/
def quota (client : LifecycleClient) (session : SessionId) : Nat :=
  if session ∈ client.recoveryScheduled then 1 else 0

/-- A recovery is scheduled only when the flag of the session is set. -/
theorem LifecycleRan.recoveries_le (h : LifecycleRan client self head next pushed)
    (session : SessionId) :
    next.recoveries session + Pool.load (schedules session) pushed + client.quota session ≤
      client.recoveries session + head.schedules session + next.quota session := by
  cases h with
  | marked other hnew =>
      change client.recoveries session + ((if other = session then 1 else 0) + 0) + _ ≤ _
      by_cases hsame : other = session
      · subst hsame
        rw [quota, quota, if_neg hnew, if_pos (Finset.mem_insert_self _ _), if_pos rfl]
        rfl
      · have hquota : client.quota session ≤
            quota { client with recoveryScheduled := insert other client.recoveryScheduled }
              session := by
          rw [quota, quota]
          split
          · rename_i hmem
            rw [if_pos (Finset.mem_insert_of_mem hmem)]
          · exact Nat.zero_le _
        rw [if_neg hsame]
        omega
  | scheduled other =>
      change client.recovered.count session +
        (client.recoveryQueue ++ [other]).count session + 0 + client.quota session ≤
          client.recoveries session + (if other = session then 1 else 0) + client.quota session
      rw [List.count_append, List.count_singleton, recoveries]
      by_cases hsame : other = session <;> simp [hsame]
      omega
  | cleared cause hfree =>
      have hrest : Pool.load (schedules session) cause.rest = 0 := by cases cause <;> rfl
      rw [Pool.load_cons, hrest]
      cases client.voiceSession <;> exact le_rfl
  | started | requested | forgot | connected | disconnected | checked | created | failed |
    retained | refused | closed | released | recovering => exact le_rfl
  | skipped hhead =>
      change client.recoveries session + 0 + client.quota session ≤ _
      omega

/-! ## What the user wants -/

theorem LifecycleRan.inAudio (h : LifecycleRan client self head next pushed) :
    (∀ item ∈ pushed.tail, ¬ item.InAudio) ∧ ∀ item ∈ pushed, item.InAudio → head.InAudio := by
  cases h with
  | cleared cause hfree =>
      have hrest : ∀ item ∈ cause.rest, ¬ item.InAudio := by
        cases cause <;> simp [StopCause.rest, InAudio]
      refine ⟨hrest, fun item hitem haudio => ?_⟩
      rcases List.mem_cons.mp hitem with rfl | hmem
      · cases hsession : client.voiceSession <;> rw [hsession] at haudio <;> exact haudio.elim
      · exact absurd haudio (hrest item hmem)
  | started | forgot => exact ⟨by simp, fun _ _ _ => trivial⟩
  | requested | connected | disconnected | checked | created | failed | retained | refused |
    closed | released | marked | scheduled | recovering | skipped =>
      exact ⟨by simp, by simp [InAudio]⟩

theorem LifecycleRan.inCallback (h : LifecycleRan client self head next pushed) :
    (∀ item ∈ pushed.tail, ¬ item.InCallback) ∧
      ∀ item ∈ pushed, item.InCallback → head.InCallback := by
  cases h with
  | cleared cause hfree =>
      have hrest : ∀ item ∈ cause.rest, ¬ item.InCallback := by
        cases cause <;> simp [StopCause.rest, InCallback]
      refine ⟨hrest, fun item hitem hcallback => ?_⟩
      rcases List.mem_cons.mp hitem with rfl | hmem
      · cases hsession : client.voiceSession <;> rw [hsession] at hcallback <;>
          exact hcallback.elim
      · exact absurd hcallback (hrest item hmem)
  | connected | disconnected => exact ⟨by simp, fun _ _ _ => trivial⟩
  | started | requested | forgot | checked | created | failed | retained | refused |
    closed | released | marked | scheduled | recovering | skipped =>
      exact ⟨by simp, by simp [InCallback]⟩

theorem LifecycleRan.voiceRequested (h : LifecycleRan client self head next pushed) :
    next.voiceRequested = client.voiceRequested ∨
      (head = requestVoice ∧ next.voiceRequested = true) ∨
        (head = forgetVoice ∧ next.voiceRequested = false) := by
  cases h with
  | requested => exact Or.inr (Or.inl ⟨rfl, rfl⟩)
  | forgot => exact Or.inr (Or.inr ⟨rfl, rfl⟩)
  | _ => exact Or.inl rfl

theorem LifecycleRan.connected_eq (h : LifecycleRan client self head next pushed) :
    next.connected = client.connected ∨ ∃ connected, head = onSignalingState connected := by
  cases h with
  | connected => exact Or.inr ⟨true, rfl⟩
  | disconnected => exact Or.inr ⟨false, rfl⟩
  | _ => exact Or.inl rfl

theorem LifecycleRan.audio_eq (h : LifecycleRan client self head next pushed) :
    next.audioQueue = client.audioQueue ∧ next.audioGeneration = client.audioGeneration := by
  cases h <;> exact ⟨rfl, rfl⟩

/-- Only a start that was not overtaken calls for another section that asks for voice. -/
theorem LifecycleRan.asks_of_mem (h : LifecycleRan client self head next pushed)
    {item : LifecycleSection} (hitem : item ∈ pushed) {wanted : Bool}
    (hasks : item.asks = some wanted) : item = requestVoice ∧ head.asks = some wanted := by
  cases h with
  | started =>
      rw [List.mem_singleton.mp hitem] at hasks ⊢
      exact ⟨rfl, hasks⟩
  | cleared cause hfree =>
      rcases List.mem_cons.mp hitem with rfl | hmem
      · cases hsession : client.voiceSession <;> rw [hsession] at hasks <;> contradiction
      · cases cause with
        | stopVoice | disconnected => exact absurd hmem List.not_mem_nil
        | recovery =>
            rw [List.mem_singleton.mp hmem] at hasks
            contradiction
  | requested | forgot | connected | disconnected | checked | created | failed | retained |
    refused | marked | recovering =>
      rw [List.mem_singleton.mp hitem] at hasks
      contradiction
  | closed | released | scheduled | skipped => exact absurd hitem List.not_mem_nil

theorem LifecycleRan.stopped_of_mem (h : LifecycleRan client self head next pushed)
    (hmem : clearVoice StopCause.stopVoice ∈ pushed) : next.voiceRequested = false := by
  cases h with
  | forgot => rfl
  | cleared cause hfree =>
      cases hsession : client.voiceSession <;> cases cause <;>
        simp [hsession, StopCause.rest] at hmem
  | _ => simp at hmem

theorem LifecycleRan.lost_of_mem (h : LifecycleRan client self head next pushed)
    (hmem : clearVoice StopCause.disconnected ∈ pushed) : next.connected = false := by
  cases h with
  | disconnected => rfl
  | cleared cause hfree =>
      cases hsession : client.voiceSession <;> cases cause <;>
        simp [hsession, StopCause.rest] at hmem
  | _ => simp at hmem

/-- A section that asks for voice, or gives it up, has its way or is overtaken. -/
theorem LifecycleRan.settles (h : LifecycleRan client self head next pushed) {wanted : Bool}
    (hasks : head.asks = some wanted) :
    next.voiceRequested = wanted ∨ requestVoice ∈ pushed ∨
      ∃ generation, head = audioStart generation ∧ generation ≠ client.audioGeneration := by
  cases h with
  | started => exact Or.inr (Or.inl List.mem_cons_self)
  | requested => exact Or.inl (Option.some.inj hasks)
  | forgot => exact Or.inl (Option.some.inj hasks)
  | skipped hhead =>
      rcases hhead with hstale | ⟨rfl, -⟩ | ⟨session, rfl | rfl | rfl⟩
      · exact Or.inr (Or.inr hstale)
      · contradiction
      · contradiction
      · contradiction
      · contradiction
  | _ => contradiction

/-- When a session is missing, a start has just failed or somebody will look. -/
theorem LifecycleRan.missing (h : LifecycleRan client self head next pushed)
    (hstopped : head = clearVoice StopCause.stopVoice → client.voiceRequested = false)
    (hlost : head = clearVoice StopCause.disconnected → client.connected = false)
    (hwants : next.wants = true) :
    next.startResults.getLast? = some false ∨ pushed.any looks = true ∨
      head.looks = false ∧ client.wants = true ∧ next.startResults = client.startResults := by
  cases h with
  | requested | connected | checked | created | recovering => exact Or.inr (Or.inl rfl)
  | failed => exact Or.inl List.getLast?_concat
  | forgot =>
      rw [wants] at hwants
      contradiction
  | disconnected =>
      rw [wants, Bool.and_false] at hwants
      contradiction
  | retained session hmissing =>
      have hnone := voiceSession_of_wants hwants
      contradiction
  | refused session hkept =>
      rw [hkept] at hwants
      contradiction
  | cleared cause hfree =>
      rw [wants, Bool.and_eq_true, Bool.and_eq_true] at hwants
      cases cause with
      | stopVoice =>
          rw [show client.voiceRequested = true from hwants.1.1] at hstopped
          exact absurd (hstopped rfl) (by decide)
      | disconnected =>
          rw [show client.connected = true from hwants.2] at hlost
          exact absurd (hlost rfl) (by decide)
      | recovery =>
          refine Or.inr (Or.inl ?_)
          rw [List.any_cons, Bool.or_eq_true]
          exact Or.inr rfl
  | started | closed | released | marked | scheduled =>
      exact Or.inr (Or.inr ⟨rfl, hwants, rfl⟩)
  | skipped hhead =>
      refine Or.inr (Or.inr ⟨?_, hwants, rfl⟩)
      rcases hhead with ⟨generation, rfl, -⟩ | ⟨rfl, hkept⟩ | ⟨session, rfl | rfl | rfl⟩
      · rfl
      · rw [hkept] at hwants
        contradiction
      · rfl
      · rfl
      · rfl

end LifecycleClient

/-! ## All interleavings -/

namespace LifecycleSystem

open LifecycleSection LifecycleClient

variable {system next : LifecycleSystem} {action : LifecycleAction}

/-- What one action can do. -/
inductive LifecycleActed (system : LifecycleSystem) : LifecycleAction → LifecycleSystem → Prop
  | asked (action : LifecycleAction) (wanted : Bool) (task : AudioTask)
      (htask : wanted = true ∧ task = AudioTask.start (system.client.audioGeneration + 1) ∨
        wanted = false ∧ task = AudioTask.stop) :
      LifecycleActed system action
        { system with
          wanted := wanted
          client :=
            { system.client with
              audioGeneration := system.client.audioGeneration + 1
              audioQueue := system.client.audioQueue ++ [task] } }
  | took (task : AudioTask) (rest : List AudioTask)
      (hqueue : system.client.audioQueue = task :: rest) (hidle : system.Idle system.audioThread) :
      LifecycleActed system LifecycleAction.takeAudio
        { system.spawn task.body with
          audioThread := some system.threads.length
          client := { system.client with audioQueue := rest } }
  | reported (connected : Bool) :
      LifecycleActed system (LifecycleAction.report connected)
        { system.spawn (LifecycleSection.onSignalingState connected) with
          callbackThread := some system.threads.length }
  | sessionFailed (session : SessionId) :
      LifecycleActed system (LifecycleAction.fail session) (system.spawn (onFailed session))
  | recovery (session : SessionId) (rest : List SessionId)
      (hqueue : system.client.recoveryQueue = session :: rest) :
      LifecycleActed system LifecycleAction.takeRecovery
        { system.spawn (LifecycleSection.recoverVoice session) with
          recoveryWorker := some system.threads.length
          client :=
            { system.client with
              recoveryQueue := rest
              recovered := system.client.recovered ++ [session] } }
  | stopped :
      LifecycleActed system LifecycleAction.stopRecovery
        { system with
          client := { system.client with recoveryStopping := true, recoveryQueue := [] } }
  | ran (index : Nat) (succeeds : Bool) (head : LifecycleSection) (rest : List LifecycleSection)
      (client : LifecycleClient) (pushed : List LifecycleSection)
      (hhead : system.threads[index]? = some (head :: rest))
      (hran : LifecycleRan system.client index head client pushed) :
      LifecycleActed system (LifecycleAction.run index succeeds)
        { system with client := client, threads := system.threads.set index (pushed ++ rest) }

theorem lifecycleActed_of_act (h : system.act action = some next) :
    LifecycleActed system action next := by
  cases action with
  | audioStart =>
      rw [act, Option.some.injEq] at h
      rw [← h]
      exact LifecycleActed.asked _ true _ (Or.inl ⟨rfl, rfl⟩)
  | audioStop =>
      rw [act, Option.some.injEq] at h
      rw [← h]
      exact LifecycleActed.asked _ false _ (Or.inr ⟨rfl, rfl⟩)
  | takeAudio =>
      rw [act] at h
      split at h
      · contradiction
      · rename_i task rest hqueue
        rw [Option.ite_none_right_eq_some, Option.some.injEq] at h
        rcases h with ⟨hidle, rfl⟩
        exact LifecycleActed.took task rest hqueue hidle
  | report connected =>
      rw [act, Option.some.injEq] at h
      rw [← h]
      exact LifecycleActed.reported connected
  | fail session =>
      rw [act, Option.ite_none_right_eq_some, Option.some.injEq] at h
      rw [← h.2]
      exact LifecycleActed.sessionFailed session
  | takeRecovery =>
      rw [act] at h
      split at h
      · contradiction
      · rename_i session rest hqueue
        rw [Option.ite_none_right_eq_some, Option.some.injEq] at h
        rcases h with ⟨hidle, rfl⟩
        exact LifecycleActed.recovery session rest hqueue
  | stopRecovery =>
      rw [act, Option.some.injEq] at h
      rw [← h]
      exact LifecycleActed.stopped
  | run index succeeds =>
      rw [act] at h
      split at h
      · rename_i head rest hhead
        rcases Option.map_eq_some_iff.mp h with ⟨⟨client, pushed⟩, hrun, rfl⟩
        exact LifecycleActed.ran index succeeds head rest client pushed hhead
          (lifecycleRan_of_run hrun)
      · contradiction

/-- The invariant of all interleavings. -/
structure Sound (system : LifecycleSystem) : Prop where
  guarded : Pool.Guarded InLifecycle system.client.voiceLifecycleMutex system.threads
  custody : InCustody holds system.client.live system.client.stored system.threads
  single : system.client.voiceSession.toList.length + Pool.total handles system.threads ≤ 1
  followed : system.client.voiceSession.isSome = true →
    (system.client.voiceRequested = true ∨ Pool.Owes clears system.threads) ∧
      (system.client.connected = true ∨ Pool.Owes clears system.threads)
  once : ∀ session, system.client.recoveries session +
    Pool.total (schedules session) system.threads ≤ system.client.quota session

/-- A thread that begins outside the lock, with nothing in its hands. -/
theorem Sound.spawn (h : Sound system) {item : LifecycleSection} (houter : ¬ item.InLifecycle)
    (hholds : item.holds = 0) (hhandles : item.handles = 0)
    (hschedules : ∀ session, item.schedules session = 0) : Sound (system.spawn item) := by
  refine ⟨h.guarded.spawn ?_, h.custody.spawn ?_, ?_, fun hsession => ?_, fun session => ?_⟩
  · intro other hother
    rwa [List.mem_singleton.mp hother]
  · rw [Pool.load_cons, hholds, Pool.load_nil, add_zero]
  · change _ + Pool.total handles (system.threads ++ [[item]]) ≤ 1
    rw [Pool.total_spawn, Pool.load_cons, hhandles]
    exact h.single
  · have hfollowed := h.followed hsession
    exact ⟨hfollowed.1.imp_right fun howes => howes.spawn _,
      hfollowed.2.imp_right fun howes => howes.spawn _⟩
  · change _ + Pool.total (schedules session) (system.threads ++ [[item]]) ≤ _
    rw [Pool.total_spawn, Pool.load_cons, hschedules]
    exact h.once session

theorem Sound.run (h : Sound system) {index : Nat} {head : LifecycleSection}
    {rest pushed : List LifecycleSection} {client : LifecycleClient}
    (hhead : system.threads[index]? = some (head :: rest))
    (hran : LifecycleRan system.client index head client pushed) :
    Sound { system with
      client := client, threads := system.threads.set index (pushed ++ rest) } := by
  refine ⟨?_, h.custody.run hhead (hran.balance (h.custody.le_live hhead)), ?_, fun hsession => ?_,
    fun session => ?_⟩
  · rcases hran.lock with ⟨hlock, hfirst, hpushed⟩
    refine h.guarded.run hhead hlock hfirst fun item hitem hinside => ?_
    rcases hpushed item hitem hinside with hself | ⟨hheld, hsame⟩
    · exact hself
    · rw [show client.voiceLifecycleMutex = _ from hsame]
      exact h.guarded.holder index _ hhead head List.mem_cons_self hheld
  · have htotal := Pool.total_run handles hhead pushed
    have hsingle := h.single
    change client.voiceSession.toList.length +
      Pool.total handles (system.threads.set index (pushed ++ rest)) ≤ 1
    rcases hran.handles_le with hle | ⟨hfree, hnone, hpushed, hzero⟩
    · omega
    · -- The lock was free, so no other start is under way.
      have hidle : Pool.total handles system.threads = 0 := by
        refine Pool.total_eq_zero handles fun item hpending => ?_
        have hguarded := h.guarded
        rw [hfree] at hguarded
        cases item with
        | startSession | retainSession session | closeSession session =>
            exact absurd hpending (hguarded.not_pending trivial)
        | _ => rfl
      rw [hidle, hzero, hpushed] at htotal
      rw [hnone, hpushed]
      exact (Nat.zero_add _).trans_le htotal.le
  · rcases hran.followed hsession with ⟨hrequested, hconnected⟩ | ⟨hold, hclears, hreq, hcon⟩
    · exact ⟨Or.inl hrequested, Or.inl hconnected⟩
    · have hkeep : Pool.Owes clears system.threads →
          Pool.Owes clears (system.threads.set index (pushed ++ rest)) := by
        intro howes
        refine howes.run hhead fun hcontra => ?_
        rw [hclears] at hcontra
        contradiction
      rcases h.followed hold with ⟨hrequested, hconnected⟩
      constructor
      · rcases hrequested with hset | howes
        · exact (hreq hset).imp_right fun hpushed => Pool.owes_pushed hhead hpushed
        · exact Or.inr (hkeep howes)
      · rcases hconnected with hset | howes
        · exact (hcon hset).imp_right fun hpushed => Pool.owes_pushed hhead hpushed
        · exact Or.inr (hkeep howes)
  · have htotal := Pool.total_run (schedules session) hhead pushed
    have honce := h.once session
    have hle := hran.recoveries_le session
    change client.recoveries session +
      Pool.total (schedules session) (system.threads.set index (pushed ++ rest)) ≤
        client.quota session
    omega

/-- An action that keeps what counts for the invariant. -/
theorem Sound.congr (h : Sound system) (hthreads : next.threads = system.threads)
    (hmutex : next.client.voiceLifecycleMutex = system.client.voiceLifecycleMutex)
    (hlive : next.client.live = system.client.live)
    (hsession : next.client.voiceSession = system.client.voiceSession)
    (hrequested : next.client.voiceRequested = system.client.voiceRequested)
    (hconnected : next.client.connected = system.client.connected)
    (hscheduled : next.client.recoveryScheduled = system.client.recoveryScheduled)
    (hle : ∀ session, next.client.recoveries session ≤ system.client.recoveries session) :
    Sound next where
  guarded := by
    rw [hmutex, hthreads]
    exact h.guarded
  custody := by
    rw [InCustody, stored, hlive, hsession, hthreads]
    exact h.custody
  single := by
    rw [hsession, hthreads]
    exact h.single
  followed hsome := by
    rw [hrequested, hconnected, hthreads]
    rw [hsession] at hsome
    exact h.followed hsome
  once session := by
    rw [quota, hscheduled, hthreads]
    exact (Nat.add_le_add_right (hle session) _).trans (h.once session)

/-- The invariant holds in all interleavings. -/
theorem sound_of_reachable (h : Reachable Initial Step system) : Sound system := by
  refine Reachable.invariant (fun state hinitial => ?_) (fun system next _ hsound hstep => ?_) h
  · rw [hinitial]
    exact ⟨Pool.Guarded.nil _ _, InCustody.empty holds, by decide, by simp, fun _ => le_rfl⟩
  · rcases hstep with ⟨action, hact⟩
    cases lifecycleActed_of_act hact with
    | asked action wanted task htask =>
        exact hsound.congr rfl rfl rfl rfl rfl rfl rfl fun _ => le_rfl
    | took task rest hqueue hidle =>
        have hspawned : Sound (system.spawn task.body) := by
          cases task <;> exact hsound.spawn id rfl rfl fun _ => rfl
        exact hspawned.congr rfl rfl rfl rfl rfl rfl rfl fun _ => le_rfl
    | reported connected =>
        have hspawned : Sound (system.spawn (LifecycleSection.onSignalingState connected)) :=
          hsound.spawn id rfl rfl fun _ => rfl
        exact hspawned.congr rfl rfl rfl rfl rfl rfl rfl fun _ => le_rfl
    | sessionFailed session => exact hsound.spawn id rfl rfl fun _ => rfl
    | recovery session rest hqueue =>
        have hspawned : Sound (system.spawn (recoverVoice session)) :=
          hsound.spawn id rfl rfl fun _ => rfl
        refine hspawned.congr rfl rfl rfl rfl rfl rfl rfl fun other => ?_
        change (system.client.recovered ++ [session]).count other + rest.count other ≤
          system.client.recovered.count other + system.client.recoveryQueue.count other
        rw [hqueue]
        simp only [List.count_append, List.count_cons, List.count_nil]
        omega
    | stopped =>
        refine hsound.congr rfl rfl rfl rfl rfl rfl rfl fun other => ?_
        exact Nat.add_le_add_left (Nat.zero_le _) _
    | ran index succeeds head rest client pushed hhead hran => exact hsound.run hhead hran

/-- There is one open session at most, and no session is recovered twice.  Once all calls
have returned, the client keeps the session that is open, and it has one only while voice
is requested and the transport is connected. -/
theorem one_session_of_reachable (h : Reachable Initial Step system) :
    system.client.live.card ≤ 1 ∧ system.client.recovered.Nodup ∧
      (Pool.Quiet system.threads →
        system.client.live = system.client.stored ∧
        (system.client.voiceSession.isSome = true →
          system.client.voiceRequested = true ∧ system.client.connected = true)) := by
  have hsound := sound_of_reachable h
  refine ⟨?_, ?_, fun hquiet => ⟨hsound.custody.live_eq_stored hquiet, fun hsession => ?_⟩⟩
  · have hlive : system.client.live = system.client.stored + Pool.total holds system.threads :=
      hsound.custody
    have hheld := Pool.map_total holds Multiset.cardHom system.threads
    have hhandled : Pool.total (Multiset.cardHom ∘ holds) system.threads ≤
        Pool.total handles system.threads := by
      refine Pool.total_le_total (fun item => ?_) system.threads
      cases item <;> simp [holds, handles]
    have hsingle := hsound.single
    rw [hlive, Multiset.card_add]
    change system.client.voiceSession.toList.length +
      Multiset.cardHom (Pool.total holds system.threads) ≤ 1
    omega
  · rw [List.nodup_iff_count_le_one]
    intro session
    have honce := hsound.once session
    have hquota : system.client.quota session ≤ 1 := by
      rw [quota]
      split <;> omega
    rw [recoveries] at honce
    omega
  · have hfollowed := hsound.followed hsession
    exact ⟨hfollowed.1.resolve_right hquiet.not_owes, hfollowed.2.resolve_right hquiet.not_owes⟩

/-! ## Orderly interleavings -/

/-- The invariant of orderly interleavings. -/
structure Settled (system : LifecycleSystem) : Prop where
  audio : Pool.Guarded InAudio system.audioThread system.threads
  callback : Pool.Guarded InCallback system.callbackThread system.threads
  stopped : Pool.Pending system.threads (clearVoice StopCause.stopVoice) →
    system.client.voiceRequested = false
  lost : Pool.Pending system.threads (clearVoice StopCause.disconnected) →
    system.client.connected = false
  last : ∀ task ∈ system.client.audioQueue.getLast?, task.wanted = system.wanted ∧
    ∀ generation, task = AudioTask.start generation → generation = system.client.audioGeneration
  asked : system.client.audioQueue = [] → ∀ item, Pool.Pending system.threads item →
    ∀ wanted ∈ item.asks, wanted = system.wanted
  fresh : system.client.audioQueue = [] → ∀ generation,
    Pool.Pending system.threads (audioStart generation) →
      generation = system.client.audioGeneration
  reached : system.client.audioQueue = [] →
    (∀ item, Pool.Pending system.threads item → item.asks = none) →
      system.client.voiceRequested = system.wanted
  missing : system.client.wants = true →
    system.client.startResults.getLast? = some false ∨ Pool.Owes looks system.threads

theorem asks_body (task : AudioTask) : task.body.asks = some task.wanted := by
  cases task <;> rfl

theorem Settled.initial : Settled {} := by
  refine ⟨Pool.Guarded.nil _ _, Pool.Guarded.nil _ _, fun _ => rfl, fun _ => rfl, by simp, ?_, ?_,
    fun _ _ => rfl, by simp [wants]⟩
  · intro _ item hpending
    exact absurd hpending (Pool.Quiet.not_pending (fun _ h => absurd h List.not_mem_nil) item)
  · intro _ generation hpending
    exact absurd hpending (Pool.Quiet.not_pending (fun _ h => absurd h List.not_mem_nil) _)

/-- A thread that begins with something else than voice or the connection. -/
theorem Settled.spawn (h : Settled system) {item : LifecycleSection} (haudio : ¬ item.InAudio)
    (hcallback : ¬ item.InCallback) : Settled (system.spawn item) := by
  have hasks : item.asks = none := by
    cases hwanted : item.asks with
    | none => rfl
    | some wanted => exact absurd (inAudio_of_asks hwanted) haudio
  have hold : ∀ {other : LifecycleSection}, Pool.Pending (system.threads ++ [[item]]) other →
      other ≠ item → Pool.Pending system.threads other := by
    intro other hpending hne
    rcases Pool.pending_of_spawn hpending with hold | hnew
    · exact hold
    · exact absurd (List.mem_singleton.mp hnew) hne
  refine ⟨h.audio.spawn ?_, h.callback.spawn ?_, fun hpending => ?_, fun hpending => ?_, h.last,
    fun hempty other hpending wanted hwanted => ?_, fun hempty generation hpending => ?_,
    fun hempty hnone => ?_, fun hwants => (h.missing hwants).imp_right fun howes => howes.spawn _⟩
  · intro other hother
    rwa [List.mem_singleton.mp hother]
  · intro other hother
    rwa [List.mem_singleton.mp hother]
  · refine h.stopped (hold hpending ?_)
    rintro rfl
    exact haudio trivial
  · refine h.lost (hold hpending ?_)
    rintro rfl
    exact hcallback trivial
  · refine h.asked hempty other (hold hpending ?_) wanted hwanted
    rintro rfl
    rw [hasks] at hwanted
    contradiction
  · refine h.fresh hempty generation (hold hpending ?_)
    rintro rfl
    exact haudio trivial
  · exact h.reached hempty fun other hpending => hnone other (hpending.spawn _)

/-- The transport reports a change after the last report is through. -/
theorem Settled.report (h : Settled system) (hidle : system.Idle system.callbackThread)
    (connected : Bool) :
    Settled { system.spawn (LifecycleSection.onSignalingState connected) with
      callbackThread := some system.threads.length } := by
  have hold : ∀ {other : LifecycleSection},
      Pool.Pending (system.threads ++ [[LifecycleSection.onSignalingState connected]]) other →
        other ≠ LifecycleSection.onSignalingState connected →
          Pool.Pending system.threads other := by
    intro other hpending hne
    rcases Pool.pending_of_spawn hpending with hold | hnew
    · exact hold
    · exact absurd (List.mem_singleton.mp hnew) hne
  refine ⟨h.audio.spawn (by simp [InAudio]), h.callback.takeOver hidle _, fun hpending => ?_,
    fun hpending => ?_, h.last, fun hempty other hpending wanted hwanted => ?_,
    fun hempty generation hpending => ?_, fun hempty hnone => ?_,
    fun hwants => (h.missing hwants).imp_right fun howes => howes.spawn _⟩
  · exact h.stopped (hold hpending (by simp))
  · exact h.lost (hold hpending (by simp))
  · refine h.asked hempty other (hold hpending ?_) wanted hwanted
    rintro rfl
    contradiction
  · exact h.fresh hempty generation (hold hpending (by simp))
  · exact h.reached hempty fun other hpending => hnone other (hpending.spawn _)

/-- The user asks for voice or gives it up. -/
theorem Settled.ask (h : Settled system) {wanted : Bool} {task : AudioTask}
    (htask : wanted = true ∧ task = AudioTask.start (system.client.audioGeneration + 1) ∨
      wanted = false ∧ task = AudioTask.stop) :
    Settled { system with
      wanted := wanted
      client :=
        { system.client with
          audioGeneration := system.client.audioGeneration + 1
          audioQueue := system.client.audioQueue ++ [task] } } := by
  have hnonempty : system.client.audioQueue ++ [task] ≠ [] := by simp
  refine ⟨h.audio, h.callback, h.stopped, h.lost, fun last hlast => ?_,
    fun hempty => absurd hempty hnonempty, fun hempty => absurd hempty hnonempty,
    fun hempty => absurd hempty hnonempty, h.missing⟩
  change last ∈ (system.client.audioQueue ++ [task]).getLast? at hlast
  rw [List.getLast?_concat, Option.mem_some_iff] at hlast
  subst hlast
  rcases htask with ⟨rfl, rfl⟩ | ⟨rfl, rfl⟩
  · refine ⟨rfl, fun generation hsame => ?_⟩
    rw [AudioTask.start.injEq] at hsame
    exact hsame.symm
  · exact ⟨rfl, by simp⟩

/-- The audio pool takes its next task after the last one is through. -/
theorem Settled.take (h : Settled system) {task : AudioTask} {rest : List AudioTask}
    (hqueue : system.client.audioQueue = task :: rest) (hidle : system.Idle system.audioThread) :
    Settled { system.spawn task.body with
      audioThread := some system.threads.length
      client := { system.client with audioQueue := rest } } := by
  have hlast : ∀ last ∈ rest.getLast?, last ∈ system.client.audioQueue.getLast? := by
    intro last hmem
    cases rest with
    | nil => contradiction
    | cons next rest =>
        rw [hqueue, List.getLast?_cons_cons]
        exact hmem
  have hself : rest = [] → task ∈ system.client.audioQueue.getLast? := by
    rintro rfl
    rw [hqueue]
    exact rfl
  have hnew : ∀ {item : LifecycleSection}, item.InAudio →
      Pool.Pending (system.threads ++ [[task.body]]) item → item = task.body := by
    intro item haudio hpending
    rcases Pool.pending_of_spawn hpending with hold | hnew
    · exact absurd hold (h.audio.not_pending_of_idle hidle haudio)
    · exact List.mem_singleton.mp hnew
  refine ⟨h.audio.takeOver hidle _, h.callback.spawn ?_, fun hpending => ?_, fun hpending => ?_,
    fun last hmem => h.last last (hlast last hmem), fun hempty item hpending wanted hwanted => ?_,
    fun hempty generation hpending => ?_, fun hempty hnone => ?_,
    fun hwants => (h.missing hwants).imp_right fun howes => howes.spawn _⟩
  · intro item hitem
    rw [List.mem_singleton.mp hitem]
    cases task <;> exact id
  · have haudio : InAudio (clearVoice StopCause.stopVoice) := trivial
    have hbody := hnew haudio hpending
    cases task <;> contradiction
  · rcases Pool.pending_of_spawn hpending with hold | hbody
    · exact h.lost hold
    · have hsame := List.mem_singleton.mp hbody
      cases task <;> contradiction
  · have hbody := hnew (inAudio_of_asks hwanted) hpending
    rw [hbody, asks_body, Option.mem_some_iff] at hwanted
    rw [← hwanted]
    exact (h.last task (hself hempty)).1
  · have haudio : InAudio (audioStart generation) := trivial
    have hbody := hnew haudio hpending
    cases task with
    | stop => contradiction
    | start other =>
        refine (h.last _ (hself hempty)).2 generation ?_
        rw [AudioTask.body, LifecycleSection.audioStart.injEq] at hbody
        rw [hbody]
  · have hbody := hnone task.body (Pool.pending_spawned (List.mem_singleton_self _) _)
    rw [asks_body] at hbody
    contradiction

theorem Settled.run (h : Settled system) {index : Nat} {head : LifecycleSection}
    {rest pushed : List LifecycleSection} {client : LifecycleClient}
    (hhead : system.threads[index]? = some (head :: rest))
    (hran : LifecycleRan system.client index head client pushed) :
    Settled { system with
      client := client, threads := system.threads.set index (pushed ++ rest) } := by
  have hpending : Pool.Pending system.threads head := Pool.pending_head hhead
  rcases hran.audio_eq with ⟨hqueue, hgeneration⟩
  refine ⟨?_, ?_, fun hstopped => ?_, fun hlost => ?_, fun task htask => ?_,
    fun hempty item hitem wanted hwanted => ?_, fun hempty generation hitem => ?_,
    fun hempty hnone => ?_, fun hwants => ?_⟩
  · refine h.audio.run hhead (Or.inl rfl) hran.inAudio.1 fun item hitem haudio => ?_
    exact h.audio.holder index _ hhead head List.mem_cons_self (hran.inAudio.2 item hitem haudio)
  · refine h.callback.run hhead (Or.inl rfl) hran.inCallback.1 fun item hitem hcallback => ?_
    exact h.callback.holder index _ hhead head List.mem_cons_self
      (hran.inCallback.2 item hitem hcallback)
  · rcases Pool.pending_of_run hhead hstopped with hold | hnew
    · have hbefore := h.stopped hold
      rcases hran.voiceRequested with hsame | ⟨rfl, -⟩ | ⟨-, hfalse⟩
      · exact hsame.trans hbefore
      · have haudio : InAudio (clearVoice StopCause.stopVoice) := trivial
        exact absurd (h.audio.eq_head hhead trivial haudio hold) (by simp)
      · exact hfalse
    · exact hran.stopped_of_mem hnew
  · rcases Pool.pending_of_run hhead hlost with hold | hnew
    · have hbefore := h.lost hold
      rcases hran.connected_eq with hsame | ⟨connected, rfl⟩
      · exact hsame.trans hbefore
      · have hcallback : InCallback (clearVoice StopCause.disconnected) := trivial
        exact absurd (h.callback.eq_head hhead trivial hcallback hold) (by simp)
    · exact hran.lost_of_mem hnew
  · change task ∈ client.audioQueue.getLast? at htask
    rw [hqueue] at htask
    refine ⟨(h.last task htask).1, fun generation hsame => ?_⟩
    rw [show client.audioGeneration = _ from hgeneration]
    exact (h.last task htask).2 generation hsame
  · rw [show client.audioQueue = _ from hqueue] at hempty
    rcases Pool.pending_of_run hhead hitem with hold | hnew
    · exact h.asked hempty item hold wanted hwanted
    · exact h.asked hempty head hpending wanted (hran.asks_of_mem hnew hwanted).2
  · rw [show client.audioQueue = _ from hqueue] at hempty
    rw [show client.audioGeneration = _ from hgeneration]
    rcases Pool.pending_of_run hhead hitem with hold | hnew
    · exact h.fresh hempty generation hold
    · have hasks : (audioStart generation).asks = some true := rfl
      exact absurd (hran.asks_of_mem hnew hasks).1 (by simp)
  · rw [show client.audioQueue = _ from hqueue] at hempty
    change client.voiceRequested = system.wanted
    cases hasks : head.asks with
    | none =>
        have hbefore : system.client.voiceRequested = system.wanted := by
          refine h.reached hempty fun item hitem => ?_
          by_cases hsame : item = head
          · rw [hsame, hasks]
          · exact hnone item (hitem.run hhead hsame pushed)
        rcases hran.voiceRequested with hsame | ⟨rfl, -⟩ | ⟨rfl, -⟩
        · exact hsame.trans hbefore
        · contradiction
        · contradiction
    | some wanted =>
        have hwanted := h.asked hempty head hpending wanted hasks
        rcases hran.settles hasks with hset | hmem | ⟨generation, rfl, hstale⟩
        · exact hset.trans hwanted
        · exact absurd (hnone requestVoice (Pool.pending_pushed hhead hmem)) (by simp [asks])
        · exact absurd (h.fresh hempty generation hpending) hstale
  · have hstopped : head = clearVoice StopCause.stopVoice →
        system.client.voiceRequested = false := by
      rintro rfl
      exact h.stopped hpending
    have hlost : head = clearVoice StopCause.disconnected → system.client.connected = false := by
      rintro rfl
      exact h.lost hpending
    rcases hran.missing hstopped hlost hwants with hfailed | hpushed | ⟨hlooks, hold, hresults⟩
    · exact Or.inl hfailed
    · exact Or.inr (Pool.owes_pushed hhead hpushed)
    · rcases h.missing hold with hfailed | howes
      · exact Or.inl ((congrArg _ hresults).trans hfailed)
      · refine Or.inr (howes.run hhead fun hcontra => ?_)
        rw [hlooks] at hcontra
        contradiction

/-- The invariant holds in all orderly interleavings. -/
theorem settled_of_reachable (h : Reachable Initial OrderlyStep system) : Settled system := by
  refine Reachable.invariant (fun state hinitial => ?_) (fun system next _ hsettled hstep => ?_) h
  · rw [hinitial]
    exact Settled.initial
  · rcases hstep with ⟨action, horderly, hact⟩
    cases lifecycleActed_of_act hact with
    | asked action wanted task htask => exact hsettled.ask htask
    | took task rest hqueue hidle => exact hsettled.take hqueue hidle
    | reported connected => exact hsettled.report horderly connected
    | sessionFailed session => exact hsettled.spawn id id
    | recovery session rest hqueue =>
        have hspawned : Settled (system.spawn (recoverVoice session)) := hsettled.spawn id id
        exact ⟨hspawned.audio, hspawned.callback, hspawned.stopped, hspawned.lost, hspawned.last,
          hspawned.asked, hspawned.fresh, hspawned.reached, hspawned.missing⟩
    | stopped =>
        exact ⟨hsettled.audio, hsettled.callback, hsettled.stopped, hsettled.lost, hsettled.last,
          hsettled.asked, hsettled.fresh, hsettled.reached, hsettled.missing⟩
    | ran index succeeds head rest client pushed hhead hran => exact hsettled.run hhead hran

/-- If the reports of the transport do not overlap, then once all calls and tasks are
through, voice is requested as the user has asked last; and the client has a session just
when voice is requested and the transport is connected, or the last start has failed. -/
theorem voice_follows_of_reachable (h : Reachable Initial OrderlyStep system)
    (hquiet : system.Quiet) :
    system.client.voiceRequested = system.wanted ∧
      (system.client.voiceSession.isSome = true →
        system.wanted = true ∧ system.client.connected = true) ∧
      (system.wanted = true → system.client.connected = true →
        system.client.voiceSession.isSome = true ∨
          system.client.startResults.getLast? = some false) := by
  have hsettled := settled_of_reachable h
  have hsound := sound_of_reachable (h.mono fun _ _ hstep => by
    rcases hstep with ⟨action, -, hact⟩
    exact ⟨action, hact⟩)
  have hrequested : system.client.voiceRequested = system.wanted :=
    hsettled.reached hquiet.2 fun item hpending => absurd hpending (hquiet.1.not_pending item)
  refine ⟨hrequested, fun hsession => ?_, fun hwanted hconnected => ?_⟩
  · have hfollowed := hsound.followed hsession
    rw [← hrequested]
    exact ⟨hfollowed.1.resolve_right hquiet.1.not_owes,
      hfollowed.2.resolve_right hquiet.1.not_owes⟩
  · cases hsession : system.client.voiceSession with
    | some session => exact Or.inl rfl
    | none =>
        have hwants : system.client.wants = true := by
          rw [wants, hrequested, hwanted, hsession, hconnected]
          rfl
        exact Or.inr ((hsettled.missing hwants).resolve_right hquiet.1.not_owes)

/-- Run the next sections of a thread. -/
def running (index steps : Nat) : List LifecycleAction :=
  List.replicate steps (LifecycleAction.run index true)

/-- The transport connects, the user asks for voice, the session fails and is recovered. -/
def recoveredSystem : LifecycleSystem :=
  (execute Orderly act {} (LifecycleAction.report true :: running 0 2 ++
    [LifecycleAction.audioStart, LifecycleAction.takeAudio] ++ running 1 6 ++
      LifecycleAction.fail 0 :: running 2 2 ++
        LifecycleAction.takeRecovery :: running 3 7)).getD {}

theorem recoveredSystem_has_one_session :
    recoveredSystem.client.recovered = [0] ∧ recoveredSystem.client.voiceSession = some 1 ∧
      recoveredSystem.client.live = recoveredSystem.client.stored := by
  refine ⟨by decide +kernel, by decide +kernel, ?_⟩
  have hreach : Reachable Initial Step recoveredSystem :=
    Reachable.execute (fun _ action _ _ hact => ⟨action, hact⟩) (Reachable.start rfl)
      (execute_eq_some_getD (by decide +kernel))
  exact ((one_session_of_reachable hreach).2.2 (by decide +kernel)).1

theorem recoveredSystem_follows :
    recoveredSystem.client.voiceRequested = recoveredSystem.wanted ∧
      recoveredSystem.wanted = true ∧ recoveredSystem.client.connected = true := by
  have hreach : Reachable Initial OrderlyStep recoveredSystem :=
    Reachable.execute (fun _ action _ horderly hact => ⟨action, horderly, hact⟩)
      (Reachable.start rfl) (execute_eq_some_getD (by decide +kernel))
  have hfollows := voice_follows_of_reachable hreach (by decide +kernel)
  exact ⟨hfollows.1, hfollows.2.1 (by decide +kernel)⟩

end LifecycleSystem

end Client
end Driscord
