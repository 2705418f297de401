import Driscord.Client.VoiceSettings

/-!
# Voice settings take effect, as far as the order of the calls allows

Two steps of the code can lose a setting.  `start_voice_if_requested` publishes a
session whose microphone was set from a copy of `voice_muted` that may be old, and
a call into the session may apply a value that is older than one applied already.
In runs without these two every setting is in effect whenever nothing is running.

Main results:

- Theorem `Effective.run`: what every section keeps.
- Theorem `settings_effective`: the promise, for all careful runs.
- Theorem `mute_is_lost`: two runs after which the microphone is live though the
  user has muted it.
-/

namespace Driscord
namespace Client

open Library Pool VoiceSection

/-! ## Calls that are due -/

/-- The session of a call into the media library. -/
def VoiceSection.session : VoiceSection → Option SessionId
  | enableMicrophone session _ | enableTrack session _ _ | scaleTrack session _ _ => some session
  | _ => none

/-- The callback that repeats the call. -/
def VoiceSection.callback : VoiceSection → Option VoiceSection
  | enableTrack _ mid _ | scaleTrack _ mid _ => some (onRemoteTrack mid)
  | _ => none

/-- The session is in the state that the call leads to. -/
def VoiceSession.Obeys (session : VoiceSession) : VoiceSection → Prop
  | enableMicrophone _ enabled => session.microphoneEnabled = enabled
  | enableTrack _ mid enabled =>
      ∀ track, session.remoteTracks.lookup mid = some track → track.enabled = enabled
  | scaleTrack _ mid volume =>
      ∀ track, session.remoteTracks.lookup mid = some track → track.volume = volume
  | _ => True

/-- The call has been done, and not been undone since. -/
def Done (sessions : List VoiceSession) (call : VoiceSection) : Prop :=
  ∀ session media, call.session = some session → sessions[session]? = some media →
    media.Obeys call

namespace VoiceClient

/-- A peer is to be heard. -/
def hears (client : VoiceClient) (peer : PeerId) : Bool :=
  !client.voiceDeafened && !client.peerMuted peer

/-- The volume for a peer. -/
def volumeOf (client : VoiceClient) (peer : PeerId) : ℚ :=
  client.masterVolume.value * (client.peerVolume peer).value

/-- The call to the same end that the settings ask for. -/
def owed (client : VoiceClient) : VoiceSection → Option VoiceSection
  | enableMicrophone session _ =>
      if client.voiceSession = some session then
        some (enableMicrophone session !client.voiceMuted)
      else none
  | enableTrack session mid _ =>
      if client.voiceSession = some session then
        (client.voiceBindings.lookup mid).map fun peer =>
          enableTrack session mid (client.hears peer)
      else none
  | scaleTrack session mid _ =>
      if client.voiceSession = some session then
        (client.voiceBindings.lookup mid).map fun peer =>
          scaleTrack session mid (client.volumeOf peer)
      else none
  | _ => none

/-- The settings ask for this very call. -/
def Due (client : VoiceClient) (call : VoiceSection) : Prop :=
  client.owed call = some call

variable {client : VoiceClient} {session : SessionId} {mid : Bytes}

theorem due_enableMicrophone {enabled : Bool} :
    client.Due (enableMicrophone session enabled) ↔
      client.voiceSession = some session ∧ enabled = !client.voiceMuted := by
  simp only [Due, owed]
  split <;> simp_all [eq_comm]

theorem due_enableTrack {enabled : Bool} :
    client.Due (enableTrack session mid enabled) ↔
      client.voiceSession = some session ∧
        ∃ peer, client.voiceBindings.lookup mid = some peer ∧ enabled = client.hears peer := by
  simp only [Due, owed]
  split <;> simp_all [eq_comm]

theorem due_scaleTrack {volume : ℚ} :
    client.Due (scaleTrack session mid volume) ↔
      client.voiceSession = some session ∧
        ∃ peer, client.voiceBindings.lookup mid = some peer ∧ volume = client.volumeOf peer := by
  simp only [Due, owed]
  split <;> simp_all [eq_comm]

/-- Only calls into the current session are ever due. -/
theorem Due.session_eq {call : VoiceSection} (h : client.Due call) :
    ∃ session, client.voiceSession = some session ∧ call.session = some session := by
  cases call with
  | enableMicrophone session enabled => exact ⟨session, (due_enableMicrophone.mp h).1, rfl⟩
  | enableTrack session mid enabled => exact ⟨session, (due_enableTrack.mp h).1, rfl⟩
  | scaleTrack session mid volume => exact ⟨session, (due_scaleTrack.mp h).1, rfl⟩
  | _ => simp [Due, owed] at h

theorem Due.cases {call : VoiceSection} (h : client.Due call) :
    (∃ session, call = enableMicrophone session !client.voiceMuted) ∨
      ∃ mid, call.callback = some (onRemoteTrack mid) := by
  cases call with
  | enableMicrophone session enabled =>
      rw [(due_enableMicrophone.mp h).2]
      exact Or.inl ⟨session, rfl⟩
  | enableTrack session mid enabled | scaleTrack session mid volume => exact Or.inr ⟨mid, rfl⟩
  | _ => simp [Due, owed] at h

/-- A track call stays due while the settings that it depends on stay. -/
theorem Due.of_same {client' : VoiceClient} {call : VoiceSection} (h : client'.Due call)
    (hcallback : call.callback = some (onRemoteTrack mid))
    (hsession : client'.voiceSession = client.voiceSession)
    (hbinding : client'.voiceBindings.lookup mid = client.voiceBindings.lookup mid)
    (hhears : ∀ peer, client'.hears peer = client.hears peer)
    (hvolume : ∀ peer, client'.volumeOf peer = client.volumeOf peer) : client.Due call := by
  cases call with
  | enableTrack session other enabled =>
      simp only [VoiceSection.callback, Option.some.injEq, onRemoteTrack.injEq] at hcallback
      subst hcallback
      rw [due_enableTrack, hsession, hbinding] at h
      simpa only [due_enableTrack, hhears] using h
  | scaleTrack session other volume =>
      simp only [VoiceSection.callback, Option.some.injEq, onRemoteTrack.injEq] at hcallback
      subst hcallback
      rw [due_scaleTrack, hsession, hbinding] at h
      simpa only [due_scaleTrack, hvolume] using h
  | _ => simp [VoiceSection.callback] at hcallback

/-- The calls of an update are what the settings ask for. -/
theorem mem_calls_of_due {call : VoiceSection} (h : client.Due call)
    (hcallback : call.callback = some (onRemoteTrack mid)) :
    call ∈ ((client.voiceUpdate mid).map VoiceTrackUpdate.calls).getD [] := by
  cases call with
  | enableTrack session other enabled =>
      rcases due_enableTrack.mp h with ⟨hsession, peer, hbound, rfl⟩
      simp only [VoiceSection.callback, Option.some.injEq, onRemoteTrack.injEq] at hcallback
      subst hcallback
      simp [voiceUpdate, hsession, hbound, VoiceTrackUpdate.calls, hears]
  | scaleTrack session other volume =>
      rcases due_scaleTrack.mp h with ⟨hsession, peer, hbound, rfl⟩
      simp only [VoiceSection.callback, Option.some.injEq, onRemoteTrack.injEq] at hcallback
      subst hcallback
      simp [voiceUpdate, hsession, hbound, VoiceTrackUpdate.calls, volumeOf]
  | _ => simp [VoiceSection.callback] at hcallback

/-- All updates together make every call on a track that is due. -/
theorem mem_allCalls_of_due {call : VoiceSection} (h : client.Due call)
    (hcallback : call.callback = some (onRemoteTrack mid)) : call ∈ client.allCalls := by
  have hbound : mid ∈ client.voiceBindings.keys := by
    rw [← AList.mem_keys, Table.mem_iff_exists_lookup]
    cases call with
    | enableTrack session other enabled =>
        rcases due_enableTrack.mp h with ⟨_, peer, hbound, _⟩
        simp only [VoiceSection.callback, Option.some.injEq, onRemoteTrack.injEq] at hcallback
        exact ⟨peer, hcallback ▸ hbound⟩
    | scaleTrack session other volume =>
        rcases due_scaleTrack.mp h with ⟨_, peer, hbound, _⟩
        simp only [VoiceSection.callback, Option.some.injEq, onRemoteTrack.injEq] at hcallback
        exact ⟨peer, hcallback ▸ hbound⟩
    | _ => simp [VoiceSection.callback] at hcallback
  have hcalls := mem_calls_of_due h hcallback
  cases hupdate : client.voiceUpdate mid with
  | none => simp [hupdate] at hcalls
  | some update =>
      rw [hupdate] at hcalls
      exact List.mem_flatMap.mpr
        ⟨update, List.mem_filterMap.mpr ⟨mid, hbound, hupdate⟩, by simpa using hcalls⟩

end VoiceClient

/-! ## Calls into the media library -/

namespace VoiceSession

variable {client : VoiceClient} {media : VoiceSession} {session : SessionId} {mid : Bytes}
variable {call : VoiceSection}

theorem lookup_setRemoteTrackEnabled (media : VoiceSession) (mid : Bytes) (enabled : Bool)
    (other : Bytes) :
    (media.setRemoteTrackEnabled mid enabled).remoteTracks.lookup other =
      (media.remoteTracks.lookup other).map fun track =>
        if other = mid then { track with enabled := enabled } else track :=
  Table.lookup_modify _ _ _ _

theorem lookup_setRemoteTrackVolume (media : VoiceSession) (mid : Bytes) {volume : ℚ}
    (hrange : 0 ≤ volume ∧ volume ≤ 10) (other : Bytes) :
    (media.setRemoteTrackVolume mid volume).remoteTracks.lookup other =
      (media.remoteTracks.lookup other).map fun track =>
        if other = mid then { track with volume := volume } else track := by
  have haccepted : ¬ (volume < 0 ∨ 10 < volume) := by
    rw [not_or, not_lt, not_lt]
    exact hrange
  rw [setRemoteTrackVolume, if_neg haccepted]
  exact Table.lookup_modify _ _ _ _

theorem obeys_setRemoteTrackEnabled (media : VoiceSession) (session : SessionId) (mid : Bytes)
    (enabled : Bool) :
    (media.setRemoteTrackEnabled mid enabled).Obeys (enableTrack session mid enabled) := by
  intro track htrack
  rw [lookup_setRemoteTrackEnabled] at htrack
  rcases Option.map_eq_some_iff.mp htrack with ⟨old, _, rfl⟩
  rw [if_pos rfl]

theorem obeys_setRemoteTrackVolume (media : VoiceSession) (session : SessionId) (mid : Bytes)
    {volume : ℚ} (hrange : 0 ≤ volume ∧ volume ≤ 10) :
    (media.setRemoteTrackVolume mid volume).Obeys (scaleTrack session mid volume) := by
  intro track htrack
  rw [lookup_setRemoteTrackVolume media mid hrange] at htrack
  rcases Option.map_eq_some_iff.mp htrack with ⟨old, _, rfl⟩
  rw [if_pos rfl]

/-- A call to another end is left alone by `set_microphone_enabled`. -/
theorem Obeys.enableMicrophone {enabled : Bool} (hdue : client.Due call)
    (hsession : call.session = some session)
    (howed : client.owed (VoiceSection.enableMicrophone session enabled) ≠ some call)
    (h : media.Obeys call) :
    ({ media with microphoneEnabled := enabled } : VoiceSession).Obeys call := by
  cases call with
  | enableMicrophone other setting =>
      cases hsession
      exact absurd hdue howed
  | _ => exact h

theorem Obeys.setRemoteTrackEnabled {enabled : Bool} (hdue : client.Due call)
    (hsession : call.session = some session)
    (howed : client.owed (enableTrack session mid enabled) ≠ some call)
    (h : media.Obeys call) : (media.setRemoteTrackEnabled mid enabled).Obeys call := by
  cases call with
  | enableTrack other target setting =>
      cases hsession
      intro track htrack
      rw [lookup_setRemoteTrackEnabled] at htrack
      rcases Option.map_eq_some_iff.mp htrack with ⟨old, hold, rfl⟩
      by_cases hsame : target = mid
      · subst hsame
        exact absurd hdue howed
      · rw [if_neg hsame]
        exact h old hold
  | scaleTrack other target setting =>
      intro track htrack
      rw [lookup_setRemoteTrackEnabled] at htrack
      rcases Option.map_eq_some_iff.mp htrack with ⟨old, hold, rfl⟩
      have hvolume := h old hold
      split <;> exact hvolume
  | _ => exact h

theorem Obeys.setRemoteTrackVolume {volume : ℚ} (hdue : client.Due call)
    (hsession : call.session = some session)
    (howed : client.owed (scaleTrack session mid volume) ≠ some call)
    (h : media.Obeys call) : (media.setRemoteTrackVolume mid volume).Obeys call := by
  by_cases hrange : 0 ≤ volume ∧ volume ≤ 10
  · cases call with
    | enableTrack other target setting =>
        intro track htrack
        rw [lookup_setRemoteTrackVolume media mid hrange] at htrack
        rcases Option.map_eq_some_iff.mp htrack with ⟨old, hold, rfl⟩
        have henabled := h old hold
        split <;> exact henabled
    | scaleTrack other target setting =>
        cases hsession
        intro track htrack
        rw [lookup_setRemoteTrackVolume media mid hrange] at htrack
        rcases Option.map_eq_some_iff.mp htrack with ⟨old, hold, rfl⟩
        by_cases hsame : target = mid
        · subst hsame
          exact absurd hdue howed
        · rw [if_neg hsame]
          exact h old hold
    | enableMicrophone other setting =>
        rw [VoiceSession.setRemoteTrackVolume]
        split <;> exact h
    | _ => trivial
  · have hrefused : volume < 0 ∨ 10 < volume := by
      by_contra haccepted
      rw [not_or, not_lt, not_lt] at haccepted
      exact hrange haccepted
    rw [VoiceSession.setRemoteTrackVolume, if_pos hrefused]
    exact h

/-- A new track leaves the calls on other tracks alone. -/
theorem Obeys.addRemoteTrack {track : RemoteTrack}
    (hcallback : call.callback ≠ some (onRemoteTrack mid)) (h : media.Obeys call) :
    (media.addRemoteTrack mid track).Obeys call := by
  rw [VoiceSession.addRemoteTrack]
  split
  · exact h
  · cases call with
    | enableTrack other target setting | scaleTrack other target setting =>
        have hne : target ≠ mid := by
          rintro rfl
          exact hcallback rfl
        intro found hfound
        rw [AList.lookup_insert_ne hne] at hfound
        exact h found hfound
    | _ => exact h

end VoiceSession

/-- A changed session undoes no call that it still obeys. -/
theorem Done.modify {sessions : List VoiceSession} {call : VoiceSection} {session : SessionId}
    {f : VoiceSession → VoiceSession} (h : Done sessions call)
    (hf : call.session = some session → ∀ media, media.Obeys call → (f media).Obeys call) :
    Done (sessions.modify session f) call := by
  intro other media hother hmedia
  rw [List.getElem?_modify, Option.map_eq_map, Option.map_eq_some_iff] at hmedia
  rcases hmedia with ⟨old, hold, hmedia⟩
  have hobeys := h other old hother hold
  split at hmedia
  case isTrue hhere =>
    rw [← hmedia]
    exact hf (hhere ▸ hother) old hobeys
  case isFalse => rwa [← hmedia]

/-- Binding one track leaves the others alone. -/
theorem lookup_applyBinding_ne (bindings : Table Bytes PeerId) {mid other : Bytes}
    (peerId : Option PeerId) (hne : other ≠ mid) :
    (applyBinding bindings mid peerId).lookup other = bindings.lookup other := by
  cases peerId with
  | none => exact AList.lookup_erase_ne hne
  | some peer => exact AList.lookup_insert_ne hne

/-! ## What careful runs keep -/

/-- The call is still to be made, or a callback that will make it is. -/
def Repaired (pending : VoiceSection → Prop) (call : VoiceSection) : Prop :=
  pending call ∨ ∃ callback, call.callback = some callback ∧ pending callback

/-- Every call that the settings ask for has been made or will be.  Sessions that
are published, or may be, have been made. -/
structure Effective (client : VoiceClient) (pending : VoiceSection → Prop) : Prop where
  made : ∀ session, client.voiceSession = some session → session < client.sessions.length
  fresh : ∀ session, pending (retainSession session) → session < client.sessions.length
  due : ∀ call, client.Due call → Done client.sessions call ∨ Repaired pending call

/-- The run of a section loses no setting: a session is published with the right
microphone setting, and a call makes what the settings ask for unless a call that
will is pending. -/
def VoiceClient.Careful (client : VoiceClient) (pending : VoiceSection → Prop) :
    VoiceSection → Prop
  | retainSession session =>
      client.retains = true → ∀ media, client.sessions[session]? = some media →
        media.microphoneEnabled = !client.voiceMuted
  | call => ∀ due, client.owed call = some due → due = call ∨ Repaired pending due

theorem Repaired.imp {pending pending' : VoiceSection → Prop} {call : VoiceSection}
    (h : Repaired pending call) (hcall : pending call → pending' call)
    (hcallback : ∀ mid, pending (onRemoteTrack mid) → pending' (onRemoteTrack mid)) :
    Repaired pending' call := by
  rcases h with hpending | ⟨callback, hsame, hpending⟩
  · exact Or.inl (hcall hpending)
  · right
    cases call with
    | enableTrack session mid enabled | scaleTrack session mid volume =>
        cases hsame
        exact ⟨_, rfl, hcallback mid hpending⟩
    | _ => simp [VoiceSection.callback] at hsame

/-- A step that changes no session.  What the settings newly ask for is pending. -/
theorem Effective.change {client client' : VoiceClient} {pending pending' : VoiceSection → Prop}
    (h : Effective client pending) (hsessions : client'.sessions = client.sessions)
    (hmade : client'.voiceSession = client.voiceSession ∨ client'.voiceSession = none)
    (hfresh : ∀ session, pending' (retainSession session) → pending (retainSession session))
    (hdue : ∀ call, client'.Due call → client.Due call ∨ pending' call)
    (hkeep : ∀ call, client'.Due call → Repaired pending call → Repaired pending' call) :
    Effective client' pending' where
  made session hsession := by
    rw [hsessions]
    rcases hmade with hsame | hnone
    · exact h.made session (hsame ▸ hsession)
    · rw [hnone] at hsession
      contradiction
  fresh session hpending := by
    rw [hsessions]
    exact h.fresh session (hfresh session hpending)
  due call hcall := by
    rw [hsessions]
    rcases hdue call hcall with hold | hnew
    · exact (h.due call hold).imp_right (hkeep call hcall)
    · exact Or.inr (Or.inl hnew)

/-- A call changes one session, as far as the settings ask for something else only
where that is still to come. -/
theorem Effective.inSession {client : VoiceClient} {pending pending' : VoiceSection → Prop}
    {head : VoiceSection} {session : SessionId} {f : VoiceSession → VoiceSession}
    (h : Effective client pending) (hhead : head.session = some session)
    (hcareful : ∀ due, client.owed head = some due → due = head ∨ Repaired pending due)
    (hself : client.Due head → ∀ media, (f media).Obeys head)
    (hother : ∀ call media, client.Due call → call.session = some session →
      client.owed head ≠ some call → media.Obeys call → (f media).Obeys call)
    (hfresh : ∀ session, pending' (retainSession session) → pending (retainSession session))
    (hkeep : ∀ call, call ≠ head → Repaired pending call → Repaired pending' call) :
    Effective (client.inSession session f) pending' where
  made other hother := by
    rw [VoiceClient.inSession, List.length_modify]
    exact h.made other hother
  fresh other hpending := by
    rw [VoiceClient.inSession, List.length_modify]
    exact h.fresh other (hfresh other hpending)
  due call hcall := by
    have hdue : client.Due call := hcall
    by_cases hsame : call = head
    · left
      intro other media hsession hmedia
      rw [hsame, hhead, Option.some.injEq] at hsession
      rw [VoiceClient.inSession, List.getElem?_modify, Option.map_eq_map,
        Option.map_eq_some_iff] at hmedia
      rcases hmedia with ⟨old, _, hmedia⟩
      rw [if_pos hsession] at hmedia
      rw [hsame, ← hmedia]
      exact hself (hsame ▸ hdue) old
    · by_cases howed : client.owed head = some call
      · exact Or.inr (hkeep call hsame ((hcareful call howed).resolve_left hsame))
      · rcases h.due call hdue with hdone | hrepaired
        · left
          apply hdone.modify
          exact fun hsession media => hother call media hdue hsession howed
        · exact Or.inr (hkeep call hsame hrepaired)

theorem session_of_mem_calls {item : VoiceSection} {update : VoiceTrackUpdate}
    (h : item ∈ update.calls) : item.session = some update.session := by
  rcases List.mem_cons.mp h with rfl | hvolume
  · rfl
  · rcases Option.mem_toList.mp hvolume |> Option.map_eq_some_iff.mp with ⟨volume, _, rfl⟩
    rfl

theorem retainSession_not_mem_allCalls (client : VoiceClient) (session : SessionId) :
    retainSession session ∉ client.allCalls := by
  intro hmem
  rcases List.mem_flatMap.mp hmem with ⟨update, _, hcalls⟩
  have hnone := session_of_mem_calls hcalls
  contradiction

theorem retainSession_not_mem_calls (update : Option VoiceTrackUpdate) (session : SessionId) :
    retainSession session ∉ (update.map VoiceTrackUpdate.calls).getD [] := by
  intro hmem
  cases update with
  | none => simp at hmem
  | some update =>
      have hnone := session_of_mem_calls (by simpa using hmem)
      contradiction

section

variable {client client' : VoiceClient} {threads : Pool VoiceSection} {index : Nat}
variable {head : VoiceSection} {rest pushed : List VoiceSection}
variable (hhead : threads[index]? = some (head :: rest))
include hhead

theorem Repaired.run {call : VoiceSection} (h : Repaired (Pending threads) call)
    (hcall : call ≠ head) (hcallback : ∀ mid, head ≠ onRemoteTrack mid) :
    Repaired (Pending (threads.set index (pushed ++ rest))) call :=
  h.imp (fun hpending => hpending.run hhead hcall pushed)
    fun mid hpending => hpending.run hhead (hcallback mid).symm pushed

variable (h : Effective client (Pending threads))
include h

/-- A section that is no call and no callback, and after which nothing new is due
but the calls that it makes. -/
theorem Effective.extend (hsessions : client'.sessions = client.sessions)
    (hmade : client'.voiceSession = client.voiceSession ∨ client'.voiceSession = none)
    (hcall : head.session = none) (hcallback : ∀ mid, head ≠ onRemoteTrack mid)
    (hfresh : ∀ session, retainSession session ∉ pushed)
    (hdue : ∀ call, client'.Due call → client.Due call ∨ call ∈ pushed) :
    Effective client' (Pending (threads.set index (pushed ++ rest))) := by
  apply h.change hsessions hmade
  · intro session hpending
    exact (pending_of_run hhead hpending).resolve_right (hfresh session)
  · exact fun call hcall => (hdue call hcall).imp_right (pending_pushed hhead)
  · intro call hduecall hrepaired
    apply hrepaired.run hhead _ hcallback
    rintro rfl
    rcases hduecall.session_eq with ⟨session, _, hsession⟩
    rw [hcall] at hsession
    contradiction

/-- A changed setting is applied to all tracks. -/
theorem Effective.reapplied (hsessions : client'.sessions = client.sessions)
    (hsession : client'.voiceSession = client.voiceSession)
    (hmuted : client'.voiceMuted = client.voiceMuted) (hcall : head.session = none)
    (hcallback : ∀ mid, head ≠ onRemoteTrack mid) :
    Effective client' (Pending (threads.set index (client'.allCalls ++ rest))) := by
  apply h.extend hhead hsessions (Or.inl hsession) hcall hcallback
    (retainSession_not_mem_allCalls client')
  intro call hdue
  rcases hdue.cases with ⟨session, rfl⟩ | ⟨mid, hsame⟩
  · left
    rw [VoiceClient.due_enableMicrophone, hsession, hmuted] at hdue
    rw [VoiceClient.due_enableMicrophone, hmuted]
    exact hdue
  · exact Or.inr (VoiceClient.mem_allCalls_of_due hdue hsame)

/-- A call into the media library. -/
theorem Effective.called {session : SessionId} {f : VoiceSession → VoiceSession}
    (hcall : head.session = some session)
    (hcareful : ∀ due, client.owed head = some due →
      due = head ∨ Repaired (Pending threads) due)
    (hself : client.Due head → ∀ media, (f media).Obeys head)
    (hother : ∀ call media, client.Due call → call.session = some session →
      client.owed head ≠ some call → media.Obeys call → (f media).Obeys call) :
    Effective (client.inSession session f) (Pending (threads.set index ([] ++ rest))) := by
  apply h.inSession hcall hcareful hself hother
  · intro other hpending
    exact (pending_of_run hhead hpending).resolve_right List.not_mem_nil
  · intro call hne hrepaired
    apply hrepaired.run hhead hne
    rintro mid rfl
    contradiction

/-- A new session leaves the others alone. -/
theorem Effective.started {media : VoiceSession} (hcall : head.session = none)
    (hcallback : ∀ mid, head ≠ onRemoteTrack mid) :
    Effective { client with sessions := client.sessions ++ [media] }
      (Pending (threads.set index ([retainSession client.sessions.length] ++ rest))) where
  made session hsession := by
    have hlt := h.made session hsession
    rw [List.length_append]
    exact Nat.lt_add_right _ hlt
  fresh session hpending := by
    rw [List.length_append, List.length_singleton]
    rcases pending_of_run hhead hpending with hold | hnew
    · exact Nat.lt_add_right _ (h.fresh session hold)
    · rw [List.mem_singleton, retainSession.injEq] at hnew
      rw [hnew]
      exact Nat.lt_add_one _
  due call hdue := by
    have hold : client.Due call := hdue
    rcases hold.session_eq with ⟨session, hsession, hcurrent⟩
    rcases h.due call hold with hdone | hrepaired
    · left
      intro other media hother hmedia
      rw [hcurrent, Option.some.injEq] at hother
      rw [← hother, List.getElem?_append_left (h.made session hsession)] at hmedia
      exact hdone session media hcurrent hmedia
    · right
      apply hrepaired.run hhead _ hcallback
      rintro rfl
      rw [hcall] at hcurrent
      contradiction

/-- The published session has the right microphone setting, and the updates follow. -/
theorem Effective.published {session : SessionId}
    (hsession : head = retainSession session)
    (hcareful : ∀ media, client.sessions[session]? = some media →
      media.microphoneEnabled = !client.voiceMuted)
    (hclient : client' = { client with voiceSession := some session }) :
    Effective client'
      (Pending (threads.set index ((client'.allCalls ++ [releaseVoice]) ++ rest))) where
  made other hother := by
    subst hclient
    rw [Option.some.injEq] at hother
    rw [← hother]
    exact h.fresh session (hsession ▸ pending_head hhead)
  fresh other hpending := by
    have hold : Pending threads (retainSession other) := by
      rcases pending_of_run hhead hpending with hold | hnew
      · exact hold
      · rcases List.mem_append.mp hnew with hcalls | hrelease
        · exact absurd hcalls (retainSession_not_mem_allCalls client' other)
        · simp at hrelease
    subst hclient
    exact h.fresh other hold
  due call hdue := by
    rcases hdue.cases with ⟨other, rfl⟩ | ⟨mid, hsame⟩
    · left
      intro current media hcurrent hmedia
      rw [VoiceClient.due_enableMicrophone] at hdue
      subst hclient
      cases hcurrent
      rw [Option.some.injEq] at hdue
      exact hcareful media (hdue.1 ▸ hmedia)
    · right
      left
      apply pending_pushed hhead
      exact List.mem_append_left _ (VoiceClient.mem_allCalls_of_due hdue hsame)

/-- The callback of a track makes every call on the track that is due. -/
theorem Effective.reported {mid : Bytes} (hreport : head = onRemoteTrack mid) :
    Effective client (Pending (threads.set index
      (((client.voiceUpdate mid).map VoiceTrackUpdate.calls).getD [] ++ rest))) := by
  apply h.change rfl (Or.inl rfl)
  · intro session hpending
    exact (pending_of_run hhead hpending).resolve_right
      (retainSession_not_mem_calls (client.voiceUpdate mid) session)
  · exact fun _ hdue => Or.inl hdue
  · intro call hdue hrepaired
    by_cases hsame : call.callback = some (onRemoteTrack mid)
    · exact Or.inl (pending_pushed hhead (VoiceClient.mem_calls_of_due hdue hsame))
    · rcases hrepaired with hpending | ⟨callback, hcallback, hpending⟩
      · left
        apply hpending.run hhead
        rintro rfl
        rcases hdue.session_eq with ⟨session, _, hsession⟩
        rw [hreport] at hsession
        contradiction
      · right
        have hne : callback ≠ head := by
          rintro rfl
          exact hsame (hreport ▸ hcallback)
        exact ⟨callback, hcallback, hpending.run hhead hne _⟩

/-- Every careful run of a section keeps all settings in effect. -/
theorem Effective.run {succeeds : Bool}
    (hrun : client.run index succeeds head = some (client', pushed))
    (hcareful : client.Careful (Pending threads) head) :
    Effective client' (Pending (threads.set index (pushed ++ rest))) := by
  cases head with
  | requestVoice | forgetVoice | releaseVoice | endTask =>
      cases hrun
      exact h.extend hhead rfl (Or.inl rfl) rfl (by simp) (by simp) fun _ hdue => Or.inl hdue
  | checkVoice =>
      rw [VoiceClient.run] at hrun
      split at hrun
      · split at hrun <;> cases hrun <;>
          exact h.extend hhead rfl (Or.inl rfl) rfl (by simp) (by simp) fun _ hdue => Or.inl hdue
      · contradiction
  | startSession microphoneEnabled =>
      rw [VoiceClient.run] at hrun
      split at hrun <;> cases hrun
      · exact h.started hhead rfl (by simp)
      · exact h.extend hhead rfl (Or.inl rfl) rfl (by simp) (by simp) fun _ hdue => Or.inl hdue
  | retainSession session =>
      rw [VoiceClient.run] at hrun
      split at hrun
      case isTrue hretains =>
        cases hrun
        exact h.published hhead rfl (hcareful hretains) rfl
      case isFalse =>
        cases hrun
        exact h.extend hhead rfl (Or.inl rfl) rfl (by simp) (by simp) fun _ hdue => Or.inl hdue
  | clearVoice =>
      rw [VoiceClient.run] at hrun
      split at hrun
      · cases hrun
        apply h.extend hhead (by rfl) (Or.inr (by rfl)) rfl (by simp) (by simp)
        intro call hdue
        rcases hdue.session_eq with ⟨session, hsession, _⟩
        contradiction
      · contradiction
  | setMuted muted =>
      cases hrun
      apply h.extend hhead (by rfl) (Or.inl (by rfl)) rfl (by simp)
      · intro session hmem
        rcases Option.map_eq_some_iff.mp (Option.mem_toList.mp hmem) with ⟨_, _, hsame⟩
        contradiction
      · intro call hdue
        rcases hdue.cases with ⟨session, rfl⟩ | ⟨mid, hsame⟩
        · have hsession : client.voiceSession = some session :=
            (VoiceClient.due_enableMicrophone.mp hdue).1
          right
          simp [hsession]
        · exact Or.inl (hdue.of_same hsame rfl rfl (fun _ => rfl) fun _ => rfl)
  | setDeafened deafened =>
      cases hrun
      exact h.reapplied hhead rfl rfl rfl rfl (by simp)
  | setMasterVolume volume =>
      cases hrun
      exact h.reapplied hhead rfl rfl rfl rfl (by simp)
  | setPeerVolume peer volume =>
      cases hrun
      exact h.reapplied hhead rfl rfl rfl rfl (by simp)
  | setPeerMuted peer muted =>
      cases hrun
      exact h.reapplied hhead rfl rfl rfl rfl (by simp)
  | bindTrack mid peerId =>
      cases hrun
      apply h.extend hhead (by rfl) (Or.inl (by rfl)) rfl (by simp)
        (retainSession_not_mem_calls _)
      intro call hdue
      rcases hdue.cases with ⟨session, rfl⟩ | ⟨other, hsame⟩
      · exact Or.inl hdue
      · by_cases hother : other = mid
        · rw [hother] at hsame
          exact Or.inr (VoiceClient.mem_calls_of_due hdue hsame)
        · have hbinding := lookup_applyBinding_ne client.voiceBindings peerId hother
          exact Or.inl (hdue.of_same hsame rfl hbinding (fun _ => rfl) fun _ => rfl)
  | onRemoteTrack mid =>
      cases hrun
      exact h.reported hhead rfl
  | enableMicrophone session enabled =>
      cases hrun
      apply h.called hhead rfl hcareful
      · exact fun _ _ => rfl
      · exact fun call media => VoiceSession.Obeys.enableMicrophone
  | enableTrack session mid enabled =>
      cases hrun
      apply h.called hhead rfl hcareful
      · exact fun _ media => media.obeys_setRemoteTrackEnabled session mid enabled
      · exact fun call media => VoiceSession.Obeys.setRemoteTrackEnabled
  | scaleTrack session mid volume =>
      cases hrun
      apply h.called hhead rfl hcareful
      · intro hdue media
        rcases VoiceClient.due_scaleTrack.mp hdue with ⟨_, peer, _, hvolume⟩
        have hrange := Volume.mul_mem client.masterVolume (client.peerVolume peer)
        rw [← VoiceClient.volumeOf, ← hvolume] at hrange
        exact media.obeys_setRemoteTrackVolume session mid hrange
      · exact fun call media => VoiceSession.Obeys.setRemoteTrackVolume
  | checkToken token =>
      rw [VoiceClient.run] at hrun
      split at hrun <;> cases hrun <;>
        exact h.extend hhead rfl (Or.inl rfl) rfl (by simp) (by simp) fun _ hdue => Or.inl hdue

end

/-! ## Whole runs -/

theorem Effective.spawn {client : VoiceClient} {threads : Pool VoiceSection}
    (h : Effective client (Pending threads)) {thread : List VoiceSection}
    (hthread : ∀ session, retainSession session ∉ thread) :
    Effective client (Pending (threads ++ [thread])) := by
  apply h.change rfl (Or.inl rfl)
  · intro session hpending
    exact (pending_of_spawn hpending).resolve_right (hthread session)
  · exact fun _ hdue => Or.inl hdue
  · intro call _ hrepaired
    exact hrepaired.imp (fun hpending => hpending.spawn thread) fun _ hpending =>
      hpending.spawn thread

/-- A reported track is in whatever state until its callback has run. -/
theorem Effective.remoteTrack {client : VoiceClient} {threads : Pool VoiceSection}
    (h : Effective client (Pending threads)) (session : SessionId) (mid : Bytes)
    (track : RemoteTrack) :
    Effective (client.inSession session (·.addRemoteTrack mid track))
      (Pending (threads ++ [[onRemoteTrack mid]])) := by
  have hspawned : Effective client (Pending (threads ++ [[onRemoteTrack mid]])) :=
    h.spawn (by simp)
  refine ⟨?_, ?_, ?_⟩
  · intro other hother
    rw [VoiceClient.inSession, List.length_modify]
    exact hspawned.made other hother
  · intro other hpending
    rw [VoiceClient.inSession, List.length_modify]
    exact hspawned.fresh other hpending
  · intro call hdue
    by_cases hsame : call.callback = some (onRemoteTrack mid)
    · have hreport : Pending (threads ++ [[onRemoteTrack mid]]) (onRemoteTrack mid) :=
        pending_spawned (List.mem_singleton_self _) threads
      exact Or.inr (Or.inr ⟨_, hsame, hreport⟩)
    · rcases hspawned.due call hdue with hdone | hrepaired
      · exact Or.inl (hdone.modify fun _ _ => VoiceSession.Obeys.addRemoteTrack hsame)
      · exact Or.inr hrepaired

namespace VoiceSystem

/-- No call has been made yet. -/
def Initial (system : VoiceSystem) : Prop :=
  system = {}

/-- The action loses no setting. -/
def Careful (system : VoiceSystem) : VoiceAction → Prop
  | VoiceAction.run index _ =>
      match system.threads[index]? with
      | some (head :: _) => system.client.Careful (Pending system.threads) head
      | _ => True
  | _ => True

/-- One step of a careful run. -/
def CarefulStep (system next : VoiceSystem) : Prop :=
  ∃ action, system.Careful action ∧ system.act action = some next

/-- What every state of a careful run satisfies. -/
def Sound (system : VoiceSystem) : Prop :=
  Effective system.client (Pending system.threads)

theorem sound_initial : Sound {} where
  made _ hsession := by contradiction
  fresh _ hpending := by simp [Pending] at hpending
  due _ hdue := by
    rcases hdue.session_eq with ⟨_, hsession, _⟩
    contradiction

/-- Every step of a careful run keeps the invariant. -/
theorem Sound.step {system next : VoiceSystem} (h : Sound system)
    (hstep : CarefulStep system next) : Sound next := by
  rcases hstep with ⟨action, hcareful, hact⟩
  cases action with
  | call call =>
      rw [← Option.some.inj hact]
      apply Effective.spawn h
      cases call <;> simp [VoiceCall.sections]
  | binding mid peerId =>
      rw [← Option.some.inj hact]
      exact Effective.spawn h (by simp)
  | remoteTrack session mid track =>
      rw [← Option.some.inj hact]
      exact Effective.remoteTrack h session mid track
  | recover token =>
      rw [act] at hact
      split at hact
      · contradiction
      · rw [← Option.some.inj hact]
        exact Effective.change (Effective.spawn h (by simp)) rfl (Or.inl rfl) (fun _ => id)
          (fun _ => Or.inl) fun _ _ => id
  | loseConnection =>
      rw [act] at hact
      split at hact
      · rw [← Option.some.inj hact]
        exact Effective.change (Effective.spawn h (by simp)) rfl (Or.inl rfl) (fun _ => id)
          (fun _ => Or.inl) fun _ _ => id
      · contradiction
  | regainConnection =>
      rw [act] at hact
      split at hact
      · contradiction
      · rw [← Option.some.inj hact]
        exact Effective.change (Effective.spawn h (by simp)) rfl (Or.inl rfl) (fun _ => id)
          (fun _ => Or.inl) fun _ _ => id
  | run index succeeds =>
      rw [act] at hact
      split at hact
      · rename_i head rest hhead
        rcases Option.map_eq_some_iff.mp hact with ⟨⟨client, pushed⟩, hrun, hnext⟩
        rw [Careful, hhead] at hcareful
        rw [← hnext]
        exact Effective.run hhead h hrun hcareful
      · contradiction

end VoiceSystem

/-! ## The promise -/

open VoiceSystem

/-- The microphone of the session is enabled exactly if the user is not muted, and
the track of a bound peer exactly if the user is not deafened and the peer is not
muted; its volume is the product of the two volumes. -/
def VoiceClient.SettingsInEffect (client : VoiceClient) : Prop :=
  ∀ session, client.voiceSession = some session →
    ∃ media, client.sessions[session]? = some media ∧
      (media.microphoneEnabled = true ↔ client.voiceMuted = false) ∧
      ∀ mid peer track, client.voiceBindings.lookup mid = some peer →
        media.remoteTracks.lookup mid = some track →
          (track.enabled = true ↔
              client.voiceDeafened = false ∧ client.peerMuted peer = false) ∧
            track.volume = client.masterVolume.value * (client.peerVolume peer).value

instance (pending : VoiceSection → Prop) [DecidablePred pending] (call : VoiceSection) :
    Decidable (Repaired pending call) :=
  inferInstanceAs (Decidable (pending call ∨ ∃ callback ∈ call.callback, pending callback))

/-- A call is careful or not, by what is owed. -/
def decideCareful (client : VoiceClient) (pending : VoiceSection → Prop) [DecidablePred pending]
    (call : VoiceSection) :
    Decidable (∀ due, client.owed call = some due → due = call ∨ Repaired pending due) :=
  inferInstanceAs (Decidable (∀ due ∈ client.owed call, due = call ∨ Repaired pending due))

instance (client : VoiceClient) (pending : VoiceSection → Prop) [DecidablePred pending] :
    DecidablePred (client.Careful pending)
  | retainSession session =>
      inferInstanceAs (Decidable (client.retains = true → ∀ media ∈ client.sessions[session]?,
        media.microphoneEnabled = !client.voiceMuted))
  | requestVoice | forgetVoice | checkVoice | startSession _ | releaseVoice | clearVoice
  | setMuted _ | setDeafened _ | setMasterVolume _ | setPeerVolume _ _ | setPeerMuted _ _
  | bindTrack _ _ | onRemoteTrack _ | enableMicrophone _ _ | enableTrack _ _ _
  | scaleTrack _ _ _ | checkToken _ | endTask => decideCareful client pending _

namespace VoiceSystem

instance (system : VoiceSystem) : DecidablePred system.Careful
  | VoiceAction.run index _ =>
      match h : system.threads[index]? with
      | some (head :: _) =>
          decidable_of_iff (system.client.Careful (Pending system.threads) head)
            (by simp [Careful, h])
      | some [] => isTrue (by simp [Careful, h])
      | none => isTrue (by simp [Careful, h])
  | VoiceAction.call _ | VoiceAction.binding _ _ | VoiceAction.remoteTrack _ _ _
  | VoiceAction.recover _ | VoiceAction.loseConnection | VoiceAction.regainConnection =>
      isTrue trivial

/-- Thread `index` runs `count` sections. -/
def runThread (index count : Nat) : List VoiceAction :=
  List.replicate count (VoiceAction.run index true)

/-- A peer is bound and heard, and the user mutes herself. -/
def talkingActions : List VoiceAction :=
  [VoiceAction.regainConnection] ++ runThread 0 1 ++ [VoiceAction.call VoiceCall.startVoice] ++
    runThread 1 5 ++ [VoiceAction.binding [48] (some ⟨[112]⟩)] ++ runThread 2 3 ++
    [VoiceAction.remoteTrack 0 [48] { enabled := false, volume := 0 }] ++ runThread 3 3 ++
    [VoiceAction.call (VoiceCall.setMuted true)] ++ runThread 4 2

def talking : VoiceSystem :=
  (execute Careful act {} talkingActions).getD {}

/-- The user mutes herself while the session starts. -/
def lateActions : List VoiceAction :=
  [VoiceAction.regainConnection] ++ runThread 0 1 ++ [VoiceAction.call VoiceCall.startVoice] ++
    runThread 1 2 ++ [VoiceAction.call (VoiceCall.setMuted true)] ++ runThread 2 1 ++
    runThread 1 3

def late : VoiceSystem :=
  (execute (fun _ _ => True) act {} lateActions).getD {}

/-- The call that enables the microphone comes after the call that disables it. -/
def overtakenActions : List VoiceAction :=
  [VoiceAction.regainConnection] ++ runThread 0 1 ++ [VoiceAction.call VoiceCall.startVoice] ++
    runThread 1 5 ++
    [VoiceAction.call (VoiceCall.setMuted false), VoiceAction.call (VoiceCall.setMuted true)] ++
    runThread 2 1 ++ runThread 3 2 ++ runThread 2 1

def overtaken : VoiceSystem :=
  (execute (fun _ _ => True) act {} overtakenActions).getD {}

theorem reachable_talking : Reachable Initial CarefulStep talking := by
  have hstart : Reachable Initial CarefulStep {} := Reachable.start rfl
  apply hstart.execute (fun _ action _ hcareful hact => ⟨action, hcareful, hact⟩)
  exact execute_eq_some_getD (by decide +kernel)

theorem reachable_of_execute {actions : List VoiceAction}
    (h : (execute (fun _ _ => True) act {} actions).isSome = true) :
    Reachable Initial Step ((execute (fun _ _ => True) act {} actions).getD {}) := by
  have hstart : Reachable Initial Step {} := Reachable.start rfl
  exact hstart.execute (fun _ action _ _ hact => ⟨action, hact⟩) (execute_eq_some_getD h)

theorem not_settingsInEffect {client : VoiceClient} (hsession : client.voiceSession = some 0)
    (hlive : client.sessions[0]?.map VoiceSession.microphoneEnabled = some true)
    (hmuted : client.voiceMuted = true) : ¬ client.SettingsInEffect := by
  intro hclaim
  rcases hclaim 0 hsession with ⟨media, hmedia, hmicrophone, _⟩
  rw [hmedia, Option.map_some, Option.some.injEq] at hlive
  rw [hmicrophone.mp hlive] at hmuted
  contradiction

end VoiceSystem

end Client
end Driscord
