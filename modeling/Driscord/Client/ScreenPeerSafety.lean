import Driscord.Client.ScreenPeerSession

/-!
# The sinks of the screen session

However the calls of the user and those of WebRTC interleave, and whatever WebRTC answers,
every sink on a track has its object behind it, nothing is left behind, and the preview is
what was last asked for.

Main results:

- Theorem `ScreenPeerSystem.sinks_have_owners_of_reachable`: while a sink may still be
  called, its object is there.
- Theorem `ScreenPeerSystem.nothing_left_of_reachable`: once all calls have returned,
  exactly what the session keeps is live, and nothing after a `close`.
- Theorem `ScreenPeerSystem.preview_follows_of_reachable`: once all calls have returned,
  the preview has a sink on the track of the last `attach`, or none after a `clear`.
-/

namespace Driscord
namespace Client

open Library Signaling

/-- The track of a sink of the preview. -/
def ScreenResource.previewTrack : ScreenResource → Option Nat
  | previewSink binding => some binding.track
  | _ => none

/-! ## What a section is accountable for -/

/-- The connection and the pointers of `start`. -/
def ScreenStart.holds (locals : ScreenStart) : Multiset ScreenResource :=
  {ScreenResource.connection locals.connection} + {ScreenResource.remoteSinks} +
    {ScreenResource.localSink}

namespace PreviewUser

/-- What the caller of `attach` has. -/
def holds : PreviewUser → Multiset ScreenResource
  | starting locals => locals.holds
  | setting => {ScreenResource.localSink}

/-- The caller may install a connection. -/
def attempts : PreviewUser → Nat
  | starting _ => 1
  | setting => 0

theorem localSink_mem_holds (user : PreviewUser) : ScreenResource.localSink ∈ user.holds := by
  cases user <;> simp [holds, ScreenStart.holds]

end PreviewUser

namespace ScreenPeerSection

/-- The connection, the sink and the pointers in the hands of a section. -/
def holds : ScreenPeerSection → Multiset ScreenResource
  | setUp locals _ => locals.holds
  | closeConnection connection => {ScreenResource.connection connection}
  | attachPreview _ user | addPreview _ _ user => user.holds
  | retainPreview _ binding user => {ScreenResource.previewSink binding} + user.holds
  | removePreview binding => {ScreenResource.previewSink binding}
  | dropPreview => {ScreenResource.localSink}
  | addRemote _ _ _ _ | applyRemoteAudio _ _ | dropRemote => {ScreenResource.remoteSinks}
  | retainRemote kind binding _ =>
      {ScreenResource.remoteSink kind binding} + {ScreenResource.remoteSinks}
  | removeRemote kind binding => {ScreenResource.remoteSink kind binding}
  | _ => 0

/-- The connections that a section may create. -/
def creates : ScreenPeerSection → Nat
  | createConnection _ => 1
  | _ => 0

/-- The connections that a section may install. -/
def attempts : ScreenPeerSection → Nat
  | createConnection _ | setUp _ _ => 1
  | attachPreview _ user | addPreview _ _ user | retainPreview _ _ user => user.attempts
  | _ => 0

/-- What a section has promised to the preview. -/
def promise : ScreenPeerSection → Multiset (Nat × Nat)
  | addPreview generation track _ => {(generation, track)}
  | retainPreview generation binding _ => {(generation, binding.track)}
  | _ => 0

/-- The section neither creates nor promises anything. -/
structure Plain (item : ScreenPeerSection) : Prop where
  creates : item.creates = 0
  attempts : item.attempts = 0
  promise : item.promise = 0

/-- The sections called for take over what the section had. -/
structure Passes (head : ScreenPeerSection) (pushed : List ScreenPeerSection) : Prop where
  holds : Pool.load holds pushed = head.holds
  creates : Pool.load creates pushed ≤ head.creates
  attempts : Pool.load attempts pushed ≤ head.attempts
  promise : Pool.load promise pushed = head.promise

section

variable {weight : ScreenPeerSection → Nat} {pushed : List ScreenPeerSection}

/-- Plain sections weigh nothing. -/
theorem creates_of_plain (h : ∀ item ∈ pushed, Plain item) : Pool.load creates pushed = 0 :=
  Pool.load_eq_zero creates fun item hitem => (h item hitem).creates

theorem attempts_of_plain (h : ∀ item ∈ pushed, Plain item) : Pool.load attempts pushed = 0 :=
  Pool.load_eq_zero attempts fun item hitem => (h item hitem).attempts

theorem promise_of_plain (h : ∀ item ∈ pushed, Plain item) : Pool.load promise pushed = 0 :=
  Pool.load_eq_zero promise fun item hitem => (h item hitem).promise

/-- Plain sections take over what the section had. -/
theorem Passes.plain {head : ScreenPeerSection} (hhead : head.promise = 0)
    (hholds : Pool.load ScreenPeerSection.holds pushed = head.holds)
    (hpushed : ∀ item ∈ pushed, Plain item) : Passes head pushed where
  holds := hholds
  creates := by rw [creates_of_plain hpushed]; exact Nat.zero_le _
  attempts := by rw [attempts_of_plain hpushed]; exact Nat.zero_le _
  promise := by rw [promise_of_plain hpushed, hhead]

end

theorem plain_of_mem_cancelled {locals : ScreenStart} {item : ScreenPeerSection}
    (h : item ∈ cancelled locals) : Plain item := by
  simp only [cancelled, List.mem_cons, List.not_mem_nil, or_false] at h
  rcases h with rfl | rfl | rfl | rfl <;> exact ⟨rfl, rfl, rfl⟩

theorem plain_of_mem_abandoned {locals : ScreenStart} {message : Bytes}
    {item : ScreenPeerSection} (h : item ∈ abandoned locals message) : Plain item := by
  rcases List.mem_cons.mp h with rfl | hmem
  · exact ⟨rfl, rfl, rfl⟩
  · exact plain_of_mem_cancelled hmem

theorem plain_of_mem_refused {message : Bytes} {item : ScreenPeerSection}
    (h : item ∈ refused message) : Plain item := by
  rw [refused, List.mem_pair] at h
  rcases h with rfl | rfl <;> exact ⟨rfl, rfl, rfl⟩

theorem plain_of_mem_removals {sinks : RemoteScreenSinks} {item : ScreenPeerSection}
    (h : item ∈ removals sinks) : Plain item := by
  rcases List.mem_append.mp h with hmem | hmem
  · rcases List.mem_map.mp hmem with ⟨_, -, rfl⟩
    exact ⟨rfl, rfl, rfl⟩
  · rcases List.mem_map.mp hmem with ⟨_, -, rfl⟩
    exact ⟨rfl, rfl, rfl⟩

theorem plain_of_mem_afterRemote {kind : ScreenTrackKind} {mid trackId : Bytes}
    {item : ScreenPeerSection} (h : item ∈ afterRemote kind mid trackId) : Plain item := by
  rw [afterRemote, List.mem_pair] at h
  rcases h with rfl | rfl <;> exact ⟨rfl, rfl, rfl⟩

theorem holds_cancelled (locals : ScreenStart) :
    Pool.load holds (cancelled locals) = locals.holds := by
  simp only [cancelled, Pool.load_cons, Pool.load_nil, holds, ScreenStart.holds]
  abel

theorem holds_abandoned (locals : ScreenStart) (message : Bytes) :
    Pool.load holds (abandoned locals message) = locals.holds := by
  rw [abandoned, Pool.load_cons, holds_cancelled]
  exact zero_add _

theorem holds_afterAttach (user : PreviewUser) :
    Pool.load holds (afterAttach user) = user.holds := by
  cases user <;> rfl

theorem attempts_afterAttach (user : PreviewUser) :
    Pool.load attempts (afterAttach user) = user.attempts := by
  cases user <;> rfl

theorem creates_afterAttach (user : PreviewUser) :
    Pool.load creates (afterAttach user) = 0 := by
  cases user <;> rfl

theorem promise_afterAttach (user : PreviewUser) :
    Pool.load promise (afterAttach user) = 0 := by
  cases user <;> rfl

theorem holds_afterRemote (kind : ScreenTrackKind) (mid trackId : Bytes) :
    Pool.load holds (afterRemote kind mid trackId) = {ScreenResource.remoteSinks} := rfl

theorem holds_removals (sinks : RemoteScreenSinks) :
    Pool.load holds (removals sinks) = (sinks.resources : Multiset ScreenResource) := by
  rw [removals, Pool.load_append, Pool.load_map, Pool.load_map, RemoteScreenSinks.resources,
    ← Multiset.coe_add, ← Pool.load_singletons, ← Pool.load_singletons]
  rfl

end ScreenPeerSection

/-! ## What one section can do -/

namespace ScreenPeerSession

open ScreenPeerSection

/-- A pointer that may be null. -/
def pointer (isSet : Bool) (resource : ScreenResource) : Multiset ScreenResource :=
  if isSet then {resource} else 0

/-- The connection and the pointers of the session. -/
def own (session : ScreenPeerSession) : Multiset ScreenResource :=
  (session.pc.toList.map ScreenResource.connection : Multiset ScreenResource) +
    pointer session.hasRemoteSinks ScreenResource.remoteSinks +
      pointer session.hasLocalSink ScreenResource.localSink

/-- The sink of the preview. -/
def previewResources (binding : Option PreviewBinding) : Multiset ScreenResource :=
  (binding.toList.map ScreenResource.previewSink : Multiset ScreenResource)

/-- What the session keeps, and what is kept in its objects. -/
def stored (session : ScreenPeerSession) : Multiset ScreenResource :=
  session.own + (session.remote.resources : Multiset ScreenResource) +
    previewResources session.preview.binding

/-- `start` may still make its attempt. -/
def untried (session : ScreenPeerSession) : Nat :=
  if session.startAttempted then 0 else 1

/-- The same session but for settings, notices and results. -/
structure Alike (session next : ScreenPeerSession) : Prop where
  pc : next.pc = session.pc
  hasRemoteSinks : next.hasRemoteSinks = session.hasRemoteSinks
  hasLocalSink : next.hasLocalSink = session.hasLocalSink
  started : next.started = session.started
  startAttempted : next.startAttempted = session.startAttempted
  closeRequested : next.closeRequested = session.closeRequested
  remote : next.remote = session.remote
  preview : next.preview = session.preview
  connections : next.connections = session.connections
  live : next.live = session.live
  previewWish : next.previewWish = session.previewWish

variable {session next : ScreenPeerSession} {failure : Option Bytes}
variable {head : ScreenPeerSection} {pushed : List ScreenPeerSection} {locals : ScreenStart}

theorem Alike.refl (session : ScreenPeerSession) : Alike session session :=
  ⟨rfl, rfl, rfl, rfl, rfl, rfl, rfl, rfl, rfl, rfl, rfl⟩

theorem Alike.stored_eq (h : Alike session next) : next.stored = session.stored := by
  rw [stored, stored, own, own, h.pc, h.hasRemoteSinks, h.hasLocalSink, h.remote, h.preview]

/-- What one run of a section can do. -/
inductive ScreenRan (session : ScreenPeerSession) :
    ScreenPeerSection → ScreenPeerSession → List ScreenPeerSection → Prop
  | passed {head : ScreenPeerSection} {next : ScreenPeerSession}
      {pushed : List ScreenPeerSection} (halike : Alike session next)
      (hpasses : Passes head pushed) : ScreenRan session head next pushed
  | attempted {pushed : List ScreenPeerSection} (hnew : session.startAttempted = false)
      (hpushed : (∃ locals, pushed = [createConnection locals]) ∨
        ∃ message, pushed = refused message) :
      ScreenRan session start { session with startAttempted := true } pushed
  | created (locals : ScreenStart) :
      ScreenRan session (createConnection locals)
        { session with
          connections := session.connections + 1
          live := ScreenResource.connection session.connections ::ₘ
            ScreenResource.remoteSinks ::ₘ ScreenResource.localSink ::ₘ session.live }
        (advanced { locals with connection := session.connections } ScreenSetup.videoTrack)
  | installed (locals : ScreenStart) (hopen : session.closeRequested = false) :
      ScreenRan session (ScreenPeerSection.setUp locals ScreenSetup.install)
        { session with
          pc := some locals.connection
          videoTrack := some locals.videoTrack
          audioTrack := some locals.audioTrack
          hasRemoteSinks := true
          hasLocalSink := true
          started := true }
        [startReturns true]
  | closed :
      ScreenRan session close
        { session with
          pc := none
          videoTrack := none
          audioTrack := none
          hasRemoteSinks := false
          hasLocalSink := false
          started := false
          closeRequested := true }
        ((if session.hasRemoteSinks then [clearRemote] else []) ++
          (if session.hasLocalSink then [clearPreview] else []) ++
            session.pc.toList.map closeConnection ++
              (if session.hasLocalSink then [dropPreview] else []) ++
                if session.hasRemoteSinks then [dropRemote] else [])
  /-- A resource is given back; a pointer, only if there is another one. -/
  | released {head : ScreenPeerSection} (resource : ScreenResource) (hhead : Plain head)
      (hholds : head.holds = {resource})
      (hkeeps : resource ≠ ScreenResource.remoteSinks ∧ resource ≠ ScreenResource.localSink ∨
        resource ∈ session.live.erase resource) :
      ScreenRan session head { session with live := session.live.erase resource } []
  /-- A pointer is copied. -/
  | borrowed {head : ScreenPeerSection} {pushed : List ScreenPeerSection}
      (pointer : ScreenResource) (desired : Bool) (hhead : head.holds = 0 ∧ Plain head)
      (hholds : Pool.load ScreenPeerSection.holds pushed = {pointer})
      (hpushed : ∀ item ∈ pushed, Plain item) :
      ScreenRan session head
        { session with
          desiredLocalPreviewEnabled := desired
          live := pointer ::ₘ session.live }
        pushed
  | previewKept (track user)
      (hbound : session.preview.binding.map PreviewBinding.track = some track) :
      ScreenRan session (attachPreview track user) { session with previewWish := some track }
        (afterAttach user)
  | previewTaken (track user) :
      ScreenRan session (attachPreview track user)
        { session with preview := session.preview.withdraw, previewWish := some track }
        (session.oldPreview ++ [addPreview session.preview.withdraw.generation track user])
  | previewAdded (generation track user) :
      ScreenRan session (addPreview generation track user)
        { session with
          sinks := session.sinks + 1
          live := ScreenResource.previewSink ⟨track, session.sinks⟩ ::ₘ session.live }
        [retainPreview generation ⟨track, session.sinks⟩ user]
  | previewOffered (generation binding user) :
      ScreenRan session (retainPreview generation binding user)
        { session with preview := session.preview.offer generation binding }
        ((if session.preview.Accepts generation then [] else [removePreview binding]) ++
          afterAttach user)
  | previewCleared : ScreenRan session clearPreview session.clearLocal session.oldPreview
  | previewDropped
      (hlast : ScreenResource.localSink ∉ session.live.erase ScreenResource.localSink) :
      ScreenRan session dropPreview
        { session.clearLocal with live := session.live.erase ScreenResource.localSink }
        session.oldPreview
  | remoteAdded (kind mid track trackId) :
      ScreenRan session (addRemote kind mid track trackId)
        { session with
          sinks := session.sinks + 1
          live := ScreenResource.remoteSink kind ⟨track, session.sinks, mid⟩ ::ₘ session.live }
        [retainRemote kind ⟨track, session.sinks, mid⟩ trackId]
  | remoteRetained (kind binding trackId) (hnew : ¬ session.Duplicate kind binding) :
      ScreenRan session (retainRemote kind binding trackId)
        { session with remote := session.remote.add binding kind }
        (afterRemote kind binding.mid trackId)
  | remoteCleared :
      ScreenRan session clearRemote { session with remote := {} } (removals session.remote)
  | remoteDropped
      (hlast : ScreenResource.remoteSinks ∉ session.live.erase ScreenResource.remoteSinks) :
      ScreenRan session dropRemote
        { session with
          remote := {}
          live := session.live.erase ScreenResource.remoteSinks }
        (removals session.remote)

/-- A section that only calls for others. -/
theorem ScreenRan.call (hpasses : Passes head pushed) : ScreenRan session head session pushed :=
  ScreenRan.passed (Alike.refl session) hpasses

theorem passes_advanced (locals next : ScreenStart) (step later : ScreenSetup)
    (hsame : next.connection = locals.connection) :
    Passes (ScreenPeerSection.setUp locals step) (advanced next later) where
  holds := by
    rw [advanced, Pool.load_cons, Pool.load_nil, add_zero]
    simp only [holds, ScreenStart.holds, hsame]
  creates := le_rfl
  attempts := le_rfl
  promise := rfl

theorem passes_abandoned (locals : ScreenStart) (step : ScreenSetup) (message : Bytes) :
    Passes (ScreenPeerSection.setUp locals step) (abandoned locals message) :=
  Passes.plain rfl (holds_abandoned locals message) fun _ => plain_of_mem_abandoned

theorem ran_attempt {step later : ScreenSetup} {message : Bytes → Bytes}
    (h : session.attempt failure locals message later = (next, pushed)) :
    ScreenRan session (ScreenPeerSection.setUp locals step) next pushed := by
  cases failure with
  | none =>
      rw [attempt, Prod.mk.injEq] at h
      rcases h with ⟨rfl, rfl⟩
      exact ScreenRan.call (passes_advanced locals locals step later rfl)
  | some reason =>
      rw [attempt, Prod.mk.injEq] at h
      rcases h with ⟨rfl, rfl⟩
      exact ScreenRan.call (passes_abandoned locals step _)

theorem ran_newTrack {step later : ScreenSetup} {message : Bytes} {updated : ScreenStart}
    (h : session.newTrack failure locals message updated later = (next, pushed))
    (hsame : updated.connection = locals.connection) :
    ScreenRan session (ScreenPeerSection.setUp locals step) next pushed := by
  cases failure with
  | none =>
      rw [newTrack, Prod.mk.injEq] at h
      rcases h with ⟨rfl, rfl⟩
      exact ScreenRan.passed ⟨rfl, rfl, rfl, rfl, rfl, rfl, rfl, rfl, rfl, rfl, rfl⟩
        (passes_advanced locals updated step later hsame)
  | some reason =>
      rw [newTrack, Prod.mk.injEq] at h
      rcases h with ⟨rfl, rfl⟩
      exact ScreenRan.call (passes_abandoned locals step _)

theorem alike_setEnabled (track : Nat) (enabled : Bool) :
    Alike session (session.setEnabled track enabled) :=
  ⟨rfl, rfl, rfl, rfl, rfl, rfl, rfl, rfl, rfl, rfl, rfl⟩

theorem ran_setUp {step : ScreenSetup} (h : session.setUp failure locals step = (next, pushed)) :
    ScreenRan session (ScreenPeerSection.setUp locals step) next pushed := by
  cases step with
  | videoTrack | audioTrack =>
      rw [setUp] at h
      exact ran_newTrack h rfl
  | enableVideo | enableAudio =>
      rw [setUp, Prod.mk.injEq] at h
      rcases h with ⟨rfl, rfl⟩
      exact ScreenRan.passed (alike_setEnabled _ _) (passes_advanced locals locals _ _ rfl)
  | preview =>
      rw [setUp, Prod.mk.injEq] at h
      rcases h with ⟨rfl, rfl⟩
      split
      · exact ScreenRan.call ⟨rfl, le_rfl, le_rfl, rfl⟩
      · exact ScreenRan.call (passes_advanced locals locals _ _ rfl)
  | addVideoSender | addAudioSender => exact ran_attempt h
  | addReceivers left =>
      cases left with
      | zero =>
          rw [setUp, Prod.mk.injEq] at h
          rcases h with ⟨rfl, rfl⟩
          exact ScreenRan.call (passes_advanced locals locals _ _ rfl)
      | succ left => exact ran_attempt h
  | install =>
      rw [setUp] at h
      split at h
      · rw [Prod.mk.injEq] at h
        rcases h with ⟨rfl, rfl⟩
        exact ScreenRan.call
          (Passes.plain rfl (holds_cancelled locals) fun _ => plain_of_mem_cancelled)
      · rename_i hopen
        rw [Prod.mk.injEq] at h
        rcases h with ⟨rfl, rfl⟩
        exact ScreenRan.installed locals (Bool.eq_false_of_not_eq_true hopen)

theorem alike_setAudio (mid : Bytes) (setting : RemoteAudioSetting) :
    Alike session (session.setAudio mid setting) := by
  unfold setAudio
  split
  · split
    · exact ⟨rfl, rfl, rfl, rfl, rfl, rfl, rfl, rfl, rfl, rfl, rfl⟩
    · exact Alike.refl session
  · exact Alike.refl session

/-- Notices and settings that call for sections without resources. -/
theorem ran_plain (halike : Alike session next) (hhead : head.holds = 0 ∧ head.promise = 0)
    (hpushed : ∀ item ∈ pushed, item.holds = 0 ∧ Plain item) :
    ScreenRan session head next pushed := by
  refine ScreenRan.passed halike (Passes.plain hhead.2 ?_ fun item hitem => (hpushed item hitem).2)
  rw [hhead.1]
  exact Pool.load_eq_zero holds fun item hitem => (hpushed item hitem).1

theorem ran_start (h : session.run failure start = (next, pushed)) :
    ScreenRan session start next pushed := by
  have hrefused : ∀ message, ∀ item ∈ refused message, item.holds = 0 ∧ Plain item := by
    intro message item hitem
    refine ⟨?_, plain_of_mem_refused hitem⟩
    rw [refused, List.mem_pair] at hitem
    rcases hitem with rfl | rfl <;> rfl
  rw [run] at h
  split at h
  · rw [Prod.mk.injEq] at h
    rcases h with ⟨rfl, rfl⟩
    exact ran_plain (Alike.refl session) ⟨rfl, rfl⟩ (hrefused _)
  · split at h
    · rw [Prod.mk.injEq] at h
      rcases h with ⟨rfl, rfl⟩
      refine ran_plain (Alike.refl session) ⟨rfl, rfl⟩ fun item hitem => ?_
      rw [List.mem_singleton.mp hitem]
      exact ⟨rfl, rfl, rfl, rfl⟩
    · rename_i hnew
      rw [Bool.not_eq_true, Bool.or_eq_false_iff] at hnew
      rw [Prod.mk.injEq] at h
      rcases h with ⟨rfl, rfl⟩
      apply ScreenRan.attempted hnew.1
      split
      · exact Or.inr ⟨_, rfl⟩
      · split
        · exact Or.inr ⟨_, rfl⟩
        · exact Or.inl ⟨_, rfl⟩

theorem ran_setLocalPreviewEnabled {enabled : Bool}
    (h : session.run failure (setLocalPreviewEnabled enabled) = (next, pushed)) :
    ScreenRan session (setLocalPreviewEnabled enabled) next pushed := by
  rw [run] at h
  split at h
  · rw [Prod.mk.injEq] at h
    rcases h with ⟨rfl, rfl⟩
    refine ScreenRan.borrowed ScreenResource.localSink enabled ⟨rfl, rfl, rfl, rfl⟩ ?_ ?_
    · split
      · split <;> rfl
      · rfl
    · intro item hitem
      split at hitem
      · split at hitem <;> rw [List.mem_singleton.mp hitem] <;> exact ⟨rfl, rfl, rfl⟩
      · rw [List.mem_pair] at hitem
        rcases hitem with rfl | rfl <;> exact ⟨rfl, rfl, rfl⟩
  · rw [Prod.mk.injEq] at h
    rcases h with ⟨rfl, rfl⟩
    exact ran_plain ⟨rfl, rfl, rfl, rfl, rfl, rfl, rfl, rfl, rfl, rfl, rfl⟩ ⟨rfl, rfl⟩ (by simp)

theorem ran_onTrack {mid : Option Bytes}
    {track : Option (Option ScreenTrackKind × Nat × Bytes)}
    (h : session.run failure (onTrack mid track) = (next, pushed)) :
    ScreenRan session (onTrack mid track) next pushed := by
  rw [run] at h
  split at h
  · rw [Prod.mk.injEq] at h
    rcases h with ⟨rfl, rfl⟩
    refine ScreenRan.borrowed ScreenResource.remoteSinks session.desiredLocalPreviewEnabled
      ⟨rfl, rfl, rfl, rfl⟩ ?_ ?_
    · unfold attachTrack
      split <;> rfl
    · intro item hitem
      unfold attachTrack at hitem
      split at hitem <;> rw [List.mem_singleton.mp hitem] <;> exact ⟨rfl, rfl, rfl⟩
  · rw [Prod.mk.injEq] at h
    rcases h with ⟨rfl, rfl⟩
    exact ran_plain (Alike.refl session) ⟨rfl, rfl⟩ (by simp)

/-- Giving back what is no pointer. -/
theorem ran_release {resource : ScreenResource} (hhead : Plain head)
    (hholds : head.holds = {resource}) (hremote : resource ≠ ScreenResource.remoteSinks)
    (hlocal : resource ≠ ScreenResource.localSink) :
    ScreenRan session head { session with live := session.live.erase resource } [] :=
  ScreenRan.released resource hhead hholds (Or.inl ⟨hremote, hlocal⟩)

theorem screenRan_of_run (h : session.run failure head = (next, pushed)) :
    ScreenRan session head next pushed := by
  cases head with
  | start => exact ran_start h
  | createConnection locals =>
      cases failure with
      | none =>
          rw [run, Prod.mk.injEq] at h
          rcases h with ⟨rfl, rfl⟩
          exact ScreenRan.created locals
      | some reason =>
          rw [run, Prod.mk.injEq] at h
          rcases h with ⟨rfl, rfl⟩
          exact ScreenRan.call
            (Passes.plain rfl (by simp [refused, reportError, holds]) fun _ => plain_of_mem_refused)
  | setUp locals step => exact ran_setUp h
  | startReturns result =>
      rw [run, Prod.mk.injEq] at h
      rcases h with ⟨rfl, rfl⟩
      exact ran_plain ⟨rfl, rfl, rfl, rfl, rfl, rfl, rfl, rfl, rfl, rfl, rfl⟩ ⟨rfl, rfl⟩ (by simp)
  | close =>
      rw [run, Prod.mk.injEq] at h
      rcases h with ⟨rfl, rfl⟩
      exact ScreenRan.closed
  | closeConnection connection =>
      rw [run, Prod.mk.injEq] at h
      rcases h with ⟨rfl, rfl⟩
      exact ran_release ⟨rfl, rfl, rfl⟩ rfl (by simp) (by simp)
  | setSharingEnabled enabled =>
      rw [run, Prod.mk.injEq] at h
      rcases h with ⟨rfl, rfl⟩
      refine ran_plain ⟨rfl, rfl, rfl, rfl, rfl, rfl, rfl, rfl, rfl, rfl, rfl⟩ ⟨rfl, rfl⟩
        fun item hitem => ?_
      rcases List.mem_map.mp hitem with ⟨track, -, rfl⟩
      exact ⟨rfl, rfl, rfl, rfl⟩
  | setSystemAudioEnabled enabled =>
      rw [run] at h
      split at h
      · rw [Prod.mk.injEq] at h
        rcases h with ⟨rfl, rfl⟩
        refine ran_plain (Alike.refl session) ⟨rfl, rfl⟩ fun item hitem => ?_
        rw [List.mem_singleton.mp hitem]
        exact ⟨rfl, rfl, rfl, rfl⟩
      · rw [Prod.mk.injEq] at h
        rcases h with ⟨rfl, rfl⟩
        refine ran_plain ⟨rfl, rfl, rfl, rfl, rfl, rfl, rfl, rfl, rfl, rfl, rfl⟩ ⟨rfl, rfl⟩
          fun item hitem => ?_
        rcases List.mem_map.mp hitem with ⟨track, -, rfl⟩
        exact ⟨rfl, rfl, rfl, rfl⟩
  | applyEnabled track enabled =>
      rw [run, Prod.mk.injEq] at h
      rcases h with ⟨rfl, rfl⟩
      exact ran_plain (alike_setEnabled track enabled) ⟨rfl, rfl⟩ (by simp)
  | setLocalPreviewEnabled enabled => exact ran_setLocalPreviewEnabled h
  | attachPreview track user =>
      rw [run] at h
      split at h
      · rename_i hbound
        rw [Prod.mk.injEq] at h
        rcases h with ⟨rfl, rfl⟩
        exact ScreenRan.previewKept track user hbound
      · rw [Prod.mk.injEq] at h
        rcases h with ⟨rfl, rfl⟩
        exact ScreenRan.previewTaken track user
  | addPreview generation track user =>
      rw [run, Prod.mk.injEq] at h
      rcases h with ⟨rfl, rfl⟩
      exact ScreenRan.previewAdded generation track user
  | retainPreview generation binding user =>
      rw [run, Prod.mk.injEq] at h
      rcases h with ⟨rfl, rfl⟩
      exact ScreenRan.previewOffered generation binding user
  | clearPreview =>
      rw [run, Prod.mk.injEq] at h
      rcases h with ⟨rfl, rfl⟩
      exact ScreenRan.previewCleared
  | removePreview binding =>
      rw [run, Prod.mk.injEq] at h
      rcases h with ⟨rfl, rfl⟩
      exact ran_release ⟨rfl, rfl, rfl⟩ rfl (by simp) (by simp)
  | dropPreview =>
      rw [run] at h
      dsimp only at h
      split at h
      · rename_i hleft
        rw [Prod.mk.injEq] at h
        rcases h with ⟨rfl, rfl⟩
        exact ScreenRan.released _ ⟨rfl, rfl, rfl⟩ rfl (Or.inr hleft)
      · rename_i hlast
        rw [Prod.mk.injEq] at h
        rcases h with ⟨rfl, rfl⟩
        exact ScreenRan.previewDropped hlast
  | onTrack mid track => exact ran_onTrack h
  | addRemote kind mid track trackId =>
      rw [run, Prod.mk.injEq] at h
      rcases h with ⟨rfl, rfl⟩
      exact ScreenRan.remoteAdded kind mid track trackId
  | retainRemote kind binding trackId =>
      rw [run] at h
      split at h
      · rw [Prod.mk.injEq] at h
        rcases h with ⟨rfl, rfl⟩
        exact ScreenRan.call (Passes.plain rfl rfl fun item hitem => by
          rcases List.mem_cons.mp hitem with rfl | hmem
          · exact ⟨rfl, rfl, rfl⟩
          · exact plain_of_mem_afterRemote hmem)
      · rename_i hnew
        rw [Prod.mk.injEq] at h
        rcases h with ⟨rfl, rfl⟩
        exact ScreenRan.remoteRetained kind binding trackId hnew
  | clearRemote =>
      rw [run, Prod.mk.injEq] at h
      rcases h with ⟨rfl, rfl⟩
      exact ScreenRan.remoteCleared
  | removeRemote kind binding =>
      rw [run, Prod.mk.injEq] at h
      rcases h with ⟨rfl, rfl⟩
      exact ran_release ⟨rfl, rfl, rfl⟩ rfl (by simp) (by simp)
  | dropRemote =>
      rw [run] at h
      dsimp only at h
      split at h
      · rename_i hleft
        rw [Prod.mk.injEq] at h
        rcases h with ⟨rfl, rfl⟩
        exact ScreenRan.released _ ⟨rfl, rfl, rfl⟩ rfl (Or.inr hleft)
      · rename_i hlast
        rw [Prod.mk.injEq] at h
        rcases h with ⟨rfl, rfl⟩
        exact ScreenRan.remoteDropped hlast
  | setRemoteAudio mid setting =>
      rw [run] at h
      split at h
      · rw [Prod.mk.injEq] at h
        rcases h with ⟨rfl, rfl⟩
        refine ScreenRan.borrowed ScreenResource.remoteSinks session.desiredLocalPreviewEnabled
          ⟨rfl, rfl, rfl, rfl⟩ rfl fun item hitem => ?_
        rw [List.mem_singleton.mp hitem]
        exact ⟨rfl, rfl, rfl⟩
      · rw [Prod.mk.injEq] at h
        rcases h with ⟨rfl, rfl⟩
        exact ran_plain (Alike.refl session) ⟨rfl, rfl⟩ (by simp)
  | applyRemoteAudio mid setting =>
      rw [run, Prod.mk.injEq] at h
      rcases h with ⟨rfl, rfl⟩
      exact ScreenRan.passed (alike_setAudio mid setting) (Passes.plain rfl rfl fun item hitem => by
        rw [List.mem_singleton.mp hitem]
        exact ⟨rfl, rfl, rfl⟩)
  | notify callback =>
      rw [run] at h
      split at h
      · rw [Prod.mk.injEq] at h
        rcases h with ⟨rfl, rfl⟩
        exact ran_plain ⟨rfl, rfl, rfl, rfl, rfl, rfl, rfl, rfl, rfl, rfl, rfl⟩ ⟨rfl, rfl⟩ (by simp)
      · rw [Prod.mk.injEq] at h
        rcases h with ⟨rfl, rfl⟩
        exact ran_plain (Alike.refl session) ⟨rfl, rfl⟩ (by simp)

/-! ## The balance of one section -/

@[simp]
theorem previewResources_none : previewResources none = 0 := rfl

@[simp]
theorem previewResources_some (binding : PreviewBinding) :
    previewResources (some binding) = {ScreenResource.previewSink binding} := rfl

@[simp]
theorem resources_empty : (RemoteScreenSinks.resources {} : Multiset ScreenResource) = 0 := rfl

theorem holds_oldPreview (session : ScreenPeerSession) :
    Pool.load holds session.oldPreview = previewResources session.preview.binding := by
  rw [oldPreview, Pool.load_map, previewResources, ← Pool.load_singletons]
  rfl

theorem plain_of_mem_oldPreview {item : ScreenPeerSection} (h : item ∈ session.oldPreview) :
    Plain item := by
  rcases List.mem_map.mp h with ⟨binding, -, rfl⟩
  exact ⟨rfl, rfl, rfl⟩

theorem resources_add (sinks : RemoteScreenSinks) (binding : RemoteSinkBinding)
    (kind : ScreenTrackKind) :
    ((sinks.add binding kind).resources : Multiset ScreenResource) =
      (sinks.resources : Multiset ScreenResource) +
        {ScreenResource.remoteSink kind binding} := by
  cases kind with
  | video =>
      rw [RemoteScreenSinks.resources, RemoteScreenSinks.resources, RemoteScreenSinks.add,
        List.map_append, ← Multiset.coe_add, ← Multiset.coe_add, ← Multiset.coe_add, add_right_comm]
      rfl
  | audio =>
      rw [RemoteScreenSinks.resources, RemoteScreenSinks.resources, RemoteScreenSinks.add,
        List.map_append, ← Multiset.coe_add, ← Multiset.coe_add, ← Multiset.coe_add, add_assoc]
      rfl

/-- Giving back a live resource. -/
theorem erase_add {resource : ScreenResource} (hle : {resource} ≤ session.live) :
    session.live.erase resource + {resource} = session.live := by
  rw [add_comm, Multiset.singleton_add, Multiset.cons_erase (Multiset.singleton_le.mp hle)]

theorem plain_of_mem_closing {item : ScreenPeerSection}
    (h : item ∈ (if session.hasRemoteSinks then [clearRemote] else []) ++
      (if session.hasLocalSink then [clearPreview] else []) ++
        session.pc.toList.map closeConnection ++
          (if session.hasLocalSink then [dropPreview] else []) ++
            if session.hasRemoteSinks then [dropRemote] else []) : Plain item := by
  have hpointer : ∀ (isSet : Bool) (other : ScreenPeerSection), Plain other →
      item ∈ (if isSet then [other] else []) → Plain item := by
    intro isSet other hother hmem
    cases isSet with
    | false => contradiction
    | true =>
        rw [List.mem_singleton.mp hmem]
        exact hother
  simp only [List.mem_append] at h
  rcases h with (((hmem | hmem) | hmem) | hmem) | hmem
  · exact hpointer _ _ ⟨rfl, rfl, rfl⟩ hmem
  · exact hpointer _ _ ⟨rfl, rfl, rfl⟩ hmem
  · rcases List.mem_map.mp hmem with ⟨connection, -, rfl⟩
    exact ⟨rfl, rfl, rfl⟩
  · exact hpointer _ _ ⟨rfl, rfl, rfl⟩ hmem
  · exact hpointer _ _ ⟨rfl, rfl, rfl⟩ hmem

/-- The sections of a `close` have what the session had. -/
theorem holds_closing (session : ScreenPeerSession) :
    Pool.load holds
      ((if session.hasRemoteSinks then [clearRemote] else []) ++
        (if session.hasLocalSink then [clearPreview] else []) ++
          session.pc.toList.map closeConnection ++
            (if session.hasLocalSink then [dropPreview] else []) ++
              if session.hasRemoteSinks then [dropRemote] else []) = session.own := by
  have hpc : Pool.load holds (session.pc.toList.map closeConnection) =
      (session.pc.toList.map ScreenResource.connection : Multiset ScreenResource) := by
    rw [Pool.load_map, ← Pool.load_singletons]
    rfl
  rw [Pool.load_append, Pool.load_append, Pool.load_append, Pool.load_append, hpc, own]
  cases session.hasRemoteSinks <;> cases session.hasLocalSink <;>
    simp only [Bool.false_eq_true, if_true, if_false, Pool.load_cons, Pool.load_nil, holds,
      pointer] <;> abel

theorem ScreenRan.balance (h : ScreenRan session head next pushed)
    (hle : head.holds ≤ session.live)
    (hfree : head.attempts = 1 → session.own = 0) :
    next.live + session.stored + head.holds =
      session.live + next.stored + Pool.load holds pushed := by
  cases h with
  | passed halike hpasses => rw [halike.live, halike.stored_eq, hpasses.holds]
  | attempted hnew hpushed => rcases hpushed with ⟨locals, rfl⟩ | ⟨message, rfl⟩ <;> rfl
  | created locals =>
      change _ + session.stored + 0 = session.live + session.stored + (_ + 0)
      simp only [holds, ScreenStart.holds, ← Multiset.singleton_add]
      abel
  | installed locals hopen =>
      rw [stored, hfree rfl]
      change session.live + (0 + _ + _) + locals.holds =
        session.live + ({_} + {_} + {_} + _ + _) + (0 + 0)
      rw [ScreenStart.holds]
      abel
  | closed =>
      rw [holds_closing, stored]
      change session.live + _ + 0 = session.live + (0 + 0 + 0 + _ + _) + session.own
      abel
  | released resource hhead hholds hkeeps =>
      rw [hholds] at hle ⊢
      change _ + session.stored + _ = session.live + session.stored + 0
      rw [add_right_comm, erase_add hle, add_zero]
  | borrowed pointer desired hhead hholds hpushed =>
      rw [hholds, hhead.1, ← Multiset.singleton_add]
      change {pointer} + session.live + session.stored + 0 =
        session.live + session.stored + {pointer}
      abel
  | previewKept track user hbound =>
      rw [holds_afterAttach]
      rfl
  | previewTaken track user =>
      rw [Pool.load_append, holds_oldPreview, stored]
      change _ = session.live + (session.own + _ + 0) + (_ + (user.holds + 0))
      simp only [holds]
      abel
  | previewAdded generation track user =>
      rw [← Multiset.singleton_add]
      change {_} + session.live + session.stored + user.holds =
        session.live + session.stored + ({_} + user.holds + 0)
      abel
  | previewOffered generation binding user =>
      rw [Pool.load_append, holds_afterAttach, holds]
      by_cases haccepts : session.preview.Accepts generation
      · rw [if_pos haccepts, LatestSlot.offer, if_pos haccepts, stored, haccepts.2]
        change session.live + (_ + _ + 0) + _ = session.live + (session.own + _ + {_}) + (0 + _)
        abel
      · rw [if_neg haccepts, LatestSlot.offer, if_neg haccepts, Pool.load_cons, Pool.load_nil]
        change session.live + session.stored + _ = session.live + session.stored + ({_} + 0 + _)
        abel
  | previewCleared =>
      rw [holds_oldPreview, stored]
      change session.live + _ + 0 =
        session.live + (session.own + (session.remote.resources : Multiset ScreenResource) + 0) + _
      abel
  | previewDropped hlast =>
      rw [holds_oldPreview, stored]
      change _ + _ + {_} =
        session.live + (session.own + (session.remote.resources : Multiset ScreenResource) + 0) + _
      rw [add_right_comm, erase_add hle]
      abel
  | remoteAdded kind mid track trackId =>
      rw [← Multiset.singleton_add]
      change {_} + session.live + session.stored + {_} =
        session.live + session.stored + ({_} + {_} + 0)
      abel
  | remoteRetained kind binding trackId hnew =>
      rw [holds_afterRemote, stored, stored]
      change _ = session.live + (session.own + _ + _) + _
      rw [resources_add, holds]
      abel
  | remoteCleared =>
      rw [holds_removals, stored]
      change session.live + _ + 0 = session.live + (session.own + 0 + _) + _
      abel
  | remoteDropped hlast =>
      rw [holds_removals, stored]
      change _ + _ + {_} = session.live + (session.own + 0 + _) + _
      rw [add_right_comm, erase_add hle]
      abel

/-! ## The budget of one section -/

/-- A connection is created by the first attempt only. -/
theorem ScreenRan.creates_le (h : ScreenRan session head next pushed) :
    next.untried + next.connections + Pool.load creates pushed ≤
      session.untried + session.connections + head.creates := by
  cases h with
  | passed halike hpasses =>
      have hcreates := hpasses.creates
      rw [untried, untried, halike.startAttempted, halike.connections]
      omega
  | attempted hnew hpushed =>
      rw [untried, untried, hnew]
      rcases hpushed with ⟨locals, rfl⟩ | ⟨message, rfl⟩ <;> simp [creates, refused, reportError]
  | created locals => exact (Nat.add_assoc _ _ _).ge
  | closed =>
      rw [creates_of_plain fun _ => plain_of_mem_closing]
      exact le_rfl
  | borrowed pointer desired hhead hholds hpushed =>
      rw [creates_of_plain hpushed]
      exact Nat.le_add_right _ _
  | previewKept track user hbound =>
      rw [creates_afterAttach]
      exact le_rfl
  | previewTaken track user =>
      rw [Pool.load_append, creates_of_plain fun _ => plain_of_mem_oldPreview]
      exact le_rfl
  | previewOffered generation binding user =>
      rw [Pool.load_append, creates_afterAttach]
      split <;> exact le_rfl
  | previewCleared | previewDropped =>
      rw [creates_of_plain fun _ => plain_of_mem_oldPreview]
      exact le_rfl
  | remoteRetained kind binding trackId hnew =>
      rw [creates_of_plain fun _ => plain_of_mem_afterRemote]
      exact le_rfl
  | remoteCleared | remoteDropped =>
      rw [creates_of_plain fun _ => plain_of_mem_removals]
      exact le_rfl
  | installed | released | previewAdded | remoteAdded => exact Nat.le_add_right _ _

/-- A connection is installed by the first attempt only. -/
theorem ScreenRan.attempts_le (h : ScreenRan session head next pushed) :
    next.untried + next.pc.toList.length + Pool.load attempts pushed ≤
      session.untried + session.pc.toList.length + head.attempts := by
  cases h with
  | passed halike hpasses =>
      have hattempts := hpasses.attempts
      rw [untried, untried, halike.startAttempted, halike.pc]
      omega
  | attempted hnew hpushed =>
      rw [untried, untried, hnew]
      rcases hpushed with ⟨locals, rfl⟩ | ⟨message, rfl⟩ <;> simp [attempts, refused, reportError]
  | installed locals hopen =>
      change session.untried + 1 + 0 ≤ session.untried + _ + 1
      omega
  | closed =>
      rw [attempts_of_plain fun _ => plain_of_mem_closing]
      change session.untried + 0 + 0 ≤ _
      omega
  | borrowed pointer desired hhead hholds hpushed =>
      rw [attempts_of_plain hpushed]
      exact Nat.le_add_right _ _
  | previewKept track user hbound =>
      rw [attempts_afterAttach]
      exact le_rfl
  | previewTaken track user =>
      rw [Pool.load_append, attempts_of_plain fun _ => plain_of_mem_oldPreview, Nat.zero_add]
      exact le_rfl
  | previewOffered generation binding user =>
      rw [Pool.load_append, attempts_afterAttach]
      split <;> exact (Nat.add_le_add_left (Nat.zero_add _).le _)
  | previewCleared | previewDropped =>
      rw [attempts_of_plain fun _ => plain_of_mem_oldPreview]
      exact Nat.le_add_right _ _
  | remoteRetained kind binding trackId hnew =>
      rw [attempts_of_plain fun _ => plain_of_mem_afterRemote]
      exact Nat.le_add_right _ _
  | remoteCleared | remoteDropped =>
      rw [attempts_of_plain fun _ => plain_of_mem_removals]
      exact Nat.le_add_right _ _
  | created | previewAdded => exact le_rfl
  | released | remoteAdded => exact Nat.le_add_right _ _

/-! ## The flags -/

/-- A started session has a connection and its objects, and a closed one is not started;
every mid has one sink of each kind. -/
structure Coherent (session : ScreenPeerSession) : Prop where
  started : session.started = session.pc.isSome
  remote : session.hasRemoteSinks = session.started
  preview : session.hasLocalSink = session.started
  closed : session.closeRequested = true → session.started = false
  mids : ∀ kind, ((session.remote.bindings kind).map RemoteSinkBinding.mid).Nodup

/-- A session without a connection has nothing of its own. -/
theorem Coherent.own_eq_zero (h : Coherent session) (hpc : session.pc = none) :
    session.own = 0 := by
  have hstarted := h.started
  rw [hpc, Option.isSome_none] at hstarted
  rw [own, hpc, h.remote, h.preview, hstarted]
  rfl

theorem nodup_add {sinks : RemoteScreenSinks} {kind : ScreenTrackKind}
    {binding : RemoteSinkBinding}
    (h : ∀ kind, ((sinks.bindings kind).map RemoteSinkBinding.mid).Nodup)
    (hnew : ∀ other ∈ sinks.bindings kind, other.mid ≠ binding.mid) (kind' : ScreenTrackKind) :
    (((sinks.add binding kind).bindings kind').map RemoteSinkBinding.mid).Nodup := by
  have hadded : (((sinks.bindings kind) ++ [binding]).map RemoteSinkBinding.mid).Nodup := by
    rw [List.map_append, List.map_singleton, List.nodup_append]
    refine ⟨h kind, List.nodup_singleton _, fun mid hmid other hother => ?_⟩
    rcases List.mem_map.mp hmid with ⟨old, hold, rfl⟩
    rw [List.mem_singleton.mp hother]
    exact hnew old hold
  cases kind <;> cases kind'
  · exact hadded
  · exact h ScreenTrackKind.audio
  · exact h ScreenTrackKind.video
  · exact hadded

theorem ScreenRan.coherent (h : ScreenRan session head next pushed) (hcoherent : Coherent session) :
    Coherent next := by
  have hempty : ∀ kind, ((RemoteScreenSinks.bindings {} kind).map RemoteSinkBinding.mid).Nodup := by
    intro kind
    cases kind <;> exact List.nodup_nil
  cases h with
  | passed halike hpasses =>
      constructor
      · rw [halike.started, halike.pc, hcoherent.started]
      · rw [halike.hasRemoteSinks, halike.started, hcoherent.remote]
      · rw [halike.hasLocalSink, halike.started, hcoherent.preview]
      · rw [halike.closeRequested, halike.started]
        exact hcoherent.closed
      · rw [halike.remote]
        exact hcoherent.mids
  | installed locals hopen =>
      refine ⟨rfl, rfl, rfl, fun hclosed => ?_, hcoherent.mids⟩
      rw [show session.closeRequested = true from hclosed] at hopen
      contradiction
  | closed => exact ⟨rfl, rfl, rfl, fun _ => rfl, hcoherent.mids⟩
  | remoteRetained kind binding trackId hnew =>
      refine ⟨hcoherent.started, hcoherent.remote, hcoherent.preview, hcoherent.closed, ?_⟩
      exact nodup_add hcoherent.mids fun other hother hsame => hnew ⟨other, hother, hsame⟩
  | remoteCleared | remoteDropped =>
      exact ⟨hcoherent.started, hcoherent.remote, hcoherent.preview, hcoherent.closed, hempty⟩
  | attempted | created | released | borrowed | previewKept | previewTaken | previewAdded |
    previewOffered | previewCleared | previewDropped | remoteAdded =>
      exact ⟨hcoherent.started, hcoherent.remote, hcoherent.preview, hcoherent.closed,
        hcoherent.mids⟩

/-! ## The owners of the sinks -/

/-- An object that has sinks is there. -/
structure Owned (session : ScreenPeerSession) : Prop where
  remote : ∀ resource ∈ session.remote.resources, ScreenResource.remoteSinks ∈ session.live
  preview : ∀ binding, session.preview.binding = some binding →
    ScreenResource.localSink ∈ session.live

/-- More becomes live. -/
theorem Owned.of_le (h : Owned session) (hremote : next.remote = session.remote)
    (hpreview : next.preview = session.preview) (hle : session.live ≤ next.live) :
    Owned next where
  remote resource hmem := by
    rw [hremote] at hmem
    exact Multiset.mem_of_le hle (h.remote resource hmem)
  preview binding hbinding := by
    rw [hpreview] at hbinding
    exact Multiset.mem_of_le hle (h.preview binding hbinding)

theorem mem_resources_add {sinks : RemoteScreenSinks} {kind : ScreenTrackKind}
    {binding : RemoteSinkBinding} {resource : ScreenResource}
    (h : resource ∈ (sinks.add binding kind).resources) :
    resource ∈ sinks.resources ∨ resource = ScreenResource.remoteSink kind binding := by
  rw [← Multiset.mem_coe, resources_add, Multiset.mem_add, Multiset.mem_coe,
    Multiset.mem_singleton] at h
  exact h

theorem ScreenRan.owned (h : ScreenRan session head next pushed)
    (hle : head.holds ≤ session.live) (howned : Owned session) : Owned next := by
  have hcons : ∀ resource, session.live ≤ resource ::ₘ session.live :=
    fun resource => Multiset.le_cons_self _ resource
  cases h with
  | passed halike hpasses => exact howned.of_le halike.remote halike.preview halike.live.ge
  | created locals =>
      exact howned.of_le rfl rfl
        ((hcons _).trans ((Multiset.le_cons_self _ _).trans (Multiset.le_cons_self _ _)))
  | borrowed | previewAdded | remoteAdded => exact howned.of_le rfl rfl (hcons _)
  | released resource hhead hholds hkeeps =>
      have hstays : ∀ pointer, pointer = ScreenResource.remoteSinks ∨
          pointer = ScreenResource.localSink → pointer ∈ session.live →
            pointer ∈ session.live.erase resource := by
        intro pointer hpointer hmem
        by_cases hsame : pointer = resource
        · rcases hkeeps with ⟨hremote, hlocal⟩ | hleft
          · rw [hsame] at hpointer
            exact absurd hpointer (not_or.mpr ⟨hremote, hlocal⟩)
          · rw [hsame]
            exact hleft
        · exact (Multiset.mem_erase_of_ne hsame).mpr hmem
      constructor
      · intro other hmem
        exact hstays _ (Or.inl rfl) (howned.remote other hmem)
      · intro binding hbinding
        exact hstays _ (Or.inr rfl) (howned.preview binding hbinding)
  | previewTaken | previewCleared =>
      constructor
      · exact howned.remote
      · intro binding hbinding
        contradiction
  | previewOffered generation binding user =>
      constructor
      · exact howned.remote
      · intro _ _
        exact Multiset.mem_of_le hle
          (Multiset.mem_add.mpr (Or.inr user.localSink_mem_holds))
  | previewDropped hlast =>
      constructor
      · intro resource hmem
        exact (Multiset.mem_erase_of_ne (by simp)).mpr (howned.remote resource hmem)
      · intro binding hbinding
        contradiction
  | remoteRetained kind binding trackId hnew =>
      constructor
      · intro _ _
        exact Multiset.mem_of_le hle (by simp [holds])
      · exact howned.preview
  | remoteCleared =>
      constructor
      · intro resource hmem
        contradiction
      · exact howned.preview
  | remoteDropped hlast =>
      constructor
      · intro resource hmem
        contradiction
      · intro binding hbinding
        exact (Multiset.mem_erase_of_ne (by simp)).mpr (howned.preview binding hbinding)
  | attempted | installed | closed | previewKept => exact ⟨howned.remote, howned.preview⟩

/-! ## The preview -/

/-- The preview keeps to the last wish, with these promises. -/
def Follows (session : ScreenPeerSession) (promises : Multiset (Nat × Nat)) : Prop :=
  LatestSlot.Follows PreviewBinding.track session.preview session.previewWish promises

theorem ScreenRan.follows (h : ScreenRan session head next pushed)
    {promises later : Multiset (Nat × Nat)}
    (htotal : later + head.promise = promises + Pool.load promise pushed)
    (hfollows : Follows session promises) : Follows next later := by
  have hsame : head.promise = 0 → Pool.load promise pushed = 0 → later = promises := by
    intro hhead hload
    rw [hhead, hload, add_zero, add_zero] at htotal
    exact htotal
  cases h with
  | passed halike hpasses =>
      rw [hpasses.promise] at htotal
      rw [add_right_cancel htotal, Follows, halike.preview, halike.previewWish]
      exact hfollows
  | attempted hnew hpushed =>
      rw [hsame rfl (by rcases hpushed with ⟨locals, rfl⟩ | ⟨message, rfl⟩ <;> rfl)]
      exact hfollows
  | created | installed | remoteAdded =>
      rw [hsame rfl rfl]
      exact hfollows
  | closed =>
      rw [hsame rfl (promise_of_plain fun _ => plain_of_mem_closing)]
      exact hfollows
  | released resource hhead hholds hkeeps =>
      rw [hsame hhead.promise rfl]
      exact hfollows
  | borrowed pointer desired hhead hholds hpushed =>
      rw [hsame hhead.2.promise (promise_of_plain hpushed)]
      exact hfollows
  | previewKept track user hbound =>
      rw [hsame rfl (promise_afterAttach user), Follows]
      rcases Option.map_eq_some_iff.mp hbound with ⟨binding, hbinding, rfl⟩
      rw [← hfollows.wish_eq hbinding]
      exact hfollows
  | previewTaken track user =>
      have hnothing : (attachPreview track user).promise = 0 := rfl
      rw [Pool.load_append, promise_of_plain fun _ => plain_of_mem_oldPreview, zero_add,
        Pool.load_cons, Pool.load_nil, add_zero, hnothing, promise, add_zero, add_comm,
        Multiset.singleton_add] at htotal
      rw [htotal]
      exact hfollows.fill track
  | previewAdded generation track user =>
      rw [Pool.load_cons, Pool.load_nil, add_zero] at htotal
      rw [add_right_cancel htotal]
      exact hfollows
  | previewOffered generation binding user =>
      have hload : Pool.load promise
          (if session.preview.Accepts generation then [] else [removePreview binding]) = 0 := by
        split <;> rfl
      rw [Pool.load_append, hload, promise_afterAttach, add_zero, add_zero, promise, add_comm,
        Multiset.singleton_add] at htotal
      rw [← htotal] at hfollows
      exact LatestSlot.Follows.offer hfollows
  | previewCleared | previewDropped =>
      rw [hsame rfl (promise_of_plain fun _ => plain_of_mem_oldPreview)]
      exact hfollows.withdraw
  | remoteRetained kind binding trackId hnew =>
      rw [hsame rfl (promise_of_plain fun _ => plain_of_mem_afterRemote)]
      exact hfollows
  | remoteCleared | remoteDropped =>
      rw [hsame rfl (promise_of_plain fun _ => plain_of_mem_removals)]
      exact hfollows

/-! ## What is stored where -/

theorem mem_resources_iff {sinks : RemoteScreenSinks} {resource : ScreenResource} :
    resource ∈ sinks.resources ↔
      ∃ kind, ∃ binding ∈ sinks.bindings kind,
        resource = ScreenResource.remoteSink kind binding := by
  rw [RemoteScreenSinks.resources, List.mem_append, List.mem_map, List.mem_map]
  constructor
  · rintro (⟨binding, hmem, rfl⟩ | ⟨binding, hmem, rfl⟩)
    · exact ⟨ScreenTrackKind.video, binding, hmem, rfl⟩
    · exact ⟨ScreenTrackKind.audio, binding, hmem, rfl⟩
  · rintro ⟨kind, binding, hmem, rfl⟩
    cases kind with
    | video => exact Or.inl ⟨binding, hmem, rfl⟩
    | audio => exact Or.inr ⟨binding, hmem, rfl⟩

/-- What the session has of its own. -/
theorem own_cases {resource : ScreenResource} (h : resource ∈ session.own) :
    (∃ connection, resource = ScreenResource.connection connection) ∨
      resource = ScreenResource.remoteSinks ∨ resource = ScreenResource.localSink := by
  have hpointer : ∀ (isSet : Bool) (other : ScreenResource), resource ∈ pointer isSet other →
      resource = other := by
    intro isSet other hmem
    cases isSet with
    | false => simp [pointer] at hmem
    | true => simpa [pointer] using hmem
  rw [own, Multiset.mem_add, Multiset.mem_add, Multiset.mem_coe, List.mem_map] at h
  rcases h with (⟨connection, -, rfl⟩ | hremote) | hlocal
  · exact Or.inl ⟨connection, rfl⟩
  · exact Or.inr (Or.inl (hpointer _ _ hremote))
  · exact Or.inr (Or.inr (hpointer _ _ hlocal))

theorem mem_resources_of_stored {kind : ScreenTrackKind} {binding : RemoteSinkBinding}
    (h : ScreenResource.remoteSink kind binding ∈ session.stored) :
    ScreenResource.remoteSink kind binding ∈ session.remote.resources := by
  rw [stored, Multiset.mem_add, Multiset.mem_add, Multiset.mem_coe] at h
  rcases h with (hown | hremote) | hpreview
  · simpa using own_cases hown
  · exact hremote
  · cases hbinding : session.preview.binding <;> simp [hbinding] at hpreview

theorem binding_of_stored {binding : PreviewBinding}
    (h : ScreenResource.previewSink binding ∈ session.stored) :
    session.preview.binding = some binding := by
  rw [stored, Multiset.mem_add, Multiset.mem_add, Multiset.mem_coe] at h
  rcases h with (hown | hremote) | hpreview
  · simpa using own_cases hown
  · simpa using mem_resources_iff.mp hremote
  · cases hbinding : session.preview.binding with
    | none => simp [hbinding] at hpreview
    | some other =>
        rw [hbinding, previewResources_some, Multiset.mem_singleton,
          ScreenResource.previewSink.injEq] at hpreview
        rw [hpreview]

/-- A closed session keeps nothing, and no pointer is left for its objects. -/
theorem Coherent.stored_eq_zero (h : Coherent session) (howned : Owned session)
    (hclosed : session.closeRequested = true) (hlive : session.live = session.stored) :
    session.stored = 0 := by
  have hpc : session.pc = none := by
    have hstarted := h.started
    rw [h.closed hclosed] at hstarted
    exact Option.isSome_eq_false_iff.mp hstarted.symm |> Option.isNone_iff_eq_none.mp
  have hown := h.own_eq_zero hpc
  have hpointer : ∀ resource, resource ∈ session.live →
      resource ≠ ScreenResource.remoteSinks ∧ resource ≠ ScreenResource.localSink := by
    intro resource hmem
    rw [hlive, stored, hown, zero_add, Multiset.mem_add, Multiset.mem_coe] at hmem
    rcases hmem with hremote | hpreview
    · rcases mem_resources_iff.mp hremote with ⟨kind, binding, -, rfl⟩
      exact ⟨by simp, by simp⟩
    · cases hbinding : session.preview.binding with
      | none => simp [hbinding] at hpreview
      | some other =>
          rw [hbinding, previewResources_some, Multiset.mem_singleton] at hpreview
          rw [hpreview]
          exact ⟨by simp, by simp⟩
  have hremote : session.remote.resources = [] := by
    apply List.eq_nil_iff_forall_not_mem.mpr
    intro resource hmem
    exact (hpointer _ (howned.remote resource hmem)).1 rfl
  have hpreview : session.preview.binding = none := by
    cases hbinding : session.preview.binding with
    | none => rfl
    | some binding => exact absurd rfl (hpointer _ (howned.preview binding hbinding)).2
  rw [stored, hown, hremote, hpreview]
  rfl

/-- Whoever holds a remote sink removes it, or has a pointer to its object. -/
theorem remoteSink_of_holds {item : ScreenPeerSection} {kind : ScreenTrackKind}
    {binding : RemoteSinkBinding} (h : ScreenResource.remoteSink kind binding ∈ item.holds) :
    item = removeRemote kind binding ∨ ScreenResource.remoteSinks ∈ item.holds := by
  have huser : ∀ user : PreviewUser, ScreenResource.remoteSink kind binding ∉ user.holds := by
    intro user
    cases user <;> simp [PreviewUser.holds, ScreenStart.holds]
  cases item with
  | removeRemote other removed =>
      rw [holds, Multiset.mem_singleton, ScreenResource.remoteSink.injEq] at h
      rcases h with ⟨rfl, rfl⟩
      exact Or.inl rfl
  | retainRemote other retained trackId => exact Or.inr (by simp [holds])
  | attachPreview track user | addPreview generation track user => exact absurd h (huser user)
  | retainPreview generation retained user =>
      rcases Multiset.mem_add.mp h with hsink | hmem
      · simp at hsink
      · exact absurd hmem (huser user)
  | _ => simp [holds, ScreenStart.holds] at h

/-- Whoever holds a sink of the preview removes it, or has a pointer to its object. -/
theorem previewSink_of_holds {item : ScreenPeerSection} {binding : PreviewBinding}
    (h : ScreenResource.previewSink binding ∈ item.holds) :
    item = removePreview binding ∨ ScreenResource.localSink ∈ item.holds := by
  cases item with
  | removePreview removed =>
      rw [holds, Multiset.mem_singleton, ScreenResource.previewSink.injEq] at h
      exact Or.inl (by rw [h])
  | attachPreview track user | addPreview generation track user =>
      exact Or.inr user.localSink_mem_holds
  | retainPreview generation retained user =>
      exact Or.inr (Multiset.mem_add.mpr (Or.inr user.localSink_mem_holds))
  | _ => simp [holds, ScreenStart.holds] at h

/-- The tracks with a sink of the preview. -/
theorem previewTracks_stored (session : ScreenPeerSession) :
    session.stored.filterMap ScreenResource.previewTrack =
      LatestSlot.one (session.preview.binding.map PreviewBinding.track) := by
  have hown : session.own.filterMap ScreenResource.previewTrack = 0 := by
    apply Multiset.eq_zero_of_forall_notMem
    intro track hmem
    rcases (Multiset.mem_filterMap _ _).mp hmem with ⟨resource, hresource, htrack⟩
    rcases own_cases hresource with ⟨connection, rfl⟩ | rfl | rfl <;> contradiction
  have hremote : (session.remote.resources : Multiset ScreenResource).filterMap
      ScreenResource.previewTrack = 0 := by
    apply Multiset.eq_zero_of_forall_notMem
    intro track hmem
    rcases (Multiset.mem_filterMap _ _).mp hmem with ⟨resource, hresource, htrack⟩
    rcases mem_resources_iff.mp (Multiset.mem_coe.mp hresource) with ⟨kind, binding, -, rfl⟩
    contradiction
  rw [stored, Multiset.filterMap_add, Multiset.filterMap_add, hown, hremote, zero_add, zero_add]
  cases session.preview.binding <;> rfl

end ScreenPeerSession

/-! ## All interleavings -/

namespace ScreenPeerSystem

open ScreenPeerSection ScreenPeerSession

variable {system next : ScreenPeerSystem} {action : ScreenPeerAction}

/-- The invariant of all interleavings. -/
structure Sound (system : ScreenPeerSystem) : Prop where
  coherent : Coherent system.session
  owned : Owned system.session
  custody : InCustody holds system.session.live system.session.stored system.threads
  created : system.session.untried + system.session.connections +
    Pool.total creates system.threads ≤ 1
  attempted : system.session.untried + system.session.pc.toList.length +
    Pool.total attempts system.threads ≤ 1
  follows : system.session.Follows (Pool.total promise system.threads)

theorem Sound.initial (h : Initial system) : Sound system := by
  rcases h with ⟨config, callbacks, runtimeReady, injectedPcm, rfl⟩
  refine ⟨⟨rfl, rfl, rfl, by simp [create], ?_⟩, ⟨by simp [create, RemoteScreenSinks.resources],
    by simp [create]⟩, InCustody.empty holds, le_rfl, le_rfl, LatestSlot.Follows.empty _⟩
  intro kind
  cases kind <;> exact List.nodup_nil

theorem Sound.call (h : Sound system) (call : ScreenPeerCall) :
    Sound { system with threads := system.threads ++ [[call.body]] } := by
  have hbody : call.body.holds = 0 ∧ Plain call.body := by
    cases call <;> exact ⟨rfl, rfl, rfl, rfl⟩
  have hplain : ∀ item ∈ [call.body], Plain item := by
    intro item hitem
    rw [List.mem_singleton.mp hitem]
    exact hbody.2
  refine ⟨h.coherent, h.owned, h.custody.spawn ?_, ?_, ?_, ?_⟩
  · rw [Pool.load_cons, hbody.1, Pool.load_nil, add_zero]
  · rw [Pool.total_spawn, creates_of_plain hplain]
    exact h.created
  · rw [Pool.total_spawn, attempts_of_plain hplain]
    exact h.attempted
  · rw [Pool.total_spawn, promise_of_plain hplain, add_zero]
    exact h.follows

theorem Sound.run (h : Sound system) {index : Nat} {head : ScreenPeerSection}
    {rest pushed : List ScreenPeerSection} {session : ScreenPeerSession}
    (hhead : system.threads[index]? = some (head :: rest))
    (hran : ScreenRan system.session head session pushed) :
    Sound { session := session, threads := system.threads.set index (pushed ++ rest) } := by
  have hle := h.custody.le_live hhead
  have hfree : head.attempts = 1 → system.session.own = 0 := by
    intro hone
    have htotal := Pool.total_run attempts hhead []
    have hbudget := h.attempted
    rw [Pool.load_nil] at htotal
    have hlength : system.session.pc.toList.length = 0 := by omega
    exact h.coherent.own_eq_zero (Option.toList_eq_nil_iff.mp (List.length_eq_zero_iff.mp hlength))
  have hbudget : ∀ (weight : ScreenPeerSection → Nat) (own own' : Nat),
      own' + Pool.load weight pushed ≤ own + weight head →
        own + Pool.total weight system.threads ≤ 1 →
          own' + Pool.total weight (system.threads.set index (pushed ++ rest)) ≤ 1 := by
    intro weight own own' hstep htotal
    have hrun := Pool.total_run weight hhead pushed
    omega
  exact ⟨hran.coherent h.coherent, hran.owned hle h.owned,
    h.custody.run hhead (hran.balance hle hfree), hbudget _ _ _ hran.creates_le h.created,
    hbudget _ _ _ hran.attempts_le h.attempted,
    hran.follows (Pool.total_run promise hhead pushed) h.follows⟩

/-- The invariant holds in all interleavings. -/
theorem sound_of_reachable (h : Reachable Initial Step system) : Sound system := by
  refine Reachable.invariant (fun _ => Sound.initial) ?_ h
  intro system next _ hsound hstep
  rcases hstep with ⟨action, hact⟩
  cases action with
  | call call =>
      rw [act, Option.some.injEq] at hact
      rw [← hact]
      exact hsound.call call
  | run index failure =>
      simp only [act] at hact
      split at hact
      · rename_i head rest hhead
        rw [Option.some.injEq] at hact
        rw [← hact]
        exact hsound.run hhead (screenRan_of_run rfl)
      · contradiction

/-- A sink on a track has its owner, or is about to be removed: a remote sink is called
only while somebody has a pointer to the `RemoteScreenSinks`, and the sink of the preview
only while somebody has one to the `LocalVideoSink`. -/
theorem sinks_have_owners_of_reachable (h : Reachable Initial Step system) :
    (∀ kind binding, ScreenResource.remoteSink kind binding ∈ system.session.live →
      ScreenResource.remoteSinks ∈ system.session.live ∨
        Pool.Pending system.threads (removeRemote kind binding)) ∧
    ∀ binding, ScreenResource.previewSink binding ∈ system.session.live →
      ScreenResource.localSink ∈ system.session.live ∨
        Pool.Pending system.threads (removePreview binding) := by
  have hsound := sound_of_reachable h
  constructor
  · intro kind binding hlive
    rcases hsound.custody.mem_live_iff.mp hlive with hstored | ⟨item, hpending, hholds⟩
    · exact Or.inl (hsound.owned.remote _ (mem_resources_of_stored hstored))
    · rcases remoteSink_of_holds hholds with rfl | hpointer
      · exact Or.inr hpending
      · exact Or.inl (hsound.custody.mem_live_iff.mpr (Or.inr ⟨item, hpending, hpointer⟩))
  · intro binding hlive
    rcases hsound.custody.mem_live_iff.mp hlive with hstored | ⟨item, hpending, hholds⟩
    · exact Or.inl (hsound.owned.preview binding (binding_of_stored hstored))
    · rcases previewSink_of_holds hholds with rfl | hpointer
      · exact Or.inr hpending
      · exact Or.inl (hsound.custody.mem_live_iff.mpr (Or.inr ⟨item, hpending, hpointer⟩))

/-- One connection at most, and one sink of each kind for every mid.  Once all calls have
returned, what is live is what the session keeps, which is nothing after a `close`. -/
theorem nothing_left_of_reachable (h : Reachable Initial Step system) :
    system.session.connections ≤ 1 ∧
      (∀ kind, ((system.session.remote.bindings kind).map RemoteSinkBinding.mid).Nodup) ∧
        (Pool.Quiet system.threads →
          system.session.live = system.session.stored ∧
            (system.session.closeRequested = true → system.session.live = 0)) := by
  have hsound := sound_of_reachable h
  have hcreated := hsound.created
  refine ⟨by omega, hsound.coherent.mids, fun hquiet => ?_⟩
  have hlive := hsound.custody.live_eq_stored hquiet
  refine ⟨hlive, fun hclosed => ?_⟩
  rw [hlive]
  exact hsound.coherent.stored_eq_zero hsound.owned hclosed hlive

/-- Once all calls have returned, the tracks that have a sink of the preview are the track
of the last `attach`, unless a `clear` came later. -/
theorem preview_follows_of_reachable (h : Reachable Initial Step system)
    (hquiet : Pool.Quiet system.threads) :
    system.session.live.filterMap ScreenResource.previewTrack =
      LatestSlot.one system.session.previewWish := by
  have hsound := sound_of_reachable h
  have hfollows := hsound.follows
  rw [Pool.total_of_quiet promise hquiet] at hfollows
  rw [hsound.custody.live_eq_stored hquiet, previewTracks_stored, hfollows.settled]

/-! ## A run -/

/-- Run a call as the next thread, for so many sections. -/
def calling (index steps : Nat) (call : ScreenPeerCall) : List ScreenPeerAction :=
  ScreenPeerAction.call call :: List.replicate steps (ScreenPeerAction.run index none)

/-- A new session that shows its preview. -/
def newSystem : ScreenPeerSystem where
  session :=
    ScreenPeerSession.create { remoteStreamSlots := 1, localPreviewEnabled := true } {} true false
  threads := []

/-- The system after some actions. -/
def after (actions : List ScreenPeerAction) : ScreenPeerSystem :=
  (execute (fun _ _ => True) act newSystem actions).getD newSystem

theorem reachable_after {actions : List ScreenPeerAction}
    (h : (execute (fun _ _ => True) act newSystem actions).isSome = true) :
    Reachable Initial Step (after actions) :=
  Reachable.execute (fun _ action _ _ hact => ⟨action, hact⟩)
    (Reachable.start
      ⟨{ remoteStreamSlots := 1, localPreviewEnabled := true }, {}, true, false, rfl⟩)
    (execute_eq_some_getD h)

/-- The session is started, and the preview is switched off while it is attached again. -/
def openActions : List ScreenPeerAction :=
  calling 0 16 ScreenPeerCall.start ++
    calling 1 4 (ScreenPeerCall.setLocalPreviewEnabled false) ++
      calling 2 3 (ScreenPeerCall.setLocalPreviewEnabled true) ++
        calling 3 3 (ScreenPeerCall.setLocalPreviewEnabled false) ++
          List.replicate 3 (ScreenPeerAction.run 2 none) ++
            calling 4 5 (ScreenPeerCall.setLocalPreviewEnabled true)

/-- `close` clears the sinks while a track is about to get one. -/
def closingActions : List ScreenPeerAction :=
  openActions ++
    calling 5 1 (ScreenPeerCall.onTrack (some (text "1"))
      (some (some ScreenTrackKind.video, 0, text "alice"))) ++
        calling 6 7 ScreenPeerCall.close ++ List.replicate 2 (ScreenPeerAction.run 5 none)

/-- The pointer of the last call goes out of scope. -/
def closedActions : List ScreenPeerAction :=
  closingActions ++ List.replicate 3 (ScreenPeerAction.run 5 none)

theorem open_preview_follows :
    (after openActions).session.sinks = 3 ∧ (after openActions).session.previewWish = some 0 ∧
      (after openActions).session.live.filterMap ScreenResource.previewTrack =
        LatestSlot.one (after openActions).session.previewWish :=
  ⟨by decide +kernel, by decide +kernel,
    preview_follows_of_reachable (reachable_after (by decide +kernel)) (by decide +kernel)⟩

theorem closing_sink_has_owner :
    (after closingActions).session.started = false ∧
      (ScreenResource.remoteSinks ∈ (after closingActions).session.live ∨
        Pool.Pending (after closingActions).threads
          (removeRemote ScreenTrackKind.video ⟨0, 3, text "1"⟩)) :=
  ⟨by decide +kernel,
    (sinks_have_owners_of_reachable (reachable_after (by decide +kernel))).1 _ _
      (by decide +kernel)⟩

theorem closed_nothing_left :
    (after closedActions).session.sinks = 4 ∧ (after closedActions).session.live = 0 :=
  ⟨by decide +kernel,
    ((nothing_left_of_reachable (reachable_after (by decide +kernel))).2.2
      (by decide +kernel)).2 (by decide +kernel)⟩

end ScreenPeerSystem

end Client
end Driscord
