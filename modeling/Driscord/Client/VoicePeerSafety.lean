import Driscord.Client.VoicePeerSession

/-!
# The resources of the voice session

However the calls of the user and those of WebRTC interleave, and whatever WebRTC answers,
a session creates one peer connection at most and makes one offer at most.  Every open
connection and every registered sink is kept by the session or in the hands of one call.

Main results:

- Theorem `VoicePeerSystem.sound_of_reachable`: the invariant of all interleavings.
- Theorem `VoicePeerSystem.nothing_leaks_of_reachable`: once all calls have returned,
  exactly what the session keeps is open, and nothing after a `close`.
-/

namespace Driscord
namespace Client

open Library Signaling

/-! ## What a section is accountable for -/

namespace VoicePeerSection

/-- The connection or the sink in the hands of a section. -/
def holds : VoicePeerSection → Multiset VoiceResource
  | setUp connection _ | closeConnection connection => {VoiceResource.connection connection}
  | retainSink binding | removeSink binding => {VoiceResource.sink binding}
  | _ => 0

/-- The connections that a section may create. -/
def creates : VoicePeerSection → Nat
  | createConnection => 1
  | _ => 0

/-- The connections that a section may install. -/
def attempts : VoicePeerSection → Nat
  | createConnection | setUp _ _ => 1
  | _ => 0

/-- The offers to which a section may lead. -/
def offers : VoicePeerSection → Nat
  | createConnection | setUp _ _ | send VoiceRequest.localDescription _
  | answered VoiceRequest.localDescription _ _ _ | notify (VoiceCallback.offer _) => 1
  | _ => 0

/-- The section belongs to a start that is not decided, or reports an error. -/
def undecided : VoicePeerSection → Bool
  | createConnection | setUp _ _ | notify (VoiceCallback.error _) => true
  | _ => false

theorem creates_le_attempts (item : VoicePeerSection) : item.creates ≤ item.attempts := by
  cases item <;> simp [creates, attempts]

theorem attempts_le_offers (item : VoicePeerSection) : item.attempts ≤ item.offers := by
  cases item <;> simp [attempts, offers]

/-- The section is accountable for nothing. -/
structure Plain (item : VoicePeerSection) : Prop where
  holds : item.holds = 0
  offers : item.offers = 0
  fails : item ≠ startReturns true

/-- The sections that lead to no offer lead to no connection either. -/
theorem load_eq_zero_of_offers {weight : VoicePeerSection → Nat}
    (hle : ∀ item, weight item ≤ item.offers) {pushed : List VoicePeerSection}
    (h : ∀ item ∈ pushed, item.offers = 0) : Pool.load weight pushed = 0 := by
  refine Pool.load_eq_zero weight fun item hitem => ?_
  have hitem := (hle item).trans_eq (h item hitem)
  exact Nat.le_zero.mp hitem

theorem creates_le_offers (item : VoicePeerSection) : item.creates ≤ item.offers :=
  (creates_le_attempts item).trans (attempts_le_offers item)

theorem offers_of_mem_closing {sinks : List RemoteSinkBinding} {connections : List Nat}
    {item : VoicePeerSection} (h : item ∈ sinks.map removeSink ++ connections.map closeConnection) :
    item.offers = 0 := by
  rcases List.mem_append.mp h with hmem | hmem
  · rcases List.mem_map.mp hmem with ⟨_, -, rfl⟩
    rfl
  · rcases List.mem_map.mp hmem with ⟨_, -, rfl⟩
    rfl

theorem Plain.report (message : Bytes) : Plain (reportError message) :=
  ⟨rfl, rfl, by simp [reportError]⟩

theorem Plain.returns : Plain (startReturns false) :=
  ⟨rfl, rfl, by simp⟩

theorem plain_of_mem_refused {message : Bytes} {item : VoicePeerSection}
    (h : item ∈ refused message) : Plain item := by
  rw [refused, List.mem_pair] at h
  rcases h with rfl | rfl
  · exact Plain.report message
  · exact Plain.returns

end VoicePeerSection

namespace VoicePeerSession

open VoicePeerSection

/-- What the session keeps. -/
def stored (session : VoicePeerSession) : Multiset VoiceResource :=
  (session.pc.toList.map VoiceResource.connection : Multiset VoiceResource) +
    (session.remoteSinks.map VoiceResource.sink : Multiset VoiceResource)

/-- `start` may still make its attempt. -/
def untried (session : VoicePeerSession) : Nat :=
  if session.startAttempted then 0 else 1

def isOffer : VoiceCallback → Bool
  | VoiceCallback.offer _ => true
  | _ => false

def isLocalDescription (request : VoiceRequest × Nat) : Bool :=
  request.1 = VoiceRequest.localDescription

/-- The offers made, and the local descriptions that WebRTC is still setting. -/
def offered (session : VoicePeerSession) : Nat :=
  session.notified.countP isOffer + session.awaiting.countP isLocalDescription

/-- An error was reported. -/
def Reported (session : VoicePeerSession) : Prop :=
  ∃ message, VoiceCallback.error message ∈ session.notified

variable {session next : VoicePeerSession} {failure : Option Bytes} {connection : Nat}
variable {head : VoicePeerSection} {step : VoiceSetup} {pushed : List VoicePeerSection}

/-! ## What one section can do -/

/-- What one step of `start` can do. -/
inductive SetUpRan (session : VoicePeerSession) (connection : Nat) :
    VoicePeerSession → List VoicePeerSection → Prop
  | advanced (tracks : Nat) (enabledTracks : Finset Nat) (step : VoiceSetup) :
      SetUpRan session connection
        { session with tracks := tracks, enabledTracks := enabledTracks }
        (advanced connection step)
  | abandoned (message) : SetUpRan session connection session (abandoned connection message)
  | cancelled (hclosed : session.closeRequested = true) :
      SetUpRan session connection session [closeConnection connection, startReturns false]
  | installed (track) (hopen : session.closeRequested = false) :
      SetUpRan session connection
        { session with pc := some connection, microphoneTrack := some track, started := true }
        [send VoiceRequest.localDescription connection, startReturns true]

theorem setUpRan_of_setUp (h : session.setUp failure connection step = (next, pushed)) :
    SetUpRan session connection next pushed := by
  have hpass : ∀ step, SetUpRan session connection session (advanced connection step) :=
    SetUpRan.advanced session.tracks session.enabledTracks
  cases step with
  | audioSource | addSender track =>
      cases failure <;> (rw [setUp, Prod.mk.injEq] at h; rcases h with ⟨rfl, rfl⟩)
      · exact hpass _
      · exact SetUpRan.abandoned _
  | audioTrack =>
      cases failure <;> (rw [setUp, Prod.mk.injEq] at h; rcases h with ⟨rfl, rfl⟩)
      · exact SetUpRan.advanced _ _ _
      · exact SetUpRan.abandoned _
  | readMicrophone track =>
      rw [setUp, Prod.mk.injEq] at h
      rcases h with ⟨rfl, rfl⟩
      exact hpass _
  | enableMicrophone track enabled =>
      rw [setUp, setEnabled, Prod.mk.injEq] at h
      rcases h with ⟨rfl, rfl⟩
      exact SetUpRan.advanced _ _ _
  | addReceivers track left =>
      cases left with
      | zero =>
          rw [setUp, Prod.mk.injEq] at h
          rcases h with ⟨rfl, rfl⟩
          exact hpass _
      | succ left =>
          cases failure <;> (rw [setUp, Prod.mk.injEq] at h; rcases h with ⟨rfl, rfl⟩)
          · exact hpass _
          · exact SetUpRan.abandoned _
  | install track =>
      rw [setUp] at h
      split at h
      · rename_i hclosed
        rw [Prod.mk.injEq] at h
        rcases h with ⟨rfl, rfl⟩
        exact SetUpRan.cancelled hclosed
      · rename_i hopen
        rw [Prod.mk.injEq] at h
        rcases h with ⟨rfl, rfl⟩
        exact SetUpRan.installed track (Bool.eq_false_of_not_eq_true hopen)

/-- What one run of a section can do. -/
inductive VoiceRan (session : VoicePeerSession) :
    VoicePeerSection → VoicePeerSession → List VoicePeerSection → Prop
  | repeated : VoiceRan session start session [startReturns session.started]
  | attempted {pushed : List VoicePeerSection} (hnew : session.startAttempted = false)
      (hpushed : pushed = [createConnection] ∨ ∃ message, pushed = refused message) :
      VoiceRan session start { session with startAttempted := true } pushed
  | created :
      VoiceRan session createConnection
        { session with
          connections := session.connections + 1
          live := VoiceResource.connection session.connections ::ₘ session.live }
        (advanced session.connections VoiceSetup.audioSource)
  | setUp {connection : Nat} {next : VoicePeerSession} {pushed : List VoicePeerSection}
      (step : VoiceSetup) (h : SetUpRan session connection next pushed) :
      VoiceRan session (VoicePeerSection.setUp connection step) next pushed
  | sent (request : VoiceRequest) (connection : Nat) :
      VoiceRan session (send request connection)
        { session with awaiting := session.awaiting ++ [(request, connection)] } []
  | returned (result) :
      VoiceRan session (startReturns result)
        { session with startResults := session.startResults ++ [result] } []
  | closed :
      VoiceRan session close
        { session with
          pc := none
          microphoneTrack := none
          remoteSinks := []
          started := false
          closeRequested := true }
        (session.remoteSinks.map removeSink ++ session.pc.toList.map closeConnection)
  | connectionClosed (connection : Nat) :
      VoiceRan session (closeConnection connection)
        { session with live := session.live.erase (VoiceResource.connection connection) } []
  | sinkRemoved (binding) :
      VoiceRan session (removeSink binding)
        { session with live := session.live.erase (VoiceResource.sink binding) } []
  | sinkAdded (mid track) :
      VoiceRan session (addSink mid track)
        { session with
          sinks := session.sinks + 1
          live := VoiceResource.sink ⟨track, session.sinks, mid⟩ ::ₘ session.live }
        [retainSink ⟨track, session.sinks, mid⟩]
  | sinkRetained (binding : RemoteSinkBinding) (hstarted : session.started = true)
      (hnew : ∀ other ∈ session.remoteSinks, other.mid ≠ binding.mid) :
      VoiceRan session (retainSink binding)
        { session with remoteSinks := session.remoteSinks ++ [binding] } []
  | sinkRefused (binding) : VoiceRan session (retainSink binding) session [removeSink binding]
  | offered (expected error sdp) :
      VoiceRan session (answered VoiceRequest.localDescription expected error (some sdp)) session
        [notify (VoiceCallback.offer sdp)]
  | told (callback) (hset : session.callbacks.has callback = true) :
      VoiceRan session (notify callback)
        { session with notified := session.notified ++ [callback] } []
  | untold (callback) (hunset : session.callbacks.has callback = false) :
      VoiceRan session (notify callback) session []
  | passed {head : VoicePeerSection} {pushed : List VoicePeerSection} (desired enabledTracks)
      (hpushed : ∀ item ∈ pushed, Plain item)
      (hholds : head.holds = 0)
      (hreports : head.undecided = true → ∃ message, reportError message ∈ pushed) :
      VoiceRan session head
        { session with desiredMicrophoneEnabled := desired, enabledTracks := enabledTracks }
        pushed

/-- A section that only calls for others. -/
theorem VoiceRan.call (hpushed : ∀ item ∈ pushed, Plain item) (hholds : head.holds = 0)
    (hreports : head.undecided = true → ∃ message, reportError message ∈ pushed) :
    VoiceRan session head session pushed :=
  VoiceRan.passed session.desiredMicrophoneEnabled session.enabledTracks hpushed hholds hreports

theorem plain_of_mem_ask {request : VoiceRequest}
    (hrequest : request ≠ VoiceRequest.localDescription) {unstarted invalid : String}
    {parseError : Option Bytes} {item : VoicePeerSection}
    (h : item ∈ session.ask request unstarted invalid parseError) : Plain item := by
  unfold ask at h
  split at h <;> rw [List.mem_singleton] at h <;> subst h
  · exact Plain.report _
  · exact Plain.report _
  · cases request with
    | localDescription => exact absurd rfl hrequest
    | remoteDescription | iceCandidate => exact ⟨rfl, rfl, by simp⟩

theorem plain_of_mem_trackSections {mid : Option Bytes} {track : Option (Nat × Bytes)}
    {item : VoicePeerSection} (h : item ∈ session.trackSections mid track) : Plain item := by
  unfold trackSections at h
  split at h
  · rcases List.mem_append.mp h with hsink | hnotice
    · split at hsink
      · rw [List.mem_singleton.mp hsink]
        exact ⟨rfl, rfl, by simp⟩
      · contradiction
    · rw [List.mem_singleton.mp hnotice]
      exact ⟨rfl, rfl, by simp⟩
  · contradiction

theorem observe_cases (request : VoiceRequest) (error description : Option Bytes) :
    (∃ sdp, request = VoiceRequest.localDescription ∧ description = some sdp ∧
      observe error description request = [notify (VoiceCallback.offer sdp)]) ∨
    ∀ item ∈ observe error description request, Plain item := by
  have hreport : ∀ message, ∀ item ∈ [reportError message], Plain item := by
    intro message item hitem
    rw [List.mem_singleton.mp hitem]
    exact Plain.report message
  cases request with
  | localDescription =>
      cases error with
      | some reason => exact Or.inr (hreport _)
      | none =>
          cases description with
          | none => exact Or.inr (hreport _)
          | some sdp => exact Or.inl ⟨sdp, rfl, rfl, rfl⟩
  | remoteDescription | iceCandidate =>
      cases error with
      | some reason => exact Or.inr (hreport _)
      | none => exact Or.inr (by simp [observe])

theorem voiceRan_of_run (h : session.run failure head = (next, pushed)) :
    VoiceRan session head next pushed := by
  cases head with
  | start =>
      rw [run] at h
      split at h
      · rw [Prod.mk.injEq] at h
        rcases h with ⟨rfl, rfl⟩
        exact VoiceRan.call (fun _ => plain_of_mem_refused) rfl (by simp [undecided])
      · split at h
        · rw [Prod.mk.injEq] at h
          rcases h with ⟨rfl, rfl⟩
          exact VoiceRan.repeated
        · rename_i hnew
          rw [Prod.mk.injEq] at h
          rcases h with ⟨rfl, rfl⟩
          rw [Bool.not_eq_true, Bool.or_eq_false_iff] at hnew
          refine VoiceRan.attempted hnew.1 ?_
          split
          · exact Or.inl rfl
          · exact Or.inr ⟨_, rfl⟩
  | createConnection =>
      cases failure with
      | some reason =>
          rw [run, Prod.mk.injEq] at h
          rcases h with ⟨rfl, rfl⟩
          exact VoiceRan.call (fun _ => plain_of_mem_refused) rfl
            fun _ => ⟨_, List.mem_cons_self⟩
      | none =>
          rw [run, Prod.mk.injEq] at h
          rcases h with ⟨rfl, rfl⟩
          exact VoiceRan.created
  | setUp connection step => exact VoiceRan.setUp step (setUpRan_of_setUp h)
  | send request connection =>
      rw [run, Prod.mk.injEq] at h
      rcases h with ⟨rfl, rfl⟩
      exact VoiceRan.sent request connection
  | startReturns result =>
      rw [run, Prod.mk.injEq] at h
      rcases h with ⟨rfl, rfl⟩
      exact VoiceRan.returned result
  | close =>
      rw [run, Prod.mk.injEq] at h
      rcases h with ⟨rfl, rfl⟩
      exact VoiceRan.closed
  | closeConnection connection =>
      rw [run, Prod.mk.injEq] at h
      rcases h with ⟨rfl, rfl⟩
      exact VoiceRan.connectionClosed connection
  | removeSink binding =>
      rw [run, Prod.mk.injEq] at h
      rcases h with ⟨rfl, rfl⟩
      exact VoiceRan.sinkRemoved binding
  | applyAnswer parseError | addRemoteCandidate parseError =>
      rw [run, Prod.mk.injEq] at h
      rcases h with ⟨rfl, rfl⟩
      exact VoiceRan.call (fun _ => plain_of_mem_ask (by simp)) rfl (by simp [undecided])
  | answered request expected error description =>
      rw [run, Prod.mk.injEq] at h
      rcases h with ⟨rfl, rfl⟩
      split
      · rcases observe_cases request error description with ⟨sdp, rfl, rfl, hsame⟩ | hplain
        · rw [hsame]
          exact VoiceRan.offered expected error sdp
        · exact VoiceRan.call hplain rfl (by simp [undecided])
      · exact VoiceRan.call (by simp) rfl (by simp [undecided])
  | setMicrophoneEnabled enabled =>
      rw [run, Prod.mk.injEq] at h
      rcases h with ⟨rfl, rfl⟩
      refine VoiceRan.passed _ _ (fun item hitem => ?_) rfl (by simp [undecided])
      rcases List.mem_map.mp hitem with ⟨track, -, rfl⟩
      exact ⟨rfl, rfl, by simp⟩
  | applyMicrophone track enabled =>
      rw [run, setEnabled, Prod.mk.injEq] at h
      rcases h with ⟨rfl, rfl⟩
      exact VoiceRan.passed _ _ (by simp) rfl (by simp [undecided])
  | onIceCandidate candidate mid =>
      rw [run, Prod.mk.injEq] at h
      rcases h with ⟨rfl, rfl⟩
      refine VoiceRan.call (fun item hitem => ?_) rfl (by simp [undecided])
      split at hitem
      · rw [List.mem_singleton.mp hitem]
        exact ⟨rfl, rfl, by simp⟩
      · contradiction
  | onTrack mid track =>
      rw [run, Prod.mk.injEq] at h
      rcases h with ⟨rfl, rfl⟩
      refine VoiceRan.call (fun item hitem => ?_) rfl (by simp [undecided])
      split at hitem
      · exact plain_of_mem_trackSections hitem
      · contradiction
  | addSink mid track =>
      rw [run, Prod.mk.injEq] at h
      rcases h with ⟨rfl, rfl⟩
      exact VoiceRan.sinkAdded mid track
  | retainSink binding =>
      rw [run] at h
      split at h
      · rename_i hretain
        rw [Prod.mk.injEq] at h
        rcases h with ⟨rfl, rfl⟩
        exact VoiceRan.sinkRetained binding hretain.1 hretain.2
      · rw [Prod.mk.injEq] at h
        rcases h with ⟨rfl, rfl⟩
        exact VoiceRan.sinkRefused binding
  | notify callback =>
      rw [run] at h
      split at h
      · rename_i hset
        rw [Prod.mk.injEq] at h
        rcases h with ⟨rfl, rfl⟩
        exact VoiceRan.told callback hset
      · rename_i hunset
        rw [Prod.mk.injEq] at h
        rcases h with ⟨rfl, rfl⟩
        exact VoiceRan.untold callback (Bool.eq_false_of_not_eq_true hunset)

/-! ## The balance of one section -/

theorem VoiceRan.balance (h : VoiceRan session head next pushed) (hle : head.holds ≤ session.live)
    (hfree : head.attempts = 1 → session.pc = none) :
    next.live + session.stored + head.holds =
      session.live + next.stored + Pool.load holds pushed := by
  have herase : ∀ resource, {resource} ≤ session.live →
      session.live.erase resource + session.stored + {resource} =
        session.live + session.stored + 0 := by
    intro resource hmem
    rw [add_right_comm, add_comm (session.live.erase resource), Multiset.singleton_add,
      Multiset.cons_erase (Multiset.singleton_le.mp hmem), add_zero]
  have hgain : ∀ resource, (resource ::ₘ session.live) + session.stored + 0 =
      session.live + session.stored + ({resource} + 0) := by
    intro resource
    rw [← Multiset.singleton_add]
    abel
  cases h with
  | repeated | sent | returned | offered | told | untold | sinkRefused => rfl
  | attempted hnew hpushed => rcases hpushed with rfl | ⟨message, rfl⟩ <;> rfl
  | created | sinkAdded => exact hgain _
  | setUp step h =>
      cases h with
      | advanced | cancelled => rfl
      | abandoned message =>
          change _ = session.live + session.stored + (0 + ({_} + (0 + 0)))
          rw [zero_add, zero_add, add_zero]
          rfl
      | installed track hopen =>
          rw [stored, hfree rfl]
          change session.live + (0 + _) + {_} = session.live + ({_} + _) + (0 + (0 + 0))
          abel
  | closed =>
      rw [Pool.load_append, Pool.load_map, Pool.load_map]
      change _ + _ + 0 = session.live + (0 + 0) +
        (Pool.load (fun binding => {VoiceResource.sink binding}) session.remoteSinks +
          Pool.load (fun connection => {VoiceResource.connection connection}) session.pc.toList)
      rw [Pool.load_singletons, Pool.load_singletons, stored]
      abel
  | connectionClosed connection => exact herase _ hle
  | sinkRemoved binding => exact herase _ hle
  | sinkRetained binding hstarted hnew =>
      rw [Pool.load_nil, add_zero, stored, stored, List.map_append, ← Multiset.coe_add, add_assoc,
        add_assoc]
      rfl
  | passed desired enabledTracks hpushed hholds hreports =>
      rw [hholds, Pool.load_eq_zero holds fun item hitem => (hpushed item hitem).holds]
      rfl

/-- A connection is created by the first attempt only. -/
theorem VoiceRan.creates_le (h : VoiceRan session head next pushed) :
    next.untried + next.connections + Pool.load creates pushed ≤
      session.untried + session.connections + head.creates := by
  cases h with
  | attempted hnew hpushed =>
      rw [untried, untried, hnew]
      rcases hpushed with rfl | ⟨message, rfl⟩ <;> simp [creates, refused, reportError]
  | created => exact (Nat.add_assoc _ _ _).ge
  | setUp step h => cases h <;> exact le_rfl
  | closed =>
      rw [load_eq_zero_of_offers creates_le_offers fun item => offers_of_mem_closing]
      exact le_rfl
  | passed desired enabledTracks hpushed hholds hreports =>
      rw [load_eq_zero_of_offers creates_le_offers fun item hitem => (hpushed item hitem).offers]
      exact Nat.le_add_right _ _
  | repeated | sent | returned | connectionClosed | sinkRemoved | sinkAdded | sinkRetained |
    sinkRefused | offered | told | untold => exact le_rfl

/-- A connection is installed by the first attempt only. -/
theorem VoiceRan.attempts_le (h : VoiceRan session head next pushed) :
    next.untried + next.pc.toList.length + Pool.load attempts pushed ≤
      session.untried + session.pc.toList.length + head.attempts := by
  cases h with
  | attempted hnew hpushed =>
      rw [untried, untried, hnew]
      rcases hpushed with rfl | ⟨message, rfl⟩ <;> simp [attempts, refused, reportError]
  | setUp step h =>
      cases h with
      | advanced => exact le_rfl
      | abandoned message => exact Nat.le_add_right _ _
      | cancelled hclosed => exact Nat.le_add_right _ _
      | installed track hopen =>
          change session.untried + 1 + 0 ≤ session.untried + _ + 1
          omega
  | closed =>
      rw [load_eq_zero_of_offers attempts_le_offers fun item => offers_of_mem_closing]
      change session.untried + 0 + 0 ≤ _
      omega
  | passed desired enabledTracks hpushed hholds hreports =>
      rw [load_eq_zero_of_offers attempts_le_offers fun item hitem => (hpushed item hitem).offers]
      exact Nat.le_add_right _ _
  | repeated | created | sent | returned | connectionClosed | sinkRemoved | sinkAdded |
    sinkRetained | sinkRefused | offered | told | untold => exact le_rfl

/-- An offer is made for the local description of the one connection only. -/
theorem VoiceRan.offers_le (h : VoiceRan session head next pushed) :
    next.untried + next.offered + Pool.load offers pushed ≤
      session.untried + session.offered + head.offers := by
  cases h with
  | attempted hnew hpushed =>
      rw [untried, untried, hnew]
      rcases hpushed with rfl | ⟨message, rfl⟩ <;>
        simp [offers, refused, reportError, VoicePeerSession.offered]
  | setUp step h =>
      cases h with
      | advanced => exact le_rfl
      | abandoned message => exact Nat.le_add_right _ _
      | cancelled hclosed => exact Nat.le_add_right _ _
      | installed track hopen => exact le_rfl
  | sent request connection =>
      cases request <;>
        simp [offers, VoicePeerSession.offered, untried, isLocalDescription, List.countP_append]
      omega
  | told callback hset =>
      cases callback <;>
        simp [offers, VoicePeerSession.offered, untried, isOffer, List.countP_append]
      omega
  | closed =>
      rw [load_eq_zero_of_offers (fun _ => le_rfl) fun item => offers_of_mem_closing]
      exact le_rfl
  | passed desired enabledTracks hpushed hholds hreports =>
      rw [load_eq_zero_of_offers (fun _ => le_rfl) fun item hitem => (hpushed item hitem).offers]
      exact Nat.le_add_right _ _
  | untold callback hunset => exact Nat.le_add_right _ _
  | repeated | created | returned | connectionClosed | sinkRemoved | sinkAdded |
    sinkRetained | sinkRefused | offered => exact le_rfl

/-! ## The flags -/

/-- A started session has a connection, and a closed one is not started. -/
structure Coherent (session : VoicePeerSession) : Prop where
  started : session.started = session.pc.isSome
  closed : session.closeRequested = true → session.started = false
  idle : session.started = false → session.remoteSinks = []
  mids : (session.remoteSinks.map RemoteSinkBinding.mid).Nodup

theorem Coherent.stored_of_closed (h : Coherent session) (hclosed : session.closeRequested = true) :
    session.stored = 0 := by
  have hstarted := h.closed hclosed
  have hpc : session.pc = none := by
    rw [h.started] at hstarted
    exact Option.isSome_eq_false_iff.mp hstarted |> Option.isNone_iff_eq_none.mp
  rw [stored, hpc, h.idle hstarted]
  rfl

theorem VoiceRan.coherent (h : VoiceRan session head next pushed) (hcoherent : Coherent session) :
    Coherent next := by
  cases h with
  | repeated | created | sent | returned | connectionClosed | sinkRemoved | sinkAdded |
    sinkRefused | offered | told | untold | attempted | passed =>
      exact ⟨hcoherent.started, hcoherent.closed, hcoherent.idle, hcoherent.mids⟩
  | setUp step h =>
      cases h with
      | advanced => exact ⟨hcoherent.started, hcoherent.closed, hcoherent.idle, hcoherent.mids⟩
      | abandoned | cancelled => exact hcoherent
      | installed track hopen =>
          refine ⟨rfl, fun hclosed => ?_, by simp, hcoherent.mids⟩
          rw [show session.closeRequested = true from hclosed] at hopen
          contradiction
  | closed => exact ⟨rfl, fun _ => rfl, fun _ => rfl, List.nodup_nil⟩
  | sinkRetained binding hstarted hnew =>
      refine ⟨hcoherent.started, hcoherent.closed, fun hidle => ?_, ?_⟩
      · rw [show session.started = false from hidle] at hstarted
        contradiction
      · rw [List.map_append, List.map_singleton, List.nodup_append]
        refine ⟨hcoherent.mids, List.nodup_singleton _, ?_⟩
        intro mid hmid other hother
        rcases List.mem_map.mp hmid with ⟨old, hold, rfl⟩
        rw [List.mem_singleton.mp hother]
        exact hnew old hold

/-- The session is started, or was closed. -/
def Served (session : VoicePeerSession) : Prop :=
  session.started = true ∨ session.closeRequested = true

theorem VoiceRan.served (h : VoiceRan session head next pushed) (hserved : session.Served) :
    next.Served := by
  cases h with
  | setUp step h =>
      cases h with
      | installed track hopen => exact Or.inl rfl
      | advanced | abandoned | cancelled => exact hserved
  | closed => exact Or.inr rfl
  | repeated | created | sent | returned | connectionClosed | sinkRemoved | sinkAdded |
    sinkRetained | sinkRefused | offered | told | untold | attempted | passed => exact hserved

/-- `start` says that it succeeded when the session is served. -/
theorem VoiceRan.served_of_returns (h : VoiceRan session head next pushed)
    (hreturns : startReturns true ∈ pushed) : next.Served := by
  cases h with
  | repeated =>
      rw [List.mem_singleton, startReturns.injEq] at hreturns
      exact Or.inl hreturns.symm
  | attempted hnew hpushed =>
      rcases hpushed with rfl | ⟨message, rfl⟩
      · simp at hreturns
      · exact absurd rfl (plain_of_mem_refused hreturns).fails
  | setUp step h =>
      cases h with
      | installed track hopen => exact Or.inl rfl
      | advanced | abandoned | cancelled => simp [abandoned, advanced, reportError] at hreturns
  | closed => exact Or.inr rfl
  | passed desired enabledTracks hpushed hholds hreports =>
      exact absurd rfl (hpushed _ hreturns).fails
  | created | sent | returned | connectionClosed | sinkRemoved | sinkAdded | sinkRetained |
    sinkRefused | offered | told | untold => simp [advanced] at hreturns

theorem VoiceRan.mem_startResults (h : VoiceRan session head next pushed) {result : Bool}
    (hresult : result ∈ next.startResults) :
    result ∈ session.startResults ∨ head = startReturns result := by
  cases h with
  | returned other =>
      rcases List.mem_append.mp hresult with hold | hnew
      · exact Or.inl hold
      · rw [List.mem_singleton.mp hnew]
        exact Or.inr rfl
  | setUp step h => cases h <;> exact Or.inl hresult
  | repeated | created | sent | connectionClosed | sinkRemoved | sinkAdded | sinkRetained |
    sinkRefused | offered | told | untold | attempted | passed | closed => exact Or.inl hresult

theorem VoiceRan.callbacks_eq (h : VoiceRan session head next pushed) :
    next.callbacks = session.callbacks := by
  cases h with
  | setUp step h => cases h <;> rfl
  | repeated | created | sent | returned | connectionClosed | sinkRemoved | sinkAdded |
    sinkRetained | sinkRefused | offered | told | untold | attempted | passed | closed => rfl

theorem VoiceRan.reported (h : VoiceRan session head next pushed) (hreported : session.Reported) :
    next.Reported := by
  rcases hreported with ⟨message, hmem⟩
  refine ⟨message, ?_⟩
  cases h with
  | setUp step h => cases h <;> exact hmem
  | told callback hset => exact List.mem_append_left _ hmem
  | repeated | created | sent | returned | connectionClosed | sinkRemoved | sinkAdded |
    sinkRetained | sinkRefused | offered | untold | attempted | passed | closed => exact hmem

/-- An undecided start is decided, reported or left to the sections called for. -/
theorem VoiceRan.decided (h : VoiceRan session head next pushed)
    (hhead : head.undecided = true) :
    next.Served ∨ pushed.any undecided = true ∨
      (next.callbacks.onError = true → next.Reported) := by
  cases h with
  | created => exact Or.inr (Or.inl rfl)
  | setUp step h =>
      cases h with
      | advanced | abandoned => exact Or.inr (Or.inl rfl)
      | cancelled hclosed => exact Or.inl (Or.inr hclosed)
      | installed => exact Or.inl (Or.inl rfl)
  | told callback hset =>
      cases callback with
      | error message =>
          refine Or.inr (Or.inr fun _ => ⟨message, ?_⟩)
          exact List.mem_append_right _ (List.mem_singleton_self _)
      | offer | candidate | remoteTrack => contradiction
  | untold callback hunset =>
      cases callback with
      | error message =>
          refine Or.inr (Or.inr fun hset => ?_)
          rw [show session.callbacks.onError = false from hunset] at hset
          contradiction
      | offer | candidate | remoteTrack => contradiction
  | passed desired enabledTracks hpushed hholds hreports =>
      rcases hreports hhead with ⟨message, hmem⟩
      exact Or.inr (Or.inl (List.any_eq_true.mpr ⟨_, hmem, rfl⟩))
  | repeated | sent | returned | connectionClosed | sinkRemoved | sinkAdded | sinkRetained |
    sinkRefused | offered | attempted | closed => contradiction

/-- The attempt begins with a section that will decide it. -/
theorem VoiceRan.startAttempted (h : VoiceRan session head next pushed)
    (hattempted : next.startAttempted = true) :
    session.startAttempted = true ∨ pushed.any undecided = true := by
  cases h with
  | attempted hnew hpushed =>
      rcases hpushed with rfl | ⟨message, rfl⟩
      · exact Or.inr rfl
      · exact Or.inr rfl
  | setUp step h => cases h <;> exact Or.inl hattempted
  | repeated | created | sent | returned | connectionClosed | sinkRemoved | sinkAdded |
    sinkRetained | sinkRefused | offered | told | untold | passed | closed =>
      exact Or.inl hattempted

end VoicePeerSession

/-! ## All interleavings -/

namespace VoicePeerSystem

open VoicePeerSection VoicePeerSession

variable {system next : VoicePeerSystem} {action : VoicePeerAction}

/-- What one action can do. -/
inductive VoiceActed (system : VoicePeerSystem) : VoicePeerSystem → Prop
  | called (item : VoicePeerSection) (hcall : ∃ call, item = VoicePeerCall.body call) :
      VoiceActed system (system.spawn item)
  | answered (request : VoiceRequest) (connection : Nat) (error description : Option Bytes)
      (hawaiting : (request, connection) ∈ system.session.awaiting) :
      VoiceActed system
        { system.spawn (VoicePeerSection.answered request connection error description) with
          session :=
            { system.session with
              awaiting := system.session.awaiting.erase (request, connection) } }
  | ran (index : Nat) (head : VoicePeerSection) (rest : List VoicePeerSection)
      (session : VoicePeerSession) (pushed : List VoicePeerSection)
      (hhead : system.threads[index]? = some (head :: rest))
      (hran : VoiceRan system.session head session pushed) :
      VoiceActed system
        { session := session, threads := system.threads.set index (pushed ++ rest) }

theorem voiceActed_of_act (h : system.act action = some next) : VoiceActed system next := by
  cases action with
  | call call =>
      rw [act, Option.some.injEq] at h
      rw [← h]
      exact VoiceActed.called _ ⟨call, rfl⟩
  | answer request connection error description =>
      simp only [act, Option.ite_none_right_eq_some, Option.some.injEq] at h
      rcases h with ⟨hawaiting, rfl⟩
      exact VoiceActed.answered request connection error description hawaiting
  | run index failure =>
      simp only [act] at h
      split at h
      · rename_i head rest hhead
        rw [Option.some.injEq] at h
        rw [← h]
        exact VoiceActed.ran index head rest _ _ hhead (voiceRan_of_run rfl)
      · contradiction

/-- The invariant of all interleavings. -/
structure Sound (system : VoicePeerSystem) : Prop where
  coherent : Coherent system.session
  custody : InCustody holds system.session.live system.session.stored system.threads
  created : system.session.untried + system.session.connections +
    Pool.total creates system.threads ≤ 1
  attempted : system.session.untried + system.session.pc.toList.length +
    Pool.total attempts system.threads ≤ 1
  offered : system.session.untried + system.session.offered +
    Pool.total offers system.threads ≤ 1
  returned : true ∈ system.session.startResults ∨
    Pool.Pending system.threads (startReturns true) → system.session.Served
  decided : system.session.startAttempted = true → system.session.Served ∨
    Pool.Owes undecided system.threads ∨
      (system.session.callbacks.onError = true → system.session.Reported)

theorem Sound.initial (h : Initial system) : Sound system := by
  rcases h with ⟨config, callbacks, runtimeReady, rfl⟩
  refine ⟨⟨rfl, by simp [create], fun _ => rfl, List.nodup_nil⟩, InCustody.empty holds, le_rfl,
    le_rfl, le_rfl, fun h => ?_, by simp [create]⟩
  rcases h with hresult | ⟨thread, hthread, -⟩
  · exact absurd hresult List.not_mem_nil
  · exact absurd hthread List.not_mem_nil

theorem Sound.call (h : Sound system) (call : VoicePeerCall) : Sound (system.spawn call.body) := by
  have hplain : call.body.holds = 0 ∧ call.body.offers = 0 ∧ call.body ≠ startReturns true := by
    cases call <;> exact ⟨rfl, rfl, by simp [VoicePeerCall.body]⟩
  have hload : ∀ weight : VoicePeerSection → Nat, (∀ item, weight item ≤ item.offers) →
      Pool.total weight (system.threads ++ [[call.body]]) = Pool.total weight system.threads := by
    intro weight hle
    rw [Pool.total_spawn, load_eq_zero_of_offers hle, Nat.add_zero]
    intro item hitem
    rw [List.mem_singleton.mp hitem]
    exact hplain.2.1
  refine ⟨h.coherent, h.custody.spawn ?_, ?_, ?_, ?_, fun hreturned => ?_, fun hattempted => ?_⟩
  · rw [Pool.load_cons, hplain.1, Pool.load_nil, add_zero]
  · exact (congrArg _ (hload _ creates_le_offers)).trans_le h.created
  · exact (congrArg _ (hload _ attempts_le_offers)).trans_le h.attempted
  · exact (congrArg _ (hload _ fun _ => le_rfl)).trans_le h.offered
  · refine h.returned (hreturned.imp_right fun hpending => ?_)
    rcases Pool.pending_of_spawn hpending with hold | hnew
    · exact hold
    · exact absurd (List.mem_singleton.mp hnew).symm hplain.2.2
  · exact (h.decided hattempted).imp_right fun hdue => hdue.imp_left fun howes => howes.spawn _

theorem Sound.answer (h : Sound system) {request : VoiceRequest} {connection : Nat}
    (hawaiting : (request, connection) ∈ system.session.awaiting)
    (error description : Option Bytes) :
    Sound { system.spawn (answered request connection error description) with
      session :=
        { system.session with
          awaiting := system.session.awaiting.erase (request, connection) } } := by
  have hoffers : system.session.offered =
      system.session.notified.countP isOffer +
        (system.session.awaiting.erase (request, connection)).countP isLocalDescription +
          (answered request connection error description).offers := by
    have hperm := (List.perm_cons_erase hawaiting).countP_eq isLocalDescription
    rw [VoicePeerSession.offered, hperm, List.countP_cons, ← Nat.add_assoc]
    cases request <;> rfl
  refine ⟨⟨h.coherent.started, h.coherent.closed, h.coherent.idle, h.coherent.mids⟩,
    h.custody.spawn rfl, ?_, ?_, ?_, fun hreturned => ?_, fun hattempted => ?_⟩
  · exact (congrArg _ (Pool.total_spawn _ _ _)).trans_le h.created
  · exact (congrArg _ (Pool.total_spawn _ _ _)).trans_le h.attempted
  · have hold := h.offered
    rw [hoffers] at hold
    change system.session.untried + (system.session.notified.countP isOffer +
      (system.session.awaiting.erase (request, connection)).countP isLocalDescription) +
        Pool.total offers (system.threads ++ [[_]]) ≤ 1
    rw [Pool.total_spawn, Pool.load_cons, Pool.load_nil]
    omega
  · refine h.returned (hreturned.imp_right fun hpending => ?_)
    rcases Pool.pending_of_spawn hpending with hold | hnew
    · exact hold
    · exact absurd (List.mem_singleton.mp hnew) (by simp)
  · exact (h.decided hattempted).imp_right fun hdue => hdue.imp_left fun howes => howes.spawn _

theorem Sound.run (h : Sound system) {index : Nat} {head : VoicePeerSection}
    {rest pushed : List VoicePeerSection} {session : VoicePeerSession}
    (hhead : system.threads[index]? = some (head :: rest))
    (hran : VoiceRan system.session head session pushed) :
    Sound { session := session, threads := system.threads.set index (pushed ++ rest) } := by
  have hfree : head.attempts = 1 → system.session.pc = none := by
    intro hone
    have htotal := Pool.total_run attempts hhead []
    have hle := h.attempted
    rw [Pool.load_nil] at htotal
    have hlength : system.session.pc.toList.length = 0 := by omega
    exact Option.toList_eq_nil_iff.mp (List.length_eq_zero_iff.mp hlength)
  have hbudget : ∀ (weight : VoicePeerSection → Nat) (own own' : Nat),
      own' + Pool.load weight pushed ≤ own + weight head →
        own + Pool.total weight system.threads ≤ 1 →
          own' + Pool.total weight (system.threads.set index (pushed ++ rest)) ≤ 1 := by
    intro weight own own' hstep hle
    have htotal := Pool.total_run weight hhead pushed
    omega
  refine ⟨hran.coherent h.coherent,
    h.custody.run hhead (hran.balance (h.custody.le_live hhead) hfree),
    hbudget _ _ _ hran.creates_le h.created, hbudget _ _ _ hran.attempts_le h.attempted,
    hbudget _ _ _ hran.offers_le h.offered, fun hreturned => ?_, fun hattempted => ?_⟩
  · rcases hreturned with hresult | hpending
    · rcases hran.mem_startResults hresult with hold | rfl
      · exact hran.served (h.returned (Or.inl hold))
      · exact hran.served (h.returned (Or.inr (Pool.pending_head hhead)))
    · rcases Pool.pending_of_run hhead hpending with hold | hnew
      · exact hran.served (h.returned (Or.inr hold))
      · exact hran.served_of_returns hnew
  · rcases hran.startAttempted hattempted with hold | hnew
    · rcases h.decided hold with hserved | howes | hreported
      · exact Or.inl (hran.served hserved)
      · cases hundecided : head.undecided with
        | false =>
            refine Or.inr (Or.inl (howes.run hhead fun hcontra => ?_))
            rw [hundecided] at hcontra
            contradiction
        | true =>
            exact (hran.decided hundecided).imp_right fun hdue =>
              hdue.imp_left fun hpushed => Pool.owes_pushed hhead hpushed
      · refine Or.inr (Or.inr fun hset => hran.reported (hreported ?_))
        rwa [← hran.callbacks_eq]
    · exact Or.inr (Or.inl (Pool.owes_pushed hhead hnew))

/-- The invariant holds in all interleavings. -/
theorem sound_of_reachable (h : Reachable Initial Step system) : Sound system := by
  refine Reachable.invariant (fun _ => Sound.initial) ?_ h
  intro system next _ hsound hstep
  rcases hstep with ⟨action, hact⟩
  cases voiceActed_of_act hact with
  | called item hcall =>
      rcases hcall with ⟨call, rfl⟩
      exact hsound.call call
  | answered request connection error description hawaiting =>
      exact hsound.answer hawaiting error description
  | ran index head rest session pushed hhead hran => exact hsound.run hhead hran

/-- The invariant for an observer: one connection and one offer at most, and every mid has
one sink.  Once all calls have returned, what is open or registered is what the session
keeps, which is nothing after a `close`; a start that succeeded has left a connection or was
followed by a `close`, and one that failed has reported it. -/
theorem nothing_leaks_of_reachable (h : Reachable Initial Step system) :
    system.session.connections ≤ 1 ∧ system.session.notified.countP isOffer ≤ 1 ∧
      (system.session.remoteSinks.map RemoteSinkBinding.mid).Nodup ∧
      (Pool.Quiet system.threads →
        system.session.live = system.session.stored ∧
        (system.session.closeRequested = true → system.session.live = 0) ∧
        (true ∈ system.session.startResults → system.session.closeRequested = false →
          system.session.pc.isSome = true) ∧
        (system.session.startAttempted = true → system.session.closeRequested = false →
          system.session.callbacks.onError = true → system.session.pc = none →
            system.session.Reported)) := by
  have hsound := sound_of_reachable h
  have hoffered := hsound.offered
  have hcreated := hsound.created
  rw [VoicePeerSession.offered] at hoffered
  refine ⟨by omega, by omega, hsound.coherent.mids, fun hquiet => ?_⟩
  have hlive := hsound.custody.live_eq_stored hquiet
  refine ⟨hlive, fun hclosed => ?_, fun hresult hopen => ?_, fun hattempted hopen hset hpc => ?_⟩
  · rw [hlive, hsound.coherent.stored_of_closed hclosed]
  · rcases hsound.returned (Or.inl hresult) with hstarted | hclosed
    · rw [← hsound.coherent.started, hstarted]
    · rw [hopen] at hclosed
      contradiction
  · rcases hsound.decided hattempted with hserved | howes | hreported
    · rcases hserved with hstarted | hclosed
      · rw [hsound.coherent.started, hpc] at hstarted
        contradiction
      · rw [hopen] at hclosed
        contradiction
    · exact absurd howes hquiet.not_owes
    · exact hreported hset

/-- Run a call as the next thread, in full. -/
def calling (index steps : Nat) (call : VoicePeerCall) : List VoicePeerAction :=
  VoicePeerAction.call call :: List.replicate steps (VoicePeerAction.run index none)

/-- A new session with one receive slot. -/
def newSystem : VoicePeerSystem where
  session := VoicePeerSession.create { remoteTrackSlots := 1 } {} true
  threads := []

/-- The session makes its offer; then it is closed while the sink of a track is added. -/
def closedSystem : VoicePeerSystem :=
  (execute (fun _ _ => True) act newSystem
    (calling 0 12 VoicePeerCall.start ++
      [VoicePeerAction.answer VoiceRequest.localDescription 0 none (some (text "v=0"))] ++
        List.replicate 2 (VoicePeerAction.run 1 none) ++
          calling 2 2 (VoicePeerCall.onTrack (some (text "1")) (some (0, text "alice"))) ++
            calling 3 2 VoicePeerCall.close ++
              List.replicate 3 (VoicePeerAction.run 2 none))).getD newSystem

theorem closedSystem_leaks_nothing :
    closedSystem.session.notified.countP isOffer = 1 ∧ closedSystem.session.sinks = 1 ∧
      Pool.Quiet closedSystem.threads ∧ closedSystem.session.live = 0 := by
  refine ⟨by decide +kernel, by decide +kernel, by decide +kernel, ?_⟩
  have hreach : Reachable Initial Step closedSystem :=
    Reachable.execute (fun _ action _ _ hact => ⟨action, hact⟩)
      (Reachable.start ⟨{ remoteTrackSlots := 1 }, {}, true, rfl⟩)
      (execute_eq_some_getD (by decide +kernel))
  exact ((nothing_leaks_of_reachable hreach).2.2.2 (by decide +kernel)).2.1 (by decide +kernel)

end VoicePeerSystem

end Client
end Driscord
