import Driscord.Client.ScreenSharing

/-!
# Stopping to share is final, as far as the recovery worker allows

Two sections of the code can break the promise.  `recover_screen_session` may
resume sharing from its copy of a request that the user has withdrawn since, and
`stop_screen_session` may clear an active share that the server still lists.
In runs without these two the desktop is captured only as long as the user
wants, and the server agrees.

Main results:

- Theorem `Facts.run`: what every section keeps.
- Theorem `sharing_is_final`: the promise, for all careful runs.
- Theorem `recovery_resumes_stopped_share`: a run in which the recovery worker
  shares the screen after the user has stopped, and one in which it drops a share
  that the server goes on listing.
-/

namespace Driscord
namespace Client

open Library Pool ScreenSection

/-! ## What the server has been told -/

namespace ScreenClient

theorem told_send_of_connected {client : ScreenClient} (h : client.connected = true)
    (message : StreamingMessage) :
    (client.send message).told = decide (message = StreamingMessage.streamingStart) := by
  simp [send, told, h]

@[simp]
theorem connected_send (client : ScreenClient) (message : StreamingMessage) :
    (client.send message).connected = client.connected := by
  unfold send
  split <;> rfl

@[simp]
theorem sharingActive_send (client : ScreenClient) (message : StreamingMessage) :
    (client.send message).sharingActive = client.sharingActive := by
  unfold send
  split <;> rfl

@[simp]
theorem sharingRequest_send (client : ScreenClient) (message : StreamingMessage) :
    (client.send message).sharingRequest = client.sharingRequest := by
  unfold send
  split <;> rfl

@[simp]
theorem sharingMutex_send (client : ScreenClient) (message : StreamingMessage) :
    (client.send message).sharingMutex = client.sharingMutex := by
  unfold send
  split <;> rfl

@[simp]
theorem screenSession_send (client : ScreenClient) (message : StreamingMessage) :
    (client.send message).screenSession = client.screenSession := by
  unfold send
  split <;> rfl

end ScreenClient

/-! ## Promises -/

/-- After these events a `start_sharing` call has returned true and no stop was
begun since. -/
def wanted (history : List SharingEvent) : Prop :=
  ∃ before after, history = before ++ SharingEvent.startReturned :: after ∧
    SharingEvent.stopBegun ∉ after

theorem wanted_startReturned (history : List SharingEvent) :
    wanted (history ++ [SharingEvent.startReturned]) :=
  ⟨history, [], rfl, List.not_mem_nil⟩

/-! ## The facts that careful runs keep -/

/-- How sharing, the promises and the pending sections hang together.  An active
share is wanted, or a stop is pending, or its `start_sharing` call is about to
return; a recorded request is wanted or a stop is pending.  While connected the
server's knowledge differs from `sharing_active` only if a section that repairs
it is pending. -/
structure Facts (client : ScreenClient) (wanted : Prop) (pending : ScreenSection → Prop) :
    Prop where
  active : client.sharingActive = true → wanted ∨ pending clearSharing ∨
    ∃ request, pending (announceStart Origin.startSharing request) ∨
      pending (recordRequest request)
  request : client.sharingRequest ≠ none → wanted ∨ pending clearSharing
  announced : client.connected = true → client.sharingActive = true → client.told = false →
    (∃ origin request, pending (announceStart origin request)) ∨ pending clearSession
  retracted : client.connected = true → client.sharingActive = false → client.told = true →
    pending (announceStop true)
  sharing : ∀ origin request, pending (announceStart origin request) →
    client.sharingActive = true
  stopped : ∀ wasSharing, pending (announceStop wasSharing) → client.sharingActive = false
  session : client.sharingActive = true → client.screenSession ≠ none
  handler : client.connected = false → client.screenSession ≠ none → pending clearSession

/-- The sections that the facts speak of. -/
def Marker : ScreenSection → Prop
  | announceStart _ _ | announceStop _ | clearSession | clearSharing | recordRequest _ => True
  | _ => False

/-- The two announcing sections. -/
def Announcing : ScreenSection → Prop
  | announceStart _ _ | announceStop _ => True
  | _ => False

/-- A step that leaves alone what the facts speak of, or begins a stop. -/
theorem Facts.calm {client client' : ScreenClient} {wanted wanted' : Prop}
    {pending pending' : ScreenSection → Prop} (h : Facts client wanted pending)
    (hactive : client'.sharingActive = client.sharingActive)
    (hrequest : client'.sharingRequest ≠ none → client.sharingRequest ≠ none)
    (hconnected : client'.connected = client.connected) (htold : client'.told = client.told)
    (hsession : client'.screenSession = client.screenSession)
    (hkeep : ∀ item, Marker item → pending item → pending' item)
    (hback : ∀ item, Announcing item → pending' item → pending item)
    (hwanted : wanted → wanted' ∨ pending' clearSharing) : Facts client' wanted' pending' where
  active hshared := by
    rw [hactive] at hshared
    rcases h.active hshared with hw | hstop | ⟨request, hstart | hrecord⟩
    · exact (hwanted hw).imp_right Or.inl
    · exact Or.inr (Or.inl (hkeep _ trivial hstop))
    · exact Or.inr (Or.inr ⟨request, Or.inl (hkeep _ trivial hstart)⟩)
    · exact Or.inr (Or.inr ⟨request, Or.inr (hkeep _ trivial hrecord)⟩)
  request hset := by
    rcases h.request (hrequest hset) with hw | hstop
    · exact hwanted hw
    · exact Or.inr (hkeep _ trivial hstop)
  announced hconn hshared hsilent := by
    rw [hconnected] at hconn
    rw [hactive] at hshared
    rw [htold] at hsilent
    rcases h.announced hconn hshared hsilent with ⟨origin, request, hstart⟩ | hclear
    · exact Or.inl ⟨origin, request, hkeep _ trivial hstart⟩
    · exact Or.inr (hkeep _ trivial hclear)
  retracted hconn hshared hsaid := by
    rw [hconnected] at hconn
    rw [hactive] at hshared
    rw [htold] at hsaid
    exact hkeep _ trivial (h.retracted hconn hshared hsaid)
  sharing origin request hstart := by
    rw [hactive]
    exact h.sharing origin request (hback _ trivial hstart)
  stopped wasSharing hstop := by
    rw [hactive]
    exact h.stopped wasSharing (hback _ trivial hstop)
  session hshared := by
    rw [hactive] at hshared
    rw [hsession]
    exact h.session hshared
  handler hconn hthere := by
    rw [hconnected] at hconn
    rw [hsession] at hthere
    exact hkeep _ trivial (h.handler hconn hthere)

/-! ## Sections that matter -/

section

variable {client client' : ScreenClient} {wanted : Prop}
variable {pending pending' : ScreenSection → Prop}
variable (h : Facts client wanted pending)
include h

/-- `apply_sharing` commits: its announcement is pending.  A recovery commits only
while a request is recorded. -/
theorem Facts.sharingCommitted {origin : Origin} {request : SharingRequest} {session : SessionId}
    (hcommits : client.commits session = true)
    (hcareful : origin = Origin.recovery → client.sharingRequest ≠ none)
    (hfree : ∀ wasSharing, ¬ pending (announceStop wasSharing))
    (hkeep : ∀ item, Marker item → pending item → pending' item)
    (hback : ∀ item, pending' item → pending item ∨ item = announceStart origin request)
    (hpushed : pending' (announceStart origin request)) :
    Facts { client with sharingActive := true } wanted pending' where
  active _ := by
    cases origin with
    | startSharing => exact Or.inr (Or.inr ⟨request, Or.inl hpushed⟩)
    | recovery =>
        rcases h.request (hcareful rfl) with hw | hstop
        · exact Or.inl hw
        · exact Or.inr (Or.inl (hkeep _ trivial hstop))
  request hset := (h.request hset).imp_right (hkeep _ trivial)
  announced _ _ _ := Or.inl ⟨origin, request, hpushed⟩
  retracted _ hshared := by simp at hshared
  sharing _ _ _ := rfl
  stopped wasSharing hstop := by
    rcases hback _ hstop with hold | hnew
    · exact absurd hold (hfree wasSharing)
    · simp at hnew
  session _ := by
    simp only [ScreenClient.commits, Bool.and_eq_true, decide_eq_true_eq] at hcommits
    simp [hcommits.2]
  handler hconn hthere := hkeep _ trivial (h.handler hconn hthere)

/-- The announcement is made, or lost with the connection. -/
theorem Facts.startAnnounced {origin : Origin} {request : SharingRequest}
    (hactive : client'.sharingActive = client.sharingActive)
    (hrequest : client'.sharingRequest = client.sharingRequest)
    (hconnected : client'.connected = client.connected)
    (hsession : client'.screenSession = client.screenSession)
    (htold : client.connected = true → client'.told = true)
    (hpending : pending (announceStart origin request))
    (hkeep : ∀ item, Marker item → item ≠ announceStart origin request →
      pending item → pending' item)
    (hback : ∀ item, Announcing item → pending' item → pending item)
    (hpushed : origin = Origin.startSharing → pending' (recordRequest request)) :
    Facts client' wanted pending' := by
  have hshared := h.sharing origin request hpending
  refine ⟨?_, ?_, ?_, ?_, ?_, ?_, ?_, ?_⟩
  · intro _
    rcases h.active hshared with hw | hstop | ⟨other, hstart | hrecord⟩
    · exact Or.inl hw
    · exact Or.inr (Or.inl (hkeep _ trivial (by simp) hstop))
    · by_cases hsame : announceStart Origin.startSharing other =
        announceStart origin request
      · injection hsame with horigin
        exact Or.inr (Or.inr ⟨request, Or.inr (hpushed horigin.symm)⟩)
      · exact Or.inr (Or.inr ⟨other, Or.inl (hkeep _ trivial hsame hstart)⟩)
    · exact Or.inr (Or.inr ⟨other, Or.inr (hkeep _ trivial (by simp) hrecord)⟩)
  · intro hset
    rw [hrequest] at hset
    exact (h.request hset).imp_right (hkeep _ trivial (by simp))
  · intro hconn _ hsilent
    rw [hconnected] at hconn
    rw [htold hconn] at hsilent
    contradiction
  · intro _ hstill
    rw [hactive, hshared] at hstill
    contradiction
  · intro _ _ _
    rw [hactive, hshared]
  · intro wasSharing hstop
    have hstill := h.stopped wasSharing (hback _ trivial hstop)
    rw [hshared] at hstill
    contradiction
  · intro _
    rw [hsession]
    exact h.session hshared
  · intro hconn hthere
    rw [hconnected] at hconn
    rw [hsession] at hthere
    exact hkeep _ trivial (by simp) (h.handler hconn hthere)

/-- `start_sharing` records its request and returns true. -/
theorem Facts.requestRecorded {wanted' : Prop} (hwanted : wanted') {request : SharingRequest}
    (hkeep : ∀ item, Marker item → item ≠ recordRequest request →
      pending item → pending' item)
    (hback : ∀ item, Announcing item → pending' item → pending item) :
    Facts { client with sharingRequest := some request } wanted' pending' where
  active _ := Or.inl hwanted
  request _ := Or.inl hwanted
  announced hconn hshared hsilent := by
    rcases h.announced hconn hshared hsilent with ⟨origin, other, hstart⟩ | hclear
    · exact Or.inl ⟨origin, other, hkeep _ trivial (by simp) hstart⟩
    · exact Or.inr (hkeep _ trivial (by simp) hclear)
  retracted hconn hshared hsaid :=
    hkeep _ trivial (by simp) (h.retracted hconn hshared hsaid)
  sharing origin other hstart := h.sharing origin other (hback _ trivial hstart)
  stopped wasSharing hstop := h.stopped wasSharing (hback _ trivial hstop)
  session := h.session
  handler hconn hthere := hkeep _ trivial (by simp) (h.handler hconn hthere)

/-- `stop_sharing` clears the state; if sharing was active the retraction is
pending. -/
theorem Facts.sharingCleared {self : Nat}
    (hfree : ∀ origin request, ¬ pending (announceStart origin request))
    (hkeep : ∀ item, Marker item → item ≠ clearSharing →
      pending item → pending' item)
    (hback : ∀ item, pending' item → pending item ∨
      item = announceStop client.sharingActive)
    (hpushed : pending' (announceStop client.sharingActive)) :
    Facts { client with
        sharingMutex := some self
        sharingActive := false
        sharingRequest := none } wanted pending' where
  active hshared := by simp at hshared
  request hset := by simp at hset
  announced _ hshared := by simp at hshared
  retracted hconn _ hsaid := by
    by_cases hshared : client.sharingActive = true
    · rw [hshared] at hpushed
      exact hpushed
    · exact hkeep _ trivial (by simp)
        (h.retracted hconn (by simpa using hshared) hsaid)
  sharing origin request hstart := by
    rcases hback _ hstart with hold | hnew
    · exact absurd hold (hfree origin request)
    · simp at hnew
  stopped _ _ := rfl
  session hshared := by simp at hshared
  handler hconn hthere := hkeep _ trivial (by simp) (h.handler hconn hthere)

/-- The retraction is made, or lost with the connection. -/
theorem Facts.stopAnnounced {wasSharing : Bool}
    (hactive : client'.sharingActive = client.sharingActive)
    (hrequest : client'.sharingRequest = client.sharingRequest)
    (hconnected : client'.connected = client.connected)
    (hsession : client'.screenSession = client.screenSession)
    (htold : client.connected = true → wasSharing = true → client'.told = false)
    (hsilent : wasSharing = false → client'.told = client.told)
    (hpending : pending (announceStop wasSharing))
    (hkeep : ∀ item, Marker item → item ≠ announceStop wasSharing →
      pending item → pending' item)
    (hback : ∀ item, Announcing item → pending' item → pending item) :
    Facts client' wanted pending' := by
  have hstopped := h.stopped wasSharing hpending
  refine ⟨?_, ?_, ?_, ?_, ?_, ?_, ?_, ?_⟩
  · intro hshared
    rw [hactive, hstopped] at hshared
    contradiction
  · intro hset
    rw [hrequest] at hset
    exact (h.request hset).imp_right (hkeep _ trivial (by simp))
  · intro _ hshared
    rw [hactive, hstopped] at hshared
    contradiction
  · intro hconn _ hsaid
    rw [hconnected] at hconn
    cases wasSharing with
    | true =>
        rw [htold hconn rfl] at hsaid
        contradiction
    | false =>
        rw [hsilent rfl] at hsaid
        exact hkeep _ trivial (by simp) (h.retracted hconn hstopped hsaid)
  · intro origin request hstart
    have hshared := h.sharing origin request (hback _ trivial hstart)
    rw [hstopped] at hshared
    contradiction
  · intro _ _
    rw [hactive, hstopped]
  · intro hshared
    rw [hactive, hstopped] at hshared
    contradiction
  · intro hconn hthere
    rw [hconnected] at hconn
    rw [hsession] at hthere
    exact hkeep _ trivial (by simp) (h.handler hconn hthere)

/-- `stop_screen_session` clears the state.  While connected it must not clear an
active share that the server lists. -/
theorem Facts.sessionCleared {self : Nat}
    (hcareful : client.connected = true → client.sharingActive = true → client.told = false)
    (hfree : ∀ origin request, ¬ pending (announceStart origin request))
    (hkeep : ∀ item, Marker item → item ≠ clearSession →
      pending item → pending' item)
    (hback : ∀ item, Announcing item → pending' item → pending item) :
    Facts { client with
        screenLifecycleMutex := some self
        sharingMutex := some self
        screenSession := none
        sharingActive := false } wanted pending' where
  active hshared := by simp at hshared
  request hset := (h.request hset).imp_right (hkeep _ trivial (by simp))
  announced _ hshared := by simp at hshared
  retracted hconn _ hsaid := by
    by_cases hshared : client.sharingActive = true
    · have hsilent := hcareful hconn hshared
      have hsame : client.told = true := hsaid
      rw [hsilent] at hsame
      contradiction
    · exact hkeep _ trivial (by simp)
        (h.retracted hconn (by simpa using hshared) hsaid)
  sharing origin request hstart := by
    have hold := hback (announceStart origin request) trivial hstart
    exact absurd hold (hfree origin request)
  stopped _ _ := rfl
  session hshared := by simp at hshared
  handler _ hthere := by simp at hthere

/-- A new session is kept while connected. -/
theorem Facts.sessionRetained (hconn : client.connected = true)
    (hkeep : ∀ item, Marker item → pending item → pending' item)
    (hback : ∀ item, Announcing item → pending' item → pending item) :
    Facts { client with
        screenSession := some client.nextSession
        nextSession := client.nextSession + 1
        screenLifecycleMutex := none } wanted pending' where
  active hshared := by
    rcases h.active hshared with hw | hstop | ⟨request, hstart | hrecord⟩
    · exact Or.inl hw
    · exact Or.inr (Or.inl (hkeep _ trivial hstop))
    · exact Or.inr (Or.inr ⟨request, Or.inl (hkeep _ trivial hstart)⟩)
    · exact Or.inr (Or.inr ⟨request, Or.inr (hkeep _ trivial hrecord)⟩)
  request hset := (h.request hset).imp_right (hkeep _ trivial)
  announced hconn hshared hsilent := by
    rcases h.announced hconn hshared hsilent with ⟨origin, request, hstart⟩ | hclear
    · exact Or.inl ⟨origin, request, hkeep _ trivial hstart⟩
    · exact Or.inr (hkeep _ trivial hclear)
  retracted hconn hshared hsaid := hkeep _ trivial (h.retracted hconn hshared hsaid)
  sharing origin request hstart := h.sharing origin request (hback _ trivial hstart)
  stopped wasSharing hstop := h.stopped wasSharing (hback _ trivial hstop)
  session _ := by simp
  handler hdisconnected _ := by
    rw [hconn] at hdisconnected
    contradiction

/-- The recovery worker retracts the share; its `stop_screen_session` is still to
come. -/
theorem Facts.sharingRetracted (hclear : pending' clearSession)
    (hkeep : ∀ item, Marker item → pending item → pending' item)
    (hback : ∀ item, Announcing item → pending' item → pending item) :
    Facts (client.send StreamingMessage.streamingStop) wanted pending' where
  active hshared := by
    rw [ScreenClient.sharingActive_send] at hshared
    rcases h.active hshared with hw | hstop | ⟨request, hstart | hrecord⟩
    · exact Or.inl hw
    · exact Or.inr (Or.inl (hkeep _ trivial hstop))
    · exact Or.inr (Or.inr ⟨request, Or.inl (hkeep _ trivial hstart)⟩)
    · exact Or.inr (Or.inr ⟨request, Or.inr (hkeep _ trivial hrecord)⟩)
  request hset := by
    rw [ScreenClient.sharingRequest_send] at hset
    exact (h.request hset).imp_right (hkeep _ trivial)
  announced _ _ _ := Or.inr hclear
  retracted hconn _ hsaid := by
    rw [ScreenClient.connected_send] at hconn
    rw [ScreenClient.told_send_of_connected hconn] at hsaid
    contradiction
  sharing origin request hstart := by
    rw [ScreenClient.sharingActive_send]
    exact h.sharing origin request (hback _ trivial hstart)
  stopped wasSharing hstop := by
    rw [ScreenClient.sharingActive_send]
    exact h.stopped wasSharing (hback _ trivial hstop)
  session hshared := by
    rw [ScreenClient.sharingActive_send] at hshared
    rw [ScreenClient.screenSession_send]
    exact h.session hshared
  handler _ _ := hclear

end

/-! ## The locks and the threads -/

/-- The sections during which `sharing_mutex` is held. -/
def Inside : ScreenSection → Prop
  | startCapture _ _ _ | commitSharing _ _ _ | announceStart _ _ | announceStop _
  | closeSession => True
  | _ => False

/-- A retraction of the recovery worker is followed by its `stop_screen_session`. -/
def Cleans (thread : List ScreenSection) : Prop :=
  retractSharing ∉ thread.tail ∧ (retractSharing ∈ thread → clearSession ∈ thread)

theorem eq_of_mem_failed {item : ScreenSection} {origin : Origin}
    (h : item ∈ origin.failed) : item = dropRequest := by
  cases origin <;> simp_all [Origin.failed]

theorem eq_of_mem_succeeded {item : ScreenSection} {request : SharingRequest} {origin : Origin}
    (h : item ∈ origin.succeeded request) : item = recordRequest request := by
  cases origin <;> simp_all [Origin.succeeded]

@[simp]
theorem tail_failed (origin : Origin) : origin.failed.tail = [] := by
  cases origin <;> rfl

@[simp]
theorem tail_succeeded (request : SharingRequest) (origin : Origin) :
    (origin.succeeded request).tail = [] := by
  cases origin <;> rfl

theorem Cleans.append {pushed rest : List ScreenSection} (h : Cleans pushed)
    (hrest : retractSharing ∉ rest) : Cleans (pushed ++ rest) := by
  cases pushed with
  | nil => exact ⟨fun hmem => hrest (List.mem_of_mem_tail hmem), fun hmem => absurd hmem hrest⟩
  | cons first pushed => grind [Cleans]

namespace ScreenClient

variable {client client' : ScreenClient} {self : Nat}
variable {head : ScreenSection} {pushed : List ScreenSection}

/-- How a section uses `sharing_mutex`. -/
theorem Ran.locks (h : Ran client self head client' pushed)
    (hheld : Inside head → client.sharingMutex = some self) :
    (client'.sharingMutex = client.sharingMutex ∨ client.sharingMutex = none ∨ Inside head) ∧
      (∀ item ∈ pushed.tail, ¬ Inside item) ∧
      ∀ item ∈ pushed, Inside item → client'.sharingMutex = some self := by
  cases h <;> grind [Inside, sharingMutex_send, tail_failed, tail_succeeded, → eq_of_mem_failed,
      → eq_of_mem_succeeded]

/-- The recovery worker retracts first and then stops the session. -/
theorem Ran.cleans (h : Ran client self head client' pushed) : Cleans pushed := by
  cases h <;> grind [Cleans, tail_failed, tail_succeeded, → eq_of_mem_failed,
      → eq_of_mem_succeeded]

end ScreenClient

/-! ## One section keeps the facts -/

/-- The run of a section reaches neither defect: recovery does not resume a share
whose request is withdrawn, and `stop_screen_session` does not clear a share that
the server lists. -/
def ScreenClient.Careful (client : ScreenClient) : ScreenSection → Prop
  | commitSharing Origin.recovery _ session =>
      client.commits session = true → client.sharingRequest ≠ none
  | clearSession =>
      client.connected = true → client.sharingActive = true → client.told = false
  | _ => True

theorem events_of_not_marker {item : ScreenSection} (h : ¬ Marker item) : item.events = [] := by
  cases item <;> first | rfl | exact absurd trivial h

section

variable {client client' : ScreenClient} {history : List SharingEvent}
variable {threads : Pool ScreenSection} {index : Nat} {head : ScreenSection}
variable {rest pushed : List ScreenSection}
variable (hhead : threads[index]? = some (head :: rest))
variable (h : Facts client (wanted history) (Pending threads))
include hhead h

/-- A section that is no marker and calls for no announcement. -/
theorem Facts.quiet (hmarker : ¬ Marker head) (hpushed : ∀ item ∈ pushed, ¬ Announcing item)
    (hactive : client'.sharingActive = client.sharingActive)
    (hrequest : client'.sharingRequest ≠ none → client.sharingRequest ≠ none)
    (hconnected : client'.connected = client.connected) (htold : client'.told = client.told)
    (hsession : client'.screenSession = client.screenSession) :
    Facts client' (wanted (history ++ head.events))
      (Pending (threads.set index (pushed ++ rest))) := by
  rw [events_of_not_marker hmarker, List.append_nil]
  apply h.calm hactive hrequest hconnected htold hsession _ _ Or.inl
  · intro item hitem hpending
    apply hpending.run hhead
    rintro rfl
    exact hmarker hitem
  · intro item hitem hpending
    rcases pending_of_run hhead hpending with hold | hnew
    · exact hold
    · exact absurd hitem (hpushed item hnew)

theorem Facts.failed (hmarker : ¬ Marker head) {origin : Origin}
    (hactive : client'.sharingActive = client.sharingActive)
    (hrequest : client'.sharingRequest = client.sharingRequest)
    (hconnected : client'.connected = client.connected) (htold : client'.told = client.told)
    (hsession : client'.screenSession = client.screenSession) :
    Facts client' (wanted (history ++ head.events))
      (Pending (threads.set index (origin.failed ++ rest))) := by
  apply h.quiet hhead hmarker _ hactive _ hconnected htold hsession
  · intro item hitem
    rw [eq_of_mem_failed hitem]
    exact id
  · rw [hrequest]
    exact id

/-- Every careful run of a section keeps the facts. -/
theorem Facts.run (hguard : Guarded Inside client.sharingMutex threads)
    (hclean : Cleans (head :: rest)) (hran : client.Ran index head client' pushed)
    (hcareful : client.Careful head) :
    Facts client' (wanted (history ++ head.events))
      (Pending (threads.set index (pushed ++ rest))) := by
  have hkeep : ∀ item, Marker item → item ≠ head → Pending threads item →
      Pending (threads.set index (pushed ++ rest)) item :=
    fun item _ hne hpending => hpending.run hhead hne pushed
  have hback : ∀ item, Pending (threads.set index (pushed ++ rest)) item →
      Pending threads item ∨ item ∈ pushed :=
    fun item hpending => pending_of_run hhead hpending
  have hquiet : (∀ item ∈ pushed, ¬ Announcing item) → ∀ item, Announcing item →
      Pending (threads.set index (pushed ++ rest)) item → Pending threads item :=
    fun hpushed item hitem hpending =>
      (hback item hpending).resolve_right fun hnew => hpushed item hnew hitem
  have hother : ¬ Marker head → ∀ item, Marker item → Pending threads item →
      Pending (threads.set index (pushed ++ rest)) item := by
    intro hmarker item hitem hpending
    apply hkeep item hitem _ hpending
    rintro rfl
    exact hmarker hitem
  cases hran with
  | sharingRefused origin request hfree => exact h.failed hhead id rfl rfl rfl rfl rfl
  | sharingChecked origin request session hfree hsession hidle =>
      exact h.quiet hhead id (by simp [Announcing]) rfl id rfl rfl rfl
  | captured origin request session =>
      exact h.quiet hhead id (by simp [Announcing]) rfl id rfl rfl rfl
  | captureFailed origin request session => exact h.failed hhead id rfl rfl rfl rfl rfl
  | committed origin request session hcommits =>
      simp only [ScreenSection.events, List.append_nil]
      have hannounce : Pending (threads.set index ([announceStart origin request] ++ rest))
          (announceStart origin request) := pending_pushed hhead (List.mem_singleton_self _)
      apply h.sharingCommitted hcommits _ _ _ _ hannounce
      · rintro rfl
        exact hcareful hcommits
      · intro wasSharing hstop
        exact absurd (hguard.eq_head hhead trivial (by trivial) hstop) (by simp)
      · exact hother id
      · exact fun item hpending => (hback item hpending).imp_right List.mem_singleton.mp
  | notRetained origin request session => exact h.failed hhead id rfl rfl rfl rfl rfl
  | startAnnounced origin request =>
      simp only [ScreenSection.events, List.append_nil]
      apply h.startAnnounced (by simp) (by simp) (by simp) (by simp) _ (pending_head hhead) hkeep
      · apply hquiet
        intro item hitem
        rw [eq_of_mem_succeeded hitem]
        exact id
      · rintro rfl
        exact pending_pushed hhead (List.mem_singleton_self _)
      · intro hconnected
        exact ScreenClient.told_send_of_connected hconnected _
  | requestRecorded request =>
      exact h.requestRecorded (wanted_startReturned history) hkeep (hquiet (by simp))
  | requestDropped => exact h.quiet hhead id (by simp) rfl (by simp) rfl rfl rfl
  | sharingCleared hfree =>
      simp only [ScreenSection.events, List.append_nil]
      rw [hfree] at hguard
      apply h.sharingCleared
      · exact fun origin request => hguard.not_pending trivial
      · exact hkeep
      · exact fun item hpending => (hback item hpending).imp_right List.mem_singleton.mp
      · exact pending_pushed hhead (List.mem_singleton_self _)
  | stopAnnounced wasSharing =>
      simp only [ScreenSection.events, List.append_nil]
      apply h.stopAnnounced _ _ _ _ _ _ (pending_head hhead) hkeep (hquiet (by simp))
      · cases wasSharing <;> simp
      · cases wasSharing <;> simp
      · cases wasSharing <;> simp
      · cases wasSharing <;> simp
      · rintro hconnected rfl
        exact ScreenClient.told_send_of_connected hconnected _
      · rintro rfl
        rfl
  | screenRequested => exact h.quiet hhead id (by simp) rfl id rfl rfl rfl
  | screenForgotten => exact h.quiet hhead id (by simp) rfl id rfl rfl rfl
  | sessionCleared hfree =>
      simp only [ScreenSection.events, List.append_nil]
      rw [hfree] at hguard
      apply h.sessionCleared hcareful
      · exact fun origin request => hguard.not_pending trivial
      · exact hkeep
      · exact hquiet (by simp [Announcing])
  | sessionClosed => exact h.quiet hhead id (by simp) rfl id rfl rfl rfl
  | screenRefused => exact h.quiet hhead id (by simp) rfl id rfl rfl rfl
  | screenChecked => exact h.quiet hhead id (by simp [Announcing]) rfl id rfl rfl rfl
  | sessionStarted => exact h.quiet hhead id (by simp [Announcing]) rfl id rfl rfl rfl
  | sessionFailed => exact h.quiet hhead id (by simp) rfl id rfl rfl rfl
  | sessionRetained hconnected =>
      simp only [ScreenSection.events, List.append_nil]
      exact h.sessionRetained hconnected (hother id) (hquiet (by simp))
  | sessionDropped => exact h.quiet hhead id (by simp) rfl id rfl rfl rfl
  | recoveryRefused token => exact h.quiet hhead id (by simp) rfl id rfl rfl rfl
  | recoveryBegun token =>
      apply h.quiet hhead id _ rfl id rfl rfl rfl
      intro item hitem
      split at hitem <;> grind [Announcing]
  | sharingRetracted =>
      simp only [ScreenSection.events, List.append_nil]
      apply h.sharingRetracted _ (hother id) (hquiet (by simp))
      have hclear : clearSession ∈ rest := by
        simpa using hclean.2 List.mem_cons_self
      exact hkeep clearSession trivial (by simp) (pending_rest hhead hclear)
  | taskEnded => exact h.quiet hhead id (by simp) rfl id rfl rfl rfl

end

/-! ## Whole runs -/

namespace ScreenSystem

/-- No call has been made yet. -/
def Initial (system : ScreenSystem) : Prop :=
  system = {}

/-- The action reaches neither defect. -/
def Careful (system : ScreenSystem) : ScreenAction → Prop
  | ScreenAction.run index _ =>
      match system.threads[index]? with
      | some (head :: _) => system.client.Careful head
      | _ => True
  | _ => True

/-- One step of a careful run. -/
def CarefulStep (system next : ScreenSystem) : Prop :=
  ∃ action, system.Careful action ∧ system.act action = some next

/-- What every state of a careful run satisfies. -/
structure Sound (system : ScreenSystem) : Prop where
  guarded : Guarded Inside system.client.sharingMutex system.threads
  cleans : ∀ thread ∈ system.threads, Cleans thread
  facts : Facts system.client (wanted system.history) (Pending system.threads)

theorem sound_initial : Sound {} where
  guarded := Guarded.nil _ _
  cleans _ hthread := absurd hthread List.not_mem_nil
  facts :=
    { active := by simp
      request := by simp
      announced := by simp
      retracted := by simp
      sharing := by simp [Pending]
      stopped := by simp [Pending]
      session := by simp
      handler := by simp }

/-- A thread begins outside the locks, with nothing to announce. -/
theorem Sound.spawned {system : ScreenSystem} (h : Sound system) {client : ScreenClient}
    {thread : List ScreenSection} {history : List SharingEvent}
    (hmutex : client.sharingMutex = system.client.sharingMutex)
    (houter : ∀ item ∈ thread, ¬ Inside item) (hclean : Cleans thread)
    (hfacts : Facts client (wanted history) (Pending (system.threads ++ [thread]))) :
    Sound ⟨client, system.threads ++ [thread], history⟩ where
  guarded := by
    rw [hmutex]
    exact h.guarded.spawn houter
  cleans other hother := by
    rcases List.mem_append.mp hother with hold | hnew
    · exact h.cleans other hold
    · rwa [List.mem_singleton.mp hnew]
  facts := hfacts

section

variable {system next : ScreenSystem} (h : Sound system)
include h

theorem Sound.call (call : ScreenCall) :
    Sound { system.spawn call.sections with history := system.history ++ call.events } := by
  apply h.spawned rfl
  · intro item hitem
    rcases call with (_ | _) | _ | _ | _ <;> grind [ScreenCall.sections, Inside]
  · rcases call with (_ | _) | _ | _ | _ <;> simp [Cleans, ScreenCall.sections]
  · apply h.facts.calm rfl id rfl rfl rfl
    · exact fun item _ hpending => hpending.spawn _
    · intro item hitem hpending
      rcases pending_of_spawn hpending with hold | hnew
      · exact hold
      · rcases call with (_ | _) | _ | _ | _ <;> grind [ScreenCall.sections, Announcing]
    · intro hwanted
      -- A call that ends the promise brings the section that clears the share.
      cases call with
      | startSharing _ | initScreen =>
          simpa only [ScreenCall.events, List.append_nil] using Or.inl hwanted
      | stopSharing | deinitScreen =>
          exact Or.inr (pending_spawned (by simp [ScreenCall.sections]) _)

theorem Sound.recover (token : SessionId) :
    Sound { system.spawn [snapshotSharing token, endTask] with
      client := { system.client with recovering := true } } := by
  apply h.spawned (by rfl) (by simp [Inside]) (by simp [Cleans])
  apply h.facts.calm (by rfl) (by exact id) (by rfl) (by rfl) (by rfl) _ _ Or.inl
  · exact fun item _ hpending => hpending.spawn _
  · intro item hitem hpending
    apply (pending_of_spawn hpending).resolve_right
    intro hnew
    grind [Announcing]

/-- The handler of a lost connection stops the session. -/
theorem Sound.lose :
    Sound { system.spawn [clearSession] with
      client := { system.client with connected := false, channel := [], listed := false } } := by
  apply h.spawned (by rfl) (by simp [Inside]) (by simp [Cleans])
  have hback : ∀ item, Announcing item → Pending (system.threads ++ [[clearSession]]) item →
      Pending system.threads item := by
    intro item hitem hpending
    apply (pending_of_spawn hpending).resolve_right
    intro hnew
    rw [List.mem_singleton.mp hnew] at hitem
    exact hitem
  refine ⟨?_, ?_, ?_, ?_, ?_, ?_, h.facts.session, ?_⟩
  · intro hshared
    rcases h.facts.active hshared with hw | hstop | ⟨request, hstart | hrecord⟩
    · exact Or.inl hw
    · exact Or.inr (Or.inl (hstop.spawn _))
    · exact Or.inr (Or.inr ⟨request, Or.inl (hstart.spawn _)⟩)
    · exact Or.inr (Or.inr ⟨request, Or.inr (hrecord.spawn _)⟩)
  · exact fun hset => (h.facts.request hset).imp_right fun hstop => hstop.spawn _
  · intro hconn
    contradiction
  · intro hconn
    contradiction
  · exact fun origin request hstart => h.facts.sharing origin request (hback _ trivial hstart)
  · exact fun wasSharing hstop => h.facts.stopped wasSharing (hback _ trivial hstop)
  · exact fun _ _ => pending_spawned (List.mem_singleton_self _) _

/-- A new connection has heard nothing; if the old session is still there its
handler is pending. -/
theorem Sound.regain (hdisconnected : system.client.connected = false) :
    Sound { system.spawn [checkScreen] with
      client := { system.client with connected := true, channel := [], listed := false } } := by
  apply h.spawned (by rfl) (by simp [Inside]) (by simp [Cleans])
  have hback : ∀ item, Announcing item → Pending (system.threads ++ [[checkScreen]]) item →
      Pending system.threads item := by
    intro item hitem hpending
    apply (pending_of_spawn hpending).resolve_right
    intro hnew
    rw [List.mem_singleton.mp hnew] at hitem
    exact hitem
  refine ⟨?_, ?_, ?_, ?_, ?_, ?_, h.facts.session, ?_⟩
  · intro hshared
    rcases h.facts.active hshared with hw | hstop | ⟨request, hstart | hrecord⟩
    · exact Or.inl hw
    · exact Or.inr (Or.inl (hstop.spawn _))
    · exact Or.inr (Or.inr ⟨request, Or.inl (hstart.spawn _)⟩)
    · exact Or.inr (Or.inr ⟨request, Or.inr (hrecord.spawn _)⟩)
  · exact fun hset => (h.facts.request hset).imp_right fun hstop => hstop.spawn _
  · intro _ hshared _
    have hclear := h.facts.handler hdisconnected (h.facts.session hshared)
    exact Or.inr (hclear.spawn _)
  · intro _ _ hsaid
    contradiction
  · exact fun origin request hstart => h.facts.sharing origin request (hback _ trivial hstart)
  · exact fun wasSharing hstop => h.facts.stopped wasSharing (hback _ trivial hstop)
  · intro hconn
    contradiction

/-- The server's knowledge after the oldest message is what it was told. -/
theorem Sound.deliver {message : StreamingMessage} {channel : List StreamingMessage}
    (hchannel : system.client.channel = message :: channel) :
    Sound { system with
      client := { system.client with
        channel := channel
        listed := decide (message = StreamingMessage.streamingStart) } } where
  guarded := h.guarded
  cleans := h.cleans
  facts := by
    apply h.facts.calm (by rfl) (by exact id) (by rfl) _ (by rfl) (fun _ _ => id)
      (fun _ _ => id) Or.inl
    cases channel with
    | nil => simp [ScreenClient.told, hchannel]
    | cons second channel => simp [ScreenClient.told, hchannel, List.getLast?_cons]

theorem Sound.run {index : Nat} {head : ScreenSection} {rest pushed : List ScreenSection}
    {client : ScreenClient} (hhead : system.threads[index]? = some (head :: rest))
    (hran : system.client.Ran index head client pushed)
    (hcareful : system.client.Careful head) :
    Sound ⟨client, system.threads.set index (pushed ++ rest),
      system.history ++ head.events⟩ := by
  have hthread : head :: rest ∈ system.threads := List.mem_of_getElem? hhead
  have hheld : Inside head → system.client.sharingMutex = some index :=
    h.guarded.holder index _ hhead head List.mem_cons_self
  rcases hran.locks hheld with ⟨hlock, hfirst, hpushed⟩
  refine ⟨h.guarded.run hhead hlock hfirst hpushed, ?_, ?_⟩
  · intro thread hmem
    rcases List.mem_or_eq_of_mem_set hmem with hold | rfl
    · exact h.cleans thread hold
    · exact hran.cleans.append (h.cleans _ hthread).1
  · exact h.facts.run hhead h.guarded (h.cleans _ hthread) hran hcareful

/-- Every step of a careful run keeps the invariant. -/
theorem Sound.step (hstep : CarefulStep system next) : Sound next := by
  rcases hstep with ⟨action, hcareful, hact⟩
  cases action with
  | call call =>
      rw [← Option.some.inj hact]
      exact h.call call
  | recover token =>
      rw [act] at hact
      split at hact
      · contradiction
      · rw [← Option.some.inj hact]
        exact h.recover token
  | loseConnection =>
      rw [act] at hact
      split at hact
      · rw [← Option.some.inj hact]
        exact h.lose
      · contradiction
  | regainConnection =>
      rw [act] at hact
      split at hact
      · contradiction
      · rename_i hdisconnected
        rw [← Option.some.inj hact]
        exact h.regain (by simpa using hdisconnected)
  | deliver =>
      rw [act] at hact
      split at hact
      · contradiction
      · rename_i message channel hchannel
        rw [← Option.some.inj hact]
        exact h.deliver hchannel
  | run index succeeds =>
      rw [act] at hact
      split at hact
      · rename_i head rest hhead
        rcases Option.map_eq_some_iff.mp hact with ⟨⟨client, pushed⟩, hrun, hnext⟩
        rw [Careful, hhead] at hcareful
        rw [← hnext]
        exact h.run hhead (ScreenClient.ran_of_run hrun) hcareful
      · contradiction

end

end ScreenSystem

/-! ## The promise -/

open ScreenSystem

theorem not_wanted_stopped (history : List SharingEvent) :
    ¬ wanted (history ++ [SharingEvent.stopBegun]) := by
  rintro ⟨before, after, hsplit, hfree⟩
  rcases List.eq_nil_or_concat after with rfl | ⟨middle, last, rfl⟩
  · have hlast := List.append_inj_right' hsplit rfl
    simp at hlast
  · rw [List.concat_eq_append] at hsplit hfree
    rw [← List.cons_append, ← List.append_assoc] at hsplit
    have hlast := List.append_inj_right' hsplit rfl
    rw [List.cons.injEq] at hlast
    rw [← hlast.1] at hfree
    simp at hfree

/-- In careful runs, when no call is running: the desktop is captured only if a
`start_sharing` call returned true and no stop was begun since; and once all
messages have arrived the server lists the client exactly if it is sharing. -/
theorem sharing_is_final {system : ScreenSystem}
    (h : Reachable Initial CarefulStep system) (hquiet : Quiet system.threads) :
    (system.client.sharingActive = true → wanted system.history) ∧
      (system.client.connected = true → system.client.channel = [] →
        (system.client.listed = true ↔ system.client.sharingActive = true)) := by
  have hsound : Sound system := by
    refine Reachable.invariant ?_ (fun _ _ _ hsound hstep => hsound.step hstep) h
    intro start hstart
    rw [hstart]
    exact sound_initial
  have hnone := hquiet.not_pending
  constructor
  · intro hactive
    rcases hsound.facts.active hactive with hw | hstop | ⟨request, hstart | hrecord⟩
    · exact hw
    · exact absurd hstop (hnone _)
    · exact absurd hstart (hnone _)
    · exact absurd hrecord (hnone _)
  · intro hconnected hchannel
    have htold : system.client.told = system.client.listed := by
      simp [ScreenClient.told, hchannel]
    rw [← htold]
    constructor
    · intro hsaid
      by_contra hidle
      exact hnone _ (hsound.facts.retracted hconnected (by simpa using hidle) hsaid)
    · intro hactive
      by_contra hsilent
      rcases hsound.facts.announced hconnected hactive (by simpa using hsilent) with
        ⟨origin, request, hstart⟩ | hclear
      · exact hnone _ hstart
      · exact hnone _ hclear

/-! ## Runs -/

namespace ScreenSystem

instance (client : ScreenClient) : DecidablePred client.Careful
  | commitSharing Origin.recovery _ session =>
      inferInstanceAs (Decidable (client.commits session = true → client.sharingRequest ≠ none))
  | clearSession =>
      inferInstanceAs
        (Decidable (client.connected = true → client.sharingActive = true → client.told = false))
  | commitSharing Origin.startSharing _ _ | checkSharing _ _ | startCapture _ _ _
  | announceStart _ _ | recordRequest _ | dropRequest | clearSharing | announceStop _
  | requestScreen | forgetScreen | closeSession | checkScreen | startSession | retainSession
  | snapshotSharing _ | retractSharing | endTask => isTrue trivial

instance (system : ScreenSystem) : DecidablePred system.Careful
  | ScreenAction.run index _ =>
      match h : system.threads[index]? with
      | some (head :: _) =>
          decidable_of_iff (system.client.Careful head) (by simp [Careful, h])
      | some [] => isTrue (by simp [Careful, h])
      | none => isTrue (by simp [Careful, h])
  | ScreenAction.call _ | ScreenAction.recover _ | ScreenAction.loseConnection
  | ScreenAction.regainConnection | ScreenAction.deliver => isTrue trivial

/-- Connect and initialise the screen. -/
def sessionActions : List ScreenAction :=
  [ScreenAction.regainConnection, ScreenAction.run 0 true,
    ScreenAction.call ScreenCall.initScreen] ++ List.replicate 4 (ScreenAction.run 1 true)

/-- A request for the first screen. -/
def firstScreen : SharingRequest where
  kind := DesktopCaptureKind.screen
  id := 1

/-- Thread `index` starts sharing, and the server hears of it. -/
def startActions (index : Nat) : List ScreenAction :=
  [ScreenAction.call (ScreenCall.startSharing (some firstScreen))] ++
    List.replicate 5 (ScreenAction.run index true) ++ [ScreenAction.deliver]

/-- The client shares its screen. -/
def shared : ScreenSystem :=
  (execute Careful act {} (sessionActions ++ startActions 2)).getD {}

theorem reachable_shared : Reachable Initial CarefulStep shared := by
  have hstart : Reachable Initial CarefulStep {} := Reachable.start rfl
  apply hstart.execute (fun _ action _ hcareful hact => ⟨action, hcareful, hact⟩)
  show execute Careful act {} (sessionActions ++ startActions 2) = some shared
  decide +kernel

/-- The session fails while the screen is shared, and the user stops sharing after
the recovery worker has copied the request. -/
def resumedActions : List ScreenAction :=
  [ScreenAction.recover 0, ScreenAction.run 3 true, ScreenAction.call ScreenCall.stopSharing,
      ScreenAction.run 4 true, ScreenAction.run 4 true] ++
    List.replicate 11 (ScreenAction.run 3 true) ++ List.replicate 3 ScreenAction.deliver

def resumed : ScreenSystem :=
  (execute (fun _ _ => True) act shared resumedActions).getD {}

/-- The session fails before the screen is shared, and the user starts sharing
before the recovery worker stops the old session. -/
def droppedActions : List ScreenAction :=
  sessionActions ++ [ScreenAction.recover 0, ScreenAction.run 2 true] ++ startActions 3 ++
    List.replicate 6 (ScreenAction.run 2 true)

def dropped : ScreenSystem :=
  (execute (fun _ _ => True) act {} droppedActions).getD {}

theorem reachable_resumed : Reachable Initial Step resumed := by
  have hrun : execute (fun _ _ => True) act shared resumedActions = some resumed := by
    decide +kernel
  have hshared : Reachable Initial Step shared :=
    reachable_shared.mono fun _ _ ⟨action, _, hact⟩ => ⟨action, hact⟩
  exact hshared.execute (fun _ action _ _ hact => ⟨action, hact⟩) hrun

theorem reachable_dropped : Reachable Initial Step dropped := by
  have hrun : execute (fun _ _ => True) act {} droppedActions = some dropped := by
    decide +kernel
  have hstart : Reachable Initial Step {} := Reachable.start rfl
  exact hstart.execute (fun _ action _ _ hact => ⟨action, hact⟩) hrun

end ScreenSystem

/-- The user of `shared` shares, and the server knows. -/
theorem sharing_is_final_shared :
    (shared.client.sharingActive = true → wanted shared.history) ∧
      (shared.client.connected = true → shared.client.channel = [] →
        (shared.client.listed = true ↔ shared.client.sharingActive = true)) :=
  sharing_is_final reachable_shared (by decide)

/-- Recovery shares the screen of a user who has stopped, and it drops a share
without telling the server. -/
theorem recovery_resumes_stopped_share :
    (¬ ∀ system, Reachable Initial Step system → Quiet system.threads →
      system.client.sharingActive = true → wanted system.history) ∧
    (¬ ∀ system, Reachable Initial Step system → Quiet system.threads →
      system.client.connected = true → system.client.channel = [] →
        (system.client.listed = true ↔ system.client.sharingActive = true)) := by
  constructor
  · intro hclaim
    have hhistory : resumed.history =
        [SharingEvent.startReturned] ++ [SharingEvent.stopBegun] := by decide +kernel
    have hwanted := hclaim resumed reachable_resumed (by decide +kernel) (by decide +kernel)
    rw [hhistory] at hwanted
    exact not_wanted_stopped _ hwanted
  · intro hclaim
    have hlisted : dropped.client.listed = true := by decide +kernel
    have hactive : dropped.client.sharingActive = false := by decide +kernel
    have hagree := hclaim dropped reachable_dropped (by decide +kernel) (by decide +kernel)
      (by decide +kernel)
    rw [hlisted, hactive] at hagree
    simp at hagree

end Client
end Driscord
