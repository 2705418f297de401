import Driscord.Sfu.Guarantees

/-!
# Bindings at the client

A client learns which publisher is behind a mid from the notices of the router.
It starts with no bindings when the router creates its peer state: the session
that registers the tracks is new.

Main results:

- Theorem `bindings_agree`: whenever no operation is in progress, the last notice
  for every mid names the publisher bound to it, and the client's table is the
  router's map restricted to bound slots.
-/

namespace Driscord
namespace Client

open Library Sfu

/-- The part of `apply_binding` that writes `voice_bindings` or
`screen_bindings`. -/
def applyBinding (bindings : Table Bytes PeerId) (mid : Bytes) (peerId : Option PeerId) :
    Table Bytes PeerId :=
  match peerId with
  | some peer => bindings.insert mid peer
  | none => bindings.erase mid

theorem applyBinding_eq_follow (bindings : Table Bytes PeerId) (notice : Bytes × Option PeerId) :
    applyBinding bindings notice.1 notice.2 = follow bindings notice := by
  rcases notice with ⟨mid, _ | publisher⟩ <;> rfl

/-- One more event for a session: a new peer state makes it start anew. -/
def receive (subscriber : PeerId) (received : List (Bytes × Option PeerId)) :
    BindingEvent → List (Bytes × Option PeerId)
  | BindingEvent.joined peer => if peer = subscriber then [] else received
  | BindingEvent.notice recipient mid publisher =>
      if recipient = subscriber then received ++ [(mid, publisher)] else received

/-- The notices to a session since the router created its current state. -/
def noticesSince (subscriber : PeerId) (history : List BindingEvent) :
    List (Bytes × Option PeerId) :=
  history.foldl (receive subscriber) []

/-- The client's bindings after these notices. -/
def clientBindings (subscriber : PeerId) (history : List BindingEvent) : Table Bytes PeerId :=
  (noticesSince subscriber history).foldl
    (fun bindings notice => applyBinding bindings notice.1 notice.2) ∅

theorem lastNotices_eq_foldl_tell (subscriber : PeerId) (history : List BindingEvent) :
    RouterModel.lastNotices subscriber history =
      (noticesSince subscriber history).foldl tell fun _ => none := by
  induction history using List.reverseRecOn with
  | nil => rfl
  | append_singleton history event ih =>
      rw [RouterModel.lastNotices, noticesSince] at ih ⊢
      rw [List.foldl_append, List.foldl_append, List.foldl_cons, List.foldl_nil,
        List.foldl_cons, List.foldl_nil, ih]
      cases event with
      | joined peer =>
          simp only [RouterModel.hear, receive]
          split <;> rfl
      | notice recipient mid publisher =>
          simp only [RouterModel.hear, receive]
          split
          · rw [List.foldl_append]
            rfl
          · rfl

theorem lookup_clientBindings (subscriber : PeerId) (history : List BindingEvent) (mid : Bytes) :
    (clientBindings subscriber history).lookup mid =
      RouterModel.lastNotices subscriber history mid := by
  rw [lastNotices_eq_foldl_tell, clientBindings]
  simp only [applyBinding_eq_follow]
  exact lookup_foldl_follow ∅ _ mid

/-- Nothing is announced that is still to be published. -/
theorem announced_of_idle {model : RouterModel} {system : model.System}
    (h : system.phase = Phase.idle) : RouterModel.announced system = system.history := by
  simp [RouterModel.announced, h, Phase.pending]

/-- The notices and the client's table agree with the bindings of both routers. -/
theorem bindings_agree (isRtcp : Bytes → Bool) (gaussian : ℚ → ℚ → ℚ) :
    (∀ system, (VoiceRouter.model isRtcp gaussian).ReachableSystem true system →
      system.phase = Phase.idle → ∀ subscriber ∈ VoiceRouter.peers system.router,
        ((VoiceRouter.outputsOf system.router subscriber).map Voice.OutputSlot.mid).Nodup →
          (∀ output ∈ VoiceRouter.outputsOf system.router subscriber,
            RouterModel.lastNotices subscriber system.history output.mid = output.publisher) ∧
          ∀ mid publisher,
            (clientBindings subscriber system.history).lookup mid = some publisher ↔
              ∃ output ∈ VoiceRouter.outputsOf system.router subscriber,
                output.mid = mid ∧ output.publisher = some publisher) ∧
    (∀ system, (ScreenRouter.model isRtcp gaussian).ReachableSystem true system →
      system.phase = Phase.idle → ∀ subscriber ∈ ScreenRouter.peers system.router,
        ((ScreenRouter.pairsOf system.router subscriber).flatMap fun pair =>
          pair.outputs.map Screen.OutputTrack.mid).Nodup →
          (∀ pair ∈ ScreenRouter.pairsOf system.router subscriber, ∀ output ∈ pair.outputs,
            RouterModel.lastNotices subscriber system.history output.mid = pair.publisher) ∧
          ∀ mid publisher,
            (clientBindings subscriber system.history).lookup mid = some publisher ↔
              ∃ pair ∈ ScreenRouter.pairsOf system.router subscriber,
                ∃ output ∈ pair.outputs, output.mid = mid ∧ pair.publisher = some publisher) := by
  constructor
  · intro system hreach hidle subscriber hmem hnodup
    have hinformed := (VoiceRouter.noticeLaws isRtcp gaussian).reachable
      (by rintro _ _ ⟨_, _, rfl⟩; rfl) hreach
    have hmids : ((VoiceRouter.board system.router subscriber).map Prod.fst).Nodup := by
      simpa [VoiceRouter.board, VoiceRouter.portsOf, Voice.OutputSlot.port, Function.comp_def]
        using hnodup
    have hagrees := hinformed subscriber (decide_eq_true hmem) hmids
    rw [announced_of_idle hidle] at hagrees
    refine ⟨?_, ?_⟩
    · intro output houtput
      exact hagrees.held (output.mid, output.publisher)
        (VoiceRouter.mem_board.mpr ⟨output, houtput, rfl⟩)
    · intro mid publisher
      rw [lookup_clientBindings, hagrees.eq_some_iff]
      refine VoiceRouter.mem_board.trans ?_
      simp only [Prod.mk.injEq]
  · intro system hreach hidle subscriber hmem hnodup
    have hinformed := (ScreenRouter.noticeLaws isRtcp gaussian).reachable
      (by rintro _ _ ⟨_, _, rfl⟩; rfl) hreach
    have hmids : ((ScreenRouter.board system.router subscriber).map Prod.fst).Nodup := by
      simpa [ScreenRouter.board, ScreenRouter.portsOf, Screen.OutputPair.ports,
        Screen.OutputTrack.port, Function.comp_def, List.map_flatMap] using hnodup
    have hagrees := hinformed subscriber (decide_eq_true hmem) hmids
    rw [announced_of_idle hidle] at hagrees
    refine ⟨?_, ?_⟩
    · intro pair hpair output houtput
      exact hagrees.held (output.mid, pair.publisher)
        (ScreenRouter.mem_board.mpr ⟨pair, hpair, output, houtput, rfl⟩)
    · intro mid publisher
      rw [lookup_clientBindings, hagrees.eq_some_iff]
      refine ScreenRouter.mem_board.trans ?_
      simp only [Prod.mk.injEq]

/-- The listener has heard of the talker. -/
theorem bindings_agree_paired :
    (clientBindings SampleRun.listener SampleRun.paired.history).lookup [48] =
      some SampleRun.talker :=
  (((bindings_agree RtpSlotRewriter.libdatachannelIsRtcp fun mean _ => mean).1
    SampleRun.paired (SampleRun.reachable_paired true) rfl SampleRun.listener (by decide)
    (by decide)).2 [48] SampleRun.talker).mpr (by decide)

/-! ## Notices of an earlier state -/

/-- All notices ever sent to a session. -/
def noticesEver (subscriber : PeerId) (history : List BindingEvent) :
    List (Bytes × Option PeerId) :=
  history.filterMap fun event =>
    match event with
    | BindingEvent.joined _ => none
    | BindingEvent.notice recipient mid publisher =>
        if recipient = subscriber then some (mid, publisher) else none

namespace SampleRun

open Sfu.SampleRun

/-- The listener leaves, the talker leaves, and the listener registers its slot
again. -/
def rejoined : router.System :=
  register (remove (remove paired listener) talker) listener (output 3 [48])

theorem reachable_rejoined (midway : Bool) : router.ReachableSystem midway rejoined :=
  reachable_register (reachable_remove (reachable_remove (reachable_paired midway) rfl listener)
    rfl talker) rfl listener rfl

end SampleRun

/-- The last notice ever sent for a mid may name a publisher that was bound to a
slot of an earlier state of the session, as does a table folded over all
notices. -/
theorem earlier_notices_linger :
    (¬ ∀ system, Sfu.SampleRun.router.ReachableSystem true system →
      system.phase = Phase.idle → ∀ subscriber ∈ VoiceRouter.peers system.router,
        ((VoiceRouter.outputsOf system.router subscriber).map Voice.OutputSlot.mid).Nodup →
          ∀ output ∈ VoiceRouter.outputsOf system.router subscriber,
            (noticesEver subscriber system.history).foldl tell (fun _ => none) output.mid =
              output.publisher) ∧
    (¬ ∀ system, Sfu.SampleRun.router.ReachableSystem true system →
      system.phase = Phase.idle → ∀ subscriber ∈ VoiceRouter.peers system.router,
        ((VoiceRouter.outputsOf system.router subscriber).map Voice.OutputSlot.mid).Nodup →
          ∀ mid publisher,
            ((noticesEver subscriber system.history).foldl
                (fun bindings notice => applyBinding bindings notice.1 notice.2) ∅).lookup mid =
              some publisher ↔
              ∃ output ∈ VoiceRouter.outputsOf system.router subscriber,
                output.mid = mid ∧ output.publisher = some publisher) := by
  have hseats : (VoiceRouter.outputsOf SampleRun.rejoined.router
      Sfu.SampleRun.listener).map (fun output => (output.mid, output.publisher)) =
        [([48], none)] := by decide
  constructor
  · intro hclaim
    have hmem : ([48], none) ∈ (VoiceRouter.outputsOf SampleRun.rejoined.router
        Sfu.SampleRun.listener).map (fun output => (output.mid, output.publisher)) := by
      rw [hseats]
      exact List.mem_singleton_self _
    rcases List.mem_map.mp hmem with ⟨output, houtput, heq⟩
    rcases Prod.mk.inj heq with ⟨hmid, hpublisher⟩
    have htold := hclaim SampleRun.rejoined (SampleRun.reachable_rejoined true) rfl
      Sfu.SampleRun.listener (by decide) (by decide) output houtput
    rw [hmid, hpublisher] at htold
    have hlast : (noticesEver Sfu.SampleRun.listener SampleRun.rejoined.history).foldl tell
        (fun _ => none) [48] = some Sfu.SampleRun.talker := by decide
    rw [hlast] at htold
    contradiction
  · intro hclaim
    have htable := (hclaim SampleRun.rejoined (SampleRun.reachable_rejoined true) rfl
      Sfu.SampleRun.listener (by decide) (by decide) [48] Sfu.SampleRun.talker).mp (by decide)
    rcases htable with ⟨output, houtput, hmid, hpublisher⟩
    have hmem : (output.mid, output.publisher) ∈ [([48], none)] := by
      rw [← hseats]
      exact List.mem_map.mpr ⟨output, houtput, rfl⟩
    rw [hpublisher] at hmem
    simp at hmem

end Client
end Driscord
