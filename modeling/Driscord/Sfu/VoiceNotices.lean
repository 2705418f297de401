import Driscord.Sfu.VoiceSystem

/-!
# Notices of the voice router

Each part of an operation that changes bindings returns notices that are true
afterwards and cover every change.  The parts of an operation compose, so the
notices of an operation are faithful.

Main results:

- Theorem `faithful_sweepBound`, theorem `faithful_assignAvailableLocked` and theorem
  `faithful_placeFresh`: the parts.
- Theorem `noticeLaws`: every operation gives faithful notice.
-/

namespace Driscord
namespace Sfu

open Library

namespace VoiceRouter

open Voice RouterModel

/-- The board of a subscriber. -/
def board (router : VoiceRouter) (subscriber : PeerId) : List (Bytes × Option PeerId) :=
  boardOf (router.portsOf subscriber)

theorem mem_board {router : VoiceRouter} {subscriber : PeerId}
    {entry : Bytes × Option PeerId} :
    entry ∈ router.board subscriber ↔
      ∃ output ∈ router.outputsOf subscriber, (output.mid, output.publisher) = entry := by
  simp [board, boardOf, portsOf, Port.entry, OutputSlot.port]

/-! ## The loop over bound slots -/

theorem mem_noticesTo_sweepBound {router : VoiceRouter} (h : Senders router)
    {owner subscriber : PeerId} {update : OutputSlot → OutputSlot}
    {entry : Bytes × Option PeerId} :
    entry ∈ noticesTo subscriber (router.sweepBound owner update).2 ↔
      ∃ output ∈ router.outputsOf subscriber, output.publisher = some owner ∧
        (output.mid, (update output).publisher) = entry := by
  rw [mem_noticesTo]
  simp only [sweepBound, List.mem_flatMap, List.mem_map, List.mem_filter, decide_eq_true_eq]
  constructor
  · rintro ⟨⟨peerId, peer⟩, hentry, output, ⟨houtput, howner⟩, hnotice⟩
    have hlookup := AList.mem_lookup_iff.mpr hentry
    have hsender := h peerId peer hlookup (List.ne_nil_of_mem houtput)
    simp only [hsender, BindingNotice.mk.injEq, Option.some.injEq] at hnotice
    rcases hnotice with ⟨rfl, hmid, hpublisher⟩
    refine ⟨output, ?_, howner, by rw [hmid, hpublisher]⟩
    rwa [outputsOf_of_lookup hlookup]
  · rintro ⟨output, houtput, howner, rfl⟩
    rcases Table.mem_iff_exists_lookup.mp (mem_of_mem_outputsOf houtput) with ⟨peer, hpeer⟩
    rw [outputsOf_of_lookup hpeer] at houtput
    refine ⟨⟨subscriber, peer⟩, AList.mem_lookup_iff.mp hpeer, output, ⟨houtput, howner⟩, ?_⟩
    rw [h subscriber peer hpeer (List.ne_nil_of_mem houtput)]

/-- A sweep gives faithful notice when its update is a step of the port. -/
theorem faithful_sweepBound {router : VoiceRouter} (h : Senders router)
    (owner subscriber : PeerId) {update : OutputSlot → OutputSlot}
    (hupdate : ∀ output, Port.Step (OutputSlot.port output) (update output).port) :
    Faithful (router.board subscriber) ((router.sweepBound owner update).1.board subscriber)
      (noticesTo subscriber (router.sweepBound owner update).2) := by
  refine Faithful.of_reported (reported_of_steps
    (evolve_sweepBound router owner hupdate subscriber) ?_ ?_)
  · intro notice hnotice
    rcases (mem_noticesTo_sweepBound h).mp hnotice with ⟨output, houtput, howner, rfl⟩
    refine mem_board.mpr ⟨update output, ?_, ?_⟩
    · rw [outputsOf_sweepBound]
      exact List.mem_map.mpr ⟨output, houtput, by simp [OutputSlot.ifBoundTo, howner]⟩
    · rw [show (update output).mid = output.mid from (hupdate output).mid]
  · intro port' hport'
    simp only [portsOf, outputsOf_sweepBound, List.map_map, List.mem_map,
      Function.comp_apply] at hport'
    rcases hport' with ⟨output, houtput, rfl⟩
    by_cases howner : output.publisher = some owner
    · refine Or.inr ((mem_noticesTo_sweepBound h).mpr ⟨output, houtput, howner, ?_⟩)
      simp only [OutputSlot.ifBoundTo, howner, if_true, Port.entry, OutputSlot.port]
      rw [show (update output).mid = output.mid from (hupdate output).mid]
    · refine Or.inl (mem_board.mpr ⟨output, houtput, ?_⟩)
      simp [OutputSlot.ifBoundTo, howner, Port.entry, OutputSlot.port]

/-! ## The assignment pass -/

theorem mem_noticesTo_assign {router : VoiceRouter} (h : Senders router) {expired : Expiry}
    {subscriber : PeerId} {entry : Bytes × Option PeerId} :
    entry ∈ noticesTo subscriber (router.assignAvailableLocked expired).2 ↔
      ∃ binding ∈ (router.assignSubscriber expired subscriber
          (router.outputsOf subscriber)).1,
        (binding.2.mid, some binding.1) = entry := by
  rw [mem_noticesTo]
  simp only [assignAvailableLocked, List.mem_flatMap, mem_orderedPeersLocked]
  have hnonempty : ∀ {peerId outputs binding},
      binding ∈ (router.assignSubscriber expired peerId outputs).1 → outputs ≠ [] := by
    rintro peerId outputs binding hbinding rfl
    simp [assignSubscriber] at hbinding
  constructor
  · rintro ⟨peerId, hmem, hnotice⟩
    rcases Table.mem_iff_exists_lookup.mp hmem with ⟨peer, hpeer⟩
    simp only [assignmentNotices, hpeer, List.mem_map] at hnotice
    rcases hnotice with ⟨binding, hbinding, hnotice⟩
    simp only [h peerId peer hpeer (hnonempty hbinding), BindingNotice.mk.injEq,
      Option.some.injEq] at hnotice
    rcases hnotice with ⟨rfl, hmid, hpublisher⟩
    refine ⟨binding, ?_, by rw [hmid, hpublisher]⟩
    rwa [outputsOf_of_lookup hpeer]
  · rintro ⟨binding, hbinding, rfl⟩
    have hmem : subscriber ∈ router.peers := by
      by_contra hmem
      exact hnonempty hbinding (outputsOf_of_notMem hmem)
    rcases Table.mem_iff_exists_lookup.mp hmem with ⟨peer, hpeer⟩
    rw [outputsOf_of_lookup hpeer] at hbinding
    refine ⟨subscriber, hmem, ?_⟩
    simp only [assignmentNotices, hpeer, List.mem_map]
    exact ⟨binding, hbinding, by rw [h subscriber peer hpeer (hnonempty hbinding)]⟩

theorem faithful_assignAvailableLocked {router : VoiceRouter} (h : Senders router)
    (expired : Expiry) (subscriber : PeerId) :
    Faithful (router.board subscriber)
      ((router.assignAvailableLocked expired).1.board subscriber)
      (noticesTo subscriber (router.assignAvailableLocked expired).2) := by
  refine Faithful.of_reported (reported_of_steps
    (evolve_assignAvailableLocked router expired subscriber) ?_ ?_)
  · intro notice hnotice
    rcases (mem_noticesTo_assign h).mp hnotice with ⟨binding, hbinding, rfl⟩
    rcases mem_of_mem_bindings (fun _ _ _ => available_bindTo _ _ _) hbinding with
      ⟨_, ⟨slot, hslot⟩, hmem⟩
    refine mem_board.mpr ⟨binding.2, ?_, ?_⟩
    · rw [outputsOf_assignAvailableLocked]
      exact hmem
    · rw [hslot]
      rfl
  · intro port' hport'
    simp only [portsOf, outputsOf_assignAvailableLocked, List.mem_map] at hport'
    rcases hport' with ⟨output', houtput', rfl⟩
    have hserved := served_assignSubscriber router expired subscriber
      (router.outputsOf subscriber)
    rcases forall₂_mem_right hserved houtput' with ⟨output, houtput, hone⟩
    rcases hone with rfl | ⟨publisher, _, _, _, rfl, hbinding⟩
    · exact Or.inl (mem_board.mpr ⟨_, houtput, rfl⟩)
    · exact Or.inr ((mem_noticesTo_assign h).mpr ⟨_, hbinding, rfl⟩)

/-! ## Placing a slot -/

theorem faithful_placeFresh {router : VoiceRouter} {owner : PeerId}
    (hmem : owner ∈ router.peers) (track : Track) (ssrc : UInt32) (subscriber : PeerId) :
    Faithful (router.board subscriber)
      ((router.placeFresh owner track ssrc).board subscriber)
      (noticesTo subscriber (router.replacedNotices owner track ssrc)) := by
  by_cases hsame : subscriber = owner
  · subst hsame
    have hboard : (router.placeFresh subscriber track ssrc).board subscriber =
        (placeOutput (router.freshOutput track ssrc) (router.outputsOf subscriber)).1.map
          fun output => (output.mid, output.publisher) := by
      simp [board, boardOf, portsOf, outputsOf_placeFresh_owner hmem, Function.comp_def,
        Port.entry, OutputSlot.port]
    have hbefore : router.board subscriber =
        (router.outputsOf subscriber).map fun output => (output.mid, output.publisher) := by
      simp [board, boardOf, portsOf, Function.comp_def, Port.entry, OutputSlot.port]
    rw [hboard, hbefore]
    rcases placeOutput_eq (router.freshOutput track ssrc) (router.outputsOf subscriber) with
      ⟨first, second, hplaced, hold⟩
    refine Faithful.of_reported ?_
    rcases hold with ⟨hslots, rfl, hnew, hnone⟩ | ⟨slot, hslots, hmid, hsome⟩
    · -- A new mid: its slot is unbound and nothing has to be announced.
      rw [List.append_nil] at hslots
      subst hslots
      rw [replacedNotices, hnone, hplaced]
      refine ⟨by simp, by simp [noticesTo], ?_⟩
      intro entry hentry
      simp only [List.map_append, List.map_cons, List.map_nil, List.mem_append,
        List.mem_singleton] at hentry
      rcases hentry with hold | rfl
      · exact Or.inl hold
      · refine Or.inr (Or.inr ⟨?_, rfl⟩)
        simpa [freshOutput] using hnew
    · -- The slot with the same mid is replaced by an unbound one.
      have hmid' : slot.mid = track.mid := hmid
      rw [replacedNotices, hsome, hplaced, hslots]
      refine ⟨by simp [freshOutput, hmid'], ?_, ?_⟩
      · intro notice hnotice
        rw [mem_noticesTo] at hnotice
        simp only [Option.toList_some, List.mem_map, List.mem_filter, List.mem_singleton] at hnotice
        rcases hnotice with ⟨_, ⟨rfl, _⟩, hnotice⟩
        simp only [BindingNotice.mk.injEq] at hnotice
        simp only [List.map_append, List.map_cons, List.mem_append, List.mem_cons]
        refine Or.inr (Or.inl (Prod.ext ?_ ?_))
        · rw [← hnotice.2.1, hmid']
          rfl
        · exact hnotice.2.2.symm
      · intro entry hentry
        simp only [List.map_append, List.map_cons, List.mem_append, List.mem_cons] at hentry ⊢
        rcases hentry with hold | rfl | hold
        · exact Or.inl (Or.inl hold)
        · cases hpublisher : slot.publisher with
          | none =>
              refine Or.inl (Or.inr (Or.inl ?_))
              rw [hmid']
              rfl
          | some publisher =>
              refine Or.inr (Or.inl (mem_noticesTo.mpr ?_))
              simp only [Option.toList_some, List.mem_map, List.mem_filter, List.mem_singleton]
              refine ⟨slot, ⟨rfl, by simp [hpublisher]⟩, ?_⟩
              rw [hmid']
              rfl
        · exact Or.inl (Or.inr (Or.inr hold))
  · have hboard : (router.placeFresh owner track ssrc).board subscriber =
        router.board subscriber := by
      rw [board, board, portsOf, portsOf, outputsOf_placeFresh_ne router hsame]
    have hsilent : noticesTo subscriber (router.replacedNotices owner track ssrc) = [] := by
      rw [List.eq_nil_iff_forall_not_mem]
      intro entry hentry
      rw [mem_noticesTo, replacedNotices] at hentry
      rcases List.mem_map.mp hentry with ⟨slot, _, heq⟩
      simp only [BindingNotice.mk.injEq, Option.some.injEq] at heq
      exact hsame heq.1.symm
    rw [hboard, hsilent]
    exact Faithful.refl _

/-! ## Operations -/

theorem faithful_thenAssign {router : VoiceRouter} {first : VoiceRouter × List BindingNotice}
    {subscriber : PeerId} (hsenders : Senders first.1) (expired : Expiry)
    (h : Faithful (router.board subscriber) (first.1.board subscriber)
      (noticesTo subscriber first.2)) :
    Faithful (router.board subscriber) ((thenAssign expired first).1.board subscriber)
      (noticesTo subscriber (thenAssign expired first).2) := by
  rw [thenAssign, noticesTo_append]
  exact h.trans (faithful_assignAvailableLocked hsenders expired subscriber)

theorem faithful_storeInput {router : VoiceRouter} (h : router.Inv) (owner : PeerId)
    (track : Track) (subscriber : PeerId) :
    Faithful (router.board subscriber) ((router.storeInput owner track).1.board subscriber)
      (noticesTo subscriber (router.storeInput owner track).2) := by
  have hstored := ((progress_peerForLocked router owner).trans
    (progress_setInput (router.peerForLocked owner) owner track)).inv h
  have houtputs := outputsOf_modifyPeer (router.peerForLocked owner) owner subscriber
    (f := PeerState.setInput track (some owner)) fun _ => rfl
  have hboard : ((router.peerForLocked owner).modifyPeer owner
      (PeerState.setInput track (some owner))).board subscriber = router.board subscriber := by
    rw [board, board, portsOf, portsOf, houtputs, outputsOf_peerForLocked]
  unfold storeInput
  dsimp only
  split
  · rw [← hboard]
    exact faithful_sweepBound hstored.senders owner subscriber OutputSlot.step_restart
  · rw [hboard]
    exact Faithful.refl _

theorem faithful_storeOutput (router : VoiceRouter) (owner : PeerId) (track : Track)
    (ssrc : UInt32) (subscriber : PeerId) :
    Faithful (router.board subscriber)
      ((router.storeOutput owner track ssrc).1.board subscriber)
      (noticesTo subscriber (router.storeOutput owner track ssrc).2) := by
  have hmem : owner ∈ (router.peerForLocked owner).peers := by simp
  have hboard : (router.peerForLocked owner).board subscriber = router.board subscriber := by
    rw [board, board, portsOf, portsOf, outputsOf_peerForLocked]
  rw [← hboard]
  exact faithful_placeFresh hmem track ssrc subscriber

theorem faithful_registerTrack {router : VoiceRouter} (h : router.Inv) (expired : Expiry)
    (owner : PeerId) (track : Option Track) (ssrc : UInt32) (subscriber : PeerId) :
    Faithful (router.board subscriber)
      ((router.registerTrack expired owner track ssrc (some owner)).1.board subscriber)
      (noticesTo subscriber
        (router.registerTrack expired owner track ssrc (some owner)).2) := by
  rcases registerTrack_cases router expired owner track ssrc with
    heq | ⟨input, heq⟩ | ⟨output, heq⟩
  · rw [heq]
    exact Faithful.refl _
  · rw [heq]
    exact faithful_thenAssign ((progress_storeInput router owner input).inv h).senders expired
      (faithful_storeInput h owner input subscriber)
  · rw [heq]
    exact faithful_thenAssign ((progress_storeOutput router owner output ssrc).inv h).senders
      expired (faithful_storeOutput router owner output ssrc subscriber)

theorem faithful_removePeer {router : VoiceRouter} (h : router.Inv) (expired : Expiry)
    {peerId subscriber : PeerId} (hne : subscriber ≠ peerId) :
    Faithful (router.board subscriber) ((router.removePeer expired peerId).1.board subscriber)
      (noticesTo subscriber (router.removePeer expired peerId).2) := by
  unfold removePeer
  split
  · exact Faithful.refl _
  · have hboard : (router.erasePeer peerId).board subscriber = router.board subscriber := by
      rw [board, board, portsOf, portsOf, outputsOf_erasePeer, if_neg hne]
    refine faithful_thenAssign ((progress_dropPeer router peerId).inv h).senders expired ?_
    rw [← hboard]
    exact faithful_sweepBound (h.senders.erasePeer peerId) peerId subscriber OutputSlot.step_release

/-! ## The laws -/

theorem mem_thenAssign (expired : Expiry) (first : VoiceRouter × List BindingNotice)
    (peerId : PeerId) :
    peerId ∈ (thenAssign expired first).1.peers ↔ peerId ∈ first.1.peers :=
  mem_assignAvailableLocked _ _ _

theorem mem_storeInput (router : VoiceRouter) (owner : PeerId) (track : Track)
    (peerId : PeerId) :
    peerId ∈ (router.storeInput owner track).1.peers ↔ peerId = owner ∨ peerId ∈ router.peers := by
  unfold storeInput
  dsimp only
  split <;> simp

theorem mem_storeOutput (router : VoiceRouter) (owner : PeerId) (track : Track) (ssrc : UInt32)
    (peerId : PeerId) :
    peerId ∈ (router.storeOutput owner track ssrc).1.peers ↔
      peerId = owner ∨ peerId ∈ router.peers := by
  simp [storeOutput]

theorem mem_registerTrack {router : VoiceRouter} {expired : Expiry} {owner : PeerId}
    {track : Option Track} {ssrc : UInt32} {peerId : PeerId}
    (h : peerId ∈ (router.registerTrack expired owner track ssrc (some owner)).1.peers) :
    peerId ∈ router.peers ∨ peerId = owner := by
  rcases registerTrack_cases router expired owner track ssrc with
    heq | ⟨input, heq⟩ | ⟨output, heq⟩
  · rw [heq] at h
    exact Or.inl h
  · rw [heq, mem_thenAssign, mem_storeInput] at h
    exact h.symm
  · rw [heq, mem_thenAssign, mem_storeOutput] at h
    exact h.symm

theorem mem_removePeer {router : VoiceRouter} {expired : Expiry} {peerId other : PeerId}
    (h : other ∈ (router.removePeer expired peerId).1.peers) :
    other ∈ router.peers ∧ (router.closed = false → other ≠ peerId) := by
  unfold removePeer at h
  split at h
  · rename_i hclosed
    exact ⟨h, fun hopen => by rw [hopen] at hclosed; contradiction⟩
  · rw [mem_thenAssign, mem_sweepBound, erasePeer] at h
    rcases AList.mem_erase.mp h with ⟨hne, hmem⟩
    exact ⟨hmem, fun _ => hne⟩

theorem Undisturbed.board_eq {router router' : VoiceRouter} (h : Undisturbed router router') :
    router'.board = router.board := by
  funext subscriber
  rw [board, board, h.ports]

theorem Undisturbed.present_eq {router router' : VoiceRouter} (h : Undisturbed router router') :
    (fun peerId => decide (peerId ∈ router'.peers)) =
      fun peerId => decide (peerId ∈ router.peers) := by
  funext peerId
  simp only [h.mem peerId]

/-- A closed router has no peers, and closing it again changes nothing. -/
theorem board_close {router : VoiceRouter} {peerId : PeerId} (h : peerId ∈ router.close.peers) :
    decide (peerId ∈ router.peers) = true ∧
      router.close.board peerId = router.board peerId := by
  cases hclosed : router.closed with
  | true =>
      rw [close, if_pos hclosed] at h ⊢
      exact ⟨decide_eq_true h, rfl⟩
  | false => simp [close, hclosed] at h

/-- Removing an absent peer from a closed router changes nothing, so only an open
router matters for the removed peer itself. -/
theorem faithful_operate {router : VoiceRouter} (h : router.Inv) (seen : Expiry)
    (operation : Operation) {subscriber : PeerId}
    (hpresent : subscriber ∈ (router.operate seen operation).1.peers) :
    Faithful (router.board subscriber) ((router.operate seen operation).1.board subscriber)
      (noticesTo subscriber (router.operate seen operation).2) := by
  cases operation with
  | registerTrack owner track ssrc =>
      exact faithful_registerTrack h seen owner track ssrc subscriber
  | removePeer peerId =>
      cases hclosed : router.closed with
      | true =>
          simp only [operate, removePeer, hclosed, if_true]
          exact Faithful.refl _
      | false => exact faithful_removePeer h seen ((mem_removePeer hpresent).2 hclosed)

section

variable (isRtcp : Bytes → Bool) (gaussian : ℚ → ℚ → ℚ)

theorem noticeLaws : (model isRtcp gaussian).NoticeLaws Inv board where
  toStateLaws := stateLaws isRtcp gaussian
  board_absent router subscriber habsent := by
    have hnil : router.outputsOf subscriber = [] :=
      outputsOf_of_notMem (of_decide_eq_false habsent)
    simp only [board, portsOf, hnil]
    rfl
  operate_joins seen operation router subscriber hpresent := by
    have hmem : subscriber ∈ (router.operate seen operation).1.peers :=
      of_decide_eq_true hpresent
    cases operation with
    | registerTrack owner track ssrc =>
        rcases mem_registerTrack hmem with hold | hcaller
        · exact Or.inl (decide_eq_true hold)
        · exact Or.inr hcaller
    | removePeer peerId => exact Or.inl (decide_eq_true (mem_removePeer hmem).1)
  operate_faithful seen operation _ _ h hpresent :=
    faithful_operate h seen operation (of_decide_eq_true hpresent)
  resume_joins _ rest := rest.elim
  resume_faithful _ rest := rest.elim
  interrupt_board call router subscriber hpresent := by
    have hmem : subscriber ∈ (router.interrupt call).peers := of_decide_eq_true hpresent
    cases call with
    | close => exact board_close hmem
    | updateFaultConfig faultConfig => exact ⟨hpresent, rfl⟩
  route_board expired arrival router :=
    ⟨(undisturbed_route isRtcp gaussian router expired arrival).present_eq,
      (undisturbed_route isRtcp gaussian router expired arrival).board_eq⟩
  flush_board now router :=
    ⟨(undisturbed_flushDelayed router now).present_eq,
      (undisturbed_flushDelayed router now).board_eq⟩
  forward_board expired item router :=
    ⟨(undisturbed_forwardDelayed router expired item).present_eq,
      (undisturbed_forwardDelayed router expired item).board_eq⟩
  sendTurn_board expired isOpen send _ h :=
    ⟨(undisturbed_sendTurn isRtcp h expired isOpen send).present_eq,
      (undisturbed_sendTurn isRtcp h expired isOpen send).board_eq⟩

end

end VoiceRouter

end Sfu
end Driscord
