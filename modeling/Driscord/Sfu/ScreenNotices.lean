import Driscord.Sfu.ScreenSystem

/-!
# Notices of the screen router

A pair gives notice for its ready outputs only.  A bound pair has both outputs
ready, so its notices cover the whole pair; an unbound pair that is not ready
has nothing to announce.

Main results:

- Theorem `faithful_assignAvailableLocked`, theorem `faithful_sweepBound` and
  theorem `faithful_placeFresh`: the parts of an operation.
- Theorem `noticeLaws`: every section gives faithful notice.
-/

namespace Driscord
namespace Sfu

open Library

namespace Screen

theorem OutputPair.Ready.clear {pair : OutputPair} (h : pair.Ready) : pair.clear.Ready := by
  rcases h with ⟨video, audio, hvideo, haudio, hvideoReady, haudioReady⟩
  unfold OutputPair.clear
  split
  · exact ⟨video, audio, hvideo, haudio, hvideoReady, haudioReady⟩
  · exact ⟨video.stop, audio.stop, by simp [hvideo], by simp [haudio], hvideoReady,
      haudioReady⟩

/-- The board of an unbound pair once an output is written to it: a new entry, or
the same board when it takes the place of an output with its mid. -/
theorem boardOf_setOutput {pair : OutputPair} (hunbound : pair.publisher = none)
    (mediaType : MediaType) (output : OutputTrack)
    (hplace : (∃ old, pair.output mediaType = some old ∧ old.mid = output.mid) ∨
      pair.output mediaType = none) :
    boardOf (pair.setOutput mediaType (some output)).ports = boardOf pair.ports ∨
      ∃ first second, boardOf pair.ports = first ++ second ∧
        boardOf (pair.setOutput mediaType (some output)).ports =
          first ++ (output.mid, none) :: second := by
  rcases pair with ⟨video, audio, publisher⟩
  subst hunbound
  cases mediaType with
  | video =>
      rcases hplace with ⟨old, hold, hmid⟩ | hnone
      · have hvideo : video = some old := hold
        subst hvideo
        left
        simp [boardOf, OutputPair.ports, OutputPair.setOutput, OutputPair.outputs,
          OutputTrack.port, Port.entry, hmid]
      · have hvideo : video = none := hnone
        subst hvideo
        exact Or.inr ⟨[], boardOf (audio.toList.map (OutputTrack.port none)), rfl, rfl⟩
  | audio =>
      rcases hplace with ⟨old, hold, hmid⟩ | hnone
      · have haudio : audio = some old := hold
        subst haudio
        left
        simp [boardOf, OutputPair.ports, OutputPair.setOutput, OutputPair.outputs,
          OutputTrack.port, Port.entry, hmid]
      · have haudio : audio = none := hnone
        subst haudio
        refine Or.inr ⟨boardOf (video.toList.map (OutputTrack.port none)), [], ?_, ?_⟩
        · simp [boardOf, OutputPair.ports, OutputPair.outputs]
        · simp [boardOf, OutputPair.ports, OutputPair.setOutput, OutputPair.outputs,
            OutputTrack.port, Port.entry]

/-- Clearing a pair keeps the mid of its output. -/
theorem output_clear_of_output {pair : OutputPair} {mediaType : MediaType} {mid : Bytes}
    (h : (∃ output, pair.output mediaType = some output ∧ output.mid = mid) ∨
      pair.output mediaType = none) :
    (∃ output, pair.clear.output mediaType = some output ∧ output.mid = mid) ∨
      pair.clear.output mediaType = none := by
  unfold OutputPair.clear
  split
  · exact h
  · rcases h with ⟨output, houtput, hmid⟩ | hnone
    · refine Or.inl ⟨output.stop, ?_, hmid⟩
      cases mediaType with
      | video => exact congrArg (Option.map OutputTrack.stop) houtput
      | audio => exact congrArg (Option.map OutputTrack.stop) houtput
    · right
      cases mediaType with
      | video => exact congrArg (Option.map OutputTrack.stop) hnone
      | audio => exact congrArg (Option.map OutputTrack.stop) hnone

end Screen

namespace ScreenRouter

open Screen RouterModel

/-- The board of a subscriber. -/
def board (router : ScreenRouter) (subscriber : PeerId) : List (Bytes × Option PeerId) :=
  boardOf (router.portsOf subscriber)

theorem mem_board {router : ScreenRouter} {subscriber : PeerId}
    {entry : Bytes × Option PeerId} :
    entry ∈ router.board subscriber ↔
      ∃ pair ∈ router.pairsOf subscriber, ∃ output ∈ pair.outputs,
        (output.mid, pair.publisher) = entry := by
  simp only [board, boardOf, portsOf, List.mem_map, List.mem_flatMap, OutputPair.ports]
  constructor
  · rintro ⟨_, ⟨pair, hpair, output, houtput, rfl⟩, rfl⟩
    exact ⟨pair, hpair, output, houtput, rfl⟩
  · rintro ⟨pair, hpair, output, houtput, rfl⟩
    exact ⟨_, ⟨pair, hpair, output, houtput, rfl⟩, rfl⟩

theorem mem_notices {send : BindingSender} {pair : OutputPair} {notice : BindingNotice} :
    notice ∈ pair.notices send ↔
      ∃ output ∈ pair.outputs, output.ready = true ∧
        notice = ⟨send, output.mid, pair.publisher⟩ := by
  simp only [OutputPair.notices, List.mem_map, List.mem_filter]
  constructor
  · rintro ⟨output, ⟨houtput, hready⟩, rfl⟩
    exact ⟨output, houtput, hready, rfl⟩
  · rintro ⟨output, houtput, hready, rfl⟩
    exact ⟨output, ⟨houtput, hready⟩, rfl⟩

/-- Every output of a pair after a step of its ports has an entry on the board. -/
theorem entry_of_port {pair : OutputPair} {port : Port} (h : port ∈ pair.ports) :
    ∃ output ∈ pair.outputs, port.entry = (output.mid, pair.publisher) := by
  rcases List.mem_map.mp h with ⟨output, houtput, rfl⟩
  exact ⟨output, houtput, rfl⟩

/-! ## The loop over bound pairs -/

theorem mem_noticesTo_sweepBound {router : ScreenRouter} (h : Senders router)
    {concerned : PeerId → Bool} {owner subscriber : PeerId}
    {update : OutputPair → OutputPair} {entry : Bytes × Option PeerId} :
    entry ∈ noticesTo subscriber (router.sweepBound concerned owner update).2 ↔
      concerned subscriber = true ∧ ∃ pair ∈ router.pairsOf subscriber,
        pair.publisher = some owner ∧ ∃ output ∈ (update pair).outputs,
          output.ready = true ∧ (output.mid, (update pair).publisher) = entry := by
  rw [mem_noticesTo]
  simp only [sweepBound, List.mem_flatMap]
  constructor
  · rintro ⟨⟨peerId, peer⟩, hentry, hnotice⟩
    dsimp only at hnotice
    split at hnotice
    · rename_i hconcerned
      rcases List.mem_flatMap.mp hnotice with ⟨pair, hpair, hnotice⟩
      rcases List.mem_filter.mp hpair with ⟨hpair, howner⟩
      rcases mem_notices.mp hnotice with ⟨output, houtput, hready, heq⟩
      have hlookup := AList.mem_lookup_iff.mpr hentry
      have hsender := h peerId peer hlookup (List.ne_nil_of_mem hpair)
      simp only [hsender, BindingNotice.mk.injEq, Option.some.injEq] at heq
      rcases heq with ⟨rfl, hmid, hpublisher⟩
      refine ⟨hconcerned, pair, ?_, of_decide_eq_true howner, output, houtput, hready, ?_⟩
      · rwa [pairsOf_of_lookup hlookup]
      · rw [← hmid, ← hpublisher]
    · simp at hnotice
  · rintro ⟨hconcerned, pair, hpair, howner, output, houtput, hready, rfl⟩
    rcases Table.mem_iff_exists_lookup.mp (mem_of_mem_pairsOf hpair) with ⟨peer, hpeer⟩
    rw [pairsOf_of_lookup hpeer] at hpair
    refine ⟨⟨subscriber, peer⟩, AList.mem_lookup_iff.mp hpeer, ?_⟩
    dsimp only
    rw [if_pos hconcerned]
    refine List.mem_flatMap.mpr ⟨pair, List.mem_filter.mpr ⟨hpair, decide_eq_true howner⟩, ?_⟩
    refine mem_notices.mpr ⟨output, houtput, hready, ?_⟩
    rw [h subscriber peer hpeer (List.ne_nil_of_mem hpair)]

/-- Pairs bound to a publisher have both outputs ready. -/
def BoundReady (router : ScreenRouter) (owner : PeerId) : Prop :=
  ∀ peerId, ∀ pair ∈ router.pairsOf peerId, pair.publisher = some owner → pair.Ready

theorem Inv.boundReady {router : ScreenRouter} (h : router.Inv) (owner : PeerId) :
    router.BoundReady owner :=
  fun peerId pair hpair hpublisher => (h.bound peerId pair hpair owner hpublisher).ready

/-- A sweep gives faithful notice when its update steps the ports and leaves
ready pairs ready. -/
theorem faithful_sweepBound {router : ScreenRouter} (h : Senders router)
    (concerned : PeerId → Bool) (owner subscriber : PeerId)
    {update : OutputPair → OutputPair} (hbound : router.BoundReady owner)
    (hupdate : ∀ pair, List.Forall₂ Port.Step (OutputPair.ports pair) (update pair).ports)
    (hready : ∀ pair, OutputPair.Ready pair → (update pair).Ready) :
    Faithful (router.board subscriber)
      ((router.sweepBound concerned owner update).1.board subscriber)
      (noticesTo subscriber (router.sweepBound concerned owner update).2) := by
  refine Faithful.of_reported (reported_of_steps
    (evolve_sweepBound router concerned owner hupdate subscriber) ?_ ?_)
  · intro notice hnotice
    rcases (mem_noticesTo_sweepBound h).mp hnotice with
      ⟨hconcerned, pair, hpair, howner, output, houtput, _, rfl⟩
    refine mem_board.mpr ⟨update pair, ?_, output, houtput, rfl⟩
    rw [pairsOf_sweepBound, if_pos hconcerned]
    exact List.mem_map.mpr ⟨pair, hpair, by simp [OutputPair.ifBoundTo, howner]⟩
  · intro port' hport'
    rw [portsOf, pairsOf_sweepBound] at hport'
    rcases List.mem_flatMap.mp hport' with ⟨pair', hpair', hport⟩
    rcases entry_of_port hport with ⟨output, houtput, hentry⟩
    rw [hentry]
    split at hpair'
    · rename_i hconcerned
      rcases List.mem_map.mp hpair' with ⟨pair, hpair, rfl⟩
      unfold OutputPair.ifBoundTo at houtput ⊢
      split at houtput
      · rename_i howner
        rw [if_pos howner]
        refine Or.inr ((mem_noticesTo_sweepBound h).mpr
          ⟨hconcerned, pair, hpair, howner, output, houtput, ?_, rfl⟩)
        exact (hready pair (hbound subscriber pair hpair howner)).outputs_ready output houtput
      · rename_i howner
        rw [if_neg howner]
        exact Or.inl (mem_board.mpr ⟨pair, hpair, output, houtput, rfl⟩)
    · exact Or.inl (mem_board.mpr ⟨pair', hpair', output, houtput, rfl⟩)

/-! ## The assignment pass -/

theorem mem_noticesTo_assign {router : ScreenRouter} (h : Senders router) {expired : Expiry}
    {subscriber : PeerId} {entry : Bytes × Option PeerId} :
    entry ∈ noticesTo subscriber (router.assignAvailableLocked expired).2 ↔
      ∃ peer, router.peers.lookup subscriber = some peer ∧
        ∃ binding ∈ (router.assignSubscriber expired subscriber peer).1,
          ∃ output ∈ binding.2.outputs, output.ready = true ∧
            (output.mid, binding.2.publisher) = entry := by
  have hnonempty : ∀ {peerId} {peer : PeerState} {binding},
      binding ∈ (router.assignSubscriber expired peerId peer).1 → peer.outputs ≠ [] := by
    intro peerId peer binding hbinding hnil
    simp [assignSubscriber, hnil] at hbinding
  rw [mem_noticesTo]
  simp only [assignAvailableLocked, List.mem_flatMap, mem_orderedPeersLocked]
  constructor
  · rintro ⟨peerId, hmem, hnotice⟩
    rcases Table.mem_iff_exists_lookup.mp hmem with ⟨peer, hpeer⟩
    simp only [assignmentNotices, hpeer, List.mem_flatMap] at hnotice
    rcases hnotice with ⟨binding, hbinding, hnotice⟩
    rcases mem_notices.mp hnotice with ⟨output, houtput, hready, heq⟩
    simp only [h peerId peer hpeer (hnonempty hbinding), BindingNotice.mk.injEq,
      Option.some.injEq] at heq
    rcases heq with ⟨rfl, hmid, hpublisher⟩
    exact ⟨peer, hpeer, binding, hbinding, output, houtput, hready, by rw [← hmid, ← hpublisher]⟩
  · rintro ⟨peer, hpeer, binding, hbinding, output, houtput, hready, rfl⟩
    refine ⟨subscriber, Table.mem_of_lookup hpeer, ?_⟩
    simp only [assignmentNotices, hpeer, List.mem_flatMap]
    refine ⟨binding, hbinding, mem_notices.mpr ⟨output, houtput, hready, ?_⟩⟩
    rw [h subscriber peer hpeer (hnonempty hbinding)]

theorem faithful_assignAvailableLocked {router : ScreenRouter} (h : Senders router)
    (expired : Expiry) (subscriber : PeerId) :
    Faithful (router.board subscriber)
      ((router.assignAvailableLocked expired).1.board subscriber)
      (noticesTo subscriber (router.assignAvailableLocked expired).2) := by
  refine Faithful.of_reported (reported_of_steps
    (evolve_assignAvailableLocked router expired subscriber) ?_ ?_)
  · intro notice hnotice
    rcases (mem_noticesTo_assign h).mp hnotice with
      ⟨peer, hpeer, binding, hbinding, output, houtput, _, rfl⟩
    rcases mem_of_mem_bindings (fun _ _ _ => available_bindTo _ _ _) hbinding with
      ⟨_, _, hmem⟩
    refine mem_board.mpr ⟨binding.2, ?_, output, houtput, rfl⟩
    rw [pairsOf_assignAvailableLocked hpeer]
    exact hmem
  · intro port' hport'
    rcases List.mem_flatMap.mp hport' with ⟨pair', hpair', hport⟩
    rcases entry_of_port hport with ⟨output, houtput, hentry⟩
    rw [hentry]
    have hmem : subscriber ∈ router.peers := by simpa using mem_of_mem_pairsOf hpair'
    rcases Table.mem_iff_exists_lookup.mp hmem with ⟨peer, hpeer⟩
    rw [pairsOf_assignAvailableLocked hpeer] at hpair'
    rcases forall₂_mem_right (served_assignSubscriber router expired subscriber peer) hpair' with
      ⟨pair, hpair, hserved⟩
    rcases hserved with rfl | ⟨publisher, _, _, havailable, rfl, hbinding⟩
    · refine Or.inl (mem_board.mpr ⟨pair', ?_, output, houtput, rfl⟩)
      rwa [pairsOf_of_lookup hpeer]
    · refine Or.inr ((mem_noticesTo_assign h).mpr
        ⟨peer, hpeer, _, hbinding, output, houtput, ?_, rfl⟩)
      exact ((OutputPair.ready_of_available havailable).bindTo publisher).outputs_ready
        output houtput

/-! ## Placing an output -/

/-- Clearing the pair of a new output gives faithful notice. -/
theorem faithful_clearedPorts {router : ScreenRouter} (h : router.Inv) (owner : PeerId)
    (track : Track) (mediaType : MediaType) (subscriber : PeerId) :
    Faithful (router.board subscriber)
      (boardOf (router.clearedPorts owner track mediaType subscriber))
      (noticesTo subscriber (router.clearedNotices owner track mediaType)) := by
  refine Faithful.of_reported (reported_of_steps
    (evolve_clearedPorts track mediaType router owner subscriber) ?_ ?_)
  · intro notice hnotice
    rw [mem_noticesTo, clearedNotices] at hnotice
    split at hnotice
    · simp at hnotice
    · rcases mem_notices.mp hnotice with ⟨output, houtput, _, heq⟩
      simp only [BindingNotice.mk.injEq, Option.some.injEq] at heq
      rcases heq with ⟨rfl, hmid, hpublisher⟩
      rw [clearedPorts, Function.update_self]
      refine List.mem_map.mpr ⟨output.port none, ?_, ?_⟩
      · refine List.mem_flatMap.mpr ⟨_, List.mem_append_right _ List.mem_cons_self, ?_⟩
        rw [OutputPair.ports, OutputPair.publisher_clear]
        exact List.mem_map_of_mem houtput
      · rw [OutputPair.publisher_clear] at hpublisher
        exact Prod.ext hmid.symm hpublisher.symm
  · intro port' hport'
    by_cases hsame : subscriber = owner
    · subst hsame
      rcases placedPairs_spec track 0 mediaType router subscriber with
        ⟨first, pair, second, hfound, _, hpairs⟩
      rw [clearedPorts, Function.update_self, hfound] at hport'
      rcases List.mem_flatMap.mp hport' with ⟨pair', hpair', hport⟩
      rcases entry_of_port hport with ⟨output, houtput, hentry⟩
      rw [hentry]
      rcases List.mem_append.mp hpair' with hold | hold
      · refine Or.inl (mem_board.mpr ⟨pair', ?_, output, houtput, rfl⟩)
        rcases hpairs with hpairs | ⟨hpairs, _, _⟩
        · exact hpairs ▸ List.mem_append_left _ hold
        · exact hpairs ▸ hold
      · rcases List.mem_cons.mp hold with rfl | hold
        · by_cases hunbound : pair.publisher = none
          · rw [OutputPair.clear, if_pos hunbound] at houtput ⊢
            refine Or.inl (mem_board.mpr ⟨pair, ?_, output, houtput, rfl⟩)
            rcases hpairs with hpairs | ⟨_, rfl, _⟩
            · exact hpairs ▸ List.mem_append_right _ List.mem_cons_self
            · simp [OutputPair.outputs] at houtput
          · have hmem : pair ∈ router.pairsOf subscriber := by
              rcases hpairs with hpairs | ⟨_, rfl, _⟩
              · exact hpairs ▸ List.mem_append_right _ List.mem_cons_self
              · exact absurd rfl hunbound
            rcases Option.ne_none_iff_exists'.mp hunbound with ⟨publisher, hpublisher⟩
            have hready := (h.bound subscriber pair hmem publisher hpublisher).ready
            refine Or.inr (mem_noticesTo.mpr ?_)
            simp only [clearedNotices, hfound, if_neg hunbound]
            exact mem_notices.mpr
              ⟨output, houtput, hready.clear.outputs_ready output houtput, rfl⟩
        · refine Or.inl (mem_board.mpr ⟨pair', ?_, output, houtput, rfl⟩)
          rcases hpairs with hpairs | ⟨_, _, rfl⟩
          · exact hpairs ▸ List.mem_append_right _ (List.mem_cons_of_mem _ hold)
          · simp at hold
    · rw [clearedPorts, Function.update_of_ne hsame] at hport'
      exact Or.inl (List.mem_map_of_mem hport')

/-- Writing the new output needs no notice. -/
theorem faithful_setOutput {router : ScreenRouter} {owner : PeerId}
    (hmem : owner ∈ router.peers) (track : Track) (ssrc : UInt32) (mediaType : MediaType)
    (subscriber : PeerId) :
    Faithful (boardOf (router.clearedPorts owner track mediaType subscriber))
      ((router.placeFresh owner track ssrc mediaType).board subscriber) [] := by
  by_cases hsame : subscriber = owner
  · subst hsame
    rcases outputPairFor_spec mediaType track.mid (router.pairsOf subscriber) with
      ⟨first, pair, second, hfound, _, hplace⟩
    have hfound' : router.placeFor subscriber track mediaType = (first, pair, second) := hfound
    have hbefore : boardOf (router.clearedPorts subscriber track mediaType subscriber) =
        boardOf (first.flatMap OutputPair.ports) ++
          (boardOf pair.clear.ports ++ boardOf (second.flatMap OutputPair.ports)) := by
      simp only [clearedPorts, Function.update_self, hfound', boardOf, List.flatMap_append,
        List.flatMap_cons, List.map_append]
    have hafter : (router.placeFresh subscriber track ssrc mediaType).board subscriber =
        boardOf (first.flatMap OutputPair.ports) ++
          (boardOf (pair.clear.setOutput mediaType
            (some (router.freshOutput track ssrc mediaType))).ports ++
            boardOf (second.flatMap OutputPair.ports)) := by
      simp only [board, portsOf, pairsOf_placeFresh_owner hmem, placedPairs, hfound', boardOf,
        List.flatMap_append, List.flatMap_cons, List.map_append]
    rw [hbefore, hafter]
    have hkept := output_clear_of_output (hplace.imp_right And.left)
    rcases boardOf_setOutput pair.publisher_clear mediaType
      (router.freshOutput track ssrc mediaType) hkept with heq | ⟨left, right, hold, hnew⟩
    · rw [heq]
      exact Faithful.refl _
    · rw [hold, hnew]
      have hinsert := Faithful.insert (boardOf (first.flatMap OutputPair.ports) ++ left)
        (right ++ boardOf (second.flatMap OutputPair.ports)) track.mid
      simpa [freshOutput] using hinsert
  · have hboard : (router.placeFresh owner track ssrc mediaType).board subscriber =
        boardOf (router.clearedPorts owner track mediaType subscriber) := by
      rw [board, (place_placeFresh hmem track ssrc mediaType).others subscriber hsame]
    rw [hboard]
    exact Faithful.refl _

theorem faithful_placeFresh {router : ScreenRouter} (h : router.Inv) {owner : PeerId}
    (hmem : owner ∈ router.peers) (track : Track) (ssrc : UInt32) (mediaType : MediaType)
    (subscriber : PeerId) :
    Faithful (router.board subscriber)
      ((router.placeFresh owner track ssrc mediaType).board subscriber)
      (noticesTo subscriber (router.clearedNotices owner track mediaType)) := by
  have hboth := (faithful_clearedPorts h owner track mediaType subscriber).trans
    (faithful_setOutput hmem track ssrc mediaType subscriber)
  rwa [List.append_nil] at hboth

/-! ## Operations -/

theorem board_of_pairsOf_eq {router router' : ScreenRouter} {subscriber : PeerId}
    (h : router'.pairsOf subscriber = router.pairsOf subscriber) :
    router'.board subscriber = router.board subscriber := by
  rw [board, board, portsOf, portsOf, h]

theorem BoundReady.of_pairsOf_eq {router router' : ScreenRouter} {owner : PeerId}
    (hbound : router.BoundReady owner)
    (h : ∀ peerId, router'.pairsOf peerId = router.pairsOf peerId) :
    router'.BoundReady owner := by
  intro peerId pair hpair
  rw [h] at hpair
  exact hbound peerId pair hpair

/-- A peer update that leaves the pairs alone, followed by a sweep. -/
theorem faithful_modifyPeer_sweepBound {router : ScreenRouter} (h : router.Inv)
    (peerId owner subscriber : PeerId) {f : PeerState → PeerState} (concerned : PeerId → Bool)
    {update : OutputPair → OutputPair} (houtputs : ∀ peer, (f peer).outputs = peer.outputs)
    (hsender : ∀ peer, (f peer).sendBinding = some peerId ∨
      (f peer).sendBinding = peer.sendBinding)
    (hupdate : ∀ pair, List.Forall₂ Port.Step (OutputPair.ports pair) (update pair).ports)
    (hready : ∀ pair, OutputPair.Ready pair → (update pair).Ready) :
    Faithful (router.board subscriber)
      (((router.modifyPeer peerId f).sweepBound concerned owner update).1.board subscriber)
      (noticesTo subscriber
        ((router.modifyPeer peerId f).sweepBound concerned owner update).2) := by
  have hpairs : ∀ other, (router.modifyPeer peerId f).pairsOf other = router.pairsOf other := by
    intro other
    refine pairsOf_of_lookup_map (lookup_modifyPeer router peerId other f) fun peer => ?_
    split
    · exact houtputs peer
    · rfl
  have hsenders : (router.modifyPeer peerId f).Senders := by
    refine h.senders.modifyPeer fun peer => (hsender peer).imp_right fun hsame => ⟨hsame, ?_⟩
    intro hnil
    rw [houtputs, hnil]
  rw [← board_of_pairsOf_eq (hpairs subscriber)]
  exact faithful_sweepBound hsenders concerned owner subscriber
    ((h.boundReady owner).of_pairsOf_eq hpairs) hupdate hready

theorem faithful_thenAssign {router : ScreenRouter}
    {first : ScreenRouter × List BindingNotice} {subscriber : PeerId}
    (hsenders : Senders first.1) (expired : Expiry)
    (h : Faithful (router.board subscriber) (first.1.board subscriber)
      (noticesTo subscriber first.2)) :
    Faithful (router.board subscriber) ((thenAssign expired first).1.board subscriber)
      (noticesTo subscriber (thenAssign expired first).2) := by
  rw [thenAssign, noticesTo_append]
  exact h.trans (faithful_assignAvailableLocked hsenders expired subscriber)

theorem board_peerForLocked (router : ScreenRouter) (peerId subscriber : PeerId) :
    (router.peerForLocked peerId).board subscriber = router.board subscriber :=
  board_of_pairsOf_eq (pairsOf_peerForLocked router peerId subscriber)

theorem faithful_storeInput {router : ScreenRouter} (h : router.Inv)
    (hopen : router.closed = false) (owner : PeerId) (track : Track) (mediaType : MediaType)
    (subscriber : PeerId) :
    Faithful (router.board subscriber)
      ((router.storeInput owner track mediaType).1.board subscriber)
      (noticesTo subscriber (router.storeInput owner track mediaType).2) := by
  have hthere := (progress_peerForLocked hopen owner).inv h
  have houtputs : ∀ peer : PeerState, ({ peer.setInputState mediaType
      ((peer.input mediaType).store track) with sendBinding := some owner } :
        PeerState).outputs = peer.outputs := by
    intro peer
    cases mediaType <;> rfl
  rw [← board_peerForLocked router owner]
  unfold storeInput
  dsimp only
  split
  · exact faithful_modifyPeer_sweepBound hthere owner owner subscriber _ houtputs
      (fun _ => Or.inl rfl) (OutputPair.steps_restart mediaType) fun _ h => h.restart mediaType
  · have hpairs : ((router.peerForLocked owner).modifyPeer owner fun peer =>
        { peer.setInputState mediaType ((peer.input mediaType).store track) with
          sendBinding := some owner }).pairsOf subscriber =
            (router.peerForLocked owner).pairsOf subscriber := by
      refine pairsOf_of_lookup_map (lookup_modifyPeer _ owner subscriber _) fun peer => ?_
      split
      · exact houtputs peer
      · rfl
    rw [board_of_pairsOf_eq hpairs]
    exact Faithful.refl _

theorem faithful_registerTrack {router : ScreenRouter} (h : router.Inv) (expired : Expiry)
    (owner : PeerId) (track : Option Track) (ssrc : UInt32) (subscriber : PeerId) :
    Faithful (router.board subscriber)
      ((router.registerTrack expired owner track ssrc (some owner)).1.board subscriber)
      (noticesTo subscriber
        (router.registerTrack expired owner track ssrc (some owner)).2.1) := by
  rcases registerTrack_cases router expired owner track ssrc with
    heq | ⟨hopen, input, mediaType, _, rfl, heq⟩ | ⟨hopen, output, mediaType, heq⟩
  · rw [heq]
    exact Faithful.refl _
  · rw [heq]
    exact faithful_thenAssign ((progress_storeInput hopen owner input mediaType).inv h).senders
      expired (faithful_storeInput h hopen owner input mediaType subscriber)
  · rw [heq, ← board_peerForLocked router owner]
    have hmem : owner ∈ (router.peerForLocked owner).peers := by simp
    exact faithful_placeFresh ((progress_peerForLocked hopen owner).inv h) hmem output ssrc
      mediaType subscriber

theorem faithful_finishOutput {router : ScreenRouter} (h : router.Inv) (expired : Expiry)
    (pending : PendingOutput) (subscriber : PeerId) :
    Faithful (router.board subscriber)
      ((router.finishOutput expired pending).1.board subscriber)
      (noticesTo subscriber (router.finishOutput expired pending).2) := by
  rcases finishOutput_cases router expired pending with ⟨heq, _⟩ | heq
  · rw [heq]
    exact Faithful.refl _
  · rw [heq]
    refine faithful_thenAssign ((progress_markOutput router pending).inv h).senders expired ?_
    rw [board, board, portsOf_markOutput]
    exact Faithful.refl _

theorem faithful_storeStreaming {router : ScreenRouter} (h : router.Inv) (peerId : PeerId)
    (streaming : Bool) (subscriber : PeerId) :
    Faithful (router.board subscriber)
      ((router.storeStreaming peerId streaming).1.board subscriber)
      (noticesTo subscriber (router.storeStreaming peerId streaming).2) := by
  unfold storeStreaming
  dsimp only
  split
  · rw [board_of_pairsOf_eq (pairsOf_stored_streaming router peerId subscriber streaming)]
    exact Faithful.refl _
  · exact faithful_modifyPeer_sweepBound h peerId peerId subscriber _ (fun _ => rfl)
      (fun _ => Or.inr rfl) OutputPair.steps_clear fun _ h => h.clear

theorem faithful_setStreaming {router : ScreenRouter} (h : router.Inv) (expired : Expiry)
    (peerId : PeerId) (streaming : Bool) (subscriber : PeerId) :
    Faithful (router.board subscriber)
      ((router.setStreaming expired peerId streaming).1.board subscriber)
      (noticesTo subscriber (router.setStreaming expired peerId streaming).2) := by
  rcases setStreaming_cases router expired peerId streaming with heq | ⟨hopen, heq | heq⟩
  · rw [heq]
    exact Faithful.refl _
  · rw [heq, board_peerForLocked]
    exact Faithful.refl _
  · rw [heq, ← board_peerForLocked router peerId]
    have hthere := (progress_peerForLocked hopen peerId).inv h
    exact faithful_thenAssign ((progress_storeStreaming _ peerId streaming).inv hthere).senders
      expired (faithful_storeStreaming hthere peerId streaming subscriber)

theorem faithful_setWatching {router : ScreenRouter} (h : router.Inv) (expired : Expiry)
    (peerId publisher : PeerId) (watching : Bool) (subscriber : PeerId) :
    Faithful (router.board subscriber)
      ((router.setWatching expired peerId publisher watching).1.board subscriber)
      (noticesTo subscriber (router.setWatching expired peerId publisher watching).2) := by
  rcases setWatching_cases router expired peerId publisher watching with
    heq | ⟨hopen, heq | heq | heq⟩
  · rw [heq]
    exact Faithful.refl _
  · rw [heq, board_peerForLocked]
    exact Faithful.refl _
  · rw [heq, ← board_peerForLocked router peerId]
    have hthere := (progress_peerForLocked hopen peerId).inv h
    refine faithful_thenAssign ((progress_startWatching _ peerId publisher).inv hthere).senders
      expired ?_
    have hpairs : ((router.peerForLocked peerId).startWatching peerId publisher).pairsOf
        subscriber = (router.peerForLocked peerId).pairsOf subscriber :=
      pairsOf_of_lookup_map (lookup_modifyPeer _ peerId subscriber _) fun _ => by split <;> rfl
    rw [board_of_pairsOf_eq hpairs]
    exact Faithful.refl _
  · rw [heq, ← board_peerForLocked router peerId]
    have hthere := (progress_peerForLocked hopen peerId).inv h
    exact faithful_thenAssign ((progress_stopWatching _ peerId publisher).inv hthere).senders
      expired (faithful_modifyPeer_sweepBound hthere peerId publisher subscriber _
        (fun _ => rfl) (fun _ => Or.inr rfl) OutputPair.steps_clear fun _ h => h.clear)

theorem faithful_removePeer {router : ScreenRouter} (h : router.Inv) (expired : Expiry)
    {peerId subscriber : PeerId} (hne : subscriber ≠ peerId) :
    Faithful (router.board subscriber) ((router.removePeer expired peerId).1.board subscriber)
      (noticesTo subscriber (router.removePeer expired peerId).2) := by
  unfold removePeer
  split
  · exact Faithful.refl _
  · have hpairs : (router.erasePeer peerId).pairsOf subscriber = router.pairsOf subscriber := by
      rw [pairsOf_erasePeer, if_neg hne]
    have hbound : (router.erasePeer peerId).BoundReady peerId := by
      intro other pair hpair
      rw [pairsOf_erasePeer] at hpair
      split at hpair
      · simp at hpair
      · exact h.boundReady peerId other pair hpair
    refine faithful_thenAssign ((progress_dropPeer router peerId).inv h).senders expired ?_
    rw [← board_of_pairsOf_eq hpairs]
    exact faithful_sweepBound (h.senders.erasePeer peerId) _ peerId subscriber hbound
      OutputPair.steps_clear fun _ h => h.clear

/-! ## The laws -/

theorem mem_thenAssign (expired : Expiry) (first : ScreenRouter × List BindingNotice)
    (peerId : PeerId) :
    peerId ∈ (thenAssign expired first).1.peers ↔ peerId ∈ first.1.peers :=
  mem_assignAvailableLocked _ _ _

theorem mem_storeInput (router : ScreenRouter) (owner : PeerId) (track : Track)
    (mediaType : MediaType) (peerId : PeerId) :
    peerId ∈ (router.storeInput owner track mediaType).1.peers ↔
      peerId = owner ∨ peerId ∈ router.peers := by
  unfold storeInput
  dsimp only
  split <;> simp

theorem mem_storeStreaming (router : ScreenRouter) (peerId : PeerId) (streaming : Bool)
    (other : PeerId) :
    other ∈ (router.storeStreaming peerId streaming).1.peers ↔ other ∈ router.peers := by
  unfold storeStreaming
  dsimp only
  split <;> simp

theorem mem_registerTrack {router : ScreenRouter} {expired : Expiry} {owner : PeerId}
    {track : Option Track} {ssrc : UInt32} {peerId : PeerId}
    (h : peerId ∈ (router.registerTrack expired owner track ssrc (some owner)).1.peers) :
    peerId ∈ router.peers ∨ peerId = owner := by
  rcases registerTrack_cases router expired owner track ssrc with
    heq | ⟨_, input, mediaType, _, rfl, heq⟩ | ⟨_, output, mediaType, heq⟩
  · rw [heq] at h
    exact Or.inl h
  · rw [heq, mem_thenAssign, mem_storeInput] at h
    exact h.symm
  · rw [heq, mem_placeFresh, mem_peerForLocked] at h
    exact h.symm

theorem mem_setStreaming {router : ScreenRouter} {expired : Expiry} {peerId other : PeerId}
    {streaming : Bool} (h : other ∈ (router.setStreaming expired peerId streaming).1.peers) :
    other ∈ router.peers ∨ other = peerId := by
  rcases setStreaming_cases router expired peerId streaming with heq | ⟨_, heq | heq⟩
  · rw [heq] at h
    exact Or.inl h
  · rw [heq, mem_peerForLocked] at h
    exact h.symm
  · rw [heq, mem_thenAssign, mem_storeStreaming, mem_peerForLocked] at h
    exact h.symm

theorem mem_setWatching {router : ScreenRouter} {expired : Expiry}
    {peerId publisher other : PeerId} {watching : Bool}
    (h : other ∈ (router.setWatching expired peerId publisher watching).1.peers) :
    other ∈ router.peers ∨ other = peerId := by
  rcases setWatching_cases router expired peerId publisher watching with
    heq | ⟨_, heq | heq | heq⟩
  · rw [heq] at h
    exact Or.inl h
  · rw [heq, mem_peerForLocked] at h
    exact h.symm
  · rw [heq, mem_thenAssign, startWatching, mem_modifyPeer, mem_peerForLocked] at h
    exact h.symm
  · rw [heq, mem_thenAssign, stopWatching, mem_sweepBound, mem_modifyPeer,
      mem_peerForLocked] at h
    exact h.symm

theorem mem_removePeer {router : ScreenRouter} {expired : Expiry} {peerId other : PeerId}
    (h : other ∈ (router.removePeer expired peerId).1.peers) :
    other ∈ router.peers ∧ (router.closed = false → other ≠ peerId) := by
  unfold removePeer at h
  split at h
  · rename_i hclosed
    exact ⟨h, fun hopen => by rw [hopen] at hclosed; contradiction⟩
  · rw [mem_thenAssign, mem_sweepBound] at h
    rcases (mem_erasePeer router peerId other).mp h with ⟨hne, hmem⟩
    exact ⟨hmem, fun _ => hne⟩

theorem mem_finishOutput {router : ScreenRouter} {expired : Expiry} {pending : PendingOutput}
    {peerId : PeerId} (h : peerId ∈ (router.finishOutput expired pending).1.peers) :
    peerId ∈ router.peers := by
  rcases finishOutput_cases router expired pending with ⟨heq, _⟩ | heq
  · rwa [heq] at h
  · rwa [heq, mem_thenAssign, mem_markOutput] at h

theorem Undisturbed.board_eq {router router' : ScreenRouter} (h : Undisturbed router router') :
    router'.board = router.board := by
  funext subscriber
  rw [board, board, h.ports]

theorem Undisturbed.present_eq {router router' : ScreenRouter}
    (h : Undisturbed router router') :
    (fun peerId => decide (peerId ∈ router'.peers)) =
      fun peerId => decide (peerId ∈ router.peers) := by
  funext peerId
  simp only [h.mem peerId]

/-- A closed router has no peers, and closing it again changes nothing. -/
theorem board_close {router : ScreenRouter} {peerId : PeerId}
    (h : peerId ∈ router.close.peers) :
    decide (peerId ∈ router.peers) = true ∧
      router.close.board peerId = router.board peerId := by
  cases hclosed : router.closed with
  | true =>
      rw [close, if_pos hclosed] at h ⊢
      exact ⟨decide_eq_true h, rfl⟩
  | false => simp [close, hclosed] at h

theorem faithful_operate {router : ScreenRouter} (h : router.Inv) (seen : Expiry)
    (operation : Operation) {subscriber : PeerId}
    (hpresent : subscriber ∈ (router.operate seen operation).1.peers) :
    Faithful (router.board subscriber) ((router.operate seen operation).1.board subscriber)
      (noticesTo subscriber (router.operate seen operation).2.1) := by
  cases operation with
  | registerTrack owner track ssrc =>
      exact faithful_registerTrack h seen owner track ssrc subscriber
  | setStreaming peerId streaming =>
      exact faithful_setStreaming h seen peerId streaming subscriber
  | setWatching peerId publisher watching =>
      exact faithful_setWatching h seen peerId publisher watching subscriber
  | removePeer peerId =>
      cases hclosed : router.closed with
      | true => exact absurd (mem_removePeer hpresent).1 (h.closed hclosed subscriber)
      | false => exact faithful_removePeer h seen ((mem_removePeer hpresent).2 hclosed)

section

variable (isRtcp : Bytes → Bool) (gaussian : ℚ → ℚ → ℚ)

theorem noticeLaws : (model isRtcp gaussian).NoticeLaws Inv board where
  toStateLaws := stateLaws isRtcp gaussian
  board_absent router subscriber habsent := by
    have hnil : router.pairsOf subscriber = [] := pairsOf_of_notMem (of_decide_eq_false habsent)
    simp only [board, portsOf, hnil]
    rfl
  operate_joins seen operation router subscriber hpresent := by
    have hmem : subscriber ∈ (router.operate seen operation).1.peers :=
      of_decide_eq_true hpresent
    cases operation with
    | registerTrack owner track ssrc =>
        exact (mem_registerTrack hmem).imp_left fun h => decide_eq_true h
    | setStreaming peerId streaming =>
        exact (mem_setStreaming hmem).imp_left fun h => decide_eq_true h
    | setWatching peerId publisher watching =>
        exact (mem_setWatching hmem).imp_left fun h => decide_eq_true h
    | removePeer peerId => exact Or.inl (decide_eq_true (mem_removePeer hmem).1)
  operate_faithful seen operation _ _ h hpresent :=
    faithful_operate h seen operation (of_decide_eq_true hpresent)
  resume_joins _ _ _ _ hpresent :=
    decide_eq_true (mem_finishOutput (of_decide_eq_true hpresent))
  resume_faithful seen pending _ subscriber h _ := faithful_finishOutput h seen pending subscriber
  interrupt_board call router subscriber hpresent := by
    have hmem : subscriber ∈ (router.interrupt call).peers := of_decide_eq_true hpresent
    cases call with
    | close => exact board_close hmem
    | updateFaultConfig faultConfig => exact ⟨hpresent, rfl⟩
  route_board expired arrival router :=
    ⟨(undisturbed_route isRtcp gaussian router expired arrival).present_eq,
      (undisturbed_route isRtcp gaussian router expired arrival).board_eq⟩
  flush_board now router :=
    ⟨(undisturbed_flushDelayed router now).present_eq,
      (undisturbed_flushDelayed router now).board_eq⟩
  forward_board expired item router :=
    ⟨(undisturbed_forwardDelayed router expired item).present_eq,
      (undisturbed_forwardDelayed router expired item).board_eq⟩
  sendTurn_board expired isOpen send _ h :=
    ⟨(undisturbed_sendTurn isRtcp h expired isOpen send).present_eq,
      (undisturbed_sendTurn isRtcp h expired isOpen send).board_eq⟩

end

end ScreenRouter

end Sfu
end Driscord
