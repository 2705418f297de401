import Driscord.Sfu.ScreenInvariant

/-!
# The screen router's operations

`register_output` places an output in its first critical section and marks it
ready in its second.  With these two parts every operation is a chain of parts
that keep the invariant.

Main results:

- Theorem `place_placeFresh`: the first section of `register_output` clears one
  pair and gives it a new port.
- Theorem `progress_registerTrack`, theorem `progress_finishOutput`, theorem
  `progress_setStreaming`, theorem `progress_setWatching` and theorem
  `progress_removePeer`: every operation keeps the invariant.
-/

namespace Driscord
namespace Sfu

open Library

namespace Screen

/-! ## Placing an output in a pair -/

/-- The port of an output written to an unbound pair is new; the other ports
were there. -/
theorem OutputPair.ports_setOutput {pair : OutputPair} (hunbound : pair.publisher = none)
    (mediaType : MediaType) (output : OutputTrack) :
    ∃ first second, (pair.setOutput mediaType (some output)).ports =
        first ++ output.port none :: second ∧ (first ++ second).Sublist pair.ports := by
  rcases pair with ⟨video, audio, publisher⟩
  subst hunbound
  cases mediaType with
  | video =>
      refine ⟨[], audio.toList.map (OutputTrack.port none), ?_, ?_⟩
      · simp [OutputPair.ports, OutputPair.setOutput, OutputPair.outputs]
      · simp [OutputPair.ports, OutputPair.outputs]
  | audio =>
      refine ⟨video.toList.map (OutputTrack.port none), [], ?_, ?_⟩
      · simp [OutputPair.ports, OutputPair.setOutput, OutputPair.outputs]
      · simp [OutputPair.ports, OutputPair.outputs]

/-- `markReady` changes neither ports nor publishers and unreadies nothing. -/
theorem markReady_forall₂ (mediaType : MediaType) (mid : Bytes) (track : TrackId)
    (pairs : List OutputPair) :
    List.Forall₂ (fun pair pair' => OutputPair.ports pair' = OutputPair.ports pair ∧
        pair'.publisher = pair.publisher ∧ (pair.Ready → pair'.Ready))
      pairs (markReady mediaType mid track pairs) := by
  induction pairs with
  | nil => exact List.Forall₂.nil
  | cons pair pairs ih =>
      rw [markReady]
      split
      · refine List.Forall₂.cons ⟨?_, OutputPair.publisher_setOutput _ _ _, ?_⟩
          (List.forall₂_same.mpr fun _ _ => ⟨rfl, rfl, id⟩)
        · have hport : ∀ output : OutputTrack, OutputTrack.port pair.publisher
              (if output.track = some track then { output with ready := true } else output) =
                output.port pair.publisher := by
            intro output
            split <;> rfl
          cases mediaType with
          | video =>
              cases hvideo : pair.video <;>
                simp [OutputPair.ports, OutputPair.setOutput, OutputPair.outputs,
                  OutputPair.output, hvideo, hport]
          | audio =>
              cases haudio : pair.audio <;>
                simp [OutputPair.ports, OutputPair.setOutput, OutputPair.outputs,
                  OutputPair.output, haudio, hport]
        · rintro ⟨video, audio, hvideo, haudio, hvideoReady, haudioReady⟩
          have hmarked : ∀ output : OutputTrack, output.ready = true →
              (if output.track = some track then { output with ready := true }
                else output).ready = true := by
            intro output hready
            split
            · rfl
            · exact hready
          cases mediaType with
          | video =>
              exact ⟨_, audio, by simp [OutputPair.setOutput, OutputPair.output, hvideo],
                haudio, hmarked video hvideoReady, haudioReady⟩
          | audio =>
              exact ⟨video, _, hvideo,
                by simp [OutputPair.setOutput, OutputPair.output, haudio],
                hvideoReady, hmarked audio haudioReady⟩
      · exact List.Forall₂.cons ⟨rfl, rfl, id⟩ ih

end Screen

namespace ScreenRouter

open Screen

/-! ## The first section of `register_output` -/

/-- The new output of `register_output`. -/
def freshOutput (router : ScreenRouter) (track : Track) (ssrc : UInt32)
    (mediaType : MediaType) : OutputTrack where
  mid := track.mid
  ssrc := ssrc
  track := some track.id
  rewriter :=
    ⟨router.nextRewriter,
      match mediaType with
      | MediaType.video => RtpSlotRewriter.create 90000 3000
      | MediaType.audio => RtpSlotRewriter.create 48000 960⟩

/-- The pairs around the one that the new output goes to. -/
def placeFor (router : ScreenRouter) (owner : PeerId) (track : Track) (mediaType : MediaType) :
    List OutputPair × OutputPair × List OutputPair :=
  outputPairFor mediaType track.mid (router.pairsOf owner)

/-- The pairs once the new output is placed. -/
def placedPairs (router : ScreenRouter) (owner : PeerId) (track : Track) (ssrc : UInt32)
    (mediaType : MediaType) : List OutputPair :=
  let found := router.placeFor owner track mediaType
  found.1 ++ found.2.1.clear.setOutput mediaType
    (some (router.freshOutput track ssrc mediaType)) :: found.2.2

/-- The router once the new output is placed. -/
def placeFresh (router : ScreenRouter) (owner : PeerId) (track : Track) (ssrc : UInt32)
    (mediaType : MediaType) : ScreenRouter :=
  { router.modifyPeer owner fun peer =>
      { peer with
        sendBinding := some owner
        outputs := router.placedPairs owner track ssrc mediaType } with
    nextRewriter := router.nextRewriter + 1
    detached := router.detached ++
      ((router.placeFor owner track mediaType).2.1.clear.output mediaType).toList.map
        OutputTrack.rewriter }

/-- The notices about a pair that was bound. -/
def clearedNotices (router : ScreenRouter) (owner : PeerId) (track : Track)
    (mediaType : MediaType) : List BindingNotice :=
  let pair := (router.placeFor owner track mediaType).2.1
  if pair.publisher = none then [] else pair.clear.notices (some owner)

theorem registerOutput_eq {router : ScreenRouter} (hopen : router.closed = false)
    (owner : PeerId) (track : Track) (ssrc : UInt32) (mediaType : MediaType) :
    router.registerOutput owner track ssrc mediaType (some owner) =
      ((router.peerForLocked owner).placeFresh owner track ssrc mediaType,
        (router.peerForLocked owner).clearedNotices owner track mediaType,
        some ⟨owner, track.id, track.mid, mediaType⟩) := by
  simp only [registerOutput, hopen, Bool.false_eq_true, if_false]
  rfl

section

variable (router : ScreenRouter) (owner other : PeerId) (track : Track) (ssrc : UInt32)
variable (mediaType : MediaType)

theorem lookup_placeFresh :
    (router.placeFresh owner track ssrc mediaType).peers.lookup other =
      (router.peers.lookup other).map fun peer =>
        if other = owner then
          { peer with
            sendBinding := some owner
            outputs := router.placedPairs owner track ssrc mediaType }
        else peer :=
  Table.lookup_modify _ _ _ _

@[simp]
theorem mem_placeFresh :
    other ∈ (router.placeFresh owner track ssrc mediaType).peers ↔ other ∈ router.peers :=
  Table.mem_modify _ _ _ _

@[simp]
theorem videoOf_placeFresh :
    (router.placeFresh owner track ssrc mediaType).videoOf other = router.videoOf other :=
  videoOf_of_lookup_map (lookup_placeFresh router owner other track ssrc mediaType)
    fun _ => by split <;> rfl

@[simp]
theorem streamingOf_placeFresh :
    (router.placeFresh owner track ssrc mediaType).streamingOf other =
      router.streamingOf other :=
  streamingOf_of_lookup_map (lookup_placeFresh router owner other track ssrc mediaType)
    fun _ => by split <;> rfl

@[simp]
theorem watchedOf_placeFresh :
    (router.placeFresh owner track ssrc mediaType).watchedOf other = router.watchedOf other :=
  watchedOf_of_lookup_map (lookup_placeFresh router owner other track ssrc mediaType)
    fun _ => by split <;> rfl

end

section

variable {router : ScreenRouter} {owner : PeerId} (hmem : owner ∈ router.peers)
variable (track : Track) (ssrc : UInt32) (mediaType : MediaType)

include hmem in
theorem pairsOf_placeFresh_owner :
    (router.placeFresh owner track ssrc mediaType).pairsOf owner =
      router.placedPairs owner track ssrc mediaType := by
  rcases Table.mem_iff_exists_lookup.mp hmem with ⟨peer, hpeer⟩
  simp [pairsOf, lookup_placeFresh, hpeer]

theorem pairsOf_placeFresh_ne {other : PeerId} (hne : other ≠ owner) :
    (router.placeFresh owner track ssrc mediaType).pairsOf other = router.pairsOf other := by
  simp [pairsOf, lookup_placeFresh, hne]

/-- The owner's pairs before and after a placement. -/
theorem placedPairs_spec (router : ScreenRouter) (owner : PeerId) :
    ∃ first pair second, router.placeFor owner track mediaType = (first, pair, second) ∧
      router.placedPairs owner track ssrc mediaType =
        first ++ pair.clear.setOutput mediaType
          (some (router.freshOutput track ssrc mediaType)) :: second ∧
      (router.pairsOf owner = first ++ pair :: second ∨
        router.pairsOf owner = first ∧ pair = {} ∧ second = []) := by
  rcases outputPairFor_spec mediaType track.mid (router.pairsOf owner) with
    ⟨first, pair, second, hfound, hpairs, _⟩
  exact ⟨first, pair, second, hfound, by simp only [placedPairs, placeFor, hfound], hpairs⟩

/-- The ports once the pair of the new output is cleared. -/
def clearedPorts (router : ScreenRouter) (owner : PeerId) (track : Track)
    (mediaType : MediaType) : Ports :=
  let found := router.placeFor owner track mediaType
  Function.update router.portsOf owner
    ((found.1 ++ found.2.1.clear :: found.2.2).flatMap OutputPair.ports)

theorem evolve_clearedPorts (router : ScreenRouter) (owner : PeerId) :
    router.portsOf.Evolve (router.clearedPorts owner track mediaType) := by
  intro other
  by_cases hsame : other = owner
  · subst hsame
    rcases placedPairs_spec track 0 mediaType router other with
      ⟨first, pair, second, hfound, _, hpairs⟩
    have hports : router.portsOf other =
        (first ++ pair :: second).flatMap OutputPair.ports := by
      rcases hpairs with hpairs | ⟨hpairs, rfl, rfl⟩
      · rw [portsOf, hpairs]
      · simp [portsOf, hpairs, OutputPair.ports, OutputPair.outputs]
    rw [clearedPorts, Function.update_self, hfound, hports]
    have hrefl : ∀ pairs : List OutputPair, List.Forall₂ (fun pair pair' =>
        List.Forall₂ Port.Step (OutputPair.ports pair) (OutputPair.ports pair')) pairs pairs :=
      fun pairs => List.forall₂_same.mpr fun pair _ => pair.steps_refl
    exact steps_flatMap
      (List.rel_append (hrefl first) (List.Forall₂.cons pair.steps_clear (hrefl second)))
  · rw [clearedPorts, Function.update_of_ne hsame]
    exact List.forall₂_same.mpr fun port _ => Port.Step.refl port

include hmem in
theorem place_placeFresh :
    (router.clearedPorts owner track mediaType).Place
      (router.placeFresh owner track ssrc mediaType).portsOf router.nextRewriter owner where
  placed := by
    rcases placedPairs_spec track ssrc mediaType router owner with
      ⟨first, pair, second, hfound, hplaced, _⟩
    rcases OutputPair.ports_setOutput pair.publisher_clear mediaType
      (router.freshOutput track ssrc mediaType) with ⟨before, behind, hports, hsub⟩
    refine ⟨first.flatMap OutputPair.ports ++ before,
      (router.freshOutput track ssrc mediaType).port none,
      behind ++ second.flatMap OutputPair.ports, ?_, ?_, rfl, rfl⟩
    · rw [portsOf, pairsOf_placeFresh_owner hmem, hplaced, List.flatMap_append,
        List.flatMap_cons, hports]
      simp
    · rw [clearedPorts, Function.update_self, hfound, List.flatMap_append, List.flatMap_cons]
      have hmiddle := (hsub.append_right (second.flatMap OutputPair.ports)).append_left
        (first.flatMap OutputPair.ports)
      simpa using hmiddle
  others other hne := by
    rw [portsOf, pairsOf_placeFresh_ne track ssrc mediaType hne, clearedPorts,
      Function.update_of_ne hne]
    rfl

/-- A bound pair after a placement was there before. -/
theorem bound_placeFresh {other publisher : PeerId} {pair' : OutputPair}
    (hpair' : pair' ∈ (router.placeFresh owner track ssrc mediaType).pairsOf other)
    (hpublisher : pair'.publisher = some publisher) : pair' ∈ router.pairsOf other := by
  by_cases hsame : other = owner
  · subst hsame
    have hmem : other ∈ router.peers := by simpa using mem_of_mem_pairsOf hpair'
    rcases placedPairs_spec track ssrc mediaType router other with
      ⟨first, pair, second, _, hplaced, hpairs⟩
    rw [pairsOf_placeFresh_owner hmem, hplaced] at hpair'
    rcases List.mem_append.mp hpair' with hold | hold
    · rcases hpairs with hpairs | ⟨hpairs, _, _⟩
      · exact hpairs ▸ List.mem_append_left _ hold
      · exact hpairs ▸ hold
    · rcases List.mem_cons.mp hold with rfl | hold
      · simp at hpublisher
      · rcases hpairs with hpairs | ⟨_, _, rfl⟩
        · exact hpairs ▸ List.mem_append_right _ (List.mem_cons_of_mem _ hold)
        · simp at hold
  · rwa [pairsOf_placeFresh_ne track ssrc mediaType hsame] at hpair'

theorem publishersOf_placeFresh (other : PeerId) :
    ((router.placeFresh owner track ssrc mediaType).publishersOf other).Sublist
      (router.publishersOf other) := by
  by_cases hsame : other = owner
  · subst hsame
    by_cases hmem : other ∈ router.peers
    · rcases placedPairs_spec track ssrc mediaType router other with
        ⟨first, pair, second, _, hplaced, hpairs⟩
      rw [publishersOf, publishersOf, pairsOf_placeFresh_owner hmem, hplaced]
      rcases hpairs with hpairs | ⟨hpairs, rfl, rfl⟩
      · rw [hpairs, List.filterMap_append, List.filterMap_append, List.filterMap_cons]
        simp only [OutputPair.publisher_setOutput, OutputPair.publisher_clear]
        exact (((List.sublist_cons_self pair second).filterMap OutputPair.publisher)).append_left _
      · rw [hpairs]
        simp
    · rw [publishersOf, pairsOf_of_notMem (by simpa using hmem)]
      exact List.nil_sublist _
  · rw [publishersOf, publishersOf, pairsOf_placeFresh_ne track ssrc mediaType hsame]

include hmem in
theorem progress_placeFresh (hopen : router.closed = false) :
    Progress router (router.placeFresh owner track ssrc mediaType) where
  inv h := by
    have hcleared := h.ports.evolve (evolve_clearedPorts track mediaType router owner)
    refine Keep.inv ⟨publishersOf_placeFresh track ssrc mediaType, ?_, ?_, ?_⟩ h
      (hcleared.place (place_placeFresh hmem track ssrc mediaType))
    · intro other pair' hpair' publisher hpublisher
      refine ⟨pair', bound_placeFresh track ssrc mediaType hpair' hpublisher, hpublisher, ?_⟩
      intro hok
      exact ⟨hok.other, by simpa using hok.streaming, by simpa using hok.watched, hok.ready⟩
    · intro hsenders other peer hpeer hne
      rw [lookup_placeFresh, Option.map_eq_some_iff] at hpeer
      rcases hpeer with ⟨old, hold, rfl⟩
      by_cases hsame : other = owner
      · simp [hsame]
      · rw [if_neg hsame] at hne ⊢
        exact hsenders other old hold hne
    · intro _ hclosed
      have hsame : router.closed = true := hclosed
      rw [hopen] at hsame
      contradiction
  advance _ := (advance_evolve (evolve_clearedPorts track mediaType router owner)).trans
    (advance_place (place_placeFresh hmem track ssrc mediaType))

end

/-! ## The second section of `register_output` -/

/-- Mark the output of a pending registration ready. -/
def markOutput (router : ScreenRouter) (pending : PendingOutput) : ScreenRouter :=
  router.modifyPeer pending.owner fun peer =>
    { peer with outputs := markReady pending.mediaType pending.mid pending.track peer.outputs }

theorem lookup_markOutput (router : ScreenRouter) (pending : PendingOutput) (other : PeerId) :
    (router.markOutput pending).peers.lookup other =
      (router.peers.lookup other).map fun peer =>
        if other = pending.owner then
          { peer with
            outputs := markReady pending.mediaType pending.mid pending.track peer.outputs }
        else peer :=
  lookup_modifyPeer _ _ _ _

/-- Marking changes neither ports nor publishers and unreadies nothing. -/
theorem pairsOf_markOutput (router : ScreenRouter) (pending : PendingOutput) (other : PeerId) :
    List.Forall₂ (fun pair pair' => OutputPair.ports pair' = OutputPair.ports pair ∧
        pair'.publisher = pair.publisher ∧ (pair.Ready → pair'.Ready))
      (router.pairsOf other) ((router.markOutput pending).pairsOf other) := by
  rw [pairsOf, pairsOf, lookup_markOutput]
  cases router.peers.lookup other with
  | none => exact List.Forall₂.nil
  | some peer =>
      simp only [Option.map_some, Option.getD_some]
      split
      · exact markReady_forall₂ _ _ _ _
      · exact List.forall₂_same.mpr fun _ _ => ⟨rfl, rfl, id⟩

section

variable (router : ScreenRouter) (pending : PendingOutput) (other : PeerId)

@[simp]
theorem mem_markOutput : other ∈ (router.markOutput pending).peers ↔ other ∈ router.peers :=
  Table.mem_modify _ _ _ _

@[simp]
theorem videoOf_markOutput : (router.markOutput pending).videoOf other = router.videoOf other :=
  videoOf_of_lookup_map (lookup_markOutput router pending other) fun _ => by split <;> rfl

@[simp]
theorem streamingOf_markOutput :
    (router.markOutput pending).streamingOf other = router.streamingOf other :=
  streamingOf_of_lookup_map (lookup_markOutput router pending other) fun _ => by split <;> rfl

@[simp]
theorem watchedOf_markOutput :
    (router.markOutput pending).watchedOf other = router.watchedOf other :=
  watchedOf_of_lookup_map (lookup_markOutput router pending other) fun _ => by split <;> rfl

theorem portsOf_markOutput : (router.markOutput pending).portsOf = router.portsOf := by
  funext other
  have hpairs := pairsOf_markOutput router pending other
  rw [portsOf, portsOf]
  generalize (router.markOutput pending).pairsOf other = pairs' at hpairs ⊢
  generalize router.pairsOf other = pairs at hpairs ⊢
  induction hpairs with
  | nil => rfl
  | cons hone _ ih => rw [List.flatMap_cons, List.flatMap_cons, ih, hone.1]

theorem publishersOf_markOutput :
    (router.markOutput pending).publishersOf other = router.publishersOf other := by
  have hpairs := pairsOf_markOutput router pending other
  rw [publishersOf, publishersOf]
  generalize (router.markOutput pending).pairsOf other = pairs' at hpairs ⊢
  generalize router.pairsOf other = pairs at hpairs ⊢
  induction hpairs with
  | nil => rfl
  | cons hone _ ih => rw [List.filterMap_cons, List.filterMap_cons, ih, hone.2.1]

theorem progress_markOutput : Progress router (router.markOutput pending) := by
  refine Progress.of_keep ⟨?_, ?_, ?_, fun h hclosed => closed_modifyPeer h hclosed⟩ rfl ?_
  · intro other
    rw [publishersOf_markOutput]
  · intro other pair' hpair' publisher hpublisher
    rcases forall₂_mem_right (pairsOf_markOutput router pending other) hpair' with
      ⟨pair, hpair, _, hsame, hready⟩
    refine ⟨pair, hpair, by rw [← hsame, hpublisher], fun hok => ?_⟩
    exact ⟨hok.other, by simpa using hok.streaming, by simpa using hok.watched, hready hok.ready⟩
  · intro h
    refine h.modifyPeer fun peer => Or.inr ⟨rfl, ?_⟩
    intro hnil
    simp [hnil, markReady]
  · rw [portsOf_markOutput]
    exact Ports.Evolve.refl _

end

theorem finishOutput_cases (router : ScreenRouter) (expired : Expiry)
    (pending : PendingOutput) :
    router.finishOutput expired pending = (router, []) ∧
        (router.closed = true ∨ pending.owner ∉ router.peers) ∨
      router.finishOutput expired pending =
        thenAssign expired (router.markOutput pending, []) := by
  unfold finishOutput
  split
  · rename_i hclosed
    exact Or.inl ⟨rfl, Or.inl hclosed⟩
  · split
    · exact Or.inr rfl
    · rename_i hmem
      exact Or.inl ⟨rfl, Or.inr hmem⟩

theorem progress_finishOutput (router : ScreenRouter) (expired : Expiry)
    (pending : PendingOutput) : Progress router (router.finishOutput expired pending).1 := by
  rcases finishOutput_cases router expired pending with ⟨heq, _⟩ | heq
  · rw [heq]
    exact Progress.refl _
  · rw [heq]
    exact progress_thenAssign (progress_markOutput router pending) expired

/-! ## Operations -/

/-- The part of `register_input` before the assignment pass. -/
def storeInput (router : ScreenRouter) (owner : PeerId) (track : Track)
    (mediaType : MediaType) : ScreenRouter × List BindingNotice :=
  let stored := (router.peerForLocked owner).modifyPeer owner fun peer =>
    { peer.setInputState mediaType ((peer.input mediaType).store track) with
      sendBinding := some owner }
  if router.sourceChanged owner track mediaType then
    stored.sweepBound (fun _ => true) owner (OutputPair.restart mediaType)
  else (stored, [])

theorem registerInput_eq {router : ScreenRouter} (hopen : router.closed = false)
    (expired : Expiry) (owner : PeerId) (track : Track) (mediaType : MediaType) :
    router.registerInput expired owner track mediaType (some owner) =
      thenAssign expired (router.storeInput owner track mediaType) := by
  simp [registerInput, hopen, storeInput]

theorem progress_setInput (router : ScreenRouter) (owner : PeerId) (track : Track)
    (mediaType : MediaType) :
    Progress router (router.modifyPeer owner fun peer =>
      { peer.setInputState mediaType ((peer.input mediaType).store track) with
        sendBinding := some owner }) := by
  refine progress_modifyPeer router owner ?_ ?_ ?_ fun _ => Or.inl rfl
  · intro peer
    cases mediaType <;> rfl
  · intro peer h
    cases mediaType <;> exact h
  · intro peer publisher h
    cases mediaType <;> exact h

theorem progress_storeInput {router : ScreenRouter} (hopen : router.closed = false)
    (owner : PeerId) (track : Track) (mediaType : MediaType) :
    Progress router (router.storeInput owner track mediaType).1 := by
  have hstored := (progress_peerForLocked hopen owner).trans
    (progress_setInput (router.peerForLocked owner) owner track mediaType)
  unfold storeInput
  dsimp only
  split
  · exact hstored.trans (progress_restart _ owner mediaType)
  · exact hstored

/-- What `register_track` comes down to: nothing, storing an input followed by
the assignment pass, or placing an output that is to be marked ready. -/
theorem registerTrack_cases (router : ScreenRouter) (expired : Expiry) (owner : PeerId)
    (track : Option Track) (ssrc : UInt32) :
    router.registerTrack expired owner track ssrc (some owner) = (router, [], none) ∨
      (router.closed = false ∧ ∃ input mediaType, ∃ result,
        result = thenAssign expired (router.storeInput owner input mediaType) ∧
          router.registerTrack expired owner track ssrc (some owner) =
            (result.1, result.2, none)) ∨
      (router.closed = false ∧ ∃ output mediaType,
        router.registerTrack expired owner track ssrc (some owner) =
          ((router.peerForLocked owner).placeFresh owner output ssrc mediaType,
            (router.peerForLocked owner).clearedNotices owner output mediaType,
            some ⟨owner, output.id, output.mid, mediaType⟩)) := by
  unfold registerTrack
  cases track with
  | none => exact Or.inl rfl
  | some track =>
      dsimp only
      cases track.mediaType with
      | none => exact Or.inl rfl
      | some mediaType =>
          dsimp only
          cases hclosed : router.closed with
          | true =>
              left
              split <;> simp [registerInput, registerOutput, hclosed]
          | false =>
              split
              · refine Or.inr (Or.inl ⟨rfl, track, mediaType, _, rfl, ?_⟩)
                rw [registerInput_eq hclosed]
              · exact Or.inr (Or.inr ⟨rfl, track, mediaType,
                  registerOutput_eq hclosed owner track ssrc mediaType⟩)
              · exact Or.inl rfl

theorem progress_registerTrack (router : ScreenRouter) (expired : Expiry) (owner : PeerId)
    (track : Option Track) (ssrc : UInt32) :
    Progress router (router.registerTrack expired owner track ssrc (some owner)).1 := by
  rcases registerTrack_cases router expired owner track ssrc with
    heq | ⟨hopen, input, mediaType, _, rfl, heq⟩ | ⟨hopen, output, mediaType, heq⟩
  · rw [heq]
    exact Progress.refl _
  · rw [heq]
    exact progress_thenAssign (progress_storeInput hopen owner input mediaType) expired
  · rw [heq]
    have hmem : owner ∈ (router.peerForLocked owner).peers := by simp
    exact (progress_peerForLocked hopen owner).trans
      (progress_placeFresh hmem output ssrc mediaType (by simpa using hopen))

theorem setStreaming_cases (router : ScreenRouter) (expired : Expiry) (peerId : PeerId)
    (streaming : Bool) :
    router.setStreaming expired peerId streaming = (router, []) ∨
      router.closed = false ∧
        (router.setStreaming expired peerId streaming = (router.peerForLocked peerId, []) ∨
          router.setStreaming expired peerId streaming =
            thenAssign expired ((router.peerForLocked peerId).storeStreaming peerId streaming)) := by
  unfold setStreaming
  cases hclosed : router.closed with
  | true => exact Or.inl rfl
  | false =>
      refine Or.inr ⟨rfl, ?_⟩
      simp only [Bool.false_eq_true, if_false]
      split
      · exact Or.inl rfl
      · exact Or.inr rfl

theorem progress_setStreaming (router : ScreenRouter) (expired : Expiry) (peerId : PeerId)
    (streaming : Bool) : Progress router (router.setStreaming expired peerId streaming).1 := by
  rcases setStreaming_cases router expired peerId streaming with heq | ⟨hopen, heq | heq⟩
  · rw [heq]
    exact Progress.refl _
  · rw [heq]
    exact progress_peerForLocked hopen peerId
  · rw [heq]
    exact progress_thenAssign ((progress_peerForLocked hopen peerId).trans
      (progress_storeStreaming _ peerId streaming)) expired

theorem setWatching_cases (router : ScreenRouter) (expired : Expiry)
    (peerId publisher : PeerId) (watching : Bool) :
    router.setWatching expired peerId publisher watching = (router, []) ∨
      router.closed = false ∧
        (router.setWatching expired peerId publisher watching =
            (router.peerForLocked peerId, []) ∨
          router.setWatching expired peerId publisher watching =
            thenAssign expired
              ((router.peerForLocked peerId).startWatching peerId publisher, []) ∨
          router.setWatching expired peerId publisher watching =
            thenAssign expired ((router.peerForLocked peerId).stopWatching peerId publisher)) := by
  unfold setWatching
  split
  · exact Or.inl rfl
  · cases hclosed : router.closed with
    | true => exact Or.inl rfl
    | false =>
        refine Or.inr ⟨rfl, ?_⟩
        simp only [Bool.false_eq_true, if_false]
        split
        · split
          · exact Or.inl rfl
          · exact Or.inr (Or.inl rfl)
        · split
          · exact Or.inr (Or.inr rfl)
          · exact Or.inl rfl

theorem progress_startWatching (router : ScreenRouter) (peerId publisher : PeerId) :
    Progress router (router.startWatching peerId publisher) := by
  refine progress_modifyPeer router peerId (fun _ => rfl) (fun _ h => h) ?_ fun _ => Or.inr rfl
  intro peer watched h
  exact AList.mem_insert _ |>.mpr (Or.inr h)

theorem progress_setWatching (router : ScreenRouter) (expired : Expiry)
    (peerId publisher : PeerId) (watching : Bool) :
    Progress router (router.setWatching expired peerId publisher watching).1 := by
  rcases setWatching_cases router expired peerId publisher watching with
    heq | ⟨hopen, heq | heq | heq⟩
  · rw [heq]
    exact Progress.refl _
  · rw [heq]
    exact progress_peerForLocked hopen peerId
  · rw [heq]
    exact progress_thenAssign ((progress_peerForLocked hopen peerId).trans
      (progress_startWatching _ peerId publisher)) expired
  · rw [heq]
    exact progress_thenAssign ((progress_peerForLocked hopen peerId).trans
      (progress_stopWatching _ peerId publisher)) expired

theorem progress_removePeer (router : ScreenRouter) (expired : Expiry) (peerId : PeerId) :
    Progress router (router.removePeer expired peerId).1 := by
  unfold removePeer
  split
  · exact Progress.refl _
  · exact progress_thenAssign (progress_dropPeer router peerId) expired

theorem progress_close (router : ScreenRouter) : Progress router router.close := by
  unfold close
  split
  · exact Progress.refl _
  · have hnil : ∀ peerId, ({ router with
        closed := true
        delayQueue := []
        peers := ∅
        detached := router.detached ++
          router.peers.entries.flatMap fun entry => entry.2.rewriters } :
            ScreenRouter).pairsOf peerId = [] := fun _ => rfl
    have hshrink : router.portsOf.Shrink (portsOf { router with
        closed := true
        delayQueue := []
        peers := ∅
        detached := router.detached ++
          router.peers.entries.flatMap fun entry => entry.2.rewriters }) := by
      intro peerId
      rw [portsOf, hnil]
      exact List.nil_sublist _
    refine ⟨fun h => ⟨h.ports.shrink hshrink, ?_, ?_, ?_, ?_⟩, fun _ => advance_shrink hshrink⟩
    · intro peerId
      rw [publishersOf, hnil]
      exact List.nodup_nil
    · intro peerId pair hpair
      rw [hnil] at hpair
      simp at hpair
    · intro peerId peer hpeer
      simp at hpeer
    · intro _ peerId hmem
      simp at hmem

end ScreenRouter

end Sfu
end Driscord
