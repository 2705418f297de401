import Driscord.Sfu.Holdings
import Driscord.Sfu.ScreenNotices

/-!
# The tracks that the screen router holds of a peer

The screen router keeps the outputs of a peer in pairs.  Clearing, restarting,
binding and marking a pair leave its tracks alone, so again only registering a
track writes a place.

Main results:

- Theorem `ScreenRouter.placed_registerTrack`: registering a track writes its place.
- Theorem `ScreenRouter.distinct_registerTrack`: the mids of outputs stay distinct.
-/

namespace Driscord
namespace Sfu

open Library

namespace Screen

/-! ## Pairs -/

/-- The track that a pair holds of a media type, with its mid. -/
def OutputPair.held (mediaType : MediaType) (pair : OutputPair) :
    Option (Bytes × WeakTrack) :=
  (pair.output mediaType).map fun output => (output.mid, output.track)

theorem OutputPair.held_setOutput_self (mediaType : MediaType) (output : OutputTrack)
    (pair : OutputPair) :
    (pair.setOutput mediaType (some output)).held mediaType =
      some (output.mid, output.track) := by
  cases mediaType <;> rfl

theorem OutputPair.held_setOutput_ne {mediaType other : MediaType} (hne : other ≠ mediaType)
    (output : Option OutputTrack) (pair : OutputPair) :
    (pair.setOutput mediaType output).held other = pair.held other := by
  cases mediaType <;> cases other
  · exact absurd rfl hne
  · rfl
  · rfl
  · exact absurd rfl hne

/-- Updates that keep mid and track of both outputs are invisible. -/
theorem OutputPair.held_map {f g : OutputTrack → OutputTrack}
    (hf : ∀ output, ((f output).mid, (f output).track) = (output.mid, output.track))
    (hg : ∀ output, ((g output).mid, (g output).track) = (output.mid, output.track))
    (pair : OutputPair) (publisher : Option PeerId) (mediaType : MediaType) :
    OutputPair.held mediaType ⟨pair.video.map f, pair.audio.map g, publisher⟩ =
      pair.held mediaType := by
  rcases pair with ⟨video, audio, _⟩
  cases mediaType with
  | video => cases video <;> simp [OutputPair.held, OutputPair.output, hf]
  | audio => cases audio <;> simp [OutputPair.held, OutputPair.output, hg]

theorem OutputPair.held_clear (pair : OutputPair) (mediaType : MediaType) :
    pair.clear.held mediaType = pair.held mediaType := by
  unfold OutputPair.clear
  split
  · rfl
  · exact held_map (f := OutputTrack.stop) (g := OutputTrack.stop) (fun _ => rfl)
      (fun _ => rfl) pair none mediaType

theorem OutputPair.held_bindTo (publisher : PeerId) (pair : OutputPair)
    (mediaType : MediaType) : (pair.bindTo publisher).held mediaType = pair.held mediaType :=
  held_map (f := OutputTrack.restart) (g := OutputTrack.restart) (fun _ => rfl)
    (fun _ => rfl) pair (some publisher) mediaType

theorem OutputPair.held_restart (restarted : MediaType) (pair : OutputPair)
    (mediaType : MediaType) : (pair.restart restarted).held mediaType = pair.held mediaType := by
  rcases pair with ⟨video, audio, publisher⟩
  cases restarted <;> cases mediaType <;> cases video <;> cases audio <;> rfl

theorem OutputPair.held_ifBoundTo {update : OutputPair → OutputPair} {mediaType : MediaType}
    (hupdate : ∀ pair, OutputPair.held mediaType (update pair) = pair.held mediaType)
    (owner : PeerId) (pair : OutputPair) :
    (pair.ifBoundTo owner update).held mediaType = pair.held mediaType := by
  unfold OutputPair.ifBoundTo
  split
  · exact hupdate pair
  · rfl

theorem filterMap_held_markReady (marked : MediaType) (mid : Bytes) (track : TrackId)
    (pairs : List OutputPair) (mediaType : MediaType) :
    (markReady marked mid track pairs).filterMap (OutputPair.held mediaType) =
      pairs.filterMap (OutputPair.held mediaType) := by
  induction pairs with
  | nil => rfl
  | cons pair pairs ih =>
      rw [markReady]
      split
      · have hready : ∀ output : OutputTrack,
            ((if output.track = some track then { output with ready := true }
              else output : OutputTrack).mid,
              (if output.track = some track then { output with ready := true }
                else output : OutputTrack).track) = (output.mid, output.track) := by
          intro output
          split <;> rfl
        have hpair : (pair.setOutput marked ((pair.output marked).map fun output =>
            if output.track = some track then { output with ready := true }
              else output)).held mediaType = pair.held mediaType := by
          by_cases hsame : mediaType = marked
          · subst hsame
            cases mediaType <;>
              simp only [OutputPair.held, OutputPair.setOutput, OutputPair.output,
                Option.map_map, Function.comp_def, hready]
          · exact OutputPair.held_setOutput_ne hsame _ pair
        rw [List.filterMap_cons, List.filterMap_cons, hpair]
      · rw [List.filterMap_cons, List.filterMap_cons, ih]

end Screen

namespace ScreenRouter

open Screen

/-! ## Views -/

/-- What the screen router holds of a peer. -/
def holdingsOf (router : ScreenRouter) (peerId : PeerId) : Holdings where
  input mediaType :=
    (router.peers.lookup peerId).bind fun peer => (peer.input mediaType).track
  outputs mediaType := (router.pairsOf peerId).filterMap (OutputPair.held mediaType)

theorem holdingsOf_of_notMem {router : ScreenRouter} {peerId : PeerId}
    (h : peerId ∉ router.peers) : router.holdingsOf peerId = Holdings.none := by
  have hnone := AList.lookup_eq_none.mpr h
  rw [holdingsOf, hnone, pairsOf_of_notMem h]
  rfl

/-- A change of the peer that keeps its inputs and what its pairs hold. -/
theorem holdingsOf_of_lookup_map {router router' : ScreenRouter} {peerId : PeerId}
    {f : PeerState → PeerState}
    (h : router'.peers.lookup peerId = (router.peers.lookup peerId).map f)
    (hinput : ∀ peer mediaType, ((f peer).input mediaType).track = (peer.input mediaType).track)
    (houtputs : ∀ peer mediaType, (f peer).outputs.filterMap (OutputPair.held mediaType) =
      peer.outputs.filterMap (OutputPair.held mediaType)) :
    router'.holdingsOf peerId = router.holdingsOf peerId := by
  rw [holdingsOf, holdingsOf, pairsOf, pairsOf, h]
  cases router.peers.lookup peerId with
  | none => rfl
  | some peer =>
      refine congrArg₂ Holdings.mk ?_ ?_
      · funext mediaType
        exact hinput peer mediaType
      · funext mediaType
        exact houtputs peer mediaType

section

variable (router : ScreenRouter)

theorem holdingsOf_peerForLocked (peerId other : PeerId) :
    (router.peerForLocked peerId).holdingsOf other = router.holdingsOf other := by
  rw [holdingsOf, holdingsOf, pairsOf_peerForLocked]
  refine congrArg₂ Holdings.mk ?_ rfl
  funext mediaType
  rcases lookup_peerForLocked router peerId other with hsame | ⟨hnone, _, hnew⟩
  · rw [hsame]
  · rw [hnone, hnew]
    cases mediaType <;> rfl

/-- A peer update that keeps inputs and pairs. -/
theorem holdingsOf_modifyPeer (peerId other : PeerId) {f : PeerState → PeerState}
    (hinput : ∀ peer mediaType, ((f peer).input mediaType).track = (peer.input mediaType).track)
    (houtputs : ∀ peer, (f peer).outputs = peer.outputs) :
    (router.modifyPeer peerId f).holdingsOf other = router.holdingsOf other := by
  refine holdingsOf_of_lookup_map (lookup_modifyPeer router peerId other f) ?_ ?_
  · intro peer mediaType
    split
    · exact hinput peer mediaType
    · rfl
  · intro peer mediaType
    split
    · rw [houtputs peer]
    · rfl

theorem holdingsOf_modifyPeer_ne {peerId other : PeerId} (hne : other ≠ peerId)
    (f : PeerState → PeerState) :
    (router.modifyPeer peerId f).holdingsOf other = router.holdingsOf other :=
  holdingsOf_of_lookup_map (lookup_modifyPeer router peerId other f)
    (fun _ _ => by rw [if_neg hne]) fun _ _ => by rw [if_neg hne]

theorem holdingsOf_sweepBound (concerned : PeerId → Bool) (owner other : PeerId)
    {update : OutputPair → OutputPair}
    (hupdate : ∀ pair mediaType,
      OutputPair.held mediaType (update pair) = pair.held mediaType) :
    (router.sweepBound concerned owner update).1.holdingsOf other =
      router.holdingsOf other := by
  refine holdingsOf_of_lookup_map
    (lookup_sweepBound router concerned owner other update) ?_ ?_
  · intro peer mediaType
    cases mediaType <;> split <;> rfl
  · intro peer mediaType
    split
    · rw [List.filterMap_map]
      congr 1
      funext pair
      exact OutputPair.held_ifBoundTo (fun pair => hupdate pair mediaType) owner pair
    · rfl

theorem holdingsOf_assignAvailableLocked (expired : Expiry) (other : PeerId) :
    (router.assignAvailableLocked expired).1.holdingsOf other = router.holdingsOf other := by
  refine holdingsOf_of_lookup_map (lookup_assignAvailableLocked router expired other) ?_ ?_
  · intro peer mediaType
    cases mediaType <;> rfl
  · intro peer mediaType
    have hserved := served_assignSubscriber router expired other peer
    dsimp only
    generalize (router.assignSubscriber expired other peer).2 = pairs' at hserved
    generalize peer.outputs = pairs at hserved
    induction hserved with
    | nil => rfl
    | cons hone _ ih =>
        rw [List.filterMap_cons, List.filterMap_cons, ih]
        rcases hone with rfl | ⟨publisher, _, _, _, rfl, _⟩
        · rfl
        · rw [OutputPair.held_bindTo]

theorem holdingsOf_thenAssign (expired : Expiry) (first : ScreenRouter × List BindingNotice)
    (other : PeerId) :
    (thenAssign expired first).1.holdingsOf other = first.1.holdingsOf other :=
  holdingsOf_assignAvailableLocked first.1 expired other

end

/-! ## Registering a track -/

theorem holdingsOf_restart (router : ScreenRouter) (owner other : PeerId)
    (mediaType : MediaType) :
    (router.sweepBound (fun _ => true) owner
      (OutputPair.restart mediaType)).1.holdingsOf other = router.holdingsOf other :=
  holdingsOf_sweepBound router _ owner other fun pair _ => pair.held_restart mediaType _

/-- Storing an input writes the input of its media type. -/
theorem placed_setInput {router : ScreenRouter} {owner : PeerId} (hmem : owner ∈ router.peers)
    (track : Track) (mediaType : MediaType) :
    Holdings.Placed track.id (router.holdingsOf owner)
      ((router.modifyPeer owner fun peer =>
        { peer.setInputState mediaType ((peer.input mediaType).store track) with
          sendBinding := some owner }).holdingsOf owner) (Place.input mediaType) := by
  rcases Table.mem_iff_exists_lookup.mp hmem with ⟨peer, hpeer⟩
  have hstore : ((peer.input mediaType).store track).track = some track.id := by
    unfold InputState.store
    split
    · assumption
    · rfl
  refine ⟨?_, ?_⟩
  · funext other
    simp only [holdingsOf, lookup_modifyPeer, hpeer, Option.map_some, if_true,
      Option.bind_some]
    by_cases hsame : other = mediaType
    · subst hsame
      rw [Function.update_self]
      cases other <;> exact hstore
    · rw [Function.update_of_ne hsame]
      cases mediaType <;> cases other
      · exact absurd rfl hsame
      · rfl
      · rfl
      · exact absurd rfl hsame
  · funext other
    simp only [holdingsOf, pairsOf, lookup_modifyPeer, hpeer, Option.map_some, if_true,
      Option.getD_some]
    cases mediaType <;> rfl

theorem holdingsOf_storeInput (router : ScreenRouter) (owner other : PeerId) (track : Track)
    (mediaType : MediaType) :
    (router.storeInput owner track mediaType).1.holdingsOf other =
      ((router.peerForLocked owner).modifyPeer owner fun peer =>
        { peer.setInputState mediaType ((peer.input mediaType).store track) with
          sendBinding := some owner }).holdingsOf other := by
  unfold storeInput
  dsimp only
  split
  · exact holdingsOf_restart _ owner other mediaType
  · rfl

/-- What the pairs hold once the new output is placed. -/
theorem replaced_placedPairs (router : ScreenRouter) (owner : PeerId) (track : Track)
    (ssrc : UInt32) (mediaType : MediaType) :
    Holdings.Replaced (track.mid, some track.id)
      ((router.pairsOf owner).filterMap (OutputPair.held mediaType))
      ((router.placedPairs owner track ssrc mediaType).filterMap
        (OutputPair.held mediaType)) := by
  rcases outputPairFor_spec mediaType track.mid (router.pairsOf owner) with
    ⟨first, pair, second, hfound, hpairs, hheld⟩
  have hplaced : router.placedPairs owner track ssrc mediaType =
      first ++ pair.clear.setOutput mediaType
        (some (router.freshOutput track ssrc mediaType)) :: second := by
    simp only [placedPairs, placeFor, hfound]
  refine ⟨first.filterMap (OutputPair.held mediaType),
    second.filterMap (OutputPair.held mediaType), ?_, ?_⟩
  · rw [hplaced, List.filterMap_append, List.filterMap_cons,
      OutputPair.held_setOutput_self]
    rfl
  · rcases hheld with ⟨output, houtput, hmid⟩ | ⟨hnone, hothers⟩
    · right
      refine ⟨output.track, ?_⟩
      have hpair : pair.held mediaType = some (track.mid, output.track) := by
        rw [OutputPair.held, houtput, ← hmid]
        rfl
      rcases hpairs with hpairs | ⟨_, rfl, _⟩
      · rw [hpairs, List.filterMap_append, List.filterMap_cons, hpair]
      · cases mediaType <;> contradiction
    · left
      have hpair : pair.held mediaType = none := by rw [OutputPair.held, hnone]; rfl
      refine ⟨?_, ?_⟩
      · rcases hpairs with hpairs | ⟨hpairs, _, rfl⟩
        · rw [hpairs, List.filterMap_append, List.filterMap_cons, hpair]
        · rw [hpairs, List.filterMap_nil, List.append_nil]
      · intro hmem
        rcases List.mem_map.mp hmem with ⟨entry, hentry, hmid⟩
        rcases List.mem_filterMap.mp hentry with ⟨other, hother, hheld⟩
        rw [OutputPair.held, Option.map_eq_some_iff] at hheld
        rcases hheld with ⟨output, houtput, rfl⟩
        have hno := hothers other hother
        simp only [OutputPair.hasMid, houtput, Option.any_some, decide_eq_false_iff_not] at hno
        exact hno hmid

/-- Placing an output writes the output with its mid. -/
theorem placed_placeFresh {router : ScreenRouter} {owner : PeerId} (hmem : owner ∈ router.peers)
    (track : Track) (ssrc : UInt32) (mediaType : MediaType) :
    Holdings.Placed track.id (router.holdingsOf owner)
      ((router.placeFresh owner track ssrc mediaType).holdingsOf owner)
      (Place.output mediaType track.mid) := by
  rcases Table.mem_iff_exists_lookup.mp hmem with ⟨peer, hpeer⟩
  refine ⟨?_, ?_, ?_⟩
  · funext other
    simp only [holdingsOf, lookup_placeFresh, hpeer, Option.map_some, if_true,
      Option.bind_some]
    cases other <;> rfl
  · intro other hne
    rcases placedPairs_spec track ssrc mediaType router owner with
      ⟨first, pair, second, _, hplaced, hpairs⟩
    have hpair : (pair.clear.setOutput mediaType
        (some (router.freshOutput track ssrc mediaType))).held other = pair.held other := by
      rw [OutputPair.held_setOutput_ne hne, OutputPair.held_clear]
    simp only [holdingsOf, pairsOf_placeFresh_owner hmem, hplaced]
    rcases hpairs with hpairs | ⟨hpairs, rfl, rfl⟩
    · rw [hpairs, List.filterMap_append, List.filterMap_append, List.filterMap_cons,
        List.filterMap_cons, hpair]
    · have hnone : OutputPair.held other {} = none := by cases other <;> rfl
      rw [hpairs, List.filterMap_append, List.filterMap_cons, hpair, hnone, List.filterMap_nil,
        List.append_nil]
  · simp only [holdingsOf, pairsOf_placeFresh_owner hmem]
    exact replaced_placedPairs router owner track ssrc mediaType

theorem holdingsOf_placeFresh_ne (router : ScreenRouter) {owner other : PeerId}
    (hne : other ≠ owner) (track : Track) (ssrc : UInt32) (mediaType : MediaType) :
    (router.placeFresh owner track ssrc mediaType).holdingsOf other = router.holdingsOf other :=
  holdingsOf_of_lookup_map (lookup_placeFresh router owner other track ssrc mediaType)
    (fun _ _ => by rw [if_neg hne]) fun _ _ => by rw [if_neg hne]

/-- A track with a place is written there. -/
theorem placed_registerTrack {router : ScreenRouter} (hopen : router.closed = false)
    (expired : Expiry) (owner : PeerId) {track : Track} (ssrc : UInt32) {place : Place}
    (hplace : track.place = some place) :
    Holdings.Placed track.id (router.holdingsOf owner)
      ((router.registerTrack expired owner (some track) ssrc
        (some owner)).1.holdingsOf owner) place := by
  have hmem : owner ∈ (router.peerForLocked owner).peers := by simp
  rw [← holdingsOf_peerForLocked router owner owner]
  rw [Track.place] at hplace
  cases hmedia : track.mediaType with
  | none => simp [hmedia] at hplace
  | some mediaType =>
      cases hdirection : track.direction with
      | recvOnly =>
          rw [hmedia, hdirection, Option.some.injEq] at hplace
          simp only [registerTrack, hmedia, hdirection, registerInput_eq hopen,
            holdingsOf_thenAssign, holdingsOf_storeInput]
          rw [← hplace]
          exact placed_setInput hmem track mediaType
      | sendOnly =>
          rw [hmedia, hdirection, Option.some.injEq] at hplace
          simp only [registerTrack, hmedia, hdirection, registerOutput_eq hopen]
          rw [← hplace]
          exact placed_placeFresh hmem track ssrc mediaType
      | sendRecv => simp [hmedia, hdirection] at hplace
      | inactive => simp [hmedia, hdirection] at hplace
      | unknown => simp [hmedia, hdirection] at hplace

/-- A track without a place is ignored. -/
theorem registerTrack_of_place_eq_none {router : ScreenRouter} (expired : Expiry)
    (owner : PeerId) {track : Track} (ssrc : UInt32) (hplace : track.place = none) :
    router.registerTrack expired owner (some track) ssrc (some owner) = (router, [], none) := by
  rw [Track.place] at hplace
  cases hmedia : track.mediaType with
  | none => simp only [registerTrack, hmedia]
  | some mediaType =>
      cases hdirection : track.direction with
      | recvOnly => simp [hmedia, hdirection] at hplace
      | sendOnly => simp [hmedia, hdirection] at hplace
      | sendRecv => simp only [registerTrack, hmedia, hdirection]
      | inactive => simp only [registerTrack, hmedia, hdirection]
      | unknown => simp only [registerTrack, hmedia, hdirection]

theorem holdingsOf_registerTrack_ne (router : ScreenRouter) (expired : Expiry)
    {owner other : PeerId} (hne : other ≠ owner) (track : Option Track) (ssrc : UInt32) :
    (router.registerTrack expired owner track ssrc (some owner)).1.holdingsOf other =
      router.holdingsOf other := by
  rcases registerTrack_cases router expired owner track ssrc with
    heq | ⟨_, input, mediaType, _, rfl, heq⟩ | ⟨_, output, mediaType, heq⟩
  · rw [heq]
  · rw [heq]
    dsimp only
    rw [holdingsOf_thenAssign, holdingsOf_storeInput, holdingsOf_modifyPeer_ne _ hne,
      holdingsOf_peerForLocked]
  · rw [heq]
    dsimp only
    rw [holdingsOf_placeFresh_ne _ hne, holdingsOf_peerForLocked]

theorem holdingsOf_finishOutput (router : ScreenRouter) (expired : Expiry)
    (pending : PendingOutput) (other : PeerId) :
    (router.finishOutput expired pending).1.holdingsOf other = router.holdingsOf other := by
  rcases finishOutput_cases router expired pending with ⟨heq, _⟩ | heq
  · rw [heq]
  · rw [heq, holdingsOf_thenAssign]
    refine holdingsOf_of_lookup_map (lookup_markOutput router pending other) ?_ ?_
    · intro peer mediaType
      cases mediaType <;> split <;> rfl
    · intro peer mediaType
      split
      · exact filterMap_held_markReady _ _ _ _ mediaType
      · rfl

/-! ## The other operations -/

theorem holdingsOf_clear (router : ScreenRouter) (concerned : PeerId → Bool)
    (owner other : PeerId) :
    (router.sweepBound concerned owner OutputPair.clear).1.holdingsOf other =
      router.holdingsOf other :=
  holdingsOf_sweepBound router concerned owner other OutputPair.held_clear

theorem holdingsOf_setStreaming (router : ScreenRouter) (expired : Expiry)
    (peerId other : PeerId) (streaming : Bool) :
    (router.setStreaming expired peerId streaming).1.holdingsOf other =
      router.holdingsOf other := by
  have hstored := holdingsOf_modifyPeer (router.peerForLocked peerId) peerId other
    (f := fun peer => { peer with streaming := streaming })
    (fun _ mediaType => by cases mediaType <;> rfl) fun _ => rfl
  rcases setStreaming_cases router expired peerId streaming with heq | ⟨_, heq | heq⟩
  · rw [heq]
  · rw [heq, holdingsOf_peerForLocked]
  · rw [heq, holdingsOf_thenAssign, ← holdingsOf_peerForLocked router peerId other, ← hstored]
    unfold storeStreaming
    dsimp only
    split
    · rfl
    · exact holdingsOf_clear _ _ peerId other

theorem holdingsOf_setWatching (router : ScreenRouter) (expired : Expiry)
    (peerId publisher other : PeerId) (watching : Bool) :
    (router.setWatching expired peerId publisher watching).1.holdingsOf other =
      router.holdingsOf other := by
  rcases setWatching_cases router expired peerId publisher watching with
    heq | ⟨_, heq | heq | heq⟩
  · rw [heq]
  · rw [heq, holdingsOf_peerForLocked]
  · rw [heq, holdingsOf_thenAssign, ← holdingsOf_peerForLocked router peerId other]
    exact holdingsOf_modifyPeer _ peerId other
      (fun _ mediaType => by cases mediaType <;> rfl) fun _ => rfl
  · rw [heq, holdingsOf_thenAssign, ← holdingsOf_peerForLocked router peerId other]
    refine (holdingsOf_clear _ _ publisher other).trans ?_
    exact holdingsOf_modifyPeer _ peerId other
      (fun _ mediaType => by cases mediaType <;> rfl) fun _ => rfl

theorem holdingsOf_removePeer_ne (router : ScreenRouter) (expired : Expiry)
    {peerId other : PeerId} (hne : other ≠ peerId) :
    (router.removePeer expired peerId).1.holdingsOf other = router.holdingsOf other := by
  unfold removePeer
  split
  · rfl
  · rw [holdingsOf_thenAssign, holdingsOf_clear]
    refine holdingsOf_of_lookup_map (lookup_erasePeer_ne router hne) ?_ fun _ _ => rfl
    intro peer mediaType
    cases mediaType <;> rfl

/-- Registering a track keeps the mids of every peer's outputs distinct. -/
theorem distinct_registerTrack {router : ScreenRouter}
    (h : ∀ peerId, (router.holdingsOf peerId).Distinct) (expired : Expiry) (owner : PeerId)
    (track : Track) (ssrc : UInt32) (peerId : PeerId) :
    ((router.registerTrack expired owner (some track) ssrc
      (some owner)).1.holdingsOf peerId).Distinct := by
  by_cases hsame : peerId = owner
  · subst hsame
    cases hclosed : router.closed with
    | true =>
        rcases registerTrack_cases router expired peerId (some track) ssrc with
          heq | ⟨hopen, _⟩ | ⟨hopen, _⟩
        · rw [heq]
          exact h peerId
        · rw [hclosed] at hopen
          contradiction
        · rw [hclosed] at hopen
          contradiction
    | false =>
        cases hplace : track.place with
        | none =>
            rw [registerTrack_of_place_eq_none expired peerId ssrc hplace]
            exact h peerId
        | some place =>
            exact (placed_registerTrack hclosed expired peerId ssrc hplace).distinct (h peerId)
  · rw [holdingsOf_registerTrack_ne router expired hsame]
    exact h peerId

end ScreenRouter

end Sfu
end Driscord
