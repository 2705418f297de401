import Driscord.Sfu.VoiceNotices

/-!
# The tracks that a router holds of a peer

A router holds of each peer an input and the tracks of its outputs, the latter
by mid.  Registering a track writes one place of its owner, removing a peer takes
its places away, and everything else leaves every place as it is.  Here this is
shown of the voice router.

Main results:

- Theorem `Holdings.Placed.holds` and theorem `Holdings.Placed.elsewhere`: a place
  that is written holds the new track only, and the other places are as before.
- Theorem `VoiceRouter.placed_registerTrack`: registering a track writes its place.
-/

namespace Driscord
namespace Sfu

open Library

/-- Where a router keeps the track of a registration. -/
inductive Place where
  | input (mediaType : MediaType)
  | output (mediaType : MediaType) (mid : Bytes)
deriving DecidableEq, Repr

/-- The place of a track, unless its type or its direction has none. -/
def Track.place (track : Track) : Option Place :=
  match track.mediaType, track.direction with
  | some mediaType, Direction.recvOnly => some (Place.input mediaType)
  | some mediaType, Direction.sendOnly => some (Place.output mediaType track.mid)
  | _, _ => none

/-- The tracks that a router holds of a peer; those of outputs with their mids. -/
structure Holdings where
  input : MediaType → WeakTrack
  outputs : MediaType → List (Bytes × WeakTrack)

namespace Holdings

/-- The tracks at a place. -/
def tracksAt (holdings : Holdings) : Place → List WeakTrack
  | Place.input mediaType => [holdings.input mediaType]
  | Place.output mediaType mid =>
      ((holdings.outputs mediaType).filter fun output => output.1 = mid).map Prod.snd

/-- No two outputs of a media type have the same mid. -/
def Distinct (holdings : Holdings) : Prop :=
  ∀ mediaType, ((holdings.outputs mediaType).map Prod.fst).Nodup

/-- The list afterwards has the entry in the place of the one with its mid, if there
was one. -/
def Replaced (entry : Bytes × WeakTrack) (before after : List (Bytes × WeakTrack)) : Prop :=
  ∃ first second, after = first ++ entry :: second ∧
    (before = first ++ second ∧ entry.1 ∉ before.map Prod.fst ∨
      ∃ old, before = first ++ (entry.1, old) :: second)

/-- A track was written to a place. -/
def Placed (track : TrackId) (holdings holdings' : Holdings) : Place → Prop
  | Place.input mediaType =>
      holdings'.input = Function.update holdings.input mediaType (some track) ∧
        holdings'.outputs = holdings.outputs
  | Place.output mediaType mid =>
      holdings'.input = holdings.input ∧
        (∀ other, other ≠ mediaType → holdings'.outputs other = holdings.outputs other) ∧
        Replaced (mid, some track) (holdings.outputs mediaType) (holdings'.outputs mediaType)

section

variable {entry : Bytes × WeakTrack} {before after : List (Bytes × WeakTrack)}

theorem Replaced.nodup (h : Replaced entry before after)
    (hnodup : (before.map Prod.fst).Nodup) : (after.map Prod.fst).Nodup := by
  rcases h with ⟨first, second, rfl, ⟨rfl, hnew⟩ | ⟨old, rfl⟩⟩
  · rw [List.map_append, List.map_cons, List.nodup_middle, ← List.map_append]
    exact List.nodup_cons.mpr ⟨hnew, hnodup⟩
  · simpa using hnodup

theorem Replaced.filter_ne (h : Replaced entry before after) {mid : Bytes}
    (hne : mid ≠ entry.1) :
    after.filter (fun output => output.1 = mid) =
      before.filter fun output => output.1 = mid := by
  have hskip : decide (entry.1 = mid) = false := decide_eq_false fun hsame => hne hsame.symm
  rcases h with ⟨first, second, rfl, ⟨rfl, _⟩ | ⟨old, rfl⟩⟩
  · simp [List.filter_append, hskip]
  · simp [List.filter_append, hskip]

/-- Without a second output of the mid, the entry is the only one. -/
theorem Replaced.filter_eq (h : Replaced entry before after)
    (hnodup : (before.map Prod.fst).Nodup) :
    after.filter (fun output => output.1 = entry.1) = [entry] := by
  have hafter := h.nodup hnodup
  rcases h with ⟨first, second, rfl, -⟩
  rw [List.map_append, List.map_cons, List.nodup_middle, ← List.map_append,
    List.nodup_cons] at hafter
  have hrest : ∀ output ∈ first ++ second, ¬ decide (output.1 = entry.1) = true := by
    intro output houtput hsame
    exact hafter.1 (List.mem_map.mpr ⟨output, houtput, by simpa using hsame⟩)
  have hfirst : first.filter (fun output => output.1 = entry.1) = [] :=
    List.filter_eq_nil_iff.mpr fun output h => hrest output (List.mem_append_left _ h)
  have hsecond : second.filter (fun output => output.1 = entry.1) = [] :=
    List.filter_eq_nil_iff.mpr fun output h => hrest output (List.mem_append_right _ h)
  simp [List.filter_append, hfirst, hsecond]

end

section

variable {track : TrackId} {holdings holdings' : Holdings} {place : Place}

theorem Placed.distinct (h : Placed track holdings holdings' place)
    (hdistinct : holdings.Distinct) : holdings'.Distinct := by
  intro mediaType
  cases place with
  | input written =>
      rw [h.2]
      exact hdistinct mediaType
  | output written mid =>
      by_cases hsame : mediaType = written
      · rw [hsame]
        exact h.2.2.nodup (hdistinct written)
      · rw [h.2.1 mediaType hsame]
        exact hdistinct mediaType

/-- The written place holds the track, and nothing else. -/
theorem Placed.holds (h : Placed track holdings holdings' place)
    (hdistinct : holdings.Distinct) : holdings'.tracksAt place = [some track] := by
  cases place with
  | input mediaType =>
      rw [tracksAt, h.1, Function.update_self]
  | output mediaType mid =>
      rw [tracksAt, h.2.2.filter_eq (hdistinct mediaType)]
      rfl

theorem Placed.elsewhere (h : Placed track holdings holdings' place) {other : Place}
    (hne : other ≠ place) : holdings'.tracksAt other = holdings.tracksAt other := by
  cases other with
  | input mediaType =>
      cases place with
      | input written =>
          have hmedia : mediaType ≠ written := fun hsame => hne (hsame ▸ rfl)
          rw [tracksAt, tracksAt, h.1, Function.update_of_ne hmedia]
      | output written mid => rw [tracksAt, tracksAt, h.1]
  | output mediaType mid =>
      cases place with
      | input written => rw [tracksAt, tracksAt, h.2]
      | output written writtenMid =>
          by_cases hsame : mediaType = written
          · subst hsame
            have hmid : mid ≠ writtenMid := fun hsame => hne (hsame ▸ rfl)
            rw [tracksAt, tracksAt, h.2.2.filter_ne hmid]
          · rw [tracksAt, tracksAt, h.2.1 mediaType hsame]

end

/-- A peer of which nothing is held. -/
def none : Holdings := ⟨fun _ => Option.none, fun _ => []⟩

theorem distinct_none : none.Distinct := fun _ => List.nodup_nil

end Holdings

/-! ## The voice router -/

namespace VoiceRouter

open Voice

/-- The place of a track that the voice router takes. -/
def placeOf (track : Track) : Option Place :=
  if track.mediaType = some MediaType.audio then track.place else none

/-- What the voice router holds of a peer; all of it is audio. -/
def holdingsOf (router : VoiceRouter) (peerId : PeerId) : Holdings where
  input
    | MediaType.audio => router.inputOf peerId
    | MediaType.video => none
  outputs
    | MediaType.audio => (router.outputsOf peerId).map fun output => (output.mid, output.track)
    | MediaType.video => []

theorem holdingsOf_congr {router router' : VoiceRouter} {peerId : PeerId}
    (hinput : router'.inputOf peerId = router.inputOf peerId)
    (houtputs : (router'.outputsOf peerId).map (fun output => (output.mid, output.track)) =
      (router.outputsOf peerId).map fun output => (output.mid, output.track)) :
    router'.holdingsOf peerId = router.holdingsOf peerId := by
  rw [holdingsOf, holdingsOf, hinput, houtputs]

theorem distinct_holdingsOf {router : VoiceRouter} (h : router.Inv) (peerId : PeerId) :
    (router.holdingsOf peerId).Distinct := by
  intro mediaType
  cases mediaType with
  | video => exact List.nodup_nil
  | audio =>
      have hmids := h.mids peerId
      simpa [holdingsOf, Function.comp_def] using hmids

theorem holdingsOf_of_notMem {router : VoiceRouter} {peerId : PeerId}
    (h : peerId ∉ router.peers) : router.holdingsOf peerId = Holdings.none := by
  have hinput : router.inputOf peerId = none := by
    by_contra hne
    exact h (mem_of_inputOf hne)
  rw [holdingsOf, hinput, outputsOf_of_notMem h]
  refine congrArg₂ Holdings.mk ?_ ?_ <;> funext mediaType <;> cases mediaType <;> rfl

section

variable (router : VoiceRouter)

theorem holdingsOf_peerForLocked (peerId other : PeerId) :
    (router.peerForLocked peerId).holdingsOf other = router.holdingsOf other :=
  holdingsOf_congr (by simp) (by simp)

theorem holdingsOf_sweepBound (owner other : PeerId) {update : OutputSlot → OutputSlot}
    (hupdate : ∀ output, (update output).mid = output.mid ∧
      (update output).track = output.track) :
    (router.sweepBound owner update).1.holdingsOf other = router.holdingsOf other := by
  refine holdingsOf_congr (inputOf_sweepBound router owner other update) ?_
  rw [outputsOf_sweepBound, List.map_map]
  refine List.map_congr_left fun output _ => ?_
  simp only [Function.comp_apply, OutputSlot.ifBoundTo]
  split
  · rw [(hupdate output).1, (hupdate output).2]
  · rfl

theorem holdingsOf_assignAvailableLocked (expired : Expiry) (other : PeerId) :
    (router.assignAvailableLocked expired).1.holdingsOf other = router.holdingsOf other := by
  refine holdingsOf_congr (inputOf_assignAvailableLocked router expired other) ?_
  rw [outputsOf_assignAvailableLocked]
  refine Eq.symm (List.forall₂_eq_eq_eq ▸ ?_)
  rw [List.forall₂_map_left_iff, List.forall₂_map_right_iff]
  refine (served_assignSubscriber router expired other (router.outputsOf other)).imp ?_
  rintro output _ (rfl | ⟨publisher, _, _, _, rfl, _⟩)
  · rfl
  · rfl

theorem holdingsOf_thenAssign (expired : Expiry) (first : VoiceRouter × List BindingNotice)
    (other : PeerId) :
    (thenAssign expired first).1.holdingsOf other = first.1.holdingsOf other :=
  holdingsOf_assignAvailableLocked first.1 expired other

end

/-! ### Registering a track -/

theorem inputOf_setInput {router : VoiceRouter} {owner : PeerId} (hmem : owner ∈ router.peers)
    (track : Track) (sendBinding : BindingSender) :
    (router.modifyPeer owner (PeerState.setInput track sendBinding)).inputOf owner =
      some track.id := by
  rcases Table.mem_iff_exists_lookup.mp hmem with ⟨peer, hpeer⟩
  simp [inputOf, lookup_modifyPeer, hpeer, PeerState.setInput]

theorem inputOf_modifyPeer_ne (router : VoiceRouter) {owner other : PeerId}
    (hne : other ≠ owner) (f : PeerState → PeerState) :
    (router.modifyPeer owner f).inputOf other = router.inputOf other := by
  simp [inputOf, lookup_modifyPeer, hne]

theorem placed_storeInput (router : VoiceRouter) (owner : PeerId) (track : Track) :
    Holdings.Placed track.id (router.holdingsOf owner)
      ((router.storeInput owner track).1.holdingsOf owner) (Place.input MediaType.audio) := by
  have hmem : owner ∈ (router.peerForLocked owner).peers := by simp
  have houtputs := outputsOf_modifyPeer (router.peerForLocked owner) owner owner
    (f := PeerState.setInput track (some owner)) fun _ => rfl
  have hstored : (router.storeInput owner track).1.holdingsOf owner =
      ((router.peerForLocked owner).modifyPeer owner
        (PeerState.setInput track (some owner))).holdingsOf owner := by
    unfold storeInput
    dsimp only
    split
    · exact holdingsOf_sweepBound _ owner owner fun _ => ⟨rfl, rfl⟩
    · rfl
  rw [hstored]
  refine ⟨?_, ?_⟩
  · funext mediaType
    cases mediaType with
    | audio =>
        rw [Function.update_self]
        exact inputOf_setInput hmem track (some owner)
    | video => rfl
  · simp only [holdingsOf, houtputs, outputsOf_peerForLocked]

theorem holdingsOf_storeInput_ne (router : VoiceRouter) {owner other : PeerId}
    (hne : other ≠ owner) (track : Track) :
    (router.storeInput owner track).1.holdingsOf other = router.holdingsOf other := by
  have hstored : ((router.peerForLocked owner).modifyPeer owner
      (PeerState.setInput track (some owner))).holdingsOf other = router.holdingsOf other := by
    have houtputs := outputsOf_modifyPeer (router.peerForLocked owner) owner other
      (f := PeerState.setInput track (some owner)) fun _ => rfl
    refine holdingsOf_congr ?_ ?_
    · rw [inputOf_modifyPeer_ne _ hne, inputOf_peerForLocked]
    · rw [houtputs, outputsOf_peerForLocked]
  rw [← hstored]
  unfold storeInput
  dsimp only
  split
  · exact holdingsOf_sweepBound _ owner other fun _ => ⟨rfl, rfl⟩
  · rfl

theorem placed_storeOutput (router : VoiceRouter) (owner : PeerId) (track : Track)
    (ssrc : UInt32) :
    Holdings.Placed track.id (router.holdingsOf owner)
      ((router.storeOutput owner track ssrc).1.holdingsOf owner)
      (Place.output MediaType.audio track.mid) := by
  have hmem : owner ∈ (router.peerForLocked owner).peers := by simp
  refine ⟨?_, ?_, ?_⟩
  · funext mediaType
    cases mediaType with
    | audio =>
        exact (inputOf_placeFresh (router.peerForLocked owner) owner owner track ssrc).trans
          (inputOf_peerForLocked router owner owner)
    | video => rfl
  · intro other hne
    cases other with
    | audio => exact absurd rfl hne
    | video => rfl
  · rcases placeOutput_eq ((router.peerForLocked owner).freshOutput track ssrc)
      (router.outputsOf owner) with ⟨first, second, hplaced, hold⟩
    refine ⟨first.map fun output => (output.mid, output.track),
      second.map fun output => (output.mid, output.track), ?_, ?_⟩
    · simp only [holdingsOf, storeOutput, outputsOf_placeFresh_owner hmem,
        outputsOf_peerForLocked, hplaced, List.map_append, List.map_cons]
      rfl
    · rcases hold with ⟨hslots, _, hnew, _⟩ | ⟨slot, hslots, hmid, _⟩
      · refine Or.inl ⟨?_, ?_⟩
        · simp only [holdingsOf, ← List.map_append]
          rw [← hslots]
        · simp only [holdingsOf, List.map_map, List.mem_map, Function.comp_apply, not_exists,
            not_and]
          exact hnew
      · refine Or.inr ⟨slot.track, ?_⟩
        have hmid' : slot.mid = track.mid := hmid
        simp only [holdingsOf, hslots, List.map_append, List.map_cons, hmid']

theorem holdingsOf_storeOutput_ne (router : VoiceRouter) {owner other : PeerId}
    (hne : other ≠ owner) (track : Track) (ssrc : UInt32) :
    (router.storeOutput owner track ssrc).1.holdingsOf other = router.holdingsOf other := by
  refine holdingsOf_congr ?_ ?_
  · rw [storeOutput, inputOf_placeFresh, inputOf_peerForLocked]
  · rw [storeOutput, outputsOf_placeFresh_ne _ hne, outputsOf_peerForLocked]

/-- A track with a place is written there. -/
theorem placed_registerTrack {router : VoiceRouter} (hopen : router.closed = false)
    (expired : Expiry) (owner : PeerId) {track : Track} (ssrc : UInt32) {place : Place}
    (hplace : placeOf track = some place) :
    Holdings.Placed track.id (router.holdingsOf owner)
      ((router.registerTrack expired owner (some track) ssrc
        (some owner)).1.holdingsOf owner) place := by
  unfold placeOf at hplace
  split at hplace
  case isFalse => contradiction
  case isTrue haudio =>
    simp only [registerTrack, if_pos haudio]
    rw [Track.place, haudio] at hplace
    cases hdirection : track.direction with
    | recvOnly =>
        rw [hdirection, Option.some.injEq] at hplace
        simp only [registerInput_eq hopen, holdingsOf_thenAssign]
        rw [← hplace]
        exact placed_storeInput router owner track
    | sendOnly =>
        rw [hdirection, Option.some.injEq] at hplace
        simp only [registerOutput_eq hopen, holdingsOf_thenAssign]
        rw [← hplace]
        exact placed_storeOutput router owner track ssrc
    | sendRecv => simp [hdirection] at hplace
    | inactive => simp [hdirection] at hplace
    | unknown => simp [hdirection] at hplace

/-- A track without a place is ignored. -/
theorem registerTrack_of_placeOf_eq_none {router : VoiceRouter} (expired : Expiry)
    (owner : PeerId) {track : Track} (ssrc : UInt32) (hplace : placeOf track = none) :
    router.registerTrack expired owner (some track) ssrc (some owner) = (router, []) := by
  unfold placeOf at hplace
  split at hplace
  case isFalse haudio => simp only [registerTrack, if_neg haudio]
  case isTrue haudio =>
    simp only [registerTrack, if_pos haudio]
    rw [Track.place, haudio] at hplace
    cases hdirection : track.direction with
    | recvOnly => simp [hdirection] at hplace
    | sendOnly => simp [hdirection] at hplace
    | sendRecv => rfl
    | inactive => rfl
    | unknown => rfl

theorem holdingsOf_registerTrack_ne (router : VoiceRouter) (expired : Expiry)
    {owner other : PeerId} (hne : other ≠ owner) (track : Option Track) (ssrc : UInt32) :
    (router.registerTrack expired owner track ssrc (some owner)).1.holdingsOf other =
      router.holdingsOf other := by
  rcases registerTrack_cases router expired owner track ssrc with
    heq | ⟨input, heq⟩ | ⟨output, heq⟩
  · rw [heq]
  · rw [heq, holdingsOf_thenAssign, holdingsOf_storeInput_ne router hne]
  · rw [heq, holdingsOf_thenAssign, holdingsOf_storeOutput_ne router hne]

/-! ### Removing a peer -/

theorem holdingsOf_removePeer_ne (router : VoiceRouter) (expired : Expiry)
    {peerId other : PeerId} (hne : other ≠ peerId) :
    (router.removePeer expired peerId).1.holdingsOf other = router.holdingsOf other := by
  unfold removePeer
  split
  · rfl
  · have hswept : ((router.erasePeer peerId).sweepBound peerId
        OutputSlot.release).1.holdingsOf other = (router.erasePeer peerId).holdingsOf other :=
      holdingsOf_sweepBound _ peerId other fun _ => ⟨rfl, rfl⟩
    rw [holdingsOf_thenAssign, hswept]
    refine holdingsOf_congr (inputOf_erasePeer_ne router hne) ?_
    rw [outputsOf_erasePeer, if_neg hne]

end VoiceRouter

end Sfu
end Driscord
