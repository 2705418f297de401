import Driscord.Sfu.ScreenNotices

/-!
# Who watches whom in the screen router

The watches of an open router change with `set_watching` and with `remove_peer`
only, and each changes exactly what it names.

Main results:

- Theorem `mem_watchedOf_setWatching`: a watch is there afterwards when it was asked
  for, or when it was there and not given up.
- Theorem `mem_watchedOf_removePeer`: the watches that are left do not involve the
  peer.
-/

namespace Driscord
namespace Sfu

open Library

namespace ScreenRouter

open Screen

variable (router : ScreenRouter)

@[simp]
theorem watchedOf_thenAssign (expired : Expiry) (first : ScreenRouter × List BindingNotice)
    (peerId : PeerId) :
    (thenAssign expired first).1.watchedOf peerId = first.1.watchedOf peerId :=
  watchedOf_assignAvailableLocked first.1 expired peerId

theorem watchedOf_of_notMem {router : ScreenRouter} {peerId : PeerId}
    (h : peerId ∉ router.peers) : router.watchedOf peerId = ∅ := by
  simp [watchedOf, AList.lookup_eq_none.mpr h]

theorem mem_peers_of_mem_watchedOf {router : ScreenRouter} {peerId publisher : PeerId}
    (h : publisher ∈ router.watchedOf peerId) : peerId ∈ router.peers := by
  by_contra hmem
  rw [watchedOf_of_notMem hmem] at h
  exact AList.notMem_empty publisher h

theorem watchedOf_storeInput (owner peerId : PeerId) (track : Track) (mediaType : MediaType) :
    (router.storeInput owner track mediaType).1.watchedOf peerId = router.watchedOf peerId := by
  have hstored : ((router.peerForLocked owner).modifyPeer owner fun peer =>
      { peer.setInputState mediaType ((peer.input mediaType).store track) with
        sendBinding := some owner }).watchedOf peerId = router.watchedOf peerId := by
    rw [← watchedOf_peerForLocked router owner peerId]
    refine watchedOf_of_lookup_map (lookup_modifyPeer _ owner peerId _) fun peer => ?_
    cases mediaType <;> split <;> rfl
  unfold storeInput
  dsimp only
  split
  · rw [watchedOf_sweepBound, hstored]
  · exact hstored

theorem watchedOf_registerTrack (expired : Expiry) (owner peerId : PeerId)
    (track : Option Track) (ssrc : UInt32) :
    (router.registerTrack expired owner track ssrc (some owner)).1.watchedOf peerId =
      router.watchedOf peerId := by
  rcases registerTrack_cases router expired owner track ssrc with
    heq | ⟨_, input, mediaType, _, rfl, heq⟩ | ⟨_, output, mediaType, heq⟩
  · rw [heq]
  · rw [heq]
    dsimp only
    rw [watchedOf_thenAssign, watchedOf_storeInput]
  · rw [heq]
    dsimp only
    rw [watchedOf_placeFresh, watchedOf_peerForLocked]

theorem watchedOf_finishOutput (expired : Expiry) (pending : PendingOutput) (peerId : PeerId) :
    (router.finishOutput expired pending).1.watchedOf peerId = router.watchedOf peerId := by
  rcases finishOutput_cases router expired pending with ⟨heq, _⟩ | heq
  · rw [heq]
  · rw [heq, watchedOf_thenAssign, watchedOf_markOutput]

theorem watchedOf_setStreaming (expired : Expiry) (peerId other : PeerId) (streaming : Bool) :
    (router.setStreaming expired peerId streaming).1.watchedOf other =
      router.watchedOf other := by
  rcases setStreaming_cases router expired peerId streaming with heq | ⟨_, heq | heq⟩
  · rw [heq]
  · rw [heq, watchedOf_peerForLocked]
  · rw [heq, watchedOf_thenAssign, ← watchedOf_peerForLocked router peerId other]
    have hstored : ((router.peerForLocked peerId).modifyPeer peerId fun peer =>
        { peer with streaming := streaming }).watchedOf other =
          (router.peerForLocked peerId).watchedOf other :=
      watchedOf_of_lookup_map (lookup_modifyPeer _ peerId other _) fun _ => by split <;> rfl
    unfold storeStreaming
    dsimp only
    split
    · exact hstored
    · rw [watchedOf_sweepBound, hstored]

/-! ## Watching -/

section

variable {router : ScreenRouter} {peerId publisher other watched : PeerId}

theorem mem_watchedOf_startWatching (hmem : peerId ∈ router.peers) :
    watched ∈ (router.startWatching peerId publisher).watchedOf other ↔
      watched ∈ router.watchedOf other ∨ other = peerId ∧ watched = publisher := by
  rcases Table.mem_iff_exists_lookup.mp hmem with ⟨peer, hpeer⟩
  by_cases hsame : other = peerId
  · subst hsame
    simp [startWatching, watchedOf, lookup_modifyPeer, hpeer, or_comm]
  · simp [startWatching, watchedOf, lookup_modifyPeer, hsame]

theorem mem_watchedOf_stopWatching :
    watched ∈ (router.stopWatching peerId publisher).1.watchedOf other ↔
      watched ∈ router.watchedOf other ∧ ¬ (other = peerId ∧ watched = publisher) := by
  rw [stopWatching, watchedOf_sweepBound, watchedOf, lookup_stored_watches, watchedOf]
  cases router.peers.lookup other with
  | none => simp
  | some peer =>
      by_cases hsame : other = peerId
      · simp [hsame, and_comm]
      · simp [hsame]

/-- Between two peers of an open router a watch is there afterwards when it was asked
for, or when it was there and was not given up. -/
theorem mem_watchedOf_setWatching (hopen : router.closed = false) (hne : peerId ≠ publisher)
    (expired : Expiry) (watching : Bool) :
    watched ∈ (router.setWatching expired peerId publisher watching).1.watchedOf other ↔
      if other = peerId ∧ watched = publisher then watching = true
      else watched ∈ router.watchedOf other := by
  simp only [setWatching, if_neg hne, hopen, Bool.false_eq_true, if_false]
  have hmem : peerId ∈ (router.peerForLocked peerId).peers := by simp
  cases watching with
  | true =>
      simp only [if_true]
      by_cases hwatched : publisher ∈ (router.peerForLocked peerId).watchedOf peerId
      · rw [if_pos hwatched]
        rw [watchedOf_peerForLocked] at hwatched ⊢
        by_cases hcase : other = peerId ∧ watched = publisher
        · rw [if_pos hcase, hcase.1, hcase.2]
          simpa using hwatched
        · rw [if_neg hcase]
      · rw [if_neg hwatched, watchedOf_thenAssign, mem_watchedOf_startWatching hmem,
          watchedOf_peerForLocked]
        by_cases hcase : other = peerId ∧ watched = publisher
        · simp [hcase]
        · simp [hcase]
  | false =>
      simp only [Bool.false_eq_true, if_false]
      by_cases hwatched : publisher ∈ (router.peerForLocked peerId).watchedOf peerId
      · rw [if_pos hwatched, watchedOf_thenAssign, mem_watchedOf_stopWatching,
          watchedOf_peerForLocked]
        by_cases hcase : other = peerId ∧ watched = publisher
        · simp [hcase]
        · simp [hcase]
      · rw [if_neg hwatched]
        rw [watchedOf_peerForLocked] at hwatched ⊢
        by_cases hcase : other = peerId ∧ watched = publisher
        · rw [if_pos hcase, hcase.1, hcase.2]
          simpa using hwatched
        · rw [if_neg hcase]

/-! ## Removing a peer -/

/-- What is left does not involve the peer. -/
theorem mem_watchedOf_removePeer (hopen : router.closed = false) (expired : Expiry) :
    watched ∈ (router.removePeer expired peerId).1.watchedOf other ↔
      watched ∈ router.watchedOf other ∧ other ≠ peerId ∧ watched ≠ peerId := by
  simp only [removePeer, hopen, Bool.false_eq_true, if_false]
  rw [watchedOf_thenAssign, watchedOf_sweepBound]
  by_cases hsame : other = peerId
  · subst hsame
    simp [watchedOf]
  · rw [watchedOf, lookup_erasePeer_ne router hsame, watchedOf]
    cases router.peers.lookup other with
    | none => simp
    | some peer => simp [hsame, and_comm]

end

end ScreenRouter

end Sfu
end Driscord
