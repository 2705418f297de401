import Driscord.Sfu.Ports
import Driscord.Sfu.ScreenRouter

/-!
# The screen router's output pairs

The proofs about `ScreenRouter` look at the output pairs of a peer, its video
input, its streaming flag and its watches.  This module says what each part of
an operation does to them.

Main results:

- Theorem `pairsOf_sweepBound` and theorem `pairsOf_assignAvailableLocked`: the
  loops over all peers act on each peer's pairs by themselves.
- Theorem `outputPairFor_spec`: which pair `register_output` takes.
- Theorem `served_assignSubscriber`: the assignment pass keeps a pair or binds
  it to an assignable watched publisher.
-/

namespace Driscord
namespace Sfu

open Library

namespace Screen

/-! ## Ports of a pair -/

/-- The port of an output track of a pair bound to `holder`. -/
def OutputTrack.port (holder : Option PeerId) (output : OutputTrack) : Port where
  mid := output.mid
  id := output.rewriter.id
  generation := output.rewriter.generation
  recorded := output.sourceGeneration
  holder := holder

/-- The ports of a pair. -/
def OutputPair.ports (pair : OutputPair) : List Port :=
  pair.outputs.map (OutputTrack.port pair.publisher)

/-- Updating both outputs steps the ports if each update does. -/
theorem steps_of_outputs {holder holder' : Option PeerId}
    {f g : OutputTrack → OutputTrack}
    (hf : ∀ output, Port.Step (output.port holder) ((f output).port holder'))
    (hg : ∀ output, Port.Step (output.port holder) ((g output).port holder'))
    (video audio : Option OutputTrack) :
    List.Forall₂ Port.Step (OutputPair.ports ⟨video, audio, holder⟩)
      (OutputPair.ports ⟨video.map f, audio.map g, holder'⟩) := by
  cases video <;> cases audio <;> simp [OutputPair.ports, OutputPair.outputs, hf, hg]

theorem OutputTrack.step_restart (holder holder' : Option PeerId) (output : OutputTrack) :
    Port.Step (output.port holder) (output.restart.port holder') :=
  ⟨rfl, rfl, Or.inr ⟨Nat.lt_succ_self _, fun _ => rfl⟩⟩

theorem OutputTrack.step_stop (holder : Option PeerId) (output : OutputTrack) :
    Port.Step (output.port holder) (output.stop.port none) :=
  ⟨rfl, rfl, Or.inr ⟨Nat.lt_succ_self _, fun h => absurd rfl h⟩⟩

theorem OutputPair.steps_refl (pair : OutputPair) :
    List.Forall₂ Port.Step pair.ports pair.ports :=
  List.forall₂_same.mpr fun port _ => Port.Step.refl port

theorem OutputPair.steps_restart (mediaType : MediaType) (pair : OutputPair) :
    List.Forall₂ Port.Step pair.ports (pair.restart mediaType).ports := by
  rcases pair with ⟨video, audio, publisher⟩
  cases mediaType with
  | audio =>
      have hsteps := steps_of_outputs (fun output => Port.Step.refl (output.port publisher))
        (OutputTrack.step_restart publisher publisher) video audio
      simpa [OutputPair.restart, OutputPair.setOutput, OutputPair.output] using hsteps
  | video =>
      have hsteps := steps_of_outputs (OutputTrack.step_restart publisher publisher)
        (fun output => Port.Step.refl (output.port publisher)) video audio
      simpa [OutputPair.restart, OutputPair.setOutput, OutputPair.output] using hsteps

theorem OutputPair.steps_clear (pair : OutputPair) :
    List.Forall₂ Port.Step pair.ports pair.clear.ports := by
  unfold OutputPair.clear
  split
  · exact pair.steps_refl
  · exact steps_of_outputs (OutputTrack.step_stop pair.publisher)
      (OutputTrack.step_stop pair.publisher) pair.video pair.audio

theorem OutputPair.steps_bindTo (publisher : PeerId) (pair : OutputPair) :
    List.Forall₂ Port.Step pair.ports (pair.bindTo publisher).ports :=
  steps_of_outputs (OutputTrack.step_restart pair.publisher (some publisher))
    (OutputTrack.step_restart pair.publisher (some publisher)) pair.video pair.audio

theorem OutputPair.steps_ifBoundTo {update : OutputPair → OutputPair}
    (hupdate : ∀ pair, List.Forall₂ Port.Step (OutputPair.ports pair) (update pair).ports)
    (owner : PeerId) (pair : OutputPair) :
    List.Forall₂ Port.Step pair.ports (pair.ifBoundTo owner update).ports := by
  unfold OutputPair.ifBoundTo
  split
  · exact hupdate pair
  · exact pair.steps_refl

/-- Ports of pairs that step one by one. -/
theorem steps_flatMap {pairs pairs' : List OutputPair}
    (h : List.Forall₂ (fun pair pair' =>
      List.Forall₂ Port.Step (OutputPair.ports pair) (OutputPair.ports pair')) pairs pairs') :
    List.Forall₂ Port.Step (pairs.flatMap OutputPair.ports) (pairs'.flatMap OutputPair.ports) := by
  induction h with
  | nil => exact List.Forall₂.nil
  | cons hstep _ ih =>
      rw [List.flatMap_cons, List.flatMap_cons]
      exact List.rel_append hstep ih

/-! ## Ready pairs -/

/-- Both outputs are there and ready. -/
def OutputPair.Ready (pair : OutputPair) : Prop :=
  ∃ video audio, pair.video = some video ∧ pair.audio = some audio ∧
    video.ready = true ∧ audio.ready = true

theorem OutputPair.Ready.outputs_ready {pair : OutputPair} (h : pair.Ready) :
    ∀ output ∈ pair.outputs, output.ready = true := by
  rcases h with ⟨video, audio, hvideo, haudio, hvideoReady, haudioReady⟩
  intro output houtput
  simp only [OutputPair.outputs, hvideo, haudio, Option.toList_some, List.cons_append,
    List.nil_append, List.mem_cons, List.not_mem_nil, or_false] at houtput
  rcases houtput with rfl | rfl
  · exact hvideoReady
  · exact haudioReady

theorem outputLive_eq_true {expired : TrackId → Bool} {output : Option OutputTrack} :
    outputLive expired output = true ↔
      ∃ track, output = some track ∧ track.ready = true ∧
        trackExpired expired track.track = false := by
  cases output with
  | none => simp [outputLive]
  | some track => simp [outputLive]

theorem OutputPair.ready_of_available {expired : TrackId → Bool} {pair : OutputPair}
    (h : pair.available expired = true) : pair.Ready := by
  simp only [OutputPair.available, Bool.and_eq_true, outputLive_eq_true] at h
  rcases h with ⟨⟨_, video, hvideo, hvideoReady, _⟩, audio, haudio, haudioReady, _⟩
  exact ⟨video, audio, hvideo, haudio, hvideoReady, haudioReady⟩

theorem OutputPair.Ready.restart {pair : OutputPair} (h : pair.Ready) (mediaType : MediaType) :
    (pair.restart mediaType).Ready := by
  rcases h with ⟨video, audio, hvideo, haudio, hvideoReady, haudioReady⟩
  cases mediaType with
  | audio =>
      exact ⟨video, audio.restart, hvideo,
        by simp [OutputPair.restart, OutputPair.setOutput, OutputPair.output, haudio],
        hvideoReady, haudioReady⟩
  | video =>
      exact ⟨video.restart, audio,
        by simp [OutputPair.restart, OutputPair.setOutput, OutputPair.output, hvideo],
        haudio, hvideoReady, haudioReady⟩

theorem OutputPair.Ready.bindTo {pair : OutputPair} (h : pair.Ready) (publisher : PeerId) :
    (pair.bindTo publisher).Ready := by
  rcases h with ⟨video, audio, hvideo, haudio, hvideoReady, haudioReady⟩
  exact ⟨video.restart, audio.restart, by simp [OutputPair.bindTo, hvideo],
    by simp [OutputPair.bindTo, haudio], hvideoReady, haudioReady⟩

@[simp]
theorem OutputPair.publisher_clear (pair : OutputPair) : pair.clear.publisher = none := by
  unfold OutputPair.clear
  split
  · assumption
  · rfl

@[simp]
theorem OutputPair.publisher_setOutput (mediaType : MediaType) (output : Option OutputTrack)
    (pair : OutputPair) : (pair.setOutput mediaType output).publisher = pair.publisher := by
  cases mediaType <;> rfl

@[simp]
theorem OutputPair.publisher_restart (mediaType : MediaType) (pair : OutputPair) :
    (pair.restart mediaType).publisher = pair.publisher :=
  OutputPair.publisher_setOutput _ _ _

/-! ## Choosing the pair of a new output -/

/-- The pair that `register_output` takes is one of the pairs or a new one; its
output of the media type has the mid, or it has none and no pair has the mid. -/
theorem outputPairFor_spec (mediaType : MediaType) (mid : Bytes) (pairs : List OutputPair) :
    ∃ first pair second, outputPairFor mediaType mid pairs = (first, pair, second) ∧
      (pairs = first ++ pair :: second ∨ pairs = first ∧ pair = {} ∧ second = []) ∧
        ((∃ output, pair.output mediaType = some output ∧ output.mid = mid) ∨
          pair.output mediaType = none ∧
            ∀ other ∈ pairs, other.hasMid mediaType mid = false) := by
  unfold outputPairFor
  cases hmid : splitFirst (OutputPair.hasMid mediaType mid) pairs with
  | some found =>
      rcases found with ⟨first, pair, second⟩
      rcases splitFirst_eq_some hmid with ⟨hpairs, hwanted⟩
      refine ⟨first, pair, second, rfl, Or.inl hpairs, Or.inl ?_⟩
      simpa [OutputPair.hasMid, Option.any_eq_true] using hwanted
  | none =>
      have hnone := splitFirst_eq_none hmid
      dsimp only
      cases hfree : splitFirst (fun pair => (pair.output mediaType).isNone) pairs with
      | some found =>
          rcases found with ⟨first, pair, second⟩
          rcases splitFirst_eq_some hfree with ⟨hpairs, hwanted⟩
          exact ⟨first, pair, second, rfl, Or.inl hpairs,
            Or.inr ⟨Option.isNone_iff_eq_none.mp hwanted, hnone⟩⟩
      | none =>
          refine ⟨pairs, {}, [], rfl, Or.inr ⟨rfl, rfl, rfl⟩, Or.inr ⟨?_, hnone⟩⟩
          cases mediaType <;> rfl

end Screen

namespace ScreenRouter

open Screen

/-! ## Views -/

/-- The output pairs of a peer; none for an absent one. -/
def pairsOf (router : ScreenRouter) (peerId : PeerId) : List OutputPair :=
  ((router.peers.lookup peerId).map PeerState.outputs).getD []

/-- The video input of a peer; empty for an absent one. -/
def videoOf (router : ScreenRouter) (peerId : PeerId) : WeakTrack :=
  (router.peers.lookup peerId).bind fun peer => peer.video.track

/-- The ports of every peer. -/
def portsOf (router : ScreenRouter) : Ports :=
  fun peerId => (router.pairsOf peerId).flatMap OutputPair.ports

/-- The publishers bound to a peer's pairs. -/
def publishersOf (router : ScreenRouter) (peerId : PeerId) : List PeerId :=
  (router.pairsOf peerId).filterMap OutputPair.publisher

theorem pairsOf_of_lookup {router : ScreenRouter} {peerId : PeerId} {peer : PeerState}
    (h : router.peers.lookup peerId = some peer) : router.pairsOf peerId = peer.outputs := by
  simp [pairsOf, h]

theorem watchedOf_of_lookup {router : ScreenRouter} {peerId : PeerId} {peer : PeerState}
    (h : router.peers.lookup peerId = some peer) :
    router.watchedOf peerId = peer.watchedPublishers := by
  simp [watchedOf, h]

theorem pairsOf_of_notMem {router : ScreenRouter} {peerId : PeerId}
    (h : peerId ∉ router.peers) : router.pairsOf peerId = [] := by
  simp [pairsOf, AList.lookup_eq_none.mpr h]

theorem mem_of_mem_pairsOf {router : ScreenRouter} {peerId : PeerId} {pair : OutputPair}
    (h : pair ∈ router.pairsOf peerId) : peerId ∈ router.peers := by
  by_contra hmem
  rw [pairsOf_of_notMem hmem] at h
  simp at h

theorem mem_of_streamingOf {router : ScreenRouter} {peerId : PeerId}
    (h : router.streamingOf peerId = true) : peerId ∈ router.peers := by
  by_contra hmem
  simp [streamingOf, AList.lookup_eq_none.mpr hmem] at h

theorem mem_publishersOf {router : ScreenRouter} {subscriber publisher : PeerId} :
    publisher ∈ router.publishersOf subscriber ↔
      ∃ pair ∈ router.pairsOf subscriber, pair.publisher = some publisher := by
  simp [publishersOf]

/-! ## Peers -/

@[simp]
theorem mem_peerForLocked (router : ScreenRouter) (peerId other : PeerId) :
    other ∈ (router.peerForLocked peerId).peers ↔ other = peerId ∨ other ∈ router.peers := by
  unfold peerForLocked
  split
  · rename_i hmem
    constructor
    · exact Or.inr
    · rintro (rfl | h)
      · exact hmem
      · exact h
  · simp

/-- A new peer state has no pairs, no input and no watches and does not stream. -/
theorem lookup_peerForLocked (router : ScreenRouter) (peerId other : PeerId) :
    (router.peerForLocked peerId).peers.lookup other = router.peers.lookup other ∨
      router.peers.lookup other = none ∧ other = peerId ∧
        (router.peerForLocked peerId).peers.lookup other =
          some { order := router.nextPeerOrder } := by
  unfold peerForLocked
  split
  · exact Or.inl rfl
  · rename_i hmem
    by_cases hsame : other = peerId
    · subst hsame
      exact Or.inr ⟨AList.lookup_eq_none.mpr hmem, rfl, AList.lookup_insert _⟩
    · exact Or.inl (AList.lookup_insert_ne hsame)

@[simp]
theorem pairsOf_peerForLocked (router : ScreenRouter) (peerId other : PeerId) :
    (router.peerForLocked peerId).pairsOf other = router.pairsOf other := by
  rcases lookup_peerForLocked router peerId other with h | ⟨hnone, _, hnew⟩
  · simp [pairsOf, h]
  · simp [pairsOf, hnone, hnew]

@[simp]
theorem videoOf_peerForLocked (router : ScreenRouter) (peerId other : PeerId) :
    (router.peerForLocked peerId).videoOf other = router.videoOf other := by
  rcases lookup_peerForLocked router peerId other with h | ⟨hnone, _, hnew⟩
  · simp [videoOf, h]
  · simp [videoOf, hnone, hnew]

@[simp]
theorem streamingOf_peerForLocked (router : ScreenRouter) (peerId other : PeerId) :
    (router.peerForLocked peerId).streamingOf other = router.streamingOf other := by
  rcases lookup_peerForLocked router peerId other with h | ⟨hnone, _, hnew⟩
  · simp [streamingOf, h]
  · simp [streamingOf, hnone, hnew]

@[simp]
theorem watchedOf_peerForLocked (router : ScreenRouter) (peerId other : PeerId) :
    (router.peerForLocked peerId).watchedOf other = router.watchedOf other := by
  rcases lookup_peerForLocked router peerId other with h | ⟨hnone, _, hnew⟩
  · simp [watchedOf, h]
  · simp [watchedOf, hnone, hnew]

@[simp]
theorem nextRewriter_peerForLocked (router : ScreenRouter) (peerId : PeerId) :
    (router.peerForLocked peerId).nextRewriter = router.nextRewriter := by
  unfold peerForLocked
  split <;> rfl

@[simp]
theorem closed_peerForLocked (router : ScreenRouter) (peerId : PeerId) :
    (router.peerForLocked peerId).closed = router.closed := by
  unfold peerForLocked
  split <;> rfl

@[simp]
theorem mem_modifyPeer (router : ScreenRouter) (peerId other : PeerId)
    (f : PeerState → PeerState) :
    other ∈ (router.modifyPeer peerId f).peers ↔ other ∈ router.peers :=
  Table.mem_modify _ _ _ _

theorem lookup_modifyPeer (router : ScreenRouter) (peerId other : PeerId)
    (f : PeerState → PeerState) :
    (router.modifyPeer peerId f).peers.lookup other =
      (router.peers.lookup other).map fun peer => if other = peerId then f peer else peer :=
  Table.lookup_modify _ _ _ _

section

variable {router router' : ScreenRouter} {other : PeerId} {f : PeerState → PeerState}
variable (h : router'.peers.lookup other = (router.peers.lookup other).map f)
include h

theorem mem_of_lookup_map : other ∈ router'.peers ↔ other ∈ router.peers := by
  rw [← AList.lookup_isSome, ← AList.lookup_isSome, h, Option.isSome_map]

theorem pairsOf_of_lookup_map (hf : ∀ peer, (f peer).outputs = peer.outputs) :
    router'.pairsOf other = router.pairsOf other := by
  rw [pairsOf, pairsOf, h]
  cases router.peers.lookup other with
  | none => rfl
  | some peer => exact hf peer

theorem videoOf_of_lookup_map (hf : ∀ peer, (f peer).video.track = peer.video.track) :
    router'.videoOf other = router.videoOf other := by
  rw [videoOf, videoOf, h]
  cases router.peers.lookup other with
  | none => rfl
  | some peer => exact hf peer

theorem streamingOf_of_lookup_map (hf : ∀ peer, (f peer).streaming = peer.streaming) :
    router'.streamingOf other = router.streamingOf other := by
  rw [streamingOf, streamingOf, h]
  cases router.peers.lookup other with
  | none => rfl
  | some peer => exact hf peer

theorem watchedOf_of_lookup_map
    (hf : ∀ peer, (f peer).watchedPublishers = peer.watchedPublishers) :
    router'.watchedOf other = router.watchedOf other := by
  rw [watchedOf, watchedOf, h]
  cases router.peers.lookup other with
  | none => rfl
  | some peer => exact hf peer

end

/-! ## The loop over bound pairs -/

theorem lookup_sweepBound (router : ScreenRouter) (concerned : PeerId → Bool)
    (owner other : PeerId) (update : OutputPair → OutputPair) :
    (router.sweepBound concerned owner update).1.peers.lookup other =
      (router.peers.lookup other).map fun peer =>
        if concerned other then
          { peer with outputs := peer.outputs.map (OutputPair.ifBoundTo owner update) }
        else peer :=
  Table.lookup_mapValues _ _ _

@[simp]
theorem pairsOf_sweepBound (router : ScreenRouter) (concerned : PeerId → Bool)
    (owner other : PeerId) (update : OutputPair → OutputPair) :
    (router.sweepBound concerned owner update).1.pairsOf other =
      if concerned other then (router.pairsOf other).map (OutputPair.ifBoundTo owner update)
      else router.pairsOf other := by
  rw [pairsOf, pairsOf, lookup_sweepBound]
  cases router.peers.lookup other with
  | none => cases concerned other <;> rfl
  | some peer => cases concerned other <;> rfl

section

variable (router : ScreenRouter) (concerned : PeerId → Bool) (owner other : PeerId)
variable (update : OutputPair → OutputPair)

@[simp]
theorem mem_sweepBound :
    other ∈ (router.sweepBound concerned owner update).1.peers ↔ other ∈ router.peers :=
  mem_of_lookup_map (lookup_sweepBound router concerned owner other update)

@[simp]
theorem videoOf_sweepBound :
    (router.sweepBound concerned owner update).1.videoOf other = router.videoOf other :=
  videoOf_of_lookup_map (lookup_sweepBound router concerned owner other update)
    fun _ => by split <;> rfl

@[simp]
theorem streamingOf_sweepBound :
    (router.sweepBound concerned owner update).1.streamingOf other =
      router.streamingOf other :=
  streamingOf_of_lookup_map (lookup_sweepBound router concerned owner other update)
    fun _ => by split <;> rfl

@[simp]
theorem watchedOf_sweepBound :
    (router.sweepBound concerned owner update).1.watchedOf other = router.watchedOf other :=
  watchedOf_of_lookup_map (lookup_sweepBound router concerned owner other update)
    fun _ => by split <;> rfl

end

/-! ## The assignment pass -/

@[simp]
theorem mem_orderedPeersLocked (router : ScreenRouter) (peerId : PeerId) :
    peerId ∈ router.orderedPeersLocked ↔ peerId ∈ router.peers := by
  rw [orderedPeersLocked, List.mem_insertionSort, ← AList.mem_keys]

@[simp]
theorem mem_orderedWatchesLocked (router : ScreenRouter) (peer : PeerState)
    (publisher : PeerId) :
    publisher ∈ router.orderedWatchesLocked peer ↔ publisher ∈ peer.watchedPublishers := by
  rw [orderedWatchesLocked, List.mem_insertionSort, ← AList.mem_keys]

theorem assignable_iff {router : ScreenRouter} {expired : Expiry}
    {subscriber publisher : PeerId} :
    router.assignable expired subscriber publisher = true ↔
      publisher ≠ subscriber ∧ router.streamingOf publisher = true ∧
        trackExpired (expired subscriber publisher) (router.videoOf publisher) = false := by
  unfold assignable videoOf streamingOf
  cases router.peers.lookup publisher with
  | none => simp
  | some peer => simp

theorem lookup_assignAvailableLocked (router : ScreenRouter) (expired : Expiry)
    (other : PeerId) :
    (router.assignAvailableLocked expired).1.peers.lookup other =
      (router.peers.lookup other).map fun peer =>
        { peer with outputs := (router.assignSubscriber expired other peer).2 } :=
  Table.lookup_mapValues _ _ _

section

variable (router : ScreenRouter) (expired : Expiry) (other : PeerId)

@[simp]
theorem mem_assignAvailableLocked :
    other ∈ (router.assignAvailableLocked expired).1.peers ↔ other ∈ router.peers :=
  mem_of_lookup_map (lookup_assignAvailableLocked router expired other)

@[simp]
theorem videoOf_assignAvailableLocked :
    (router.assignAvailableLocked expired).1.videoOf other = router.videoOf other :=
  videoOf_of_lookup_map (lookup_assignAvailableLocked router expired other) fun _ => rfl

@[simp]
theorem streamingOf_assignAvailableLocked :
    (router.assignAvailableLocked expired).1.streamingOf other = router.streamingOf other :=
  streamingOf_of_lookup_map (lookup_assignAvailableLocked router expired other) fun _ => rfl

@[simp]
theorem watchedOf_assignAvailableLocked :
    (router.assignAvailableLocked expired).1.watchedOf other = router.watchedOf other :=
  watchedOf_of_lookup_map (lookup_assignAvailableLocked router expired other) fun _ => rfl

end

theorem pairsOf_assignAvailableLocked {router : ScreenRouter} {other : PeerId}
    {peer : PeerState} (h : router.peers.lookup other = some peer) (expired : Expiry) :
    (router.assignAvailableLocked expired).1.pairsOf other =
      (router.assignSubscriber expired other peer).2 := by
  rw [pairsOf, lookup_assignAvailableLocked, h]
  rfl

theorem pairsOf_assignAvailableLocked_of_notMem {router : ScreenRouter} {other : PeerId}
    (h : other ∉ router.peers) (expired : Expiry) :
    (router.assignAvailableLocked expired).1.pairsOf other = [] :=
  pairsOf_of_notMem (by simpa using h)

theorem available_bindTo (expired : TrackId → Bool) (publisher : PeerId) (pair : OutputPair) :
    (pair.bindTo publisher).available expired = false :=
  rfl

/-- A pass keeps a pair or binds it to an assignable watched publisher and
records that. -/
theorem served_assignSubscriber (router : ScreenRouter) (expired : Expiry)
    (subscriber : PeerId) (peer : PeerState) :
    List.Forall₂
      (Served (router.assignable expired subscriber)
        (fun publisher => OutputPair.available (expired subscriber publisher))
        OutputPair.bindTo (router.orderedWatchesLocked peer)
        (router.assignSubscriber expired subscriber peer).1)
      peer.outputs (router.assignSubscriber expired subscriber peer).2 :=
  firstFit_forall₂ fun _ _ _ => available_bindTo _ _ _

/-- The same for the pairs of any peer. -/
theorem served_pairsOf (router : ScreenRouter) (expired : Expiry) (subscriber : PeerId) :
    List.Forall₂
      (fun pair pair' => pair' = pair ∨ ∃ publisher ∈ router.watchedOf subscriber,
        router.assignable expired subscriber publisher = true ∧
          pair.available (expired subscriber publisher) = true ∧
            pair' = pair.bindTo publisher)
      (router.pairsOf subscriber)
      ((router.assignAvailableLocked expired).1.pairsOf subscriber) := by
  by_cases hmem : subscriber ∈ router.peers
  · rcases Table.mem_iff_exists_lookup.mp hmem with ⟨peer, hpeer⟩
    rw [pairsOf_assignAvailableLocked hpeer, pairsOf_of_lookup hpeer]
    refine (served_assignSubscriber router expired subscriber peer).imp ?_
    rintro pair pair' (rfl | ⟨publisher, hwatched, helig, havailable, rfl, _⟩)
    · exact Or.inl rfl
    · refine Or.inr ⟨publisher, ?_, helig, havailable, rfl⟩
      rw [watchedOf_of_lookup hpeer]
      exact (mem_orderedWatchesLocked router peer publisher).mp hwatched
  · rw [pairsOf_assignAvailableLocked_of_notMem hmem, pairsOf_of_notMem hmem]
    exact List.Forall₂.nil

end ScreenRouter

end Sfu
end Driscord
