import Driscord.Sfu.Ports
import Driscord.Sfu.VoiceRouter

/-!
# The voice router's slots

The proofs about `VoiceRouter` look at three things only: the output slots and
the input of a peer, and which peers are present.  This module says what each
part of an operation does to them.

Main results:

- Theorem `outputsOf_sweepBound` and theorem `outputsOf_assignAvailableLocked`:
  the two loops over all peers act on each peer's slots by themselves.
- Theorem `placeOutput_eq`: registering an output puts one new slot in the place
  of at most one.
- Theorem `served_assignSubscriber`: the assignment pass keeps a slot or binds
  it to an assignable publisher.
-/

namespace Driscord
namespace Sfu

open Library

namespace Voice

/-- The port of a slot. -/
def OutputSlot.port (output : OutputSlot) : Port where
  mid := output.mid
  id := output.rewriter.id
  generation := output.rewriter.generation
  recorded := output.sourceGeneration
  holder := output.publisher

/-- The part of a slot that decides about service. -/
def OutputSlot.seat (output : OutputSlot) : WeakTrack × Option PeerId :=
  (output.track, output.publisher)

/-- Storing a rewriter state. -/
def OutputSlot.storeRewriter (id : RewriterId) (state : RtpSlotRewriter)
    (output : OutputSlot) : OutputSlot :=
  { output with rewriter := SharedRewriter.store id state output.rewriter }

theorem OutputSlot.step_restart (output : OutputSlot) :
    Port.Step output.port output.restart.port :=
  ⟨rfl, rfl, Or.inr ⟨Nat.lt_succ_self _, fun _ => rfl⟩⟩

theorem OutputSlot.step_release (output : OutputSlot) :
    Port.Step output.port output.release.port :=
  ⟨rfl, rfl, Or.inr ⟨Nat.lt_succ_self _, fun h => absurd rfl h⟩⟩

theorem OutputSlot.step_bindTo (publisher : PeerId) (output : OutputSlot) :
    Port.Step output.port (output.bindTo publisher).port :=
  ⟨rfl, rfl, Or.inr ⟨Nat.lt_succ_self _, fun _ => rfl⟩⟩

theorem OutputSlot.step_ifBoundTo {update : OutputSlot → OutputSlot}
    (hupdate : ∀ output, Port.Step (OutputSlot.port output) (update output).port)
    (owner : PeerId) (output : OutputSlot) :
    Port.Step output.port (output.ifBoundTo owner update).port := by
  unfold OutputSlot.ifBoundTo
  split
  · exact hupdate output
  · exact Port.Step.refl _

end Voice

namespace VoiceRouter

open Voice

/-! ## Views -/

/-- The output slots of a peer; none for an absent one. -/
def outputsOf (router : VoiceRouter) (peerId : PeerId) : List OutputSlot :=
  ((router.peers.lookup peerId).map PeerState.outputs).getD []

/-- The input of a peer; empty for an absent one. -/
def inputOf (router : VoiceRouter) (peerId : PeerId) : WeakTrack :=
  (router.peers.lookup peerId).bind PeerState.input

/-- The ports of every peer. -/
def portsOf (router : VoiceRouter) : Ports :=
  fun peerId => (router.outputsOf peerId).map OutputSlot.port

/-- The publishers bound to a peer's slots. -/
def publishersOf (router : VoiceRouter) (peerId : PeerId) : List PeerId :=
  (router.outputsOf peerId).filterMap OutputSlot.publisher

theorem outputsOf_of_lookup {router : VoiceRouter} {peerId : PeerId} {peer : PeerState}
    (h : router.peers.lookup peerId = some peer) : router.outputsOf peerId = peer.outputs := by
  simp [outputsOf, h]

theorem outputsOf_of_notMem {router : VoiceRouter} {peerId : PeerId}
    (h : peerId ∉ router.peers) : router.outputsOf peerId = [] := by
  simp [outputsOf, AList.lookup_eq_none.mpr h]

theorem mem_of_inputOf {router : VoiceRouter} {peerId : PeerId}
    (h : router.inputOf peerId ≠ none) : peerId ∈ router.peers := by
  by_contra hmem
  exact h (by simp [inputOf, AList.lookup_eq_none.mpr hmem])

theorem mem_of_mem_outputsOf {router : VoiceRouter} {peerId : PeerId} {output : OutputSlot}
    (h : output ∈ router.outputsOf peerId) : peerId ∈ router.peers := by
  by_contra hmem
  rw [outputsOf_of_notMem hmem] at h
  simp at h

theorem mem_publishersOf {router : VoiceRouter} {subscriber publisher : PeerId} :
    publisher ∈ router.publishersOf subscriber ↔
      ∃ output ∈ router.outputsOf subscriber, output.publisher = some publisher := by
  simp [publishersOf]

/-! ## Peers -/

@[simp]
theorem mem_peerForLocked (router : VoiceRouter) (peerId other : PeerId) :
    other ∈ (router.peerForLocked peerId).peers ↔ other = peerId ∨ other ∈ router.peers := by
  unfold peerForLocked
  split
  · rename_i hmem
    constructor
    · exact Or.inr
    · rintro (rfl | h)
      · exact hmem
      · exact h
  · simp

/-- A new peer state has no slots and no input. -/
theorem lookup_peerForLocked (router : VoiceRouter) (peerId other : PeerId) :
    (router.peerForLocked peerId).peers.lookup other = router.peers.lookup other ∨
      router.peers.lookup other = none ∧ other = peerId ∧
        (router.peerForLocked peerId).peers.lookup other =
          some { order := router.nextPeerOrder } := by
  unfold peerForLocked
  split
  · exact Or.inl rfl
  · rename_i hmem
    by_cases hsame : other = peerId
    · subst hsame
      exact Or.inr ⟨AList.lookup_eq_none.mpr hmem, rfl, AList.lookup_insert _⟩
    · exact Or.inl (AList.lookup_insert_ne hsame)

@[simp]
theorem outputsOf_peerForLocked (router : VoiceRouter) (peerId other : PeerId) :
    (router.peerForLocked peerId).outputsOf other = router.outputsOf other := by
  rcases lookup_peerForLocked router peerId other with h | ⟨hnone, _, hnew⟩
  · simp [outputsOf, h]
  · simp [outputsOf, hnone, hnew]

@[simp]
theorem inputOf_peerForLocked (router : VoiceRouter) (peerId other : PeerId) :
    (router.peerForLocked peerId).inputOf other = router.inputOf other := by
  rcases lookup_peerForLocked router peerId other with h | ⟨hnone, _, hnew⟩
  · simp [inputOf, h]
  · simp [inputOf, hnone, hnew]

@[simp]
theorem nextRewriter_peerForLocked (router : VoiceRouter) (peerId : PeerId) :
    (router.peerForLocked peerId).nextRewriter = router.nextRewriter := by
  unfold peerForLocked
  split <;> rfl

@[simp]
theorem mem_modifyPeer (router : VoiceRouter) (peerId other : PeerId)
    (f : PeerState → PeerState) :
    other ∈ (router.modifyPeer peerId f).peers ↔ other ∈ router.peers :=
  Table.mem_modify _ _ _ _

theorem lookup_modifyPeer (router : VoiceRouter) (peerId other : PeerId)
    (f : PeerState → PeerState) :
    (router.modifyPeer peerId f).peers.lookup other =
      (router.peers.lookup other).map fun peer => if other = peerId then f peer else peer :=
  Table.lookup_modify _ _ _ _

/-- A peer update that leaves the slots alone. -/
theorem outputsOf_modifyPeer (router : VoiceRouter) (peerId other : PeerId)
    {f : PeerState → PeerState} (hf : ∀ peer, (f peer).outputs = peer.outputs) :
    (router.modifyPeer peerId f).outputsOf other = router.outputsOf other := by
  rw [outputsOf, outputsOf, lookup_modifyPeer, Option.map_map]
  congr 2
  funext peer
  simp only [Function.comp_apply]
  split
  · exact hf peer
  · rfl

/-- A peer update that leaves the input alone. -/
theorem inputOf_modifyPeer (router : VoiceRouter) (peerId other : PeerId)
    {f : PeerState → PeerState} (hf : ∀ peer, (f peer).input = peer.input) :
    (router.modifyPeer peerId f).inputOf other = router.inputOf other := by
  rw [inputOf, inputOf, lookup_modifyPeer, Option.bind_map]
  congr 1
  funext peer
  simp only [Function.comp_apply]
  split
  · exact hf peer
  · rfl

/-! ## The loop over bound slots -/

@[simp]
theorem mem_sweepBound (router : VoiceRouter) (owner other : PeerId)
    (update : OutputSlot → OutputSlot) :
    other ∈ (router.sweepBound owner update).1.peers ↔ other ∈ router.peers :=
  Table.mem_mapValues _ _ _

@[simp]
theorem outputsOf_sweepBound (router : VoiceRouter) (owner other : PeerId)
    (update : OutputSlot → OutputSlot) :
    (router.sweepBound owner update).1.outputsOf other =
      (router.outputsOf other).map (OutputSlot.ifBoundTo owner update) := by
  rw [outputsOf, outputsOf, sweepBound, Table.lookup_mapValues]
  cases router.peers.lookup other <;> rfl

@[simp]
theorem inputOf_sweepBound (router : VoiceRouter) (owner other : PeerId)
    (update : OutputSlot → OutputSlot) :
    (router.sweepBound owner update).1.inputOf other = router.inputOf other := by
  rw [inputOf, inputOf, sweepBound, Table.lookup_mapValues]
  cases router.peers.lookup other <;> rfl

/-! ## The assignment pass -/

@[simp]
theorem mem_orderedPeersLocked (router : VoiceRouter) (peerId : PeerId) :
    peerId ∈ router.orderedPeersLocked ↔ peerId ∈ router.peers := by
  rw [orderedPeersLocked, List.mem_insertionSort, ← AList.mem_keys]

theorem assignable_iff {router : VoiceRouter} {expired : Expiry}
    {subscriber publisher : PeerId} :
    router.assignable expired subscriber publisher = true ↔
      publisher ≠ subscriber ∧
        trackExpired (expired subscriber publisher) (router.inputOf publisher) = false := by
  unfold assignable inputOf
  cases router.peers.lookup publisher with
  | none => simp [trackExpired, lockTrack]
  | some peer => simp

@[simp]
theorem mem_assignAvailableLocked (router : VoiceRouter) (expired : Expiry) (other : PeerId) :
    other ∈ (router.assignAvailableLocked expired).1.peers ↔ other ∈ router.peers :=
  Table.mem_mapValues _ _ _

@[simp]
theorem outputsOf_assignAvailableLocked (router : VoiceRouter) (expired : Expiry)
    (other : PeerId) :
    (router.assignAvailableLocked expired).1.outputsOf other =
      (router.assignSubscriber expired other (router.outputsOf other)).2 := by
  rw [outputsOf, outputsOf, assignAvailableLocked, Table.lookup_mapValues]
  cases router.peers.lookup other with
  | none => simp [assignSubscriber]
  | some peer => rfl

@[simp]
theorem inputOf_assignAvailableLocked (router : VoiceRouter) (expired : Expiry)
    (other : PeerId) :
    (router.assignAvailableLocked expired).1.inputOf other = router.inputOf other := by
  rw [inputOf, inputOf, assignAvailableLocked, Table.lookup_mapValues]
  cases router.peers.lookup other <;> rfl

theorem available_bindTo (expired : TrackId → Bool) (publisher : PeerId) (output : OutputSlot) :
    (output.bindTo publisher).available expired = false :=
  rfl

/-- A pass keeps a slot or binds it to an assignable publisher and records that. -/
theorem served_assignSubscriber (router : VoiceRouter) (expired : Expiry)
    (subscriber : PeerId) (outputs : List OutputSlot) :
    List.Forall₂
      (Served (router.assignable expired subscriber)
        (fun publisher => OutputSlot.available (expired subscriber publisher))
        OutputSlot.bindTo router.orderedPeersLocked
        (router.assignSubscriber expired subscriber outputs).1)
      outputs (router.assignSubscriber expired subscriber outputs).2 :=
  firstFit_forall₂ fun _ _ _ => available_bindTo _ _ _

/-! ## Placing a slot -/

/-- Placing a slot puts one slot in the place of at most one. -/
theorem placeOutput_eq (output : OutputSlot) (slots : List OutputSlot) :
    ∃ first second, (placeOutput output slots).1 = first ++ output :: second ∧
      (slots = first ++ second ∧ second = [] ∧ (∀ slot ∈ slots, slot.mid ≠ output.mid) ∧
          (placeOutput output slots).2 = none ∨
        ∃ slot, slots = first ++ slot :: second ∧ slot.mid = output.mid ∧
          (placeOutput output slots).2 = some slot) := by
  induction slots with
  | nil => exact ⟨[], [], rfl, Or.inl ⟨rfl, rfl, by simp, rfl⟩⟩
  | cons slot slots ih =>
      by_cases hmid : slot.mid = output.mid
      · exact ⟨[], slots, by simp [placeOutput, hmid],
          Or.inr ⟨slot, rfl, hmid, by simp [placeOutput, hmid]⟩⟩
      · rcases ih with ⟨first, second, hplaced, hold⟩
        refine ⟨slot :: first, second, by simp [placeOutput, hmid, hplaced], ?_⟩
        rcases hold with ⟨rfl, rfl, hnew, hnone⟩ | ⟨found, rfl, hfound, hsome⟩
        · exact Or.inl ⟨rfl, rfl, by simpa [hmid] using hnew, by simpa [placeOutput, hmid] using hnone⟩
        · exact Or.inr ⟨found, rfl, hfound, by simpa [placeOutput, hmid] using hsome⟩

end VoiceRouter

end Sfu
end Driscord
