import Driscord.Sfu.VoiceSlots

/-!
# The voice router's invariant

Every operation is a chain of a few parts: creating a peer state, storing an
input, placing or dropping slots, the loop over the slots bound to a peer, and
the assignment pass.  Each part keeps the invariant and advances the ledger of
the slots, hence so does every operation.

Main results:

- Theorem `progress_registerTrack` and theorem `progress_removePeer`: every
  operation keeps the invariant and advances the ledger.
-/

namespace Driscord
namespace Sfu

open Library

namespace VoiceRouter

open Voice

/-- Notices for a slot go to its owner. -/
def Senders (router : VoiceRouter) : Prop :=
  ∀ peerId peer, router.peers.lookup peerId = some peer → peer.outputs ≠ [] →
    peer.sendBinding = some peerId

/-- The slots' ports are sound, the mids of a peer's slots are distinct, the
publishers bound to them are distinct other peers with an input, and notices
for a slot go to its owner. -/
structure Inv (router : VoiceRouter) : Prop where
  ports : PortsOk router.portsOf router.nextRewriter
  mids : ∀ peerId, ((router.outputsOf peerId).map OutputSlot.mid).Nodup
  distinct : ∀ peerId, (router.publishersOf peerId).Nodup
  bound : ∀ peerId, ∀ publisher ∈ router.publishersOf peerId,
    publisher ≠ peerId ∧ router.inputOf publisher ≠ none
  senders : router.Senders

/-- The ledger of the slots. -/
def ledger (router : VoiceRouter) : Ledger RewriterId PeerId :=
  router.portsOf.ledger router.nextRewriter

/-- One part of an operation is sound: it keeps the invariant and advances the
ledger. -/
structure Progress (router router' : VoiceRouter) : Prop where
  inv : router.Inv → router'.Inv
  advance : router.Inv → Ledger.Advance router.ledger router'.ledger

theorem Progress.refl (router : VoiceRouter) : Progress router router :=
  ⟨fun h => h, fun _ => Ledger.Advance.refl _⟩

theorem Progress.trans {first second third : VoiceRouter} (h : Progress first second)
    (h' : Progress second third) : Progress first third :=
  ⟨fun hinv => h'.inv (h.inv hinv),
    fun hinv => (h.advance hinv).trans (h'.advance (h.inv hinv))⟩

/-- A part that only lets ports step, unbinds publishers and keeps the inputs of
the publishers that stay bound. -/
theorem Progress.of_evolve {router router' : VoiceRouter}
    (hnext : router'.nextRewriter = router.nextRewriter)
    (hsteps : router.portsOf.Evolve router'.portsOf)
    (hpublishers : ∀ peerId,
      (router'.publishersOf peerId).Sublist (router.publishersOf peerId))
    (hinput : ∀ peerId, ∀ publisher ∈ router'.publishersOf peerId,
      router.inputOf publisher ≠ none → router'.inputOf publisher ≠ none)
    (hsenders : router.Inv → router'.Senders) : Progress router router' where
  inv h := by
    have hmids : ∀ peerId, (router'.outputsOf peerId).map OutputSlot.mid =
        (router.outputsOf peerId).map OutputSlot.mid := by
      intro peerId
      have heq := map_mid_eq_of_steps (hsteps peerId)
      simpa [portsOf, OutputSlot.port, Function.comp_def] using heq
    refine ⟨?_, ?_, ?_, ?_, hsenders h⟩
    · rw [hnext]
      exact h.ports.evolve hsteps
    · intro peerId
      rw [hmids]
      exact h.mids peerId
    · intro peerId
      exact (h.distinct peerId).sublist (hpublishers peerId)
    · intro peerId publisher hpublisher
      rcases h.bound peerId publisher ((hpublishers peerId).subset hpublisher) with ⟨hne, hin⟩
      exact ⟨hne, hinput peerId publisher hpublisher hin⟩
  advance _ := by
    rw [ledger, ledger, hnext]
    exact advance_evolve hsteps

/-- Ports of unchanged slots do not move. -/
theorem evolve_of_outputsOf_eq {router router' : VoiceRouter}
    (h : ∀ peerId, router'.outputsOf peerId = router.outputsOf peerId) :
    router.portsOf.Evolve router'.portsOf := by
  have hports : router'.portsOf = router.portsOf := by
    funext peerId
    rw [portsOf, portsOf, h]
  rw [hports]
  exact Ports.Evolve.refl _

theorem publishersOf_of_outputsOf_eq {router router' : VoiceRouter}
    (h : ∀ peerId, router'.outputsOf peerId = router.outputsOf peerId) (peerId : PeerId) :
    router'.publishersOf peerId = router.publishersOf peerId := by
  rw [publishersOf, publishersOf, h]

/-! ## Creating and storing -/

theorem progress_peerForLocked (router : VoiceRouter) (peerId : PeerId) :
    Progress router (router.peerForLocked peerId) := by
  have houtputs := outputsOf_peerForLocked router peerId
  refine Progress.of_evolve (nextRewriter_peerForLocked _ _) (evolve_of_outputsOf_eq houtputs)
    ?_ ?_ ?_
  · intro other
    rw [publishersOf_of_outputsOf_eq houtputs]
  · intro _ publisher _ hin
    rwa [inputOf_peerForLocked]
  · intro h other peer hpeer hne
    rcases lookup_peerForLocked router peerId other with hsame | ⟨_, _, hnew⟩
    · exact h.senders other peer (by rw [← hsame, hpeer]) hne
    · rw [hpeer, Option.some.injEq] at hnew
      simp [hnew] at hne

theorem progress_setInput (router : VoiceRouter) (owner : PeerId) (track : Track) :
    Progress router (router.modifyPeer owner (PeerState.setInput track (some owner))) := by
  have houtputs := fun other =>
    outputsOf_modifyPeer router owner other (f := PeerState.setInput track (some owner))
      fun _ => rfl
  refine Progress.of_evolve rfl (evolve_of_outputsOf_eq houtputs) ?_ ?_ ?_
  · intro other
    rw [publishersOf_of_outputsOf_eq houtputs]
  · intro _ publisher _ hin
    have hmem := mem_of_inputOf hin
    rcases Table.mem_iff_exists_lookup.mp hmem with ⟨peer, hpeer⟩
    rw [inputOf, lookup_modifyPeer, hpeer]
    by_cases hsame : publisher = owner
    · simp [hsame, PeerState.setInput]
    · simpa [hsame, inputOf, hpeer] using hin
  · intro h other peer hpeer hne
    rw [lookup_modifyPeer, Option.map_eq_some_iff] at hpeer
    rcases hpeer with ⟨old, hold, rfl⟩
    by_cases hsame : other = owner
    · simp [hsame, PeerState.setInput]
    · rw [if_neg hsame] at hne ⊢
      exact h.senders other old hold hne

/-! ## The loop over bound slots -/

theorem evolve_sweepBound (router : VoiceRouter) (owner : PeerId)
    {update : OutputSlot → OutputSlot}
    (hupdate : ∀ output, Port.Step (OutputSlot.port output) (update output).port) :
    router.portsOf.Evolve (router.sweepBound owner update).1.portsOf := by
  intro peerId
  simp only [portsOf, outputsOf_sweepBound, List.map_map]
  rw [List.forall₂_map_left_iff, List.forall₂_map_right_iff]
  exact List.forall₂_same.mpr fun output _ => OutputSlot.step_ifBoundTo hupdate owner output

theorem Senders.sweepBound {router : VoiceRouter} (h : router.Senders) (owner : PeerId)
    (update : OutputSlot → OutputSlot) : (router.sweepBound owner update).1.Senders := by
  intro peerId peer hpeer hne
  rw [VoiceRouter.sweepBound, Table.lookup_mapValues, Option.map_eq_some_iff] at hpeer
  rcases hpeer with ⟨old, hold, rfl⟩
  exact h peerId old hold (by simpa using hne)

theorem publisher_ifBoundTo_restart (owner : PeerId) (output : OutputSlot) :
    (output.ifBoundTo owner OutputSlot.restart).publisher = output.publisher := by
  unfold OutputSlot.ifBoundTo
  split <;> rfl

theorem progress_restart (router : VoiceRouter) (owner : PeerId) :
    Progress router (router.sweepBound owner OutputSlot.restart).1 := by
  refine Progress.of_evolve rfl (evolve_sweepBound router owner OutputSlot.step_restart) ?_ ?_
    fun h => h.senders.sweepBound _ _
  · intro peerId
    have hsame : (router.sweepBound owner OutputSlot.restart).1.publishersOf peerId =
        router.publishersOf peerId := by
      rw [publishersOf, publishersOf, outputsOf_sweepBound, List.filterMap_map]
      congr 1
      funext output
      exact publisher_ifBoundTo_restart owner output
    rw [hsame]
  · intro _ publisher _ hin
    rwa [inputOf_sweepBound]

/-! ## Dropping a peer -/

theorem outputsOf_erasePeer (router : VoiceRouter) (peerId other : PeerId) :
    (router.erasePeer peerId).outputsOf other =
      if other = peerId then [] else router.outputsOf other := by
  by_cases hsame : other = peerId
  · subst hsame
    simp [outputsOf, erasePeer]
  · simp [outputsOf, erasePeer, hsame, AList.lookup_erase_ne hsame]

theorem inputOf_erasePeer_ne (router : VoiceRouter) {peerId other : PeerId}
    (hne : other ≠ peerId) : (router.erasePeer peerId).inputOf other = router.inputOf other := by
  simp [inputOf, erasePeer, AList.lookup_erase_ne hne]

theorem Senders.erasePeer {router : VoiceRouter} (h : router.Senders) (peerId : PeerId) :
    (router.erasePeer peerId).Senders := by
  intro other peer hpeer
  by_cases hsame : other = peerId
  · subst hsame
    simp [VoiceRouter.erasePeer] at hpeer
  · rw [VoiceRouter.erasePeer] at hpeer
    dsimp only at hpeer
    rw [AList.lookup_erase_ne hsame] at hpeer
    exact h other peer hpeer

/-- The publishers of released slots leave, the others stay. -/
theorem filterMap_release (owner : PeerId) (outputs : List OutputSlot) :
    (outputs.map (OutputSlot.ifBoundTo owner OutputSlot.release)).filterMap
        OutputSlot.publisher =
      (outputs.filterMap OutputSlot.publisher).filter fun publisher => publisher ≠ owner := by
  induction outputs with
  | nil => rfl
  | cons output outputs ih =>
      by_cases howner : output.publisher = some owner
      · simp [OutputSlot.ifBoundTo, howner, OutputSlot.release, ih]
      · cases hpublisher : output.publisher with
        | none => simp [OutputSlot.ifBoundTo, hpublisher, ih]
        | some publisher =>
            have hne : publisher ≠ owner := by
              rintro rfl
              exact howner hpublisher
            simp [OutputSlot.ifBoundTo, hpublisher, hne, ih]

/-- Erasing a peer and releasing the slots bound to it. -/
def dropPeer (router : VoiceRouter) (peerId : PeerId) : VoiceRouter :=
  ((router.erasePeer peerId).sweepBound peerId OutputSlot.release).1

theorem publishersOf_dropPeer (router : VoiceRouter) (peerId other : PeerId) :
    (router.dropPeer peerId).publishersOf other =
      if other = peerId then []
      else (router.publishersOf other).filter fun publisher => publisher ≠ peerId := by
  rw [publishersOf, dropPeer, outputsOf_sweepBound, filterMap_release, outputsOf_erasePeer]
  split
  · rfl
  · rfl

theorem shrink_erasePeer (router : VoiceRouter) (peerId : PeerId) :
    router.portsOf.Shrink (router.erasePeer peerId).portsOf := by
  intro other
  rw [portsOf, portsOf, outputsOf_erasePeer]
  split
  · exact List.nil_sublist _
  · exact List.Sublist.refl _

theorem progress_dropPeer (router : VoiceRouter) (peerId : PeerId) :
    Progress router (router.dropPeer peerId) where
  inv h := by
    have hports := (h.ports.shrink (shrink_erasePeer router peerId)).evolve
      (evolve_sweepBound (router.erasePeer peerId) peerId OutputSlot.step_release)
    have hpublishers : ∀ other, ((router.dropPeer peerId).publishersOf other).Sublist
        (router.publishersOf other) := by
      intro other
      rw [publishersOf_dropPeer]
      split
      · exact List.nil_sublist _
      · exact List.filter_sublist
    refine ⟨hports, ?_, ?_, ?_, ?_⟩
    · intro other
      have hmid : ∀ output : OutputSlot,
          (output.ifBoundTo peerId OutputSlot.release).mid = output.mid := by
        intro output
        unfold OutputSlot.ifBoundTo
        split <;> rfl
      rw [dropPeer, outputsOf_sweepBound, List.map_map]
      simp only [Function.comp_def, hmid]
      rw [outputsOf_erasePeer]
      split
      · exact List.nodup_nil
      · exact h.mids other
    · intro other
      exact (h.distinct other).sublist (hpublishers other)
    · intro other publisher hpublisher
      rcases h.bound other publisher ((hpublishers other).subset hpublisher) with ⟨hne, hin⟩
      refine ⟨hne, ?_⟩
      rw [publishersOf_dropPeer] at hpublisher
      split at hpublisher
      · simp at hpublisher
      · have hstays : publisher ≠ peerId := by simpa using (List.mem_filter.mp hpublisher).2
        rwa [dropPeer, inputOf_sweepBound, inputOf_erasePeer_ne _ hstays]
    · exact (h.senders.erasePeer peerId).sweepBound peerId OutputSlot.release
  advance h := by
    have hfirst : Ledger.Advance router.ledger
        ((router.erasePeer peerId).portsOf.ledger router.nextRewriter) :=
      advance_shrink (shrink_erasePeer router peerId)
    exact hfirst.trans (advance_evolve
      (evolve_sweepBound (router.erasePeer peerId) peerId OutputSlot.step_release))

/-! ## The assignment pass -/

theorem evolve_assignAvailableLocked (router : VoiceRouter) (expired : Expiry) :
    router.portsOf.Evolve (router.assignAvailableLocked expired).1.portsOf := by
  intro peerId
  simp only [portsOf, outputsOf_assignAvailableLocked]
  rw [List.forall₂_map_left_iff, List.forall₂_map_right_iff]
  refine (served_assignSubscriber router expired peerId (router.outputsOf peerId)).imp ?_
  rintro output _ (rfl | ⟨publisher, _, _, _, rfl, _⟩)
  · exact Port.Step.refl _
  · exact OutputSlot.step_bindTo publisher output

/-- After the pass a slot's publisher is old or assignable. -/
theorem mem_publishersOf_assignAvailableLocked {router : VoiceRouter} {expired : Expiry}
    {subscriber publisher : PeerId}
    (h : publisher ∈ (router.assignAvailableLocked expired).1.publishersOf subscriber) :
    publisher ∈ router.publishersOf subscriber ∨
      router.assignable expired subscriber publisher = true := by
  rcases mem_publishersOf.mp h with ⟨output', hmem, hpublisher⟩
  rw [outputsOf_assignAvailableLocked] at hmem
  have hserved := served_assignSubscriber router expired subscriber (router.outputsOf subscriber)
  rcases forall₂_mem_right hserved hmem with ⟨output, houtput, hone⟩
  rcases hone with rfl | ⟨candidate, _, helig, _, rfl, _⟩
  · exact Or.inl (mem_publishersOf.mpr ⟨_, houtput, hpublisher⟩)
  · have hsame : candidate = publisher := by
      simpa [OutputSlot.bindTo] using hpublisher
    exact Or.inr (hsame ▸ helig)

theorem progress_assignAvailableLocked (router : VoiceRouter) (expired : Expiry) :
    Progress router (router.assignAvailableLocked expired).1 where
  inv h := by
    have hsteps := evolve_assignAvailableLocked router expired
    refine ⟨h.ports.evolve hsteps, ?_, ?_, ?_, ?_⟩
    · intro peerId
      have heq := map_mid_eq_of_steps (hsteps peerId)
      have hmids : ((router.assignAvailableLocked expired).1.outputsOf peerId).map
          OutputSlot.mid = (router.outputsOf peerId).map OutputSlot.mid := by
        simpa [portsOf, OutputSlot.port, Function.comp_def] using heq
      rw [hmids]
      exact h.mids peerId
    · intro peerId
      rw [publishersOf, outputsOf_assignAvailableLocked]
      refine firstFit_holders_nodup (fun _ _ => rfl) ?_ (h.distinct peerId) ?_
      · intro publisher output havailable
        simp only [OutputSlot.available, Bool.and_eq_true, Option.isNone_iff_eq_none] at havailable
        exact havailable.1
      · intro output houtput publisher hpublisher
        exact mem_publishersOf.mpr ⟨output, houtput, hpublisher⟩
    · intro peerId publisher hpublisher
      rw [inputOf_assignAvailableLocked]
      rcases mem_publishersOf_assignAvailableLocked hpublisher with hold | hnew
      · exact h.bound peerId publisher hold
      · rcases assignable_iff.mp hnew with ⟨hne, hlive⟩
        rcases trackExpired_eq_false_iff.mp hlive with ⟨id, hid, _⟩
        exact ⟨hne, by simp [hid]⟩
    · intro peerId peer hpeer hne
      rw [assignAvailableLocked, Table.lookup_mapValues, Option.map_eq_some_iff] at hpeer
      rcases hpeer with ⟨old, hold, rfl⟩
      refine h.senders peerId old hold ?_
      intro hnil
      simp [hnil, assignSubscriber] at hne
  advance _ := advance_evolve (evolve_assignAvailableLocked router expired)

/-! ## Placing a slot -/

/-- The new slot of `register_output`. -/
def freshOutput (router : VoiceRouter) (track : Track) (ssrc : UInt32) : OutputSlot where
  mid := track.mid
  ssrc := ssrc
  track := some track.id
  rewriter := ⟨router.nextRewriter, RtpSlotRewriter.create 48000 960⟩

/-- The slots and the rewriters once `register_output` has placed the new slot. -/
def placeFresh (router : VoiceRouter) (owner : PeerId) (track : Track) (ssrc : UInt32) :
    VoiceRouter :=
  let output := router.freshOutput track ssrc
  let replaced := (placeOutput output (router.outputsOf owner)).2
  let stored := router.modifyPeer owner fun peer =>
    { peer with
      sendBinding := some owner
      outputs := (placeOutput output peer.outputs).1 }
  { stored with
    nextRewriter := stored.nextRewriter + 1
    detached := stored.detached ++ replaced.toList.map OutputSlot.retired }

theorem lookup_placeFresh (router : VoiceRouter) (owner other : PeerId) (track : Track)
    (ssrc : UInt32) :
    (router.placeFresh owner track ssrc).peers.lookup other =
      (router.peers.lookup other).map fun peer =>
        if other = owner then
          { peer with
            sendBinding := some owner
            outputs := (placeOutput (router.freshOutput track ssrc) peer.outputs).1 }
        else peer :=
  Table.lookup_modify _ _ _ _

@[simp]
theorem mem_placeFresh (router : VoiceRouter) (owner other : PeerId) (track : Track)
    (ssrc : UInt32) :
    other ∈ (router.placeFresh owner track ssrc).peers ↔ other ∈ router.peers :=
  Table.mem_modify _ _ _ _

theorem outputsOf_placeFresh_owner {router : VoiceRouter} {owner : PeerId}
    (hmem : owner ∈ router.peers) (track : Track) (ssrc : UInt32) :
    (router.placeFresh owner track ssrc).outputsOf owner =
      (placeOutput (router.freshOutput track ssrc) (router.outputsOf owner)).1 := by
  rcases Table.mem_iff_exists_lookup.mp hmem with ⟨peer, hpeer⟩
  simp [outputsOf, lookup_placeFresh, hpeer]

theorem outputsOf_placeFresh_ne (router : VoiceRouter) {owner other : PeerId}
    (hne : other ≠ owner) (track : Track) (ssrc : UInt32) :
    (router.placeFresh owner track ssrc).outputsOf other = router.outputsOf other := by
  simp [outputsOf, lookup_placeFresh, hne]

@[simp]
theorem inputOf_placeFresh (router : VoiceRouter) (owner other : PeerId) (track : Track)
    (ssrc : UInt32) :
    (router.placeFresh owner track ssrc).inputOf other = router.inputOf other := by
  rw [inputOf, inputOf, lookup_placeFresh, Option.bind_map]
  congr 1
  funext peer
  simp only [Function.comp_apply]
  split <;> rfl

/-- The slots left in place are a sublist of the slots before. -/
theorem placeOutput_sublist (output : OutputSlot) (slots : List OutputSlot) :
    ∃ first second, (placeOutput output slots).1 = first ++ output :: second ∧
      (first ++ second).Sublist slots := by
  rcases placeOutput_eq output slots with ⟨first, second, hplaced, hold⟩
  refine ⟨first, second, hplaced, ?_⟩
  rcases hold with ⟨rfl, _, _, _⟩ | ⟨slot, rfl, _, _⟩
  · exact List.Sublist.refl _
  · exact (List.sublist_cons_self slot second).append_left first

theorem place_placeFresh {router : VoiceRouter} {owner : PeerId} (hmem : owner ∈ router.peers)
    (track : Track) (ssrc : UInt32) :
    router.portsOf.Place (router.placeFresh owner track ssrc).portsOf router.nextRewriter
      owner where
  placed := by
    rcases placeOutput_sublist (router.freshOutput track ssrc) (router.outputsOf owner) with
      ⟨first, second, hplaced, hsub⟩
    refine ⟨first.map OutputSlot.port, (router.freshOutput track ssrc).port,
      second.map OutputSlot.port, ?_, ?_, rfl, rfl⟩
    · rw [portsOf, outputsOf_placeFresh_owner hmem, hplaced]
      simp
    · rw [← List.map_append]
      exact hsub.map _
  others other hne := by
    rw [portsOf, portsOf, outputsOf_placeFresh_ne router hne]

/-- The mids stay distinct: the new slot takes the place of the one with its mid. -/
theorem placeOutput_mids {output : OutputSlot} {slots : List OutputSlot}
    (h : (slots.map OutputSlot.mid).Nodup) :
    ((placeOutput output slots).1.map OutputSlot.mid).Nodup := by
  rcases placeOutput_eq output slots with ⟨first, second, hplaced, hold⟩
  rw [hplaced]
  rcases hold with ⟨rfl, rfl, hnew, _⟩ | ⟨slot, rfl, hmid, _⟩
  · rw [List.map_append, List.map_cons, List.nodup_middle, ← List.map_append]
    refine List.nodup_cons.mpr ⟨?_, h⟩
    intro hmem
    rcases List.mem_map.mp hmem with ⟨slot, hslot, heq⟩
    exact hnew slot hslot heq
  · simpa [hmid] using h

theorem publishersOf_placeFresh (router : VoiceRouter) (owner : PeerId) (track : Track)
    (ssrc : UInt32) (other : PeerId) :
    ((router.placeFresh owner track ssrc).publishersOf other).Sublist
      (router.publishersOf other) := by
  by_cases hsame : other = owner
  · subst hsame
    by_cases hmem : other ∈ router.peers
    · rcases placeOutput_sublist (router.freshOutput track ssrc) (router.outputsOf other) with
        ⟨first, second, hplaced, hsub⟩
      rw [publishersOf, publishersOf, outputsOf_placeFresh_owner hmem, hplaced]
      simpa [freshOutput, List.filterMap_append] using hsub.filterMap OutputSlot.publisher
    · have hnil : (router.placeFresh other track ssrc).outputsOf other = [] :=
        outputsOf_of_notMem (by simpa using hmem)
      simp [publishersOf, hnil]
  · rw [publishersOf, publishersOf, outputsOf_placeFresh_ne router hsame]

theorem progress_placeFresh {router : VoiceRouter} {owner : PeerId}
    (hmem : owner ∈ router.peers) (track : Track) (ssrc : UInt32) :
    Progress router (router.placeFresh owner track ssrc) where
  inv h := by
    refine ⟨h.ports.place (place_placeFresh hmem track ssrc), ?_, ?_, ?_, ?_⟩
    · intro other
      by_cases hsame : other = owner
      · subst hsame
        rw [outputsOf_placeFresh_owner hmem]
        exact placeOutput_mids (h.mids other)
      · rw [outputsOf_placeFresh_ne router hsame]
        exact h.mids other
    · intro other
      exact (h.distinct other).sublist (publishersOf_placeFresh router owner track ssrc other)
    · intro other publisher hpublisher
      rw [inputOf_placeFresh]
      exact h.bound other publisher
        ((publishersOf_placeFresh router owner track ssrc other).subset hpublisher)
    · intro other peer hpeer hne
      rw [lookup_placeFresh, Option.map_eq_some_iff] at hpeer
      rcases hpeer with ⟨old, hold, rfl⟩
      by_cases hsame : other = owner
      · simp [hsame]
      · rw [if_neg hsame] at hne ⊢
        exact h.senders other old hold hne
  advance _ := advance_place (place_placeFresh hmem track ssrc)

/-! ## Operations -/

/-- The part of `register_input` before the assignment pass. -/
def storeInput (router : VoiceRouter) (owner : PeerId) (track : Track) :
    VoiceRouter × List BindingNotice :=
  let stored := (router.peerForLocked owner).modifyPeer owner
    (PeerState.setInput track (some owner))
  if router.sourceChanged owner track then stored.sweepBound owner OutputSlot.restart
  else (stored, [])

theorem registerInput_eq {router : VoiceRouter} (hopen : router.closed = false)
    (expired : Expiry) (owner : PeerId) (track : Track) :
    router.registerInput expired owner track (some owner) =
      thenAssign expired (router.storeInput owner track) := by
  simp [registerInput, hopen, storeInput]

/-- The notice about a replaced slot that was bound. -/
def replacedNotices (router : VoiceRouter) (owner : PeerId) (track : Track) (ssrc : UInt32) :
    List BindingNotice :=
  ((placeOutput (router.freshOutput track ssrc) (router.outputsOf owner)).2.toList.filter
    fun slot => slot.publisher.isSome).map fun slot => ⟨some owner, slot.mid, none⟩

/-- The part of `register_output` before the assignment pass. -/
def storeOutput (router : VoiceRouter) (owner : PeerId) (track : Track) (ssrc : UInt32) :
    VoiceRouter × List BindingNotice :=
  ((router.peerForLocked owner).placeFresh owner track ssrc,
    (router.peerForLocked owner).replacedNotices owner track ssrc)

theorem registerOutput_eq {router : VoiceRouter} (hopen : router.closed = false)
    (expired : Expiry) (owner : PeerId) (track : Track) (ssrc : UInt32) :
    router.registerOutput expired owner track ssrc (some owner) =
      thenAssign expired (router.storeOutput owner track ssrc) := by
  have hmem : owner ∈ (router.peerForLocked owner).peers := by simp
  rcases Table.mem_iff_exists_lookup.mp hmem with ⟨peer, hpeer⟩
  have houtputs : router.outputsOf owner = peer.outputs := by
    rw [← outputsOf_peerForLocked router owner owner, outputsOf_of_lookup hpeer]
  simp only [registerOutput, hopen, Bool.false_eq_true, if_false, hpeer, Option.bind_some,
    storeOutput, replacedNotices, placeFresh, outputsOf_peerForLocked, houtputs, freshOutput]

theorem progress_storeInput (router : VoiceRouter) (owner : PeerId) (track : Track) :
    Progress router (router.storeInput owner track).1 := by
  have hstored := (progress_peerForLocked router owner).trans
    (progress_setInput (router.peerForLocked owner) owner track)
  unfold storeInput
  dsimp only
  split
  · exact hstored.trans (progress_restart _ owner)
  · exact hstored

theorem progress_storeOutput (router : VoiceRouter) (owner : PeerId) (track : Track)
    (ssrc : UInt32) : Progress router (router.storeOutput owner track ssrc).1 := by
  have hmem : owner ∈ (router.peerForLocked owner).peers := by simp
  exact (progress_peerForLocked router owner).trans (progress_placeFresh hmem track ssrc)

theorem progress_thenAssign {router : VoiceRouter} {first : VoiceRouter × List BindingNotice}
    (h : Progress router first.1) (expired : Expiry) :
    Progress router (thenAssign expired first).1 :=
  h.trans (progress_assignAvailableLocked first.1 expired)

/-- What `register_track` comes down to: nothing, or a first part that keeps the
invariant followed by the assignment pass. -/
theorem registerTrack_cases (router : VoiceRouter) (expired : Expiry) (owner : PeerId)
    (track : Option Track) (ssrc : UInt32) :
    router.registerTrack expired owner track ssrc (some owner) = (router, []) ∨
      (∃ input, router.registerTrack expired owner track ssrc (some owner) =
        thenAssign expired (router.storeInput owner input)) ∨
      ∃ output, router.registerTrack expired owner track ssrc (some owner) =
        thenAssign expired (router.storeOutput owner output ssrc) := by
  unfold registerTrack
  cases track with
  | none => exact Or.inl rfl
  | some track =>
      dsimp only
      split
      · cases hclosed : router.closed with
        | true =>
            left
            split <;> simp [registerInput, registerOutput, hclosed]
        | false =>
            split
            · exact Or.inr (Or.inl ⟨track, registerInput_eq hclosed expired owner track⟩)
            · exact Or.inr (Or.inr ⟨track, registerOutput_eq hclosed expired owner track ssrc⟩)
            · exact Or.inl rfl
      · exact Or.inl rfl

theorem progress_registerTrack (router : VoiceRouter) (expired : Expiry) (owner : PeerId)
    (track : Option Track) (ssrc : UInt32) :
    Progress router (router.registerTrack expired owner track ssrc (some owner)).1 := by
  rcases registerTrack_cases router expired owner track ssrc with
    heq | ⟨input, heq⟩ | ⟨output, heq⟩
  · rw [heq]
    exact Progress.refl _
  · rw [heq]
    exact progress_thenAssign (progress_storeInput router owner input) expired
  · rw [heq]
    exact progress_thenAssign (progress_storeOutput router owner output ssrc) expired

theorem progress_removePeer (router : VoiceRouter) (expired : Expiry) (peerId : PeerId) :
    Progress router (router.removePeer expired peerId).1 := by
  unfold removePeer
  split
  · exact Progress.refl _
  · exact progress_thenAssign (progress_dropPeer router peerId) expired

end VoiceRouter

end Sfu
end Driscord
