import Driscord.Sfu.VoiceInvariant

/-!
# The voice router in the interleaving

`VoiceRouter.model` instantiates the interleaving of critical sections with the
voice router, and its laws are proved from what the parts of each operation do.

Main results:

- Theorem `progress_operate` and theorem `Undisturbed.progress`: every section
  keeps the invariant and advances the ledger.
- Theorem `leaseLaws`: packets in flight carry tracked tickets.
-/

namespace Driscord
namespace Sfu

open Library

namespace VoiceRouter

open Voice

/-- The calls that take the publish lock.  The sender given to `register_track`
delivers to the session of the owner. -/
inductive Operation where
  | registerTrack (owner : PeerId) (track : Option Track) (ssrc : UInt32)
  | removePeer (peerId : PeerId)

/-- The calls that do not take the publish lock. -/
inductive Interrupt where
  | close
  | updateFaultConfig (faultConfig : RtpFaultConfig)

/-- Run an operation. -/
def operate (seen : Expiry) (router : VoiceRouter) :
    Operation → VoiceRouter × List BindingNotice
  | Operation.registerTrack owner track ssrc =>
      router.registerTrack seen owner track ssrc (some owner)
  | Operation.removePeer peerId => router.removePeer seen peerId

/-- Run a call without publish lock. -/
def interrupt (router : VoiceRouter) : Interrupt → VoiceRouter
  | Interrupt.close => router.close
  | Interrupt.updateFaultConfig faultConfig => router.updateFaultConfig faultConfig

/-- The voice router as a router model. -/
def model (isRtcp : Bytes → Bool) (gaussian : ℚ → ℚ → ℚ) : RouterModel where
  State := VoiceRouter
  Operation := Operation
  Section := Empty
  Interrupt := Interrupt
  Arrival := Arrival
  Delayed := DelayedPacket
  initial router := ∃ faultConfig executor,
    router = { faultConfig := faultConfig, executor := executor }
  present router peerId := decide (peerId ∈ router.peers)
  caller
    | Operation.registerTrack owner _ _ => owner
    | Operation.removePeer peerId => peerId
  holds
    | Operation.registerTrack _ track _ => track.toList.map Track.id
    | Operation.removePeer _ => []
  sectionHolds rest := rest.elim
  operate seen operation router :=
    ((router.operate seen operation).1, (router.operate seen operation).2, none)
  resume _ rest _ := rest.elim
  interrupt call router := router.interrupt call
  route expired arrival router := router.route isRtcp gaussian expired arrival
  flush now router := router.flushDelayed now
  forward expired item router := router.forwardDelayed expired item
  sendTurn expired isOpen send router := router.sendTurn isRtcp expired isOpen send

/-! ## Sections that leave the slots alone -/

/-- Peers, inputs, senders, ports and seats are the same. -/
structure Undisturbed (router router' : VoiceRouter) : Prop where
  next : router'.nextRewriter = router.nextRewriter
  senders : ∀ peerId, (router'.peers.lookup peerId).map PeerState.sendBinding =
    (router.peers.lookup peerId).map PeerState.sendBinding
  input : ∀ peerId, router'.inputOf peerId = router.inputOf peerId
  ports : router'.portsOf = router.portsOf
  seats : ∀ peerId, (router'.outputsOf peerId).map OutputSlot.seat =
    (router.outputsOf peerId).map OutputSlot.seat

theorem Undisturbed.refl (router : VoiceRouter) : Undisturbed router router :=
  ⟨rfl, fun _ => rfl, fun _ => rfl, rfl, fun _ => rfl⟩

section

variable {router router' : VoiceRouter} (h : Undisturbed router router')
include h

theorem Undisturbed.mem (peerId : PeerId) : peerId ∈ router'.peers ↔ peerId ∈ router.peers := by
  have hsenders := congrArg Option.isSome (h.senders peerId)
  rw [Option.isSome_map, Option.isSome_map] at hsenders
  rw [← AList.lookup_isSome, ← AList.lookup_isSome, hsenders]

theorem Undisturbed.publishers (peerId : PeerId) :
    router'.publishersOf peerId = router.publishersOf peerId := by
  have hseats := congrArg (List.filterMap Prod.snd) (h.seats peerId)
  simpa [publishersOf, List.filterMap_map, OutputSlot.seat, Function.comp_def] using hseats

theorem Undisturbed.progress : Progress router router' := by
  refine Progress.of_evolve h.next ?_ ?_ ?_ ?_
  · rw [h.ports]
    exact Ports.Evolve.refl _
  · intro peerId
    rw [h.publishers]
  · intro _ publisher _ hin
    rwa [h.input]
  · intro hinv peerId peer hpeer hne
    have hsenders := h.senders peerId
    rw [hpeer, Option.map_some, eq_comm, Option.map_eq_some_iff] at hsenders
    rcases hsenders with ⟨old, hold, hsame⟩
    rw [← hsame]
    refine hinv.senders peerId old hold ?_
    intro hnil
    have hseats := h.seats peerId
    rw [outputsOf_of_lookup hpeer, outputsOf_of_lookup hold, hnil] at hseats
    exact hne (by simpa using hseats)

end

/-- Writing one peer's fault and link state. -/
theorem undisturbed_modifyPeer (router : VoiceRouter) (peerId : PeerId)
    {f : PeerState → PeerState} (houtputs : ∀ peer, (f peer).outputs = peer.outputs)
    (hinput : ∀ peer, (f peer).input = peer.input)
    (hsender : ∀ peer, (f peer).sendBinding = peer.sendBinding) :
    Undisturbed router (router.modifyPeer peerId f) where
  next := rfl
  senders other := by
    rw [lookup_modifyPeer, Option.map_map]
    congr 1
    funext peer
    simp only [Function.comp_apply]
    split
    · exact hsender peer
    · rfl
  input other := inputOf_modifyPeer router peerId other hinput
  ports := by
    funext other
    exact congrArg (List.map OutputSlot.port) (outputsOf_modifyPeer router peerId other houtputs)
  seats other := congrArg (List.map OutputSlot.seat)
    (outputsOf_modifyPeer router peerId other houtputs)

theorem Undisturbed.withDelayQueue {router router' : VoiceRouter}
    (h : Undisturbed router router') (delayQueue : List (Int × DelayedPacket)) :
    Undisturbed router { router' with delayQueue := delayQueue } :=
  ⟨h.next, h.senders, h.input, h.ports, h.seats⟩

theorem undisturbed_route (isRtcp : Bytes → Bool) (gaussian : ℚ → ℚ → ℚ)
    (router : VoiceRouter) (expired : TrackId → Bool) (arrival : Arrival) :
    Undisturbed router (router.route isRtcp gaussian expired arrival).1 := by
  unfold route
  split
  · exact Undisturbed.refl _
  · split
    · exact Undisturbed.refl _
    · split
      · exact Undisturbed.refl _
      · split
        · exact Undisturbed.refl _
        · refine (undisturbed_modifyPeer router arrival.publisher ?_ ?_ ?_).withDelayQueue _ <;>
            intro _ <;> rfl

theorem undisturbed_flushDelayed (router : VoiceRouter) (now : Int) :
    Undisturbed router (router.flushDelayed now).1 := by
  unfold flushDelayed
  split
  · exact Undisturbed.refl _
  · exact ⟨rfl, fun _ => rfl, fun _ => rfl, rfl, fun _ => rfl⟩

theorem undisturbed_forwardDelayed (router : VoiceRouter) (expired : TrackId → Bool)
    (item : DelayedPacket) : Undisturbed router (router.forwardDelayed expired item).1 := by
  unfold forwardDelayed
  split
  · exact Undisturbed.refl _
  · split
    · exact Undisturbed.refl _
    · split
      · exact Undisturbed.refl _
      · refine undisturbed_modifyPeer router item.publisher ?_ ?_ ?_ <;> intro _ <;> rfl

theorem undisturbed_updateFaultConfig (router : VoiceRouter) (faultConfig : RtpFaultConfig) :
    Undisturbed router (router.updateFaultConfig faultConfig) :=
  ⟨rfl, fun _ => rfl, fun _ => rfl, rfl, fun _ => rfl⟩

/-! ## Writing a rewriter -/

theorem outputsOf_storeRewriter (router : VoiceRouter) (id : RewriterId)
    (state : RtpSlotRewriter) (peerId : PeerId) :
    (router.storeRewriter id state).outputsOf peerId =
      (router.outputsOf peerId).map (OutputSlot.storeRewriter id state) := by
  rw [outputsOf, outputsOf, storeRewriter, Table.lookup_mapValues]
  cases router.peers.lookup peerId <;> rfl

/-- A stored state with the generation of the slots it belongs to is invisible. -/
theorem undisturbed_storeRewriter (router : VoiceRouter) {id : RewriterId}
    {state : RtpSlotRewriter}
    (hgeneration : ∀ peerId, ∀ output ∈ router.outputsOf peerId, output.rewriter.id = id →
      output.rewriter.generation = state.generation) :
    Undisturbed router (router.storeRewriter id state) where
  next := rfl
  senders peerId := by
    rw [storeRewriter, Table.lookup_mapValues, Option.map_map]
    rfl
  input peerId := by
    rw [inputOf, inputOf, storeRewriter, Table.lookup_mapValues]
    cases router.peers.lookup peerId <;> rfl
  ports := by
    funext peerId
    simp only [portsOf, outputsOf_storeRewriter, List.map_map]
    refine List.map_congr_left fun output houtput => ?_
    simp only [Function.comp_apply, OutputSlot.port, OutputSlot.storeRewriter,
      SharedRewriter.store]
    split
    · rename_i hid
      rw [hgeneration peerId output houtput hid]
      rfl
    · rfl
  seats peerId := by
    rw [outputsOf_storeRewriter, List.map_map]
    rfl

theorem mem_rewriters_of_mem_outputsOf {router : VoiceRouter} {peerId : PeerId}
    {output : OutputSlot} (h : output ∈ router.outputsOf peerId) :
    output.rewriter ∈ router.peers.entries.flatMap fun entry => entry.2.rewriters := by
  rcases Table.mem_iff_exists_lookup.mp (mem_of_mem_outputsOf h) with ⟨peer, hpeer⟩
  rw [outputsOf_of_lookup hpeer] at h
  exact List.mem_flatMap.mpr ⟨⟨peerId, peer⟩, AList.mem_lookup_iff.mp hpeer,
    List.mem_map_of_mem h⟩

theorem exists_output_of_mem_rewriters {router : VoiceRouter} {rewriter : SharedRewriter}
    (h : rewriter ∈ router.peers.entries.flatMap fun entry => entry.2.rewriters) :
    ∃ peerId, ∃ output ∈ router.outputsOf peerId, output.rewriter = rewriter := by
  rcases List.mem_flatMap.mp h with ⟨⟨peerId, peer⟩, hentry, hmem⟩
  rcases List.mem_map.mp hmem with ⟨output, houtput, rfl⟩
  refine ⟨peerId, output, ?_, rfl⟩
  rwa [outputsOf_of_lookup (AList.mem_lookup_iff.mpr hentry)]

/-- The rewriter found under the identity of a slot's rewriter is that one. -/
theorem find_rewriter {router : VoiceRouter}
    (hports : PortsOk router.portsOf router.nextRewriter) {peerId : PeerId}
    {output : OutputSlot} (houtput : output ∈ router.outputsOf peerId) :
    (router.rewriters.find? fun rewriter => rewriter.id = output.rewriter.id) =
      some output.rewriter := by
  rw [rewriters, List.find?_append]
  cases hslots : (router.peers.entries.flatMap fun entry => entry.2.rewriters).find?
      fun rewriter => rewriter.id = output.rewriter.id with
  | none =>
      have hnone := List.find?_eq_none.mp hslots _ (mem_rewriters_of_mem_outputsOf houtput)
      simp at hnone
  | some found =>
      rcases exists_output_of_mem_rewriters (List.mem_of_find?_eq_some hslots) with
        ⟨other, output', houtput', rfl⟩
      have hid : output'.rewriter.id = output.rewriter.id := by
        simpa using List.find?_some hslots
      rcases hports.unique (List.mem_map_of_mem houtput') (List.mem_map_of_mem houtput) hid with
        ⟨rfl, _⟩
      have hnodup : ((router.outputsOf other).map fun output => output.rewriter.id).Nodup := by
        simpa [portsOf, OutputSlot.port, Function.comp_def] using hports.nodup other
      rw [List.inj_on_of_nodup_map hnodup houtput' houtput hid, Option.some_or]

/-- A rewriter found by its identity has the generation of every slot with that
identity. -/
theorem generation_of_find {router : VoiceRouter} (hports : PortsOk router.portsOf
    router.nextRewriter) {id : RewriterId} {rewriter : SharedRewriter}
    (hfind : (router.rewriters.find? fun rewriter => rewriter.id = id) = some rewriter)
    {peerId : PeerId} {output : OutputSlot} (houtput : output ∈ router.outputsOf peerId)
    (hid : output.rewriter.id = rewriter.id) :
    output.rewriter.generation = rewriter.generation := by
  have hname : rewriter.id = id := by simpa using List.find?_some hfind
  rw [← hname, ← hid, find_rewriter hports houtput, Option.some.injEq] at hfind
  rw [hfind]

theorem undisturbed_sendTurn (isRtcp : Bytes → Bool) {router : VoiceRouter} (h : router.Inv)
    (expired : TrackId → Bool) (isOpen : Bool) (send : Send) :
    Undisturbed router (router.sendTurn isRtcp expired isOpen send).1 := by
  unfold sendTurn
  split
  · exact Undisturbed.refl _
  · split
    · exact Undisturbed.refl _
    · rename_i rewriter hfind
      refine undisturbed_storeRewriter router ?_
      intro peerId output houtput hid
      rw [RtpSlotRewriter.rewrite_generation]
      exact generation_of_find h.ports hfind houtput hid

/-- A packet is given to a track only under the current generation of the slot's
rewriter. -/
theorem sameGeneration_of_sendTurn {isRtcp : Bytes → Bool} {router : VoiceRouter}
    (h : router.Inv) {expired : TrackId → Bool} {isOpen : Bool} {send : Send} {sent : Bytes}
    (hsent : (router.sendTurn isRtcp expired isOpen send).2 = some sent) {peerId : PeerId}
    {output : OutputSlot} (houtput : output ∈ router.outputsOf peerId)
    (hid : output.rewriter.id = send.target.rewriter) :
    RtpSlotRewriter.SameGeneration send.target.sourceGeneration output.rewriter.generation := by
  unfold sendTurn at hsent
  split at hsent
  · simp at hsent
  · split at hsent
    · simp at hsent
    · rename_i rewriter hfind
      dsimp only at hsent
      split at hsent
      · rename_i hrewritten
        have hname : rewriter.id = send.target.rewriter := by simpa using List.find?_some hfind
        rw [generation_of_find h.ports hfind houtput (hid.trans hname.symm)]
        exact RtpSlotRewriter.sameGeneration_of_rewrite hrewritten
      · simp at hsent

/-! ## Closing -/

theorem progress_close (router : VoiceRouter) : Progress router router.close := by
  unfold close
  split
  · exact Progress.refl _
  · have hnil : ∀ peerId, ({ router with
        closed := true
        delayQueue := []
        peers := ∅
        detached := router.detached ++
          router.peers.entries.flatMap fun entry => entry.2.rewriters } :
            VoiceRouter).outputsOf peerId = [] := fun _ => rfl
    refine ⟨?_, ?_⟩
    · intro h
      refine ⟨h.ports.shrink ?_, ?_, ?_, ?_, ?_⟩
      · intro peerId
        rw [portsOf, hnil]
        exact List.nil_sublist _
      · intro peerId
        rw [hnil]
        exact List.nodup_nil
      · intro peerId
        rw [publishersOf, hnil]
        exact List.nodup_nil
      · intro peerId publisher hpublisher
        rw [publishersOf, hnil] at hpublisher
        simp at hpublisher
      · intro peerId peer hpeer
        simp at hpeer
    · intro _
      refine advance_shrink fun peerId => ?_
      rw [portsOf, hnil]
      exact List.nil_sublist _

theorem progress_interrupt (router : VoiceRouter) (call : Interrupt) :
    Progress router (router.interrupt call) := by
  cases call with
  | close => exact progress_close router
  | updateFaultConfig faultConfig =>
      exact (undisturbed_updateFaultConfig router faultConfig).progress

theorem progress_operate (seen : Expiry) (router : VoiceRouter) (operation : Operation) :
    Progress router (router.operate seen operation).1 := by
  cases operation with
  | registerTrack owner track ssrc => exact progress_registerTrack router seen owner track ssrc
  | removePeer peerId => exact progress_removePeer router seen peerId

/-! ## Leases -/

theorem inv_initial (faultConfig : RtpFaultConfig) (executor : Bool) :
    Inv { faultConfig := faultConfig, executor := executor } where
  ports := ⟨fun _ => List.nodup_nil, fun _ _ _ _ h => by simp [portsOf, outputsOf] at h,
    fun _ _ h => by simp [portsOf, outputsOf] at h, fun _ _ h => by simp [portsOf, outputsOf] at h⟩
  mids _ := List.nodup_nil
  distinct _ := List.nodup_nil
  bound _ _ h := by simp [publishersOf, outputsOf] at h
  senders _ _ h := by simp at h

section

variable (isRtcp : Bytes → Bool) (gaussian : ℚ → ℚ → ℚ)

theorem stateLaws : (model isRtcp gaussian).StateLaws Inv where
  initial := by
    rintro _ ⟨faultConfig, executor, rfl⟩
    exact inv_initial faultConfig executor
  operate seen operation _ h := (progress_operate seen _ operation).inv h
  resume _ rest := rest.elim
  interrupt call router h := (progress_interrupt router call).inv h
  route expired arrival router h :=
    (undisturbed_route isRtcp gaussian router expired arrival).progress.inv h
  flush now router h := (undisturbed_flushDelayed router now).progress.inv h
  forward expired item router h := (undisturbed_forwardDelayed router expired item).progress.inv h
  sendTurn expired isOpen send _ h :=
    (undisturbed_sendTurn isRtcp h expired isOpen send).progress.inv h

/-- A collected target is in flight. -/
theorem inFlight_collectTargetsLocked {router : VoiceRouter} (h : router.Inv)
    {publisher : PeerId} {midId : Option UInt8} {outgoing : List Bytes} {send : Send}
    (hsend : send ∈ sendPackets publisher (router.collectTargetsLocked publisher) midId
      outgoing) : RouterModel.InFlight router.ledger send := by
  rcases mem_sendPackets hsend with ⟨hpublisher, htarget⟩
  simp only [collectTargetsLocked, List.mem_flatMap, List.mem_map, List.mem_filter,
    decide_eq_true_eq] at htarget
  rcases htarget with ⟨⟨peerId, peer⟩, hentry, output, ⟨houtput, hbound⟩, htarget⟩
  have hmem : output.port ∈ router.portsOf peerId := by
    rw [portsOf, outputsOf_of_lookup (AList.mem_lookup_iff.mpr hentry)]
    exact List.mem_map_of_mem houtput
  refine inFlight_of_current h.ports hmem ?_ ?_ ?_ ?_
  · rw [hpublisher]
    exact hbound
  · rw [← htarget]
    rfl
  · rw [← htarget]
    rfl
  · rw [← htarget]
    rfl

theorem inFlight_route {router : VoiceRouter} (h : router.Inv) (expired : TrackId → Bool)
    (arrival : Arrival) : ∀ send ∈ (router.route isRtcp gaussian expired arrival).2,
      RouterModel.InFlight router.ledger send := by
  intro send hsend
  unfold route at hsend
  split at hsend
  · simp at hsend
  · split at hsend
    · simp at hsend
    · split at hsend
      · simp at hsend
      · split at hsend
        · simp at hsend
        · exact inFlight_collectTargetsLocked h hsend

theorem inFlight_forwardDelayed {router : VoiceRouter} (h : router.Inv)
    (expired : TrackId → Bool) (item : DelayedPacket) :
    ∀ send ∈ (router.forwardDelayed expired item).2,
      RouterModel.InFlight router.ledger send := by
  intro send hsend
  unfold forwardDelayed at hsend
  split at hsend
  · simp at hsend
  · split at hsend
    · simp at hsend
    · split at hsend
      · simp at hsend
      · exact inFlight_collectTargetsLocked h hsend

theorem leaseLaws : (model isRtcp gaussian).LeaseLaws Inv ledger where
  toStateLaws := stateLaws isRtcp gaussian
  operate_advance seen operation router h := (progress_operate seen router operation).advance h
  resume_advance _ rest := rest.elim
  interrupt_advance call router h := (progress_interrupt router call).advance h
  route_advance expired arrival router h :=
    (undisturbed_route isRtcp gaussian router expired arrival).progress.advance h
  flush_advance now router h := (undisturbed_flushDelayed router now).progress.advance h
  forward_advance expired item router h :=
    (undisturbed_forwardDelayed router expired item).progress.advance h
  sendTurn_advance expired isOpen send _ h :=
    (undisturbed_sendTurn isRtcp h expired isOpen send).progress.advance h
  route_issue expired arrival router h send hsend :=
    (inFlight_route isRtcp gaussian h expired arrival send hsend).advance
      ((undisturbed_route isRtcp gaussian router expired arrival).progress.advance h)
  forward_issue expired item router h send hsend :=
    (inFlight_forwardDelayed h expired item send hsend).advance
      ((undisturbed_forwardDelayed router expired item).progress.advance h)

end

end VoiceRouter

end Sfu
end Driscord
