import Driscord.Sfu.ScreenOperations

/-!
# The screen router in the interleaving

`ScreenRouter.model` instantiates the interleaving of critical sections with the
screen router.  Between its two sections `register_output` holds its track and
the publish lock.

Main results:

- Theorem `progress_operate` and theorem `Undisturbed.progress`: every section
  keeps the invariant and advances the ledger.
- Theorem `leaseLaws`: packets in flight carry tracked tickets.
-/

namespace Driscord
namespace Sfu

open Library

namespace Screen

/-- The part of an output that decides about service. -/
def OutputTrack.seat (output : OutputTrack) : Bool × WeakTrack :=
  (output.ready, output.track)

/-- The part of a pair that decides about service. -/
def OutputPair.seat (pair : OutputPair) :
    Option PeerId × Option (Bool × WeakTrack) × Option (Bool × WeakTrack) :=
  (pair.publisher, pair.video.map OutputTrack.seat, pair.audio.map OutputTrack.seat)

theorem OutputPair.ready_of_seat_eq {pair pair' : OutputPair} (h : pair'.seat = pair.seat)
    (hready : pair.Ready) : pair'.Ready := by
  rcases hready with ⟨video, audio, hvideo, haudio, hvideoReady, haudioReady⟩
  simp only [OutputPair.seat, hvideo, haudio, Prod.mk.injEq, Option.map_some,
    Option.map_eq_some_iff] at h
  rcases h with ⟨_, ⟨video', hvideo', hseat⟩, audio', haudio', hseat'⟩
  refine ⟨video', audio', hvideo', haudio', ?_, ?_⟩
  · rw [← hvideoReady]
    exact congrArg Prod.fst hseat
  · rw [← haudioReady]
    exact congrArg Prod.fst hseat'

theorem outputLive_eq_seat (expired : TrackId → Bool) (output : Option OutputTrack) :
    outputLive expired output =
      match output.map OutputTrack.seat with
      | none => false
      | some seat => seat.1 && !trackExpired expired seat.2 := by
  cases output <;> rfl

end Screen

namespace ScreenRouter

open Screen

/-- The calls that take the publish lock.  The sender given to `register_track`
delivers to the session of the owner. -/
inductive Operation where
  | registerTrack (owner : PeerId) (track : Option Track) (ssrc : UInt32)
  | setStreaming (peerId : PeerId) (streaming : Bool)
  | setWatching (peerId publisher : PeerId) (watching : Bool)
  | removePeer (peerId : PeerId)

/-- The calls that do not take the publish lock. -/
inductive Interrupt where
  | close
  | updateFaultConfig (faultConfig : RtpFaultConfig)

/-- The first critical section of an operation. -/
def operate (seen : Expiry) (router : ScreenRouter) :
    Operation → ScreenRouter × List BindingNotice × Option PendingOutput
  | Operation.registerTrack owner track ssrc =>
      router.registerTrack seen owner track ssrc (some owner)
  | Operation.setStreaming peerId streaming =>
      ((router.setStreaming seen peerId streaming).1,
        (router.setStreaming seen peerId streaming).2, none)
  | Operation.setWatching peerId publisher watching =>
      ((router.setWatching seen peerId publisher watching).1,
        (router.setWatching seen peerId publisher watching).2, none)
  | Operation.removePeer peerId =>
      ((router.removePeer seen peerId).1, (router.removePeer seen peerId).2, none)

/-- Run a call without publish lock. -/
def interrupt (router : ScreenRouter) : Interrupt → ScreenRouter
  | Interrupt.close => router.close
  | Interrupt.updateFaultConfig faultConfig => router.updateFaultConfig faultConfig

/-- The screen router as a router model. -/
def model (isRtcp : Bytes → Bool) (gaussian : ℚ → ℚ → ℚ) : RouterModel where
  State := ScreenRouter
  Operation := Operation
  Section := PendingOutput
  Interrupt := Interrupt
  Arrival := Arrival
  Delayed := DelayedPacket
  initial router := ∃ faultConfig executor,
    router = { faultConfig := faultConfig, executor := executor }
  present router peerId := decide (peerId ∈ router.peers)
  caller
    | Operation.registerTrack owner _ _ => owner
    | Operation.setStreaming peerId _ => peerId
    | Operation.setWatching peerId _ _ => peerId
    | Operation.removePeer peerId => peerId
  holds
    | Operation.registerTrack _ track _ => track.toList.map Track.id
    | _ => []
  sectionHolds pending := [pending.track]
  operate seen operation router := router.operate seen operation
  resume seen pending router := router.finishOutput seen pending
  interrupt call router := router.interrupt call
  route expired arrival router := router.route isRtcp gaussian expired arrival
  flush now router := router.flushDelayed now
  forward expired item router := router.forwardDelayed expired item
  sendTurn expired isOpen send router := router.sendTurn isRtcp expired isOpen send

/-! ## Sections that leave the pairs alone -/

/-- Peers, inputs, flags, watches, senders, ports and seats are the same. -/
structure Undisturbed (router router' : ScreenRouter) : Prop where
  next : router'.nextRewriter = router.nextRewriter
  closed : router'.closed = router.closed
  senders : ∀ peerId, (router'.peers.lookup peerId).map PeerState.sendBinding =
    (router.peers.lookup peerId).map PeerState.sendBinding
  video : ∀ peerId, router'.videoOf peerId = router.videoOf peerId
  streaming : ∀ peerId, router'.streamingOf peerId = router.streamingOf peerId
  watched : ∀ peerId, router'.watchedOf peerId = router.watchedOf peerId
  ports : router'.portsOf = router.portsOf
  seats : ∀ peerId, (router'.pairsOf peerId).map OutputPair.seat =
    (router.pairsOf peerId).map OutputPair.seat

theorem Undisturbed.refl (router : ScreenRouter) : Undisturbed router router :=
  ⟨rfl, rfl, fun _ => rfl, fun _ => rfl, fun _ => rfl, fun _ => rfl, rfl, fun _ => rfl⟩

section

variable {router router' : ScreenRouter} (h : Undisturbed router router')
include h

theorem Undisturbed.mem (peerId : PeerId) : peerId ∈ router'.peers ↔ peerId ∈ router.peers := by
  have hsenders := congrArg Option.isSome (h.senders peerId)
  rw [Option.isSome_map, Option.isSome_map] at hsenders
  rw [← AList.lookup_isSome, ← AList.lookup_isSome, hsenders]

theorem Undisturbed.publishers (peerId : PeerId) :
    router'.publishersOf peerId = router.publishersOf peerId := by
  have hseats := congrArg (List.filterMap Prod.fst) (h.seats peerId)
  simpa [publishersOf, List.filterMap_map, OutputPair.seat, Function.comp_def] using hseats

/-- A pair afterwards has the seat of a pair before. -/
theorem Undisturbed.exists_pair {peerId : PeerId} {pair' : OutputPair}
    (hpair' : pair' ∈ router'.pairsOf peerId) :
    ∃ pair ∈ router.pairsOf peerId, pair'.seat = pair.seat := by
  have hseat : pair'.seat ∈ (router.pairsOf peerId).map OutputPair.seat := by
    rw [← h.seats]
    exact List.mem_map_of_mem hpair'
  rcases List.mem_map.mp hseat with ⟨pair, hpair, heq⟩
  exact ⟨pair, hpair, heq.symm⟩

theorem Undisturbed.progress : Progress router router' := by
  refine Progress.of_keep ⟨?_, ?_, ?_, ?_⟩ h.next ?_
  · intro peerId
    rw [h.publishers]
  · intro peerId pair' hpair' publisher hpublisher
    rcases h.exists_pair hpair' with ⟨pair, hpair, hseat⟩
    have hsame : pair'.publisher = pair.publisher := congrArg Prod.fst hseat
    refine ⟨pair, hpair, by rw [← hsame, hpublisher], fun hok => ⟨hok.other, ?_, ?_, ?_⟩⟩
    · rw [h.streaming]
      exact hok.streaming
    · rw [h.watched]
      exact hok.watched
    · exact OutputPair.ready_of_seat_eq hseat hok.ready
  · intro hsenders peerId peer hpeer hne
    have hsame := h.senders peerId
    rw [hpeer, Option.map_some, eq_comm, Option.map_eq_some_iff] at hsame
    rcases hsame with ⟨old, hold, hsame⟩
    rw [← hsame]
    refine hsenders peerId old hold ?_
    intro hnil
    have hseats := h.seats peerId
    rw [pairsOf_of_lookup hpeer, pairsOf_of_lookup hold, hnil] at hseats
    exact hne (by simpa using hseats)
  · intro hempty hclosed peerId hmem
    rw [h.closed] at hclosed
    exact hempty hclosed peerId ((h.mem peerId).mp hmem)
  · rw [h.ports]
    exact Ports.Evolve.refl _

end

/-- Writing one peer's fault and link state. -/
theorem undisturbed_modifyPeer (router : ScreenRouter) (peerId : PeerId)
    {f : PeerState → PeerState} (houtputs : ∀ peer, (f peer).outputs = peer.outputs)
    (hvideo : ∀ peer, (f peer).video.track = peer.video.track)
    (hstreaming : ∀ peer, (f peer).streaming = peer.streaming)
    (hwatched : ∀ peer, (f peer).watchedPublishers = peer.watchedPublishers)
    (hsender : ∀ peer, (f peer).sendBinding = peer.sendBinding) :
    Undisturbed router (router.modifyPeer peerId f) := by
  have hpairs : ∀ other, (router.modifyPeer peerId f).pairsOf other = router.pairsOf other := by
    intro other
    refine pairsOf_of_lookup_map (lookup_modifyPeer router peerId other f) fun peer => ?_
    split
    · exact houtputs peer
    · rfl
  refine ⟨rfl, rfl, ?_, ?_, ?_, ?_, ports_eq_of_pairsOf_eq hpairs, fun other => by rw [hpairs]⟩
  · intro other
    rw [lookup_modifyPeer, Option.map_map]
    congr 1
    funext peer
    simp only [Function.comp_apply]
    split
    · exact hsender peer
    · rfl
  · intro other
    refine videoOf_of_lookup_map (lookup_modifyPeer router peerId other f) fun peer => ?_
    split
    · exact hvideo peer
    · rfl
  · intro other
    refine streamingOf_of_lookup_map (lookup_modifyPeer router peerId other f) fun peer => ?_
    split
    · exact hstreaming peer
    · rfl
  · intro other
    refine watchedOf_of_lookup_map (lookup_modifyPeer router peerId other f) fun peer => ?_
    split
    · exact hwatched peer
    · rfl

theorem Undisturbed.withDelayQueue {router router' : ScreenRouter}
    (h : Undisturbed router router') (delayQueue : List (Int × DelayedPacket)) :
    Undisturbed router { router' with delayQueue := delayQueue } :=
  ⟨h.next, h.closed, h.senders, h.video, h.streaming, h.watched, h.ports, h.seats⟩

/-- Writing an input state with the same track. -/
theorem undisturbed_setInputState (router : ScreenRouter) (peerId : PeerId)
    (mediaType : MediaType) {f : InputState → InputState}
    (htrack : ∀ input, (f input).track = input.track) :
    Undisturbed router (router.modifyPeer peerId fun peer =>
      peer.setInputState mediaType (f (peer.input mediaType))) := by
  refine undisturbed_modifyPeer router peerId ?_ ?_ ?_ ?_ ?_ <;> intro peer <;> cases mediaType
  all_goals first
    | rfl
    | exact htrack peer.video

theorem undisturbed_route (isRtcp : Bytes → Bool) (gaussian : ℚ → ℚ → ℚ)
    (router : ScreenRouter) (expired : TrackId → Bool) (arrival : Arrival) :
    Undisturbed router (router.route isRtcp gaussian expired arrival).1 := by
  unfold route
  split
  · exact Undisturbed.refl _
  · split
    · exact Undisturbed.refl _
    · dsimp only
      split
      · exact Undisturbed.refl _
      · split
        · exact Undisturbed.refl _
        · refine (undisturbed_setInputState router arrival.publisher arrival.mediaType
            (f := fun input => { input with
              faultState := _
              linkState := _ }) ?_).withDelayQueue _
          exact fun _ => rfl

theorem undisturbed_flushDelayed (router : ScreenRouter) (now : Int) :
    Undisturbed router (router.flushDelayed now).1 := by
  unfold flushDelayed
  split
  · exact Undisturbed.refl _
  · exact (Undisturbed.refl router).withDelayQueue _

theorem undisturbed_forwardDelayed (router : ScreenRouter) (expired : TrackId → Bool)
    (item : DelayedPacket) : Undisturbed router (router.forwardDelayed expired item).1 := by
  unfold forwardDelayed
  split
  · exact Undisturbed.refl _
  · split
    · exact Undisturbed.refl _
    · dsimp only
      split
      · exact Undisturbed.refl _
      · exact undisturbed_setInputState router item.publisher item.mediaType
          (f := fun input => { input with
            linkState := { input.linkState with
              queuedPackets := input.linkState.queuedPackets - 1 } }) fun _ => rfl

theorem undisturbed_updateFaultConfig (router : ScreenRouter) (faultConfig : RtpFaultConfig) :
    Undisturbed router (router.updateFaultConfig faultConfig) :=
  ⟨rfl, rfl, fun _ => rfl, fun _ => rfl, fun _ => rfl, fun _ => rfl, rfl, fun _ => rfl⟩

/-! ## Writing a rewriter -/

theorem lookup_storeRewriter (router : ScreenRouter) (id : RewriterId)
    (state : RtpSlotRewriter) (peerId : PeerId) :
    (router.storeRewriter id state).peers.lookup peerId =
      (router.peers.lookup peerId).map fun peer =>
        { peer with
          outputs := peer.outputs.map fun pair =>
            { pair with
              video := pair.video.map (OutputTrack.storeRewriter id state)
              audio := pair.audio.map (OutputTrack.storeRewriter id state) } } :=
  Table.lookup_mapValues _ _ _

theorem pairsOf_storeRewriter (router : ScreenRouter) (id : RewriterId)
    (state : RtpSlotRewriter) (peerId : PeerId) :
    (router.storeRewriter id state).pairsOf peerId =
      (router.pairsOf peerId).map fun pair =>
        { pair with
          video := pair.video.map (OutputTrack.storeRewriter id state)
          audio := pair.audio.map (OutputTrack.storeRewriter id state) } := by
  rw [pairsOf, pairsOf, lookup_storeRewriter]
  cases router.peers.lookup peerId <;> rfl

theorem port_storeRewriter {id : RewriterId} {state : RtpSlotRewriter} {output : OutputTrack}
    (holder : Option PeerId)
    (hgeneration : output.rewriter.id = id → output.rewriter.generation = state.generation) :
    (output.storeRewriter id state).port holder = output.port holder := by
  simp only [OutputTrack.port, OutputTrack.storeRewriter, SharedRewriter.store]
  split
  · rename_i hid
    rw [hgeneration hid]
    rfl
  · rfl

theorem map_port_storeRewriter {id : RewriterId} {state : RtpSlotRewriter}
    {output : Option OutputTrack} (holder : Option PeerId)
    (hgeneration : ∀ track ∈ output.toList, track.rewriter.id = id →
      track.rewriter.generation = state.generation) :
    (output.map (OutputTrack.storeRewriter id state)).toList.map (OutputTrack.port holder) =
      output.toList.map (OutputTrack.port holder) := by
  cases output with
  | none => rfl
  | some track => simp [port_storeRewriter holder (hgeneration track (by simp))]

/-- A stored state with the generation of the outputs it belongs to is
invisible. -/
theorem undisturbed_storeRewriter (router : ScreenRouter) {id : RewriterId}
    {state : RtpSlotRewriter}
    (hgeneration : ∀ peerId, ∀ pair ∈ router.pairsOf peerId, ∀ output ∈ pair.outputs,
      output.rewriter.id = id → output.rewriter.generation = state.generation) :
    Undisturbed router (router.storeRewriter id state) where
  next := rfl
  closed := rfl
  senders peerId := by
    rw [lookup_storeRewriter, Option.map_map]
    rfl
  video peerId := videoOf_of_lookup_map (lookup_storeRewriter router id state peerId)
    fun _ => rfl
  streaming peerId := streamingOf_of_lookup_map (lookup_storeRewriter router id state peerId)
    fun _ => rfl
  watched peerId := watchedOf_of_lookup_map (lookup_storeRewriter router id state peerId)
    fun _ => rfl
  ports := by
    funext peerId
    rw [portsOf, portsOf, pairsOf_storeRewriter, List.flatMap_map]
    refine List.flatMap_congr fun pair hpair => ?_
    have houtput := hgeneration peerId pair hpair
    simp only [OutputPair.outputs, List.mem_append] at houtput
    simp only [OutputPair.ports, OutputPair.outputs, List.map_append]
    rw [map_port_storeRewriter _ fun track htrack => houtput track (Or.inl htrack),
      map_port_storeRewriter _ fun track htrack => houtput track (Or.inr htrack)]
  seats peerId := by
    rw [pairsOf_storeRewriter, List.map_map]
    refine List.map_congr_left fun pair _ => ?_
    simp only [Function.comp_apply, OutputPair.seat, Option.map_map]
    rfl

theorem mem_rewriters_of_mem_outputs {router : ScreenRouter} {peerId : PeerId}
    {pair : OutputPair} {output : OutputTrack} (hpair : pair ∈ router.pairsOf peerId)
    (houtput : output ∈ pair.outputs) :
    output.rewriter ∈ router.peers.entries.flatMap fun entry => entry.2.rewriters := by
  rcases Table.mem_iff_exists_lookup.mp (mem_of_mem_pairsOf hpair) with ⟨peer, hpeer⟩
  rw [pairsOf_of_lookup hpeer] at hpair
  exact List.mem_flatMap.mpr ⟨⟨peerId, peer⟩, AList.mem_lookup_iff.mp hpeer,
    List.mem_map_of_mem (List.mem_flatMap.mpr ⟨pair, hpair, houtput⟩)⟩

theorem exists_output_of_mem_rewriters {router : ScreenRouter} {rewriter : SharedRewriter}
    (h : rewriter ∈ router.peers.entries.flatMap fun entry => entry.2.rewriters) :
    ∃ peerId, ∃ pair ∈ router.pairsOf peerId, ∃ output ∈ pair.outputs,
      output.rewriter = rewriter := by
  rcases List.mem_flatMap.mp h with ⟨⟨peerId, peer⟩, hentry, hmem⟩
  rcases List.mem_map.mp hmem with ⟨output, houtput, rfl⟩
  rcases List.mem_flatMap.mp houtput with ⟨pair, hpair, houtput⟩
  refine ⟨peerId, pair, ?_, output, houtput, rfl⟩
  rwa [pairsOf_of_lookup (AList.mem_lookup_iff.mpr hentry)]

theorem mem_portsOf {router : ScreenRouter} {peerId : PeerId} {pair : OutputPair}
    {output : OutputTrack} (hpair : pair ∈ router.pairsOf peerId)
    (houtput : output ∈ pair.outputs) :
    output.port pair.publisher ∈ router.portsOf peerId :=
  List.mem_flatMap.mpr ⟨pair, hpair, List.mem_map_of_mem houtput⟩

/-- A rewriter found by its identity is the one of every output with that
identity. -/
theorem generation_of_find {router : ScreenRouter} (hports : PortsOk router.portsOf
    router.nextRewriter) {id : RewriterId} {rewriter : SharedRewriter}
    (hfind : (router.rewriters.find? fun rewriter => rewriter.id = id) = some rewriter)
    {peerId : PeerId} {pair : OutputPair} {output : OutputTrack}
    (hpair : pair ∈ router.pairsOf peerId) (houtput : output ∈ pair.outputs)
    (hid : output.rewriter.id = rewriter.id) :
    output.rewriter.generation = rewriter.generation := by
  have hname : rewriter.id = id := by simpa using List.find?_some hfind
  rw [rewriters, List.find?_append] at hfind
  cases hslots : (router.peers.entries.flatMap fun entry => entry.2.rewriters).find?
      fun rewriter => rewriter.id = id with
  | none =>
      have hnone := List.find?_eq_none.mp hslots _ (mem_rewriters_of_mem_outputs hpair houtput)
      simp [hid, hname] at hnone
  | some found =>
      rw [hslots, Option.some_or, Option.some.injEq] at hfind
      subst hfind
      rcases exists_output_of_mem_rewriters (List.mem_of_find?_eq_some hslots) with
        ⟨other, pair', hpair', output', houtput', rfl⟩
      have hunique := (hports.unique (mem_portsOf hpair houtput) (mem_portsOf hpair' houtput')
        hid).2
      exact congrArg Port.generation hunique

theorem undisturbed_sendTurn (isRtcp : Bytes → Bool) {router : ScreenRouter} (h : router.Inv)
    (expired : TrackId → Bool) (isOpen : Bool) (send : Send) :
    Undisturbed router (router.sendTurn isRtcp expired isOpen send).1 := by
  unfold sendTurn
  split
  · exact Undisturbed.refl _
  · split
    · exact Undisturbed.refl _
    · rename_i rewriter hfind
      refine undisturbed_storeRewriter router ?_
      intro peerId pair hpair output houtput hid
      rw [RtpSlotRewriter.rewrite_generation]
      exact generation_of_find h.ports hfind hpair houtput hid

/-- A packet is given to a track only under the current generation of the
output's rewriter. -/
theorem sameGeneration_of_sendTurn {isRtcp : Bytes → Bool} {router : ScreenRouter}
    (h : router.Inv) {expired : TrackId → Bool} {isOpen : Bool} {send : Send} {sent : Bytes}
    (hsent : (router.sendTurn isRtcp expired isOpen send).2 = some sent) {peerId : PeerId}
    {pair : OutputPair} {output : OutputTrack} (hpair : pair ∈ router.pairsOf peerId)
    (houtput : output ∈ pair.outputs) (hid : output.rewriter.id = send.target.rewriter) :
    RtpSlotRewriter.SameGeneration send.target.sourceGeneration output.rewriter.generation := by
  unfold sendTurn at hsent
  split at hsent
  · simp at hsent
  · split at hsent
    · simp at hsent
    · rename_i rewriter hfind
      dsimp only at hsent
      split at hsent
      · rename_i hrewritten
        have hname : rewriter.id = send.target.rewriter := by simpa using List.find?_some hfind
        rw [generation_of_find h.ports hfind hpair houtput (hid.trans hname.symm)]
        exact RtpSlotRewriter.sameGeneration_of_rewrite hrewritten
      · simp at hsent

/-! ## Leases -/

theorem progress_interrupt (router : ScreenRouter) (call : Interrupt) :
    Progress router (router.interrupt call) := by
  cases call with
  | close => exact progress_close router
  | updateFaultConfig faultConfig =>
      exact (undisturbed_updateFaultConfig router faultConfig).progress

theorem progress_operate (seen : Expiry) (router : ScreenRouter) (operation : Operation) :
    Progress router (router.operate seen operation).1 := by
  cases operation with
  | registerTrack owner track ssrc => exact progress_registerTrack router seen owner track ssrc
  | setStreaming peerId streaming => exact progress_setStreaming router seen peerId streaming
  | setWatching peerId publisher watching =>
      exact progress_setWatching router seen peerId publisher watching
  | removePeer peerId => exact progress_removePeer router seen peerId

theorem inv_initial (faultConfig : RtpFaultConfig) (executor : Bool) :
    Inv { faultConfig := faultConfig, executor := executor } where
  ports := ⟨fun _ => List.nodup_nil, fun _ _ _ _ h => by simp [portsOf, pairsOf] at h,
    fun _ _ h => by simp [portsOf, pairsOf] at h, fun _ _ h => by simp [portsOf, pairsOf] at h⟩
  distinct _ := List.nodup_nil
  bound _ _ h := by simp [pairsOf] at h
  senders _ _ h := by simp at h
  closed h := by simp at h

section

variable (isRtcp : Bytes → Bool) (gaussian : ℚ → ℚ → ℚ)

theorem stateLaws : (model isRtcp gaussian).StateLaws Inv where
  initial := by
    rintro _ ⟨faultConfig, executor, rfl⟩
    exact inv_initial faultConfig executor
  operate seen operation _ h := (progress_operate seen _ operation).inv h
  resume seen pending router h := (progress_finishOutput router seen pending).inv h
  interrupt call router h := (progress_interrupt router call).inv h
  route expired arrival router h :=
    (undisturbed_route isRtcp gaussian router expired arrival).progress.inv h
  flush now router h := (undisturbed_flushDelayed router now).progress.inv h
  forward expired item router h := (undisturbed_forwardDelayed router expired item).progress.inv h
  sendTurn expired isOpen send _ h :=
    (undisturbed_sendTurn isRtcp h expired isOpen send).progress.inv h

theorem mem_outputs_of_output {mediaType : MediaType} {pair : OutputPair}
    {output : OutputTrack} (h : output ∈ (pair.output mediaType).toList) :
    output ∈ pair.outputs := by
  cases mediaType with
  | video => exact List.mem_append_left _ h
  | audio => exact List.mem_append_right _ h

/-- A collected target is in flight. -/
theorem inFlight_collectTargetsLocked {router : ScreenRouter} (h : router.Inv)
    {publisher : PeerId} {mediaType : MediaType} {midId : Option UInt8} {outgoing : List Bytes}
    {send : Send}
    (hsend : send ∈ sendPackets publisher (router.collectTargetsLocked publisher mediaType)
      midId outgoing) : RouterModel.InFlight router.ledger send := by
  rcases mem_sendPackets hsend with ⟨hpublisher, htarget⟩
  simp only [collectTargetsLocked, List.mem_flatMap, List.mem_map, List.mem_filter,
    decide_eq_true_eq] at htarget
  rcases htarget with
    ⟨⟨peerId, peer⟩, hentry, output, ⟨pair, ⟨hpair, hbound⟩, houtput, _⟩, htarget⟩
  have hmem : output.port pair.publisher ∈ router.portsOf peerId := by
    refine mem_portsOf ?_ (mem_outputs_of_output houtput)
    rwa [pairsOf_of_lookup (AList.mem_lookup_iff.mpr hentry)]
  refine inFlight_of_current h.ports hmem ?_ ?_ ?_ ?_
  · rw [hpublisher]
    exact hbound
  · rw [← htarget]
    rfl
  · rw [← htarget]
    rfl
  · rw [← htarget]
    rfl

theorem inFlight_route {router : ScreenRouter} (h : router.Inv) (expired : TrackId → Bool)
    (arrival : Arrival) : ∀ send ∈ (router.route isRtcp gaussian expired arrival).2,
      RouterModel.InFlight router.ledger send := by
  intro send hsend
  unfold route at hsend
  split at hsend
  · simp at hsend
  · split at hsend
    · simp at hsend
    · dsimp only at hsend
      split at hsend
      · simp at hsend
      · split at hsend
        · simp at hsend
        · exact inFlight_collectTargetsLocked h hsend

theorem inFlight_forwardDelayed {router : ScreenRouter} (h : router.Inv)
    (expired : TrackId → Bool) (item : DelayedPacket) :
    ∀ send ∈ (router.forwardDelayed expired item).2,
      RouterModel.InFlight router.ledger send := by
  intro send hsend
  unfold forwardDelayed at hsend
  split at hsend
  · simp at hsend
  · split at hsend
    · simp at hsend
    · dsimp only at hsend
      split at hsend
      · simp at hsend
      · exact inFlight_collectTargetsLocked h hsend

theorem leaseLaws : (model isRtcp gaussian).LeaseLaws Inv ledger where
  toStateLaws := stateLaws isRtcp gaussian
  operate_advance seen operation router h := (progress_operate seen router operation).advance h
  resume_advance seen pending router h := (progress_finishOutput router seen pending).advance h
  interrupt_advance call router h := (progress_interrupt router call).advance h
  route_advance expired arrival router h :=
    (undisturbed_route isRtcp gaussian router expired arrival).progress.advance h
  flush_advance now router h := (undisturbed_flushDelayed router now).progress.advance h
  forward_advance expired item router h :=
    (undisturbed_forwardDelayed router expired item).progress.advance h
  sendTurn_advance expired isOpen send _ h :=
    (undisturbed_sendTurn isRtcp h expired isOpen send).progress.advance h
  route_issue expired arrival router h send hsend :=
    (inFlight_route isRtcp gaussian h expired arrival send hsend).advance
      ((undisturbed_route isRtcp gaussian router expired arrival).progress.advance h)
  forward_issue expired item router h send hsend :=
    (inFlight_forwardDelayed h expired item send hsend).advance
      ((undisturbed_forwardDelayed router expired item).progress.advance h)

end

end ScreenRouter

end Sfu
end Driscord
