import Driscord.Sfu.QueueAccounting
import Driscord.Sfu.ScreenSystem

/-!
# The packets that wait behind the link of the screen router

A peer is two sources, its video and its audio, which stop and start together.

Main results:

- Theorem `ScreenRouter.lineLaws`: the sections of the screen router are those of its line.
-/

namespace Driscord
namespace Sfu

open Library

namespace Screen

theorem PeerState.input_setInputState (mediaType other : MediaType) (input : InputState)
    (peer : PeerState) :
    (peer.setInputState mediaType input).input other =
      if other = mediaType then input else peer.input other := by
  cases mediaType <;> cases other <;> rfl

theorem PeerState.streaming_setInputState (mediaType : MediaType) (input : InputState)
    (peer : PeerState) : (peer.setInputState mediaType input).streaming = peer.streaming := by
  cases mediaType <;> rfl

end Screen

namespace ScreenRouter

open Screen

/-- A peer and a media type. -/
abbrev Source := PeerId × MediaType

/-- The input of a source; empty for an absent peer. -/
def inputAt (router : ScreenRouter) (source : Source) : WeakTrack :=
  (router.peers.lookup source.1).bind fun peer => (peer.input source.2).track

/-- The link state of a source. -/
def linkAt (router : ScreenRouter) (source : Source) : LinkModelState :=
  ((router.peers.lookup source.1).map fun peer => (peer.input source.2).linkState).getD {}

/-- The fault state of a source. -/
def faultAt (router : ScreenRouter) (source : Source) : RtpFaultState :=
  ((router.peers.lookup source.1).map fun peer => (peer.input source.2).faultState).getD {}

/-- What the link model sees of the router. -/
def delayLine (router : ScreenRouter) : DelayLine Source DelayedPacket where
  config := router.faultConfig
  executor := router.executor
  closed := router.closed
  passes source := router.streamingOf source.1
  input := router.inputAt
  fault := router.faultAt
  link := router.linkAt
  queue := router.delayQueue

/-- An arrival as the link model sees it. -/
def Arrival.line (arrival : Arrival) : LineArrival Source DelayedPacket where
  source := (arrival.publisher, arrival.mediaType)
  expected := arrival.expectedInput
  packet := arrival.packet
  wrap packet := ⟨arrival.publisher, arrival.mediaType, arrival.expectedInput, packet⟩
  firstNow := arrival.firstNow
  secondNow := arrival.secondNow

/-- The input that an operation registers. -/
def Operation.stores : Operation → Option (Source × TrackId)
  | registerTrack owner (some track) _ =>
      if track.direction = Direction.recvOnly then
        track.mediaType.map fun mediaType => ((owner, mediaType), track.id)
      else none
  | _ => none

/-- The screen router as the link model sees it. -/
def lineModel (isRtcp : Bytes → Bool) (gaussian : ℚ → ℚ → ℚ) :
    LineModel (model isRtcp gaussian) Source where
  keys := ⟨fun item => (item.publisher, item.mediaType), DelayedPacket.expectedInput⟩
  line := delayLine
  arrival := Arrival.line
  stores := Operation.stores

/-! ## Packets -/

/-- Writing one input of a peer, and the delay queue. -/
theorem delayLine_setInputState {router : ScreenRouter} {source : Source} {peer : PeerState}
    (hpeer : router.peers.lookup source.1 = some peer) (f : InputState → InputState)
    (htrack : ∀ input, (f input).track = input.track) (queue : List (Int × DelayedPacket)) :
    ({ router.modifyPeer source.1 fun peer =>
          peer.setInputState source.2 (f (peer.input source.2)) with
        delayQueue := queue } : ScreenRouter).delayLine =
      { router.delayLine with
        fault := Function.update router.delayLine.fault source (f (peer.input source.2)).faultState
        link := Function.update router.delayLine.link source (f (peer.input source.2)).linkState
        queue := queue } := by
  rcases source with ⟨owner, mediaType⟩
  have hlookup := fun other => lookup_modifyPeer router owner other fun peer =>
    peer.setInputState mediaType (f (peer.input mediaType))
  refine DelayLine.ext rfl rfl rfl ?_ ?_ ?_ ?_ rfl
  · funext ⟨other, kind⟩
    simp only [delayLine, streamingOf]
    rw [hlookup]
    cases router.peers.lookup other with
    | none => rfl
    | some found =>
        by_cases hother : other = owner <;> simp [hother, PeerState.streaming_setInputState]
  · funext ⟨other, kind⟩
    simp only [delayLine, inputAt]
    rw [hlookup]
    cases router.peers.lookup other with
    | none => rfl
    | some found =>
        by_cases hother : other = owner
        · by_cases hkind : kind = mediaType <;>
            simp [hother, hkind, PeerState.input_setInputState, htrack]
        · simp [hother]
  · funext ⟨other, kind⟩
    simp only [delayLine, faultAt, Function.update_apply, Prod.mk.injEq]
    rw [hlookup]
    by_cases hother : other = owner
    · subst hother
      rw [hpeer]
      by_cases hkind : kind = mediaType <;> simp [hkind, PeerState.input_setInputState]
    · simp [hother]
  · funext ⟨other, kind⟩
    simp only [delayLine, linkAt, Function.update_apply, Prod.mk.injEq]
    rw [hlookup]
    by_cases hother : other = owner
    · subst hother
      rw [hpeer]
      by_cases hkind : kind = mediaType <;> simp [hkind, PeerState.input_setInputState]
    · simp [hother]

section

variable (isRtcp : Bytes → Bool) (gaussian : ℚ → ℚ → ℚ) (router : ScreenRouter)
variable (expired : TrackId → Bool)

/-- The checks of `route` and of `forward_delayed`, for a peer that is there. -/
theorem hears_iff {router : ScreenRouter} (hopen : router.closed = false) {source : Source}
    {peer : PeerState} (hpeer : router.peers.lookup source.1 = some peer)
    (expected : WeakTrack) :
    router.delayLine.Hears expired source expected ↔
      ¬ (lockTrack expired (peer.input source.2).track ≠ lockTrack expired expected ∨
        peer.streaming = false) := by
  simp [DelayLine.Hears, delayLine, hopen, hpeer, inputAt, streamingOf, and_comm]

theorem delayLine_route (arrival : Arrival) :
    (router.route isRtcp gaussian expired arrival).1.delayLine =
      router.delayLine.route isRtcp gaussian expired arrival.line := by
  unfold route DelayLine.route
  cases hclosed : router.closed with
  | true => simp [DelayLine.Routes, DelayLine.Hears, delayLine, hclosed]
  | false =>
      cases hpeer : router.peers.lookup arrival.publisher with
      | none =>
          simp [DelayLine.Routes, DelayLine.Hears, delayLine, Arrival.line, hclosed, hpeer,
            streamingOf]
      | some peer =>
          have hpeer' : router.peers.lookup arrival.line.source.1 = some peer := hpeer
          have hhears := hears_iff expired hclosed hpeer' arrival.expectedInput
          have hfault : router.delayLine.fault arrival.line.source =
              (peer.input arrival.mediaType).faultState := by
            simp [delayLine, faultAt, Arrival.line, hpeer]
          have hlink : router.delayLine.link arrival.line.source =
              (peer.input arrival.mediaType).linkState := by
            simp [delayLine, linkAt, Arrival.line, hpeer]
          have hadmitted : router.admitArrival isRtcp gaussian (peer.input arrival.mediaType)
              arrival = ((router.delayLine.faulted isRtcp arrival.line).2,
                router.delayLine.admitBoth isRtcp gaussian arrival.line) := by
            unfold admitArrival DelayLine.admitBoth DelayLine.admitFirst DelayLine.faulted
            rw [hfault, hlink]
            rfl
          simp only [Bool.false_eq_true, if_false]
          by_cases hskips : lockTrack expired (peer.input arrival.mediaType).track ≠
              lockTrack expired arrival.expectedInput ∨ peer.streaming = false
          · rw [if_pos hskips, if_neg fun hgoes => hhears.mp hgoes.1 hskips]
          · by_cases hdown : (!isRtcp arrival.packet && router.faultConfig.linkDown) = true
            · rw [if_neg hskips, if_pos hdown, if_neg]
              rintro ⟨-, hrtcp | hup⟩
              · simp [Arrival.line] at hrtcp
                simp [hrtcp] at hdown
              · have hconfig : router.faultConfig.linkDown = false := hup
                simp [hconfig] at hdown
            · rw [if_neg hskips, if_neg hdown, if_pos]
              · rw [hadmitted]
                exact delayLine_setInputState hpeer'
                  (fun input => { input with
                    faultState := (router.delayLine.faulted isRtcp arrival.line).2
                    linkState :=
                      (router.delayLine.admitBoth isRtcp gaussian arrival.line).linkState })
                  (fun _ => rfl) _
              · refine ⟨hhears.mpr hskips, ?_⟩
                cases hrtcp : isRtcp arrival.packet with
                | true => exact Or.inl hrtcp
                | false =>
                    have hup : router.faultConfig.linkDown = false := by simpa [hrtcp] using hdown
                    exact Or.inr hup

theorem delayLine_flushDelayed (now : Int) :
    (router.flushDelayed now).1.delayLine = (router.delayLine.flush now).1 ∧
      (router.flushDelayed now).2 = (router.delayLine.flush now).2 := by
  unfold flushDelayed DelayLine.flush
  cases hclosed : router.closed with
  | true => simp [delayLine, hclosed]
  | false =>
      have hopen : router.delayLine.closed = false := hclosed
      rw [hopen]
      exact ⟨rfl, rfl⟩

theorem delayLine_forwardDelayed (item : DelayedPacket) :
    (router.forwardDelayed expired item).1.delayLine =
      router.delayLine.forward expired (item.publisher, item.mediaType) item.expectedInput := by
  unfold forwardDelayed DelayLine.forward
  cases hclosed : router.closed with
  | true => simp [DelayLine.Hears, delayLine, hclosed]
  | false =>
      cases hpeer : router.peers.lookup item.publisher with
      | none => simp [DelayLine.Hears, delayLine, hclosed, hpeer, streamingOf]
      | some peer =>
          have hpeer' : router.peers.lookup
              ((item.publisher, item.mediaType) : Source).1 = some peer := hpeer
          have hhears := hears_iff expired hclosed hpeer' item.expectedInput
          simp only [Bool.false_eq_true, if_false]
          by_cases hskips : lockTrack expired (peer.input item.mediaType).track ≠
              lockTrack expired item.expectedInput ∨ peer.streaming = false
          · rw [if_pos hskips, if_neg fun hgoes => hhears.mp hgoes hskips]
          · rw [if_neg hskips, if_pos (hhears.mpr hskips)]
            have hfault : router.delayLine.fault (item.publisher, item.mediaType) =
                (peer.input item.mediaType).faultState := by
              simp [delayLine, faultAt, hpeer]
            have hlink : router.delayLine.link (item.publisher, item.mediaType) =
                (peer.input item.mediaType).linkState := by
              simp [delayLine, linkAt, hpeer]
            refine (delayLine_setInputState hpeer' (fun input => { input with
              linkState := { input.linkState with
                queuedPackets := input.linkState.queuedPackets - 1 } })
              (fun _ => rfl) router.delayQueue).trans ?_
            rw [hlink, ← hfault, Function.update_eq_self]
            rfl

end

/-! ## Operations -/

section

variable (router : ScreenRouter)

/-- A section that keeps the inputs of all peers. -/
theorem keeps_of_lookup {router next : ScreenRouter} {f : PeerId → PeerState → PeerState}
    (hlookup : ∀ peerId, next.peers.lookup peerId = (router.peers.lookup peerId).map (f peerId))
    (hinput : ∀ peerId peer mediaType,
      (f peerId peer).input mediaType = peer.input mediaType)
    (hconfig : next.faultConfig = router.faultConfig) (hexecutor : next.executor = router.executor)
    (hclosed : next.closed = router.closed) (hqueue : next.delayQueue = router.delayQueue) :
    router.delayLine.Keeps next.delayLine := by
  refine ⟨hconfig, hexecutor, hclosed, hqueue, fun source => ?_, fun source => ?_⟩
  · simp only [delayLine, inputAt]
    rw [hlookup]
    cases router.peers.lookup source.1 with
    | none => rfl
    | some peer => simp [hinput]
  · simp only [delayLine, linkAt]
    rw [hlookup]
    cases router.peers.lookup source.1 with
    | none => rfl
    | some peer => simp [hinput]

/-- Updates of the slots, the watches and the `streaming` flag. -/
theorem keeps_modifyPeer (peerId : PeerId) {f : PeerState → PeerState}
    (hinput : ∀ peer mediaType, (f peer).input mediaType = peer.input mediaType) :
    router.delayLine.Keeps (router.modifyPeer peerId f).delayLine :=
  keeps_of_lookup (fun other => lookup_modifyPeer router peerId other f)
    (fun _ peer mediaType => by
      split
      · exact hinput peer mediaType
      · rfl) rfl rfl rfl rfl

theorem keeps_peerForLocked (peerId : PeerId) :
    router.delayLine.Keeps (router.peerForLocked peerId).delayLine := by
  have hrest : (router.peerForLocked peerId).faultConfig = router.faultConfig ∧
      (router.peerForLocked peerId).executor = router.executor ∧
      (router.peerForLocked peerId).closed = router.closed ∧
      (router.peerForLocked peerId).delayQueue = router.delayQueue := by
    unfold peerForLocked
    split <;> exact ⟨rfl, rfl, rfl, rfl⟩
  refine ⟨hrest.1, hrest.2.1, hrest.2.2.1, hrest.2.2.2, fun source => ?_, fun source => ?_⟩
  · rcases source with ⟨other, mediaType⟩
    simp only [delayLine, inputAt]
    rcases lookup_peerForLocked router peerId other with hsame | ⟨hnone, -, hnew⟩
    · rw [hsame]
    · rw [hnone, hnew]
      cases mediaType <;> rfl
  · rcases source with ⟨other, mediaType⟩
    simp only [delayLine, linkAt]
    rcases lookup_peerForLocked router peerId other with hsame | ⟨hnone, -, hnew⟩
    · rw [hsame]
    · rw [hnone, hnew]
      cases mediaType <;> rfl

theorem keeps_sweepBound (concerned : PeerId → Bool) (owner : PeerId)
    (update : OutputPair → OutputPair) :
    router.delayLine.Keeps (router.sweepBound concerned owner update).1.delayLine :=
  keeps_of_lookup (fun other => lookup_sweepBound router concerned owner other update)
    (fun _ _ mediaType => by split <;> cases mediaType <;> rfl) rfl rfl rfl rfl

theorem keeps_assignAvailableLocked (expired : Expiry) :
    router.delayLine.Keeps (router.assignAvailableLocked expired).1.delayLine :=
  keeps_of_lookup (lookup_assignAvailableLocked router expired)
    (fun _ _ mediaType => by cases mediaType <;> rfl) rfl rfl rfl rfl

theorem keeps_placeFresh (owner : PeerId) (track : Track) (ssrc : UInt32)
    (mediaType : MediaType) :
    router.delayLine.Keeps (router.placeFresh owner track ssrc mediaType).delayLine :=
  keeps_of_lookup (fun other => lookup_placeFresh router owner other track ssrc mediaType)
    (fun _ _ kind => by split <;> cases kind <;> rfl) rfl rfl rfl rfl

theorem keeps_sendTurn (isRtcp : Bytes → Bool) (expired : TrackId → Bool) (isOpen : Bool)
    (send : Send) :
    router.delayLine.Keeps (router.sendTurn isRtcp expired isOpen send).1.delayLine := by
  unfold sendTurn
  split
  · exact DelayLine.Keeps.refl _
  · split
    · exact DelayLine.Keeps.refl _
    · exact keeps_of_lookup (lookup_storeRewriter router _ _)
        (fun _ _ mediaType => by cases mediaType <;> rfl) rfl rfl rfl rfl

variable {router} in
theorem restarts_thenAssign {first : ScreenRouter × List BindingNotice}
    {stored : Option (Source × TrackId)}
    (h : router.delayLine.Restarts first.1.delayLine stored) (expired : Expiry) :
    router.delayLine.Restarts (thenAssign expired first).1.delayLine stored :=
  h.trans_keeps (keeps_assignAvailableLocked first.1 expired)

/-- Another track starts the source afresh. -/
theorem restarts_setInput (owner : PeerId) (track : Track) (mediaType : MediaType)
    {f : PeerState → PeerState} (hinput : ∀ peer kind, (f peer).input kind =
      if kind = mediaType then (peer.input mediaType).store track else peer.input kind) :
    router.delayLine.Restarts (router.modifyPeer owner f).delayLine
      (some ((owner, mediaType), track.id)) := by
  refine ⟨rfl, rfl, rfl, rfl, fun ⟨other, kind⟩ => ?_⟩
  simp only [delayLine, inputAt, linkAt]
  rw [lookup_modifyPeer]
  cases hpeer : router.peers.lookup other with
  | none => exact Or.inl ⟨rfl, rfl⟩
  | some peer =>
      by_cases hother : other = owner
      · subst hother
        by_cases hkind : kind = mediaType
        · subst hkind
          by_cases hchanged : (peer.input kind).track = some track.id
          · refine Or.inl ⟨?_, ?_⟩ <;> simp [hinput, InputState.store, hchanged]
          · refine Or.inr ⟨?_, ?_⟩
            · simp [hinput, InputState.store, hchanged]
            · intro stored hstored
              have hsame : track.id = stored := by
                simpa [hinput, InputState.store, hchanged] using hstored
              subst hsame
              exact ⟨rfl, hchanged⟩
        · refine Or.inl ⟨?_, ?_⟩ <;> simp [hinput, hkind]
      · refine Or.inl ⟨?_, ?_⟩ <;> simp [hother]

theorem restarts_storeInput (owner : PeerId) (track : Track) (mediaType : MediaType) :
    router.delayLine.Restarts (router.storeInput owner track mediaType).1.delayLine
      (some ((owner, mediaType), track.id)) := by
  have hstored := (keeps_peerForLocked router owner).trans_restarts
    (restarts_setInput (router.peerForLocked owner) owner track mediaType
      (f := fun peer => { peer.setInputState mediaType ((peer.input mediaType).store track) with
        sendBinding := some owner })
      fun _ kind => by cases kind <;> cases mediaType <;> rfl)
  unfold storeInput
  dsimp only
  split
  · exact hstored.trans_keeps (keeps_sweepBound _ _ owner (OutputPair.restart mediaType))
  · exact hstored

/-- A removed peer has neither inputs nor link states. -/
theorem restarts_erasePeer (peerId : PeerId) :
    router.delayLine.Restarts (router.erasePeer peerId).delayLine none := by
  refine ⟨rfl, rfl, rfl, rfl, fun ⟨other, mediaType⟩ => ?_⟩
  simp only [delayLine, inputAt, linkAt]
  by_cases hother : other = peerId
  · subst hother
    rw [lookup_erasePeer_self]
    exact Or.inr ⟨rfl, fun _ htrack => absurd htrack.symm (Option.some_ne_none _)⟩
  · rw [lookup_erasePeer_ne router hother]
    cases router.peers.lookup other with
    | none => exact Or.inl ⟨rfl, rfl⟩
    | some peer => cases mediaType <;> exact Or.inl ⟨rfl, rfl⟩

theorem restarts_registerTrack (seen : Expiry) (owner : PeerId) (track : Option Track)
    (ssrc : UInt32) :
    router.delayLine.Restarts (router.registerTrack seen owner track ssrc (some owner)).1.delayLine
      (Operation.registerTrack owner track ssrc).stores := by
  simp only [registerTrack, Operation.stores]
  cases track with
  | none => exact (DelayLine.Keeps.refl _).restarts
  | some track =>
      dsimp only
      cases hkind : track.mediaType with
      | none => exact (DelayLine.Keeps.refl _).restarts
      | some mediaType =>
          dsimp only
          cases hclosed : router.closed with
          | true =>
              split <;> simp only [registerInput, registerOutput, hclosed, if_true] <;>
                exact (DelayLine.Keeps.refl _).restarts
          | false =>
              split
              case h_1 hdirection =>
                rw [if_pos hdirection, registerInput_eq hclosed]
                exact restarts_thenAssign (restarts_storeInput router owner track mediaType) seen
              case h_2 =>
                rw [registerOutput_eq hclosed]
                exact ((keeps_peerForLocked router owner).trans
                  (keeps_placeFresh _ owner track ssrc mediaType)).restarts
              case h_3 => exact (DelayLine.Keeps.refl _).restarts

theorem restarts_setStreaming (seen : Expiry) (peerId : PeerId) (streaming : Bool) :
    router.delayLine.Restarts (router.setStreaming seen peerId streaming).1.delayLine none := by
  rcases setStreaming_cases router seen peerId streaming with heq | ⟨-, heq | heq⟩
  · rw [heq]
    exact (DelayLine.Keeps.refl _).restarts
  · rw [heq]
    exact (keeps_peerForLocked router peerId).restarts
  · rw [heq]
    have hstored := (keeps_peerForLocked router peerId).trans
      (keeps_modifyPeer (router.peerForLocked peerId) peerId
        (f := fun peer => { peer with streaming := streaming })
        fun _ mediaType => by cases mediaType <;> rfl)
    refine restarts_thenAssign (DelayLine.Keeps.restarts ?_) seen
    unfold storeStreaming
    dsimp only
    split
    · exact hstored
    · exact hstored.trans (keeps_sweepBound _ _ peerId OutputPair.clear)

theorem restarts_setWatching (seen : Expiry) (peerId publisher : PeerId) (watching : Bool) :
    router.delayLine.Restarts (router.setWatching seen peerId publisher watching).1.delayLine
      none := by
  rcases setWatching_cases router seen peerId publisher watching with heq | ⟨-, heq | heq | heq⟩
  · rw [heq]
    exact (DelayLine.Keeps.refl _).restarts
  · rw [heq]
    exact (keeps_peerForLocked router peerId).restarts
  · rw [heq]
    refine restarts_thenAssign ((keeps_peerForLocked router peerId).trans ?_).restarts seen
    exact keeps_modifyPeer _ peerId fun _ mediaType => by cases mediaType <;> rfl
  · rw [heq]
    refine restarts_thenAssign ((keeps_peerForLocked router peerId).trans ?_).restarts seen
    exact (keeps_modifyPeer _ peerId fun _ mediaType => by cases mediaType <;> rfl).trans
      (keeps_sweepBound _ _ publisher OutputPair.clear)

theorem restarts_operate (seen : Expiry) (operation : Operation) :
    router.delayLine.Restarts (router.operate seen operation).1.delayLine operation.stores := by
  cases operation with
  | registerTrack owner track ssrc => exact restarts_registerTrack router seen owner track ssrc
  | setStreaming peerId streaming => exact restarts_setStreaming router seen peerId streaming
  | setWatching peerId publisher watching =>
      exact restarts_setWatching router seen peerId publisher watching
  | removePeer peerId =>
      simp only [operate, removePeer, Operation.stores]
      split
      · exact (DelayLine.Keeps.refl _).restarts
      · exact restarts_thenAssign ((restarts_erasePeer router peerId).trans_keeps
          (keeps_sweepBound _ _ peerId OutputPair.clear)) seen

theorem restarts_finishOutput (seen : Expiry) (pending : PendingOutput) :
    router.delayLine.Restarts (router.finishOutput seen pending).1.delayLine none := by
  rcases finishOutput_cases router seen pending with ⟨heq, -⟩ | heq
  · rw [heq]
    exact (DelayLine.Keeps.refl _).restarts
  · rw [heq]
    refine restarts_thenAssign (DelayLine.Keeps.restarts ?_) seen
    exact keeps_modifyPeer _ pending.owner fun _ mediaType => by cases mediaType <;> rfl

end

/-- The sections of the screen router are those of its line. -/
theorem lineLaws (isRtcp : Bytes → Bool) (gaussian : ℚ → ℚ → ℚ) :
    (lineModel isRtcp gaussian).Laws isRtcp gaussian where
  initial router hinitial := by
    rcases hinitial with ⟨faultConfig, executor, rfl⟩
    exact ⟨rfl, rfl, fun _ => rfl⟩
  wrap _ _ := ⟨rfl, rfl⟩
  route expired arrival router := delayLine_route isRtcp gaussian router expired arrival
  flush now router := delayLine_flushDelayed router now
  forward expired item router := delayLine_forwardDelayed router expired item
  operate seen operation router := restarts_operate router seen operation
  resume seen rest router := restarts_finishOutput router seen rest
  sendTurn expired isOpen send router :=
    (keeps_sendTurn router isRtcp expired isOpen send).restarts

end ScreenRouter

end Sfu
end Driscord
