import Driscord.Sfu.QueueAccounting
import Driscord.Sfu.VoiceSystem

/-!
# The packets that wait behind the link of the voice router

Main results:

- Theorem `VoiceRouter.lineLaws`: the sections of the voice router are those of its line.
-/

namespace Driscord
namespace Sfu

open Library

namespace VoiceRouter

open Voice

/-- What the link model sees of the router. -/
def delayLine (router : VoiceRouter) : DelayLine PeerId DelayedPacket where
  config := router.faultConfig
  executor := router.executor
  closed := router.closed
  passes peerId := (router.peers.lookup peerId).isSome
  input := router.inputOf
  fault peerId := ((router.peers.lookup peerId).map PeerState.inputFaultState).getD {}
  link peerId := ((router.peers.lookup peerId).map PeerState.inputLinkState).getD {}
  queue := router.delayQueue

/-- An arrival as the link model sees it. -/
def Arrival.line (arrival : Arrival) : LineArrival PeerId DelayedPacket where
  source := arrival.publisher
  expected := arrival.expectedInput
  packet := arrival.packet
  wrap packet := ⟨arrival.publisher, arrival.expectedInput, packet⟩
  firstNow := arrival.firstNow
  secondNow := arrival.secondNow

/-- The input that an operation registers. -/
def Operation.stores : Operation → Option (PeerId × TrackId)
  | registerTrack owner (some track) _ =>
      if track.mediaType = some MediaType.audio ∧ track.direction = Direction.recvOnly then
        some (owner, track.id)
      else none
  | _ => none

/-- The voice router as the link model sees it. -/
def lineModel (isRtcp : Bytes → Bool) (gaussian : ℚ → ℚ → ℚ) :
    LineModel (model isRtcp gaussian) PeerId where
  keys := ⟨DelayedPacket.publisher, DelayedPacket.expectedInput⟩
  line := delayLine
  arrival := Arrival.line
  stores := Operation.stores

/-! ## Packets -/

/-- Writing the fault and link state of a peer, and the delay queue. -/
theorem delayLine_modifyPeer {router : VoiceRouter} {peerId : PeerId} {peer : PeerState}
    (hpeer : router.peers.lookup peerId = some peer) {f : PeerState → PeerState}
    (hinput : ∀ peer, (f peer).input = peer.input) (queue : List (Int × DelayedPacket)) :
    ({ router.modifyPeer peerId f with delayQueue := queue } : VoiceRouter).delayLine =
      { router.delayLine with
        fault := Function.update router.delayLine.fault peerId (f peer).inputFaultState
        link := Function.update router.delayLine.link peerId (f peer).inputLinkState
        queue := queue } := by
  have hlookup := fun other => lookup_modifyPeer router peerId other f
  refine DelayLine.ext rfl rfl rfl ?_ ?_ ?_ ?_ rfl
  · funext other
    simp only [delayLine]
    rw [hlookup, Option.isSome_map]
  · exact funext fun other => inputOf_modifyPeer router peerId other hinput
  · funext other
    simp only [delayLine]
    rw [hlookup]
    by_cases hother : other = peerId
    · subst hother
      simp [hpeer]
    · simp [hother]
  · funext other
    simp only [delayLine]
    rw [hlookup]
    by_cases hother : other = peerId
    · subst hother
      simp [hpeer]
    · simp [hother]

section

variable (isRtcp : Bytes → Bool) (gaussian : ℚ → ℚ → ℚ) (router : VoiceRouter)
variable (expired : TrackId → Bool)

/-- The checks of `route` and of `forward_delayed`, for a peer that is there. -/
theorem hears_iff {router : VoiceRouter} (hopen : router.closed = false) {peerId : PeerId}
    {peer : PeerState} (hpeer : router.peers.lookup peerId = some peer)
    (expected : WeakTrack) :
    router.delayLine.Hears expired peerId expected ↔
      lockTrack expired peer.input = lockTrack expired expected := by
  simp [DelayLine.Hears, delayLine, hopen, hpeer, inputOf]

theorem delayLine_route (arrival : Arrival) :
    (router.route isRtcp gaussian expired arrival).1.delayLine =
      router.delayLine.route isRtcp gaussian expired arrival.line := by
  unfold route DelayLine.route
  cases hclosed : router.closed with
  | true => simp [DelayLine.Routes, DelayLine.Hears, delayLine, hclosed]
  | false =>
      cases hpeer : router.peers.lookup arrival.publisher with
      | none => simp [DelayLine.Routes, DelayLine.Hears, delayLine, Arrival.line, hclosed, hpeer]
      | some source =>
          have hroutes : router.delayLine.Routes isRtcp expired arrival.line ↔
              lockTrack expired source.input = lockTrack expired arrival.expectedInput ∧
                (isRtcp arrival.packet = true ∨ router.faultConfig.linkDown = false) :=
            and_congr_left' (hears_iff expired hclosed hpeer arrival.expectedInput)
          have hfault : router.delayLine.fault arrival.publisher = source.inputFaultState := by
            simp [delayLine, hpeer]
          have hlink : router.delayLine.link arrival.publisher = source.inputLinkState := by
            simp [delayLine, hpeer]
          have hadmitted : router.admitArrival isRtcp gaussian source arrival =
              ((router.delayLine.faulted isRtcp arrival.line).2,
                router.delayLine.admitBoth isRtcp gaussian arrival.line) := by
            unfold admitArrival DelayLine.admitBoth DelayLine.admitFirst DelayLine.faulted
            simp only [Arrival.line, hfault, hlink]
            rfl
          simp only [Bool.false_eq_true, if_false]
          by_cases hlock : lockTrack expired source.input = lockTrack expired arrival.expectedInput
          · by_cases hdown : (!isRtcp arrival.packet && router.faultConfig.linkDown) = true
            · rw [if_neg (not_not.mpr hlock), if_pos hdown, if_neg]
              intro hgoes
              rcases (hroutes.mp hgoes).2 with hrtcp | hup <;> simp_all
            · rw [if_neg (not_not.mpr hlock), if_neg hdown, if_pos]
              · rw [hadmitted]
                exact delayLine_modifyPeer hpeer (by intro _; rfl) _
              · refine hroutes.mpr ⟨hlock, ?_⟩
                cases hrtcp : isRtcp arrival.packet with
                | true => exact Or.inl rfl
                | false => exact Or.inr (by simpa [hrtcp] using hdown)
          · rw [if_pos hlock, if_neg fun hgoes => hlock (hroutes.mp hgoes).1]

theorem delayLine_flushDelayed (now : Int) :
    (router.flushDelayed now).1.delayLine = (router.delayLine.flush now).1 ∧
      (router.flushDelayed now).2 = (router.delayLine.flush now).2 := by
  unfold flushDelayed DelayLine.flush
  cases hclosed : router.closed with
  | true => simp [delayLine, hclosed]
  | false =>
      have hopen : router.delayLine.closed = false := hclosed
      rw [hopen]
      exact ⟨rfl, rfl⟩

theorem delayLine_forwardDelayed (item : DelayedPacket) :
    (router.forwardDelayed expired item).1.delayLine =
      router.delayLine.forward expired item.publisher item.expectedInput := by
  unfold forwardDelayed DelayLine.forward
  cases hclosed : router.closed with
  | true => simp [DelayLine.Hears, delayLine, hclosed]
  | false =>
      cases hpeer : router.peers.lookup item.publisher with
      | none => simp [DelayLine.Hears, delayLine, hclosed, hpeer]
      | some source =>
          have hhears := hears_iff expired hclosed hpeer item.expectedInput
          simp only [Bool.false_eq_true, if_false]
          by_cases hlock : lockTrack expired source.input = lockTrack expired item.expectedInput
          · rw [if_neg (not_not.mpr hlock), if_pos (hhears.mpr hlock)]
            have hlink : router.delayLine.link item.publisher = source.inputLinkState := by
              simp [delayLine, hpeer]
            have hfault : router.delayLine.fault item.publisher = source.inputFaultState := by
              simp [delayLine, hpeer]
            refine (delayLine_modifyPeer hpeer (by intro _; rfl) router.delayQueue).trans ?_
            rw [hlink, ← hfault, Function.update_eq_self]
            rfl
          · rw [if_pos hlock, if_neg (mt hhears.mp hlock)]

end

/-! ## Operations -/

section

variable (router : VoiceRouter)

/-- A section that keeps the inputs and the link states of all peers. -/
theorem keeps_of_lookup {router next : VoiceRouter} {f : PeerId → PeerState → PeerState}
    (hlookup : ∀ peerId, next.peers.lookup peerId = (router.peers.lookup peerId).map (f peerId))
    (hinput : ∀ peerId peer, (f peerId peer).input = peer.input)
    (hlink : ∀ peerId peer, (f peerId peer).inputLinkState = peer.inputLinkState)
    (hconfig : next.faultConfig = router.faultConfig) (hexecutor : next.executor = router.executor)
    (hclosed : next.closed = router.closed) (hqueue : next.delayQueue = router.delayQueue) :
    router.delayLine.Keeps next.delayLine := by
  refine ⟨hconfig, hexecutor, hclosed, hqueue, fun peerId => ?_, fun peerId => ?_⟩
  · simp only [delayLine, inputOf]
    rw [hlookup]
    cases router.peers.lookup peerId with
    | none => rfl
    | some peer => exact hinput peerId peer
  · simp only [delayLine]
    rw [hlookup]
    cases router.peers.lookup peerId with
    | none => rfl
    | some peer => exact hlink peerId peer

theorem keeps_peerForLocked (peerId : PeerId) :
    router.delayLine.Keeps (router.peerForLocked peerId).delayLine := by
  have hrest : (router.peerForLocked peerId).faultConfig = router.faultConfig ∧
      (router.peerForLocked peerId).executor = router.executor ∧
      (router.peerForLocked peerId).closed = router.closed ∧
      (router.peerForLocked peerId).delayQueue = router.delayQueue := by
    unfold peerForLocked
    split <;> exact ⟨rfl, rfl, rfl, rfl⟩
  refine ⟨hrest.1, hrest.2.1, hrest.2.2.1, hrest.2.2.2, fun other => ?_, fun other => ?_⟩
  · exact inputOf_peerForLocked router peerId other
  · simp only [delayLine]
    rcases lookup_peerForLocked router peerId other with hsame | ⟨hnone, -, hnew⟩
    · rw [hsame]
    · rw [hnone, hnew]
      rfl

theorem keeps_sweepBound (owner : PeerId) (update : OutputSlot → OutputSlot) :
    router.delayLine.Keeps (router.sweepBound owner update).1.delayLine :=
  keeps_of_lookup (fun _ => Table.lookup_mapValues _ _ _) (fun _ _ => rfl) (fun _ _ => rfl)
    rfl rfl rfl rfl

theorem keeps_assignAvailableLocked (expired : Expiry) :
    router.delayLine.Keeps (router.assignAvailableLocked expired).1.delayLine :=
  keeps_of_lookup (fun _ => Table.lookup_mapValues _ _ _) (fun _ _ => rfl) (fun _ _ => rfl)
    rfl rfl rfl rfl

theorem keeps_placeFresh (owner : PeerId) (track : Track) (ssrc : UInt32) :
    router.delayLine.Keeps (router.placeFresh owner track ssrc).delayLine :=
  keeps_of_lookup (fun other => lookup_placeFresh router owner other track ssrc)
    (fun _ _ => by split <;> rfl) (fun _ _ => by split <;> rfl) rfl rfl rfl rfl

theorem keeps_storeRewriter (id : RewriterId) (state : RtpSlotRewriter) :
    router.delayLine.Keeps (router.storeRewriter id state).delayLine :=
  keeps_of_lookup (fun _ => Table.lookup_mapValues _ _ _) (fun _ _ => rfl) (fun _ _ => rfl)
    rfl rfl rfl rfl

theorem keeps_sendTurn (isRtcp : Bytes → Bool) (expired : TrackId → Bool) (isOpen : Bool)
    (send : Send) :
    router.delayLine.Keeps (router.sendTurn isRtcp expired isOpen send).1.delayLine := by
  unfold sendTurn
  split
  · exact DelayLine.Keeps.refl _
  · split
    · exact DelayLine.Keeps.refl _
    · exact keeps_storeRewriter router _ _

variable {router} in
theorem restarts_thenAssign {first : VoiceRouter × List BindingNotice}
    {stored : Option (PeerId × TrackId)}
    (h : router.delayLine.Restarts first.1.delayLine stored) (expired : Expiry) :
    router.delayLine.Restarts (thenAssign expired first).1.delayLine stored :=
  h.trans_keeps (keeps_assignAvailableLocked first.1 expired)

/-- Another track starts the source afresh. -/
theorem restarts_setInput (owner : PeerId) (track : Track) :
    router.delayLine.Restarts
      (router.modifyPeer owner (PeerState.setInput track (some owner))).delayLine
      (some (owner, track.id)) := by
  refine ⟨rfl, rfl, rfl, rfl, fun other => ?_⟩
  have hlookup := lookup_modifyPeer router owner other (PeerState.setInput track (some owner))
  simp only [delayLine, inputOf]
  rw [hlookup]
  cases hpeer : router.peers.lookup other with
  | none => exact Or.inl ⟨rfl, rfl⟩
  | some peer =>
      by_cases hother : other = owner
      · subst hother
        by_cases hchanged : peer.input = some track.id
        · refine Or.inl ⟨?_, ?_⟩ <;> simp [PeerState.setInput, hchanged]
        · refine Or.inr ⟨?_, ?_⟩
          · simp [PeerState.setInput, hchanged]
          · intro stored hstored
            have hsame : track.id = stored := by simpa [PeerState.setInput] using hstored
            subst hsame
            exact ⟨rfl, hchanged⟩
      · refine Or.inl ⟨?_, ?_⟩ <;> simp [hother]

theorem restarts_storeInput (owner : PeerId) (track : Track) :
    router.delayLine.Restarts (router.storeInput owner track).1.delayLine
      (some (owner, track.id)) := by
  have hstored := (keeps_peerForLocked router owner).trans_restarts
    (restarts_setInput (router.peerForLocked owner) owner track)
  unfold storeInput
  dsimp only
  split
  · exact hstored.trans_keeps (keeps_sweepBound _ owner OutputSlot.restart)
  · exact hstored

/-- A removed peer has neither an input nor a link state. -/
theorem restarts_erasePeer (peerId : PeerId) :
    router.delayLine.Restarts (router.erasePeer peerId).delayLine none := by
  refine ⟨rfl, rfl, rfl, rfl, fun other => ?_⟩
  simp only [delayLine, inputOf, erasePeer]
  by_cases hother : other = peerId
  · subst hother
    rw [AList.lookup_erase]
    exact Or.inr ⟨rfl, fun _ htrack => absurd htrack.symm (Option.some_ne_none _)⟩
  · rw [AList.lookup_erase_ne hother]
    exact Or.inl ⟨rfl, rfl⟩

theorem restarts_operate (seen : Expiry) (operation : Operation) :
    router.delayLine.Restarts (router.operate seen operation).1.delayLine operation.stores := by
  cases operation with
  | registerTrack owner track ssrc =>
      simp only [operate, registerTrack, Operation.stores]
      cases track with
      | none => exact (DelayLine.Keeps.refl _).restarts
      | some track =>
          dsimp only
          by_cases haudio : track.mediaType = some MediaType.audio
          · rw [if_pos haudio]
            cases hclosed : router.closed with
            | true =>
                split <;> simp only [registerInput, registerOutput, hclosed, if_true] <;>
                  exact (DelayLine.Keeps.refl _).restarts
            | false =>
                split
                case h_1 hdirection =>
                  rw [if_pos ⟨haudio, hdirection⟩, registerInput_eq hclosed]
                  exact restarts_thenAssign (restarts_storeInput router owner track) seen
                case h_2 =>
                  rw [registerOutput_eq hclosed]
                  exact restarts_thenAssign ((keeps_peerForLocked router owner).trans
                    (keeps_placeFresh _ owner track ssrc)).restarts seen
                case h_3 => exact (DelayLine.Keeps.refl _).restarts
          · rw [if_neg haudio]
            exact (DelayLine.Keeps.refl _).restarts
  | removePeer peerId =>
      simp only [operate, removePeer, Operation.stores]
      split
      · exact (DelayLine.Keeps.refl _).restarts
      · exact restarts_thenAssign ((restarts_erasePeer router peerId).trans_keeps
          (keeps_sweepBound _ peerId OutputSlot.release)) seen

end

/-- The sections of the voice router are those of its line. -/
theorem lineLaws (isRtcp : Bytes → Bool) (gaussian : ℚ → ℚ → ℚ) :
    (lineModel isRtcp gaussian).Laws isRtcp gaussian where
  initial router hinitial := by
    rcases hinitial with ⟨faultConfig, executor, rfl⟩
    exact ⟨rfl, rfl, fun _ => rfl⟩
  wrap _ _ := ⟨rfl, rfl⟩
  route expired arrival router := delayLine_route isRtcp gaussian router expired arrival
  flush now router := delayLine_flushDelayed router now
  forward expired item router := delayLine_forwardDelayed router expired item
  operate seen operation router := restarts_operate router seen operation
  resume _ rest _ := rest.elim
  sendTurn expired isOpen send router :=
    (keeps_sendTurn router isRtcp expired isOpen send).restarts

end VoiceRouter

end Sfu
end Driscord
