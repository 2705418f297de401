import Driscord.Sfu.ScreenHoldings
import Driscord.Sfu.ScreenSystem
import Driscord.Sfu.ScreenWatches
import Driscord.Signaling.Protocol

/-!
# The routers of a room

A room has a voice router and a screen router.  The server calls them after it has
released `rooms_mutex_`, and a call holds the publish lock of its router until the
end, so it is one step; registering an output of the screen router is both its
critical sections.

Main results:

- Theorem `Sound.call`: every call keeps the invariants of both routers.
- Theorem `knows_call` and theorem `not_knows_removePeer`: which peers a router can
  know after a call.
- Theorem `placed_call` and theorem `holdingsOf_call`: which tracks a router holds of
  a peer after a call.
-/

namespace Driscord
namespace Server

open Library Signaling Sfu

/-- `VoiceRouter` and `ScreenRouter` of a `WebSocketServer::Room`. -/
structure RoomRouters where
  voice : VoiceRouter := {}
  screen : ScreenRouter := {}

/-- The calls of the server to the routers of a room. -/
inductive RouterCall where
  | registerTrack (connection : ConnectionId) (owner : PeerId) (track : Track) (ssrc : UInt32)
  | setStreaming (peerId : PeerId) (streaming : Bool)
  | setWatching (peerId publisher : PeerId) (watching : Bool)
  | removePeer (connection : ConnectionId) (peerId : PeerId)
  | close (connection : ConnectionId)
deriving DecidableEq, Repr

/-- Where the router of a connection keeps a track, if it takes it. -/
def placeIn (connection : ConnectionId) (track : Track) : Option Place :=
  match connection with
  | ConnectionId.voice => VoiceRouter.placeOf track
  | ConnectionId.screen => track.place

/-- The peer for which a call looks with `peer_for_locked`, and in which router. -/
def RouterCall.asksFor : RouterCall → Option (ConnectionId × PeerId)
  | RouterCall.registerTrack connection owner track _ =>
      if (placeIn connection track).isSome then some (connection, owner) else none
  | RouterCall.setStreaming peerId _ => some (ConnectionId.screen, peerId)
  | RouterCall.setWatching peerId publisher _ =>
      if peerId = publisher then none else some (ConnectionId.screen, peerId)
  | RouterCall.removePeer _ _ => none
  | RouterCall.close _ => none

/-- A call concerns what a router holds of a peer if it registers a track of the peer,
removes it or closes the router. -/
def RouterCall.Concerns (routerCall : RouterCall) (peerId : PeerId)
    (connection : ConnectionId) : Prop :=
  (∃ track ssrc, routerCall = RouterCall.registerTrack connection peerId track ssrc) ∨
    routerCall = RouterCall.removePeer connection peerId ∨
      routerCall = RouterCall.close connection

namespace RoomRouters

/-- The routers of a new room. -/
def create (faultConfig : RtpFaultConfig) : RoomRouters where
  voice := { faultConfig := faultConfig, executor := true }
  screen := { faultConfig := faultConfig, executor := true }

/-- `ScreenRouter::register_track` with both its critical sections. -/
def registerScreenTrack (seen : Expiry) (router : ScreenRouter) (owner : PeerId)
    (track : Track) (ssrc : UInt32) : ScreenRouter :=
  let first := router.registerTrack seen owner (some track) ssrc (some owner)
  match first.2.2 with
  | none => first.1
  | some pending => (first.1.finishOutput seen pending).1

/-- Call a router. -/
def call (seen : Expiry) (routers : RoomRouters) : RouterCall → RoomRouters
  | RouterCall.registerTrack ConnectionId.voice owner track ssrc =>
      { routers with
        voice := (routers.voice.registerTrack seen owner (some track) ssrc (some owner)).1 }
  | RouterCall.registerTrack ConnectionId.screen owner track ssrc =>
      { routers with screen := registerScreenTrack seen routers.screen owner track ssrc }
  | RouterCall.setStreaming peerId streaming =>
      { routers with screen := (routers.screen.setStreaming seen peerId streaming).1 }
  | RouterCall.setWatching peerId publisher watching =>
      { routers with
        screen := (routers.screen.setWatching seen peerId publisher watching).1 }
  | RouterCall.removePeer ConnectionId.voice peerId =>
      { routers with voice := (routers.voice.removePeer seen peerId).1 }
  | RouterCall.removePeer ConnectionId.screen peerId =>
      { routers with screen := (routers.screen.removePeer seen peerId).1 }
  | RouterCall.close ConnectionId.voice => { routers with voice := routers.voice.close }
  | RouterCall.close ConnectionId.screen => { routers with screen := routers.screen.close }

/-- The router of a connection has been closed. -/
def closed (routers : RoomRouters) : ConnectionId → Bool
  | ConnectionId.voice => routers.voice.closed
  | ConnectionId.screen => routers.screen.closed

/-- The router of a connection has a state of the peer, a slot bound to it or a watch
of it. -/
def Knows (routers : RoomRouters) (peerId : PeerId) : ConnectionId → Prop
  | ConnectionId.voice =>
      peerId ∈ routers.voice.peers ∨ ∃ subscriber, peerId ∈ routers.voice.publishersOf subscriber
  | ConnectionId.screen =>
      peerId ∈ routers.screen.peers ∨
        (∃ subscriber, peerId ∈ routers.screen.publishersOf subscriber) ∨
          ∃ subscriber, peerId ∈ routers.screen.watchedOf subscriber

/-- What the router of a connection holds of a peer. -/
def holdingsOf (routers : RoomRouters) (peerId : PeerId) : ConnectionId → Holdings
  | ConnectionId.voice => routers.voice.holdingsOf peerId
  | ConnectionId.screen => routers.screen.holdingsOf peerId

/-- The invariants of both routers; a closed voice router is empty, and the mids of
the screen router's outputs are distinct. -/
structure Sound (routers : RoomRouters) : Prop where
  voice : routers.voice.Inv
  screen : routers.screen.Inv
  emptied : routers.voice.closed = true → ∀ peerId, peerId ∉ routers.voice.peers
  distinct : ∀ peerId, (routers.screen.holdingsOf peerId).Distinct

theorem sound_create (faultConfig : RtpFaultConfig) : (create faultConfig).Sound where
  voice := VoiceRouter.inv_initial faultConfig true
  screen := ScreenRouter.inv_initial faultConfig true
  emptied h := by simp [create] at h
  distinct _ := fun _ => List.nodup_nil

/-! ## Calls keep the invariants -/

section

variable {router : ScreenRouter}

/-- What both sections keep is kept by `register_track`. -/
theorem registerScreenTrack_cases (seen : Expiry) (router : ScreenRouter) (owner : PeerId)
    (track : Track) (ssrc : UInt32) :
    (registerScreenTrack seen router owner track ssrc =
        (router.registerTrack seen owner (some track) ssrc (some owner)).1) ∨
      ∃ pending, registerScreenTrack seen router owner track ssrc =
        ((router.registerTrack seen owner (some track) ssrc (some owner)).1.finishOutput
          seen pending).1 := by
  unfold registerScreenTrack
  dsimp only
  split
  · exact Or.inl rfl
  · rename_i pending _
    exact Or.inr ⟨pending, rfl⟩

theorem inv_registerScreenTrack (h : router.Inv) (seen : Expiry) (owner : PeerId)
    (track : Track) (ssrc : UInt32) :
    (registerScreenTrack seen router owner track ssrc).Inv := by
  have hfirst := (ScreenRouter.progress_registerTrack router seen owner (some track) ssrc).inv h
  rcases registerScreenTrack_cases seen router owner track ssrc with heq | ⟨pending, heq⟩
  · rw [heq]
    exact hfirst
  · rw [heq]
    exact (ScreenRouter.progress_finishOutput _ seen pending).inv hfirst

theorem holdingsOf_registerScreenTrack (seen : Expiry) (router : ScreenRouter)
    (owner : PeerId) (track : Track) (ssrc : UInt32) (peerId : PeerId) :
    (registerScreenTrack seen router owner track ssrc).holdingsOf peerId =
      (router.registerTrack seen owner (some track) ssrc (some owner)).1.holdingsOf peerId := by
  rcases registerScreenTrack_cases seen router owner track ssrc with heq | ⟨pending, heq⟩
  · rw [heq]
  · rw [heq, ScreenRouter.holdingsOf_finishOutput]

theorem mem_registerScreenTrack {seen : Expiry} {owner peerId : PeerId} {track : Track}
    {ssrc : UInt32}
    (h : peerId ∈ (registerScreenTrack seen router owner track ssrc).peers) :
    peerId ∈ router.peers ∨ peerId = owner := by
  rcases registerScreenTrack_cases seen router owner track ssrc with heq | ⟨pending, heq⟩
  · rw [heq] at h
    exact ScreenRouter.mem_registerTrack h
  · rw [heq] at h
    exact ScreenRouter.mem_registerTrack (ScreenRouter.mem_finishOutput h)

theorem watchedOf_registerScreenTrack (seen : Expiry) (router : ScreenRouter)
    (owner : PeerId) (track : Track) (ssrc : UInt32) (peerId : PeerId) :
    (registerScreenTrack seen router owner track ssrc).watchedOf peerId =
      router.watchedOf peerId := by
  rcases registerScreenTrack_cases seen router owner track ssrc with heq | ⟨pending, heq⟩
  · rw [heq, ScreenRouter.watchedOf_registerTrack]
  · rw [heq, ScreenRouter.watchedOf_finishOutput, ScreenRouter.watchedOf_registerTrack]

theorem registerScreenTrack_of_place_eq_none (seen : Expiry) (router : ScreenRouter)
    (owner : PeerId) {track : Track} (ssrc : UInt32) (hplace : track.place = none) :
    registerScreenTrack seen router owner track ssrc = router := by
  rw [registerScreenTrack, ScreenRouter.registerTrack_of_place_eq_none seen owner ssrc hplace]

end

/-! ## Routers stay open -/

theorem closed_voice_peerForLocked (router : VoiceRouter) (peerId : PeerId) :
    (router.peerForLocked peerId).closed = router.closed := by
  unfold VoiceRouter.peerForLocked
  split <;> rfl

theorem closed_voice_registerTrack (router : VoiceRouter) (seen : Expiry) (owner : PeerId)
    (track : Track) (ssrc : UInt32) :
    (router.registerTrack seen owner (some track) ssrc (some owner)).1.closed =
      router.closed := by
  rcases VoiceRouter.registerTrack_cases router seen owner (some track) ssrc with
    heq | ⟨input, heq⟩ | ⟨output, heq⟩
  · rw [heq]
  · rw [heq, ← closed_voice_peerForLocked router owner]
    unfold VoiceRouter.storeInput
    dsimp only
    split <;> rfl
  · rw [heq, ← closed_voice_peerForLocked router owner]
    rfl

theorem closed_voice_removePeer (router : VoiceRouter) (seen : Expiry) (peerId : PeerId) :
    (router.removePeer seen peerId).1.closed = router.closed := by
  unfold VoiceRouter.removePeer
  split <;> rfl

section

variable (router : ScreenRouter) (seen : Expiry)

theorem closed_registerScreenTrack (owner : PeerId) (track : Track) (ssrc : UInt32) :
    (registerScreenTrack seen router owner track ssrc).closed = router.closed := by
  have hfirst : (router.registerTrack seen owner (some track) ssrc (some owner)).1.closed =
      router.closed := by
    rcases ScreenRouter.registerTrack_cases router seen owner (some track) ssrc with
      heq | ⟨_, input, mediaType, _, rfl, heq⟩ | ⟨_, output, mediaType, heq⟩
    · rw [heq]
    · rw [heq, ← ScreenRouter.closed_peerForLocked router owner]
      unfold ScreenRouter.storeInput
      dsimp only
      split <;> rfl
    · rw [heq, ← ScreenRouter.closed_peerForLocked router owner]
      rfl
  rcases registerScreenTrack_cases seen router owner track ssrc with heq | ⟨pending, heq⟩
  · rw [heq, hfirst]
  · rw [heq, ← hfirst]
    rcases ScreenRouter.finishOutput_cases
      (router.registerTrack seen owner (some track) ssrc (some owner)).1 seen pending with
      ⟨hsame, _⟩ | hsame
    · rw [hsame]
    · rw [hsame]
      rfl

theorem closed_setStreaming (peerId : PeerId) (streaming : Bool) :
    (router.setStreaming seen peerId streaming).1.closed = router.closed := by
  rcases ScreenRouter.setStreaming_cases router seen peerId streaming with
    heq | ⟨_, heq | heq⟩
  · rw [heq]
  · rw [heq, ScreenRouter.closed_peerForLocked]
  · rw [heq, ← ScreenRouter.closed_peerForLocked router peerId]
    unfold ScreenRouter.storeStreaming
    dsimp only
    split <;> rfl

theorem closed_setWatching (peerId publisher : PeerId) (watching : Bool) :
    (router.setWatching seen peerId publisher watching).1.closed = router.closed := by
  rcases ScreenRouter.setWatching_cases router seen peerId publisher watching with
    heq | ⟨_, heq | heq | heq⟩
  · rw [heq]
  · rw [heq, ScreenRouter.closed_peerForLocked]
  · rw [heq, ← ScreenRouter.closed_peerForLocked router peerId]
    rfl
  · rw [heq, ← ScreenRouter.closed_peerForLocked router peerId]
    rfl

theorem closed_screen_removePeer (peerId : PeerId) :
    (router.removePeer seen peerId).1.closed = router.closed := by
  unfold ScreenRouter.removePeer
  split <;> rfl

end

/-- Only closing a router closes it. -/
theorem closed_call (routers : RoomRouters) (seen : Expiry) {routerCall : RouterCall}
    {connection : ConnectionId} (hne : routerCall ≠ RouterCall.close connection) :
    (routers.call seen routerCall).closed connection = routers.closed connection := by
  cases routerCall with
  | registerTrack registered owner track ssrc =>
      cases registered with
      | voice =>
          cases connection with
          | voice => exact closed_voice_registerTrack routers.voice seen owner track ssrc
          | screen => rfl
      | screen =>
          cases connection with
          | voice => rfl
          | screen => exact closed_registerScreenTrack routers.screen seen owner track ssrc
  | setStreaming peerId streaming =>
      cases connection with
      | voice => rfl
      | screen => exact closed_setStreaming routers.screen seen peerId streaming
  | setWatching peerId publisher watching =>
      cases connection with
      | voice => rfl
      | screen => exact closed_setWatching routers.screen seen peerId publisher watching
  | removePeer removed peerId =>
      cases removed with
      | voice =>
          cases connection with
          | voice => exact closed_voice_removePeer routers.voice seen peerId
          | screen => rfl
      | screen =>
          cases connection with
          | voice => rfl
          | screen => exact closed_screen_removePeer routers.screen seen peerId
  | close closing =>
      cases closing with
      | voice =>
          cases connection with
          | voice => exact absurd rfl hne
          | screen => rfl
      | screen =>
          cases connection with
          | voice => rfl
          | screen => exact absurd rfl hne

/-! ## Soundness -/

/-- Registering with a closed voice router does nothing. -/
theorem registerTrack_of_closed {router : VoiceRouter} (hclosed : router.closed = true)
    (seen : Expiry) (owner : PeerId) (track : Track) (ssrc : UInt32) :
    router.registerTrack seen owner (some track) ssrc (some owner) = (router, []) := by
  unfold VoiceRouter.registerTrack
  dsimp only
  split
  · split <;> simp [VoiceRouter.registerInput, VoiceRouter.registerOutput, hclosed]
  · rfl

section

variable {routers : RoomRouters} (h : routers.Sound)
include h

theorem Sound.withScreen {screen : ScreenRouter} (hinv : screen.Inv)
    (hdistinct : ∀ peerId, (screen.holdingsOf peerId).Distinct) :
    ({ routers with screen := screen } : RoomRouters).Sound :=
  ⟨h.voice, hinv, h.emptied, hdistinct⟩

theorem Sound.registerVoiceTrack (seen : Expiry) (owner : PeerId) (track : Track)
    (ssrc : UInt32) :
    (routers.call seen
      (RouterCall.registerTrack ConnectionId.voice owner track ssrc)).Sound := by
  refine ⟨?_, h.screen, ?_, h.distinct⟩
  · exact (VoiceRouter.progress_registerTrack routers.voice seen owner (some track)
      ssrc).inv h.voice
  · intro hclosed
    rw [RoomRouters.call, closed_voice_registerTrack] at hclosed
    rw [RoomRouters.call, registerTrack_of_closed hclosed]
    exact h.emptied hclosed

theorem Sound.registerScreenTrack (seen : Expiry) (owner : PeerId) (track : Track)
    (ssrc : UInt32) :
    (routers.call seen
      (RouterCall.registerTrack ConnectionId.screen owner track ssrc)).Sound := by
  refine h.withScreen (inv_registerScreenTrack h.screen seen owner track ssrc) ?_
  intro peerId
  rw [holdingsOf_registerScreenTrack]
  exact ScreenRouter.distinct_registerTrack h.distinct seen owner track ssrc peerId

theorem Sound.removeVoicePeer (seen : Expiry) (peerId : PeerId) :
    (routers.call seen (RouterCall.removePeer ConnectionId.voice peerId)).Sound := by
  refine ⟨?_, h.screen, ?_, h.distinct⟩
  · exact (VoiceRouter.progress_removePeer routers.voice seen peerId).inv h.voice
  · intro hclosed other hmem
    rw [RoomRouters.call, closed_voice_removePeer] at hclosed
    exact h.emptied hclosed other (VoiceRouter.mem_removePeer hmem).1

theorem Sound.removeScreenPeer (seen : Expiry) (peerId : PeerId) :
    (routers.call seen (RouterCall.removePeer ConnectionId.screen peerId)).Sound := by
  have hinv := (ScreenRouter.progress_removePeer routers.screen seen peerId).inv h.screen
  refine h.withScreen hinv ?_
  intro other
  by_cases hmem : other ∈ (routers.screen.removePeer seen peerId).1.peers
  · by_cases hsame : other = peerId
    · subst hsame
      cases hclosed : routers.screen.closed with
      | true => exact absurd (ScreenRouter.mem_removePeer hmem).1 (h.screen.closed hclosed other)
      | false => exact absurd rfl ((ScreenRouter.mem_removePeer hmem).2 hclosed)
    · rw [ScreenRouter.holdingsOf_removePeer_ne _ seen hsame]
      exact h.distinct other
  · rw [ScreenRouter.holdingsOf_of_notMem hmem]
    exact Holdings.distinct_none

theorem Sound.closeVoice (seen : Expiry) :
    (routers.call seen (RouterCall.close ConnectionId.voice)).Sound := by
  refine ⟨(VoiceRouter.progress_close routers.voice).inv h.voice, h.screen, ?_, h.distinct⟩
  intro _ peerId
  rw [RoomRouters.call, VoiceRouter.close]
  split
  · rename_i hclosed
    exact h.emptied hclosed peerId
  · exact AList.notMem_empty peerId

theorem Sound.closeScreen (seen : Expiry) :
    (routers.call seen (RouterCall.close ConnectionId.screen)).Sound := by
  refine h.withScreen ((ScreenRouter.progress_close routers.screen).inv h.screen) ?_
  intro peerId
  rw [ScreenRouter.close]
  split
  · exact h.distinct peerId
  · exact Holdings.distinct_none

/-- Every call keeps the invariants of both routers. -/
theorem Sound.call (seen : Expiry) (routerCall : RouterCall) :
    (routers.call seen routerCall).Sound := by
  cases routerCall with
  | registerTrack connection owner track ssrc =>
      cases connection with
      | voice => exact h.registerVoiceTrack seen owner track ssrc
      | screen => exact h.registerScreenTrack seen owner track ssrc
  | setStreaming peerId streaming =>
      refine h.withScreen
        ((ScreenRouter.progress_setStreaming routers.screen seen peerId streaming).inv
          h.screen) fun other => ?_
      rw [ScreenRouter.holdingsOf_setStreaming]
      exact h.distinct other
  | setWatching peerId publisher watching =>
      refine h.withScreen
        ((ScreenRouter.progress_setWatching routers.screen seen peerId publisher
          watching).inv h.screen) fun other => ?_
      rw [ScreenRouter.holdingsOf_setWatching]
      exact h.distinct other
  | removePeer connection peerId =>
      cases connection with
      | voice => exact h.removeVoicePeer seen peerId
      | screen => exact h.removeScreenPeer seen peerId
  | close connection =>
      cases connection with
      | voice => exact h.closeVoice seen
      | screen => exact h.closeScreen seen

end

/-! ## Which peers a router knows -/

/-- A slot is bound to a peer that the voice router has a state of. -/
theorem Sound.knows_voice_iff {routers : RoomRouters} (h : routers.Sound) {peerId : PeerId} :
    routers.Knows peerId ConnectionId.voice ↔ peerId ∈ routers.voice.peers := by
  constructor
  · rintro (hmem | ⟨subscriber, hbound⟩)
    · exact hmem
    · exact VoiceRouter.mem_of_inputOf (h.voice.bound subscriber peerId hbound).2
  · exact Or.inl

/-- A pair is bound to a peer that streams, so the screen router has a state of it. -/
theorem Sound.knows_screen_iff {routers : RoomRouters} (h : routers.Sound) {peerId : PeerId} :
    routers.Knows peerId ConnectionId.screen ↔
      peerId ∈ routers.screen.peers ∨
        ∃ subscriber, peerId ∈ routers.screen.watchedOf subscriber := by
  constructor
  · rintro (hmem | ⟨subscriber, hbound⟩ | hwatched)
    · exact Or.inl hmem
    · rcases ScreenRouter.mem_publishersOf.mp hbound with ⟨pair, hpair, hpublisher⟩
      have hok := h.screen.bound subscriber pair hpair peerId hpublisher
      exact Or.inl (ScreenRouter.mem_of_streamingOf hok.streaming)
    · exact Or.inr hwatched
  · rintro (hmem | hwatched)
    · exact Or.inl hmem
    · exact Or.inr (Or.inr hwatched)

/-- The voice router gets a state only of the peer that a call looks for. -/
theorem mem_voice_call {routers : RoomRouters} {seen : Expiry} {routerCall : RouterCall}
    {peerId : PeerId} (h : peerId ∈ (routers.call seen routerCall).voice.peers) :
    peerId ∈ routers.voice.peers ∨
      routerCall.asksFor = some (ConnectionId.voice, peerId) := by
  cases routerCall with
  | registerTrack connection owner track ssrc =>
      cases connection with
      | voice =>
          cases hplace : VoiceRouter.placeOf track with
          | none =>
              rw [call, VoiceRouter.registerTrack_of_placeOf_eq_none seen owner ssrc hplace] at h
              exact Or.inl h
          | some place =>
              rcases VoiceRouter.mem_registerTrack h with hmem | rfl
              · exact Or.inl hmem
              · exact Or.inr (by simp [RouterCall.asksFor, placeIn, hplace])
      | screen => exact Or.inl h
  | setStreaming _ _ => exact Or.inl h
  | setWatching _ _ _ => exact Or.inl h
  | removePeer connection removed =>
      cases connection with
      | voice => exact Or.inl (VoiceRouter.mem_removePeer h).1
      | screen => exact Or.inl h
  | close connection =>
      cases connection with
      | voice =>
          rw [call, VoiceRouter.close] at h
          split at h
          · exact Or.inl h
          · exact absurd h (AList.notMem_empty peerId)
      | screen => exact Or.inl h

/-- The screen router gets a state only of the peer that a call looks for. -/
theorem mem_screen_call {routers : RoomRouters} {seen : Expiry} {routerCall : RouterCall}
    {peerId : PeerId} (h : peerId ∈ (routers.call seen routerCall).screen.peers) :
    peerId ∈ routers.screen.peers ∨
      routerCall.asksFor = some (ConnectionId.screen, peerId) := by
  cases routerCall with
  | registerTrack connection owner track ssrc =>
      cases connection with
      | voice => exact Or.inl h
      | screen =>
          cases hplace : track.place with
          | none =>
              rw [call, registerScreenTrack_of_place_eq_none seen _ owner ssrc hplace] at h
              exact Or.inl h
          | some place =>
              rcases mem_registerScreenTrack h with hmem | rfl
              · exact Or.inl hmem
              · exact Or.inr (by simp [RouterCall.asksFor, placeIn, hplace])
  | setStreaming other _ =>
      rcases ScreenRouter.mem_setStreaming h with hmem | rfl
      · exact Or.inl hmem
      · exact Or.inr rfl
  | setWatching other publisher _ =>
      by_cases hself : other = publisher
      · rw [call, ScreenRouter.setWatching, if_pos hself] at h
        exact Or.inl h
      · rcases ScreenRouter.mem_setWatching h with hmem | rfl
        · exact Or.inl hmem
        · exact Or.inr (by rw [RouterCall.asksFor, if_neg hself])
  | removePeer connection removed =>
      cases connection with
      | voice => exact Or.inl h
      | screen => exact Or.inl (ScreenRouter.mem_removePeer h).1
  | close connection =>
      cases connection with
      | voice => exact Or.inl h
      | screen =>
          rw [call, ScreenRouter.close] at h
          split at h
          · exact Or.inl h
          · exact absurd h (AList.notMem_empty peerId)

/-- A peer is watched afterwards if it was before, or if the call asks to watch it. -/
theorem watched_call {routers : RoomRouters} {seen : Expiry} {routerCall : RouterCall}
    {subscriber peerId : PeerId}
    (h : peerId ∈ (routers.call seen routerCall).screen.watchedOf subscriber) :
    peerId ∈ routers.screen.watchedOf subscriber ∨
      routerCall = RouterCall.setWatching subscriber peerId true := by
  cases routerCall with
  | registerTrack connection owner track ssrc =>
      cases connection with
      | voice => exact Or.inl h
      | screen =>
          rw [call, watchedOf_registerScreenTrack] at h
          exact Or.inl h
  | setStreaming other _ =>
      rw [call, ScreenRouter.watchedOf_setStreaming] at h
      exact Or.inl h
  | setWatching watcher publisher watching =>
      by_cases hself : watcher = publisher
      · rw [call, ScreenRouter.setWatching, if_pos hself] at h
        exact Or.inl h
      · cases hclosed : routers.screen.closed with
        | true =>
            simp only [call, ScreenRouter.setWatching, if_neg hself, hclosed, if_true] at h
            exact Or.inl h
        | false =>
            rw [call, ScreenRouter.mem_watchedOf_setWatching hclosed hself] at h
            split at h
            · rename_i hsame
              rw [hsame.1, hsame.2, h]
              exact Or.inr rfl
            · exact Or.inl h
  | removePeer connection removed =>
      cases connection with
      | voice => exact Or.inl h
      | screen =>
          cases hclosed : routers.screen.closed with
          | true =>
              simp only [call, ScreenRouter.removePeer, hclosed, if_true] at h
              exact Or.inl h
          | false =>
              rw [call, ScreenRouter.mem_watchedOf_removePeer hclosed] at h
              exact Or.inl h.1
  | close connection =>
      cases connection with
      | voice => exact Or.inl h
      | screen =>
          rw [call, ScreenRouter.close] at h
          split at h
          · exact Or.inl h
          · exact absurd h (AList.notMem_empty peerId)

/-- After a call a router knows the peers that it knew, the one that the call looks for
and the one that it is asked to watch. -/
theorem knows_call {routers : RoomRouters} (h : routers.Sound) {seen : Expiry}
    {routerCall : RouterCall} {peerId : PeerId} {connection : ConnectionId}
    (hknows : (routers.call seen routerCall).Knows peerId connection) :
    routers.Knows peerId connection ∨ routerCall.asksFor = some (connection, peerId) ∨
      connection = ConnectionId.screen ∧
        ∃ watcher, routerCall = RouterCall.setWatching watcher peerId true := by
  have hsound := h.call seen routerCall
  cases connection with
  | voice =>
      rw [hsound.knows_voice_iff] at hknows
      rcases mem_voice_call hknows with hmem | hasks
      · exact Or.inl (Or.inl hmem)
      · exact Or.inr (Or.inl hasks)
  | screen =>
      rcases hsound.knows_screen_iff.mp hknows with hmem | ⟨subscriber, hwatched⟩
      · rcases mem_screen_call hmem with hmem | hasks
        · exact Or.inl (Or.inl hmem)
        · exact Or.inr (Or.inl hasks)
      · rcases watched_call hwatched with hwatched | hasked
        · exact Or.inl (Or.inr (Or.inr ⟨subscriber, hwatched⟩))
        · exact Or.inr (Or.inr ⟨rfl, subscriber, hasked⟩)

/-- A removed peer is not known any more. -/
theorem not_knows_removePeer {routers : RoomRouters} (h : routers.Sound) (seen : Expiry)
    (connection : ConnectionId) (peerId : PeerId) :
    ¬ (routers.call seen (RouterCall.removePeer connection peerId)).Knows peerId connection := by
  have hsound := h.call seen (RouterCall.removePeer connection peerId)
  intro hknows
  cases connection with
  | voice =>
      have hmem := VoiceRouter.mem_removePeer (hsound.knows_voice_iff.mp hknows)
      cases hclosed : routers.voice.closed with
      | true => exact h.emptied hclosed peerId hmem.1
      | false => exact hmem.2 hclosed rfl
  | screen =>
      cases hclosed : routers.screen.closed with
      | true =>
          have hsame : routers.call seen (RouterCall.removePeer ConnectionId.screen peerId) =
              routers := by
            simp only [call, ScreenRouter.removePeer, hclosed, if_true]
          rw [hsame] at hknows
          rcases h.knows_screen_iff.mp hknows with hmem | ⟨subscriber, hwatched⟩
          · exact h.screen.closed hclosed peerId hmem
          · exact h.screen.closed hclosed subscriber
              (ScreenRouter.mem_peers_of_mem_watchedOf hwatched)
      | false =>
          rcases hsound.knows_screen_iff.mp hknows with hmem | ⟨subscriber, hwatched⟩
          · exact (ScreenRouter.mem_removePeer hmem).2 hclosed rfl
          · exact ((ScreenRouter.mem_watchedOf_removePeer hclosed seen).mp hwatched).2.2 rfl

/-! ## Which tracks a router holds -/

theorem Sound.distinct_holdingsOf {routers : RoomRouters} (h : routers.Sound)
    (peerId : PeerId) (connection : ConnectionId) :
    (routers.holdingsOf peerId connection).Distinct := by
  cases connection with
  | voice => exact VoiceRouter.distinct_holdingsOf h.voice peerId
  | screen => exact h.distinct peerId

/-- An open router writes a track with a place there. -/
theorem placed_call {routers : RoomRouters} {connection : ConnectionId}
    (hopen : routers.closed connection = false) (seen : Expiry) (owner : PeerId)
    {track : Track} (ssrc : UInt32) {place : Place}
    (hplace : placeIn connection track = some place) :
    Holdings.Placed track.id (routers.holdingsOf owner connection)
      ((routers.call seen
        (RouterCall.registerTrack connection owner track ssrc)).holdingsOf owner connection)
      place := by
  cases connection with
  | voice => exact VoiceRouter.placed_registerTrack hopen seen owner ssrc hplace
  | screen =>
      rw [holdingsOf, call, holdingsOf, holdingsOf_registerScreenTrack]
      exact ScreenRouter.placed_registerTrack hopen seen owner ssrc hplace

/-- A router ignores a track without a place. -/
theorem call_of_placeIn_eq_none (routers : RoomRouters) (seen : Expiry)
    {connection : ConnectionId} (owner : PeerId) {track : Track} (ssrc : UInt32)
    (hplace : placeIn connection track = none) :
    routers.call seen (RouterCall.registerTrack connection owner track ssrc) = routers := by
  cases connection with
  | voice => rw [call, VoiceRouter.registerTrack_of_placeOf_eq_none seen owner ssrc hplace]
  | screen => rw [call, registerScreenTrack_of_place_eq_none seen _ owner ssrc hplace]

/-- Any other call leaves what the router holds of the peer as it is. -/
theorem holdingsOf_call (routers : RoomRouters) (seen : Expiry) {routerCall : RouterCall}
    {peerId : PeerId} {connection : ConnectionId}
    (hother : ¬ routerCall.Concerns peerId connection) :
    (routers.call seen routerCall).holdingsOf peerId connection =
      routers.holdingsOf peerId connection := by
  cases routerCall with
  | registerTrack registered owner track ssrc =>
      have hne : registered = connection → peerId ≠ owner := by
        rintro rfl rfl
        exact hother (Or.inl ⟨track, ssrc, rfl⟩)
      cases registered with
      | voice =>
          cases connection with
          | voice => exact VoiceRouter.holdingsOf_registerTrack_ne _ seen (hne rfl) _ ssrc
          | screen => rfl
      | screen =>
          cases connection with
          | voice => rfl
          | screen =>
              rw [holdingsOf, call, holdingsOf_registerScreenTrack]
              exact ScreenRouter.holdingsOf_registerTrack_ne _ seen (hne rfl) _ ssrc
  | setStreaming other streaming =>
      cases connection with
      | voice => rfl
      | screen => exact ScreenRouter.holdingsOf_setStreaming _ seen other peerId streaming
  | setWatching other publisher watching =>
      cases connection with
      | voice => rfl
      | screen =>
          exact ScreenRouter.holdingsOf_setWatching _ seen other publisher peerId watching
  | removePeer removed other =>
      have hne : removed = connection → peerId ≠ other := by
        rintro rfl rfl
        exact hother (Or.inr (Or.inl rfl))
      cases removed with
      | voice =>
          cases connection with
          | voice => exact VoiceRouter.holdingsOf_removePeer_ne _ seen (hne rfl)
          | screen => rfl
      | screen =>
          cases connection with
          | voice => rfl
          | screen => exact ScreenRouter.holdingsOf_removePeer_ne _ seen (hne rfl)
  | close closing =>
      cases closing with
      | voice =>
          cases connection with
          | voice => exact absurd (Or.inr (Or.inr rfl)) hother
          | screen => rfl
      | screen =>
          cases connection with
          | voice => rfl
          | screen => exact absurd (Or.inr (Or.inr rfl)) hother

end RoomRouters

end Server
end Driscord
