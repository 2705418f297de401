import Driscord.Sfu.ScreenNotices

/-!
# Service of the screen router

After the assignment pass every live streaming publisher that a subscriber
watches has exactly one of its pairs, or all its ready live pairs are taken by
other publishers.  `register_output` leaves its pass to its second section,
which runs it unless the owner has gone.

Main results:

- Theorem `keeps_bindings`: the pass changes no existing binding.
- Theorem `served_assignAvailableLocked`: what the pass establishes.
- Theorem `serviceLaws`: it holds after every operation.
-/

namespace Driscord
namespace Sfu

open Library

namespace Screen

/-- Both tracks of the pair are ready and live. -/
def OutputPair.live (expired : TrackId → Bool) (pair : OutputPair) : Bool :=
  outputLive expired pair.video && outputLive expired pair.audio

theorem OutputPair.available_eq (expired : TrackId → Bool) (pair : OutputPair) :
    pair.available expired = (pair.publisher.isNone && pair.live expired) := by
  rw [OutputPair.available, OutputPair.live, Bool.and_assoc]

theorem outputLive_mono {expired expired' : TrackId → Bool} {output : Option OutputTrack}
    (hmono : ∀ id, expired id = true → expired' id = true)
    (h : outputLive expired' output = true) : outputLive expired output = true := by
  rcases outputLive_eq_true.mp h with ⟨track, houtput, hready, hlive⟩
  exact outputLive_eq_true.mpr ⟨track, houtput, hready, trackExpired_mono hmono hlive⟩

theorem OutputPair.live_mono {expired expired' : TrackId → Bool} {pair : OutputPair}
    (hmono : ∀ id, expired id = true → expired' id = true)
    (h : pair.live expired' = true) : pair.live expired = true := by
  rw [OutputPair.live, Bool.and_eq_true] at h ⊢
  exact ⟨outputLive_mono hmono h.1, outputLive_mono hmono h.2⟩

theorem OutputPair.live_of_seat_eq {pair pair' : OutputPair} (h : pair'.seat = pair.seat)
    (expired : TrackId → Bool) : pair'.live expired = pair.live expired := by
  simp only [OutputPair.seat, Prod.mk.injEq] at h
  simp only [OutputPair.live, outputLive_eq_seat, h.2.1, h.2.2]

end Screen

namespace ScreenRouter

open Screen

/-- For every subscriber and every other live streaming publisher that it
watches: exactly one pair of the subscriber is bound to the publisher, or every
ready live pair of the subscriber is bound to some other publisher. -/
def ServedAt (expired : TrackId → Bool) (router : ScreenRouter) : Prop :=
  ∀ subscriber publisher, publisher ≠ subscriber → router.streamingOf publisher = true →
    publisher ∈ router.watchedOf subscriber →
    trackExpired expired (router.videoOf publisher) = false →
      (router.pairsOf subscriber).countP (fun pair => pair.publisher = some publisher) = 1 ∨
        ∀ pair ∈ router.pairsOf subscriber, pair.live expired = true →
          ∃ other, other ≠ publisher ∧ pair.publisher = some other

/-- The pass leaves a bound pair as it is. -/
theorem keeps_bindings (router : ScreenRouter) (expired : Expiry) (subscriber : PeerId) :
    List.Forall₂ (fun pair pair' => pair.publisher ≠ none → pair' = pair)
      (router.pairsOf subscriber)
      ((router.assignAvailableLocked expired).1.pairsOf subscriber) := by
  refine (served_pairsOf router expired subscriber).imp ?_
  rintro pair pair' (rfl | ⟨_, _, _, havailable, _⟩) hbound
  · rfl
  · simp only [OutputPair.available_eq, Bool.and_eq_true, Option.isNone_iff_eq_none]
      at havailable
    exact absurd havailable.1 hbound

/-- A publisher that is bound before the pass is bound after it. -/
theorem publishersOf_subset_assign (router : ScreenRouter) (expired : Expiry)
    (subscriber : PeerId) :
    router.publishersOf subscriber ⊆
      (router.assignAvailableLocked expired).1.publishersOf subscriber := by
  intro publisher hpublisher
  rcases mem_publishersOf.mp hpublisher with ⟨pair, hpair, hbound⟩
  rcases forall₂_mem_left (keeps_bindings router expired subscriber) hpair with
    ⟨pair', hpair', hkept⟩
  have hsame := hkept (by rw [hbound]; exact Option.some_ne_none _)
  subst hsame
  exact mem_publishersOf.mpr ⟨_, hpair', hbound⟩

/-- Among distinct publishers a bound one has exactly one pair. -/
theorem countP_eq_one {pairs : List OutputPair} {publisher : PeerId}
    (hdistinct : (pairs.filterMap OutputPair.publisher).Nodup)
    (hmem : publisher ∈ pairs.filterMap OutputPair.publisher) :
    pairs.countP (fun pair => pair.publisher = some publisher) = 1 := by
  have hcount := List.count_eq_one_of_mem hdistinct hmem
  rw [List.count_filterMap] at hcount
  rw [← hcount]
  refine List.countP_congr fun pair _ => ?_
  simp

theorem served_assignAvailableLocked {router : ScreenRouter} (h : router.Inv)
    (expired : TrackId → Bool) :
    ServedAt expired (router.assignAvailableLocked fun _ _ => expired).1 := by
  intro subscriber publisher hne hstreaming hwatched hlive
  have hinv := (progress_assignAvailableLocked router fun _ _ => expired).inv h
  by_cases hbound : publisher ∈
      (router.assignAvailableLocked fun _ _ => expired).1.publishersOf subscriber
  · exact Or.inl (countP_eq_one (hinv.distinct subscriber) hbound)
  · refine Or.inr ?_
    rw [streamingOf_assignAvailableLocked] at hstreaming
    rw [videoOf_assignAvailableLocked] at hlive
    rw [watchedOf_assignAvailableLocked] at hwatched
    intro pair hpair hpairLive
    have hmem : subscriber ∈ router.peers := by simpa using mem_of_mem_pairsOf hpair
    rcases Table.mem_iff_exists_lookup.mp hmem with ⟨peer, hpeer⟩
    rw [watchedOf_of_lookup hpeer] at hwatched
    have hcandidate : publisher ∈ router.orderedWatchesLocked peer :=
      (mem_orderedWatchesLocked router peer publisher).mpr hwatched
    have helig : router.assignable (fun _ _ => expired) subscriber publisher = true :=
      assignable_iff.mpr ⟨hne, hstreaming, hlive⟩
    have hfresh : publisher ∉ peer.outputs.filterMap OutputPair.publisher := by
      intro hold
      refine hbound (publishersOf_subset_assign router _ subscriber ?_)
      rwa [publishersOf, pairsOf_of_lookup hpeer]
    have hmaximal : (∃ taken, (publisher, taken) ∈ (router.assignSubscriber
          (fun _ _ => expired) subscriber peer).1) ∨
        ∀ taken ∈ (router.assignSubscriber (fun _ _ => expired) subscriber peer).2,
          taken.available expired = false :=
      firstFit_maximal hcandidate helig hfresh
    rcases hmaximal with ⟨taken, htaken⟩ | hnone
    · -- The publisher was served, against the assumption.
      rcases mem_of_mem_bindings (fun _ _ _ => available_bindTo _ _ _) htaken with
        ⟨_, ⟨original, horiginal⟩, hmem⟩
      refine absurd (mem_publishersOf.mpr ⟨taken, ?_, ?_⟩) hbound
      · rw [pairsOf_assignAvailableLocked hpeer]
        exact hmem
      · rw [show taken = OutputPair.bindTo publisher original from horiginal]
        rfl
    · have hfull : pair.available expired = false := by
        rw [pairsOf_assignAvailableLocked hpeer] at hpair
        exact hnone pair hpair
      rw [OutputPair.available_eq, hpairLive, Bool.and_true] at hfull
      cases hpublisher : pair.publisher with
      | none => simp [hpublisher] at hfull
      | some other =>
          refine ⟨other, ?_, rfl⟩
          rintro rfl
          exact hbound (mem_publishersOf.mpr ⟨pair, hpair, hpublisher⟩)

/-! ## Runs -/

theorem ServedAt.mono {expired expired' : TrackId → Bool} {router : ScreenRouter}
    (hmono : ∀ id, expired id = true → expired' id = true) (h : ServedAt expired router) :
    ServedAt expired' router := by
  intro subscriber publisher hne hstreaming hwatched hlive
  refine (h subscriber publisher hne hstreaming hwatched
    (trackExpired_mono hmono hlive)).imp_right ?_
  intro hall pair hpair hpairLive
  exact hall pair hpair (OutputPair.live_mono hmono hpairLive)

theorem countP_seat (pairs : List OutputPair) (publisher : PeerId) :
    pairs.countP (fun pair => pair.publisher = some publisher) =
      (pairs.map OutputPair.seat).countP fun seat => seat.1 = some publisher := by
  rw [List.countP_map]
  rfl

/-- Sections that leave inputs, flags, watches and seats alone keep the service. -/
theorem ServedAt.undisturbed {expired : TrackId → Bool} {router router' : ScreenRouter}
    (h : ServedAt expired router) (hsame : Undisturbed router router') :
    ServedAt expired router' := by
  intro subscriber publisher hne hstreaming hwatched hlive
  rw [hsame.streaming] at hstreaming
  rw [hsame.watched] at hwatched
  rw [hsame.video] at hlive
  refine (h subscriber publisher hne hstreaming hwatched hlive).imp ?_ ?_
  · intro hone
    rw [countP_seat, hsame.seats, ← countP_seat]
    exact hone
  · intro hall pair' hpair' hpairLive
    rcases hsame.exists_pair hpair' with ⟨pair, hpair, hseat⟩
    rw [OutputPair.live_of_seat_eq hseat] at hpairLive
    rw [show pair'.publisher = pair.publisher from congrArg Prod.fst hseat]
    exact hall pair hpair hpairLive

/-- A new peer state changes nothing for anyone. -/
theorem ServedAt.peerForLocked {expired : TrackId → Bool} {router : ScreenRouter}
    (h : ServedAt expired router) (peerId : PeerId) :
    ServedAt expired (router.peerForLocked peerId) := by
  intro subscriber publisher
  rw [streamingOf_peerForLocked, watchedOf_peerForLocked, videoOf_peerForLocked,
    pairsOf_peerForLocked]
  exact h subscriber publisher

theorem served_thenAssign {first : ScreenRouter × List BindingNotice} (h : first.1.Inv)
    (expired : TrackId → Bool) : ServedAt expired (thenAssign (fun _ _ => expired) first).1 :=
  served_assignAvailableLocked h expired

theorem served_operate {router : ScreenRouter} (h : router.Inv) {expired : TrackId → Bool}
    (hserved : ServedAt expired router) (operation : Operation)
    (hwhole : (router.operate (fun _ _ => expired) operation).2.2 = none) :
    ServedAt expired (router.operate (fun _ _ => expired) operation).1 := by
  cases operation with
  | registerTrack owner track ssrc =>
      simp only [operate] at hwhole ⊢
      rcases registerTrack_cases router (fun _ _ => expired) owner track ssrc with
        heq | ⟨hopen, input, mediaType, _, rfl, heq⟩ | ⟨_, output, mediaType, heq⟩
      · rw [heq]
        exact hserved
      · rw [heq]
        exact served_thenAssign ((progress_storeInput hopen owner input mediaType).inv h)
          expired
      · rw [heq] at hwhole
        simp at hwhole
  | setStreaming peerId streaming =>
      simp only [operate]
      rcases setStreaming_cases router (fun _ _ => expired) peerId streaming with
        heq | ⟨hopen, heq | heq⟩
      · rw [heq]
        exact hserved
      · rw [heq]
        exact hserved.peerForLocked peerId
      · rw [heq]
        exact served_thenAssign (((progress_peerForLocked hopen peerId).trans
          (progress_storeStreaming _ peerId streaming)).inv h) expired
  | setWatching peerId publisher watching =>
      simp only [operate]
      rcases setWatching_cases router (fun _ _ => expired) peerId publisher watching with
        heq | ⟨hopen, heq | heq | heq⟩
      · rw [heq]
        exact hserved
      · rw [heq]
        exact hserved.peerForLocked peerId
      · rw [heq]
        exact served_thenAssign (((progress_peerForLocked hopen peerId).trans
          (progress_startWatching _ peerId publisher)).inv h) expired
      · rw [heq]
        exact served_thenAssign (((progress_peerForLocked hopen peerId).trans
          (progress_stopWatching _ peerId publisher)).inv h) expired
  | removePeer peerId =>
      simp only [operate, removePeer]
      split
      · exact hserved
      · exact served_thenAssign ((progress_dropPeer router peerId).inv h) expired

theorem ServedAt.of_no_peers {expired : TrackId → Bool} {router : ScreenRouter}
    (h : ∀ peerId, peerId ∉ router.peers) : ServedAt expired router :=
  fun _ publisher _ hstreaming => absurd (mem_of_streamingOf hstreaming) (h publisher)

/-- What `register_output` leaves behind: its owner is there until the router is
closed. -/
def Awaits (pending : PendingOutput) (router : ScreenRouter) : Prop :=
  router.closed = true ∨ pending.owner ∈ router.peers

theorem Awaits.undisturbed {pending : PendingOutput} {router router' : ScreenRouter}
    (h : Awaits pending router) (hsame : Undisturbed router router') :
    Awaits pending router' := by
  rw [Awaits, hsame.closed, hsame.mem]
  exact h

theorem awaits_operate {router : ScreenRouter} {seen : Expiry} {operation : Operation}
    {pending : PendingOutput} (h : (router.operate seen operation).2.2 = some pending) :
    Awaits pending (router.operate seen operation).1 := by
  cases operation with
  | registerTrack owner track ssrc =>
      simp only [operate] at h ⊢
      rcases registerTrack_cases router seen owner track ssrc with
        heq | ⟨_, input, mediaType, _, rfl, heq⟩ | ⟨_, output, mediaType, heq⟩
      · simp [heq] at h
      · simp [heq] at h
      · rw [heq] at h ⊢
        rcases Option.some.inj h with rfl
        exact Or.inr (by simp)
  | setStreaming peerId streaming => simp [operate] at h
  | setWatching peerId publisher watching => simp [operate] at h
  | removePeer peerId => simp [operate] at h

theorem served_finishOutput {router : ScreenRouter} (h : router.Inv)
    {pending : PendingOutput} (hawaits : Awaits pending router) (expired : TrackId → Bool) :
    ServedAt expired (router.finishOutput (fun _ _ => expired) pending).1 := by
  rcases finishOutput_cases router (fun _ _ => expired) pending with ⟨heq, hgone⟩ | heq
  · rw [heq]
    have hclosed : router.closed = true := hgone.elim id fun hmem => hawaits.resolve_right hmem
    exact ServedAt.of_no_peers (h.closed hclosed)
  · rw [heq]
    exact served_thenAssign ((progress_markOutput router pending).inv h) expired

theorem keeps_interrupt {router : ScreenRouter} (expired : TrackId → Bool) (call : Interrupt) :
    (ServedAt expired router → ServedAt expired (router.interrupt call)) ∧
      ∀ pending, Awaits pending router → Awaits pending (router.interrupt call) := by
  cases call with
  | close =>
      simp only [interrupt, close]
      split
      · exact ⟨id, fun _ => id⟩
      · exact ⟨fun _ => ServedAt.of_no_peers fun _ => AList.notMem_empty _,
          fun _ _ => Or.inl rfl⟩
  | updateFaultConfig faultConfig =>
      exact ⟨fun h => h.undisturbed (undisturbed_updateFaultConfig router faultConfig),
        fun _ h => h.undisturbed (undisturbed_updateFaultConfig router faultConfig)⟩

theorem Undisturbed.keeps {router router' : ScreenRouter} (h : Undisturbed router router')
    (expired : TrackId → Bool) :
    (ServedAt expired router → ServedAt expired router') ∧
      ∀ pending, Awaits pending router → Awaits pending router' :=
  ⟨fun hserved => hserved.undisturbed h, fun _ hawaits => hawaits.undisturbed h⟩

section

variable (isRtcp : Bytes → Bool) (gaussian : ℚ → ℚ → ℚ)

theorem serviceLaws : (model isRtcp gaussian).ServiceLaws Inv Awaits ServedAt where
  toStateLaws := stateLaws isRtcp gaussian
  served_initial := by
    rintro expired _ ⟨faultConfig, executor, rfl⟩
    exact ServedAt.of_no_peers fun _ => AList.notMem_empty _
  served_mono _ _ _ hmono hserved := hserved.mono hmono
  operate_served _ operation _ h hserved hwhole := served_operate h hserved operation hwhole
  operate_ready _ _ _ _ _ hpending := awaits_operate hpending
  resume_served expired _ _ h hawaits := served_finishOutput h hawaits expired
  interrupt_keeps expired call _ _ := keeps_interrupt expired call
  route_keeps expired expired' arrival router _ :=
    (undisturbed_route isRtcp gaussian router expired arrival).keeps expired'
  flush_keeps expired' now router _ := (undisturbed_flushDelayed router now).keeps expired'
  forward_keeps expired expired' item router _ :=
    (undisturbed_forwardDelayed router expired item).keeps expired'
  sendTurn_keeps expired expired' isOpen send _ h :=
    (undisturbed_sendTurn isRtcp h expired isOpen send).keeps expired'

end

end ScreenRouter

end Sfu
end Driscord
