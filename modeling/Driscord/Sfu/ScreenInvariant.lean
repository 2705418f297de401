import Driscord.Sfu.ScreenSlots

/-!
# The screen router's invariant

Every operation is a chain of a few parts, each of which keeps the invariant
and advances the ledger of the outputs.  Parts that take something away from a
publisher or a subscriber (its streaming flag, a watch, its state) clear the
pairs concerned in the same part.

Main results:

- Theorem `Progress.of_keep`: parts that let ports step and keep what bound
  pairs rely on.
- Theorem `progress_modifyPeer`, theorem `progress_restart`, theorem
  `progress_storeStreaming`, theorem `progress_stopWatching`, theorem
  `progress_dropPeer` and theorem `progress_assignAvailableLocked`: the parts.
-/

namespace Driscord
namespace Sfu

open Library

namespace ScreenRouter

open Screen

/-- What a pair bound to a publisher relies on: the publisher is another peer
that streams and that the subscriber watches, and both outputs are ready. -/
structure BoundOk (router : ScreenRouter) (subscriber publisher : PeerId)
    (pair : OutputPair) : Prop where
  other : publisher ≠ subscriber
  streaming : router.streamingOf publisher = true
  watched : publisher ∈ router.watchedOf subscriber
  ready : pair.Ready

/-- Notices for a pair go to its owner. -/
def Senders (router : ScreenRouter) : Prop :=
  ∀ peerId peer, router.peers.lookup peerId = some peer → peer.outputs ≠ [] →
    peer.sendBinding = some peerId

/-- The outputs' ports are sound, the publishers bound to a peer's pairs are
distinct and as they should be, notices for a pair go to its owner, and a closed
router is empty. -/
structure Inv (router : ScreenRouter) : Prop where
  ports : PortsOk router.portsOf router.nextRewriter
  distinct : ∀ peerId, (router.publishersOf peerId).Nodup
  bound : ∀ peerId, ∀ pair ∈ router.pairsOf peerId, ∀ publisher,
    pair.publisher = some publisher → router.BoundOk peerId publisher pair
  senders : router.Senders
  closed : router.closed = true → ∀ peerId, peerId ∉ router.peers

/-- The ledger of the outputs. -/
def ledger (router : ScreenRouter) : Ledger RewriterId PeerId :=
  router.portsOf.ledger router.nextRewriter

/-- One part of an operation is sound: it keeps the invariant and advances the
ledger. -/
structure Progress (router router' : ScreenRouter) : Prop where
  inv : router.Inv → router'.Inv
  advance : router.Inv → Ledger.Advance router.ledger router'.ledger

theorem Progress.refl (router : ScreenRouter) : Progress router router :=
  ⟨fun h => h, fun _ => Ledger.Advance.refl _⟩

theorem Progress.trans {first second third : ScreenRouter} (h : Progress first second)
    (h' : Progress second third) : Progress first third :=
  ⟨fun hinv => h'.inv (h.inv hinv),
    fun hinv => (h.advance hinv).trans (h'.advance (h.inv hinv))⟩

/-- A part in which every bound pair comes from a pair with the same publisher
and keeps what it relies on. -/
structure Keep (router router' : ScreenRouter) : Prop where
  publishers : ∀ peerId, (router'.publishersOf peerId).Sublist (router.publishersOf peerId)
  bound : ∀ peerId, ∀ pair' ∈ router'.pairsOf peerId, ∀ publisher,
    pair'.publisher = some publisher → ∃ pair ∈ router.pairsOf peerId,
      pair.publisher = some publisher ∧
        (router.BoundOk peerId publisher pair → router'.BoundOk peerId publisher pair')
  senders : router.Senders → router'.Senders
  closed : (router.closed = true → ∀ peerId, peerId ∉ router.peers) →
    router'.closed = true → ∀ peerId, peerId ∉ router'.peers

theorem Keep.inv {router router' : ScreenRouter} (h : Keep router router')
    (hinv : router.Inv) (hports : PortsOk router'.portsOf router'.nextRewriter) :
    router'.Inv where
  ports := hports
  distinct peerId := (hinv.distinct peerId).sublist (h.publishers peerId)
  bound peerId pair' hpair' publisher hpublisher := by
    rcases h.bound peerId pair' hpair' publisher hpublisher with ⟨pair, hpair, hsame, hok⟩
    exact hok (hinv.bound peerId pair hpair publisher hsame)
  senders := h.senders hinv.senders
  closed := h.closed hinv.closed

theorem Progress.of_keep {router router' : ScreenRouter} (h : Keep router router')
    (hnext : router'.nextRewriter = router.nextRewriter)
    (hsteps : router.portsOf.Evolve router'.portsOf) : Progress router router' where
  inv hinv := h.inv hinv (by rw [hnext]; exact hinv.ports.evolve hsteps)
  advance _ := by
    rw [ledger, ledger, hnext]
    exact advance_evolve hsteps

/-! ## Parts that leave the pairs alone -/

/-- Pairs stay, and streaming and watches are not taken away. -/
theorem progress_of_pairsOf_eq {router router' : ScreenRouter}
    (hnext : router'.nextRewriter = router.nextRewriter)
    (hpairs : ∀ peerId, router'.pairsOf peerId = router.pairsOf peerId)
    (hstreaming : ∀ peerId, router.streamingOf peerId = true →
      router'.streamingOf peerId = true)
    (hwatched : ∀ peerId publisher, publisher ∈ router.watchedOf peerId →
      publisher ∈ router'.watchedOf peerId)
    (hsenders : router.Senders → router'.Senders)
    (hclosed : (router.closed = true → ∀ peerId, peerId ∉ router.peers) →
      router'.closed = true → ∀ peerId, peerId ∉ router'.peers) :
    Progress router router' := by
  refine Progress.of_keep ⟨?_, ?_, hsenders, hclosed⟩ hnext ?_
  · intro peerId
    rw [publishersOf, publishersOf, hpairs]
  · intro peerId pair hpair publisher hpublisher
    rw [hpairs] at hpair
    exact ⟨pair, hpair, hpublisher, fun hok =>
      ⟨hok.other, hstreaming _ hok.streaming, hwatched _ _ hok.watched, hok.ready⟩⟩
  · have hports : router'.portsOf = router.portsOf := by
      funext peerId
      rw [portsOf, portsOf, hpairs]
    rw [hports]
    exact Ports.Evolve.refl _

theorem progress_peerForLocked {router : ScreenRouter} (hopen : router.closed = false)
    (peerId : PeerId) : Progress router (router.peerForLocked peerId) := by
  refine progress_of_pairsOf_eq (nextRewriter_peerForLocked _ _) (pairsOf_peerForLocked _ _)
    ?_ ?_ ?_ ?_
  · intro other h
    rwa [streamingOf_peerForLocked]
  · intro other publisher h
    rwa [watchedOf_peerForLocked]
  · intro h other peer hpeer hne
    rcases lookup_peerForLocked router peerId other with hsame | ⟨_, _, hnew⟩
    · exact h other peer (by rw [← hsame, hpeer]) hne
    · rw [hpeer, Option.some.injEq] at hnew
      simp [hnew] at hne
  · intro _ hclosed
    rw [closed_peerForLocked, hopen] at hclosed
    contradiction

theorem Senders.modifyPeer {router : ScreenRouter} (h : router.Senders) {peerId : PeerId}
    {f : PeerState → PeerState}
    (hf : ∀ peer, (f peer).sendBinding = some peerId ∨
      (f peer).sendBinding = peer.sendBinding ∧ (peer.outputs = [] → (f peer).outputs = [])) :
    (router.modifyPeer peerId f).Senders := by
  intro other peer hpeer hne
  rw [lookup_modifyPeer, Option.map_eq_some_iff] at hpeer
  rcases hpeer with ⟨old, hold, rfl⟩
  by_cases hsame : other = peerId
  · subst hsame
    rw [if_pos rfl] at hne ⊢
    rcases hf old with hsender | ⟨hsender, hnil⟩
    · exact hsender
    · rw [hsender]
      exact h other old hold fun h => hne (hnil h)
  · rw [if_neg hsame] at hne ⊢
    exact h other old hold hne

/-- Modifying a peer keeps a closed router empty. -/
theorem closed_modifyPeer {router : ScreenRouter} {peerId : PeerId} {f : PeerState → PeerState}
    (h : router.closed = true → ∀ other, other ∉ router.peers)
    (hclosed : (router.modifyPeer peerId f).closed = true) :
    ∀ other, other ∉ (router.modifyPeer peerId f).peers := by
  intro other hmem
  rw [mem_modifyPeer] at hmem
  exact h hclosed other hmem

/-- A peer update that leaves the pairs alone and takes nothing away. -/
theorem progress_modifyPeer (router : ScreenRouter) (peerId : PeerId)
    {f : PeerState → PeerState} (houtputs : ∀ peer, (f peer).outputs = peer.outputs)
    (hstreaming : ∀ peer, peer.streaming = true → (f peer).streaming = true)
    (hwatched : ∀ peer publisher, publisher ∈ peer.watchedPublishers →
      publisher ∈ (f peer).watchedPublishers)
    (hsender : ∀ peer, (f peer).sendBinding = some peerId ∨
      (f peer).sendBinding = peer.sendBinding) :
    Progress router (router.modifyPeer peerId f) := by
  refine progress_of_pairsOf_eq rfl ?_ ?_ ?_ ?_ fun h hclosed => closed_modifyPeer h hclosed
  · intro other
    refine pairsOf_of_lookup_map (lookup_modifyPeer router peerId other f) fun peer => ?_
    split
    · exact houtputs peer
    · rfl
  · intro other h
    rw [streamingOf] at h ⊢
    rw [lookup_modifyPeer]
    cases hpeer : router.peers.lookup other with
    | none => simp [hpeer] at h
    | some peer =>
        rw [hpeer] at h
        by_cases hsame : other = peerId
        · simpa [hsame] using hstreaming peer h
        · simpa [hsame] using h
  · intro other publisher h
    rw [watchedOf] at h ⊢
    rw [lookup_modifyPeer]
    cases hpeer : router.peers.lookup other with
    | none => simp [hpeer] at h
    | some peer =>
        rw [hpeer] at h
        by_cases hsame : other = peerId
        · simpa [hsame] using hwatched peer publisher h
        · simpa [hsame] using h
  · intro h
    refine h.modifyPeer fun peer => (hsender peer).imp_right fun hsame => ⟨hsame, ?_⟩
    intro hnil
    rw [houtputs, hnil]

/-! ## Sweeps -/

theorem evolve_sweepBound (router : ScreenRouter) (concerned : PeerId → Bool) (owner : PeerId)
    {update : OutputPair → OutputPair}
    (hupdate : ∀ pair, List.Forall₂ Port.Step (OutputPair.ports pair) (update pair).ports) :
    router.portsOf.Evolve (router.sweepBound concerned owner update).1.portsOf := by
  intro peerId
  simp only [portsOf, pairsOf_sweepBound]
  split
  · refine steps_flatMap (List.forall₂_map_right_iff.mpr (List.forall₂_same.mpr ?_))
    intro pair _
    exact OutputPair.steps_ifBoundTo hupdate owner pair
  · exact List.forall₂_same.mpr fun port _ => Port.Step.refl port

theorem Senders.sweepBound {router : ScreenRouter} (h : router.Senders)
    (concerned : PeerId → Bool) (owner : PeerId) (update : OutputPair → OutputPair) :
    (router.sweepBound concerned owner update).1.Senders := by
  intro peerId peer hpeer hne
  rw [lookup_sweepBound, Option.map_eq_some_iff] at hpeer
  rcases hpeer with ⟨old, hold, rfl⟩
  split at hne
  · rename_i hconcerned
    rw [if_pos hconcerned]
    exact h peerId old hold (by simpa using hne)
  · rename_i hconcerned
    rw [if_neg hconcerned]
    exact h peerId old hold hne

theorem closed_sweepBound {router : ScreenRouter} {concerned : PeerId → Bool} {owner : PeerId}
    {update : OutputPair → OutputPair}
    (h : router.closed = true → ∀ peerId, peerId ∉ router.peers)
    (hclosed : (router.sweepBound concerned owner update).1.closed = true) :
    ∀ peerId, peerId ∉ (router.sweepBound concerned owner update).1.peers := by
  intro peerId hmem
  rw [mem_sweepBound] at hmem
  exact h hclosed peerId hmem

theorem publisher_ifBoundTo_restart (owner : PeerId) (mediaType : MediaType)
    (pair : OutputPair) :
    (pair.ifBoundTo owner (OutputPair.restart mediaType)).publisher = pair.publisher := by
  unfold OutputPair.ifBoundTo
  split
  · exact OutputPair.publisher_restart mediaType pair
  · rfl

theorem ready_ifBoundTo_restart {pair : OutputPair} (h : pair.Ready) (owner : PeerId)
    (mediaType : MediaType) : (pair.ifBoundTo owner (OutputPair.restart mediaType)).Ready := by
  unfold OutputPair.ifBoundTo
  split
  · exact h.restart mediaType
  · exact h

theorem progress_restart (router : ScreenRouter) (owner : PeerId) (mediaType : MediaType) :
    Progress router
      (router.sweepBound (fun _ => true) owner (OutputPair.restart mediaType)).1 := by
  refine Progress.of_keep ⟨?_, ?_, ?_, fun h => closed_sweepBound h⟩ rfl
    (evolve_sweepBound router _ owner (OutputPair.steps_restart mediaType))
  · intro peerId
    have hsame : (router.sweepBound (fun _ => true) owner
        (OutputPair.restart mediaType)).1.publishersOf peerId = router.publishersOf peerId := by
      rw [publishersOf, publishersOf, pairsOf_sweepBound, if_pos rfl, List.filterMap_map]
      congr 1
      funext pair
      exact publisher_ifBoundTo_restart owner mediaType pair
    rw [hsame]
  · intro peerId pair' hpair' publisher hpublisher
    rw [pairsOf_sweepBound, if_pos rfl] at hpair'
    rcases List.mem_map.mp hpair' with ⟨pair, hpair, rfl⟩
    rw [publisher_ifBoundTo_restart] at hpublisher
    refine ⟨pair, hpair, hpublisher, fun hok => ⟨hok.other, ?_, ?_, ?_⟩⟩
    · rw [streamingOf_sweepBound]
      exact hok.streaming
    · rw [watchedOf_sweepBound]
      exact hok.watched
    · exact ready_ifBoundTo_restart hok.ready owner mediaType
  · exact fun h => h.sweepBound _ _ _

/-- The publishers of cleared pairs leave, the others stay. -/
theorem filterMap_clear (owner : PeerId) (pairs : List OutputPair) :
    (pairs.map (OutputPair.ifBoundTo owner OutputPair.clear)).filterMap
        OutputPair.publisher =
      (pairs.filterMap OutputPair.publisher).filter fun publisher => publisher ≠ owner := by
  induction pairs with
  | nil => rfl
  | cons pair pairs ih =>
      by_cases howner : pair.publisher = some owner
      · simp [OutputPair.ifBoundTo, howner, ih]
      · cases hpublisher : pair.publisher with
        | none => simp [OutputPair.ifBoundTo, hpublisher, ih]
        | some publisher =>
            have hne : publisher ≠ owner := by
              rintro rfl
              exact howner hpublisher
            simp [OutputPair.ifBoundTo, hpublisher, hne, ih]

/-- A pair that stays bound after a clearing loop was not bound to the owner and
is unchanged. -/
theorem eq_of_bound_after_clear {owner publisher : PeerId} {pair : OutputPair}
    (h : (pair.ifBoundTo owner OutputPair.clear).publisher = some publisher) :
    pair.ifBoundTo owner OutputPair.clear = pair ∧ publisher ≠ owner := by
  unfold OutputPair.ifBoundTo at h ⊢
  split at h
  · simp at h
  · rename_i howner
    rw [if_neg howner]
    refine ⟨rfl, ?_⟩
    rintro rfl
    exact howner h

/-- Take something away from `owner` and clear the pairs bound to it: bound pairs
are the ones that do not rely on `owner`. -/
theorem keep_clear {router router' : ScreenRouter} (concerned : PeerId → Bool)
    (owner : PeerId)
    (hpairs : ∀ peerId, (router'.pairsOf peerId).Sublist (router.pairsOf peerId))
    (hstreaming : ∀ peerId, peerId ≠ owner → router.streamingOf peerId = true →
      router'.streamingOf peerId = true)
    (hunconcerned : ∀ peerId, concerned peerId = false →
      router.streamingOf owner = true → router'.streamingOf owner = true)
    (hwatched : ∀ peerId publisher, publisher ≠ owner ∨ concerned peerId = false →
      (router'.pairsOf peerId) ≠ [] →
      publisher ∈ router.watchedOf peerId → publisher ∈ router'.watchedOf peerId)
    (hsenders : router.Senders → router'.Senders)
    (hclosed : (router.closed = true → ∀ peerId, peerId ∉ router.peers) →
      router'.closed = true → ∀ peerId, peerId ∉ router'.peers) :
    Keep router (router'.sweepBound concerned owner OutputPair.clear).1 where
  publishers peerId := by
    rw [publishersOf, pairsOf_sweepBound]
    split
    · rw [filterMap_clear]
      exact List.filter_sublist.trans ((hpairs peerId).filterMap _)
    · exact (hpairs peerId).filterMap _
  bound peerId pair' hpair' publisher hpublisher := by
    have hnonempty : router'.pairsOf peerId ≠ [] := by
      intro hnil
      rw [pairsOf_sweepBound, hnil] at hpair'
      split at hpair' <;> simp at hpair'
    rw [pairsOf_sweepBound] at hpair'
    have hold : pair' ∈ router'.pairsOf peerId ∧
        (publisher ≠ owner ∨ concerned peerId = false) := by
      split at hpair'
      · rcases List.mem_map.mp hpair' with ⟨pair, hpair, rfl⟩
        rcases eq_of_bound_after_clear hpublisher with ⟨heq, hne⟩
        rw [heq]
        exact ⟨hpair, Or.inl hne⟩
      · rename_i hconcerned
        exact ⟨hpair', Or.inr (by simpa using hconcerned)⟩
    rcases hold with ⟨hmem, hcase⟩
    refine ⟨pair', (hpairs peerId).subset hmem, hpublisher, fun hok => ⟨hok.other, ?_, ?_, hok.ready⟩⟩
    · rw [streamingOf_sweepBound]
      by_cases hsame : publisher = owner
      · subst hsame
        exact hunconcerned peerId (hcase.resolve_left fun h => h rfl) hok.streaming
      · exact hstreaming publisher hsame hok.streaming
    · rw [watchedOf_sweepBound]
      exact hwatched peerId publisher hcase hnonempty hok.watched
  senders h := (hsenders h).sweepBound _ _ _
  closed h := closed_sweepBound (hclosed h)

/-! ## Taking something away -/

theorem ports_eq_of_pairsOf_eq {router router' : ScreenRouter}
    (h : ∀ peerId, router'.pairsOf peerId = router.pairsOf peerId) :
    router'.portsOf = router.portsOf := by
  funext peerId
  rw [portsOf, portsOf, h]

theorem lookup_stored_streaming (router : ScreenRouter) (peerId other : PeerId)
    (streaming : Bool) :
    (router.modifyPeer peerId fun peer => { peer with streaming := streaming }).peers.lookup
        other =
      (router.peers.lookup other).map fun peer =>
        if other = peerId then { peer with streaming := streaming } else peer :=
  lookup_modifyPeer router peerId other _

theorem pairsOf_stored_streaming (router : ScreenRouter) (peerId other : PeerId)
    (streaming : Bool) :
    (router.modifyPeer peerId fun peer => { peer with streaming := streaming }).pairsOf other =
      router.pairsOf other :=
  pairsOf_of_lookup_map (lookup_stored_streaming router peerId other streaming)
    fun _ => by split <;> rfl

theorem progress_storeStreaming (router : ScreenRouter) (peerId : PeerId) (streaming : Bool) :
    Progress router (router.storeStreaming peerId streaming).1 := by
  unfold storeStreaming
  dsimp only
  split
  · rename_i hstreaming
    exact progress_modifyPeer router peerId (fun _ => rfl) (fun _ _ => hstreaming)
      (fun _ _ h => h) fun _ => Or.inr rfl
  · rename_i hstreaming
    have hpairs := fun other => pairsOf_stored_streaming router peerId other streaming
    refine Progress.of_keep (keep_clear (fun _ => true) peerId ?_ ?_ ?_ ?_ ?_ ?_) rfl ?_
    · intro other
      rw [hpairs]
    · intro other hne h
      rw [streamingOf, lookup_modifyPeer]
      simpa [hne, streamingOf] using h
    · simp
    · intro other publisher _ _ h
      rwa [watchedOf_of_lookup_map (lookup_stored_streaming router peerId other streaming)
        fun _ => by split <;> rfl]
    · intro h
      exact h.modifyPeer fun _ => Or.inr ⟨rfl, fun h => h⟩
    · exact fun h hclosed => closed_modifyPeer h hclosed
    · rw [← ports_eq_of_pairsOf_eq hpairs]
      exact evolve_sweepBound _ _ peerId OutputPair.steps_clear

theorem lookup_stored_watches (router : ScreenRouter) (peerId publisher other : PeerId) :
    (router.modifyPeer peerId fun peer =>
        { peer with watchedPublishers := peer.watchedPublishers.erase publisher }).peers.lookup
        other =
      (router.peers.lookup other).map fun peer =>
        if other = peerId then
          { peer with watchedPublishers := peer.watchedPublishers.erase publisher }
        else peer :=
  lookup_modifyPeer router peerId other _

theorem mem_watchedOf_stored_watches {router : ScreenRouter}
    {peerId publisher other watched : PeerId}
    (hcase : watched ≠ publisher ∨ other ≠ peerId)
    (h : watched ∈ router.watchedOf other) :
    watched ∈ (router.modifyPeer peerId fun peer =>
      { peer with
        watchedPublishers := peer.watchedPublishers.erase publisher }).watchedOf other := by
  rw [watchedOf] at h ⊢
  rw [lookup_stored_watches]
  cases hpeer : router.peers.lookup other with
  | none => simp [hpeer] at h
  | some peer =>
      rw [hpeer] at h
      by_cases hsame : other = peerId
      · have hne : watched ≠ publisher := hcase.resolve_right fun hother => hother hsame
        simp only [Option.map_some, Option.getD_some] at h
        simpa [hsame, AList.mem_erase, hne] using h
      · simpa [hsame] using h

theorem progress_stopWatching (router : ScreenRouter) (peerId publisher : PeerId) :
    Progress router (router.stopWatching peerId publisher).1 := by
  have hlookup := lookup_stored_watches router peerId publisher
  have hpairs := fun other =>
    pairsOf_of_lookup_map (hlookup other) fun _ => by split <;> rfl
  have hstreaming := fun other =>
    streamingOf_of_lookup_map (hlookup other) fun _ => by split <;> rfl
  refine Progress.of_keep (keep_clear (fun subscriber => subscriber = peerId) publisher
    ?_ ?_ ?_ ?_ ?_ ?_) rfl ?_
  · intro other
    rw [hpairs]
  · intro other _ h
    rwa [hstreaming]
  · intro _ _ h
    rwa [hstreaming]
  · intro other watched hcase _ h
    exact mem_watchedOf_stored_watches (hcase.imp_right fun hother => by simpa using hother) h
  · intro h
    exact h.modifyPeer fun _ => Or.inr ⟨rfl, fun h => h⟩
  · exact fun h hclosed => closed_modifyPeer h hclosed
  · rw [← ports_eq_of_pairsOf_eq hpairs]
    exact evolve_sweepBound _ _ publisher OutputPair.steps_clear

/-! ## Dropping a peer -/

theorem lookup_erasePeer_ne (router : ScreenRouter) {peerId other : PeerId}
    (hne : other ≠ peerId) :
    (router.erasePeer peerId).peers.lookup other =
      (router.peers.lookup other).map fun peer =>
        { peer with watchedPublishers := peer.watchedPublishers.erase peerId } := by
  rw [erasePeer]
  dsimp only
  rw [Table.lookup_mapValues, AList.lookup_erase_ne hne]

@[simp]
theorem lookup_erasePeer_self (router : ScreenRouter) (peerId : PeerId) :
    (router.erasePeer peerId).peers.lookup peerId = none := by
  rw [erasePeer]
  dsimp only
  rw [Table.lookup_mapValues, AList.lookup_erase, Option.map_none]

theorem pairsOf_erasePeer (router : ScreenRouter) (peerId other : PeerId) :
    (router.erasePeer peerId).pairsOf other =
      if other = peerId then [] else router.pairsOf other := by
  by_cases hsame : other = peerId
  · subst hsame
    simp [pairsOf]
  · rw [if_neg hsame]
    exact pairsOf_of_lookup_map (lookup_erasePeer_ne router hsame) fun _ => rfl

theorem shrink_erasePeer (router : ScreenRouter) (peerId : PeerId) :
    router.portsOf.Shrink (router.erasePeer peerId).portsOf := by
  intro other
  rw [portsOf, portsOf, pairsOf_erasePeer]
  split
  · exact List.nil_sublist _
  · exact List.Sublist.refl _

theorem Senders.erasePeer {router : ScreenRouter} (h : router.Senders) (peerId : PeerId) :
    (router.erasePeer peerId).Senders := by
  intro other peer hpeer hne
  by_cases hsame : other = peerId
  · subst hsame
    simp at hpeer
  · rw [lookup_erasePeer_ne router hsame, Option.map_eq_some_iff] at hpeer
    rcases hpeer with ⟨old, hold, rfl⟩
    exact h other old hold hne

/-- Erasing a peer and clearing the pairs bound to it. -/
def dropPeer (router : ScreenRouter) (peerId : PeerId) : ScreenRouter :=
  ((router.erasePeer peerId).sweepBound (fun _ => true) peerId OutputPair.clear).1

theorem mem_erasePeer (router : ScreenRouter) (peerId other : PeerId) :
    other ∈ (router.erasePeer peerId).peers ↔ other ≠ peerId ∧ other ∈ router.peers := by
  rw [erasePeer, Table.mem_mapValues, AList.mem_erase]

theorem keep_dropPeer (router : ScreenRouter) (peerId : PeerId) :
    Keep router (router.dropPeer peerId) := by
  refine keep_clear (fun _ => true) peerId ?_ ?_ ?_ ?_ ?_ ?_
  · intro other
    rw [pairsOf_erasePeer]
    split
    · exact List.nil_sublist _
    · exact List.Sublist.refl _
  · intro other hne h
    rwa [streamingOf_of_lookup_map (lookup_erasePeer_ne router hne) fun _ => rfl]
  · simp
  · intro other publisher hcase hpairs h
    have hne : publisher ≠ peerId := hcase.resolve_right fun h => by simp at h
    have hother : other ≠ peerId := by
      rintro rfl
      rw [pairsOf_erasePeer, if_pos rfl] at hpairs
      exact hpairs rfl
    rw [watchedOf] at h ⊢
    rw [lookup_erasePeer_ne router hother]
    cases hpeer : router.peers.lookup other with
    | none => simp [hpeer] at h
    | some peer =>
        rw [hpeer] at h
        simp only [Option.map_some, Option.getD_some] at h
        simpa [AList.mem_erase, hne] using h
  · exact fun h => h.erasePeer peerId
  · intro h hclosed other hmem
    exact h hclosed other ((mem_erasePeer router peerId other).mp hmem).2

theorem progress_dropPeer (router : ScreenRouter) (peerId : PeerId) :
    Progress router (router.dropPeer peerId) where
  inv h := (keep_dropPeer router peerId).inv h
    ((h.ports.shrink (shrink_erasePeer router peerId)).evolve
      (evolve_sweepBound (router.erasePeer peerId) _ peerId OutputPair.steps_clear))
  advance h := by
    have hfirst : Ledger.Advance router.ledger
        ((router.erasePeer peerId).portsOf.ledger router.nextRewriter) :=
      advance_shrink (shrink_erasePeer router peerId)
    exact hfirst.trans (advance_evolve
      (evolve_sweepBound (router.erasePeer peerId) _ peerId OutputPair.steps_clear))

/-! ## The assignment pass -/

theorem evolve_assignAvailableLocked (router : ScreenRouter) (expired : Expiry) :
    router.portsOf.Evolve (router.assignAvailableLocked expired).1.portsOf := by
  intro peerId
  refine steps_flatMap ((served_pairsOf router expired peerId).imp ?_)
  rintro pair _ (rfl | ⟨publisher, _, _, _, rfl⟩)
  · exact OutputPair.steps_refl _
  · exact OutputPair.steps_bindTo publisher pair

/-- A pair bound after the pass was bound before or is bound by it. -/
theorem bound_assignAvailableLocked {router : ScreenRouter} {expired : Expiry}
    {subscriber publisher : PeerId} {pair' : OutputPair}
    (hpair' : pair' ∈ (router.assignAvailableLocked expired).1.pairsOf subscriber)
    (hpublisher : pair'.publisher = some publisher) :
    pair' ∈ router.pairsOf subscriber ∨
      publisher ∈ router.watchedOf subscriber ∧
        router.assignable expired subscriber publisher = true ∧ pair'.Ready := by
  rcases forall₂_mem_right (served_pairsOf router expired subscriber) hpair' with
    ⟨pair, hpair, hserved⟩
  rcases hserved with rfl | ⟨candidate, hwatched, helig, havailable, rfl⟩
  · exact Or.inl hpair
  · have hsame : candidate = publisher := by simpa [OutputPair.bindTo] using hpublisher
    subst hsame
    exact Or.inr ⟨hwatched, helig, (OutputPair.ready_of_available havailable).bindTo candidate⟩

theorem progress_assignAvailableLocked (router : ScreenRouter) (expired : Expiry) :
    Progress router (router.assignAvailableLocked expired).1 where
  inv h := by
    refine ⟨h.ports.evolve (evolve_assignAvailableLocked router expired), ?_, ?_, ?_, ?_⟩
    · intro peerId
      by_cases hmem : peerId ∈ router.peers
      · rcases Table.mem_iff_exists_lookup.mp hmem with ⟨peer, hpeer⟩
        have hdistinct := h.distinct peerId
        rw [publishersOf, pairsOf_of_lookup hpeer] at hdistinct
        rw [publishersOf, pairsOf_assignAvailableLocked hpeer]
        refine firstFit_holders_nodup (fun _ _ => rfl) ?_ hdistinct ?_
        · intro publisher pair havailable
          simp only [OutputPair.available, Bool.and_eq_true, Option.isNone_iff_eq_none]
            at havailable
          exact havailable.1.1
        · intro pair hpair publisher hpublisher
          exact List.mem_filterMap.mpr ⟨pair, hpair, hpublisher⟩
      · rw [publishersOf, pairsOf_assignAvailableLocked_of_notMem hmem]
        exact List.nodup_nil
    · intro peerId pair' hpair' publisher hpublisher
      rcases bound_assignAvailableLocked hpair' hpublisher with hold | ⟨hwatched, helig, hready⟩
      · have hok := h.bound peerId pair' hold publisher hpublisher
        exact ⟨hok.other, by simpa using hok.streaming, by simpa using hok.watched, hok.ready⟩
      · rcases assignable_iff.mp helig with ⟨hne, hstreaming, _⟩
        exact ⟨hne, by simpa using hstreaming, by simpa using hwatched, hready⟩
    · intro peerId peer hpeer hne
      rw [lookup_assignAvailableLocked, Option.map_eq_some_iff] at hpeer
      rcases hpeer with ⟨old, hold, rfl⟩
      refine h.senders peerId old hold ?_
      intro hnil
      simp [hnil, assignSubscriber] at hne
    · intro hclosed peerId hmem
      rw [mem_assignAvailableLocked] at hmem
      exact h.closed hclosed peerId hmem
  advance _ := advance_evolve (evolve_assignAvailableLocked router expired)

theorem progress_thenAssign {router : ScreenRouter}
    {first : ScreenRouter × List BindingNotice} (h : Progress router first.1)
    (expired : Expiry) : Progress router (thenAssign expired first).1 :=
  h.trans (progress_assignAvailableLocked first.1 expired)

end ScreenRouter

end Sfu
end Driscord
