import Driscord.Client.StreamWatchingSystem

/-!
# Agreement on the watched streams

A request and the change of `watched_peers` that it tells of are two sections, and a
rejection names the peer but not the request that it answers.  As long as no section
contradicts a later request, the client, the room and the screen router agree once
nothing is on its way.

Main results:

- Theorem `Consistent.step`: the invariant of orderly runs.
- Theorem `watches_agree_of_reachable`: in every orderly run the three sets are the same
  whenever the client is settled.
- Theorem `stale_rejection_unwatches`: a rejection that comes after the peer was joined
  again leaves the client without a watch that the server keeps.
-/

namespace Driscord
namespace Client

open Library Signaling Server

/-! ## Requests on the wire -/

section

variable {peer other : PeerId}

theorem parse_encode {message : Message} (hwell : message.WellFormed)
    (hvalid : message.strings.all validUtf8 = true) :
    parse (some (encode message)) = Except.ok message := by
  rw [parse, valid_encode, if_pos hvalid, parseJson_encode hwell]

theorem wants_encode_watchStart (hnamed : WatchSystem.Named peer) (before : Bool) :
    wants other before (some (encode (Message.watchStart peer))) =
      (before || decide (peer = other)) :=
  wants_watchStart (parse_encode hnamed.1 (by simp [Message.strings, hnamed.2])) before

theorem wants_encode_watchStop (hnamed : WatchSystem.Named peer) (before : Bool) :
    wants other before (some (encode (Message.watchStop peer))) =
      (before && decide (peer ≠ other)) :=
  wants_watchStop (parse_encode hnamed.1 (by simp [Message.strings, hnamed.2])) before

theorem wants_of_unasking {raw : Option Json} (h : unasking raw = true) (before : Bool) :
    wants peer before raw = before := by
  apply wants_of_not
  · intro publisher hparse
    simp [unasking, hparse] at h
  · intro publisher hparse
    simp [unasking, hparse] at h

/-- A message that says that a peer is not watched runs a section that takes it out. -/
theorem drops_watchSections (hnamed : WatchSystem.Named peer) {message : Message}
    (hdrops : drops peer message = true) :
    (watchSections (some (encode message))).any (WatchSection.drops peer) = true := by
  have hparse : message.WellFormed → message.strings = [peer.value] →
      watchSections (some (encode message)) = (messageUpdates message).filterMap watchSection := by
    intro hwell hstrings
    rw [watchSections, onWsMessage, parse_encode hwell (by simp [hstrings, hnamed.2])]
  cases message with
  | peerLeft id =>
      obtain rfl : id = peer := of_decide_eq_true hdrops
      rw [hparse hnamed.1 rfl]
      simp [messageUpdates, watchSection, WatchSection.drops]
  | watchRejected id reason =>
      obtain rfl : id = peer := of_decide_eq_true hdrops
      rw [hparse hnamed.1 rfl]
      simp [messageUpdates, watchSection, WatchSection.drops]
  | _ => contradiction

theorem names_watchSections {raw : Option Json} {item : WatchSection}
    (hitem : item ∈ watchSections raw) : item.names = none := by
  rcases List.mem_filterMap.mp hitem with ⟨update, -, hupdate⟩
  unfold watchSection at hupdate
  split at hupdate
  · rw [← Option.some.inj hupdate]
    rfl
  · rw [← Option.some.inj hupdate]
    rfl
  · rw [← Option.some.inj hupdate]
    rfl
  · contradiction

end

namespace WatchSystem

variable {system next : WatchSystem} {peer : PeerId}

/-! ## The invariant -/

/-- The peer's watch is, or will be, as the client has it, or the session ends. -/
def Held (system : WatchSystem) (peer : PeerId) : Prop :=
  Pool.Pending system.threads WatchSection.clearSession ∨ system.expected peer = true ∨
    Pool.Pending system.threads (WatchSection.sendWatchStart peer) ∨ system.Leaving peer

/-- What orderly runs keep. -/
structure Consistent (system : WatchSystem) : Prop where
  sound : MediaServer.Sound system.server
  mirrored : MediaServer.Mirrored system.server
  heard : system.socket.isSome = true → system.heard ≤ system.queued.length
  attached : system.client.connected = true → system.socket.isSome = true
  watched : ∀ peer ∈ system.client.watchedPeers, Named peer
  requests : ∀ item peer, Pool.Pending system.threads item → item.names = some peer → Named peer
  /-- The session of a connection that was lost is stopped. -/
  stopped : system.client.connected = false →
    system.client.screenSession = none ∨ Pool.Pending system.threads WatchSection.clearSession
  /-- The server has heard nothing of a connection that is not open. -/
  unasked : system.client.connected = false → system.coming = [] ∧
    ∀ id ∈ system.socket, system.server.signaling.Serves id → system.granted = ∅
  /-- What the client does not watch is given up. -/
  given : system.Linked → ∀ peer ∉ system.client.watchedPeers, system.expected peer = true →
    Pool.Pending system.threads (WatchSection.sendWatchStop peer)
  /-- What the client watches is asked for. -/
  taken : system.Linked → ∀ peer ∈ system.client.watchedPeers,
    system.client.screenSession.isSome = true → system.Held peer

theorem consistent_initial (h : Initial system) : Consistent system := by
  rcases h with ⟨faultConfig, rfl⟩
  have hserver : MediaServer.Initial { faultConfig := faultConfig } := ⟨faultConfig, rfl⟩
  exact {
    sound := MediaServer.sound_initial hserver
    mirrored := MediaServer.mirrored_initial hserver
    heard := fun _ => le_refl _
    attached := fun hconnected => by contradiction
    watched := fun peer hmem => absurd hmem (Finset.notMem_empty peer)
    requests := fun item peer hpending => by
      rcases hpending with ⟨thread, hthread, -⟩
      exact absurd hthread List.not_mem_nil
    stopped := fun _ => Or.inl rfl
    unasked := fun _ => ⟨rfl, fun _ _ _ => rfl⟩
    given := fun hlinked => absurd hlinked.1 (by simp)
    taken := fun hlinked => absurd hlinked.1 (by simp) }

/-- An unconnected client is not linked. -/
theorem not_linked (h : system.client.connected = false) : ¬ system.Linked := by
  intro hlinked
  rw [hlinked.1] at h
  contradiction

/-! ## Sections of the client -/

section

variable {index : Nat} {head : WatchSection} {rest pushed : List WatchSection}
variable {client : WatchClient}

/-- The state after a section. -/
def after (system : WatchSystem) (index : Nat) (rest : List WatchSection) (client : WatchClient)
    (pushed : List WatchSection) : WatchSystem :=
  { system with client, threads := system.threads.set index (pushed ++ rest) }

/-- Another section leaves the peer held. -/
theorem Held.run (h : system.Held peer) (hhead : system.threads[index]? = some (head :: rest))
    (hclear : head ≠ WatchSection.clearSession) (hstart : head ≠ WatchSection.sendWatchStart peer)
    (hdrops : head.drops peer = false)
    (hexpected : system.expected peer = true →
      (system.after index rest client pushed).expected peer = true) :
    (system.after index rest client pushed).Held peer := by
  rcases h with hpending | hcoming | hpending | hmessage | howes
  · exact Or.inl (hpending.run hhead (Ne.symm hclear) pushed)
  · exact Or.inr (Or.inl (hexpected hcoming))
  · exact Or.inr (Or.inr (Or.inl (hpending.run hhead (Ne.symm hstart) pushed)))
  · exact Or.inr (Or.inr (Or.inr (Or.inl hmessage)))
  · refine Or.inr (Or.inr (Or.inr (Or.inr (howes.run hhead ?_))))
    intro hdropped
    rw [hdrops] at hdropped
    contradiction

/-- A section keeps the invariant if it keeps what it can change. -/
theorem Consistent.after (h : Consistent system)
    (hhead : system.threads[index]? = some (head :: rest))
    (hconnected : client.connected = system.client.connected)
    (hchannel : client.connected = false → client.channel = system.client.channel)
    (hwatched : ∀ peer ∈ client.watchedPeers, Named peer)
    (hpushed : ∀ item ∈ pushed, ∀ peer, item.names = some peer → Named peer)
    (hstopped : client.connected = false → client.screenSession = none ∨
      Pool.Pending (system.after index rest client pushed).threads WatchSection.clearSession)
    (hgiven : system.Linked → ∀ peer ∉ client.watchedPeers,
      (system.after index rest client pushed).expected peer = true →
        Pool.Pending (system.after index rest client pushed).threads
          (WatchSection.sendWatchStop peer))
    (htaken : system.Linked → ∀ peer ∈ client.watchedPeers,
      client.screenSession.isSome = true → (system.after index rest client pushed).Held peer) :
    Consistent (system.after index rest client pushed) where
  sound := h.sound
  mirrored := h.mirrored
  heard := h.heard
  attached hnow := h.attached (hconnected ▸ hnow)
  watched := hwatched
  requests item peer hpending hnames := by
    rcases Pool.pending_of_run hhead hpending with hold | hnew
    · exact h.requests item peer hold hnames
    · exact hpushed item hnew peer hnames
  stopped := hstopped
  unasked hnow := by
    rcases h.unasked (hconnected ▸ hnow) with ⟨hcoming, hgranted⟩
    refine ⟨?_, hgranted⟩
    rw [← hcoming, coming, coming]
    exact congrArg _ (hchannel hnow)
  given hlinked := hgiven ⟨hconnected ▸ hlinked.1, hlinked.2⟩
  taken hlinked := htaken ⟨hconnected ▸ hlinked.1, hlinked.2⟩

theorem expected_after (hchannel : client.channel = system.client.channel) (peer : PeerId) :
    (system.after index rest client pushed).expected peer = system.expected peer := by
  rw [expected, expected, coming, coming]
  exact congrArg (fun channel => ((system.socket.map system.server.reading).getD [] ++
    channel).foldl (wants peer) (decide (peer ∈ system.granted))) hchannel

/-- A section that neither sends nor stops the session. -/
theorem Consistent.keep (h : Consistent system)
    (hhead : system.threads[index]? = some (head :: rest))
    (hclear : head ≠ WatchSection.clearSession)
    (hconnected : client.connected = system.client.connected)
    (hchannel : client.channel = system.client.channel)
    (hsession : client.screenSession = system.client.screenSession)
    (hwatched : ∀ peer ∈ client.watchedPeers, Named peer)
    (hpushed : ∀ item ∈ pushed, ∀ peer, item.names = some peer → Named peer)
    (hgiven : system.Linked → ∀ peer ∉ client.watchedPeers, system.expected peer = true →
      Pool.Pending (system.after index rest client pushed).threads
        (WatchSection.sendWatchStop peer))
    (htaken : system.Linked → ∀ peer ∈ client.watchedPeers,
      system.client.screenSession.isSome = true →
        (system.after index rest client pushed).Held peer) :
    Consistent (system.after index rest client pushed) := by
  refine h.after hhead hconnected (fun _ => hchannel) hwatched hpushed ?_ ?_ ?_
  · intro hnow
    rcases h.stopped (hconnected ▸ hnow) with hnone | hpending
    · exact Or.inl (hsession.trans hnone)
    · exact Or.inr (hpending.run hhead (Ne.symm hclear) pushed)
  · intro hlinked peer hmem hexpected
    rw [expected_after hchannel] at hexpected
    exact hgiven hlinked peer hmem hexpected
  · intro hlinked peer hmem hlive
    rw [hsession] at hlive
    exact htaken hlinked peer hmem hlive

/-- `join_stream` of a new peer. -/
theorem Consistent.joined (h : Consistent system) {peer : PeerId}
    (hhead : system.threads[index]? = some (WatchSection.joinStream peer :: rest)) :
    Consistent (system.after index rest
      { system.client with watchedPeers := insert peer system.client.watchedPeers }
      [WatchSection.sendWatchStart peer]) := by
  have hnamed : Named peer := h.requests _ peer (Pool.pending_head hhead) rfl
  refine h.keep hhead (by simp) rfl rfl rfl ?_ ?_ ?_ ?_
  · intro other hother
    rcases Finset.mem_insert.mp hother with rfl | hold
    · exact hnamed
    · exact h.watched other hold
  · intro item hitem other hnames
    rw [List.mem_singleton.mp hitem] at hnames
    rwa [← Option.some.inj hnames]
  · intro hlinked other hother hexpected
    have hold : other ∉ system.client.watchedPeers :=
      fun hmem => hother (Finset.mem_insert_of_mem hmem)
    exact (h.given hlinked other hold hexpected).run hhead (by simp) _
  · intro hlinked other hother hlive
    rcases Finset.mem_insert.mp hother with rfl | hold
    · exact Or.inr (Or.inr (Or.inl (Pool.pending_pushed hhead (List.mem_singleton_self _))))
    · exact (h.taken hlinked other hold hlive).run hhead (by simp) (by simp) rfl id

/-- A peer is taken out, and the server will hear of it. -/
theorem Consistent.forgotten (h : Consistent system) {peer : PeerId}
    (hmem : peer ∈ system.client.watchedPeers)
    (hhead : system.threads[index]? = some (head :: rest))
    (hleave : head = WatchSection.leaveStream peer ∨
      head = WatchSection.peerStoppedStreaming peer) :
    Consistent (system.after index rest
      { system.client with watchedPeers := system.client.watchedPeers.erase peer }
      [WatchSection.sendWatchStop peer]) := by
  refine h.keep hhead ?_ rfl rfl rfl ?_ ?_ ?_ ?_
  · rcases hleave with rfl | rfl <;> simp
  · exact fun other hother => h.watched other (Finset.mem_of_mem_erase hother)
  · intro item hitem other hnames
    rw [List.mem_singleton.mp hitem] at hnames
    rw [← Option.some.inj hnames]
    exact h.watched peer hmem
  · intro hlinked other hother hexpected
    by_cases hsame : other = peer
    · subst hsame
      exact Pool.pending_pushed hhead (List.mem_singleton_self _)
    · have hold : other ∉ system.client.watchedPeers :=
        fun hin => hother (Finset.mem_erase.mpr ⟨hsame, hin⟩)
      refine (h.given hlinked other hold hexpected).run hhead ?_ _
      rcases hleave with rfl | rfl <;> simp
  · intro hlinked other hother hlive
    rw [Finset.mem_erase] at hother
    refine (h.taken hlinked other hother.2 hlive).run hhead ?_ ?_ ?_ id
    · rcases hleave with rfl | rfl <;> simp
    · rcases hleave with rfl | rfl <;> simp
    · rcases hleave with rfl | rfl <;> simp [WatchSection.drops, Ne.symm hother.1]

/-- All peers are taken out, and the server will hear of them. -/
theorem Consistent.emptied (h : Consistent system) (requested : Bool) {order : List PeerId}
    (horder : system.client.Iterates order)
    (hhead : system.threads[index]? = some (head :: rest))
    (hleave : head = WatchSection.leaveStreams ∨ head = WatchSection.forgetScreen) :
    Consistent (system.after index rest
      { system.client with screenRequested := requested, watchedPeers := ∅ }
      (order.map WatchSection.sendWatchStop)) := by
  have hall : ∀ peer, peer ∈ order ↔ peer ∈ system.client.watchedPeers := by
    intro peer
    rw [← horder.2, List.mem_toFinset]
  refine h.keep hhead ?_ rfl rfl rfl ?_ ?_ ?_ ?_
  · rcases hleave with rfl | rfl <;> simp
  · exact fun peer hmem => absurd hmem (Finset.notMem_empty peer)
  · intro item hitem other hnames
    rcases List.mem_map.mp hitem with ⟨peer, hpeer, rfl⟩
    rw [← Option.some.inj hnames]
    exact h.watched peer ((hall peer).mp hpeer)
  · intro hlinked peer _ hexpected
    by_cases hmem : peer ∈ system.client.watchedPeers
    · exact Pool.pending_pushed hhead (List.mem_map_of_mem ((hall peer).mpr hmem))
    · refine (h.given hlinked peer hmem hexpected).run hhead ?_ _
      rcases hleave with rfl | rfl <;> simp
  · exact fun _ peer hmem => absurd hmem (Finset.notMem_empty peer)

/-- A rejection, of which the server does not hear. -/
theorem Consistent.rejected (h : Consistent system) {peer : PeerId}
    (hhead : system.threads[index]? = some (WatchSection.handleWatchRejected peer :: rest))
    (htimely : system.Linked → system.Timely (WatchSection.handleWatchRejected peer)) :
    Consistent (system.after index rest
      { system.client with watchedPeers := system.client.watchedPeers.erase peer } []) := by
  refine h.keep hhead (by simp) rfl rfl rfl ?_ (by simp) ?_ ?_
  · exact fun other hother => h.watched other (Finset.mem_of_mem_erase hother)
  · intro hlinked other hother hexpected
    have hstop : Pool.Pending system.threads (WatchSection.sendWatchStop other) := by
      by_cases hmem : other ∈ system.client.watchedPeers
      · -- No request follows, so the server must not have the watch.
        obtain rfl : other = peer := by
          by_contra hne
          exact hother (Finset.mem_erase.mpr ⟨hne, hmem⟩)
        exact htimely hlinked hmem hexpected
      · exact h.given hlinked other hmem hexpected
    exact hstop.run hhead (by simp) _
  · intro hlinked other hother hlive
    rw [Finset.mem_erase] at hother
    exact (h.taken hlinked other hother.2 hlive).run hhead (by simp) (by simp)
      (by simp [WatchSection.drops, Ne.symm hother.1]) id

/-- A request that is sent is the last one that is coming. -/
theorem expected_sent (hconnected : system.client.connected = true) (message : Message)
    (peer : PeerId) :
    (system.after index rest (system.client.send message) pushed).expected peer =
      wants peer (system.expected peer) (some (encode message)) := by
  have hcoming : (system.after index rest (system.client.send message) pushed).coming =
      system.coming ++ [some (encode message)] := by
    rw [coming, coming, List.append_assoc, after, WatchClient.send, if_pos hconnected]
  rw [expected, hcoming, List.foldl_append]
  rfl

/-- A section that sends a request. -/
theorem Consistent.sent (h : Consistent system) {message : Message}
    (hhead : system.threads[index]? = some (head :: rest))
    (hclear : head ≠ WatchSection.clearSession)
    (hgiven : system.Linked → ∀ peer ∉ system.client.watchedPeers,
      wants peer (system.expected peer) (some (encode message)) = true →
        Pool.Pending system.threads (WatchSection.sendWatchStop peer) ∧
          head ≠ WatchSection.sendWatchStop peer)
    (htaken : system.Linked → ∀ peer ∈ system.client.watchedPeers,
      system.client.screenSession.isSome = true →
        (system.after index rest (system.client.send message) []).Held peer) :
    Consistent (system.after index rest (system.client.send message) []) := by
  refine h.after hhead (by simp) ?_ (by simpa using h.watched) (by simp) ?_ ?_ ?_
  · intro hnow
    rw [WatchClient.connected_send] at hnow
    rw [WatchClient.send, if_neg (by simp [hnow])]
  · intro hnow
    rw [WatchClient.connected_send] at hnow
    rw [WatchClient.screenSession_send]
    rcases h.stopped hnow with hnone | hpending
    · exact Or.inl hnone
    · exact Or.inr (hpending.run hhead (Ne.symm hclear) _)
  · intro hlinked peer hmem hexpected
    rw [WatchClient.watchedPeers_send] at hmem
    rw [expected_sent hlinked.1] at hexpected
    rcases hgiven hlinked peer hmem hexpected with ⟨hstop, hne⟩
    exact hstop.run hhead (Ne.symm hne) _
  · intro hlinked peer hmem hlive
    rw [WatchClient.watchedPeers_send] at hmem
    rw [WatchClient.screenSession_send] at hlive
    exact htaken hlinked peer hmem hlive

/-- `send_watch_start`. -/
theorem Consistent.startSent (h : Consistent system) {peer : PeerId}
    (hhead : system.threads[index]? = some (WatchSection.sendWatchStart peer :: rest))
    (htimely : system.Linked → system.Timely (WatchSection.sendWatchStart peer)) :
    Consistent (system.after index rest (system.client.send (Message.watchStart peer)) []) := by
  have hnamed : Named peer := h.requests _ peer (Pool.pending_head hhead) rfl
  refine h.sent hhead (by simp) ?_ ?_
  · intro hlinked other hmem hwants
    rw [wants_encode_watchStart hnamed, Bool.or_eq_true, decide_eq_true_eq] at hwants
    refine ⟨?_, by simp⟩
    rcases hwants with hold | rfl
    · exact h.given hlinked other hmem hold
    · exact (htimely hlinked).resolve_left hmem
  · intro hlinked other hmem hlive
    have hexpected : (system.after index rest (system.client.send (Message.watchStart peer))
        []).expected other = (system.expected other || decide (peer = other)) := by
      rw [expected_sent hlinked.1, wants_encode_watchStart hnamed]
    by_cases hsame : peer = other
    · exact Or.inr (Or.inl (by rw [hexpected, decide_eq_true hsame, Bool.or_true]))
    · refine (h.taken hlinked other hmem hlive).run hhead (by simp) (by simp [hsame]) rfl ?_
      intro hold
      rw [hexpected, hold, Bool.true_or]

/-- `send_watch_stop`. -/
theorem Consistent.stopSent (h : Consistent system) {peer : PeerId}
    (hhead : system.threads[index]? = some (WatchSection.sendWatchStop peer :: rest))
    (htimely : system.Linked → system.Timely (WatchSection.sendWatchStop peer)) :
    Consistent (system.after index rest (system.client.send (Message.watchStop peer)) []) := by
  have hnamed : Named peer := h.requests _ peer (Pool.pending_head hhead) rfl
  refine h.sent hhead (by simp) ?_ ?_
  · intro hlinked other hmem hwants
    rw [wants_encode_watchStop hnamed, Bool.and_eq_true, decide_eq_true_eq] at hwants
    exact ⟨h.given hlinked other hmem hwants.1, by simp [hwants.2]⟩
  · intro hlinked other hmem hlive
    by_cases hsame : peer = other
    · subst hsame
      rcases htimely hlinked hmem hlive with hclear | hstart | hmessage | howes
      · exact Or.inl (hclear.run hhead (by simp) _)
      · exact Or.inr (Or.inr (Or.inl (hstart.run hhead (by simp) _)))
      · exact Or.inr (Or.inr (Or.inr (Or.inl hmessage)))
      · refine Or.inr (Or.inr (Or.inr (Or.inr (howes.run hhead ?_))))
        exact fun hdrops => by contradiction
    · refine (h.taken hlinked other hmem hlive).run hhead (by simp) (by simp) rfl ?_
      intro hold
      rw [expected_sent hlinked.1, wants_encode_watchStop hnamed, hold, Bool.true_and,
        decide_eq_true_eq]
      exact hsame

/-- The session that was started is kept, and the server hears of all watches. -/
theorem Consistent.retained (h : Consistent system) {order : List PeerId}
    (horder : system.client.Iterates order) (hconnected : system.client.connected = true)
    (hhead : system.threads[index]? = some (WatchSection.retainSession :: rest)) :
    Consistent (system.after index rest
      { system.client with
        screenSession := some system.client.nextSession
        nextSession := system.client.nextSession + 1 }
      (order.map WatchSection.sendWatchStart ++ [WatchSection.endStart])) := by
  have hall : ∀ peer, peer ∈ order ↔ peer ∈ system.client.watchedPeers := by
    intro peer
    rw [← horder.2, List.mem_toFinset]
  refine h.after hhead rfl (fun _ => rfl) h.watched ?_ ?_ ?_ ?_
  · intro item hitem other hnames
    rcases List.mem_append.mp hitem with hstart | hend
    · rcases List.mem_map.mp hstart with ⟨peer, hpeer, rfl⟩
      rw [← Option.some.inj hnames]
      exact h.watched peer ((hall peer).mp hpeer)
    · rw [List.mem_singleton.mp hend] at hnames
      contradiction
  · intro hnow
    exact absurd (hconnected.symm.trans hnow) (by simp)
  · intro hlinked peer hmem hexpected
    exact (h.given hlinked peer hmem hexpected).run hhead (by simp) _
  · intro _ peer hmem _
    refine Or.inr (Or.inr (Or.inl (Pool.pending_pushed hhead ?_)))
    exact List.mem_append_left _ (List.mem_map_of_mem ((hall peer).mpr hmem))

/-- The session is stopped. -/
theorem Consistent.cleared (h : Consistent system) (mutex : Option Nat)
    (hhead : system.threads[index]? = some (WatchSection.clearSession :: rest)) :
    Consistent (system.after index rest
      { system.client with screenLifecycleMutex := mutex, screenSession := none }
      [WatchSection.closeSession]) := by
  refine h.after hhead rfl (fun _ => rfl) h.watched ?_ (fun _ => Or.inl rfl) ?_ ?_
  · intro item hitem other hnames
    rw [List.mem_singleton.mp hitem] at hnames
    contradiction
  · intro hlinked peer hmem hexpected
    exact (h.given hlinked peer hmem hexpected).run hhead (by simp) _
  · intro _ _ _ hlive
    exact absurd hlive (by simp)

/-- A section that changes neither the peers nor the session, and takes none of them out. -/
theorem Consistent.idled (h : Consistent system) (requested : Bool) (mutex : Option Nat)
    (hhead : system.threads[index]? = some (head :: rest))
    (hpushed : ∀ item ∈ pushed, item.names = none)
    (hclear : head ≠ WatchSection.clearSession)
    (hstart : ∀ peer, head ≠ WatchSection.sendWatchStart peer)
    (hstop : ∀ peer, head ≠ WatchSection.sendWatchStop peer)
    (hdrops : ∀ peer ∈ system.client.watchedPeers, head.drops peer = false) :
    Consistent (system.after index rest
      { system.client with screenRequested := requested, screenLifecycleMutex := mutex }
      pushed) := by
  refine h.keep hhead hclear rfl rfl rfl h.watched ?_ ?_ ?_
  · intro item hitem other hnames
    rw [hpushed item hitem] at hnames
    contradiction
  · intro hlinked peer hmem hexpected
    exact (h.given hlinked peer hmem hexpected).run hhead (Ne.symm (hstop peer)) _
  · intro hlinked peer hmem hlive
    exact (h.taken hlinked peer hmem hlive).run hhead hclear (hstart peer) (hdrops peer hmem) id

/-- Every section that runs in time keeps the invariant. -/
theorem Consistent.ran (h : Consistent system)
    (hhead : system.threads[index]? = some (head :: rest))
    (htimely : system.Linked → system.Timely head)
    (hran : WatchClient.Ran system.client index head client pushed) :
    Consistent (system.after index rest client pushed) := by
  cases hran with
  | joined peer hnew => exact h.joined hhead
  | forgotten peer hmem hleave => exact h.forgotten hmem hhead hleave
  | emptied requested order horder hleave => exact h.emptied requested horder hhead hleave
  | rejected peer => exact h.rejected hhead htimely
  | startSent peer => exact h.startSent hhead htimely
  | stopSent peer => exact h.stopSent hhead htimely
  | retained order horder hconnected => exact h.retained horder hconnected hhead
  | cleared => exact h.cleared _ hhead
  | minded requested mutex hminds hpushed =>
      refine h.idled requested mutex hhead ?_ ?_ ?_ ?_ ?_
      · intro item hitem
        rcases hpushed item hitem with hitem | rfl
        · cases item <;> first | rfl | contradiction
        · rfl
      all_goals cases head <;> first | contradiction | simp [WatchSection.drops]
  | kept hkept =>
      refine h.idled system.client.screenRequested system.client.screenLifecycleMutex hhead
        (by simp) ?_ ?_ ?_ ?_
      · rcases hkept with ⟨peer, -, rfl⟩ | ⟨peer, -, rfl | rfl⟩ <;> simp
      · rcases hkept with ⟨peer, -, rfl⟩ | ⟨peer, -, rfl | rfl⟩ <;> simp
      · rcases hkept with ⟨peer, -, rfl⟩ | ⟨peer, -, rfl | rfl⟩ <;> simp
      · intro other hother
        rcases hkept with ⟨peer, -, rfl⟩ | ⟨peer, hnew, hleave⟩
        · rfl
        · have hne : peer ≠ other := fun hsame => hnew (hsame ▸ hother)
          rcases hleave with rfl | rfl <;> simp [WatchSection.drops, hne]

end

/-! ## Calls and callbacks -/

theorem Held.spawn (h : system.Held peer) (thread : List WatchSection) :
    (system.spawn thread).Held peer := by
  rcases h with hpending | hcoming | hpending | hmessage | howes
  · exact Or.inl (hpending.spawn thread)
  · exact Or.inr (Or.inl hcoming)
  · exact Or.inr (Or.inr (Or.inl (hpending.spawn thread)))
  · exact Or.inr (Or.inr (Or.inr (Or.inl hmessage)))
  · exact Or.inr (Or.inr (Or.inr (Or.inr (howes.spawn thread))))

theorem Consistent.requests_spawn (h : Consistent system) {thread : List WatchSection}
    (hthread : ∀ item ∈ thread, ∀ peer, item.names = some peer → Named peer)
    (item : WatchSection) (peer : PeerId)
    (hpending : Pool.Pending (system.spawn thread).threads item)
    (hnames : item.names = some peer) : Named peer := by
  rcases Pool.pending_of_spawn hpending with hold | hnew
  · exact h.requests item peer hold hnames
  · exact hthread item hnew peer hnames

theorem Consistent.stopped_spawn (h : Consistent system) (thread : List WatchSection)
    (hnow : system.client.connected = false) : system.client.screenSession = none ∨
      Pool.Pending (system.spawn thread).threads WatchSection.clearSession :=
  (h.stopped hnow).imp_right fun hpending => hpending.spawn thread

/-- A thread begins. -/
theorem Consistent.spawn (h : Consistent system) {thread : List WatchSection}
    (hthread : ∀ item ∈ thread, ∀ peer, item.names = some peer → Named peer) :
    Consistent (system.spawn thread) where
  sound := h.sound
  mirrored := h.mirrored
  heard := h.heard
  attached := h.attached
  watched := h.watched
  requests := h.requests_spawn hthread
  stopped := h.stopped_spawn thread
  unasked := h.unasked
  given hlinked peer hmem hexpected := (h.given hlinked peer hmem hexpected).spawn thread
  taken hlinked peer hmem hlive := (h.taken hlinked peer hmem hlive).spawn thread

/-- `onOpen`: the server has heard nothing yet. -/
theorem Consistent.opened (h : Consistent system) {id : PeerId}
    (hsocket : system.socket = some id) (hclosed : system.client.connected = false) :
    Consistent { system.spawn [WatchSection.checkScreen] with
      client := { system.client with connected := true } } where
  sound := h.sound
  mirrored := h.mirrored
  heard := h.heard
  attached _ := Option.isSome_iff_exists.mpr ⟨id, hsocket⟩
  watched := h.watched
  requests := h.requests_spawn (by simp [WatchSection.names])
  stopped hnow := by contradiction
  unasked hnow := by contradiction
  given hlinked peer _ hexpected := by
    rcases h.unasked hclosed with ⟨hcoming, hgranted⟩
    rcases hlinked.2 with ⟨other, hother, hserves⟩
    have hnothing : system.expected peer = true := hexpected
    rw [expected, hcoming, hgranted other hother hserves] at hnothing
    simp at hnothing
  taken _ peer _ hlive := by
    rcases h.stopped_spawn [WatchSection.checkScreen] hclosed with hnone | hpending
    · have hsome : system.client.screenSession.isSome = true := hlive
      rw [hnone] at hsome
      contradiction
    · exact Or.inl hpending

/-- The connection ends. -/
theorem Consistent.ended (h : Consistent system) {thread : List WatchSection}
    (hthread : thread = [WatchSection.clearSession] ∨
      thread = [] ∧ system.client.connected = false) :
    Consistent { system.spawn thread with
      client := { system.client with connected := false, channel := [] }
      socket := none } where
  sound := h.sound
  mirrored := h.mirrored
  heard hsome := by contradiction
  attached hnow := by contradiction
  watched := h.watched
  requests := by
    refine h.requests_spawn ?_
    rcases hthread with rfl | ⟨rfl, -⟩ <;> simp [WatchSection.names]
  stopped _ := by
    rcases hthread with rfl | ⟨rfl, hclosed⟩
    · exact Or.inr (Pool.pending_spawned (List.mem_singleton_self _) _)
    · exact h.stopped_spawn [] hclosed
  unasked _ := ⟨rfl, fun _ hsome => by contradiction⟩
  given hlinked := absurd hlinked (not_linked rfl)
  taken hlinked := absurd hlinked (not_linked rfl)

/-- A text that is no request. -/
theorem Consistent.said (h : Consistent system) {raw : Option Json}
    (hconnected : system.client.connected = true) (hunasking : unasking raw = true) :
    Consistent { system with
      client := { system.client with channel := system.client.channel ++ [raw] } } := by
  have hexpected : ∀ peer, expected { system with
      client := { system.client with channel := system.client.channel ++ [raw] } } peer =
        system.expected peer := by
    intro peer
    rw [expected, coming, ← List.append_assoc, List.foldl_append, List.foldl_cons,
      wants_of_unasking hunasking]
    rfl
  have hnever : system.client.connected ≠ false := by simp [hconnected]
  exact {
    sound := h.sound
    mirrored := h.mirrored
    heard := h.heard
    attached := h.attached
    watched := h.watched
    requests := h.requests
    stopped := fun hnow => absurd hnow hnever
    unasked := fun hnow => absurd hnow hnever
    given := fun hlinked peer hmem hexp => h.given hlinked peer hmem (hexpected peer ▸ hexp)
    taken := fun hlinked peer hmem hlive => by
      rw [Held, hexpected]
      exact h.taken hlinked peer hmem hlive }

/-- `onMessage`: what the message says is done by a thread. -/
theorem Consistent.received (h : Consistent system) {message : Message}
    (hmessage : system.queued[system.heard]? = some message) (reader : Option Nat) :
    Consistent { system.spawn (watchSections (some (encode message))) with
      heard := system.heard + 1
      reader } := by
  have hthread : ∀ item ∈ watchSections (some (encode message)), ∀ peer,
      item.names = some peer → Named peer := by
    intro item hitem peer hnames
    rw [names_watchSections hitem] at hnames
    contradiction
  have hlt : system.heard < system.queued.length :=
    (List.getElem?_eq_some_iff.mp hmessage).choose
  have hspawned := h.spawn hthread
  exact {
    sound := h.sound
    mirrored := h.mirrored
    heard := fun _ => hlt
    attached := h.attached
    watched := h.watched
    requests := h.requests_spawn hthread
    stopped := h.stopped_spawn _
    unasked := h.unasked
    given := hspawned.given
    taken := fun hlinked peer hmem hlive => by
      rcases hspawned.taken hlinked peer hmem hlive with hclear | hcoming | hstart |
        ⟨other, hother, hdrops⟩ | howes
      · exact Or.inl hclear
      · exact Or.inr (Or.inl hcoming)
      · exact Or.inr (Or.inr (Or.inl hstart))
      · -- The message may be the one that says so.
        have hqueued : other ∈ system.queued.drop system.heard := hother
        rw [List.drop_eq_getElem_cons hlt, List.getElem_eq_iff hlt |>.mpr hmessage,
          List.mem_cons] at hqueued
        rcases hqueued with rfl | hlater
        · have hdropped := drops_watchSections (h.watched peer hmem) hdrops
          refine Or.inr (Or.inr (Or.inr (Or.inr ?_)))
          exact ⟨_, List.mem_append_right _ (List.mem_singleton_self _), hdropped⟩
        · exact Or.inr (Or.inr (Or.inr (Or.inl ⟨other, hlater, hdrops⟩)))
      · exact Or.inr (Or.inr (Or.inr (Or.inr howes))) }

/-! ## The server -/

section

variable {server : MediaServer} {id : PeerId}

theorem queued_eq (hsocket : system.socket = some id) :
    system.queued = inbox system.server.signaling.log id := by
  simp [queued, hsocket]

theorem granted_eq (hsocket : system.socket = some id) :
    system.granted = system.server.signaling.watchedBy id := by
  simp [granted, hsocket]

theorem coming_eq (hsocket : system.socket = some id) :
    system.coming = system.server.reading id ++ system.client.channel := by
  simp [coming, hsocket]

/-- What an action of the server may change for its client. -/
structure Relayed (system : WatchSystem) (server : MediaServer) (id : PeerId) : Prop where
  /-- No text of the client is taken. -/
  coming : system.server.reading id = [] → server.reading id = []
  queued : ∃ told, inbox server.signaling.log id = system.queued ++ told
  /-- The client hears of what it will not watch any more. -/
  serves : server.signaling.Serves id → system.server.signaling.Serves id ∧
    ∀ peer, (expected { system with server } peer = true → system.expected peer = true) ∧
      (system.expected peer = true → expected { system with server } peer = true ∨
        ∃ told, inbox server.signaling.log id = system.queued ++ told ∧
          ∃ message ∈ told, drops peer message = true)

/-- What the server does besides taking a text of the client. -/
theorem Consistent.relayed (h : Consistent system) {action : MediaAction}
    (hsocket : system.socket = some id) (hforeign : system.foreign action = true)
    (hact : system.server.act action = some server) : Relayed system server id := by
  have hqueued := queued_eq hsocket
  have hsocket' : ({ system with server } : WatchSystem).socket = some id := hsocket
  rcases MediaServer.progress h.sound.duties hact id with ⟨raw, rfl⟩ |
    ⟨event, hevent, hbefore, hafter⟩ | ⟨hsignaling, hreading⟩
  · simp [foreign, hsocket] at hforeign
  · -- An event is handled: the watch is as expected, or the client is told.
    refine ⟨fun _ => hafter, ?_, ?_⟩
    · rcases SignalingSystem.log_act hevent with ⟨entries, hentries⟩
      exact ⟨inbox entries id, by rw [hentries, SignalingSystem.inbox_append, hqueued]⟩
    · intro hserves
      rcases SignalingSystem.Serves.rewatched h.sound.registry h.mirrored.watchers hevent
        hserves with ⟨hstill, told, hinbox, hrewatched⟩
      refine ⟨hstill, fun peer => ?_⟩
      rcases hrewatched.wanted peer with ⟨honly, hall⟩
      have hnow : expected { system with server } peer = system.client.channel.foldl (wants peer)
          (decide (peer ∈ server.signaling.watchedBy id)) := by
        rw [expected, coming_eq hsocket', granted_eq hsocket', hafter, List.nil_append]
      have hthen : system.expected peer = system.client.channel.foldl (wants peer)
          ((event.texts id).foldl (wants peer)
            (decide (peer ∈ system.server.signaling.watchedBy id))) := by
        rw [expected, coming_eq hsocket, granted_eq hsocket, hbefore, List.foldl_append]
      rw [hnow, hthen]
      refine ⟨foldl_wants_mono _ fun hmem => honly (of_decide_eq_true hmem), ?_⟩
      apply foldl_wants_or
      intro hwanted
      rcases hall hwanted with hmem | hdropped
      · exact Or.inl (decide_eq_true hmem)
      · exact Or.inr ⟨told, by rw [hqueued, hinbox], hdropped⟩
  · have hsame : ∀ peer, expected { system with server } peer = system.expected peer := by
      intro peer
      rw [expected, expected, coming_eq hsocket', coming_eq hsocket, granted_eq hsocket',
        granted_eq hsocket, hsignaling, hreading]
    refine ⟨fun hnone => hreading.trans hnone, ⟨[], ?_⟩, fun hserves => ⟨hsignaling ▸ hserves, ?_⟩⟩
    · rw [hsignaling, hqueued, List.append_nil]
    · intro peer
      rw [hsame]
      exact ⟨fun hold => hold, Or.inl⟩

/-- The server does anything but take a text of the client. -/
theorem Consistent.served (h : Consistent system) {action : MediaAction}
    (hforeign : system.foreign action = true) (hact : system.server.act action = some server) :
    Consistent { system with server } where
  sound := h.sound.step hact
  mirrored := h.mirrored.step h.sound hact
  heard hsome := by
    rcases Option.isSome_iff_exists.mp hsome with ⟨id, hsocket⟩
    have hsocket' : ({ system with server } : WatchSystem).socket = some id := hsocket
    rcases (h.relayed hsocket hforeign hact).queued with ⟨told, hqueued⟩
    have hold := h.heard hsome
    rw [queued_eq hsocket', hqueued, List.length_append]
    exact Nat.le_add_right_of_le hold
  attached := h.attached
  watched := h.watched
  requests := h.requests
  stopped := h.stopped
  unasked hclosed := by
    rcases h.unasked hclosed with ⟨hcoming, hgranted⟩
    rcases Option.eq_none_or_eq_some system.socket with hsocket | ⟨id, hsocket⟩
    · refine ⟨?_, fun id hid => ?_⟩
      · simpa [coming, hsocket] using hcoming
      · exact absurd (hsocket.symm.trans hid) (by simp)
    · have hsocket' : ({ system with server } : WatchSystem).socket = some id := hsocket
      have hrelayed := h.relayed hsocket hforeign hact
      have hnothing : ({ system with server } : WatchSystem).coming = [] := by
        rw [coming_eq hsocket', hrelayed.coming ?_]
        · rw [coming_eq hsocket, List.append_eq_nil_iff] at hcoming
          exact hcoming.2
        · rw [coming_eq hsocket, List.append_eq_nil_iff] at hcoming
          exact hcoming.1
      refine ⟨hnothing, fun other hother hserves => ?_⟩
      obtain rfl : id = other := Option.some.inj (hsocket.symm.trans hother)
      rcases hrelayed.serves hserves with ⟨hstill, hexpected⟩
      rw [Finset.eq_empty_iff_forall_notMem]
      intro peer hmem
      have hnow : expected { system with server } peer = true := by
        rw [expected, hnothing]
        exact decide_eq_true hmem
      have hthen := (hexpected peer).1 hnow
      rw [expected, hcoming, hgranted id hsocket hstill] at hthen
      simp at hthen
  given hlinked peer hmem hexpected := by
    rcases hlinked.2 with ⟨id, hsocket, hserves⟩
    rcases (h.relayed hsocket hforeign hact).serves hserves with ⟨hstill, hall⟩
    exact h.given ⟨hlinked.1, id, hsocket, hstill⟩ peer hmem ((hall peer).1 hexpected)
  taken hlinked peer hmem hlive := by
    rcases hlinked.2 with ⟨id, hsocket, hserves⟩
    have hsocket' : ({ system with server } : WatchSystem).socket = some id := hsocket
    have hrelayed := h.relayed hsocket hforeign hact
    have hold : system.heard ≤ system.queued.length :=
      h.heard (Option.isSome_iff_exists.mpr ⟨id, hsocket⟩)
    rcases hrelayed.serves hserves with ⟨hstill, hall⟩
    have hleaves : ∀ told, inbox server.signaling.log id = system.queued ++ told →
        ∀ message ∈ system.queued.drop system.heard ++ told, drops peer message = true →
          Held { system with server } peer := by
      intro told htold message hmessage hdrops
      refine Or.inr (Or.inr (Or.inr (Or.inl ⟨message, ?_, hdrops⟩)))
      rw [queued_eq hsocket', htold, List.drop_append_of_le_length hold]
      exact hmessage
    rcases h.taken ⟨hlinked.1, id, hsocket, hstill⟩ peer hmem hlive with hclear | hexpected |
      hstart | ⟨message, hmessage, hdrops⟩ | howes
    · exact Or.inl hclear
    · rcases (hall peer).2 hexpected with hnow | ⟨told, htold, message, hmessage, hdrops⟩
      · exact Or.inr (Or.inl hnow)
      · exact hleaves told htold message (List.mem_append_right _ hmessage) hdrops
    · exact Or.inr (Or.inr (Or.inl hstart))
    · rcases hrelayed.queued with ⟨told, htold⟩
      exact hleaves told htold message (List.mem_append_left _ hmessage) hdrops
    · exact Or.inr (Or.inr (Or.inr (Or.inr howes)))

/-- The server takes the oldest text of the client. -/
theorem Consistent.delivered (h : Consistent system) {raw : Option Json}
    {channel : List (Option Json)} (hsocket : system.socket = some id)
    (hchannel : system.client.channel = raw :: channel)
    (hact : system.server.act (MediaAction.handle (ServerEvent.read id raw)) = some server) :
    Consistent { system with server, client := { system.client with channel } } := by
  rcases MediaServer.reading_handle hact id with ⟨hsignaling, hbefore, hafter⟩
  have hsocket' : ({ system with
      server, client := { system.client with channel } } : WatchSystem).socket = some id := hsocket
  have hcoming : coming { system with server, client := { system.client with channel } } =
      system.coming := by
    rw [coming_eq hsocket', coming_eq hsocket, hbefore, hafter, hchannel]
    simp [ServerEvent.texts]
  have hgranted : granted { system with server, client := { system.client with channel } } =
      system.granted := by
    rw [granted_eq hsocket', granted_eq hsocket, hsignaling]
  have hqueued : queued { system with server, client := { system.client with channel } } =
      system.queued := by
    rw [queued_eq hsocket', queued_eq hsocket, hsignaling]
  have hexpected : ∀ peer, expected { system with
      server, client := { system.client with channel } } peer = system.expected peer := by
    intro peer
    rw [expected, expected, hcoming, hgranted]
  have hlinks : Linked { system with server, client := { system.client with channel } } →
      system.Linked := by
    rintro ⟨hopen, other, hother, hserves⟩
    exact ⟨hopen, other, hother, hsignaling ▸ hserves⟩
  exact {
    sound := h.sound.step hact
    mirrored := h.mirrored.step h.sound hact
    heard := fun hsome => by
      rw [hqueued]
      exact h.heard hsome
    attached := h.attached
    watched := h.watched
    requests := h.requests
    stopped := h.stopped
    unasked := fun hclosed => by
      rcases h.unasked hclosed with ⟨hnothing, -⟩
      rw [coming_eq hsocket, hchannel] at hnothing
      simp at hnothing
    given := fun hlinked peer hmem hexp => by
      rw [hexpected] at hexp
      exact h.given (hlinks hlinked) peer hmem hexp
    taken := fun hlinked peer hmem hlive => by
      rw [Held, hexpected, Leaving, hqueued]
      exact h.taken (hlinks hlinked) peer hmem hlive }

/-- The server takes up a connection of the client. -/
theorem Consistent.connected (h : Consistent system) {random : UInt64} {roomId : RoomId}
    {username : Username} (hsocket : system.socket = none)
    (hact : system.server.act (MediaAction.handle
      (ServerEvent.accept random roomId username)) = some server) (reader : Option Nat) :
    Consistent { system with server, socket := some (generateId random), heard := 0, reader } := by
  have hclosed : system.client.connected = false := by
    by_contra hopen
    rw [Bool.not_eq_false] at hopen
    have hsome := h.attached hopen
    rw [hsocket] at hsome
    contradiction
  rcases MediaServer.reading_handle hact (generateId random) with ⟨hsignaling, -, hafter⟩
  have hfresh : system.server.signaling.sessions.lookup (generateId random) = none := by
    rw [MediaServer.act, Option.ite_none_right_eq_some] at hact
    by_contra hsome
    have hknown : generateId random ∈ system.server.signaling.sessions := by
      by_contra hnot
      exact hsome (AList.lookup_eq_none.mpr hnot)
    simp [SignalingSystem.act, hknown] at hact
  have hchannel : system.client.channel = [] := by
    have hnothing := (h.unasked hclosed).1
    rwa [coming, hsocket, Option.map_none, Option.getD_none, List.nil_append] at hnothing
  exact {
    sound := h.sound.step hact
    mirrored := h.mirrored.step h.sound hact
    heard := fun _ => Nat.zero_le _
    attached := fun _ => rfl
    watched := h.watched
    requests := h.requests
    stopped := h.stopped
    unasked := fun _ => by
      refine ⟨?_, fun id hid _ => ?_⟩
      · rw [coming, Option.map_some, Option.getD_some, hafter, hchannel]
        rfl
      · rw [granted, Option.map_some, Option.getD_some, hsignaling, SignalingSystem.watchedBy,
          hfresh]
        rfl
    given := fun hlinked => absurd hlinked (not_linked hclosed)
    taken := fun hlinked => absurd hlinked (not_linked hclosed) }

end

/-! ## Every run -/

theorem named_sections {call : WatchCall} (h : system.Orderly (WatchAction.call call)) :
    ∀ item ∈ call.sections, ∀ peer, item.names = some peer → Named peer := by
  intro item hitem peer hnames
  cases call with
  | joinStream other =>
      rw [List.mem_singleton.mp hitem] at hnames
      rw [← Option.some.inj hnames]
      exact h
  | leaveStream other | leaveStreams =>
      rw [List.mem_singleton.mp hitem] at hnames
      contradiction
  | initScreen | deinitScreen =>
      rcases List.mem_cons.mp hitem with rfl | hlast
      · contradiction
      · rw [List.mem_singleton.mp hlast] at hnames
        contradiction

/-- Every step of an orderly run keeps the invariant. -/
theorem Consistent.step (h : Consistent system) (hstep : OrderlyStep system next) :
    Consistent next := by
  rcases hstep with ⟨action, horderly, hact⟩
  cases acted_of_act hact with
  | served hforeign hserver => exact h.served hforeign hserver
  | delivered hsocket hchannel hserver => exact h.delivered hsocket hchannel hserver
  | connected hsocket hserver => exact h.connected hsocket hserver none
  | opened hsocket hclosed => exact h.opened hsocket hclosed
  | ended haction hthread => exact h.ended hthread
  | called call => exact h.spawn (named_sections horderly)
  | recovered token => exact h.spawn (by simp [WatchSection.names])
  | said hconnected hunasking => exact h.said hconnected hunasking
  | received hmessage hconnected => exact h.received hmessage _
  | ran hhead hran =>
      refine h.ran hhead (fun hlinked => horderly hlinked _ ?_) hran
      rw [hhead]
      rfl

/-- Once nothing is on its way, the three sets are the same. -/
theorem Consistent.agree (h : Consistent system) : WatchesAgree system := by
  intro id roomId room hsettled
  rcases hsettled.quiet with ⟨hthreads, hio, hchannel, hheard⟩
  have hregistry := h.sound.registry
  rcases hregistry.session_of_mem hsettled.found hsettled.member with
    ⟨session, hsession, hroomId⟩
  have hroom : system.server.signaling.server.rooms.lookup session.roomId = some room :=
    hroomId.symm ▸ hsettled.found
  have hlinked : system.Linked := by
    refine ⟨hsettled.connected, id, hsettled.socket, hsettled.running, ?_⟩
    intro found hfound
    obtain rfl : session = found := Option.some.inj (hsession.symm.trans hfound)
    exact ⟨room, hroom, hsettled.member⟩
  have hexpected : ∀ peer, system.expected peer = true ↔ peer ∈ room.watched id := by
    intro peer
    have hnothing : system.coming = [] := by
      rw [coming_eq hsettled.socket, MediaServer.reading, hio, hchannel]
      rfl
    rw [expected, hnothing, granted_eq hsettled.socket, SignalingSystem.watchedBy_eq hsession hroom]
    exact decide_eq_true_iff
  have hsame : system.client.watchedPeers = room.watched id := by
    ext peer
    constructor
    · intro hmem
      rcases h.taken hlinked peer hmem hsettled.live with hclear | hnow | hstart |
        ⟨message, hmessage, -⟩ | howes
      · exact absurd hclear (hthreads.not_pending _)
      · exact (hexpected peer).mp hnow
      · exact absurd hstart (hthreads.not_pending _)
      · rw [hheard, List.drop_length] at hmessage
        exact absurd hmessage List.not_mem_nil
      · exact absurd howes hthreads.not_owes
    · intro hwatched
      by_contra hnot
      have hstop := h.given hlinked peer hnot ((hexpected peer).mpr hwatched)
      exact hthreads.not_pending _ hstop
  have hknown : roomId ∈ system.server.handles :=
    h.sound.housed.housed roomId (Table.mem_of_lookup hsettled.found)
  rcases Table.mem_iff_exists_lookup.mp hknown with ⟨handle, hlookup⟩
  have hhandle : system.server.handleOf roomId = some handle :=
    MediaServer.handleOf_eq_some.mpr ⟨Table.mem_of_lookup hsettled.found, hlookup⟩
  rcases h.sound.housed.exists_routers hhandle with ⟨routers, hrouters, -⟩
  refine ⟨hsame, handle, routers, hhandle, hrouters, fun peer => ?_⟩
  rw [h.mirrored.watchedOf_iff hio hsettled.found hhandle hrouters, hsame]

/-- The server handles an event with a number of sections. -/
def serving (event : ServerEvent) (sections : Nat) : List WatchAction :=
  (MediaServer.handling event sections).map WatchAction.serve

/-- The server takes the oldest text of the client and handles it with a number of
sections. -/
def delivering (sections : Nat) : List WatchAction :=
  WatchAction.deliver :: List.replicate sections
    (WatchAction.serve (MediaAction.runIo (fun _ _ _ => false) false))

/-- A call that is thread `index` runs a number of sections. -/
def calling (call : WatchCall) (index sections : Nat) : List WatchAction :=
  WatchAction.call call :: List.replicate sections (WatchAction.run index true [])

/-- Alice is in the lobby when the client connects and starts its screen session. -/
def bobWatches : List WatchAction :=
  serving (ServerEvent.accept 1 ⟨text "lobby"⟩ ⟨text "alice"⟩) 1 ++
    [WatchAction.connect 2 ⟨text "lobby"⟩ ⟨text "bob"⟩,
      WatchAction.serve (MediaAction.runIo (fun _ _ _ => false) false),
      WatchAction.opened, WatchAction.run 0 true [], WatchAction.receive] ++
      calling WatchCall.initScreen 2 5

/-- Alice starts her stream. -/
def aliceStreams : List WatchAction :=
  serving (ServerEvent.read (generateId 1) (some (encode (Message.streamingStart none)))) 2

/-- The client joins the stream. -/
def joinedSystem : WatchSystem :=
  (execute Orderly act {} (bobWatches ++ aliceStreams ++
    calling (WatchCall.joinStream (generateId 1)) 3 2 ++ delivering 2 ++
      [WatchAction.receive])).getD {}

/-- The client is settled in the lobby as a session of Bob. -/
theorem settled_lobby {system : WatchSystem} {p : Room → Bool} (hquiet : system.Quiet)
    (hclient : system.client.connected = true ∧ system.client.screenSession.isSome = true ∧
      system.socket = some (generateId 2) ∧ system.server.signaling.ended = false)
    (hroom : (system.server.signaling.server.rooms.lookup ⟨text "lobby"⟩).any
      (fun room => decide (generateId 2 ∈ room.sessions) && p room) = true) :
    ∃ room, Settled system (generateId 2) ⟨text "lobby"⟩ room ∧ p room = true := by
  rcases Option.any_eq_true .. |>.mp hroom with ⟨room, hfound, hholds⟩
  rw [Bool.and_eq_true, decide_eq_true_eq] at hholds
  rcases hclient with ⟨hconnected, hlive, hsocket, hrunning⟩
  exact ⟨room, ⟨hquiet, hconnected, hlive, hsocket, hrunning, hfound, hholds.1⟩, hholds.2⟩

/-- The client joins before the stream starts, leaves and joins again; then it handles
the rejection of the first request. -/
def staleSystem : WatchSystem :=
  (execute (fun _ _ => True) act {} (bobWatches ++
    calling (WatchCall.joinStream (generateId 1)) 3 2 ++ delivering 1 ++
      calling (WatchCall.leaveStream (generateId 1)) 4 2 ++ delivering 2 ++ aliceStreams ++
        calling (WatchCall.joinStream (generateId 1)) 5 2 ++ delivering 2 ++
          [WatchAction.receive, WatchAction.run 6 true [], WatchAction.receive])).getD {}

/-- Nothing is on its way, the server has the watch and sends the stream, and the client
does not watch it. -/
theorem stale_rejection_unwatches :
    Reachable Initial Step staleSystem ∧
      (∃ room, Settled staleSystem (generateId 2) ⟨text "lobby"⟩ room ∧
        decide (generateId 1 ∈ room.watched (generateId 2)) = true) ∧
      staleSystem.client.watchedPeers = ∅ ∧ ¬ WatchesAgree staleSystem := by
  have hsettled : ∃ room, Settled staleSystem (generateId 2) ⟨text "lobby"⟩ room ∧
      decide (generateId 1 ∈ room.watched (generateId 2)) = true :=
    settled_lobby (by decide +kernel) (by decide +kernel) (by decide +kernel)
  have hempty : staleSystem.client.watchedPeers = ∅ := by
    decide +kernel
  refine ⟨?_, hsettled, hempty, ?_⟩
  · exact Reachable.execute (fun _ action _ _ hact => ⟨action, hact⟩) (Reachable.start ⟨{}, rfl⟩)
      (execute_eq_some_getD (by decide +kernel))
  · intro hagree
    rcases hsettled with ⟨room, hroom, hwatched⟩
    have hsame := (hagree _ _ room hroom).1
    rw [hempty] at hsame
    rw [← hsame] at hwatched
    simp at hwatched

end WatchSystem

end Client
end Driscord
