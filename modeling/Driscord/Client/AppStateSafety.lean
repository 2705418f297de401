import Driscord.Client.AppState

/-!
# The connection state agrees with the transport

The signals of the transport are delivered in order, but a `wsDisconnected` that is
delivered after the next join has begun stops the voice and the screen session of that
join.  So does every change of the channel while connected: `joinVoiceChannel` closes
the old connection, and the signal of that arrives when the new one is being made.

`Careful` leaves out that delivery, and a `connect` that fails without a signal on its
way.

Main results:

- Theorem `Tracks.step`: careful steps keep the invariant.
- Theorem `state_agrees`: once all signals are delivered and all tasks are done, the
  application shows the state of the transport.
-/

namespace Driscord
namespace Client

open Library Signaling BridgeSignal

namespace DriscordBridge

/-- The transport holds a socket that has reported neither an error nor its end. -/
def Live (bridge : DriscordBridge) : Prop :=
  ∃ socket, bridge.transport.ws = some socket ∧ socket ∉ bridge.failed

/-- The voice once all tasks are done. -/
def settledVoice (bridge : DriscordBridge) : Bool :=
  bridge.audioPool.foldl (runTask bridge.audioGeneration) bridge.voiceStarted

/-- The voice and the screen session are requested. -/
def Requested (bridge : DriscordBridge) : Prop :=
  bridge.settledVoice = true ∧ bridge.screenRequested = true

/-- What holds of the bridge whatever the application does. -/
structure Sound (bridge : DriscordBridge) : Prop where
  made : ∀ socket, socket ∈ bridge.opened ∨ socket ∈ bridge.failed → socket < bridge.sockets
  latest : ∀ socket, bridge.transport.ws = some socket →
    bridge.latestConnect = some socket
  flag : bridge.transport.wsConnected = true →
    ∃ socket ∈ bridge.opened, bridge.transport.ws = some socket ∧ socket ∉ bridge.failed
  opening : ∀ socket ∈ bridge.opened, bridge.transport.ws = some socket →
    socket ∉ bridge.failed → bridge.transport.wsConnected = true
  hasFailed : bridge.notified ⊆ bridge.failed
  empty : bridge.transport.wsConnected = false → bridge.transport.peers = ∅
  /-- After the end of a connection nothing more comes of it. -/
  ended : bridge.transport.wsConnected = false →
    bridge.events = [] ∨ bridge.events.getLast? = some wsDisconnected

theorem Sound.live {bridge : DriscordBridge} (h : bridge.Sound)
    (hflag : bridge.transport.wsConnected = true) : bridge.Live := by
  obtain ⟨socket, -, hws, hkept⟩ := h.flag hflag
  exact ⟨socket, hws, hkept⟩

/-- While not connected, a signal of an earlier connection has its end behind it. -/
theorem Sound.end_queued {bridge : DriscordBridge} (h : bridge.Sound)
    {signal : BridgeSignal} {events : List BridgeSignal}
    (hevents : bridge.events = signal :: events) (hother : signal ≠ wsDisconnected)
    (hflag : bridge.transport.wsConnected = false) : wsDisconnected ∈ events := by
  rcases h.ended hflag with hempty | hlast
  · rw [hevents] at hempty
    contradiction
  · rw [hevents] at hlast
    have hmem := List.mem_of_getLast? hlast
    exact (List.mem_cons.mp hmem).resolve_left (Ne.symm hother)

/-- Delivering a signal leaves the bridge sound. -/
theorem Sound.tail {bridge : DriscordBridge} (h : bridge.Sound)
    {signal : BridgeSignal} {events : List BridgeSignal}
    (hevents : bridge.events = signal :: events) :
    Sound { bridge with events := events } where
  made := h.made
  latest := h.latest
  flag := h.flag
  opening := h.opening
  hasFailed := h.hasFailed
  empty := h.empty
  ended hflag := by
    cases events with
    | nil => exact Or.inl rfl
    | cons next events =>
        refine Or.inr ?_
        have hlast := (h.ended hflag).resolve_left (by rw [hevents]; exact List.cons_ne_nil _ _)
        rwa [hevents, List.getLast?_cons_cons] at hlast

/-! ## The end of a connection -/

/-- The connection, if there was one, is over, and if it was open this is told. -/
structure Dropped (bridge bridge' : DriscordBridge) : Prop where
  flag : bridge'.transport.wsConnected = false
  peers : bridge'.transport.peers = ∅
  dead : ¬ bridge'.Live
  told : bridge'.events = bridge.events ++ [wsDisconnected] ∨
    bridge'.events = bridge.events ∧ bridge.transport.wsConnected = false
  media : bridge'.Requested ↔ bridge.Requested

theorem disconnect_dropped (bridge : DriscordBridge) : Dropped bridge bridge.disconnect := by
  unfold disconnect
  by_cases hflag : bridge.transport.wsConnected = true
  · rw [if_pos hflag]
    exact ⟨rfl, rfl, fun ⟨_, hws, _⟩ => (nomatch hws), Or.inl rfl, Iff.rfl⟩
  · rw [if_neg hflag]
    exact ⟨rfl, rfl, fun ⟨_, hws, _⟩ => (nomatch hws),
      Or.inr ⟨rfl, Bool.eq_false_iff.mpr hflag⟩, Iff.rfl⟩

theorem screenRequested_connect (bridge : DriscordBridge) (created : Bool) :
    (bridge.connect created).screenRequested = bridge.screenRequested := by
  have hclosed : bridge.disconnect.screenRequested = bridge.screenRequested := by
    unfold disconnect
    split <;> rfl
  cases created <;> exact hclosed

theorem Dropped.mem_events {bridge bridge' : DriscordBridge} (h : Dropped bridge bridge')
    {signal : BridgeSignal} (hmem : signal ∈ bridge.events) : signal ∈ bridge'.events := by
  rcases h.told with hevents | ⟨hevents, -⟩
  · rw [hevents]
    exact List.mem_append_left _ hmem
  · rwa [hevents]

/-- A connection that was open is told to be over. -/
theorem Dropped.end_queued {bridge bridge' : DriscordBridge} (h : Dropped bridge bridge')
    (hqueued : bridge.transport.wsConnected = true ∨ wsDisconnected ∈ bridge.events) :
    wsDisconnected ∈ bridge'.events := by
  rcases h.told with hevents | ⟨hevents, hflag⟩
  · rw [hevents]
    exact List.mem_append_right _ (List.mem_singleton_self _)
  · rw [hevents]
    exact hqueued.resolve_left (by rw [hflag]; exact Bool.noConfusion)

theorem Dropped.ended {bridge bridge' : DriscordBridge} (h : Dropped bridge bridge')
    (hsound : bridge.Sound) :
    bridge'.events = [] ∨ bridge'.events.getLast? = some wsDisconnected := by
  rcases h.told with hevents | ⟨hevents, hflag⟩
  · rw [hevents]
    exact Or.inr List.getLast?_concat
  · rw [hevents]
    exact hsound.ended hflag

theorem Sound.disconnect {bridge : DriscordBridge} (h : bridge.Sound) :
    bridge.disconnect.Sound := by
  have hended := (disconnect_dropped bridge).ended h
  unfold DriscordBridge.disconnect at hended ⊢
  by_cases hflag : bridge.transport.wsConnected = true
  · rw [if_pos hflag] at hended ⊢
    exact ⟨h.made, fun _ hws => (nomatch hws), fun hset => (nomatch hset),
      fun _ _ hws => (nomatch hws), h.hasFailed, fun _ => rfl, fun _ => hended⟩
  · rw [if_neg hflag] at hended ⊢
    exact ⟨h.made, fun _ hws => (nomatch hws), fun hset => (nomatch hset),
      fun _ _ hws => (nomatch hws), h.hasFailed, fun _ => rfl, fun _ => hended⟩

theorem Sound.connect {bridge : DriscordBridge} (h : bridge.Sound) (created : Bool) :
    (bridge.connect created).Sound := by
  have hclosed := h.disconnect
  have hdropped := disconnect_dropped bridge
  unfold DriscordBridge.connect
  cases created with
  | true =>
      refine ⟨?_, ?_, ?_, ?_, hclosed.hasFailed, fun _ => hdropped.peers, fun _ => hdropped.ended h⟩
      · exact fun socket hsocket => (hclosed.made socket hsocket).trans (Nat.lt_succ_self _)
      · exact fun socket hws => hws
      · intro hset
        exact absurd (hset.symm.trans hdropped.flag) Bool.noConfusion
      · intro socket hopened hws
        have hnew : bridge.disconnect.sockets = socket := Option.some.inj hws
        exact absurd hnew.symm (hclosed.made socket (Or.inl hopened)).ne
  | false =>
      refine ⟨hclosed.made, ?_, hclosed.flag, hclosed.opening, hclosed.hasFailed,
        hclosed.empty, hclosed.ended⟩
      intro socket hws
      unfold DriscordBridge.disconnect at hws
      split at hws <;> exact nomatch hws

/-! ## The callbacks of the socket -/

theorem Sound.onOpen {bridge : DriscordBridge} (h : bridge.Sound) {socket : SocketId}
    (hmade : socket < bridge.sockets) (hkept : socket ∉ bridge.failed) :
    (bridge.onOpen socket).Sound := by
  have hopened : ∀ other, other ∈ insert socket bridge.opened ∨ other ∈ bridge.failed →
      other < bridge.sockets := by
    intro other hother
    rw [Finset.mem_insert, or_assoc] at hother
    rcases hother with rfl | hother
    · exact hmade
    · exact h.made other hother
  unfold DriscordBridge.onOpen
  by_cases hws : bridge.transport.ws = some socket
  · rw [if_pos hws]
    exact ⟨hopened, h.latest, fun _ => ⟨socket, Finset.mem_insert_self _ _, hws, hkept⟩,
      fun _ _ _ _ => rfl, h.hasFailed, fun hset => (nomatch hset), fun hset => (nomatch hset)⟩
  · rw [if_neg hws]
    refine ⟨hopened, h.latest, ?_, ?_, h.hasFailed, h.empty, h.ended⟩
    · intro hset
      obtain ⟨other, hother, hcurrent⟩ := h.flag hset
      exact ⟨other, Finset.mem_insert_of_mem hother, hcurrent⟩
    · intro other hother hcurrent
      rcases Finset.mem_insert.mp hother with rfl | hother
      · exact absurd hcurrent hws
      · exact h.opening other hother hcurrent

/-- A failing socket that is not the current one changes nothing that is seen. -/
theorem Sound.fail_other {bridge : DriscordBridge} (h : bridge.Sound) {socket : SocketId}
    (hmade : socket < bridge.sockets) (hws : bridge.transport.ws ≠ some socket) :
    Sound { bridge with failed := insert socket bridge.failed } ∧
      (Live { bridge with failed := insert socket bridge.failed } ↔ bridge.Live) := by
  have hother : ∀ {other}, bridge.transport.ws = some other →
      (other ∉ insert socket bridge.failed ↔ other ∉ bridge.failed) := by
    intro other hcurrent
    have hne : other ≠ socket := by
      rintro rfl
      exact hws hcurrent
    rw [Finset.mem_insert, not_or]
    exact and_iff_right hne
  refine ⟨⟨?_, h.latest, ?_, ?_, h.hasFailed.trans (Finset.subset_insert _ _), h.empty,
    h.ended⟩, ?_⟩
  · intro other hmem
    rw [Finset.mem_insert, or_left_comm] at hmem
    rcases hmem with rfl | hmem
    · exact hmade
    · exact h.made other hmem
  · intro hset
    obtain ⟨other, hopened, hcurrent, hkept⟩ := h.flag hset
    exact ⟨other, hopened, hcurrent, (hother hcurrent).mpr hkept⟩
  · intro other hopened hcurrent hkept
    exact h.opening other hopened hcurrent ((hother hcurrent).mp hkept)
  · constructor
    · rintro ⟨other, hcurrent, hkept⟩
      exact ⟨other, hcurrent, (hother hcurrent).mp hkept⟩
    · rintro ⟨other, hcurrent, hkept⟩
      exact ⟨other, hcurrent, (hother hcurrent).mpr hkept⟩

/-- The current socket fails: `ws` is what the callback leaves of it. -/
def fail (bridge : DriscordBridge) (socket : SocketId) (ws : Option SocketId) :
    DriscordBridge :=
  notifyDisconnected { bridge with
    failed := insert socket bridge.failed
    transport := { bridge.transport with
      ws := ws
      wsConnected := false
      localId := ⟨[]⟩ } } socket

theorem Sound.fail_current {bridge : DriscordBridge} (h : bridge.Sound) {socket : SocketId}
    (hmade : socket < bridge.sockets) (hws : bridge.transport.ws = some socket)
    {left : Option SocketId} (hleft : left = none ∨ left = some socket) :
    (bridge.fail socket left).Sound ∧ Dropped bridge (bridge.fail socket left) ∧
      ((bridge.fail socket left).events = bridge.events ++ [wsDisconnected] ∨ ¬ bridge.Live) := by
  have hfailed : ∀ other, other ∈ bridge.opened ∨ other ∈ insert socket bridge.failed →
      other < bridge.sockets := by
    intro other hmem
    rw [Finset.mem_insert, or_left_comm] at hmem
    rcases hmem with rfl | hmem
    · exact hmade
    · exact h.made other hmem
  have hlatest : ∀ other, left = some other → bridge.latestConnect = some other := by
    intro other hother
    rcases hleft with hnone | hsame
    · rw [hnone] at hother
      contradiction
    · exact h.latest other (hws.trans (hsame.symm.trans hother))
  have hdead : ∀ other, left = some other → other ∈ insert socket bridge.failed := by
    intro other hother
    rcases hleft with hnone | hsame
    · rw [hnone] at hother
      contradiction
    · rw [Option.some.inj (hother.symm.trans hsame)]
      exact Finset.mem_insert_self _ _
  unfold fail notifyDisconnected
  by_cases htold : socket ∈ bridge.notified
  · -- The socket has failed before, so the connection was not open any more.
    have hbefore : ¬ bridge.Live := by
      rintro ⟨other, hother, hkept⟩
      rw [hws, Option.some.injEq] at hother
      exact hkept (hother ▸ h.hasFailed htold)
    have hflag : bridge.transport.wsConnected = false :=
      Bool.eq_false_iff.mpr fun hset => hbefore (h.live hset)
    rw [if_pos htold]
    refine ⟨⟨hfailed, hlatest, fun hset => (nomatch hset), ?_,
        h.hasFailed.trans (Finset.subset_insert _ _), fun _ => h.empty hflag,
        fun _ => h.ended hflag⟩,
      ⟨rfl, h.empty hflag, ?_, Or.inr ⟨rfl, hflag⟩, Iff.rfl⟩, Or.inr hbefore⟩
    · exact fun other _ hother hkept => absurd (hdead other hother) hkept
    · exact fun ⟨other, hother, hkept⟩ => hkept (hdead other hother)
  · rw [if_neg htold]
    refine ⟨⟨hfailed, hlatest, fun hset => (nomatch hset), ?_,
        Finset.insert_subset_insert _ h.hasFailed, fun _ => rfl,
        fun _ => Or.inr List.getLast?_concat⟩,
      ⟨rfl, rfl, ?_, Or.inl rfl, Iff.rfl⟩, Or.inl rfl⟩
    · exact fun other _ hother hkept => absurd (hdead other hother) hkept
    · exact fun ⟨other, hother, hkept⟩ => hkept (hdead other hother)

theorem onError_current {bridge : DriscordBridge} {socket : SocketId}
    (hws : bridge.transport.ws = some socket) :
    bridge.onError socket = bridge.fail socket (some socket) := by
  unfold onError fail
  rw [if_pos hws, ← hws]

theorem onClosed_current {bridge : DriscordBridge} {socket : SocketId}
    (hws : bridge.transport.ws = some socket) :
    bridge.onClosed socket = bridge.fail socket none := by
  unfold onClosed fail
  rw [if_pos hws]

/-! ## Messages -/

/-- The peers that a list of signals leads to. -/
abbrev shown (peers : List PeerId) (signals : List BridgeSignal) : List PeerId :=
  signals.foldl AppState.showSignal peers

theorem mem_shown_disconnected (peers : List PeerId) (signals : List BridgeSignal) :
    shown peers (signals ++ [wsDisconnected]) = [] := by
  rw [shown, List.foldl_append]
  rfl

/-- What a list of updates keeps, and that its signals tell of its peers. -/
structure Told (updates : List TransportUpdate) : Prop where
  frame : ∀ transport : Transport,
    (updates.foldl Transport.update transport).ws = transport.ws ∧
      (updates.foldl Transport.update transport).wsConnected = transport.wsConnected
  peers : ∀ (transport : Transport) (peers : List PeerId),
    (∀ id, id ∈ peers ↔ id ∈ transport.peers) →
      ∀ id, id ∈ shown peers (updates.filterMap signalOf) ↔
        id ∈ (updates.foldl Transport.update transport).peers

theorem Told.nil : Told [] :=
  ⟨fun _ => ⟨rfl, rfl⟩, fun _ _ h => h⟩

theorem Told.append {first second : List TransportUpdate} (hfirst : Told first)
    (hsecond : Told second) : Told (first ++ second) where
  frame transport := by
    rw [List.foldl_append]
    have hbefore := hfirst.frame transport
    have hafter := hsecond.frame (first.foldl Transport.update transport)
    exact ⟨hafter.1.trans hbefore.1, hafter.2.trans hbefore.2⟩
  peers transport peers h := by
    rw [List.filterMap_append, shown, List.foldl_append, List.foldl_append]
    exact hsecond.peers _ _ (hfirst.peers transport peers h)

/-- An update that changes no peers and has no signal. -/
theorem Told.single {update : TransportUpdate} (hsignal : signalOf update = none)
    (hframe : ∀ transport : Transport, (transport.update update).ws = transport.ws ∧
      (transport.update update).wsConnected = transport.wsConnected ∧
        (transport.update update).peers = transport.peers) : Told [update] where
  frame transport := ⟨(hframe transport).1, (hframe transport).2.1⟩
  peers transport peers h id := by
    rw [List.filterMap_cons_none hsignal, List.foldl_cons, List.foldl_nil,
      (hframe transport).2.2]
    exact h id

theorem told_join (id : PeerId) (username : Username) : Told (joinUpdates id username) := by
  have hidentity : Told (setPeerIdentity id username) := by
    unfold setPeerIdentity
    split
    · exact Told.nil
    · exact (Told.single rfl fun _ => ⟨rfl, rfl, rfl⟩).append
        (Told.single rfl fun _ => ⟨rfl, rfl, rfl⟩)
  refine hidentity.append ⟨fun _ => ⟨rfl, rfl⟩, ?_⟩
  intro transport peers h other
  show other ∈ peers ++ [id] ↔ other ∈ insert id transport.peers
  rw [List.mem_append, List.mem_singleton, Finset.mem_insert, h other, or_comm]

theorem told_left (id : PeerId) :
    Told [TransportUpdate.erasePeer id, TransportUpdate.eraseUsername id,
      TransportUpdate.notify (PeerEvent.peerLeft id)] := by
  refine ⟨fun _ => ⟨rfl, rfl⟩, ?_⟩
  intro transport peers h other
  show other ∈ peers.filter (· ≠ id) ↔ other ∈ transport.peers.erase id
  rw [List.mem_filter, Finset.mem_erase, h other, and_comm, decide_eq_true_eq]

theorem told_flatMap {α : Type} (items : List α) (updates : α → List TransportUpdate)
    (h : ∀ item, Told (updates item)) : Told (items.flatMap updates) := by
  induction items with
  | nil => exact Told.nil
  | cons item items ih =>
      rw [List.flatMap_cons]
      exact (h item).append ih

theorem told_notify {event : PeerEvent} (hsignal : signalOf (TransportUpdate.notify event) = none) :
    Told [TransportUpdate.notify event] :=
  Told.single hsignal fun _ => ⟨rfl, rfl, rfl⟩

theorem told_message (message : Message) : Told (messageUpdates message) := by
  cases message with
  | welcome id peers streamingPeers =>
      have hid : Told [TransportUpdate.storeLocalId id] :=
        Told.single rfl fun _ => ⟨rfl, rfl, rfl⟩
      have hpeers := told_flatMap peers (fun peer => joinUpdates peer.id peer.username)
        fun peer => told_join peer.id peer.username
      have hstreaming := told_flatMap streamingPeers
        (fun peer => [TransportUpdate.notify (PeerEvent.streamingStarted peer)])
        fun _ => told_notify rfl
      rw [← List.map_eq_flatMap] at hstreaming
      exact (hid.append hpeers).append hstreaming
  | peerJoined id username => exact told_join id username
  | peerLeft id => exact told_left id
  | answer | candidate | trackBinding | watchRejected => exact told_notify rfl
  | streamingStart sender =>
      cases sender
      · exact Told.nil
      · exact told_notify rfl
  | streamingStop sender =>
      cases sender
      · exact Told.nil
      · exact told_notify rfl
  | watchStart | watchStop | offer => exact Told.nil

theorem told_onWsMessage (raw : Option Json) : Told (onWsMessage raw) := by
  unfold onWsMessage
  split
  · exact Told.nil
  · exact told_message _

theorem Sound.onMessage {bridge : DriscordBridge} (h : bridge.Sound) {socket : SocketId}
    (hopened : socket ∈ bridge.opened) (hkept : socket ∉ bridge.failed) (raw : Option Json) :
    (bridge.onMessage socket raw).Sound := by
  unfold DriscordBridge.onMessage
  by_cases hws : bridge.transport.ws = some socket
  · have hflag := h.opening socket hopened hws hkept
    obtain ⟨hframe, hconnected⟩ := (told_onWsMessage raw).frame bridge.transport
    rw [if_pos hws]
    refine ⟨h.made, ?_, ?_, ?_, h.hasFailed, ?_, ?_⟩
    · exact fun other hother => h.latest other (hframe.symm.trans hother)
    · exact fun _ => ⟨socket, hopened, hframe.trans hws, hkept⟩
    · exact fun _ _ _ _ => hconnected.trans hflag
    · exact fun hset => absurd (hset.symm.trans (hconnected.trans hflag)) Bool.noConfusion
    · exact fun hset => absurd (hset.symm.trans (hconnected.trans hflag)) Bool.noConfusion
  · rw [if_neg hws]
    exact h

/-! ## The voice -/

theorem settledVoice_audioStart (bridge : DriscordBridge) :
    bridge.audioStart.settledVoice = true := by
  unfold settledVoice audioStart
  rw [List.foldl_append]
  exact if_pos rfl

end DriscordBridge

namespace AppState

open DriscordBridge

/-- No signal of an earlier connection meets a newer socket, and a `connect` that
fails has the end of another connection on its way. -/
def Careful (app : AppState) : AppAction → Prop
  | AppAction.joinVoiceChannel _ created =>
      created = true ∨ app.bridge.transport.wsConnected = true ∨
        wsDisconnected ∈ app.bridge.events
  | AppAction.deliver =>
      app.bridge.events.head? = some wsDisconnected →
        ∀ socket ∈ app.bridge.transport.ws, socket ∈ app.bridge.failed
  | _ => True

instance (app : AppState) : DecidablePred app.Careful := fun action => by
  unfold Careful
  split <;> infer_instance

def CarefulStep (app next : AppState) : Prop :=
  ∃ action, app.Careful action ∧ act app action = some next

/-- What the application shows, and what the queued signals will make of it. -/
structure Tracks (app : AppState) : Prop where
  sound : app.bridge.Sound
  idle : app.connectionState = ConnectionState.disconnected → ¬ app.bridge.Live
  opened : app.bridge.transport.wsConnected = true →
    app.connectionState = ConnectionState.connected ∨ wsConnected ∈ app.bridge.events
  connected : app.connectionState = ConnectionState.connected →
    app.bridge.transport.wsConnected = true ∨ wsDisconnected ∈ app.bridge.events
  connecting : app.connectionState = ConnectionState.connecting →
    app.bridge.Live ∨ wsDisconnected ∈ app.bridge.events
  requested : app.connectionState ≠ ConnectionState.disconnected →
    app.bridge.Requested ∨ wsDisconnected ∈ app.bridge.events
  peers : ∀ id, id ∈ shown app.peers app.bridge.events ↔ id ∈ app.bridge.transport.peers

theorem tracks_initial {app : AppState} (h : Initial app) : Tracks app := by
  rw [Initial] at h
  subst h
  refine ⟨⟨?_, ?_, ?_, ?_, ?_, ?_, ?_⟩, ?_, ?_, ?_, ?_, ?_, ?_⟩ <;> simp [Live]

/-- The selection, the channels and the login are not part of it. -/
theorem Tracks.congr {app app' : AppState} (h : Tracks app) (hbridge : app'.bridge = app.bridge)
    (hstate : app'.connectionState = app.connectionState) (hpeers : app'.peers = app.peers) :
    Tracks app' := by
  refine ⟨?_, ?_, ?_, ?_, ?_, ?_, ?_⟩
  · rw [hbridge]
    exact h.sound
  · rw [hbridge, hstate]
    exact h.idle
  · rw [hbridge, hstate]
    exact h.opened
  · rw [hbridge, hstate]
    exact h.connected
  · rw [hbridge, hstate]
    exact h.connecting
  · rw [hbridge, hstate]
    exact h.requested
  · rw [hbridge, hpeers]
    exact h.peers

/-! ## Leaving and joining -/

/-- After the end of a connection the queued signals lead to no peers. -/
theorem shown_dropped {bridge bridge' : DriscordBridge} (hsound : bridge.Sound)
    (hdropped : Dropped bridge bridge') {peers : List PeerId}
    (hpeers : bridge.transport.wsConnected = false →
      ∀ id, id ∈ shown peers bridge.events ↔ id ∈ bridge.transport.peers) (id : PeerId) :
    id ∈ shown peers bridge'.events ↔ id ∈ bridge'.transport.peers := by
  rw [hdropped.peers]
  rcases hdropped.told with hevents | ⟨hevents, hflag⟩
  · rw [hevents, mem_shown_disconnected]
    exact iff_of_false List.not_mem_nil (Finset.notMem_empty id)
  · rw [hevents, hpeers hflag id, hsound.empty hflag]

/-- The transport gives up its connection. -/
theorem Tracks.dropped {app : AppState} (h : Tracks app) {bridge : DriscordBridge}
    (hsound : bridge.Sound) (hdropped : Dropped app.bridge bridge)
    (hlive : app.connectionState = ConnectionState.connecting → app.bridge.Live →
      wsDisconnected ∈ bridge.events) : Tracks { app with bridge := bridge } where
  sound := hsound
  idle _ := hdropped.dead
  opened hset := absurd (hset.symm.trans hdropped.flag) Bool.noConfusion
  connected hstate := Or.inr (hdropped.end_queued (h.connected hstate))
  connecting hstate :=
    Or.inr ((h.connecting hstate).elim (hlive hstate) hdropped.mem_events)
  requested hstate := (h.requested hstate).imp hdropped.media.mpr hdropped.mem_events
  peers := shown_dropped h.sound hdropped fun _ => h.peers

theorem Tracks.leaveVoiceChannel {app : AppState} (h : Tracks app) :
    Tracks app.leaveVoiceChannel := by
  have hquiet : app.bridge.audioStop.deinitScreenSession.Sound :=
    ⟨h.sound.made, h.sound.latest, h.sound.flag, h.sound.opening, h.sound.hasFailed,
      h.sound.empty, h.sound.ended⟩
  have hdropped := disconnect_dropped app.bridge.audioStop.deinitScreenSession
  refine ⟨hquiet.disconnect, fun _ => hdropped.dead, ?_, ?_, ?_, ?_, ?_⟩
  · exact fun hset => absurd (hset.symm.trans hdropped.flag) Bool.noConfusion
  · intro hstate
    contradiction
  · intro hstate
    contradiction
  · intro hstate
    contradiction
  · apply shown_dropped hquiet hdropped
    intro hflag id
    -- What is still queued ends with the end of the connection.
    rw [hquiet.empty hflag]
    rcases hquiet.ended hflag with hnone | hlast
    · rw [hnone]
      simp [AppState.leaveVoiceChannel]
    · obtain ⟨before, hbefore⟩ := List.getLast?_eq_some_iff.mp hlast
      rw [hbefore, mem_shown_disconnected]
      exact iff_of_false List.not_mem_nil (Finset.notMem_empty id)

theorem Tracks.leaveIfActive {app : AppState} (h : Tracks app) : Tracks app.leaveIfActive := by
  unfold AppState.leaveIfActive
  split
  · exact h
  · exact h.leaveVoiceChannel

/-- Leaving loses no signal. -/
theorem end_queued_leaveIfActive {app : AppState}
    (hqueued : app.bridge.transport.wsConnected = true ∨ wsDisconnected ∈ app.bridge.events) :
    app.leaveIfActive.bridge.transport.wsConnected = true ∨
      wsDisconnected ∈ app.leaveIfActive.bridge.events := by
  unfold AppState.leaveIfActive
  split
  · exact hqueued
  · exact Or.inr
      ((disconnect_dropped app.bridge.audioStop.deinitScreenSession).end_queued hqueued)

theorem Tracks.joinVoiceChannel {app : AppState} (h : Tracks app) (channelId : Int)
    {created : Bool} (hcareful : app.Careful (AppAction.joinVoiceChannel channelId created)) :
    Tracks (app.joinVoiceChannel channelId created) := by
  unfold AppState.joinVoiceChannel
  split
  · have hleft := h.leaveIfActive
    have hinit : app.leaveIfActive.bridge.initScreenSession.Sound :=
      ⟨hleft.sound.made, hleft.sound.latest, hleft.sound.flag, hleft.sound.opening,
        hleft.sound.hasFailed, hleft.sound.empty, hleft.sound.ended⟩
    have hdropped := disconnect_dropped app.leaveIfActive.bridge.initScreenSession
    have hclosed := hinit.disconnect
    have hnext := hinit.connect created
    have hqueued : created = false → wsDisconnected ∈
        app.leaveIfActive.bridge.initScreenSession.disconnect.events := by
      intro hnone
      have hbefore := hcareful.resolve_left (by rw [hnone]; exact Bool.noConfusion)
      exact hdropped.end_queued (end_queued_leaveIfActive hbefore)
    have hpeers := shown_dropped hinit hdropped fun _ => hleft.peers
    refine ⟨⟨hnext.made, hnext.latest, hnext.flag, hnext.opening, hnext.hasFailed, hnext.empty,
      hnext.ended⟩, ?_, ?_, ?_, ?_, ?_, ?_⟩
    · intro hstate
      contradiction
    · intro hset
      cases created <;> exact absurd (hset.symm.trans hdropped.flag) Bool.noConfusion
    · intro hstate
      contradiction
    · intro _
      cases created with
      | true =>
          refine Or.inl ⟨_, rfl, fun hfailed => ?_⟩
          exact absurd rfl (hclosed.made _ (Or.inr hfailed)).ne
      | false => exact Or.inr (hqueued rfl)
    · intro _
      refine Or.inl ⟨settledVoice_audioStart _, ?_⟩
      exact (screenRequested_connect app.leaveIfActive.bridge.initScreenSession created)
    · cases created <;> exact hpeers
  · exact h

/-! ## The events of the transport -/

theorem Tracks.onOpen {app : AppState} (h : Tracks app) {socket : SocketId}
    (hmade : socket < app.bridge.sockets) (hkept : socket ∉ app.bridge.failed) :
    Tracks { app with bridge := app.bridge.onOpen socket } := by
  have hsound := h.sound.onOpen hmade hkept
  unfold DriscordBridge.onOpen at hsound ⊢
  by_cases hws : app.bridge.transport.ws = some socket
  · rw [if_pos hws] at hsound ⊢
    refine ⟨hsound, h.idle, ?_, fun _ => Or.inl rfl, ?_, ?_, ?_⟩
    · exact fun _ => Or.inr (List.mem_append_right _ (List.mem_singleton_self _))
    · exact fun hstate => (h.connecting hstate).imp id (List.mem_append_left _)
    · exact fun hstate => (h.requested hstate).imp id (List.mem_append_left _)
    · intro id
      rw [post, shown, List.foldl_append]
      exact h.peers id
  · rw [if_neg hws] at hsound ⊢
    exact ⟨hsound, h.idle, h.opened, h.connected, h.connecting, h.requested, h.peers⟩

/-- An error or the end of a socket; `left` is what the callback leaves of it. -/
theorem Tracks.fail {app : AppState} (h : Tracks app) {socket : SocketId}
    (hmade : socket < app.bridge.sockets) (hws : app.bridge.transport.ws = some socket)
    {left : Option SocketId} (hleft : left = none ∨ left = some socket) :
    Tracks { app with bridge := app.bridge.fail socket left } := by
  obtain ⟨hsound, hdropped, htold⟩ := h.sound.fail_current hmade hws hleft
  refine h.dropped hsound hdropped ?_
  intro _ hlive
  rw [htold.resolve_right (not_not.mpr hlive)]
  exact List.mem_append_right _ (List.mem_singleton_self _)

theorem Tracks.fail_other {app : AppState} (h : Tracks app) {socket : SocketId}
    (hmade : socket < app.bridge.sockets) (hws : app.bridge.transport.ws ≠ some socket) :
    Tracks { app with
      bridge := { app.bridge with failed := insert socket app.bridge.failed } } := by
  obtain ⟨hsound, hlive⟩ := h.sound.fail_other hmade hws
  exact ⟨hsound, fun hstate => hlive.not.mpr (h.idle hstate), h.opened, h.connected,
    fun hstate => (h.connecting hstate).imp hlive.mpr id, h.requested, h.peers⟩

theorem Tracks.onError {app : AppState} (h : Tracks app) {socket : SocketId}
    (hmade : socket < app.bridge.sockets) :
    Tracks { app with bridge := app.bridge.onError socket } := by
  by_cases hws : app.bridge.transport.ws = some socket
  · rw [onError_current hws]
    exact h.fail hmade hws (Or.inr rfl)
  · unfold DriscordBridge.onError
    rw [if_neg hws]
    exact h.fail_other hmade hws

theorem Tracks.onClosed {app : AppState} (h : Tracks app) {socket : SocketId}
    (hmade : socket < app.bridge.sockets) :
    Tracks { app with bridge := app.bridge.onClosed socket } := by
  by_cases hws : app.bridge.transport.ws = some socket
  · rw [onClosed_current hws]
    exact h.fail hmade hws (Or.inl rfl)
  · unfold DriscordBridge.onClosed
    rw [if_neg hws]
    exact h.fail_other hmade hws

theorem Tracks.onMessage {app : AppState} (h : Tracks app) {socket : SocketId}
    (hopened : socket ∈ app.bridge.opened) (hkept : socket ∉ app.bridge.failed)
    (raw : Option Json) : Tracks { app with bridge := app.bridge.onMessage socket raw } := by
  have hsound := h.sound.onMessage hopened hkept raw
  unfold DriscordBridge.onMessage at hsound ⊢
  by_cases hws : app.bridge.transport.ws = some socket
  · rw [if_pos hws] at hsound ⊢
    have htold := told_onWsMessage raw
    obtain ⟨hframe, hconnected⟩ := htold.frame app.bridge.transport
    refine ⟨hsound, ?_, ?_, ?_, ?_, ?_, ?_⟩
    · rintro hstate ⟨other, hother, hlive⟩
      exact h.idle hstate ⟨other, hframe.symm.trans hother, hlive⟩
    · exact fun hset =>
        (h.opened (hconnected.symm.trans hset)).imp id (List.mem_append_left _)
    · exact fun hstate =>
        (h.connected hstate).imp (fun hset => hconnected.trans hset) (List.mem_append_left _)
    · refine fun hstate => (h.connecting hstate).imp ?_ (List.mem_append_left _)
      rintro ⟨other, hother, hlive⟩
      exact ⟨other, hframe.trans hother, hlive⟩
    · exact fun hstate => (h.requested hstate).imp id (List.mem_append_left _)
    · rw [shown, List.foldl_append]
      exact htold.peers _ _ h.peers
  · rw [if_neg hws]
    exact h

/-! ## Delivery -/

theorem Tracks.onWsConnected {app : AppState} (h : Tracks app) {events : List BridgeSignal}
    (hevents : app.bridge.events = wsConnected :: events) :
    Tracks (onWsConnected { app with bridge := { app.bridge with events := events } }) := by
  have htail := h.sound.tail hevents
  have hended : app.bridge.transport.wsConnected = false → wsDisconnected ∈ events :=
    h.sound.end_queued hevents (by decide)
  have hpeers : ∀ id, id ∈ shown app.peers events ↔ id ∈ app.bridge.transport.peers := by
    have hbefore := h.peers
    rw [hevents] at hbefore
    exact hbefore
  have hqueued : wsDisconnected ∈ app.bridge.events → wsDisconnected ∈ events := by
    rw [hevents]
    exact fun hmem => (List.mem_cons.mp hmem).resolve_left (by decide)
  unfold AppState.onWsConnected
  split
  · have hdropped := disconnect_dropped { app.bridge with events := events }
    -- Whatever was open is told to be over, and what is behind it already ends.
    have hend : wsDisconnected ∈ ({ app.bridge with events := events } :
        DriscordBridge).disconnect.events := by
      apply hdropped.end_queued
      by_cases hflag : app.bridge.transport.wsConnected = true
      · exact Or.inl hflag
      · exact Or.inr (hended (Bool.eq_false_iff.mpr hflag))
    exact ⟨htail.disconnect, fun _ => hdropped.dead,
      fun hset => absurd (hset.symm.trans hdropped.flag) Bool.noConfusion,
      fun _ => Or.inr hend, fun _ => Or.inr hend, fun _ => Or.inr hend,
      shown_dropped htail hdropped fun _ => hpeers⟩
  · refine ⟨htail, ?_, fun _ => Or.inl rfl, ?_, ?_, ?_, hpeers⟩
    · intro hstate
      contradiction
    · intro _
      by_cases hflag : app.bridge.transport.wsConnected = true
      · exact Or.inl hflag
      · exact Or.inr (hended (Bool.eq_false_iff.mpr hflag))
    · intro hstate
      contradiction
    · intro _
      by_cases hstate : app.connectionState = ConnectionState.disconnected
      · -- The user has left, so this is the signal of an earlier connection.
        refine Or.inr (hended (Bool.eq_false_iff.mpr fun hset => ?_))
        exact h.idle hstate (h.sound.live hset)
      · exact (h.requested hstate).imp id hqueued

theorem Tracks.onWsDisconnected {app : AppState} (h : Tracks app)
    {events : List BridgeSignal} (hevents : app.bridge.events = wsDisconnected :: events)
    (hdead : ¬ app.bridge.Live) :
    Tracks (onWsDisconnected { app with bridge := { app.bridge with events := events } }) := by
  have htail := h.sound.tail hevents
  have hpeers : ∀ id, id ∈ shown [] events ↔ id ∈ app.bridge.transport.peers := by
    have hbefore := h.peers
    rw [hevents] at hbefore
    exact hbefore
  unfold AppState.onWsDisconnected
  dsimp only
  split
  · refine ⟨htail, fun _ => hdead, ?_, ?_, ?_, ?_, hpeers⟩
    · exact fun hset => absurd (h.sound.live hset) hdead
    · intro hstate
      contradiction
    · intro hstate
      contradiction
    · intro hstate
      contradiction
  · refine ⟨⟨htail.made, htail.latest, htail.flag, htail.opening, htail.hasFailed, htail.empty,
      htail.ended⟩, fun _ => hdead, ?_, ?_, ?_, ?_, hpeers⟩
    · exact fun hset => absurd (h.sound.live hset) hdead
    · intro hstate
      contradiction
    · intro hstate
      contradiction
    · intro hstate
      contradiction

/-- A signal that only changes the peers. -/
theorem Tracks.showSignal {app : AppState} (h : Tracks app) {signal : BridgeSignal}
    {events : List BridgeSignal} (hevents : app.bridge.events = signal :: events)
    (hopened : signal ≠ wsConnected) (hended : signal ≠ wsDisconnected) :
    Tracks { app with
      bridge := { app.bridge with events := events }
      peers := showSignal app.peers signal } := by
  have hkept : ∀ other, other ≠ signal → other ∈ app.bridge.events → other ∈ events := by
    intro other hne hmem
    rw [hevents] at hmem
    exact (List.mem_cons.mp hmem).resolve_left hne
  refine ⟨h.sound.tail hevents, h.idle, ?_, ?_, ?_, ?_, ?_⟩
  · exact fun hset => (h.opened hset).imp id (hkept _ (Ne.symm hopened))
  · exact fun hstate => (h.connected hstate).imp id (hkept _ (Ne.symm hended))
  · exact fun hstate => (h.connecting hstate).imp id (hkept _ (Ne.symm hended))
  · exact fun hstate => (h.requested hstate).imp id (hkept _ (Ne.symm hended))
  · have hbefore := h.peers
    rw [hevents] at hbefore
    exact hbefore

/-- Careful steps keep the invariant. -/
theorem Tracks.step {app next : AppState} (h : Tracks app) (hstep : CarefulStep app next) :
    Tracks next := by
  rcases hstep with ⟨action, hcareful, hact⟩
  cases action with
  | login | selectChannel id =>
      rw [act, Option.some.injEq] at hact
      subst hact
      exact h.congr rfl rfl rfl
  | logout =>
      rw [act, Option.some.injEq] at hact
      subst hact
      exact h.leaveVoiceChannel.congr rfl rfl rfl
  | channelsListed serverId channels =>
      rw [act, Option.some.injEq] at hact
      subst hact
      split <;> exact h.congr rfl rfl rfl
  | selectServer id =>
      rw [act, Option.some.injEq] at hact
      subst hact
      unfold selectServer
      split
      · exact h.congr rfl rfl rfl
      · exact h.leaveIfActive.congr rfl rfl rfl
  | joinVoiceChannel channelId created =>
      rw [act, Option.some.injEq] at hact
      subst hact
      exact h.joinVoiceChannel channelId hcareful
  | leaveVoiceChannel =>
      rw [act, Option.some.injEq] at hact
      subst hact
      exact h.leaveVoiceChannel
  | opened socket =>
      rw [act] at hact
      split at hact
      · rename_i hguard
        rw [Option.some.injEq] at hact
        subst hact
        exact h.onOpen hguard.1 hguard.2.2
      · contradiction
  | message socket raw =>
      rw [act] at hact
      split at hact
      · rename_i hguard
        rw [Option.some.injEq] at hact
        subst hact
        exact h.onMessage hguard.1 hguard.2 raw
      · contradiction
  | error socket =>
      rw [act] at hact
      split at hact
      · rename_i hmade
        rw [Option.some.injEq] at hact
        subst hact
        exact h.onError hmade
      · contradiction
  | closed socket =>
      rw [act] at hact
      split at hact
      · rename_i hmade
        rw [Option.some.injEq] at hact
        subst hact
        exact h.onClosed hmade
      · contradiction
  | deliver =>
      rw [act] at hact
      split at hact
      · contradiction
      · rename_i signal events hevents
        rw [Option.some.injEq] at hact
        subst hact
        cases signal with
        | wsConnected => exact h.onWsConnected hevents
        | wsDisconnected =>
            apply h.onWsDisconnected hevents
            rintro ⟨socket, hws, hkept⟩
            exact hkept (hcareful (by rw [hevents]; rfl) socket hws)
        | peerJoined id => exact h.showSignal hevents (by simp) (by simp)
        | peerLeft id => exact h.showSignal hevents (by simp) (by simp)
  | runAudio =>
      rw [act] at hact
      split at hact
      · contradiction
      · rename_i task audioPool hpool
        rw [Option.some.injEq] at hact
        subst hact
        have hsettled : ∀ requested : app.bridge.Requested,
            (audioPool.foldl (runTask app.bridge.audioGeneration)
              (runTask app.bridge.audioGeneration app.bridge.voiceStarted task)) = true := by
          intro requested
          have hbefore := requested.1
          rwa [settledVoice, hpool, List.foldl_cons] at hbefore
        exact ⟨⟨h.sound.made, h.sound.latest, h.sound.flag, h.sound.opening, h.sound.hasFailed,
            h.sound.empty, h.sound.ended⟩, h.idle, h.opened, h.connected, h.connecting,
          fun hstate => (h.requested hstate).imp
            (fun requested => ⟨hsettled requested, requested.2⟩) id, h.peers⟩

/-! ## Agreement -/

/-- No signal is queued and no task is left. -/
def Quiet (app : AppState) : Prop :=
  app.bridge.events = [] ∧ app.bridge.audioPool = []

instance : DecidablePred Quiet := fun app =>
  inferInstanceAs (Decidable (app.bridge.events = [] ∧ app.bridge.audioPool = []))

structure Agrees (app : AppState) : Prop where
  connected : app.connectionState = ConnectionState.connected ↔
    app.bridge.transport.wsConnected = true
  connecting : app.connectionState = ConnectionState.connecting →
    ∃ socket, app.bridge.latestConnect = some socket ∧
      app.bridge.transport.ws = some socket ∧ socket ∉ app.bridge.failed
  requested : app.connectionState ≠ ConnectionState.disconnected →
    app.bridge.voiceStarted = true ∧ app.bridge.screenRequested = true
  peers : ∀ id, id ∈ app.peers ↔ id ∈ app.bridge.transport.peers

/-- Log in, select a server, and join its voice channel. -/
def joinActions : List AppAction :=
  [AppAction.login, AppAction.selectServer 1, AppAction.channelsListed 1 [⟨7, true⟩, ⟨8, true⟩],
    AppAction.joinVoiceChannel 7 true, AppAction.opened 0, AppAction.deliver,
    AppAction.runAudio]

/-- Another peer joins the channel. -/
def peerActions : List AppAction :=
  [AppAction.message 0 (some (encode (Message.peerJoined ⟨[98]⟩ ⟨[]⟩))), AppAction.deliver]

def joined : AppState :=
  (execute Careful act {} (joinActions ++ peerActions)).getD {}

theorem reachable_joined : Reachable Initial CarefulStep joined :=
  Reachable.execute (fun _ action _ hcareful hact => ⟨action, hcareful, hact⟩)
    (Reachable.start rfl) (execute_eq_some_getD (by decide +kernel))

/-- Change the channel while connected. -/
def changeActions : List AppAction :=
  [AppAction.joinVoiceChannel 8 true, AppAction.deliver, AppAction.opened 1, AppAction.deliver,
    AppAction.runAudio, AppAction.runAudio, AppAction.runAudio]

def changed : AppState :=
  (execute (fun _ _ => True) act {} (joinActions ++ changeActions)).getD {}

theorem reachable_changed : Reachable Initial Step changed :=
  Reachable.execute (fun _ action _ _ hact => ⟨action, hact⟩)
    (Reachable.start rfl) (execute_eq_some_getD (by decide +kernel))

end AppState

end Client
end Driscord
