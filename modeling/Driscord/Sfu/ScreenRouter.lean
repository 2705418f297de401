import Driscord.Library.FirstFit
import Driscord.Library.Table
import Driscord.Sfu.Track
import Mathlib.Data.List.Sort

/-!
# The screen router

`ScreenRouter` forwards the video and audio of a streaming publisher to an
output pair of every peer that watches it.  A pair takes part in the assignment
once both its tracks are registered and ready.  `register_output` has two
critical sections, because a track becomes ready only after its description has
been set.

As for the voice router, the operations take what `expired` answers as a
parameter, and a loop over all peers is a map over the table.  The four input
fields of each media type are grouped in one structure.
-/

namespace Driscord
namespace Sfu

open Library

namespace Screen

/-- `ScreenRouter::Impl::OutputTrack`. -/
structure OutputTrack where
  mid : Bytes
  ssrc : UInt32
  track : WeakTrack
  ready : Bool := false
  rewriter : SharedRewriter
  sourceGeneration : Nat := 0
deriving DecidableEq, Repr

/-- `ScreenRouter::Impl::OutputPair`, without its CNAME, which only configures
the media handlers. -/
structure OutputPair where
  video : Option OutputTrack := none
  audio : Option OutputTrack := none
  publisher : Option PeerId := none
deriving DecidableEq, Repr

/-- The input fields of one media type of a peer. -/
structure InputState where
  track : WeakTrack := none
  midExtensionId : Option UInt8 := none
  faultState : RtpFaultState := {}
  linkState : LinkModelState := {}
deriving DecidableEq, Repr

/-- `ScreenRouter::Impl::PeerState`. -/
structure PeerState where
  order : Nat
  video : InputState := {}
  audio : InputState := {}
  outputs : List OutputPair := []
  sendBinding : BindingSender := none
  streaming : Bool := false
  watchedPublishers : Table PeerId Nat := ∅
  nextWatchOrder : Nat := 0

/-- `ScreenRouter::Impl::DelayedPacket`. -/
structure DelayedPacket where
  publisher : PeerId
  mediaType : MediaType
  expectedInput : WeakTrack
  packet : Bytes
deriving DecidableEq, Repr

/-! ## Output tracks and pairs -/

/-- Start the track's source anew. -/
def OutputTrack.restart (output : OutputTrack) : OutputTrack :=
  { output with
    rewriter := output.rewriter.beginSource
    sourceGeneration := output.rewriter.beginSource.generation }

/-- End the track's source. -/
def OutputTrack.stop (output : OutputTrack) : OutputTrack :=
  { output with
    rewriter := output.rewriter.endSource
    sourceGeneration := 0 }

/-- The target of an output track. -/
def OutputTrack.target (output : OutputTrack) : Target where
  track := output.track
  ssrc := output.ssrc
  rewriter := output.rewriter.id
  sourceGeneration := output.sourceGeneration
  collectedAt := output.rewriter.generation

/-- Storing a rewriter state in an output track. -/
def OutputTrack.storeRewriter (id : RewriterId) (state : RtpSlotRewriter)
    (output : OutputTrack) : OutputTrack :=
  { output with rewriter := SharedRewriter.store id state output.rewriter }

/-- The output of a media type. -/
def OutputPair.output (mediaType : MediaType) (pair : OutputPair) : Option OutputTrack :=
  match mediaType with
  | MediaType.video => pair.video
  | MediaType.audio => pair.audio

/-- Write the output of a media type. -/
def OutputPair.setOutput (mediaType : MediaType) (output : Option OutputTrack)
    (pair : OutputPair) : OutputPair :=
  match mediaType with
  | MediaType.video => { pair with video := output }
  | MediaType.audio => { pair with audio := output }

/-- The outputs that are there, video first. -/
def OutputPair.outputs (pair : OutputPair) : List OutputTrack :=
  pair.video.toList ++ pair.audio.toList

/-- Restart the output of one media type. -/
def OutputPair.restart (mediaType : MediaType) (pair : OutputPair) : OutputPair :=
  pair.setOutput mediaType ((pair.output mediaType).map OutputTrack.restart)

/-- `clear_pair_locked` on the pair. -/
def OutputPair.clear (pair : OutputPair) : OutputPair :=
  if pair.publisher = none then pair
  else
    { video := pair.video.map OutputTrack.stop
      audio := pair.audio.map OutputTrack.stop
      publisher := none }

/-- Bind the pair to a publisher. -/
def OutputPair.bindTo (publisher : PeerId) (pair : OutputPair) : OutputPair where
  video := pair.video.map OutputTrack.restart
  audio := pair.audio.map OutputTrack.restart
  publisher := some publisher

/-- Apply an update to the pair if it is bound to `owner`. -/
def OutputPair.ifBoundTo (owner : PeerId) (update : OutputPair → OutputPair)
    (pair : OutputPair) : OutputPair :=
  if pair.publisher = some owner then update pair else pair

/-- `append_pair_notices`: a notice for each ready output. -/
def OutputPair.notices (send : BindingSender) (pair : OutputPair) : List BindingNotice :=
  (pair.outputs.filter OutputTrack.ready).map fun output =>
    ⟨send, output.mid, pair.publisher⟩

/-- The output is registered, ready and not expired. -/
def outputLive (expired : TrackId → Bool) : Option OutputTrack → Bool
  | none => false
  | some output => output.ready && !trackExpired expired output.track

/-- The pair is unbound and both its outputs are ready and live. -/
def OutputPair.available (expired : TrackId → Bool) (pair : OutputPair) : Bool :=
  pair.publisher.isNone && outputLive expired pair.video && outputLive expired pair.audio

/-- The pair's output of the media type has this mid. -/
def OutputPair.hasMid (mediaType : MediaType) (mid : Bytes) (pair : OutputPair) : Bool :=
  (pair.output mediaType).any fun output => output.mid = mid

/-- `output_pair_for`: the pair with the mid, or else one that lacks the media
type, or else a new one.  Returns the pairs before it, it and the pairs behind. -/
def outputPairFor (mediaType : MediaType) (mid : Bytes) (pairs : List OutputPair) :
    List OutputPair × OutputPair × List OutputPair :=
  match splitFirst (OutputPair.hasMid mediaType mid) pairs with
  | some found => found
  | none =>
      match splitFirst (fun pair => (pair.output mediaType).isNone) pairs with
      | some found => found
      | none => (pairs, {}, [])

/-- `output_by_mid` and the readiness mark of `register_output`. -/
def markReady (mediaType : MediaType) (mid : Bytes) (track : TrackId) :
    List OutputPair → List OutputPair
  | [] => []
  | pair :: pairs =>
      if pair.hasMid mediaType mid then
        pair.setOutput mediaType ((pair.output mediaType).map fun output =>
          if output.track = some track then { output with ready := true } else output) :: pairs
      else pair :: markReady mediaType mid track pairs

/-! ## Peers -/

/-- The input of a media type. -/
def PeerState.input (mediaType : MediaType) (peer : PeerState) : InputState :=
  match mediaType with
  | MediaType.video => peer.video
  | MediaType.audio => peer.audio

/-- Write the input of a media type. -/
def PeerState.setInputState (mediaType : MediaType) (input : InputState) (peer : PeerState) :
    PeerState :=
  match mediaType with
  | MediaType.video => { peer with video := input }
  | MediaType.audio => { peer with audio := input }

/-- `register_input` stores the track with fresh input states for a new source. -/
def InputState.store (track : Track) (input : InputState) : InputState :=
  if input.track = some track.id then { input with midExtensionId := track.midExtensionId }
  else { track := some track.id, midExtensionId := track.midExtensionId }

/-- The rewriters of a peer's pairs. -/
def PeerState.rewriters (peer : PeerState) : List SharedRewriter :=
  (peer.outputs.flatMap OutputPair.outputs).map OutputTrack.rewriter

end Screen

open Screen in
/-- `ScreenRouter::Impl`.  `nextRewriter` names the next rewriter object, and
`detached` keeps the rewriters of dropped outputs, which only targets of packets
in flight still refer to. -/
structure ScreenRouter where
  peers : Table PeerId PeerState := ∅
  faultConfig : RtpFaultConfig := {}
  nextPeerOrder : Nat := 0
  closed : Bool := false
  executor : Bool := false
  delayQueue : List (Int × DelayedPacket) := []
  nextRewriter : RewriterId := 0
  detached : List SharedRewriter := []

namespace ScreenRouter

open Screen

/-- `peer_for_locked`: the peer is there afterwards. -/
def peerForLocked (router : ScreenRouter) (peerId : PeerId) : ScreenRouter :=
  if peerId ∈ router.peers then router
  else
    { router with
      peers := router.peers.insert peerId { order := router.nextPeerOrder }
      nextPeerOrder := router.nextPeerOrder + 1 }

/-- The `order` of a peer. -/
def orderOf (router : ScreenRouter) (peerId : PeerId) : Nat :=
  ((router.peers.lookup peerId).map PeerState.order).getD 0

/-- The comparison of `ordered_peers_locked`. -/
def before (router : ScreenRouter) (lhs rhs : PeerId) : Bool :=
  if router.orderOf lhs ≠ router.orderOf rhs then
    decide (router.orderOf lhs < router.orderOf rhs)
  else decide (lhs.value < rhs.value)

/-- `ordered_peers_locked`. -/
def orderedPeersLocked (router : ScreenRouter) : List PeerId :=
  router.peers.keys.insertionSort fun lhs rhs => router.before rhs lhs = false

/-- The comparison of `ordered_watches_locked`. -/
def watchedBefore (router : ScreenRouter) (subscriber : PeerState) (lhs rhs : PeerId) : Bool :=
  let leftWatch := (subscriber.watchedPublishers.lookup lhs).getD 0
  let rightWatch := (subscriber.watchedPublishers.lookup rhs).getD 0
  if leftWatch ≠ rightWatch then decide (leftWatch < rightWatch)
  else if lhs ∈ router.peers ∧ rhs ∈ router.peers ∧ router.orderOf lhs ≠ router.orderOf rhs then
    decide (router.orderOf lhs < router.orderOf rhs)
  else decide (lhs.value < rhs.value)

/-- `ordered_watches_locked`. -/
def orderedWatchesLocked (router : ScreenRouter) (subscriber : PeerState) : List PeerId :=
  subscriber.watchedPublishers.keys.insertionSort fun lhs rhs =>
    router.watchedBefore subscriber rhs lhs = false

/-- Write one peer. -/
def modifyPeer (router : ScreenRouter) (peerId : PeerId) (f : PeerState → PeerState) :
    ScreenRouter :=
  { router with peers := Table.modify peerId f router.peers }

/-- The loop over the pairs bound to `owner`, of the subscribers concerned: update
each and give notice. -/
def sweepBound (router : ScreenRouter) (concerned : PeerId → Bool) (owner : PeerId)
    (update : OutputPair → OutputPair) : ScreenRouter × List BindingNotice :=
  ({ router with
      peers := Table.mapValues (fun peerId subscriber =>
        if concerned peerId then
          { subscriber with
            outputs := subscriber.outputs.map (OutputPair.ifBoundTo owner update) }
        else subscriber) router.peers },
    router.peers.entries.flatMap fun entry =>
      if concerned entry.1 then
        (entry.2.outputs.filter fun pair => pair.publisher = some owner).flatMap fun pair =>
          (update pair).notices entry.2.sendBinding
      else [])

/-! ## The assignment pass -/

/-- The publisher is another peer that streams and whose video input has not
expired. -/
def assignable (router : ScreenRouter) (expired : Expiry) (subscriber publisher : PeerId) :
    Bool :=
  decide (publisher ≠ subscriber) &&
    match router.peers.lookup publisher with
    | none => false
    | some peer => peer.streaming && !trackExpired (expired subscriber publisher) peer.video.track

/-- The turn of `assign_available_locked` for one subscriber: the bindings made
and the pairs afterwards.  Without watched publishers nothing happens. -/
def assignSubscriber (router : ScreenRouter) (expired : Expiry) (subscriber : PeerId)
    (peer : PeerState) : List (PeerId × OutputPair) × List OutputPair :=
  firstFit (router.assignable expired subscriber)
    (fun publisher => OutputPair.available (expired subscriber publisher))
    OutputPair.bindTo (router.orderedWatchesLocked peer)
    (peer.outputs.filterMap OutputPair.publisher) peer.outputs

/-- The notices of one subscriber's turn. -/
def assignmentNotices (router : ScreenRouter) (expired : Expiry) (subscriber : PeerId) :
    List BindingNotice :=
  match router.peers.lookup subscriber with
  | none => []
  | some peer =>
      (router.assignSubscriber expired subscriber peer).1.flatMap fun binding =>
        binding.2.notices peer.sendBinding

/-- `assign_available_locked`. -/
def assignAvailableLocked (router : ScreenRouter) (expired : Expiry) :
    ScreenRouter × List BindingNotice :=
  ({ router with
      peers := Table.mapValues (fun subscriber peer =>
        { peer with outputs := (router.assignSubscriber expired subscriber peer).2 })
        router.peers },
    router.orderedPeersLocked.flatMap (router.assignmentNotices expired))

/-- Run the assignment pass after the first part of an operation. -/
def thenAssign (expired : Expiry) (first : ScreenRouter × List BindingNotice) :
    ScreenRouter × List BindingNotice :=
  let assigned := first.1.assignAvailableLocked expired
  (assigned.1, first.2 ++ assigned.2)

/-! ## Operations -/

/-- `source_changed`: the caller holds `track`, so locking the stored pointer
yields it exactly when the pointer was made from it. -/
def sourceChanged (router : ScreenRouter) (owner : PeerId) (track : Track)
    (mediaType : MediaType) : Bool :=
  match router.peers.lookup owner with
  | none => true
  | some peer => decide ((peer.input mediaType).track ≠ some track.id)

/-- `register_input`. -/
def registerInput (router : ScreenRouter) (expired : Expiry) (owner : PeerId) (track : Track)
    (mediaType : MediaType) (sendBinding : BindingSender) :
    ScreenRouter × List BindingNotice :=
  if router.closed then (router, [])
  else
    let changed := router.sourceChanged owner track mediaType
    let stored := (router.peerForLocked owner).modifyPeer owner fun peer =>
      { peer.setInputState mediaType ((peer.input mediaType).store track) with
        sendBinding := sendBinding }
    thenAssign expired
      (if changed then
        stored.sweepBound (fun _ => true) owner (OutputPair.restart mediaType)
      else (stored, []))

/-- What `register_output` has to do in its second critical section. -/
structure PendingOutput where
  owner : PeerId
  track : TrackId
  mid : Bytes
  mediaType : MediaType

/-- The first critical section of `register_output`: clear the pair and place
the track, which is not ready yet. -/
def registerOutput (router : ScreenRouter) (owner : PeerId) (track : Track) (ssrc : UInt32)
    (mediaType : MediaType) (sendBinding : BindingSender) :
    ScreenRouter × List BindingNotice × Option PendingOutput :=
  if router.closed then (router, [], none)
  else
    let router := router.peerForLocked owner
    let output : OutputTrack :=
      { mid := track.mid
        ssrc := ssrc
        track := some track.id
        rewriter :=
          ⟨router.nextRewriter,
            match mediaType with
            | MediaType.video => RtpSlotRewriter.create 90000 3000
            | MediaType.audio => RtpSlotRewriter.create 48000 960⟩ }
    let pairs := ((router.peers.lookup owner).map PeerState.outputs).getD []
    let found := outputPairFor mediaType track.mid pairs
    let cleared := found.2.1.clear
    let placed := found.1 ++ cleared.setOutput mediaType (some output) :: found.2.2
    ({ router.modifyPeer owner fun peer =>
          { peer with sendBinding := sendBinding, outputs := placed } with
        nextRewriter := router.nextRewriter + 1
        detached := router.detached ++
          (cleared.output mediaType).toList.map OutputTrack.rewriter },
      if found.2.1.publisher = none then [] else cleared.notices sendBinding,
      some ⟨owner, track.id, track.mid, mediaType⟩)

/-- The second critical section of `register_output`. -/
def finishOutput (router : ScreenRouter) (expired : Expiry) (pending : PendingOutput) :
    ScreenRouter × List BindingNotice :=
  if router.closed then (router, [])
  else if pending.owner ∈ router.peers then
    thenAssign expired
      (router.modifyPeer pending.owner fun peer =>
        { peer with
          outputs := markReady pending.mediaType pending.mid pending.track peer.outputs }, [])
  else (router, [])

/-- `register_track`. -/
def registerTrack (router : ScreenRouter) (expired : Expiry) (owner : PeerId)
    (track : Option Track) (ssrc : UInt32) (sendBinding : BindingSender) :
    ScreenRouter × List BindingNotice × Option PendingOutput :=
  match track with
  | none => (router, [], none)
  | some track =>
      match track.mediaType with
      | none => (router, [], none)
      | some mediaType =>
          match track.direction with
          | Direction.recvOnly =>
              let result := router.registerInput expired owner track mediaType sendBinding
              (result.1, result.2, none)
          | Direction.sendOnly =>
              router.registerOutput owner track ssrc mediaType sendBinding
          | _ => (router, [], none)

/-- Write the `streaming` flag and, when it is cleared, clear the pairs bound to
the peer. -/
def storeStreaming (router : ScreenRouter) (peerId : PeerId) (streaming : Bool) :
    ScreenRouter × List BindingNotice :=
  let stored := router.modifyPeer peerId fun peer => { peer with streaming := streaming }
  if streaming then (stored, [])
  else stored.sweepBound (fun _ => true) peerId OutputPair.clear

/-- The `streaming` flag of a peer. -/
def streamingOf (router : ScreenRouter) (peerId : PeerId) : Bool :=
  (router.peers.lookup peerId).any PeerState.streaming

/-- `set_streaming`. -/
def setStreaming (router : ScreenRouter) (expired : Expiry) (peerId : PeerId)
    (streaming : Bool) : ScreenRouter × List BindingNotice :=
  if router.closed then (router, [])
  else
    let router := router.peerForLocked peerId
    if router.streamingOf peerId = streaming then (router, [])
    else thenAssign expired (router.storeStreaming peerId streaming)

/-- The publishers a peer watches. -/
def watchedOf (router : ScreenRouter) (peerId : PeerId) : Table PeerId Nat :=
  ((router.peers.lookup peerId).map PeerState.watchedPublishers).getD ∅

/-- Start watching. -/
def startWatching (router : ScreenRouter) (peerId publisher : PeerId) : ScreenRouter :=
  router.modifyPeer peerId fun peer =>
    { peer with
      watchedPublishers := peer.watchedPublishers.insert publisher peer.nextWatchOrder
      nextWatchOrder := peer.nextWatchOrder + 1 }

/-- Stop watching and clear the peer's pairs bound to the publisher. -/
def stopWatching (router : ScreenRouter) (peerId publisher : PeerId) :
    ScreenRouter × List BindingNotice :=
  (router.modifyPeer peerId fun peer =>
    { peer with watchedPublishers := peer.watchedPublishers.erase publisher }).sweepBound
      (fun subscriber => subscriber = peerId) publisher OutputPair.clear

/-- `set_watching`. -/
def setWatching (router : ScreenRouter) (expired : Expiry) (peerId publisher : PeerId)
    (watching : Bool) : ScreenRouter × List BindingNotice :=
  if peerId = publisher then (router, [])
  else if router.closed then (router, [])
  else
    let router := router.peerForLocked peerId
    if watching then
      if publisher ∈ router.watchedOf peerId then (router, [])
      else thenAssign expired (router.startWatching peerId publisher, [])
    else if publisher ∈ router.watchedOf peerId then
      thenAssign expired (router.stopWatching peerId publisher)
    else (router, [])

/-- `peers.erase`, and no peer watches the erased one any more. -/
def erasePeer (router : ScreenRouter) (peerId : PeerId) : ScreenRouter :=
  { router with
    peers := Table.mapValues (fun _ subscriber =>
      { subscriber with watchedPublishers := subscriber.watchedPublishers.erase peerId })
      (router.peers.erase peerId)
    detached := router.detached ++
      ((router.peers.lookup peerId).map PeerState.rewriters).getD [] }

/-- `remove_peer`. -/
def removePeer (router : ScreenRouter) (expired : Expiry) (peerId : PeerId) :
    ScreenRouter × List BindingNotice :=
  if router.closed then (router, [])
  else
    thenAssign expired
      ((router.erasePeer peerId).sweepBound (fun _ => true) peerId OutputPair.clear)

/-- `close`. -/
def close (router : ScreenRouter) : ScreenRouter :=
  if router.closed then router
  else
    { router with
      closed := true
      delayQueue := []
      peers := ∅
      detached := router.detached ++
        router.peers.entries.flatMap fun entry => entry.2.rewriters }

/-- `update_fault_config`. -/
def updateFaultConfig (router : ScreenRouter) (faultConfig : RtpFaultConfig) : ScreenRouter :=
  { router with faultConfig := faultConfig }

/-! ## Forwarding -/

/-- `collect_targets_locked`. -/
def collectTargetsLocked (router : ScreenRouter) (publisher : PeerId) (mediaType : MediaType) :
    List Target :=
  router.peers.entries.flatMap fun entry =>
    ((entry.2.outputs.filter fun pair => pair.publisher = some publisher).flatMap fun pair =>
      ((pair.output mediaType).toList.filter OutputTrack.ready)).map
        OutputTrack.target

/-- A packet as a publisher's track delivers it to `route`, with the two times
that `now_us` may be asked for. -/
structure Arrival where
  publisher : PeerId
  mediaType : MediaType
  expectedInput : WeakTrack
  packet : Bytes
  firstNow : Int
  secondNow : Int

section

variable (isRtcp : Bytes → Bool) (gaussian : ℚ → ℚ → ℚ)

/-- The fault injection and the packet loop of `route`: the new fault state and
the admission of the packets that pass. -/
def admitArrival (router : ScreenRouter) (source : InputState) (arrival : Arrival) :
    RtpFaultState × Admission DelayedPacket :=
  let faulted := applyRtpFaults isRtcp router.faultConfig source.faultState arrival.packet
  let admitNext := Admission.admitPacket gaussian router.faultConfig router.executor
    (isRtcp arrival.packet) fun packet =>
      (⟨arrival.publisher, arrival.mediaType, arrival.expectedInput, packet⟩ : DelayedPacket)
  (faulted.2,
    admitNext arrival.secondNow
      (admitNext arrival.firstNow ⟨source.linkState, router.delayQueue, []⟩ faulted.1.first)
      faulted.1.second)

/-- `route`: the critical section and the turns of `send_packets` that follow. -/
def route (router : ScreenRouter) (expired : TrackId → Bool) (arrival : Arrival) :
    ScreenRouter × List Send :=
  if router.closed then (router, [])
  else
    match router.peers.lookup arrival.publisher with
    | none => (router, [])
    | some source =>
        let input := source.input arrival.mediaType
        if lockTrack expired input.track ≠ lockTrack expired arrival.expectedInput
            ∨ source.streaming = false then (router, [])
        else if !isRtcp arrival.packet && router.faultConfig.linkDown then (router, [])
        else
          let admitted := router.admitArrival isRtcp gaussian input arrival
          ({ router.modifyPeer arrival.publisher fun peer =>
                peer.setInputState arrival.mediaType
                  { peer.input arrival.mediaType with
                    faultState := admitted.1
                    linkState := admitted.2.linkState } with
              delayQueue := admitted.2.delayQueue },
            sendPackets arrival.publisher
              (router.collectTargetsLocked arrival.publisher arrival.mediaType)
              input.midExtensionId admitted.2.immediate)

/-- The critical section of `flush_delayed`: the due packets. -/
def flushDelayed (router : ScreenRouter) (now : Int) : ScreenRouter × List DelayedPacket :=
  if router.closed then (router, [])
  else
    ({ router with
        delayQueue := router.delayQueue.dropWhile fun entry => decide (entry.1 ≤ now) },
      (router.delayQueue.takeWhile fun entry => decide (entry.1 ≤ now)).map Prod.snd)

/-- `forward_delayed`: the critical section and the turns of `send_packets`. -/
def forwardDelayed (router : ScreenRouter) (expired : TrackId → Bool) (item : DelayedPacket) :
    ScreenRouter × List Send :=
  if router.closed then (router, [])
  else
    match router.peers.lookup item.publisher with
    | none => (router, [])
    | some source =>
        let input := source.input item.mediaType
        if lockTrack expired input.track ≠ lockTrack expired item.expectedInput
            ∨ source.streaming = false then (router, [])
        else
          (router.modifyPeer item.publisher fun peer =>
              let input := peer.input item.mediaType
              peer.setInputState item.mediaType
                { input with
                  linkState :=
                    { input.linkState with
                      queuedPackets := input.linkState.queuedPackets - 1 } },
            sendPackets item.publisher
              (router.collectTargetsLocked item.publisher item.mediaType)
              input.midExtensionId [item.packet])

/-- All rewriter objects. -/
def rewriters (router : ScreenRouter) : List SharedRewriter :=
  (router.peers.entries.flatMap fun entry => entry.2.rewriters) ++ router.detached

/-- Write the state of one rewriter object wherever it is referred to. -/
def storeRewriter (router : ScreenRouter) (id : RewriterId) (state : RtpSlotRewriter) :
    ScreenRouter :=
  { router with
    peers := Table.mapValues (fun _ peer =>
      { peer with
        outputs := peer.outputs.map fun pair =>
          { pair with
            video := pair.video.map (OutputTrack.storeRewriter id state)
            audio := pair.audio.map (OutputTrack.storeRewriter id state) } })
      router.peers
    detached := router.detached.map (SharedRewriter.store id state) }

/-- One turn of `send_packets` on a target whose track is `isOpen`: the new
state and the packet given to the track, if any. -/
def sendTurn (router : ScreenRouter) (expired : TrackId → Bool) (isOpen : Bool)
    (send : Send) : ScreenRouter × Option Bytes :=
  if trackExpired expired send.target.track || !isOpen then (router, none)
  else
    match router.rewriters.find? fun rewriter => rewriter.id = send.target.rewriter with
    | none => (router, none)
    | some rewriter =>
        let rewritten := rewriter.state.rewrite isRtcp send.packet
          send.target.sourceGeneration send.target.ssrc send.midId
        (router.storeRewriter rewriter.id rewritten.2.2,
          if rewritten.1 then some rewritten.2.1 else none)

end

end ScreenRouter

end Sfu
end Driscord
