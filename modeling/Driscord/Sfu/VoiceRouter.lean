import Driscord.Library.FirstFit
import Driscord.Library.Table
import Driscord.Sfu.Track
import Mathlib.Data.List.Sort

/-!
# The voice router

`VoiceRouter` forwards the audio of every publisher to one output slot of every
other peer.  An operation changes inputs or slots, unbinds or restarts the
slots concerned and then runs the assignment pass, which binds the remaining
live publishers to free slots.  Each operation returns the notices that it
publishes afterwards.

The operations take as a parameter what `expired` answers (`Expiry`).  A loop
over all peers is a map over the table, because it writes the visited peer
only; iterating `peers` is in table order.
-/

namespace Driscord
namespace Sfu

open Library

namespace Voice

/-- `VoiceRouter::Impl::OutputSlot`. -/
structure OutputSlot where
  mid : Bytes
  ssrc : UInt32
  track : WeakTrack
  publisher : Option PeerId := none
  rewriter : SharedRewriter
  sourceGeneration : Nat := 0
deriving DecidableEq, Repr

/-- `VoiceRouter::Impl::PeerState`. -/
structure PeerState where
  order : Nat
  input : WeakTrack := none
  inputMidExtensionId : Option UInt8 := none
  inputFaultState : RtpFaultState := {}
  inputLinkState : LinkModelState := {}
  outputs : List OutputSlot := []
  sendBinding : BindingSender := none
deriving DecidableEq, Repr

/-- `VoiceRouter::Impl::DelayedPacket`. -/
structure DelayedPacket where
  publisher : PeerId
  expectedInput : WeakTrack
  packet : Bytes
deriving DecidableEq, Repr

/-! ## Slots and peers -/

/-- Start the slot's source anew. -/
def OutputSlot.restart (output : OutputSlot) : OutputSlot :=
  { output with
    rewriter := output.rewriter.beginSource
    sourceGeneration := output.rewriter.beginSource.generation }

/-- Unbind the slot. -/
def OutputSlot.release (output : OutputSlot) : OutputSlot :=
  { output with
    rewriter := output.rewriter.endSource
    sourceGeneration := 0
    publisher := none }

/-- Bind the slot to a publisher. -/
def OutputSlot.bindTo (publisher : PeerId) (output : OutputSlot) : OutputSlot :=
  { output.restart with publisher := some publisher }

/-- Apply an update to the slot if it is bound to `owner`. -/
def OutputSlot.ifBoundTo (owner : PeerId) (update : OutputSlot → OutputSlot)
    (output : OutputSlot) : OutputSlot :=
  if output.publisher = some owner then update output else output

/-- The slot is unbound and its track has not expired. -/
def OutputSlot.available (expired : TrackId → Bool) (output : OutputSlot) : Bool :=
  output.publisher.isNone && !trackExpired expired output.track

/-- The rewriter of a replaced slot; the source of a bound slot has ended. -/
def OutputSlot.retired (output : OutputSlot) : SharedRewriter :=
  if output.publisher.isSome then output.rewriter.endSource else output.rewriter

/-- `register_input` stores the track with fresh input states for a new source. -/
def PeerState.setInput (track : Track) (sendBinding : BindingSender)
    (peer : PeerState) : PeerState :=
  let sourceChanged := decide (peer.input ≠ some track.id)
  { peer with
    inputFaultState := if sourceChanged then {} else peer.inputFaultState
    inputLinkState := if sourceChanged then {} else peer.inputLinkState
    input := some track.id
    inputMidExtensionId := track.midExtensionId
    sendBinding := sendBinding }

/-- The rewriters of a peer's slots. -/
def PeerState.rewriters (peer : PeerState) : List SharedRewriter :=
  peer.outputs.map OutputSlot.rewriter

end Voice

open Voice in
/-- `VoiceRouter::Impl`.  `nextRewriter` names the next rewriter object, and
`detached` keeps the rewriters of dropped slots, which only targets of packets
in flight still refer to. -/
structure VoiceRouter where
  peers : Table PeerId PeerState := ∅
  faultConfig : RtpFaultConfig := {}
  nextPeerOrder : Nat := 0
  closed : Bool := false
  executor : Bool := false
  delayQueue : List (Int × DelayedPacket) := []
  nextRewriter : RewriterId := 0
  detached : List SharedRewriter := []

namespace VoiceRouter

open Voice

/-! ## Peers -/

/-- `peer_for_locked`: the peer is there afterwards. -/
def peerForLocked (router : VoiceRouter) (peerId : PeerId) : VoiceRouter :=
  if peerId ∈ router.peers then router
  else
    { router with
      peers := router.peers.insert peerId { order := router.nextPeerOrder }
      nextPeerOrder := router.nextPeerOrder + 1 }

/-- The `order` of a peer. -/
def orderOf (router : VoiceRouter) (peerId : PeerId) : Nat :=
  ((router.peers.lookup peerId).map PeerState.order).getD 0

/-- The comparison of `ordered_peers_locked`. -/
def before (router : VoiceRouter) (lhs rhs : PeerId) : Bool :=
  if router.orderOf lhs ≠ router.orderOf rhs then
    decide (router.orderOf lhs < router.orderOf rhs)
  else decide (lhs.value < rhs.value)

/-- `ordered_peers_locked`. -/
def orderedPeersLocked (router : VoiceRouter) : List PeerId :=
  router.peers.keys.insertionSort fun lhs rhs => router.before rhs lhs = false

/-- Write one peer. -/
def modifyPeer (router : VoiceRouter) (peerId : PeerId) (f : PeerState → PeerState) :
    VoiceRouter :=
  { router with peers := Table.modify peerId f router.peers }

/-! ## Unbinding and restarting -/

/-- The loop over all slots bound to `owner`: update each and give notice. -/
def sweepBound (router : VoiceRouter) (owner : PeerId) (update : OutputSlot → OutputSlot) :
    VoiceRouter × List BindingNotice :=
  ({ router with
      peers := Table.mapValues (fun _ subscriber =>
        { subscriber with
          outputs := subscriber.outputs.map (OutputSlot.ifBoundTo owner update) })
        router.peers },
    router.peers.entries.flatMap fun entry =>
      (entry.2.outputs.filter fun output => output.publisher = some owner).map fun output =>
        ⟨entry.2.sendBinding, output.mid, (update output).publisher⟩)

/-! ## The assignment pass -/

/-- The publisher is not the subscriber and its input has not expired. -/
def assignable (router : VoiceRouter) (expired : Expiry) (subscriber publisher : PeerId) :
    Bool :=
  decide (publisher ≠ subscriber) &&
    match router.peers.lookup publisher with
    | none => false
    | some peer => !trackExpired (expired subscriber publisher) peer.input

/-- The turn of `assign_available_locked` for one subscriber: the bindings made
and the slots afterwards. -/
def assignSubscriber (router : VoiceRouter) (expired : Expiry) (subscriber : PeerId)
    (outputs : List OutputSlot) : List (PeerId × OutputSlot) × List OutputSlot :=
  firstFit (router.assignable expired subscriber)
    (fun publisher => OutputSlot.available (expired subscriber publisher))
    OutputSlot.bindTo router.orderedPeersLocked
    (outputs.filterMap OutputSlot.publisher) outputs

/-- The notices of one subscriber's turn. -/
def assignmentNotices (router : VoiceRouter) (expired : Expiry) (subscriber : PeerId) :
    List BindingNotice :=
  match router.peers.lookup subscriber with
  | none => []
  | some peer =>
      (router.assignSubscriber expired subscriber peer.outputs).1.map fun binding =>
        ⟨peer.sendBinding, binding.2.mid, some binding.1⟩

/-- `assign_available_locked`. -/
def assignAvailableLocked (router : VoiceRouter) (expired : Expiry) :
    VoiceRouter × List BindingNotice :=
  ({ router with
      peers := Table.mapValues (fun subscriber peer =>
        { peer with outputs := (router.assignSubscriber expired subscriber peer.outputs).2 })
        router.peers },
    router.orderedPeersLocked.flatMap (router.assignmentNotices expired))

/-! ## Operations -/

/-- Run the assignment pass after the first part of an operation. -/
def thenAssign (expired : Expiry) (first : VoiceRouter × List BindingNotice) :
    VoiceRouter × List BindingNotice :=
  let assigned := first.1.assignAvailableLocked expired
  (assigned.1, first.2 ++ assigned.2)

/-- `source_changed`: the caller holds `track`, so locking the stored pointer
yields it exactly when the pointer was made from it. -/
def sourceChanged (router : VoiceRouter) (owner : PeerId) (track : Track) : Bool :=
  match router.peers.lookup owner with
  | none => true
  | some peer => decide (peer.input ≠ some track.id)

/-- `register_input`. -/
def registerInput (router : VoiceRouter) (expired : Expiry) (owner : PeerId) (track : Track)
    (sendBinding : BindingSender) : VoiceRouter × List BindingNotice :=
  if router.closed then (router, [])
  else
    let changed := router.sourceChanged owner track
    let stored := (router.peerForLocked owner).modifyPeer owner
      (PeerState.setInput track sendBinding)
    thenAssign expired
      (if changed then stored.sweepBound owner OutputSlot.restart else (stored, []))

/-- The slot search of `register_output`: replace the first slot with the same
mid or append.  Returns the slots and the replaced slot. -/
def placeOutput (output : OutputSlot) : List OutputSlot → List OutputSlot × Option OutputSlot
  | [] => ([output], none)
  | slot :: slots =>
      if slot.mid = output.mid then (output :: slots, some slot)
      else
        let rest := placeOutput output slots
        (slot :: rest.1, rest.2)

/-- `register_output`. -/
def registerOutput (router : VoiceRouter) (expired : Expiry) (owner : PeerId) (track : Track)
    (ssrc : UInt32) (sendBinding : BindingSender) : VoiceRouter × List BindingNotice :=
  if router.closed then (router, [])
  else
    let router := router.peerForLocked owner
    let output : OutputSlot :=
      { mid := track.mid
        ssrc := ssrc
        track := some track.id
        rewriter := ⟨router.nextRewriter, RtpSlotRewriter.create 48000 960⟩ }
    let replaced := (router.peers.lookup owner).bind fun peer =>
      (placeOutput output peer.outputs).2
    let stored := router.modifyPeer owner fun peer =>
      { peer with
        sendBinding := sendBinding
        outputs := (placeOutput output peer.outputs).1 }
    thenAssign expired
      ({ stored with
          nextRewriter := stored.nextRewriter + 1
          detached := stored.detached ++ replaced.toList.map OutputSlot.retired },
        (replaced.toList.filter fun slot => slot.publisher.isSome).map fun slot =>
          ⟨sendBinding, slot.mid, none⟩)

/-- `register_track`. -/
def registerTrack (router : VoiceRouter) (expired : Expiry) (owner : PeerId)
    (track : Option Track) (ssrc : UInt32) (sendBinding : BindingSender) :
    VoiceRouter × List BindingNotice :=
  match track with
  | none => (router, [])
  | some track =>
      if track.mediaType = some MediaType.audio then
        match track.direction with
        | Direction.recvOnly => router.registerInput expired owner track sendBinding
        | Direction.sendOnly => router.registerOutput expired owner track ssrc sendBinding
        | _ => (router, [])
      else (router, [])

/-- `peers.erase`. -/
def erasePeer (router : VoiceRouter) (peerId : PeerId) : VoiceRouter :=
  { router with
    peers := router.peers.erase peerId
    detached := router.detached ++
      ((router.peers.lookup peerId).map PeerState.rewriters).getD [] }

/-- `remove_peer`. -/
def removePeer (router : VoiceRouter) (expired : Expiry) (peerId : PeerId) :
    VoiceRouter × List BindingNotice :=
  if router.closed then (router, [])
  else
    thenAssign expired ((router.erasePeer peerId).sweepBound peerId OutputSlot.release)

/-- `close`. -/
def close (router : VoiceRouter) : VoiceRouter :=
  if router.closed then router
  else
    { router with
      closed := true
      delayQueue := []
      peers := ∅
      detached := router.detached ++
        router.peers.entries.flatMap fun entry => entry.2.rewriters }

/-- `update_fault_config`. -/
def updateFaultConfig (router : VoiceRouter) (faultConfig : RtpFaultConfig) : VoiceRouter :=
  { router with faultConfig := faultConfig }

/-! ## Forwarding -/

/-- `collect_targets_locked`. -/
def collectTargetsLocked (router : VoiceRouter) (publisher : PeerId) : List Target :=
  router.peers.entries.flatMap fun entry =>
    (entry.2.outputs.filter fun output => output.publisher = some publisher).map fun output =>
      { track := output.track
        ssrc := output.ssrc
        rewriter := output.rewriter.id
        sourceGeneration := output.sourceGeneration
        collectedAt := output.rewriter.generation }

/-- A packet as a publisher's track delivers it to `route`, with the two times
that `now_us` may be asked for. -/
structure Arrival where
  publisher : PeerId
  expectedInput : WeakTrack
  packet : Bytes
  firstNow : Int
  secondNow : Int

section

variable (isRtcp : Bytes → Bool) (gaussian : ℚ → ℚ → ℚ)

/-- The fault injection and the packet loop of `route`: the new fault state and
the admission of the packets that pass. -/
def admitArrival (router : VoiceRouter) (source : PeerState) (arrival : Arrival) :
    RtpFaultState × Admission DelayedPacket :=
  let faulted :=
    applyRtpFaults isRtcp router.faultConfig source.inputFaultState arrival.packet
  let admitNext := Admission.admitPacket gaussian router.faultConfig router.executor
    (isRtcp arrival.packet)
    fun packet => (⟨arrival.publisher, arrival.expectedInput, packet⟩ : DelayedPacket)
  (faulted.2,
    admitNext arrival.secondNow
      (admitNext arrival.firstNow ⟨source.inputLinkState, router.delayQueue, []⟩ faulted.1.first)
      faulted.1.second)

/-- `route`: the critical section and the turns of `send_packets` that follow. -/
def route (router : VoiceRouter) (expired : TrackId → Bool) (arrival : Arrival) :
    VoiceRouter × List Send :=
  if router.closed then (router, [])
  else
    match router.peers.lookup arrival.publisher with
    | none => (router, [])
    | some source =>
        if lockTrack expired source.input ≠ lockTrack expired arrival.expectedInput then
          (router, [])
        else if !isRtcp arrival.packet && router.faultConfig.linkDown then (router, [])
        else
          let admitted := router.admitArrival isRtcp gaussian source arrival
          ({ router.modifyPeer arrival.publisher fun peer =>
                { peer with
                  inputFaultState := admitted.1
                  inputLinkState := admitted.2.linkState } with
              delayQueue := admitted.2.delayQueue },
            sendPackets arrival.publisher (router.collectTargetsLocked arrival.publisher)
              source.inputMidExtensionId admitted.2.immediate)

/-- The critical section of `flush_delayed`: the due packets. -/
def flushDelayed (router : VoiceRouter) (now : Int) : VoiceRouter × List DelayedPacket :=
  if router.closed then (router, [])
  else
    ({ router with
        delayQueue := router.delayQueue.dropWhile fun entry => decide (entry.1 ≤ now) },
      (router.delayQueue.takeWhile fun entry => decide (entry.1 ≤ now)).map Prod.snd)

/-- `forward_delayed`: the critical section and the turns of `send_packets`. -/
def forwardDelayed (router : VoiceRouter) (expired : TrackId → Bool) (item : DelayedPacket) :
    VoiceRouter × List Send :=
  if router.closed then (router, [])
  else
    match router.peers.lookup item.publisher with
    | none => (router, [])
    | some source =>
        if lockTrack expired source.input ≠ lockTrack expired item.expectedInput then
          (router, [])
        else
          (router.modifyPeer item.publisher fun peer =>
              { peer with
                inputLinkState :=
                  { peer.inputLinkState with
                    queuedPackets := peer.inputLinkState.queuedPackets - 1 } },
            sendPackets item.publisher (router.collectTargetsLocked item.publisher)
              source.inputMidExtensionId [item.packet])

/-- All rewriter objects. -/
def rewriters (router : VoiceRouter) : List SharedRewriter :=
  (router.peers.entries.flatMap fun entry => entry.2.rewriters) ++ router.detached

/-- Write the state of one rewriter object wherever it is referred to. -/
def storeRewriter (router : VoiceRouter) (id : RewriterId) (state : RtpSlotRewriter) :
    VoiceRouter :=
  { router with
    peers := Table.mapValues (fun _ peer =>
      { peer with
        outputs := peer.outputs.map fun output =>
          { output with rewriter := SharedRewriter.store id state output.rewriter } })
      router.peers
    detached := router.detached.map (SharedRewriter.store id state) }

/-- One turn of `send_packets` on a target whose track is `isOpen`: the new
state and the packet given to the track, if any. -/
def sendTurn (router : VoiceRouter) (expired : TrackId → Bool) (isOpen : Bool)
    (send : Send) : VoiceRouter × Option Bytes :=
  if trackExpired expired send.target.track || !isOpen then (router, none)
  else
    match router.rewriters.find? fun rewriter => rewriter.id = send.target.rewriter with
    | none => (router, none)
    | some rewriter =>
        let rewritten := rewriter.state.rewrite isRtcp send.packet
          send.target.sourceGeneration send.target.ssrc send.midId
        (router.storeRewriter rewriter.id rewritten.2.2,
          if rewritten.1 then some rewritten.2.1 else none)

end

end VoiceRouter

end Sfu
end Driscord
