import Driscord.Identity
import Driscord.Sfu.MediaUtils
import Driscord.Sfu.RtpSlotRewriter

/-!
# Tracks, shared rewriters and notices

The two routers hold tracks through weak pointers and rewriters through shared
ones.  A weak pointer is the identity of the track it refers to, if any; which
tracks have expired is a parameter, since tracks die independently of every
router call.  A shared rewriter is its state with an identity; it belongs to
one output slot, and targets of packets in flight refer to it by identity.
-/

namespace Driscord
namespace Sfu

/-- The identity of an `rtc::Track` object. -/
abbrev TrackId := Nat

/-- `std::weak_ptr<rtc::Track>`: the track it was made from, if any. -/
abbrev WeakTrack := Option TrackId

/-- `weak_ptr::lock`: the track, unless it has expired. -/
def lockTrack (expired : TrackId → Bool) (track : WeakTrack) : Option TrackId :=
  track.filter fun id => !expired id

/-- `weak_ptr::expired`. -/
def trackExpired (expired : TrackId → Bool) (track : WeakTrack) : Bool :=
  (lockTrack expired track).isNone

theorem trackExpired_eq_false_iff {expired : TrackId → Bool} {track : WeakTrack} :
    trackExpired expired track = false ↔ ∃ id, track = some id ∧ expired id = false := by
  cases track with
  | none => simp [trackExpired, lockTrack]
  | some id => cases h : expired id <;> simp [trackExpired, lockTrack, h]

/-- A track that is live later was live before. -/
theorem trackExpired_mono {expired expired' : TrackId → Bool} {track : WeakTrack}
    (hmono : ∀ id, expired id = true → expired' id = true)
    (h : trackExpired expired' track = false) : trackExpired expired track = false := by
  rcases trackExpired_eq_false_iff.mp h with ⟨id, htrack, hlive⟩
  refine trackExpired_eq_false_iff.mpr ⟨id, htrack, ?_⟩
  cases hbefore : expired id with
  | false => rfl
  | true => rw [hmono id hbefore] at hlive; contradiction

/-- The media kinds a router handles. -/
inductive MediaType where
  | audio
  | video
deriving DecidableEq, Repr

/-- `rtc::Description::Direction`. -/
inductive Direction where
  | sendOnly
  | recvOnly
  | sendRecv
  | inactive
  | unknown
deriving DecidableEq, Repr

/-- A track handed to `register_track`, with what the routers read of it and of
its description.  `mediaType` is `none` for any type but audio and video. -/
structure Track where
  id : TrackId
  mid : Bytes
  mediaType : Option MediaType
  direction : Direction
  midExtensionId : Option UInt8 := none
deriving DecidableEq, Repr

/-- `BindingSender`: the session a binding is sent to; `none` is the empty function. -/
abbrev BindingSender := Option PeerId

/-- The identity of a rewriter object. -/
abbrev RewriterId := Nat

/-- `std::shared_ptr<RtpSlotRewriter>`: the object and its identity. -/
structure SharedRewriter where
  id : RewriterId
  state : RtpSlotRewriter
deriving DecidableEq, Repr

/-- The number of source changes of the rewriter so far. -/
def SharedRewriter.generation (rewriter : SharedRewriter) : Nat :=
  rewriter.state.generation

/-- `end_source` on the shared object. -/
def SharedRewriter.endSource (rewriter : SharedRewriter) : SharedRewriter :=
  { rewriter with state := rewriter.state.endSource }

/-- `begin_source` on the shared object; the returned generation is the new one. -/
def SharedRewriter.beginSource (rewriter : SharedRewriter) : SharedRewriter :=
  { rewriter with state := rewriter.state.beginSource.2 }

@[simp]
theorem SharedRewriter.endSource_id (rewriter : SharedRewriter) :
    rewriter.endSource.id = rewriter.id :=
  rfl

@[simp]
theorem SharedRewriter.beginSource_id (rewriter : SharedRewriter) :
    rewriter.beginSource.id = rewriter.id :=
  rfl

@[simp]
theorem SharedRewriter.endSource_generation (rewriter : SharedRewriter) :
    rewriter.endSource.generation = rewriter.generation + 1 :=
  rfl

@[simp]
theorem SharedRewriter.beginSource_generation (rewriter : SharedRewriter) :
    rewriter.beginSource.generation = rewriter.generation + 1 :=
  rfl

/-- Write the state of the object `id`. -/
def SharedRewriter.store (id : RewriterId) (state : RtpSlotRewriter)
    (rewriter : SharedRewriter) : SharedRewriter :=
  if rewriter.id = id then { rewriter with state := state } else rewriter

/-- `Target`.  `collectedAt` is bookkeeping that no code reads: the number of
source changes of the rewriter when the target was collected. -/
structure Target where
  track : WeakTrack
  ssrc : UInt32
  rewriter : RewriterId
  sourceGeneration : Nat
  collectedAt : Nat
deriving DecidableEq, Repr

/-- One turn of the loops of `send_packets`: a packet of `publisher` on its way
to a target. -/
structure Send where
  publisher : PeerId
  packet : Bytes
  midId : Option UInt8
  target : Target
deriving DecidableEq, Repr

/-- The turns of `send_packets`, in the order of its loops. -/
def sendPackets (publisher : PeerId) (targets : List Target) (midId : Option UInt8)
    (outgoing : List Bytes) : List Send :=
  outgoing.flatMap fun packet => targets.map fun target => ⟨publisher, packet, midId, target⟩

theorem mem_sendPackets {publisher : PeerId} {targets : List Target} {midId : Option UInt8}
    {outgoing : List Bytes} {send : Send}
    (h : send ∈ sendPackets publisher targets midId outgoing) :
    send.publisher = publisher ∧ send.target ∈ targets := by
  simp only [sendPackets, List.mem_flatMap, List.mem_map] at h
  rcases h with ⟨_, _, target, htarget, rfl⟩
  exact ⟨rfl, htarget⟩

/-- `BindingNotice`, without what only configures the media handler. -/
structure BindingNotice where
  send : BindingSender
  mid : Bytes
  publisher : Option PeerId
deriving DecidableEq, Repr

/-- What `expired` answers while an operation serves a subscriber with a
publisher.  Tracks may die in the middle of the assignment pass, so the answer
may depend on the pair in hand. -/
abbrev Expiry := PeerId → PeerId → TrackId → Bool

end Sfu
end Driscord
