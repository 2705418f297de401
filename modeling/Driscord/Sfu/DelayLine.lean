import Driscord.Sfu.Track

/-!
# The packets that wait behind a link

What `route`, `flush_delayed` and `forward_delayed` of the two routers read and write for the
link model: the input and the link state of each source, and the delay queue.  A packet that
the link holds back is emplaced once, or twice when it is duplicated.

`Waiting` keeps the packets themselves: the delay queue is their copies.

Main results:

- Theorem `copiesOf_emplace`: a packet in the right place is its copies in the right place.
- Theorem `admitted_admitPacket`: the counter counts the packets that are held back, and with
  an executor these are emplaced.
-/

namespace Driscord
namespace Sfu

/-! ## Packets and their copies -/

/-- A packet that the link holds back. -/
structure Waiting (δ : Type) where
  item : δ
  duplicated : Bool := false
deriving DecidableEq, Repr

/-- A copy that `flush_delayed` has taken out; `further` tells it from the first one. -/
structure Due (δ : Type) where
  item : δ
  further : Bool := false
deriving DecidableEq, Repr

section

variable {δ : Type}

/-- Whether each copy of a packet is a further one. -/
def Waiting.marks (packet : Waiting δ) : List Bool :=
  if packet.duplicated then [false, true] else [false]

/-- The copies of a packet. -/
def Waiting.dues (packet : Waiting δ) : List (Due δ) :=
  packet.marks.map fun further => ⟨packet.item, further⟩

/-- The entries of the delay queue for packets that wait. -/
def copiesOf (waiting : List (Int × Waiting δ)) : List (Int × δ) :=
  waiting.flatMap fun entry => entry.2.dues.map fun due => (entry.1, due.item)

theorem zipWith_due (dues : List (Due δ)) :
    List.zipWith Due.mk (dues.map Due.item) (dues.map Due.further) = dues := by
  induction dues with
  | nil => rfl
  | cons due rest ih => simp [ih]

@[simp]
theorem copiesOf_nil : copiesOf ([] : List (Int × Waiting δ)) = [] :=
  rfl

@[simp]
theorem copiesOf_cons (entry : Int × Waiting δ) (waiting : List (Int × Waiting δ)) :
    copiesOf (entry :: waiting) =
      (entry.2.dues.map fun due => (entry.1, due.item)) ++ copiesOf waiting :=
  List.flatMap_cons

theorem copiesOf_append (first second : List (Int × Waiting δ)) :
    copiesOf (first ++ second) = copiesOf first ++ copiesOf second :=
  List.flatMap_append

/-- Copies are due together with their packet. -/
theorem takeWhile_copiesOf (due : Int → Bool) (waiting : List (Int × Waiting δ)) :
    (copiesOf waiting).takeWhile (fun entry => due entry.1) =
      copiesOf (waiting.takeWhile fun entry => due entry.1) := by
  induction waiting with
  | nil => rfl
  | cons entry rest ih =>
      rcases entry with ⟨departureUs, item, duplicated⟩
      cases hdue : due departureUs <;> cases duplicated <;>
        simp [Waiting.dues, Waiting.marks, hdue, ih]

theorem dropWhile_copiesOf (due : Int → Bool) (waiting : List (Int × Waiting δ)) :
    (copiesOf waiting).dropWhile (fun entry => due entry.1) =
      copiesOf (waiting.dropWhile fun entry => due entry.1) := by
  induction waiting with
  | nil => rfl
  | cons entry rest ih =>
      rcases entry with ⟨departureUs, item, duplicated⟩
      cases hdue : due departureUs <;> cases duplicated <;>
        simp [Waiting.dues, Waiting.marks, hdue, ih]

@[simp]
theorem emplaceDelayed_nil (departureUs : Int) (item : δ) :
    emplaceDelayed [] departureUs item = [(departureUs, item)] :=
  rfl

theorem emplaceDelayed_cons (entry : Int × δ) (rest : List (Int × δ)) (departureUs : Int)
    (item : δ) :
    emplaceDelayed (entry :: rest) departureUs item =
      if entry.1 ≤ departureUs then entry :: emplaceDelayed rest departureUs item
      else (departureUs, item) :: entry :: rest := by
  unfold emplaceDelayed
  split <;> rename_i hdue <;> simp [hdue]

theorem emplaceDelayed_perm (queue : List (Int × δ)) (departureUs : Int) (item : δ) :
    (emplaceDelayed queue departureUs item).Perm ((departureUs, item) :: queue) := by
  unfold emplaceDelayed
  refine List.perm_middle.trans ?_
  rw [List.takeWhile_append_dropWhile]

/-- A second copy is emplaced right behind the first one. -/
theorem emplaceDelayed_twice (queue : List (Int × δ)) (departureUs : Int) (item : δ) :
    emplaceDelayed (emplaceDelayed queue departureUs item) departureUs item =
      queue.takeWhile (fun entry => decide (entry.1 ≤ departureUs)) ++
        (departureUs, item) :: (departureUs, item) ::
          queue.dropWhile (fun entry => decide (entry.1 ≤ departureUs)) := by
  induction queue with
  | nil => simp [emplaceDelayed_cons]
  | cons entry rest ih =>
      by_cases hdue : entry.1 ≤ departureUs
      · simp [emplaceDelayed_cons, hdue, ih]
      · simp [emplaceDelayed_cons, hdue]

/-- A packet in the right place is its copies in the right place. -/
theorem copiesOf_emplace (waiting : List (Int × Waiting δ)) (departureUs : Int)
    (packet : Waiting δ) :
    copiesOf (emplaceDelayed waiting departureUs packet) =
      (fun queue => emplaceDelayed queue departureUs packet.item)^[packet.marks.length]
        (copiesOf waiting) := by
  have hsplit : copiesOf (emplaceDelayed waiting departureUs packet) =
      (copiesOf waiting).takeWhile (fun entry => decide (entry.1 ≤ departureUs)) ++
        ((packet.dues.map fun due => (departureUs, due.item)) ++
          (copiesOf waiting).dropWhile fun entry => decide (entry.1 ≤ departureUs)) := by
    rw [emplaceDelayed, copiesOf_append, copiesOf_cons,
      takeWhile_copiesOf fun time => decide (time ≤ departureUs),
      dropWhile_copiesOf fun time => decide (time ≤ departureUs)]
  rw [hsplit]
  rcases packet with ⟨item, duplicated⟩
  cases duplicated with
  | false => rfl
  | true => exact (emplaceDelayed_twice (copiesOf waiting) departureUs item).symm

end

/-! ## What the link holds back -/

section

variable {δ : Type} (gaussian : ℚ → ℚ → ℚ)

/-- The packet that one turn of the packet loop of `route` holds back. -/
def heldBack (config : RtpFaultConfig) (rtcp : Bool) (wrap : Bytes → δ) (now : Int)
    (linkState : LinkModelState) (packet : Option Bytes) : Option (Int × Waiting δ) :=
  packet.bind fun packet =>
    if rtcp || !config.link.enabled then none
    else
      (schedulePacketDeparture gaussian config.link linkState now packet.length).1.bind
        fun result =>
          if result.departureUs ≤ now then none
          else some (result.departureUs, ⟨wrap packet, result.duplicate⟩)

/-- The packet that is held back is one of the arrival's. -/
theorem item_of_heldBack {config : RtpFaultConfig} {rtcp : Bool} {wrap : Bytes → δ} {now : Int}
    {linkState : LinkModelState} {packet : Option Bytes} :
    ∀ held ∈ heldBack gaussian config rtcp wrap now linkState packet,
      ∃ bytes, held.2.item = wrap bytes := by
  intro held hheld
  rcases Option.bind_eq_some_iff.mp hheld with ⟨bytes, -, hscheduled⟩
  split at hscheduled
  · contradiction
  · rcases Option.bind_eq_some_iff.mp hscheduled with ⟨result, -, hlate⟩
    split at hlate
    · contradiction
    · cases hlate
      exact ⟨bytes, rfl⟩

/-- Put a packet that is held back in its place. -/
def hold (waiting : List (Int × Waiting δ)) : Option (Int × Waiting δ) → List (Int × Waiting δ)
  | none => waiting
  | some held => emplaceDelayed waiting held.1 held.2

theorem mem_hold {waiting : List (Int × Waiting δ)} {held : Option (Int × Waiting δ)}
    {entry : Int × Waiting δ} (h : entry ∈ hold waiting held) : entry ∈ waiting ∨ entry ∈ held := by
  cases held with
  | none => exact Or.inl h
  | some packet =>
      rcases List.mem_cons.mp ((emplaceDelayed_perm waiting packet.1 packet.2).mem_iff.mp h) with
        rfl | hold
      · exact Or.inr rfl
      · exact Or.inl hold

@[simp]
theorem hold_none (waiting : List (Int × Waiting δ)) : hold waiting none = waiting :=
  rfl

/-- What `schedule_packet_departure` does to the counter. -/
inductive Counts (link : LinkModelConfig) (before after : LinkModelState) (arrivalUs : Int) :
    Option LinkScheduleResult → Prop
  | refused (hcount : after.queuedPackets = before.queuedPackets) :
      Counts link before after arrivalUs none
  | immediate (result : LinkScheduleResult) (hdue : result.departureUs ≤ arrivalUs)
      (hcount : after.queuedPackets = before.queuedPackets) :
      Counts link before after arrivalUs (some result)
  | queued (result : LinkScheduleResult) (hlate : arrivalUs < result.departureUs)
      (hcount : after.queuedPackets = before.queuedPackets + 1)
      (hroom : link.queueLengthPackets ≠ 0 → before.queuedPackets < link.queueLengthPackets) :
      Counts link before after arrivalUs (some result)

theorem counts_schedulePacketDeparture (link : LinkModelConfig) (henabled : link.enabled = true)
    (state : LinkModelState) (arrivalUs : Int) (packetBytes : Nat) :
    Counts link state
      (schedulePacketDeparture gaussian link state arrivalUs packetBytes).2 arrivalUs
      (schedulePacketDeparture gaussian link state arrivalUs packetBytes).1 := by
  unfold schedulePacketDeparture
  simp only [henabled, Bool.not_true, Bool.false_eq_true, if_false]
  split
  · exact Counts.refused rfl
  · rename_i hroom
    by_cases hlate : arrivalUs < link.inOrder
        { state.arrive link with rng := (link.delayUs gaussian (state.arrive link).rng).2 }
        (max arrivalUs (state.arrive link).capacityBusyUntilUs +
          link.serializationUs packetBytes + (link.delayUs gaussian (state.arrive link).rng).1)
    · refine Counts.queued _ hlate (if_pos hlate) fun hlimit => ?_
      exact not_le.mp fun hfull => hroom ⟨hlate, hlimit, hfull⟩
    · exact Counts.immediate _ (not_lt.mp hlate) (if_neg hlate)

/-- A packet is refused only when the counter has reached the limit. -/
theorem full_of_refused {link : LinkModelConfig} {state : LinkModelState} {arrivalUs : Int}
    {packetBytes : Nat}
    (h : (schedulePacketDeparture gaussian link state arrivalUs packetBytes).1 = none) :
    link.queueLengthPackets ≠ 0 ∧ link.queueLengthPackets ≤ state.queuedPackets := by
  unfold schedulePacketDeparture at h
  split at h
  · contradiction
  · dsimp only at h
    split at h
    · rename_i hfull
      exact hfull.2
    · contradiction

/-- What one turn of the packet loop does to the counter and to the delay queue. -/
inductive Admitted (config : RtpFaultConfig) (executor : Bool) (before after : Admission δ) :
    Option (Int × Waiting δ) → Prop
  | passed (hcount : after.linkState.queuedPackets = before.linkState.queuedPackets)
      (hqueue : after.delayQueue = before.delayQueue) :
      Admitted config executor before after none
  | held (departureUs : Int) (packet : Waiting δ)
      (hcount : after.linkState.queuedPackets = before.linkState.queuedPackets + 1)
      (hroom : config.link.queueLengthPackets ≠ 0 →
        before.linkState.queuedPackets < config.link.queueLengthPackets)
      (hqueue : after.delayQueue =
        if executor then
          (fun queue => emplaceDelayed queue departureUs packet.item)^[packet.marks.length]
            before.delayQueue
        else before.delayQueue) :
      Admitted config executor before after (some (departureUs, packet))

variable {gaussian} {config : RtpFaultConfig} {rtcp : Bool} {wrap : Bytes → δ} {now : Int}

theorem admitted_admitPacket (executor : Bool) (admission : Admission δ)
    (packet : Option Bytes) :
    Admitted config executor admission
      (admission.admitPacket gaussian config executor rtcp wrap now packet)
      (heldBack gaussian config rtcp wrap now admission.linkState packet) := by
  cases packet with
  | none => exact Admitted.passed rfl rfl
  | some packet =>
      unfold Admission.admitPacket heldBack
      rw [Option.bind_some]
      cases hlink : rtcp || !config.link.enabled with
      | true => exact Admitted.passed rfl rfl
      | false =>
          have henabled : config.link.enabled = true := by
            simp only [Bool.or_eq_false_iff, Bool.not_eq_false'] at hlink
            exact hlink.2
          have hscheduled := counts_schedulePacketDeparture gaussian config.link henabled
            admission.linkState now packet.length
          simp only [Bool.false_eq_true, if_false]
          generalize schedulePacketDeparture gaussian config.link admission.linkState now
            packet.length = result at hscheduled ⊢
          rcases result with ⟨result, state⟩
          cases hscheduled with
          | refused hcount => exact Admitted.passed hcount rfl
          | immediate result hdue hcount =>
              rw [Option.bind_some, if_pos hdue]
              simp only [hdue, true_or, if_true]
              exact Admitted.passed hcount rfl
          | queued result hlate hcount hroom =>
              rw [Option.bind_some, if_neg (not_le.mpr hlate)]
              simp only [not_le.mpr hlate, false_or]
              cases executor with
              | false => exact Admitted.held _ _ hcount hroom rfl
              | true =>
                  refine Admitted.held _ _ hcount hroom ?_
                  cases result.duplicate <;> rfl

/-- The counter counts the packets that are held back. -/
theorem Admitted.count {executor : Bool} {before after : Admission δ}
    {held : Option (Int × Waiting δ)} (h : Admitted config executor before after held) :
    after.linkState.queuedPackets = before.linkState.queuedPackets + held.toList.length := by
  cases h with
  | passed hcount => exact hcount
  | held departureUs packet hcount => exact hcount

/-- With an executor the copies of these packets are emplaced. -/
theorem Admitted.copies {executor : Bool} {before after : Admission δ}
    {held : Option (Int × Waiting δ)} (h : Admitted config executor before after held)
    (hexecutor : executor = true ∨ held = none) {waiting : List (Int × Waiting δ)}
    (hqueue : before.delayQueue = copiesOf waiting) :
    after.delayQueue = copiesOf (hold waiting held) := by
  cases h with
  | passed _ hsame => exact hsame.trans hqueue
  | held departureUs packet _ _ hemplaced =>
      have hset : executor = true := hexecutor.resolve_right (by simp)
      rw [hemplaced, if_pos hset, hqueue]
      exact (copiesOf_emplace waiting departureUs packet).symm

/-- A packet is held back only while there is room. -/
theorem Admitted.count_le {executor : Bool} {before after : Admission δ}
    {held : Option (Int × Waiting δ)} (h : Admitted config executor before after held)
    (hlimit : config.link.queueLengthPackets ≠ 0)
    (hle : before.linkState.queuedPackets ≤ config.link.queueLengthPackets) :
    after.linkState.queuedPackets ≤ config.link.queueLengthPackets := by
  cases h with
  | passed hcount => exact hcount.trans_le hle
  | held departureUs packet hcount hroom =>
      have hlt := hroom hlimit
      omega

end

/-! ## A router as the link model sees it -/

/-- The source and the track that a delayed packet carries. -/
structure ItemKeys (σ δ : Type) where
  source : δ → σ
  expected : δ → WeakTrack

/-- A packet that a track delivers to `route`, with the two times that `now_us` may be asked
for. -/
structure LineArrival (σ δ : Type) where
  source : σ
  expected : WeakTrack
  packet : Bytes
  wrap : Bytes → δ
  firstNow : Int
  secondNow : Int

/-- What the link model reads and writes of a router. -/
@[ext]
structure DelayLine (σ δ : Type) where
  config : RtpFaultConfig
  executor : Bool
  closed : Bool
  /-- The source is there, and it streams. -/
  passes : σ → Bool
  input : σ → WeakTrack
  fault : σ → RtpFaultState
  link : σ → LinkModelState
  queue : List (Int × δ)

namespace DelayLine

variable {σ δ : Type}

/-- The check of `route` and of `forward_delayed`. -/
def Hears (line : DelayLine σ δ) (expired : TrackId → Bool) (source : σ)
    (expected : WeakTrack) : Prop :=
  line.closed = false ∧ line.passes source = true ∧
    lockTrack expired (line.input source) = lockTrack expired expected

instance (line : DelayLine σ δ) (expired : TrackId → Bool) (source : σ)
    (expected : WeakTrack) : Decidable (line.Hears expired source expected) :=
  inferInstanceAs (Decidable (_ ∧ _ ∧ _))

section

variable (isRtcp : Bytes → Bool) (gaussian : ℚ → ℚ → ℚ)

/-- What the fault injection makes of an arrival. -/
def faulted (line : DelayLine σ δ) (arrival : LineArrival σ δ) : RtpFaultResult × RtpFaultState :=
  applyRtpFaults isRtcp line.config (line.fault arrival.source) arrival.packet

/-- One turn of the packet loop of `route`. -/
def admitNext (line : DelayLine σ δ) (arrival : LineArrival σ δ) (now : Int)
    (admission : Admission δ) (packet : Option Bytes) : Admission δ :=
  admission.admitPacket gaussian line.config line.executor (isRtcp arrival.packet) arrival.wrap
    now packet

/-- The first turn. -/
def admitFirst (line : DelayLine σ δ) (arrival : LineArrival σ δ) : Admission δ :=
  line.admitNext isRtcp gaussian arrival arrival.firstNow
    ⟨line.link arrival.source, line.queue, []⟩ (line.faulted isRtcp arrival).1.first

/-- Both turns. -/
def admitBoth (line : DelayLine σ δ) (arrival : LineArrival σ δ) : Admission δ :=
  line.admitNext isRtcp gaussian arrival arrival.secondNow
    (line.admitFirst isRtcp gaussian arrival) (line.faulted isRtcp arrival).1.second

/-- The packet that the first turn holds back. -/
def heldFirst (line : DelayLine σ δ) (arrival : LineArrival σ δ) : Option (Int × Waiting δ) :=
  heldBack gaussian line.config (isRtcp arrival.packet) arrival.wrap arrival.firstNow
    (line.link arrival.source) (line.faulted isRtcp arrival).1.first

/-- The packet that the second turn holds back. -/
def heldSecond (line : DelayLine σ δ) (arrival : LineArrival σ δ) : Option (Int × Waiting δ) :=
  heldBack gaussian line.config (isRtcp arrival.packet) arrival.wrap arrival.secondNow
    (line.admitFirst isRtcp gaussian arrival).linkState (line.faulted isRtcp arrival).1.second

/-- `route` goes on to the fault injection. -/
def Routes (line : DelayLine σ δ) (expired : TrackId → Bool) (arrival : LineArrival σ δ) : Prop :=
  line.Hears expired arrival.source arrival.expected ∧
    (isRtcp arrival.packet = true ∨ line.config.linkDown = false)

instance (line : DelayLine σ δ) (expired : TrackId → Bool) (arrival : LineArrival σ δ) :
    Decidable (line.Routes isRtcp expired arrival) :=
  inferInstanceAs (Decidable (_ ∧ _))

variable [DecidableEq σ]

/-- `route`. -/
def route (line : DelayLine σ δ) (expired : TrackId → Bool) (arrival : LineArrival σ δ) :
    DelayLine σ δ :=
  if line.Routes isRtcp expired arrival then
    { line with
      fault := Function.update line.fault arrival.source (line.faulted isRtcp arrival).2
      link := Function.update line.link arrival.source
        (line.admitBoth isRtcp gaussian arrival).linkState
      queue := (line.admitBoth isRtcp gaussian arrival).delayQueue }
  else line

/-- `route`, on the packets that wait. -/
def routeWaiting (line : DelayLine σ δ) (expired : TrackId → Bool) (arrival : LineArrival σ δ)
    (waiting : List (Int × Waiting δ)) : List (Int × Waiting δ) :=
  if line.Routes isRtcp expired arrival ∧ line.executor = true then
    hold (hold waiting (line.heldFirst isRtcp gaussian arrival))
      (line.heldSecond isRtcp gaussian arrival)
  else waiting

end

section

variable {line : DelayLine σ δ} {arrival : LineArrival σ δ} {isRtcp : Bytes → Bool}
variable {gaussian : ℚ → ℚ → ℚ} {expired : TrackId → Bool}

theorem admitted_heldFirst :
    Admitted line.config line.executor ⟨line.link arrival.source, line.queue, []⟩
      (line.admitFirst isRtcp gaussian arrival) (line.heldFirst isRtcp gaussian arrival) :=
  admitted_admitPacket _ _ _

theorem admitted_heldSecond :
    Admitted line.config line.executor (line.admitFirst isRtcp gaussian arrival)
      (line.admitBoth isRtcp gaussian arrival) (line.heldSecond isRtcp gaussian arrival) :=
  admitted_admitPacket _ _ _

/-- A careful arrival whose packets pass leaves what the link holds back waiting. -/
theorem routeWaiting_eq (hroutes : line.Routes isRtcp expired arrival)
    (hexecutor : line.executor = true ∨ line.heldFirst isRtcp gaussian arrival = none ∧
      line.heldSecond isRtcp gaussian arrival = none) (waiting : List (Int × Waiting δ)) :
    line.routeWaiting isRtcp gaussian expired arrival waiting =
      hold (hold waiting (line.heldFirst isRtcp gaussian arrival))
        (line.heldSecond isRtcp gaussian arrival) := by
  unfold routeWaiting
  rcases hexecutor with hset | ⟨hfirst, hsecond⟩
  · rw [if_pos ⟨hroutes, hset⟩]
  · rw [hfirst, hsecond]
    exact ite_self _

end

/-- The first critical section of `flush_delayed`. -/
def flush (line : DelayLine σ δ) (now : Int) : DelayLine σ δ × List δ :=
  if line.closed then (line, [])
  else
    ({ line with queue := line.queue.dropWhile fun entry => decide (entry.1 ≤ now) },
      (line.queue.takeWhile fun entry => decide (entry.1 ≤ now)).map Prod.snd)

/-- The critical section of `forward_delayed`. -/
def forward [DecidableEq σ] (line : DelayLine σ δ) (expired : TrackId → Bool) (source : σ)
    (expected : WeakTrack) : DelayLine σ δ :=
  if line.Hears expired source expected then
    { line with
      link := Function.update line.link source
        { line.link source with queuedPackets := (line.link source).queuedPackets - 1 } }
  else line

/-- What an operation leaves of the line: the source whose input it stores, if any, starts
afresh with another track, and so does a source that is removed. -/
structure Restarts (line next : DelayLine σ δ) (stored : Option (σ × TrackId)) : Prop where
  config : next.config = line.config
  executor : next.executor = line.executor
  closed : next.closed = line.closed
  queue : next.queue = line.queue
  source : ∀ source,
    next.input source = line.input source ∧ next.link source = line.link source ∨
      (next.link source).queuedPackets = 0 ∧
        ∀ track, next.input source = some track →
          stored = some (source, track) ∧ line.input source ≠ some track

/-- What a section leaves of the line that stores no input and removes no source. -/
structure Keeps (line next : DelayLine σ δ) : Prop where
  config : next.config = line.config
  executor : next.executor = line.executor
  closed : next.closed = line.closed
  queue : next.queue = line.queue
  input : ∀ source, next.input source = line.input source
  link : ∀ source, next.link source = line.link source

section

variable {first second third : DelayLine σ δ} {stored : Option (σ × TrackId)}

theorem Keeps.refl (line : DelayLine σ δ) : line.Keeps line :=
  ⟨rfl, rfl, rfl, rfl, fun _ => rfl, fun _ => rfl⟩

theorem Keeps.trans (h : first.Keeps second) (h' : second.Keeps third) : first.Keeps third :=
  ⟨h'.config.trans h.config, h'.executor.trans h.executor, h'.closed.trans h.closed,
    h'.queue.trans h.queue, fun source => (h'.input source).trans (h.input source),
    fun source => (h'.link source).trans (h.link source)⟩

theorem Keeps.restarts (h : first.Keeps second) : first.Restarts second stored :=
  ⟨h.config, h.executor, h.closed, h.queue,
    fun source => Or.inl ⟨h.input source, h.link source⟩⟩

theorem Keeps.trans_restarts (h : first.Keeps second) (h' : second.Restarts third stored) :
    first.Restarts third stored := by
  refine ⟨h'.config.trans h.config, h'.executor.trans h.executor, h'.closed.trans h.closed,
    h'.queue.trans h.queue, fun source => ?_⟩
  rw [← h.input source, ← h.link source]
  exact h'.source source

theorem Restarts.trans_keeps (h : first.Restarts second stored) (h' : second.Keeps third) :
    first.Restarts third stored := by
  refine ⟨h'.config.trans h.config, h'.executor.trans h.executor, h'.closed.trans h.closed,
    h'.queue.trans h.queue, fun source => ?_⟩
  rw [h'.input source, h'.link source]
  exact h.source source

end

end DelayLine

end Sfu
end Driscord
