import Driscord.Library.TransitionSystem
import Driscord.Sfu.DelayLine
import Driscord.Sfu.RouterSystem

/-!
# Counting the packets behind a link

`queued_packets` is to be the number of packets that wait.  It is counted up once for each
packet that the link holds back, and down once for each copy that `forward_delayed` lets
through.  Between the two, a flush has taken copies out that are not forwarded yet.

The calls of a router are interleaved section by section.  Beside the router stand the
packets that wait and the copies that are being flushed; neither is in the source.

Main results:

- Theorem `Counted.route`, theorem `Counted.flush`, theorem `Counted.forward` and theorem
  `Counted.restarts`: what each section keeps.
- Theorem `LineModel.accounted_of_reachable`: the counter is right in every run whose sections
  avoid the branches that lose count.
-/

namespace Driscord
namespace Sfu

open Library

variable {σ δ : Type} [DecidableEq σ]

/-! ## Packets of one track -/

/-- The item has come from the track of the source. -/
def ItemKeys.From (keys : ItemKeys σ δ) (source : σ) (track : WeakTrack) (item : δ) : Prop :=
  keys.source item = source ∧ keys.expected item = track

instance (keys : ItemKeys σ δ) (source : σ) (track : WeakTrack) (item : δ) :
    Decidable (keys.From source track item) :=
  inferInstanceAs (Decidable (_ ∧ _))

/-- The number of waiting packets from a track. -/
def waitingFrom (keys : ItemKeys σ δ) (source : σ) (track : WeakTrack)
    (waiting : List (Int × Waiting δ)) : Nat :=
  waiting.countP fun entry => decide (keys.From source track entry.2.item)

/-- The number of packets from a track that a flush has taken out; further copies do not
count. -/
def dueFrom (keys : ItemKeys σ δ) (source : σ) (track : WeakTrack) (dues : List (Due δ)) : Nat :=
  dues.countP fun due => !due.further && decide (keys.From source track due.item)

section

variable {keys : ItemKeys σ δ} {source : σ} {track : WeakTrack}

theorem waitingFrom_emplace (waiting : List (Int × Waiting δ)) (departureUs : Int)
    (packet : Waiting δ) :
    waitingFrom keys source track (emplaceDelayed waiting departureUs packet) =
      waitingFrom keys source track waiting +
        if keys.From source track packet.item then 1 else 0 := by
  rw [waitingFrom, (emplaceDelayed_perm waiting departureUs packet).countP_eq, List.countP_cons]
  simp [waitingFrom]

/-- The held packet of an arrival counts for the source and the track of the arrival. -/
theorem waitingFrom_hold {held : Option (Int × Waiting δ)} {source' : σ} {track' : WeakTrack}
    (h : ∀ packet ∈ held, keys.From source' track' packet.2.item)
    (waiting : List (Int × Waiting δ)) :
    waitingFrom keys source track (hold waiting held) =
      waitingFrom keys source track waiting +
        if source' = source ∧ track' = track then held.toList.length else 0 := by
  cases held with
  | none => simp
  | some packet =>
      rcases h packet rfl with ⟨rfl, rfl⟩
      exact waitingFrom_emplace waiting packet.1 packet.2

theorem dueFrom_append (first second : List (Due δ)) :
    dueFrom keys source track (first ++ second) =
      dueFrom keys source track first + dueFrom keys source track second :=
  List.countP_append

theorem dueFrom_cons (due : Due δ) (rest : List (Due δ)) :
    dueFrom keys source track (due :: rest) =
      dueFrom keys source track rest +
        if !due.further && decide (keys.From source track due.item) then 1 else 0 :=
  List.countP_cons

/-- The first copies of the packets are as many as the packets. -/
theorem dueFrom_dues (waiting : List (Int × Waiting δ)) :
    dueFrom keys source track (waiting.flatMap fun entry => entry.2.dues) =
      waitingFrom keys source track waiting := by
  induction waiting with
  | nil => rfl
  | cons entry rest ih =>
      have hentry : dueFrom keys source track entry.2.dues =
          if keys.From source track entry.2.item then 1 else 0 := by
        rcases entry with ⟨departureUs, item, duplicated⟩
        cases duplicated <;> simp [dueFrom, Waiting.dues, Waiting.marks, List.countP_cons]
      rw [List.flatMap_cons, dueFrom_append, ih, hentry, waitingFrom, waitingFrom,
        List.countP_cons, add_comm]
      simp

/-- A packet waits or has been taken out. -/
theorem waitingFrom_flush (due : Int × Waiting δ → Bool) (waiting : List (Int × Waiting δ)) :
    waitingFrom keys source track (waiting.dropWhile due) +
        dueFrom keys source track ((waiting.takeWhile due).flatMap fun entry => entry.2.dues) =
      waitingFrom keys source track waiting := by
  rw [dueFrom_dues, waitingFrom, waitingFrom, add_comm, ← List.countP_append,
    List.takeWhile_append_dropWhile, waitingFrom]

end

/-! ## The accounting -/

/-- What the counters of a line say of the packets that wait and of those being flushed. -/
structure Counted (keys : ItemKeys σ δ) (line : DelayLine σ δ)
    (waiting : List (Int × Waiting δ)) (dues : List (Due δ)) : Prop where
  queue : line.queue = copiesOf waiting
  counted : ∀ source, (line.link source).queuedPackets =
    waitingFrom keys source (line.input source) waiting +
      dueFrom keys source (line.input source) dues
  waitingTracked : ∀ entry ∈ waiting, (keys.expected entry.2.item).isSome = true
  dueTracked : ∀ due ∈ dues, (keys.expected due.item).isSome = true
  bounded : line.config.link.queueLengthPackets ≠ 0 → ∀ source,
    (line.link source).queuedPackets ≤ line.config.link.queueLengthPackets

namespace DelayLine

/-- `route` neither takes a packet of another track for one of the current track, nor counts
a packet that it does not emplace. -/
def CarefulRoute (isRtcp : Bytes → Bool) (gaussian : ℚ → ℚ → ℚ) (line : DelayLine σ δ)
    (expired : TrackId → Bool) (arrival : LineArrival σ δ) : Prop :=
  line.Routes isRtcp expired arrival →
    arrival.expected = line.input arrival.source ∧
      (line.executor = true ∨
        line.heldFirst isRtcp gaussian arrival = none ∧
          line.heldSecond isRtcp gaussian arrival = none)

/-- `forward_delayed` lets a packet of the current track through, and it lets a further copy
or a packet of another track through only when the counter is at zero. -/
def CarefulForward (keys : ItemKeys σ δ) (line : DelayLine σ δ) (expired : TrackId → Bool)
    (due : Due δ) : Prop :=
  if line.Hears expired (keys.source due.item) (keys.expected due.item) then
    due.further = false ∧ keys.expected due.item = line.input (keys.source due.item) ∨
      (line.link (keys.source due.item)).queuedPackets = 0
  else due.further = true ∨ keys.expected due.item ≠ line.input (keys.source due.item)

/-- No packet of the track waits or is being flushed. -/
def Unused (keys : ItemKeys σ δ) (source : σ) (track : WeakTrack)
    (waiting : List (Int × Waiting δ)) (dues : List (Due δ)) : Prop :=
  (∀ entry ∈ waiting, ¬ keys.From source track entry.2.item) ∧
    ∀ due ∈ dues, ¬ keys.From source track due.item

instance [DecidableEq δ] (isRtcp : Bytes → Bool) (gaussian : ℚ → ℚ → ℚ)
    (line : DelayLine σ δ) (expired : TrackId → Bool) (arrival : LineArrival σ δ) :
    Decidable (line.CarefulRoute isRtcp gaussian expired arrival) :=
  inferInstanceAs (Decidable (_ → _ ∧ (_ ∨ _ ∧ _)))

instance (keys : ItemKeys σ δ) (line : DelayLine σ δ) (expired : TrackId → Bool)
    (due : Due δ) : Decidable (line.CarefulForward keys expired due) :=
  inferInstanceAs (Decidable (ite _ _ _))

instance (keys : ItemKeys σ δ) (source : σ) (track : WeakTrack)
    (waiting : List (Int × Waiting δ)) (dues : List (Due δ)) :
    Decidable (Unused keys source track waiting dues) :=
  inferInstanceAs (Decidable (_ ∧ _))

/-- Whichever of the two packets of an arrival is refused, as many packets of the current
track wait as the queue may hold; the second one meets the first one there. -/
structure RefusesFull (isRtcp : Bytes → Bool) (gaussian : ℚ → ℚ → ℚ) (keys : ItemKeys σ δ)
    (line : DelayLine σ δ) (waiting : List (Int × Waiting δ)) (arrival : LineArrival σ δ) :
    Prop where
  first : ∀ bytes ∈ (line.faulted isRtcp arrival).1.first,
    (schedulePacketDeparture gaussian line.config.link (line.link arrival.source)
      arrival.firstNow bytes.length).1 = none →
    waitingFrom keys arrival.source (line.input arrival.source) waiting =
      line.config.link.queueLengthPackets
  second : ∀ bytes ∈ (line.faulted isRtcp arrival).1.second,
    (schedulePacketDeparture gaussian line.config.link
      (line.admitFirst isRtcp gaussian arrival).linkState arrival.secondNow bytes.length).1 =
        none →
    waitingFrom keys arrival.source (line.input arrival.source)
        (hold waiting (line.heldFirst isRtcp gaussian arrival)) =
      line.config.link.queueLengthPackets

omit [DecidableEq σ] in
/-- The packet held back of an arrival has come from the track of the arrival. -/
theorem from_of_heldBack {keys : ItemKeys σ δ} {line : DelayLine σ δ}
    {arrival : LineArrival σ δ} {gaussian : ℚ → ℚ → ℚ} {config : RtpFaultConfig} {rtcp : Bool}
    {now : Int} {linkState : LinkModelState} {packet : Option Bytes}
    (hwrap : ∀ bytes, keys.From arrival.source arrival.expected (arrival.wrap bytes))
    (hcurrent : arrival.expected = line.input arrival.source) :
    ∀ held ∈ heldBack gaussian config rtcp arrival.wrap now linkState packet,
      keys.From arrival.source (line.input arrival.source) held.2.item := by
  intro held hheld
  rcases item_of_heldBack gaussian held hheld with ⟨bytes, hitem⟩
  rw [hitem, ← hcurrent]
  exact hwrap bytes

end DelayLine

namespace Counted

variable {keys : ItemKeys σ δ} {line : DelayLine σ δ} {waiting : List (Int × Waiting δ)}
variable {dues : List (Due δ)} {isRtcp : Bytes → Bool} {gaussian : ℚ → ℚ → ℚ}
variable {expired : TrackId → Bool}

theorem route (h : Counted keys line waiting dues) {arrival : LineArrival σ δ}
    (hwrap : ∀ bytes, keys.From arrival.source arrival.expected (arrival.wrap bytes))
    (htracked : arrival.expected.isSome = true)
    (hcareful : line.CarefulRoute isRtcp gaussian expired arrival) :
    Counted keys (line.route isRtcp gaussian expired arrival)
      (line.routeWaiting isRtcp gaussian expired arrival waiting) dues := by
  by_cases hroutes : line.Routes isRtcp expired arrival
  · rcases hcareful hroutes with ⟨hcurrent, hexecutor⟩
    have hfirst : Admitted line.config line.executor _ _
        (line.heldFirst isRtcp gaussian arrival) := DelayLine.admitted_heldFirst
    have hsecond : Admitted line.config line.executor _ _
        (line.heldSecond isRtcp gaussian arrival) := DelayLine.admitted_heldSecond
    have hfirstItem : ∀ packet ∈ line.heldFirst isRtcp gaussian arrival,
        keys.From arrival.source (line.input arrival.source) packet.2.item :=
      DelayLine.from_of_heldBack hwrap hcurrent
    have hsecondItem : ∀ packet ∈ line.heldSecond isRtcp gaussian arrival,
        keys.From arrival.source (line.input arrival.source) packet.2.item :=
      DelayLine.from_of_heldBack hwrap hcurrent
    rw [DelayLine.routeWaiting_eq hroutes hexecutor, DelayLine.route, if_pos hroutes]
    refine ⟨?_, ?_, ?_, h.dueTracked, ?_⟩
    · exact hsecond.copies (hexecutor.imp_right And.right)
        (hfirst.copies (hexecutor.imp_right And.left) h.queue)
    · intro source
      have hold := h.counted source
      dsimp only
      rw [waitingFrom_hold hsecondItem, waitingFrom_hold hfirstItem]
      by_cases hsource : source = arrival.source
      · subst hsource
        rw [Function.update_self, hsecond.count, hfirst.count]
        simp only [and_self, if_true]
        omega
      · rw [Function.update_of_ne hsource, if_neg fun hsame => hsource hsame.1.symm,
          if_neg fun hsame => hsource hsame.1.symm]
        exact hold
    · intro entry hentry
      have htrackedItem : ∀ packet : Int × Waiting δ,
          keys.From arrival.source (line.input arrival.source) packet.2.item →
          (keys.expected packet.2.item).isSome = true := by
        intro packet hfrom
        rw [hfrom.2, ← hcurrent]
        exact htracked
      rcases mem_hold hentry with hmem | hnew
      · rcases mem_hold hmem with hmem | hnew
        · exact h.waitingTracked entry hmem
        · exact htrackedItem entry (hfirstItem entry hnew)
      · exact htrackedItem entry (hsecondItem entry hnew)
    · intro hlimit source
      by_cases hsource : source = arrival.source
      · subst hsource
        simp only [Function.update_self]
        exact hsecond.count_le hlimit (hfirst.count_le hlimit (h.bounded hlimit _))
      · simp only [Function.update_of_ne hsource]
        exact h.bounded hlimit source
  · rw [DelayLine.route, if_neg hroutes, DelayLine.routeWaiting,
      if_neg fun hboth => hroutes hboth.1]
    exact h

/-- `flush_delayed` takes out packets with all their copies. -/
theorem flush (h : Counted keys line waiting dues) (now : Int) (hopen : line.closed = false) :
    (line.flush now).2 = ((waiting.takeWhile fun entry => decide (entry.1 ≤ now)).flatMap
        fun entry => entry.2.dues).map Due.item ∧
      Counted keys (line.flush now).1 (waiting.dropWhile fun entry => decide (entry.1 ≤ now))
        ((waiting.takeWhile fun entry => decide (entry.1 ≤ now)).flatMap
          (fun entry => entry.2.dues) ++ dues) := by
  rw [DelayLine.flush, if_neg (by simp [hopen])]
  refine ⟨?_, ?_, ?_, ?_, ?_, h.bounded⟩
  · dsimp only
    rw [h.queue, takeWhile_copiesOf fun time => decide (time ≤ now), copiesOf, List.map_flatMap,
      List.map_flatMap]
    simp [Function.comp_def]
  · dsimp only
    rw [h.queue, dropWhile_copiesOf fun time => decide (time ≤ now)]
  · intro source
    rw [dueFrom_append, ← add_assoc, waitingFrom_flush]
    exact h.counted source
  · exact fun entry hentry => h.waitingTracked entry ((List.dropWhile_sublist _).mem hentry)
  · intro due hdue
    rcases List.mem_append.mp hdue with hnew | hold
    · rcases List.mem_flatMap.mp hnew with ⟨entry, hentry, hcopy⟩
      rcases List.mem_map.mp hcopy with ⟨further, -, rfl⟩
      exact h.waitingTracked entry ((List.takeWhile_sublist _).mem hentry)
    · exact h.dueTracked due hold

/-- The order in which the copies are forwarded does not count. -/
theorem of_perm {others : List (Due δ)} (h : Counted keys line waiting dues)
    (hperm : dues.Perm others) : Counted keys line waiting others where
  queue := h.queue
  counted source := by
    have hdues : dueFrom keys source (line.input source) dues =
        dueFrom keys source (line.input source) others := hperm.countP_eq _
    rw [← hdues]
    exact h.counted source
  waitingTracked := h.waitingTracked
  dueTracked due hdue := h.dueTracked due (hperm.mem_iff.mpr hdue)
  bounded := h.bounded

/-- `forward_delayed` counts down for the first copy of a packet of the current track. -/
theorem forward {due : Due δ} {rest : List (Due δ)} (h : Counted keys line waiting (due :: rest))
    (hcareful : line.CarefulForward keys expired due) :
    Counted keys (line.forward expired (keys.source due.item) (keys.expected due.item))
      waiting rest := by
  have htracked : ∀ other ∈ rest, (keys.expected other.item).isSome = true :=
    fun other hother => h.dueTracked other (List.mem_cons_of_mem _ hother)
  -- the copy counts only for its own source
  have hother : ∀ source, source ≠ keys.source due.item → ∀ track,
      dueFrom keys source track (due :: rest) = dueFrom keys source track rest := by
    intro source hsource track
    rw [dueFrom_cons, if_neg, add_zero]
    simp only [Bool.and_eq_true, decide_eq_true_eq, not_and]
    exact fun _ hfrom => hsource hfrom.1.symm
  have hown := h.counted (keys.source due.item)
  rw [dueFrom_cons] at hown
  unfold DelayLine.CarefulForward at hcareful
  unfold DelayLine.forward
  split
  · rename_i hhears
    rw [if_pos hhears] at hcareful
    refine ⟨h.queue, ?_, h.waitingTracked, htracked, ?_⟩
    · intro source
      dsimp only
      by_cases hsource : source = keys.source due.item
      · subst hsource
        rw [Function.update_self]
        rcases hcareful with ⟨hfirst, hcurrent⟩ | hzero
        · rw [if_pos (by simp [hfirst, ItemKeys.From, hcurrent])] at hown
          dsimp only
          omega
        · dsimp only
          omega
      · rw [Function.update_of_ne hsource, ← hother source hsource]
        exact h.counted source
    · intro hlimit source
      have hbounded := h.bounded hlimit source
      by_cases hsource : source = keys.source due.item
      · subst hsource
        simp only [Function.update_self]
        omega
      · simp only [Function.update_of_ne hsource]
        exact hbounded
  · rename_i hhears
    rw [if_neg hhears] at hcareful
    refine ⟨h.queue, ?_, h.waitingTracked, htracked, h.bounded⟩
    intro source
    by_cases hsource : source = keys.source due.item
    · subst hsource
      rw [if_neg, add_zero] at hown
      · exact hown
      · simp only [Bool.and_eq_true, decide_eq_true_eq, Bool.not_eq_true', not_and]
        intro hfirst hfrom
        exact hcareful.elim (fun hfurther => by simp [hfurther] at hfirst)
          fun hforeign => hforeign hfrom.2
    · rw [← hother source hsource]
      exact h.counted source

/-- An operation starts a source afresh that has nothing waiting. -/
theorem restarts (h : Counted keys line waiting dues) {next : DelayLine σ δ}
    {stored : Option (σ × TrackId)} (hrestarts : line.Restarts next stored)
    (hunused : ∀ source track, stored = some (source, track) → line.input source ≠ some track →
      DelayLine.Unused keys source (some track) waiting dues) :
    Counted keys next waiting dues := by
  refine ⟨hrestarts.queue.trans h.queue, ?_, h.waitingTracked, h.dueTracked, ?_⟩
  · intro source
    rcases hrestarts.source source with ⟨hinput, hlink⟩ | ⟨hzero, hfresh⟩
    · rw [hinput, hlink]
      exact h.counted source
    · have hnothing : DelayLine.Unused keys source (next.input source) waiting dues := by
        cases hinput : next.input source with
        | none =>
            refine ⟨fun entry hentry hfrom => ?_, fun due hdue hfrom => ?_⟩
            · have hsome := h.waitingTracked entry hentry
              rw [hfrom.2] at hsome
              contradiction
            · have hsome := h.dueTracked due hdue
              rw [hfrom.2] at hsome
              contradiction
        | some track =>
            rcases hfresh track hinput with ⟨hstored, hchanged⟩
            exact hunused source track hstored hchanged
      have hwaiting : waitingFrom keys source (next.input source) waiting = 0 :=
        List.countP_eq_zero.mpr fun entry hentry => by simpa using hnothing.1 entry hentry
      have hdue : dueFrom keys source (next.input source) dues = 0 :=
        List.countP_eq_zero.mpr fun due hdue => by simpa using fun _ => hnothing.2 due hdue
      rw [hzero, hwaiting, hdue]
  · intro hlimit source
    rw [hrestarts.config] at hlimit ⊢
    rcases hrestarts.source source with ⟨-, hlink⟩ | ⟨hzero, -⟩
    · rw [hlink]
      exact h.bounded hlimit source
    · rw [hzero]
      exact Nat.zero_le _

theorem waitingFrom_le (h : Counted keys line waiting dues)
    (hlimit : line.config.link.queueLengthPackets ≠ 0) (source : σ) :
    waitingFrom keys source (line.input source) waiting ≤
      line.config.link.queueLengthPackets := by
  have hcounted := h.counted source
  have hbounded := h.bounded hlimit source
  omega

/-- Between the calls the counters count the packets that wait. -/
theorem counted_eq (h : Counted keys line waiting []) (source : σ) :
    (line.link source).queuedPackets =
      waitingFrom keys source (line.input source) waiting :=
  h.counted source

/-- A packet that is refused finds the queue full. -/
theorem refusesFull (h : Counted keys line waiting []) {arrival : LineArrival σ δ}
    (hwrap : ∀ bytes, keys.From arrival.source arrival.expected (arrival.wrap bytes))
    (hroutes : line.Routes isRtcp expired arrival)
    (hcareful : line.CarefulRoute isRtcp gaussian expired arrival) :
    DelayLine.RefusesFull isRtcp gaussian keys line waiting arrival := by
  have hcounted := h.counted_eq arrival.source
  constructor
  · intro bytes _ hrefused
    rcases full_of_refused gaussian hrefused with ⟨hlimit, hfull⟩
    have hbounded := h.bounded hlimit arrival.source
    omega
  · intro bytes _ hrefused
    rcases full_of_refused gaussian hrefused with ⟨hlimit, hfull⟩
    have hfirst : Admitted line.config line.executor _ _
        (line.heldFirst isRtcp gaussian arrival) := DelayLine.admitted_heldFirst
    have hbounded := hfirst.count_le hlimit (h.bounded hlimit arrival.source)
    have hcount := hfirst.count
    dsimp only at hcount
    have hitem : ∀ packet ∈ line.heldFirst isRtcp gaussian arrival,
        keys.From arrival.source (line.input arrival.source) packet.2.item :=
      DelayLine.from_of_heldBack hwrap (hcareful hroutes).1
    rw [waitingFrom_hold hitem, if_pos ⟨rfl, rfl⟩]
    omega

end Counted

/-! ## The sections of a router -/

/-- How the link model sees the router of a router model. -/
structure LineModel (model : RouterModel) (σ : Type) where
  keys : ItemKeys σ model.Delayed
  line : model.State → DelayLine σ model.Delayed
  arrival : model.Arrival → LineArrival σ model.Delayed
  /-- The source and the track that an operation registers as its input. -/
  stores : model.Operation → Option (σ × TrackId)

namespace LineModel

variable {model : RouterModel}

/-- The sections of the router are those of its line. -/
structure Laws (isRtcp : Bytes → Bool) (gaussian : ℚ → ℚ → ℚ) (view : LineModel model σ) :
    Prop where
  initial : ∀ state, model.initial state → (view.line state).closed = false ∧
    (view.line state).queue = [] ∧ ∀ source, ((view.line state).link source).queuedPackets = 0
  wrap : ∀ arrival bytes, view.keys.From (view.arrival arrival).source
    (view.arrival arrival).expected ((view.arrival arrival).wrap bytes)
  route : ∀ expired arrival state, view.line (model.route expired arrival state).1 =
    (view.line state).route isRtcp gaussian expired (view.arrival arrival)
  flush : ∀ now state, view.line (model.flush now state).1 = ((view.line state).flush now).1 ∧
    (model.flush now state).2 = ((view.line state).flush now).2
  forward : ∀ expired item state, view.line (model.forward expired item state).1 =
    (view.line state).forward expired (view.keys.source item) (view.keys.expected item)
  operate : ∀ seen operation state, (view.line state).Restarts
    (view.line (model.operate seen operation state).1) (view.stores operation)
  resume : ∀ seen rest state,
    (view.line state).Restarts (view.line (model.resume seen rest state).1) none
  sendTurn : ∀ expired isOpen send state,
    (view.line state).Restarts (view.line (model.sendTurn expired isOpen send state).1) none

end LineModel

/-- A router with the packets that wait and the flushes in progress. -/
structure LineSystem (model : RouterModel) where
  router : model.State
  expired : TrackId → Bool := fun _ => false
  /-- What the flushes in progress have not forwarded yet. -/
  flushes : List (List (Due model.Delayed)) := []
  /-- The packets in the delay queue, which are not in the source. -/
  waiting : List (Int × Waiting model.Delayed) := []

/-- The sections, and the end of a track. -/
inductive LineAction (model : RouterModel) where
  | expire (track : TrackId)
  | operate (operation : model.Operation) (seen : Expiry)
  | resume (rest : model.Section) (seen : Expiry)
  | sendTurn (isOpen : Bool) (send : Send)
  | route (arrival : model.Arrival)
  | flush (now : Int)
  | forward (index : Nat)

namespace LineModel

variable {model : RouterModel} (view : LineModel model σ)
variable (isRtcp : Bytes → Bool) (gaussian : ℚ → ℚ → ℚ)

/-- One section.  A packet comes from a track, and a flush forwards its copies in order. -/
def act (system : LineSystem model) : LineAction model → Option (LineSystem model)
  | .expire track =>
      some { system with expired := Function.update system.expired track true }
  | .operate operation seen =>
      some { system with router := (model.operate seen operation system.router).1 }
  | .resume rest seen => some { system with router := (model.resume seen rest system.router).1 }
  | .sendTurn isOpen send =>
      some { system with router := (model.sendTurn system.expired isOpen send system.router).1 }
  | .route arrival =>
      if (view.arrival arrival).expected.isSome then
        some { system with
          router := (model.route system.expired arrival system.router).1
          waiting := (view.line system.router).routeWaiting isRtcp gaussian system.expired
            (view.arrival arrival) system.waiting }
      else none
  | .flush now =>
      let popped := system.waiting.takeWhile fun entry => decide (entry.1 ≤ now)
      some { system with
        router := (model.flush now system.router).1
        flushes := List.zipWith Due.mk (model.flush now system.router).2
          (popped.flatMap fun entry => entry.2.marks) :: system.flushes
        waiting := system.waiting.dropWhile fun entry => decide (entry.1 ≤ now) }
  | .forward index =>
      match system.flushes[index]? with
      | some (due :: rest) =>
          some { system with
            router := (model.forward system.expired due.item system.router).1
            flushes := system.flushes.set index rest }
      | _ => none

/-- The section avoids the branches that lose count. -/
def Careful (system : LineSystem model) : LineAction model → Prop
  | .route arrival =>
      (view.line system.router).CarefulRoute isRtcp gaussian system.expired (view.arrival arrival)
  | .operate operation _ =>
      ∀ source track, view.stores operation = some (source, track) →
        (view.line system.router).input source ≠ some track →
        DelayLine.Unused view.keys source (some track) system.waiting system.flushes.flatten
  | .forward index =>
      match system.flushes[index]? with
      | some (due :: _) => (view.line system.router).CarefulForward view.keys system.expired due
      | _ => True
  | _ => True

instance [DecidableEq model.Delayed] (system : LineSystem model) :
    (action : LineAction model) → Decidable (view.Careful isRtcp gaussian system action)
  | .route arrival =>
      inferInstanceAs (Decidable (DelayLine.CarefulRoute isRtcp gaussian _ _ _))
  | .operate operation _ =>
      match hstores : view.stores operation with
      | none => isTrue (by simp [Careful, hstores])
      | some (source, track) =>
          decidable_of_iff ((view.line system.router).input source ≠ some track →
            DelayLine.Unused view.keys source (some track) system.waiting system.flushes.flatten)
            (by simp [Careful, hstores])
  | .forward index =>
      match hindex : system.flushes[index]? with
      | some (due :: rest) =>
          decidable_of_iff ((view.line system.router).CarefulForward view.keys system.expired due)
            (by simp [Careful, hindex])
      | some [] => isTrue (by simp [Careful, hindex])
      | none => isTrue (by simp [Careful, hindex])
  | .expire _ => isTrue trivial
  | .resume _ _ => isTrue trivial
  | .sendTurn _ _ => isTrue trivial
  | .flush _ => isTrue trivial

def Step (system next : LineSystem model) : Prop :=
  ∃ action, view.act isRtcp gaussian system action = some next

def CarefulStep (system next : LineSystem model) : Prop :=
  ∃ action, view.Careful isRtcp gaussian system action ∧
    view.act isRtcp gaussian system action = some next

/-- The router is made with the link switched on. -/
def Initial (system : LineSystem model) : Prop :=
  ∃ router, model.initial router ∧ (view.line router).config.link.enabled = true ∧
    system = { router }

/-- The router runs, and its counters are right. -/
structure Sound (system : LineSystem model) : Prop where
  isOpen : (view.line system.router).closed = false
  counted : Counted view.keys (view.line system.router) system.waiting system.flushes.flatten

namespace Sound

variable {view} {isRtcp} {gaussian} {system : LineSystem model}

theorem initial (laws : view.Laws isRtcp gaussian) (h : view.Initial system) :
    view.Sound system := by
  rcases h with ⟨router, hrouter, -, rfl⟩
  rcases laws.initial router hrouter with ⟨hopen, hqueue, hzero⟩
  refine ⟨hopen, hqueue, hzero, by simp, by simp, ?_⟩
  intro _ source
  rw [hzero]
  exact Nat.zero_le _

/-- A section that starts sources afresh. -/
theorem restarts (h : view.Sound system) {router : model.State}
    {stored : Option (σ × TrackId)}
    (hrestarts : (view.line system.router).Restarts (view.line router) stored)
    (hunused : ∀ source track, stored = some (source, track) →
      (view.line system.router).input source ≠ some track →
      DelayLine.Unused view.keys source (some track) system.waiting system.flushes.flatten) :
    view.Sound { system with router } :=
  ⟨hrestarts.closed.trans h.isOpen, h.counted.restarts hrestarts hunused⟩

theorem route (h : view.Sound system) (laws : view.Laws isRtcp gaussian) {arrival : model.Arrival}
    (htracked : (view.arrival arrival).expected.isSome = true)
    (hcareful : (view.line system.router).CarefulRoute isRtcp gaussian system.expired
      (view.arrival arrival)) :
    view.Sound { system with
      router := (model.route system.expired arrival system.router).1
      waiting := (view.line system.router).routeWaiting isRtcp gaussian system.expired
        (view.arrival arrival) system.waiting } := by
  refine ⟨?_, ?_⟩
  · rw [laws.route]
    unfold DelayLine.route
    split <;> exact h.isOpen
  · rw [laws.route]
    exact h.counted.route (laws.wrap arrival) htracked hcareful

theorem flush (h : view.Sound system) (laws : view.Laws isRtcp gaussian) (now : Int) :
    view.Sound { system with
      router := (model.flush now system.router).1
      flushes := List.zipWith Due.mk (model.flush now system.router).2
        ((system.waiting.takeWhile fun entry => decide (entry.1 ≤ now)).flatMap
          fun entry => entry.2.marks) :: system.flushes
      waiting := system.waiting.dropWhile fun entry => decide (entry.1 ≤ now) } := by
  rcases laws.flush now system.router with ⟨hline, hitems⟩
  rcases h.counted.flush now h.isOpen with ⟨hdues, hcounted⟩
  have hmarks : ∀ popped : List (Int × Waiting model.Delayed),
      (popped.flatMap fun entry => entry.2.marks) =
        (popped.flatMap fun entry => entry.2.dues).map Due.further := by
    intro popped
    simp [List.map_flatMap, Waiting.dues, Function.comp_def]
  refine ⟨?_, ?_⟩
  · rw [hline]
    unfold DelayLine.flush
    split <;> exact h.isOpen
  · rw [hline, hitems, hdues, hmarks, zipWith_due, List.flatten_cons]
    exact hcounted

theorem forward (h : view.Sound system) (laws : view.Laws isRtcp gaussian) {index : Nat}
    {due : Due model.Delayed} {rest : List (Due model.Delayed)}
    (hindex : system.flushes[index]? = some (due :: rest))
    (hcareful : (view.line system.router).CarefulForward view.keys system.expired due) :
    view.Sound { system with
      router := (model.forward system.expired due.item system.router).1
      flushes := system.flushes.set index rest } := by
  have hperm : system.flushes.flatten.Perm (due :: (system.flushes.set index rest).flatten) := by
    rcases List.getElem?_eq_some_iff.mp hindex with ⟨hlt, hget⟩
    rw [List.set_eq_take_append_cons_drop, if_pos hlt]
    nth_rewrite 1 [← List.take_append_drop index system.flushes]
    rw [List.drop_eq_getElem_cons hlt, hget]
    simp
  refine ⟨?_, ?_⟩
  · rw [laws.forward]
    unfold DelayLine.forward
    split <;> exact h.isOpen
  · rw [laws.forward]
    exact (h.counted.of_perm hperm).forward hcareful

/-- A section that avoids the branches that lose count keeps the counters right. -/
theorem step (h : view.Sound system) (laws : view.Laws isRtcp gaussian)
    {next : LineSystem model} (hstep : view.CarefulStep isRtcp gaussian system next) :
    view.Sound next := by
  rcases hstep with ⟨action, hcareful, hact⟩
  cases action with
  | expire track =>
      cases hact
      exact ⟨h.isOpen, h.counted⟩
  | operate operation seen =>
      cases hact
      exact h.restarts (laws.operate seen operation system.router) hcareful
  | resume rest seen =>
      cases hact
      exact h.restarts (laws.resume seen rest system.router) (by simp)
  | sendTurn isOpen send =>
      cases hact
      exact h.restarts (laws.sendTurn system.expired isOpen send system.router) (by simp)
  | route arrival =>
      rw [act] at hact
      split at hact
      case isTrue htracked =>
        cases hact
        exact h.route laws htracked hcareful
      case isFalse => contradiction
  | flush now =>
      cases hact
      exact h.flush laws now
  | forward index =>
      rw [Careful] at hcareful
      simp only [act] at hact
      split at hact
      case h_1 due rest hindex =>
        rw [hindex] at hcareful
        cases hact
        exact h.forward laws hindex hcareful
      case h_2 => contradiction

end Sound

/-! ## The counters in every run -/

/-- `queued_packets` counts the packets that wait. -/
structure Accounted (system : LineSystem model) : Prop where
  /-- The delay queue holds the copies of the packets that wait. -/
  queue : (view.line system.router).queue = copiesOf system.waiting
  /-- Between the calls, the counter of a source counts the packets of its current track. -/
  counted : system.flushes.flatten = [] → ∀ source,
    ((view.line system.router).link source).queuedPackets =
      waitingFrom view.keys source ((view.line system.router).input source) system.waiting
  bounded : (view.line system.router).config.link.queueLengthPackets ≠ 0 → ∀ source,
    waitingFrom view.keys source ((view.line system.router).input source) system.waiting ≤
      (view.line system.router).config.link.queueLengthPackets
  /-- A packet is refused only while that many wait. -/
  refused : system.flushes.flatten = [] → ∀ arrival,
    (view.line system.router).Routes isRtcp system.expired (view.arrival arrival) →
    (view.line system.router).CarefulRoute isRtcp gaussian system.expired
      (view.arrival arrival) →
    DelayLine.RefusesFull isRtcp gaussian view.keys (view.line system.router) system.waiting
      (view.arrival arrival)

variable {view isRtcp gaussian}

theorem Sound.accounted {system : LineSystem model} (h : view.Sound system)
    (laws : view.Laws isRtcp gaussian) : view.Accounted isRtcp gaussian system where
  queue := h.counted.queue
  counted hquiet := (hquiet ▸ h.counted).counted_eq
  bounded hlimit source := h.counted.waitingFrom_le hlimit source
  refused hquiet arrival hroutes hcareful :=
    (hquiet ▸ h.counted).refusesFull (laws.wrap arrival) hroutes hcareful

/-- The counters count the packets that wait in every run whose sections avoid the branches
that lose count. -/
theorem accounted_of_reachable (laws : view.Laws isRtcp gaussian) {system : LineSystem model}
    (h : Reachable view.Initial (view.CarefulStep isRtcp gaussian) system) :
    view.Accounted isRtcp gaussian system :=
  (h.invariant (fun _ => Sound.initial laws) fun _ _ _ hsound hstep =>
    hsound.step laws hstep).accounted laws

end LineModel

end Sfu
end Driscord
