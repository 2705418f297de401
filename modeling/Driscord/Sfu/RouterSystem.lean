import Driscord.Library.Announcements
import Driscord.Library.Lease
import Driscord.Library.TransitionSystem
import Driscord.Sfu.Track

/-!
# Interleavings of a router's critical sections

A router runs operations one at a time under its publish lock.  An operation
has one or two critical sections under the router mutex and then publishes its
notices one by one.  Packets are routed concurrently: `route`, `flush_delayed`
and `forward_delayed` collect targets in a critical section of their own, and
each later turn of `send_packets` is a step of its own.  Tracks may expire at
any time.

`RouterModel` is what the two routers have in common, and `Step` interleaves
their sections.

Main results:

- Theorem `StateLaws.reachable`: a property of the router state that every
  section keeps holds in every reachable system.
- Theorem `ReachableSystem.perform`: an operation may run from beginning to end.
- Theorem `ReachableSystem.midway`: letting tracks expire inside a section only
  adds runs.
-/

namespace Driscord
namespace Sfu

open Library

/-- A router as the interleaving sees it. -/
structure RouterModel where
  State : Type
  Operation : Type
  /-- The second critical section of an operation that has one. -/
  Section : Type
  /-- Calls that do not take the publish lock. -/
  Interrupt : Type
  Arrival : Type
  Delayed : Type
  initial : State → Prop
  present : State → PeerId → Bool
  /-- The peer whose state an operation may create. -/
  caller : Operation → PeerId
  /-- The tracks the caller of an operation keeps alive. -/
  holds : Operation → List TrackId
  sectionHolds : Section → List TrackId
  operate : Expiry → Operation → State → State × List BindingNotice × Option Section
  resume : Expiry → Section → State → State × List BindingNotice
  interrupt : Interrupt → State → State
  route : (TrackId → Bool) → Arrival → State → State × List Send
  flush : Int → State → State × List Delayed
  forward : (TrackId → Bool) → Delayed → State → State × List Send
  sendTurn : (TrackId → Bool) → Bool → Send → State → State × Option Bytes

/-- What the sessions and the router's owner can observe of the bindings. -/
inductive BindingEvent where
  /-- The router created a state for the peer. -/
  | joined (peer : PeerId)
  /-- A binding was sent to a session. -/
  | notice (recipient : PeerId) (mid : Bytes) (publisher : Option PeerId)
deriving DecidableEq, Repr

/-- The event of publishing a notice; an empty sender sends nothing. -/
def BindingNotice.events (notice : BindingNotice) : List BindingEvent :=
  notice.send.toList.map fun recipient =>
    BindingEvent.notice recipient notice.mid notice.publisher

/-- The position of the operation that holds the publish lock. -/
inductive Phase (Section : Type) where
  | idle
  | between (rest : Section) (notices : List BindingNotice)
  | publishing (notices : List BindingNotice)

/-- The notices still to be published. -/
def Phase.pending {Section : Type} : Phase Section → List BindingNotice
  | idle => []
  | between _ notices => notices
  | publishing notices => notices

/-- The rest of a `route` or `flush_delayed` call: the turns of `send_packets`
of the packet in hand and the due packets after it. -/
structure Task (Delayed : Type) where
  due : List Delayed
  sends : List Send

/-- A router with the calls in progress and the history of its bindings. -/
structure RouterModel.System (model : RouterModel) where
  router : model.State
  expired : TrackId → Bool := fun _ => false
  phase : Phase model.Section := Phase.idle
  history : List BindingEvent := []
  tasks : List (Task model.Delayed) := []

/-- Time passes during a critical section: an expired track stays expired, and
a test answers something between the beginning and the end.  Unless `midway`,
no track expires in between. -/
structure Elapse (midway : Bool) (expired : TrackId → Bool) (seen : Expiry)
    (expired' : TrackId → Bool) : Prop where
  start : ∀ subscriber publisher id, expired id = true → seen subscriber publisher id = true
  finish : ∀ subscriber publisher id, seen subscriber publisher id = true →
    expired' id = true
  mono : ∀ id, expired id = true → expired' id = true
  steady : midway = false → expired' = expired

theorem Elapse.seen_eq {expired expired' : TrackId → Bool} {seen : Expiry}
    (h : Elapse false expired seen expired') (subscriber publisher : PeerId) :
    seen subscriber publisher = expired' := by
  funext id
  have hsteady := h.steady rfl
  subst hsteady
  cases hid : expired' id with
  | true => exact h.start subscriber publisher id hid
  | false =>
      cases hseen : seen subscriber publisher id with
      | false => rfl
      | true => rw [h.finish subscriber publisher id hseen] at hid; contradiction

theorem Elapse.refl (midway : Bool) (expired : TrackId → Bool) :
    Elapse midway expired (fun _ _ => expired) expired :=
  ⟨fun _ _ _ h => h, fun _ _ _ h => h, fun _ h => h, fun _ => rfl⟩

namespace RouterModel

variable {model : RouterModel}

/-- The event of creating the caller's state, if the operation did. -/
def joinEvents (model : RouterModel) (operation : model.Operation)
    (before after : model.State) : List BindingEvent :=
  if model.present after (model.caller operation) &&
      !model.present before (model.caller operation) then
    [BindingEvent.joined (model.caller operation)]
  else []

/-- The phase after the first critical section. -/
def phaseAfter (result : model.State × List BindingNotice × Option model.Section) :
    Phase model.Section :=
  match result.2.2 with
  | none => Phase.publishing result.2.1
  | some rest => Phase.between rest result.2.1

/-- The tracks kept alive by the operation in progress. -/
def System.held (system : model.System) : List TrackId :=
  match system.phase with
  | Phase.between rest _ => model.sectionHolds rest
  | _ => []

/-- One step of the interleaving. -/
inductive Step (model : RouterModel) (midway : Bool) : model.System → model.System → Prop
  | expire (system) (track : TrackId) (hfree : track ∉ system.held) :
      Step model midway system
        { system with expired := Function.update system.expired track true }
  | operate (system) (operation : model.Operation) (seen : Expiry)
      (expired' : TrackId → Bool) (hidle : system.phase = Phase.idle)
      (helapse : Elapse midway system.expired seen expired')
      (halive : ∀ track ∈ model.holds operation, expired' track = false) :
      Step model midway system
        { system with
          router := (model.operate seen operation system.router).1
          expired := expired'
          phase := phaseAfter (model.operate seen operation system.router)
          history := system.history ++ model.joinEvents operation system.router
            (model.operate seen operation system.router).1 }
  | resume (system) (rest : model.Section) (notices : List BindingNotice) (seen : Expiry)
      (expired' : TrackId → Bool) (hphase : system.phase = Phase.between rest notices)
      (helapse : Elapse midway system.expired seen expired')
      (halive : ∀ track ∈ model.sectionHolds rest, expired' track = false) :
      Step model midway system
        { system with
          router := (model.resume seen rest system.router).1
          expired := expired'
          phase := Phase.publishing (notices ++ (model.resume seen rest system.router).2) }
  | publish (system) (notice : BindingNotice) (notices : List BindingNotice)
      (hphase : system.phase = Phase.publishing (notice :: notices)) :
      Step model midway system
        { system with
          phase := Phase.publishing notices
          history := system.history ++ notice.events }
  | finish (system) (hphase : system.phase = Phase.publishing []) :
      Step model midway system { system with phase := Phase.idle }
  | interrupt (system) (call : model.Interrupt) :
      Step model midway system
        { system with router := model.interrupt call system.router }
  | route (system) (arrival : model.Arrival) :
      Step model midway system
        { system with
          router := (model.route system.expired arrival system.router).1
          tasks := ⟨[], (model.route system.expired arrival system.router).2⟩ ::
            system.tasks }
  | flush (system) (now : Int) :
      Step model midway system
        { system with
          router := (model.flush now system.router).1
          tasks := ⟨(model.flush now system.router).2, []⟩ :: system.tasks }
  | forward (system) (before after : List (Task model.Delayed)) (item : model.Delayed)
      (due : List model.Delayed) (htasks : system.tasks = before ++ ⟨item :: due, []⟩ :: after) :
      Step model midway system
        { system with
          router := (model.forward system.expired item system.router).1
          tasks := before ++
            ⟨due, (model.forward system.expired item system.router).2⟩ :: after }
  | sendTurn (system) (before after : List (Task model.Delayed)) (due : List model.Delayed)
      (send : Send) (sends : List Send) (isOpen : Bool)
      (htasks : system.tasks = before ++ ⟨due, send :: sends⟩ :: after) :
      Step model midway system
        { system with
          router := (model.sendTurn system.expired isOpen send system.router).1
          tasks := before ++ ⟨due, sends⟩ :: after }

/-- A fresh router, no call in progress, nothing announced. -/
structure Initial (model : RouterModel) (system : model.System) : Prop where
  router : model.initial system.router
  phase : system.phase = Phase.idle
  history : system.history = []
  tasks : system.tasks = []

/-- The systems that some interleaving reaches. -/
def ReachableSystem (model : RouterModel) (midway : Bool) : model.System → Prop :=
  Reachable model.Initial (model.Step midway)

/-- Runs without expiry inside a critical section are runs. -/
theorem ReachableSystem.midway {system : model.System}
    (h : model.ReachableSystem false system) : model.ReachableSystem true system := by
  refine Reachable.mono ?_ h
  intro state next hstep
  have hany : ∀ {expired seen expired'}, Elapse false expired seen expired' →
      Elapse true expired seen expired' :=
    fun helapse => ⟨helapse.start, helapse.finish, helapse.mono, by simp⟩
  cases hstep with
  | expire track hfree => exact Step.expire _ track hfree
  | operate operation seen expired' hidle helapse halive =>
      exact Step.operate _ operation seen expired' hidle (hany helapse) halive
  | resume rest notices seen expired' hphase helapse halive =>
      exact Step.resume _ rest notices seen expired' hphase (hany helapse) halive
  | publish notice notices hphase => exact Step.publish _ notice notices hphase
  | finish hphase => exact Step.finish _ hphase
  | interrupt call => exact Step.interrupt _ call
  | route arrival => exact Step.route _ arrival
  | flush now => exact Step.flush _ now
  | forward before after item due htasks => exact Step.forward _ before after item due htasks
  | sendTurn before after due send sends isOpen htasks =>
      exact Step.sendTurn _ before after due send sends isOpen htasks

/-! ## Whole operations -/

/-- Both critical sections of an operation with nothing in between. -/
def runOperation (expired : TrackId → Bool) (operation : model.Operation)
    (router : model.State) : model.State × List BindingNotice :=
  let first := model.operate (fun _ _ => expired) operation router
  match first.2.2 with
  | none => (first.1, first.2.1)
  | some rest =>
      let second := model.resume (fun _ _ => expired) rest first.1
      (second.1, first.2.1 ++ second.2)

/-- The system after an operation has run from beginning to end. -/
def System.perform (system : model.System) (operation : model.Operation) : model.System :=
  { system with
    router := (runOperation system.expired operation system.router).1
    phase := Phase.idle
    history := system.history ++
      model.joinEvents operation system.router
        (model.operate (fun _ _ => system.expired) operation system.router).1 ++
      (runOperation system.expired operation system.router).2.flatMap BindingNotice.events }

theorem ReachableSystem.step {midway : Bool} {system next : model.System}
    (h : model.ReachableSystem midway system) (hstep : model.Step midway system next) :
    model.ReachableSystem midway next :=
  Reachable.snoc h hstep

/-- Publishing the remaining notices. -/
theorem ReachableSystem.publishAll {midway : Bool} {system : model.System}
    {notices : List BindingNotice} (h : model.ReachableSystem midway system)
    (hphase : system.phase = Phase.publishing notices) :
    model.ReachableSystem midway
      { system with
        phase := Phase.idle
        history := system.history ++ notices.flatMap BindingNotice.events } := by
  induction notices generalizing system with
  | nil =>
      have hfinish := h.step (Step.finish system hphase)
      rwa [List.flatMap_nil, List.append_nil]
  | cons notice notices ih =>
      have hrest := ih (h.step (Step.publish system notice notices hphase)) rfl
      simpa [List.append_assoc] using hrest

theorem ReachableSystem.perform {midway : Bool} {system : model.System}
    (h : model.ReachableSystem midway system) (hidle : system.phase = Phase.idle)
    {operation : model.Operation}
    (halive : ∀ track ∈ model.holds operation, system.expired track = false)
    (hrest : ∀ rest, (model.operate (fun _ _ => system.expired) operation system.router).2.2 =
      some rest → ∀ track ∈ model.sectionHolds rest, system.expired track = false) :
    model.ReachableSystem midway (system.perform operation) := by
  have hfirst := h.step (Step.operate system operation _ _ hidle (Elapse.refl midway _) halive)
  unfold System.perform runOperation
  dsimp only
  cases hsection : (model.operate (fun _ _ => system.expired) operation system.router).2.2 with
  | none =>
      simp only [phaseAfter, hsection] at hfirst
      exact hfirst.publishAll rfl
  | some rest =>
      simp only [phaseAfter, hsection] at hfirst
      have hsecond := hfirst.step (Step.resume _ rest _ _ _ rfl (Elapse.refl midway _)
        (hrest rest hsection))
      exact hsecond.publishAll rfl

/-! ## Invariants of the router state -/

/-- A property of the router state that every section keeps. -/
structure StateLaws (model : RouterModel) (inv : model.State → Prop) : Prop where
  initial : ∀ state, model.initial state → inv state
  operate : ∀ seen operation state, inv state → inv (model.operate seen operation state).1
  resume : ∀ seen rest state, inv state → inv (model.resume seen rest state).1
  interrupt : ∀ call state, inv state → inv (model.interrupt call state)
  route : ∀ expired arrival state, inv state → inv (model.route expired arrival state).1
  flush : ∀ now state, inv state → inv (model.flush now state).1
  forward : ∀ expired item state, inv state → inv (model.forward expired item state).1
  sendTurn : ∀ expired isOpen send state, inv state →
    inv (model.sendTurn expired isOpen send state).1

theorem StateLaws.reachable {inv : model.State → Prop} (laws : model.StateLaws inv)
    {midway : Bool} {system : model.System} (h : model.ReachableSystem midway system) :
    inv system.router := by
  refine Reachable.invariant (motive := fun system => inv system.router) ?_ ?_ h
  · intro state hinitial
    exact laws.initial _ hinitial.router
  · intro state next _ hinv hstep
    cases hstep with
    | expire track hfree => exact hinv
    | operate operation seen expired' hidle helapse halive => exact laws.operate _ _ _ hinv
    | resume rest notices seen expired' hphase helapse halive => exact laws.resume _ _ _ hinv
    | publish notice notices hphase => exact hinv
    | finish hphase => exact hinv
    | interrupt call => exact laws.interrupt _ _ hinv
    | route arrival => exact laws.route _ _ _ hinv
    | flush now => exact laws.flush _ _ hinv
    | forward before after item due htasks => exact laws.forward _ _ _ hinv
    | sendTurn before after due send sends isOpen htasks => exact laws.sendTurn _ _ _ _ hinv

end RouterModel

end Sfu
end Driscord
