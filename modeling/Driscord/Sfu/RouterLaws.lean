import Driscord.Sfu.RouterSystem

/-!
# What the laws of a router model give for all interleavings

Each structure below lists what the critical sections of a router must do, and
its theorem says what then holds in every reachable system.

Main results:

- Theorem `LeaseLaws.reachable`: a packet in flight carries a tracked ticket of
  the slot it was collected for.
- Theorem `NoticeLaws.reachable`: the notices published and still to be
  published tell every session the bindings of its slots.
- Theorem `ServiceLaws.reachable`: what every assignment pass establishes holds
  whenever no operation is between its critical sections.
-/

namespace Driscord
namespace Sfu

open Library

namespace RouterModel

variable {model : RouterModel}

/-! ## Packets in flight -/

/-- The ticket of a packet in flight: the slot's rewriter as it was when the
targets were collected, and the publisher of the packet. -/
def ticketOf (send : Send) : Ticket RewriterId PeerId :=
  ⟨send.target.rewriter, send.publisher, send.target.collectedAt⟩

/-- A packet in flight is stamped with the epoch of its ticket, and the ledger
has not fallen behind it. -/
structure InFlight (ledger : Ledger RewriterId PeerId) (send : Send) : Prop where
  stamp : send.target.sourceGeneration = send.target.collectedAt
  tracked : Ticket.Tracked ledger (ticketOf send)

theorem InFlight.advance {before after : Ledger RewriterId PeerId} {send : Send}
    (h : InFlight before send) (hstep : Ledger.Advance before after) : InFlight after send :=
  ⟨h.stamp, h.tracked.advance hstep⟩

/-- Every section advances the ledger of the slots, and targets are collected
for their current holders. -/
structure LeaseLaws (model : RouterModel) (inv : model.State → Prop)
    (ledger : model.State → Ledger RewriterId PeerId) : Prop extends
    StateLaws model inv where
  operate_advance : ∀ seen operation state, inv state →
    Ledger.Advance (ledger state) (ledger (model.operate seen operation state).1)
  resume_advance : ∀ seen rest state, inv state →
    Ledger.Advance (ledger state) (ledger (model.resume seen rest state).1)
  interrupt_advance : ∀ call state, inv state →
    Ledger.Advance (ledger state) (ledger (model.interrupt call state))
  route_advance : ∀ expired arrival state, inv state →
    Ledger.Advance (ledger state) (ledger (model.route expired arrival state).1)
  flush_advance : ∀ now state, inv state →
    Ledger.Advance (ledger state) (ledger (model.flush now state).1)
  forward_advance : ∀ expired item state, inv state →
    Ledger.Advance (ledger state) (ledger (model.forward expired item state).1)
  sendTurn_advance : ∀ expired isOpen send state, inv state →
    Ledger.Advance (ledger state) (ledger (model.sendTurn expired isOpen send state).1)
  route_issue : ∀ expired arrival state, inv state →
    ∀ send ∈ (model.route expired arrival state).2,
      InFlight (ledger (model.route expired arrival state).1) send
  forward_issue : ∀ expired item state, inv state →
    ∀ send ∈ (model.forward expired item state).2,
      InFlight (ledger (model.forward expired item state).1) send

/-- Every pending turn of `send_packets` is in flight. -/
def AllInFlight (ledger : Ledger RewriterId PeerId) (tasks : List (Task model.Delayed)) :
    Prop :=
  ∀ task ∈ tasks, ∀ send ∈ task.sends, InFlight ledger send

theorem AllInFlight.advance {before after : Ledger RewriterId PeerId}
    {tasks : List (Task model.Delayed)} (h : AllInFlight before tasks)
    (hstep : Ledger.Advance before after) : AllInFlight after tasks :=
  fun task htask send hsend => (h task htask send hsend).advance hstep

/-- Replacing the sends of one task. -/
theorem AllInFlight.replace {ledger : Ledger RewriterId PeerId}
    {before after : List (Task model.Delayed)} {task task' : Task model.Delayed}
    (h : AllInFlight ledger (before ++ task :: after))
    (hsends : ∀ send ∈ task'.sends, InFlight ledger send) :
    AllInFlight ledger (before ++ task' :: after) := by
  intro other hother
  rcases List.mem_append.mp hother with hmem | hmem
  · exact h other (List.mem_append_left _ hmem)
  · rcases List.mem_cons.mp hmem with rfl | hmem
    · exact hsends
    · exact h other (List.mem_append_right _ (List.mem_cons_of_mem _ hmem))

theorem LeaseLaws.reachable {inv : model.State → Prop}
    {ledger : model.State → Ledger RewriterId PeerId} (laws : model.LeaseLaws inv ledger)
    {midway : Bool} {system : model.System} (h : model.ReachableSystem midway system) :
    AllInFlight (ledger system.router) system.tasks := by
  refine Reachable.invariant
    (motive := fun system => AllInFlight (ledger system.router) system.tasks) ?_ ?_ h
  · intro state hinitial
    rw [hinitial.tasks]
    intro task htask
    simp at htask
  · intro state next hreach hflight hstep
    have hinv := laws.toStateLaws.reachable hreach
    cases hstep with
    | expire track hfree => exact hflight
    | operate operation seen expired' hidle helapse halive =>
        exact hflight.advance (laws.operate_advance _ _ _ hinv)
    | resume rest notices seen expired' hphase helapse halive =>
        exact hflight.advance (laws.resume_advance _ _ _ hinv)
    | publish notice notices hphase => exact hflight
    | finish hphase => exact hflight
    | interrupt call => exact hflight.advance (laws.interrupt_advance _ _ hinv)
    | route arrival =>
        intro task htask
        rcases List.mem_cons.mp htask with rfl | htask
        · exact laws.route_issue _ _ _ hinv
        · exact hflight.advance (laws.route_advance _ _ _ hinv) task htask
    | flush now =>
        intro task htask
        rcases List.mem_cons.mp htask with rfl | htask
        · intro send hsend
          simp at hsend
        · exact hflight.advance (laws.flush_advance _ _ hinv) task htask
    | forward before after item due htasks =>
        rw [htasks] at hflight
        exact (hflight.advance (laws.forward_advance _ _ _ hinv)).replace
          (laws.forward_issue _ _ _ hinv)
    | sendTurn before after due send sends isOpen htasks =>
        rw [htasks] at hflight
        have hadvanced := hflight.advance (laws.sendTurn_advance state.expired isOpen send _ hinv)
        refine hadvanced.replace fun other hother => ?_
        exact hadvanced ⟨due, send :: sends⟩ (by simp) other (List.mem_cons_of_mem _ hother)

/-! ## Notices -/

/-- What a session believes after one more event.  A new peer state starts with
no bindings. -/
def hear (subscriber : PeerId) (told : Bytes → Option PeerId) :
    BindingEvent → Bytes → Option PeerId
  | BindingEvent.joined peer => if peer = subscriber then fun _ => none else told
  | BindingEvent.notice recipient mid publisher =>
      if recipient = subscriber then tell told (mid, publisher) else told

/-- The last notice for each mid of a subscriber since the router created its
state; `none` when it names no publisher or there was none. -/
def lastNotices (subscriber : PeerId) (history : List BindingEvent) :
    Bytes → Option PeerId :=
  history.foldl (hear subscriber) fun _ => none

/-- The announcements among some notices that reach one subscriber. -/
def noticesTo (subscriber : PeerId) (notices : List BindingNotice) :
    List (Bytes × Option PeerId) :=
  (notices.filter fun notice => notice.send = some subscriber).map fun notice =>
    (notice.mid, notice.publisher)

theorem mem_noticesTo {subscriber : PeerId} {notices : List BindingNotice}
    {entry : Bytes × Option PeerId} :
    entry ∈ noticesTo subscriber notices ↔
      (⟨some subscriber, entry.1, entry.2⟩ : BindingNotice) ∈ notices := by
  simp only [noticesTo, List.mem_map, List.mem_filter, decide_eq_true_eq]
  constructor
  · rintro ⟨⟨_, _, _⟩, ⟨hmem, rfl⟩, rfl⟩
    exact hmem
  · intro hmem
    exact ⟨_, ⟨hmem, rfl⟩, rfl⟩

@[simp]
theorem noticesTo_append (subscriber : PeerId) (first second : List BindingNotice) :
    noticesTo subscriber (first ++ second) =
      noticesTo subscriber first ++ noticesTo subscriber second := by
  simp [noticesTo]

/-- Publishing notices changes a subscriber's belief by those that reach it. -/
theorem foldl_hear_notices (subscriber : PeerId) (told : Bytes → Option PeerId)
    (notices : List BindingNotice) :
    (notices.flatMap BindingNotice.events).foldl (hear subscriber) told =
      (noticesTo subscriber notices).foldl tell told := by
  induction notices generalizing told with
  | nil => rfl
  | cons notice notices ih =>
      rw [List.flatMap_cons, List.foldl_append, ih]
      rcases notice with ⟨_ | recipient, mid, publisher⟩
      · simp [BindingNotice.events, noticesTo]
      · by_cases hrecipient : recipient = subscriber
        · simp [BindingNotice.events, noticesTo, hear, hrecipient]
        · simp [BindingNotice.events, noticesTo, hear, hrecipient]

/-- The history once all pending notices are published. -/
def announced (system : model.System) : List BindingEvent :=
  system.history ++ system.phase.pending.flatMap BindingNotice.events

/-- A batch of notices keeps a subscriber in agreement with its slots, as far as
the mids of the slots are distinct. -/
def Faithful (before after notices : List (Bytes × Option PeerId)) : Prop :=
  (after.map Prod.fst).Nodup →
    (before.map Prod.fst).Nodup ∧
      ∀ told, Agrees told before → Agrees (notices.foldl tell told) after

theorem Faithful.of_reported {before after notices : List (Bytes × Option PeerId)}
    (h : Reported before after notices) : Faithful before after notices :=
  fun hnodup => ⟨h.nodup hnodup, fun _ hagrees => hagrees.report h hnodup⟩

theorem Faithful.refl (board : List (Bytes × Option PeerId)) : Faithful board board [] :=
  fun hnodup => ⟨hnodup, fun _ hagrees => hagrees⟩

/-- An unbound port with a label of its own needs no notice. -/
theorem Faithful.insert (first second : List (Bytes × Option PeerId)) (label : Bytes) :
    Faithful (first ++ second) (first ++ (label, none) :: second) [] := by
  intro hnodup
  rw [List.map_append, List.map_cons, List.nodup_middle, List.nodup_cons,
    ← List.map_append] at hnodup
  rcases hnodup with ⟨hnew, hnodup⟩
  refine ⟨hnodup, fun told hagrees => ⟨?_, ?_⟩⟩
  · intro entry hentry
    simp only [List.mem_append, List.mem_cons] at hentry
    rcases hentry with hold | rfl | hold
    · exact hagrees.held entry (List.mem_append_left _ hold)
    · exact hagrees.silent label hnew
    · exact hagrees.held entry (List.mem_append_right _ hold)
  · intro other hother
    refine hagrees.silent other fun hmem => hother ?_
    simp only [List.map_append, List.map_cons, List.mem_append, List.mem_cons] at hmem ⊢
    tauto

theorem Faithful.trans {first second third notices notices' : List (Bytes × Option PeerId)}
    (h : Faithful first second notices) (h' : Faithful second third notices') :
    Faithful first third (notices ++ notices') := by
  intro hnodup
  rcases h' hnodup with ⟨hnodup', hstep'⟩
  rcases h hnodup' with ⟨hnodup'', hstep⟩
  refine ⟨hnodup'', ?_⟩
  intro told hagrees
  rw [List.foldl_append]
  exact hstep' _ (hstep told hagrees)

/-- Every section gives faithful notice of what it does to the board of each
subscriber that is still there.  The board of an absent peer is empty. -/
structure NoticeLaws (model : RouterModel) (inv : model.State → Prop)
    (board : model.State → PeerId → List (Bytes × Option PeerId)) : Prop extends
    StateLaws model inv where
  board_absent : ∀ state subscriber, model.present state subscriber = false →
    board state subscriber = []
  operate_joins : ∀ seen operation state subscriber,
    model.present (model.operate seen operation state).1 subscriber = true →
      model.present state subscriber = true ∨ subscriber = model.caller operation
  operate_faithful : ∀ seen operation state subscriber, inv state →
    model.present (model.operate seen operation state).1 subscriber = true →
      Faithful (board state subscriber)
        (board (model.operate seen operation state).1 subscriber)
        (noticesTo subscriber (model.operate seen operation state).2.1)
  resume_joins : ∀ seen rest state subscriber,
    model.present (model.resume seen rest state).1 subscriber = true →
      model.present state subscriber = true
  resume_faithful : ∀ seen rest state subscriber, inv state →
    model.present (model.resume seen rest state).1 subscriber = true →
      Faithful (board state subscriber)
        (board (model.resume seen rest state).1 subscriber)
        (noticesTo subscriber (model.resume seen rest state).2)
  interrupt_board : ∀ call state subscriber,
    model.present (model.interrupt call state) subscriber = true →
      model.present state subscriber = true ∧
        board (model.interrupt call state) subscriber = board state subscriber
  route_board : ∀ expired arrival state,
    model.present (model.route expired arrival state).1 = model.present state ∧
      board (model.route expired arrival state).1 = board state
  flush_board : ∀ now state,
    model.present (model.flush now state).1 = model.present state ∧
      board (model.flush now state).1 = board state
  forward_board : ∀ expired item state,
    model.present (model.forward expired item state).1 = model.present state ∧
      board (model.forward expired item state).1 = board state
  sendTurn_board : ∀ expired isOpen send state, inv state →
    model.present (model.sendTurn expired isOpen send state).1 = model.present state ∧
      board (model.sendTurn expired isOpen send state).1 = board state

/-- Every subscriber in the router with distinct mids is, or is about to be,
told the bindings of its slots. -/
def Informed (board : model.State → PeerId → List (Bytes × Option PeerId))
    (system : model.System) : Prop :=
  ∀ subscriber, model.present system.router subscriber = true →
    ((board system.router subscriber).map Prod.fst).Nodup →
      Agrees (lastNotices subscriber (announced system)) (board system.router subscriber)

/-- A faithful section keeps the subscribers informed. -/
theorem agrees_of_faithful {subscriber : PeerId} {history : List BindingEvent}
    {before after : List (Bytes × Option PeerId)} {notices : List BindingNotice}
    (h : (before.map Prod.fst).Nodup → Agrees (lastNotices subscriber history) before)
    (hfaithful : Faithful before after (noticesTo subscriber notices))
    (hnodup : (after.map Prod.fst).Nodup) :
    Agrees (lastNotices subscriber (history ++ notices.flatMap BindingNotice.events)) after := by
  rcases hfaithful hnodup with ⟨hnodup', hstep⟩
  rw [lastNotices, List.foldl_append, foldl_hear_notices]
  exact hstep _ (h hnodup')

theorem lastNotices_joined (subscriber : PeerId) (history : List BindingEvent) :
    lastNotices subscriber (history ++ [BindingEvent.joined subscriber]) = fun _ => none := by
  simp [lastNotices, hear]

theorem lastNotices_joined_ne {subscriber other : PeerId} (history : List BindingEvent)
    (hne : other ≠ subscriber) :
    lastNotices subscriber (history ++ [BindingEvent.joined other]) =
      lastNotices subscriber history := by
  simp [lastNotices, hear, hne]

/-- Nothing is held on an empty board. -/
theorem agrees_nil : Agrees (fun _ : Bytes => (none : Option PeerId)) [] :=
  ⟨by simp, fun _ _ => rfl⟩

theorem NoticeLaws.reachable {inv : model.State → Prop}
    {board : model.State → PeerId → List (Bytes × Option PeerId)}
    (laws : model.NoticeLaws inv board) (hempty : ∀ state subscriber, model.initial state →
      model.present state subscriber = false)
    {midway : Bool} {system : model.System} (h : model.ReachableSystem midway system) :
    Informed board system := by
  refine Reachable.invariant (motive := Informed board) ?_ ?_ h
  · intro state hinitial subscriber hpresent
    rw [hempty _ _ hinitial.router] at hpresent
    contradiction
  · intro state next hreach hinformed hstep subscriber hpresent hnodup
    have hinv := laws.toStateLaws.reachable hreach
    cases hstep with
    | expire track hfree => exact hinformed subscriber hpresent hnodup
    | operate operation seen expired' hidle helapse halive =>
        have hfaithful := laws.operate_faithful seen operation _ subscriber hinv hpresent
        have hpending : (phaseAfter (model.operate seen operation state.router)).pending =
            (model.operate seen operation state.router).2.1 := by
          unfold phaseAfter
          split <;> rfl
        have hquiet : announced state = state.history := by
          simp [announced, hidle, Phase.pending]
        simp only [announced, hpending]
        refine agrees_of_faithful ?_ hfaithful hnodup
        intro hbefore
        by_cases hold : model.present state.router subscriber = true
        · have hagrees := hinformed subscriber hold hbefore
          rw [hquiet] at hagrees
          unfold joinEvents
          split
          · rename_i hjoined
            have hne : model.caller operation ≠ subscriber := by
              rintro rfl
              simp [hold] at hjoined
            rw [lastNotices_joined_ne _ hne]
            exact hagrees
          · simpa using hagrees
        · have hcaller := (laws.operate_joins seen operation _ subscriber hpresent).resolve_left
            hold
          subst hcaller
          rw [laws.board_absent _ _ (by simpa using hold), joinEvents,
            if_pos (by simp [hpresent, hold]), lastNotices_joined]
          exact agrees_nil
    | resume rest notices seen expired' hphase helapse halive =>
        have hold := laws.resume_joins seen rest _ subscriber hpresent
        have hfaithful := laws.resume_faithful seen rest _ subscriber hinv hpresent
        have hagrees := hinformed subscriber hold
        simp only [announced, hphase, Phase.pending] at hagrees ⊢
        rw [List.flatMap_append, ← List.append_assoc]
        exact agrees_of_faithful hagrees hfaithful hnodup
    | publish notice notices hphase =>
        have hagrees := hinformed subscriber hpresent hnodup
        simp only [announced, hphase, Phase.pending, List.flatMap_cons] at hagrees ⊢
        rwa [List.append_assoc]
    | finish hphase =>
        have hagrees := hinformed subscriber hpresent hnodup
        simpa [announced, hphase, Phase.pending] using hagrees
    | interrupt call =>
        rcases laws.interrupt_board call _ subscriber hpresent with ⟨hold, hboard⟩
        dsimp only at hnodup ⊢
        rw [hboard] at hnodup ⊢
        exact hinformed subscriber hold hnodup
    | route arrival =>
        rcases laws.route_board state.expired arrival state.router with ⟨hsame, hboard⟩
        dsimp only at hpresent hnodup ⊢
        rw [hsame] at hpresent
        rw [hboard] at hnodup ⊢
        exact hinformed subscriber hpresent hnodup
    | flush now =>
        rcases laws.flush_board now state.router with ⟨hsame, hboard⟩
        dsimp only at hpresent hnodup ⊢
        rw [hsame] at hpresent
        rw [hboard] at hnodup ⊢
        exact hinformed subscriber hpresent hnodup
    | forward before after item due htasks =>
        rcases laws.forward_board state.expired item state.router with ⟨hsame, hboard⟩
        dsimp only at hpresent hnodup ⊢
        rw [hsame] at hpresent
        rw [hboard] at hnodup ⊢
        exact hinformed subscriber hpresent hnodup
    | sendTurn before after due send sends isOpen htasks =>
        rcases laws.sendTurn_board state.expired isOpen send state.router hinv with ⟨hsame, hboard⟩
        dsimp only at hpresent hnodup ⊢
        rw [hsame] at hpresent
        rw [hboard] at hnodup ⊢
        exact hinformed subscriber hpresent hnodup

/-! ## Service -/

/-- Every operation ends with an assignment pass or leaves a served router as it
is; `ready` is what an operation leaves behind for its second section. -/
structure ServiceLaws (model : RouterModel) (inv : model.State → Prop)
    (ready : model.Section → model.State → Prop)
    (served : (TrackId → Bool) → model.State → Prop) : Prop extends
    StateLaws model inv where
  served_initial : ∀ expired state, model.initial state → served expired state
  served_mono : ∀ expired expired' state, (∀ id, expired id = true → expired' id = true) →
    served expired state → served expired' state
  operate_served : ∀ expired operation state, inv state → served expired state →
    (model.operate (fun _ _ => expired) operation state).2.2 = none →
      served expired (model.operate (fun _ _ => expired) operation state).1
  operate_ready : ∀ seen operation state rest, inv state →
    (model.operate seen operation state).2.2 = some rest →
      ready rest (model.operate seen operation state).1
  resume_served : ∀ expired rest state, inv state → ready rest state →
    served expired (model.resume (fun _ _ => expired) rest state).1
  interrupt_keeps : ∀ expired call state, inv state →
    (served expired state → served expired (model.interrupt call state)) ∧
      ∀ rest, ready rest state → ready rest (model.interrupt call state)
  route_keeps : ∀ expired expired' arrival state, inv state →
    (served expired' state → served expired' (model.route expired arrival state).1) ∧
      ∀ rest, ready rest state → ready rest (model.route expired arrival state).1
  flush_keeps : ∀ expired' now state, inv state →
    (served expired' state → served expired' (model.flush now state).1) ∧
      ∀ rest, ready rest state → ready rest (model.flush now state).1
  forward_keeps : ∀ expired expired' item state, inv state →
    (served expired' state → served expired' (model.forward expired item state).1) ∧
      ∀ rest, ready rest state → ready rest (model.forward expired item state).1
  sendTurn_keeps : ∀ expired expired' isOpen send state, inv state →
    (served expired' state → served expired' (model.sendTurn expired isOpen send state).1) ∧
      ∀ rest, ready rest state → ready rest (model.sendTurn expired isOpen send state).1

/-- Served, or in the middle of an operation that will serve. -/
def Serving (ready : model.Section → model.State → Prop)
    (served : (TrackId → Bool) → model.State → Prop) (system : model.System) : Prop :=
  match system.phase with
  | Phase.between rest _ => ready rest system.router
  | _ => served system.expired system.router

/-- A concurrent section keeps `Serving`. -/
theorem Serving.keep {ready : model.Section → model.State → Prop}
    {served : (TrackId → Bool) → model.State → Prop} {system : model.System}
    (h : Serving ready served system) {router : model.State}
    (tasks : List (Task model.Delayed))
    (hkeep : (served system.expired system.router → served system.expired router) ∧
      ∀ rest, ready rest system.router → ready rest router) :
    Serving ready served { system with router := router, tasks := tasks } := by
  unfold Serving at h ⊢
  cases hphase : system.phase with
  | idle => rw [hphase] at h; exact hkeep.1 h
  | between rest notices => rw [hphase] at h; exact hkeep.2 rest h
  | publishing notices => rw [hphase] at h; exact hkeep.1 h

theorem ServiceLaws.reachable {inv : model.State → Prop}
    {ready : model.Section → model.State → Prop}
    {served : (TrackId → Bool) → model.State → Prop}
    (laws : model.ServiceLaws inv ready served) {system : model.System}
    (h : model.ReachableSystem false system) : Serving ready served system := by
  refine Reachable.invariant (motive := Serving ready served) ?_ ?_ h
  · intro state hinitial
    simp only [Serving, hinitial.phase]
    exact laws.served_initial _ _ hinitial.router
  · intro state next hreach hserving hstep
    have hinv := laws.toStateLaws.reachable hreach
    have hseen : ∀ {seen expired'}, Elapse false state.expired seen expired' →
        seen = fun _ _ => expired' := by
      intro seen expired' helapse
      funext subscriber publisher
      exact helapse.seen_eq subscriber publisher
    cases hstep with
    | expire track hfree =>
        have hmono : ∀ id, state.expired id = true →
            Function.update state.expired track true id = true := by
          intro id hid
          by_cases heq : id = track
          · simp [heq]
          · simpa [Function.update_of_ne heq] using hid
        unfold Serving at hserving ⊢
        cases hphase : state.phase with
        | idle => rw [hphase] at hserving; exact laws.served_mono _ _ _ hmono hserving
        | between rest notices => rw [hphase] at hserving; exact hserving
        | publishing notices => rw [hphase] at hserving; exact laws.served_mono _ _ _ hmono hserving
    | operate operation seen expired' hidle helapse halive =>
        have hserved : served expired' state.router := by
          simp only [Serving, hidle] at hserving
          exact laws.served_mono _ _ _ helapse.mono hserving
        have hconstant := hseen helapse
        subst hconstant
        unfold Serving phaseAfter
        cases hrest : (model.operate (fun _ _ => expired') operation state.router).2.2 with
        | none => exact laws.operate_served _ _ _ hinv hserved hrest
        | some rest => exact laws.operate_ready _ _ _ _ hinv hrest
    | resume rest notices seen expired' hphase helapse halive =>
        simp only [Serving, hphase] at hserving
        have hconstant := hseen helapse
        subst hconstant
        exact laws.resume_served _ _ _ hinv hserving
    | publish notice notices hphase =>
        simp only [Serving, hphase] at hserving
        exact hserving
    | finish hphase =>
        simp only [Serving, hphase] at hserving
        exact hserving
    | interrupt call => exact hserving.keep _ (laws.interrupt_keeps _ _ _ hinv)
    | route arrival => exact hserving.keep _ (laws.route_keeps _ _ _ _ hinv)
    | flush now => exact hserving.keep _ (laws.flush_keeps _ _ _ hinv)
    | forward before after item due htasks =>
        exact hserving.keep _ (laws.forward_keeps _ _ _ _ hinv)
    | sendTurn before after due send sends isOpen htasks =>
        exact hserving.keep _ (laws.sendTurn_keeps _ _ _ _ _ hinv)

end RouterModel

end Sfu
end Driscord
