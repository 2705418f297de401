import Driscord.Server.RouterWatches

/-!
# Requests for watches

What the server still has to handle of the texts of one session decides, together with
`video_watchers`, what the session will watch.  A text that is rejected changes that, and
then the session is told.

Main results:

- Theorem `Rewatched.wanted`: what the session will watch changes only with a message
  that says so.
- Theorem `Serves.rewatched`: the watches of a session from its upgrade on.
- Theorem `progress`: how the server gets on with the texts of a session.
-/

namespace Driscord
namespace Server

open Library Signaling Sfu

/-! ## Texts -/

/-- Whether a peer is watched after a text was handled, unless it is rejected. -/
def wants (peer : PeerId) (before : Bool) (raw : Option Json) : Bool :=
  match parse raw with
  | Except.ok (Message.watchStart publisher) => before || publisher = peer
  | Except.ok (Message.watchStop publisher) => before && publisher ≠ peer
  | _ => before

/-- The message tells its receiver that it does not watch the peer. -/
def drops (peer : PeerId) : Message → Bool
  | Message.watchRejected id _ | Message.peerLeft id => id = peer
  | _ => false

/-- The texts of a session that an event handles. -/
def ServerEvent.texts (id : PeerId) : ServerEvent → List (Option Json)
  | ServerEvent.read other raw => if other = id then [raw] else []
  | _ => []

/-- The texts of a session that a section of the io thread handles. -/
def IoSection.texts (id : PeerId) : IoSection → List (Option Json)
  | IoSection.signal event => event.texts id
  | _ => []

/-- The texts of a session that the io thread is about to handle. -/
def MediaServer.reading (server : MediaServer) (id : PeerId) : List (Option Json) :=
  server.io.flatMap (IoSection.texts id)

variable {peer : PeerId}

theorem wants_watchStart {raw : Option Json} {publisher : PeerId}
    (hparse : parse raw = Except.ok (Message.watchStart publisher)) (before : Bool) :
    wants peer before raw = (before || decide (publisher = peer)) := by
  rw [wants, hparse]

theorem wants_watchStop {raw : Option Json} {publisher : PeerId}
    (hparse : parse raw = Except.ok (Message.watchStop publisher)) (before : Bool) :
    wants peer before raw = (before && decide (publisher ≠ peer)) := by
  rw [wants, hparse]

/-- A text that neither asks for a watch nor gives one up. -/
theorem wants_of_not {raw : Option Json} (hstart : ∀ publisher,
      parse raw ≠ Except.ok (Message.watchStart publisher))
    (hstop : ∀ publisher, parse raw ≠ Except.ok (Message.watchStop publisher)) (before : Bool) :
    wants peer before raw = before := by
  unfold wants
  split
  · rename_i publisher hparse
    exact absurd hparse (hstart publisher)
  · rename_i publisher hparse
    exact absurd hparse (hstop publisher)
  · rfl

theorem wants_mono {first second : Bool} (h : first = true → second = true)
    (raw : Option Json) (hwants : wants peer first raw = true) : wants peer second raw = true := by
  unfold wants at hwants ⊢
  split <;> simp_all
  tauto

/-- More watches before lead to more watches afterwards. -/
theorem foldl_wants_mono (texts : List (Option Json)) {first second : Bool}
    (h : first = true → second = true) (hwants : texts.foldl (wants peer) first = true) :
    texts.foldl (wants peer) second = true := by
  induction texts generalizing first second with
  | nil => exact h hwants
  | cons raw texts ih => exact ih (wants_mono h raw) hwants

/-- Fewer watches before lead to fewer watches afterwards only for a reason. -/
theorem foldl_wants_or (texts : List (Option Json)) {first second : Bool} {reason : Prop}
    (h : first = true → second = true ∨ reason)
    (hwants : texts.foldl (wants peer) first = true) :
    texts.foldl (wants peer) second = true ∨ reason := by
  cases first with
  | false => exact Or.inl (foldl_wants_mono texts (fun hfalse => by contradiction) hwants)
  | true =>
      rcases h rfl with hsecond | hreason
      · exact Or.inl (foldl_wants_mono texts (fun _ => hsecond) hwants)
      · exact Or.inr hreason

namespace SignalingSystem

/-! ## Watches of a session -/

/-- The entry of the session in `video_watchers`. -/
def watchedBy (system : SignalingSystem) (id : PeerId) : Finset PeerId :=
  ((system.sessions.lookup id).bind fun session =>
    (system.server.rooms.lookup session.roomId).map fun room => room.watched id).getD ∅

/-- The server has not ended, and the session is in its room or not accepted yet. -/
def Serves (system : SignalingSystem) (id : PeerId) : Prop :=
  system.ended = false ∧ ∀ session ∈ system.sessions.lookup id,
    ∃ room ∈ system.server.rooms.lookup session.roomId, id ∈ room.sessions

instance (system : SignalingSystem) (id : PeerId) : Decidable (system.Serves id) :=
  inferInstanceAs (Decidable (_ ∧ _))

variable {system next : SignalingSystem} {event : ServerEvent} {id : PeerId}
variable {before after : Finset PeerId} {told : List Message}

theorem watchedBy_eq {session : Session} {room : Room}
    (hsession : system.sessions.lookup id = some session)
    (hroom : system.server.rooms.lookup session.roomId = some room) :
    system.watchedBy id = room.watched id := by
  simp [watchedBy, hsession, hroom]

/-- What the session will watch changes only with a message that says so. -/
theorem Rewatched.wanted (h : Rewatched id before event after told) (peer : PeerId) :
    (peer ∈ after → (event.texts id).foldl (wants peer) (decide (peer ∈ before)) = true) ∧
      ((event.texts id).foldl (wants peer) (decide (peer ∈ before)) = true →
        peer ∈ after ∨ ∃ message ∈ told, drops peer message = true) := by
  cases h with
  | accepted hparse =>
      simp only [ServerEvent.texts, if_true, List.foldl_cons, List.foldl_nil,
        wants_watchStart hparse, Bool.or_eq_true, decide_eq_true_eq, Finset.mem_insert]
      refine ⟨?_, ?_⟩
      · rintro (rfl | hwatched)
        · exact Or.inr rfl
        · exact Or.inl hwatched
      · rintro (hwatched | rfl)
        · exact Or.inl (Or.inr hwatched)
        · exact Or.inl (Or.inl rfl)
  | rejected reason hparse =>
      simp only [ServerEvent.texts, if_true, List.foldl_cons, List.foldl_nil,
        wants_watchStart hparse, Bool.or_eq_true, decide_eq_true_eq]
      refine ⟨Or.inl, ?_⟩
      rintro (hwatched | rfl)
      · exact Or.inl hwatched
      · exact Or.inr ⟨_, List.mem_singleton_self _, by simp [drops]⟩
  | givenUp hparse =>
      simp only [ServerEvent.texts, if_true, List.foldl_cons, List.foldl_nil,
        wants_watchStop hparse, Bool.and_eq_true, decide_eq_true_eq, Finset.mem_erase]
      refine ⟨?_, ?_⟩
      · rintro ⟨hne, hwatched⟩
        exact ⟨hwatched, Ne.symm hne⟩
      · rintro ⟨hwatched, hne⟩
        exact Or.inl ⟨Ne.symm hne, hwatched⟩
  | unasked hother hsub hgone =>
      have hnothing : (event.texts id).foldl (wants peer) (decide (peer ∈ before)) =
          decide (peer ∈ before) := by
        cases event with
        | read other raw =>
            by_cases hsame : other = id
            · subst hsame
              simp only [ServerEvent.texts, if_true, List.foldl_cons, List.foldl_nil]
              exact wants_of_not (fun publisher => (hother raw publisher rfl).1)
                (fun publisher => (hother raw publisher rfl).2) _
            · simp [ServerEvent.texts, hsame]
        | _ => rfl
      rw [hnothing, decide_eq_true_eq]
      refine ⟨hsub peer, ?_⟩
      intro hwatched
      rcases hgone peer hwatched with hkept | hleft
      · exact Or.inl hkept
      · exact Or.inr ⟨_, hleft, by simp [drops]⟩

/-! ## From the upgrade on -/

theorem inbox_append (log entries : List LogEntry) (id : PeerId) :
    inbox (log ++ entries) id = inbox log id ++ inbox entries id :=
  List.filterMap_append

/-- Messages are only ever added. -/
theorem log_act (hact : system.act event = some next) :
    ∃ entries, next.log = system.log ++ entries := by
  have hconclude : ∀ (before : SignalingSystem) result,
      ∃ entries, (before.conclude result).log = before.log ++ entries := by
    intro before result
    unfold conclude
    split
    · exact ⟨_, rfl⟩
    · exact ⟨[], (List.append_nil _).symm⟩
  have hclose : ∀ (before : SignalingSystem) leaver session,
      ∃ entries, (before.onClose leaver session).log = before.log ++ entries := by
    intro before leaver session
    unfold onClose
    split
    · exact ⟨[], (List.append_nil _).symm⟩
    · split
      · exact ⟨[], (List.append_nil _).symm⟩
      · rename_i result hresult
        rcases hconclude { before with
          sessions := before.sessions.insert leaver { session with closed := true }
          log := before.log ++ [LogEntry.unregistered leaver] } result with ⟨entries, hentries⟩
        exact ⟨[LogEntry.unregistered leaver] ++ entries, by rw [hentries, List.append_assoc]⟩
  cases acted_of_act hact with
  | refused => exact hconclude system _
  | accepted => exact hconclude _ _
  | readFailed => exact hclose _ _ _
  | parsed => exact hconclude system _
  | writeFailed => exact hclose system _ _
  | unparsed | written | listed | unlisted | stopped => exact ⟨[], (List.append_nil _).symm⟩

/-- A session that was not accepted yet watches nobody, nor does it right after. -/
theorem Watchers.watchedBy_of_fresh (h : Watchers system) (hact : system.act event = some next)
    (hfresh : id ∉ system.sessions) : next.watchedBy id = ∅ := by
  have hbefore : ∀ roomId, ((system.server.rooms.lookup roomId).getD {}).watched id = ∅ := by
    intro roomId
    cases hroom : system.server.rooms.lookup roomId with
    | none => rfl
    | some room => exact h.watched_of_fresh hroom hfresh
  cases hsession : next.sessions.lookup id with
  | none => simp [watchedBy, hsession]
  | some session =>
      cases hroom : next.server.rooms.lookup session.roomId with
      | none => simp [watchedBy, hsession, hroom]
      | some changed =>
          rw [watchedBy_eq hsession hroom, Finset.eq_empty_iff_forall_notMem]
          intro watched hwatched
          have hnone := Finset.eq_empty_iff_forall_notMem.mp (hbefore session.roomId) watched
          cases watchersChanged_of_act hact hroom with
          | kept hsame => exact hnone (Room.watched_congr hsame id ▸ hwatched)
          | watched hknown hne =>
              rcases Room.mem_watched_watch.mp hwatched with hold | ⟨rfl, -⟩
              · exact hnone hold
              · exact hfresh hknown
          | unwatched watcher publisher => exact hnone (Room.mem_watched_unwatch.mp hwatched).1
          | left leaver => exact hnone (Room.mem_watched_leave.mp hwatched).1

/-- What an event does to the watches of a session from its upgrade on. -/
theorem Serves.rewatched (hregistry : Registry system) (hwatchers : Watchers system)
    (hact : system.act event = some next) (hserves : next.Serves id) :
    system.Serves id ∧ ∃ told, inbox next.log id = inbox system.log id ++ told ∧
      Rewatched id (system.watchedBy id) event (next.watchedBy id) told := by
  have hended := running_of_act hact
  cases hsession : system.sessions.lookup id with
  | none =>
      have hfresh : id ∉ system.sessions := AList.lookup_eq_none.mp hsession
      have hempty : system.watchedBy id = ∅ := by simp [watchedBy, hsession]
      rcases log_act hact with ⟨entries, hentries⟩
      refine ⟨⟨hended, by simp [hsession]⟩, inbox entries id,
        by rw [hentries, inbox_append], ?_⟩
      rw [hwatchers.watchedBy_of_fresh hact hfresh, hempty]
      refine Rewatched.unasked ?_ (fun _ hmem => hmem) fun _ hmem => Or.inl hmem
      rintro raw publisher rfl
      rcases act_read hact with ⟨session, hfound, -⟩
      rw [hsession] at hfound
      contradiction
  | some session =>
      rcases session_act hact hsession with ⟨kept, hkept, hroomId, -⟩
      rcases hserves.2 kept hkept with ⟨changed, hchanged, hmem⟩
      have hlookup : next.server.rooms.lookup kept.roomId = some changed := hchanged
      have hsame : next.server.rooms.lookup session.roomId = some changed := hroomId ▸ hlookup
      rcases hregistry.rewatched hact hserves.1 hsession hsame hmem with
        ⟨room, told, hroom, hin, hinbox, hrewatched⟩
      refine ⟨⟨hended, ?_⟩, told, hinbox, ?_⟩
      · intro found hfound
        obtain rfl : session = found := Option.some.inj (hsession.symm.trans hfound)
        exact ⟨room, hroom, hin⟩
      · rwa [watchedBy_eq hsession hroom, watchedBy_eq hkept hlookup]

end SignalingSystem

namespace MediaServer

open SignalingSystem

variable {server next : MediaServer} {action : MediaAction}

/-! ## The texts of a session -/

theorem flatMap_texts {items : List IoSection} (id : PeerId)
    (h : ∀ event, IoSection.signal event ∉ items) : items.flatMap (IoSection.texts id) = [] := by
  rw [List.flatMap_eq_nil_iff]
  intro item hitem
  cases item with
  | signal event => exact absurd hitem (h event)
  | _ => rfl

/-- The texts are the same after a section that handles none. -/
theorem reading_of_aside {head : IoSection} {rest pushed : List IoSection} (id : PeerId)
    (hio : server.io = head :: rest) (hhead : head.texts id = [])
    (hpushed : ∀ event, IoSection.signal event ∉ pushed) :
    (pushed ++ rest).flatMap (IoSection.texts id) = server.reading id := by
  rw [reading, hio, List.flatMap_append, flatMap_texts id hpushed, List.flatMap_cons, hhead]

/-- The io thread takes an event. -/
theorem reading_handle {event : ServerEvent}
    (hact : server.act (MediaAction.handle event) = some next) (id : PeerId) :
    next.signaling = server.signaling ∧ server.reading id = [] ∧
      next.reading id = event.texts id := by
  cases acted_of_act hact with
  | handled event hidle hevent =>
      refine ⟨rfl, by simp [reading, hidle], ?_⟩
      rw [reading, List.flatMap_append, flatMap_texts id, List.nil_append]
      · simp [IoSection.texts]
      · simp

/-- How the server gets on with the texts of a session: it takes one, handles an event, or
does something else. -/
theorem progress (h : Duties server) (hact : server.act action = some next) (id : PeerId) :
    (∃ raw, action = MediaAction.handle (ServerEvent.read id raw)) ∨
      (∃ event, server.signaling.act event = some next.signaling ∧
        server.reading id = event.texts id ∧ next.reading id = []) ∨
      (next.signaling = server.signaling ∧ next.reading id = server.reading id) := by
  cases acted_of_act hact with
  | handled event hidle hevent =>
      rcases reading_handle hact id with ⟨-, hbefore, hafter⟩
      by_cases hown : event.texts id = []
      · exact Or.inr (Or.inr ⟨rfl, by rw [hbefore, ← hown]; exact hafter⟩)
      · cases event with
        | read other raw =>
            simp only [ServerEvent.texts, ite_eq_right_iff, not_forall] at hown
            rcases hown with ⟨rfl, -⟩
            exact Or.inl ⟨raw, rfl⟩
        | _ => exact absurd rfl hown
  | signaled seen failed hio hevent =>
      rcases h.signal_head hio with ⟨rfl, -⟩
      refine Or.inr (Or.inl ⟨_, by rw [hevent, signaling_opened], ?_, ?_⟩)
      · simp [reading, hio, IoSection.texts]
      · rw [reading, List.append_nil]
        apply flatMap_texts
        intro event hmem
        rcases mem_followUp hmem with ⟨_, _, hitem⟩ | ⟨_, _, _, _, _, _, hitem⟩ |
          ⟨_, _, _, _, _, _, _, hitem, _⟩ | ⟨_, _, _, _, hitem⟩ | ⟨_, ⟨_, _, hitem⟩ | ⟨_, hitem⟩⟩
        all_goals contradiction
  | mediaClosed seen failed other rest hio =>
      exact Or.inr (Or.inr ⟨rfl, @reading_of_aside _ _ rest [] id hio rfl (by simp)⟩)
  | called seen failed handle routerCall rest hio =>
      exact Or.inr (Or.inr ⟨rfl, @reading_of_aside _ _ rest [] id hio rfl (by simp)⟩)
  | offered seen failed hio hhead hpushed =>
      refine Or.inr (Or.inr ⟨rfl, reading_of_aside id hio ?_ ?_⟩)
      · rename_i head rest pushed
        cases head <;> first | rfl | contradiction
      · intro event hmem
        have hoffers := hpushed _ hmem
        contradiction
  | removed seen failed other connection pc rest hio =>
      exact Or.inr (Or.inr ⟨rfl, @reading_of_aside _ _ rest [] id hio rfl (by simp)⟩)
  | created seen other connection rest hio =>
      exact Or.inr (Or.inr ⟨rfl, @reading_of_aside _ _ rest
        [IoSection.applyOffer other connection server.created.length] id hio rfl (by simp)⟩)
  | delivered | registered | rejected | orphaned | found | routed | lost | closedTrack =>
      exact Or.inr (Or.inr ⟨rfl, rfl⟩)

end MediaServer

end Server
end Driscord
