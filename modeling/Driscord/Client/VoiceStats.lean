import Driscord.Library.TransitionSystem

/-!
# Voice statistics of the client

A poll sets `voice_stats_in_flight` and asks the voice session for its statistics;
the callback stores them and clears the flag.  The session drops the callback when
it was closed meanwhile.  Polls, callbacks and the start and stop of sessions run at
the same time, at the granularity of the sections under `mutex` and the calls into
the session.

Sessions are numbered in the order in which they are made.  What a report holds is a
parameter; the number of the session that made it is kept beside it.

Main results:

- Theorem `Sound.step`: the invariant of runs in which no session is stopped while a
  request is in flight.
- Theorem `statsCurrent_of_reachable`: there the flag and the statistics belong to the
  installed session.
- Theorem `polling_wedges`: otherwise the flag may stay set forever.
-/

namespace Driscord
namespace Client

open Library

/-- What holds `voice_lifecycle_mutex`. -/
inductive VoiceLifecycle where
  | idle
  /-- `start_voice_if_requested` has made a session. -/
  | starting (session : ℕ)
  /-- `stop_voice_session` has taken a session out. -/
  | stopping (session : ℕ)
deriving DecidableEq, Repr

/-- How far a request for statistics is. -/
inductive StatsStage (Report : Type) where
  /-- `get_stats` of the session was not called yet. -/
  | calling
  /-- `get_stats` has returned false. -/
  | refused
  /-- The peer connection has not reported. -/
  | outstanding
  /-- The report has passed `owns`, and the callback has not stored it. -/
  | storing (report : Report)
deriving DecidableEq, Repr

/-- A request for the statistics of a session. -/
structure StatsRequest (Report : Type) where
  session : ℕ
  stage : StatsStage Report := .calling
deriving DecidableEq, Repr

/-- `GoogleWebRtcClient::Impl`, as far as the voice statistics are concerned. -/
structure VoiceStatsClient (Report : Type) where
  voiceRequested : Bool := false
  connected : Bool := false
  voiceSession : Option ℕ := none
  voiceStats : Option (ℕ × Report) := none
  voiceStatsInFlight : Bool := false
  lifecycle : VoiceLifecycle := .idle
  closed : List ℕ := []
  nextSession : ℕ := 0
  requests : List (StatsRequest Report) := []
deriving DecidableEq, Repr

/-- The sections of the threads. -/
inductive VoiceStatsAction (Report : Type) where
  | setRequested (requested : Bool)
  | setConnected (connected : Bool)
  /-- The first part of `start_voice_if_requested`. -/
  | start
  /-- The rest of it, after `start` of the session has returned. -/
  | started (ready : Bool)
  /-- The section of `stop_voice_session`. -/
  | stop
  /-- `close` of the session that was stopped. -/
  | close
  /-- The first section of `request_voice_stats`. -/
  | poll
  /-- `get_stats` of the session. -/
  | getStats (index : ℕ)
  /-- The last section of `request_voice_stats`. -/
  | notStarted (index : ℕ)
  /-- The peer connection reports. -/
  | report (index : ℕ) (report : Report)
  /-- The callback of `request_voice_stats`. -/
  | store (index : ℕ)
deriving DecidableEq, Repr

namespace VoiceStatsClient

variable {Report : Type}

/-- The first section of `request_voice_stats`. -/
def requestVoiceStats (client : VoiceStatsClient Report) : VoiceStatsClient Report :=
  if client.voiceStatsInFlight then client
  else
    match client.voiceSession with
    | none => { client with voiceStats := none }
    | some session =>
        { client with
          voiceStatsInFlight := true
          requests := client.requests ++ [{ session }] }

/-- Change the stage of a request. -/
def setStage (client : VoiceStatsClient Report) (index : ℕ) (request : StatsRequest Report)
    (stage : StatsStage Report) : VoiceStatsClient Report :=
  { client with requests := client.requests.set index { request with stage } }

/-- A request ends. -/
def endRequest (client : VoiceStatsClient Report) (index : ℕ) : VoiceStatsClient Report :=
  { client with requests := client.requests.eraseIdx index }

/-- The section of `stop_voice_session`. -/
def stopVoiceSession (client : VoiceStatsClient Report) : VoiceStatsClient Report :=
  { client with
    voiceSession := none
    voiceStats := none
    lifecycle := match client.voiceSession with
      | some old => .stopping old
      | none => .idle }

/-- The conditions of `start_voice_if_requested`. -/
def mayStart (client : VoiceStatsClient Report) : Bool :=
  client.voiceRequested && client.voiceSession.isNone && client.connected

/-- One section, if it can run. -/
def act (client : VoiceStatsClient Report) :
    VoiceStatsAction Report → Option (VoiceStatsClient Report)
  | .setRequested requested => some { client with voiceRequested := requested }
  | .setConnected connected => some { client with connected }
  | .start =>
      if client.lifecycle = .idle then
        if client.mayStart then
          some { client with
            lifecycle := .starting client.nextSession
            nextSession := client.nextSession + 1 }
        else some client
      else none
  | .started ready =>
      match client.lifecycle with
      | .starting session =>
          if ready then
            if client.mayStart then
              some { client with lifecycle := .idle, voiceSession := some session }
            else some { client with lifecycle := .idle, closed := session :: client.closed }
          else some { client with lifecycle := .idle }
      | _ => none
  | .stop => if client.lifecycle = .idle then some client.stopVoiceSession else none
  | .close =>
      match client.lifecycle with
      | .stopping session =>
          some { client with lifecycle := .idle, closed := session :: client.closed }
      | _ => none
  | .poll => some client.requestVoiceStats
  | .getStats index =>
      match client.requests[index]? with
      | some ⟨session, .calling⟩ =>
          some (client.setStage index ⟨session, .calling⟩
            (if session ∈ client.closed then .refused else .outstanding))
      | _ => none
  | .notStarted index =>
      match client.requests[index]? with
      | some ⟨_, .refused⟩ => some { client.endRequest index with voiceStatsInFlight := false }
      | _ => none
  | .report index report =>
      match client.requests[index]? with
      | some ⟨session, .outstanding⟩ =>
          -- A session that was closed drops the report without a word.
          some (if session ∈ client.closed then client.endRequest index
            else client.setStage index ⟨session, .outstanding⟩ (.storing report))
      | _ => none
  | .store index =>
      match client.requests[index]? with
      | some ⟨session, .storing report⟩ =>
          some { client.endRequest index with
            voiceStats := some (session, report)
            voiceStatsInFlight := false }
      | _ => none

/-! ## The invariant -/

/-- A request to the session is under way. -/
def Outstanding (client : VoiceStatsClient Report) (session : ℕ) : Prop :=
  ∃ request ∈ client.requests, request.session = session ∧ request.stage ≠ .refused

/-- Only the installed session has a request and statistics, and the next poll asks
it unless it was asked. -/
structure StatsCurrent (client : VoiceStatsClient Report) : Prop where
  inFlight : client.voiceStatsInFlight = true →
    ∃ session, client.voiceSession = some session ∧ client.Outstanding session
  polls : ∀ session, client.voiceSession = some session → ¬ client.Outstanding session →
    client.requestVoiceStats.requests = client.requests ++ [⟨session, .calling⟩]
  stats : ∀ session report, client.voiceStats = some (session, report) →
    client.voiceSession = some session

/-- What runs keep in which no session is stopped while a request is in flight. -/
structure Sound (client : VoiceStatsClient Report) : Prop where
  quiet : client.voiceStatsInFlight = false → client.requests = []
  single : client.voiceStatsInFlight = true → ∃ request, client.requests = [request] ∧
    client.voiceSession = some request.session ∧ request.stage ≠ .refused
  installed : ∀ session, client.voiceSession = some session →
    session ∉ client.closed ∧ session < client.nextSession ∧ client.lifecycle = .idle
  starting : ∀ session, client.lifecycle = .starting session →
    session ∉ client.closed ∧ session < client.nextSession
  stopping : ∀ session, client.lifecycle = .stopping session → session < client.nextSession
  numbered : ∀ session ∈ client.closed, session < client.nextSession
  stats : ∀ session report, client.voiceStats = some (session, report) →
    client.voiceSession = some session

/-- No session is stopped while a request is in flight. -/
def StopsIdle (client : VoiceStatsClient Report) : VoiceStatsAction Report → Prop
  | .stop => client.voiceStatsInFlight = false
  | _ => True

instance (client : VoiceStatsClient Report) (action : VoiceStatsAction Report) :
    Decidable (StopsIdle client action) := by
  cases action <;> unfold StopsIdle <;> infer_instance

variable {client next : VoiceStatsClient Report}

theorem Sound.statsCurrent (h : Sound client) : StatsCurrent client where
  inFlight hflag := by
    rcases h.single hflag with ⟨request, hrequests, hsession, hstage⟩
    refine ⟨request.session, hsession, request, ?_, rfl, hstage⟩
    rw [hrequests]
    exact List.mem_singleton_self request
  polls session hsession hnone := by
    cases hflag : client.voiceStatsInFlight with
    | false => simp [requestVoiceStats, hflag, hsession]
    | true =>
        rcases h.single hflag with ⟨request, hrequests, hinstalled, hstage⟩
        refine absurd ⟨request, ?_, ?_, hstage⟩ hnone
        · rw [hrequests]
          exact List.mem_singleton_self request
        · exact Option.some.inj (hinstalled.symm.trans hsession)
  stats := h.stats

/-- The request of a section is the only one, to the installed session. -/
theorem Sound.of_getElem? (h : Sound client) {index : ℕ} {request : StatsRequest Report}
    (hindex : client.requests[index]? = some request) :
    client.voiceStatsInFlight = true ∧ index = 0 ∧ client.requests = [request] ∧
      client.voiceSession = some request.session ∧ request.stage ≠ .refused := by
  cases hflag : client.voiceStatsInFlight with
  | false =>
      rw [h.quiet hflag] at hindex
      contradiction
  | true =>
      rcases h.single hflag with ⟨only, hrequests, hsession, hstage⟩
      rw [hrequests] at hindex
      cases index with
      | zero =>
          obtain rfl := Option.some.inj hindex
          exact ⟨rfl, rfl, hrequests, hsession, hstage⟩
      | succ index => simp at hindex

/-- A new stage of the only request. -/
theorem Sound.setStage (h : Sound client) {index : ℕ} {request : StatsRequest Report}
    (hindex : client.requests[index]? = some request) {stage : StatsStage Report}
    (hstage : stage ≠ .refused) : Sound (client.setStage index request stage) := by
  rcases h.of_getElem? hindex with ⟨hflag, rfl, hrequests, hsession, -⟩
  refine { h with quiet := fun hidle => ?_, single := fun _ => ?_ }
  · have hboth := hflag.symm.trans hidle
    contradiction
  · refine ⟨{ request with stage }, ?_, hsession, hstage⟩
    rw [VoiceStatsClient.setStage, hrequests]
    rfl

/-- While the lifecycle mutex is held, no session is installed. -/
theorem Sound.voiceSession_eq_none (h : Sound client) (hbusy : client.lifecycle ≠ .idle) :
    client.voiceSession = none := by
  by_contra hsome
  obtain ⟨installed, hinstalled⟩ := Option.ne_none_iff_exists'.mp hsome
  exact hbusy (h.installed installed hinstalled).2.2

/-- Without a session nothing is in flight. -/
theorem Sound.not_inFlight (h : Sound client) (hnone : client.voiceSession = none) :
    client.voiceStatsInFlight = false := by
  by_contra hset
  rw [Bool.not_eq_false] at hset
  rcases h.single hset with ⟨request, -, hsession, -⟩
  rw [hnone] at hsession
  contradiction

/-- A session is made. -/
theorem Sound.start (h : Sound client) (hnone : client.voiceSession = none) :
    Sound { client with
      lifecycle := .starting client.nextSession
      nextSession := client.nextSession + 1 } := by
  refine { h with installed := ?_, starting := ?_, stopping := ?_, numbered := ?_ }
  · intro session hsession
    rw [hnone] at hsession
    contradiction
  · intro session hstarting
    obtain rfl := VoiceLifecycle.starting.inj hstarting
    exact ⟨fun hclosed => absurd (h.numbered _ hclosed) (lt_irrefl _), Nat.lt_succ_self _⟩
  · intro session hstopping
    contradiction
  · exact fun session hclosed => Nat.lt_succ_of_lt (h.numbered session hclosed)

/-- The session that was made is installed. -/
theorem Sound.install (h : Sound client) {session : ℕ}
    (hlifecycle : client.lifecycle = .starting session) :
    Sound { client with lifecycle := .idle, voiceSession := some session } := by
  have hnone : client.voiceSession = none := h.voiceSession_eq_none (by simp [hlifecycle])
  have hstarting := h.starting session hlifecycle
  refine ⟨h.quiet, fun hset => ?_, ?_, ?_, ?_, h.numbered, ?_⟩
  · have hboth := (h.not_inFlight hnone).symm.trans hset
    contradiction
  · intro installed hinstalled
    obtain rfl := Option.some.inj hinstalled
    exact ⟨hstarting.1, hstarting.2, rfl⟩
  · intro other hother
    contradiction
  · intro other hother
    contradiction
  · intro owner report hstats
    have hold := h.stats owner report hstats
    rw [hnone] at hold
    contradiction

/-- The session that was made is given up. -/
theorem Sound.giveUp (h : Sound client) (hnone : client.voiceSession = none) :
    Sound { client with lifecycle := .idle } := by
  refine ⟨h.quiet, h.single, ?_, ?_, ?_, h.numbered, h.stats⟩
  · intro installed hinstalled
    rw [hnone] at hinstalled
    contradiction
  · intro other hother
    contradiction
  · intro other hother
    contradiction

/-- A session is stopped while nothing is in flight. -/
theorem Sound.stop (h : Sound client) (hidle : client.voiceStatsInFlight = false) :
    Sound client.stopVoiceSession := by
  refine ⟨h.quiet, fun hset => ?_, ?_, ?_, ?_, h.numbered, ?_⟩
  · have hboth := hidle.symm.trans hset
    contradiction
  · intro installed hinstalled
    contradiction
  · intro session hstarting
    simp only [stopVoiceSession] at hstarting
    split at hstarting <;> contradiction
  · intro session hstopping
    simp only [stopVoiceSession] at hstopping
    split at hstopping
    · rename_i old hold
      obtain rfl := VoiceLifecycle.stopping.inj hstopping
      exact (h.installed old hold).2.1
    · contradiction
  · intro owner report hstats
    contradiction

/-- A session that is not installed is closed. -/
theorem Sound.closeSession (h : Sound client) (hnone : client.voiceSession = none) {session : ℕ}
    (hnumber : session < client.nextSession) :
    Sound { client with lifecycle := .idle, closed := session :: client.closed } := by
  refine ⟨h.quiet, h.single, ?_, ?_, ?_, ?_, h.stats⟩
  · intro installed hinstalled
    rw [hnone] at hinstalled
    contradiction
  · intro other hother
    contradiction
  · intro other hother
    contradiction
  · intro closed hclosed
    rcases List.mem_cons.mp hclosed with rfl | hclosed
    · exact hnumber
    · exact h.numbered closed hclosed

/-- A poll asks the installed session, or nothing was asked. -/
theorem Sound.requestVoiceStats (h : Sound client) : Sound client.requestVoiceStats := by
  unfold VoiceStatsClient.requestVoiceStats
  by_cases hflag : client.voiceStatsInFlight = true
  · rw [if_pos hflag]
    exact h
  · rw [if_neg hflag]
    split
    · refine { h with stats := ?_ }
      intro session report hstats
      contradiction
    · rename_i session hsession
      refine { h with quiet := fun hidle => ?_, single := fun _ => ?_ }
      · contradiction
      · refine ⟨⟨session, .calling⟩, ?_, hsession, by simp⟩
        simp only [h.quiet (Bool.eq_false_iff.mpr hflag), List.nil_append]

/-- The report of the only request is stored. -/
theorem Sound.store (h : Sound client) {index : ℕ} {request : StatsRequest Report}
    (hindex : client.requests[index]? = some request) (report : Report) :
    Sound { client.endRequest index with
      voiceStats := some (request.session, report)
      voiceStatsInFlight := false } := by
  rcases h.of_getElem? hindex with ⟨-, rfl, hrequests, hsession, -⟩
  refine ⟨fun _ => ?_, fun hset => ?_, h.installed, h.starting, h.stopping, h.numbered, ?_⟩
  · rw [endRequest, hrequests]
    rfl
  · contradiction
  · intro owner stored hstats
    rw [Option.some.injEq, Prod.mk.injEq] at hstats
    rw [← hstats.1]
    exact hsession

/-- Every section keeps the invariant. -/
theorem Sound.step (h : Sound client) {action : VoiceStatsAction Report}
    (hidle : StopsIdle client action) (hact : client.act action = some next) : Sound next := by
  cases action with
  | setRequested requested =>
      rw [← Option.some.inj hact]
      exact { h with }
  | setConnected connected =>
      rw [← Option.some.inj hact]
      exact { h with }
  | start =>
      rw [act] at hact
      split at hact
      · split at hact
        · rename_i hmay
          rw [← Option.some.inj hact]
          simp only [mayStart, Bool.and_eq_true, Option.isNone_iff_eq_none] at hmay
          exact h.start hmay.1.2
        · rw [← Option.some.inj hact]
          exact h
      · contradiction
  | started ready =>
      rw [act] at hact
      split at hact
      · rename_i session hlifecycle
        have hnone : client.voiceSession = none := h.voiceSession_eq_none (by simp [hlifecycle])
        split at hact
        · split at hact
          · rw [← Option.some.inj hact]
            exact h.install hlifecycle
          · rw [← Option.some.inj hact]
            exact h.closeSession hnone (h.starting session hlifecycle).2
        · rw [← Option.some.inj hact]
          exact h.giveUp hnone
      · contradiction
  | stop =>
      rw [act] at hact
      split at hact
      · rw [← Option.some.inj hact]
        exact h.stop hidle
      · contradiction
  | close =>
      rw [act] at hact
      split at hact
      · rename_i session hlifecycle
        rw [← Option.some.inj hact]
        exact h.closeSession (h.voiceSession_eq_none (by simp [hlifecycle]))
          (h.stopping session hlifecycle)
      · contradiction
  | poll =>
      rw [act, Option.some.injEq] at hact
      rw [← hact]
      exact h.requestVoiceStats
  | getStats index =>
      rw [act] at hact
      split at hact
      · rename_i session hindex
        rw [← Option.some.inj hact]
        rcases h.of_getElem? hindex with ⟨-, -, -, hsession, -⟩
        rw [if_neg (h.installed session hsession).1]
        exact h.setStage hindex (by simp)
      · contradiction
  | notStarted index =>
      rw [act] at hact
      split at hact
      · rename_i session hindex
        exact absurd rfl (h.of_getElem? hindex).2.2.2.2
      · contradiction
  | report index report =>
      rw [act] at hact
      split at hact
      · rename_i session hindex
        rw [← Option.some.inj hact]
        rcases h.of_getElem? hindex with ⟨-, -, -, hsession, -⟩
        rw [if_neg (h.installed session hsession).1]
        exact h.setStage hindex (by simp)
      · contradiction
  | store index =>
      rw [act] at hact
      split at hact
      · rename_i session report hindex
        rw [← Option.some.inj hact]
        exact h.store hindex report
      · contradiction

/-- No session is made or stopped yet. -/
def Initial (client : VoiceStatsClient Report) : Prop :=
  client = {}

/-- One section, where no session is stopped while a request is in flight. -/
def Step (client next : VoiceStatsClient Report) : Prop :=
  ∃ action, StopsIdle client action ∧ client.act action = some next

/-- In every run in which no session is stopped while a request is in flight, the
flag and the statistics belong to the installed session. -/
theorem statsCurrent_of_reachable (h : Reachable Initial Step client) : StatsCurrent client := by
  apply Sound.statsCurrent
  apply Reachable.invariant _ _ h
  · rintro state rfl
    constructor <;> simp
  · rintro state later - hsound ⟨action, hidle, hact⟩
    exact hsound.step hidle hact

/-- A session is installed and asked. -/
def askActions : List (VoiceStatsAction ℕ) :=
  [.setRequested true, .setConnected true, .start, .started true, .poll, .getStats 0]

/-- The session is stopped, and the next one is installed. -/
def replaceActions : List (VoiceStatsAction ℕ) :=
  [.stop, .close, .start, .started true]

/-- The statistics are stored before the session is replaced. -/
def replaced : VoiceStatsClient ℕ :=
  (execute StopsIdle act {} (askActions ++ [.report 0 7, .store 0] ++ replaceActions ++
    [.poll])).getD {}

theorem reachable_replaced : Reachable Initial Step replaced :=
  Reachable.execute (fun _ action _ hidle hact => ⟨action, hidle, hact⟩)
    (Reachable.start rfl) (execute_eq_some_getD (by decide +kernel))

theorem replaced_current : StatsCurrent replaced :=
  statsCurrent_of_reachable reachable_replaced

/-- The session is closed before it reports. -/
def wedged : VoiceStatsClient ℕ :=
  (execute (fun _ _ => True) act {} (askActions ++ replaceActions ++ [.report 0 7])).getD {}

/-- The session is replaced between the report and the callback. -/
def stale : VoiceStatsClient ℕ :=
  (execute (fun _ _ => True) act {} (askActions ++ [.report 0 7] ++ replaceActions ++
    [.store 0])).getD {}

/-- The flag stays set with no request left, and statistics of a stopped session are
shown. -/
theorem polling_wedges :
    (Reachable Initial (fun client next => ∃ action, act client action = some next) wedged ∧
      wedged.voiceSession = some 1 ∧ wedged.requests = [] ∧ wedged.requestVoiceStats = wedged) ∧
    (Reachable Initial (fun client next => ∃ action, act client action = some next) stale ∧
      stale.voiceSession = some 1 ∧ stale.voiceStats = some (0, 7)) := by
  refine ⟨⟨Reachable.execute (fun _ action _ _ hact => ⟨action, hact⟩)
      (Reachable.start rfl) (execute_eq_some_getD (by decide +kernel)), ?_⟩,
    Reachable.execute (fun _ action _ _ hact => ⟨action, hact⟩)
      (Reachable.start rfl) (execute_eq_some_getD (by decide +kernel)), ?_⟩ <;>
    decide +kernel

end VoiceStatsClient

end Client
end Driscord
