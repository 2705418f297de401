import Driscord.Client.ScreenStats
import Driscord.Library.TransitionSystem

/-!
# Screen statistics belong to their publisher

The tracker runs beside the screen session: packets arrive on tracks, tracks are bound
to publishers, and the session captures a report for every request, which is consumed
later.  The counters of a track at its last binding are kept beside the system.

A report that was captured before a track was bound and is consumed afterwards makes a
baseline that is too low.

Main results:

- Theorem `Sound.step`: the invariant of runs without such reports.
- Theorem `attributed_of_reachable`: there no peer is credited with more than its
  tracks have received since they were bound to it.
- Theorem `late_report_is_misattributed`: otherwise it may be.
-/

namespace Driscord
namespace Client

open Library

/-- A request to the session, and the report that was captured for it. -/
structure StatsInFlight where
  generation : ℕ
  report : Option (List ScreenInboundRtpStats) := none
deriving DecidableEq, Repr

/-- The tracker, the counters of the tracks now and when they were bound, and the
requests. -/
structure ScreenStatsSystem where
  tracker : ScreenStatsTracker := {}
  counters : Table Bytes ScreenInboundRtpStats := ∅
  boundAt : Table Bytes ScreenInboundRtpStats := ∅
  requests : List StatsInFlight := []

/-- What happens to the tracker and the session. -/
inductive ScreenStatsAction where
  | setBinding (mid : Bytes) (peerId : Option Bytes)
  | setWatched (peerId : Bytes) (watched : Bool)
  | clearWatched
  | removePeer (peerId : Bytes)
  /-- The session is stopped; the next one counts from zero. -/
  | resetSession
  /-- Packets arrive on a track. -/
  | receive (inbound : ScreenInboundRtpStats)
  | poll (peerId : Bytes) (sessionAvailable : Bool)
  /-- `get_stats` has returned false. -/
  | requestFailed (index : ℕ)
  /-- The session of the request captures a report; that of an earlier session is any. -/
  | capture (index : ℕ) (earlier : List ScreenInboundRtpStats)
  | consume (index : ℕ) (now : ℚ)
deriving DecidableEq, Repr

/-- The counters of one are at most those of the other. -/
def ScreenInboundRtpStats.AtMost (first second : ScreenInboundRtpStats) : Prop :=
  first.packetsReceived ≤ second.packetsReceived ∧ first.bytesReceived ≤ second.bytesReceived

instance (first second : ScreenInboundRtpStats) : Decidable (first.AtMost second) :=
  inferInstanceAs (Decidable (_ ∧ _))

theorem ScreenInboundRtpStats.AtMost.trans {first second third : ScreenInboundRtpStats}
    (h : first.AtMost second) (hnext : second.AtMost third) : first.AtMost third :=
  ⟨h.1.trans hnext.1, h.2.trans hnext.2⟩

namespace ScreenStatsSystem

open ScreenStatsTracker

/-- The counters of a track. -/
def counter (system : ScreenStatsSystem) (mid : Bytes) : ScreenInboundRtpStats :=
  (system.counters.lookup mid).getD { mid }

/-- The counters of a track when it was last bound. -/
def counterAtBinding (system : ScreenStatsSystem) (mid : Bytes) : ScreenInboundRtpStats :=
  (system.boundAt.lookup mid).getD { mid }

/-- The report that the session captures now. -/
def capture (system : ScreenStatsSystem) : List ScreenInboundRtpStats :=
  system.counters.entries.map fun entry => { entry.2 with mid := entry.1 }

/-- A new publisher counts from now on. -/
def noteBinding (system : ScreenStatsSystem) (mid : Bytes) (peerId : Option Bytes) :
    Table Bytes ScreenInboundRtpStats :=
  if system.tracker.Rebinds mid peerId then
    system.boundAt.insert mid (system.counter mid)
  else system.boundAt

/-- One action. -/
def act (system : ScreenStatsSystem) : ScreenStatsAction → Option ScreenStatsSystem
  | .setBinding mid peerId =>
      some { system with
        tracker := system.tracker.setBinding mid peerId
        boundAt := system.noteBinding mid peerId }
  | .setWatched peerId watched =>
      some { system with tracker := system.tracker.setWatched peerId watched }
  | .clearWatched => some { system with tracker := system.tracker.clearWatched }
  | .removePeer peerId => some { system with tracker := system.tracker.removePeer peerId }
  | .resetSession =>
      some { system with
        tracker := system.tracker.resetSession
        counters := ∅
        boundAt := ∅ }
  | .receive inbound =>
      if (system.counter inbound.mid).AtMost inbound then
        some { system with counters := system.counters.insert inbound.mid inbound }
      else none
  | .poll peerId sessionAvailable =>
      let result := system.tracker.poll peerId sessionAvailable
      some { system with
        tracker := result.2
        requests :=
          if result.1.startRequest then
            system.requests ++ [{ generation := result.1.sessionGeneration }]
          else system.requests }
  | .requestFailed index =>
      match system.requests[index]? with
      | some ⟨generation, none⟩ =>
          some { system with
            tracker := system.tracker.requestFailed generation
            requests := system.requests.eraseIdx index }
      | _ => none
  | .capture index earlier =>
      match system.requests[index]? with
      | some ⟨generation, none⟩ =>
          let report :=
            if generation = system.tracker.sessionGeneration then system.capture else earlier
          some { system with
            requests := system.requests.set index ⟨generation, some report⟩ }
      | _ => none
  | .consume index now =>
      match system.requests[index]? with
      | some ⟨generation, some report⟩ =>
          some { system with
            tracker := system.tracker.consume report generation now
            requests := system.requests.eraseIdx index }
      | _ => none

/-! ## What is promised -/

/-- What the tracks of a peer have received since they were bound to it. -/
def received (system : ScreenStatsSystem) (member : ScreenInboundRtpStats → ℕ)
    (peerId : Bytes) : ℕ :=
  ((system.tracker.midsOf peerId).map fun mid =>
    member (system.counter mid) - member (system.counterAtBinding mid)).sum

/-- The counts are at most what the tracks of the peer have received. -/
def Within (system : ScreenStatsSystem) (peerId : Bytes) (stats : PeerStats) : Prop :=
  stats.video.packetsReceived + stats.audio.packetsReceived ≤
      system.received ScreenInboundRtpStats.packetsReceived peerId ∧
    stats.video.bytesReceived + stats.audio.bytesReceived ≤
      system.received ScreenInboundRtpStats.bytesReceived peerId

/-- Statistics are attributed to the right publisher. -/
structure Attributed (system : ScreenStatsSystem) : Prop where
  reported : ∀ peerId sessionAvailable stats,
    (system.tracker.poll peerId sessionAvailable).1.json = some stats →
      system.Within peerId stats
  single : (system.requests.map StatsInFlight.generation).Nodup
  baselines : ∀ mid ∈ system.tracker.baselines, mid ∈ system.tracker.bindings
  caches : ∀ peerId ∈ system.tracker.cacheByPeer, peerId ∈ system.tracker.watchedPeers

/-- A report that becomes the baseline of a track counts no less than the track did when
it was bound. -/
def FreshReports (system : ScreenStatsSystem) : ScreenStatsAction → Prop
  | .consume index _ =>
      match system.requests[index]? with
      | some ⟨generation, some report⟩ =>
          generation = system.tracker.sessionGeneration → ∀ inbound ∈ report,
            inbound.mid ∈ system.tracker.bindings → inbound.mid ∉ system.tracker.baselines →
              (system.counterAtBinding inbound.mid).AtMost inbound
      | _ => True
  | _ => True

instance (system : ScreenStatsSystem) (action : ScreenStatsAction) :
    Decidable (FreshReports system action) := by
  unfold FreshReports
  repeat' split
  all_goals infer_instance

/-! ## The invariant -/

/-- What runs without late reports keep. -/
structure Sound (system : ScreenStatsSystem) : Prop where
  baselines : ∀ mid ∈ system.tracker.baselines, mid ∈ system.tracker.bindings
  after : ∀ mid baseline, system.tracker.baselines.lookup mid = some baseline →
    (system.counterAtBinding mid).AtMost baseline
  caches : ∀ peerId ∈ system.tracker.cacheByPeer, peerId ∈ system.tracker.watchedPeers
  within : ∀ peerId cache stats, system.tracker.cacheByPeer.lookup peerId = some cache →
    cache.json = some stats → system.Within peerId stats
  reports : ∀ request ∈ system.requests,
    request.generation = system.tracker.sessionGeneration →
      ∀ report, request.report = some report →
        (report.map ScreenInboundRtpStats.mid).Nodup ∧
          ∀ inbound ∈ report, inbound.AtMost (system.counter inbound.mid)
  generations : ∀ request ∈ system.requests,
    request.generation ≤ system.tracker.sessionGeneration ∧
      (system.tracker.requestInFlight = false →
        request.generation ≠ system.tracker.sessionGeneration)
  single : (system.requests.map StatsInFlight.generation).Nodup

variable {system next : ScreenStatsSystem}

theorem Sound.attributed (h : Sound system) : Attributed system where
  reported peerId sessionAvailable stats hjson := by
    rcases Option.bind_eq_some_iff.mp hjson with ⟨cache, hcache, hstats⟩
    exact h.within peerId cache stats hcache hstats
  single := h.single
  baselines := h.baselines
  caches := h.caches

/-- Nothing that a peer is credited with is taken away while its tracks stay bound. -/
theorem received_mono {member : ScreenInboundRtpStats → ℕ} {peerId : Bytes}
    (h : ∀ mid, system.tracker.bindings.lookup mid = some peerId →
      next.tracker.bindings.lookup mid = some peerId ∧
        member (system.counter mid) ≤ member (next.counter mid) ∧
          next.counterAtBinding mid = system.counterAtBinding mid) :
    system.received member peerId ≤ next.received member peerId := by
  apply sum_map_le_sum_map (system.tracker.nodup_midsOf peerId)
  intro mid hmem
  rcases h mid (mem_midsOf.mp hmem) with ⟨hbound, hcounter, hsame⟩
  refine ⟨mem_midsOf.mpr hbound, ?_⟩
  rw [hsame]
  exact Nat.sub_le_sub_right hcounter _

theorem Within.mono {peerId : Bytes} {stats : PeerStats} (hwithin : system.Within peerId stats)
    (h : ∀ mid, system.tracker.bindings.lookup mid = some peerId →
      next.tracker.bindings.lookup mid = some peerId ∧
        (system.counter mid).AtMost (next.counter mid) ∧
          next.counterAtBinding mid = system.counterAtBinding mid) :
    next.Within peerId stats := by
  refine ⟨hwithin.1.trans (received_mono fun mid hmid => ?_),
    hwithin.2.trans (received_mono fun mid hmid => ?_)⟩
  · rcases h mid hmid with ⟨hbound, hcounter, hsame⟩
    exact ⟨hbound, hcounter.1, hsame⟩
  · rcases h mid hmid with ⟨hbound, hcounter, hsame⟩
    exact ⟨hbound, hcounter.2, hsame⟩

/-! ## What every action keeps -/

section

variable {mid peerId : Bytes}

theorem Sound.setBinding (h : Sound system) (mid : Bytes) (bound : Option Bytes) :
    Sound { system with
      tracker := system.tracker.setBinding mid bound
      boundAt := system.noteBinding mid bound } := by
  have hcounter : ∀ other, (system.tracker.Rebinds mid bound → other ≠ mid) →
      counterAtBinding { system with
        tracker := system.tracker.setBinding mid bound
        boundAt := system.noteBinding mid bound } other = system.counterAtBinding other := by
    intro other hother
    unfold counterAtBinding noteBinding
    by_cases hrebinds : system.tracker.Rebinds mid bound
    · simp only [if_pos hrebinds]
      rw [AList.lookup_insert_ne (hother hrebinds)]
    · simp only [if_neg hrebinds]
  have hbinding : ∀ other, (system.tracker.Rebinds mid bound → other ≠ mid) →
      (system.tracker.setBinding mid bound).bindings.lookup other =
        system.tracker.bindings.lookup other := by
    intro other hother
    rw [lookup_setBinding]
    by_cases hmid : other = mid
    · subst hmid
      rw [if_pos rfl]
      by_contra hne
      exact hother (fun hsame => hne hsame.symm) rfl
    · rw [if_neg hmid]
  refine ⟨?_, ?_, ?_, ?_, ?_, ?_, h.single⟩
  · intro other hmem
    rcases Table.mem_iff_exists_lookup.mp hmem with ⟨baseline, hlookup⟩
    rcases baseline_of_setBinding hlookup with ⟨hold, hother⟩
    have hbound := h.baselines other (Table.mem_of_lookup hold)
    rw [Table.mem_iff_exists_lookup] at hbound ⊢
    rwa [hbinding other hother]
  · intro other baseline hlookup
    rcases baseline_of_setBinding hlookup with ⟨hold, hother⟩
    rw [hcounter other hother]
    exact h.after other baseline hold
  · intro peer hmem
    rcases Table.mem_iff_exists_lookup.mp hmem with ⟨cache, hlookup⟩
    rw [watchedPeers_setBinding]
    exact h.caches peer (Table.mem_of_lookup (cache_of_setBinding hlookup).1)
  · intro peer cache stats hlookup hjson
    rcases cache_of_setBinding hlookup with ⟨hold, hother⟩
    apply (h.within peer cache stats hold hjson).mono
    intro other hbound
    have hne : system.tracker.Rebinds mid bound → other ≠ mid := by
      rintro hrebinds rfl
      exact (hother hrebinds).1 hbound
    exact ⟨(hbinding other hne).trans hbound, ⟨le_rfl, le_rfl⟩, hcounter other hne⟩
  · intro request hmem hgeneration
    rw [sessionGeneration_setBinding] at hgeneration
    exact h.reports request hmem hgeneration
  · intro request hmem
    rw [sessionGeneration_setBinding, requestInFlight_setBinding]
    exact h.generations request hmem

/-- A tracker with fewer caches. -/
theorem Sound.dropCaches (h : Sound system) {watched : List Bytes}
    {caches : Table Bytes StatsCache}
    (hcaches : ∀ peer cache, caches.lookup peer = some cache →
      system.tracker.cacheByPeer.lookup peer = some cache ∧ peer ∈ watched) :
    Sound { system with
      tracker := { system.tracker with watchedPeers := watched, cacheByPeer := caches } } where
  baselines := h.baselines
  after := h.after
  caches peer hmem := by
    rcases Table.mem_iff_exists_lookup.mp hmem with ⟨cache, hlookup⟩
    exact (hcaches peer cache hlookup).2
  within peer cache stats hlookup hjson :=
    h.within peer cache stats (hcaches peer cache hlookup).1 hjson
  reports := h.reports
  generations := h.generations
  single := h.single

theorem mem_watched_of_erase (h : Sound system) {other : Bytes} {cache : StatsCache}
    (hlookup : (system.tracker.cacheByPeer.erase peerId).lookup other = some cache) :
    system.tracker.cacheByPeer.lookup other = some cache ∧
      other ∈ system.tracker.watchedPeers.filter (· ≠ peerId) := by
  rcases Table.lookup_of_lookup_erase hlookup with ⟨hne, hold⟩
  refine ⟨hold, List.mem_filter.mpr ⟨?_, decide_eq_true hne⟩⟩
  exact h.caches other (Table.mem_of_lookup hold)

theorem Sound.setWatched (h : Sound system) (peerId : Bytes) (watched : Bool) :
    Sound { system with tracker := system.tracker.setWatched peerId watched } := by
  unfold ScreenStatsTracker.setWatched
  cases watched with
  | true =>
      refine h.dropCaches fun other cache hlookup => ⟨hlookup, ?_⟩
      exact List.mem_insert_of_mem (h.caches other (Table.mem_of_lookup hlookup))
  | false => exact h.dropCaches fun other cache hlookup => mem_watched_of_erase h hlookup

theorem Sound.clearWatched (h : Sound system) :
    Sound { system with tracker := system.tracker.clearWatched } := by
  refine h.dropCaches fun other cache hlookup => ?_
  contradiction

theorem Sound.removePeer (h : Sound system) (peerId : Bytes) :
    Sound { system with tracker := system.tracker.removePeer peerId } := by
  have hbinding : ∀ other, system.tracker.bindings.lookup other ≠ some peerId →
      (system.tracker.removePeer peerId).bindings.lookup other =
        system.tracker.bindings.lookup other := by
    intro other hother
    rw [ScreenStatsTracker.removePeer, Table.lookup_filterMapValues]
    cases hlookup : system.tracker.bindings.lookup other with
    | none => rfl
    | some peer =>
        have hne : peer ≠ peerId := by
          rintro rfl
          exact hother hlookup
        rw [Option.bind_some, if_neg hne]
  have hbaseline : ∀ other baseline,
      (system.tracker.removePeer peerId).baselines.lookup other = some baseline →
        system.tracker.baselines.lookup other = some baseline ∧
          system.tracker.bindings.lookup other ≠ some peerId := by
    intro other baseline hlookup
    rw [ScreenStatsTracker.removePeer, Table.lookup_filterMapValues] at hlookup
    rcases Option.bind_eq_some_iff.mp hlookup with ⟨value, hvalue, hkept⟩
    by_cases hbound : system.tracker.bindings.lookup other = some peerId
    · rw [if_pos hbound] at hkept
      contradiction
    · rw [if_neg hbound, Option.some.injEq] at hkept
      exact ⟨hkept ▸ hvalue, hbound⟩
  refine ⟨?_, ?_, ?_, ?_, h.reports, h.generations, h.single⟩
  · intro other hmem
    rcases Table.mem_iff_exists_lookup.mp hmem with ⟨baseline, hlookup⟩
    rcases hbaseline other baseline hlookup with ⟨hold, hother⟩
    have hbound := h.baselines other (Table.mem_of_lookup hold)
    rw [Table.mem_iff_exists_lookup] at hbound ⊢
    rwa [hbinding other hother]
  · intro other baseline hlookup
    exact h.after other baseline (hbaseline other baseline hlookup).1
  · intro peer hmem
    rcases Table.mem_iff_exists_lookup.mp hmem with ⟨cache, hlookup⟩
    exact (mem_watched_of_erase h hlookup).2
  · intro peer cache stats hlookup hjson
    rcases Table.lookup_of_lookup_erase hlookup with ⟨hne, hold⟩
    apply (h.within peer cache stats hold hjson).mono
    intro other hbound
    refine ⟨(hbinding other ?_).trans hbound, ⟨le_rfl, le_rfl⟩, rfl⟩
    rw [hbound]
    exact fun hsame => hne (Option.some.inj hsame)

theorem Sound.resetSession (h : Sound system) :
    Sound { system with
      tracker := system.tracker.resetSession
      counters := ∅
      boundAt := ∅ } := by
  have holder : ∀ request ∈ system.requests,
      request.generation ≠ system.tracker.sessionGeneration + 1 := by
    intro request hmem
    have hle := (h.generations request hmem).1
    omega
  refine ⟨?_, ?_, ?_, ?_, ?_, ?_, h.single⟩
  · intro other hmem
    contradiction
  · intro other baseline hlookup
    contradiction
  · intro peer hmem
    contradiction
  · intro peer cache stats hlookup
    contradiction
  · intro request hmem hgeneration
    exact absurd hgeneration (holder request hmem)
  · intro request hmem
    exact ⟨Nat.le_succ_of_le (h.generations request hmem).1, fun _ => holder request hmem⟩

theorem Sound.receive (h : Sound system) {inbound : ScreenInboundRtpStats}
    (hmore : (system.counter inbound.mid).AtMost inbound) :
    Sound { system with counters := system.counters.insert inbound.mid inbound } := by
  have hcounter : ∀ other, (system.counter other).AtMost
      (counter { system with counters := system.counters.insert inbound.mid inbound } other) := by
    intro other
    by_cases hmid : other = inbound.mid
    · subst hmid
      unfold counter at hmore ⊢
      rwa [AList.lookup_insert]
    · unfold counter
      rw [AList.lookup_insert_ne hmid]
      exact ⟨le_rfl, le_rfl⟩
  refine ⟨h.baselines, h.after, h.caches, ?_, ?_, h.generations, h.single⟩
  · intro peer cache stats hlookup hjson
    apply (h.within peer cache stats hlookup hjson).mono
    exact fun other hbound => ⟨hbound, hcounter other, rfl⟩
  · intro request hmem hgeneration report hreport
    rcases h.reports request hmem hgeneration report hreport with ⟨hnodup, hbelow⟩
    exact ⟨hnodup, fun seen hseen => (hbelow seen hseen).trans (hcounter seen.mid)⟩

theorem Sound.poll (h : Sound system) (peerId : Bytes) (sessionAvailable : Bool) :
    Sound { system with
      tracker := (system.tracker.poll peerId sessionAvailable).2
      requests :=
        if (system.tracker.poll peerId sessionAvailable).1.startRequest then
          system.requests ++
            [{ generation := (system.tracker.poll peerId sessionAvailable).1.sessionGeneration }]
        else system.requests } := by
  by_cases hstart : (system.tracker.poll peerId sessionAvailable).1.startRequest = true
  · have hidle : system.tracker.requestInFlight = false := by
      have hboth := (Bool.and_eq_true _ _).mp hstart
      simpa using hboth.2
    rw [if_pos hstart]
    refine ⟨h.baselines, h.after, h.caches, h.within, ?_, ?_, ?_⟩
    · intro request hmem hgeneration report hreport
      rcases List.mem_append.mp hmem with hmem | hmem
      · exact h.reports request hmem hgeneration report hreport
      · rw [List.mem_singleton.mp hmem] at hreport
        contradiction
    · intro request hmem
      have hset : (system.tracker.poll peerId sessionAvailable).2.requestInFlight = true := by
        change (system.tracker.requestInFlight || _) = true
        rw [Bool.or_eq_true]
        exact Or.inr hstart
      refine ⟨?_, fun hclear => absurd (hset.symm.trans hclear) (by simp)⟩
      rcases List.mem_append.mp hmem with hmem | hmem
      · exact (h.generations request hmem).1
      · rw [List.mem_singleton.mp hmem]
        exact le_rfl
    · rw [List.map_append, List.nodup_append]
      refine ⟨h.single, List.nodup_singleton _, ?_⟩
      intro generation hmem other hother
      rw [List.map_singleton, List.mem_singleton] at hother
      rcases List.mem_map.mp hmem with ⟨request, hrequest, rfl⟩
      rw [hother]
      exact (h.generations request hrequest).2 hidle
  · rw [if_neg hstart]
    have hsame : (system.tracker.poll peerId sessionAvailable).2 = system.tracker := by
      have hflag : (sessionAvailable && !system.tracker.requestInFlight) = false :=
        Bool.not_eq_true _ ▸ hstart
      simp only [ScreenStatsTracker.poll, hflag, Bool.or_false]
    rw [hsame]
    exact h

/-- The other requests are of other sessions. -/
theorem Sound.generation_ne (h : Sound system) {index : ℕ} {request other : StatsInFlight}
    (hindex : system.requests[index]? = some request)
    (hmem : other ∈ system.requests.eraseIdx index) : other.generation ≠ request.generation := by
  rcases List.mem_eraseIdx_iff_getElem?.mp hmem with ⟨place, hplace, hother⟩
  intro hsame
  have hfirst : (system.requests.map StatsInFlight.generation)[place]? =
      some request.generation := by
    rw [List.getElem?_map, hother, Option.map_some, hsame]
  have hsecond : (system.requests.map StatsInFlight.generation)[index]? =
      some request.generation := by
    rw [List.getElem?_map, hindex, Option.map_some]
  have hlength := (List.getElem?_eq_some_iff.mp hfirst).1
  exact hplace ((List.getElem?_inj hlength h.single).mp (hfirst.trans hsecond.symm))

/-- A request has ended; the flag is cleared if it was of this session. -/
theorem Sound.endRequest (h : Sound system) {index : ℕ} {request : StatsInFlight}
    (hindex : system.requests[index]? = some request) {flag : Bool}
    (hflag : flag = system.tracker.requestInFlight ∨
      request.generation = system.tracker.sessionGeneration) :
    Sound { system with
      tracker := { system.tracker with requestInFlight := flag }
      requests := system.requests.eraseIdx index } := by
  have hsub := List.eraseIdx_sublist system.requests index
  refine ⟨h.baselines, h.after, h.caches, h.within, ?_, ?_, ?_⟩
  · exact fun other hmem => h.reports other (hsub.subset hmem)
  · intro other hmem
    refine ⟨(h.generations other (hsub.subset hmem)).1, fun hclear => ?_⟩
    rcases hflag with rfl | hcurrent
    · exact (h.generations other (hsub.subset hmem)).2 hclear
    · rw [← hcurrent]
      exact h.generation_ne hindex hmem
  · exact (hsub.map _).nodup h.single

theorem Sound.requestFailed (h : Sound system) {index : ℕ} {request : StatsInFlight}
    (hindex : system.requests[index]? = some request) :
    Sound { system with
      tracker := system.tracker.requestFailed request.generation
      requests := system.requests.eraseIdx index } := by
  unfold ScreenStatsTracker.requestFailed
  by_cases hcurrent : request.generation = system.tracker.sessionGeneration
  · rw [if_pos hcurrent]
    exact h.endRequest hindex (Or.inr hcurrent)
  · rw [if_neg hcurrent]
    exact h.endRequest hindex (Or.inl rfl)

/-- What the session captures is below the counters of its tracks. -/
theorem capture_below (system : ScreenStatsSystem) :
    (system.capture.map ScreenInboundRtpStats.mid).Nodup ∧
      ∀ inbound ∈ system.capture, inbound.AtMost (system.counter inbound.mid) := by
  constructor
  · rw [capture, List.map_map]
    exact system.counters.nodupKeys
  · intro inbound hmem
    rcases List.mem_map.mp hmem with ⟨entry, hentry, rfl⟩
    have hlookup : system.counters.lookup entry.1 = some entry.2 :=
      AList.mem_lookup_iff.mpr hentry
    unfold counter
    rw [hlookup]
    exact ⟨le_rfl, le_rfl⟩

theorem Sound.capture (h : Sound system) {index generation : ℕ}
    (hindex : system.requests[index]? = some ⟨generation, none⟩)
    (earlier : List ScreenInboundRtpStats) :
    Sound { system with
      requests := system.requests.set index ⟨generation,
        some (if generation = system.tracker.sessionGeneration then system.capture
          else earlier)⟩ } := by
  have hrequest := h.generations _ (List.mem_of_getElem? hindex)
  refine ⟨h.baselines, h.after, h.caches, h.within, ?_, ?_, ?_⟩
  · intro request hmem hgeneration report hreport
    rcases List.mem_or_eq_of_mem_set hmem with hmem | rfl
    · exact h.reports request hmem hgeneration report hreport
    · rw [Option.some.injEq, if_pos hgeneration] at hreport
      rw [← hreport]
      exact system.capture_below
  · intro request hmem
    rcases List.mem_or_eq_of_mem_set hmem with hmem | rfl
    · exact h.generations request hmem
    · exact hrequest
  · rw [List.map_set]
    have hsame : (system.requests.map StatsInFlight.generation)[index]? = some generation := by
      rw [List.getElem?_map, hindex, Option.map_some]
    have hlength := (List.getElem?_eq_some_iff.mp hsame).1
    rw [← (List.getElem?_eq_some_iff.mp hsame).2, List.set_getElem_self]
    exact h.single

/-- The baselines that a fresh report gives are not too low. -/
theorem Sound.addBaselines (h : Sound system) {report : List ScreenInboundRtpStats}
    (hfresh : ∀ inbound ∈ report, inbound.mid ∈ system.tracker.bindings →
      inbound.mid ∉ system.tracker.baselines →
        (system.counterAtBinding inbound.mid).AtMost inbound) :
    Sound { system with
      tracker := { system.tracker with baselines := system.tracker.addBaselines report } } := by
  refine ⟨?_, ?_, h.caches, h.within, h.reports, h.generations, h.single⟩
  · intro mid hmem
    rcases Table.mem_iff_exists_lookup.mp hmem with ⟨baseline, hlookup⟩
    rcases lookup_addBaselines hlookup with hold | ⟨-, -, hbound, -⟩
    · exact h.baselines mid (Table.mem_of_lookup hold)
    · exact hbound
  · intro mid baseline hlookup
    rcases lookup_addBaselines hlookup with hold | ⟨hmem, rfl, hbound, hnew⟩
    · exact h.after mid baseline hold
    · exact hfresh baseline hmem hbound hnew

/-- A counter since its baseline is at most the counter since the binding. -/
theorem Sound.delta_le (h : Sound system) {member : ScreenInboundRtpStats → ℕ}
    (hmember : ∀ first second : ScreenInboundRtpStats, first.AtMost second →
      member first ≤ member second)
    {inbound : ScreenInboundRtpStats} (hbelow : inbound.AtMost (system.counter inbound.mid))
    (hbaseline : inbound.mid ∈ system.tracker.baselines) :
    system.tracker.delta member inbound ≤
      member (system.counter inbound.mid) - member (system.counterAtBinding inbound.mid) := by
  rcases Table.mem_iff_exists_lookup.mp hbaseline with ⟨baseline, hlookup⟩
  unfold ScreenStatsTracker.delta
  rw [hlookup]
  exact tsub_le_tsub (hmember _ _ hbelow) (hmember _ _ (h.after _ baseline hlookup))

/-- A report with a baseline for every bound track credits no peer with too much. -/
theorem Sound.updatePeer_within (h : Sound system) {report : List ScreenInboundRtpStats}
    (hnodup : (report.map ScreenInboundRtpStats.mid).Nodup)
    (hbelow : ∀ inbound ∈ report, inbound.AtMost (system.counter inbound.mid))
    (hbaselines : ∀ inbound ∈ report, inbound.mid ∈ system.tracker.bindings →
      inbound.mid ∈ system.tracker.baselines)
    {peerId : Bytes} {now : ℚ} {cache : StatsCache} {stats : PeerStats}
    (hjson : (system.tracker.updatePeer peerId report now cache).json = some stats) :
    system.Within peerId stats := by
  have htotal : ∀ member : ScreenInboundRtpStats → ℕ,
      (∀ first second : ScreenInboundRtpStats, first.AtMost second →
        member first ≤ member second) →
      system.tracker.total member (system.tracker.boundTo peerId report) ≤
        system.received member peerId := by
    intro member hmember
    apply total_boundTo_le system.tracker member hnodup
    intro inbound hmem hbound
    exact h.delta_le hmember (hbelow inbound hmem)
      (hbaselines inbound hmem (Table.mem_of_lookup hbound))
  rw [← Option.some.inj hjson]
  constructor
  · exact (total_video_add_audio _ _ _).le.trans (htotal _ fun _ _ hatMost => hatMost.1)
  · exact (total_video_add_audio _ _ _).le.trans (htotal _ fun _ _ hatMost => hatMost.2)

theorem Sound.updateCaches (h : Sound system) {report : List ScreenInboundRtpStats}
    (hnodup : (report.map ScreenInboundRtpStats.mid).Nodup)
    (hbelow : ∀ inbound ∈ report, inbound.AtMost (system.counter inbound.mid))
    (hbaselines : ∀ inbound ∈ report, inbound.mid ∈ system.tracker.bindings →
      inbound.mid ∈ system.tracker.baselines) (now : ℚ) :
    Sound { system with
      tracker := { system.tracker with
        cacheByPeer := system.tracker.updateCaches report now } } := by
  refine ⟨h.baselines, h.after, ?_, ?_, h.reports, h.generations, h.single⟩
  · intro peer hmem
    rcases Table.mem_iff_exists_lookup.mp hmem with ⟨cache, hlookup⟩
    rcases lookup_updateCaches hlookup with ⟨hwatched, -⟩ | ⟨-, hold⟩
    · exact hwatched
    · exact h.caches peer (Table.mem_of_lookup hold)
  · intro peer cache stats hlookup hjson
    rcases lookup_updateCaches hlookup with ⟨-, old, rfl⟩ | ⟨-, hold⟩
    · exact h.updatePeer_within hnodup hbelow hbaselines hjson
    · exact h.within peer cache stats hold hjson

theorem Sound.consume (h : Sound system) {index generation : ℕ}
    {report : List ScreenInboundRtpStats}
    (hindex : system.requests[index]? = some ⟨generation, some report⟩) (now : ℚ)
    (hfresh : generation = system.tracker.sessionGeneration → ∀ inbound ∈ report,
      inbound.mid ∈ system.tracker.bindings → inbound.mid ∉ system.tracker.baselines →
        (system.counterAtBinding inbound.mid).AtMost inbound) :
    Sound { system with
      tracker := system.tracker.consume report generation now
      requests := system.requests.eraseIdx index } := by
  unfold ScreenStatsTracker.consume
  by_cases hcurrent : generation = system.tracker.sessionGeneration
  · rw [if_pos hcurrent]
    rcases h.reports _ (List.mem_of_getElem? hindex) hcurrent report rfl with ⟨hnodup, hbelow⟩
    have hprepared := h.addBaselines (hfresh hcurrent)
    have hupdated := hprepared.updateCaches hnodup hbelow
      (fun inbound hmem hbound => mem_addBaselines hmem hbound) now
    exact hupdated.endRequest hindex (Or.inr hcurrent)
  · rw [if_neg hcurrent]
    exact h.endRequest hindex (Or.inl rfl)

end

/-- Every action without a late report keeps the invariant. -/
theorem Sound.step (h : Sound system) {action : ScreenStatsAction}
    (hfresh : FreshReports system action) (hact : system.act action = some next) :
    Sound next := by
  cases action with
  | setBinding mid peerId =>
      rw [← Option.some.inj hact]
      exact h.setBinding mid peerId
  | setWatched peerId watched =>
      rw [← Option.some.inj hact]
      exact h.setWatched peerId watched
  | clearWatched =>
      rw [← Option.some.inj hact]
      exact h.clearWatched
  | removePeer peerId =>
      rw [← Option.some.inj hact]
      exact h.removePeer peerId
  | resetSession =>
      rw [← Option.some.inj hact]
      exact h.resetSession
  | receive inbound =>
      rw [act] at hact
      split at hact
      · rename_i hmore
        rw [← Option.some.inj hact]
        exact h.receive hmore
      · contradiction
  | poll peerId sessionAvailable =>
      rw [← Option.some.inj hact]
      exact h.poll peerId sessionAvailable
  | requestFailed index =>
      rw [act] at hact
      split at hact
      · rename_i generation hindex
        rw [← Option.some.inj hact]
        exact h.requestFailed hindex
      · contradiction
  | capture index earlier =>
      rw [act] at hact
      split at hact
      · rename_i generation hindex
        rw [← Option.some.inj hact]
        exact h.capture hindex earlier
      · contradiction
  | consume index now =>
      rw [act] at hact
      split at hact
      · rename_i generation report hindex
        rw [← Option.some.inj hact]
        apply h.consume hindex now
        simpa only [FreshReports, hindex] using hfresh
      · contradiction

/-- Nothing is bound, watched or asked yet. -/
def Initial (system : ScreenStatsSystem) : Prop :=
  system = {}

/-- One action without a late report. -/
def Step (system next : ScreenStatsSystem) : Prop :=
  ∃ action, FreshReports system action ∧ system.act action = some next

/-- In every run without late reports, statistics are attributed to the right
publisher. -/
theorem attributed_of_reachable (h : Reachable Initial Step system) : Attributed system := by
  apply Sound.attributed
  apply Reachable.invariant _ _ h
  · rintro state rfl
    constructor
    all_goals first
      | exact List.nodup_nil
      | intro _ hmem; contradiction
      | intro _ _ hlookup; contradiction
      | intro _ _ _ hlookup; contradiction
  · rintro state later - hsound ⟨action, hfresh, hact⟩
    exact hsound.step hfresh hact

/-- The report of a video track. -/
def videoReport (packets : ℕ) : ScreenInboundRtpStats :=
  { mid := [0], video := true, packetsReceived := packets, bytesReceived := packets * 100 }

/-- A publisher has sent ten packets on the track of another one, and both are watched. -/
def rebindActions : List ScreenStatsAction :=
  [.setWatched [1] true, .setWatched [2] true, .setBinding [0] (some [1]),
    .receive (videoReport 10)]

/-- The track is rebound before the report is captured. -/
def freshSystem : ScreenStatsSystem :=
  (execute FreshReports act {} (rebindActions ++
    [.setBinding [0] (some [2]), .poll [2] true, .capture 0 [], .consume 0 1,
      .receive (videoReport 15), .poll [2] true, .capture 0 [], .consume 0 2])).getD {}

/-- The new publisher is credited with its five packets. -/
theorem freshSystem_attributed : Attributed freshSystem ∧
    ((freshSystem.tracker.poll [2] true).1.json.map fun stats =>
      stats.video.packetsReceived) = some 5 :=
  ⟨attributed_of_reachable (Reachable.execute
      (fun _ action _ hfresh hact => ⟨action, hfresh, hact⟩) (Reachable.start rfl)
      (execute_eq_some_getD (by decide +kernel))),
    by decide +kernel⟩

/-- The track is rebound after the report was captured, ten packets later. -/
def lateSystem : ScreenStatsSystem :=
  (execute (fun _ _ => True) act {} (rebindActions ++
    [.poll [1] true, .capture 0 [], .receive (videoReport 20), .setBinding [0] (some [2]),
      .consume 0 1, .poll [2] true, .capture 0 [], .consume 0 2])).getD {}

/-- The new publisher is credited with ten packets of the old one. -/
theorem late_report_is_misattributed :
    Reachable Initial (fun system next => ∃ action, system.act action = some next) lateSystem ∧
      ((lateSystem.tracker.poll [2] true).1.json.map fun stats =>
        stats.video.packetsReceived) = some 10 ∧
      lateSystem.received ScreenInboundRtpStats.packetsReceived [2] = 0 ∧
      ¬ Attributed lateSystem := by
  have hreported : ((lateSystem.tracker.poll [2] true).1.json.map fun stats =>
      stats.video.packetsReceived) = some 10 := by
    decide +kernel
  have hreceived : lateSystem.received ScreenInboundRtpStats.packetsReceived [2] = 0 := by
    decide +kernel
  refine ⟨Reachable.execute (fun _ action _ _ hact => ⟨action, hact⟩)
    (Reachable.start rfl) (execute_eq_some_getD (by decide +kernel)), hreported, hreceived, ?_⟩
  intro hattributed
  rcases Option.map_eq_some_iff.mp hreported with ⟨stats, hjson, hpackets⟩
  have hwithin := (hattributed.reported [2] true stats hjson).1
  rw [hreceived] at hwithin
  omega

end ScreenStatsSystem

end Client
end Driscord
