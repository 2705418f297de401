import Driscord.Bytes
import Driscord.Library.Table

/-!
# Screen statistics of the client

`ScreenStatsTracker` turns the reports of the screen session into statistics of the
watched peers.  The counters of a track run through all of its publishers, so the
first report that is consumed after a track was bound is the baseline of the new
publisher.

Counters and times are exact numbers.  The text of the statistics stands for the
statistics; before the first report there are none.

Main results:

- Theorem `lookup_addBaselines`: where a baseline comes from.
- Theorem `lookup_updateCaches`: what a report leaves for a peer.
- Theorem `total_boundTo_le`: the counts of a peer are bounded track by track.
-/

namespace Driscord
namespace Client

open Library

/-- `ScreenInboundRtpStats`, as far as the tracker reads it. -/
structure ScreenInboundRtpStats where
  mid : Bytes
  video : Bool := false
  packetsReceived : ℕ := 0
  bytesReceived : ℕ := 0
  packetsLost : ℤ := 0
  jitterBufferEmittedCount : ℕ := 0
  jitterBufferDelaySeconds : ℚ := 0
  jitterBufferTargetDelaySeconds : ℚ := 0
  concealedSamples : ℕ := 0
  framesDecoded : ℕ := 0
  framesDropped : ℕ := 0
  keyFramesDecoded : ℕ := 0
deriving DecidableEq, Repr

/-- The statistics of the video tracks of a peer. -/
structure VideoStats where
  packetsReceived : ℕ
  bytesReceived : ℕ
  packetsLost : ℕ
  framesDecoded : ℕ
  framesDropped : ℕ
  keyFramesDecoded : ℕ
  actualDelayMs : ℚ
  targetDelayMs : ℚ
deriving DecidableEq, Repr

/-- The statistics of the audio tracks of a peer. -/
structure AudioStats where
  packetsReceived : ℕ
  bytesReceived : ℕ
  packetsLost : ℕ
  concealedSamples : ℕ
  actualDelayMs : ℚ
  targetDelayMs : ℚ
deriving DecidableEq, Repr

/-- The text of the statistics; the outbound part is constant. -/
structure PeerStats where
  measuredKbps : ℤ
  video : VideoStats
  audio : AudioStats
deriving DecidableEq, Repr

/-- `Cache`; the first text has no statistics. -/
structure StatsCache where
  json : Option PeerStats := none
  receivedBytes : ℕ := 0
  updatedAt : ℚ := 0
deriving DecidableEq, Repr

/-- `ScreenStatsTracker`. -/
structure ScreenStatsTracker where
  bindings : Table Bytes Bytes := ∅
  watchedPeers : List Bytes := []
  cacheByPeer : Table Bytes StatsCache := ∅
  baselines : Table Bytes ScreenInboundRtpStats := ∅
  requestInFlight : Bool := false
  sessionGeneration : ℕ := 0

/-- What a poll returns. -/
structure StatsPoll where
  json : Option PeerStats
  startRequest : Bool
  sessionGeneration : ℕ
deriving DecidableEq, Repr

namespace ScreenStatsTracker

/-- A binding message changes the binding of the track. -/
def Rebinds (tracker : ScreenStatsTracker) (mid : Bytes) (peerId : Option Bytes) : Prop :=
  tracker.bindings.lookup mid ≠ peerId

instance (tracker : ScreenStatsTracker) (mid : Bytes) (peerId : Option Bytes) :
    Decidable (tracker.Rebinds mid peerId) :=
  inferInstanceAs (Decidable (_ ≠ _))

/-- Forget the cache of a peer, if there is one. -/
def eraseCache (tracker : ScreenStatsTracker) (peerId : Option Bytes) : Table Bytes StatsCache :=
  match peerId with
  | some peer => tracker.cacheByPeer.erase peer
  | none => tracker.cacheByPeer

/-- `set_binding`. -/
def setBinding (tracker : ScreenStatsTracker) (mid : Bytes) (peerId : Option Bytes) :
    ScreenStatsTracker :=
  if tracker.Rebinds mid peerId then
    let forgotten := { tracker with
      baselines := tracker.baselines.erase mid
      cacheByPeer := tracker.eraseCache (tracker.bindings.lookup mid) }
    match peerId with
    | some peer =>
        { forgotten with
          cacheByPeer := forgotten.cacheByPeer.erase peer
          bindings := tracker.bindings.insert mid peer }
    | none => { forgotten with bindings := tracker.bindings.erase mid }
  else tracker

/-- `set_watched`. -/
def setWatched (tracker : ScreenStatsTracker) (peerId : Bytes) (watched : Bool) :
    ScreenStatsTracker :=
  if watched then { tracker with watchedPeers := List.insert peerId tracker.watchedPeers }
  else
    { tracker with
      watchedPeers := tracker.watchedPeers.filter (· ≠ peerId)
      cacheByPeer := tracker.cacheByPeer.erase peerId }

/-- `clear_watched`. -/
def clearWatched (tracker : ScreenStatsTracker) : ScreenStatsTracker :=
  { tracker with watchedPeers := [], cacheByPeer := ∅ }

/-- `remove_peer`. -/
def removePeer (tracker : ScreenStatsTracker) (peerId : Bytes) : ScreenStatsTracker :=
  { tracker with
    watchedPeers := tracker.watchedPeers.filter (· ≠ peerId)
    cacheByPeer := tracker.cacheByPeer.erase peerId
    baselines := Table.filterMapValues (fun mid baseline =>
      if tracker.bindings.lookup mid = some peerId then none else some baseline)
      tracker.baselines
    bindings := Table.filterMapValues (fun _ peer =>
      if peer = peerId then none else some peer) tracker.bindings }

/-- `reset_session`. -/
def resetSession (tracker : ScreenStatsTracker) : ScreenStatsTracker :=
  { tracker with
    bindings := ∅
    cacheByPeer := ∅
    baselines := ∅
    requestInFlight := false
    sessionGeneration := tracker.sessionGeneration + 1 }

/-- `poll`. -/
def poll (tracker : ScreenStatsTracker) (peerId : Bytes) (sessionAvailable : Bool) :
    StatsPoll × ScreenStatsTracker :=
  let startRequest := sessionAvailable && !tracker.requestInFlight
  ({ json := (tracker.cacheByPeer.lookup peerId).bind StatsCache.json
     startRequest
     sessionGeneration := tracker.sessionGeneration },
    { tracker with requestInFlight := tracker.requestInFlight || startRequest })

/-- `request_failed`. -/
def requestFailed (tracker : ScreenStatsTracker) (sessionGeneration : ℕ) : ScreenStatsTracker :=
  if sessionGeneration = tracker.sessionGeneration then
    { tracker with requestInFlight := false }
  else tracker

/-! ## Reports -/

/-- The counter of a track since its baseline. -/
def delta (tracker : ScreenStatsTracker) (member : ScreenInboundRtpStats → ℕ)
    (inbound : ScreenInboundRtpStats) : ℕ :=
  match tracker.baselines.lookup inbound.mid with
  | some baseline => member inbound - member baseline
  | none => member inbound

/-- The same for a number of seconds. -/
def deltaSeconds (tracker : ScreenStatsTracker) (member : ScreenInboundRtpStats → ℚ)
    (inbound : ScreenInboundRtpStats) : ℚ :=
  match tracker.baselines.lookup inbound.mid with
  | some baseline =>
      if member baseline ≤ member inbound then member inbound - member baseline else 0
  | none => member inbound

/-- `lost_delta`. -/
def lostDelta (tracker : ScreenStatsTracker) (inbound : ScreenInboundRtpStats) : ℕ :=
  match tracker.baselines.lookup inbound.mid with
  | some baseline => (inbound.packetsLost - baseline.packetsLost).toNat
  | none => inbound.packetsLost.toNat

/-- The sum of a counter over tracks. -/
def total (tracker : ScreenStatsTracker) (member : ScreenInboundRtpStats → ℕ)
    (inbounds : List ScreenInboundRtpStats) : ℕ :=
  (inbounds.map (tracker.delta member)).sum

/-- `average_ms` over tracks. -/
def averageMs (tracker : ScreenStatsTracker) (member : ScreenInboundRtpStats → ℚ)
    (inbounds : List ScreenInboundRtpStats) : ℚ :=
  let count := tracker.total ScreenInboundRtpStats.jitterBufferEmittedCount inbounds
  if count = 0 then -1
  else (inbounds.map (tracker.deltaSeconds member)).sum * 1000 / count

/-- The tracks of a report that are bound to a peer. -/
def boundTo (tracker : ScreenStatsTracker) (peerId : Bytes)
    (stats : List ScreenInboundRtpStats) : List ScreenInboundRtpStats :=
  stats.filter fun inbound => tracker.bindings.lookup inbound.mid = some peerId

/-- The rate since the last report. -/
def measuredKbps (cache : StatsCache) (receivedBytes : ℕ) (now : ℚ) : ℤ :=
  if cache.updatedAt ≠ 0 ∧ cache.receivedBytes ≤ receivedBytes ∧ 0 < now - cache.updatedAt then
    ⌊((receivedBytes - cache.receivedBytes : ℕ) : ℚ) * 8 / (now - cache.updatedAt) / 1000 +
      1 / 2⌋
  else 0

/-- `update_peer`. -/
def updatePeer (tracker : ScreenStatsTracker) (peerId : Bytes)
    (stats : List ScreenInboundRtpStats) (now : ℚ) (cache : StatsCache) : StatsCache :=
  let bound := tracker.boundTo peerId stats
  let videos := bound.filter fun inbound => inbound.video
  let audios := bound.filter fun inbound => !inbound.video
  let videoBytes := tracker.total ScreenInboundRtpStats.bytesReceived videos
  let audioBytes := tracker.total ScreenInboundRtpStats.bytesReceived audios
  let json : PeerStats :=
    { measuredKbps := measuredKbps cache (videoBytes + audioBytes) now
      video :=
        { packetsReceived := tracker.total ScreenInboundRtpStats.packetsReceived videos
          bytesReceived := videoBytes
          packetsLost := (videos.map tracker.lostDelta).sum
          framesDecoded := tracker.total ScreenInboundRtpStats.framesDecoded videos
          framesDropped := tracker.total ScreenInboundRtpStats.framesDropped videos
          keyFramesDecoded := tracker.total ScreenInboundRtpStats.keyFramesDecoded videos
          actualDelayMs :=
            tracker.averageMs ScreenInboundRtpStats.jitterBufferDelaySeconds videos
          targetDelayMs :=
            tracker.averageMs ScreenInboundRtpStats.jitterBufferTargetDelaySeconds videos }
      audio :=
        { packetsReceived := tracker.total ScreenInboundRtpStats.packetsReceived audios
          bytesReceived := audioBytes
          packetsLost := (audios.map tracker.lostDelta).sum
          concealedSamples := tracker.total ScreenInboundRtpStats.concealedSamples audios
          actualDelayMs :=
            tracker.averageMs ScreenInboundRtpStats.jitterBufferDelaySeconds audios
          targetDelayMs :=
            tracker.averageMs ScreenInboundRtpStats.jitterBufferTargetDelaySeconds audios } }
  { json := some json, receivedBytes := videoBytes + audioBytes, updatedAt := now }

/-- The baselines after the bound tracks of a report without one have got theirs. -/
def addBaselines (tracker : ScreenStatsTracker) (stats : List ScreenInboundRtpStats) :
    Table Bytes ScreenInboundRtpStats :=
  stats.foldl (fun baselines inbound =>
    if inbound.mid ∈ tracker.bindings ∧ inbound.mid ∉ baselines then
      baselines.insert inbound.mid inbound
    else baselines) tracker.baselines

/-- The caches after the watched peers were updated. -/
def updateCaches (tracker : ScreenStatsTracker) (stats : List ScreenInboundRtpStats) (now : ℚ) :
    Table Bytes StatsCache :=
  tracker.watchedPeers.foldl (fun caches peer =>
    caches.insert peer (tracker.updatePeer peer stats now ((caches.lookup peer).getD {})))
    tracker.cacheByPeer

/-- `consume`. -/
def consume (tracker : ScreenStatsTracker) (stats : List ScreenInboundRtpStats)
    (sessionGeneration : ℕ) (now : ℚ) : ScreenStatsTracker :=
  if sessionGeneration = tracker.sessionGeneration then
    let prepared := { tracker with baselines := tracker.addBaselines stats }
    { prepared with
      cacheByPeer := prepared.updateCaches stats now
      requestInFlight := false }
  else tracker

/-! ## What the operations leave -/

section

variable {tracker : ScreenStatsTracker} {mid other peer : Bytes} {peerId : Option Bytes}

theorem lookup_setBinding (tracker : ScreenStatsTracker) (mid : Bytes) (peerId : Option Bytes)
    (other : Bytes) :
    (tracker.setBinding mid peerId).bindings.lookup other =
      if other = mid then peerId else tracker.bindings.lookup other := by
  unfold setBinding
  by_cases hrebinds : tracker.Rebinds mid peerId
  · rw [if_pos hrebinds]
    by_cases hmid : other = mid
    · subst hmid
      rw [if_pos rfl]
      cases peerId with
      | none => exact AList.lookup_erase _ _
      | some peer => exact AList.lookup_insert _
    · rw [if_neg hmid]
      cases peerId with
      | none => exact AList.lookup_erase_ne hmid
      | some peer => exact AList.lookup_insert_ne hmid
  · rw [if_neg hrebinds]
    by_cases hmid : other = mid
    · subst hmid
      rw [if_pos rfl]
      exact not_not.mp hrebinds
    · rw [if_neg hmid]

@[simp]
theorem watchedPeers_setBinding :
    (tracker.setBinding mid peerId).watchedPeers = tracker.watchedPeers := by
  unfold setBinding
  split
  · cases peerId <;> rfl
  · rfl

@[simp]
theorem requestInFlight_setBinding :
    (tracker.setBinding mid peerId).requestInFlight = tracker.requestInFlight := by
  unfold setBinding
  split
  · cases peerId <;> rfl
  · rfl

@[simp]
theorem sessionGeneration_setBinding :
    (tracker.setBinding mid peerId).sessionGeneration = tracker.sessionGeneration := by
  unfold setBinding
  split
  · cases peerId <;> rfl
  · rfl

/-- A baseline survives the rebinding of another track. -/
theorem baseline_of_setBinding {baseline : ScreenInboundRtpStats}
    (h : (tracker.setBinding mid peerId).baselines.lookup other = some baseline) :
    tracker.baselines.lookup other = some baseline ∧
      (tracker.Rebinds mid peerId → other ≠ mid) := by
  unfold setBinding at h
  by_cases hrebinds : tracker.Rebinds mid peerId
  · rw [if_pos hrebinds] at h
    have herased : (tracker.baselines.erase mid).lookup other = some baseline := by
      cases peerId <;> exact h
    rcases Table.lookup_of_lookup_erase herased with ⟨hne, hold⟩
    exact ⟨hold, fun _ => hne⟩
  · rw [if_neg hrebinds] at h
    exact ⟨h, fun hyes => absurd hyes hrebinds⟩

/-- A cache survives the rebinding of tracks that are of other peers before and after. -/
theorem cache_of_setBinding {cache : StatsCache}
    (h : (tracker.setBinding mid peerId).cacheByPeer.lookup peer = some cache) :
    tracker.cacheByPeer.lookup peer = some cache ∧
      (tracker.Rebinds mid peerId →
        tracker.bindings.lookup mid ≠ some peer ∧ peerId ≠ some peer) := by
  unfold setBinding at h
  by_cases hrebinds : tracker.Rebinds mid peerId
  · rw [if_pos hrebinds] at h
    have hforgotten : (tracker.eraseCache (tracker.bindings.lookup mid)).lookup peer =
        some cache ∧ peerId ≠ some peer := by
      cases peerId with
      | none => exact ⟨h, by simp⟩
      | some bound =>
          rcases Table.lookup_of_lookup_erase h with ⟨hne, hold⟩
          exact ⟨hold, fun hsame => hne (Option.some.inj hsame).symm⟩
    cases hbinding : tracker.bindings.lookup mid with
    | none =>
        rw [hbinding] at hforgotten
        exact ⟨hforgotten.1, fun _ => ⟨by simp, hforgotten.2⟩⟩
    | some bound =>
        rw [hbinding] at hforgotten
        rcases Table.lookup_of_lookup_erase hforgotten.1 with ⟨hne, hold⟩
        exact ⟨hold, fun _ => ⟨fun hsame => hne (Option.some.inj hsame).symm, hforgotten.2⟩⟩
  · rw [if_neg hrebinds] at h
    exact ⟨h, fun hyes => absurd hyes hrebinds⟩

/-- A baseline was there before, or is a bound track of the report. -/
theorem lookup_addBaselines {stats : List ScreenInboundRtpStats}
    {baseline : ScreenInboundRtpStats}
    (h : (tracker.addBaselines stats).lookup mid = some baseline) :
    tracker.baselines.lookup mid = some baseline ∨
      baseline ∈ stats ∧ baseline.mid = mid ∧ mid ∈ tracker.bindings ∧
        mid ∉ tracker.baselines := by
  unfold addBaselines at h
  generalize tracker.baselines = baselines at h ⊢
  induction stats generalizing baselines with
  | nil => exact Or.inl h
  | cons inbound stats ih =>
      rw [List.foldl_cons] at h
      by_cases hnew : inbound.mid ∈ tracker.bindings ∧ inbound.mid ∉ baselines
      · rw [if_pos hnew] at h
        rcases ih _ h with hold | ⟨hmem, hmid, hbound, hfresh⟩
        · rcases Table.lookup_insert_cases hold with ⟨rfl, rfl⟩ | ⟨-, hold⟩
          · exact Or.inr ⟨List.mem_cons_self, rfl, hnew.1, hnew.2⟩
          · exact Or.inl hold
        · refine Or.inr ⟨List.mem_cons_of_mem _ hmem, hmid, hbound, fun hold => hfresh ?_⟩
          exact (AList.mem_insert _).mpr (Or.inr hold)
      · rw [if_neg hnew] at h
        rcases ih _ h with hold | ⟨hmem, hrest⟩
        · exact Or.inl hold
        · exact Or.inr ⟨List.mem_cons_of_mem _ hmem, hrest⟩

/-- Every bound track of a report has a baseline afterwards. -/
theorem mem_addBaselines {stats : List ScreenInboundRtpStats} {inbound : ScreenInboundRtpStats}
    (hmem : inbound ∈ stats) (hbound : inbound.mid ∈ tracker.bindings) :
    inbound.mid ∈ tracker.addBaselines stats := by
  have hkept : ∀ (rest : List ScreenInboundRtpStats) (baselines : Table Bytes
      ScreenInboundRtpStats), inbound.mid ∈ baselines →
        inbound.mid ∈ rest.foldl (fun baselines inbound =>
          if inbound.mid ∈ tracker.bindings ∧ inbound.mid ∉ baselines then
            baselines.insert inbound.mid inbound
          else baselines) baselines := by
    intro rest
    induction rest with
    | nil => exact fun _ hheld => hheld
    | cons first rest ih =>
        intro baselines hheld
        rw [List.foldl_cons]
        apply ih
        split
        · exact (AList.mem_insert _).mpr (Or.inr hheld)
        · exact hheld
  unfold addBaselines
  generalize tracker.baselines = baselines
  induction stats generalizing baselines with
  | nil => contradiction
  | cons first stats ih =>
      rw [List.foldl_cons]
      rcases List.mem_cons.mp hmem with rfl | hmem
      · apply hkept
        split
        · exact (AList.mem_insert _).mpr (Or.inl rfl)
        · rename_i hheld
          by_contra hmissing
          exact hheld ⟨hbound, hmissing⟩
      · exact ih hmem _

/-- A cache was updated by the report if its peer is watched, and is the same otherwise. -/
theorem lookup_updateCaches {stats : List ScreenInboundRtpStats} {now : ℚ} {cache : StatsCache}
    (h : (tracker.updateCaches stats now).lookup peer = some cache) :
    peer ∈ tracker.watchedPeers ∧
        (∃ old, cache = tracker.updatePeer peer stats now old) ∨
      peer ∉ tracker.watchedPeers ∧ tracker.cacheByPeer.lookup peer = some cache := by
  unfold updateCaches at h
  generalize tracker.cacheByPeer = caches at h ⊢
  generalize tracker.watchedPeers = peers at h ⊢
  induction peers generalizing caches with
  | nil => exact Or.inr ⟨List.not_mem_nil, h⟩
  | cons watched rest ih =>
      rw [List.foldl_cons] at h
      rcases ih _ h with ⟨hmem, hupdated⟩ | ⟨hnone, hold⟩
      · exact Or.inl ⟨List.mem_cons_of_mem _ hmem, hupdated⟩
      · rcases Table.lookup_insert_cases hold with ⟨rfl, rfl⟩ | ⟨hne, hold⟩
        · exact Or.inl ⟨List.mem_cons_self, _, rfl⟩
        · refine Or.inr ⟨?_, hold⟩
          rw [List.mem_cons, not_or]
          exact ⟨hne, hnone⟩

end

/-! ## Sums over tracks -/

section

variable (tracker : ScreenStatsTracker) (member : ScreenInboundRtpStats → ℕ)

/-- Video and audio tracks together are all tracks. -/
theorem total_video_add_audio (inbounds : List ScreenInboundRtpStats) :
    tracker.total member (inbounds.filter fun inbound => inbound.video) +
        tracker.total member (inbounds.filter fun inbound => !inbound.video) =
      tracker.total member inbounds := by
  induction inbounds with
  | nil => rfl
  | cons inbound inbounds ih =>
      simp only [total, List.filter_cons, List.map_cons, List.sum_cons] at ih ⊢
      cases inbound.video with
      | true =>
          simp only [Bool.not_true, Bool.false_eq_true, if_true, if_false, List.map_cons,
            List.sum_cons]
          omega
      | false =>
          simp only [Bool.not_false, Bool.false_eq_true, if_true, if_false, List.map_cons,
            List.sum_cons]
          omega

/-- The tracks that are bound to a peer. -/
def midsOf (peerId : Bytes) : List Bytes :=
  tracker.bindings.keys.filter fun mid => tracker.bindings.lookup mid = some peerId

theorem mem_midsOf {tracker : ScreenStatsTracker} {peerId mid : Bytes} :
    mid ∈ tracker.midsOf peerId ↔ tracker.bindings.lookup mid = some peerId := by
  rw [midsOf, List.mem_filter, decide_eq_true_eq]
  constructor
  · exact fun h => h.2
  · exact fun h => ⟨AList.mem_keys.mp (Table.mem_of_lookup h), h⟩

theorem nodup_midsOf (peerId : Bytes) : (tracker.midsOf peerId).Nodup :=
  tracker.bindings.keys_nodup.filter _

/-- More tracks, each with a greater number, have a greater sum. -/
theorem sum_map_le_sum_map {first second : List Bytes} {f g : Bytes → ℕ} (hnodup : first.Nodup)
    (h : ∀ mid ∈ first, mid ∈ second ∧ f mid ≤ g mid) :
    (first.map f).sum ≤ (second.map g).sum := by
  have hsub : first.Subperm second := hnodup.subperm fun mid hmem => (h mid hmem).1
  rcases hsub with ⟨middle, hperm, hsublist⟩
  calc (first.map f).sum ≤ (first.map g).sum := List.sum_le_sum fun mid hmem => (h mid hmem).2
    _ = (middle.map g).sum := ((hperm.map g).sum_eq).symm
    _ ≤ (second.map g).sum := (hsublist.map g).sum_le_sum fun _ _ => Nat.zero_le _

/-- The sum over the tracks of a peer is bounded track by track. -/
theorem total_boundTo_le {peerId : Bytes} {stats : List ScreenInboundRtpStats}
    (hnodup : (stats.map ScreenInboundRtpStats.mid).Nodup) {bound : Bytes → ℕ}
    (h : ∀ inbound ∈ stats, tracker.bindings.lookup inbound.mid = some peerId →
      tracker.delta member inbound ≤ bound inbound.mid) :
    tracker.total member (tracker.boundTo peerId stats) ≤
      ((tracker.midsOf peerId).map bound).sum := by
  have hbound : ∀ inbound ∈ tracker.boundTo peerId stats, inbound ∈ stats ∧
      tracker.bindings.lookup inbound.mid = some peerId := by
    intro inbound hmem
    rcases List.mem_filter.mp hmem with ⟨hstats, htest⟩
    exact ⟨hstats, of_decide_eq_true htest⟩
  calc tracker.total member (tracker.boundTo peerId stats)
      ≤ ((tracker.boundTo peerId stats).map fun inbound => bound inbound.mid).sum :=
        List.sum_le_sum fun inbound hmem => h inbound (hbound inbound hmem).1
          (hbound inbound hmem).2
    _ = (((tracker.boundTo peerId stats).map ScreenInboundRtpStats.mid).map bound).sum := by
        rw [List.map_map]
        rfl
    _ ≤ ((tracker.midsOf peerId).map bound).sum := by
        apply sum_map_le_sum_map
        · exact (List.filter_sublist.map _).nodup hnodup
        · intro mid hmem
          rcases List.mem_map.mp hmem with ⟨inbound, hinbound, rfl⟩
          exact ⟨mem_midsOf.mpr (hbound inbound hinbound).2, le_rfl⟩

end

end ScreenStatsTracker

end Client
end Driscord
