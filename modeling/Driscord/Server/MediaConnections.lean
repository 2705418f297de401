import Driscord.Library.Table
import Driscord.Sfu.Track
import Driscord.Signaling.Protocol

/-!
# The media connections of a session

`MediaConnections::Impl` keeps for each connection id the current PeerConnection
and the tracks that it has delivered.  Each function here is one section under its
mutex; the calls to the media library that follow a section are left to the system.

A PeerConnection is named by its number, which is never used again.
-/

namespace Driscord
namespace Server

open Library Signaling Sfu

/-- An `rtc::PeerConnection` of a session. -/
structure PeerConnection where
  number : Nat
  owner : PeerId
  connection : ConnectionId
deriving DecidableEq, Repr

/-- `MediaConnections::Impl::Connection`. -/
structure Connection where
  pc : Nat
  tracks : Table Bytes TrackId := ∅

/-- `MediaConnections::Impl`. -/
structure MediaConnections where
  connections : Table ConnectionId Connection := ∅

namespace MediaConnections

/-- The current PeerConnection of a connection id. -/
def current (media : MediaConnections) (connection : ConnectionId) : Option Nat :=
  (media.connections.lookup connection).map Connection.pc

/-- The section of `accept_offer` that stores the new PeerConnection. -/
def install (media : MediaConnections) (connection : ConnectionId) (pc : Nat) :
    MediaConnections :=
  { media with connections := media.connections.insert connection { pc := pc } }

/-- The section of `register_track`, if the PeerConnection is the current one. -/
def registerTrack (media : MediaConnections) (connection : ConnectionId) (pc : Nat)
    (mid : Bytes) (track : TrackId) : Option MediaConnections :=
  match media.connections.lookup connection with
  | none => none
  | some slot =>
      if slot.pc = pc then
        some { media with
          connections := media.connections.insert connection
            { slot with tracks := slot.tracks.insert mid track } }
      else none

/-- The `onClosed` callback of a registered track. -/
def trackClosed (media : MediaConnections) (connection : ConnectionId) (mid : Bytes)
    (track : TrackId) : MediaConnections :=
  { media with
    connections := Table.modify connection
      (fun slot =>
        if slot.tracks.lookup mid = some track then
          { slot with tracks := slot.tracks.erase mid }
        else slot)
      media.connections }

/-- The section of `remove_and_close`. -/
def removeAndClose (media : MediaConnections) (connection : ConnectionId) (pc : Nat) :
    MediaConnections :=
  if media.current connection = some pc then
    { media with connections := media.connections.erase connection }
  else media

/-! ## The current PeerConnection -/

section

variable (media : MediaConnections) (connection other : ConnectionId) (pc : Nat)

theorem current_install :
    (media.install connection pc).current other =
      if other = connection then some pc else media.current other := by
  by_cases hsame : other = connection
  · subst hsame
    simp [current, install]
  · simp [current, install, hsame, AList.lookup_insert_ne hsame]

theorem current_trackClosed (mid : Bytes) (track : TrackId) :
    (media.trackClosed connection mid track).current other = media.current other := by
  rw [current, trackClosed, Table.lookup_modify, Option.map_map, current]
  congr 1
  funext slot
  simp only [Function.comp_apply]
  split
  · split <;> rfl
  · rfl

/-- A removal leaves no other PeerConnection than the current one. -/
theorem current_removeAndClose {found : Nat}
    (h : (media.removeAndClose connection pc).current other = some found) :
    media.current other = some found := by
  unfold removeAndClose at h
  split at h
  · by_cases hsame : other = connection
    · subst hsame
      simp [current] at h
    · rw [current, AList.lookup_erase_ne hsame] at h
      exact h
  · exact h

variable {media connection pc}

/-- Only the current PeerConnection registers tracks. -/
theorem registerTrack_eq_some {mid : Bytes} {track : TrackId} {media' : MediaConnections}
    (h : media.registerTrack connection pc mid track = some media') :
    media.current connection = some pc ∧
      ∀ other, media'.current other = media.current other := by
  unfold registerTrack at h
  cases hslot : media.connections.lookup connection with
  | none => simp [hslot] at h
  | some slot =>
      simp only [hslot] at h
      split at h
      case isFalse => contradiction
      case isTrue hpc =>
        rw [Option.some.injEq] at h
        refine ⟨by rw [current, hslot, Option.map_some, hpc], fun other => ?_⟩
        rw [← h]
        by_cases hsame : other = connection
        · subst hsame
          simp [current, hslot]
        · simp [current, AList.lookup_insert_ne hsame]

theorem registerTrack_eq_none {mid : Bytes} {track : TrackId}
    (h : media.registerTrack connection pc mid track = none) :
    media.current connection ≠ some pc := by
  unfold registerTrack at h
  intro hcurrent
  rw [current, Option.map_eq_some_iff] at hcurrent
  rcases hcurrent with ⟨slot, hslot, hpc⟩
  simp only [hslot, if_pos hpc] at h
  contradiction

end

end MediaConnections

end Server
end Driscord
