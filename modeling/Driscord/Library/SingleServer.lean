import Mathlib.Algebra.Order.BigOperators.Group.List
import Mathlib.Tactic

/-!
# One job at a time

A server works on one job at a time: each job has a start and a finish, and a job
does not start before the one before it is finished.

Main results:

- Theorem `sum_durations_le`: jobs of a window take no longer than the window.
- Theorem `sum_work_le`: a bound on the rate of each job bounds the work of a window.
-/

namespace Driscord
namespace Library

variable {α : Type*}

section

variable {G : Type*} [LE G]

/-- The jobs in their order, each finished before the next one starts. -/
def OneByOne (start finish : α → G) (jobs : List α) : Prop :=
  jobs.Pairwise fun job next => finish job ≤ start next

/-- The jobs lie in the window. -/
def Inside (start finish : α → G) (opening closing : G) (jobs : List α) : Prop :=
  ∀ job ∈ jobs, opening ≤ start job ∧ finish job ≤ closing

theorem OneByOne.sublist {start finish : α → G} {jobs part : List α}
    (h : OneByOne start finish jobs) (hpart : part.Sublist jobs) :
    OneByOne start finish part :=
  List.Pairwise.sublist hpart h

end

section

variable {G : Type*} [AddCommGroup G] [LinearOrder G] [IsOrderedAddMonoid G]
variable {start finish : α → G} {jobs : List α}

/-- Jobs that are done one by one in a window take no longer than the window. -/
theorem sum_durations_le {opening closing : G} (hle : opening ≤ closing)
    (hjobs : OneByOne start finish jobs) (hinside : Inside start finish opening closing jobs) :
    (jobs.map fun job => finish job - start job).sum ≤ closing - opening := by
  induction jobs generalizing opening with
  | nil => simpa using hle
  | cons job rest ih =>
      rcases List.pairwise_cons.mp hjobs with ⟨hfirst, hrest⟩
      rcases hinside job List.mem_cons_self with ⟨hopening, hclosing⟩
      have htail : (rest.map fun job => finish job - start job).sum ≤ closing - finish job := by
        apply ih hclosing hrest
        intro other hother
        exact ⟨hfirst other hother, (hinside other (List.mem_cons_of_mem _ hother)).2⟩
      rw [List.map_cons, List.sum_cons]
      calc
        _ ≤ finish job - start job + (closing - finish job) := by gcongr
        _ = closing - start job := by abel
        _ ≤ closing - opening := by gcongr

end

section

variable {R : Type*} [CommRing R] [LinearOrder R] [IsStrictOrderedRing R]
variable {start finish work : α → R} {jobs : List α}

/-- A server whose rate is bounded up to a grain of time for each job does bounded work. -/
theorem sum_work_le {rate grain opening closing : R} (hrate : 0 ≤ rate) (hle : opening ≤ closing)
    (hjobs : OneByOne start finish jobs) (hinside : Inside start finish opening closing jobs)
    (hwork : ∀ job ∈ jobs, work job ≤ rate * (finish job - start job + grain)) :
    (jobs.map work).sum ≤ rate * (closing - opening + jobs.length * grain) := by
  have hsum : (jobs.map work).sum ≤
      rate * ((jobs.map fun job => finish job - start job).sum + jobs.length * grain) := by
    clear hjobs hinside
    induction jobs with
    | nil => simp
    | cons job rest ih =>
        have hfirst := hwork job List.mem_cons_self
        have hrest := ih fun other hother => hwork other (List.mem_cons_of_mem _ hother)
        rw [List.map_cons, List.sum_cons, List.map_cons, List.sum_cons, List.length_cons]
        push_cast
        linarith
  have hdurations := sum_durations_le hle hjobs hinside
  calc
    _ ≤ _ := hsum
    _ ≤ rate * (closing - opening + jobs.length * grain) := by gcongr

end

end Library
end Driscord
