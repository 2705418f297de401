import Driscord.Library.ThreadPool
import Mathlib.Data.Multiset.AddSub

/-!
# Custody of resources

A thread that acquires a resource has it in its hands until it stores the resource
where others find it or gives it back.  When every section accounts for what it takes
and what it passes on, a live resource is stored or in the hands of one thread, and
once all threads have finished only what is stored is live.

Main results:

- Theorem `Pool.total_run`: how running a section changes a sum over all sections.
- Theorem `InCustody.run`: a section that balances keeps every resource in custody.
- Theorem `InCustody.release`: giving back the resource that a section holds.
- Theorem `InCustody.live_eq_stored`: nothing is lost once the threads have finished.
-/

namespace Driscord
namespace Library

variable {σ : Type*}

namespace Pool

/-! ## Sums over a pool -/

section

variable {M : Type*} [AddCommMonoid M] (weight : σ → M)

/-- The sum over the sections of a thread. -/
def load (thread : List σ) : M :=
  (thread.map weight).sum

/-- The sum over all sections that still have to run. -/
def total (pool : Pool σ) : M :=
  (pool.map (load weight)).sum

@[simp]
theorem load_nil : load weight [] = 0 := rfl

@[simp]
theorem load_cons (head : σ) (rest : List σ) :
    load weight (head :: rest) = weight head + load weight rest := by
  rw [load, List.map_cons, List.sum_cons, load]

@[simp]
theorem load_append (first second : List σ) :
    load weight (first ++ second) = load weight first + load weight second := by
  rw [load, List.map_append, List.sum_append, load, load]

theorem load_map {ι : Type*} (f : ι → σ) (items : List ι) :
    load weight (items.map f) = load (weight ∘ f) items := by
  rw [load, List.map_map, load]

theorem load_eq_zero {thread : List σ} (h : ∀ item ∈ thread, weight item = 0) :
    load weight thread = 0 := by
  induction thread with
  | nil => rfl
  | cons head rest ih =>
      rw [load_cons, h head List.mem_cons_self, zero_add]
      exact ih fun item hitem => h item (List.mem_cons_of_mem _ hitem)

/-- The sum of what is held one by one. -/
theorem load_singletons {ι ρ : Type*} (f : ι → ρ) (items : List ι) :
    load (fun item => ({f item} : Multiset ρ)) items = (items.map f : Multiset ρ) := by
  induction items with
  | nil => rfl
  | cons item items ih =>
      rw [load_cons, ih, List.map_cons, Multiset.singleton_add, Multiset.cons_coe]

@[simp]
theorem total_nil : total weight ([] : Pool σ) = 0 := rfl

theorem total_spawn (pool : Pool σ) (thread : List σ) :
    total weight (pool ++ [thread]) = total weight pool + load weight thread := by
  rw [total, List.map_append, List.sum_append, List.map_singleton, List.sum_singleton, total]

/-- A section that runs takes its share with it and adds that of its calls. -/
theorem total_run {pool : Pool σ} {index : Nat} {head : σ} {rest : List σ}
    (hhead : pool[index]? = some (head :: rest)) (pushed : List σ) :
    total weight (pool.set index (pushed ++ rest)) + weight head =
      total weight pool + load weight pushed := by
  induction pool generalizing index with
  | nil => contradiction
  | cons thread pool ih =>
      cases index with
      | zero =>
          rw [List.getElem?_cons_zero, Option.some.injEq] at hhead
          rw [hhead, List.set_cons_zero, total, total, List.map_cons, List.map_cons,
            List.sum_cons, List.sum_cons, load_append, load_cons]
          abel
      | succ index =>
          rw [List.getElem?_cons_succ] at hhead
          have hrest := ih hhead
          rw [total, total] at hrest
          rw [List.set_cons_succ, total, total, List.map_cons, List.map_cons, List.sum_cons,
            List.sum_cons, add_assoc, hrest, add_assoc]

theorem total_eq_zero {pool : Pool σ} (h : ∀ item, Pending pool item → weight item = 0) :
    total weight pool = 0 := by
  induction pool with
  | nil => rfl
  | cons thread pool ih =>
      have hthread : ∀ item ∈ thread, weight item = 0 := fun item hitem =>
        h item ⟨thread, List.mem_cons_self, hitem⟩
      rw [total, List.map_cons, List.sum_cons, load_eq_zero weight hthread, zero_add]
      refine ih fun item hpending => h item ?_
      rcases hpending with ⟨other, hother, hitem⟩
      exact ⟨other, List.mem_cons_of_mem _ hother, hitem⟩

theorem total_of_quiet {pool : Pool σ} (h : Quiet pool) : total weight pool = 0 :=
  total_eq_zero weight fun item hpending => absurd hpending (h.not_pending item)

/-- A sum is counted section by section. -/
theorem map_total {N : Type*} [AddCommMonoid N] (f : M →+ N) (pool : Pool σ) :
    f (total weight pool) = total (f ∘ weight) pool := by
  rw [total, map_list_sum, List.map_map, total]
  congr 1
  refine List.map_congr_left fun thread _ => ?_
  rw [Function.comp_apply, load, map_list_sum, List.map_map, load]

/-- What a pool holds is held by one of its sections. -/
theorem mem_total_iff {ρ : Type*} {holds : σ → Multiset ρ} {pool : Pool σ} {resource : ρ} :
    resource ∈ total holds pool ↔ ∃ item, Pending pool item ∧ resource ∈ holds item := by
  have hload : ∀ thread : List σ, resource ∈ load holds thread ↔
      ∃ item ∈ thread, resource ∈ holds item := by
    intro thread
    induction thread with
    | nil => simp
    | cons head rest ih => rw [load_cons, Multiset.mem_add, ih, List.exists_mem_cons_iff]
  have htotal : resource ∈ total holds pool ↔ ∃ thread ∈ pool, resource ∈ load holds thread := by
    induction pool with
    | nil => simp
    | cons thread pool ih =>
        rw [List.exists_mem_cons_iff, ← ih, total, List.map_cons, List.sum_cons, Multiset.mem_add,
          total]
  rw [htotal]
  constructor
  · rintro ⟨thread, hthread, hmem⟩
    rcases (hload thread).mp hmem with ⟨item, hitem, hholds⟩
    exact ⟨item, ⟨thread, hthread, hitem⟩, hholds⟩
  · rintro ⟨item, ⟨thread, hthread, hitem⟩, hholds⟩
    exact ⟨thread, hthread, (hload thread).mpr ⟨item, hitem, hholds⟩⟩

theorem total_le_total {weight weight' : σ → Nat} (hle : ∀ item, weight item ≤ weight' item)
    (pool : Pool σ) : total weight pool ≤ total weight' pool := by
  refine List.sum_le_sum fun thread _ => ?_
  exact List.sum_le_sum fun item _ => hle item

end

end Pool

/-! ## Custody -/

section

variable {ρ : Type*} {holds : σ → Multiset ρ} {live stored live' stored' : Multiset ρ}
variable {pool : Pool σ}

/-- Every live resource is stored or in the hands of one section. -/
def InCustody (holds : σ → Multiset ρ) (live stored : Multiset ρ) (pool : Pool σ) : Prop :=
  live = stored + Pool.total holds pool

/-- Where a live resource is. -/
theorem InCustody.mem_live_iff (h : InCustody holds live stored pool) {resource : ρ} :
    resource ∈ live ↔
      resource ∈ stored ∨ ∃ item, Pool.Pending pool item ∧ resource ∈ holds item := by
  rw [show live = stored + Pool.total holds pool from h, Multiset.mem_add, Pool.mem_total_iff]

theorem InCustody.empty (holds : σ → Multiset ρ) : InCustody holds 0 0 [] := rfl

/-- A new thread starts with empty hands. -/
theorem InCustody.spawn (h : InCustody holds live stored pool) {thread : List σ}
    (hempty : Pool.load holds thread = 0) : InCustody holds live stored (pool ++ [thread]) := by
  rw [InCustody, Pool.total_spawn, hempty, add_zero]
  exact h

section

variable {index : Nat} {head : σ} {rest pushed : List σ}

/-- A section that balances: what it acquires and what it takes out of the store it
passes on, stores or gives back. -/
theorem InCustody.run (h : InCustody holds live stored pool)
    (hhead : pool[index]? = some (head :: rest))
    (hbalance : live' + stored + holds head = live + stored' + Pool.load holds pushed) :
    InCustody holds live' stored' (pool.set index (pushed ++ rest)) := by
  have htotal := Pool.total_run holds hhead pushed
  have hsum : live' + (stored + holds head) =
      stored' + Pool.total holds (pool.set index (pushed ++ rest)) + (stored + holds head) := by
    calc live' + (stored + holds head)
        = live + stored' + Pool.load holds pushed := by rw [← add_assoc, hbalance]
      _ = stored + Pool.total holds pool + stored' + Pool.load holds pushed := by
          rw [← show live = stored + Pool.total holds pool from h]
      _ = stored + stored' + (Pool.total holds pool + Pool.load holds pushed) := by abel
      _ = stored + stored' +
            (Pool.total holds (pool.set index (pushed ++ rest)) + holds head) := by rw [htotal]
      _ = stored' + Pool.total holds (pool.set index (pushed ++ rest)) +
            (stored + holds head) := by abel
  exact add_right_cancel hsum

/-- What the next section of a thread holds is live. -/
theorem InCustody.le_live (h : InCustody holds live stored pool)
    (hhead : pool[index]? = some (head :: rest)) : holds head ≤ live := by
  have htotal := Pool.total_run holds hhead []
  rw [Pool.load_nil, add_zero] at htotal
  rw [show live = stored + Pool.total holds pool from h, ← htotal]
  exact (Multiset.le_add_left _ _).trans (Multiset.le_add_left _ _)

/-- A section that only passes on what it holds. -/
theorem InCustody.pass (h : InCustody holds live stored pool)
    (hhead : pool[index]? = some (head :: rest)) (hsame : Pool.load holds pushed = holds head) :
    InCustody holds live stored (pool.set index (pushed ++ rest)) :=
  h.run hhead (by rw [hsame])

variable [DecidableEq ρ]

/-- A section gives back the resource that it holds. -/
theorem InCustody.release (h : InCustody holds live stored pool) {resource : ρ}
    (hhead : pool[index]? = some (head :: rest)) (hholds : holds head = {resource}) :
    InCustody holds (live.erase resource) stored (pool.set index ([] ++ rest)) := by
  have hmem : resource ∈ live := by
    have hle := h.le_live hhead
    rw [hholds] at hle
    exact Multiset.singleton_le.mp hle
  refine h.run hhead ?_
  rw [hholds, Pool.load_nil, add_zero, add_right_comm, add_comm (live.erase resource),
    Multiset.singleton_add, Multiset.cons_erase hmem]

end

/-- Once all threads have finished, what is stored is what is live. -/
theorem InCustody.live_eq_stored (h : InCustody holds live stored pool)
    (hquiet : Pool.Quiet pool) : live = stored := by
  rw [show live = stored + Pool.total holds pool from h, Pool.total_of_quiet holds hquiet, add_zero]

end

end Library
end Driscord
