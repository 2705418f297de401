import Mathlib.Data.List.Basic
import Mathlib.Tactic

/-!
# Pools of sequential threads

A thread is the list of the sections it still has to run.  Running one replaces
it by the sections that it calls for, so calls, returns and branches are all
pushes.  A pool is the list of all threads begun so far; finished ones are empty.

Main results:

- Theorem `Pending.run`: running a section leaves every other pending section
  pending.
- Theorem `Guarded.run`: sections inside a lock stay with the thread that holds
  it.
- Theorem `count_run`: how running a section changes the number of pending ones.
- Theorem `Owes.run`: what a pending section will do stays due until it is done.
-/

namespace Driscord
namespace Library

variable {σ : Type*}

/-- The sections that each thread still has to run. -/
abbrev Pool (σ : Type*) := List (List σ)

namespace Pool

/-- Some thread still has to run the section. -/
def Pending (pool : Pool σ) (item : σ) : Prop :=
  ∃ thread ∈ pool, item ∈ thread

instance [DecidableEq σ] (pool : Pool σ) : DecidablePred (Pending pool) := fun item =>
  inferInstanceAs (Decidable (∃ thread ∈ pool, item ∈ thread))

/-- No thread is running. -/
def Quiet (pool : Pool σ) : Prop :=
  ∀ thread ∈ pool, thread = []

instance [DecidableEq σ] (pool : Pool σ) : Decidable (Quiet pool) :=
  inferInstanceAs (Decidable (∀ thread ∈ pool, thread = []))

theorem Quiet.not_pending {pool : Pool σ} (h : Quiet pool) (item : σ) :
    ¬ Pending pool item := by
  rintro ⟨thread, hthread, hitem⟩
  rw [h thread hthread] at hitem
  exact List.not_mem_nil hitem

theorem Pending.spawn {pool : Pool σ} {item : σ} (h : Pending pool item) (thread : List σ) :
    Pending (pool ++ [thread]) item := by
  rcases h with ⟨other, hother, hitem⟩
  exact ⟨other, List.mem_append_left _ hother, hitem⟩

theorem pending_spawned {thread : List σ} {item : σ} (h : item ∈ thread) (pool : Pool σ) :
    Pending (pool ++ [thread]) item :=
  ⟨thread, List.mem_append_right _ (List.mem_singleton_self _), h⟩

theorem pending_of_spawn {pool : Pool σ} {thread : List σ} {item : σ}
    (h : Pending (pool ++ [thread]) item) : Pending pool item ∨ item ∈ thread := by
  rcases h with ⟨other, hother, hitem⟩
  rcases List.mem_append.mp hother with hother | hother
  · exact Or.inl ⟨other, hother, hitem⟩
  · rw [List.mem_singleton.mp hother] at hitem
    exact Or.inr hitem

section

variable {pool : Pool σ} {index : Nat} {head : σ} {rest : List σ}
variable (hhead : pool[index]? = some (head :: rest))
include hhead

theorem pending_head : Pending pool head :=
  ⟨head :: rest, List.mem_of_getElem? hhead, List.mem_cons_self⟩

theorem pending_rest {item : σ} (h : item ∈ rest) : Pending pool item :=
  ⟨head :: rest, List.mem_of_getElem? hhead, List.mem_cons_of_mem _ h⟩

/-- A section that is pending before a run and is not the one that runs is
pending afterwards. -/
theorem Pending.run {item : σ} (h : Pending pool item) (hne : item ≠ head)
    (pushed : List σ) : Pending (pool.set index (pushed ++ rest)) item := by
  have hlt : index < pool.length := (List.getElem?_eq_some_iff.mp hhead).choose
  rcases h with ⟨thread, hthread, hitem⟩
  rcases List.mem_iff_getElem?.mp hthread with ⟨other, hother⟩
  by_cases hsame : other = index
  · subst hsame
    rw [hhead, Option.some.injEq] at hother
    rw [← hother] at hitem
    have hrest : item ∈ rest := (List.mem_cons.mp hitem).resolve_left hne
    exact ⟨pushed ++ rest, List.mem_set hlt _, List.mem_append_right _ hrest⟩
  · refine ⟨thread, ?_, hitem⟩
    apply List.mem_of_getElem? (i := other)
    rw [List.getElem?_set_ne (Ne.symm hsame), hother]

theorem pending_pushed {pushed : List σ} {item : σ} (h : item ∈ pushed) :
    Pending (pool.set index (pushed ++ rest)) item := by
  have hlt : index < pool.length := (List.getElem?_eq_some_iff.mp hhead).choose
  exact ⟨pushed ++ rest, List.mem_set hlt _, List.mem_append_left _ h⟩

theorem pending_of_run {pushed : List σ} {item : σ}
    (h : Pending (pool.set index (pushed ++ rest)) item) :
    Pending pool item ∨ item ∈ pushed := by
  rcases h with ⟨thread, hthread, hitem⟩
  rcases List.mem_or_eq_of_mem_set hthread with hold | rfl
  · exact Or.inl ⟨thread, hold, hitem⟩
  · rcases List.mem_append.mp hitem with hpushed | hrest
    · exact Or.inr hpushed
    · exact Or.inl (pending_rest hhead hrest)

end

/-! ## Locks -/

/-- The sections `inner` to a lock are first in their thread, and their thread
holds the lock. -/
structure Guarded (inner : σ → Prop) (lock : Option Nat) (pool : Pool σ) : Prop where
  first : ∀ thread ∈ pool, ∀ item ∈ thread.tail, ¬ inner item
  holder : ∀ index thread, pool[index]? = some thread → ∀ item ∈ thread, inner item →
    lock = some index

theorem Guarded.nil (inner : σ → Prop) (lock : Option Nat) : Guarded inner lock [] :=
  ⟨fun _ h => absurd h List.not_mem_nil, fun _ _ h => by simp at h⟩

/-- A new thread starts outside the lock. -/
theorem Guarded.spawn {inner : σ → Prop} {lock : Option Nat} {pool : Pool σ}
    (h : Guarded inner lock pool) {thread : List σ} (houter : ∀ item ∈ thread, ¬ inner item) :
    Guarded inner lock (pool ++ [thread]) where
  first other hother item hitem := by
    rcases List.mem_append.mp hother with hother | hother
    · exact h.first other hother item hitem
    · rw [List.mem_singleton.mp hother] at hitem
      exact houter item (List.mem_of_mem_tail hitem)
  holder index other hother item hitem hinner := by
    by_cases hlt : index < pool.length
    · rw [List.getElem?_append_left hlt] at hother
      exact h.holder index other hother item hitem hinner
    · rw [List.getElem?_append_right (by omega)] at hother
      have hsame : other = thread := by
        simpa using (List.mem_of_getElem? hother)
      rw [hsame] at hitem
      exact absurd hinner (houter item hitem)

/-- Running a section may take the free lock, keep it or give it back; other
threads never lose it. -/
theorem Guarded.run {inner : σ → Prop} {lock lock' : Option Nat} {pool : Pool σ}
    (h : Guarded inner lock pool) {index : Nat} {head : σ} {rest pushed : List σ}
    (hhead : pool[index]? = some (head :: rest))
    (hlock : lock' = lock ∨ lock = none ∨ inner head)
    (hfirst : ∀ item ∈ pushed.tail, ¬ inner item)
    (hpushed : ∀ item ∈ pushed, inner item → lock' = some index) :
    Guarded inner lock' (pool.set index (pushed ++ rest)) where
  first thread hthread item hitem := by
    have hrest := h.first _ (List.mem_of_getElem? hhead)
    rcases List.mem_or_eq_of_mem_set hthread with hold | rfl
    · exact h.first thread hold item hitem
    · cases pushed with
      | nil => exact hrest item (List.mem_of_mem_tail hitem)
      | cons first pushed =>
          rcases List.mem_append.mp hitem with hpush | hmem
          · exact hfirst item hpush
          · exact hrest item hmem
  holder other thread hother item hitem hinner := by
    have hlt : index < pool.length := (List.getElem?_eq_some_iff.mp hhead).choose
    by_cases hsame : other = index
    · subst hsame
      rw [List.getElem?_set_self hlt, Option.some.injEq] at hother
      rw [← hother] at hitem
      rcases List.mem_append.mp hitem with hpush | hmem
      · exact hpushed item hpush hinner
      · exact absurd hinner (h.first _ (List.mem_of_getElem? hhead) item hmem)
    · rw [List.getElem?_set_ne (Ne.symm hsame)] at hother
      have hheld := h.holder other thread hother item hitem hinner
      rcases hlock with rfl | hfree | hinside
      · exact hheld
      · rw [hfree] at hheld
        contradiction
      · rw [h.holder index _ hhead head List.mem_cons_self hinside, Option.some.injEq] at hheld
        exact absurd hheld.symm hsame

/-- While the lock is free no section inside it is pending. -/
theorem Guarded.not_pending {inner : σ → Prop} {pool : Pool σ} (h : Guarded inner none pool)
    {item : σ} (hinner : inner item) : ¬ Pending pool item := by
  rintro ⟨thread, hthread, hitem⟩
  rcases List.mem_iff_getElem?.mp hthread with ⟨index, hindex⟩
  have hheld := h.holder index thread hindex item hitem hinner
  contradiction

/-- A pending section inside the lock is the one that a thread inside is at. -/
theorem Guarded.eq_head {inner : σ → Prop} {lock : Option Nat} {pool : Pool σ}
    (h : Guarded inner lock pool) {index : Nat} {head : σ} {rest : List σ}
    (hhead : pool[index]? = some (head :: rest)) (hinside : inner head) {item : σ}
    (hinner : inner item) (hpending : Pending pool item) : item = head := by
  rcases hpending with ⟨thread, hthread, hitem⟩
  rcases List.mem_iff_getElem?.mp hthread with ⟨other, hother⟩
  have hheld := h.holder index _ hhead head List.mem_cons_self hinside
  rw [h.holder other thread hother item hitem hinner, Option.some.injEq] at hheld
  rw [hheld, hhead, Option.some.injEq] at hother
  rw [← hother] at hitem
  rcases List.mem_cons.mp hitem with hsame | hrest
  · exact hsame
  · exact absurd hinner (h.first _ (List.mem_of_getElem? hhead) item hrest)

/-- Once the holder has finished no section inside the lock is pending. -/
theorem Guarded.not_pending_of_idle {inner : σ → Prop} {lock : Option Nat} {pool : Pool σ}
    (h : Guarded inner lock pool) (hidle : ∀ index ∈ lock, pool[index]? = some []) {item : σ}
    (hinner : inner item) : ¬ Pending pool item := by
  rintro ⟨thread, hthread, hitem⟩
  rcases List.mem_iff_getElem?.mp hthread with ⟨index, hindex⟩
  have hdone := hidle index (h.holder index thread hindex item hitem hinner)
  rw [hindex, Option.some.injEq] at hdone
  rw [hdone] at hitem
  exact List.not_mem_nil hitem

/-- A thread that takes over from the holder, who has finished. -/
theorem Guarded.takeOver {inner : σ → Prop} {lock : Option Nat} {pool : Pool σ}
    (h : Guarded inner lock pool) (hidle : ∀ index ∈ lock, pool[index]? = some []) (item : σ) :
    Guarded inner (some pool.length) (pool ++ [[item]]) where
  first thread hthread other hother := by
    rcases List.mem_append.mp hthread with hold | hnew
    · exact h.first thread hold other hother
    · rw [List.mem_singleton.mp hnew] at hother
      exact absurd hother List.not_mem_nil
  holder index thread hindex other hother hinner := by
    by_cases hlt : index < pool.length
    · rw [List.getElem?_append_left hlt] at hindex
      have hpending : Pending pool other := ⟨thread, List.mem_of_getElem? hindex, hother⟩
      exact absurd hpending (h.not_pending_of_idle hidle hinner)
    · have hle := (List.getElem?_eq_some_iff.mp hindex).choose
      rw [List.length_append, List.length_singleton] at hle
      rw [show index = pool.length by omega]

/-! ## Counting -/

section

variable (p : σ → Bool)

/-- How many sections of a kind are pending. -/
def count (pool : Pool σ) : Nat :=
  (pool.map (List.countP p)).sum

theorem count_spawn (pool : Pool σ) (thread : List σ) :
    count p (pool ++ [thread]) = count p pool + thread.countP p := by
  simp [count]

/-- Running a section takes it away and adds what it calls for. -/
theorem count_run {pool : Pool σ} {index : Nat} {head : σ} {rest : List σ}
    (hhead : pool[index]? = some (head :: rest)) (pushed : List σ) :
    count p (pool.set index (pushed ++ rest)) + (if p head then 1 else 0) =
      count p pool + pushed.countP p := by
  induction pool generalizing index with
  | nil => simp at hhead
  | cons thread pool ih =>
      cases index with
      | zero =>
          rw [List.getElem?_cons_zero, Option.some.injEq] at hhead
          subst hhead
          simp only [count, List.set_cons_zero, List.map_cons, List.sum_cons,
            List.countP_append, List.countP_cons]
          omega
      | succ index =>
          rw [List.getElem?_cons_succ] at hhead
          have hrest := ih hhead
          simp only [count, List.set_cons_succ, List.map_cons, List.sum_cons] at hrest ⊢
          omega

theorem count_of_quiet {pool : Pool σ} (h : Quiet pool) : count p pool = 0 := by
  induction pool with
  | nil => rfl
  | cons thread pool ih =>
      have hthread := h thread List.mem_cons_self
      have hpool := ih fun other hother => h other (List.mem_cons_of_mem _ hother)
      simp only [count, List.map_cons, List.sum_cons] at hpool ⊢
      rw [hthread, hpool]
      rfl

theorem count_pos_of_pending {pool : Pool σ} {item : σ} (h : Pending pool item)
    (hitem : p item = true) : 0 < count p pool := by
  rcases h with ⟨thread, hthread, hmem⟩
  have hcount : 0 < thread.countP p := List.countP_pos_iff.mpr ⟨item, hmem, hitem⟩
  have hle : thread.countP p ≤ count p pool :=
    List.single_le_sum (fun _ _ => Nat.zero_le _) _ (List.mem_map_of_mem hthread)
  omega

end

/-! ## Obligations -/

section

variable {p : σ → Bool}

/-- Some pending section is of a kind. -/
def Owes (p : σ → Bool) (pool : Pool σ) : Prop :=
  ∃ thread ∈ pool, thread.any p = true

instance (p : σ → Bool) (pool : Pool σ) : Decidable (Owes p pool) :=
  inferInstanceAs (Decidable (∃ thread ∈ pool, thread.any p = true))

theorem owes_of_pending {pool : Pool σ} {item : σ} (h : Pending pool item)
    (hitem : p item = true) : Owes p pool := by
  rcases h with ⟨thread, hthread, hmem⟩
  exact ⟨thread, hthread, List.any_eq_true.mpr ⟨item, hmem, hitem⟩⟩

theorem Owes.exists_pending {pool : Pool σ} (h : Owes p pool) :
    ∃ item, Pending pool item ∧ p item = true := by
  rcases h with ⟨thread, hthread, hany⟩
  rcases List.any_eq_true.mp hany with ⟨item, hmem, hitem⟩
  exact ⟨item, ⟨thread, hthread, hmem⟩, hitem⟩

theorem Owes.mono {q : σ → Bool} {pool : Pool σ} (h : Owes p pool)
    (hsub : ∀ item, p item = true → q item = true) : Owes q pool := by
  rcases h.exists_pending with ⟨item, hpending, hitem⟩
  exact owes_of_pending hpending (hsub item hitem)

theorem Owes.spawn {pool : Pool σ} (h : Owes p pool) (thread : List σ) :
    Owes p (pool ++ [thread]) := by
  rcases h.exists_pending with ⟨item, hpending, hitem⟩
  exact owes_of_pending (hpending.spawn thread) hitem

theorem Quiet.not_owes {pool : Pool σ} (h : Quiet pool) : ¬ Owes p pool := by
  intro howes
  rcases howes.exists_pending with ⟨item, hpending, -⟩
  exact h.not_pending item hpending

theorem owes_pushed {pool : Pool σ} {index : Nat} {head : σ} {rest pushed : List σ}
    (hhead : pool[index]? = some (head :: rest)) (h : pushed.any p = true) :
    Owes p (pool.set index (pushed ++ rest)) := by
  rcases List.any_eq_true.mp h with ⟨item, hmem, hitem⟩
  exact owes_of_pending (pending_pushed hhead hmem) hitem

/-- An obligation is kept by a run that does not meet it or hands it on. -/
theorem Owes.run {pool : Pool σ} {index : Nat} {head : σ} {rest pushed : List σ}
    (h : Owes p pool) (hhead : pool[index]? = some (head :: rest))
    (hkeep : p head = true → pushed.any p = true) :
    Owes p (pool.set index (pushed ++ rest)) := by
  rcases h.exists_pending with ⟨item, hpending, hitem⟩
  by_cases hmet : p head = true
  · exact owes_pushed hhead (hkeep hmet)
  · have hne : item ≠ head := by
      rintro rfl
      exact hmet hitem
    exact owes_of_pending (hpending.run hhead hne pushed) hitem

end

end Pool

end Library
end Driscord
