import Mathlib.Data.List.Basic
import Mathlib.Tactic

/-!
# First-fit assignment

Candidates are served in order.  An eligible candidate that holds no slot yet
takes the first free slot; the pass ends when an eligible candidate finds none.
Eligibility and freedom are tests that the caller supplies; both may depend on
the candidate in hand, because they may be evaluated again for every candidate.

Main results:

- Theorem `firstFit_rule`: the induction rule for a property of the slots and
  the candidates that hold one.
- Theorem `firstFit_forall₂`: a slot is kept or bound to a candidate for which
  it was free.
- Theorem `firstFit_holders_nodup`: distinct holders stay distinct.
- Theorem `firstFit_maximal`: when freedom does not depend on the candidate,
  every eligible candidate holds a slot at the end or no slot is free.
-/

namespace Driscord
namespace Library

variable {κ σ : Type*}

/-- Bind the first free slot.  Returns the bound slot and all slots. -/
def bindFirst (free : σ → Bool) (bind : σ → σ) : List σ → Option (σ × List σ)
  | [] => none
  | slot :: slots =>
      if free slot then some (bind slot, bind slot :: slots)
      else (bindFirst free bind slots).map fun result => (result.1, slot :: result.2)

theorem bindFirst_eq_none_iff {free : σ → Bool} {bind : σ → σ} {slots : List σ} :
    bindFirst free bind slots = none ↔ ∀ slot ∈ slots, free slot = false := by
  induction slots with
  | nil => simp [bindFirst]
  | cons slot slots ih =>
      by_cases hfree : free slot = true
      · simp [bindFirst, hfree]
      · simp [bindFirst, hfree, ih]

/-- A successful `bindFirst` rewrites exactly one free slot. -/
theorem bindFirst_eq_some {free : σ → Bool} {bind : σ → σ} {slots slots' : List σ}
    {bound : σ} (h : bindFirst free bind slots = some (bound, slots')) :
    ∃ before slot after, slots = before ++ slot :: after ∧ free slot = true ∧
      bound = bind slot ∧ slots' = before ++ bind slot :: after := by
  induction slots generalizing slots' with
  | nil => simp [bindFirst] at h
  | cons slot slots ih =>
      by_cases hfree : free slot = true
      · simp only [bindFirst, hfree, if_true, Option.some.injEq, Prod.mk.injEq] at h
        exact ⟨[], slot, slots, rfl, hfree, h.1.symm, h.2.symm⟩
      · simp only [bindFirst, hfree, Bool.false_eq_true, if_false, Option.map_eq_some_iff] at h
        rcases h with ⟨⟨bound', rest⟩, hrest, heq⟩
        simp only [Prod.mk.injEq] at heq
        rcases heq with ⟨rfl, rfl⟩
        rcases ih hrest with ⟨before, found, after, rfl, hfound, rfl, rfl⟩
        exact ⟨slot :: before, found, after, rfl, hfound, rfl, rfl⟩

/-- Split a list at its first wanted element. -/
def splitFirst (wanted : σ → Bool) : List σ → Option (List σ × σ × List σ)
  | [] => none
  | slot :: slots =>
      if wanted slot then some ([], slot, slots)
      else (splitFirst wanted slots).map fun rest => (slot :: rest.1, rest.2)

theorem splitFirst_eq_some {wanted : σ → Bool} {slots before after : List σ} {slot : σ}
    (h : splitFirst wanted slots = some (before, slot, after)) :
    slots = before ++ slot :: after ∧ wanted slot = true := by
  induction slots generalizing before with
  | nil => simp [splitFirst] at h
  | cons first slots ih =>
      by_cases hwanted : wanted first = true
      · simp only [splitFirst, hwanted, if_true, Option.some.injEq, Prod.mk.injEq] at h
        rcases h with ⟨rfl, rfl, rfl⟩
        exact ⟨rfl, hwanted⟩
      · simp only [splitFirst, hwanted, Bool.false_eq_true, if_false, Option.map_eq_some_iff] at h
        rcases h with ⟨⟨before', rest⟩, hrest, heq⟩
        simp only [Prod.mk.injEq] at heq
        rcases heq with ⟨rfl, rfl⟩
        rcases ih hrest with ⟨rfl, hslot⟩
        exact ⟨rfl, hslot⟩

theorem splitFirst_eq_none {wanted : σ → Bool} {slots : List σ}
    (h : splitFirst wanted slots = none) : ∀ slot ∈ slots, wanted slot = false := by
  induction slots with
  | nil => simp
  | cons first slots ih =>
      by_cases hwanted : wanted first = true
      · simp [splitFirst, hwanted] at h
      · simp only [splitFirst, hwanted, Bool.false_eq_true, if_false, Option.map_eq_none_iff] at h
        intro slot hslot
        rcases List.mem_cons.mp hslot with rfl | hslot
        · simpa using hwanted
        · exact ih h slot hslot

/-- What a pass with these bindings did to one slot. -/
def Served (eligible : κ → Bool) (free : κ → σ → Bool) (bind : κ → σ → σ)
    (candidates : List κ) (bindings : List (κ × σ)) (slot slot' : σ) : Prop :=
  slot' = slot ∨
    ∃ candidate ∈ candidates, eligible candidate = true ∧ free candidate slot = true ∧
      slot' = bind candidate slot ∧ (candidate, slot') ∈ bindings

section

variable {eligible : κ → Bool} {free : κ → σ → Bool} {bind : κ → σ → σ}

theorem Served.more {candidates : List κ} {bindings : List (κ × σ)} {slot slot' : σ}
    (h : Served eligible free bind candidates bindings slot slot')
    (later : List (κ × σ)) :
    Served eligible free bind candidates (bindings ++ later) slot slot' := by
  rcases h with h | ⟨candidate, hmem, helig, hfree, hslot, hbinding⟩
  · exact Or.inl h
  · exact Or.inr ⟨candidate, hmem, helig, hfree, hslot, List.mem_append_left _ hbinding⟩

end

/-- An element on the right of a `Forall₂` has its partner on the left. -/
theorem forall₂_mem_right {τ : Type*} {relation : σ → τ → Prop} {left : List σ}
    {right : List τ} (h : List.Forall₂ relation left right) {second : τ}
    (hmem : second ∈ right) : ∃ first ∈ left, relation first second := by
  induction h with
  | nil => simp at hmem
  | cons hhead _ ih =>
      rcases List.mem_cons.mp hmem with rfl | hmem
      · exact ⟨_, List.mem_cons_self, hhead⟩
      · rcases ih hmem with ⟨first, hfirst, hrel⟩
        exact ⟨first, List.mem_cons_of_mem _ hfirst, hrel⟩

/-- An element on the left of a `Forall₂` has its partner on the right. -/
theorem forall₂_mem_left {τ : Type*} {relation : σ → τ → Prop} {left : List σ}
    {right : List τ} (h : List.Forall₂ relation left right) {first : σ}
    (hmem : first ∈ left) : ∃ second ∈ right, relation first second :=
  forall₂_mem_right h.flip hmem

/-- Replacing one element on the right of a `Forall₂`. -/
theorem forall₂_replace {relation : σ → σ → Prop} {slots before after : List σ}
    {slot slot' : σ} (h : List.Forall₂ relation slots (before ++ slot :: after))
    (hstep : ∀ original, relation original slot → relation original slot') :
    List.Forall₂ relation slots (before ++ slot' :: after) := by
  induction before generalizing slots with
  | nil =>
      cases h with
      | cons hhead htail => exact List.Forall₂.cons (hstep _ hhead) htail
  | cons first before ih =>
      cases h with
      | cons hhead htail => exact List.Forall₂.cons hhead (ih htail)

section

variable [DecidableEq κ]
variable (eligible : κ → Bool) (free : κ → σ → Bool) (bind : κ → σ → σ)

/-- Serve the candidates in order.  Returns the bindings made, in order, with
the bound slot, and the slots at the end. -/
def firstFit : List κ → List κ → List σ → List (κ × σ) × List σ
  | [], _, slots => ([], slots)
  | candidate :: candidates, taken, slots =>
      if eligible candidate && !(candidate ∈ taken) then
        match bindFirst (free candidate) (bind candidate) slots with
        | none => ([], slots)
        | some (bound, slots') =>
            let rest := firstFit candidates (candidate :: taken) slots'
            ((candidate, bound) :: rest.1, rest.2)
      else firstFit candidates taken slots

/-- Without slots nothing is bound. -/
@[simp]
theorem firstFit_nil (candidates taken : List κ) :
    firstFit eligible free bind candidates taken [] = ([], []) := by
  induction candidates generalizing taken with
  | nil => rfl
  | cons candidate candidates ih => simp [firstFit, bindFirst, ih]

/-- The induction rule: a property of the bindings made, the taken candidates
and the slots that every single binding keeps holds at the end. -/
theorem firstFit_rule {motive : List (κ × σ) → List κ → List σ → Prop}
    (candidates taken : List κ) (bindings : List (κ × σ)) (slots : List σ)
    (hbind : ∀ candidate ∈ candidates, eligible candidate = true →
      ∀ bindings taken, candidate ∉ taken → ∀ before slot after,
        free candidate slot = true → motive bindings taken (before ++ slot :: after) →
          motive (bindings ++ [(candidate, bind candidate slot)]) (candidate :: taken)
            (before ++ bind candidate slot :: after))
    (hstart : motive bindings taken slots) :
    ∃ taken',
      motive (bindings ++ (firstFit eligible free bind candidates taken slots).1) taken'
        (firstFit eligible free bind candidates taken slots).2 := by
  induction candidates generalizing bindings taken slots with
  | nil => exact ⟨taken, by simpa [firstFit] using hstart⟩
  | cons candidate candidates ih =>
      have htail := fun other hother => hbind other (List.mem_cons_of_mem _ hother)
      unfold firstFit
      split
      · rename_i hcandidate
        simp only [Bool.and_eq_true, Bool.not_eq_true', decide_eq_false_iff_not] at hcandidate
        split
        · exact ⟨taken, by simpa using hstart⟩
        · rename_i bound slots' hbound
          rcases bindFirst_eq_some hbound with ⟨before, slot, after, rfl, hfree, rfl, rfl⟩
          have hnext := hbind candidate List.mem_cons_self hcandidate.1 bindings taken
            hcandidate.2 before slot after hfree hstart
          simpa using ih _ _ _ htail hnext
      · exact ih _ _ _ htail hstart

variable {eligible free bind}

section

variable (hbound : ∀ candidate other slot, free other (bind candidate slot) = false)
include hbound

/-- A pass keeps a slot or binds it to an eligible candidate and records that,
provided that a bound slot is not free. -/
theorem firstFit_forall₂ {candidates taken : List κ} {slots : List σ} :
    List.Forall₂
      (Served eligible free bind candidates
        (firstFit eligible free bind candidates taken slots).1)
      slots (firstFit eligible free bind candidates taken slots).2 := by
  have hrule := firstFit_rule eligible free bind
    (motive := fun bindings _ current =>
      List.Forall₂ (Served eligible free bind candidates bindings) slots current)
    candidates taken [] slots
    (by
      intro candidate hmem helig bindings _ _ before slot after hfree hall
      refine forall₂_replace (hall.imp fun _ _ h => h.more _) ?_
      intro original horiginal
      rcases horiginal with rfl | ⟨other, _, _, _, rfl, _⟩
      · exact Or.inr ⟨candidate, hmem, helig, hfree, rfl, by simp⟩
      · rw [hbound] at hfree
        contradiction)
    (List.forall₂_same.mpr fun slot _ => Or.inl rfl)
  simpa using hrule

/-- Every recorded binding is one of the slots at the end. -/
theorem mem_of_mem_bindings {candidates taken : List κ} {slots : List σ}
    {binding : κ × σ}
    (h : binding ∈ (firstFit eligible free bind candidates taken slots).1) :
    binding.1 ∈ candidates ∧ (∃ slot, binding.2 = bind binding.1 slot) ∧
      binding.2 ∈ (firstFit eligible free bind candidates taken slots).2 := by
  have hrule := firstFit_rule eligible free bind
    (motive := fun bindings _ current => ∀ binding ∈ bindings,
      binding.1 ∈ candidates ∧ (∃ slot, binding.2 = bind binding.1 slot) ∧
        binding.2 ∈ current)
    candidates taken [] slots
    (by
      intro candidate hmem _ bindings _ _ before slot after hfree hall other hother
      rcases List.mem_append.mp hother with hother | hother
      · rcases hall other hother with ⟨hcandidate, ⟨original, horiginal⟩, hcurrent⟩
        refine ⟨hcandidate, ⟨original, horiginal⟩, ?_⟩
        have hne : other.2 ≠ slot := by
          intro heq
          rw [← heq, horiginal, hbound] at hfree
          contradiction
        simp only [List.mem_append, List.mem_cons, hne, false_or] at hcurrent
        simp only [List.mem_append, List.mem_cons]
        tauto
      · rw [List.mem_singleton.mp hother]
        exact ⟨hmem, ⟨slot, rfl⟩, by simp⟩)
    (by simp)
  simp only [List.nil_append, exists_const_iff] at hrule
  exact hrule.2 binding h

end

/-- Distinct holders stay distinct. -/
theorem firstFit_holders_nodup {holder : σ → Option κ} {candidates taken : List κ}
    {slots : List σ} (hholder : ∀ candidate slot, holder (bind candidate slot) = some candidate)
    (hfree : ∀ candidate slot, free candidate slot = true → holder slot = none)
    (hnodup : (slots.filterMap holder).Nodup)
    (htaken : ∀ slot ∈ slots, ∀ other ∈ holder slot, other ∈ taken) :
    ((firstFit eligible free bind candidates taken slots).2.filterMap holder).Nodup := by
  have hrule := firstFit_rule eligible free bind
    (motive := fun _ taken current =>
      (current.filterMap holder).Nodup ∧
        ∀ other ∈ current.filterMap holder, other ∈ taken)
    candidates taken [] slots
    (by
      intro candidate _ _ _ taken hfresh before slot after hslot hinv
      have hnone := hfree candidate slot hslot
      simp only [List.filterMap_append, List.filterMap_cons, hnone, hholder] at hinv ⊢
      rcases hinv with ⟨hdistinct, hsub⟩
      have hnotin : candidate ∉ before.filterMap holder ++ after.filterMap holder :=
        fun hmem => hfresh (hsub _ hmem)
      refine ⟨?_, ?_⟩
      · rw [List.nodup_middle]
        exact List.nodup_cons.mpr ⟨hnotin, hdistinct⟩
      · intro other hother
        simp only [List.mem_append, List.mem_cons] at hother hsub ⊢
        rcases hother with hother | rfl | hother
        · exact Or.inr (hsub other (Or.inl hother))
        · exact Or.inl rfl
        · exact Or.inr (hsub other (Or.inr hother)))
    ⟨hnodup, by
      intro other hother
      rcases List.mem_filterMap.mp hother with ⟨slot, hslot, hother⟩
      exact htaken slot hslot other hother⟩
  rcases hrule with ⟨_, hdistinct, _⟩
  exact hdistinct

/-- With a fixed notion of freedom, every eligible candidate is served or
already held a slot, unless no slot is free at the end. -/
theorem firstFit_maximal {free : σ → Bool} {candidates taken : List κ} {slots : List σ}
    {candidate : κ} (hmem : candidate ∈ candidates) (helig : eligible candidate = true)
    (hfresh : candidate ∉ taken) :
    (∃ slot, (candidate, slot) ∈
        (firstFit eligible (fun _ => free) bind candidates taken slots).1) ∨
      ∀ slot ∈ (firstFit eligible (fun _ => free) bind candidates taken slots).2,
        free slot = false := by
  induction candidates generalizing taken slots with
  | nil => simp at hmem
  | cons first candidates ih =>
      unfold firstFit
      split
      · split
        · rename_i hnone
          exact Or.inr (bindFirst_eq_none_iff.mp hnone)
        · rename_i bound slots' hbound
          by_cases hfirst : candidate = first
          · subst hfirst
            exact Or.inl ⟨bound, List.mem_cons_self⟩
          · have htail := (List.mem_cons.mp hmem).resolve_left hfirst
            have hfresh' : candidate ∉ first :: taken := by simp [hfirst, hfresh]
            rcases ih htail hfresh' with ⟨slot, hslot⟩ | hnone
            · exact Or.inl ⟨slot, List.mem_cons_of_mem _ hslot⟩
            · exact Or.inr hnone
      · rename_i hskip
        have hfirst : candidate ≠ first := by
          rintro rfl
          simp [helig, hfresh] at hskip
        exact ih ((List.mem_cons.mp hmem).resolve_left hfirst) hfresh

end

end Library
end Driscord
