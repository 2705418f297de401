import Mathlib.Algebra.Order.Group.Multiset
import Mathlib.Data.Multiset.Filter

/-!
# A slot that the last caller wins

Filling a slot takes two sections of its lock with work in between: the first empties
the slot and begins a generation, the second puts the new value in if its generation is
still the current one.  Emptying it for good begins a generation as well.  A caller
between its sections has promised a value for its generation.

What is bound, and what is promised for the current generation, is what the last caller
wished for, whatever the order of the second sections.

Main results:

- Theorem `Follows.fill`, `Follows.withdraw`, `Follows.offer`: every section keeps to
  the last wish.
- Theorem `Follows.binding_eq_none`: a promise for the current generation finds the
  slot empty.
- Theorem `Follows.settled`: once no promise is left, the last wish is bound.
-/

namespace Driscord
namespace Library

/-- The number of the last caller, and the value. -/
structure LatestSlot (β : Type*) where
  generation : Nat := 0
  binding : Option β := none
deriving DecidableEq

namespace LatestSlot

variable {κ β : Type*}

/-- Empty the slot and begin a generation. -/
def withdraw (slot : LatestSlot β) : LatestSlot β where
  generation := slot.generation + 1
  binding := none

/-- The second section of a caller puts its value in. -/
def Accepts (slot : LatestSlot β) (generation : Nat) : Prop :=
  slot.generation = generation ∧ slot.binding = none

instance (slot : LatestSlot β) (generation : Nat) : Decidable (slot.Accepts generation) :=
  inferInstanceAs (Decidable (_ ∧ _))

/-- The second section of a caller. -/
def offer (slot : LatestSlot β) (generation : Nat) (value : β) : LatestSlot β :=
  if slot.Accepts generation then { slot with binding := some value } else slot

@[simp]
theorem generation_withdraw (slot : LatestSlot β) :
    slot.withdraw.generation = slot.generation + 1 := rfl

@[simp]
theorem binding_withdraw (slot : LatestSlot β) : slot.withdraw.binding = none := rfl

@[simp]
theorem generation_offer (slot : LatestSlot β) (generation : Nat) (value : β) :
    (slot.offer generation value).generation = slot.generation := by
  unfold offer
  split <;> rfl

/-- What is promised for the current generation. -/
def owed (slot : LatestSlot β) (promises : Multiset (Nat × κ)) : Multiset κ :=
  (promises.filter fun promise => promise.1 = slot.generation).map Prod.snd

@[simp]
theorem owed_zero (slot : LatestSlot β) : slot.owed (0 : Multiset (Nat × κ)) = 0 := rfl

theorem owed_congr {slot next : LatestSlot β} (h : next.generation = slot.generation)
    (promises : Multiset (Nat × κ)) : next.owed promises = slot.owed promises := by
  rw [owed, h, owed]

theorem owed_cons (slot : LatestSlot β) (generation : Nat) (wished : κ)
    (promises : Multiset (Nat × κ)) :
    slot.owed ((generation, wished) ::ₘ promises) =
      if generation = slot.generation then wished ::ₘ slot.owed promises
      else slot.owed promises := by
  rw [owed, owed, Multiset.filter_cons]
  by_cases hcurrent : generation = slot.generation
  · rw [if_pos hcurrent, if_pos hcurrent, Multiset.singleton_add, Multiset.map_cons]
  · rw [if_neg hcurrent, if_neg hcurrent, zero_add]

/-- The value of an option as a multiset. -/
def one (value : Option κ) : Multiset κ :=
  value.toList

@[simp]
theorem one_none : one (none : Option κ) = 0 := rfl

@[simp]
theorem one_some (value : κ) : one (some value) = {value} := rfl

theorem one_injective {first second : Option κ} (h : one first = one second) :
    first = second := by
  cases first with
  | none =>
      cases second with
      | none => rfl
      | some value => simp at h
  | some value =>
      cases second with
      | none => simp at h
      | some other =>
          rw [one_some, one_some, Multiset.singleton_inj] at h
          rw [h]

/-- An option has one value at most. -/
theorem eq_of_cons_add {value : Option κ} {head : κ} {rest : Multiset κ}
    (h : head ::ₘ rest = one value) : value = some head ∧ rest = 0 := by
  cases value with
  | none => simp at h
  | some other =>
      rw [one_some] at h
      have hcard := congrArg Multiset.card h
      have hrest : rest = 0 := by
        rw [← Multiset.card_eq_zero]
        simpa using hcard
      rw [hrest, Multiset.cons_zero, Multiset.singleton_inj] at h
      exact ⟨by rw [h], hrest⟩

/-! ## The last wish -/

/-- The slot keeps to the last wish: that is what is bound or owed.  A value is known by
its key. -/
structure Follows (key : β → κ) (slot : LatestSlot β) (wish : Option κ)
    (promises : Multiset (Nat × κ)) : Prop where
  bounded : ∀ promise ∈ promises, promise.1 ≤ slot.generation
  current : one (slot.binding.map key) + slot.owed promises = one wish

section

variable {key : β → κ} {slot : LatestSlot β} {wish : Option κ} {promises : Multiset (Nat × κ)}

theorem Follows.empty (key : β → κ) : Follows key {} none 0 where
  bounded := by simp
  current := by simp

/-- Nothing is owed for a new generation. -/
theorem Follows.owed_withdraw (h : Follows key slot wish promises) :
    slot.withdraw.owed promises = 0 := by
  rw [owed, Multiset.map_eq_zero, Multiset.filter_eq_nil]
  intro promise hmem hnext
  have hle := h.bounded promise hmem
  rw [hnext, generation_withdraw] at hle
  omega

/-- The slot is emptied. -/
theorem Follows.withdraw (h : Follows key slot wish promises) :
    Follows key slot.withdraw none promises where
  bounded promise hmem := (h.bounded promise hmem).trans (Nat.le_succ _)
  current := by rw [h.owed_withdraw, binding_withdraw, Option.map_none, one_none, add_zero]

/-- The first section of a caller who fills the slot. -/
theorem Follows.fill (h : Follows key slot wish promises) (wished : κ) :
    Follows key slot.withdraw (some wished) ((slot.withdraw.generation, wished) ::ₘ promises) where
  bounded promise hmem := by
    rcases Multiset.mem_cons.mp hmem with rfl | hmem
    · exact le_rfl
    · exact h.withdraw.bounded promise hmem
  current := by
    rw [owed_cons, if_pos rfl, h.owed_withdraw, binding_withdraw, Option.map_none, one_none,
      zero_add, one_some, Multiset.cons_zero]

/-- What is bound is what was wished for. -/
theorem Follows.wish_eq (h : Follows key slot wish promises) {value : β}
    (hbound : slot.binding = some value) : wish = some (key value) := by
  have hcurrent := h.current
  rw [hbound, Option.map_some, one_some, Multiset.singleton_add] at hcurrent
  exact (eq_of_cons_add hcurrent).1

/-- A promise for the current generation finds the slot empty. -/
theorem Follows.binding_eq_none {wished : κ}
    (h : Follows key slot wish ((slot.generation, wished) ::ₘ promises)) :
    slot.binding = none := by
  have hcurrent := h.current
  rw [owed_cons, if_pos rfl, Multiset.add_cons] at hcurrent
  have hrest := (eq_of_cons_add hcurrent).2
  cases hbinding : slot.binding with
  | none => rfl
  | some value =>
      rw [hbinding, Option.map_some, one_some, Multiset.singleton_add] at hrest
      simp at hrest

/-- The second section of a caller. -/
theorem Follows.offer {generation : Nat} {value : β}
    (h : Follows key slot wish ((generation, key value) ::ₘ promises)) :
    Follows key (slot.offer generation value) wish promises where
  bounded promise hmem := by
    rw [generation_offer]
    exact h.bounded promise (Multiset.mem_cons_of_mem hmem)
  current := by
    have hcurrent := h.current
    rw [owed_congr (generation_offer slot generation value)]
    by_cases hsame : slot.generation = generation
    · subst hsame
      have hempty := h.binding_eq_none
      rw [owed_cons, if_pos rfl, hempty, Option.map_none, one_none, zero_add] at hcurrent
      rw [LatestSlot.offer, if_pos ⟨rfl, hempty⟩, Option.map_some, one_some,
        Multiset.singleton_add]
      exact hcurrent
    · have hrefused : ¬ slot.Accepts generation := fun haccepts => hsame haccepts.1
      rw [owed_cons, if_neg (Ne.symm hsame)] at hcurrent
      rw [LatestSlot.offer, if_neg hrefused]
      exact hcurrent

/-- Once no promise is left, the last wish is bound. -/
theorem Follows.settled (h : Follows key slot wish 0) : slot.binding.map key = wish := by
  apply one_injective
  rw [← h.current, owed_zero, add_zero]

end

end LatestSlot

end Library
end Driscord
