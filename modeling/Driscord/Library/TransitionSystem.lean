import Mathlib.Logic.Relation
import Mathlib.Tactic

/-!
# Transition systems

A transition system is a predicate for its initial states and a step relation.
This module fixes reachability and the rule by which every safety result of
the development is proved.

Main results:

- Theorem `Reachable.invariant`: a property that holds initially and is kept by
  every step from a reachable state holds in every reachable state.
- Theorem `Reachable.mono`: fewer steps reach fewer states.
- Theorem `Reachable.execute`: what a list of actions leads to is reachable.
-/

namespace Driscord
namespace Library

variable {σ : Type*}

/-- `state` is reached from an initial state by finitely many steps. -/
def Reachable (initial : σ → Prop) (step : σ → σ → Prop) (state : σ) : Prop :=
  ∃ start, initial start ∧ Relation.ReflTransGen step start state

section

variable {initial : σ → Prop} {step : σ → σ → Prop} {state next : σ}

theorem Reachable.start (h : initial state) : Reachable initial step state :=
  ⟨state, h, Relation.ReflTransGen.refl⟩

theorem Reachable.snoc (h : Reachable initial step state) (hstep : step state next) :
    Reachable initial step next := by
  rcases h with ⟨start, hstart, hrun⟩
  exact ⟨start, hstart, hrun.tail hstep⟩

/-- An inductive invariant holds in every reachable state.  The step case may
use that the state before the step is reachable. -/
theorem Reachable.invariant {motive : σ → Prop}
    (hinitial : ∀ state, initial state → motive state)
    (hstep : ∀ state next, Reachable initial step state → motive state →
      step state next → motive next)
    (h : Reachable initial step state) : motive state := by
  rcases h with ⟨start, hstart, hrun⟩
  induction hrun with
  | refl => exact hinitial start hstart
  | tail hrun hlast ih => exact hstep _ _ ⟨start, hstart, hrun⟩ ih hlast

/-- Reachability is monotone in the step relation. -/
theorem Reachable.mono {step' : σ → σ → Prop}
    (hsub : ∀ state next, step state next → step' state next)
    (h : Reachable initial step state) : Reachable initial step' state := by
  rcases h with ⟨start, hstart, hrun⟩
  exact ⟨start, hstart, Relation.ReflTransGen.mono hsub _ _ hrun⟩

end

/-! ## Executable steps -/

section

variable {α : Type*} (allowed : σ → α → Prop) [∀ state action, Decidable (allowed state action)]
variable (act : σ → α → Option σ)

/-- Do the actions in order, as long as each is allowed and possible. -/
def execute (state : σ) : List α → Option σ
  | [] => some state
  | action :: rest =>
      if allowed state action then (act state action).bind fun next => execute next rest
      else none

variable {allowed act} {initial : σ → Prop} {step : σ → σ → Prop}

theorem Reachable.execute (hact : ∀ state action next, allowed state action →
      act state action = some next → step state next)
    {actions : List α} {state next : σ} (h : Reachable initial step state)
    (hrun : execute allowed act state actions = some next) : Reachable initial step next := by
  induction actions generalizing state with
  | nil =>
      rw [Library.execute, Option.some.injEq] at hrun
      rwa [← hrun]
  | cons action rest ih =>
      rw [Library.execute] at hrun
      split at hrun
      case isTrue hallowed =>
        rcases Option.bind_eq_some_iff.mp hrun with ⟨middle, hmiddle, hrest⟩
        exact ih (h.snoc (hact state action middle hallowed hmiddle)) hrest
      case isFalse => contradiction

theorem execute_eq_some_getD {actions : List α} {state default : σ}
    (h : (execute allowed act state actions).isSome = true) :
    execute allowed act state actions =
      some ((execute allowed act state actions).getD default) := by
  rcases Option.isSome_iff_exists.mp h with ⟨next, hnext⟩
  rw [hnext, Option.getD_some]

end

end Library
end Driscord
