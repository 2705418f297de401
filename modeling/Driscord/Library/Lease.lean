import Mathlib.Tactic

/-!
# Leases and fencing tickets

A resource has an epoch and possibly a holder.  Its holder changes only
together with its epoch, and the epoch never decreases.  A ticket names a
resource, the holder it was issued for and the epoch of that moment.  Comparing
epochs then suffices to fence off outdated tickets.

The state of a system is seen through two predicates: which resources were
ever created, and which epoch and holder a live resource has.  A resource may
disappear; resources created later are new ones.

Main results:

- Theorem `Ticket.Tracked.advance`: a tracked ticket stays tracked.
- Theorem `Ticket.Tracked.holder_eq`: a tracked ticket whose epoch is current
  names the current holder.
-/

namespace Driscord
namespace Library

/-- The view of a system as a set of leased resources. -/
structure Ledger (ρ η : Type*) where
  created : ρ → Prop
  live : ρ → Nat → Option η → Prop

/-- A ticket for a resource. -/
structure Ticket (ρ η : Type*) where
  resource : ρ
  holder : η
  epoch : Nat

variable {ρ η : Type*}

namespace Ledger

/-- One system step, seen on the leases: every live resource is new, or was
live before and either entered a later epoch or kept epoch and holder. -/
structure Advance (before after : Ledger ρ η) : Prop where
  created : ∀ resource, before.created resource → after.created resource
  live : ∀ resource epoch holder, after.live resource epoch holder →
    before.created resource → ∃ epoch' holder', before.live resource epoch' holder' ∧
      (epoch' < epoch ∨ epoch' = epoch ∧ holder' = holder)

theorem Advance.refl (ledger : Ledger ρ η) : Advance ledger ledger where
  created _ h := h
  live _ epoch holder h _ := ⟨epoch, holder, h, Or.inr ⟨rfl, rfl⟩⟩

theorem Advance.trans {first second third : Ledger ρ η} (h : Advance first second)
    (h' : Advance second third) : Advance first third where
  created resource hcreated := h'.created resource (h.created resource hcreated)
  live resource epoch holder hlive hcreated := by
    rcases h'.live resource epoch holder hlive (h.created resource hcreated) with
      ⟨epoch', holder', hlive', hstep'⟩
    rcases h.live resource epoch' holder' hlive' hcreated with
      ⟨epoch'', holder'', hlive'', hstep⟩
    refine ⟨epoch'', holder'', hlive'', ?_⟩
    rcases hstep with hlt | ⟨rfl, rfl⟩
    · rcases hstep' with hlt' | ⟨rfl, rfl⟩
      · exact Or.inl (hlt.trans hlt')
      · exact Or.inl hlt
    · exact hstep'

end Ledger

namespace Ticket

/-- A ticket a ledger has not fallen behind of: the epoch of its resource has
reached the ticket's, and an equal epoch means an unchanged holder. -/
structure Tracked (ledger : Ledger ρ η) (ticket : Ticket ρ η) : Prop where
  created : ledger.created ticket.resource
  live : ∀ epoch holder, ledger.live ticket.resource epoch holder →
    ticket.epoch ≤ epoch ∧ (epoch = ticket.epoch → holder = some ticket.holder)

theorem Tracked.advance {before after : Ledger ρ η} {ticket : Ticket ρ η}
    (h : Tracked before ticket) (hstep : Ledger.Advance before after) :
    Tracked after ticket where
  created := hstep.created _ h.created
  live epoch holder hlive := by
    rcases hstep.live _ epoch holder hlive h.created with
      ⟨epoch', holder', hlive', hlt | ⟨rfl, rfl⟩⟩
    · have hle := (h.live epoch' holder' hlive').1
      exact ⟨by omega, fun heq => by omega⟩
    · exact h.live epoch' holder' hlive'

/-- A ticket issued to the holder of a uniquely named resource is tracked. -/
theorem Tracked.issue {ledger : Ledger ρ η} {ticket : Ticket ρ η}
    (hcreated : ledger.created ticket.resource)
    (hunique : ∀ epoch holder, ledger.live ticket.resource epoch holder →
      epoch = ticket.epoch ∧ holder = some ticket.holder) :
    Tracked ledger ticket where
  created := hcreated
  live epoch holder hlive := by
    rcases hunique epoch holder hlive with ⟨rfl, rfl⟩
    exact ⟨le_rfl, fun _ => rfl⟩

/-- A tracked ticket whose epoch is the current one modulo a counter size, and
whose resource advanced by less than that size, names the current holder, and
its resource has not advanced at all. -/
theorem Tracked.holder_eq {ledger : Ledger ρ η} {ticket : Ticket ρ η} {modulus epoch : Nat}
    {holder : Option η} (h : Tracked ledger ticket)
    (hlive : ledger.live ticket.resource epoch holder)
    (hmod : ticket.epoch % modulus = epoch % modulus)
    (hfew : epoch < ticket.epoch + modulus) :
    epoch = ticket.epoch ∧ holder = some ticket.holder := by
  rcases h.live epoch holder hlive with ⟨hle, hholder⟩
  have hepoch : epoch = ticket.epoch := by
    rcases Nat.exists_eq_add_of_le hle with ⟨gap, rfl⟩
    have hgap : gap % modulus = 0 := by
      have hcongr : ticket.epoch + 0 ≡ ticket.epoch + gap [MOD modulus] := by
        simpa [Nat.ModEq] using hmod
      simpa [Nat.ModEq] using (Nat.ModEq.add_left_cancel' _ hcongr).symm
    rw [Nat.mod_eq_of_lt (by omega)] at hgap
    omega
  exact ⟨hepoch, hholder hepoch⟩

end Ticket

end Library
end Driscord
