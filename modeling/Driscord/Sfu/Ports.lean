import Driscord.Library.FirstFit
import Driscord.Sfu.RouterLaws

/-!
# Ports

A port is one rewriter of an output slot together with what decides who may
send through it: its mid, the number of source changes, the generation recorded
in the slot and the publisher the slot is bound to.  A voice slot has one port
and a screen pair up to two.  Everything about leases and notices is a matter
of ports and shared by the two routers.

Main results:

- Theorem `PortsOk.evolve`, theorem `PortsOk.place` and theorem
  `PortsOk.shrink`: what the routers do to ports keeps rewriters unshared and
  the recorded generations current.
- Theorem `advance_evolve`, theorem `advance_place` and theorem
  `advance_shrink`: it also advances the ledger of the slots.
- Theorem `inFlight_of_current`: a target collected from a bound port is in
  flight.
-/

namespace Driscord
namespace Sfu

open Library

/-- One rewriter of an output slot, seen from outside. -/
structure Port where
  mid : Bytes
  id : Nat
  generation : Nat
  recorded : Nat
  holder : Option PeerId
deriving DecidableEq, Repr

namespace Port

/-- The entry of the port on its subscriber's board. -/
def entry (port : Port) : Bytes × Option PeerId :=
  (port.mid, port.holder)

/-- A port keeps its mid and its rewriter.  It is unchanged, or its source has
changed and a holder finds the new generation recorded. -/
structure Step (port port' : Port) : Prop where
  mid : port'.mid = port.mid
  id : port'.id = port.id
  change : port' = port ∨
    port.generation < port'.generation ∧
      (port'.holder ≠ none → port'.recorded = port'.generation)

theorem Step.refl (port : Port) : Step port port :=
  ⟨rfl, rfl, Or.inl rfl⟩

end Port

/-- The ports of every subscriber. -/
abbrev Ports := PeerId → List Port

/-- The ports as leased resources.  `next` names the next rewriter. -/
def Ports.ledger (ports : Ports) (next : Nat) : Ledger Nat PeerId where
  created id := id < next
  live id epoch holder :=
    ∃ subscriber, ∃ port ∈ ports subscriber,
      port.id = id ∧ port.generation = epoch ∧ port.holder = holder

/-- No rewriter is shared, none is new, and a bound port records the current
generation. -/
structure PortsOk (ports : Ports) (next : Nat) : Prop where
  nodup : ∀ subscriber, ((ports subscriber).map Port.id).Nodup
  disjoint : ∀ subscriber other, subscriber ≠ other →
    ∀ port ∈ ports subscriber, ∀ port' ∈ ports other, port.id ≠ port'.id
  created : ∀ subscriber, ∀ port ∈ ports subscriber, port.id < next
  recorded : ∀ subscriber, ∀ port ∈ ports subscriber, port.holder ≠ none →
    port.recorded = port.generation

/-- A rewriter belongs to one port. -/
theorem PortsOk.unique {ports : Ports} {next : Nat} (h : PortsOk ports next)
    {subscriber other : PeerId} {port port' : Port} (hport : port ∈ ports subscriber)
    (hport' : port' ∈ ports other) (hid : port.id = port'.id) :
    subscriber = other ∧ port = port' := by
  by_cases hsame : subscriber = other
  · subst hsame
    exact ⟨rfl, List.inj_on_of_nodup_map (h.nodup subscriber) hport hport' hid⟩
  · exact absurd hid (h.disjoint subscriber other hsame port hport port' hport')

/-- Ports whose rewriters come from the ports before, one subscriber possibly
having a new one, are unshared again. -/
theorem PortsOk.of_ids {ports ports' : Ports} {next next' : Nat}
    (h : PortsOk ports next) (owner : PeerId) (hnext : next ≤ next')
    (hnodup : ∀ subscriber, ((ports' subscriber).map Port.id).Nodup)
    (hids : ∀ subscriber, ∀ port' ∈ ports' subscriber,
      (∃ port ∈ ports subscriber, port.id = port'.id) ∨
        subscriber = owner ∧ port'.id = next ∧ next < next')
    (hrecorded : ∀ subscriber, ∀ port' ∈ ports' subscriber, port'.holder ≠ none →
      port'.recorded = port'.generation) : PortsOk ports' next' where
  nodup := hnodup
  disjoint subscriber other hne port hport port' hport' := by
    rcases hids subscriber port hport with ⟨old, hold, hid⟩ | ⟨rfl, hid, _⟩
    · rcases hids other port' hport' with ⟨old', hold', hid'⟩ | ⟨rfl, hid', _⟩
      · rw [← hid, ← hid']
        exact h.disjoint subscriber other hne old hold old' hold'
      · have := h.created subscriber old hold
        omega
    · rcases hids other port' hport' with ⟨old', hold', hid'⟩ | ⟨rfl, hid', _⟩
      · have := h.created other old' hold'
        omega
      · exact absurd rfl hne
  created subscriber port' hport' := by
    rcases hids subscriber port' hport' with ⟨port, hport, hid⟩ | ⟨_, hid, hlt⟩
    · have := h.created subscriber port hport
      omega
    · omega
  recorded := hrecorded

/-! ## Evolving ports -/

/-- Every subscriber's ports took a step. -/
def Ports.Evolve (ports ports' : Ports) : Prop :=
  ∀ subscriber, List.Forall₂ Port.Step (ports subscriber) (ports' subscriber)

theorem Ports.Evolve.refl (ports : Ports) : ports.Evolve ports :=
  fun _ => List.forall₂_same.mpr fun port _ => Port.Step.refl port

theorem map_id_eq_of_steps {before after : List Port}
    (h : List.Forall₂ Port.Step before after) : after.map Port.id = before.map Port.id := by
  induction h with
  | nil => rfl
  | cons hstep _ ih => rw [List.map_cons, List.map_cons, ih, hstep.id]

theorem map_mid_eq_of_steps {before after : List Port}
    (h : List.Forall₂ Port.Step before after) : after.map Port.mid = before.map Port.mid := by
  induction h with
  | nil => rfl
  | cons hstep _ ih => rw [List.map_cons, List.map_cons, ih, hstep.mid]

section

variable {ports ports' : Ports} {next : Nat}

theorem PortsOk.evolve (h : PortsOk ports next) (hstep : ports.Evolve ports') :
    PortsOk ports' next := by
  refine h.of_ids ⟨[]⟩ le_rfl ?_ ?_ ?_
  · intro subscriber
    rw [map_id_eq_of_steps (hstep subscriber)]
    exact h.nodup subscriber
  · intro subscriber port' hport'
    rcases forall₂_mem_right (hstep subscriber) hport' with ⟨port, hport, hone⟩
    exact Or.inl ⟨port, hport, hone.id.symm⟩
  · intro subscriber port' hport' hholder
    rcases forall₂_mem_right (hstep subscriber) hport' with ⟨port, hport, hone⟩
    rcases hone.change with rfl | ⟨_, hcurrent⟩
    · exact h.recorded subscriber _ hport hholder
    · exact hcurrent hholder

theorem advance_evolve (hstep : ports.Evolve ports') :
    Ledger.Advance (ports.ledger next) (ports'.ledger next) where
  created _ hcreated := hcreated
  live := by
    rintro _ _ _ ⟨subscriber, port', hport', rfl, rfl, rfl⟩ _
    rcases forall₂_mem_right (hstep subscriber) hport' with ⟨port, hport, hone⟩
    refine ⟨port.generation, port.holder, ⟨subscriber, port, hport, hone.id.symm, rfl, rfl⟩, ?_⟩
    rcases hone.change with rfl | ⟨hlt, _⟩
    · exact Or.inr ⟨rfl, rfl⟩
    · exact Or.inl hlt

/-! ## Dropping ports -/

/-- Every subscriber has some of its ports left. -/
def Ports.Shrink (ports ports' : Ports) : Prop :=
  ∀ subscriber, (ports' subscriber).Sublist (ports subscriber)

theorem PortsOk.shrink (h : PortsOk ports next) (hsub : ports.Shrink ports') :
    PortsOk ports' next := by
  refine h.of_ids ⟨[]⟩ le_rfl ?_ ?_ ?_
  · intro subscriber
    exact (h.nodup subscriber).sublist ((hsub subscriber).map Port.id)
  · intro subscriber port' hport'
    exact Or.inl ⟨port', (hsub subscriber).subset hport', rfl⟩
  · intro subscriber port' hport' hholder
    exact h.recorded subscriber port' ((hsub subscriber).subset hport') hholder

theorem advance_shrink (hsub : ports.Shrink ports') :
    Ledger.Advance (ports.ledger next) (ports'.ledger next) where
  created _ hcreated := hcreated
  live := by
    rintro _ _ _ ⟨subscriber, port', hport', rfl, rfl, rfl⟩ _
    exact ⟨port'.generation, port'.holder,
      ⟨subscriber, port', (hsub subscriber).subset hport', rfl, rfl, rfl⟩, Or.inr ⟨rfl, rfl⟩⟩

/-! ## A new port -/

/-- The owner gets an unbound port with a new rewriter, possibly in the place of
one of its ports. -/
structure Ports.Place (ports ports' : Ports) (next : Nat) (owner : PeerId) : Prop where
  placed : ∃ first fresh second, ports' owner = first ++ fresh :: second ∧
    (first ++ second).Sublist (ports owner) ∧ fresh.id = next ∧ fresh.holder = none
  others : ∀ subscriber, subscriber ≠ owner → ports' subscriber = ports subscriber

/-- A port after a placement is old or the new one. -/
theorem Ports.Place.mem {owner : PeerId} (h : ports.Place ports' next owner)
    {subscriber : PeerId} {port' : Port} (hport' : port' ∈ ports' subscriber) :
    port' ∈ ports subscriber ∨
      subscriber = owner ∧ port'.id = next ∧ port'.holder = none := by
  by_cases hsame : subscriber = owner
  · subst hsame
    rcases h.placed with ⟨first, fresh, second, hports, hsub, hid, hholder⟩
    rw [hports] at hport'
    simp only [List.mem_append, List.mem_cons] at hport'
    rcases hport' with hmem | rfl | hmem
    · exact Or.inl (hsub.subset (List.mem_append_left _ hmem))
    · exact Or.inr ⟨rfl, hid, hholder⟩
    · exact Or.inl (hsub.subset (List.mem_append_right _ hmem))
  · rw [h.others subscriber hsame] at hport'
    exact Or.inl hport'

theorem PortsOk.place {owner : PeerId} (h : PortsOk ports next)
    (hplace : ports.Place ports' next owner) : PortsOk ports' (next + 1) := by
  refine h.of_ids owner (Nat.le_succ next) ?_ ?_ ?_
  · intro subscriber
    by_cases hsame : subscriber = owner
    · subst hsame
      rcases hplace.placed with ⟨first, fresh, second, hports, hsub, hid, _⟩
      have hnodup := (h.nodup subscriber).sublist (hsub.map Port.id)
      rw [List.map_append] at hnodup
      rw [hports, List.map_append, List.map_cons, List.nodup_middle, List.nodup_cons,
        ← List.map_append]
      refine ⟨?_, by rwa [List.map_append]⟩
      intro hmem
      rcases List.mem_map.mp hmem with ⟨port, hport, hport'⟩
      have := h.created subscriber port (hsub.subset hport)
      omega
    · rw [hplace.others subscriber hsame]
      exact h.nodup subscriber
  · intro subscriber port' hport'
    rcases hplace.mem hport' with hold | ⟨hsame, hid, _⟩
    · exact Or.inl ⟨port', hold, rfl⟩
    · exact Or.inr ⟨hsame, hid, Nat.lt_succ_self next⟩
  · intro subscriber port' hport' hholder
    rcases hplace.mem hport' with hold | ⟨_, _, hnone⟩
    · exact h.recorded subscriber port' hold hholder
    · exact absurd hnone hholder

theorem advance_place {owner : PeerId} (hplace : ports.Place ports' next owner) :
    Ledger.Advance (ports.ledger next) (ports'.ledger (next + 1)) where
  created _ hcreated := Nat.lt_succ_of_lt hcreated
  live := by
    rintro _ _ _ ⟨subscriber, port', hport', rfl, rfl, rfl⟩ hcreated
    rcases hplace.mem hport' with hold | ⟨_, hid, _⟩
    · exact ⟨port'.generation, port'.holder, ⟨subscriber, port', hold, rfl, rfl, rfl⟩,
        Or.inr ⟨rfl, rfl⟩⟩
    · have hlt : port'.id < next := hcreated
      omega

end

/-! ## Targets -/

/-- A target collected from a port that is bound to the packet's publisher. -/
theorem inFlight_of_current {ports : Ports} {next : Nat} (h : PortsOk ports next)
    {subscriber : PeerId} {port : Port} (hport : port ∈ ports subscriber) {send : Send}
    (hholder : port.holder = some send.publisher) (hid : send.target.rewriter = port.id)
    (hstamp : send.target.sourceGeneration = port.recorded)
    (hcollected : send.target.collectedAt = port.generation) :
    RouterModel.InFlight (ports.ledger next) send where
  stamp := by
    rw [hstamp, hcollected]
    exact h.recorded subscriber port hport (by simp [hholder])
  tracked := by
    refine Ticket.Tracked.issue ?_ ?_
    · rw [RouterModel.ticketOf, hid]
      exact h.created subscriber port hport
    · rintro _ _ ⟨other, port', hport', hsame, rfl, rfl⟩
      rw [RouterModel.ticketOf, hid] at hsame
      rcases h.unique hport hport' hsame.symm with ⟨rfl, rfl⟩
      exact ⟨hcollected.symm, hholder⟩

/-- A packet in flight whose stamp is current names the holder of the port, unless
the counter has gone round since. -/
theorem holder_of_inFlight {ports : Ports} {next : Nat} {send : Send}
    (h : RouterModel.InFlight (ports.ledger next) send) {subscriber : PeerId} {port : Port}
    (hport : port ∈ ports subscriber) (hid : port.id = send.target.rewriter)
    (hstamp : RtpSlotRewriter.SameGeneration send.target.sourceGeneration port.generation)
    (hfew : port.generation < send.target.collectedAt + 2 ^ 64) :
    port.holder = some send.publisher ∧ port.generation = send.target.collectedAt := by
  rw [h.stamp] at hstamp
  have hlive : (ports.ledger next).live (RouterModel.ticketOf send).resource port.generation
      port.holder := ⟨subscriber, port, hport, hid, rfl, rfl⟩
  rcases h.tracked.holder_eq hlive hstamp hfew with ⟨hepoch, hholder⟩
  exact ⟨hholder, hepoch⟩

/-! ## Boards -/

/-- The board of a subscriber. -/
def boardOf (ports : List Port) : List (Bytes × Option PeerId) :=
  ports.map Port.entry

@[simp]
theorem map_fst_boardOf (ports : List Port) : (boardOf ports).map Prod.fst = ports.map Port.mid := by
  simp [boardOf, Port.entry, Function.comp_def]

/-- Steps with truthful notices of all changed holders are reported. -/
theorem reported_of_steps {before after : List Port} {notices : List (Bytes × Option PeerId)}
    (hsteps : List.Forall₂ Port.Step before after)
    (htruthful : ∀ notice ∈ notices, notice ∈ boardOf after)
    (hcomplete : ∀ port' ∈ after, port'.entry ∈ boardOf before ∨ port'.entry ∈ notices) :
    Reported (boardOf before) (boardOf after) notices where
  labels := by
    rw [map_fst_boardOf, map_fst_boardOf, map_mid_eq_of_steps hsteps]
  truthful := htruthful
  complete entry hentry := by
    rcases List.mem_map.mp hentry with ⟨port', hport', rfl⟩
    rcases hcomplete port' hport' with hold | hnotice
    · exact Or.inl hold
    · exact Or.inr (Or.inl hnotice)

end Sfu
end Driscord
