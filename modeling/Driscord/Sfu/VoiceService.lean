import Driscord.Sfu.VoiceNotices

/-!
# Service of the voice router

After the assignment pass every live publisher has exactly one slot of every
subscriber, or all live slots of that subscriber are taken by other publishers.
A binding is never changed by the pass, also when its slot or its publisher has
died since.

Main results:

- Theorem `keeps_bindings`: the pass changes no existing binding.
- Theorem `served_assignAvailableLocked`: what the pass establishes.
- Theorem `serviceLaws`: it holds after every operation.
-/

namespace Driscord
namespace Sfu

open Library

namespace VoiceRouter

open Voice

/-- For every subscriber and every other peer with a live input: exactly one
slot of the subscriber is bound to the peer, or every live slot of the
subscriber is bound to some other publisher. -/
def ServedAt (expired : TrackId → Bool) (router : VoiceRouter) : Prop :=
  ∀ subscriber publisher, subscriber ∈ router.peers → publisher ≠ subscriber →
    trackExpired expired (router.inputOf publisher) = false →
      (router.outputsOf subscriber).countP (fun output => output.publisher = some publisher) = 1 ∨
        ∀ output ∈ router.outputsOf subscriber, trackExpired expired output.track = false →
          ∃ other, other ≠ publisher ∧ output.publisher = some other

/-- The pass leaves a bound slot as it is. -/
theorem keeps_bindings (router : VoiceRouter) (expired : Expiry) (subscriber : PeerId) :
    List.Forall₂ (fun output output' => output.publisher ≠ none → output' = output)
      (router.outputsOf subscriber)
      ((router.assignAvailableLocked expired).1.outputsOf subscriber) := by
  rw [outputsOf_assignAvailableLocked]
  refine (served_assignSubscriber router expired subscriber _).imp ?_
  rintro output output' (rfl | ⟨_, _, _, havailable, _, _⟩) hbound
  · rfl
  · simp only [OutputSlot.available, Bool.and_eq_true, Option.isNone_iff_eq_none] at havailable
    exact absurd havailable.1 hbound

/-- A publisher that is bound before the pass is bound after it. -/
theorem publishersOf_subset_assign (router : VoiceRouter) (expired : Expiry)
    (subscriber : PeerId) :
    router.publishersOf subscriber ⊆
      (router.assignAvailableLocked expired).1.publishersOf subscriber := by
  intro publisher hpublisher
  rcases mem_publishersOf.mp hpublisher with ⟨output, houtput, hbound⟩
  rcases forall₂_mem_left (keeps_bindings router expired subscriber) houtput with
    ⟨output', houtput', hkept⟩
  have hsame := hkept (by rw [hbound]; exact Option.some_ne_none _)
  subst hsame
  exact mem_publishersOf.mpr ⟨_, houtput', hbound⟩

/-- Among distinct publishers a bound one has exactly one slot. -/
theorem countP_eq_one {outputs : List OutputSlot} {publisher : PeerId}
    (hdistinct : (outputs.filterMap OutputSlot.publisher).Nodup)
    (hmem : publisher ∈ outputs.filterMap OutputSlot.publisher) :
    outputs.countP (fun output => output.publisher = some publisher) = 1 := by
  have hcount := List.count_eq_one_of_mem hdistinct hmem
  rw [List.count_filterMap] at hcount
  rw [← hcount]
  refine List.countP_congr fun output _ => ?_
  simp

theorem served_assignAvailableLocked {router : VoiceRouter} (h : router.Inv)
    (expired : TrackId → Bool) :
    ServedAt expired (router.assignAvailableLocked fun _ _ => expired).1 := by
  intro subscriber publisher _ hne hlive
  have hinv := (progress_assignAvailableLocked router fun _ _ => expired).inv h
  by_cases hbound : publisher ∈
      (router.assignAvailableLocked fun _ _ => expired).1.publishersOf subscriber
  · exact Or.inl (countP_eq_one (hinv.distinct subscriber) hbound)
  · refine Or.inr ?_
    rw [inputOf_assignAvailableLocked] at hlive
    have hcandidate : publisher ∈ router.orderedPeersLocked := by
      rw [mem_orderedPeersLocked]
      refine mem_of_inputOf fun hnone => ?_
      rw [hnone] at hlive
      simp [trackExpired, lockTrack] at hlive
    have helig : router.assignable (fun _ _ => expired) subscriber publisher = true :=
      assignable_iff.mpr ⟨hne, hlive⟩
    have hfresh : publisher ∉ router.publishersOf subscriber := fun hold =>
      hbound (publishersOf_subset_assign router _ subscriber hold)
    intro output houtput htrack
    rw [outputsOf_assignAvailableLocked] at houtput
    have hmaximal : (∃ slot, (publisher, slot) ∈ (router.assignSubscriber (fun _ _ => expired)
          subscriber (router.outputsOf subscriber)).1) ∨
        ∀ slot ∈ (router.assignSubscriber (fun _ _ => expired) subscriber
          (router.outputsOf subscriber)).2, slot.available expired = false :=
      firstFit_maximal hcandidate helig hfresh
    rcases hmaximal with ⟨slot, hslot⟩ | hnone
    · -- The publisher was served, against the assumption.
      rcases mem_of_mem_bindings (fun _ _ _ => available_bindTo _ _ _) hslot with
        ⟨_, ⟨original, horiginal⟩, hmem⟩
      refine absurd (mem_publishersOf.mpr ⟨slot, ?_, ?_⟩) hbound
      · rw [outputsOf_assignAvailableLocked]
        exact hmem
      · rw [show slot = OutputSlot.bindTo publisher original from horiginal]
        rfl
    · have hfull := hnone output houtput
      simp only [OutputSlot.available, htrack, Bool.not_false, Bool.and_true] at hfull
      cases hpublisher : output.publisher with
      | none => simp [hpublisher] at hfull
      | some other =>
          refine ⟨other, ?_, rfl⟩
          rintro rfl
          refine hbound (mem_publishersOf.mpr ⟨output, ?_, hpublisher⟩)
          rw [outputsOf_assignAvailableLocked]
          exact houtput

/-! ## Runs -/

theorem ServedAt.mono {expired expired' : TrackId → Bool} {router : VoiceRouter}
    (hmono : ∀ id, expired id = true → expired' id = true) (h : ServedAt expired router) :
    ServedAt expired' router := by
  intro subscriber publisher hmem hne hlive
  refine (h subscriber publisher hmem hne (trackExpired_mono hmono hlive)).imp_right ?_
  intro hall output houtput htrack
  exact hall output houtput (trackExpired_mono hmono htrack)

theorem countP_seat (outputs : List OutputSlot) (publisher : PeerId) :
    outputs.countP (fun output => output.publisher = some publisher) =
      (outputs.map OutputSlot.seat).countP fun seat => seat.2 = some publisher := by
  rw [List.countP_map]
  rfl

/-- Sections that leave inputs and seats alone keep the service. -/
theorem ServedAt.undisturbed {expired : TrackId → Bool} {router router' : VoiceRouter}
    (h : ServedAt expired router) (hsame : Undisturbed router router') :
    ServedAt expired router' := by
  intro subscriber publisher hmem hne hlive
  rw [hsame.input] at hlive
  refine (h subscriber publisher ((hsame.mem subscriber).mp hmem) hne hlive).imp ?_ ?_
  · intro hone
    rw [countP_seat, hsame.seats, ← countP_seat]
    exact hone
  · intro hall output houtput htrack
    have hseat : output.seat ∈ (router.outputsOf subscriber).map OutputSlot.seat := by
      rw [← hsame.seats]
      exact List.mem_map_of_mem houtput
    rcases List.mem_map.mp hseat with ⟨old, hold, heq⟩
    rcases Prod.mk.inj heq with ⟨htracks, hpublishers⟩
    rw [← htracks] at htrack
    rw [← hpublishers]
    exact hall old hold htrack

theorem served_thenAssign {first : VoiceRouter × List BindingNotice} (h : first.1.Inv)
    (expired : TrackId → Bool) : ServedAt expired (thenAssign (fun _ _ => expired) first).1 :=
  served_assignAvailableLocked h expired

theorem served_operate {router : VoiceRouter} (h : router.Inv) {expired : TrackId → Bool}
    (hserved : ServedAt expired router) (operation : Operation) :
    ServedAt expired (router.operate (fun _ _ => expired) operation).1 := by
  cases operation with
  | registerTrack owner track ssrc =>
      rw [operate]
      rcases registerTrack_cases router (fun _ _ => expired) owner track ssrc with
        heq | ⟨input, heq⟩ | ⟨output, heq⟩
      · rw [heq]
        exact hserved
      · rw [heq]
        exact served_thenAssign ((progress_storeInput router owner input).inv h) expired
      · rw [heq]
        exact served_thenAssign ((progress_storeOutput router owner output ssrc).inv h) expired
  | removePeer peerId =>
      simp only [operate, removePeer]
      split
      · exact hserved
      · exact served_thenAssign ((progress_dropPeer router peerId).inv h) expired

theorem ServedAt.of_no_peers {expired : TrackId → Bool} {router : VoiceRouter}
    (h : ∀ peerId, peerId ∉ router.peers) : ServedAt expired router :=
  fun subscriber _ hmem => absurd hmem (h subscriber)

theorem served_interrupt {router : VoiceRouter} {expired : TrackId → Bool}
    (hserved : ServedAt expired router) (call : Interrupt) :
    ServedAt expired (router.interrupt call) := by
  cases call with
  | close =>
      simp only [interrupt, close]
      split
      · exact hserved
      · exact ServedAt.of_no_peers fun _ => AList.notMem_empty _
  | updateFaultConfig faultConfig =>
      exact hserved.undisturbed (undisturbed_updateFaultConfig router faultConfig)

section

variable (isRtcp : Bytes → Bool) (gaussian : ℚ → ℚ → ℚ)

theorem serviceLaws : (model isRtcp gaussian).ServiceLaws Inv (fun _ _ => True) ServedAt where
  toStateLaws := stateLaws isRtcp gaussian
  served_initial := by
    rintro expired _ ⟨faultConfig, executor, rfl⟩
    exact ServedAt.of_no_peers fun _ => AList.notMem_empty _
  served_mono _ _ _ hmono hserved := hserved.mono hmono
  operate_served _ operation _ h hserved _ := served_operate h hserved operation
  operate_ready _ _ _ rest := rest.elim
  resume_served _ rest := rest.elim
  interrupt_keeps _ call _ _ := ⟨fun hserved => served_interrupt hserved call, fun _ _ => trivial⟩
  route_keeps expired _ arrival router _ :=
    ⟨fun hserved => hserved.undisturbed
      (undisturbed_route isRtcp gaussian router expired arrival), fun _ _ => trivial⟩
  flush_keeps _ now router _ :=
    ⟨fun hserved => hserved.undisturbed (undisturbed_flushDelayed router now),
      fun _ _ => trivial⟩
  forward_keeps expired _ item router _ :=
    ⟨fun hserved => hserved.undisturbed (undisturbed_forwardDelayed router expired item),
      fun _ _ => trivial⟩
  sendTurn_keeps expired _ isOpen send _ h :=
    ⟨fun hserved => hserved.undisturbed (undisturbed_sendTurn isRtcp h expired isOpen send),
      fun _ _ => trivial⟩

end

end VoiceRouter

end Sfu
end Driscord
