import Mathlib.Data.List.Chain
import Mathlib.Tactic

/-!
# 16-bit serial number arithmetic

Sequence numbers wrap modulo `2 ^ 16` and are ordered by the sign of their
signed 16-bit difference.  This module relates that comparison to the unsigned
distance and fixes the notion of consecutive numbers.

Main results:

- Theorem `serialDistance_neg_iff`: a number is behind a reference exactly
  when the unsigned distance reaches half of the number space.
- Theorem `Consecutive.map_add`: consecutive numbers stay consecutive
  under a constant offset.
- Theorem `newest_append_of_ahead`: the newest number after one that is ahead
  of everything so far is found behind it.
- Theorem `newest_isNewest`: inside a half range no number is ahead of the
  newest one.
-/

namespace Driscord
namespace Library

/-- Signed distance from `reference` to `value`. -/
def serialDistance (value reference : UInt16) : Int16 :=
  (value - reference).toInt16

/-- The signed reading of a 16-bit word is negative from the half range on. -/
theorem toInt16_neg_iff (word : UInt16) : word.toInt16 < 0 ↔ 2 ^ 15 ≤ word.toNat := by
  have hlt := word.toNat_lt
  have hint : word.toInt16.toInt = BitVec.toInt word.toBitVec := rfl
  rw [Int16.lt_iff_toInt_lt, hint, BitVec.toInt]
  simp only [UInt16.toNat_toBitVec]
  split <;> simp <;> omega

theorem serialDistance_neg_iff (value reference : UInt16) :
    serialDistance value reference < 0 ↔ 2 ^ 15 ≤ (value - reference).toNat :=
  toInt16_neg_iff (value - reference)

/-- The number `k` places after an anchor is behind it exactly from the
half range on, for `k` up to one turn of the number space. -/
theorem serialDistance_add_neg_iff (anchor : UInt16) {k : Nat} (hk : k < 2 ^ 16) :
    serialDistance (anchor + UInt16.ofNat k) anchor < 0 ↔ 2 ^ 15 ≤ k := by
  have hcancel : anchor + UInt16.ofNat k - anchor = UInt16.ofNat k := by grind
  rw [serialDistance_neg_iff, hcancel, UInt16.toNat_ofNat_of_lt' hk]

/-- Each number is the previous one plus one, modulo `2 ^ 16`. -/
def Consecutive (numbers : List UInt16) : Prop :=
  numbers.IsChain fun previous next => next = previous + 1

@[simp]
theorem consecutive_nil : Consecutive [] :=
  List.isChain_nil

@[simp]
theorem consecutive_singleton (number : UInt16) : Consecutive [number] :=
  List.isChain_singleton number

@[simp]
theorem consecutive_cons_cons (first second : UInt16) (rest : List UInt16) :
    Consecutive (first :: second :: rest) ↔
      second = first + 1 ∧ Consecutive (second :: rest) :=
  List.isChain_cons_cons

theorem Consecutive.tail {first : UInt16} {rest : List UInt16}
    (h : Consecutive (first :: rest)) : Consecutive rest :=
  List.IsChain.tail h

/-- A constant offset keeps numbers consecutive. -/
theorem Consecutive.map_add {numbers : List UInt16} (h : Consecutive numbers)
    (offset : UInt16) : Consecutive (numbers.map (· + offset)) := by
  refine List.isChain_map_of_isChain (· + offset) ?_ h
  intro previous next hnext
  rw [hnext]
  grind

/-! ## The newest number -/

/-- `value` is serially ahead of `reference`. -/
def Ahead (value reference : UInt16) : Prop :=
  0 < serialDistance value reference

instance (value reference : UInt16) : Decidable (Ahead value reference) :=
  inferInstanceAs (Decidable (0 < serialDistance value reference))

theorem ahead_iff (value reference : UInt16) :
    Ahead value reference ↔
      0 < (value - reference).toNat ∧ (value - reference).toNat < 2 ^ 15 := by
  have hlt := (value - reference).toNat_lt
  have hint : (serialDistance value reference).toInt =
      BitVec.toInt (value - reference).toBitVec := rfl
  rw [Ahead, Int16.lt_iff_toInt_lt, hint, BitVec.toInt]
  simp only [UInt16.toNat_toBitVec]
  split <;> simp <;> omega

/-- A common offset does not change the distance. -/
theorem serialDistance_add_add (value reference offset : UInt16) :
    serialDistance (value + offset) (reference + offset) =
      serialDistance value reference := by
  have hcancel : value + offset - (reference + offset) = value - reference := by grind
  rw [serialDistance, serialDistance, hcancel]

/-- The successor of a number is ahead of it. -/
theorem ahead_succ (number : UInt16) : Ahead (number + 1) number := by
  have hone : number + 1 - number = 1 := by grind
  rw [ahead_iff, hone]
  decide

section

variable {α : Type} (number : α → UInt16)

/-- One step of the search for the newest number. -/
def newer (current : Option α) (item : α) : Option α :=
  match current with
  | none => some item
  | some old => if Ahead (number item) (number old) then some item else some old

/-- The newest item of a list: an item replaces it if its number is ahead. -/
def newest (items : List α) : Option α :=
  items.foldl (newer number) none

@[simp]
theorem newest_nil : newest number [] = none :=
  rfl

theorem newest_append_singleton (items : List α) (item : α) :
    newest number (items ++ [item]) = newer number (newest number items) item := by
  rw [newest, List.foldl_append]
  rfl

theorem foldl_newer_isSome (items : List α) (start : α) :
    ∃ item ∈ start :: items, items.foldl (newer number) (some start) = some item := by
  induction items generalizing start with
  | nil => exact ⟨start, List.mem_cons_self, rfl⟩
  | cons next items ih =>
      rw [List.foldl_cons]
      by_cases hahead : Ahead (number next) (number start)
      · obtain ⟨item, hmem, hitem⟩ := ih next
        refine ⟨item, List.mem_cons_of_mem _ hmem, ?_⟩
        rw [newer, if_pos hahead, hitem]
      · obtain ⟨item, hmem, hitem⟩ := ih start
        refine ⟨item, ?_, ?_⟩
        · rcases List.mem_cons.mp hmem with rfl | hmem
          · exact List.mem_cons_self
          · exact List.mem_cons_of_mem _ (List.mem_cons_of_mem _ hmem)
        · rw [newer, if_neg hahead, hitem]

theorem newest_cons (start : α) (items : List α) :
    newest number (start :: items) = items.foldl (newer number) (some start) :=
  rfl

theorem newest_mem {items : List α} {item : α} (h : newest number items = some item) :
    item ∈ items := by
  cases items with
  | nil => contradiction
  | cons start items =>
      obtain ⟨found, hmem, hfound⟩ := foldl_newer_isSome number items start
      rw [newest_cons, hfound] at h
      obtain rfl := Option.some.inj h
      exact hmem

theorem newest_eq_none_iff (items : List α) : newest number items = none ↔ items = [] := by
  cases items with
  | nil => simp
  | cons start items =>
      obtain ⟨found, -, hfound⟩ := foldl_newer_isSome number items start
      simp [newest_cons, hfound]

/-- Behind an item that is ahead of everything so far, only the later ones count. -/
theorem newest_append_of_ahead {items later : List α} {item : α}
    (hahead : ∀ old ∈ newest number items, Ahead (number item) (number old)) :
    newest number (items ++ item :: later) = newest number (item :: later) := by
  rw [newest, List.foldl_append, List.foldl_cons, newest_cons]
  cases hnewest : newest number items with
  | none =>
      rw [newest] at hnewest
      rw [hnewest]
      rfl
  | some old =>
      have hreplaced := hahead old hnewest
      rw [newest] at hnewest
      rw [hnewest, newer, if_pos hreplaced]

/-- Numbers inside the half range behind an anchor are ordered by their place. -/
theorem ahead_iff_of_window (anchor : UInt16) {value reference : UInt16}
    (hvalue : (value - anchor).toNat < 2 ^ 15)
    (hreference : (reference - anchor).toNat < 2 ^ 15) :
    Ahead value reference ↔ (reference - anchor).toNat < (value - anchor).toNat := by
  have hdiff : value - reference = value - anchor - (reference - anchor) := by grind
  rw [ahead_iff, hdiff]
  generalize value - anchor = left at hvalue ⊢
  generalize reference - anchor = right at hreference ⊢
  rw [UInt16.toNat_sub]
  omega

/-- Inside a half range no number is ahead of the newest one. -/
theorem newest_isNewest {items : List α} {item : α} {anchor : UInt16}
    (hwindow : ∀ other ∈ items, (number other - anchor).toNat < 2 ^ 15)
    (h : newest number items = some item) :
    ∀ other ∈ items, ¬ Ahead (number other) (number item) := by
  induction items using List.reverseRecOn generalizing item with
  | nil => simp
  | append_singleton items last ih =>
      have hitems : ∀ other ∈ items, (number other - anchor).toNat < 2 ^ 15 :=
        fun other hmem => hwindow other (List.mem_append_left _ hmem)
      have hlast := hwindow last (by simp)
      rw [newest_append_singleton] at h
      intro other hmem
      cases hnewest : newest number items with
      | none =>
          rw [(newest_eq_none_iff number items).mp hnewest] at hmem
          rw [hnewest] at h
          obtain rfl := Option.some.inj h
          obtain rfl : other = last := by simpa using hmem
          rw [ahead_iff_of_window anchor hlast hlast]
          exact lt_irrefl _
      | some old =>
          have hold := hitems old (newest_mem number hnewest)
          have hothers := ih hitems hnewest
          rw [hnewest] at h
          by_cases hahead : Ahead (number last) (number old)
          · rw [newer, if_pos hahead] at h
            obtain rfl := Option.some.inj h
            rcases List.mem_append.mp hmem with hmem | hmem
            · have hbehind := hothers other hmem
              rw [ahead_iff_of_window anchor (hitems other hmem) hold] at hbehind
              rw [ahead_iff_of_window anchor hlast hold] at hahead
              rw [ahead_iff_of_window anchor (hitems other hmem) hlast]
              omega
            · obtain rfl : other = last := by simpa using hmem
              rw [ahead_iff_of_window anchor hlast hlast]
              exact lt_irrefl _
          · rw [newer, if_neg hahead] at h
            obtain rfl := Option.some.inj h
            rcases List.mem_append.mp hmem with hmem | hmem
            · exact hothers other hmem
            · obtain rfl : other = last := by simpa using hmem
              exact hahead

end

end Library
end Driscord
