import Mathlib.Tactic

/-!
# A place for one item

A buffer passes its items on in order, except that it may hold one item back and pass it
on right behind the next one.

Main results:

- Theorem `HoldsBack.perm`: nothing is lost and nothing is passed on twice.
- Theorem `HoldsBack.displaced`: an item leaves at most one place from where it came.
-/

namespace Driscord
namespace Library

open scoped List

variable {α : Type*}

/-- The items that came, the items passed on, and the item held back. -/
inductive HoldsBack : List α → List α → Option α → Prop where
  | start : HoldsBack [] [] none
  | pass {items passed : List α} (h : HoldsBack items passed none) (item : α) :
      HoldsBack (items ++ [item]) (passed ++ [item]) none
  | hold {items passed : List α} (h : HoldsBack items passed none) (item : α) :
      HoldsBack (items ++ [item]) passed (some item)
  | release {items passed : List α} {held : α} (h : HoldsBack items passed (some held))
      (item : α) : HoldsBack (items ++ [item]) (passed ++ [item, held]) none

/-- The item is at the place, right behind it or right before it. -/
def Near (items : List α) (place : Nat) (item : α) : Prop :=
  items[place]? = some item ∨ items[place + 1]? = some item ∨
    ∃ earlier, place = earlier + 1 ∧ items[earlier]? = some item

namespace HoldsBack

variable {items passed : List α} {held : Option α}

/-- Every item has been passed on once or is held back. -/
theorem perm (h : HoldsBack items passed held) : (passed ++ held.toList).Perm items := by
  induction h with
  | start => simp
  | pass _ item ih =>
      rw [Option.toList_none, List.append_nil] at ih ⊢
      exact ih.append_right [item]
  | hold _ item ih =>
      rw [Option.toList_none, List.append_nil] at ih
      exact ih.append_right [item]
  | release _ item ih =>
      rw [Option.toList_none, List.append_nil]
      rename_i passed held _
      calc
        passed ++ [item, held] ~ passed ++ [held, item] :=
          (List.Perm.swap held item []).append_left passed
        _ ~ _ := by simpa using ih.append_right [item]

/-- What was passed on is as long as what came, up to the item held back. -/
theorem length_eq (h : HoldsBack items passed held) :
    items.length = passed.length + held.toList.length := by
  rw [← h.perm.length_eq, List.length_append]

/-- While none is held back, all that came was passed on. -/
theorem length_eq_of_none (h : HoldsBack items passed none) : items.length = passed.length := by
  rw [h.length_eq, Option.toList_none, List.length_nil, add_zero]

/-- The item held back is the latest that came. -/
theorem held_eq {last : α} (h : HoldsBack items passed (some last)) :
    items[passed.length]? = some last := by
  cases h with
  | hold h item => rw [← h.length_eq_of_none, List.getElem?_concat_length]

theorem near_append {more : List α} {place : Nat} {item : α} (h : Near items place item) :
    Near (items ++ more) place item := by
  have hkept : ∀ {index : Nat}, items[index]? = some item →
      (items ++ more)[index]? = some item := by
    intro index hindex
    rw [List.getElem?_append_left (List.getElem?_eq_some_iff.mp hindex).1, hindex]
  rcases h with hsame | hlater | ⟨earlier, hplace, hearlier⟩
  · exact Or.inl (hkept hsame)
  · exact Or.inr (Or.inl (hkept hlater))
  · exact Or.inr (Or.inr ⟨earlier, hplace, hkept hearlier⟩)

/-- An item leaves at most one place from where it came. -/
theorem displaced (h : HoldsBack items passed held) {place : Nat} {item : α}
    (hitem : passed[place]? = some item) : Near items place item := by
  induction h generalizing place with
  | start => simp at hitem
  | pass h next ih =>
      rename_i items passed
      rcases lt_or_ge place passed.length with hlt | hge
      · rw [List.getElem?_append_left hlt] at hitem
        exact near_append (ih hitem)
      · have hplace := (List.getElem?_eq_some_iff.mp hitem).1
        rw [List.length_append, List.length_singleton] at hplace
        obtain rfl : place = passed.length := by omega
        refine Or.inl ?_
        rw [List.getElem?_concat_length] at hitem
        rw [← h.length_eq_of_none, List.getElem?_concat_length, hitem]
  | hold h next ih => exact near_append (ih hitem)
  | release h next ih =>
      rename_i items passed held
      have hheld := h.held_eq
      have hlength := h.length_eq
      rw [Option.toList_some, List.length_singleton] at hlength
      rcases lt_or_ge place passed.length with hlt | hge
      · rw [List.getElem?_append_left hlt] at hitem
        exact near_append (ih hitem)
      · have hplace := (List.getElem?_eq_some_iff.mp hitem).1
        rw [List.length_append, List.length_cons, List.length_singleton] at hplace
        rcases Nat.eq_or_lt_of_le hge with rfl | hlt
        · -- The item in hand leaves one place before its own.
          refine Or.inr (Or.inl ?_)
          rw [← hlength, List.getElem?_concat_length]
          simpa using hitem
        · obtain rfl : place = passed.length + 1 := by omega
          have hsame : held = item := by simpa using hitem
          subst hsame
          refine Or.inr (Or.inr ⟨passed.length, rfl, ?_⟩)
          rw [List.getElem?_append_left (by omega), hheld]

end HoldsBack

end Library
end Driscord
