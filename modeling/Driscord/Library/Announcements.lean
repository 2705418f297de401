import Driscord.Library.Table

/-!
# Announcements of a changing assignment

A board assigns a holder, or none, to each of its labels.  Changes are
announced label by label, and a reader folds the announcements in order.  This
module states when a batch of announcements keeps the reader in agreement with
the board.

Main results:

- Theorem `Agrees.report`: a truthful and complete batch keeps the agreement.
- Theorem `lookup_foldl_follow`: a reader that keeps a table of the held labels
  holds exactly what it was last told.
-/

namespace Driscord
namespace Library

variable {μ κ : Type*} [DecidableEq μ]

/-- What a reader believes after one more announcement. -/
def tell (told : μ → Option κ) (notice : μ × Option κ) : μ → Option κ :=
  Function.update told notice.1 notice.2

/-- The last announcement for a label is the one that counts. -/
theorem foldl_tell (told : μ → Option κ) (notices : List (μ × Option κ)) (label : μ) :
    (∃ notice ∈ notices, notice.1 = label ∧ notices.foldl tell told label = notice.2) ∨
      ((∀ notice ∈ notices, notice.1 ≠ label) ∧
        notices.foldl tell told label = told label) := by
  induction notices generalizing told with
  | nil => exact Or.inr ⟨by simp, rfl⟩
  | cons notice notices ih =>
      rw [List.foldl_cons]
      rcases ih (tell told notice) with ⟨later, hmem, hlabel, htold⟩ | ⟨hother, htold⟩
      · exact Or.inl ⟨later, List.mem_cons_of_mem _ hmem, hlabel, htold⟩
      · by_cases hlabel : notice.1 = label
        · subst hlabel
          exact Or.inl ⟨notice, List.mem_cons_self, rfl, by rw [htold]; simp [tell]⟩
        · refine Or.inr ⟨?_, ?_⟩
          · simpa [hlabel] using hother
          · rw [htold]
            simp [tell, Function.update_of_ne (Ne.symm hlabel)]

/-- The reader's belief is the board, and nothing is held outside the board. -/
structure Agrees (told : μ → Option κ) (board : List (μ × Option κ)) : Prop where
  held : ∀ entry ∈ board, told entry.1 = entry.2
  silent : ∀ label, label ∉ board.map Prod.fst → told label = none

/-- A batch of announcements for a change of the board: labels stay, every
announcement is true afterwards, and every entry is old, announced, or a new
label without holder. -/
structure Reported (before after notices : List (μ × Option κ)) : Prop where
  labels : (before.map Prod.fst).Sublist (after.map Prod.fst)
  truthful : ∀ notice ∈ notices, notice ∈ after
  complete : ∀ entry ∈ after, entry ∈ before ∨ entry ∈ notices ∨
    (entry.1 ∉ before.map Prod.fst ∧ entry.2 = none)

omit [DecidableEq μ] in
/-- On a board with distinct labels an entry is determined by its label. -/
theorem entry_eq_of_label {board : List (μ × Option κ)} (hnodup : (board.map Prod.fst).Nodup)
    {entry other : μ × Option κ} (hentry : entry ∈ board) (hother : other ∈ board)
    (hlabel : entry.1 = other.1) : entry = other :=
  List.inj_on_of_nodup_map hnodup hentry hother hlabel

theorem Agrees.report {told : μ → Option κ} {before after notices : List (μ × Option κ)}
    (h : Agrees told before) (hreport : Reported before after notices)
    (hnodup : (after.map Prod.fst).Nodup) : Agrees (notices.foldl tell told) after where
  held entry hentry := by
    rcases foldl_tell told notices entry.1 with ⟨notice, hmem, hlabel, htold⟩ | ⟨hother, htold⟩
    · rw [htold, entry_eq_of_label hnodup (hreport.truthful notice hmem) hentry hlabel]
    · rw [htold]
      rcases hreport.complete entry hentry with hbefore | hnotice | ⟨hnew, hnone⟩
      · exact h.held entry hbefore
      · exact absurd rfl (hother entry hnotice)
      · rw [hnone]
        exact h.silent entry.1 hnew
  silent label hlabel := by
    rcases foldl_tell told notices label with ⟨notice, hmem, rfl, _⟩ | ⟨_, htold⟩
    · exact absurd (List.mem_map_of_mem (hreport.truthful notice hmem)) hlabel
    · rw [htold]
      exact h.silent label fun hmem => hlabel (hreport.labels.subset hmem)

omit [DecidableEq μ] in
theorem Reported.nodup {before after notices : List (μ × Option κ)}
    (hreport : Reported before after notices) (hnodup : (after.map Prod.fst).Nodup) :
    (before.map Prod.fst).Nodup :=
  hnodup.sublist hreport.labels

omit [DecidableEq μ] in
/-- A reader in agreement believes exactly the held entries of the board. -/
theorem Agrees.eq_some_iff {told : μ → Option κ} {board : List (μ × Option κ)}
    (h : Agrees told board) {label : μ} {holder : κ} :
    told label = some holder ↔ (label, some holder) ∈ board := by
  constructor
  · intro htold
    have hmem : label ∈ board.map Prod.fst := by
      by_contra hout
      rw [h.silent label hout] at htold
      contradiction
    rcases List.mem_map.mp hmem with ⟨entry, hentry, rfl⟩
    rw [← htold, h.held entry hentry]
    exact hentry
  · intro hentry
    exact h.held _ hentry

/-! ## A reader with a table -/

/-- A reader that stores the held labels only. -/
def follow (table : Table μ κ) (notice : μ × Option κ) : Table μ κ :=
  match notice.2 with
  | some holder => table.insert notice.1 holder
  | none => table.erase notice.1

theorem lookup_follow (table : Table μ κ) (notice : μ × Option κ) :
    (follow table notice).lookup = tell (fun label => table.lookup label) notice := by
  funext label
  unfold follow tell
  by_cases hlabel : label = notice.1
  · subst hlabel
    split <;> simp_all
  · rw [Function.update_of_ne hlabel]
    split
    · exact AList.lookup_insert_ne hlabel
    · exact AList.lookup_erase_ne hlabel

theorem lookup_foldl_follow (table : Table μ κ) (notices : List (μ × Option κ)) (label : μ) :
    (notices.foldl follow table).lookup label =
      notices.foldl tell (fun label => table.lookup label) label := by
  induction notices generalizing table with
  | nil => rfl
  | cons notice notices ih => rw [List.foldl_cons, List.foldl_cons, ih, ← lookup_follow]

end Library
end Driscord
