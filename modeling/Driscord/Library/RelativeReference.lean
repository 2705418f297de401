import Mathlib.Data.List.Basic
import Mathlib.Data.List.DropRight
import Mathlib.Tactic

/-!
# Dot segments of a path

A path is the list of its segments.  Of two distinguished segments one stays
where it is and the other one climbs to the parent.  Resolving a reference
against a directory walks its segments from there (RFC 3986, section 5.2.4); its
own normal form is a number of climbs followed by names.

Main results:

- Theorem `walk_eq_relative`: a walk climbs from the directory and descends the
  names of the normal form.
- Theorem `strictlyBeneath_resolve_iff`: a reference stays beneath a directory
  exactly if it names again what it climbed out of, and goes on.
-/

namespace Driscord
namespace Library

section

variable {α : Type} [DecidableEq α] (dot dotDot : α)

/-- One segment of a walk. -/
def walkStep (path : List α) (segment : α) : List α :=
  if segment = dot then path
  else if segment = dotDot then path.dropLast
  else path ++ [segment]

/-- The names that a walk along `segments` ends with. -/
def walk (directory segments : List α) : List α :=
  segments.foldl (walkStep dot dotDot) directory

/-- The normal form of a relative path: the climbs, and the names behind them. -/
def relativeStep (form : ℕ × List α) (segment : α) : ℕ × List α :=
  if segment = dot then form
  else if segment = dotDot then
    if form.2 = [] then (form.1 + 1, []) else (form.1, form.2.dropLast)
  else (form.1, form.2 ++ [segment])

/-- The normal form of a relative path. -/
def relative (segments : List α) : ℕ × List α :=
  segments.foldl (relativeStep dot dotDot) (0, [])

@[simp]
theorem walk_nil (directory : List α) : walk dot dotDot directory [] = directory :=
  rfl

theorem walk_append (directory segments more : List α) :
    walk dot dotDot directory (segments ++ more) =
      walk dot dotDot (walk dot dotDot directory segments) more :=
  List.foldl_append

/-- One segment moves a directory as it moves the normal form. -/
theorem walkStep_relativeStep (directory : List α) (form : ℕ × List α) (segment : α) :
    walkStep dot dotDot (directory.take (directory.length - form.1) ++ form.2) segment =
      directory.take (directory.length - (relativeStep dot dotDot form segment).1) ++
        (relativeStep dot dotDot form segment).2 := by
  unfold walkStep relativeStep
  by_cases hdot : segment = dot
  · rw [if_pos hdot, if_pos hdot]
  · rw [if_neg hdot, if_neg hdot]
    by_cases hdotDot : segment = dotDot
    · rw [if_pos hdotDot, if_pos hdotDot]
      by_cases hnames : form.2 = []
      · have hclimb : min (directory.length - form.1) directory.length - 1 =
            directory.length - (form.1 + 1) := by omega
        have hfits : min (directory.length - (form.1 + 1)) (directory.length - form.1) =
            directory.length - (form.1 + 1) := by omega
        rw [if_pos hnames, hnames, List.append_nil, List.append_nil, List.dropLast_eq_take,
          List.length_take, hclimb, List.take_take, hfits]
      · rw [if_neg hnames, List.dropLast_append_of_ne_nil hnames]
    · rw [if_neg hdotDot, if_neg hdotDot, List.append_assoc]

/-- A walk climbs from the directory and descends the names of the normal form. -/
theorem walk_eq_relative (directory segments : List α) :
    walk dot dotDot directory segments =
      directory.take (directory.length - (relative dot dotDot segments).1) ++
        (relative dot dotDot segments).2 := by
  have hstart : ∀ form : ℕ × List α,
      segments.foldl (walkStep dot dotDot)
          (directory.take (directory.length - form.1) ++ form.2) =
        directory.take
            (directory.length - (segments.foldl (relativeStep dot dotDot) form).1) ++
          (segments.foldl (relativeStep dot dotDot) form).2 := by
    induction segments with
    | nil => exact fun _ => rfl
    | cons segment segments ih =>
        intro form
        rw [List.foldl_cons, List.foldl_cons, walkStep_relativeStep]
        exact ih _
  simpa [walk, relative] using hstart (0, [])

variable (empty : α)

/-- The empty last segment of a path that ends with a dot segment. -/
def closing (segments : List α) : List α :=
  if segments.getLast? = some dot ∨ segments.getLast? = some dotDot then [empty] else []

/-- The dot segments of an absolute path removed. -/
def removeDotSegments (path : List α) : List α :=
  walk dot dotDot [] path ++ closing dot dotDot empty path

/-- The path names something in the directory, and not the directory itself. -/
def StrictlyBeneath (directory path : List α) : Prop :=
  ∃ rest, path = directory ++ rest ∧ rest ≠ [] ∧ rest ≠ [empty]

/-- A reference stays beneath a directory exactly if it names again what it
climbed out of, and goes on. -/
theorem strictlyBeneath_resolve_iff (directory : List α) {segments : List α}
    (hsegments : segments ≠ []) :
    StrictlyBeneath empty (walk dot dotDot [] directory)
        (removeDotSegments dot dotDot empty (directory ++ segments)) ↔
      StrictlyBeneath empty
        ((walk dot dotDot [] directory).drop
          ((walk dot dotDot [] directory).length - (relative dot dotDot segments).1))
        ((relative dot dotDot segments).2 ++ closing dot dotDot empty segments) := by
  have hlast : closing dot dotDot empty (directory ++ segments) =
      closing dot dotDot empty segments := by
    rw [closing, closing, List.getLast?_append_of_ne_nil directory hsegments]
  rw [removeDotSegments, hlast, walk_append, walk_eq_relative dot dotDot _ segments]
  generalize walk dot dotDot [] directory = base
  generalize closing dot dotDot empty segments = close
  generalize relative dot dotDot segments = form
  have hbase : base = base.take (base.length - form.1) ++ base.drop (base.length - form.1) :=
    (List.take_append_drop _ base).symm
  constructor
  · rintro ⟨rest, hpath, hrest⟩
    refine ⟨rest, ?_, hrest⟩
    rw [List.append_assoc] at hpath
    nth_rewrite 3 [hbase] at hpath
    rw [List.append_assoc] at hpath
    exact List.append_cancel_left hpath
  · rintro ⟨rest, hpath, hrest⟩
    refine ⟨rest, ?_, hrest⟩
    nth_rewrite 3 [hbase]
    rw [List.append_assoc, hpath, List.append_assoc]

end

end Library
end Driscord
