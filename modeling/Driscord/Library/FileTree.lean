import Mathlib.Data.List.Basic
import Mathlib.Tactic

/-!
# Trees of files

A directory is a list of named trees; a slot is a place where a tree may be.
The functions here look up and replace the entries of a directory, and read a slot
at a path.

Main results:

- Theorem `lookup_place`: replacing an entry leaves the others.
- Theorem `hasFile_eq_true_iff`: a tree has a file if it has one at some path.
-/

namespace Driscord
namespace Library

/-- A file or a directory. -/
inductive FileTree (ν κ : Type) where
  | file (content : κ)
  | dir (entries : List (ν × FileTree ν κ))

/-- What is found at a path. -/
inductive FileNode (κ : Type) where
  | file (content : κ)
  | dir
deriving DecidableEq, Repr

namespace FileTree

variable {ν κ : Type}

/-- The names of a directory are different, at every level. -/
inductive WellFormed : FileTree ν κ → Prop
  | file (content : κ) : WellFormed (file content)
  | dir (entries : List (ν × FileTree ν κ)) (hnodup : (entries.map Prod.fst).Nodup)
      (hentries : ∀ entry ∈ entries, WellFormed entry.2) : WellFormed (dir entries)

mutual

/-- There is a file somewhere in the tree. -/
def hasFile : FileTree ν κ → Bool
  | file _ => true
  | dir entries => anyFile entries

/-- There is a file somewhere in the entries. -/
def anyFile : List (ν × FileTree ν κ) → Bool
  | [] => false
  | (_, tree) :: entries => hasFile tree || anyFile entries

end

/-- Put a tree into the slot of a name, or empty the slot. -/
def place [DecidableEq ν] (entries : List (ν × FileTree ν κ)) (name : ν) :
    Option (FileTree ν κ) → List (ν × FileTree ν κ)
  | none => entries.filter fun entry => entry.1 ≠ name
  | some tree =>
      if name ∈ entries.map Prod.fst then
        entries.map fun entry => if entry.1 = name then (name, tree) else entry
      else entries ++ [(name, tree)]

variable [BEq ν]

/-- What a slot holds at a path. -/
def nodeAt : Option (FileTree ν κ) → List ν → Option (FileNode κ)
  | none, _ => none
  | some (file content), [] => some (FileNode.file content)
  | some (file _), _ :: _ => none
  | some (dir _), [] => some FileNode.dir
  | some (dir entries), name :: path => nodeAt (entries.lookup name) path

/-- The file of a slot at a path. -/
def fileAt (slot : Option (FileTree ν κ)) (path : List ν) : Option κ :=
  match nodeAt slot path with
  | some (FileNode.file content) => some content
  | _ => none

/-! ## Paths -/

@[simp]
theorem nodeAt_none (path : List ν) : nodeAt (none : Option (FileTree ν κ)) path = none := by
  cases path <;> rfl

@[simp]
theorem fileAt_none (path : List ν) : fileAt (none : Option (FileTree ν κ)) path = none := by
  rw [fileAt, nodeAt_none]

@[simp]
theorem nodeAt_dir_cons (entries : List (ν × FileTree ν κ)) (name : ν) (path : List ν) :
    nodeAt (some (dir entries)) (name :: path) = nodeAt (entries.lookup name) path := rfl

@[simp]
theorem fileAt_dir_cons (entries : List (ν × FileTree ν κ)) (name : ν) (path : List ν) :
    fileAt (some (dir entries)) (name :: path) = fileAt (entries.lookup name) path := rfl

theorem fileAt_eq_some_iff {slot : Option (FileTree ν κ)} {path : List ν} {content : κ} :
    fileAt slot path = some content ↔ nodeAt slot path = some (FileNode.file content) := by
  unfold fileAt
  split
  · rename_i found hfound
    rw [hfound, Option.some.injEq, Option.some.injEq, FileNode.file.injEq]
  · rename_i hother
    constructor
    · intro h
      contradiction
    · intro h
      exact absurd h (hother content)

theorem fileAt_congr {slot slot' : Option (FileTree ν κ)} {path path' : List ν}
    (h : nodeAt slot path = nodeAt slot' path') : fileAt slot path = fileAt slot' path' := by
  rw [fileAt, fileAt, h]

/-- Two directories have the same files if their entries do. -/
theorem fileAt_dir_congr {entries entries' : List (ν × FileTree ν κ)}
    (h : ∀ name path, fileAt (entries.lookup name) path = fileAt (entries'.lookup name) path)
    (path : List ν) : fileAt (some (dir entries)) path = fileAt (some (dir entries')) path := by
  cases path with
  | nil => rfl
  | cons name path => exact h name path

/-! ## Entries -/

variable [DecidableEq ν] [LawfulBEq ν]

theorem lookup_cons (entry : ν × FileTree ν κ) (entries : List (ν × FileTree ν κ)) (name : ν) :
    (entry :: entries).lookup name =
      if name = entry.1 then some entry.2 else entries.lookup name := by
  obtain ⟨key, tree⟩ := entry
  by_cases hsame : name = key
  · subst hsame
    simp
  · have hne : (name == key) = false := by simpa using hsame
    simp [List.lookup_cons, hne, hsame]

theorem lookup_eq_none_iff {entries : List (ν × FileTree ν κ)} {name : ν} :
    entries.lookup name = none ↔ name ∉ entries.map Prod.fst := by
  induction entries with
  | nil => simp
  | cons entry entries ih =>
      rw [lookup_cons, List.map_cons, List.mem_cons, not_or, ← ih]
      by_cases hsame : name = entry.1
      · simp [hsame]
      · simp [hsame]

theorem mem_of_lookup {entries : List (ν × FileTree ν κ)} {name : ν} {tree : FileTree ν κ}
    (h : entries.lookup name = some tree) : (name, tree) ∈ entries := by
  induction entries with
  | nil => contradiction
  | cons entry entries ih =>
      rw [lookup_cons] at h
      split at h
      · rename_i hsame
        rw [Option.some.injEq] at h
        rw [hsame, ← h]
        exact List.mem_cons_self
      · exact List.mem_cons_of_mem _ (ih h)

theorem lookup_filter_ne (entries : List (ν × FileTree ν κ)) (name other : ν) :
    (entries.filter fun entry => entry.1 ≠ name).lookup other =
      if other = name then none else entries.lookup other := by
  induction entries with
  | nil => simp
  | cons entry entries ih =>
      by_cases hentry : entry.1 = name
      · rw [List.filter_cons_of_neg (by simpa using hentry), ih, lookup_cons]
        by_cases hother : other = name
        · rw [if_pos hother, if_pos hother]
        · rw [if_neg hother, if_neg hother, if_neg (by rwa [hentry])]
      · rw [List.filter_cons_of_pos (by simpa using hentry), lookup_cons, lookup_cons, ih]
        by_cases hother : other = entry.1
        · rw [if_pos hother, if_pos hother, if_neg (by rwa [hother])]
        · rw [if_neg hother, if_neg hother]

theorem lookup_replace (entries : List (ν × FileTree ν κ)) (name other : ν)
    (tree : FileTree ν κ) :
    (entries.map fun entry => if entry.1 = name then (name, tree) else entry).lookup other =
      if other = name ∧ name ∈ entries.map Prod.fst then some tree
      else entries.lookup other := by
  induction entries with
  | nil => simp
  | cons entry entries ih =>
      rw [List.map_cons, lookup_cons, ih, lookup_cons]
      by_cases hentry : entry.1 = name
      · by_cases hother : other = name
        · simp [hentry, hother]
        · simp [hentry, hother]
      · by_cases hother : other = name
        · have hne : ¬ name = entry.1 := Ne.symm hentry
          subst hother
          rw [if_neg hentry, if_neg hne, if_neg hne]
          refine if_congr ?_ rfl rfl
          rw [List.map_cons, List.mem_cons]
          exact and_congr_right fun _ => (or_iff_right hne).symm
        · simp [hentry, hother]

theorem lookup_append_single (entries : List (ν × FileTree ν κ)) (name other : ν)
    (tree : FileTree ν κ) (hnew : name ∉ entries.map Prod.fst) :
    (entries ++ [(name, tree)]).lookup other =
      if other = name then some tree else entries.lookup other := by
  induction entries with
  | nil => simp [lookup_cons]
  | cons entry entries ih =>
      rw [List.map_cons, List.mem_cons, not_or] at hnew
      rw [List.cons_append, lookup_cons, lookup_cons, ih hnew.2]
      by_cases hother : other = entry.1
      · rw [if_pos hother, if_pos hother, if_neg (by rw [hother]; exact Ne.symm hnew.1)]
      · rw [if_neg hother, if_neg hother]

/-- An entry is looked up where it was put, and the others are as before. -/
theorem lookup_place (entries : List (ν × FileTree ν κ)) (name other : ν)
    (slot : Option (FileTree ν κ)) :
    (place entries name slot).lookup other =
      if other = name then slot else entries.lookup other := by
  cases slot with
  | none => exact lookup_filter_ne entries name other
  | some tree =>
      rw [place]
      by_cases hmem : name ∈ entries.map Prod.fst
      · rw [if_pos hmem, lookup_replace]
        by_cases hother : other = name
        · rw [if_pos ⟨hother, hmem⟩, if_pos hother]
        · rw [if_neg (fun h => hother h.1), if_neg hother]
      · rw [if_neg hmem, lookup_append_single _ _ _ _ hmem]

theorem keys_place (entries : List (ν × FileTree ν κ)) (name : ν) (tree : FileTree ν κ) :
    (place entries name (some tree)).map Prod.fst =
      if name ∈ entries.map Prod.fst then entries.map Prod.fst
      else entries.map Prod.fst ++ [name] := by
  rw [place]
  split
  · rw [List.map_map]
    apply List.map_congr_left
    intro entry _
    by_cases hentry : entry.1 = name
    · simp [hentry]
    · simp [hentry]
  · simp

/-- Replacing an entry by a well-formed one keeps a directory well-formed. -/
theorem WellFormed.place {entries : List (ν × FileTree ν κ)}
    (h : WellFormed (FileTree.dir entries))
    (name : ν) {slot : Option (FileTree ν κ)} (hslot : ∀ tree ∈ slot, WellFormed tree) :
    WellFormed (FileTree.dir (FileTree.place entries name slot)) := by
  rcases h with _ | ⟨_, hnodup, hentries⟩
  cases slot with
  | none =>
      refine WellFormed.dir _ ?_ fun entry hmem => hentries entry (List.mem_of_mem_filter hmem)
      exact hnodup.sublist (List.filter_sublist.map Prod.fst)
  | some tree =>
      refine WellFormed.dir _ ?_ ?_
      · rw [keys_place]
        split
        · exact hnodup
        · rename_i hnew
          exact List.nodup_append_comm.mp (List.nodup_cons.mpr ⟨hnew, hnodup⟩)
      · intro entry hmem
        rw [FileTree.place] at hmem
        split at hmem
        · obtain ⟨old, hold, rfl⟩ := List.mem_map.mp hmem
          split
          · exact hslot tree rfl
          · exact hentries old hold
        · rcases List.mem_append.mp hmem with hold | hnew
          · exact hentries entry hold
          · rw [List.mem_singleton.mp hnew]
            exact hslot tree rfl

theorem WellFormed.of_lookup {entries : List (ν × FileTree ν κ)}
    (h : WellFormed (FileTree.dir entries))
    {name : ν} {tree : FileTree ν κ} (hlookup : entries.lookup name = some tree) :
    WellFormed tree := by
  rcases h with _ | ⟨_, -, hentries⟩
  exact hentries _ (mem_of_lookup hlookup)

set_option linter.unusedSectionVars false

mutual

theorem fileAt_eq_none_of_hasFile {tree : FileTree ν κ} (h : tree.hasFile = false)
    (path : List ν) : fileAt (some tree) path = none := by
  cases tree with
  | file content => contradiction
  | dir entries =>
      cases path with
      | nil => rfl
      | cons name path => exact fileAt_eq_none_of_anyFile h name path

theorem fileAt_eq_none_of_anyFile {entries : List (ν × FileTree ν κ)}
    (h : anyFile entries = false) (name : ν) (path : List ν) :
    fileAt (entries.lookup name) path = none := by
  cases entries with
  | nil => exact fileAt_none path
  | cons entry entries =>
      obtain ⟨other, tree⟩ := entry
      rw [anyFile, Bool.or_eq_false_iff] at h
      rw [lookup_cons]
      split
      · exact fileAt_eq_none_of_hasFile h.1 path
      · exact fileAt_eq_none_of_anyFile h.2 name path

end

mutual

theorem exists_fileAt_of_hasFile {tree : FileTree ν κ} (hwf : tree.WellFormed)
    (h : tree.hasFile = true) : ∃ path content, fileAt (some tree) path = some content := by
  cases tree with
  | file content => exact ⟨[], content, rfl⟩
  | dir entries =>
      rcases hwf with _ | ⟨_, hnodup, hentries⟩
      obtain ⟨name, path, content, hfile⟩ := exists_fileAt_of_anyFile hnodup hentries h
      exact ⟨name :: path, content, hfile⟩

theorem exists_fileAt_of_anyFile {entries : List (ν × FileTree ν κ)}
    (hnodup : (entries.map Prod.fst).Nodup) (hentries : ∀ entry ∈ entries, WellFormed entry.2)
    (h : anyFile entries = true) :
    ∃ name path content, fileAt (entries.lookup name) path = some content := by
  cases entries with
  | nil => contradiction
  | cons entry entries =>
      obtain ⟨other, tree⟩ := entry
      rw [List.map_cons, List.nodup_cons] at hnodup
      rw [anyFile, Bool.or_eq_true] at h
      rcases h with hhead | htail
      · obtain ⟨path, content, hfile⟩ :=
          exists_fileAt_of_hasFile (hentries _ List.mem_cons_self) hhead
        refine ⟨other, path, content, ?_⟩
        rwa [lookup_cons, if_pos rfl]
      · obtain ⟨name, path, content, hfile⟩ := exists_fileAt_of_anyFile hnodup.2
          (fun entry hmem => hentries entry (List.mem_cons_of_mem _ hmem)) htail
        have hne : name ≠ other := by
          intro hsame
          subst hsame
          rw [lookup_eq_none_iff.mpr hnodup.1, fileAt_none] at hfile
          contradiction
        refine ⟨name, path, content, ?_⟩
        rwa [lookup_cons, if_neg hne]

end

/-- A tree has a file if it has one at some path. -/
theorem hasFile_eq_true_iff {tree : FileTree ν κ} (hwf : tree.WellFormed) :
    tree.hasFile = true ↔ ∃ path content, fileAt (some tree) path = some content := by
  refine ⟨exists_fileAt_of_hasFile hwf, ?_⟩
  rintro ⟨path, content, hfile⟩
  by_contra hnone
  rw [fileAt_eq_none_of_hasFile (Bool.eq_false_iff.mpr hnone)] at hfile
  contradiction

end FileTree

end Library
end Driscord
