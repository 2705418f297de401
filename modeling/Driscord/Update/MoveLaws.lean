import Mathlib.Data.List.TakeWhile
import Driscord.Update.InstallSwap

/-!
# What a move does

The plan of a move decides it: a file is gone from the source and there in the target
if the step that moves it comes before the first one that fails.

Main results:

- Theorem `moveEntry_law`: the two trees after a move, path by path.
- Theorem `MoveLaw.whole`: a move that succeeds merges the tree into the target.
- Theorem `allowed_reliable`: when all calls succeed, only something in the way stops
  a move.
-/

namespace Driscord
namespace Update

open Library Library.FileTree

/-! ## Steps of a plan -/

@[simp]
theorem under_createDir (name : Name) (path : List Name) :
    MoveStep.under name (MoveStep.createDir path) = MoveStep.createDir (name :: path) := rfl

@[simp]
theorem under_moveFile (name : Name) (path : List Name) :
    MoveStep.under name (MoveStep.moveFile path) = MoveStep.moveFile (name :: path) := rfl

@[simp]
theorem under_blocked (name : Name) (path : List Name) :
    MoveStep.under name (MoveStep.blocked path) = MoveStep.blocked (name :: path) := rfl

/-- A step below an entry names that entry. -/
theorem under_inj {name name' : Name} {step step' : MoveStep} :
    step.under name = step'.under name' ↔ name = name' ∧ step = step' := by
  cases step <;> cases step' <;> simp [MoveStep.under]

theorem under_mem_map {name name' : Name} {step : MoveStep} {steps : List MoveStep} :
    step.under name ∈ steps.map (MoveStep.under name') ↔ name = name' ∧ step ∈ steps := by
  rw [List.mem_map]
  constructor
  · rintro ⟨other, hmem, hother⟩
    obtain ⟨rfl, rfl⟩ := under_inj.mp hother
    exact ⟨rfl, hmem⟩
  · rintro ⟨rfl, hmem⟩
    exact ⟨step, hmem, rfl⟩

@[simp]
theorem allows_under (system : FileSystem) (source target : FilePath) (name : Name)
    (step : MoveStep) :
    system.allows source target (step.under name) =
      system.allows (source.child name) (target.child name) step := by
  cases step <;> simp [MoveStep.under, FileSystem.allows, FilePath.child]

/-- The steps of `planEntries` are below its entries. -/
theorem mem_planEntries {entries existing : Entries} {step : MoveStep}
    (h : step ∈ planEntries entries existing) :
    ∃ name ∈ entries.map Prod.fst, ∃ below, step = MoveStep.under name below := by
  induction entries with
  | nil => contradiction
  | cons entry entries ih =>
      obtain ⟨name, tree⟩ := entry
      rw [planEntries, List.mem_append] at h
      rcases h with hhead | htail
      · obtain ⟨below, -, rfl⟩ := List.mem_map.mp hhead
        exact ⟨name, List.mem_cons_self, below, rfl⟩
      · obtain ⟨other, hother, below, rfl⟩ := ih htail
        exact ⟨other, List.mem_cons_of_mem _ hother, below, rfl⟩

theorem under_not_mem_planEntries {entries existing : Entries} {name : Name}
    (hnew : name ∉ entries.map Prod.fst) (step : MoveStep) :
    step.under name ∉ planEntries entries existing := by
  intro hmem
  obtain ⟨other, hother, below, hbelow⟩ := mem_planEntries hmem
  obtain ⟨rfl, -⟩ := under_inj.mp hbelow
  exact hnew hother

/-- The plan depends on the entries of those names only. -/
theorem planEntries_congr {entries existing existing' : Entries}
    (h : ∀ name ∈ entries.map Prod.fst, existing.lookup name = existing'.lookup name) :
    planEntries entries existing = planEntries entries existing' := by
  induction entries with
  | nil => rfl
  | cons entry entries ih =>
      obtain ⟨name, tree⟩ := entry
      rw [planEntries, planEntries, h name List.mem_cons_self,
        ih fun other hother => h other (List.mem_cons_of_mem _ hother)]

/-! ## Steps that succeed -/

theorem done_subset {system : FileSystem} {source target : FilePath} {steps : List MoveStep}
    {step : MoveStep} (h : step ∈ done system source target steps) : step ∈ steps :=
  (List.takeWhile_sublist _).subset h

theorem done_eq_self {system : FileSystem} {source target : FilePath} {steps : List MoveStep}
    (h : ∀ step ∈ steps, system.allows source target step = true) :
    done system source target steps = steps :=
  List.takeWhile_eq_self_iff.mpr h

theorem done_map_under (system : FileSystem) (source target : FilePath) (name : Name)
    (steps : List MoveStep) :
    done system source target (steps.map (MoveStep.under name)) =
      (done system (source.child name) (target.child name) steps).map (MoveStep.under name) := by
  rw [done, List.takeWhile_map]
  congr 1
  apply congrArg₂ _ _ rfl
  funext step
  exact allows_under system source target name step

/-- The steps of an entry are done on their own, those of the later entries after them. -/
theorem mem_done_planEntries_cons (system : FileSystem) (source target : FilePath)
    {name : Name} (tree : Tree) {entries : Entries} (existing : Entries)
    (hnew : name ∉ entries.map Prod.fst) (other : Name) (step : MoveStep) :
    step.under other ∈
        done system source target (planEntries ((name, tree) :: entries) existing) ↔
      if other = name then
        step ∈ done system (source.child name) (target.child name)
          (plan tree (existing.lookup name))
      else (∀ step ∈ plan tree (existing.lookup name),
          system.allows (source.child name) (target.child name) step = true) ∧
        step.under other ∈ done system source target (planEntries entries existing) := by
  have hrest : step.under name ∉ done system source target (planEntries entries existing) :=
    fun h => under_not_mem_planEntries hnew step (done_subset h)
  have hmap := done_map_under system source target name (plan tree (existing.lookup name))
  rw [planEntries, done]
  by_cases hall : ∀ step ∈ plan tree (existing.lookup name),
      system.allows (source.child name) (target.child name) step = true
  · have hfirst : ∀ step ∈ (plan tree (existing.lookup name)).map (MoveStep.under name),
        system.allows source target step = true := by
      intro below hbelow
      obtain ⟨step, hmem, rfl⟩ := List.mem_map.mp hbelow
      rw [allows_under]
      exact hall step hmem
    rw [List.takeWhile_append_of_pos hfirst, List.mem_append, under_mem_map, done_eq_self hall]
    by_cases hother : other = name
    · subst hother
      rw [if_pos rfl]
      exact ⟨fun h => h.elim And.right fun h => absurd h hrest, fun h => Or.inl ⟨rfl, h⟩⟩
    · rw [if_neg hother]
      exact ⟨fun h => h.elim (fun h => absurd h.1 hother) fun h => ⟨hall, h⟩,
        fun h => Or.inr h.2⟩
  · have hstops : ¬ (((plan tree (existing.lookup name)).map (MoveStep.under name)).takeWhile
        (system.allows source target)).length =
          ((plan tree (existing.lookup name)).map (MoveStep.under name)).length := by
      intro hlength
      apply hall
      intro step hmem
      rw [← allows_under]
      have hself := (List.takeWhile_prefix (system.allows source target)).eq_of_length hlength
      exact List.takeWhile_eq_self_iff.mp hself _ (List.mem_map_of_mem hmem)
    rw [List.takeWhile_append, if_neg hstops, ← done, hmap, under_mem_map]
    by_cases hother : other = name
    · rw [if_pos hother]
      exact and_iff_right hother
    · rw [if_neg hother]
      exact ⟨fun h => absurd h.1 hother, fun h => absurd h.1 hall⟩

/-! ## The plan and the trees -/

/-- What a step says about the two trees. -/
def MoveStep.Fits (tree there : Option Tree) : MoveStep → Prop
  | createDir path => nodeAt tree path = some FileNode.dir ∧ nodeAt there path = none
  | moveFile path => (fileAt tree path).isSome ∧ nodeAt there path = none
  | blocked path =>
      (fileAt tree path).isSome ∧ nodeAt there path ≠ none ∨
        nodeAt tree path = some FileNode.dir ∧ (fileAt there path).isSome

theorem MoveStep.fits_under {entries : Entries} {there : Option Tree} {existing : Entries}
    (hthere : ∀ name path, nodeAt there (name :: path) = nodeAt (existing.lookup name) path)
    {name : Name} {step : MoveStep}
    (h : step.Fits (entries.lookup name) (existing.lookup name)) :
    (step.under name).Fits (some (FileTree.dir entries)) there := by
  have hfile : ∀ path, fileAt there (name :: path) = fileAt (existing.lookup name) path :=
    fun path => fileAt_congr (hthere name path)
  cases step with
  | createDir path => exact ⟨h.1, (hthere name path).trans h.2⟩
  | moveFile path => exact ⟨h.1, (hthere name path).trans h.2⟩
  | blocked path =>
      rw [under_blocked, Fits, hthere, hfile]
      exact h

mutual

/-- Every step of a plan fits the trees. -/
theorem plan_fits {tree : Tree} (hwf : tree.WellFormed) {there : Option Tree} {step : MoveStep}
    (h : step ∈ plan tree there) : step.Fits (some tree) there := by
  cases tree with
  | file content =>
      cases there with
      | none =>
          rw [plan, List.mem_singleton] at h
          subst h
          exact ⟨rfl, rfl⟩
      | some there =>
          rw [plan, List.mem_singleton] at h
          subst h
          refine Or.inl ⟨rfl, ?_⟩
          cases there <;> simp [nodeAt]
  | dir entries =>
      rcases hwf with _ | ⟨_, hnodup, hentries⟩
      cases there with
      | none =>
          rw [plan, List.mem_cons] at h
          rcases h with rfl | hbelow
          · exact ⟨rfl, rfl⟩
          · obtain ⟨name, below, rfl, hfits⟩ := planEntries_fits hnodup hentries hbelow
            exact MoveStep.fits_under (fun _ _ => by simp) hfits
      | some there =>
          cases there with
          | file content =>
              rw [plan, List.mem_singleton] at h
              subst h
              exact Or.inr ⟨rfl, rfl⟩
          | dir existing =>
              obtain ⟨name, below, rfl, hfits⟩ := planEntries_fits hnodup hentries h
              exact MoveStep.fits_under (fun _ _ => rfl) hfits

theorem planEntries_fits {entries existing : Entries} (hnodup : (entries.map Prod.fst).Nodup)
    (hentries : ∀ entry ∈ entries, WellFormed entry.2) {step : MoveStep}
    (h : step ∈ planEntries entries existing) :
    ∃ name below, step = MoveStep.under name below ∧
      below.Fits (entries.lookup name) (existing.lookup name) := by
  cases entries with
  | nil => contradiction
  | cons entry entries =>
      obtain ⟨name, tree⟩ := entry
      rw [List.map_cons, List.nodup_cons] at hnodup
      rw [planEntries, List.mem_append] at h
      rcases h with hhead | htail
      · obtain ⟨below, hbelow, rfl⟩ := List.mem_map.mp hhead
        refine ⟨name, below, rfl, ?_⟩
        rw [lookup_cons, if_pos rfl]
        exact plan_fits (hentries _ List.mem_cons_self) hbelow
      · obtain ⟨other, below, rfl, hfits⟩ := planEntries_fits hnodup.2
          (fun entry hmem => hentries entry (List.mem_cons_of_mem _ hmem)) htail
        have hne : other ≠ name := by
          rintro rfl
          exact under_not_mem_planEntries hnodup.1 below htail
        refine ⟨other, below, rfl, ?_⟩
        rwa [lookup_cons, if_neg hne]

end

/-- No step of the plan is blocked. -/
def Clear (steps : List MoveStep) : Prop :=
  ∀ path, MoveStep.blocked path ∉ steps

/-- The plan has the step that the node needs. -/
def Planned (steps : List MoveStep) (tree there : Option Tree) (path : List Name) : Prop :=
  match nodeAt tree path with
  | none => True
  | some (FileNode.file _) => MoveStep.moveFile path ∈ steps
  | some FileNode.dir =>
      MoveStep.createDir path ∈ steps ∨ nodeAt there path = some FileNode.dir

theorem Planned.transfer {steps steps' : List MoveStep} {tree tree' there there' : Option Tree}
    {path path' : List Name} (h : Planned steps tree there path)
    (htree : nodeAt tree' path' = nodeAt tree path)
    (hthere : nodeAt there path = some FileNode.dir → nodeAt there' path' = some FileNode.dir)
    (hmove : MoveStep.moveFile path ∈ steps → MoveStep.moveFile path' ∈ steps')
    (hcreate : MoveStep.createDir path ∈ steps → MoveStep.createDir path' ∈ steps') :
    Planned steps' tree' there' path' := by
  unfold Planned at h ⊢
  rw [htree]
  match hnode : nodeAt tree path with
  | none => trivial
  | some (FileNode.file content) =>
      rw [hnode] at h
      exact hmove h
  | some FileNode.dir =>
      rw [hnode] at h
      exact h.imp hcreate hthere

mutual

/-- A plan without blocked steps has a step for every node that is not there yet. -/
theorem plan_complete {tree : Tree} (hwf : tree.WellFormed) {there : Option Tree}
    (hclear : Clear (plan tree there)) (path : List Name) :
    Planned (plan tree there) (some tree) there path := by
  cases tree with
  | file content =>
      cases there with
      | none =>
          cases path with
          | nil => exact List.mem_singleton_self _
          | cons name path => trivial
      | some there => exact absurd (List.mem_singleton_self _) (hclear [])
  | dir entries =>
      rcases hwf with _ | ⟨_, hnodup, hentries⟩
      cases there with
      | none =>
          cases path with
          | nil => exact Or.inl List.mem_cons_self
          | cons name path =>
              have hbelow := planEntries_complete hnodup hentries
                (fun path hmem => hclear path (List.mem_cons_of_mem _ hmem)) name path
              refine hbelow.transfer rfl ?_ (List.mem_cons_of_mem _) (List.mem_cons_of_mem _)
              intro hdir
              simp at hdir
      | some there =>
          cases there with
          | file content => exact absurd (List.mem_singleton_self _) (hclear [])
          | dir existing =>
              cases path with
              | nil => exact Or.inr rfl
              | cons name path => exact planEntries_complete hnodup hentries hclear name path

theorem planEntries_complete {entries existing : Entries}
    (hnodup : (entries.map Prod.fst).Nodup)
    (hentries : ∀ entry ∈ entries, WellFormed entry.2)
    (hclear : Clear (planEntries entries existing)) (name : Name) (path : List Name) :
    Planned (planEntries entries existing) (some (FileTree.dir entries))
      (some (FileTree.dir existing)) (name :: path) := by
  cases entries with
  | nil => simp [Planned]
  | cons entry entries =>
      obtain ⟨other, tree⟩ := entry
      rw [List.map_cons, List.nodup_cons] at hnodup
      by_cases hsame : name = other
      · subst hsame
        have hbelow := plan_complete (hentries _ List.mem_cons_self)
          (fun path hmem => hclear (name :: path)
            (List.mem_append_left _ (List.mem_map_of_mem hmem))) path
        refine hbelow.transfer ?_ id
          (fun hmem => List.mem_append_left _ (List.mem_map_of_mem hmem))
          (fun hmem => List.mem_append_left _ (List.mem_map_of_mem hmem))
        rw [nodeAt_dir_cons, lookup_cons, if_pos rfl]
      · have hbelow := planEntries_complete hnodup.2
          (fun entry hmem => hentries entry (List.mem_cons_of_mem _ hmem))
          (fun path hmem => hclear path (List.mem_append_right _ hmem)) name path
        refine hbelow.transfer ?_ id (List.mem_append_right _) (List.mem_append_right _)
        rw [nodeAt_dir_cons, nodeAt_dir_cons, lookup_cons, if_neg hsame]

end

/-! ## The trees after a move -/

/-- The trees after the move of an entry, by the steps that are done. -/
structure MoveLaw (system : FileSystem) (source target : FilePath) (tree : Tree)
    (there : Option Tree) (moved : Moved (Option Tree) (Option Tree)) : Prop where
  error : moved.error = none ↔
    ∀ step ∈ plan tree there, system.allows source target step = true
  gone : moved.error = none → moved.source = none
  left : ∀ path, fileAt moved.source path =
    if MoveStep.moveFile path ∈ done system source target (plan tree there) then none
    else fileAt (some tree) path
  made : ∀ path, nodeAt moved.target path =
    if MoveStep.createDir path ∈ done system source target (plan tree there) then
      some FileNode.dir
    else if MoveStep.moveFile path ∈ done system source target (plan tree there) then
      nodeAt (some tree) path
    else nodeAt there path
  sourceWellFormed : ∀ left ∈ moved.source, WellFormed left
  targetWellFormed : (∀ tree ∈ there, WellFormed tree) → ∀ made ∈ moved.target, WellFormed made

/-- The entries after a move, by the steps that are done. -/
structure EntriesLaw (system : FileSystem) (source target : FilePath)
    (entries existing : Entries) (moved : Moved Entries Entries) : Prop where
  error : moved.error = none ↔
    ∀ step ∈ planEntries entries existing, system.allows source target step = true
  gone : moved.error = none → moved.source = []
  keys : (moved.source.map Prod.fst).Sublist (entries.map Prod.fst)
  left : ∀ name path, fileAt (moved.source.lookup name) path =
    if MoveStep.moveFile (name :: path) ∈
        done system source target (planEntries entries existing) then none
    else fileAt (entries.lookup name) path
  made : ∀ name path, nodeAt (moved.target.lookup name) path =
    if MoveStep.createDir (name :: path) ∈
        done system source target (planEntries entries existing) then some FileNode.dir
    else if MoveStep.moveFile (name :: path) ∈
        done system source target (planEntries entries existing) then
      nodeAt (entries.lookup name) path
    else nodeAt (existing.lookup name) path
  sourceWellFormed : ∀ entry ∈ moved.source, WellFormed entry.2
  targetWellFormed : WellFormed (FileTree.dir existing) → WellFormed (FileTree.dir moved.target)

/-- What is left of an entry stands before the entries after it. -/
theorem lookup_left_append (slot : Option Tree) {entries : Entries} {name : Name}
    (hnew : name ∉ entries.map Prod.fst) (other : Name) :
    ((slot.toList.map fun tree => (name, tree)) ++ entries).lookup other =
      if other = name then slot else entries.lookup other := by
  cases slot with
  | none =>
      by_cases hother : other = name
      · subst hother
        rw [if_pos rfl]
        exact lookup_eq_none_iff.mpr hnew
      · rw [if_neg hother]
        rfl
  | some tree => exact lookup_cons (name, tree) entries other

theorem moveFile_law (system : FileSystem) (source target : FilePath) (content : Bytes)
    (there : Option Tree) :
    MoveLaw system source target (FileTree.file content) there
      (moveEntry system source target (FileTree.file content) there) := by
  have hwf : WellFormed (FileTree.file content : Tree) := WellFormed.file content
  cases there with
  | some there =>
      -- A step that is blocked is not done.
      have hdone : done system source target (plan (FileTree.file content) (some there)) = [] :=
        rfl
      rw [moveEntry]
      constructor
      · refine iff_of_false (Option.some_ne_none _) fun h => ?_
        exact Bool.false_ne_true (h _ (List.mem_singleton_self _))
      · intro herror
        contradiction
      · exact fun path => by rw [hdone]; rfl
      · exact fun path => by rw [hdone]; rfl
      · rintro left ⟨⟩
        exact hwf
      · exact id
  | none =>
      have hallows : system.allows source target (MoveStep.moveFile []) =
          renameWithRetry system source target := by
        simp [FileSystem.allows]
      rw [moveEntry]
      by_cases hrename : renameWithRetry system source target = true
      · have hdone : done system source target (plan (FileTree.file content) none) =
            [MoveStep.moveFile []] :=
          done_eq_self fun step hstep => by
            rw [List.mem_singleton.mp hstep, hallows, hrename]
        rw [if_pos hrename]
        constructor
        · refine iff_of_true rfl fun step hstep => ?_
          rw [List.mem_singleton.mp hstep, hallows, hrename]
        · exact fun _ => rfl
        · intro path
          rw [hdone]
          cases path <;> simp [fileAt, nodeAt]
        · intro path
          rw [hdone]
          cases path <;> simp [nodeAt]
        · intro left hleft
          contradiction
        · rintro - made ⟨⟩
          exact hwf
      · have hdone : done system source target (plan (FileTree.file content) none) = [] := by
          rw [done, plan, List.takeWhile_cons_of_neg (by rwa [hallows])]
        rw [if_neg hrename]
        constructor
        · refine iff_of_false (Option.some_ne_none _) fun h => hrename ?_
          rw [← hallows]
          exact h _ (List.mem_singleton_self _)
        · intro herror
          contradiction
        · exact fun path => by rw [hdone]; rfl
        · exact fun path => by rw [hdone]; rfl
        · rintro left ⟨⟩
          exact hwf
        · exact id

/-- What `moveEntry` makes of a directory, given what the loop over its entries does. -/
def movedDir (moved : Moved Entries Entries) : Moved (Option Tree) (Option Tree) :=
  ⟨if moved.error = none ∧ moved.source.isEmpty then none
    else some (FileTree.dir moved.source),
    some (FileTree.dir moved.target), moved.error⟩

/-- A directory that is there, or could be created, is moved by its entries. -/
theorem EntriesLaw.movedDir {system : FileSystem} {source target : FilePath}
    {entries existing : Entries} {moved : Moved Entries Entries} {there : Option Tree}
    (law : EntriesLaw system source target entries existing moved)
    (hnodup : (entries.map Prod.fst).Nodup)
    (hallows : (∀ step ∈ plan (FileTree.dir entries) there,
        system.allows source target step = true) ↔
      ∀ step ∈ planEntries entries existing, system.allows source target step = true)
    (hdone : ∀ name step,
      MoveStep.under name step ∈ done system source target (plan (FileTree.dir entries) there) ↔
        MoveStep.under name step ∈ done system source target (planEntries entries existing))
    (hdir : MoveStep.createDir [] ∈
        done system source target (plan (FileTree.dir entries) there) ∨
      nodeAt there [] = some FileNode.dir)
    (hthere : ∀ name path, nodeAt there (name :: path) = nodeAt (existing.lookup name) path)
    (hwf : (∀ tree ∈ there, WellFormed tree) → WellFormed (FileTree.dir existing)) :
    MoveLaw system source target (FileTree.dir entries) there (Update.movedDir moved) := by
  have hcreate : ∀ name path, MoveStep.createDir (name :: path) ∈
        done system source target (plan (FileTree.dir entries) there) ↔
      MoveStep.createDir (name :: path) ∈
        done system source target (planEntries entries existing) :=
    fun name path => hdone name (MoveStep.createDir path)
  have hmove : ∀ name path, MoveStep.moveFile (name :: path) ∈
        done system source target (plan (FileTree.dir entries) there) ↔
      MoveStep.moveFile (name :: path) ∈
        done system source target (planEntries entries existing) :=
    fun name path => hdone name (MoveStep.moveFile path)
  have hsource : ∀ name path, fileAt (Update.movedDir moved).source (name :: path) =
      fileAt (moved.source.lookup name) path := by
    intro name path
    rw [Update.movedDir]
    split
    · rename_i hempty
      rw [List.isEmpty_iff.mp hempty.2, fileAt_none, List.lookup_nil, fileAt_none]
    · rfl
  constructor
  · exact law.error.trans hallows.symm
  · intro herror
    exact if_pos ⟨herror, List.isEmpty_iff.mpr (law.gone herror)⟩
  · intro path
    cases path with
    | nil =>
        have hnone : fileAt (Update.movedDir moved).source [] = none := by
          rw [Update.movedDir]
          split <;> rfl
        rw [hnone]
        split <;> rfl
    | cons name path =>
        rw [hsource, law.left, fileAt_dir_cons]
        exact if_congr (hmove name path).symm rfl rfl
  · intro path
    cases path with
    | nil =>
        split
        · rfl
        · rename_i hnot
          split
          · rfl
          · exact (hdir.resolve_left hnot).symm
    | cons name path =>
        rw [Update.movedDir, nodeAt_dir_cons, law.made, nodeAt_dir_cons, hthere]
        exact if_congr (hcreate name path).symm rfl (if_congr (hmove name path).symm rfl rfl)
  · intro left hleft
    rw [Update.movedDir] at hleft
    split at hleft
    · contradiction
    · rw [← Option.some.inj hleft]
      exact WellFormed.dir _ (hnodup.sublist law.keys) law.sourceWellFormed
  · rintro hthereWf made ⟨⟩
    exact law.targetWellFormed (hwf hthereWf)

theorem moveEntry_dir {system : FileSystem} {source target : FilePath} {entries : Entries}
    {there : Option Tree} {existing : Entries} (h : mkpath system target there = some existing) :
    moveEntry system source target (FileTree.dir entries) there =
      movedDir (moveEntries system source target entries existing) := by
  rw [moveEntry, h]
  rfl

/-- The first entry is moved by its own steps, the later ones by theirs. -/
theorem movedCons_law {system : FileSystem} {source target : FilePath} {name : Name}
    {tree : Tree} {entries existing : Entries} (hnew : name ∉ entries.map Prod.fst)
    (hentries : ∀ entry ∈ entries, WellFormed entry.2)
    (head : MoveLaw system (source.child name) (target.child name) tree
      (existing.lookup name) (moveEntry system (source.child name) (target.child name) tree
        (existing.lookup name)))
    (others : ∀ existing, EntriesLaw system source target entries existing
      (moveEntries system source target entries existing)) :
    EntriesLaw system source target ((name, tree) :: entries) existing
      (moveEntries system source target ((name, tree) :: entries) existing) := by
  have hdone := mem_done_planEntries_cons system source target tree existing hnew
  have hmove := fun other path => hdone other (MoveStep.moveFile path)
  have hcreate := fun other path => hdone other (MoveStep.createDir path)
  have hall : (∀ step ∈ planEntries ((name, tree) :: entries) existing,
        system.allows source target step = true) ↔
      (∀ step ∈ plan tree (existing.lookup name),
        system.allows (source.child name) (target.child name) step = true) ∧
      ∀ step ∈ planEntries entries existing, system.allows source target step = true := by
    rw [planEntries, List.forall_mem_append, List.forall_mem_map]
    simp only [allows_under]
  simp only [under_moveFile] at hmove
  simp only [under_createDir] at hcreate
  rw [moveEntries]
  generalize moveEntry system (source.child name) (target.child name) tree
    (existing.lookup name) = moved at head ⊢
  have hmoved : ∀ rest : Entries, name ∉ rest.map Prod.fst → ∀ path,
      fileAt (((moved.source.toList.map fun tree => (name, tree)) ++ rest).lookup name) path =
        if MoveStep.moveFile path ∈ done system (source.child name) (target.child name)
            (plan tree (existing.lookup name)) then none
        else fileAt (some tree) path := by
    intro rest hrest path
    rw [lookup_left_append _ hrest, if_pos rfl]
    exact head.left path
  have hsource : ∀ left ∈ moved.source.toList.map fun tree => (name, tree),
      WellFormed left.2 := by
    intro left hleft
    obtain ⟨tree, htree, rfl⟩ := List.mem_map.mp hleft
    exact head.sourceWellFormed tree (Option.mem_toList.mp htree)
  have hkeys : ((moved.source.toList.map fun tree => (name, tree)).map Prod.fst).Sublist
      [name] := by
    cases moved.source <;> simp
  have hplaced : WellFormed (FileTree.dir existing) →
      WellFormed (FileTree.dir (place existing name moved.target)) :=
    fun hwf => hwf.place name (head.targetWellFormed fun tree htree => hwf.of_lookup htree)
  cases herror : moved.error with
  | some error =>
      have hstops : ¬ ∀ step ∈ plan tree (existing.lookup name),
          system.allows (source.child name) (target.child name) step = true := by
        rw [← head.error, herror]
        nofun
      constructor
      · exact iff_of_false nofun fun h => hstops (hall.mp h).1
      · exact nofun
      · rw [List.map_append]
        exact hkeys.append (List.Sublist.refl _)
      · intro other path
        by_cases hother : other = name
        · subst hother
          rw [hmoved entries hnew, lookup_cons, if_pos rfl]
          refine if_congr ?_ rfl rfl
          rw [hmove, if_pos rfl]
        · rw [lookup_left_append _ hnew, if_neg hother, lookup_cons, if_neg hother,
            if_neg]
          rw [hmove, if_neg hother]
          exact fun h => hstops h.1
      · intro other path
        rw [lookup_place]
        by_cases hother : other = name
        · subst hother
          rw [if_pos rfl, head.made, lookup_cons, if_pos rfl]
          refine if_congr ?_ rfl (if_congr ?_ rfl rfl)
          · rw [hcreate, if_pos rfl]
          · rw [hmove, if_pos rfl]
        · rw [if_neg hother, if_neg, if_neg]
          · rw [hmove, if_neg hother]
            exact fun h => hstops h.1
          · rw [hcreate, if_neg hother]
            exact fun h => hstops h.1
      · exact List.forall_mem_append.mpr ⟨hsource, hentries⟩
      · exact hplaced
  | none =>
      have hallowed := head.error.mp herror
      have hcongr : planEntries entries (place existing name moved.target) =
          planEntries entries existing := by
        apply planEntries_congr
        intro other hother
        have hne : other ≠ name := fun hsame => hnew (hsame ▸ hother)
        rw [lookup_place, if_neg hne]
      have law := others (place existing name moved.target)
      generalize moveEntries system source target entries (place existing name moved.target)
        = rest at law ⊢
      dsimp only
      have hrest : name ∉ rest.source.map Prod.fst := fun hmem => hnew (law.keys.subset hmem)
      constructor
      · rw [hall, ← hcongr, law.error]
        exact (and_iff_right hallowed).symm
      · intro hnone
        rw [law.gone hnone, head.gone herror]
        rfl
      · rw [List.map_append]
        exact hkeys.append law.keys
      · intro other path
        by_cases hother : other = name
        · subst hother
          rw [hmoved rest.source hrest, lookup_cons, if_pos rfl]
          refine if_congr ?_ rfl rfl
          rw [hmove, if_pos rfl]
        · rw [lookup_left_append _ hrest, if_neg hother, lookup_cons, if_neg hother,
            law.left, hcongr]
          refine if_congr ?_ rfl rfl
          rw [hmove, if_neg hother]
          exact (and_iff_right hallowed).symm
      · intro other path
        rw [law.made, hcongr, lookup_place]
        by_cases hother : other = name
        · subst hother
          have hnoDir : MoveStep.createDir (other :: path) ∉
              done system source target (planEntries entries existing) :=
            fun hmem => under_not_mem_planEntries hnew (MoveStep.createDir path)
              (done_subset hmem)
          have hnoFile : MoveStep.moveFile (other :: path) ∉
              done system source target (planEntries entries existing) :=
            fun hmem => under_not_mem_planEntries hnew (MoveStep.moveFile path)
              (done_subset hmem)
          rw [if_neg hnoDir, if_neg hnoFile, if_pos rfl, head.made, lookup_cons, if_pos rfl]
          refine if_congr ?_ rfl (if_congr ?_ rfl rfl)
          · rw [hcreate, if_pos rfl]
          · rw [hmove, if_pos rfl]
        · rw [if_neg hother, lookup_cons, if_neg hother]
          refine if_congr ?_ rfl (if_congr ?_ rfl rfl)
          · rw [hcreate, if_neg hother]
            exact (and_iff_right hallowed).symm
          · rw [hmove, if_neg hother]
            exact (and_iff_right hallowed).symm
      · exact List.forall_mem_append.mpr ⟨hsource, law.sourceWellFormed⟩
      · exact fun hwf => law.targetWellFormed (hplaced hwf)

mutual

/-- The two trees after `moveEntry`, path by path. -/
theorem moveEntry_law (system : FileSystem) (source target : FilePath) {tree : Tree}
    (hwf : tree.WellFormed) (there : Option Tree) :
    MoveLaw system source target tree there (moveEntry system source target tree there) := by
  cases tree with
  | file content => exact moveFile_law system source target content there
  | dir entries =>
      have hdirWf := hwf
      rcases hwf with _ | ⟨_, hnodup, hentries⟩
      cases there with
      | none =>
          have hallows : system.allows source target (MoveStep.createDir []) =
              system.mkdir target := by
            simp [FileSystem.allows]
          by_cases hmkdir : system.mkdir target = true
          · have hmkpath : mkpath system target none = some [] := if_pos hmkdir
            have hdone : done system source target (plan (FileTree.dir entries) none) =
                MoveStep.createDir [] ::
                  done system source target (planEntries entries []) := by
              rw [done, plan, List.takeWhile_cons_of_pos (by rwa [hallows])]
              rfl
            rw [moveEntry_dir hmkpath]
            apply (moveEntries_law system source target hnodup hentries []).movedDir hnodup
            · rw [plan, List.forall_mem_cons, hallows]
              exact and_iff_right hmkdir
            · intro name step
              rw [hdone, List.mem_cons]
              exact or_iff_right (by cases step <;> simp)
            · rw [hdone]
              exact Or.inl List.mem_cons_self
            · exact fun name path => by simp
            · exact fun _ => WellFormed.dir [] List.nodup_nil nofun
          · have hmkpath : mkpath system target none = none := if_neg hmkdir
            have hdone : done system source target (plan (FileTree.dir entries) none) = [] := by
              rw [done, plan, List.takeWhile_cons_of_neg (by rwa [hallows])]
            rw [moveEntry, hmkpath]
            constructor
            · refine iff_of_false nofun fun h => hmkdir ?_
              rw [← hallows]
              exact h _ List.mem_cons_self
            · exact nofun
            · exact fun path => by rw [hdone]; rfl
            · exact fun path => by rw [hdone]; rfl
            · rintro left ⟨⟩
              exact hdirWf
            · exact id
      | some there =>
          cases there with
          | file content =>
              have hdone : done system source target
                  (plan (FileTree.dir entries) (some (FileTree.file content))) = [] := rfl
              rw [moveEntry, mkpath]
              constructor
              · exact iff_of_false nofun fun h => nomatch h _ (List.mem_singleton_self _)
              · exact nofun
              · exact fun path => by rw [hdone]; rfl
              · exact fun path => by rw [hdone]; rfl
              · rintro left ⟨⟩
                exact hdirWf
              · exact id
          | dir existing =>
              have hmkpath : mkpath system target (some (FileTree.dir existing)) =
                  some existing := rfl
              rw [moveEntry_dir hmkpath]
              apply (moveEntries_law system source target hnodup hentries existing).movedDir hnodup
              · rfl
              · exact fun _ _ => Iff.rfl
              · exact Or.inr rfl
              · exact fun _ _ => rfl
              · exact fun h => h _ rfl

/-- The entries after the loop of `moveEntry`. -/
theorem moveEntries_law (system : FileSystem) (source target : FilePath) {entries : Entries}
    (hnodup : (entries.map Prod.fst).Nodup)
    (hentries : ∀ entry ∈ entries, WellFormed entry.2) (existing : Entries) :
    EntriesLaw system source target entries existing
      (moveEntries system source target entries existing) := by
  cases entries with
  | nil =>
      rw [moveEntries]
      constructor
      · exact iff_of_true rfl nofun
      · exact fun _ => rfl
      · exact List.Sublist.refl _
      · exact fun name path => by rw [List.lookup_nil, fileAt_none, ite_self]
      · exact fun name path => by simp [done, planEntries]
      · exact nofun
      · exact id
  | cons entry entries =>
      obtain ⟨name, tree⟩ := entry
      rw [List.map_cons, List.nodup_cons] at hnodup
      have hlater : ∀ entry ∈ entries, WellFormed entry.2 :=
        fun entry hmem => hentries entry (List.mem_cons_of_mem _ hmem)
      exact movedCons_law hnodup.1 hlater
        (moveEntry_law system (source.child name) (target.child name)
          (hentries _ List.mem_cons_self) (existing.lookup name))
        fun existing => moveEntries_law system source target hnodup.2 hlater existing

end

/-! ## Whole moves and broken ones -/

section

variable {system : FileSystem} {source target : FilePath} {tree : Tree} {there : Option Tree}
  {moved : Moved (Option Tree) (Option Tree)}

theorem clear_of_allowed
    (h : ∀ step ∈ plan tree there, system.allows source target step = true) :
    Clear (plan tree there) :=
  fun path hmem => nomatch h (MoveStep.blocked path) hmem

/-- What is moved is not there yet. -/
theorem Clear.nodeAt_eq_none (hwf : tree.WellFormed) (hclear : Clear (plan tree there))
    {path : List Name} (h : (fileAt there path).isSome) : nodeAt (some tree) path = none := by
  have hplanned := plan_complete hwf hclear path
  unfold Planned at hplanned
  obtain ⟨content, hfile⟩ := Option.isSome_iff_exists.mp h
  rw [fileAt_eq_some_iff] at hfile
  match hnode : nodeAt (some tree) path with
  | none => rfl
  | some (FileNode.file moved) =>
      rw [hnode] at hplanned
      have hnone := (plan_fits hwf hplanned).2
      rw [hfile] at hnone
      contradiction
  | some FileNode.dir =>
      rw [hnode] at hplanned
      rcases hplanned with hcreate | hdir
      · have hnone := (plan_fits hwf hcreate).2
        rw [hfile] at hnone
        contradiction
      · rw [hfile, Option.some.injEq] at hdir
        contradiction

/-- A move that succeeds merges the tree into the target. -/
theorem MoveLaw.whole (law : MoveLaw system source target tree there moved)
    (hwf : tree.WellFormed) (herror : moved.error = none) (path : List Name) :
    nodeAt moved.target path = (nodeAt (some tree) path).or (nodeAt there path) := by
  have hallowed := law.error.mp herror
  have hplanned := plan_complete hwf (clear_of_allowed hallowed) path
  have hcreate : MoveStep.createDir path ∈ plan tree there →
      nodeAt (some tree) path = some FileNode.dir :=
    fun hmem => (plan_fits hwf hmem).1
  have hmove : MoveStep.moveFile path ∈ plan tree there → (fileAt (some tree) path).isSome :=
    fun hmem => (plan_fits hwf hmem).1
  rw [law.made, done_eq_self hallowed]
  unfold Planned at hplanned
  unfold fileAt at hmove
  match hnode : nodeAt (some tree) path with
  | none =>
      rw [hnode] at hcreate hmove
      rw [if_neg (fun hmem => nomatch hcreate hmem), if_neg (fun hmem => nomatch hmove hmem),
        Option.none_or]
  | some (FileNode.file content) =>
      rw [hnode] at hcreate hplanned
      rw [if_neg (fun hmem => nomatch hcreate hmem), if_pos hplanned, Option.some_or]
  | some FileNode.dir =>
      rw [hnode] at hmove hplanned
      rw [if_neg (fun hmem => nomatch hmove hmem), Option.some_or]
      split
      · rfl
      · rename_i hnot
        exact hplanned.resolve_left hnot

/-- No file is moved by the steps. -/
def NoFile (steps : List MoveStep) : Prop :=
  ∀ path, MoveStep.moveFile path ∉ steps

theorem MoveLaw.fileAt_source_of_noFile (law : MoveLaw system source target tree there moved)
    (hnone : NoFile (done system source target (plan tree there))) (path : List Name) :
    fileAt moved.source path = fileAt (some tree) path := by
  rw [law.left, if_neg (hnone path)]

/-- A file that was moved is missing in the source. -/
theorem MoveLaw.noFile_of_fileAt_source (law : MoveLaw system source target tree there moved)
    (hwf : tree.WellFormed) (h : ∀ path, fileAt moved.source path = fileAt (some tree) path) :
    NoFile (done system source target (plan tree there)) := by
  intro path hmem
  have hleft := law.left path
  rw [if_pos hmem, h] at hleft
  have hfile : (fileAt (some tree) path).isSome := (plan_fits hwf (done_subset hmem)).1
  rw [hleft] at hfile
  contradiction

/-- A file stays where it is when something is in the way. -/
theorem MoveLaw.nodeAt_target_of_inTheWay
    (law : MoveLaw system source target tree there moved) (hwf : tree.WellFormed)
    {path : List Name} (hthere : nodeAt there path ≠ none) :
    nodeAt moved.target path = nodeAt there path := by
  rw [law.made, if_neg, if_neg]
  · exact fun hmem => hthere (plan_fits hwf (done_subset hmem)).2
  · exact fun hmem => hthere (plan_fits hwf (done_subset hmem)).2

/-- When all calls succeed, only something in the way stops a move. -/
theorem allowed_reliable (hwf : tree.WellFormed)
    (hfree : ∀ path, (fileAt (some tree) path).isSome → nodeAt there path = none)
    (hdirs : ∀ path, nodeAt (some tree) path = some FileNode.dir → fileAt there path = none) :
    ∀ step ∈ plan tree there, reliable.allows source target step = true := by
  intro step hmem
  cases step with
  | createDir path => rfl
  | moveFile path => rfl
  | blocked path =>
      exfalso
      rcases plan_fits hwf hmem with ⟨hfile, hthere⟩ | ⟨hdir, hthere⟩
      · exact hthere (hfree path hfile)
      · rw [hdirs path hdir] at hthere
        contradiction

end

end Update
end Driscord
