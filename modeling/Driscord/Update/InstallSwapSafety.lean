import Driscord.Update.MoveLaws

/-!
# Whether an update is applied whole or not at all

The rollback knows the entries that were moved completely.  The entry whose move failed
stays as it is, and an entry that comes back from the backup brings along the files that
an earlier update left there.

The theorem below says when the files are nevertheless all where they were: no file of
the failing entry had been moved, no entry of the root that was moved to the backup met
old files there, and no directory created by the failing move is in the way of a file
that has to come back.

Main results:

- Theorem `applyNames_verdict`: what a run of the loop leaves behind, by the entry where
  it stops.
- Theorem `applyPayload_allOrNothing`: when the files are all where they were.
-/

namespace Driscord
namespace Update

open Library Library.FileTree

/-! ## One name -/

/-- What the three directories hold under a name. -/
structure Slots where
  root : Option Tree
  payload : Option Tree
  backup : Option Tree

/-- The slots of a name. -/
def Install.slots (install : Install) (name : Name) : Slots :=
  ⟨install.root.lookup name, install.payload.lookup name, install.backup.lookup name⟩

/-- The trees of the slots have different names in each directory. -/
structure Slots.WellFormed (slots : Slots) : Prop where
  root : ∀ tree ∈ slots.root, tree.WellFormed
  payload : ∀ tree ∈ slots.payload, tree.WellFormed
  backup : ∀ tree ∈ slots.backup, tree.WellFormed

/-- `moveEntry` of a name, in its slots. -/
def moveSlot (system : FileSystem) (source target : Area) (name : Name) :
    Option Tree → Option Tree → Moved (Option Tree) (Option Tree)
  | none, there => ⟨none, there, some (SwapError.cannotMove ⟨source, [name]⟩ ⟨target, [name]⟩)⟩
  | some tree, there => moveEntry system ⟨source, [name]⟩ ⟨target, [name]⟩ tree there

theorem moveNamed_error (system : FileSystem) (source target : Area) (name : Name)
    (from_ to_ : Entries) :
    (moveNamed system source target name from_ to_).error =
      (moveSlot system source target name (from_.lookup name) (to_.lookup name)).error := by
  rw [moveNamed]
  cases from_.lookup name <;> rfl

theorem lookup_moveNamed_source (system : FileSystem) (source target : Area) (name : Name)
    (from_ to_ : Entries) (other : Name) :
    (moveNamed system source target name from_ to_).source.lookup other =
      if other = name then
        (moveSlot system source target name (from_.lookup name) (to_.lookup name)).source
      else from_.lookup other := by
  rw [moveNamed]
  cases hlookup : from_.lookup name with
  | none =>
      by_cases hother : other = name
      · rw [if_pos hother, hother]
        exact hlookup
      · rw [if_neg hother]
  | some tree => exact lookup_place _ _ _ _

theorem lookup_moveNamed_target (system : FileSystem) (source target : Area) (name : Name)
    (from_ to_ : Entries) (other : Name) :
    (moveNamed system source target name from_ to_).target.lookup other =
      if other = name then
        (moveSlot system source target name (from_.lookup name) (to_.lookup name)).target
      else to_.lookup other := by
  rw [moveNamed]
  cases hlookup : from_.lookup name with
  | none =>
      by_cases hother : other = name
      · rw [if_pos hother, hother]
        rfl
      · rw [if_neg hother]
  | some tree => exact lookup_place _ _ _ _

namespace Slots

def backUp (system : FileSystem) (name : Name) (slots : Slots) : Slots :=
  let moved := moveSlot system Area.root Area.backup name slots.root slots.backup
  { slots with root := moved.source, backup := moved.target }

def bringIn (system : FileSystem) (name : Name) (slots : Slots) : Slots :=
  let moved := moveSlot system Area.payload Area.root name slots.payload slots.root
  { slots with payload := moved.source, root := moved.target }

def takeOut (name : Name) (slots : Slots) : Slots :=
  let moved := moveSlot reliable Area.root Area.payload name slots.root slots.payload
  { slots with root := moved.source, payload := moved.target }

def restore (name : Name) (slots : Slots) : Slots :=
  let moved := moveSlot reliable Area.backup Area.root name slots.backup slots.root
  { slots with backup := moved.source, root := moved.target }

end Slots

namespace Install

theorem slots_backUp (system : FileSystem) (install : Install) (name other : Name) :
    (install.backUp system name).1.slots other =
      if other = name then (install.slots name).backUp system name
      else install.slots other := by
  unfold slots backUp
  rw [lookup_moveNamed_source, lookup_moveNamed_target]
  split
  · rename_i hother
    rw [hother]
    rfl
  · rfl

theorem slots_bringIn (system : FileSystem) (install : Install) (name other : Name) :
    (install.bringIn system name).1.slots other =
      if other = name then (install.slots name).bringIn system name
      else install.slots other := by
  unfold slots bringIn
  rw [lookup_moveNamed_source, lookup_moveNamed_target]
  split
  · rename_i hother
    rw [hother]
    rfl
  · rfl

theorem slots_takeOut (install : Install) (name other : Name) :
    (install.takeOut name).slots other =
      if other = name then (install.slots name).takeOut name else install.slots other := by
  unfold slots takeOut
  rw [lookup_moveNamed_source, lookup_moveNamed_target]
  split
  · rename_i hother
    rw [hother]
    rfl
  · rfl

theorem slots_restore (install : Install) (name other : Name) :
    (install.restore name).slots other =
      if other = name then (install.slots name).restore name else install.slots other := by
  unfold slots restore
  rw [lookup_moveNamed_source, lookup_moveNamed_target]
  split
  · rename_i hother
    rw [hother]
    rfl
  · rfl

/-- A loop over different names does to each of them what one round does. -/
theorem slots_foldl {operation : Install → Name → Install} {change : Name → Slots → Slots}
    (hoperation : ∀ install name other, (operation install name).slots other =
      if other = name then change name (install.slots name) else install.slots other)
    {names : List Name} (hnodup : names.Nodup) (install : Install) (name : Name) :
    (names.foldl operation install).slots name =
      if name ∈ names then change name (install.slots name) else install.slots name := by
  induction names generalizing install with
  | nil => rfl
  | cons first names ih =>
      rw [List.nodup_cons] at hnodup
      rw [List.foldl_cons, ih hnodup.2, hoperation]
      by_cases hfirst : name = first
      · subst hfirst
        rw [if_neg hnodup.1, if_pos rfl, if_pos List.mem_cons_self]
      · simp [hfirst]

/-- What the rollback does to a name. -/
theorem slots_rollback {backedUp installed : List Name} (hbackedUp : backedUp.Nodup)
    (hinstalled : installed.Nodup) (install : Install) (name : Name) :
    (install.rollback backedUp installed).slots name =
      let slots := if name ∈ installed then (install.slots name).takeOut name
        else install.slots name
      if name ∈ backedUp then slots.restore name else slots := by
  rw [rollback, slots_foldl slots_restore hbackedUp, slots_foldl slots_takeOut hinstalled]

end Install

/-! ## Moves of a slot -/

/-- A tree that is moved to where nothing is arrives as it was. -/
theorem moveSlot_reliable_none (source target : Area) (name : Name) {slot : Option Tree}
    (hwf : ∀ tree ∈ slot, tree.WellFormed) :
    (moveSlot reliable source target name slot none).source = none ∧
      ∀ path, nodeAt (moveSlot reliable source target name slot none).target path =
        nodeAt slot path := by
  cases slot with
  | none => exact ⟨rfl, fun path => rfl⟩
  | some tree =>
      have hwf := hwf tree rfl
      have law := moveEntry_law reliable ⟨source, [name]⟩ ⟨target, [name]⟩ hwf none
      have herror := law.error.mpr (allowed_reliable hwf (fun path _ => nodeAt_none path)
        fun path _ => fileAt_none path)
      refine ⟨law.gone herror, fun path => ?_⟩
      rw [moveSlot, law.whole hwf herror, nodeAt_none, Option.or_none]

theorem moveSlot_wellFormed (system : FileSystem) (source target : Area) (name : Name)
    {slot there : Option Tree} (hwf : ∀ tree ∈ slot, tree.WellFormed)
    (hthere : ∀ tree ∈ there, tree.WellFormed) :
    (∀ tree ∈ (moveSlot system source target name slot there).source, tree.WellFormed) ∧
      ∀ tree ∈ (moveSlot system source target name slot there).target, tree.WellFormed := by
  cases slot with
  | none => exact ⟨nofun, hthere⟩
  | some tree =>
      have law := moveEntry_law system ⟨source, [name]⟩ ⟨target, [name]⟩ (hwf tree rfl) there
      exact ⟨law.sourceWellFormed, law.targetWellFormed hthere⟩

/-- The files of two trees over each other, when they are apart. -/
theorem fileAt_of_or {slot above below : Option Tree} {path : List Name}
    (hor : nodeAt slot path = (nodeAt above path).or (nodeAt below path))
    (hbelow : fileAt below path = none) : fileAt slot path = fileAt above path := by
  cases habove : nodeAt above path with
  | none =>
      rw [habove, Option.none_or] at hor
      rw [fileAt_congr hor, hbelow, fileAt, habove]
  | some node =>
      rw [habove, Option.some_or, ← habove] at hor
      exact fileAt_congr hor

theorem nodeAt_nil_eq_none {slot : Option Tree} (h : nodeAt slot [] = none) : slot = none := by
  cases slot with
  | none => rfl
  | some tree => cases tree <;> simp [nodeAt] at h

/-! ## Entries that were moved completely -/

/-- The slots of a name whose entry is in place, against those before. -/
structure Placed (before slots : Slots) : Prop where
  payload : slots.payload = none
  root : ∀ path, nodeAt slots.root path = nodeAt before.payload path
  backup : ∀ path,
    nodeAt slots.backup path = (nodeAt before.root path).or (nodeAt before.backup path)
  apart : ∀ path, (fileAt before.backup path).isSome → nodeAt before.root path = none
  wellFormed : slots.WellFormed

/-- The files of the root and of the payload are the same. -/
structure SameFiles (before slots : Slots) : Prop where
  root : ∀ path, fileAt slots.root path = fileAt before.root path
  payload : ∀ path, fileAt slots.payload path = fileAt before.payload path

/-- An entry of the root is moved onto files that an earlier update left in the backup. -/
def Slots.meetsLeftovers (slots : Slots) : Bool :=
  slots.root.isSome && slots.backup.any FileTree.hasFile

theorem Slots.meetsLeftovers_eq_false_iff {slots : Slots} (hwf : slots.WellFormed) :
    slots.meetsLeftovers = false ↔
      (slots.root.isSome → ∀ path, fileAt slots.backup path = none) := by
  rw [meetsLeftovers, Bool.and_eq_false_imp]
  refine imp_congr_right fun _ => ?_
  cases hbackup : slots.backup with
  | none => exact iff_of_true rfl fileAt_none
  | some tree =>
      rw [Option.any_some, Bool.eq_false_iff, ne_eq, hasFile_eq_true_iff (hwf.backup tree hbackup),
        not_exists]
      refine forall_congr' fun path => ?_
      rw [not_exists, Option.eq_none_iff_forall_ne_some]

/-- The rollback brings an entry back, and with it what it met in the backup. -/
theorem Placed.sameFiles_iff {before slots : Slots} (h : Placed before slots)
    (hwf : before.WellFormed) (name : Name) :
    SameFiles before (if before.root.isSome then (slots.takeOut name).restore name
      else slots.takeOut name) ↔ before.meetsLeftovers = false := by
  have hout := moveSlot_reliable_none Area.root Area.payload name h.wellFormed.root
  rw [← h.payload] at hout
  have hpayload : ∀ path,
      fileAt (slots.takeOut name).payload path = fileAt before.payload path :=
    fun path => fileAt_congr ((hout.2 path).trans (h.root path))
  have hroot : (slots.takeOut name).root = none := hout.1.trans h.payload
  rw [before.meetsLeftovers_eq_false_iff hwf]
  by_cases hpresent : before.root.isSome = true
  · have hback := moveSlot_reliable_none Area.backup Area.root name h.wellFormed.backup
    have hrestored : ∀ path, nodeAt ((slots.takeOut name).restore name).root path =
        (nodeAt before.root path).or (nodeAt before.backup path) := by
      intro path
      rw [← h.backup, Slots.restore, hroot]
      exact hback.2 path
    rw [if_pos hpresent]
    constructor
    · intro hsame _ path
      by_contra hfile
      have hfile : (fileAt before.backup path).isSome := Option.isSome_iff_ne_none.mpr hfile
      have hnone := h.apart path hfile
      have hnode := hrestored path
      rw [hnone, Option.none_or] at hnode
      rw [← fileAt_congr hnode, hsame.root path, fileAt, hnone] at hfile
      contradiction
    · intro hnone
      exact ⟨fun path => fileAt_of_or (hrestored path) (hnone hpresent path), hpayload⟩
  · have hempty : before.root = none := by simpa using hpresent
    rw [if_neg hpresent]
    refine iff_of_true ⟨fun path => ?_, hpayload⟩ fun h => absurd h hpresent
    rw [hroot, hempty]

/-! ## The two moves of an entry -/

/-- The two moves that `applyPayload` makes for an entry. -/
inductive Phase where
  | backup
  | install
deriving DecidableEq, Repr

namespace Phase

/-- The steps of the move; the entry is installed where nothing is left. -/
def steps (slots : Slots) : Phase → List MoveStep
  | backup => (slots.root.map fun tree => plan tree slots.backup).getD []
  | install => (slots.payload.map fun tree => plan tree none).getD []

/-- The file system lets the step of the entry succeed. -/
def allows (system : FileSystem) (name : Name) : Phase → MoveStep → Bool
  | backup => system.allows ⟨Area.root, [name]⟩ ⟨Area.backup, [name]⟩
  | install => system.allows ⟨Area.payload, [name]⟩ ⟨Area.root, [name]⟩

/-- All steps of the move succeed. -/
def succeeds (system : FileSystem) (name : Name) (slots : Slots) (phase : Phase) : Bool :=
  (phase.steps slots).all (phase.allows system name)

/-- The steps before the first one that fails. -/
def done (system : FileSystem) (name : Name) (slots : Slots) (phase : Phase) :
    List MoveStep :=
  (phase.steps slots).takeWhile (phase.allows system name)

end Phase

/-- The slots of a name whose entry of the root is in the backup, against those before. -/
structure Saved (before slots : Slots) : Prop where
  root : slots.root = none
  payload : slots.payload = before.payload
  backup : ∀ path,
    nodeAt slots.backup path = (nodeAt before.root path).or (nodeAt before.backup path)
  apart : ∀ path, (fileAt before.backup path).isSome → nodeAt before.root path = none
  wellFormed : slots.WellFormed

section

variable {system : FileSystem} {name : Name} {before slots : Slots} {tree : Tree}

variable (system name) in
theorem backUp_law (hwf : before.WellFormed) (hroot : before.root = some tree) :
    MoveLaw system ⟨Area.root, [name]⟩ ⟨Area.backup, [name]⟩ tree before.backup
      (moveSlot system Area.root Area.backup name before.root before.backup) := by
  rw [hroot]
  exact moveEntry_law system _ _ (hwf.root tree hroot) before.backup

theorem succeeds_backup_iff (hwf : before.WellFormed) (hroot : before.root = some tree) :
    (moveSlot system Area.root Area.backup name before.root before.backup).error = none ↔
      Phase.backup.succeeds system name before = true := by
  rw [(backUp_law system name hwf hroot).error, Phase.succeeds, Phase.steps, hroot, List.all_eq_true]
  rfl

theorem saved_of_absent (hwf : before.WellFormed) (hroot : before.root = none) :
    Saved before before where
  root := hroot
  payload := rfl
  backup path := by rw [hroot, nodeAt_none, Option.none_or]
  apart path _ := by rw [hroot, nodeAt_none]
  wellFormed := hwf

theorem saved_of_succeeds (hwf : before.WellFormed) (hroot : before.root = some tree)
    (h : Phase.backup.succeeds system name before = true) :
    Saved before (before.backUp system name) := by
  have law := backUp_law system name hwf hroot
  have herror := (succeeds_backup_iff hwf hroot).mpr h
  have htree := hwf.root tree hroot
  have hmoved := moveSlot_wellFormed system Area.root Area.backup name hwf.root hwf.backup
  constructor
  · exact law.gone herror
  · rfl
  · intro path
    rw [hroot]
    exact law.whole htree herror path
  · intro path hfile
    rw [hroot]
    exact (clear_of_allowed (law.error.mp herror)).nodeAt_eq_none htree hfile
  · exact ⟨hmoved.1, hwf.payload, hmoved.2⟩

/-- An entry whose backup fails is as before if no file was moved. -/
theorem sameFiles_backUp_iff (hwf : before.WellFormed) (hroot : before.root = some tree) :
    SameFiles before (before.backUp system name) ↔
      NoFile (Phase.backup.done system name before) := by
  have law := backUp_law system name hwf hroot
  have hdone : Phase.backup.done system name before =
      done system ⟨Area.root, [name]⟩ ⟨Area.backup, [name]⟩ (plan tree before.backup) := by
    rw [Phase.done, Phase.steps, hroot]
    rfl
  rw [hdone]
  constructor
  · intro hsame
    refine law.noFile_of_fileAt_source (hwf.root tree hroot) fun path => ?_
    rw [← hroot]
    exact hsame.root path
  · intro hnone
    refine ⟨fun path => ?_, fun path => rfl⟩
    rw [hroot]
    exact law.fileAt_source_of_noFile hnone path

variable (system name) in
theorem bringIn_law (h : Saved before slots) (hwf : before.WellFormed)
    (hpayload : before.payload = some tree) :
    MoveLaw system ⟨Area.payload, [name]⟩ ⟨Area.root, [name]⟩ tree none
      (moveSlot system Area.payload Area.root name slots.payload slots.root) := by
  rw [h.payload, h.root, hpayload]
  exact moveEntry_law system _ _ (hwf.payload tree hpayload) none

theorem succeeds_install_iff (h : Saved before slots) (hwf : before.WellFormed)
    (hpayload : before.payload = some tree) :
    (moveSlot system Area.payload Area.root name slots.payload slots.root).error = none ↔
      Phase.install.succeeds system name before = true := by
  rw [(bringIn_law system name h hwf hpayload).error, Phase.succeeds, Phase.steps, hpayload,
    List.all_eq_true]
  rfl

theorem placed_of_succeeds (h : Saved before slots) (hwf : before.WellFormed)
    (hpayload : before.payload = some tree)
    (hsucceeds : Phase.install.succeeds system name before = true) :
    Placed before (slots.bringIn system name) := by
  have law := bringIn_law system name h hwf hpayload
  have herror := (succeeds_install_iff h hwf hpayload).mpr hsucceeds
  have hmoved := moveSlot_wellFormed system Area.payload Area.root name
    h.wellFormed.payload h.wellFormed.root
  constructor
  · exact law.gone herror
  · intro path
    rw [hpayload, Slots.bringIn, law.whole (hwf.payload tree hpayload) herror, nodeAt_none,
      Option.or_none]
  · exact h.backup
  · exact h.apart
  · exact ⟨hmoved.2, hmoved.1, h.wellFormed.backup⟩

theorem done_install (hpayload : before.payload = some tree) :
    Phase.install.done system name before =
      done system ⟨Area.payload, [name]⟩ ⟨Area.root, [name]⟩ (plan tree none) := by
  rw [Phase.done, Phase.steps, hpayload]
  rfl

/-- What a failing install leaves in the root: the directories it created. -/
theorem nodeAt_bringIn (h : Saved before slots) (hwf : before.WellFormed)
    (hpayload : before.payload = some tree)
    (hnone : NoFile (Phase.install.done system name before)) (path : List Name) :
    nodeAt (slots.bringIn system name).root path =
      if MoveStep.createDir path ∈ Phase.install.done system name before then
        some FileNode.dir
      else none := by
  rw [done_install hpayload] at hnone ⊢
  have hmade := (bringIn_law system name h hwf hpayload).made path
  rw [if_neg (hnone path), nodeAt_none] at hmade
  exact hmade

theorem fileAt_bringIn (h : Saved before slots) (hwf : before.WellFormed)
    (hpayload : before.payload = some tree)
    (hnone : NoFile (Phase.install.done system name before)) (path : List Name) :
    fileAt (slots.bringIn system name).root path = none := by
  have hnode := nodeAt_bringIn h hwf hpayload hnone path
  split at hnode <;> rw [fileAt, hnode]

/-- The old files come back if no new directory is in their way. -/
theorem fileAt_restore_iff (after : Slots) (h : Saved before slots)
    (hpresent : before.root.isSome) (hleft : ∀ path, fileAt before.backup path = none)
    (hbackup : after.backup = slots.backup) (hempty : ∀ path, fileAt after.root path = none) :
    (∀ path, fileAt (after.restore name).root path = fileAt before.root path) ↔
      ∀ path, nodeAt after.root path = some FileNode.dir → fileAt before.root path = none := by
  have hfiles : ∀ path, fileAt slots.backup path = fileAt before.root path :=
    fun path => fileAt_of_or (h.backup path) (hleft path)
  obtain ⟨saved, hsaved⟩ : ∃ saved, slots.backup = some saved := by
    rw [← Option.isSome_iff_exists, Option.isSome_iff_ne_none]
    intro hnone
    have hnil := h.backup []
    rw [hnone, nodeAt_none, eq_comm, Option.or_eq_none_iff] at hnil
    rw [nodeAt_nil_eq_none hnil.1] at hpresent
    contradiction
  have hwf : saved.WellFormed := h.wellFormed.backup saved hsaved
  have law := moveEntry_law reliable ⟨Area.backup, [name]⟩ ⟨Area.root, [name]⟩ hwf after.root
  have hrestore : (after.restore name).root =
      (moveEntry reliable ⟨Area.backup, [name]⟩ ⟨Area.root, [name]⟩ saved after.root).target := by
    rw [Slots.restore, hbackup, hsaved]
    rfl
  rw [hsaved] at hfiles
  rw [hrestore]
  constructor
  · intro hsame path hdir
    have hstays := law.nodeAt_target_of_inTheWay hwf (ne_of_eq_of_ne hdir (Option.some_ne_none _))
    rw [← hsame, fileAt, hstays, hdir]
  · intro hfree path
    have herror := law.error.mpr (allowed_reliable hwf (fun path hfile => ?_)
      fun path _ => hempty path)
    · rw [fileAt_of_or (law.whole hwf herror path) (hempty path), hfiles]
    · by_contra hthere
      have hdir : nodeAt after.root path = some FileNode.dir := by
        have hempty := hempty path
        unfold fileAt at hempty
        cases hnode : nodeAt after.root path with
        | none => exact absurd hnode hthere
        | some node =>
            cases node with
            | file content =>
                rw [hnode] at hempty
                contradiction
            | dir => rfl
      rw [hfiles, hfree path hdir] at hfile
      contradiction

/-- An entry whose install fails is as before if no file was moved and no new directory
is in the way of an old file. -/
theorem sameFiles_bringIn_iff (h : Saved before slots) (hwf : before.WellFormed)
    (hpayload : before.payload = some tree) (hleft : before.meetsLeftovers = false) :
    SameFiles before (if before.root.isSome then (slots.bringIn system name).restore name
        else slots.bringIn system name) ↔
      NoFile (Phase.install.done system name before) ∧
        ∀ path, MoveStep.createDir path ∈ Phase.install.done system name before →
          fileAt before.root path = none := by
  have law := bringIn_law system name h hwf hpayload
  have hsource : (∀ path, fileAt (slots.bringIn system name).payload path =
      fileAt before.payload path) ↔ NoFile (Phase.install.done system name before) := by
    rw [done_install hpayload, hpayload]
    exact ⟨law.noFile_of_fileAt_source (hwf.payload tree hpayload),
      law.fileAt_source_of_noFile⟩
  by_cases hpresent : before.root.isSome = true
  · have hkept := (before.meetsLeftovers_eq_false_iff hwf).mp hleft hpresent
    have hback : NoFile (Phase.install.done system name before) →
        ((∀ path, fileAt ((slots.bringIn system name).restore name).root path =
          fileAt before.root path) ↔
        ∀ path, MoveStep.createDir path ∈ Phase.install.done system name before →
          fileAt before.root path = none) := by
      intro hnone
      rw [fileAt_restore_iff (slots.bringIn system name) h hpresent hkept rfl
        (fileAt_bringIn h hwf hpayload hnone)]
      refine forall_congr' fun path => imp_congr_left ?_
      rw [nodeAt_bringIn h hwf hpayload hnone]
      split <;> simp [*]
    rw [if_pos hpresent]
    constructor
    · intro hsame
      have hnone := hsource.mp hsame.payload
      exact ⟨hnone, (hback hnone).mp hsame.root⟩
    · rintro ⟨hnone, hdirs⟩
      exact ⟨(hback hnone).mpr hdirs, hsource.mpr hnone⟩
  · have hempty : before.root = none := by simpa using hpresent
    rw [if_neg hpresent]
    constructor
    · intro hsame
      refine ⟨hsource.mp hsame.payload, fun path _ => ?_⟩
      rw [hempty, fileAt_none]
    · rintro ⟨hnone, -⟩
      refine ⟨fun path => ?_, hsource.mpr hnone⟩
      rw [fileAt_bringIn h hwf hpayload hnone, hempty, fileAt_none]

end

/-! ## A run of the loop -/

/-- Where the loop stops: the entries that are in place, the one that is not, and the
move that fails. -/
structure Stop where
  earlier : List Name
  name : Name
  phase : Phase
deriving DecidableEq, Repr

/-- The first entry with a move that fails. -/
def firstStop (system : FileSystem) (original : Install) : List Name → Option Stop
  | [] => none
  | name :: names =>
      if Phase.backup.succeeds system name (original.slots name) = false then
        some ⟨[], name, Phase.backup⟩
      else if Phase.install.succeeds system name (original.slots name) = false then
        some ⟨[], name, Phase.install⟩
      else (firstStop system original names).map fun stop =>
        { stop with earlier := name :: stop.earlier }

/-- The files are all where they were after the rollback from this stop. -/
structure Stop.Undone (system : FileSystem) (original : Install) (stop : Stop) : Prop where
  earlier : ∀ name ∈ stop.earlier, (original.slots name).meetsLeftovers = false
  noFile : NoFile (stop.phase.done system stop.name (original.slots stop.name))
  install : stop.phase = Phase.install →
    (original.slots stop.name).meetsLeftovers = false ∧
      ∀ path, MoveStep.createDir path ∈
          Phase.install.done system stop.name (original.slots stop.name) →
        fileAt (original.slots stop.name).root path = none

/-- The root and the payload have the files they had. -/
def Unchanged (original install : Install) : Prop :=
  ∀ name, SameFiles (original.slots name) (install.slots name)

/-- The entries that are in place, in the middle of a run. -/
structure Progress (original install : Install) (backedUp installed : List Name) : Prop where
  placed : ∀ name ∈ installed, Placed (original.slots name) (install.slots name)
  untouched : ∀ name, name ∉ installed → install.slots name = original.slots name
  saved : ∀ name, name ∈ backedUp ↔ name ∈ installed ∧ (original.slots name).root.isSome
  nodupBackedUp : backedUp.Nodup
  nodupInstalled : installed.Nodup

section

variable {system : FileSystem} {original install : Install} {backedUp installed : List Name}

theorem Progress.start (original : Install) : Progress original original [] [] where
  placed := nofun
  untouched _ _ := rfl
  saved name := by simp
  nodupBackedUp := List.nodup_nil
  nodupInstalled := List.nodup_nil

/-- The rollback, entry by entry. -/
theorem Progress.unchanged_iff (h : Progress original install backedUp installed)
    (hwf : ∀ name, (original.slots name).WellFormed) {name : Name} (hnew : name ∉ installed)
    (stopped : Install) (saved : List Name)
    (hframe : ∀ other, other ≠ name → stopped.slots other = install.slots other)
    (hsaved : ∀ other, other ≠ name → (other ∈ saved ↔ other ∈ backedUp))
    (hnodup : saved.Nodup) :
    Unchanged original (stopped.rollback saved installed) ↔
      (∀ other ∈ installed, (original.slots other).meetsLeftovers = false) ∧
        SameFiles (original.slots name) (if name ∈ saved then
          (stopped.slots name).restore name else stopped.slots name) := by
  have hrollback := Install.slots_rollback hnodup h.nodupInstalled stopped
  have hplaced : ∀ other ∈ installed,
      (SameFiles (original.slots other) ((stopped.rollback saved installed).slots other) ↔
        (original.slots other).meetsLeftovers = false) := by
    intro other hmem
    have hne : other ≠ name := fun hsame => hnew (hsame ▸ hmem)
    have hpresent : other ∈ saved ↔ (original.slots other).root.isSome = true :=
      (hsaved other hne).trans ((h.saved other).trans (and_iff_right hmem))
    rw [hrollback, if_pos hmem, hframe other hne]
    simp only [hpresent]
    exact (h.placed other hmem).sameFiles_iff (hwf other) other
  have hstopped : (stopped.rollback saved installed).slots name =
      if name ∈ saved then (stopped.slots name).restore name else stopped.slots name := by
    rw [hrollback, if_neg hnew]
  constructor
  · intro hsame
    refine ⟨fun other hmem => (hplaced other hmem).mp (hsame other), ?_⟩
    rw [← hstopped]
    exact hsame name
  · rintro ⟨hleft, hname⟩ other
    by_cases hother : other = name
    · rw [hother, hstopped]
      exact hname
    · by_cases hmem : other ∈ installed
      · exact (hplaced other hmem).mpr (hleft other hmem)
      · have hnot : other ∉ saved := by
          rw [hsaved other hother, h.saved]
          exact fun hboth => hmem hboth.1
        rw [hrollback, if_neg hmem, hframe other hother, h.untouched other hmem, if_neg hnot]
        exact ⟨fun _ => rfl, fun _ => rfl⟩

/-- The directories after the first move of an entry. -/
def Install.afterBackup (system : FileSystem) (install : Install) (name : Name) : Install :=
  if (install.slots name).root.isSome then (install.backUp system name).1 else install

/-- The list of the entries in the backup after the first move of an entry. -/
def Install.backedUpWith (install : Install) (backedUp : List Name) (name : Name) : List Name :=
  if (install.slots name).root.isSome then name :: backedUp else backedUp

theorem slots_afterBackup_of_ne {name other : Name} (hne : other ≠ name) :
    (install.afterBackup system name).slots other = install.slots other := by
  rw [Install.afterBackup]
  split
  · rw [Install.slots_backUp, if_neg hne]
  · rfl

theorem saved_afterBackup {name : Name} (hwf : (install.slots name).WellFormed)
    (h : Phase.backup.succeeds system name (install.slots name) = true) :
    Saved (install.slots name) ((install.afterBackup system name).slots name) := by
  rw [Install.afterBackup]
  cases hroot : (install.slots name).root with
  | none => exact saved_of_absent hwf hroot
  | some tree =>
      rw [Option.isSome_some, if_pos rfl, Install.slots_backUp, if_pos rfl]
      exact saved_of_succeeds hwf hroot h

theorem succeeds_backup_of_absent {name : Name} {slots : Slots} (h : slots.root = none) :
    Phase.backup.succeeds system name slots = true := by
  rw [Phase.succeeds, Phase.steps, h]
  rfl

/-- The first move of the next entry fails. -/
theorem applyNames_backup_fails {name : Name} (names backedUp installed : List Name)
    (hwf : (install.slots name).WellFormed)
    (h : Phase.backup.succeeds system name (install.slots name) = false) :
    ∃ error, Install.applyNames system (name :: names) install backedUp installed =
      ((install.backUp system name).1.rollback backedUp installed, some error) := by
  cases hroot : (install.slots name).root with
  | none =>
      rw [succeeds_backup_of_absent hroot] at h
      contradiction
  | some tree =>
      have herror : (install.backUp system name).2 ≠ none := by
        rw [Install.backUp, moveNamed_error]
        intro hnone
        have hsucceeds := (succeeds_backup_iff hwf hroot).mp hnone
        rw [h] at hsucceeds
        contradiction
      obtain ⟨error, herror⟩ := Option.ne_none_iff_exists'.mp herror
      have hpresent : (install.root.lookup name).isSome = true :=
        Option.isSome_iff_exists.mpr ⟨tree, hroot⟩
      refine ⟨SwapError.backupFailed name error, ?_⟩
      rw [Install.applyNames]
      dsimp only
      rw [if_pos hpresent, herror]

/-- The first move of the next entry succeeds. -/
theorem applyNames_backup_succeeds {name : Name} (names : List Name)
    (hwf : (install.slots name).WellFormed)
    (h : Phase.backup.succeeds system name (install.slots name) = true) :
    Install.applyNames system (name :: names) install backedUp installed =
      match ((install.afterBackup system name).bringIn system name).2 with
      | some error =>
          (((install.afterBackup system name).bringIn system name).1.rollback
            (install.backedUpWith backedUp name) installed,
            some (SwapError.installFailed name error))
      | none => Install.applyNames system names
          ((install.afterBackup system name).bringIn system name).1
          (install.backedUpWith backedUp name) (name :: installed) := by
  rw [Install.applyNames, Install.afterBackup, Install.backedUpWith]
  cases hroot : (install.slots name).root with
  | none =>
      have habsent : (install.root.lookup name).isSome = false :=
        Option.isSome_eq_false_iff.mpr (Option.isNone_iff_eq_none.mpr hroot)
      rw [habsent]
      rfl
  | some tree =>
      have hpresent : (install.root.lookup name).isSome = true :=
        Option.isSome_iff_exists.mpr ⟨tree, hroot⟩
      have herror : (install.backUp system name).2 = none := by
        rw [Install.backUp, moveNamed_error]
        exact (succeeds_backup_iff hwf hroot).mpr h
      dsimp only
      rw [if_pos hpresent, herror, hpresent]
      rfl

theorem bringIn_error_iff {name : Name} (hwf : (install.slots name).WellFormed)
    (hpayload : (install.slots name).payload.isSome)
    (h : Phase.backup.succeeds system name (install.slots name) = true) :
    ((install.afterBackup system name).bringIn system name).2 = none ↔
      Phase.install.succeeds system name (install.slots name) = true := by
  obtain ⟨tree, htree⟩ := Option.isSome_iff_exists.mp hpayload
  rw [Install.bringIn, moveNamed_error]
  exact succeeds_install_iff (saved_afterBackup hwf h) hwf htree

theorem mem_backedUpWith_of_ne {name other : Name} (hne : other ≠ name) :
    other ∈ install.backedUpWith backedUp name ↔ other ∈ backedUp := by
  rw [Install.backedUpWith]
  split
  · rw [List.mem_cons]
    exact or_iff_right hne
  · rfl

theorem Progress.nodup_backedUpWith (h : Progress original install backedUp installed)
    {name : Name} (hnew : name ∉ installed) : (install.backedUpWith backedUp name).Nodup := by
  have hnot : name ∉ backedUp := fun hmem => hnew ((h.saved name).mp hmem).1
  rw [Install.backedUpWith]
  split
  · exact List.nodup_cons.mpr ⟨hnot, h.nodupBackedUp⟩
  · exact h.nodupBackedUp

theorem Progress.mem_backedUpWith (h : Progress original install backedUp installed)
    {name : Name} (hnew : name ∉ installed) :
    name ∈ install.backedUpWith backedUp name ↔ (original.slots name).root.isSome := by
  have hnot : name ∉ backedUp := fun hmem => hnew ((h.saved name).mp hmem).1
  rw [Install.backedUpWith, h.untouched name hnew]
  split
  · rename_i hpresent
    exact iff_of_true List.mem_cons_self hpresent
  · rename_i habsent
    exact iff_of_false hnot habsent

/-- An entry with two moves that succeed is in place. -/
theorem Progress.next (h : Progress original install backedUp installed)
    (hwf : ∀ name, (original.slots name).WellFormed) {name : Name} (hnew : name ∉ installed)
    (hpayload : (original.slots name).payload.isSome)
    (hbackup : Phase.backup.succeeds system name (original.slots name) = true)
    (hinstall : Phase.install.succeeds system name (original.slots name) = true) :
    Progress original ((install.afterBackup system name).bringIn system name).1
      (install.backedUpWith backedUp name) (name :: installed) := by
  have hslots := h.untouched name hnew
  obtain ⟨tree, htree⟩ := Option.isSome_iff_exists.mp hpayload
  have hframe : ∀ other, other ≠ name →
      ((install.afterBackup system name).bringIn system name).1.slots other =
        install.slots other := by
    intro other hne
    rw [Install.slots_bringIn, if_neg hne, slots_afterBackup_of_ne hne]
  constructor
  · intro other hmem
    rcases List.mem_cons.mp hmem with rfl | hmem
    · have hsaved : Saved (install.slots other)
          ((install.afterBackup system other).slots other) :=
        saved_afterBackup (hslots ▸ hwf other) (hslots ▸ hbackup)
      rw [hslots] at hsaved
      rw [Install.slots_bringIn, if_pos rfl]
      exact placed_of_succeeds hsaved (hwf other) htree hinstall
    · rw [hframe other fun hsame => hnew (hsame ▸ hmem)]
      exact h.placed other hmem
  · intro other hnot
    rw [List.mem_cons, not_or] at hnot
    rw [hframe other hnot.1]
    exact h.untouched other hnot.2
  · intro other
    rw [List.mem_cons]
    by_cases hother : other = name
    · subst hother
      rw [h.mem_backedUpWith hnew]
      exact (and_iff_right (Or.inl rfl)).symm
    · rw [mem_backedUpWith_of_ne hother, h.saved, or_iff_right hother]
  · exact h.nodup_backedUpWith hnew
  · exact List.nodup_cons.mpr ⟨hnew, h.nodupInstalled⟩

/-- The old files are where they were after a stop, if the entry where the loop stops
met no leftovers when it was installed. -/
structure Verdict (system : FileSystem) (original : Install) (installed : List Name)
    (stop : Stop) (result : Install × Option SwapError) : Prop where
  error : result.2 ≠ none
  enough : (∀ name ∈ installed, (original.slots name).meetsLeftovers = false) →
    stop.Undone system original → Unchanged original result.1
  needed : Unchanged original result.1 →
    (stop.phase = Phase.install → (original.slots stop.name).meetsLeftovers = false) →
    (∀ name ∈ installed, (original.slots name).meetsLeftovers = false) ∧
      stop.Undone system original

theorem Progress.verdict_backup (h : Progress original install backedUp installed)
    (hwf : ∀ name, (original.slots name).WellFormed) {name : Name} (hnew : name ∉ installed)
    (names : List Name)
    (hbackup : Phase.backup.succeeds system name (original.slots name) = false) :
    Verdict system original installed ⟨[], name, Phase.backup⟩
      (Install.applyNames system (name :: names) install backedUp installed) := by
  have hslots := h.untouched name hnew
  obtain ⟨error, hresult⟩ := applyNames_backup_fails names backedUp installed
    (hslots ▸ hwf name) (hslots ▸ hbackup)
  have hnot : name ∉ backedUp := fun hmem => hnew ((h.saved name).mp hmem).1
  obtain ⟨tree, htree⟩ : ∃ tree, (original.slots name).root = some tree := by
    rw [← Option.isSome_iff_exists, Option.isSome_iff_ne_none]
    intro hnone
    rw [succeeds_backup_of_absent hnone] at hbackup
    contradiction
  have hunchanged := h.unchanged_iff hwf hnew (install.backUp system name).1 backedUp
    (fun other hne => (Install.slots_backUp _ _ _ _).trans (if_neg hne)) (fun _ _ => Iff.rfl)
    h.nodupBackedUp
  rw [if_neg hnot, Install.slots_backUp, if_pos rfl, hslots,
    sameFiles_backUp_iff (hwf name) htree] at hunchanged
  rw [hresult]
  constructor
  · exact Option.some_ne_none _
  · intro hearlier hundone
    exact hunchanged.mpr ⟨hearlier, hundone.noFile⟩
  · intro hsame _
    obtain ⟨hearlier, hnone⟩ := hunchanged.mp hsame
    exact ⟨hearlier, nofun, hnone, nofun⟩

theorem Progress.verdict_install (h : Progress original install backedUp installed)
    (hwf : ∀ name, (original.slots name).WellFormed) {name : Name} (hnew : name ∉ installed)
    (hpayload : (original.slots name).payload.isSome) (names : List Name)
    (hbackup : Phase.backup.succeeds system name (original.slots name) = true)
    (hinstall : Phase.install.succeeds system name (original.slots name) = false) :
    Verdict system original installed ⟨[], name, Phase.install⟩
      (Install.applyNames system (name :: names) install backedUp installed) := by
  have hslots := h.untouched name hnew
  obtain ⟨tree, htree⟩ := Option.isSome_iff_exists.mp hpayload
  have hnowWf : (install.slots name).WellFormed := hslots ▸ hwf name
  have hnowBackup : Phase.backup.succeeds system name (install.slots name) = true :=
    hslots ▸ hbackup
  have hsaved := saved_afterBackup hnowWf hnowBackup
  have hfails : ((install.afterBackup system name).bringIn system name).2 ≠ none := by
    rw [ne_eq, bringIn_error_iff hnowWf (hslots ▸ hpayload) hnowBackup, hslots, hinstall]
    exact Bool.false_ne_true
  obtain ⟨error, herror⟩ := Option.ne_none_iff_exists'.mp hfails
  have hunchanged := h.unchanged_iff hwf hnew
    ((install.afterBackup system name).bringIn system name).1
    (install.backedUpWith backedUp name)
    (fun other hne => by rw [Install.slots_bringIn, if_neg hne, slots_afterBackup_of_ne hne])
    (fun other hne => mem_backedUpWith_of_ne hne) (h.nodup_backedUpWith hnew)
  rw [Install.slots_bringIn, if_pos rfl] at hunchanged
  simp only [h.mem_backedUpWith hnew] at hunchanged
  rw [hslots] at hsaved
  rw [applyNames_backup_succeeds names hnowWf hnowBackup, herror]
  constructor
  · exact Option.some_ne_none _
  · intro hearlier hundone
    obtain ⟨hleft, hdirs⟩ := hundone.install rfl
    refine hunchanged.mpr ⟨hearlier, ?_⟩
    exact (sameFiles_bringIn_iff hsaved (hwf name) htree hleft).mpr ⟨hundone.noFile, hdirs⟩
  · intro hsame hleft
    obtain ⟨hearlier, hname⟩ := hunchanged.mp hsame
    obtain ⟨hnone, hdirs⟩ :=
      (sameFiles_bringIn_iff hsaved (hwf name) htree (hleft rfl)).mp hname
    exact ⟨hearlier, nofun, hnone, fun _ => ⟨hleft rfl, hdirs⟩⟩

/-- The loop goes on after an entry with two moves that succeed. -/
theorem Progress.applyNames_next (h : Progress original install backedUp installed)
    (hwf : ∀ name, (original.slots name).WellFormed) {name : Name} (hnew : name ∉ installed)
    (hpayload : (original.slots name).payload.isSome) (names : List Name)
    (hbackup : Phase.backup.succeeds system name (original.slots name) = true)
    (hinstall : Phase.install.succeeds system name (original.slots name) = true) :
    Install.applyNames system (name :: names) install backedUp installed =
      Install.applyNames system names ((install.afterBackup system name).bringIn system name).1
        (install.backedUpWith backedUp name) (name :: installed) := by
  have hslots := h.untouched name hnew
  have hsucceeds : ((install.afterBackup system name).bringIn system name).2 = none :=
    (bringIn_error_iff (hslots ▸ hwf name) (hslots ▸ hpayload) (hslots ▸ hbackup)).mpr
      (hslots ▸ hinstall)
  rw [applyNames_backup_succeeds names (hslots ▸ hwf name) (hslots ▸ hbackup), hsucceeds]

/-- A run that stops leaves the files where they were by the entry where it stops. -/
theorem applyNames_verdict (hwf : ∀ name, (original.slots name).WellFormed)
    {names : List Name} {stop : Stop} (hstop : firstStop system original names = some stop)
    (h : Progress original install backedUp installed) (hnodup : names.Nodup)
    (hnew : ∀ name ∈ names, name ∉ installed)
    (hpayload : ∀ name ∈ names, (original.slots name).payload.isSome) :
    Verdict system original installed stop
      (Install.applyNames system names install backedUp installed) := by
  induction names generalizing install backedUp installed stop with
  | nil => contradiction
  | cons name names ih =>
      have hname := hnew name List.mem_cons_self
      have hpresent := hpayload name List.mem_cons_self
      rw [firstStop] at hstop
      by_cases hbackup : Phase.backup.succeeds system name (original.slots name) = false
      · rw [if_pos hbackup] at hstop
        rw [← Option.some.inj hstop]
        exact h.verdict_backup hwf hname names hbackup
      · rw [if_neg hbackup] at hstop
        rw [Bool.not_eq_false] at hbackup
        by_cases hinstall : Phase.install.succeeds system name (original.slots name) = false
        · rw [if_pos hinstall] at hstop
          rw [← Option.some.inj hstop]
          exact h.verdict_install hwf hname hpresent names hbackup hinstall
        · rw [if_neg hinstall, Option.map_eq_some_iff] at hstop
          rw [Bool.not_eq_false] at hinstall
          obtain ⟨later, hlater, rfl⟩ := hstop
          rw [List.nodup_cons] at hnodup
          have verdict := ih hlater (h.next hwf hname hpresent hbackup hinstall) hnodup.2
            (fun other hmem hin => (List.mem_cons.mp hin).elim
              (fun hsame => hnodup.1 (hsame ▸ hmem))
              (hnew other (List.mem_cons_of_mem _ hmem)))
            (fun other hmem => hpayload other (List.mem_cons_of_mem _ hmem))
          rw [h.applyNames_next hwf hname hpresent names hbackup hinstall]
          constructor
          · exact verdict.error
          · intro hearlier hundone
            obtain ⟨hfirst, hrest⟩ := List.forall_mem_cons.mp hundone.earlier
            exact verdict.enough (List.forall_mem_cons.mpr ⟨hfirst, hearlier⟩)
              ⟨hrest, hundone.noFile, hundone.install⟩
          · intro hsame hleft
            obtain ⟨hearlier, hundone⟩ := verdict.needed hsame hleft
            obtain ⟨hfirst, hbefore⟩ := List.forall_mem_cons.mp hearlier
            exact ⟨hbefore, List.forall_mem_cons.mpr ⟨hfirst, hundone.earlier⟩,
              hundone.noFile, hundone.install⟩

/-- A run that does not stop puts every entry in place. -/
theorem applyNames_complete (hwf : ∀ name, (original.slots name).WellFormed)
    {names : List Name} (hstop : firstStop system original names = none)
    (h : Progress original install backedUp installed) (hnodup : names.Nodup)
    (hnew : ∀ name ∈ names, name ∉ installed)
    (hpayload : ∀ name ∈ names, (original.slots name).payload.isSome) :
    ∃ backedUp' installed',
      (Install.applyNames system names install backedUp installed).2 = none ∧
      Progress original (Install.applyNames system names install backedUp installed).1
        backedUp' installed' ∧
      ∀ name, name ∈ installed' ↔ name ∈ names ∨ name ∈ installed := by
  induction names generalizing install backedUp installed with
  | nil => exact ⟨backedUp, installed, rfl, h, fun name => by simp⟩
  | cons name names ih =>
      have hname := hnew name List.mem_cons_self
      have hpresent := hpayload name List.mem_cons_self
      rw [firstStop] at hstop
      by_cases hbackup : Phase.backup.succeeds system name (original.slots name) = false
      · rw [if_pos hbackup] at hstop
        contradiction
      · rw [if_neg hbackup] at hstop
        rw [Bool.not_eq_false] at hbackup
        by_cases hinstall : Phase.install.succeeds system name (original.slots name) = false
        · rw [if_pos hinstall] at hstop
          contradiction
        · rw [if_neg hinstall, Option.map_eq_none_iff] at hstop
          rw [Bool.not_eq_false] at hinstall
          rw [List.nodup_cons] at hnodup
          obtain ⟨backedUp', installed', herror, hprogress, hmem⟩ :=
            ih hstop (h.next hwf hname hpresent hbackup hinstall) hnodup.2
              (fun other hmem hin => (List.mem_cons.mp hin).elim
                (fun hsame => hnodup.1 (hsame ▸ hmem))
                (hnew other (List.mem_cons_of_mem _ hmem)))
              (fun other hmem => hpayload other (List.mem_cons_of_mem _ hmem))
          rw [h.applyNames_next hwf hname hpresent names hbackup hinstall]
          refine ⟨backedUp', installed', herror, hprogress, fun other => ?_⟩
          rw [hmem, List.mem_cons, List.mem_cons]
          tauto

end

/-! ## The whole update -/

/-- `applyPayload` is all or nothing, on these trees. -/
def AllOrNothing (system : FileSystem) (root : Entries) (payload : Option Entries)
    (backup : Option Tree) : Prop :=
  let outcome := applyPayload system root payload backup
  if outcome.error = none then
    ∀ entries ∈ payload,
      (∀ name ∈ entries.map Prod.fst, ∀ path,
        nodeAt (outcome.root.lookup name) path = nodeAt (entries.lookup name) path) ∧
      (∀ name ∈ entries.map Prod.fst, ∀ path content,
        fileAt (root.lookup name) path = some content →
          fileAt outcome.backup (name :: path) = some content) ∧
      ∀ name ∉ entries.map Prod.fst, outcome.root.lookup name = root.lookup name
  else
    (∀ path, fileAt (some (FileTree.dir outcome.root)) path =
      fileAt (some (FileTree.dir root)) path) ∧
    ∀ path, fileAt (outcome.payload.map FileTree.dir) path =
      fileAt (payload.map FileTree.dir) path

/-- Where the update stops, when the payload is there and the backup can be created. -/
def updateStop (system : FileSystem) (root : Entries) (payload : Option Entries)
    (backup : Option Tree) : Option (Install × Stop) :=
  match payload, mkpath system ⟨Area.backup, []⟩ backup with
  | some entries, some existing =>
      (firstStop system ⟨root, entries, existing⟩ (entries.map Prod.fst)).map fun stop =>
        (⟨root, entries, existing⟩, stop)
  | _, _ => none

theorem mkpath_wellFormed {system : FileSystem} {path : FilePath} {there : Option Tree}
    {existing : Entries} (hthere : ∀ tree ∈ there, tree.WellFormed)
    (h : mkpath system path there = some existing) : (FileTree.dir existing).WellFormed := by
  cases there with
  | none =>
      rw [mkpath, Option.ite_none_right_eq_some, Option.some.injEq] at h
      rw [← h.2]
      exact WellFormed.dir [] List.nodup_nil (by simp)
  | some tree =>
      cases tree with
      | file content => contradiction
      | dir entries =>
          rw [← Option.some.inj h]
          exact hthere _ rfl

theorem slots_wellFormed {install : Install} (hroot : (FileTree.dir install.root).WellFormed)
    (hpayload : (FileTree.dir install.payload).WellFormed)
    (hbackup : (FileTree.dir install.backup).WellFormed) (name : Name) :
    (install.slots name).WellFormed where
  root _ := hroot.of_lookup
  payload _ := hpayload.of_lookup
  backup _ := hbackup.of_lookup

theorem payload_isSome_of_mem {install : Install} {name : Name}
    (h : name ∈ install.payload.map Prod.fst) : (install.slots name).payload.isSome := by
  rw [Option.isSome_iff_ne_none]
  exact fun hnone => lookup_eq_none_iff.mp hnone h

/-- The files of the directories, by the slots of each name. -/
theorem unchanged_iff {original install : Install} :
    Unchanged original install ↔
      (∀ path, fileAt (some (FileTree.dir install.root)) path =
        fileAt (some (FileTree.dir original.root)) path) ∧
      ∀ path, fileAt (some (FileTree.dir install.payload)) path =
        fileAt (some (FileTree.dir original.payload)) path := by
  constructor
  · intro h
    exact ⟨fileAt_dir_congr fun name => (h name).root,
      fileAt_dir_congr fun name => (h name).payload⟩
  · rintro ⟨hroot, hpayload⟩ name
    exact ⟨fun path => hroot (name :: path), fun path => hpayload (name :: path)⟩

/-- A run without a stop has moved every entry. -/
theorem allOrNothing_of_complete {system : FileSystem} {root entries existing : Entries}
    {backup : Option Tree} (hroot : (FileTree.dir root).WellFormed)
    (hpayload : (FileTree.dir entries).WellFormed)
    (hexisting : (FileTree.dir existing).WellFormed)
    (hmkpath : mkpath system ⟨Area.backup, []⟩ backup = some existing)
    (hstop : firstStop system ⟨root, entries, existing⟩ (entries.map Prod.fst) = none) :
    AllOrNothing system root (some entries) backup := by
  have hnodup : (entries.map Prod.fst).Nodup := by
    rcases hpayload with _ | ⟨_, hnodup, -⟩
    exact hnodup
  obtain ⟨backedUp, installed, herror, hprogress, hmem⟩ := applyNames_complete
    (slots_wellFormed hroot hpayload hexisting) hstop (Progress.start _) hnodup
    (fun _ _ => List.not_mem_nil) (fun name hname => payload_isSome_of_mem hname)
  have hinstalled : ∀ name, name ∈ installed ↔ name ∈ entries.map Prod.fst :=
    fun name => (hmem name).trans (or_iff_left List.not_mem_nil)
  unfold AllOrNothing applyPayload
  rw [hmkpath]
  dsimp only
  rw [if_pos herror]
  intro listed hlisted
  obtain rfl : entries = listed := Option.some.inj hlisted
  refine ⟨fun name hname path => ?_, fun name hname path content hfile => ?_,
    fun name hname => ?_⟩
  · exact (hprogress.placed name ((hinstalled name).mpr hname)).root path
  · have hnode := (hprogress.placed name ((hinstalled name).mpr hname)).backup path
    rw [fileAt_eq_some_iff] at hfile
    rw [fileAt_dir_cons, fileAt_eq_some_iff]
    exact hnode.trans (by rw [Install.slots, hfile, Option.some_or])
  · exact congrArg Slots.root
      (hprogress.untouched name fun hin => hname ((hinstalled name).mp hin))

/-- A run with a stop has failed. -/
theorem allOrNothing_of_stop {system : FileSystem} {root entries existing : Entries}
    {backup : Option Tree} {stop : Stop} (hroot : (FileTree.dir root).WellFormed)
    (hpayload : (FileTree.dir entries).WellFormed)
    (hexisting : (FileTree.dir existing).WellFormed)
    (hmkpath : mkpath system ⟨Area.backup, []⟩ backup = some existing)
    (hstop : firstStop system ⟨root, entries, existing⟩ (entries.map Prod.fst) = some stop) :
    (stop.Undone system ⟨root, entries, existing⟩ →
        AllOrNothing system root (some entries) backup) ∧
      (AllOrNothing system root (some entries) backup →
        (stop.phase = Phase.install →
          (Install.slots ⟨root, entries, existing⟩ stop.name).meetsLeftovers = false) →
        stop.Undone system ⟨root, entries, existing⟩) := by
  have hnodup : (entries.map Prod.fst).Nodup := by
    rcases hpayload with _ | ⟨_, hnodup, -⟩
    exact hnodup
  have verdict := applyNames_verdict (slots_wellFormed hroot hpayload hexisting) hstop
    (Progress.start _) hnodup (fun _ _ => List.not_mem_nil)
    (fun name hname => payload_isSome_of_mem hname)
  have hiff : AllOrNothing system root (some entries) backup ↔
      Unchanged ⟨root, entries, existing⟩ (Install.applyNames system (entries.map Prod.fst)
        ⟨root, entries, existing⟩ [] []).1 := by
    rw [unchanged_iff]
    unfold AllOrNothing applyPayload
    rw [hmkpath]
    dsimp only
    rw [if_neg verdict.error]
    rfl
  rw [hiff]
  exact ⟨verdict.enough nofun, fun hsame hleft => (verdict.needed hsame hleft).2⟩

/-- An update that fails before the first entry changes nothing. -/
theorem allOrNothing_of_not_started {system : FileSystem} {root : Entries}
    {payload : Option Entries} {backup : Option Tree}
    (h : payload = none ∨ mkpath system ⟨Area.backup, []⟩ backup = none) :
    AllOrNothing system root payload backup := by
  have houtcome : ∃ error, applyPayload system root payload backup =
      ⟨root, payload, backup, some error⟩ := by
    unfold applyPayload
    cases payload with
    | none => exact ⟨_, rfl⟩
    | some entries =>
        rw [h.resolve_left (Option.some_ne_none _)]
        exact ⟨_, rfl⟩
  obtain ⟨error, houtcome⟩ := houtcome
  unfold AllOrNothing
  rw [houtcome]
  dsimp only
  rw [if_neg (Option.some_ne_none _)]
  exact ⟨fun _ => rfl, fun _ => rfl⟩

/-- The update is all or nothing if the entry where it stops had no file moved, and the
rollback finds what it looks for and nothing else.  The condition is exact but for an
install that fails after its own entry has met leftovers in the backup. -/
theorem applyPayload_allOrNothing (system : FileSystem) (root : Entries)
    (payload : Option Entries) (backup : Option Tree)
    (hroot : (FileTree.dir root).WellFormed)
    (hpayload : ∀ entries ∈ payload, (FileTree.dir entries).WellFormed)
    (hbackup : ∀ tree ∈ backup, tree.WellFormed) :
    ((∀ stopped ∈ updateStop system root payload backup,
        stopped.2.Undone system stopped.1) → AllOrNothing system root payload backup) ∧
      (AllOrNothing system root payload backup →
        ∀ stopped ∈ updateStop system root payload backup,
          (stopped.2.phase = Phase.install →
            (stopped.1.slots stopped.2.name).meetsLeftovers = false) →
          stopped.2.Undone system stopped.1) := by
  unfold updateStop
  cases payload with
  | none => exact ⟨fun _ => allOrNothing_of_not_started (Or.inl rfl), nofun⟩
  | some entries =>
      have hentries := hpayload entries rfl
      cases hmkpath : mkpath system ⟨Area.backup, []⟩ backup with
      | none => exact ⟨fun _ => allOrNothing_of_not_started (Or.inr hmkpath), nofun⟩
      | some existing =>
          have hexisting := mkpath_wellFormed hbackup hmkpath
          dsimp only
          cases hstop : firstStop system ⟨root, entries, existing⟩ (entries.map Prod.fst) with
          | none =>
              refine ⟨fun _ => ?_, ?_⟩
              · exact allOrNothing_of_complete hroot hentries hexisting hmkpath hstop
              · exact nofun
          | some stop =>
              have hboth := allOrNothing_of_stop hroot hentries hexisting hmkpath hstop
              rw [Option.map_some]
              constructor
              · exact fun hundone => hboth.1 (hundone _ rfl)
              · rintro hsame stopped ⟨⟩
                exact hboth.2 hsame

/-- All calls succeed but the renames to one path. -/
def exceptRename (blocked : FilePath) : FileSystem where
  mkdir _ := true
  rename _ target _ := target ≠ blocked

/-- A directory with two entries, of which the second holds a file. -/
def twoFiles : Entries :=
  [([1], FileTree.dir [([1], FileTree.file [7]), ([2], FileTree.file [8])])]

/-- An update over one file, into an empty backup. -/
theorem applyPayload_allOrNothing_updated :
    AllOrNothing reliable [([1], FileTree.file [6]), ([3], FileTree.file [5])]
      (some twoFiles) none := by
  have hroot : (FileTree.dir [([1], FileTree.file [6]), ([3], FileTree.file [5])] :
      Tree).WellFormed := by
    refine WellFormed.dir _ (by decide) fun entry hmem => ?_
    rcases List.mem_pair.mp hmem with rfl | rfl
    · exact WellFormed.file _
    · exact WellFormed.file _
  have hpayload : ∀ entries ∈ some twoFiles, (FileTree.dir entries).WellFormed := by
    rintro entries ⟨⟩
    refine WellFormed.dir _ (by decide) fun entry hmem => ?_
    rw [List.mem_singleton.mp hmem]
    refine WellFormed.dir _ (by decide) fun entry hmem => ?_
    rcases List.mem_pair.mp hmem with rfl | rfl
    · exact WellFormed.file _
    · exact WellFormed.file _
  have hstop : updateStop reliable [([1], FileTree.file [6]), ([3], FileTree.file [5])]
      (some twoFiles) none = none := rfl
  refine (applyPayload_allOrNothing reliable _ _ none hroot hpayload nofun).1 ?_
  rw [hstop]
  exact nofun

/-- The second rename of a directory fails: its first file stays in the root.  The
second entry of a payload fails: the first comes back with the file that the backup had
kept of an earlier update. -/
theorem rollback_leaves_files :
    ¬ AllOrNothing (exceptRename ⟨Area.root, [[1], [2]]⟩) [] (some twoFiles) none ∧
    ¬ AllOrNothing (exceptRename ⟨Area.root, [[2]]⟩) [([1], FileTree.dir [])]
      (some [([1], FileTree.dir []), ([2], FileTree.file [8])])
      (some (FileTree.dir [([1], FileTree.dir [([9], FileTree.file [4])])])) := by
  constructor
  · intro h
    have hfiles := h.1 [[1], [1]]
    contradiction
  · intro h
    have hfiles := h.1 [[1], [9]]
    contradiction

end Update
end Driscord
