import Driscord.Bytes
import Driscord.Library.FileTree

/-!
# Applying an update

`install_swap::applyPayload` moves the entries of the payload into the root, after
moving those of the same name from the root into the backup.  A directory is moved
file by file.  When a move fails, a rollback moves back the entries that were moved
completely.

The root, the payload and the backup are trees of their own.  Which of the calls that
create a directory or rename a file succeed is up to the file system, which may fail
each of them at its own path; what fails because of the trees (a file in the way) fails
in every file system.  A symbolic link is a file here.
-/

namespace Driscord
namespace Update

open Library Library.FileTree

/-- The name of a directory entry. -/
abbrev Name := Bytes

/-- A file or a directory, with the contents of the files. -/
abbrev Tree := FileTree Name Bytes

abbrev Entries := List (Name × Tree)

/-- The three directories. -/
inductive Area where
  | root
  | payload
  | backup
deriving DecidableEq, Repr

structure FilePath where
  area : Area
  names : List Name
deriving DecidableEq, Repr

/-- `filePath`, of an entry of a directory. -/
def FilePath.child (path : FilePath) (name : Name) : FilePath :=
  { path with names := path.names ++ [name] }

/-- The error of a `SwapResult`. -/
inductive SwapError where
  | cannotCreate (path : FilePath)
  | alreadyExists (path : FilePath)
  | cannotMove (source target : FilePath)
  | payloadMissing
  | backupFailed (name : Name) (error : SwapError)
  | installFailed (name : Name) (error : SwapError)
deriving DecidableEq, Repr

/-- Which calls succeed. -/
structure FileSystem where
  /-- A directory is created at the path. -/
  mkdir : FilePath → Bool
  /-- A file is renamed, at the given attempt. -/
  rename : FilePath → FilePath → Nat → Bool

/-- All calls succeed. -/
def reliable : FileSystem where
  mkdir _ := true
  rename _ _ _ := true

/-- `renameWithRetry`. -/
def renameWithRetry (system : FileSystem) (source target : FilePath) : Bool :=
  system.rename source target 0 || system.rename source target 1 ||
    system.rename source target 2

/-- `QDir().mkpath`: the entries of the directory that is there then. -/
def mkpath (system : FileSystem) (path : FilePath) : Option Tree → Option Entries
  | none => if system.mkdir path then some [] else none
  | some (FileTree.dir entries) => some entries
  | some (FileTree.file _) => none

/-- What a move leaves of the source and makes of the target. -/
structure Moved (α β : Type) where
  source : α
  target : β
  error : Option SwapError

mutual

/-- `moveEntry`. -/
def moveEntry (system : FileSystem) (source target : FilePath) :
    Tree → Option Tree → Moved (Option Tree) (Option Tree)
  | FileTree.dir entries, there =>
      match mkpath system target there with
      | none => ⟨some (FileTree.dir entries), there, some (SwapError.cannotCreate target)⟩
      | some existing =>
          let moved := moveEntries system source target entries existing
          -- `rmdir` removes the directory if nothing is left in it.
          ⟨if moved.error = none ∧ moved.source.isEmpty then none
            else some (FileTree.dir moved.source),
            some (FileTree.dir moved.target), moved.error⟩
  | FileTree.file content, some there =>
      ⟨some (FileTree.file content), some there, some (SwapError.alreadyExists target)⟩
  | FileTree.file content, none =>
      if renameWithRetry system source target then
        ⟨none, some (FileTree.file content), none⟩
      else
        ⟨some (FileTree.file content), none, some (SwapError.cannotMove source target)⟩

/-- The loop of `moveEntry` over the entries of a directory. -/
def moveEntries (system : FileSystem) (source target : FilePath) :
    List (Name × Tree) → Entries → Moved Entries Entries
  | [], existing => ⟨[], existing, none⟩
  | (name, tree) :: entries, existing =>
      let moved := moveEntry system (source.child name) (target.child name) tree
        (existing.lookup name)
      let left := moved.source.toList.map fun tree => (name, tree)
      match moved.error with
      | some error => ⟨left ++ entries, place existing name moved.target, some error⟩
      | none =>
          let others := moveEntries system source target entries
            (place existing name moved.target)
          ⟨left ++ others.source, others.target, others.error⟩

end

/-- The three directories. -/
structure Install where
  root : Entries
  payload : Entries
  backup : Entries

/-- `moveEntry` of an entry by its name. -/
def moveNamed (system : FileSystem) (source target : Area) (name : Name)
    (from_ to_ : Entries) : Moved Entries Entries :=
  match from_.lookup name with
  | none => ⟨from_, to_, some (SwapError.cannotMove ⟨source, [name]⟩ ⟨target, [name]⟩)⟩
  | some tree =>
      let moved := moveEntry system ⟨source, [name]⟩ ⟨target, [name]⟩ tree (to_.lookup name)
      ⟨place from_ name moved.source, place to_ name moved.target, moved.error⟩

namespace Install

/-- Move an entry of the root into the backup. -/
def backUp (system : FileSystem) (install : Install) (name : Name) :
    Install × Option SwapError :=
  let moved := moveNamed system Area.root Area.backup name install.root install.backup
  ({ install with root := moved.source, backup := moved.target }, moved.error)

/-- Move an entry of the payload into the root. -/
def bringIn (system : FileSystem) (install : Install) (name : Name) :
    Install × Option SwapError :=
  let moved := moveNamed system Area.payload Area.root name install.payload install.root
  ({ install with payload := moved.source, root := moved.target }, moved.error)

/-- The first loop of `rollback`: back into the payload. -/
def takeOut (install : Install) (name : Name) : Install :=
  let moved := moveNamed reliable Area.root Area.payload name install.root install.payload
  { install with root := moved.source, payload := moved.target }

/-- The second loop of `rollback`: back into the root. -/
def restore (install : Install) (name : Name) : Install :=
  let moved := moveNamed reliable Area.backup Area.root name install.backup install.root
  { install with backup := moved.source, root := moved.target }

/-- `rollback`; the lists begin with the last entry. -/
def rollback (install : Install) (backedUp installed : List Name) : Install :=
  backedUp.foldl restore (installed.foldl takeOut install)

/-- The loop of `applyPayload`; `backedUp` and `installed` begin with the last entry. -/
def applyNames (system : FileSystem) :
    List Name → Install → List Name → List Name → Install × Option SwapError
  | [], install, _, _ => (install, none)
  | name :: names, install, backedUp, installed =>
      let present := (install.root.lookup name).isSome
      let saved := if present then install.backUp system name else (install, none)
      match saved.2 with
      | some error =>
          (saved.1.rollback backedUp installed, some (SwapError.backupFailed name error))
      | none =>
          let backedUp := if present then name :: backedUp else backedUp
          let placed := saved.1.bringIn system name
          match placed.2 with
          | some error =>
              (placed.1.rollback backedUp installed, some (SwapError.installFailed name error))
          | none => applyNames system names placed.1 backedUp (name :: installed)

end Install

/-- What `applyPayload` leaves behind, and its `SwapResult`. -/
structure SwapOutcome where
  root : Entries
  payload : Option Entries
  backup : Option Tree
  error : Option SwapError

/-- `applyPayload`.  The payload is `none` if it is not a directory. -/
def applyPayload (system : FileSystem) (root : Entries) (payload : Option Entries)
    (backup : Option Tree) : SwapOutcome :=
  match payload with
  | none => ⟨root, none, backup, some SwapError.payloadMissing⟩
  | some entries =>
      match mkpath system ⟨Area.backup, []⟩ backup with
      | none => ⟨root, some entries, backup, some (SwapError.cannotCreate ⟨Area.backup, []⟩)⟩
      | some existing =>
          let applied := Install.applyNames system (entries.map Prod.fst)
            ⟨root, entries, existing⟩ [] []
          ⟨applied.1.root, some applied.1.payload, some (FileTree.dir applied.1.backup),
            applied.2⟩

/-! ## The plan of a move -/

/-- A step of a move, at a path below the entry. -/
inductive MoveStep where
  | createDir (path : List Name)
  | moveFile (path : List Name)
  /-- Something is in the way. -/
  | blocked (path : List Name)
deriving DecidableEq, Repr

/-- The same step, seen from the directory of the entry. -/
def MoveStep.under (name : Name) : MoveStep → MoveStep
  | createDir path => createDir (name :: path)
  | moveFile path => moveFile (name :: path)
  | blocked path => blocked (name :: path)

mutual

/-- The steps of a move in their order, if each succeeds. -/
def plan : Tree → Option Tree → List MoveStep
  | FileTree.file _, none => [MoveStep.moveFile []]
  | FileTree.file _, some _ => [MoveStep.blocked []]
  | FileTree.dir entries, none => MoveStep.createDir [] :: planEntries entries []
  | FileTree.dir entries, some (FileTree.dir existing) => planEntries entries existing
  | FileTree.dir _, some (FileTree.file _) => [MoveStep.blocked []]

def planEntries : List (Name × Tree) → Entries → List MoveStep
  | [], _ => []
  | (name, tree) :: entries, existing =>
      (plan tree (existing.lookup name)).map (MoveStep.under name) ++
        planEntries entries existing

end

/-- The file system lets the step succeed. -/
def FileSystem.allows (system : FileSystem) (source target : FilePath) : MoveStep → Bool
  | MoveStep.createDir path => system.mkdir { target with names := target.names ++ path }
  | MoveStep.moveFile path =>
      renameWithRetry system { source with names := source.names ++ path }
        { target with names := target.names ++ path }
  | MoveStep.blocked _ => false

/-- The steps before the first one that fails. -/
def done (system : FileSystem) (source target : FilePath) (steps : List MoveStep) :
    List MoveStep :=
  steps.takeWhile (system.allows source target)

end Update
end Driscord
