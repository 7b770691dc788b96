/-
# Generating files

A run walks through a template and comes by every file that it describes:

    not there   the file is created from the code, without START and END
                markers; only an indexer keeps its ADD markers
    there       the file is brought up to date (`Scaffold.Update`) and written
                if that changes it

Directories are made as they are needed.  A node whose name is blank, once its
placeholders are filled in, is passed over with all that is below it.  A run
that only looks makes no directory and writes no file; its report says what
would happen to each file as it is now.  The first refusal of the disk ends a
run, and what was written before stays.
-/
import Scaffold.Disk
import Scaffold.Report
import Scaffold.Update

namespace Scaffold

/-- How files are generated from templates. -/
structure Generator where
  values : Placeholders
  options : MergeOptions := {}
  /-- Whether runs only look. -/
  dryRun : Bool := false

namespace Generator

/-! ## Failures -/

inductive Action where
  | read
  | write
  | makeDirectory
deriving DecidableEq, Repr

def Action.text : Action → Text
  | read => "Failed to read".toList
  | write => "Failed to write".toList
  | makeDirectory => "Failed to create directory".toList

/-- What the disk refused to do. -/
structure Failure where
  action : Action
  path : Path
  fault : Disk.Fault
deriving DecidableEq, Repr

def Failure.message (f : Failure) : Text :=
  f.action.text ++ ' ' :: Text.quotedPath f.path.text ++ ": ".toList ++ f.fault.message

/-! ## The walk -/

variable {m : Type → Type} [Monad m] [Disk m]

/-- Does something on the disk, or fails with what it was. -/
def perform {α : Type} (action : Action) (path : Path) (step : m (Except Disk.Fault α)) :
    ExceptT Failure m α :=
  ExceptT.mk do return (← step).mapError fun f => ⟨action, path, f⟩

/-- Looks at the disk. -/
def look {α : Type} (step : m α) : ExceptT Failure m α :=
  ExceptT.lift step

/-- Makes a directory if nothing stands there. -/
def ensureDirectory (path : Path) : ExceptT Failure m Unit := do
  if (← look (Disk.kind? path)).isNone then perform .makeDirectory path (Disk.makeAll path)

/-- Makes the directory around a path if nothing stands there. -/
def ensureParent (path : Path) : ExceptT Failure m Unit :=
  match path.parent? with
  | some parent => ensureDirectory parent
  | none => return ()

/-- Comes by a file. -/
def visitFile (g : Generator) (writing : Bool) (node : Node) (path : Path) :
    ExceptT Failure m ChangeKind := do
  let body := g.values.substitute node.code
  if (← look (Disk.kind? path)).isNone then
    if writing then
      ensureParent path
      perform .write path (Disk.write path (Marker.strip body node.isIndexer))
    return .created
  else
    let existing ← perform .read path (Disk.read path)
    let updated := Update.apply g.values g.options node existing body
    if updated.changed then
      if writing then perform .write path (Disk.write path updated.content)
      return .modified
    else return .unchanged

/-- Comes by all files of a forest in a directory. -/
def walk (g : Generator) (writing : Bool) (root : Path) :
    Path → List Node → ExceptT Failure m (List Change)
  | _, [] => return []
  | directory, node@⟨_, _, _, children, _⟩ :: rest => do
    let name := g.values.substitute node.name
    let path := directory.join ⟨name⟩
    let changes ←
      if Text.allBlank name then pure []
      else if node.isDirectory then do
        if writing then ensureDirectory path
        walk g writing root path children
      else do
        let kind ← g.visitFile writing node path
        pure [⟨path, path.relativeTo root, kind⟩]
    return changes ++ (← walk g writing root directory rest)

/-- Comes by all files of several groups. -/
def walkGroups (g : Generator) (writing : Bool) (root : Path) :
    List PathGroup → ExceptT Failure m (List Change)
  | [] => return []
  | group :: rest => do
    let base := root.join ⟨g.values.substitute group.path⟩
    if writing then ensureDirectory base
    let changes ← g.walk writing root base group.nodes
    return changes ++ (← g.walkGroups writing root rest)

/-- The path seen from the root of the disk. -/
def absolute (path : Path) : ExceptT Failure m Path := do
  if path.isAbsolute then return path
  else return (← look Disk.current).join path

/-- Comes by all files of a template below a root. -/
def walkTemplate (g : Generator) (writing : Bool) (t : Template) (root : Path) :
    ExceptT Failure m Report := do
  let root ← absolute root
  return ⟨← g.walkGroups writing root t.filePaths⟩

/-! ## Runs -/

/-- Generates the files of a template, or only looks if that is how it is set. -/
def run (g : Generator) (t : Template) (root : Path) : ExceptT Failure m Report :=
  g.walkTemplate (!g.dryRun) t root

/-- What a run would do, each file taken as it is now. -/
def plan (g : Generator) (t : Template) (root : Path) : ExceptT Failure m Report :=
  g.walkTemplate false t root

/-- The files that a run would create or modify. -/
def preview (g : Generator) (t : Template) (root : Path) : ExceptT Failure m Outline := do
  return (← g.plan t root).outline

end Generator

end Scaffold
