/-
# Documents on a disk

A template file is read as YAML if its extension is `yaml` or `yml`, and as JSON
otherwise.  A project file is YAML whatever its name.
-/
import Scaffold.Disk
import Scaffold.Project
import Scaffold.Template.Document

namespace Scaffold

variable {m : Type → Type} [Monad m] [Disk m]

/-- Why a template file gives no template. -/
inductive Template.LoadError where
  | unreadable (path : Path) (f : Disk.Fault)
  | invalid (e : Template.Error)
deriving DecidableEq, Repr

def Template.LoadError.message : Template.LoadError → Text
  | unreadable path f =>
    "Failed to read template ".toList ++ Text.quotedPath path.text ++ ": ".toList ++ f.message
  | invalid e => e.message

/-- The format that a path stands for. -/
def Template.formatOf (path : Path) : Template.Format :=
  match path.extension? with
  | some e => if e == "yaml".toList || e == "yml".toList then .yaml else .json
  | none => .json

/-- The template in a file. -/
def Template.load (path : Path) : m (Except Template.LoadError Template) := do
  match ← Disk.read path with
  | .error f => return .error (.unreadable path f)
  | .ok t => return (Template.ofText (Template.formatOf path) t).mapError .invalid

/-- Why a project file gives no project. -/
inductive Project.LoadError where
  | unreadable (f : Disk.Fault)
  | invalid
deriving DecidableEq, Repr

def Project.LoadError.message : Project.LoadError → Text
  | unreadable f => "Failed to read config file: ".toList ++ f.message
  | invalid => "Failed to parse YAML".toList

/-- The project in a file. -/
def Project.load (path : Path) : m (Except Project.LoadError Project) := do
  match ← Disk.read path with
  | .error f => return .error (.unreadable f)
  | .ok t =>
    match Project.fromYaml? t with
    | some p => return .ok p
    | none => return .error .invalid

end Scaffold
