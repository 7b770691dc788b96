/-
# The project file

A project names its templates, where their files go, and the values of their
placeholders:

    output        the directory that all output goes to
    placeholders  values by name
    merge         which optional steps are taken: cleanup, seed_indexer_markers
    templates     a path each, perhaps a name and a directory below `output`;
                  one with `enabled: false` is passed over

Only the path of a template must be given.
-/
import Scaffold.Path
import Scaffold.Update
import Scaffold.Yaml.Shape

namespace Scaffold

open Yaml (Anchors Take)

/-! ## Values by name -/

/-- Values by name, in the order of the names. -/
abbrev Assignments := List (Text × Text)

/-- Gives a value to a name, whatever it had. -/
def Assignments.put (key value : Text) : Assignments → Assignments
  | [] => [(key, value)]
  | e :: r =>
    if key == e.1 then (key, value) :: r
    else if key < e.1 then (key, value) :: e :: r
    else e :: Assignments.put key value r

/-- Gives several values in turn. -/
def Assignments.putAll (values : Assignments) (pairs : List (Text × Text)) : Assignments :=
  pairs.foldl (fun known e => known.put e.1 e.2) values

/-- The name and the value in `NAME=VALUE`.  Blanks around the name do not
count, and there must be something left of it. -/
def parseAssignment? (t : Text) : Option (Text × Text) :=
  match Text.splitFirst? ['='] t with
  | none => none
  | some (key, value) =>
    if (Text.trim key).isEmpty then none else some (Text.trim key, value)

/-- What is said of a text that assigns nothing. -/
def assignmentMessage (t : Text) : Text :=
  "Invalid placeholder assignment '".toList ++ t ++ "', expected KEY=VALUE".toList

/-! ## Projects -/

/-- A template that a project names. -/
structure TemplateEntry where
  name : Option Text := none
  /-- The document, seen from the project file. -/
  path : Text
  /-- A directory below the output of the project. -/
  output : Option Text := none
  enabled : Bool := true

structure Project where
  /-- The directory for all output, seen from the project file. -/
  output : Option Text := none
  placeholders : Assignments := []
  merge : MergeOptions := {}
  templates : List TemplateEntry := []

/-- The templates that are not passed over, with their paths seen from `base`. -/
def Project.enabledTemplates (p : Project) (base : Path) : List (Path × Option Path) :=
  (p.templates.filter (·.enabled)).map fun t => (base.join ⟨t.path⟩, t.output.map Path.mk)

/-! ## Reading -/

/-- One more option. -/
def MergeOptions.takeMember (anchors : Anchors) (known : Option Bool × Option Bool) (name : Text)
    (v : Yaml.Node) : Take (Option Bool × Option Bool) := do
  if name == "cleanup".toList then
    Take.once known.1
    return (some (← Take.boolean anchors v), known.2)
  else if name == "seed_indexer_markers".toList then
    Take.once known.2
    return (known.1, some (← Take.boolean anchors v))
  else return known

/-- The options that a node describes. -/
def MergeOptions.fromNode (anchors : Anchors) (depth : Nat) (n : Yaml.Node) :
    Take MergeOptions := do
  let entries ← Take.entries anchors depth n
  let (cleanup, seeding) ←
    Take.members anchors (MergeOptions.takeMember anchors) (none, none) entries
  return ⟨cleanup.getD true, seeding.getD true⟩

/-- The members of an entry read so far. -/
structure TemplateEntry.Partial where
  name : Option (Option Text) := none
  path : Option Text := none
  output : Option (Option Text) := none
  enabled : Option Bool := none

/-- One more member of an entry. -/
def TemplateEntry.takeMember (anchors : Anchors) (known : TemplateEntry.Partial) (name : Text)
    (v : Yaml.Node) : Take TemplateEntry.Partial := do
  if name == "name".toList then
    Take.once known.name
    return { known with name := some (← Take.optionalText anchors v) }
  else if name == "path".toList then
    Take.once known.path
    return { known with path := some (← Take.text anchors v) }
  else if name == "output".toList then
    Take.once known.output
    return { known with output := some (← Take.optionalText anchors v) }
  else if name == "enabled".toList then
    Take.once known.enabled
    return { known with enabled := some (← Take.boolean anchors v) }
  else return known

/-- The entry that a node describes. -/
def TemplateEntry.fromNode (anchors : Anchors) (depth : Nat) (n : Yaml.Node) :
    Take TemplateEntry := do
  let entries ← Take.entries anchors depth n
  let known ← Take.members anchors (TemplateEntry.takeMember anchors) {} entries
  match known.path with
  | none => Take.fail
  | some path =>
    return { name := known.name.join, path, output := known.output.join,
             enabled := known.enabled.getD true }

/-- The values by name that a node describes; the last one of a name counts. -/
def Assignments.fromNode (anchors : Anchors) (depth : Nat) (n : Yaml.Node) :
    Take Assignments := do
  let entries ← Take.entries anchors depth n
  Take.members anchors (fun known name v => do return known.put name (← Take.text anchors v)) []
    entries

/-- The members of a project read so far. -/
structure Project.Partial where
  output : Option (Option Text) := none
  placeholders : Option Assignments := none
  merge : Option MergeOptions := none
  templates : Option (List TemplateEntry) := none

/-- One more member of a project. -/
def Project.takeMember (anchors : Anchors) (depth : Nat) (known : Project.Partial) (name : Text)
    (v : Yaml.Node) : Take Project.Partial := do
  if name == "output".toList then
    Take.once known.output
    return { known with output := some (← Take.optionalText anchors v) }
  else if name == "placeholders".toList then
    Take.once known.placeholders
    return { known with placeholders := some (← Assignments.fromNode anchors depth v) }
  else if name == "merge".toList then
    Take.once known.merge
    return { known with merge := some (← MergeOptions.fromNode anchors depth v) }
  else if name == "templates".toList then
    Take.once known.templates
    let items ← Take.items anchors depth v
    let entries ← items.mapM (TemplateEntry.fromNode anchors (depth - 1))
    return { known with templates := some entries }
  else return known

/-- The project that a node describes. -/
def Project.fromNode (anchors : Anchors) (n : Yaml.Node) : Take Project := do
  let entries ← Take.entries anchors 128 n
  let known ← Take.members anchors (Project.takeMember anchors 127) {} entries
  return { output := known.output.join
           placeholders := known.placeholders.getD []
           merge := known.merge.getD {}
           templates := known.templates.getD [] }

/-- The project that a YAML text describes. -/
def Project.fromYaml? (t : Text) : Option Project :=
  Yaml.read? Project.fromNode t

end Scaffold
