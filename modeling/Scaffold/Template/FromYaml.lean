/-
# Templates in YAML

The parts of a template are mappings with the same members as in JSON; only an
edit may be a sequence instead.  Members left out take their defaults, and only
the name of a node must be given.  Unknown members are passed over, and no
member may come twice.
-/
import Scaffold.Template.FromJson
import Scaffold.Yaml.Shape

namespace Scaffold

open Yaml (Anchors Take)

/-! ## Edits -/

namespace Edit

/-- What a step on members answers, if it does. -/
def takeMatch {α : Type} (r : Except Json.Mismatch α) : Take α :=
  match r with
  | .ok a => return a
  | .error _ => Take.fail

/-- The kind that a node names. -/
def takeKind (anchors : Anchors) (n : Yaml.Node) : Take Kind := do
  takeMatch (Kind.ofName (← Take.text anchors n))

/-- Whether a name is that of the member with the kind. -/
def namesKind : Json.Whole → Bool
  | .text t => t == typeName
  | _ => false

/-- The kind among the members of an edit, and the other members. -/
def takeMembers (anchors : Anchors) (depth : Nat) (kind : Option Kind) :
    List (Yaml.Node × Yaml.Node) → Take (Option Kind × List (Json.Whole × Json.Whole))
  | [] => return (kind, [])
  | (key, value) :: r => do
    let name ← Take.whole anchors depth key
    if namesKind name then
      Take.once kind
      takeMembers anchors depth (some (← takeKind anchors value)) r
    else
      let v ← Take.whole anchors depth value
      let (kind, members) ← takeMembers anchors depth kind r
      return (kind, (name, v) :: members)

/-- The edit that a node describes. -/
def fromNode (anchors : Anchors) (depth : Nat) (n : Yaml.Node) : Take Edit := do
  match ← Take.follow anchors n with
  | .mapping _ tag entries =>
    if depth = 0 || Take.isOwnTag tag then Take.fail
    else
      match ← takeMembers anchors (depth - 1) none entries with
      | (some kind, members) => takeMatch (ofMembers kind members)
      | (none, _) => Take.fail
  | .sequence _ tag (first :: r) =>
    if depth = 0 || Take.isOwnTag tag then Take.fail
    else
      let kind ← takeKind anchors first
      takeMatch (ofItems kind (← r.mapM (Take.whole anchors (depth - 1))))
  | _ => Take.fail

end Edit

/-! ## Nodes -/

mutual

/-- The node that a node of the document describes. -/
def Node.fromNode (anchors : Anchors) : Nat → Yaml.Node → Take Node
  | 0, _ => Take.fail
  | depth + 1, n => do
    let entries ← Take.entries anchors (depth + 1) n
    let known ← Take.members anchors (Node.takeMember anchors depth) {} entries
    match known.node? with
    | some node => return node
    | none => Take.fail

/-- One more member of a node. -/
def Node.takeMember (anchors : Anchors) (depth : Nat) (p : Node.Partial) (name : Text)
    (v : Yaml.Node) : Take Node.Partial := do
  if name == "name".toList then
    Take.once p.name
    return { p with name := some (← Take.text anchors v) }
  else if name == "code".toList then
    Take.once p.code
    return { p with code := some (← Take.text anchors v) }
  else if name == "isIndexer".toList then
    Take.once p.isIndexer
    return { p with isIndexer := some (← Take.boolean anchors v) }
  else if name == "children".toList then
    Take.once p.children
    return { p with children := some (← Node.listFromNode anchors depth v) }
  else if name == "insertions".toList then
    Take.once p.insertions
    let items ← Take.items anchors depth v
    return { p with insertions := some (← items.mapM (Edit.fromNode anchors (depth - 1))) }
  else return p

/-- The nodes that a sequence describes. -/
def Node.listFromNode (anchors : Anchors) : Nat → Yaml.Node → Take (List Node)
  | 0, n => do
    let _ ← Take.items anchors 0 n
    return []
  | depth + 1, n => do
    let items ← Take.items anchors (depth + 1) n
    items.mapM (Node.fromNode anchors depth)

end

/-! ## Groups and templates -/

/-- One more member of a group. -/
def PathGroup.takeMember (anchors : Anchors) (depth : Nat)
    (p : Option Text × Option (List Node)) (name : Text) (v : Yaml.Node) :
    Take (Option Text × Option (List Node)) := do
  if name == "path".toList then
    Take.once p.1
    return (some (← Take.text anchors v), p.2)
  else if name == "nodes".toList then
    Take.once p.2
    return (p.1, some (← Node.listFromNode anchors depth v))
  else return p

/-- The group that a node describes. -/
def PathGroup.fromNode (anchors : Anchors) (depth : Nat) (n : Yaml.Node) : Take PathGroup := do
  let entries ← Take.entries anchors depth n
  let (path, nodes) ←
    Take.members anchors (PathGroup.takeMember anchors (depth - 1)) (none, none) entries
  return { path := path.getD [], nodes := nodes.getD [] }

/-- One more member of a template. -/
def Template.takeMember (anchors : Anchors) (depth : Nat) (groups : Option (List PathGroup))
    (name : Text) (v : Yaml.Node) : Take (Option (List PathGroup)) := do
  if name == "filePaths".toList then
    Take.once groups
    let items ← Take.items anchors depth v
    return some (← items.mapM (PathGroup.fromNode anchors (depth - 1)))
  else return groups

/-- The template that a node describes. -/
def Template.fromNode (anchors : Anchors) (n : Yaml.Node) : Take Template := do
  let entries ← Take.entries anchors 128 n
  let groups ← Take.members anchors (Template.takeMember anchors 127) none entries
  return { filePaths := groups.getD [] }

/-- The template that a YAML text describes. -/
def Template.fromYaml? (t : Text) : Option Template :=
  Yaml.read? Template.fromNode t

end Scaffold
