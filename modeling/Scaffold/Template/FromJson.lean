/-
# Templates in JSON

Each part of a template is an object with named members or, without names, an
array of its members in their fixed order.  Members left out take their
defaults; only the name of a node must be given.  Unknown members are passed
over, and no member may come twice.

    template  filePaths
    group     path, nodes
    node      name, code, isIndexer, children, insertions

An edit is read whole before its members are looked at, its type excepted.
-/
import Scaffold.Template

namespace Scaffold

open Json (Draft Fault Flaw Error memberName close closeRow enter failWith)

/-! ## Arrays -/

/-- Reads the items of an array one by one. -/
def Json.readEach {α : Type} (item : Draft → Except Error α) :
    List Draft → Option Fault → Except Error (List α)
  | [], stop => do
    close stop
    return []
  | d :: r, stop => do
    let a ← item d
    return a :: (← Json.readEach item r stop)

/-- Reads an array, its items one level further in. -/
def Json.readArray {α : Type} (level : Nat) (item : Nat → Draft → Except Error α) (d : Draft) :
    Except Error (List α) :=
  match d with
  | .array items stop => do
    let level ← enter level
    Json.readEach (item level) items stop
  | d => d.refuse "a sequence".toList

/-! ## Edits -/

namespace Edit

open Json (Whole)

def liftMismatch {α : Type} (r : Except Json.Mismatch α) : Except Error α :=
  r.mapError .mismatch

/-- The kind that a draft names. -/
def readKind (d : Draft) : Except Error Kind := do
  let name ← d.expectText "variant identifier".toList
  liftMismatch (Kind.ofName name)

/-- Reads all members of an edit, its kind when it comes. -/
def readMembers (level : Nat) (kind : Option Kind) :
    List (Except Flaw Text × Draft) → Option Fault →
      Except Error (Option Kind × List (Whole × Whole))
  | [], stop => do
    close stop
    return (kind, [])
  | (key, d) :: r, stop => do
    let name ← memberName key
    if name == typeName then
      if kind.isSome then failWith (.duplicateField typeName)
      else readMembers level (some (← readKind d)) r stop
    else
      let v ← d.whole level
      let (kind, members) ← readMembers level kind r stop
      return (kind, (.text name, v) :: members)

/-- Reads an edit. -/
def fromDraft (level : Nat) (d : Draft) : Except Error Edit :=
  match d with
  | .object members stop => do
    let level ← enter level
    match ← readMembers level none members stop with
    | (none, _) => failWith (.missingField typeName)
    | (some kind, members) => liftMismatch (ofMembers kind members)
  | .array items stop => do
    let level ← enter level
    match items with
    | [] =>
      close stop
      failWith (.missingField typeName)
    | first :: r =>
      let kind ← readKind first
      let items ← Json.wholeItems level r stop
      liftMismatch (ofItems kind items)
  | d => d.refuse "internally tagged enum InsertionAction".toList

end Edit

/-! ## Nodes -/

/-- The members of a node read so far. -/
structure Node.Partial where
  name : Option Text := none
  code : Option Text := none
  isIndexer : Option Bool := none
  children : Option (List Node) := none
  insertions : Option (List Edit) := none

/-- The node, if its name is known. -/
def Node.Partial.node? (p : Node.Partial) : Option Node :=
  p.name.map fun name =>
    { name
      code := p.code.getD []
      isIndexer := p.isIndexer.getD false
      children := p.children.getD []
      insertions := p.insertions.getD [] }

/-- Fails if the member is there already. -/
def Json.once {α : Type} (value : Option α) (name : Text) : Except Error Unit :=
  if value.isSome then failWith (.duplicateField name) else .ok ()

/-- The item of an array at this place, read, if the array goes so far. -/
def Json.readNext {α : Type} (read : Draft → Except Error α) (items : List Draft)
    (stop : Option Fault) : Except Error (Option α × List Draft) :=
  match items with
  | [] => do
    close stop
    return (none, [])
  | d :: r => do
    let a ← read d
    return (some a, r)

mutual

/-- Reads a node. -/
def Node.fromDraft (level : Nat) : Draft → Except Error Node
  | .object members stop => do
    let level ← enter level
    let p ← Node.readMembers level {} members stop
    match p.node? with
    | some n => return n
    | none => failWith (.missingField "name".toList)
  | .array items stop => do
    let level ← enter level
    let p ← Node.readItems level items stop
    match p.node? with
    | some n => return n
    | none => failWith (.wrongLength 0 "struct Node with 5 elements".toList)
  | d => d.refuse "struct Node".toList

/-- Reads nodes one by one. -/
def Node.fromDrafts (level : Nat) : List Draft → Option Fault → Except Error (List Node)
  | [], stop => do
    close stop
    return []
  | d :: r, stop => do
    let n ← Node.fromDraft level d
    return n :: (← Node.fromDrafts level r stop)

/-- Reads the children of a node. -/
def Node.readChildren (level : Nat) : Draft → Except Error (List Node)
  | .array items stop => do
    let level ← enter level
    Node.fromDrafts level items stop
  | d => d.refuse "a sequence".toList

/-- Reads the named members of a node. -/
def Node.readMembers (level : Nat) (p : Node.Partial) :
    List (Except Flaw Text × Draft) → Option Fault → Except Error Node.Partial
  | [], stop => do
    close stop
    return p
  | (key, d) :: r, stop => do
    let name ← memberName key
    if name == "name".toList then
      Json.once p.name name
      let v ← d.string
      Node.readMembers level { p with name := some v } r stop
    else if name == "code".toList then
      Json.once p.code name
      let v ← d.string
      Node.readMembers level { p with code := some v } r stop
    else if name == "isIndexer".toList then
      Json.once p.isIndexer name
      let v ← d.boolean
      Node.readMembers level { p with isIndexer := some v } r stop
    else if name == "children".toList then
      Json.once p.children name
      let v ← Node.readChildren level d
      Node.readMembers level { p with children := some v } r stop
    else if name == "insertions".toList then
      Json.once p.insertions name
      let v ← Json.readArray level Edit.fromDraft d
      Node.readMembers level { p with insertions := some v } r stop
    else
      d.skip
      Node.readMembers level p r stop

/-- Reads the members of a node without names. -/
def Node.readItems (level : Nat) : List Draft → Option Fault → Except Error Node.Partial
  | [], stop => do
    close stop
    return {}
  | [n], stop => do
    let name ← n.string
    close stop
    return { name := some name }
  | [n, c], stop => do
    let name ← n.string
    let code ← c.string
    close stop
    return { name := some name, code := some code }
  | [n, c, i], stop => do
    let name ← n.string
    let code ← c.string
    let isIndexer ← i.boolean
    close stop
    return { name := some name, code := some code, isIndexer := some isIndexer }
  | n :: c :: i :: ch :: r, stop => do
    let name ← n.string
    let code ← c.string
    let isIndexer ← i.boolean
    let children ← Node.readChildren level ch
    let (insertions, rest) ← Json.readNext (Json.readArray level Edit.fromDraft) r stop
    closeRow rest stop
    return ⟨some name, some code, some isIndexer, some children, insertions⟩

end

/-! ## Groups and templates -/

/-- Reads the named members of a group. -/
def PathGroup.readMembers (level : Nat) (path : Option Text) (nodes : Option (List Node)) :
    List (Except Flaw Text × Draft) → Option Fault → Except Error PathGroup
  | [], stop => do
    close stop
    return { path := path.getD [], nodes := nodes.getD [] }
  | (key, d) :: r, stop => do
    let name ← memberName key
    if name == "path".toList then
      Json.once path name
      let v ← d.string
      PathGroup.readMembers level (some v) nodes r stop
    else if name == "nodes".toList then
      Json.once nodes name
      let v ← Json.readArray level Node.fromDraft d
      PathGroup.readMembers level path (some v) r stop
    else
      d.skip
      PathGroup.readMembers level path nodes r stop

/-- Reads a group. -/
def PathGroup.fromDraft (level : Nat) (d : Draft) : Except Error PathGroup :=
  match d with
  | .object members stop => do
    let level ← enter level
    PathGroup.readMembers level none none members stop
  | .array items stop => do
    let level ← enter level
    let (path, r) ← Json.readNext Draft.string items stop
    let (nodes, r) ← Json.readNext (Json.readArray level Node.fromDraft) r stop
    closeRow r stop
    return { path := path.getD [], nodes := nodes.getD [] }
  | d => d.refuse "struct PathGroup".toList

/-- Reads the named members of a template. -/
def Template.readMembers (level : Nat) (groups : Option (List PathGroup)) :
    List (Except Flaw Text × Draft) → Option Fault → Except Error Template
  | [], stop => do
    close stop
    return { filePaths := groups.getD [] }
  | (key, d) :: r, stop => do
    let name ← memberName key
    if name == "filePaths".toList then
      Json.once groups name
      let v ← Json.readArray level PathGroup.fromDraft d
      Template.readMembers level (some v) r stop
    else
      d.skip
      Template.readMembers level groups r stop

/-- Reads a template. -/
def Template.fromDraft (level : Nat) (d : Draft) : Except Error Template :=
  match d with
  | .object members stop => do
    let level ← enter level
    Template.readMembers level none members stop
  | .array items stop => do
    let level ← enter level
    let (groups, r) ← Json.readNext (Json.readArray level PathGroup.fromDraft) items stop
    closeRow r stop
    return { filePaths := groups.getD [] }
  | d => d.refuse "struct Template".toList

/-- Reads a whole text as one value; nothing may follow it. -/
def Json.readText {α : Type} (read : Nat → Draft → Except Error α) (t : Text) :
    Except Error α := do
  let doc := Json.readDocument t
  let a ← read 128 doc.value
  if doc.trailing then Json.failAt .malformed else return a

/-- The template that a JSON text describes. -/
def Template.fromJson (t : Text) : Except Error Template :=
  Json.readText Template.fromDraft t

/-- The node that a JSON text describes. -/
def Node.fromJson (t : Text) : Except Error Node :=
  Json.readText Node.fromDraft t

/-- The edits that a JSON text describes. -/
def Edit.listFromJson (t : Text) : Except Error (List Edit) :=
  Json.readText (fun level d => Json.readArray level Edit.fromDraft d) t

end Scaffold
