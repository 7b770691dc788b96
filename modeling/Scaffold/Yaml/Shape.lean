/-
# Expecting a shape in YAML

The reading of YAML is led by what is expected.  Where text is expected every
scalar is text; where a collection is expected a value that is left out is an
empty one.  An alias is followed, but only a hundred times as often as the
document has parts, so that no document unfolds without end; and collections
that matter nest at most 128 times, which `depth` counts down.
-/
import Scaffold.Yaml.Node
import Scaffold.Yaml.Plain

namespace Scaffold

namespace Yaml

/-- A step that follows aliases as often as the state allows, or fails. -/
abbrev Take := StateT Nat Option

/-- The nodes with anchors, the last of a number first. -/
abbrev Anchors := List (Nat × Node)

namespace Take

def fail {α : Type} : Take α := fun _ => none

/-- The node that is meant. -/
def follow (anchors : Anchors) (n : Node) : Take Node := do
  match n with
  | .alias number =>
    let left ← get
    if left = 0 then fail
    else
      set (left - 1)
      match anchors.lookup number with
      | some target => return target
      | none => fail
  | n => return n

/-- A value that is left out. -/
def isNothing (text : Text) (style : Style) : Bool :=
  text.isEmpty && style == .plain

def text (anchors : Anchors) (n : Node) : Take Text := do
  match ← follow anchors n with
  | .scalar _ _ t _ => return t
  | _ => fail

/-- The tag of a kind of value that YAML itself knows. -/
def coreTag (name : String) : Tag :=
  Utf8.encode ("tag:yaml.org,2002:".toList ++ name.toList)

def boolean (anchors : Anchors) (n : Node) : Take Bool := do
  match ← follow anchors n with
  | .scalar _ tag t style =>
    if style == .plain || (style == .literal && tag == some (coreTag "bool")) then
      match truth? t with
      | some b => return b
      | none => fail
    else fail
  | _ => fail

/-- Text, or nothing where null is written. -/
def optionalText (anchors : Anchors) (n : Node) : Take (Option Text) := do
  match ← follow anchors n with
  | .scalar _ tag t style =>
    if style != .plain then return some t
    else
      match tag with
      | none => return if t.isEmpty || isNull t then none else some t
      | some tag =>
        if tag == coreTag "null" then (if isNull t then return none else fail)
        else return some t
  | _ => fail

/-- The items of a sequence.  At depth zero there are none. -/
def items (anchors : Anchors) (depth : Nat) (n : Node) : Take (List Node) := do
  match ← follow anchors n with
  | .sequence _ _ items => if depth = 0 then fail else return items
  | .scalar _ _ t style => if isNothing t style then return [] else fail
  | _ => fail

/-- The entries of a mapping.  At depth zero there are none. -/
def entries (anchors : Anchors) (depth : Nat) (n : Node) : Take (List (Node × Node)) := do
  match ← follow anchors n with
  | .mapping _ _ entries => if depth = 0 then fail else return entries
  | .scalar _ _ t style => if isNothing t style then return [] else fail
  | _ => fail

/-- Reads the members of a mapping one by one into what is known so far. -/
def members {α : Type} (anchors : Anchors) (member : α → Text → Node → Take α) (known : α)
    (entries : List (Node × Node)) : Take α :=
  entries.foldlM (fun known e => do member known (← text anchors e.1) e.2) known

/-- Fails if the member is there already. -/
def once {α : Type} (value : Option α) : Take Unit :=
  if value.isSome then fail else return ()

/-! ## Values of any kind -/

/-- The name in a tag that starts with an exclamation mark. -/
def localName? : Tag → Option Bytes
  | [] => none
  | b :: r => if b == 0x21 then some r else none

/-- Whether a tag is one that the document makes up, with a name that can be
read. -/
def isOwnTag (tag : Option Tag) : Bool :=
  (tag.bind localName?).any fun name => (Utf8.decode name).isOk

/-- The value of a scalar where any kind may stand. -/
def scalarValue? (tag : Option Tag) (t : Text) (style : Style) : Option Json.Whole :=
  match tag with
  | none => if style == .plain then plainValue? t else some (.text t)
  | some tag =>
    if tag == coreTag "bool" then (truth? t).map .bool
    else if tag == coreTag "int" then do
      let (negative, n) ← integer? t
      match ← integerValue? negative n t with
      | .number v => return .number v
      | _ => none
    else if tag == coreTag "float" then if isDouble t then some (.number (.double 0)) else none
    else if tag == coreTag "null" then if isNull t then some .null else none
    else if (localName? tag).isSome && style == .plain then plainValue? t
    else some (.text t)

/-- A value of any kind. -/
def whole (anchors : Anchors) : Nat → Node → Take Json.Whole
  | depth, n => do
    match ← follow anchors n with
    | .alias _ => fail
    | .scalar _ tag t style =>
      if isOwnTag tag then fail
      else
        match scalarValue? tag t style with
        | some v => return v
        | none => fail
    | .sequence _ tag items =>
      match depth with
      | 0 => fail
      | depth + 1 =>
        if isOwnTag tag then fail
        else return .sequence (← items.mapM fun i => whole anchors depth i)
    | .mapping _ tag entries =>
      match depth with
      | 0 => fail
      | depth + 1 =>
        if isOwnTag tag then fail
        else
          return .map (← entries.mapM fun e => do
            let k ← whole anchors depth e.1
            let v ← whole anchors depth e.2
            return (k, v))

/-- Runs a reader on a node. -/
def run {α : Type} (read : Anchors → Node → Take α) (root : Node) : Option α :=
  (read root.anchored.reverse root).run' (100 * root.eventCount)

end Take

/-- What a text describes; a text without a document is nothing written. -/
def read? {α : Type} (read : Anchors → Node → Take α) (t : Text) : Option α := do
  match ← Node.ofText? t with
  | none => Take.run read .nothing
  | some root => Take.run read root

end Yaml

end Scaffold
