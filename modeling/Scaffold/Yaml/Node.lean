/-
# The node tree of a YAML document

Tokens form one document at most: a tree of scalars, sequences and mappings.
Any node may carry an anchor, and an alias stands for a node that carries one.

Anchors are numbered: an anchor takes the number of names known before it, and
an alias means the number that its name had last.  A number stands for the last
node that took it, in the order in which nodes begin.  (A name given twice
therefore shares its second number with the next name.)
-/
import Scaffold.Table
import Scaffold.Yaml.Token

namespace Scaffold

namespace Yaml

/-- A tag, given in full. -/
abbrev Tag := Bytes

/-- A node of the tree. -/
inductive Node where
  | alias (number : Nat)
  | scalar (anchor : Option Nat) (tag : Option Tag) (text : Text) (style : Style)
  | sequence (anchor : Option Nat) (tag : Option Tag) (items : List Node)
  | mapping (anchor : Option Nat) (tag : Option Tag) (entries : List (Node × Node))

/-- The node where nothing is written. -/
def Node.nothing : Node := .scalar none none [] .plain

/-! ## Reading tokens -/

/-- Tokens to be read, with the anchors and tag handles known so far. -/
structure Reader where
  tokens : List Token
  anchors : List (Text × Nat)
  handles : List (Text × Bytes)

/-- A step that reads tokens or fails. -/
abbrev Read := StateT Reader Option

namespace Read

def fail {α : Type} : Read α := fun _ => none

def peek : Read (Option Token) := do
  return (← get).tokens.head?

def advance : Read Unit :=
  modify fun r => { r with tokens := r.tokens.drop 1 }

/-- Passes the token if it comes next, and says whether it did. -/
def accept (t : Token) : Read Bool := do
  if (← peek) == some t then
    advance
    return true
  else
    return false

/-- Whether one of the tokens, or the end of a block, comes next. -/
def atAny (ts : List Token) : Read Bool := do
  match ← peek with
  | none => return true
  | some t => return ts.contains t

/-- Gives the next number to a name. -/
def newAnchor (name : Text) : Read Nat := do
  let r ← get
  let number := r.anchors.length
  set { r with anchors := Table.put r.anchors name number }
  return number

def aliasOf (name : Text) : Read Node := do
  match (← get).anchors.lookup name with
  | some number => return .alias number
  | none => fail

/-- The tag that a handle and a suffix stand for. -/
def fullTag (handle : Text) (suffix : Bytes) : Read Tag := do
  if handle.isEmpty then return suffix
  else
    match (← get).handles.lookup handle with
    | some expansion => return expansion ++ suffix
    | none => fail

def anchor? : Read (Option Nat) := do
  match ← peek with
  | some (.anchor name) =>
    advance
    return some (← newAnchor name)
  | _ => return none

def tag? : Read (Option Tag) := do
  match ← peek with
  | some (.tag handle suffix) =>
    advance
    return some (← fullTag handle suffix)
  | _ => return none

/-- Anchor and tag, in either order. -/
def properties : Read (Option Nat × Option Tag) := do
  match ← anchor? with
  | some a => return (some a, ← tag?)
  | none =>
    let t ← tag?
    if t.isSome then return (← anchor?, t) else return (none, none)

mutual

/-- Reads a node.  Block collections must be allowed; an indentless sequence is
a sequence of entries without a start of its own. -/
def node : Nat → Bool → Bool → Read Node
  | 0, _, _ => fail
  | n + 1, block, indentless => do
    match ← peek with
    | some (.alias name) =>
      advance
      aliasOf name
    | _ =>
      let (anchor, tag) ← properties
      match ← peek with
      | some .blockEntry =>
        if indentless then return .sequence anchor tag (← indentlessEntries n)
        else nothingWith anchor tag
      | some (.scalar text style) =>
        advance
        return .scalar anchor tag text style
      | some .flowSequenceStart =>
        advance
        return .sequence anchor tag (← flowItems n true)
      | some .flowMappingStart =>
        advance
        return .mapping anchor tag (← flowEntries n true)
      | some .blockSequenceStart =>
        if block then
          advance
          return .sequence anchor tag (← blockEntries n)
        else nothingWith anchor tag
      | some .blockMappingStart =>
        if block then
          advance
          return .mapping anchor tag (← blockPairs n)
        else nothingWith anchor tag
      | _ => nothingWith anchor tag

/-- A node of which only anchor or tag are written. -/
def nothingWith (anchor : Option Nat) (tag : Option Tag) : Read Node :=
  if anchor.isSome || tag.isSome then return .scalar anchor tag [] .plain else fail

/-- Entries of a block sequence through its end. -/
def blockEntries : Nat → Read (List Node)
  | 0 => fail
  | n + 1 => do
    if ← accept .blockEntry then
      let item ←
        if ← atAny [.blockEntry, .blockEnd] then pure Node.nothing else node n true false
      return item :: (← blockEntries n)
    else if ← accept .blockEnd then return []
    else fail

/-- Entries of a sequence that ends with the block around it. -/
def indentlessEntries : Nat → Read (List Node)
  | 0 => fail
  | n + 1 => do
    if ← accept .blockEntry then
      let item ←
        if ← atAny [.blockEntry, .key, .value, .blockEnd] then pure Node.nothing
        else node n true false
      return item :: (← indentlessEntries n)
    else return []

/-- A key or value of a block mapping. -/
def blockPart : Nat → Read Node
  | 0 => fail
  | n + 1 => do
    if ← atAny [.key, .value, .blockEnd] then return Node.nothing else node n true true

/-- Pairs of a block mapping through its end. -/
def blockPairs : Nat → Read (List (Node × Node))
  | 0 => fail
  | n + 1 => do
    if ← accept .key then
      let k ← blockPart n
      let v ← if ← accept .value then blockPart n else pure Node.nothing
      return (k, v) :: (← blockPairs n)
    else if ← accept .blockEnd then return []
    else fail

/-- The value behind a key between brackets, if there is one; `closing` are the
tokens that end the entry. -/
def flowValue : Nat → List Token → Read Node
  | 0, _ => fail
  | n + 1, closing => do
    if ← accept .value then
      if ← atAny closing then return Node.nothing else node n false false
    else return Node.nothing

/-- A single pair as an item of a flow sequence, behind its key mark. -/
def flowPair : Nat → Read Node
  | 0 => fail
  | n + 1 => do
    let k ←
      if ← atAny [.value, .flowEntry, .flowSequenceEnd] then do
        advance
        pure Node.nothing
      else node n false false
    let v ← flowValue n [.flowEntry, .flowSequenceEnd]
    return .mapping none none [(k, v)]

/-- Items of a flow sequence through its end. -/
def flowItems : Nat → Bool → Read (List Node)
  | 0, _ => fail
  | n + 1, first => do
    if ← accept .flowSequenceEnd then return []
    else
      let separated ← if first then pure true else accept .flowEntry
      if !separated then fail
      else if ← accept .key then
        let item ← flowPair n
        return item :: (← flowItems n false)
      else if ← accept .flowSequenceEnd then return []
      else
        let item ← node n false false
        return item :: (← flowItems n false)

/-- Entries of a flow mapping through its end. -/
def flowEntries : Nat → Bool → Read (List (Node × Node))
  | 0, _ => fail
  | n + 1, first => do
    if ← accept .flowMappingEnd then return []
    else
      let separated ← if first then pure true else accept .flowEntry
      if !separated then fail
      else if ← accept .key then
        let k ←
          if ← atAny [.value, .flowEntry, .flowMappingEnd] then pure Node.nothing
          else node n false false
        let v ← flowValue n [.flowEntry, .flowMappingEnd]
        return (k, v) :: (← flowEntries n false)
      else if ← accept .flowMappingEnd then return []
      else
        let k ← node n false false
        return (k, Node.nothing) :: (← flowEntries n false)

end

/-! ## Documents -/

/-- Reads directives; `versioned` says whether there was a version already. -/
def directives : Nat → Bool → List (Text × Bytes) → Read (List (Text × Bytes))
  | 0, _, _ => fail
  | n + 1, versioned, handles => do
    match ← peek with
    | some (.versionDirective major minor) =>
      if versioned || major != 1 || (minor != 1 && minor != 2) then fail
      else
        advance
        directives n true handles
    | some (.tagDirective handle expansion) =>
      if (handles.lookup handle).isSome then fail
      else
        advance
        directives n versioned ((handle, expansion) :: handles)
    | _ => return handles

/-- The handles that need no directive. -/
def standardHandles : List (Text × Bytes) := [
  (['!'], Utf8.encode ['!']),
  (['!', '!'], Utf8.encode "tag:yaml.org,2002:".toList)]

def isDirective : Token → Bool
  | .versionDirective _ _ => true
  | .tagDirective _ _ => true
  | _ => false

/-- Passes marks of a document's end; nothing may follow them. -/
def endOfText : Nat → Read Unit
  | 0 => fail
  | n + 1 => do
    if ← accept .documentEnd then endOfText n
    else if (← peek).isSome then fail
    else return ()

/-- Reads the tokens of a text with at most one document; `none` is a text
without any. -/
def document (fuel : Nat) : Read (Option Node) := do
  match ← peek with
  | none => return none
  | some t =>
    let root ←
      if isDirective t || t == .documentStart then do
        let handles ← directives fuel false []
        modify fun r => { r with handles := handles ++ standardHandles }
        if !(← accept .documentStart) then fail
        let next ← peek
        if next.all fun t => isDirective t || t == .documentStart || t == .documentEnd then
          pure Node.nothing
        else node fuel true false
      else node fuel true false
    endOfText fuel
    return some root

end Read

/-- The tree of a text, or `none` inside if the text holds no document. -/
def Node.ofText? (t : Text) : Option (Option Node) := do
  let tokens ← tokens? t
  let (root, _) ← (Read.document (4 * tokens.length + 8)).run
    { tokens := tokens, anchors := [], handles := Read.standardHandles }
  return root

/-! ## Looking through a tree -/

mutual

/-- The nodes with an anchor, in the order in which they begin. -/
def Node.anchored : Node → List (Nat × Node)
  | .alias _ => []
  | n@(.scalar a _ _ _) => (a.map fun k => (k, n)).toList
  | n@(.sequence a _ items) => (a.map fun k => (k, n)).toList ++ Node.anchoredItems items
  | n@(.mapping a _ entries) => (a.map fun k => (k, n)).toList ++ Node.anchoredEntries entries

def Node.anchoredItems : List Node → List (Nat × Node)
  | [] => []
  | n :: r => n.anchored ++ Node.anchoredItems r

def Node.anchoredEntries : List (Node × Node) → List (Nat × Node)
  | [] => []
  | (k, v) :: r => k.anchored ++ v.anchored ++ Node.anchoredEntries r

end

mutual

/-- The number of scalars, aliases, and starts and ends of collections. -/
def Node.eventCount : Node → Nat
  | .alias _ => 1
  | .scalar _ _ _ _ => 1
  | .sequence _ _ items => Node.eventCounts items + 2
  | .mapping _ _ entries => Node.eventCountEntries entries + 2

def Node.eventCounts : List Node → Nat
  | [] => 0
  | n :: r => n.eventCount + Node.eventCounts r

def Node.eventCountEntries : List (Node × Node) → Nat
  | [] => 0
  | (k, v) :: r => k.eventCount + v.eventCount + Node.eventCountEntries r

end

end Yaml

end Scaffold
