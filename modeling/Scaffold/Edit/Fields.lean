/-
# Edits in documents

In a document an edit is an object whose member `type` names the edit; the
other members are its texts.  Without names, as a sequence, the type comes
first and the texts follow in a fixed order.

    anchor edits           target, key, occurrence
    replaceBetweenAnchors  start, end, key, occurrence, requireAbsent
    conditionalReplace     target, replacement, occurrence, requireAbsent

`occurrence` may be left out and is then `first`; `requireAbsent` may be left
out or null.  Members with other names are passed over.
-/
import Scaffold.Edit
import Scaffold.Json.Shape

namespace Scaffold

namespace Edit

open Json (Whole Mismatch)

/-! ## Kinds of edits -/

inductive Kind where
  | insertBeforeLine
  | insertAfterLine
  | insertBeforeInline
  | insertAfterInline
  | addMarkerAboveTarget
  | addMarkerBelowTarget
  | replaceBetweenAnchors
  | conditionalReplace
deriving DecidableEq, Repr

def Kind.all : List Kind := [
  .insertBeforeLine, .insertAfterLine, .insertBeforeInline, .insertAfterInline,
  .addMarkerAboveTarget, .addMarkerBelowTarget, .replaceBetweenAnchors, .conditionalReplace]

def Kind.name : Kind → Text
  | insertBeforeLine => "insertBeforeLine".toList
  | insertAfterLine => "insertAfterLine".toList
  | insertBeforeInline => "insertBeforeInline".toList
  | insertAfterInline => "insertAfterInline".toList
  | addMarkerAboveTarget => "addMarkerAboveTarget".toList
  | addMarkerBelowTarget => "addMarkerBelowTarget".toList
  | replaceBetweenAnchors => "replaceBetweenAnchors".toList
  | conditionalReplace => "conditionalReplace".toList

/-- The kind with a name. -/
def Kind.ofName (name : Text) : Except Mismatch Kind :=
  match Kind.all.find? fun k => k.name == name with
  | some k => .ok k
  | none => .error (.unknownVariant name (Kind.all.map Kind.name))

/-! ## Members -/

inductive Field where
  | target
  | key
  | start
  | stop
  | replacement
  | occurrence
  | requireAbsent
deriving DecidableEq, Repr

def Field.name : Field → Text
  | target => "target".toList
  | key => "key".toList
  | start => "start".toList
  | stop => "end".toList
  | replacement => "replacement".toList
  | occurrence => "occurrence".toList
  | requireAbsent => "requireAbsent".toList

/-- The members of an edit in their fixed order. -/
def Kind.fields : Kind → List Field
  | replaceBetweenAnchors => [.start, .stop, .key, .occurrence, .requireAbsent]
  | conditionalReplace => [.target, .replacement, .occurrence, .requireAbsent]
  | _ => [.target, .key, .occurrence]

/-- How a message names the members that a sequence must have. -/
def Kind.wanted : Kind → Text
  | replaceBetweenAnchors => "struct AnchorRange with 5 elements".toList
  | conditionalReplace => "struct Replacement with 4 elements".toList
  | _ => "struct Anchored with 3 elements".toList

def occurrenceName : Occurrence → Text
  | .first => "first".toList
  | .last => "last".toList

/-- The members read so far. -/
structure Fields where
  target : Option Text := none
  key : Option Text := none
  start : Option Text := none
  stop : Option Text := none
  replacement : Option Text := none
  occurrence : Option Occurrence := none
  requireAbsent : Option (Option Text) := none

def Fields.has (fs : Fields) : Field → Bool
  | .target => fs.target.isSome
  | .key => fs.key.isSome
  | .start => fs.start.isSome
  | .stop => fs.stop.isSome
  | .replacement => fs.replacement.isSome
  | .occurrence => fs.occurrence.isSome
  | .requireAbsent => fs.requireAbsent.isSome

/-! ## Reading the members -/

def readText (v : Whole) : Except Mismatch Text :=
  match v with
  | .text t => .ok t
  | v => .error (.wrongKind v.found "a string".toList)

def readOptionalText (v : Whole) : Except Mismatch (Option Text) :=
  match v with
  | .null => .ok none
  | v => (readText v).map some

/-- The occurrence that a number or a word names. -/
def readVariant (v : Whole) : Except Mismatch Occurrence :=
  let known := [Occurrence.first, .last].map occurrenceName
  match v with
  | .text t =>
    if t == occurrenceName .first then .ok .first
    else if t == occurrenceName .last then .ok .last
    else .error (.unknownVariant t known)
  | .number (.integer i) =>
    if i == 0 then .ok .first
    else if i == 1 then .ok .last
    else .error (.wrongValue v.found "variant index 0 <= i < 2".toList)
  | v => .error (.wrongKind v.found "variant identifier".toList)

/-- An occurrence is a word, or an object with the word as its only name and
nothing for it. -/
def readOccurrence (v : Whole) : Except Mismatch Occurrence :=
  match v with
  | .text _ => readVariant v
  | .map [(name, value)] => do
    let o ← readVariant name
    match value with
    | .null => return o
    | .map [] => return o
    | value => .error (.wrongKind value.found "unit".toList)
  | .map _ => .error (.wrongValue .map "map with a single key".toList)
  | v => .error (.wrongKind v.found "string or map".toList)

/-- Reads one more member. -/
def Fields.read (fs : Fields) (f : Field) (v : Whole) : Except Mismatch Fields :=
  match f with
  | .target => (readText v).map fun t => { fs with target := some t }
  | .key => (readText v).map fun t => { fs with key := some t }
  | .start => (readText v).map fun t => { fs with start := some t }
  | .stop => (readText v).map fun t => { fs with stop := some t }
  | .replacement => (readText v).map fun t => { fs with replacement := some t }
  | .occurrence => (readOccurrence v).map fun o => { fs with occurrence := some o }
  | .requireAbsent => (readOptionalText v).map fun t => { fs with requireAbsent := some t }

/-- The member that a name means.  A number is a place in the fixed order. -/
def fieldOf (shape : List Field) (name : Whole) : Except Mismatch (Option Field) :=
  match name with
  | .text t => .ok (shape.find? fun f => f.name == t)
  | .number (.integer (.ofNat i)) => .ok shape[i]?
  | name => .error (.wrongKind name.found "field identifier".toList)

/-- Reads the members of an object. -/
def Fields.ofMembers (shape : List Field) (fs : Fields) :
    List (Whole × Whole) → Except Mismatch Fields
  | [] => .ok fs
  | (name, v) :: r => do
    match ← fieldOf shape name with
    | none => Fields.ofMembers shape fs r
    | some f =>
      if fs.has f then .error (.duplicateField f.name)
      else Fields.ofMembers shape (← fs.read f v) r

/-- Whether an edit can do without the member. -/
def Field.optional : Field → Bool
  | occurrence => true
  | requireAbsent => true
  | _ => false

/-- Reads the items of a sequence; `index` of them are read already. -/
def Fields.ofItems (wanted : Text) (index : Nat) (fs : Fields) :
    List Field → List Whole → Except Mismatch Fields
  | [], [] => .ok fs
  | [], r@(_ :: _) =>
    let count := Decimal.natText index ++ " elements in sequence".toList
    .error (.wrongLength (index + r.length) count)
  | f :: shape, [] =>
    if f.optional then Fields.ofItems wanted index fs shape []
    else .error (.wrongLength index wanted)
  | f :: shape, v :: r => do
    Fields.ofItems wanted (index + 1) (← fs.read f v) shape r

/-- A member that must be there. -/
def require (f : Field) (value : Option Text) : Except Mismatch Text :=
  match value with
  | some t => .ok t
  | none => .error (.missingField f.name)

def Fields.anchor (fs : Fields) : Except Mismatch Anchor := do
  let target ← require .target fs.target
  let key ← require .key fs.key
  return ⟨target, key, fs.occurrence.getD .first⟩

def Fields.range (fs : Fields) : Except Mismatch AnchorRange := do
  let start ← require .start fs.start
  let stop ← require .stop fs.stop
  let key ← require .key fs.key
  return ⟨start, stop, key, fs.occurrence.getD .first, fs.requireAbsent.join⟩

def Fields.replacementEdit (fs : Fields) : Except Mismatch Replacement := do
  let target ← require .target fs.target
  let replacement ← require .replacement fs.replacement
  return ⟨target, replacement, fs.occurrence.getD .first, fs.requireAbsent.join⟩

/-- The edit of a kind with these members. -/
def Fields.edit (fs : Fields) : Kind → Except Mismatch Edit
  | .insertBeforeLine => fs.anchor.map Edit.insertBeforeLine
  | .insertAfterLine => fs.anchor.map Edit.insertAfterLine
  | .insertBeforeInline => fs.anchor.map Edit.insertBeforeInline
  | .insertAfterInline => fs.anchor.map Edit.insertAfterInline
  | .addMarkerAboveTarget => fs.anchor.map Edit.addMarkerAboveTarget
  | .addMarkerBelowTarget => fs.anchor.map Edit.addMarkerBelowTarget
  | .replaceBetweenAnchors => fs.range.map Edit.replaceBetweenAnchors
  | .conditionalReplace => fs.replacementEdit.map Edit.conditionalReplace

/-- The edit of a kind whose members form an object. -/
def ofMembers (kind : Kind) (members : List (Whole × Whole)) : Except Mismatch Edit := do
  (← Fields.ofMembers kind.fields {} members).edit kind

/-- The edit of a kind whose members form a sequence. -/
def ofItems (kind : Kind) (items : List Whole) : Except Mismatch Edit := do
  (← Fields.ofItems kind.wanted 0 {} kind.fields items).edit kind

/-! ## Writing -/

def anchorMembers (a : Anchor) : List (Text × Json) := [
  (Field.target.name, .text a.target),
  (Field.key.name, .text a.key),
  (Field.occurrence.name, .text (occurrenceName a.occurrence))]

def optionalText : Option Text → Json
  | none => .null
  | some t => .text t

def rangeMembers (r : AnchorRange) : List (Text × Json) := [
  (Field.start.name, .text r.start),
  (Field.stop.name, .text r.stop),
  (Field.key.name, .text r.key),
  (Field.occurrence.name, .text (occurrenceName r.occurrence)),
  (Field.requireAbsent.name, optionalText r.requireAbsent)]

def replacementMembers (r : Replacement) : List (Text × Json) := [
  (Field.target.name, .text r.target),
  (Field.replacement.name, .text r.replacement),
  (Field.occurrence.name, .text (occurrenceName r.occurrence)),
  (Field.requireAbsent.name, optionalText r.requireAbsent)]

def kind : Edit → Kind
  | insertBeforeLine _ => .insertBeforeLine
  | insertAfterLine _ => .insertAfterLine
  | insertBeforeInline _ => .insertBeforeInline
  | insertAfterInline _ => .insertAfterInline
  | addMarkerAboveTarget _ => .addMarkerAboveTarget
  | addMarkerBelowTarget _ => .addMarkerBelowTarget
  | replaceBetweenAnchors _ => .replaceBetweenAnchors
  | conditionalReplace _ => .conditionalReplace

def members : Edit → List (Text × Json)
  | insertBeforeLine a => anchorMembers a
  | insertAfterLine a => anchorMembers a
  | insertBeforeInline a => anchorMembers a
  | insertAfterInline a => anchorMembers a
  | addMarkerAboveTarget a => anchorMembers a
  | addMarkerBelowTarget a => anchorMembers a
  | replaceBetweenAnchors r => rangeMembers r
  | conditionalReplace r => replacementMembers r

/-- The name of the member that holds the kind. -/
def typeName : Text := "type".toList

/-- The edit as an object with all its members. -/
def toJson (e : Edit) : Json :=
  .object ((typeName, .text e.kind.name) :: e.members)

end Edit

end Scaffold
