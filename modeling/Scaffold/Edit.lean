/-
# Edits at an anchor

A template may say how to edit a file that has no fitting markers.  An edit
looks for its anchor, the first or the last line that contains a text and is
no marker, and changes the file there.  An edit whose anchor or snippet is
missing does nothing, and so does one whose result is there already.
-/
import Scaffold.Merge

namespace Scaffold

/-- Which of several fitting places counts. -/
inductive Occurrence where
  | first
  | last
deriving DecidableEq, Repr

/-- An anchor and the key of the snippet to put beside it. -/
structure Anchor where
  target : Text
  key : Text
  occurrence : Occurrence
deriving DecidableEq, Repr

/-- The anchor with `f` applied to its texts. -/
def Anchor.mapText (f : Text → Text) (a : Anchor) : Anchor :=
  { a with target := f a.target, key := f a.key }

/-- A range of lines to be replaced by a snippet. -/
structure AnchorRange where
  start : Text
  stop : Text
  key : Text
  occurrence : Occurrence
  /-- The edit is off where the file contains this. -/
  requireAbsent : Option Text
deriving DecidableEq, Repr

/-- A text to be replaced by another one. -/
structure Replacement where
  target : Text
  replacement : Text
  occurrence : Occurrence
  /-- The edit is off where the file contains this, or the replacement itself
  if nothing is given. -/
  requireAbsent : Option Text
deriving DecidableEq, Repr

inductive Edit where
  | insertBeforeLine (a : Anchor)
  | insertAfterLine (a : Anchor)
  | insertBeforeInline (a : Anchor)
  | insertAfterInline (a : Anchor)
  | addMarkerAboveTarget (a : Anchor)
  | addMarkerBelowTarget (a : Anchor)
  | replaceBetweenAnchors (r : AnchorRange)
  | conditionalReplace (r : Replacement)
deriving DecidableEq, Repr

namespace Edit

/-! ## Finding the anchor -/

/-- A list cut at one of its lines. -/
structure Cut where
  before : List Text
  line : Text
  after : List Text
deriving DecidableEq, Repr

/-- Cuts at the first line with the property. -/
def cutFirst? (p : Text → Bool) : List Text → Option Cut
  | [] => none
  | l :: r =>
    if p l then some ⟨[], l, r⟩
    else (cutFirst? p r).map fun c => { c with before := l :: c.before }

/-- Cuts at the last line with the property. -/
def cutLast? (p : Text → Bool) : List Text → Option Cut
  | [] => none
  | l :: r =>
    match cutLast? p r with
    | some c => some { c with before := l :: c.before }
    | none => if p l then some ⟨[], l, r⟩ else none

/-- Whether a line can be the anchor for a text. -/
def isAnchor (target line : Text) : Bool :=
  Text.hasRun target line && !Marker.isMarker line

/-- Cuts at the anchor.  An empty text has none. -/
def anchor? (target : Text) (occurrence : Occurrence) (ls : List Text) : Option Cut :=
  if target.isEmpty then none
  else
    match occurrence with
    | .first => cutFirst? (isAnchor target) ls
    | .last => cutLast? (isAnchor target) ls

/-! ## The edits -/

/-- Puts lines above or below the line of a cut. -/
def Cut.insert (c : Cut) (block : List Text) : Position → List Text
  | .above => c.before ++ block ++ c.line :: c.after
  | .below => c.before ++ c.line :: block ++ c.after

/-- Inserts the snippet as lines of its own beside the anchor. -/
def insertLines (content : Text) (a : Anchor) (snippets : SnippetMap) (position : Position) :
    Outcome :=
  let file := Lines.ofText content
  match snippets.resolve? a.key, anchor? a.target a.occurrence file.lines with
  | some (_, snippet), some cut =>
    if isPresent file.lines snippet then .same content
    else
      let block := Block.indentBy (Text.indentation cut.line) snippet
      .edited (file.render (cut.insert block position))
  | _, _ => .same content

/-- A line with `text` beside the first place of `target`, with one space in
between; `none` if it stands there already or there is no such place. -/
def insertInLine? (text target line : Text) (position : Position) : Option Text :=
  match Text.splitFirst? target line with
  | none => none
  | some (head, tail) =>
    match position with
    | .above =>
      if text.isSuffixOf (Text.trimRight head) then none
      else some (head ++ text ++ ' ' :: (target ++ tail))
    | .below =>
      if text.isPrefixOf (Text.trimLeft tail) then none
      else some (head ++ target ++ ' ' :: (text ++ tail))

/-- Inserts the snippet, as one text, within the anchor line. -/
def insertInline (content : Text) (a : Anchor) (snippets : SnippetMap) (position : Position) :
    Outcome :=
  let file := Lines.ofText content
  match snippets.resolve? a.key, anchor? a.target a.occurrence file.lines with
  | some (_, snippet), some cut =>
    let text := Text.collapse (List.intercalate [' '] snippet)
    if text.isEmpty then .same content
    else
      match insertInLine? text a.target cut.line position with
      | none => .same content
      | some line => .edited (file.render (cut.before ++ line :: cut.after))
  | _, _ => .same content

/-- Adds an ADD marker beside the anchor, unless the file has one of this key. -/
def addMarker (content : Text) (a : Anchor) (position : Position) : Outcome :=
  let file := Lines.ofText content
  if Marker.hasAdd content a.key then .same content
  else
    match anchor? a.target a.occurrence file.lines with
    | none => .same content
    | some cut =>
      let line := Marker.addLine (Text.indentation cut.line) a.key position
      .edited (file.render (cut.insert [line] position))

/-- Whether a guard text is given, not empty and in the content. -/
def isGuarded (content : Text) : Option Text → Bool
  | none => false
  | some guard => !guard.isEmpty && Text.hasRun guard content

/-- Replaces the lines from the anchor through the next line that contains the
closing text. -/
def replaceRange (content : Text) (r : AnchorRange) (snippets : SnippetMap) : Outcome :=
  let file := Lines.ofText content
  if isGuarded content r.requireAbsent then .same content
  else
    match snippets.resolve? r.key, anchor? r.start r.occurrence file.lines with
    | some (_, snippet), some cut =>
      match cutFirst? (fun l => !r.stop.isEmpty && Text.hasRun r.stop l) cut.after with
      | none => .same content
      | some closing =>
        let old := cut.line :: (closing.before ++ [closing.line])
        let block := Block.indentBy (Text.indentation cut.line) snippet
        if Block.sameTrimmed old block then .same content
        else .edited (file.render (cut.before ++ block ++ closing.after))
    | _, _ => .same content

/-- Replaces the first or last place of a text, wherever it stands. -/
def replaceText (content : Text) (r : Replacement) : Outcome :=
  let guard := r.requireAbsent.getD r.replacement
  if r.target.isEmpty || isGuarded content (some guard) then .same content
  else
    let found :=
      match r.occurrence with
      | .first => Text.splitFirst? r.target content
      | .last => Text.splitLast? r.target content
    match found with
    | none => .same content
    | some (before, after) => .edited (before ++ r.replacement ++ after)

/-- Applies an edit; keys are looked up in `snippets`. -/
def apply (content : Text) (snippets : SnippetMap) : Edit → Outcome
  | insertBeforeLine a => insertLines content a snippets .above
  | insertAfterLine a => insertLines content a snippets .below
  | insertBeforeInline a => insertInline content a snippets .above
  | insertAfterInline a => insertInline content a snippets .below
  | addMarkerAboveTarget a => addMarker content a .above
  | addMarkerBelowTarget a => addMarker content a .below
  | replaceBetweenAnchors r => replaceRange content r snippets
  | conditionalReplace r => replaceText content r

/-- Applies several edits, each to the content that the one before has left. -/
def applyAll (content : Text) (edits : List Edit) (snippets : SnippetMap) : Outcome :=
  edits.foldl (fun o e => o.andThen fun c => e.apply c snippets) (.same content)

/-! ## Filling in texts -/

/-- The edit with `f` applied to each of its texts. -/
def mapText (f : Text → Text) : Edit → Edit
  | insertBeforeLine a => .insertBeforeLine (a.mapText f)
  | insertAfterLine a => .insertAfterLine (a.mapText f)
  | insertBeforeInline a => .insertBeforeInline (a.mapText f)
  | insertAfterInline a => .insertAfterInline (a.mapText f)
  | addMarkerAboveTarget a => .addMarkerAboveTarget (a.mapText f)
  | addMarkerBelowTarget a => .addMarkerBelowTarget (a.mapText f)
  | replaceBetweenAnchors r =>
    .replaceBetweenAnchors
      { r with
        start := f r.start
        stop := f r.stop
        key := f r.key
        requireAbsent := r.requireAbsent.map f }
  | conditionalReplace r =>
    .conditionalReplace
      { r with
        target := f r.target
        replacement := f r.replacement
        requireAbsent := r.requireAbsent.map f }

end Edit

end Scaffold
