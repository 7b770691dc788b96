/-
# Merging snippets into a file

Every ADD marker of a file asks for the snippet that its key means.  The
snippet goes right above or right below the marker, with the marker's
indentation, unless the file holds it already; the file as it stands at that
moment counts, with what was inserted further up.  Only the first marker of a
key is served.  Markers stay, so that a file can be merged into again.
-/
import Scaffold.Snippet.Key
import Scaffold.Presence
import Scaffold.Outcome

namespace Scaffold

namespace Merge

/-- A merge on its way down a file. -/
structure State where
  /-- The lines of the result so far. -/
  done : List Text
  /-- The keys whose first marker has been passed. -/
  handled : List Text
  /-- Whether anything was inserted. -/
  changed : Bool

def State.initial : State := ⟨[], [], false⟩

/-- Passes a line as it is. -/
def State.keep (s : State) (line : Text) : State :=
  { s with done := s.done ++ [line] }

/-- Whether the block stands at the end of these lines. -/
def standsAbove (done : List Text) (block : Block) : Bool :=
  Block.sameTrimmed (done.drop (done.length - block.length)) block

/-- Whether the block stands at the start of these lines. -/
def standsBelow (rest : List Text) (block : Block) : Bool :=
  Block.sameTrimmed (rest.take block.length) block

/-- The block that a marker line is owed: what its key means, indented like the
marker, if the file does not hold it. -/
def owed? (snippets : SnippetMap) (done : List Text) (line : Text) (rest : List Text)
    (key : Text) : Option Block :=
  match snippets.resolve? key with
  | none => none
  | some (_, snippet) =>
    if isPresent (done ++ line :: rest) snippet then none
    else some (Block.indentBy (Text.indentation line) snippet)

/-- Passes a marker and puts the block beside it, where it does not stand yet. -/
def State.place (s : State) (line : Text) (rest : List Text) (block : Block) :
    Position → State
  | .above =>
    if standsAbove s.done block then s.keep line
    else { s with done := s.done ++ block ++ [line], changed := true }
  | .below =>
    if standsBelow rest block then s.keep line
    else { s with done := s.done ++ line :: block, changed := true }

/-- Passes one line of the file; `rest` is what follows it. -/
def State.step (snippets : SnippetMap) (s : State) (line : Text) (rest : List Text) : State :=
  match Marker.ofLine? line with
  | some (.add key position) =>
    if s.handled.contains key then s.keep line
    else
      let s' := { s with handled := key :: s.handled }
      match owed? snippets s.done line rest key with
      | none => s'.keep line
      | some block => s'.place line rest block position
  | _ => s.keep line

/-- Passes all lines. -/
def State.run (snippets : SnippetMap) : State → List Text → State
  | s, [] => s
  | s, line :: rest => State.run snippets (s.step snippets line rest) rest

end Merge

/-- Merges snippets into a file at its ADD markers. -/
def mergeSnippets (existing : Text) (snippets : SnippetMap) : Outcome :=
  let file := Lines.ofText existing
  let s := Merge.State.initial.run snippets file.lines
  if s.changed then .edited (file.render s.done) else .same existing

/-- Merges the snippets of a template into a file. -/
def mergeTemplate (existing template : Text) : Outcome :=
  mergeSnippets existing (SnippetMap.ofText template)

end Scaffold
