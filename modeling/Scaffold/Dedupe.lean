/-
# Removing what repeated merges leave behind

A file that collects references may end up with an import twice, or with an
entry of its list of schema types twice.  Both are removed, the first of equals
stays, and every other line is left alone.

Imports are compared as statements: collapsed, with one kind of quotes and
without closing semicolons.  Two imports of different names from one module
are different statements.

Entries are compared only on the top level of the first list that opens with
`export const schemaTypes … = [`, and only where a line holds nothing but the
name.  The level is the number of square brackets open at the start of a line.
-/
import Scaffold.Text.Lines
import Scaffold.LineKind
import Scaffold.Outcome

namespace Scaffold

namespace Dedupe

/-- The file with the lines kept, or as it is if all were kept. -/
def rejoin (content : Text) (file : Lines) (kept : List Text) : Outcome :=
  if kept.length == file.lines.length then .same content else .edited (file.render kept)

/-! ## Imports -/

/-- An import line up to spacing, kind of quotes and closing semicolons. -/
def statement (line : Text) : Text :=
  let t := (Text.collapse line).map fun c => if c == '"' then '\'' else c
  Text.trimRight (t.reverse.dropWhile fun c => c == ';').reverse

/-- The lines without those imports whose statement was seen before. -/
def distinctImports (seen : List Text) : List Text → List Text
  | [] => []
  | line :: rest =>
    match LineKind.importedModule? line with
    | none => line :: distinctImports seen rest
    | some _ =>
      if seen.contains (statement line) then distinctImports seen rest
      else line :: distinctImports (statement line :: seen) rest

/-- Drops every import line that repeats an earlier one. -/
def imports (content : Text) : Outcome :=
  let file := Lines.ofText content
  rejoin content file (distinctImports [] file.lines)

/-! ## Schema types -/

/-- What stands behind `export const schemaTypes … =`, from its bracket on. -/
def listOpening? (line : Text) : Option Text := do
  let r ← Text.after? "export".toList (Text.trimLeft line)
  let r ← LineKind.afterBlanks? r
  let r ← Text.after? "const".toList r
  let r ← LineKind.afterBlanks? r
  let r ← LineKind.afterWord? "schemaTypes".toList r
  match r.dropWhile fun c => c != '=' with
  | [] => none
  | _ :: r =>
    match Text.trimLeft r with
    | '[' :: r => some ('[' :: r)
    | _ => none

/-- Opening less closing square brackets. -/
def bracketBalance : Text → Int
  | [] => 0
  | c :: r =>
    if c == '[' then bracketBalance r + 1
    else if c == ']' then bracketBalance r - 1
    else bracketBalance r

/-- Where a line stands: before the list, inside it at some level, or after. -/
inductive Place where
  | before
  | inside (level : Int)
  | behind
deriving DecidableEq, Repr

/-- The place at a level, which is outside unless a bracket is open. -/
def Place.atLevel (level : Int) : Place :=
  if level > 0 then .inside level else .behind

/-- The place of the line after this one. -/
def Place.next (place : Place) (line : Text) : Place :=
  match place with
  | .before =>
    match listOpening? line with
    | some opened => .atLevel (bracketBalance opened)
    | none => .before
  | .inside level => .atLevel (level + bracketBalance line)
  | .behind => .behind

/-- The name on a line of the list's top level that holds nothing else. -/
def entryName? (place : Place) (line : Text) : Option Text :=
  match place with
  | .inside level => if level == 1 then LineKind.loneName? line else none
  | _ => none

/-- The lines without repeated entries.  A repeated entry holds no bracket, so
that the level does not change by leaving it out. -/
def distinctEntries (place : Place) (seen : List Text) : List Text → List Text
  | [] => []
  | line :: rest =>
    match entryName? place line with
    | none => line :: distinctEntries (place.next line) seen rest
    | some name =>
      if seen.contains name then distinctEntries place seen rest
      else line :: distinctEntries (place.next line) (name :: seen) rest

/-- Drops every repeated entry of the list of schema types. -/
def schemaTypes (content : Text) : Outcome :=
  let file := Lines.ofText content
  rejoin content file (distinctEntries .before [] file.lines)

/-- Drops repeated imports, then repeated entries. -/
def all (content : Text) : Outcome :=
  (imports content).andThen schemaTypes

end Dedupe

end Scaffold
