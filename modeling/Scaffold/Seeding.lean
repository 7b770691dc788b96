/-
# Giving a file its first markers

A collecting file without any marker has no place for snippets.  Seeding adds
one ADD marker for every key that the template needs, each in the place its
name suggests:

    * keys of imports: below the last line that looks like an import, or
      above the first line,
    * keys of exports: above the first line that looks like an export,
    * other keys: below the last entry of a list, or above the first line that
      looks like an export,

and at the end of the file where there is no such line.
-/
import Scaffold.Merge

namespace Scaffold

namespace Seeding

/-- A place between the lines of a file. -/
inductive Slot where
  | before (index : Nat)
  | after (index : Nat)
  | atEnd
deriving DecidableEq, Repr

/-- Members in order, without those that were there before. -/
def distinct (seen : List Text) : List Text → List Text
  | [] => []
  | k :: r => if seen.contains k then distinct seen r else k :: distinct (k :: seen) r

/-- The keys that a template wants merged: those of its ADD markers, or those
of its snippets if it has no ADD marker. -/
def neededKeys (template : Text) : List Text :=
  match distinct [] ((Marker.addsIn template).map (·.1)) with
  | [] => (SnippetMap.ofText template).keys
  | keys => keys

/-- The index of the last line with the property. -/
def lastIndex? (p : Text → Bool) : List Text → Option Nat
  | [] => none
  | l :: r =>
    match lastIndex? p r with
    | some i => some (i + 1)
    | none => if p l then some 0 else none

/-- A key in small letters. -/
def lowered (key : Text) : Text :=
  key.flatMap Unicode.toLower

def isImportKey (key : Text) : Bool :=
  Text.hasRun "import".toList (lowered key)

def isExportKey (key : Text) : Bool :=
  Text.hasRun "export".toList (lowered key)

/-- The place for a key among the lines, and the side on which its snippets
are to go. -/
def slotFor (ls : List Text) (key : Text) : Slot × Position :=
  let firstExport := ls.findIdx? LineKind.isExportLike
  if isImportKey key then
    match lastIndex? LineKind.isImportLike ls with
    | some i => (.after i, .below)
    | none => if ls.isEmpty then (.atEnd, .below) else (.before 0, .below)
  else if isExportKey key then
    match firstExport with
    | some i => (.before i, .above)
    | none => (.atEnd, .below)
  else
    match lastIndex? LineKind.isListEntry ls, firstExport with
    | some i, _ => (.after i, .below)
    | none, some i => (.before i, .above)
    | none, none => (.atEnd, .below)

/-- The indentation of the line that a place belongs to. -/
def slotIndent (ls : List Text) : Slot → Text
  | .before i => Text.indentation (ls.getD i [])
  | .after i => Text.indentation (ls.getD i [])
  | .atEnd => []

/-- The marker line for a key, with its place. -/
def markerFor (ls : List Text) (key : Text) : Slot × Text :=
  let (slot, position) := slotFor ls key
  (slot, Marker.addLine (slotIndent ls slot) key position)

/-- The marker lines of one place, in order. -/
def atSlot (placed : List (Slot × Text)) (slot : Slot) : List Text :=
  (placed.filter fun m => m.1 == slot).map (·.2)

/-- The lines from `index` on, with the marker lines in their places. -/
def weave (placed : List (Slot × Text)) (index : Nat) : List Text → List Text
  | [] => atSlot placed .atEnd
  | l :: r =>
    atSlot placed (.before index) ++ l :: atSlot placed (.after index)
      ++ weave placed (index + 1) r

/-- Adds the markers that the template needs, unless the file has a marker. -/
def seed (existing template : Text) : Outcome :=
  if Marker.anyIn existing then .same existing
  else
    match neededKeys template with
    | [] => .same existing
    | keys =>
      let file := Lines.ofText existing
      .edited (file.render (weave (keys.map (markerFor file.lines)) 0 file.lines))

end Seeding

end Scaffold
