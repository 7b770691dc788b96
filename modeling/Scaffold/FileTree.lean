/-
# A disk that is a value

A file tree maps locations, lists of names from the root, to files and
directories.  A path is followed piece by piece:

    nothing, .   stays, and what is there must be a directory
    ..           goes to the directory around it
    a name       goes on to what has this name

so that a slash at the end asks for a directory.  There are no links.  A name
has at most 255 bytes, a path at most 4095, and neither a NUL.
-/
import Scaffold.Disk
import Scaffold.Table
import Scaffold.Text.Utf8

namespace Scaffold

abbrev Location := List Text

/-- What a file holds: text, or bytes that are no text. -/
inductive FileContent where
  | text (t : Text)
  | binary (bytes : Bytes)
deriving DecidableEq, Repr

inductive FileTree.Entry where
  | directory
  | file (content : FileContent)
deriving DecidableEq, Repr

structure FileTree where
  /-- What stands below the root, each location once. -/
  entries : List (Location × FileTree.Entry)
  /-- The directory that relative paths start from. -/
  current : Location

namespace FileTree

open Disk (Fault Kind)

/-- What stands at a location.  The root is a directory. -/
def get? (t : FileTree) (l : Location) : Option Entry :=
  if l.isEmpty then some .directory else t.entries.lookup l

/-- Puts something at a location. -/
def put (t : FileTree) (l : Location) (e : Entry) : FileTree :=
  { t with entries := Table.put t.entries l e }

/-- Puts a directory at a location and at those around it where nothing is. -/
def putDirectories (t : FileTree) (l : Location) : FileTree :=
  (List.range l.length).foldl (fun t n =>
    let here := l.take (n + 1)
    if (t.get? here).isSome then t else t.put here .directory) t

/-- A tree with nothing but a directory to start from. -/
def startingAt (l : Location) : FileTree :=
  putDirectories ⟨[], l⟩ l

/-- Takes away what stands at a location and below it. -/
def erase (t : FileTree) (l : Location) : FileTree :=
  { t with entries := t.entries.filter fun d => !l.isPrefixOf d.1 }

/-! ## Following a path -/

/-- What has this name in a directory. -/
def child (t : FileTree) (here : Location) (name : Text) : Except Fault (Location × Entry) :=
  if Text.byteSize name > 255 then .error .nameTooLong
  else
    match t.get? (here ++ [name]) with
    | none => .error .missing
    | some e => .ok (here ++ [name], e)

/-- Where a piece of a path leads from a directory. -/
def follow (t : FileTree) (here : Location) (piece : Text) : Except Fault (Location × Entry) :=
  match Path.component? piece with
  | some (.name name) => t.child here name
  | some .up => .ok (here.dropLast, .directory)
  | _ => .ok (here, .directory)

/-- Where several pieces lead, if all of them are directories. -/
def enter (t : FileTree) (here : Location) : List Text → Except Fault Location
  | [] => .ok here
  | piece :: r => do
    match ← t.follow here piece with
    | (next, .directory) => t.enter next r
    | (_, .file _) => .error .notDirectory

/-- Refuses texts that name no place on any disk. -/
def checkText (p : Path) : Except Fault Unit :=
  if p.text.contains '\x00' then .error .nulByte
  else if Text.byteSize p.text > 4095 then .error .nameTooLong
  else if p.text.isEmpty then .error .missing
  else .ok ()

/-- Where a path starts, and its pieces. -/
def origin (t : FileTree) (p : Path) : Location × List Text :=
  match p.text with
  | '/' :: r => ([], Path.pieces r)
  | text => (t.current, Path.pieces text)

/-- What a path leads to. -/
def locate (t : FileTree) (p : Path) : Except Fault (Location × Entry) := do
  checkText p
  let (start, pieces) := t.origin p
  let here ← t.enter start pieces.dropLast
  t.follow here (pieces.getLast?.getD [])

/-- A place where something may be put: the directory around it, the piece that
leads there, and whether a slash follows. -/
structure Place where
  around : Location
  piece : Text
  slash : Bool

/-- The place that a path means. -/
def place (t : FileTree) (p : Path) : Except Fault Place := do
  checkText p
  let (start, pieces) := t.origin p
  let solid := (pieces.reverse.dropWhile List.isEmpty).reverse
  let around ← t.enter start solid.dropLast
  return ⟨around, solid.getLast?.getD [], solid.length < pieces.length⟩

/-! ## The operations -/

def kind? (t : FileTree) (p : Path) : Option Kind :=
  match t.locate p with
  | .ok (_, .directory) => some .directory
  | .ok (_, .file _) => some .file
  | .error _ => none

def read (t : FileTree) (p : Path) : Except Fault Text := do
  match ← t.locate p with
  | (_, .directory) => .error .isDirectory
  | (_, .file (.binary _)) => .error .notText
  | (_, .file (.text text)) => .ok text

def makeDirectory (t : FileTree) (p : Path) : Except Fault FileTree := do
  let place ← t.place p
  match Path.component? place.piece with
  | some (.name name) =>
    match t.child place.around name with
    | .ok _ => .error .present
    | .error .missing => .ok (t.put (place.around ++ [name]) .directory)
    | .error f => .error f
  | _ => .error .present

def write (t : FileTree) (p : Path) (content : FileContent) : Except Fault FileTree := do
  let place ← t.place p
  match Path.component? place.piece with
  | some (.name name) =>
    if place.slash then .error .isDirectory
    else
      let written := t.put (place.around ++ [name]) (.file content)
      match t.child place.around name with
      | .ok (_, .directory) => .error .isDirectory
      | .ok (_, .file _) => .ok written
      | .error .missing => .ok written
      | .error f => .error f
  | _ => .error .isDirectory

/-- Takes the new tree, or keeps the old one. -/
def update (change : FileTree → Except Fault FileTree) : StateM FileTree (Except Fault Unit) :=
  fun t =>
    match change t with
    | .ok next => (.ok (), next)
    | .error f => (.error f, t)

/-- The path of a location. -/
def pathOf (l : Location) : Path :=
  ⟨'/' :: Path.ofPieces l⟩

instance : Disk (StateM FileTree) where
  current := fun t => (pathOf t.current, t)
  kind? p := fun t => (t.kind? p, t)
  makeDirectory p := update fun t => t.makeDirectory p
  read p := fun t => (t.read p, t)
  write p text := update fun t => t.write p (.text text)

end FileTree

end Scaffold
