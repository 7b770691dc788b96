/-
# Snippets of a template

The lines between a START marker and the next START or END marker form the
snippet of the START marker's key; the lines outside any such block form the
residual.  Nothing is malformed: an END without a block is dropped, a START
inside a block ends that block, and the end of the template ends the last one.
ADD markers are dropped wherever they stand.  Of two blocks with one key the
first counts.
-/
import Scaffold.Marker
import Scaffold.Text.Layout

namespace Scaffold

/-- Snippets by key, in the order of the template. -/
structure SnippetMap where
  entries : List (Text × Block)
deriving DecidableEq, Repr

namespace SnippetMap

def empty : SnippetMap := ⟨[]⟩

def keys (m : SnippetMap) : List Text :=
  m.entries.map (·.1)

def size (m : SnippetMap) : Nat :=
  m.entries.length

def isEmpty (m : SnippetMap) : Bool :=
  m.entries.isEmpty

/-- The entry with exactly this key. -/
def find? (m : SnippetMap) (key : Text) : Option (Text × Block) :=
  m.entries.find? fun e => e.1 == key

/-- The snippet under exactly this key. -/
def get? (m : SnippetMap) (key : Text) : Option Block :=
  (m.find? key).map (·.2)

/-- Adds an entry, unless the key has one. -/
def insertNew (m : SnippetMap) (key : Text) (snippet : Block) : SnippetMap :=
  match m.find? key with
  | some _ => m
  | none => ⟨m.entries ++ [(key, snippet)]⟩

end SnippetMap

/-- What a template is made of. -/
structure Extraction where
  snippets : SnippetMap
  residual : Text
deriving DecidableEq, Repr

namespace Extraction

/-- A template read up to some line: the finished snippets, the residual lines,
and the block that is still open. -/
structure State where
  snippets : SnippetMap
  residual : List Text
  open? : Option (Text × List Text)

def State.initial : State := ⟨.empty, [], none⟩

/-- Ends the open block, if there is one. -/
def State.close (s : State) : State :=
  match s.open? with
  | none => s
  | some (key, body) =>
    { s with snippets := s.snippets.insertNew key (Block.dedent body), open? := none }

/-- Reads one more line. -/
def State.step (s : State) (line : Text) : State :=
  match Marker.ofLine? line with
  | some (.start key) => { s.close with open? := some (key, []) }
  | some (.stop _) => s.close
  | some (.add _ _) => s
  | none =>
    match s.open? with
    | some (key, body) => { s with open? := some (key, body ++ [line]) }
    | none => { s with residual := s.residual ++ [line] }

/-- Snippets and residual lines of a template given by its lines. -/
def scan (ls : List Text) : State :=
  (ls.foldl State.step .initial).close

/-- Splits a template. -/
def ofText (template : Text) : Extraction :=
  let s := scan template.lines
  { snippets := s.snippets
    residual := Text.unlinesEnded s.residual template.endsLine }

end Extraction

/-- The snippets of a template. -/
def SnippetMap.ofText (template : Text) : SnippetMap :=
  (Extraction.ofText template).snippets

end Scaffold
