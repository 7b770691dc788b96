/-
# Paths

A path is a text cut by slashes, and it keeps the text that it was written as.
What it means is the list of its components: a root if it starts with a slash,
a dot only in front of all else, and then names and steps up.  Empty pieces and
other dots mean nothing.

    a//b/./c/     a b c
    ./a/../b      . a .. b
    /a            / a

Two paths with the same components are the same place, though their texts may
differ.
-/
import Scaffold.Text.Basic

namespace Scaffold

structure Path where
  text : Text
deriving DecidableEq, Repr

namespace Path

inductive Component where
  | root
  | here
  | up
  | name (t : Text)
deriving DecidableEq, Repr

/-! ## Pieces -/

/-- The pieces between slashes.  There is at least one. -/
def pieces : Text → List Text
  | [] => [[]]
  | c :: r => if c == '/' then [] :: pieces r else Text.pushFirst c (pieces r)

/-- The text with slashes between its pieces. -/
def ofPieces (ps : List Text) : Text :=
  List.intercalate ['/'] ps

theorem pieces_ne_nil (t : Text) : pieces t ≠ [] := by
  cases t with
  | nil => simp [pieces]
  | cons c r =>
    simp only [pieces]
    split
    · simp
    · cases h : pieces r <;> simp [Text.pushFirst]

theorem ofPieces_pushFirst {c : Char} {ps : List Text} (h : ps ≠ []) :
    ofPieces (Text.pushFirst c ps) = c :: ofPieces ps := by
  cases ps with
  | nil => simp at h
  | cons p r => cases r <;> simp [Text.pushFirst, ofPieces, List.intercalate]

theorem ofPieces_nil_cons {ps : List Text} (h : ps ≠ []) :
    ofPieces ([] :: ps) = '/' :: ofPieces ps := by
  cases ps with
  | nil => simp at h
  | cons p r => simp [ofPieces, List.intercalate]

/-- No text is lost in cutting it. -/
theorem ofPieces_pieces (t : Text) : ofPieces (pieces t) = t := by
  induction t with
  | nil => rfl
  | cons c r ih =>
    simp only [pieces]
    split
    case isTrue h =>
      obtain rfl := by simpa using h
      rw [ofPieces_nil_cons (pieces_ne_nil r), ih]
    case isFalse => rw [ofPieces_pushFirst (pieces_ne_nil r), ih]

/-- The component that a piece stands for, if it is not the first one. -/
def component? (piece : Text) : Option Component :=
  if piece.isEmpty || piece == ['.'] then none
  else if piece == ['.', '.'] then some .up
  else some (.name piece)

def isNothing (piece : Text) : Bool :=
  (component? piece).isNone

/-- The component in front, which is none of the pieces, and the pieces. -/
def parts (p : Path) : Option Component × List Text :=
  match p.text with
  | '/' :: r => (some .root, pieces r)
  | ['.'] => (some .here, [])
  | '.' :: '/' :: r => (some .here, [] :: pieces r)
  | t => (none, pieces t)

def components (p : Path) : List Component :=
  p.parts.1.toList ++ p.parts.2.filterMap component?

/-- Whether two paths have the same components. -/
def same (p q : Path) : Bool :=
  p.components == q.components

def isAbsolute (p : Path) : Bool :=
  p.text.head? == some '/'

/-! ## Joining -/

/-- A path seen from another one.  An absolute path stays as it is. -/
def join (base p : Path) : Path :=
  if p.isAbsolute then p
  else if base.text.isEmpty || base.text.getLast? == some '/' then ⟨base.text ++ p.text⟩
  else ⟨base.text ++ '/' :: p.text⟩

/-! ## Taking apart -/

/-- The text of a component in front. -/
def leadText : Option Component → Text
  | some .root => ['/']
  | some .here => ['.']
  | _ => []

def dropEnd (ps : List Text) : List Text :=
  (ps.reverse.dropWhile isNothing).reverse

def dropBoth (ps : List Text) : List Text :=
  dropEnd (ps.dropWhile isNothing)

/-- The path without pieces at its end that mean nothing. -/
def trimmed (p : Path) : Path :=
  ⟨leadText p.parts.1 ++ ofPieces (dropEnd p.parts.2)⟩

/-- The path without its last component.  A root has no parent. -/
def parent? (p : Path) : Option Path :=
  let (lead, ps) := p.parts
  match dropEnd ps with
  | [] => if lead == some .here then some ⟨[]⟩ else none
  | ps => some ⟨leadText lead ++ ofPieces (dropEnd ps.dropLast)⟩

/-- The last component if it is a name. -/
def fileName? (p : Path) : Option Text :=
  match p.components.getLast? with
  | some (.name t) => some t
  | _ => none

/-- What stands behind the last dot of the file name, unless the name starts
with that dot. -/
def extension? (p : Path) : Option Text := do
  let (stem, extension) ← Text.splitLast? ['.'] (← p.fileName?)
  if stem.isEmpty then none else some extension

/-- The pieces that are left after these components. -/
def dropComponents? : List Component → List Text → Option (List Text)
  | [], ps => some ps
  | _ :: _, [] => none
  | c :: cs, p :: ps =>
    match component? p with
    | none => dropComponents? (c :: cs) ps
    | some d => if d == c then dropComponents? cs ps else none

/-- The path seen from a place that it starts with. -/
def stripPrefix? (p base : Path) : Option Path :=
  match base.components, p.parts with
  | [], _ => some p.trimmed
  | c :: cs, (some lead, ps) =>
    if lead == c then (dropComponents? cs ps).map fun r => ⟨ofPieces (dropBoth r)⟩ else none
  | cs, (none, ps) => (dropComponents? cs ps).map fun r => ⟨ofPieces (dropBoth r)⟩

/-- The path seen from `base` if it starts so, or else the path itself. -/
def relativeTo (p base : Path) : Path :=
  (p.stripPrefix? base).getD p

end Path

end Scaffold
