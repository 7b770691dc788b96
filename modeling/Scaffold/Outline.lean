/-
# Paths drawn as a tree

Several paths make a forest: every name of a path is a branch below the names
before it, and names in common share their branch.  Branches stay in the order
in which they first came up.  A path that came before is passed over; roots,
dots and steps up do not show.

    label
    ├── a
    │   ├── x
    │   └── y
    └── b
-/
import Scaffold.Path

namespace Scaffold

namespace Outline

/-- A name and the branches below it. -/
inductive Branch where
  | mk (name : Text) (children : List Branch)

def Branch.name : Branch → Text
  | mk name _ => name

def Branch.children : Branch → List Branch
  | mk _ children => children

/-- Changes what is below a name, which becomes the last one if it is new. -/
def below (name : Text) (change : List Branch → List Branch) : List Branch → List Branch
  | [] => [.mk name (change [])]
  | b :: r =>
    if b.name == name then .mk name (change b.children) :: r
    else b :: below name change r

/-- Adds names, each one below the name before it. -/
def grow : List Text → List Branch → List Branch
  | [], forest => forest
  | name :: r, forest => below name (grow r) forest

/-- The names of a path. -/
def names (p : Path) : List Text :=
  p.components.filterMap fun c =>
    match c with
    | .name t => some t
    | _ => none

/-- The lines of a forest, each behind `lead`. -/
def draw (lead : Text) : List Branch → List Text
  | [] => []
  | .mk name children :: r =>
    if r.isEmpty then
      (lead ++ "└── ".toList ++ name) :: draw (lead ++ "    ".toList) children
    else
      (lead ++ "├── ".toList ++ name) :: draw (lead ++ "│   ".toList) children ++ draw lead r

end Outline

/-- Paths and the forest of their names. -/
structure Outline where
  paths : List Path
  forest : List Outline.Branch

namespace Outline

def empty : Outline := ⟨[], []⟩

def isEmpty (o : Outline) : Bool :=
  o.paths.isEmpty

/-- Adds a path unless it is there. -/
def add (o : Outline) (p : Path) : Outline :=
  if o.paths.any p.same then o
  else ⟨o.paths ++ [p], grow (names p) o.forest⟩

def ofPaths (paths : List Path) : Outline :=
  paths.foldl add empty

/-- The drawing below a line with a label. -/
def render (o : Outline) (label : Text) : Text :=
  (label :: draw [] o.forest).flatMap fun line => line ++ ['\n']

end Outline

end Scaffold
