/-
# What a run did to files

A report lists every file that a run came by, in the order of the template, and
whether the file was created, modified or left as it was.
-/
import Scaffold.Outline

namespace Scaffold

inductive ChangeKind where
  | created
  | modified
  | unchanged
deriving DecidableEq, Repr

/-- A file that a run came by. -/
structure Change where
  path : Path
  /-- The path seen from the output root. -/
  relative : Path
  kind : ChangeKind
deriving DecidableEq, Repr

structure Report where
  changes : List Change
deriving DecidableEq, Repr

namespace Report

def empty : Report := ⟨[]⟩

def append (r s : Report) : Report :=
  ⟨r.changes ++ s.changes⟩

/-- The files that were created or modified. -/
def touched (r : Report) : List Change :=
  r.changes.filter fun c => c.kind != .unchanged

/-- How many files there are of a kind. -/
def count (r : Report) (kind : ChangeKind) : Nat :=
  (r.changes.filter fun c => c.kind == kind).length

/-- The files that were created or modified, as seen from the root. -/
def outline (r : Report) : Outline :=
  .ofPaths (r.touched.map (·.relative))

end Report

end Scaffold
