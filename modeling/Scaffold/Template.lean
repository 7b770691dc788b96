/-
# Templates

A template is a list of groups, each with a base path and a forest of nodes.  A
node with children is a directory, any other node is a file.  All names, paths
and codes may hold placeholders.
-/
import Scaffold.Edit.Fields

namespace Scaffold

/-- A file, or a directory if it has children. -/
structure Node where
  name : Text
  code : Text := []
  /-- A file that collects references to generated files.  A new one keeps its
  ADD markers for later merges. -/
  isIndexer : Bool := false
  children : List Node := []
  /-- Edits for a file that exists, in order, before the merge. -/
  insertions : List Edit := []

/-- A forest of nodes below one path. -/
structure PathGroup where
  path : Text := []
  nodes : List Node := []

structure Template where
  filePaths : List PathGroup := []

def Node.isDirectory (n : Node) : Bool :=
  !n.children.isEmpty

mutual

/-- The number of files that a node describes. -/
def Node.fileCount : Node → Nat
  | ⟨_, _, _, children, _⟩ =>
    match children with
    | [] => 1
    | c :: r => c.fileCount + Node.fileCounts r

/-- The number of files that a forest describes. -/
def Node.fileCounts : List Node → Nat
  | [] => 0
  | n :: r => n.fileCount + Node.fileCounts r

end

/-- The number of files that a template describes. -/
def Template.fileCount (t : Template) : Nat :=
  t.filePaths.foldr (fun g n => Node.fileCounts g.nodes + n) 0

/-! ## Writing -/

mutual

/-- A node with all its members; a list of edits that is empty is left out. -/
def Node.toJson : Node → Json
  | ⟨name, code, isIndexer, children, insertions⟩ =>
    .object ([
      ("name".toList, .text name),
      ("code".toList, .text code),
      ("isIndexer".toList, .bool isIndexer),
      ("children".toList, .array (Node.toJsons children))]
      ++ if insertions.isEmpty then []
        else [("insertions".toList, .array (insertions.map Edit.toJson))])

def Node.toJsons : List Node → List Json
  | [] => []
  | n :: r => n.toJson :: Node.toJsons r

end

def PathGroup.toJson (g : PathGroup) : Json :=
  .object [("path".toList, .text g.path), ("nodes".toList, .array (Node.toJsons g.nodes))]

def Template.toJson (t : Template) : Json :=
  .object [("filePaths".toList, .array (t.filePaths.map PathGroup.toJson))]

end Scaffold
