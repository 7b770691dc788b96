/-
# Bringing a file up to date

A file that exists takes what a template has for it in four steps:

    seed     an indexer without markers gets the ADD markers it needs
    edit     the edits of the node are applied in order
    merge    snippets go to their ADD markers
    dedupe   repeated imports and schema entries are dropped

Seeding and deduping can be switched off, and nothing is deduped if nothing
was changed before.  Steps can undo each other, so what counts in the end is
whether the content differs.
-/
import Scaffold.Dedupe
import Scaffold.Placeholder
import Scaffold.Seeding
import Scaffold.Template

namespace Scaffold

/-- Which of the optional steps are taken. -/
structure MergeOptions where
  cleanup : Bool := true
  seedIndexerMarkers : Bool := true
deriving DecidableEq, Repr

namespace Update

/-- The outcome with its flag set by comparison. -/
def settle (existing : Text) (o : Outcome) : Outcome :=
  ⟨o.content, o.content != existing⟩

/-- Seeds markers if the node is an indexer. -/
def seed (options : MergeOptions) (node : Node) (existing body : Text) : Outcome :=
  if node.isIndexer && options.seedIndexerMarkers then Seeding.seed existing body
  else .same existing

/-- Applies the edits of the node with their placeholders filled in. -/
def edit (values : Placeholders) (node : Node) (snippets : SnippetMap) (content : Text) :
    Outcome :=
  Edit.applyAll content (node.insertions.map (·.mapText values.substitute)) snippets

/-- Drops duplicates if something was changed. -/
def dedupe (options : MergeOptions) (o : Outcome) : Outcome :=
  if options.cleanup && o.changed then o.andThen Dedupe.all else o

/-- The content of an existing file with what `body` has for it. -/
def apply (values : Placeholders) (options : MergeOptions) (node : Node)
    (existing body : Text) : Outcome :=
  let snippets := SnippetMap.ofText body
  let seeded := seed options node existing body
  let edited := seeded.andThen (edit values node snippets)
  let merged := edited.andThen fun c => mergeSnippets c snippets
  settle existing (dedupe options merged)

end Update

end Scaffold
