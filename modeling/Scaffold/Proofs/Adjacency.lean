/-
# A block beside its place is in the file

Before a block is put beside a line it is asked whether the file holds the snippet, and a
merge then looks once more whether the block stands beside the marker already:

                   is it in the file?    does it stand beside the line?
    merge          asked                 asked
    insertion      asked                 not asked

The second look never decides.  A block that stands anywhere among the lines, up to blanks
around them, makes its snippet count as present, since the run of collapsed lines that
presence looks for leaves out blank lines on both sides alike (`isPresent_of_written`).  So an
insertion that looks would do what it does without (`insertLinesLooking_eq`), and in a merge
every marker that comes as far as the second look gets its block
(`mergeSnippets_of_missing`).
-/
import Scaffold.Proofs.LineInsertion
import Scaffold.Proofs.MergeLaws

namespace Scaffold

open Text (allBlank indentation)
open Merge (standsAbove standsBelow)

/-! ## Insertions -/

namespace Edit

/-- Whether the block stands right above or right below the line of the cut. -/
def Cut.hasBeside (c : Cut) (block : Block) : Bool :=
  standsAbove c.before block || standsBelow c.after block

theorem Cut.isPresent_of_hasBeside {c : Cut} {b : Block} {indent : Text}
    (hindent : allBlank indent = true) (h : c.hasBeside (b.indentBy indent) = true) :
    isPresent c.lines b = true := by
  rcases Bool.or_eq_true_iff.1 h with habove | hbelow
  · exact Merge.isPresent_of_standsAbove hindent habove
  · exact Merge.isPresent_of_standsBelow hindent hbelow

/-- Inserts lines unless they stand beside the anchor already. -/
def insertLinesLooking (content : Text) (a : Anchor) (S : SnippetMap) (side : Position) :
    Outcome :=
  match S.resolve? a.key, anchor? a.target a.occurrence content.lines with
  | some (_, snippet), some cut =>
    if cut.hasBeside (Block.indentBy (indentation cut.line) snippet) then .same content
    else insertLines content a S side
  | _, _ => insertLines content a S side

/-- An insertion of lines that looks beside its anchor is the same insertion. -/
theorem insertLinesLooking_eq (content : Text) (a : Anchor) (S : SnippetMap) (side : Position) :
    insertLinesLooking content a S side = insertLines content a S side := by
  rw [insertLinesLooking]
  split
  next key snippet cut he hcut =>
    split
    next hbeside =>
      have hpresent : isPresent content.lines snippet = true := by
        rw [← (anchor?_eq_some_iff.1 hcut).2.lines]
        exact Cut.isPresent_of_hasBeside (Text.allBlank_indentation cut.line) hbeside
      exact (insertLines_of_isPresent he hpresent side).symm
    next => rfl
  next => rfl

end Edit

/-! ## Merges -/

namespace Merge

variable {S : SnippetMap} {s : State} {line key : Text} {rest : List Text} {p : Position}
  {e : Text × Block}

/-- A block that a merge puts beside a marker on its way is there when the file is written. -/
theorem mergeSnippets_of_missing {existing : Text}
    (h : Reached S .initial existing.lines s (line :: rest))
    (hline : Marker.ofLine? line = some (.add key p)) (hnew : key ∉ s.handled)
    (he : S.resolve? key = some e) (hmissing : isPresent (s.done ++ line :: rest) e.2 = false) :
    ∃ tail, mergeSnippets existing S = .edited ((Lines.ofText existing).render
      (s.done ++ beside line (e.2.indentBy (indentation line)) p ++ tail)) := by
  have hrun := h.step.run_eq
  rw [State.step_of_missing hline hnew he hmissing] at hrun
  obtain ⟨tail, htail⟩ := State.done_prefix_run (S := S)
    ⟨s.done ++ beside line (e.2.indentBy (indentation line)) p, key :: s.handled, true⟩ rest
  have hchanged : (State.initial.run S existing.lines).changed = true := by
    rw [← hrun]
    exact State.changed_run rfl rest
  refine ⟨tail, ?_⟩
  rw [htail, hrun]
  exact if_pos hchanged

end Merge

/-! ## Presence covers the neighbours -/

/-- Presence covers adjacency. A block that stands anywhere in a file, up to blanks around its
lines and with whatever indentation, is present; an insertion of lines that looked beside its
anchor as well would be the same; and in a merge a block that is missing when its marker is
passed stands on neither side of it, is put there and is there at the end. -/
theorem isPresent_covers_adjacency :
    (∀ (pre w post : List Text) (snippet : Block) (indent : Text), allBlank indent = true →
      Block.sameTrimmed w (Block.indentBy indent snippet) = true →
      isPresent (pre ++ w ++ post) snippet = true) ∧
    (∀ content a S side,
      Edit.insertLinesLooking content a S side = Edit.insertLines content a S side) ∧
    ∀ (existing : Text) (S : SnippetMap) s line rest key p e,
      Merge.Reached S .initial existing.lines s (line :: rest) →
      Marker.ofLine? line = some (.add key p) → key ∉ s.handled → S.resolve? key = some e →
      isPresent (s.done ++ line :: rest) e.2 = false →
      let block := Block.indentBy (indentation line) e.2
      (standsAbove s.done block = false ∧ standsBelow rest block = false) ∧
        s.step S line rest = ⟨s.done ++ Merge.beside line block p, key :: s.handled, true⟩ ∧
        ∃ tail, mergeSnippets existing S = .edited
          ((Lines.ofText existing).render (s.done ++ Merge.beside line block p ++ tail)) := by
  refine ⟨?_, Edit.insertLinesLooking_eq, ?_⟩
  · intro pre w post snippet indent hindent hsame
    rw [List.append_assoc]
    exact isPresent_of_sameTrimmed hindent hsame
  · intro existing S s line rest key p e hreached hline hnew he hmissing block
    exact ⟨Merge.stands_of_missing hmissing, Merge.State.step_of_missing hline hnew he hmissing,
      Merge.mergeSnippets_of_missing hreached hline hnew he hmissing⟩

/-- A block with an empty line, laid out in another way, and a marker that asks for it in a
file that holds the first of its lines only. -/
theorem isPresent_covers_blank_line :
    let snippet : Block := ["f()".toList, [], "  g()".toList]
    let S := SnippetMap.ofText "// START OF A\nf()\n\n  g()\n// END OF A\n".toList
    let existing : Text := "f()\n\t// ADD A BELOW\n    h()\n".toList
    let marker : Text := "\t// ADD A BELOW".toList
    let s := Merge.State.initial.step S "f()".toList [marker, "    h()".toList]
    Block.sameTrimmed ["\tf() ".toList, "  ".toList, "g()".toList]
        (Block.indentBy "    ".toList snippet) = true ∧
      isPresent (["x".toList] ++ ["\tf() ".toList, "  ".toList, "g()".toList] ++ ["y".toList])
        snippet = true ∧
      S.resolve? "A".toList = some ("A".toList, snippet) ∧
      isPresent (s.done ++ [marker, "    h()".toList]) snippet = false ∧
      s.step S marker ["    h()".toList] =
        ⟨s.done ++ [marker, "\tf()".toList, [], "\t  g()".toList], ["A".toList], true⟩ ∧
      ∃ tail, mergeSnippets existing S = .edited ((Lines.ofText existing).render
        (s.done ++ [marker, "\tf()".toList, [], "\t  g()".toList] ++ tail)) := by
  intro snippet S existing marker s
  obtain ⟨hcovers, -, hserves⟩ := isPresent_covers_adjacency
  have hsame : Block.sameTrimmed ["\tf() ".toList, "  ".toList, "g()".toList]
      (Block.indentBy "    ".toList snippet) = true := by decide +kernel
  have hlines : existing.lines = ["f()".toList, marker, "    h()".toList] := by decide +kernel
  have he : S.resolve? "A".toList = some ("A".toList, snippet) := by decide +kernel
  have hmissing : isPresent (s.done ++ [marker, "    h()".toList]) snippet = false := by
    decide +kernel
  have hreached : Merge.Reached S .initial existing.lines s [marker, "    h()".toList] := by
    rw [hlines]
    exact .step .start
  obtain ⟨-, hstep, hmerge⟩ := hserves existing S s marker ["    h()".toList] "A".toList .below
    ("A".toList, snippet) hreached (by decide +kernel) (by decide +kernel) he hmissing
  exact ⟨hsame, hcovers _ _ _ snippet "    ".toList (by decide) hsame, he, hmissing, hstep, hmerge⟩

end Scaffold
