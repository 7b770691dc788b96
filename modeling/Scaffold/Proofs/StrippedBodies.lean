/-
# The new file and the snippets of one body

The same body is read twice: once for the file that does not exist yet, where
the marker lines are left out, and once for the snippets, where the markers cut
blocks out of it.  The two readings agree (`strip_agrees_with_snippets`):
the lines of the new file are the lines that are no markers, so the body of
every block, a run of those lines, stands in the file up to layout, however the
blocks lie; and the ADD lines that a file keeps on request are those of the
body.

One line can get lost, an empty one at the end of those that stay: where the body
does not end its last line, and where no other line stays, which
`Text.unlinesEnded` takes for no text at all and does not end
(`lines_strip_ne_unmarked`).
-/
import Scaffold.Proofs.MarkerLines
import Scaffold.Proofs.SnippetSources

namespace Scaffold

open Block (written)
open Marker (addsIn addsOfLines isMarker ofLine? staysInNewFile unmarked)
open Text (trimRight)

namespace Marker

variable {body : Text} {keepAdds : Bool}

/-! ## The lines of a new file -/

theorem filter_staysInNewFile_false (ls : List Text) :
    ls.filter (staysInNewFile false) = unmarked ls := by
  refine List.filter_congr ?_
  intro l _
  rw [staysInNewFile, isMarker]
  cases ofLine? l with
  | none => rfl
  | some m => cases m <;> rfl

theorem strip_false (body : Text) :
    strip body false = Text.unlinesEnded (unmarked body.lines) body.endsLine := by
  rw [strip, filter_staysInNewFile_false]

theorem not_mem_of_mem_unmarked {l : Text} (h : l ∈ unmarked body.lines) : '\n' ∉ l :=
  Text.not_mem_of_mem_lines (List.mem_filter.1 h).1

theorem written_lines_strip (body : Text) (keepAdds : Bool) :
    written (strip body keepAdds).lines = written (body.lines.filter (staysInNewFile keepAdds)) :=
  Block.written_lines_unlinesEnded _ fun _ hl =>
    Text.not_mem_of_mem_lines (List.mem_filter.1 hl).1

/-- Every line of a new file is one that stays. -/
theorem staysInNewFile_of_mem_strip {l : Text} (h : l ∈ (strip body keepAdds).lines) :
    staysInNewFile keepAdds l = true := by
  cases hm : ofLine? l with
  | none => rw [staysInNewFile, hm]
  | some m =>
      have hink := allBlank_of_isMarker (isMarker_of_ofLine? hm)
      have htrim : Text.trim l ∈ written (strip body keepAdds).lines :=
        Block.mem_written.2 ⟨l, h, hink, rfl⟩
      rw [written_lines_strip] at htrim
      obtain ⟨k, hk, -, heq⟩ := Block.mem_written.1 htrim
      have hsame : ofLine? k = ofLine? l := ignoresBlanks_ofLine?.congr heq
      rw [staysInNewFile, ← hsame]
      exact (List.mem_filter.1 hk).2

theorem isMarker_of_mem_strip_false {l : Text} (h : l ∈ (strip body false).lines) :
    isMarker l = false := by
  have hstays := staysInNewFile_of_mem_strip h
  rw [staysInNewFile] at hstays
  rw [isMarker]
  cases hm : ofLine? l with
  | none => rfl
  | some m =>
      rw [hm] at hstays
      cases m <;> exact absurd hstays Bool.false_ne_true

theorem ofLine?_of_mem_strip {l : Text} (h : l ∈ (strip body keepAdds).lines) (key : Text) :
    ofLine? l ≠ some (.start key) ∧ ofLine? l ≠ some (.stop key) := by
  have hstays := staysInNewFile_of_mem_strip h
  constructor <;>
  · intro hm
    rw [staysInNewFile, hm] at hstays
    exact Bool.false_ne_true hstays

/-! ## The markers of a new file -/

theorem staysInNewFile_of_add {line key : Text} {p : Position}
    (h : ofLine? line = some (.add key p)) : staysInNewFile true line = true := by
  rw [staysInNewFile, h]

theorem addsIn_strip (body : Text) : addsIn (strip body true) = addsIn body :=
  (addsOfLines_congr (written_lines_strip body true)).trans
    (addsOfLines_filter_of_add staysInNewFile_of_add body.lines)

end Marker

/-! ## The snippets in a new file -/

/-- The collapsed lines of every snippet are neighbours in the new file. -/
theorem normalized_run_strip {body : Text} {e : Text × Block}
    (he : e ∈ (SnippetMap.ofText body).entries) :
    Block.normalized e.2 <:+: Block.normalized (Marker.strip body false).lines := by
  obtain ⟨-, lines, hdedent, front, back, hrun⟩ := SnippetMap.exists_source he
  have hfile := Marker.written_lines_strip body false
  rw [Marker.filter_staysInNewFile_false] at hfile
  rw [hdedent, Block.normalized_congr (Block.written_dedent lines), Block.normalized_congr hfile,
    ← hrun, Block.normalized_append, Block.normalized_append]
  exact ⟨Block.normalized front, Block.normalized back, rfl⟩

/-- The new file has the lines of the body that are no markers, all its snippets
among them, and on request the ADD markers. -/
theorem strip_agrees_with_snippets (body : Text) :
    let kept := unmarked body.lines
    let file := Marker.strip body false
    let marked := Marker.strip body true
    file.lines.map trimRight =
        (if kept.getLast? = some [] ∧ (body.endsLine = false ∨ kept = [[]]) then kept.dropLast
          else kept).map trimRight ∧
      trimRight file = trimRight (Text.unlines kept) ∧
      (∀ l ∈ file.lines, isMarker l = false) ∧
      (∀ e ∈ (SnippetMap.ofText body).entries,
        Block.normalized e.2 <:+: Block.normalized file.lines) ∧
      (∀ l ∈ marked.lines, ∀ key,
        ofLine? l ≠ some (.start key) ∧ ofLine? l ≠ some (.stop key)) ∧
      addsIn marked = addsIn body := by
  refine ⟨?_, ?_, ?_, ?_, ?_, Marker.addsIn_strip body⟩
  · rw [Marker.strip_false]
    exact Lines.map_trimRight_lines_unlinesEnded _ fun _ => Marker.not_mem_of_mem_unmarked
  · rw [Marker.strip_false]
    exact Lines.trimRight_unlinesEnded _ _
  · exact fun _ => Marker.isMarker_of_mem_strip_false
  · exact fun _ => normalized_run_strip
  · exact fun _ hl key => Marker.ofLine?_of_mem_strip hl key

/-- A block that holds an ADD marker and is ended by another START, and an empty
line in front of the marker that ends the body. -/
theorem strip_agrees_of_nested_blocks :
    let body : Text :=
      "// START OF A\n  a\n// ADD K BELOW\n  b\n// START OF B\nc\n\n// END OF C".toList
    let file := Marker.strip body false
    ("A".toList, ["a".toList, "b".toList]) ∈ (SnippetMap.ofText body).entries ∧
      Block.normalized ["a".toList, "b".toList] <:+: Block.normalized file.lines ∧
      addsIn (Marker.strip body true) = addsIn body := by
  intro body file
  obtain ⟨-, -, -, hsnippets, -, hadds⟩ := strip_agrees_with_snippets body
  have he : ("A".toList, ["a".toList, "b".toList]) ∈ (SnippetMap.ofText body).entries := by
    decide +kernel
  exact ⟨he, hsnippets _ he, hadds⟩

/-- The empty line of a block is lost where no other line is left, and so is one
in front of a marker that ends the body without a line feed. -/
theorem lines_strip_ne_unmarked :
    let boxed : Text := "// START OF X\n\n// END OF X\n".toList
    let cut : Text := "a\n\n// START OF X".toList
    (Marker.strip boxed false).lines.map trimRight ≠ (unmarked boxed.lines).map trimRight ∧
      (Marker.strip cut false).lines.map trimRight ≠ (unmarked cut.lines).map trimRight := by
  decide +kernel

end Scaffold
