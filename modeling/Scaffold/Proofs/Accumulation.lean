/-
# What merges deliver, and that it stays

A merge delivers: every ADD marker of the file that means a snippet finds it in
the result, be it the first marker of its key or a later one, and whatever else
is inserted further down (`isPresent_of_mem_addsIn`).

Merges accumulate: one template after the other is merged into a file, and a
snippet that is in the file at some moment is in it ever after
(`pairwise_versions`).  The snippet need not come from any of these templates.
It must come from some template: a run of lines that holds a marker is torn
apart by what the marker asks for.
-/
import Scaffold.Proofs.MergeLaws

namespace Scaffold

open Marker (addsIn)

/-! ## One merge -/

/-- What an ADD marker asks for is in the merged file. -/
theorem isPresent_of_mem_addsIn {existing template key : Text} {p : Position} {e : Text × Block}
    (hm : (key, p) ∈ addsIn existing)
    (he : (SnippetMap.ofText template).resolve? key = some e) :
    isPresent (mergeTemplate existing template).content.lines e.2 = true := by
  have hS := SnippetMap.plain_ofText template
  have hsatisfied := satisfied_mergeSnippets hS existing
  -- the markers of the result are those of the file
  have hstill : (key, p) ∈ addsIn (mergeTemplate existing template).content := by
    rw [mergeTemplate, addsIn_mergeSnippets hS existing]
    exact hm
  exact hsatisfied (key, p) hstill e he

/-- The second marker has no snippet of its own, and the one that it means goes
to the marker before it. -/
theorem isPresent_of_second_marker :
    let existing := "// ADD VALUE BELOW\nb,\n  // ADD value ABOVE\n".toList
    let template := "// START OF VALUE\na,\n// END OF VALUE\n".toList
    let e : Text × Block := ("VALUE".toList, ["a,".toList])
    ("value".toList, .above) ∈ addsIn existing ∧
      (SnippetMap.ofText template).resolve? "value".toList = some e ∧
      isPresent (mergeTemplate existing template).content.lines e.2 = true := by
  intro existing template e
  have hm : ("value".toList, .above) ∈ addsIn existing := by decide +kernel
  have he : (SnippetMap.ofText template).resolve? "value".toList = some e := by decide +kernel
  exact ⟨hm, he, isPresent_of_mem_addsIn hm he⟩

/-! ## One merge after the other -/

/-- The contents that a file comes to have while templates are merged into it,
the first content included. -/
def versions (existing : Text) (templates : List Text) : List Text :=
  templates.scanl (fun content template => (mergeTemplate content template).content) existing

theorem versions_cons (existing template : Text) (rest : List Text) :
    versions existing (template :: rest) =
      existing :: versions (mergeTemplate existing template).content rest :=
  List.scanl_cons

/-- What is in a file at first is in all its versions. -/
theorem isPresent_of_mem_versions {b : Block} (hb : b.Plain) {existing version : Text}
    {templates : List Text} (hv : version ∈ versions existing templates)
    (h : isPresent existing.lines b = true) : isPresent version.lines b = true := by
  induction templates generalizing existing with
  | nil =>
      obtain rfl : version = existing := by simpa [versions] using hv
      exact h
  | cons template rest ih =>
      rw [versions_cons, List.mem_cons] at hv
      rcases hv with rfl | hv
      · exact h
      · exact ih hv (isPresent_mergeSnippets (SnippetMap.plain_ofText template) hb h)

/-- A snippet of any template that is in one version is in all later ones. -/
theorem pairwise_versions {template : Text} {e : Text × Block}
    (he : e ∈ (SnippetMap.ofText template).entries) (existing : Text) (templates : List Text) :
    (versions existing templates).Pairwise fun earlier later =>
      isPresent earlier.lines e.2 = true → isPresent later.lines e.2 = true := by
  have hb : e.2.Plain := (SnippetMap.plain_ofText template e he).2
  induction templates generalizing existing with
  | nil => exact List.pairwise_singleton _ existing
  | cons next rest ih =>
      rw [versions_cons, List.pairwise_cons]
      refine ⟨?_, ih _⟩
      intro later hlater h
      exact isPresent_of_mem_versions hb hlater
        (isPresent_mergeSnippets (SnippetMap.plain_ofText next) hb h)

example :
    let existing : Text := "// ADD X BELOW\nb\n".toList
    let template : Text := "// START OF X\na\n// END OF X\n".toList
    let b : Block := ["// ADD X BELOW".toList, "b".toList]
    isPresent (Text.lines existing) b = true ∧
      isPresent (mergeTemplate existing template).content.lines b = false := by
  decide +kernel

/-- A unit that was added stays while a second one comes in at the same marker. -/
theorem pairwise_versions_of_two_units :
    let first := "// START OF X\na\nb\n// END OF X\n".toList
    let second := "// START OF X\nc\n// END OF X\n".toList
    let e : Text × Block := ("X".toList, ["a".toList, "b".toList])
    e ∈ (SnippetMap.ofText first).entries ∧
      (versions "// ADD X BELOW\n".toList [first, second]).Pairwise fun earlier later =>
        isPresent earlier.lines e.2 = true → isPresent later.lines e.2 = true := by
  intro first second e
  have he : e ∈ (SnippetMap.ofText first).entries := by decide +kernel
  exact ⟨he, pairwise_versions he _ _⟩

end Scaffold
