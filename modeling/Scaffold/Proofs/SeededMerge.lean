/-
# What a template needs comes into a seeded file

A file without markers is seeded and then merged into.  For every key that the
template needs, seeding writes a marker line that is read with this very key,
whatever text it holds (`exists_mem_addsIn_seed`); the merge keeps the markers
and gives each what its key means.  So every snippet that a needed key means is
in the file afterwards (`isPresent_mergeTemplate_seed`).

The keys in question have no blanks around them: a key of nothing but blanks
means no snippet.
-/
import Scaffold.Proofs.MarkerKeys
import Scaffold.Proofs.MergeLaws
import Scaffold.Proofs.SeedingLaws

namespace Scaffold

open Marker (addsIn anyIn)
open Text (allBlank)

namespace Seeding

/-- A key that a template needs has no blanks around it. -/
theorem trim_of_mem_neededKeys {template key : Text} (h : key ∈ neededKeys template)
    (hink : allBlank key = false) : Text.trim key = key := by
  rcases exists_marker_of_mem_neededKeys h with ⟨line, hline⟩ | ⟨line, p, hline⟩
  · exact Marker.trim_of_start hline
  · exact Marker.trim_of_add hline hink

/-- Seeding writes a marker for every key that the template needs. -/
theorem exists_mem_addsIn_seed {existing template key : Text} (hnone : anyIn existing = false)
    (h : key ∈ neededKeys template) (hink : allBlank key = false) :
    ∃ p, (key, p) ∈ addsIn (seed existing template).content := by
  obtain ⟨hne, hnl⟩ := writable_of_mem_neededKeys h
  -- other keys would be read without the blanks around them
  have hline : Marker.ofLine? (markerFor existing.lines key).2 =
      some (.add key (slotFor existing.lines key).2) :=
    Marker.ofLine?_addLine (allBlank_slotIndent existing.lines _) hne
      (trim_of_mem_neededKeys h hink) hnl _
  have hseed := written_lines_seed hnone (List.ne_nil_of_mem h)
  refine ⟨(slotFor existing.lines key).2, ?_⟩
  rw [addsIn, Marker.addsOfLines_congr hseed]
  exact List.mem_filterMap.2 ⟨_, mem_seededLines h, by rw [hline]; rfl⟩

end Seeding

/-- After a merge the file holds what any of its ADD markers asks for. -/
theorem isPresent_of_asked {S : SnippetMap} (hS : S.Plain) {existing key : Text} {p : Position}
    (hadd : (key, p) ∈ addsIn existing) {e : Text × Block} (he : S.resolve? key = some e) :
    isPresent (mergeSnippets existing S).content.lines e.2 = true := by
  rw [← addsIn_mergeSnippets hS existing] at hadd
  exact satisfied_mergeSnippets hS existing (key, p) hadd e he

/-- A file without markers that is seeded and merged into holds every snippet
that a needed key means, and all snippets of a template without ADD markers. -/
theorem isPresent_mergeTemplate_seed (existing template : Text)
    (hnone : anyIn existing = false) :
    let m := mergeTemplate (Seeding.seed existing template).content template
    (∀ key ∈ Seeding.neededKeys template, ∀ e,
        (SnippetMap.ofText template).resolve? key = some e →
          isPresent m.content.lines e.2 = true) ∧
      (addsIn template = [] → ∀ e ∈ (SnippetMap.ofText template).entries,
        isPresent m.content.lines e.2 = true) := by
  have hS := SnippetMap.plain_ofText template
  have hneeded : ∀ key ∈ Seeding.neededKeys template, ∀ e,
      (SnippetMap.ofText template).resolve? key = some e →
        isPresent (mergeTemplate (Seeding.seed existing template).content template).content.lines
          e.2 = true := by
    intro key hkey e he
    obtain ⟨p, hadd⟩ := Seeding.exists_mem_addsIn_seed hnone hkey (hS.allBlank_of_resolve? he)
    exact isPresent_of_asked hS hadd he
  refine ⟨hneeded, ?_⟩
  intro hadds e he
  have hkey : e.1 ∈ Seeding.neededKeys template := by
    rw [Seeding.neededKeys_of_addsIn hadds]
    exact List.mem_map_of_mem he
  exact hneeded e.1 hkey e
    (SnippetMap.resolve?_of_mem (SnippetMap.nodup_keys_ofText template) he)

/-- A marker of the template that means its snippet by another spelling, and a
template without ADD markers whose key ends like a marker. -/
theorem isPresent_mergeTemplate_seed_of_spellings :
    let file := "export x\n".toList
    let spelled := "// START OF FooBar\nf()\n// END OF FooBar\n// ADD foo-bar BELOW\n".toList
    let closing := "// START OF ADD x BELOW\ng()\n// END OF x\n".toList
    isPresent (mergeTemplate (Seeding.seed file spelled).content spelled).content.lines
        ["f()".toList] = true ∧
      isPresent (mergeTemplate (Seeding.seed file closing).content closing).content.lines
        ["g()".toList] = true :=
  ⟨(isPresent_mergeTemplate_seed "export x\n".toList
      "// START OF FooBar\nf()\n// END OF FooBar\n// ADD foo-bar BELOW\n".toList
      (by decide +kernel)).1 "foo-bar".toList (by decide +kernel)
      ("FooBar".toList, ["f()".toList]) (by decide +kernel),
    (isPresent_mergeTemplate_seed "export x\n".toList
      "// START OF ADD x BELOW\ng()\n// END OF x\n".toList (by decide +kernel)).2
      (by decide +kernel) ("ADD x BELOW".toList, ["g()".toList]) (by decide +kernel)⟩

end Scaffold
