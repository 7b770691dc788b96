/-
# A merge gives what is asked for, once

A file is satisfied if it holds every snippet that its markers ask for.  A merge
satisfies a file (`satisfied_mergeSnippets`), whatever its line endings, and
leaves a file alone exactly if it is satisfied (`mergeSnippets_eq_same_iff`).
So a second merge has nothing to do.

The markers of the file are the same afterwards, and what was in the file stays
in it.
-/
import Scaffold.Proofs.MergeRun

namespace Scaffold

open Block (written)
open Marker (addsIn addsOfLines isMarker)

/-- The file holds every snippet that its ADD markers ask for. -/
def SnippetMap.Satisfied (S : SnippetMap) (file : List Text) : Prop :=
  ∀ m ∈ addsOfLines file, ∀ e, S.resolve? m.1 = some e → isPresent file e.2 = true

instance (S : SnippetMap) (file : List Text) : Decidable (S.Satisfied file) :=
  inferInstanceAs
    (Decidable (∀ m ∈ addsOfLines file, ∀ e ∈ S.resolve? m.1, isPresent file e.2 = true))

theorem SnippetMap.satisfied_congr {S : SnippetMap} {ls ls' : List Text}
    (h : written ls = written ls') : S.Satisfied ls ↔ S.Satisfied ls' := by
  rw [Satisfied, Marker.addsOfLines_congr h, Satisfied]
  exact forall₄_congr fun m _ e _ => by rw [isPresent_congr h rfl]

namespace Merge

variable {S : SnippetMap} {ls : List Text}

theorem sound_run (hS : S.Plain) {file : Lines} (h : file.Writable ls) :
    Sound file ls (State.initial.run S ls) [] :=
  State.run_invariant (Sound.pass hS) ⟨h, rfl, fun _ hm => absurd hm List.not_mem_nil⟩

theorem delivered_run (hS : S.Plain) (ls : List Text) :
    Delivered S (State.initial.run S ls) [] :=
  State.run_invariant (Delivered.pass hS) fun _ hkey => absurd hkey List.not_mem_nil

theorem isPresent_run (hS : S.Plain) {b : Block} (hb : b.Plain) (h : isPresent ls b = true) :
    isPresent (State.initial.run S ls).done b = true := by
  have hfile : isPresent ((State.initial.run S ls).file []) b = true :=
    State.run_invariant (P := fun s rest => isPresent (s.file rest) b = true)
      (fun h hpass => hpass.isPresent hS hb h) h
  rwa [State.file, List.append_nil] at hfile

theorem satisfied_run (hS : S.Plain) {file : Lines} (h : file.Writable ls) :
    S.Satisfied (State.initial.run S ls).done := by
  intro m hm e he
  have := delivered_run hS ls m.1 ((sound_run hS h).passed m hm) e he
  rwa [State.file, List.append_nil] at this

/-- A satisfied file comes through a merge untouched. -/
theorem changed_run_of_satisfied (h : S.Satisfied ls) :
    (State.initial.run S ls).changed = false := by
  let P : State → List Text → Prop := fun s rest => s.file rest = ls ∧ s.changed = false
  have hP : P (State.initial.run S ls) [] := by
    refine State.run_invariant (P := P) ?_ ⟨rfl, rfl⟩
    rintro s s' line rest ⟨hfile, hchanged⟩ hpass
    cases hpass with
    | plain hline => exact ⟨(s.file_keep ..).trans hfile, hchanged⟩
    | again hline hold => exact ⟨(s.file_keep ..).trans hfile, hchanged⟩
    | content hline hpresent => exact ⟨(s.file_keep ..).trans hfile, hchanged⟩
    | @served key p e hline hnew he hmissing =>
        have hadd : (key, p) ∈ addsOfLines ls := by
          rw [← hfile, State.file, Marker.addsOfLines_append, Marker.addsOfLines_cons_of_add hline]
          exact List.mem_append_right _ List.mem_cons_self
        have hpresent := h _ hadd e he
        rw [← hfile, State.file, hmissing] at hpresent
        exact absurd hpresent (by simp)
  exact hP.2

end Merge

/-! ## Merging a file -/

variable {S : SnippetMap}

theorem mergeSnippets_cases (existing : Text) (S : SnippetMap) :
    (mergeSnippets existing S = .same existing ∧
        (Merge.State.initial.run S existing.lines).done = existing.lines) ∨
      (mergeSnippets existing S = .edited
          ((Lines.ofText existing).render (Merge.State.initial.run S existing.lines).done) ∧
        existing.lines.length < (Merge.State.initial.run S existing.lines).done.length) := by
  have hfile : (Merge.State.initial.run S existing.lines).file [] =
      (Merge.State.initial.run S existing.lines).done := by
    rw [Merge.State.file, List.append_nil]
  rcases Merge.grown_run S existing.lines with ⟨hchanged, hdone⟩ | ⟨hchanged, hlength⟩
  · exact .inl ⟨if_neg (by simp [Lines.ofText, hchanged]), hfile ▸ hdone⟩
  · exact .inr ⟨if_pos hchanged, hfile ▸ hlength⟩

/-- The lines after a merge, up to blanks around them. -/
theorem map_trim_lines_mergeSnippets (hS : S.Plain) (existing : Text) :
    (mergeSnippets existing S).content.lines.map Text.trim =
      (Merge.State.initial.run S existing.lines).done.map Text.trim := by
  rcases mergeSnippets_cases existing S with ⟨hmerge, hdone⟩ | ⟨hmerge, -⟩
  · rw [hmerge, hdone]
    rfl
  · have hsound := Merge.sound_run hS (Lines.writable_ofText existing)
    have hwritable := hsound.writable
    rw [Merge.State.file, List.append_nil] at hwritable
    rw [hmerge]
    exact Lines.map_trim_lines_render hwritable

theorem written_lines_mergeSnippets (hS : S.Plain) (existing : Text) :
    written (mergeSnippets existing S).content.lines =
      written (Merge.State.initial.run S existing.lines).done :=
  Block.written_congr (map_trim_lines_mergeSnippets hS existing)

theorem satisfied_mergeSnippets (hS : S.Plain) (existing : Text) :
    S.Satisfied (mergeSnippets existing S).content.lines :=
  (SnippetMap.satisfied_congr (written_lines_mergeSnippets hS existing)).2
    (Merge.satisfied_run hS (Lines.writable_ofText existing))

/-- A merge neither brings in nor takes away any marker. -/
theorem filter_isMarker_run (hS : S.Plain) (existing : Text) :
    (Merge.State.initial.run S existing.lines).done.filter isMarker =
      existing.lines.filter isMarker := by
  have := (Merge.sound_run hS (Lines.writable_ofText existing)).markers
  rwa [Merge.State.file, List.append_nil] at this

theorem addsIn_mergeSnippets (hS : S.Plain) (existing : Text) :
    addsIn (mergeSnippets existing S).content = addsIn existing :=
  (Marker.addsOfLines_congr (written_lines_mergeSnippets hS existing)).trans
    (Marker.addsOfLines_of_filter_eq (filter_isMarker_run hS existing))

theorem anyIn_mergeSnippets (hS : S.Plain) (existing : Text) :
    Marker.anyIn (mergeSnippets existing S).content = Marker.anyIn existing :=
  (Marker.any_isMarker_congr (written_lines_mergeSnippets hS existing)).trans
    (Marker.any_isMarker_of_filter_eq (filter_isMarker_run hS existing))

theorem isPresent_mergeSnippets (hS : S.Plain) {existing : Text} {b : Block} (hb : b.Plain)
    (h : isPresent existing.lines b = true) :
    isPresent (mergeSnippets existing S).content.lines b = true := by
  rw [isPresent_congr (written_lines_mergeSnippets hS existing) rfl]
  exact Merge.isPresent_run hS hb h

/-- A merge that did something left a longer file. -/
theorem length_lines_mergeSnippets (hS : S.Plain) {existing : Text}
    (h : (mergeSnippets existing S).changed = true) :
    existing.lines.length < (mergeSnippets existing S).content.lines.length := by
  have hlength := congrArg List.length (map_trim_lines_mergeSnippets hS existing)
  rw [List.length_map, List.length_map] at hlength
  rcases mergeSnippets_cases existing S with ⟨hmerge, -⟩ | ⟨-, hgrown⟩
  · rw [hmerge] at h
    exact absurd h (by simp [Outcome.same])
  · exact hlength ▸ hgrown

theorem content_mergeSnippets_ne (hS : S.Plain) {existing : Text}
    (h : (mergeSnippets existing S).changed = true) :
    (mergeSnippets existing S).content ≠ existing := by
  intro hsame
  have hlength := length_lines_mergeSnippets hS h
  rw [hsame] at hlength
  exact absurd hlength (Nat.lt_irrefl _)

theorem mergeSnippets_of_satisfied {existing : Text} (h : S.Satisfied existing.lines) :
    mergeSnippets existing S = .same existing := by
  have hchanged : (Merge.State.initial.run S (Lines.ofText existing).lines).changed = false :=
    Merge.changed_run_of_satisfied h
  exact if_neg (by simp [hchanged])

/-- A merge leaves a file alone exactly if nothing is wanting. -/
theorem mergeSnippets_eq_same_iff (hS : S.Plain) {existing : Text} :
    mergeSnippets existing S = .same existing ↔ S.Satisfied existing.lines := by
  refine ⟨?_, mergeSnippets_of_satisfied⟩
  intro h
  have := satisfied_mergeSnippets hS existing
  rwa [h] at this

/-- Merging a template into a file it has been merged into changes nothing, and
a merge changes nothing only where nothing is wanting. -/
theorem mergeTemplate_mergeTemplate (existing template : Text) :
    let r := (mergeTemplate existing template).content
    mergeTemplate r template = .same r ∧
      (mergeTemplate existing template = .same existing ↔
        (SnippetMap.ofText template).Satisfied existing.lines) := by
  have hS := SnippetMap.plain_ofText template
  constructor
  · exact mergeSnippets_of_satisfied (satisfied_mergeSnippets hS existing)
  · exact mergeSnippets_eq_same_iff hS

end Scaffold
