/-
# What removing duplicates leaves alone

Both passes only leave lines out, and never a marker: a marker imports nothing
and is no lone name.  So a file has the same markers before and after.
-/
import Scaffold.Dedupe
import Scaffold.Proofs.MarkerLines

namespace Scaffold.Dedupe

open Block (written)
open Marker (isMarker)

/-! ## The lines that are kept -/

theorem distinctImports_sublist (seen ls : List Text) : (distinctImports seen ls).Sublist ls := by
  induction ls generalizing seen with
  | nil => exact .slnil
  | cons line rest ih =>
      rw [distinctImports]
      split
      · exact (ih seen).cons_cons line
      · split
        · exact (ih seen).cons line
        · exact (ih _).cons_cons line

theorem distinctEntries_sublist (place : Place) (seen ls : List Text) :
    (distinctEntries place seen ls).Sublist ls := by
  induction ls generalizing place seen with
  | nil => exact .slnil
  | cons line rest ih =>
      rw [distinctEntries]
      split
      · exact (ih _ seen).cons_cons line
      · split
        · exact (ih place seen).cons line
        · exact (ih _ _).cons_cons line

theorem noEntry_of_isMarker (place : Place) {line : Text} (h : isMarker line = true) :
    entryName? place line = none := by
  cases place with
  | before => rfl
  | behind => rfl
  | inside level => rw [entryName?, LineKind.loneName?_of_isMarker h, ite_self]

theorem filter_isMarker_distinctImports (seen ls : List Text) :
    (distinctImports seen ls).filter isMarker = ls.filter isMarker := by
  induction ls generalizing seen with
  | nil => rfl
  | cons line rest ih =>
      rw [distinctImports]
      split
      next => rw [List.filter_cons, List.filter_cons, ih]
      next m himport =>
        have hother : ¬ isMarker line = true := by
          intro h
          rw [LineKind.importedModule?_of_isMarker h] at himport
          exact absurd himport (by simp)
        split
        · rw [ih, List.filter_cons_of_neg hother]
        · rw [List.filter_cons_of_neg hother, ih, List.filter_cons_of_neg hother]

theorem filter_isMarker_distinctEntries (place : Place) (seen ls : List Text) :
    (distinctEntries place seen ls).filter isMarker = ls.filter isMarker := by
  induction ls generalizing place seen with
  | nil => rfl
  | cons line rest ih =>
      rw [distinctEntries]
      split
      next => rw [List.filter_cons, List.filter_cons, ih]
      next name hentry =>
        have hother : ¬ isMarker line = true := by
          intro h
          rw [noEntry_of_isMarker place h] at hentry
          exact absurd hentry (by simp)
        split
        · rw [ih, List.filter_cons_of_neg hother]
        · rw [List.filter_cons_of_neg hother, ih, List.filter_cons_of_neg hother]

/-! ## The file -/

theorem written_lines_rejoin {content : Text} {kept : List Text}
    (h : kept.Sublist content.lines) :
    written (rejoin content (Lines.ofText content) kept).content.lines = written kept := by
  rw [rejoin]
  split
  next hlength =>
    have hall : kept = content.lines := h.eq_of_length (beq_iff_eq.1 hlength)
    rw [hall]
    rfl
  next =>
    exact Block.written_lines_render _ fun l hl => Text.not_mem_of_mem_lines (h.subset hl)

theorem anyIn_imports (content : Text) :
    Marker.anyIn (imports content).content = Marker.anyIn content := by
  have hwritten : written (imports content).content.lines =
      written (distinctImports [] content.lines) :=
    written_lines_rejoin (distinctImports_sublist [] _)
  exact (Marker.any_isMarker_congr hwritten).trans
    (Marker.any_isMarker_of_filter_eq (filter_isMarker_distinctImports [] content.lines))

theorem anyIn_schemaTypes (content : Text) :
    Marker.anyIn (schemaTypes content).content = Marker.anyIn content := by
  have hwritten : written (schemaTypes content).content.lines =
      written (distinctEntries .before [] content.lines) :=
    written_lines_rejoin (distinctEntries_sublist .before [] _)
  exact (Marker.any_isMarker_congr hwritten).trans
    (Marker.any_isMarker_of_filter_eq (filter_isMarker_distinctEntries .before [] content.lines))

theorem anyIn_all (content : Text) :
    Marker.anyIn (all content).content = Marker.anyIn content := by
  rw [all, Outcome.content_andThen, anyIn_schemaTypes, anyIn_imports]

end Scaffold.Dedupe
