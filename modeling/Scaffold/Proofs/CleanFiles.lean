/-
# Removing duplicates twice

Each of the two passes looks at one list of texts that a file has: the
statements of its import lines, or the names on the top level of its list of
schema types (`statements`, `entryNames`).  A pass leaves a list in which
nothing stands twice, and does nothing to a file whose list is so already.

Three things could still bring a duplicate back.  The file is written and read
again between the passes, but neither list hangs on layout.  The second pass
edits what the first one has cleaned, but it only leaves lines out.  And it
counts brackets on its way, but over the lines that it keeps, so that it finds
each of them on the same level again.
-/
import Scaffold.Proofs.DedupeLaws

namespace Scaffold.Dedupe

open LineKind (afterBlanks? afterWord? bne_of_allBlank dropWhile_append_of_pass
  dropWhile_append_of_stop importedModule? isBlank_ne_of_ink loneName?)
open Text (allBlank after? isBlank trimLeft IgnoresBlanks IgnoresEnd)

/-! ## Nothing stands twice -/

/-- No member stands twice or is among those seen before. -/
def Fresh (seen xs : List Text) : Prop :=
  xs.Nodup ∧ ∀ x ∈ xs, x ∉ seen

theorem fresh_nil (seen : List Text) : Fresh seen [] :=
  ⟨List.nodup_nil, fun _ h => absurd h List.not_mem_nil⟩

theorem fresh_cons_iff {seen xs : List Text} {x : Text} :
    Fresh seen (x :: xs) ↔ x ∉ seen ∧ Fresh (x :: seen) xs := by
  constructor
  · rintro ⟨hnodup, hseen⟩
    obtain ⟨hx, hxs⟩ := List.nodup_cons.1 hnodup
    refine ⟨hseen x List.mem_cons_self, hxs, ?_⟩
    intro y hy
    rw [List.mem_cons, not_or]
    refine ⟨?_, hseen y (List.mem_cons_of_mem x hy)⟩
    rintro rfl
    exact hx hy
  · rintro ⟨hx, hxs, hseen⟩
    refine ⟨List.nodup_cons.2 ⟨fun h => hseen x h List.mem_cons_self, hxs⟩, ?_⟩
    intro y hy
    rcases List.mem_cons.1 hy with rfl | hy
    · exact hx
    · exact fun h => hseen y hy (List.mem_cons_of_mem x h)

theorem Fresh.sublist {seen xs ys : List Text} (h : Fresh seen ys) (hsub : xs.Sublist ys) :
    Fresh seen xs :=
  ⟨hsub.nodup h.1, fun x hx => h.2 x (hsub.subset hx)⟩

/-! ## Imports -/

/-- The statements of the import lines. -/
def statements (ls : List Text) : List Text :=
  ls.filterMap fun l => (importedModule? l).map fun _ => statement l

theorem statements_cons_of_import {line m : Text} (h : importedModule? line = some m)
    (rest : List Text) : statements (line :: rest) = statement line :: statements rest := by
  rw [statements, List.filterMap_cons_some (b := statement line) (by rw [h]; rfl), statements]

theorem statements_cons_of_none {line : Text} (h : importedModule? line = none)
    (rest : List Text) : statements (line :: rest) = statements rest := by
  rw [statements, List.filterMap_cons_none (by rw [h]; rfl), statements]

theorem fresh_distinctImports (seen ls : List Text) :
    Fresh seen (statements (distinctImports seen ls)) := by
  induction ls generalizing seen with
  | nil => exact fresh_nil seen
  | cons line rest ih =>
      rw [distinctImports]
      split
      next hnone => rw [statements_cons_of_none hnone]; exact ih seen
      next m himport =>
        split
        next => exact ih seen
        next hnew =>
          rw [statements_cons_of_import himport, fresh_cons_iff]
          exact ⟨by simpa using hnew, ih _⟩

theorem distinctImports_of_fresh {seen ls : List Text} (h : Fresh seen (statements ls)) :
    distinctImports seen ls = ls := by
  induction ls generalizing seen with
  | nil => rfl
  | cons line rest ih =>
      rw [distinctImports]
      split
      next hnone =>
        rw [statements_cons_of_none hnone] at h
        rw [ih h]
      next m himport =>
        rw [statements_cons_of_import himport, fresh_cons_iff] at h
        rw [if_neg (by simpa using h.1), ih h.2]

/-! ## Entries -/

/-- The names on the lines of the list's top level that hold nothing else. -/
def entryNames : Place → List Text → List Text
  | _, [] => []
  | place, line :: rest => (entryName? place line).toList ++ entryNames (place.next line) rest

theorem fresh_distinctEntries (place : Place) (seen ls : List Text) :
    Fresh seen (entryNames place (distinctEntries place seen ls)) := by
  induction ls generalizing place seen with
  | nil => exact fresh_nil seen
  | cons line rest ih =>
      rw [distinctEntries]
      split
      next hnone => rw [entryNames, hnone]; exact ih _ seen
      next name hentry =>
        split
        next => exact ih place seen
        next hnew =>
          rw [entryNames, hentry, Option.toList_some, List.singleton_append, fresh_cons_iff]
          exact ⟨by simpa using hnew, ih _ _⟩

theorem distinctEntries_of_fresh {place : Place} {seen ls : List Text}
    (h : Fresh seen (entryNames place ls)) : distinctEntries place seen ls = ls := by
  induction ls generalizing place seen with
  | nil => rfl
  | cons line rest ih =>
      rw [entryNames] at h
      rw [distinctEntries]
      split
      next hnone =>
        rw [hnone] at h
        rw [ih h]
      next name hentry =>
        rw [hentry, Option.toList_some, List.singleton_append, fresh_cons_iff] at h
        rw [if_neg (by simpa using h.1), ih h.2]

/-! ## Layout -/

theorem bracketBalance_append (a b : Text) :
    bracketBalance (a ++ b) = bracketBalance a + bracketBalance b := by
  induction a with
  | nil => simp [bracketBalance]
  | cons c r ih =>
      simp only [List.cons_append, bracketBalance, ih]
      split
      · omega
      · split <;> omega

theorem bracketBalance_of_blank {w : Text} (hw : allBlank w = true) : bracketBalance w = 0 := by
  induction w with
  | nil => rfl
  | cons c r ih =>
      rw [Text.allBlank_cons_iff] at hw
      have hopen : c ≠ '[' := isBlank_ne_of_ink hw.1 (by decide)
      have hclose : c ≠ ']' := isBlank_ne_of_ink hw.1 (by decide)
      simp [bracketBalance, hopen, hclose, ih hw.2]

theorem ignoresBlanks_bracketBalance : IgnoresBlanks bracketBalance where
  before w t hw := by rw [bracketBalance_append, bracketBalance_of_blank hw, Int.zero_add]
  behind t w hw := by rw [bracketBalance_append, bracketBalance_of_blank hw, Int.add_zero]

/-- What stands behind the `=` if it is a bracket. -/
def openingBracket? (r : Text) : Option Text :=
  match r.dropWhile fun c => c != '=' with
  | [] => none
  | _ :: r =>
    match trimLeft r with
    | '[' :: r => some ('[' :: r)
    | _ => none

theorem ignoresEnd_openingBracket? :
    IgnoresEnd fun r => (openingBracket? r).map bracketBalance where
  nil := rfl
  behind t w hw := by
    by_cases hstop : t.dropWhile (fun c => c != '=') = []
    · have hequals : ∀ c ∈ w, (c != '=') = true := bne_of_allBlank hw (by decide)
      simp only [openingBracket?, dropWhile_append_of_pass hstop hequals, hstop]
    · obtain ⟨e, s, hs⟩ := List.exists_cons_of_ne_nil hstop
      simp only [openingBracket?, dropWhile_append_of_stop hstop, hs, List.cons_append]
      cases hblank : allBlank s with
      | true =>
          rw [Text.trimLeft_append_of_blank hblank, Text.trimLeft_eq_nil_iff.2 hw,
            Text.trimLeft_eq_nil_iff.2 hblank]
      | false =>
          rw [Text.trimLeft_append_of_ink hblank]
          cases htrim : trimLeft s with
          | nil =>
              rw [Text.trimLeft_eq_nil_iff, hblank] at htrim
              exact absurd htrim Bool.false_ne_true
          | cons c r =>
              by_cases hc : c = '['
              · subst hc
                exact congrArg some (ignoresBlanks_bracketBalance.behind ('[' :: r) w hw)
              · simp [hc]

/-- The level behind a line that opens the list, without blanks in front. -/
def openingLevel? (t : Text) : Option Int :=
  (after? "export".toList t).bind fun r => (afterBlanks? r).bind fun r =>
    (after? "const".toList r).bind fun r => (afterBlanks? r).bind fun r =>
      (afterWord? "schemaTypes".toList r).bind fun r => (openingBracket? r).map bracketBalance

theorem map_bracketBalance_listOpening? (line : Text) :
    (listOpening? line).map bracketBalance = openingLevel? (trimLeft line) := by
  have hopening : listOpening? line =
      (after? "export".toList (trimLeft line)).bind fun r => (afterBlanks? r).bind fun r =>
        (after? "const".toList r).bind fun r => (afterBlanks? r).bind fun r =>
          (afterWord? "schemaTypes".toList r).bind openingBracket? := rfl
  simp only [hopening, openingLevel?, Option.map_bind, Function.comp_def]

theorem ignoresEnd_openingLevel? : IgnoresEnd openingLevel? := by
  have hword := LineKind.IgnoresEnd.afterWord ignoresEnd_openingBracket?
    (show Text.trimRight "schemaTypes".toList = _ by decide) (by decide)
  have hconst := (LineKind.IgnoresEnd.afterBlanks hword).after
    (show Text.trimRight "const".toList = _ by decide) (by decide)
  exact (LineKind.IgnoresEnd.afterBlanks hconst).after (by decide) (by decide)

theorem next_before (line : Text) :
    Place.before.next line = (openingLevel? (trimLeft line)).elim .before .atLevel := by
  rw [← map_bracketBalance_listOpening?, Place.next]
  cases listOpening? line <;> rfl

theorem next_trim (place : Place) (line : Text) : place.next (Text.trim line) = place.next line := by
  cases place with
  | before => rw [next_before, next_before, ignoresEnd_openingLevel?.ignoresBlanks.trim line]
  | inside level => rw [Place.next, ignoresBlanks_bracketBalance.trim line, Place.next]
  | behind => rfl

theorem entryName?_trim (place : Place) (line : Text) :
    entryName? place (Text.trim line) = entryName? place line := by
  cases place with
  | before => rfl
  | inside level => rw [entryName?, LineKind.ignoresBlanks_loneName?.trim line, entryName?]
  | behind => rfl

theorem entryNames_map_trim (place : Place) (ls : List Text) :
    entryNames place (ls.map Text.trim) = entryNames place ls := by
  induction ls generalizing place with
  | nil => rfl
  | cons line rest ih =>
      rw [List.map_cons, entryNames, entryNames, entryName?_trim, next_trim, ih]

theorem entryNames_append_nil (place : Place) (ls : List Text) :
    entryNames place (ls ++ [[]]) = entryNames place ls := by
  induction ls generalizing place with
  | nil =>
      have hnone : entryName? place [] = none := by
        cases place with
        | before => rfl
        | inside level => exact ite_self none
        | behind => rfl
      show (entryName? place []).toList ++ [] = []
      rw [hnone]
      rfl
  | cons line rest ih => rw [List.cons_append, entryNames, ih, entryNames]

theorem statement_trim (line : Text) : statement (Text.trim line) = statement line := by
  rw [statement, Text.ignoresBlanks_collapse.trim line, statement]

theorem statements_map_trim (ls : List Text) : statements (ls.map Text.trim) = statements ls := by
  simp only [statements, List.filterMap_map, Function.comp_def,
    LineKind.ignoresBlanks_importedModule?.trim, statement_trim]

theorem statements_append_nil (ls : List Text) : statements (ls ++ [[]]) = statements ls := by
  rw [statements, List.filterMap_append, statements]
  exact List.append_nil _

/-! ## The file -/

/-- What is read off the trimmed lines, and does not take notice of an empty
line at the end, is in the file that was written as in the lines that were
kept. -/
theorem read_rejoin {α : Type} {f : List Text → α} (htrim : ∀ ls, f (ls.map Text.trim) = f ls)
    (hnil : ∀ ls, f (ls ++ [[]]) = f ls) {content : Text} {kept : List Text}
    (h : kept.Sublist content.lines) :
    f (rejoin content (Lines.ofText content) kept).content.lines = f kept := by
  rw [rejoin]
  split
  next hlength =>
    have hall : kept = content.lines := h.eq_of_length (beq_iff_eq.1 hlength)
    rw [hall]
    rfl
  next =>
    have hnl : ∀ l ∈ kept, '\n' ∉ l := fun l hl => Text.not_mem_of_mem_lines (h.subset hl)
    show f ((Lines.ofText content).render kept).lines = f kept
    rw [← htrim kept, ← htrim]
    rcases Lines.map_trim_lines_render_or (Lines.ofText content) hnl with heq | ⟨-, -, heq⟩
    · rw [heq]
    · rw [← heq, hnil]

theorem fresh_imports (content : Text) :
    Fresh [] (statements (imports content).content.lines) := by
  have hread : statements (imports content).content.lines =
      statements (distinctImports [] content.lines) :=
    read_rejoin statements_map_trim statements_append_nil (distinctImports_sublist [] _)
  rw [hread]
  exact fresh_distinctImports [] content.lines

theorem imports_of_fresh {content : Text} (h : Fresh [] (statements content.lines)) :
    imports content = .same content := by
  have hkept : distinctImports [] (Lines.ofText content).lines = (Lines.ofText content).lines :=
    distinctImports_of_fresh h
  rw [imports, hkept, rejoin, if_pos (by simp)]

theorem fresh_schemaTypes (content : Text) :
    Fresh [] (entryNames .before (schemaTypes content).content.lines) := by
  have hread : entryNames .before (schemaTypes content).content.lines =
      entryNames .before (distinctEntries .before [] content.lines) :=
    read_rejoin (entryNames_map_trim .before) (entryNames_append_nil .before)
      (distinctEntries_sublist .before [] _)
  rw [hread]
  exact fresh_distinctEntries .before [] content.lines

theorem schemaTypes_of_fresh {content : Text} (h : Fresh [] (entryNames .before content.lines)) :
    schemaTypes content = .same content := by
  have hkept : distinctEntries .before [] (Lines.ofText content).lines =
      (Lines.ofText content).lines :=
    distinctEntries_of_fresh h
  rw [schemaTypes, hkept, rejoin, if_pos (by simp)]

/-- Removing entries brings no import back. -/
theorem fresh_statements_schemaTypes {content : Text} (h : Fresh [] (statements content.lines)) :
    Fresh [] (statements (schemaTypes content).content.lines) := by
  have hread : statements (schemaTypes content).content.lines =
      statements (distinctEntries .before [] content.lines) :=
    read_rejoin statements_map_trim statements_append_nil (distinctEntries_sublist .before [] _)
  rw [hread]
  exact h.sublist ((distinctEntries_sublist .before [] content.lines).filterMap _)

/-- A file that was cleaned is left alone. -/
theorem all_all (content : Text) :
    all (all content).content = .same (all content).content := by
  have himports : Fresh [] (statements (all content).content.lines) :=
    fresh_statements_schemaTypes (fresh_imports content)
  have hentries : Fresh [] (entryNames .before (all content).content.lines) :=
    fresh_schemaTypes (imports content).content
  rw [all, imports_of_fresh himports, Outcome.same_andThen, schemaTypes_of_fresh hentries]

end Scaffold.Dedupe
