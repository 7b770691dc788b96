/-
# Which imports are kept

Two lines import the same if they hold the same text once blanks are collapsed,
double quotes are single ones and the semicolons at the end are dropped
(`wording`).  A line stays unless it repeats an import that stands above it:

    stays   import a from 'a'
    stays   import b from 'a'       another import from there
    stays   text
    goes    import  a from "a";
    stays   text
    goes    import a from 'a' ;

The pass goes down the lines with a list of what it has seen, and what it has seen
are the statements of the imports above (`distinctImports_eq_notRepeated`).  So of
the imports of one wording the first is kept (`filter_importsLike_distinctImports`)
and no other line is lost (`filter_other_distinctImports`).
-/
import Mathlib.Data.List.DropRight
import Scaffold.Proofs.BlockGrammar
import Scaffold.Proofs.DedupeLaws

namespace Scaffold.Dedupe

open Extraction (map_filter_withBefore_cons withBefore)

/-! ## Lines that import the same -/

def singleQuoted (t : Text) : Text :=
  t.map fun c => if c == '"' then '\'' else c

/-- A line with collapsed blanks, single quotes and no semicolons at its end, and no
blank either where one stood before them. -/
def wording (line : Text) : Text :=
  Text.collapse ((singleQuoted (Text.collapse line)).rdropWhile fun c => c == ';')

/-- Whether a line imports a module on its own. -/
def isImport (line : Text) : Bool :=
  (LineKind.importedModule? line).isSome

/-- Whether a line is an import with the wording of this one. -/
def importsLike (line other : Text) : Bool :=
  isImport other && wording other == wording line

/-- Whether a line repeats one of the imports before it. -/
def repeats (p : List Text × Text) : Bool :=
  isImport p.2 && p.1.any (importsLike p.2)

/-- The lines that do not repeat an import, if `before` stands before them. -/
def notRepeated (before ls : List Text) : List Text :=
  ((withBefore before ls).filter fun p => !repeats p).map (·.2)

theorem isBlank_singleQuote (c : Char) :
    Text.isBlank (if c == '"' then '\'' else c) = Text.isBlank c := by
  split
  next h =>
    rw [beq_iff_eq.1 h]
    rfl
  next => rfl

/-- Statements are compared by their wording: trimming is enough where the blanks
are collapsed already. -/
theorem statement_eq_wording (line : Text) : statement line = wording line := by
  have hquoted : singleQuoted (Text.collapse line) =
      List.intercalate [' '] ((Text.words line).map singleQuoted) :=
    Text.map_intercalate_space (by rfl) (Text.words line)
  have hwords : ∀ w ∈ (Text.words line).map singleQuoted, Text.IsWord w := by
    intro w hw
    obtain ⟨v, hv, rfl⟩ := List.mem_map.1 hw
    have hword := Text.isWord_of_mem_words hv
    refine ⟨by simpa [singleQuoted] using hword.ne_nil, fun c hc => ?_⟩
    obtain ⟨d, hd, rfl⟩ := List.mem_map.1 hc
    rw [isBlank_singleQuote]
    exact hword.ink d hd
  have hprefix := List.rdropWhile_prefix (fun c => c == ';') (singleQuoted (Text.collapse line))
  rw [wording, Text.collapse_of_prefix hwords (hquoted ▸ hprefix)]
  rfl

theorem importsLike_iff {line other : Text} :
    importsLike line other = true ↔ isImport other = true ∧ statement other = statement line := by
  rw [importsLike, Bool.and_eq_true, beq_iff_eq, statement_eq_wording, statement_eq_wording]

/-! ## One line -/

section Step

variable {line : Text}

theorem distinctImports_of_other (h : isImport line = false) (seen rest : List Text) :
    distinctImports seen (line :: rest) = line :: distinctImports seen rest := by
  have hnone : LineKind.importedModule? line = none := by simpa [isImport] using h
  rw [distinctImports, hnone]

theorem distinctImports_of_seen (h : isImport line = true) {seen : List Text}
    (hseen : statement line ∈ seen) (rest : List Text) :
    distinctImports seen (line :: rest) = distinctImports seen rest := by
  obtain ⟨m, hm⟩ := Option.isSome_iff_exists.1 h
  rw [distinctImports, hm]
  exact if_pos (List.contains_iff_mem.2 hseen)

theorem distinctImports_of_new (h : isImport line = true) {seen : List Text}
    (hnew : statement line ∉ seen) (rest : List Text) :
    distinctImports seen (line :: rest) =
      line :: distinctImports (statement line :: seen) rest := by
  obtain ⟨m, hm⟩ := Option.isSome_iff_exists.1 h
  rw [distinctImports, hm]
  exact if_neg (mt List.contains_iff_mem.1 hnew)

end Step

/-! ## All lines -/

/-- The statements seen are those of the imports before. -/
def Seen (seen before : List Text) : Prop :=
  ∀ s, s ∈ seen ↔ ∃ l ∈ before, isImport l = true ∧ statement l = s

section Seen

variable {seen before : List Text} {line : Text}

theorem Seen.repeats_iff (h : Seen seen before) (himport : isImport line = true) :
    repeats (before, line) = true ↔ statement line ∈ seen := by
  rw [repeats, himport, Bool.true_and, List.any_eq_true, h]
  exact exists_congr fun l => and_congr_right fun _ => importsLike_iff

theorem Seen.other (h : Seen seen before) (hother : isImport line = false) :
    Seen seen (before ++ [line]) := by
  intro s
  simp [h s, hother]

theorem Seen.again (h : Seen seen before) (hseen : statement line ∈ seen) :
    Seen seen (before ++ [line]) := by
  intro s
  rw [h s]
  constructor
  · rintro ⟨l, hl, hs⟩
    exact ⟨l, List.mem_append_left _ hl, hs⟩
  · rintro ⟨l, hl, himport, rfl⟩
    rcases List.mem_append.1 hl with hl | hl
    · exact ⟨l, hl, himport, rfl⟩
    · rw [List.mem_singleton.1 hl]
      exact (h _).1 hseen

theorem Seen.new (h : Seen seen before) (himport : isImport line = true) :
    Seen (statement line :: seen) (before ++ [line]) := by
  intro s
  rw [List.mem_cons, h s]
  simp only [List.mem_append, List.mem_singleton, or_and_right, exists_or, exists_eq_left, himport,
    true_and]
  rw [or_comm, eq_comm]

end Seen

theorem notRepeated_cons (before : List Text) (line : Text) (rest : List Text) :
    notRepeated before (line :: rest) =
      (if repeats (before, line) then [] else [line]) ++ notRepeated (before ++ [line]) rest := by
  rw [notRepeated, map_filter_withBefore_cons, notRepeated]
  cases repeats (before, line) <;> rfl

/-- The pass keeps the lines that do not repeat an import. -/
theorem distinctImports_eq_notRepeated {seen before : List Text} (h : Seen seen before)
    (ls : List Text) : distinctImports seen ls = notRepeated before ls := by
  induction ls generalizing seen before with
  | nil => rfl
  | cons line rest ih =>
      rw [notRepeated_cons]
      cases himport : isImport line with
      | false =>
          have hnot : repeats (before, line) = false := by rw [repeats, himport, Bool.false_and]
          rw [distinctImports_of_other himport, hnot, ih (h.other himport)]
          rfl
      | true =>
          by_cases hseen : statement line ∈ seen
          · rw [distinctImports_of_seen himport hseen, (h.repeats_iff himport).2 hseen,
              ih (h.again hseen)]
            rfl
          · have hnot := Bool.eq_false_iff.2 (mt (h.repeats_iff himport).1 hseen)
            rw [distinctImports_of_new himport hseen, hnot, ih (h.new himport)]
            rfl

theorem filter_other_distinctImports (seen ls : List Text) :
    ((distinctImports seen ls).filter fun l => !isImport l) = ls.filter fun l => !isImport l := by
  induction ls generalizing seen with
  | nil => rfl
  | cons line rest ih =>
      cases himport : isImport line with
      | false => simp [distinctImports_of_other himport, himport, ih]
      | true =>
          by_cases hseen : statement line ∈ seen
          · simp [distinctImports_of_seen himport hseen, himport, ih]
          · simp [distinctImports_of_new himport hseen, himport, ih]

/-- Of the imports of one wording the first is kept, or none if it was seen before. -/
theorem filter_importsLike_distinctImports (l : Text) (seen ls : List Text) :
    (distinctImports seen ls).filter (importsLike l) =
      if statement l ∈ seen then [] else (ls.find? (importsLike l)).toList := by
  induction ls generalizing seen with
  | nil => simp [distinctImports]
  | cons line rest ih =>
      cases himport : isImport line with
      | false =>
          have hunlike : ¬ importsLike l line = true := by
            rw [importsLike_iff, himport]
            simp
          rw [distinctImports_of_other himport, List.filter_cons_of_neg hunlike, ih,
            List.find?_cons_of_neg hunlike]
      | true =>
          by_cases hseen : statement line ∈ seen
          · rw [distinctImports_of_seen himport hseen, ih]
            refine if_ctx_congr Iff.rfl (fun _ => rfl) fun hl => ?_
            have hunlike : ¬ importsLike l line = true := fun hlike =>
              hl ((importsLike_iff.1 hlike).2 ▸ hseen)
            rw [List.find?_cons_of_neg hunlike]
          · rw [distinctImports_of_new himport hseen]
            by_cases hlike : importsLike l line = true
            · have hsame : statement line = statement l := (importsLike_iff.1 hlike).2
              rw [List.filter_cons_of_pos hlike, ih, hsame, if_pos List.mem_cons_self,
                if_neg (hsame ▸ hseen), List.find?_cons_of_pos hlike]
              rfl
            · have hother : ¬ statement l = statement line := fun hsame =>
                hlike (importsLike_iff.2 ⟨himport, hsame.symm⟩)
              rw [List.filter_cons_of_neg hlike, ih, List.find?_cons_of_neg hlike]
              simp only [List.mem_cons, hother, false_or]

/-! ## The file -/

theorem seen_nil : Seen [] [] := fun s => by simp

/-- The pass leaves out the lines that repeat an import above and no other. All lines
that are no imports stay, and of the imports of one wording exactly the first.  What
stays is written in the manner of the file, which is not touched if nothing goes. -/
theorem imports_keeps_first (content : Text) :
    let kept := notRepeated [] content.lines
    imports content =
        (if kept = content.lines then .same content
          else .edited ((Lines.ofText content).render kept)) ∧
      (kept.filter fun l => !isImport l) = (content.lines.filter fun l => !isImport l) ∧
      ∀ l, kept.filter (importsLike l) = (content.lines.find? (importsLike l)).toList := by
  intro kept
  have hkept : distinctImports [] content.lines = kept :=
    distinctImports_eq_notRepeated seen_nil content.lines
  refine ⟨?_, ?_, fun l => ?_⟩
  · have hsublist := distinctImports_sublist [] content.lines
    rw [imports, rejoin, Lines.lines_ofText]
    refine if_congr ?_ rfl (by rw [hkept])
    rw [beq_iff_eq, ← hkept]
    exact ⟨hsublist.eq_of_length, congrArg List.length⟩
  · rw [← hkept]
    exact filter_other_distinctImports [] content.lines
  · rw [← hkept, filter_importsLike_distinctImports]
    exact if_neg List.not_mem_nil

example : imports "import a from 'a'\r\nx\nimport  a from \"a\" ;".toList =
    .edited "import a from 'a'\r\nx".toList := by
  decide +kernel

end Scaffold.Dedupe
