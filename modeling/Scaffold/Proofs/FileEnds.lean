/-
# The end of a file without its duplicates

A file that ends with a line feed should still do so when its duplicates are gone, and a
file that does not should not come to.  A file remembers how it ended and is written that
way, but whoever reads it again sees only the text:

          file                             lines that stay     written
    1     import a LF x LF import a LF     import a, x         import a LF x LF
    2     import a LF x LF import a        import a, x         import a LF x
    3     import a LF LF import a          import a, empty     import a LF

In the last row an empty line stood above the import that goes.  It is the last line now
and nothing ends it, so that the line feed in front of it stands at the end of the file.
Nothing else can happen: the end is kept exactly if no empty line is laid bare
(`keepsEnd_passes_iff`).
-/
import Scaffold.Proofs.FirstEntries
import Scaffold.Proofs.FirstImports

namespace Scaffold

/-! ## Files whose last line is empty -/

namespace Lines

theorem render_eq_nil_iff {file : Lines} {ls : List Text} :
    file.render ls = [] ↔ ls = [] ∨ (file.ended = false ∧ ls = [[]]) := by
  have hending : file.ending.text ≠ [] := by
    cases file.ending with
    | lf => exact List.cons_ne_nil _ _
    | crlf => exact List.cons_ne_nil _ _
  cases ls with
  | nil => simp [render]
  | cons l r =>
      cases r with
      | nil =>
          cases hended : file.ended with
          | true => simp [render_singleton_of_ended hended, hending]
          | false => simp [render_singleton_of_open hended]
      | cons l' s => simp [render_cons_cons, hending]

/-- The line feed in front of an empty last line stands at the end of the file. -/
theorem endsLine_render_of_empty {file : Lines} {ls : List Text} (hlast : ls.getLast? = some [])
    (hne : file.render ls ≠ []) : (file.render ls).endsLine = true := by
  obtain ⟨init, rfl⟩ := List.getLast?_eq_some_iff.1 hlast
  cases hended : file.ended with
  | true =>
      obtain ⟨before, hbefore⟩ := file.exists_render_append init (List.cons_ne_nil [] [])
      rw [hbefore, render_singleton_of_ended hended]
      exact endsLine_append_ending file.ending before
  | false =>
      rcases List.eq_nil_or_concat init with rfl | ⟨init, k, rfl⟩
      · exact absurd (render_singleton_of_open hended []) hne
      · obtain ⟨before, hbefore⟩ := file.exists_render_append init (List.cons_ne_nil k [[]])
        have htail : file.render [k, []] = k ++ (file.ending.text ++ []) := by
          rw [render_cons_cons, render_singleton_of_open hended]
        rw [List.concat_eq_append, List.append_assoc, List.singleton_append, hbefore, htail,
          ← List.append_assoc]
        exact endsLine_append_ending file.ending (before ++ k)

/-- A file that is written ends with a line feed if it did before, or if its last line is
empty now. -/
theorem endsLine_render_eq {file : Lines} {ls : List Text} (hfeed : ∀ l ∈ ls, '\n' ∉ l)
    (hne : file.render ls ≠ []) :
    (file.render ls).endsLine = (file.ended || ls.getLast? == some []) := by
  by_cases hlast : ls.getLast? = some []
  · rw [endsLine_render_of_empty hlast hne, hlast, BEq.rfl, Bool.or_true]
  · have hls : ls ≠ [] := by
      intro hnil
      exact hne (render_eq_nil_iff.2 (.inl hnil))
    rw [endsLine_render ⟨hfeed, fun _ => hlast⟩ hls, beq_eq_false_iff_ne.2 hlast, Bool.or_false]

end Lines

namespace Dedupe

/-! ## One pass -/

/-- A choice of lines that never drops the first one and takes no notice of an empty line
in front. -/
structure KeepsFront (choose : List Text → List Text) : Prop where
  sublist : ∀ ls, (choose ls).Sublist ls
  first : ∀ line rest, ∃ kept, choose (line :: rest) = line :: kept
  empty : ∀ rest, choose ([] :: rest) = [] :: choose rest

theorem keepsFront_distinctImports : KeepsFront (distinctImports []) where
  sublist := distinctImports_sublist []
  first line rest := by
    cases himport : isImport line with
    | false => exact ⟨_, distinctImports_of_other himport [] rest⟩
    | true => exact ⟨_, distinctImports_of_new himport List.not_mem_nil rest⟩
  empty := distinctImports_of_other (by decide) []

theorem keepsFront_distinctEntries : KeepsFront (distinctEntries .before []) where
  sublist := distinctEntries_sublist .before []
  first _ _ := ⟨_, rfl⟩
  empty _ := rfl

namespace KeepsFront

variable {choose : List Text → List Text} (h : KeepsFront choose)
include h

theorem eq_nil {ls : List Text} (hnil : choose ls = []) : ls = [] := by
  cases ls with
  | nil => rfl
  | cons line rest =>
      obtain ⟨kept, hkept⟩ := h.first line rest
      exact absurd (hkept.symm.trans hnil) (List.cons_ne_nil line kept)

/-- A single empty line is left of a single empty line only. -/
theorem eq_lone_empty {ls : List Text} (hlone : choose ls = [[]]) : ls = [[]] := by
  cases ls with
  | nil => exact absurd (List.sublist_nil.1 (h.sublist [])) (by simp [hlone])
  | cons line rest =>
      obtain ⟨kept, hkept⟩ := h.first line rest
      obtain ⟨rfl, -⟩ := List.cons.inj (hkept.symm.trans hlone)
      rw [h.empty] at hlone
      rw [h.eq_nil (List.cons.inj hlone).2]

/-- Something is left of every file that holds something. -/
theorem eq_nil_of_rejoin {content : Text}
    (hnil : (rejoin content (Lines.ofText content) (choose content.lines)).content = []) :
    content = [] := by
  rw [rejoin] at hnil
  split at hnil
  next => exact hnil
  next =>
    rcases Lines.render_eq_nil_iff.1 hnil with hkept | ⟨hended, hkept⟩
    · exact Text.lines_eq_nil_iff.1 (h.eq_nil hkept)
    · have hlast := Text.getLast?_lines_ne hended
      rw [h.eq_lone_empty hkept] at hlast
      exact absurd rfl hlast

/-- The file ends with a line feed if it did before, or if of the lines that stay the last
one is empty. -/
theorem endsLine_rejoin (content : Text) :
    (rejoin content (Lines.ofText content) (choose content.lines)).content.endsLine =
      (content.endsLine || (choose content.lines).getLast? == some []) := by
  have hsub := h.sublist content.lines
  by_cases hlength : (choose content.lines).length = content.lines.length
  · have hall : choose content.lines = content.lines := hsub.eq_of_length hlength
    rw [rejoin, hall, Lines.lines_ofText, if_pos BEq.rfl]
    cases hended : content.endsLine with
    | true => exact hended
    | false =>
        rw [beq_eq_false_iff_ne.2 (Text.getLast?_lines_ne hended)]
        exact hended
  · have hedited : rejoin content (Lines.ofText content) (choose content.lines) =
        .edited ((Lines.ofText content).render (choose content.lines)) :=
      if_neg (mt beq_iff_eq.1 hlength)
    have hleft : (Lines.ofText content).render (choose content.lines) ≠ [] := by
      intro hnil
      have hempty : content = [] := h.eq_nil_of_rejoin (by rw [hedited]; exact hnil)
      subst hempty
      exact hlength (congrArg List.length (List.sublist_nil.1 hsub))
    rw [hedited]
    exact Lines.endsLine_render_eq (fun l hl => Text.not_mem_of_mem_lines (hsub.subset hl)) hleft

end KeepsFront

theorem endsLine_imports (content : Text) :
    (imports content).content.endsLine =
      (content.endsLine || (notRepeated [] content.lines).getLast? == some []) := by
  rw [← distinctImports_eq_notRepeated seen_nil]
  exact keepsFront_distinctImports.endsLine_rejoin content

theorem endsLine_schemaTypes (content : Text) :
    (schemaTypes content).content.endsLine =
      (content.endsLine || (withoutRepeats content.lines).getLast? == some []) := by
  rw [← distinctEntries_before]
  exact keepsFront_distinctEntries.endsLine_rejoin content

/-! ## All passes -/

/-- The content ends with a line feed exactly if the given one does, unless it is empty. -/
def KeepsEnd (given : Text) (o : Outcome) : Prop :=
  o.content ≠ [] → (o.content.endsLine = true ↔ given.endsLine = true)

/-- The last line of the file is not ended, and of the lines that stay the last one is
empty. -/
def BaresEmptyLine (content : Text) (kept : List Text) : Prop :=
  content.endsLine = false ∧ kept.getLast? = some []

theorem keepsEnd_iff {given : Text} {o : Outcome} {bared : Bool}
    (h : o.content.endsLine = (given.endsLine || bared)) :
    KeepsEnd given o ↔ ¬ (given.endsLine = false ∧ bared = true) := by
  by_cases hnil : o.content = []
  · have hneither : given.endsLine = false ∧ bared = false := by
      rw [hnil] at h
      exact Bool.or_eq_false_iff.1 h.symm
    refine iff_of_true (fun hne => absurd hnil hne) ?_
    simp [hneither]
  · rw [KeepsEnd, h]
    cases given.endsLine <;> cases bared <;> simp [hnil]

/-- Each of the passes keeps the end of a file exactly if it lays bare no empty line, and
the two in a row do if neither does. -/
theorem keepsEnd_passes_iff (content : Text) :
    let between := (imports content).content
    (KeepsEnd content (imports content) ↔
        ¬ BaresEmptyLine content (notRepeated [] content.lines)) ∧
      (KeepsEnd content (schemaTypes content) ↔
        ¬ BaresEmptyLine content (withoutRepeats content.lines)) ∧
      (KeepsEnd content (all content) ↔
        ¬ BaresEmptyLine content (notRepeated [] content.lines) ∧
          ¬ BaresEmptyLine between (withoutRepeats between.lines)) := by
  intro between
  have himports := endsLine_imports content
  have hboth : (all content).content.endsLine =
      (content.endsLine || ((notRepeated [] content.lines).getLast? == some [] ||
        (withoutRepeats between.lines).getLast? == some [])) := by
    rw [all, Outcome.content_andThen, endsLine_schemaTypes, himports, Bool.or_assoc]
  refine ⟨?_, ?_, ?_⟩
  · rw [keepsEnd_iff himports, beq_iff_eq, BaresEmptyLine]
  · rw [keepsEnd_iff (endsLine_schemaTypes content), beq_iff_eq, BaresEmptyLine]
  · rw [keepsEnd_iff hboth, BaresEmptyLine, BaresEmptyLine, himports, Bool.or_eq_true,
      Bool.or_eq_false_iff, beq_iff_eq, beq_iff_eq, beq_eq_false_iff_ne]
    tauto

theorem not_keepsEnd_of_ended {given : Text} {o : Outcome} (hopen : given.endsLine = false)
    (hended : o.content.endsLine = true) : ¬ KeepsEnd given o := by
  intro hkeeps
  have hne : o.content ≠ [] := by
    intro hnil
    rw [hnil] at hended
    exact absurd hended Bool.false_ne_true
  exact absurd ((hkeeps hne).1 hended) (Bool.eq_false_iff.1 hopen)

/-- Either pass can lay an empty line bare, and the file comes to end with a line feed. -/
theorem passes_end_open_line :
    let repeated : Text := "import a from 'a'\n\nimport a from 'a'".toList
    let listed : Text := "export const schemaTypes = [\n  a,\n\n  a,".toList
    (repeated.endsLine = false ∧ (imports repeated).content = "import a from 'a'\n".toList ∧
        ¬ KeepsEnd repeated (imports repeated) ∧ ¬ KeepsEnd repeated (all repeated)) ∧
      (listed.endsLine = false ∧
        (schemaTypes listed).content = "export const schemaTypes = [\n  a,\n".toList ∧
        ¬ KeepsEnd listed (schemaTypes listed)) := by
  intro repeated listed
  have hrepeated : repeated.endsLine = false := by decide +kernel
  have hlisted : listed.endsLine = false := by decide +kernel
  have himports : (imports repeated).content = "import a from 'a'\n".toList := by decide +kernel
  have hall : (all repeated).content = "import a from 'a'\n".toList := by decide +kernel
  have hentries : (schemaTypes listed).content =
      "export const schemaTypes = [\n  a,\n".toList := by decide +kernel
  refine ⟨⟨hrepeated, himports, ?_, ?_⟩, hlisted, hentries, ?_⟩
  · exact not_keepsEnd_of_ended hrepeated (by rw [himports]; decide)
  · exact not_keepsEnd_of_ended hrepeated (by rw [hall]; decide)
  · exact not_keepsEnd_of_ended hlisted (by rw [hentries]; decide)

end Dedupe

end Scaffold
