/-
# What the flag of a pass says

A pass says whether it changed a file by the way it took, not by comparing texts,
and duplicates are only dropped from a file that was changed.  So the flag must
not be set where the content came out as it was, and whenever it is set there is
something that tells the two contents apart:

    merge, lines     the snippet was wanting, and is there
    seeding          there was no marker, and there is one
    inline           the anchor line is longer
    marker           the file is longer
    range            the range was not the snippet
    dropping         there are fewer lines

The flag of `conditionalReplace` says more than that: a text can be replaced by
itself, if another text is the guard (`ReplacesItself`).
-/
import Scaffold.Proofs.AddedMarkers
import Scaffold.Proofs.DedupeLaws
import Scaffold.Proofs.LineInsertion
import Scaffold.Proofs.MergeLaws
import Scaffold.Proofs.Replacements
import Scaffold.Proofs.SeedingLaws

namespace Scaffold

namespace Outcome

/-- The flag is set exactly if the content is not the given one. -/
def TellsChange (given : Text) (o : Outcome) : Prop :=
  o.changed = true ↔ o.content ≠ given

theorem tellsChange_same (given : Text) : (same given).TellsChange given :=
  iff_of_false Bool.false_ne_true fun hne => hne rfl

theorem tellsChange_edited_iff {given content : Text} :
    (edited content).TellsChange given ↔ content ≠ given :=
  ⟨fun h => h.1 rfl, fun h => iff_of_true rfl h⟩

end Outcome

open Outcome (tellsChange_same tellsChange_edited_iff)

/-! ## Merging and seeding -/

theorem tellsChange_mergeSnippets {S : SnippetMap} (hS : S.Plain) (existing : Text) :
    (mergeSnippets existing S).TellsChange existing := by
  rcases mergeSnippets_cases existing S with ⟨hsame, -⟩ | ⟨hedited, -⟩
  · rw [hsame]
    exact tellsChange_same existing
  · have hchanged : (mergeSnippets existing S).changed = true := by rw [hedited]; rfl
    exact iff_of_true hchanged (content_mergeSnippets_ne hS hchanged)

theorem Seeding.tellsChange_seed (existing template : Text) :
    (seed existing template).TellsChange existing := by
  rcases seed_cases existing template with ⟨hsame, -⟩ | ⟨hnone, hneeded, hany⟩
  · rw [hsame]
    exact tellsChange_same existing
  · have hchanged : (seed existing template).changed = true := by
      rw [seed_eq_edited hnone hneeded]
      rfl
    refine iff_of_true hchanged fun hsame => ?_
    rw [hsame, hnone] at hany
    exact absurd hany Bool.false_ne_true

/-! ## Dropping duplicates -/

namespace Dedupe

/-- The pass did nothing, or the file has fewer lines now. -/
def Shortens (content : Text) (o : Outcome) : Prop :=
  o = .same content ∨ (o.changed = true ∧ o.content.lines.length < content.lines.length)

theorem shortens_rejoin {content : Text} {kept : List Text} (h : kept.Sublist content.lines) :
    Shortens content (rejoin content (Lines.ofText content) kept) := by
  rw [rejoin]
  split
  next => exact .inl rfl
  next hlength =>
    have hfewer : kept.length < content.lines.length :=
      Nat.lt_of_le_of_ne h.length_le fun heq => hlength (beq_iff_eq.2 heq)
    refine .inr ⟨rfl, Nat.lt_of_le_of_lt ?_ hfewer⟩
    exact Lines.length_lines_render_le _ fun l hl => Text.not_mem_of_mem_lines (h.subset hl)

theorem shortens_imports (content : Text) : Shortens content (imports content) :=
  shortens_rejoin (distinctImports_sublist [] _)

theorem shortens_schemaTypes (content : Text) : Shortens content (schemaTypes content) :=
  shortens_rejoin (distinctEntries_sublist .before [] _)

/-- The second pass cannot bring back what the first one left out. -/
theorem shortens_all (content : Text) : Shortens content (all content) := by
  rcases shortens_imports content with hsame | ⟨hchanged, hfewer⟩
  · rw [all, hsame, Outcome.same_andThen]
    exact shortens_schemaTypes content
  · refine .inr ⟨by rw [all, Outcome.andThen, hchanged]; rfl, ?_⟩
    rw [all, Outcome.content_andThen]
    rcases shortens_schemaTypes (imports content).content with hsame | ⟨-, hless⟩
    · rw [hsame]
      exact hfewer
    · exact hless.trans hfewer

theorem Shortens.tellsChange {content : Text} {o : Outcome} (h : Shortens content o) :
    o.TellsChange content := by
  rcases h with rfl | ⟨hchanged, hfewer⟩
  · exact tellsChange_same content
  · refine iff_of_true hchanged fun hsame => ?_
    rw [hsame] at hfewer
    exact Nat.lt_irrefl _ hfewer

end Dedupe

namespace Edit

/-! ## Insertions -/

section Insertion

variable {content : Text} {a : Anchor} {S : SnippetMap} {side : Position}

theorem tellsChange_insertLines (hS : S.Plain) :
    (insertLines content a S side).TellsChange content := by
  generalize ho : insertLines content a S side = o
  cases ho ▸ linesGo_insertLines content a S side with
  | missing => exact tellsChange_same content
  | present => exact tellsChange_same content
  | @inserted e cut he hcut hmissing =>
      have hchanged : (insertLines content a S side).changed = true := by rw [ho]; rfl
      have hpresent := isPresent_of_insertLines hS he hchanged
      refine tellsChange_edited_iff.2 fun hsame => ?_
      rw [ho, Outcome.edited, hsame, hmissing] at hpresent
      exact absurd hpresent Bool.false_ne_true

theorem length_lt_inLine (text target head tail : Text) (side : Position) :
    (head ++ target ++ tail).length < (inLine text target head tail side).length := by
  cases side with
  | above =>
      simp only [inLine, List.length_append, List.length_cons]
      omega
  | below =>
      simp only [inLine, List.length_append, List.length_cons]
      omega

theorem tellsChange_insertInline : (insertInline content a S side).TellsChange content := by
  generalize ho : insertInline content a S side = o
  cases ho ▸ inlineGo_insertInline content a S side with
  | kept => exact tellsChange_same content
  | @inserted e cut head tail h =>
      refine tellsChange_edited_iff.2 fun hsame => ?_
      have hlines := h.lines
      rw [hsame, ← (anchor?_eq_some_iff.1 h.anchor).2.lines] at hlines
      have hline : cut.line = inLine (oneLine e.2) a.target head tail side := by
        simpa [Cut.lines] using hlines
      have hlength := length_lt_inLine (oneLine e.2) a.target head tail side
      rw [← hline, Text.eq_of_splitFirst? h.split] at hlength
      exact Nat.lt_irrefl _ hlength

theorem length_render_lt_beside (file : Lines) (c : Cut) (l : Text) (side : Position) :
    (file.render c.lines).length <
      (file.render (c.before ++ Merge.beside c.line [l] side ++ c.after)).length := by
  cases side with
  | above =>
      have hlonger := file.length_render_lt_insert
        (List.append_ne_nil_of_right_ne_nil c.before (List.cons_ne_nil c.line c.after)) l
      simpa [Cut.lines, Merge.beside] using hlonger
  | below =>
      have hlonger := file.length_render_lt_insert
        (List.append_ne_nil_of_left_ne_nil (List.concat_ne_nil c.line c.before) c.after) l
      simpa [Cut.lines, Merge.beside] using hlonger

/-- The key of a marker may hold a line feed, so that not the lines are counted but
the characters. -/
theorem tellsChange_addMarker : (addMarker content a side).TellsChange content := by
  generalize ho : addMarker content a side = o
  cases ho ▸ markerGo_addMarker content a side with
  | kept => exact tellsChange_same content
  | @added cut hnew hcut =>
      refine tellsChange_edited_iff.2 fun hsame => ?_
      have hold := Lines.length_le_length_render content
      have hlonger := length_render_lt_beside (Lines.ofText content) cut
        (Marker.addLine (Text.indentation cut.line) a.key side) side
      rw [withMarker] at hsame
      rw [(anchor?_eq_some_iff.1 hcut).2.lines, hsame] at hlonger
      exact Nat.lt_irrefl _ (Nat.lt_of_le_of_lt hold hlonger)

end Insertion

/-! ## Replacements -/

theorem tellsChange_replaceRange (content template : Text) (r : AnchorRange) :
    (replaceRange content r (SnippetMap.ofText template)).TellsChange content := by
  generalize ho : replaceRange content r (SnippetMap.ofText template) = o
  cases ho ▸ rangeGo_replaceRange content r (SnippetMap.ofText template) with
  | kept => exact tellsChange_same content
  | @replaced e cut closing h =>
      refine tellsChange_edited_iff.2 fun hsame => ?_
      have hwritable := Lines.writable_ofText content
      have hlines := h.lines
      rw [hsame, ← h.cut_lines] at hlines
      rw [← h.cut_lines] at hwritable
      have hplain := Merge.plain_served (SnippetMap.plain_ofText template) h.meant
        (feed_notMem_of_anchor? h.anchor)
      have hblock : e.2.indentBy (Text.indentation cut.line) = cut.range closing :=
        Lines.eq_of_reread_splice hwritable (List.cons_ne_nil _ _) hplain.last hlines.symm
      have hsameTrimmed := h.apart
      rw [← hblock, Bool.eq_false_iff, Ne, Block.sameTrimmed_iff] at hsameTrimmed
      exact hsameTrimmed (Block.map_trim_indentBy (Text.allBlank_indentation cut.line) e.2)

/-- A text is replaced by itself, since another text is the guard. -/
structure ReplacesItself (content : Text) (r : Replacement) : Prop where
  itself : r.replacement = r.target
  asked : r.target ≠ []
  found : r.target <:+: content
  free : ∃ guard, r.requireAbsent = some guard ∧ (guard = [] ∨ ¬ guard <:+: content)

theorem tellsChange_replaceText_iff {content : Text} {r : Replacement} :
    (replaceText content r).TellsChange content ↔ ¬ ReplacesItself content r := by
  generalize ho : replaceText content r = o
  cases ho ▸ textGo_replaceText content r with
  | kept h =>
      refine iff_of_true (tellsChange_same content) fun hitself => ?_
      obtain ⟨guard, hguard, hfree⟩ := hitself.free
      rw [hguard, Option.getD_some, isGuarded_some_iff] at h
      rcases h with hnil | hguarded | hnone
      · exact hitself.asked hnil
      · exact hfree.elim hguarded.1 fun habsent => habsent hguarded.2
      · exact hnone hitself.found
  | @replaced before after hsplit htarget hfree =>
      rw [tellsChange_edited_iff, not_iff_not]
      have hfound : r.target <:+: content := ⟨before, after, hsplit.symm⟩
      constructor
      · intro hsame
        have hitself : r.replacement = r.target := by
          rw [hsplit] at hsame
          exact List.append_cancel_left (List.append_cancel_right hsame)
        refine ⟨hitself, htarget, hfound, ?_⟩
        rw [Bool.eq_false_iff, Ne, isGuarded_some_iff] at hfree
        cases hguard : r.requireAbsent with
        | none =>
            -- without a guard of its own a text is guarded against itself
            rw [hguard, Option.getD_none, hitself] at hfree
            exact absurd ⟨htarget, hfound⟩ hfree
        | some guard =>
            rw [hguard, Option.getD_some] at hfree
            exact ⟨guard, rfl, by tauto⟩
      · intro hitself
        rw [hitself.itself, hsplit]

/-! ## All passes -/

/-- The flag of every pass is set exactly if the pass changed the content, up to
a text that is replaced by itself. -/
theorem tellsChange_passes (content template : Text) :
    let S := SnippetMap.ofText template
    (mergeSnippets content S).TellsChange content ∧
      (Seeding.seed content template).TellsChange content ∧
      (Dedupe.imports content).TellsChange content ∧
      (Dedupe.schemaTypes content).TellsChange content ∧
      (Dedupe.all content).TellsChange content ∧
      ∀ e : Edit, (apply content S e).TellsChange content ↔
        ∀ r, e = .conditionalReplace r → ¬ ReplacesItself content r := by
  intro S
  have hS : S.Plain := SnippetMap.plain_ofText template
  refine ⟨tellsChange_mergeSnippets hS content, Seeding.tellsChange_seed content template,
    (Dedupe.shortens_imports content).tellsChange, (Dedupe.shortens_schemaTypes content).tellsChange,
    (Dedupe.shortens_all content).tellsChange, fun e => ?_⟩
  cases e with
  | conditionalReplace r =>
      refine tellsChange_replaceText_iff.trans ⟨fun h r' hr => ?_, fun h => h r rfl⟩
      cases hr
      exact h
  | insertBeforeLine a => exact iff_of_true (tellsChange_insertLines hS) (by simp)
  | insertAfterLine a => exact iff_of_true (tellsChange_insertLines hS) (by simp)
  | insertBeforeInline a => exact iff_of_true tellsChange_insertInline (by simp)
  | insertAfterInline a => exact iff_of_true tellsChange_insertInline (by simp)
  | addMarkerAboveTarget a => exact iff_of_true tellsChange_addMarker (by simp)
  | addMarkerBelowTarget a => exact iff_of_true tellsChange_addMarker (by simp)
  | replaceBetweenAnchors r =>
      exact iff_of_true (tellsChange_replaceRange content template r) (by simp)

/-- A text that is replaced by itself counts as changed. -/
theorem replaceText_by_itself :
    let o := apply "a\n".toList (SnippetMap.ofText [])
      (.conditionalReplace ⟨"a".toList, "a".toList, .first, some "b".toList⟩)
    o = .edited "a\n".toList ∧ ¬ o.TellsChange "a\n".toList := by
  intro o
  have hresult : o = .edited "a\n".toList := by decide +kernel
  refine ⟨hresult, fun htells => ?_⟩
  rw [hresult, tellsChange_edited_iff] at htells
  exact htells rfl

end Edit

end Scaffold
