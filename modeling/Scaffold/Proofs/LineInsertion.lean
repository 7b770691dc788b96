/-
# Lines are inserted at most once

An insertion of lines asks what a merge asks, whether the file holds the
snippet, and then puts it beside the anchor as a merge puts it beside a marker.
So one insertion serves all later ones and all markers of the same snippet:
whatever their anchors and however their keys are spelled, they find it in the
file (`insertLines_at_most_once`).  A merge that brings in other snippets does
not take it away on its way (`Merge.Pass.isPresent`).
-/
import Scaffold.Proofs.AnchorLaws

namespace Scaffold

namespace Edit

/-! ## One insertion -/

/-- The ways an insertion of lines can go. -/
inductive LinesGo (content : Text) (a : Anchor) (S : SnippetMap) (side : Position) :
    Outcome → Prop
  | missing (h : ∀ e cut, S.resolve? a.key = some e →
      anchor? a.target a.occurrence content.lines ≠ some cut) :
      LinesGo content a S side (.same content)
  | present {e : Text × Block} (he : S.resolve? a.key = some e)
      (hpresent : isPresent content.lines e.2 = true) : LinesGo content a S side (.same content)
  | inserted {e : Text × Block} {cut : Cut} (he : S.resolve? a.key = some e)
      (hcut : anchor? a.target a.occurrence content.lines = some cut)
      (hmissing : isPresent content.lines e.2 = false) :
      LinesGo content a S side (.edited ((Lines.ofText content).render
        (cut.before ++ Merge.beside cut.line (e.2.indentBy (Text.indentation cut.line)) side ++
          cut.after)))

theorem linesGo_insertLines (content : Text) (a : Anchor) (S : SnippetMap) (side : Position) :
    LinesGo content a S side (insertLines content a S side) := by
  rw [insertLines, Lines.lines_ofText]
  split
  next key snippet cut he hcut =>
    split
    next hpresent => exact .present he hpresent
    next hmissing =>
      simp only [Cut.insert_eq]
      exact .inserted he hcut (Bool.eq_false_iff.2 hmissing)
  next hother => exact .missing fun e cut he hcut => hother e.1 e.2 cut he hcut

/-- A snippet that the file holds is not inserted. -/
theorem insertLines_of_isPresent {content : Text} {a : Anchor} {S : SnippetMap} {e : Text × Block}
    (he : S.resolve? a.key = some e) (h : isPresent content.lines e.2 = true) (side : Position) :
    insertLines content a S side = .same content := by
  generalize hr : insertLines content a S side = r
  have hgo := hr ▸ linesGo_insertLines content a S side
  cases hgo with
  | missing => rfl
  | present => rfl
  | inserted he' _ hmissing =>
      obtain rfl := Option.some.inj (he.symm.trans he')
      rw [h] at hmissing
      exact absurd hmissing (by simp)

/-- A snippet that was inserted is found when the file is read again. -/
theorem isPresent_of_insertLines {content : Text} {a : Anchor} {S : SnippetMap} (hS : S.Plain)
    {side : Position} {e : Text × Block} (he : S.resolve? a.key = some e)
    (hchanged : (insertLines content a S side).changed = true) :
    isPresent (insertLines content a S side).content.lines e.2 = true := by
  generalize hr : insertLines content a S side = r at hchanged ⊢
  have hgo := hr ▸ linesGo_insertLines content a S side
  cases hgo with
  | missing => exact absurd hchanged Bool.false_ne_true
  | present => exact absurd hchanged Bool.false_ne_true
  | @inserted e' cut he' hcut _ =>
      obtain rfl := Option.some.inj (he.symm.trans he')
      have hblock := Merge.plain_served hS he (feed_notMem_of_anchor? hcut)
      have hread := Lines.map_trim_lines_render
        (writable_of_anchor? hcut hblock.noFeed hblock.last side)
      exact (isPresent_congr (Block.written_congr hread) rfl).trans
        (Merge.isPresent_beside _ _ _ _ _)

/-! ## Merges and insertions after it -/

/-- A snippet that a file holds is put in at no marker of it, at whatever moment
of the merge the marker is passed. -/
theorem done_step_of_isPresent {S : SnippetMap} (hS : S.Plain) {ls : List Text} {b : Block}
    (hb : b.Plain) (h : isPresent ls b = true) {s : Merge.State} {line : Text} {rest : List Text}
    (hreached : Merge.Reached S .initial ls s (line :: rest)) {key : Text} {p : Position}
    (hline : Marker.ofLine? line = some (.add key p)) {e : Text × Block}
    (he : S.resolve? key = some e) (hsame : e.2 = b) :
    (s.step S line rest).done = s.done ++ [line] := by
  have hstart : isPresent (Merge.State.initial.file ls) b = true := h
  have hpresent : isPresent (s.file (line :: rest)) b = true :=
    hreached.invariant (P := fun s rest => isPresent (s.file rest) b = true)
      (fun hpart hpass => hpass.isPresent hS hb hpart) hstart
  generalize hs' : s.step S line rest = s'
  cases Merge.Pass.of_step hs' with
  | plain => rfl
  | again => rfl
  | content => rfl
  | @served key' _ e' hline' _ he' hmissing =>
      obtain ⟨rfl, rfl⟩ : key = key' ∧ p = _ := by simpa using hline.symm.trans hline'
      obtain rfl := Option.some.inj (he.symm.trans he')
      rw [← Merge.State.file, hsame, hpresent] at hmissing
      exact absurd hmissing (by simp)

/-- One insertion of lines is the last one of its snippet: the file holds the
snippet, and neither an insertion nor a merge puts it in again. -/
theorem insertLines_at_most_once {template content : Text} {a : Anchor} {side : Position}
    {e : Text × Block} (he : (SnippetMap.ofText template).resolve? a.key = some e)
    (hchanged : (apply content (SnippetMap.ofText template) (linesAt a side)).changed = true) :
    let S := SnippetMap.ofText template
    let r := (apply content S (linesAt a side)).content
    isPresent r.lines e.2 = true ∧
      (∀ a' side' e', S.resolve? a'.key = some e' → e'.2 = e.2 →
        apply r S (linesAt a' side') = .same r) ∧
      ∀ s line rest, Merge.Reached S .initial r.lines s (line :: rest) →
        ∀ key p e', Marker.ofLine? line = some (.add key p) → S.resolve? key = some e' →
          e'.2 = e.2 → (s.step S line rest).done = s.done ++ [line] := by
  intro S r
  have hS : S.Plain := SnippetMap.plain_ofText template
  have hr : r = (insertLines content a S side).content :=
    congrArg Outcome.content (apply_linesAt content S a side)
  have hpresent : isPresent r.lines e.2 = true := by
    rw [apply_linesAt] at hchanged
    rw [hr]
    exact isPresent_of_insertLines hS he hchanged
  refine ⟨hpresent, ?_, ?_⟩
  · intro a' side' e' he' hsame
    rw [apply_linesAt]
    exact insertLines_of_isPresent he' (hsame ▸ hpresent) side'
  · intro s line rest hreached key p e' hline he' hsame
    exact done_step_of_isPresent hS (hS.of_resolve? he) hpresent hreached hline he' hsame

/-- Three spellings of one key: inserted at the first, not again at another anchor
and not at a marker. -/
theorem insertLines_once_of_spellings :
    let S := SnippetMap.ofText "// START OF FooBar\nf()\n// END OF FooBar\n".toList
    let r := apply "x = 1\n// ADD FOO_BAR ABOVE\n".toList S
      (linesAt ⟨"x".toList, "foo-bar".toList, .last⟩ .below)
    let marker : Text := "// ADD FOO_BAR ABOVE".toList
    let s := (Merge.State.initial.step S "x = 1".toList ["f()".toList, marker]).step S
      "f()".toList [marker]
    r.changed = true ∧ isPresent r.content.lines ["f()".toList] = true ∧
      apply r.content S (linesAt ⟨"1".toList, "FooBar".toList, .first⟩ .above) =
        .same r.content ∧
      (s.step S marker []).done = s.done ++ [marker] := by
  intro S r marker s
  have hchanged : r.changed = true := by decide +kernel
  have hlines : r.content.lines = ["x = 1".toList, "f()".toList, marker] := by decide +kernel
  obtain ⟨hpresent, hedit, hmerge⟩ := insertLines_at_most_once
    (e := ("FooBar".toList, ["f()".toList])) (by decide +kernel) hchanged
  have hreached : Merge.Reached S .initial r.content.lines s [marker] := by
    rw [hlines]
    exact .step (.step .start)
  exact ⟨hchanged, hpresent, hedit _ _ _ (by decide +kernel) rfl,
    hmerge s marker [] hreached "FOO_BAR".toList .above _ (by decide +kernel)
      (by decide +kernel) rfl⟩

end Edit

end Scaffold
