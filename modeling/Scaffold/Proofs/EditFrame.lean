/-
# What an edit leaves alone

An edit that works by lines cuts the lines of a file into `before ++ old ++ after`
and writes `before ++ fresh ++ after` in the manner of the file (`Plan`):

    edit      old                               fresh
    lines     none, beside the anchor           the snippet
    marker    none, beside the anchor           the marker line
    inline    the anchor line                   the line with the snippet in it
    range     the anchor to the closing line    the snippet

where snippets and marker lines get the indentation of the anchor.  The anchor is
the first or the last line that contains the target and is no marker
(`Cut.AtAnchor`), and a closing line is the first one behind it.

A plan that is idle is not carried out: what it would bring in is there already,
or a guard forbids it.  An edit without a plan, or with an idle one, returns the
content as it is, and every other one carries out its plan (`apply_carries_out_plan`).
The exception is `conditionalReplace`, which does not know of lines.
-/
import Scaffold.Proofs.AddedMarkers
import Scaffold.Proofs.LineInsertion
import Scaffold.Proofs.Replacements

namespace Scaffold

open Text (indentation)

/-! ## Places -/

/-- A text is found first where no other place of it begins further in front. -/
theorem Text.splitFirst?_eq_some_iff {needle t b a : Text} (hne : needle ≠ []) :
    splitFirst? needle t = some (b, a) ↔
      t = b ++ needle ++ a ∧ ¬ needle <:+: b ++ needle.dropLast := by
  constructor
  · intro h
    exact ⟨eq_of_splitFirst? h, not_infix_of_splitFirst? hne h⟩
  · rintro ⟨rfl, h⟩
    rw [List.append_assoc]
    exact splitFirst?_append hne h a

namespace Edit

/-- The cut is at the first or the last line that contains the text, which is not
empty, and is no marker. -/
structure Cut.AtAnchor (c : Cut) (target : Text) (occurrence : Occurrence) (ls : List Text) :
    Prop where
  asked : target ≠ []
  lines : c.before ++ c.line :: c.after = ls
  contains : target <:+: c.line
  plain : Marker.isMarker c.line = false
  passed : ∀ l ∈ c.passed occurrence, target <:+: l → Marker.isMarker l = true

theorem Cut.atAnchor_iff {c : Cut} {target : Text} {occurrence : Occurrence} {ls : List Text} :
    c.AtAnchor target occurrence ls ↔ anchor? target occurrence ls = some c := by
  have hother : ∀ l, isAnchor target l = false ↔ (target <:+: l → Marker.isMarker l = true) := by
    intro l
    rw [← Bool.not_eq_true, isAnchor_iff, not_and, Bool.not_eq_false]
  rw [anchor?_eq_some_iff]
  constructor
  · rintro ⟨hasked, hlines, hcontains, hplain, hpassed⟩
    exact ⟨hasked, hlines, isAnchor_iff.2 ⟨hcontains, hplain⟩,
      fun l hl => (hother l).2 (hpassed l hl)⟩
  · rintro ⟨hasked, hlines, hline, hpassed⟩
    obtain ⟨hcontains, hplain⟩ := isAnchor_iff.1 hline
    exact ⟨hasked, hlines, hcontains, hplain, fun l hl => (hother l).1 (hpassed l hl)⟩

/-- The cut is at the first line that contains the text, which is not empty. -/
structure Cut.AtClosing (c : Cut) (stop : Text) (ls : List Text) : Prop where
  asked : stop ≠ []
  lines : c.before ++ c.line :: c.after = ls
  contains : stop <:+: c.line
  passed : ∀ l ∈ c.before, ¬ stop <:+: l

theorem Cut.atClosing_iff {c : Cut} {stop : Text} {ls : List Text} :
    c.AtClosing stop ls ↔ cutFirst? (closes stop) ls = some c := by
  rw [cutFirst?_eq_some_iff]
  constructor
  · rintro ⟨hasked, hlines, hcontains, hpassed⟩
    refine ⟨hlines, closes_iff.2 ⟨hasked, hcontains⟩, fun l hl => ?_⟩
    exact Bool.eq_false_iff.2 fun hcloses => hpassed l hl (closes_iff.1 hcloses).2
  · rintro ⟨hlines, hline, hpassed⟩
    obtain ⟨hasked, hcontains⟩ := closes_iff.1 hline
    refine ⟨hasked, hlines, hcontains, fun l hl hrun => ?_⟩
    exact absurd ((hpassed l hl).symm.trans (closes_iff.2 ⟨hasked, hrun⟩)) Bool.false_ne_true

end Edit

/-! ## Plans -/

/-- Lines that are to come in the place of others. -/
structure Plan where
  before : List Text
  old : List Text
  fresh : List Text
  after : List Text
  /-- There is nothing to do. -/
  idle : Prop

namespace Plan

open Edit (Cut Beside closes isGuarded inLine oneLine)

/-- New lines above or below the line of a cut. -/
def beside (c : Cut) (fresh : List Text) (idle : Prop) : Position → Plan
  | .above => ⟨c.before, [], fresh, c.line :: c.after, idle⟩
  | .below => ⟨c.before ++ [c.line], [], fresh, c.after, idle⟩

variable (content : Text) (S : SnippetMap)

/-- The snippet goes beside the anchor, unless the file holds it. -/
inductive OfLines (a : Anchor) (side : Position) : Plan → Prop
  | intro {e : Text × Block} {cut : Cut} (meant : S.resolve? a.key = some e)
      (anchor : cut.AtAnchor a.target a.occurrence content.lines) :
      OfLines a side (beside cut (e.2.indentBy (indentation cut.line))
        (isPresent content.lines e.2 = true) side)

/-- The snippet goes, as one text and with one space, right beside the first place
of the target in the anchor line, unless it has no text or stands there. -/
inductive OfInline (a : Anchor) (side : Position) : Plan → Prop
  | intro {e : Text × Block} {cut : Cut} {head tail : Text} (meant : S.resolve? a.key = some e)
      (anchor : cut.AtAnchor a.target a.occurrence content.lines)
      (split : cut.line = head ++ a.target ++ tail)
      (first : ¬ a.target <:+: head ++ a.target.dropLast) :
      OfInline a side ⟨cut.before, [cut.line], [inLine (oneLine e.2) a.target head tail side],
        cut.after, oneLine e.2 = [] ∨ Beside (oneLine e.2) a.target cut.line side⟩

/-- The marker goes beside the anchor, unless the file has one of its key. -/
inductive OfMarker (a : Anchor) (side : Position) : Plan → Prop
  | intro {cut : Cut} (anchor : cut.AtAnchor a.target a.occurrence content.lines) :
      OfMarker a side (beside cut [Marker.addLine (indentation cut.line) a.key side]
        (Marker.hasAdd content a.key = true) side)

/-- The snippet takes the place of the range, unless the guard holds or the range
is the snippet. -/
inductive OfRange (r : AnchorRange) : Plan → Prop
  | intro {e : Text × Block} {cut closing : Cut} (meant : S.resolve? r.key = some e)
      (anchor : cut.AtAnchor r.start r.occurrence content.lines)
      (closing_at : closing.AtClosing r.stop cut.after) :
      OfRange r ⟨cut.before, cut.range closing, e.2.indentBy (indentation cut.line),
        closing.after, isGuarded content r.requireAbsent = true ∨
          (cut.range closing).map Text.trim = e.2.map Text.trim⟩

/-- The plans of an edit. -/
def Of : Edit → Plan → Prop
  | .insertBeforeLine a => OfLines content S a .above
  | .insertAfterLine a => OfLines content S a .below
  | .insertBeforeInline a => OfInline content S a .above
  | .insertAfterInline a => OfInline content S a .below
  | .addMarkerAboveTarget a => OfMarker content a .above
  | .addMarkerBelowTarget a => OfMarker content a .below
  | .replaceBetweenAnchors r => OfRange content S r
  | .conditionalReplace _ => fun _ => False

/-- The outcome is the content as it is, where every plan is idle, or what comes
of a plan that is not. -/
def Settles (plans : Plan → Prop) (o : Outcome) : Prop :=
  (o = .same content ∧ ∀ p, plans p → p.idle) ∨
    ∃ p, plans p ∧ ¬ p.idle ∧ content.lines = p.before ++ p.old ++ p.after ∧
      o = .edited ((Lines.ofText content).render (p.before ++ p.fresh ++ p.after))

variable {content S}

theorem lines_beside {c : Cut} {ls : List Text} (h : c.before ++ c.line :: c.after = ls)
    (fresh : List Text) (idle : Prop) (side : Position) :
    ls = (beside c fresh idle side).before ++ (beside c fresh idle side).old ++
      (beside c fresh idle side).after := by
  cases side with
  | above => rw [← h]; simp [beside]
  | below => rw [← h]; simp [beside]

theorem result_beside (c : Cut) (fresh : List Text) (idle : Prop) (side : Position) :
    (beside c fresh idle side).before ++ (beside c fresh idle side).fresh ++
      (beside c fresh idle side).after = c.before ++ Merge.beside c.line fresh side ++ c.after := by
  cases side with
  | above => simp [beside, Merge.beside]
  | below => simp [beside, Merge.beside]

theorem idle_beside (c : Cut) (fresh : List Text) (idle : Prop) (side : Position) :
    (beside c fresh idle side).idle = idle := by
  cases side <;> rfl

theorem settles_insertLines (a : Anchor) (side : Position) :
    Settles content (OfLines content S a side) (Edit.insertLines content a S side) := by
  generalize ho : Edit.insertLines content a S side = o
  cases ho ▸ Edit.linesGo_insertLines content a S side with
  | missing h =>
      refine .inl ⟨rfl, fun p hp => ?_⟩
      cases hp with
      | @intro e cut meant anchor =>
          exact absurd (Cut.atAnchor_iff.1 anchor) (h e cut meant)
  | @present e he hpresent =>
      refine .inl ⟨rfl, fun p hp => ?_⟩
      cases hp with
      | intro meant anchor =>
          obtain rfl := Option.some.inj (he.symm.trans meant)
          rw [idle_beside]
          exact hpresent
  | @inserted e cut he hcut hmissing =>
      have hanchor := Cut.atAnchor_iff.2 hcut
      refine .inr ⟨_, .intro he hanchor, ?_, lines_beside hanchor.lines _ _ _, ?_⟩
      · rw [idle_beside, hmissing]
        exact Bool.false_ne_true
      · rw [result_beside]

theorem settles_addMarker (a : Anchor) (side : Position) :
    Settles content (OfMarker content a side) (Edit.addMarker content a side) := by
  generalize ho : Edit.addMarker content a side = o
  cases ho ▸ Edit.markerGo_addMarker content a side with
  | kept h =>
      refine .inl ⟨rfl, fun p hp => ?_⟩
      cases hp with
      | intro anchor =>
          rw [idle_beside]
          refine h.resolve_right fun hnone => ?_
          exact absurd (hnone.symm.trans (Cut.atAnchor_iff.1 anchor)) (by simp)
  | @added cut hnew hcut =>
      have hanchor := Cut.atAnchor_iff.2 hcut
      refine .inr ⟨_, .intro hanchor, ?_, lines_beside hanchor.lines _ _ _, ?_⟩
      · rw [idle_beside, hnew]
        exact Bool.false_ne_true
      · rw [result_beside, Edit.withMarker]

theorem settles_insertInline (a : Anchor) (side : Position) :
    Settles content (OfInline content S a side) (Edit.insertInline content a S side) := by
  generalize ho : Edit.insertInline content a S side = o
  cases ho ▸ Edit.inlineGo_insertInline content a S side with
  | kept h =>
      refine .inl ⟨rfl, fun p hp => ?_⟩
      cases hp with
      | @intro e cut head tail meant anchor split first =>
          by_cases hink : oneLine e.2 = []
          · exact .inl hink
          · have hline : Edit.anchorLine? a.target a.occurrence content.lines = some cut.line :=
              Option.map_eq_some_iff.2 ⟨cut, Cut.atAnchor_iff.1 anchor, rfl⟩
            exact .inr (h e cut.line meant hline hink)
  | @inserted e cut head tail h =>
      have hanchor := Cut.atAnchor_iff.2 h.anchor
      obtain ⟨hsplit, hfirst⟩ := (Text.splitFirst?_eq_some_iff hanchor.asked).1 h.split
      refine .inr ⟨_, .intro h.meant hanchor hsplit hfirst, ?_, ?_, ?_⟩
      · exact fun hidle => hidle.elim h.ink h.apart
      · rw [← hanchor.lines]
        simp
      · simp

theorem settles_replaceRange (r : AnchorRange) :
    Settles content (OfRange content S r) (Edit.replaceRange content r S) := by
  generalize ho : Edit.replaceRange content r S = o
  cases ho ▸ Edit.rangeGo_replaceRange content r S with
  | kept h =>
      refine .inl ⟨rfl, fun p hp => ?_⟩
      cases hp with
      | @intro e cut closing meant anchor closing_at =>
          refine h.imp_right fun hall => Block.sameTrimmed_iff.1 (hall e _ meant ?_)
          exact Edit.range?_eq_some_iff.2 ⟨cut, closing, Cut.atAnchor_iff.1 anchor,
            Cut.atClosing_iff.1 closing_at, rfl⟩
  | @replaced e cut closing h =>
      refine .inr ⟨_, .intro h.meant (Cut.atAnchor_iff.2 h.anchor) (Cut.atClosing_iff.2 h.stop),
        ?_, h.cut_lines.symm, rfl⟩
      rintro (hguard | hsame)
      · exact absurd (h.free.symm.trans hguard) Bool.false_ne_true
      · exact absurd (h.apart.symm.trans (Block.sameTrimmed_iff.2 hsame)) Bool.false_ne_true

end Plan

namespace Edit

/-! ## Edits by lines -/

/-- An edit by lines returns the content as it is, and then it has no plan but
idle ones, or it writes the lines of the file with those of its plan in the place
of others, and all else where it was. -/
theorem apply_carries_out_plan (content : Text) (S : SnippetMap) {e : Edit}
    (h : ∀ r, e ≠ .conditionalReplace r) :
    (apply content S e = .same content ∧ ∀ p, Plan.Of content S e p → p.idle) ∨
      ∃ p, Plan.Of content S e p ∧ ¬ p.idle ∧
        content.lines = p.before ++ p.old ++ p.after ∧
        apply content S e =
          .edited ((Lines.ofText content).render (p.before ++ p.fresh ++ p.after)) := by
  cases e with
  | insertBeforeLine a => exact Plan.settles_insertLines a .above
  | insertAfterLine a => exact Plan.settles_insertLines a .below
  | insertBeforeInline a => exact Plan.settles_insertInline a .above
  | insertAfterInline a => exact Plan.settles_insertInline a .below
  | addMarkerAboveTarget a => exact Plan.settles_addMarker a .above
  | addMarkerBelowTarget a => exact Plan.settles_addMarker a .below
  | replaceBetweenAnchors r => exact Plan.settles_replaceRange r
  | conditionalReplace r => exact absurd rfl (h r)

/-- The last range of a file with carriage returns is replaced and the first one
stays. -/
theorem apply_carries_out_plan_at_last :
    let content : Text := "do\r\nend\r\n  do\r\n  end".toList
    let S := SnippetMap.ofText "// START OF BODY\nx\ny\n// END OF BODY\n".toList
    let e := Edit.replaceBetweenAnchors ⟨"do".toList, "end".toList, "body".toList, .last, none⟩
    (∀ r, e ≠ .conditionalReplace r) ∧
      apply content S e = .edited "do\r\nend\r\n  x\r\n  y".toList ∧
      ∃ p, Plan.Of content S e p ∧ ¬ p.idle ∧ content.lines = p.before ++ p.old ++ p.after ∧
        apply content S e =
          .edited ((Lines.ofText content).render (p.before ++ p.fresh ++ p.after)) := by
  intro content S e
  have hrange : ∀ r, e ≠ .conditionalReplace r := fun r => Edit.noConfusion
  have hresult : apply content S e = .edited "do\r\nend\r\n  x\r\n  y".toList := by
    decide +kernel
  refine ⟨hrange, hresult, ?_⟩
  rcases apply_carries_out_plan content S hrange with ⟨hsame, -⟩ | hplan
  · exact absurd (hresult.symm.trans hsame) (by decide +kernel)
  · exact hplan

end Edit

end Scaffold
