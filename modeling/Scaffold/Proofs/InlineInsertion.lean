/-
# When an insertion within a line is repeated

An insertion within a line looks at one place only, the first place of the
target in the anchor line, and puts its text there unless it stands there
already.  The next run looks at the first place again, in the line as it is now,
if that line is the anchor still:

    behind the target     the first place is where it was, and the text is seen
    in front of it        an earlier place may have come with the text, or
                          between the text and what stands before it
    the line is a marker  it is no anchor any more, and the next fitting line is
                          taken for one

`insertInline_again_iff` says exactly when the second run changes nothing.
-/
import Scaffold.Proofs.AnchorLaws

namespace Scaffold

namespace Text

/-! ## The first place -/

theorem not_infix_dropLast {needle : Text} (h : needle ≠ []) : ¬ needle <:+: needle.dropLast := by
  intro hrun
  have hle := hrun.length_le
  have hpos := List.length_pos_iff.2 h
  rw [List.length_dropLast] at hle
  omega

/-- Where a text can begin does not hang on what stands behind as much text as
it has, less one character. -/
theorem prefix_cons_append_iff {needle b : Text} (c : Char) (a : Text) :
    needle <+: c :: (b ++ (needle ++ a)) ↔ needle <+: c :: (b ++ needle.dropLast) := by
  have hprefix : c :: (b ++ needle.dropLast) <+: c :: (b ++ (needle ++ a)) := by
    rw [List.cons_prefix_cons]
    exact ⟨rfl, (List.prefix_append_right_inj b).2
      ((List.dropLast_prefix needle).trans (List.prefix_append needle a))⟩
  constructor
  · intro h
    refine List.prefix_of_prefix_length_le h hprefix ?_
    simp only [List.length_cons, List.length_append, List.length_dropLast]
    omega
  · exact fun h => h.trans hprefix

/-- A text is found first where no other place of it begins further in front. -/
theorem splitFirst?_append {needle b : Text} (hne : needle ≠ [])
    (h : ¬ needle <:+: b ++ needle.dropLast) (a : Text) :
    splitFirst? needle (b ++ (needle ++ a)) = some (b, a) := by
  induction b with
  | nil =>
      obtain ⟨c, r, rfl⟩ := List.exists_cons_of_ne_nil hne
      have hp : (c :: r).isPrefixOf (c :: r ++ a) = true :=
        List.isPrefixOf_iff_prefix.2 (List.prefix_append _ _)
      rw [List.nil_append, List.cons_append, splitFirst?, ← List.cons_append, if_pos hp,
        List.drop_left]
  | cons c r ih =>
      rw [List.cons_append, List.infix_cons_iff, not_or] at h
      have hp : ¬ needle <+: c :: (r ++ (needle ++ a)) := mt (prefix_cons_append_iff c a).1 h.1
      rw [List.cons_append, splitFirst?, if_neg (mt List.isPrefixOf_iff_prefix.1 hp), ih h.2]
      rfl

theorem not_infix_of_splitFirst? {needle t b a : Text} (hne : needle ≠ [])
    (h : splitFirst? needle t = some (b, a)) : ¬ needle <:+: b ++ needle.dropLast := by
  induction t generalizing b with
  | nil => exact absurd h (by simp [splitFirst?, hne])
  | cons c r ih =>
      rw [splitFirst?] at h
      split at h
      next =>
        obtain ⟨rfl, -⟩ := Prod.mk.inj (Option.some.inj h)
        exact not_infix_dropLast hne
      next hp =>
        obtain ⟨⟨b', a'⟩, hr, heq⟩ := Option.map_eq_some_iff.1 h
        obtain ⟨rfl, rfl⟩ := Prod.mk.inj heq
        have hsplit := eq_of_splitFirst? hr
        rw [List.append_assoc] at hsplit
        rw [hsplit, List.isPrefixOf_iff_prefix, prefix_cons_append_iff] at hp
        rw [List.cons_append, List.infix_cons_iff, not_or]
        exact ⟨hp, ih hr⟩

theorem exists_splitFirst? {needle t : Text} (h : needle <:+: t) :
    ∃ b a, splitFirst? needle t = some (b, a) := by
  induction t with
  | nil => exact ⟨[], [], by simp [splitFirst?, List.eq_nil_of_infix_nil h]⟩
  | cons c r ih =>
      rw [splitFirst?]
      split
      next => exact ⟨_, _, rfl⟩
      next hp =>
        rw [List.isPrefixOf_iff_prefix] at hp
        obtain ⟨b, a, hr⟩ := ih ((List.infix_cons_iff.1 h).resolve_left hp)
        exact ⟨c :: b, a, by rw [hr]; rfl⟩

end Text

namespace Edit

/-! ## One insertion -/

/-- The text stands right beside the first place of the target, blanks aside. -/
def Beside (text target line : Text) (side : Position) : Prop :=
  ∃ head tail, Text.splitFirst? target line = some (head, tail) ∧
    match side with
    | .above => text <:+ Text.trimRight head
    | .below => text <+: Text.trimLeft tail

/-- The target between `head` and `tail`, with the text put beside it. -/
def inLine (text target head tail : Text) : Position → Text
  | .above => head ++ text ++ ' ' :: (target ++ tail)
  | .below => head ++ target ++ ' ' :: (text ++ tail)

/-- A snippet as one text. -/
def oneLine (b : Block) : Text :=
  Text.collapse (List.intercalate [' '] b)

/-- What an insertion that changes a file has found. -/
structure InsertsInline (content : Text) (a : Anchor) (S : SnippetMap) (side : Position)
    (e : Text × Block) (cut : Cut) (head tail : Text) : Prop where
  meant : S.resolve? a.key = some e
  anchor : anchor? a.target a.occurrence content.lines = some cut
  ink : oneLine e.2 ≠ []
  split : Text.splitFirst? a.target cut.line = some (head, tail)
  apart : ¬ Beside (oneLine e.2) a.target cut.line side

/-- The ways an insertion within a line can go. -/
inductive InlineGo (content : Text) (a : Anchor) (S : SnippetMap) (side : Position) :
    Outcome → Prop
  | kept (h : ∀ e line, S.resolve? a.key = some e →
      anchorLine? a.target a.occurrence content.lines = some line → oneLine e.2 ≠ [] →
      Beside (oneLine e.2) a.target line side) : InlineGo content a S side (.same content)
  | inserted {e : Text × Block} {cut : Cut} {head tail : Text}
      (h : InsertsInline content a S side e cut head tail) :
      InlineGo content a S side (.edited ((Lines.ofText content).render
        (cut.before ++ inLine (oneLine e.2) a.target head tail side :: cut.after)))

section Line

variable {text target line : Text} {side : Position}

theorem insertInLine?_of_beside (h : Beside text target line side) :
    insertInLine? text target line side = none := by
  obtain ⟨head, tail, hsplit, hside⟩ := h
  rw [insertInLine?, hsplit]
  cases side with
  | above => exact if_pos (List.isSuffixOf_iff_suffix.2 hside)
  | below => exact if_pos (List.isPrefixOf_iff_prefix.2 hside)

theorem insertInLine?_of_apart {head tail : Text}
    (hsplit : Text.splitFirst? target line = some (head, tail))
    (h : ¬ Beside text target line side) :
    insertInLine? text target line side = some (inLine text target head tail side) := by
  rw [insertInLine?, hsplit]
  cases side with
  | above =>
      refine if_neg fun hside => h ⟨head, tail, hsplit, List.isSuffixOf_iff_suffix.1 hside⟩
  | below =>
      refine if_neg fun hside => h ⟨head, tail, hsplit, List.isPrefixOf_iff_prefix.1 hside⟩

end Line

section Insertion

variable {content : Text} {a : Anchor} {S : SnippetMap} {e : Text × Block} {cut : Cut}

theorem insertInline_of_found (he : S.resolve? a.key = some e)
    (hcut : anchor? a.target a.occurrence content.lines = some cut) (side : Position) :
    insertInline content a S side =
      if oneLine e.2 = [] then .same content
      else
        match insertInLine? (oneLine e.2) a.target cut.line side with
        | none => .same content
        | some line =>
          .edited ((Lines.ofText content).render (cut.before ++ line :: cut.after)) := by
  simp only [insertInline, he, Lines.lines_ofText, hcut, oneLine, List.isEmpty_iff]
  rfl

end Insertion

theorem inlineGo_insertInline (content : Text) (a : Anchor) (S : SnippetMap) (side : Position) :
    InlineGo content a S side (insertInline content a S side) := by
  cases he : S.resolve? a.key with
  | none =>
      have hsame : insertInline content a S side = .same content := by
        rw [insertInline, he]
      rw [hsame]
      exact .kept fun e line he' => absurd (he.symm.trans he') (by simp)
  | some e =>
      cases hcut : anchor? a.target a.occurrence content.lines with
      | none =>
          have hsame : insertInline content a S side = .same content := by
            rw [insertInline, he, Lines.lines_ofText, hcut]
          rw [hsame]
          exact .kept fun e line _ hline => absurd hline (by simp [anchorLine?, hcut])
      | some cut =>
          have honly : ∀ {e' line}, S.resolve? a.key = some e' →
              anchorLine? a.target a.occurrence content.lines = some line →
              e = e' ∧ cut.line = line := by
            intro e' line he' hline
            rw [anchorLine?, hcut] at hline
            exact ⟨Option.some.inj (he.symm.trans he'), Option.some.inj hline⟩
          rw [insertInline_of_found he hcut]
          split
          next hnil =>
            refine .kept fun e' line he' hline hink => ?_
            obtain ⟨rfl, rfl⟩ := honly he' hline
            exact absurd hnil hink
          next hink =>
            by_cases hbeside : Beside (oneLine e.2) a.target cut.line side
            · rw [insertInLine?_of_beside hbeside]
              refine .kept fun e' line he' hline _ => ?_
              obtain ⟨rfl, rfl⟩ := honly he' hline
              exact hbeside
            · obtain ⟨head, tail, hsplit⟩ :=
                Text.exists_splitFirst? (isAnchor_iff.1 (anchor?_eq_some_iff.1 hcut).2.line).1
              rw [insertInLine?_of_apart hsplit hbeside]
              exact .inserted ⟨he, hcut, hink, hsplit, hbeside⟩

/-- Nothing is inserted exactly where nothing is found or the text stands beside
the target. -/
theorem insertInline_eq_same_iff {content : Text} {a : Anchor} {S : SnippetMap} {side : Position} :
    insertInline content a S side = .same content ↔
      ∀ e line, S.resolve? a.key = some e →
        anchorLine? a.target a.occurrence content.lines = some line → oneLine e.2 ≠ [] →
        Beside (oneLine e.2) a.target line side := by
  generalize hr : insertInline content a S side = r
  have hgo := hr ▸ inlineGo_insertInline content a S side
  cases hgo with
  | kept h => exact ⟨fun _ => h, fun _ => rfl⟩
  | @inserted e cut head tail h =>
      refine ⟨fun heq => ?_, fun hall => ?_⟩
      · exact absurd (congrArg Outcome.changed heq) (by simp [Outcome.edited, Outcome.same])
      · have hline : anchorLine? a.target a.occurrence content.lines = some cut.line :=
          Option.map_eq_some_iff.2 ⟨cut, h.anchor, rfl⟩
        exact absurd (hall e cut.line h.meant hline h.ink) h.apart

/-! ## The line that was written -/

theorem target_infix_inLine (text target head tail : Text) (side : Position) :
    target <:+: inLine text target head tail side := by
  cases side with
  | above => exact ⟨head ++ text ++ [' '], tail, by simp [inLine]⟩
  | below => exact ⟨head, ' ' :: (text ++ tail), by simp [inLine]⟩

section Written

variable {b : Block} {target line head tail : Text}

/-- Behind the target the text is seen again. -/
theorem beside_inLine_below (hink : oneLine b ≠ []) (htarget : target ≠ [])
    (h : Text.splitFirst? target line = some (head, tail)) :
    Beside (oneLine b) target (inLine (oneLine b) target head tail .below) .below := by
  obtain ⟨c, s, hcons, hc⟩ := Text.exists_cons_collapse hink
  refine ⟨head, ' ' :: (oneLine b ++ tail), ?_, ?_⟩
  · rw [inLine, List.append_assoc]
    exact Text.splitFirst?_append htarget (Text.not_infix_of_splitFirst? htarget h) _
  · have htrim : Text.trimLeft (' ' :: (oneLine b ++ tail)) = oneLine b ++ tail := by
      rw [oneLine, hcons, List.cons_append, Text.trimLeft, List.dropWhile_cons_of_pos (by decide),
        List.dropWhile_cons_of_neg (by simp [hc])]
    rw [htrim]
    exact List.prefix_append _ _

/-- In front of it the text is seen again if no other place has come up. -/
theorem beside_inLine_above (hink : oneLine b ≠ []) (htarget : target ≠ [])
    (h : ¬ target <:+: head ++ oneLine b ++ ' ' :: target.dropLast) :
    Beside (oneLine b) target (inLine (oneLine b) target head tail .above) .above := by
  obtain ⟨s, c, hconcat, hc⟩ := Text.exists_concat_collapse hink
  refine ⟨head ++ oneLine b ++ [' '], tail, ?_, ?_⟩
  · rw [List.append_cons] at h
    rw [inLine, List.append_cons]
    exact Text.splitFirst?_append htarget h tail
  · have htrim : Text.trimRight (head ++ oneLine b ++ [' ']) = head ++ oneLine b := by
      rw [Text.trimRight_append_of_blank _ (by decide), oneLine, hconcat, ← List.append_assoc]
      simp [Text.trimRight, hc]
    rw [htrim]
    exact List.suffix_append _ _

/-- The line that is written can be read again as it is. -/
theorem feed_notMem_inLine (hline : '\n' ∉ line)
    (h : Text.splitFirst? target line = some (head, tail)) (side : Position) :
    '\n' ∉ inLine (oneLine b) target head tail side := by
  have htext : '\n' ∉ oneLine b := by
    intro hm
    rcases Text.mem_collapse hm with h | h
    · exact absurd h (by decide)
    · exact absurd h (by decide)
  rw [Text.eq_of_splitFirst? h] at hline
  simp only [List.mem_append, not_or] at hline
  cases side with
  | above => simp [inLine, hline, htext]
  | below => simp [inLine, hline, htext]

/-- It ends with a carriage return only where the anchor line did. -/
theorem return_of_inLine (hink : oneLine b ≠ []) (htarget : target ≠ [])
    (h : Text.splitFirst? target line = some (head, tail)) (side : Position)
    (hreturn : (inLine (oneLine b) target head tail side).getLast? = some '\r') :
    line.getLast? = some '\r' := by
  rw [Text.eq_of_splitFirst? h]
  rcases List.eq_nil_or_concat tail with rfl | ⟨u, d, rfl⟩
  · rw [List.append_nil]
    cases side with
    | above =>
        obtain ⟨v, d, rfl⟩ := (List.eq_nil_or_concat target).resolve_left htarget
        simpa [inLine, List.getLast?_append, List.getLast?_cons] using hreturn
    | below =>
        obtain ⟨s, c, hconcat, hc⟩ := Text.exists_concat_collapse hink
        obtain rfl : c = '\r' := by
          simpa [inLine, oneLine, hconcat, List.getLast?_append, List.getLast?_cons] using hreturn
        exact absurd hc (by decide)
  · cases side with
    | above => simpa [inLine, List.getLast?_append, List.getLast?_cons] using hreturn
    | below => simpa [inLine, List.getLast?_append, List.getLast?_cons] using hreturn

end Written

/-- The lines of the file that was written. -/
theorem InsertsInline.lines {content : Text} {a : Anchor} {S : SnippetMap} {side : Position}
    {e : Text × Block} {cut : Cut} {head tail : Text}
    (h : InsertsInline content a S side e cut head tail) :
    ((Lines.ofText content).render
      (cut.before ++ inLine (oneLine e.2) a.target head tail side :: cut.after)).lines =
      cut.before ++ inLine (oneLine e.2) a.target head tail side :: cut.after := by
  have htarget := (anchor?_eq_some_iff.1 h.anchor).1
  have hfeed := feed_notMem_of_anchor? h.anchor
  refine Lines.lines_render_of_exact ((exact_of_anchor? h.anchor).replace
    (feed_notMem_inLine hfeed h.split side) ?_
    (return_of_inLine h.ink htarget h.split side))
  intro hnil
  have hrun := target_infix_inLine (oneLine e.2) a.target head tail side
  rw [hnil] at hrun
  exact htarget (List.eq_nil_of_infix_nil hrun)

/-! ## The next run -/

/-- The next run has nothing to do: the text stands beside the target in the line
that was written or, if that is a marker now, in the line that is the anchor
without it. -/
def Settled (a : Anchor) (side : Position) (text : Text) (cut : Cut) (line : Text) : Prop :=
  if Marker.isMarker line then
    ∀ l, anchorLine? a.target a.occurrence (cut.before ++ cut.after) = some l →
      Beside text a.target l side
  else Beside text a.target line side

section Again

variable {content : Text} {a : Anchor} {S : SnippetMap} {side : Position} {e : Text × Block}
  {cut : Cut} {head tail : Text}

theorem InsertsInline.unique {e' : Text × Block} {cut' : Cut} {head' tail' : Text}
    (h : InsertsInline content a S side e cut head tail)
    (h' : InsertsInline content a S side e' cut' head' tail') :
    e = e' ∧ cut = cut' ∧ head = head' ∧ tail = tail' := by
  obtain rfl := Option.some.inj (h.meant.symm.trans h'.meant)
  obtain rfl := Option.some.inj (h.anchor.symm.trans h'.anchor)
  obtain ⟨rfl, rfl⟩ := Prod.mk.inj (Option.some.inj (h.split.symm.trans h'.split))
  exact ⟨rfl, rfl, rfl, rfl⟩

theorem InsertsInline.again_iff (h : InsertsInline content a S side e cut head tail) :
    let r := (Lines.ofText content).render
      (cut.before ++ inLine (oneLine e.2) a.target head tail side :: cut.after)
    insertInline r a S side = .same r ↔
      Settled a side (oneLine e.2) cut (inLine (oneLine e.2) a.target head tail side) := by
  intro r
  have hrun := target_infix_inLine (oneLine e.2) a.target head tail side
  have hlines : r.lines = _ := h.lines
  rw [insertInline_eq_same_iff, hlines, Settled]
  split
  next hmarker =>
    have hother : isAnchor a.target (inLine (oneLine e.2) a.target head tail side) = false := by
      simp [isAnchor, hmarker]
    rw [anchorLine?_of_other hother]
    constructor
    · intro hall l hl
      exact hall e l h.meant hl h.ink
    · intro hall e' l he' hl _
      obtain rfl := Option.some.inj (h.meant.symm.trans he')
      exact hall l hl
  next hmarker =>
    rw [anchorLine?_replace h.anchor (isAnchor_iff.2 ⟨hrun, Bool.eq_false_iff.2 hmarker⟩)]
    constructor
    · intro hall
      exact hall e _ h.meant rfl h.ink
    · intro hbeside e' l he' hl _
      obtain rfl := Option.some.inj (h.meant.symm.trans he')
      exact Option.some.inj hl ▸ hbeside

end Again

theorem insertInline_twice_iff (content : Text) (S : SnippetMap) (a : Anchor) (side : Position) :
    let r := (insertInline content a S side).content
    insertInline r a S side = .same r ↔
      ∀ e cut head tail, InsertsInline content a S side e cut head tail →
        Settled a side (oneLine e.2) cut (inLine (oneLine e.2) a.target head tail side) := by
  intro r
  have hr : r = (insertInline content a S side).content := rfl
  clear_value r
  generalize ho : insertInline content a S side = o at hr
  cases ho ▸ inlineGo_insertInline content a S side with
  | kept h =>
      obtain rfl : r = content := hr
      refine ⟨fun _ e cut head tail h' => ?_, fun _ => insertInline_eq_same_iff.2 h⟩
      have hline : anchorLine? a.target a.occurrence r.lines = some cut.line :=
        Option.map_eq_some_iff.2 ⟨cut, h'.anchor, rfl⟩
      exact absurd (h e cut.line h'.meant hline h'.ink) h'.apart
  | @inserted e cut head tail h =>
      rw [hr]
      refine h.again_iff.trans ⟨fun hsettled e' cut' head' tail' h' => ?_, fun hall => ?_⟩
      · obtain ⟨rfl, rfl, rfl, rfl⟩ := h.unique h'
        exact hsettled
      · exact hall e cut head tail h

/-- A second insertion changes nothing exactly if the first one has left nothing
to do.  It has left nothing where the line that it wrote is no marker and the
target has no new place in front of the old one; behind the target none can come
up. -/
theorem insertInline_again_iff (content : Text) (S : SnippetMap) (a : Anchor) (side : Position) :
    let r := (apply content S (inlineAt a side)).content
    (apply r S (inlineAt a side) = .same r ↔
      ∀ e cut head tail, InsertsInline content a S side e cut head tail →
        Settled a side (oneLine e.2) cut (inLine (oneLine e.2) a.target head tail side)) ∧
      ∀ e cut head tail, InsertsInline content a S side e cut head tail →
        Marker.isMarker (inLine (oneLine e.2) a.target head tail side) = false →
        (side = .below ∨ ¬ a.target <:+: head ++ oneLine e.2 ++ ' ' :: a.target.dropLast) →
        apply r S (inlineAt a side) = .same r := by
  simp only [apply_inlineAt]
  refine ⟨insertInline_twice_iff content S a side, ?_⟩
  intro e cut head tail h hplain hnew
  refine (insertInline_twice_iff content S a side).2 ?_
  intro e' cut' head' tail' h'
  obtain ⟨rfl, rfl, rfl, rfl⟩ := h.unique h'
  have htarget := (anchor?_eq_some_iff.1 h.anchor).1
  rw [Settled, if_neg (by simp [hplain])]
  cases side with
  | above => exact beside_inLine_above h.ink htarget (hnew.resolve_left (by simp))
  | below => exact beside_inLine_below h.ink htarget h.split

/-- A text that holds the target comes before it again and again, and an insertion
that turns its line into a marker goes on with the next line. -/
theorem insertInline_repeats :
    let S := SnippetMap.ofText "// START OF K\nreadonly id\n// END OF K\n".toList
    let before := inlineAt ⟨"id".toList, "K".toList, .first⟩ .above
    let T := SnippetMap.ofText "// START OF K\nBELOW\n// END OF K\n".toList
    let after := inlineAt ⟨"x".toList, "K".toList, .first⟩ .below
    apply "  id: string;\n".toList S before = .edited "  readonly id id: string;\n".toList ∧
      apply "  readonly id id: string;\n".toList S before =
        .edited "  readonly readonly id id id: string;\n".toList ∧
      apply "// ADD x\nx\n".toList T after = .edited "// ADD x BELOW\nx\n".toList ∧
      apply "// ADD x BELOW\nx\n".toList T after =
        .edited "// ADD x BELOW\nx BELOW\n".toList := by
  decide +kernel

/-- A snippet of two lines in front of its target. -/
theorem insertInline_again_of_plain :
    let S := SnippetMap.ofText "// START OF K\nexport\n  async\n// END OF K\n".toList
    let a : Anchor := ⟨"function".toList, "K".toList, .last⟩
    let r := (apply "\tfunction f()\r\n".toList S (inlineAt a .above)).content
    r = "\texport async function f()\r\n".toList ∧ apply r S (inlineAt a .above) = .same r := by
  intro S a r
  have hinserts : InsertsInline "\tfunction f()\r\n".toList a S .above
      ("K".toList, ["export".toList, "  async".toList])
      ⟨[], "\tfunction f()".toList, []⟩ "\t".toList " f()".toList :=
    ⟨by decide +kernel, by decide +kernel, by decide +kernel, by decide +kernel,
      fun hbeside => absurd (insertInLine?_of_beside hbeside) (by decide +kernel)⟩
  exact ⟨by decide +kernel, (insertInline_again_iff _ S a .above).2 _ _ _ _ hinserts
    (by decide +kernel) (.inr (by decide +kernel))⟩

end Edit

end Scaffold
