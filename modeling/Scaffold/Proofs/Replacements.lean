/-
# When a replacement is repeated

A replacement takes out what it finds and puts something else in its place.  The
next run searches the file as it is then:

    a range    is found again if an anchor is left in the file, be it one that
               came with the snippet, and a line behind it closes a range; it
               is left alone only if it is the snippet already
    a text     is guarded by its own replacement, so it is not found again,
               unless the replacement is empty and guards nothing

`replacing_again_iff` says exactly when the second run changes nothing.  A
snippet that is a range of its own is safe: the next run finds just that range.
-/
import Scaffold.Proofs.InlineInsertion

namespace Scaffold

open Text (indentation)

/-! ## The lines of a snippet -/

/-- No line of a snippet ends with a carriage return, however it is indented. -/
theorem SnippetMap.getLast?_ne_return {template key : Text} {e : Text × Block}
    (he : (ofText template).resolve? key = some e) (indent : Text) :
    ∀ l ∈ e.2.indentBy indent, l.getLast? ≠ some '\r' := by
  obtain ⟨-, body, hdedent, -⟩ := exists_source (mem_of_resolve? he)
  rw [hdedent]
  exact Block.getLast?_indentBy_dedent_ne indent body

theorem Block.sameTrimmed_iff {a b : Block} :
    sameTrimmed a b = true ↔ a.map Text.trim = b.map Text.trim := by
  rw [sameTrimmed, beq_iff_eq]

theorem Block.sameTrimmed_indentBy (a b : Block) (line : Text) :
    sameTrimmed a (b.indentBy (indentation line)) = sameTrimmed a b := by
  rw [sameTrimmed, map_trim_indentBy (Text.allBlank_indentation line), sameTrimmed]

theorem Text.exists_splitLast? {needle t : Text} (h : needle <:+: t) :
    ∃ b a, splitLast? needle t = some (b, a) := by
  induction t with
  | nil => exact ⟨[], [], by simp [splitLast?, List.eq_nil_of_infix_nil h]⟩
  | cons c r ih =>
      rw [splitLast?]
      split
      next b a hr => exact ⟨c :: b, a, rfl⟩
      next hnone =>
        have hprefix : needle <+: c :: r := by
          refine (List.infix_cons_iff.1 h).resolve_right fun hr => ?_
          obtain ⟨b, a, hsome⟩ := ih hr
          exact absurd (hnone.symm.trans hsome) (by simp)
        rw [if_pos (List.isPrefixOf_iff_prefix.2 hprefix)]
        exact ⟨_, _, rfl⟩

namespace Edit

/-! ## Ranges -/

/-- Whether a line contains the closing text, which is not empty. -/
def closes (stop line : Text) : Bool :=
  !stop.isEmpty && Text.hasRun stop line

theorem closes_iff {stop line : Text} : closes stop line = true ↔ stop ≠ [] ∧ stop <:+: line := by
  rw [closes, Bool.and_eq_true, Text.hasRun_iff_infix, Bool.not_eq_true', List.isEmpty_eq_false_iff]

/-- The lines from an anchor through a line behind it. -/
def Cut.range (cut closing : Cut) : Block :=
  cut.line :: (closing.before ++ [closing.line])

/-- The lines with a block in the place of a range. -/
def Cut.replaced (cut closing : Cut) (b : Block) : List Text :=
  cut.before ++ b.indentBy (indentation cut.line) ++ closing.after

/-- The range that an edit finds: its anchor through the next line that closes it. -/
def range? (r : AnchorRange) (ls : List Text) : Option Block :=
  (anchor? r.start r.occurrence ls).bind fun cut =>
    (cutFirst? (closes r.stop) cut.after).map cut.range

section Range

variable {r : AnchorRange} {ls : List Text} {old : Block}

theorem range?_eq_some_iff : range? r ls = some old ↔
    ∃ cut closing, anchor? r.start r.occurrence ls = some cut ∧
      cutFirst? (closes r.stop) cut.after = some closing ∧ cut.range closing = old := by
  rw [range?, Option.bind_eq_some_iff]
  refine exists_congr fun cut => ?_
  rw [Option.map_eq_some_iff]
  exact exists_and_left.symm

theorem range?_of_no_anchor (h : ∀ l ∈ ls, isAnchor r.start l = false) : range? r ls = none := by
  rw [range?, anchor?_eq_none_iff.2 (.inr h)]
  rfl

/-- A range is found among more lines, if the search does not come by another
anchor first. -/
theorem range?_append {a b : List Text} (h : range? r ls = some old)
    (hfirst : r.occurrence = .first → ∀ l ∈ a, isAnchor r.start l = false)
    (hlast : r.occurrence = .last → ∀ l ∈ b, isAnchor r.start l = false) :
    range? r (a ++ ls ++ b) = some old := by
  obtain ⟨cut, closing, hcut, hclosing, hold⟩ := range?_eq_some_iff.1 h
  refine range?_eq_some_iff.2 ⟨_, _, anchor?_append hcut hfirst hlast,
    cutFirst?_append_right hclosing b, ?_⟩
  exact hold

/-- An empty line at the end has no say in which range is found. -/
theorem range?_append_nil (r : AnchorRange) (ls : List Text) :
    range? r (ls ++ [[]]) = range? r ls := by
  have hnil : ∀ l ∈ [([] : Text)], closes r.stop l = false := by
    intro l hl
    rw [List.mem_singleton.1 hl]
    refine Bool.eq_false_iff.2 fun hcloses => ?_
    exact (closes_iff.1 hcloses).1 (List.eq_nil_of_infix_nil (closes_iff.1 hcloses).2)
  rw [range?, anchor?_append_nil, Option.bind_map, range?]
  refine Option.bind_congr fun cut _ => ?_
  rw [Function.comp_apply, cutFirst?_append_of_none hnil, Option.map_map]
  rfl

theorem range?_reread (r : AnchorRange) (file : Lines) (ls : List Text) :
    range? r (file.reread ls) = range? r ls := by
  rw [Lines.reread]
  split
  next hlost =>
    obtain ⟨init, rfl⟩ := List.getLast?_eq_some_iff.1 hlost.2
    rw [List.dropLast_concat, range?_append_nil]
  next => rfl

end Range

/-! ## One replacement of a range -/

/-- What a replacement of a range that changes a file has found. -/
structure Replaces (content : Text) (r : AnchorRange) (S : SnippetMap) (e : Text × Block)
    (cut closing : Cut) : Prop where
  meant : S.resolve? r.key = some e
  anchor : anchor? r.start r.occurrence content.lines = some cut
  stop : cutFirst? (closes r.stop) cut.after = some closing
  apart : Block.sameTrimmed (cut.range closing) e.2 = false
  free : isGuarded content r.requireAbsent = false

/-- The ways a replacement of a range can go. -/
inductive RangeGo (content : Text) (r : AnchorRange) (S : SnippetMap) : Outcome → Prop
  | kept (h : isGuarded content r.requireAbsent = true ∨
      ∀ e old, S.resolve? r.key = some e → range? r content.lines = some old →
        Block.sameTrimmed old e.2 = true) : RangeGo content r S (.same content)
  | replaced {e : Text × Block} {cut closing : Cut} (h : Replaces content r S e cut closing) :
      RangeGo content r S
        (.edited ((Lines.ofText content).render (cut.replaced closing e.2)))

theorem rangeGo_replaceRange (content : Text) (r : AnchorRange) (S : SnippetMap) :
    RangeGo content r S (replaceRange content r S) := by
  rw [replaceRange, Lines.lines_ofText]
  split
  next hguard => exact .kept (.inl hguard)
  next hfree =>
    split
    next key snippet cut he hcut =>
      split
      next hnone =>
        refine .kept (.inr fun e old he' hold => ?_)
        obtain ⟨cut', closing, hcut', hclosing, -⟩ := range?_eq_some_iff.1 hold
        obtain rfl := Option.some.inj (hcut.symm.trans hcut')
        exact absurd (hnone.symm.trans hclosing) (by simp)
      next closing hclosing =>
        have hrange : range? r content.lines = some (cut.range closing) :=
          range?_eq_some_iff.2 ⟨cut, closing, hcut, hclosing, rfl⟩
        simp only [Block.sameTrimmed_indentBy]
        split
        next hsame =>
          refine .kept (.inr fun e old he' hold => ?_)
          obtain rfl := Option.some.inj (he.symm.trans he')
          obtain rfl := Option.some.inj (hrange.symm.trans hold)
          exact hsame
        next hnew =>
          exact .replaced ⟨he, hcut, hclosing, Bool.eq_false_iff.2 hnew, Bool.eq_false_iff.2 hfree⟩
    next hother =>
      refine .kept (.inr fun e old he hold => ?_)
      obtain ⟨cut, closing, hcut, -⟩ := range?_eq_some_iff.1 hold
      exact absurd hcut (hother e.1 e.2 cut he)

theorem Replaces.found {content : Text} {r : AnchorRange} {S : SnippetMap} {e : Text × Block}
    {cut closing : Cut} (h : Replaces content r S e cut closing) :
    range? r content.lines = some (cut.range closing) :=
  range?_eq_some_iff.2 ⟨cut, closing, h.anchor, h.stop, rfl⟩

/-- Nothing is replaced exactly where a guard holds, nothing is found, or what is
found is the snippet. -/
theorem replaceRange_eq_same_iff {content : Text} {r : AnchorRange} {S : SnippetMap} :
    replaceRange content r S = .same content ↔
      isGuarded content r.requireAbsent = true ∨
        ∀ e old, S.resolve? r.key = some e → range? r content.lines = some old →
          Block.sameTrimmed old e.2 = true := by
  generalize ho : replaceRange content r S = o
  cases ho ▸ rangeGo_replaceRange content r S with
  | kept h => exact ⟨fun _ => h, fun _ => rfl⟩
  | @replaced e cut closing h =>
      refine ⟨fun heq => ?_, ?_⟩
      · exact absurd (congrArg Outcome.changed heq) (by simp [Outcome.edited, Outcome.same])
      · rintro (hguard | hall)
        · exact absurd (h.free.symm.trans hguard) Bool.false_ne_true
        · exact absurd (h.apart.symm.trans (hall e _ h.meant h.found)) Bool.false_ne_true

/-! ## The next run on a range -/

section Again

variable {content template : Text} {r : AnchorRange} {e : Text × Block} {cut closing : Cut}

theorem Replaces.cut_lines {S : SnippetMap} (h : Replaces content r S e cut closing) :
    cut.before ++ cut.range closing ++ closing.after = content.lines := by
  have hcut := (anchor?_eq_some_iff.1 h.anchor).2.lines
  have hclosing := (cutFirst?_eq_some_iff.1 h.stop).lines
  rw [← hcut, Cut.lines, ← hclosing]
  simp [Cut.range, Cut.lines]

/-- The lines of the file that was written. -/
theorem Replaces.lines (h : Replaces content r (SnippetMap.ofText template) e cut closing) :
    ((Lines.ofText content).render (cut.replaced closing e.2)).lines =
      (Lines.ofText content).reread (cut.replaced closing e.2) := by
  have hexact : (Lines.ofText content).Exact
      (cut.before ++ cut.range closing ++ closing.after) := by
    rw [h.cut_lines]
    exact Lines.exact_ofText content
  have hplain := Merge.plain_served (SnippetMap.plain_ofText template) h.meant
    (feed_notMem_of_anchor? h.anchor)
  exact Lines.lines_render_of_splice (List.cons_ne_nil _ _) hexact hplain.noFeed
    (SnippetMap.getLast?_ne_return h.meant _)

theorem Replaces.again_iff (h : Replaces content r (SnippetMap.ofText template) e cut closing) :
    let c := (Lines.ofText content).render (cut.replaced closing e.2)
    replaceRange c r (SnippetMap.ofText template) = .same c ↔
      isGuarded c r.requireAbsent = true ∨
        ∀ old, range? r (cut.replaced closing e.2) = some old →
          Block.sameTrimmed old e.2 = true := by
  intro c
  have hlines : c.lines = _ := h.lines
  rw [replaceRange_eq_same_iff, hlines, range?_reread]
  refine or_congr Iff.rfl ⟨fun hall old hold => hall e old h.meant hold, ?_⟩
  intro hall e' old he hold
  obtain rfl := Option.some.inj (h.meant.symm.trans he)
  exact hall old hold

/-- A snippet that is a range of its own is found as such. -/
theorem Replaces.range?_replaced {S : SnippetMap} (h : Replaces content r S e cut closing)
    (hown : range? r (e.2.indentBy (indentation cut.line)) =
      some (e.2.indentBy (indentation cut.line))) :
    range? r (cut.replaced closing e.2) = some (e.2.indentBy (indentation cut.line)) := by
  have hpassed := (anchor?_eq_some_iff.1 h.anchor).2.passed
  have hclosing := (cutFirst?_eq_some_iff.1 h.stop).lines
  refine range?_append hown ?_ ?_
  · intro hfirst l hl
    rw [hfirst] at hpassed
    exact hpassed l hl
  · intro hlast l hl
    rw [hlast] at hpassed
    refine hpassed l ?_
    show l ∈ cut.after
    rw [← hclosing]
    exact List.mem_append_right _ (List.mem_cons_of_mem _ hl)

theorem Replaces.unique {S : SnippetMap} {e' : Text × Block} {cut' closing' : Cut}
    (h : Replaces content r S e cut closing) (h' : Replaces content r S e' cut' closing') :
    e = e' ∧ cut = cut' ∧ closing = closing' := by
  obtain rfl := Option.some.inj (h.meant.symm.trans h'.meant)
  obtain rfl := Option.some.inj (h.anchor.symm.trans h'.anchor)
  obtain rfl := Option.some.inj (h.stop.symm.trans h'.stop)
  exact ⟨rfl, rfl, rfl⟩

theorem replaceRange_twice_iff (content template : Text) {r : AnchorRange}
    (hnone : r.requireAbsent = none) :
    let S := SnippetMap.ofText template
    let c := (replaceRange content r S).content
    replaceRange c r S = .same c ↔ ∀ e cut closing, Replaces content r S e cut closing →
      ∀ old, range? r (cut.replaced closing e.2) = some old →
        Block.sameTrimmed old e.2 = true := by
  intro S c
  have hfree : ∀ t, isGuarded t r.requireAbsent = false := fun t => by rw [hnone]; rfl
  have hc : c = (replaceRange content r S).content := rfl
  clear_value c
  generalize ho : replaceRange content r S = o at hc
  cases ho ▸ rangeGo_replaceRange content r S with
  | kept h =>
      obtain rfl : c = content := hc
      refine iff_of_true (replaceRange_eq_same_iff.2 h) fun e cut closing h' => ?_
      rcases h with hguard | hall
      · exact absurd (h'.free.symm.trans hguard) Bool.false_ne_true
      · exact absurd (h'.apart.symm.trans (hall e _ h'.meant h'.found)) Bool.false_ne_true
  | @replaced e cut closing h =>
      obtain rfl : c = (Lines.ofText content).render (cut.replaced closing e.2) := hc
      refine h.again_iff.trans ?_
      rw [hfree]
      constructor
      · rintro (hfalse | hall) e' cut' closing' h'
        · exact absurd hfalse Bool.false_ne_true
        · obtain ⟨rfl, rfl, rfl⟩ := h.unique h'
          exact hall
      · exact fun hall => .inr (hall e cut closing h)

end Again

/-! ## One replacement of a text -/

theorem isGuarded_some_iff {content guard : Text} :
    isGuarded content (some guard) = true ↔ guard ≠ [] ∧ guard <:+: content := by
  rw [isGuarded, Bool.and_eq_true, Text.hasRun_iff_infix, Bool.not_eq_true',
    List.isEmpty_eq_false_iff]

/-- The ways a replacement of a text can go. -/
inductive TextGo (content : Text) (r : Replacement) : Outcome → Prop
  | kept (h : r.target = [] ∨
      isGuarded content (some (r.requireAbsent.getD r.replacement)) = true ∨
        ¬ r.target <:+: content) : TextGo content r (.same content)
  | replaced {before after : Text} (hsplit : content = before ++ r.target ++ after)
      (htarget : r.target ≠ [])
      (hfree : isGuarded content (some (r.requireAbsent.getD r.replacement)) = false) :
      TextGo content r (.edited (before ++ r.replacement ++ after))

theorem textGo_replaceText (content : Text) (r : Replacement) :
    TextGo content r (replaceText content r) := by
  rw [replaceText]
  split
  next hkept =>
    rw [Bool.or_eq_true, List.isEmpty_iff] at hkept
    exact .kept (hkept.imp_right .inl)
  next hgo =>
    rw [Bool.or_eq_true, List.isEmpty_iff, not_or, Bool.not_eq_true] at hgo
    simp only
    split
    next hnone =>
      refine .kept (.inr (.inr fun hinfix => ?_))
      cases hoccurrence : r.occurrence with
      | first =>
          obtain ⟨b, a, hsplit⟩ := Text.exists_splitFirst? hinfix
          rw [hoccurrence, hsplit] at hnone
          exact absurd hnone (by simp)
      | last =>
          obtain ⟨b, a, hsplit⟩ := Text.exists_splitLast? hinfix
          rw [hoccurrence, hsplit] at hnone
          exact absurd hnone (by simp)
    next before after hsome =>
      refine .replaced ?_ hgo.1 hgo.2
      cases hoccurrence : r.occurrence with
      | first => rw [hoccurrence] at hsome; exact Text.eq_of_splitFirst? hsome
      | last => rw [hoccurrence] at hsome; exact Text.eq_of_splitLast? hsome

theorem replaceText_eq_same_iff {content : Text} {r : Replacement} :
    replaceText content r = .same content ↔ r.target = [] ∨
      isGuarded content (some (r.requireAbsent.getD r.replacement)) = true ∨
        ¬ r.target <:+: content := by
  generalize ho : replaceText content r = o
  cases ho ▸ textGo_replaceText content r with
  | kept h => exact ⟨fun _ => h, fun _ => rfl⟩
  | replaced hsplit htarget hfree =>
      refine ⟨fun heq => ?_, ?_⟩
      · exact absurd (congrArg Outcome.changed heq) (by simp [Outcome.edited, Outcome.same])
      · rintro (hnil | hguard | hnone)
        · exact absurd hnil htarget
        · exact absurd (hfree.symm.trans hguard) Bool.false_ne_true
        · exact absurd ⟨_, _, hsplit.symm⟩ hnone

/-- A replacement is its own guard, if it is not empty. -/
theorem replaceText_twice_iff {content : Text} {r : Replacement} (h : r.requireAbsent = none) :
    let c := (replaceText content r).content
    replaceText c r = .same c ↔ r.replacement ≠ [] ∨ r.target = [] ∨ ¬ r.target <:+: c := by
  intro c
  have hguard : r.requireAbsent.getD r.replacement = r.replacement := by rw [h]; rfl
  rw [replaceText_eq_same_iff, hguard, isGuarded_some_iff]
  have hc : c = (replaceText content r).content := rfl
  clear_value c
  generalize ho : replaceText content r = o at hc
  cases ho ▸ textGo_replaceText content r with
  | kept hkept =>
      obtain rfl : c = content := hc
      rw [hguard, isGuarded_some_iff] at hkept
      exact iff_of_true hkept (by tauto)
  | @replaced before after =>
      have hinfix : r.replacement <:+: c := ⟨before, after, hc.symm⟩
      tauto

/-! ## The next run -/

/-- A second run of a replacement without a guard of its own changes nothing
exactly if, for a range, whatever range it finds in the lines that the first run
wrote is the snippet, and, for a text, the replacement is not empty or the text
is gone.  A range settles where no anchor is left, and where the snippet is a
range of its own. -/
theorem replacing_again_iff (content template : Text) :
    let S := SnippetMap.ofText template
    (∀ r : AnchorRange, r.requireAbsent = none →
      let c := (apply content S (.replaceBetweenAnchors r)).content
      (apply c S (.replaceBetweenAnchors r) = .same c ↔
        ∀ e cut closing, Replaces content r S e cut closing →
          ∀ old, range? r (cut.replaced closing e.2) = some old →
            old.map Text.trim = e.2.map Text.trim) ∧
      ∀ e cut closing, Replaces content r S e cut closing →
        (∀ l ∈ cut.replaced closing e.2, isAnchor r.start l = false) ∨
          range? r (e.2.indentBy (indentation cut.line)) =
            some (e.2.indentBy (indentation cut.line)) →
        apply c S (.replaceBetweenAnchors r) = .same c) ∧
    ∀ r : Replacement, r.requireAbsent = none →
      let c := (apply content S (.conditionalReplace r)).content
      apply c S (.conditionalReplace r) = .same c ↔
        r.replacement ≠ [] ∨ r.target = [] ∨ ¬ r.target <:+: c := by
  intro S
  refine ⟨fun r hnone => ?_, fun r hnone => replaceText_twice_iff hnone⟩
  have htwice := replaceRange_twice_iff content template hnone
  simp only [Block.sameTrimmed_iff] at htwice
  refine ⟨htwice, fun e cut closing h hsettled => htwice.2 ?_⟩
  intro e' cut' closing' h' old hold
  obtain ⟨rfl, rfl, rfl⟩ := h.unique h'
  rcases hsettled with hbare | hown
  · exact absurd (hold.symm.trans (range?_of_no_anchor hbare)) (by simp)
  · obtain rfl := Option.some.inj (hold.symm.trans (h.range?_replaced hown))
    exact Block.map_trim_indentBy (Text.allBlank_indentation cut.line) e.2

/-- A range is replaced by one that begins and ends like it, in front of another one
of its kind, and a text by one that contains it. -/
theorem replacing_again_of_own_range :
    let S := SnippetMap.ofText "// START OF BODY\ndo x\n  2\nend\n// END OF BODY\n".toList
    let range : AnchorRange := ⟨"do".toList, "end".toList, "body".toList, .first, none⟩
    let text : Replacement := ⟨"a".toList, "aa".toList, .last, none⟩
    let c := (apply "\tdo x\n\tend\n\tdo y\n\tend".toList S (.replaceBetweenAnchors range)).content
    let d := (apply "ba".toList S (.conditionalReplace text)).content
    c = "\tdo x\n\t  2\n\tend\n\tdo y\n\tend".toList ∧
      apply c S (.replaceBetweenAnchors range) = .same c ∧
      d = "baa".toList ∧ apply d S (.conditionalReplace text) = .same d := by
  intro S range text c d
  have hfound : Replaces "\tdo x\n\tend\n\tdo y\n\tend".toList range S
      ("BODY".toList, ["do x".toList, "  2".toList, "end".toList])
      ⟨[], "\tdo x".toList, ["\tend".toList, "\tdo y".toList, "\tend".toList]⟩
      ⟨[], "\tend".toList, ["\tdo y".toList, "\tend".toList]⟩ :=
    ⟨by decide +kernel, by decide +kernel, by decide +kernel, by decide +kernel, rfl⟩
  obtain ⟨hrange, -⟩ := replacing_again_iff "\tdo x\n\tend\n\tdo y\n\tend".toList
    "// START OF BODY\ndo x\n  2\nend\n// END OF BODY\n".toList
  obtain ⟨-, htext⟩ := replacing_again_iff "ba".toList
    "// START OF BODY\ndo x\n  2\nend\n// END OF BODY\n".toList
  exact ⟨by decide +kernel, (hrange range rfl).2 _ _ _ hfound (.inr (by decide +kernel)),
    by decide +kernel, (htext text rfl).2 (.inl (by decide))⟩

/-- Where an anchor came with the snippet and its closing line did not, the next
run takes what stands behind; where another range is left, the next run takes
that one; and a text that is taken out is taken out again. -/
theorem replacing_goes_on :
    let S := SnippetMap.ofText
      "// START OF ONE\ndo f end\n// END OF ONE\n// START OF OTHER\nx\n// END OF OTHER\n".toList
    let one := Edit.replaceBetweenAnchors ⟨"do f".toList, "end".toList, "ONE".toList, .first, none⟩
    let other := Edit.replaceBetweenAnchors ⟨"do".toList, "end".toList, "OTHER".toList, .first, none⟩
    let gone := Edit.conditionalReplace ⟨"a".toList, [], .first, none⟩
    apply "do f\nend\ndo g\nend\n".toList S one = .edited "do f end\ndo g\nend\n".toList ∧
      apply "do f end\ndo g\nend\n".toList S one = .edited "do f end\n".toList ∧
      apply "do\nend\ndo\nend\n".toList S other = .edited "x\ndo\nend\n".toList ∧
      apply "x\ndo\nend\n".toList S other = .edited "x\nx\n".toList ∧
      apply "aa\n".toList S gone = .edited "a\n".toList ∧
      apply "a\n".toList S gone = .edited "\n".toList := by
  decide +kernel

end Edit

end Scaffold
