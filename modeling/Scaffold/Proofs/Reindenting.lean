/-
# Indenting a block and taking the indentation away again

A block without indentation is known by four things: no line has blanks at its end, it
neither begins nor ends with an empty line, and some line that is not empty stands flush
left.  Dedenting makes such a block of any block, and gives back such a block however it
was indented (`dedented_dedent`, `dedent_indentBy`).

The common indentation is a number of bytes, and the blanks of two lines need not be the
same, so that it may end inside a character.  That does no harm:

    block               bytes     shares    dedented
    TAB TAB a           2         2         a
    IDEOGRAPHIC TAB b   3 + 1               b         nothing ends at 2, so all blanks go

A line with exactly as many bytes as are shared comes to stand flush left, and behind an
indentation that is put in front of every line the cut always ends between characters.
-/
import Mathlib.Data.List.DropRight
import Scaffold.Proofs.Layout

namespace Scaffold

namespace Text

/-! ## Indentation in bytes -/

theorem byteSize_append (a b : Text) : byteSize (a ++ b) = byteSize a + byteSize b := by
  induction a with
  | nil => simp [byteSize]
  | cons c r ih => simp [byteSize, ih, Nat.add_assoc]

theorem dropBytes?_append (w t : Text) : dropBytes? (byteSize w) (w ++ t) = some t := by
  induction w with
  | nil => simp [byteSize, dropBytes?]
  | cons c r ih =>
      obtain ⟨n, hn⟩ : ∃ n, c.utf8Size + byteSize r = n + 1 :=
        Nat.exists_eq_add_one.2 (Nat.add_pos_left c.utf8Size_pos _)
      have hrest : n + 1 - c.utf8Size = byteSize r := by omega
      rw [byteSize, hn, List.cons_append, dropBytes?, if_pos (by omega), hrest, ih]

theorem indentation_append {w : Text} (hw : allBlank w = true) (t : Text) :
    indentation (w ++ t) = w ++ indentation t :=
  List.takeWhile_append_of_pos (allBlank_iff.1 hw)

theorem indentation_trimLeft (t : Text) : indentation (trimLeft t) = [] := by
  have hsplit := indentation_append (allBlank_indentation t) (trimLeft t)
  rw [indentation_append_trimLeft] at hsplit
  exact List.self_eq_append_right.1 hsplit

/-- All indentation may be taken away. -/
theorem dropBytes?_indentation (t : Text) :
    dropBytes? (byteSize (indentation t)) t = some (trimLeft t) := by
  have hdrop := dropBytes?_append (indentation t) (trimLeft t)
  rwa [indentation_append_trimLeft] at hdrop

theorem indentation_trimRight_of_flush {t : Text} (h : indentation t = []) :
    indentation (trimRight t) = [] := by
  obtain ⟨w, -, ht⟩ := exists_trimRight_append t
  cases hr : trimRight t with
  | nil => rfl
  | cons c r =>
      rw [ht, hr, List.cons_append] at h
      rw [indentation, List.takeWhile_eq_nil_iff] at h ⊢
      simpa using h

end Text

namespace Block

open Text (allBlank byteSize indentation trimRight)

/-! ## What the lines of a block share -/

/-- Some line has no more indentation than all of them share. -/
theorem exists_commonIndent {b : Block} {l : Text} (hl : l ∈ b) (hink : allBlank l = false) :
    ∃ k ∈ b, allBlank k = false ∧ byteSize (indentation k) = commonIndent b :=
  mem_indents.1 (List.min?_eq_some_iff.1 (min?_indents hl hink)).1

theorem commonIndent_eq {b : Block} {l : Text} (hl : l ∈ b) (hink : allBlank l = false)
    (hleast : ∀ k ∈ b, allBlank k = false → byteSize (indentation l) ≤ byteSize (indentation k)) :
    commonIndent b = byteSize (indentation l) := by
  obtain ⟨k, hk, hkink, hsize⟩ := exists_commonIndent hl hink
  exact Nat.le_antisymm (commonIndent_le hl hink) (hsize ▸ hleast k hk hkink)

/-! ## Blocks without indentation -/

/-- A block as it is left when its indentation is taken away. -/
structure Dedented (d : Block) : Prop where
  tidy : ∀ l ∈ d, trimRight l = l
  first : d.head? ≠ some []
  last : d.getLast? ≠ some []
  flush : d ≠ [] → ∃ l ∈ d, l ≠ [] ∧ indentation l = []

theorem ink_of_head?_core {b : Block} {l : Text} (h : b.core.head? = some l) :
    allBlank l = false := by
  have hprefix : b.core <+: b.dropWhile allBlank := List.rdropWhile_prefix _ _
  have hhead : (b.dropWhile allBlank).head? = some l := by
    obtain ⟨r, hr⟩ := hprefix
    rw [← hr, List.head?_append, h, Option.some_or]
  have hstop := List.head?_dropWhile_not allBlank b
  rwa [hhead] at hstop

/-- A line with no more indentation than is taken away comes to stand flush left. -/
theorem indentation_outdentLine {n : Nat} {l : Text} (hink : allBlank l = false)
    (hn : byteSize (indentation l) = n) : indentation (outdentLine n l) = [] := by
  rw [outdentLine, if_neg (Bool.eq_false_iff.1 hink), ← hn, Text.dropBytes?_indentation,
    Option.getD_some]
  exact Text.indentation_trimRight_of_flush (Text.indentation_trimLeft l)

theorem dedented_dedent (b : Block) : Dedented (dedent b) where
  tidy l hl := by
    obtain ⟨k, -, rfl⟩ := List.mem_map.1 hl
    rw [outdentLine]
    split
    next => rfl
    next => exact Text.trimRight_trimRight _
  first := by
    rw [dedent, List.head?_map]
    intro h
    obtain ⟨l, hl, hnil⟩ := Option.map_eq_some_iff.1 h
    have hink := ink_of_head?_core hl
    exact outdentLine_ne_nil (List.mem_of_mem_head? hl) hink hnil
  last := getLast?_dedent_ne b
  flush hne := by
    have hcore : b.core ≠ [] := by
      intro hnil
      exact hne (by rw [dedent, hnil]; rfl)
    obtain ⟨l, r, hlr⟩ := List.exists_cons_of_ne_nil hcore
    have hink : allBlank l = false := ink_of_head?_core (by rw [hlr]; rfl)
    obtain ⟨k, hk, hkink, hsize⟩ := exists_commonIndent (hlr ▸ List.mem_cons_self) hink
    refine ⟨outdentLine b.core.commonIndent k, List.mem_map.2 ⟨k, hk, rfl⟩, ?_, ?_⟩
    · exact outdentLine_ne_nil hk hkink
    · exact indentation_outdentLine hkink hsize

namespace Dedented

variable {d : Block} (hd : Dedented d)
include hd

theorem ink {l : Text} (hl : l ∈ d) (hne : l ≠ []) : allBlank l = false := by
  rw [Bool.eq_false_iff]
  intro hblank
  exact hne ((hd.tidy l hl).symm.trans (Text.trimRight_eq_nil_iff.2 hblank))

end Dedented

/-- Where a block begins and ends with lines that are not blank there is nothing to take
off at its ends. -/
theorem core_eq_self {b : Block} (hfirst : ∀ l, b.head? = some l → allBlank l = false)
    (hlast : ∀ l, b.getLast? = some l → allBlank l = false) : b.core = b := by
  have hfront : b.dropWhile allBlank = b := by
    cases b with
    | nil => rfl
    | cons l r => exact List.dropWhile_cons_of_neg (by simp [hfirst l rfl])
  show List.rdropWhile allBlank (b.dropWhile allBlank) = b
  rw [hfront, List.rdropWhile_eq_self_iff]
  intro hne
  rw [hlast _ (List.getLast?_eq_some_getLast hne)]
  exact Bool.false_ne_true

namespace Dedented

variable {d : Block} (hd : Dedented d) {w : Text}
include hd

theorem ink_of_head?_indentBy {l : Text} (h : (indentBy w d).head? = some l) :
    allBlank l = false := by
  rw [indentBy, List.head?_map] at h
  obtain ⟨k, hk, rfl⟩ := Option.map_eq_some_iff.1 h
  have hne : k ≠ [] := by
    rintro rfl
    exact hd.first hk
  rw [if_neg (by simpa using hne), Text.allBlank_append, hd.ink (List.mem_of_mem_head? hk) hne,
    Bool.and_false]

theorem ink_of_getLast?_indentBy {l : Text} (h : (indentBy w d).getLast? = some l) :
    allBlank l = false := by
  rw [indentBy, List.getLast?_map] at h
  obtain ⟨k, hk, rfl⟩ := Option.map_eq_some_iff.1 h
  have hne : k ≠ [] := by
    rintro rfl
    exact hd.last hk
  rw [if_neg (by simpa using hne), Text.allBlank_append, hd.ink (List.mem_of_getLast? hk) hne,
    Bool.and_false]

theorem outdentLine_indented {l : Text} (hl : l ∈ d) :
    outdentLine (byteSize w) (if l.isEmpty then [] else w ++ l) = l := by
  cases l with
  | nil => rfl
  | cons c r =>
      have hink : allBlank (w ++ c :: r) = false := by
        rw [Text.allBlank_append, hd.ink hl (List.cons_ne_nil c r), Bool.and_false]
      show outdentLine (byteSize w) (w ++ c :: r) = c :: r
      rw [outdentLine, if_neg (Bool.eq_false_iff.1 hink), Text.dropBytes?_append, Option.getD_some,
        hd.tidy _ hl]

variable (hw : allBlank w = true)
include hw

/-- What the lines share is the indentation that was put in front of them. -/
theorem commonIndent_indentBy (hne : d ≠ []) : commonIndent (indentBy w d) = byteSize w := by
  obtain ⟨l, hl, hlne, hflush⟩ := hd.flush hne
  have hindent : indentation (w ++ l) = w := by
    rw [Text.indentation_append hw, hflush, List.append_nil]
  have hmem : w ++ l ∈ indentBy w d := List.mem_map.2 ⟨l, hl, if_neg (by simpa using hlne)⟩
  have hink : allBlank (w ++ l) = false := by
    rw [Text.allBlank_append, hd.ink hl hlne, Bool.and_false]
  rw [commonIndent_eq hmem hink, hindent]
  intro k hk hkink
  obtain ⟨k, -, rfl⟩ := List.mem_map.1 hk
  split at hkink
  next => exact absurd hkink (by decide)
  next hkne =>
    rw [if_neg hkne, hindent, Text.indentation_append hw, Text.byteSize_append]
    exact Nat.le_add_right _ _

/-- A block without indentation comes back from every indentation. -/
theorem dedent_indentBy : dedent (indentBy w d) = d := by
  have hcore : (indentBy w d).core = indentBy w d :=
    core_eq_self (fun _ => hd.ink_of_head?_indentBy) fun _ => hd.ink_of_getLast?_indentBy
  by_cases hne : d = []
  · subst hne
    rfl
  · rw [dedent, hcore, hd.commonIndent_indentBy hw hne, indentBy, List.map_map]
    exact (List.map_congr_left fun l hl => hd.outdentLine_indented hl).trans (List.map_id d)

end Dedented

/-! ## Blocks that are written and read -/

/-- An indented block is the lines of its text. -/
theorem lines_unlines_indentBy {b : Block} (hfeed : ∀ l ∈ b, '\n' ∉ l) {w : Text}
    (hw : '\n' ∉ w) :
    (Text.unlines (indentBy w (dedent b))).lines = indentBy w (dedent b) := by
  have hd := dedented_dedent b
  have hfeeds : ∀ l ∈ indentBy w (dedent b), '\n' ∉ l := by
    intro l hl
    obtain ⟨k, hk, rfl⟩ := List.mem_map.1 hl
    obtain ⟨line, hline, -, hsub⟩ := exists_of_mem_dedent hk
    split
    next => exact List.not_mem_nil
    next =>
      rw [List.mem_append, not_or]
      exact ⟨hw, fun hm => hfeed line hline (hsub _ hm)⟩
  have hlast : (indentBy w (dedent b)).getLast? ≠ some [] := by
    intro hnil
    exact absurd (hd.ink_of_getLast?_indentBy hnil) (by decide)
  have hread := Lines.lines_unlinesEnded false hfeeds (getLast?_indentBy_dedent_ne w b)
  rwa [Lines.rereadNew, if_neg fun hlost => hlast hlost.1] at hread

/-- Indenting a dedented block is undone by dedenting, and the two change the layout of
the lines only. -/
theorem dedent_indentBy_dedent (t w : Text) (hblank : allBlank w = true) (hfeed : '\n' ∉ w) :
    let d := dedent t.lines
    dedent (Text.unlines (indentBy w d)).lines = d ∧
      normalized (indentBy w d) = normalized t.lines := by
  intro d
  have hread : (Text.unlines (indentBy w d)).lines = indentBy w d :=
    lines_unlines_indentBy (fun _ => Text.not_mem_of_mem_lines) hfeed
  refine ⟨?_, normalized_congr ?_⟩
  · rw [hread]
    exact (dedented_dedent t.lines).dedent_indentBy hblank
  · exact (written_indentBy hblank d).trans (written_dedent t.lines)

/-- Two bytes are shared by tabs and by a blank of three bytes and another one. -/
theorem dedent_indentBy_of_wide_blanks :
    let t := "\n\t\ta\n\u3000 b \n \n\t\t  c\n".toList
    let w := "\u2003\t".toList
    let d := [['a'], ['b'], [], "  c".toList]
    (allBlank w = true ∧ '\n' ∉ w) ∧
      dedent (Text.unlines (indentBy w d)).lines = d ∧
        normalized (indentBy w d) = normalized (Text.lines t) := by
  intro t w d
  have hblank : allBlank w = true := by decide
  have hfeed : '\n' ∉ w := by decide
  have hd : dedent (Text.lines t) = d := by decide +kernel
  have hback := dedent_indentBy_dedent t w hblank hfeed
  rw [hd] at hback
  exact ⟨⟨hblank, hfeed⟩, hback⟩

end Block

end Scaffold
