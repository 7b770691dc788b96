/-
# What the layout of a block does not touch

Two blocks have the same *written* lines if they agree once blank lines are
left out and the others are trimmed.  Taking the indentation of a block away
and giving it another one both keep the written lines (`written_dedent`,
`written_indentBy`), and what blocks are compared by, their normalized lines,
is read off the written ones (`normalized_eq_map_written`).
-/
import Scaffold.Text.Layout
import Scaffold.Proofs.LineEndings
import Scaffold.Proofs.Words

namespace Scaffold.Block

open Text (allBlank isBlank indentation trimLeft trimRight byteSize dropBytes?)

/-- The trimmed lines that are not blank. -/
def written (b : Block) : List Text :=
  (b.map Text.trim).filter fun l => !l.isEmpty

theorem written_cons (l : Text) (b : Block) :
    written (l :: b) = (if allBlank l then [] else [Text.trim l]) ++ written b := by
  cases h : allBlank l with
  | true => simp [written, Text.trim_eq_nil_iff.2 h]
  | false =>
      have hne : ¬ Text.trim l = [] := by
        intro hnil
        rw [Text.trim_eq_nil_iff.1 hnil] at h
        exact absurd h (by simp)
      simp [written, hne]

theorem written_append (a b : Block) : written (a ++ b) = written a ++ written b := by
  simp [written]

theorem written_cons_of_blank {l : Text} (h : allBlank l = true) (b : Block) :
    written (l :: b) = written b := by
  rw [written_cons, if_pos h, List.nil_append]

theorem written_cons_of_ink {l : Text} (h : allBlank l = false) (b : Block) :
    written (l :: b) = Text.trim l :: written b := by
  rw [written_cons, h, if_neg Bool.false_ne_true, List.singleton_append]

theorem written_concat_of_blank {l : Text} (h : allBlank l = true) (b : Block) :
    written (b ++ [l]) = written b := by
  rw [written_append, written_cons_of_blank h]
  exact List.append_nil _

theorem written_congr {a b : Block} (h : a.map Text.trim = b.map Text.trim) :
    written a = written b := by
  rw [written, h, written]

theorem written_singleton_congr {l l' : Text} (h : Text.trim l = Text.trim l') :
    written [l] = written [l'] :=
  written_congr (by rw [List.map_singleton, h, List.map_singleton])

theorem mem_written {b : Block} {t : Text} :
    t ∈ written b ↔ ∃ l ∈ b, allBlank l = false ∧ Text.trim l = t := by
  simp only [written, List.mem_filter, List.mem_map, Bool.not_eq_true', List.isEmpty_eq_false_iff]
  constructor
  · rintro ⟨⟨l, hl, rfl⟩, hne⟩
    refine ⟨l, hl, ?_, rfl⟩
    rwa [ne_eq, Text.trim_eq_nil_iff, Bool.not_eq_true] at hne
  · rintro ⟨l, hl, hink, rfl⟩
    refine ⟨⟨l, hl, rfl⟩, ?_⟩
    rwa [ne_eq, Text.trim_eq_nil_iff, Bool.not_eq_true]

/-! ## Written files -/

/-- Lines that are written and read again are the same up to layout. -/
theorem written_lines_render (file : Lines) {ls : List Text} (h : ∀ l ∈ ls, '\n' ∉ l) :
    written (file.render ls).lines = written ls := by
  rcases Lines.map_trim_lines_render_or file h with heq | ⟨-, -, heq⟩
  · exact written_congr heq
  · rw [written, written, ← heq, List.filter_append]
    exact (List.append_nil _).symm

theorem written_lines_unlinesEnded {ls : List Text} (ended : Bool) (h : ∀ l ∈ ls, '\n' ∉ l) :
    written (Text.unlinesEnded ls ended).lines = written ls := by
  rw [Lines.unlinesEnded_eq_render]
  exact written_lines_render _ h

/-! ## Normalized lines -/

theorem normalized_append (a b : Block) : normalized (a ++ b) = normalized a ++ normalized b := by
  simp [normalized]

theorem normalized_cons_of_ink {l : Text} (h : allBlank l = false) (b : Block) :
    normalized (l :: b) = Text.collapse l :: normalized b := by
  have hne : ¬ Text.collapse l = [] := by
    intro hnil
    rw [Text.collapse_eq_nil_iff.1 hnil] at h
    exact absurd h (by simp)
  simp [normalized, hne]

theorem normalized_cons_of_blank {l : Text} (h : allBlank l = true) (b : Block) :
    normalized (l :: b) = normalized b := by
  simp [normalized, Text.collapse_eq_nil_iff.2 h]

theorem normalized_eq_map_written (b : Block) :
    normalized b = (written b).map Text.collapse := by
  induction b with
  | nil => rfl
  | cons l r ih =>
      cases h : allBlank l with
      | true => rw [normalized_cons_of_blank h, ih, written_cons_of_blank h]
      | false =>
          rw [normalized_cons_of_ink h, ih, written_cons_of_ink h, List.map_cons,
            Text.ignoresBlanks_collapse.trim l]

theorem normalized_congr {a b : Block} (h : written a = written b) :
    normalized a = normalized b := by
  rw [normalized_eq_map_written, h, normalized_eq_map_written]

theorem mem_normalized {b : Block} {t : Text} :
    t ∈ normalized b ↔ ∃ l ∈ b, allBlank l = false ∧ Text.collapse l = t := by
  rw [normalized_eq_map_written, List.mem_map]
  constructor
  · rintro ⟨u, hu, rfl⟩
    obtain ⟨l, hl, hink, rfl⟩ := mem_written.1 hu
    exact ⟨l, hl, hink, (Text.ignoresBlanks_collapse.trim l).symm⟩
  · rintro ⟨l, hl, hink, rfl⟩
    exact ⟨Text.trim l, mem_written.2 ⟨l, hl, hink, rfl⟩, Text.ignoresBlanks_collapse.trim l⟩

/-! ## Indenting -/

theorem map_trim_indentBy {indent : Text} (hw : allBlank indent = true) (b : Block) :
    (indentBy indent b).map Text.trim = b.map Text.trim := by
  rw [indentBy, List.map_map]
  refine List.map_congr_left ?_
  intro l _
  cases l with
  | nil => rfl
  | cons c r => exact Text.trim_blank_append hw (c :: r)

theorem written_indentBy {indent : Text} (hw : allBlank indent = true) (b : Block) :
    written (indentBy indent b) = written b :=
  written_congr (map_trim_indentBy hw b)

theorem length_indentBy (indent : Text) (b : Block) : (indentBy indent b).length = b.length :=
  List.length_map ..

/-! ## Taking indentation away -/

/-- Bytes taken off inside the indentation are blanks. -/
theorem exists_append_of_dropBytes? {n : Nat} {l r : Text} (hn : n ≤ byteSize (indentation l))
    (h : dropBytes? n l = some r) : ∃ w, allBlank w = true ∧ l = w ++ r := by
  induction l generalizing n with
  | nil =>
      cases n with
      | zero =>
          obtain rfl : [] = r := by simpa [dropBytes?] using h
          exact ⟨[], rfl, rfl⟩
      | succ k => simp [indentation, byteSize] at hn
  | cons c s ih =>
      cases n with
      | zero =>
          obtain rfl : c :: s = r := by simpa [dropBytes?] using h
          exact ⟨[], rfl, rfl⟩
      | succ k =>
          cases hc : isBlank c with
          | false => simp [indentation, byteSize, hc] at hn
          | true =>
              rw [dropBytes?] at h
              split at h
              next hsize =>
                have hs : k + 1 - c.utf8Size ≤ byteSize (indentation s) := by
                  simp only [indentation, List.takeWhile_cons, hc, if_true, byteSize] at hn
                  simp only [indentation]
                  omega
                obtain ⟨w, hw, rfl⟩ := ih hs h
                refine ⟨c :: w, ?_, rfl⟩
                rw [Text.allBlank_cons, hc, Bool.true_and]
                exact hw
              next => exact absurd h (by simp)

theorem trim_trimLeft (t : Text) : Text.trim (trimLeft t) = Text.trim t := by
  conv => rhs; rw [← Text.indentation_append_trimLeft t]
  rw [Text.trim_blank_append (Text.allBlank_indentation t)]

theorem trim_outdentLine {n : Nat} {l : Text} (hn : n ≤ byteSize (indentation l)) :
    Text.trim (outdentLine n l) = Text.trim l := by
  rw [outdentLine]
  split
  next hblank => rw [Text.trim_eq_nil_iff.2 hblank]; rfl
  next =>
    rw [Text.trim_trimRight]
    cases h : dropBytes? n l with
    | none => exact trim_trimLeft l
    | some r =>
        obtain ⟨w, hw, hl⟩ := exists_append_of_dropBytes? hn h
        rw [Option.getD_some, hl, Text.trim_blank_append hw]

/-- How many bytes of blanks stand in front of the lines that are not blank. -/
def indents (b : Block) : List Nat :=
  (b.filter fun l => !allBlank l).map fun l => byteSize (indentation l)

theorem mem_indents {b : Block} {n : Nat} :
    n ∈ indents b ↔ ∃ l ∈ b, allBlank l = false ∧ byteSize (indentation l) = n := by
  simp [indents, and_assoc]

theorem min?_indents {b : Block} {l : Text} (hl : l ∈ b) (hink : allBlank l = false) :
    (indents b).min? = some (commonIndent b) := by
  have hmem : byteSize (indentation l) ∈ indents b := mem_indents.2 ⟨l, hl, hink, rfl⟩
  obtain ⟨n, hn⟩ := Option.isSome_iff_exists.1 (List.isSome_min?_of_mem hmem)
  have hcommon : commonIndent b = n := by
    show (indents b).min?.getD 0 = n
    rw [hn, Option.getD_some]
  rw [hn, hcommon]

theorem commonIndent_le {b : Block} {l : Text} (hl : l ∈ b) (hink : allBlank l = false) :
    commonIndent b ≤ byteSize (indentation l) :=
  (List.min?_eq_some_iff.1 (min?_indents hl hink)).2 _ (mem_indents.2 ⟨l, hl, hink, rfl⟩)

theorem trim_outdentLine_of_mem {b : Block} {l : Text} (hl : l ∈ b) :
    Text.trim (outdentLine b.commonIndent l) = Text.trim l := by
  cases h : allBlank l with
  | true => rw [outdentLine, if_pos h, Text.trim_eq_nil_iff.2 h]; rfl
  | false => exact trim_outdentLine (commonIndent_le hl h)

theorem outdentLine_ne_nil {b : Block} {l : Text} (hl : l ∈ b) (hink : allBlank l = false) :
    outdentLine b.commonIndent l ≠ [] := by
  intro hnil
  have htrim := trim_outdentLine_of_mem hl
  rw [hnil] at htrim
  rw [Text.trim_eq_nil_iff.1 htrim.symm] at hink
  exact absurd hink (by simp)

theorem map_trim_dedent (b : Block) :
    (dedent b).map Text.trim = b.core.map Text.trim := by
  rw [dedent, List.map_map]
  exact List.map_congr_left fun l hl => trim_outdentLine_of_mem hl

/-- Lines taken off at the ends of a block are blank. -/
theorem exists_append_core_append (b : Block) :
    ∃ u v, (∀ l ∈ u, allBlank l = true) ∧ (∀ l ∈ v, allBlank l = true) ∧ b = u ++ (b.core ++ v) := by
  refine ⟨b.takeWhile allBlank, ((b.dropWhile allBlank).reverse.takeWhile allBlank).reverse,
    ?_, ?_, ?_⟩
  · intro l hl
    exact List.mem_takeWhile_imp hl
  · intro l hl
    exact List.mem_takeWhile_imp (List.mem_reverse.1 hl)
  · rw [core, ← List.reverse_append, List.takeWhile_append_dropWhile, List.reverse_reverse,
      List.takeWhile_append_dropWhile]

theorem written_of_blank {b : Block} (h : ∀ l ∈ b, allBlank l = true) : written b = [] := by
  rw [List.eq_nil_iff_forall_not_mem]
  intro t ht
  obtain ⟨l, hl, hink, -⟩ := mem_written.1 ht
  rw [h l hl] at hink
  exact absurd hink (by simp)

theorem written_dedent (b : Block) : written (dedent b) = written b := by
  obtain ⟨u, v, hu, hv, hb⟩ := exists_append_core_append b
  conv => rhs; rw [hb, written_append, written_append, written_of_blank hu, written_of_blank hv]
  rw [List.nil_append, List.append_nil]
  exact written_congr (map_trim_dedent b)

theorem mem_of_mem_core {b : Block} {l : Text} (h : l ∈ b.core) : l ∈ b := by
  obtain ⟨u, v, -, -, hb⟩ := exists_append_core_append b
  rw [hb]
  exact List.mem_append_right _ (List.mem_append_left _ h)

/-- Every line of a dedented block comes from a line of the block. -/
theorem exists_of_mem_dedent {b : Block} {l : Text} (h : l ∈ dedent b) :
    ∃ k ∈ b, Text.trim l = Text.trim k ∧ ∀ c ∈ l, c ∈ k := by
  obtain ⟨k, hk, rfl⟩ := List.mem_map.1 h
  refine ⟨k, mem_of_mem_core hk, trim_outdentLine_of_mem hk, ?_⟩
  intro c hc
  rw [outdentLine] at hc
  split at hc
  next => exact absurd hc List.not_mem_nil
  next hink =>
    have hkept := List.mem_reverse.1 ((List.dropWhile_sublist _).subset (List.mem_reverse.1 hc))
    cases hd : dropBytes? b.core.commonIndent k with
    | none =>
        rw [hd] at hkept
        exact (List.dropWhile_sublist _).subset hkept
    | some r =>
        have hle := commonIndent_le hk (Bool.eq_false_iff.2 hink)
        obtain ⟨w, -, hw⟩ := exists_append_of_dropBytes? hle hd
        rw [hd, Option.getD_some] at hkept
        rw [hw]
        exact List.mem_append_right w hkept

/-- A dedented block has no blanks at the ends of its lines. -/
theorem ink_of_getLast?_dedent {b : Block} {l : Text} (hl : l ∈ dedent b) {c : Char}
    (hc : l.getLast? = some c) : isBlank c = false := by
  obtain ⟨k, -, rfl⟩ := List.mem_map.1 hl
  rw [outdentLine] at hc
  split at hc
  next => exact absurd hc (by simp)
  next => exact Text.isBlank_of_getLast?_trimRight hc

/-- No line of a dedented block ends with a carriage return, however it is indented. -/
theorem getLast?_indentBy_dedent_ne (indent : Text) (b : Block) :
    ∀ l ∈ indentBy indent (dedent b), l.getLast? ≠ some '\r' := by
  intro l hl hreturn
  obtain ⟨k, hk, rfl⟩ := List.mem_map.1 hl
  split at hreturn
  next => exact absurd hreturn (by simp)
  next hne =>
    have hlast : k.getLast? = some '\r' := by
      rw [List.isEmpty_iff] at hne
      rwa [List.getLast?_append, List.getLast?_eq_some_getLast hne, Option.some_or,
        ← List.getLast?_eq_some_getLast hne] at hreturn
    exact absurd (ink_of_getLast?_dedent hk hlast) (by decide)

theorem ink_of_getLast?_core {b : Block} {l : Text} (h : b.core.getLast? = some l) :
    allBlank l = false := by
  have hstop := List.head?_dropWhile_not allBlank (b.dropWhile allBlank).reverse
  rw [core, List.getLast?_reverse] at h
  rw [h] at hstop
  simpa using hstop

/-- A dedented block does not end with an empty line. -/
theorem getLast?_dedent_ne (b : Block) : (dedent b).getLast? ≠ some [] := by
  rw [dedent, List.getLast?_map]
  intro h
  obtain ⟨l, hl, hnil⟩ := Option.map_eq_some_iff.1 h
  exact outdentLine_ne_nil (List.mem_of_getLast? hl) (ink_of_getLast?_core hl) hnil

end Scaffold.Block
