/-
# When a snippet counts as present

Presence is read off the written lines of the file (`isPresent_congr`), so no
change of layout, and no line ending, can make a snippet come or go.

A file that only grows keeps its snippets, with one danger: new lines might
stand inside the run that made a snippet count as present.  They cannot where
the file is cut beside a line whose text is in no way a line of the snippet,
since no run goes across such a line (`infix_append_cons`).  This is
`isPresent_of_cut`, and the ADD markers are such lines.

A block that stands in the file, up to blanks around its lines, is present
(`isPresent_of_sameTrimmed`).
-/
import Scaffold.Presence
import Scaffold.Proofs.CodeLines
import Scaffold.Proofs.Layout

namespace Scaffold

open Text (allBlank)
open Block (normalized written)

/-! ## Runs of neighbours -/

theorem Text.hasRun_iff_infix {α : Type} [BEq α] [LawfulBEq α] {needle l : List α} :
    Text.hasRun needle l = true ↔ needle <:+: l := by
  induction l with
  | nil =>
      rw [Text.hasRun, List.isEmpty_iff]
      exact ⟨fun h => h ▸ List.infix_rfl, List.eq_nil_of_infix_nil⟩
  | cons a r ih =>
      rw [Text.hasRun, Bool.or_eq_true, List.isPrefixOf_iff_prefix, ih, List.infix_cons_iff]

theorem prefix_of_append_cons {α : Type} {needle a b : List α} {m : α} (hm : m ∉ needle)
    (h : needle <+: a ++ m :: b) : needle <+: a := by
  rcases List.prefix_or_prefix_of_prefix h (List.prefix_append a (m :: b)) with h' | ⟨c, hc⟩
  · exact h'
  · cases c with
    | nil =>
        rw [List.append_nil] at hc
        exact hc ▸ List.prefix_rfl
    | cons d e =>
        rw [← hc] at h
        have hd : d = m := (List.cons_prefix_cons.1 ((List.prefix_append_right_inj a).1 h)).1
        exact absurd (by rw [← hc, hd]; simp) hm

/-- No run goes across a member that it does not hold. -/
theorem infix_append_cons {α : Type} {needle a b : List α} {m : α} (hm : m ∉ needle)
    (h : needle <:+: a ++ m :: b) : needle <:+: a ∨ needle <:+: b := by
  induction a with
  | nil =>
      rcases List.infix_cons_iff.1 h with h | h
      · exact .inl (prefix_of_append_cons (a := []) hm h).isInfix
      · exact .inr h
  | cons x r ih =>
      rcases List.infix_cons_iff.1 h with h | h
      · exact .inl (prefix_of_append_cons (a := x :: r) hm h).isInfix
      · exact (ih h).imp_left fun h => List.infix_cons h

/-! ## The three signs -/

namespace Presence

theorem importsSame_iff {file : List Text} {first : Text} :
    importsSame file first = true ↔
      ∃ m, LineKind.importedModule? first = some m ∧
        ∃ l ∈ file, LineKind.importedModule? l = some m := by
  rw [importsSame]
  cases LineKind.importedModule? first with
  | none => simp
  | some m => simp

theorem listsSame_iff {file : List Text} {first : Text} :
    listsSame file first = true ↔
      first.getLast? = some ',' ∧ ∃ l ∈ file, Text.dropBlanks l = Text.dropBlanks first := by
  simp [listsSame]

theorem dropBlanks_ne_nil_of_comma {first : Text} (h : first.getLast? = some ',') :
    Text.dropBlanks first ≠ [] := by
  intro hnil
  have hmem : ',' ∈ Text.dropBlanks first :=
    List.mem_filter.2 ⟨List.mem_of_getLast? h, by decide⟩
  rw [hnil] at hmem
  exact absurd hmem List.not_mem_nil

theorem dropBlanks_of_blank {l : Text} (h : allBlank l = true) : Text.dropBlanks l = [] := by
  rw [Text.dropBlanks_eq_flatten_words, Text.words_of_blank h]
  rfl

/-- Only the written lines of a file count for any of the signs. -/
theorem importsSame_written (file : Block) (first : Text) :
    importsSame (written file) first = importsSame file first := by
  rw [Bool.eq_iff_iff, importsSame_iff, importsSame_iff]
  refine exists_congr fun m => and_congr_right fun _ => ?_
  constructor
  · rintro ⟨t, ht, hm⟩
    obtain ⟨l, hl, -, rfl⟩ := Block.mem_written.1 ht
    exact ⟨l, hl, (LineKind.ignoresBlanks_importedModule?.trim l) ▸ hm⟩
  · rintro ⟨l, hl, hm⟩
    refine ⟨Text.trim l, Block.mem_written.2 ⟨l, hl, ?_, rfl⟩, ?_⟩
    · cases h : allBlank l with
      | false => rfl
      | true =>
          rw [LineKind.importedModule?_of_blank h] at hm
          exact absurd hm (by simp)
    · rw [LineKind.ignoresBlanks_importedModule?.trim l, hm]

theorem listsSame_written (file : Block) (first : Text) :
    listsSame (written file) first = listsSame file first := by
  rw [Bool.eq_iff_iff, listsSame_iff, listsSame_iff]
  refine and_congr_right ?_
  intro hcomma
  constructor
  · rintro ⟨t, ht, hd⟩
    obtain ⟨l, hl, -, rfl⟩ := Block.mem_written.1 ht
    exact ⟨l, hl, (Text.ignoresBlanks_dropBlanks.trim l) ▸ hd⟩
  · rintro ⟨l, hl, hd⟩
    refine ⟨Text.trim l, Block.mem_written.2 ⟨l, hl, ?_, rfl⟩, ?_⟩
    · cases h : allBlank l with
      | false => rfl
      | true => exact absurd (hd ▸ dropBlanks_of_blank h) (dropBlanks_ne_nil_of_comma hcomma)
    · rw [Text.ignoresBlanks_dropBlanks.trim l, hd]

end Presence

open Presence (importsSame importsSame_iff listsSame listsSame_iff)

theorem isPresent_iff {file : List Text} {snippet : Block} :
    isPresent file snippet = true ↔ normalized snippet = [] ∨
      ∃ first more, normalized snippet = first :: more ∧
        (normalized snippet <:+: normalized file ∨ importsSame file first = true ∨
          listsSame file first = true) := by
  rw [isPresent]
  cases h : normalized snippet with
  | nil => simp
  | cons first more =>
      simp only [Bool.or_eq_true, Text.hasRun_iff_infix, reduceCtorEq, false_or, List.cons.injEq]
      constructor
      · intro hp
        exact ⟨first, more, ⟨rfl, rfl⟩, or_assoc.1 hp⟩
      · rintro ⟨_, _, ⟨rfl, rfl⟩, hp⟩
        exact or_assoc.2 hp

/-- Presence does not hang on the layout of the file or of the snippet. -/
theorem isPresent_congr {file file' snippet snippet' : Block} (hf : written file = written file')
    (hs : written snippet = written snippet') :
    isPresent file snippet = isPresent file' snippet' := by
  rw [isPresent, isPresent, Block.normalized_congr hs, Block.normalized_congr hf]
  cases normalized snippet' with
  | nil => rfl
  | cons first more =>
      simp only [← Presence.importsSame_written file, ← Presence.listsSame_written file, hf,
        Presence.importsSame_written, Presence.listsSame_written]

/-! ## Files that grow -/

theorem isPresent_of_infix {file : List Text} {snippet : Block}
    (h : normalized snippet <:+: normalized file) : isPresent file snippet = true := by
  rw [isPresent_iff]
  cases hs : normalized snippet with
  | nil => exact .inl rfl
  | cons first more => exact .inr ⟨first, more, rfl, .inl (hs ▸ h)⟩

/-- A file cut beside a line that is no line of the snippet may be put together
anew around both parts, whatever comes between them. -/
theorem isPresent_of_cut {a b file : List Text} {line : Text} {snippet : Block}
    (hink : allBlank line = false) (hline : Text.collapse line ∉ normalized snippet)
    (ha : a <:+: file) (hb : b <:+: file) (hmem : line ∈ file)
    (h : isPresent (a ++ line :: b) snippet = true) : isPresent file snippet = true := by
  have hpart : ∀ l ∈ a ++ line :: b, l ∈ file := by
    intro l hl
    rcases List.mem_append.1 hl with hl | hl
    · exact ha.subset hl
    · rcases List.mem_cons.1 hl with rfl | hl
      · exact hmem
      · exact hb.subset hl
  have hnormal : ∀ {u : List Text}, u <:+: file → normalized u <:+: normalized file := by
    rintro u ⟨x, y, rfl⟩
    refine ⟨normalized x, normalized y, ?_⟩
    rw [Block.normalized_append, Block.normalized_append]
  rcases isPresent_iff.1 h with hnil | ⟨first, more, hs, hrun | himp | hlist⟩
  · exact isPresent_iff.2 (.inl hnil)
  · refine isPresent_of_infix ?_
    rw [Block.normalized_append, Block.normalized_cons_of_ink hink] at hrun
    rcases infix_append_cons hline hrun with hrun | hrun
    · exact hrun.trans (hnormal ha)
    · exact hrun.trans (hnormal hb)
  · obtain ⟨m, hm, l, hl, hlm⟩ := importsSame_iff.1 himp
    exact isPresent_iff.2 (.inr ⟨first, more, hs, .inr (.inl
      (importsSame_iff.2 ⟨m, hm, l, hpart l hl, hlm⟩))⟩)
  · obtain ⟨hcomma, l, hl, hld⟩ := listsSame_iff.1 hlist
    exact isPresent_iff.2 (.inr ⟨first, more, hs, .inr (.inr
      (listsSame_iff.2 ⟨hcomma, l, hpart l hl, hld⟩))⟩)

/-- A block that stands among the lines of a file is present. -/
theorem isPresent_of_written {pre w post : List Text} {snippet : Block}
    (h : written w = written snippet) : isPresent (pre ++ (w ++ post)) snippet = true := by
  refine isPresent_of_infix ⟨normalized pre, normalized post, ?_⟩
  rw [← Block.normalized_congr h, Block.normalized_append, Block.normalized_append,
    List.append_assoc]

theorem isPresent_of_sameTrimmed {pre w post : List Text} {snippet : Block} {indent : Text}
    (hindent : allBlank indent = true)
    (h : Block.sameTrimmed w (Block.indentBy indent snippet) = true) :
    isPresent (pre ++ (w ++ post)) snippet = true := by
  rw [Block.sameTrimmed, beq_iff_eq, Block.map_trim_indentBy hindent] at h
  exact isPresent_of_written (Block.written_congr h)

end Scaffold
