/-
# Layout decides nothing

Two lists of lines have the same text if they agree line by line up to blanks around the
lines, once blank lines are left out of both (`Relaid`).  Whether a file holds a snippet
is the same for every layout of the two (`isPresent_congr`), and so is what a merge does
with them: the merge of one layout and the merge of another pass the same markers, serve
the same ones and leave the same text behind (`merge_ignores_layout`).

Each step has a partner in the other run, except for a blank line, which has none.  Hence
the two readers, of a template and of a file, are compared by induction on `Relaid`, with
one case for a line that both have and one for a blank line on either side.
-/
import Scaffold.Proofs.MergeLaws

namespace Scaffold

open Block (written written_append)
open Marker (ofLine?)
open Text (allBlank indentation)

/-! ## Two layouts of one text -/

/-- Lines with the same text. -/
inductive Relaid : List Text → List Text → Prop
  | nil : Relaid [] []
  | line {l l' : Text} {ls ls' : List Text} (h : Text.trim l = Text.trim l')
      (hrest : Relaid ls ls') : Relaid (l :: ls) (l' :: ls')
  | blankLeft {l : Text} {ls ls' : List Text} (h : allBlank l = true) (hrest : Relaid ls ls') :
      Relaid (l :: ls) ls'
  | blankRight {l : Text} {ls ls' : List Text} (h : allBlank l = true) (hrest : Relaid ls ls') :
      Relaid ls (l :: ls')

theorem Relaid.written_eq {ls ls' : List Text} (h : Relaid ls ls') : written ls = written ls' := by
  induction h with
  | nil => rfl
  | line h _ ih =>
      rw [← List.singleton_append, written_append, ih, Block.written_singleton_congr h,
        ← written_append, List.singleton_append]
  | blankLeft h _ ih => rw [Block.written_cons_of_blank h, ih]
  | blankRight h _ ih => rw [Block.written_cons_of_blank h, ih]

theorem Relaid.of_written_eq {ls ls' : List Text} (h : written ls = written ls') :
    Relaid ls ls' := by
  induction ls generalizing ls' with
  | nil =>
      induction ls' with
      | nil => exact .nil
      | cons l' r' ih =>
          cases hblank : allBlank l' with
          | true => exact .blankRight hblank (ih (h.trans (Block.written_cons_of_blank hblank r')))
          | false =>
              have hcons := h.trans (Block.written_cons_of_ink hblank r')
              exact absurd hcons.symm (List.cons_ne_nil _ _)
  | cons l r ih =>
      cases hblank : allBlank l with
      | true => exact .blankLeft hblank (ih ((Block.written_cons_of_blank hblank r).symm.trans h))
      | false =>
          rw [Block.written_cons_of_ink hblank] at h
          induction ls' with
          | nil => exact absurd h (List.cons_ne_nil _ _)
          | cons l' r' ih' =>
              cases hblank' : allBlank l' with
              | true =>
                  exact .blankRight hblank' (ih' (h.trans (Block.written_cons_of_blank hblank' r')))
              | false =>
                  rw [Block.written_cons_of_ink hblank', List.cons.injEq] at h
                  exact .line h.1 (ih h.2)

/-! ## Snippets up to layout -/

namespace SnippetMap

def writtenEntry (e : Text × Block) : Text × Block :=
  (e.1, written e.2)

/-- The snippets without their layout. -/
def written (m : SnippetMap) : SnippetMap :=
  ⟨m.entries.map writtenEntry⟩

theorem find?_written (m : SnippetMap) (key : Text) :
    m.written.find? key = (m.find? key).map writtenEntry :=
  List.find?_map ..

theorem insertNew_written (m : SnippetMap) (key : Text) (b : Block) :
    (m.insertNew key b).written = m.written.insertNew key (Block.written b) := by
  rw [insertNew, insertNew, find?_written]
  cases m.find? key with
  | some e => rfl
  | none => simp [written, writtenEntry]

theorem firstLeast?_map {α β : Type} (g : α → β) (f : β → Nat) (l : List α) :
    Key.firstLeast? f (l.map g) = (Key.firstLeast? (f ∘ g) l).map g := by
  induction l with
  | nil => rfl
  | cons a r ih =>
      rw [List.map_cons, Key.firstLeast?, ih, Key.firstLeast?]
      cases Key.firstLeast? (f ∘ g) r with
      | none => rfl
      | some b =>
          simp only [Option.map_some, Function.comp_apply]
          split <;> rfl

theorem resolveNormal?_written (m : SnippetMap) (target : Text) :
    m.written.resolveNormal? target = (m.resolveNormal? target).map writtenEntry := by
  simp only [resolveNormal?, written, List.filter_map, List.find?_map, firstLeast?_map,
    Option.map_or]
  rfl

/-- What a key means is told by the keys. -/
theorem resolve?_written (m : SnippetMap) (key : Text) :
    m.written.resolve? key = (m.resolve? key).map writtenEntry := by
  rw [resolve?, resolve?, find?_written]
  cases m.find? key with
  | some e => rfl
  | none =>
      simp only [Option.map_none, resolveNormal?_written]
      split <;> rfl

end SnippetMap

/-! ## Reading a template -/

namespace Extraction

open SnippetMap (insertNew_written writtenEntry)

/-- Two readings that stand at the same place of one text. -/
structure State.Alike (s s' : State) : Prop where
  snippets : s.snippets.written = s'.snippets.written
  opened : s.open?.map writtenEntry = s'.open?.map writtenEntry

variable {s s' : State} {line line' : Text}

theorem State.Alike.symm (h : s.Alike s') : s'.Alike s :=
  ⟨h.snippets.symm, h.opened.symm⟩

theorem State.Alike.cases_open (h : s.Alike s') :
    (s.open? = none ∧ s'.open? = none) ∨
      ∃ key body body', s.open? = some (key, body) ∧ s'.open? = some (key, body') ∧
        written body = written body' := by
  have hopened := h.opened
  cases hs : s.open? with
  | none =>
      rw [hs, Option.map_none] at hopened
      exact .inl ⟨rfl, Option.map_eq_none_iff.1 hopened.symm⟩
  | some b =>
      rw [hs, Option.map_some] at hopened
      obtain ⟨b', hs', hb⟩ := Option.map_eq_some_iff.1 hopened.symm
      obtain ⟨hkey, hbody⟩ := Prod.mk.inj hb
      exact .inr ⟨b.1, b.2, b'.2, rfl, by rw [hs', ← hkey], hbody.symm⟩

theorem State.Alike.close (h : s.Alike s') : s.close.Alike s'.close := by
  rcases h.cases_open with ⟨hs, hs'⟩ | ⟨key, body, body', hs, hs', hbody⟩
  · rw [State.close, State.close, hs, hs']
    exact h
  · rw [State.close, State.close, hs, hs']
    refine ⟨?_, rfl⟩
    simp only [insertNew_written, h.snippets, Block.written_dedent, hbody]

theorem State.Alike.step (h : s.Alike s') (hline : Text.trim line = Text.trim line') :
    (s.step line).Alike (s'.step line') := by
  have hmarker : ofLine? line = ofLine? line' := Marker.ignoresBlanks_ofLine?.congr hline
  rw [State.step, State.step, hmarker]
  cases ofLine? line' with
  | some m =>
      cases m with
      | start key => exact ⟨h.close.snippets, rfl⟩
      | stop key => exact h.close
      | add key p => exact h
  | none =>
      rcases h.cases_open with ⟨hs, hs'⟩ | ⟨key, body, body', hs, hs', hbody⟩
      · simp only [hs, hs']
        exact ⟨h.snippets, rfl⟩
      · simp only [hs, hs']
        refine ⟨h.snippets, ?_⟩
        simp only [Option.map_some, writtenEntry, written_append, hbody,
          Block.written_singleton_congr hline]

theorem State.Alike.blank (h : s.Alike s') (hblank : allBlank line = true) :
    (s.step line).Alike s' := by
  rw [State.step, Marker.ofLine?_of_blank hblank]
  rcases h.cases_open with ⟨hs, hs'⟩ | ⟨key, body, body', hs, hs', hbody⟩
  · simp only [hs]
    exact ⟨h.snippets, by rw [hs']⟩
  · simp only [hs]
    refine ⟨h.snippets, ?_⟩
    simp only [hs', Option.map_some, writtenEntry, Block.written_concat_of_blank hblank, hbody]

theorem State.Alike.foldl {ls ls' : List Text} (hrelaid : Relaid ls ls') (h : s.Alike s') :
    (ls.foldl State.step s).Alike (ls'.foldl State.step s') := by
  induction hrelaid generalizing s s' with
  | nil => exact h
  | line hline _ ih => exact ih (h.step hline)
  | blankLeft hblank _ ih => exact ih (h.blank hblank)
  | blankRight hblank _ ih => exact ih (h.symm.blank hblank).symm

end Extraction

theorem SnippetMap.written_ofText {template template' : Text}
    (h : Block.written template.lines = Block.written template'.lines) :
    (ofText template).written = (ofText template').written :=
  (Extraction.State.Alike.foldl (.of_written_eq h) ⟨rfl, rfl⟩).close.snippets

/-! ## Merging into a file -/

namespace Merge

/-- Two merges that stand at the same place of one text. -/
structure State.Alike (s s' : State) : Prop where
  done : written s.done = written s'.done
  handled : s.handled = s'.handled
  changed : s.changed = s'.changed

variable {S S' : SnippetMap} {s s' : State} {line line' : Text} {rest rest' : List Text}

theorem State.Alike.symm (h : s.Alike s') : s'.Alike s :=
  ⟨h.done.symm, h.handled.symm, h.changed.symm⟩

theorem State.Alike.keep (h : s.Alike s') (hline : Text.trim line = Text.trim line') :
    (s.keep line).Alike (s'.keep line') where
  done := by
    simp only [State.keep, written_append, h.done, Block.written_singleton_congr hline]
  handled := h.handled
  changed := h.changed

theorem State.Alike.blank (h : s.Alike s') (hblank : allBlank line = true) (S : SnippetMap)
    (rest : List Text) : (s.step S line rest).Alike s' := by
  have hkeep : s.step S line rest = s.keep line := by
    rw [State.step, Marker.ofLine?_of_blank hblank]
  rw [hkeep]
  refine ⟨?_, h.handled, h.changed⟩
  rw [State.keep, Block.written_concat_of_blank hblank, h.done]

theorem written_beside (hline : Text.trim line = Text.trim line') {b b' : Block}
    (hb : written b = written b') (p : Position) :
    written (beside line (b.indentBy (indentation line)) p) =
      written (beside line' (b'.indentBy (indentation line')) p) := by
  have hblock : written (b.indentBy (indentation line)) =
      written (b'.indentBy (indentation line')) := by
    rw [Block.written_indentBy (Text.allBlank_indentation line), hb,
      Block.written_indentBy (Text.allBlank_indentation line')]
  cases p with
  | above =>
      rw [beside, written_append, hblock, Block.written_singleton_congr hline, ← written_append,
        beside]
  | below =>
      rw [beside, ← List.singleton_append, written_append, hblock,
        Block.written_singleton_congr hline, ← written_append, List.singleton_append, beside]

/-- What the markers of two such merges are owed: nothing both, or blocks of one text that
neither file holds. -/
theorem owed?_alike (hS : S.written = S'.written) {done done' : List Text}
    (hfile : written (done ++ line :: rest) = written (done' ++ line' :: rest')) (key : Text) :
    (owed? S done line rest key = none ∧ owed? S' done' line' rest' key = none) ∨
      ∃ b b', owed? S done line rest key = some (b.indentBy (indentation line)) ∧
        owed? S' done' line' rest' key = some (b'.indentBy (indentation line')) ∧
        written b = written b' ∧ isPresent (done ++ line :: rest) b = false ∧
        isPresent (done' ++ line' :: rest') b' = false := by
  have hmeant : (S.resolve? key).map SnippetMap.writtenEntry =
      (S'.resolve? key).map SnippetMap.writtenEntry := by
    rw [← S.resolve?_written, hS, S'.resolve?_written]
  cases he : S.resolve? key with
  | none =>
      rw [he, Option.map_none] at hmeant
      have he' := Option.map_eq_none_iff.1 hmeant.symm
      exact .inl ⟨by rw [owed?, he], by rw [owed?, he']⟩
  | some e =>
      rw [he, Option.map_some] at hmeant
      obtain ⟨e', he', hentry⟩ := Option.map_eq_some_iff.1 hmeant.symm
      have hblock : written e.2 = written e'.2 := (Prod.mk.inj hentry).2.symm
      have hpresent := isPresent_congr hfile hblock
      cases hmissing : isPresent (done ++ line :: rest) e.2 with
      | true =>
          have hpresent' := hpresent.symm.trans hmissing
          exact .inl ⟨by simp [owed?, he, hmissing], by simp [owed?, he', hpresent']⟩
      | false =>
          have hmissing' := hpresent.symm.trans hmissing
          exact .inr ⟨e.2, e'.2, by simp [owed?, he, hmissing], by simp [owed?, he', hmissing'],
            hblock, hmissing, hmissing'⟩

theorem State.Alike.step (hS : S.written = S'.written) (h : s.Alike s')
    (hline : Text.trim line = Text.trim line') (hrest : written rest = written rest') :
    (s.step S line rest).Alike (s'.step S' line' rest') := by
  have hmarker : ofLine? line = ofLine? line' := Marker.ignoresBlanks_ofLine?.congr hline
  have hfile : written (s.done ++ line :: rest) = written (s'.done ++ line' :: rest') := by
    rw [written_append, h.done, (Relaid.line hline (.of_written_eq hrest)).written_eq,
      ← written_append]
  rw [State.step, State.step, hmarker]
  split
  next key p _ =>
    rw [h.handled]
    split
    next => exact h.keep hline
    next =>
      have hpassed : State.Alike { s with handled := key :: s'.handled }
          { s' with handled := key :: s'.handled } := ⟨h.done, rfl, h.changed⟩
      rcases owed?_alike hS hfile key with ⟨ho, ho'⟩ | ⟨b, b', ho, ho', hb, hmissing, hmissing'⟩
      · simp only [ho, ho']
        exact hpassed.keep hline
      · simp only [ho, ho']
        rw [State.place_of_missing { s with handled := key :: s'.handled } hmissing,
          State.place_of_missing { s' with handled := key :: s'.handled } hmissing']
        refine ⟨?_, rfl, rfl⟩
        simp only [written_append, h.done, written_beside hline hb]
  next => exact h.keep hline

theorem State.Alike.run (hS : S.written = S'.written) {ls ls' : List Text}
    (hrelaid : Relaid ls ls') (h : s.Alike s') : (s.run S ls).Alike (s'.run S' ls') := by
  induction hrelaid generalizing s s' with
  | nil => exact h
  | line hline hrest ih => exact ih (h.step hS hline hrest.written_eq)
  | blankLeft hblank _ ih => exact ih (h.blank hblank S _)
  | blankRight hblank _ ih => exact ih (h.symm.blank hblank S' _).symm

end Merge

/-! ## The file -/

theorem changed_mergeSnippets (existing : Text) (S : SnippetMap) :
    (mergeSnippets existing S).changed = (Merge.State.initial.run S existing.lines).changed := by
  rw [mergeSnippets, Lines.lines_ofText]
  cases (Merge.State.initial.run S existing.lines).changed <;> rfl

/-- Two files and two snippets of the same text: the one file holds the one snippet exactly
if the other holds the other.  So two files and two templates of the same text are merged
to files of the same text, and with the same answer whether anything was inserted. -/
theorem merge_ignores_layout :
    (∀ {file file' : List Text} {snippet snippet' : Block}, written file = written file' →
      written snippet = written snippet' →
      isPresent file snippet = isPresent file' snippet') ∧
    ∀ {existing existing' template template' : Text},
      written existing.lines = written existing'.lines →
      written template.lines = written template'.lines →
      let r := mergeTemplate existing template
      let r' := mergeTemplate existing' template'
      r.changed = r'.changed ∧ written r.content.lines = written r'.content.lines := by
  refine ⟨isPresent_congr, ?_⟩
  intro existing existing' template template' hexisting htemplate r r'
  have hrun : (Merge.State.initial.run (SnippetMap.ofText template) existing.lines).Alike
      (Merge.State.initial.run (SnippetMap.ofText template') existing'.lines) :=
    .run (SnippetMap.written_ofText htemplate) (.of_written_eq hexisting) ⟨rfl, rfl, rfl⟩
  constructor
  · simp only [r, r', mergeTemplate, changed_mergeSnippets, hrun.changed]
  · simp only [r, r', mergeTemplate]
    rw [written_lines_mergeSnippets (SnippetMap.plain_ofText template), hrun.done,
      written_lines_mergeSnippets (SnippetMap.plain_ofText template')]

/-- A file and a template, each as it is and spread out. -/
theorem merge_ignores_layout_of_spread_lines :
    let existing : Text := "// ADD X BELOW\na\n".toList
    let existing' : Text := "\r\n\t// ADD X BELOW\r\n\r\n  a".toList
    let template : Text := "// START OF X\nb\n  c\n// END OF X\n".toList
    let template' : Text := "  // START OF X\n\n      b\n\n  c\t\n  // END OF X".toList
    let spread : Block := ["  b".toList, [], "c\t".toList]
    (isPresent existing.lines ["b".toList, "  c".toList] = isPresent existing'.lines spread) ∧
      mergeTemplate existing template = .edited "// ADD X BELOW\nb\n  c\na\n".toList ∧
      (mergeTemplate existing template).changed = (mergeTemplate existing' template').changed ∧
      written (mergeTemplate existing template).content.lines =
        written (mergeTemplate existing' template').content.lines := by
  intro existing existing' template template' spread
  have hexisting : written existing.lines = written existing'.lines := by decide +kernel
  have htemplate : written template.lines = written template'.lines := by decide +kernel
  exact ⟨merge_ignores_layout.1 hexisting (by decide +kernel), by decide +kernel,
    merge_ignores_layout.2 hexisting htemplate⟩

end Scaffold
