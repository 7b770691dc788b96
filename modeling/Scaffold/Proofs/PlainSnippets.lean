/-
# The snippets of a template hold no markers

Lines reach a snippet only if they are no markers, and taking their indentation
away or giving them another one makes them none.  So what a merge inserts never
asks for anything itself, and it is in no way the line of a marker that could
ask (`Block.Plain.collapse_notMem`).

A key that means a snippet is no blank (`SnippetMap.allBlank_of_resolve?`):
the keys of a template are trimmed, and the normal form of a blank is empty.
-/
import Scaffold.Snippet.Key
import Scaffold.Proofs.CodeLines
import Scaffold.Proofs.Layout
import Scaffold.Proofs.LineEndings
import Scaffold.Proofs.MarkerLines
import Scaffold.Proofs.SnippetSources

namespace Scaffold

open Text (allBlank)

/-! ## Plain blocks -/

/-- A block as a merge may insert it: whole lines, no markers, and a last line
that can be the last one of a file. -/
structure Block.Plain (b : Block) : Prop where
  noFeed : ∀ l ∈ b, '\n' ∉ l
  noMarker : ∀ l ∈ b, Marker.ofLine? l = none
  last : b.getLast? ≠ some []

namespace Block

/-- Lines as they come to a snippet. -/
def Raw (b : Block) : Prop :=
  ∀ l ∈ b, '\n' ∉ l ∧ Marker.ofLine? l = none

theorem plain_dedent {b : Block} (h : b.Raw) : (dedent b).Plain where
  noFeed l hl := by
    obtain ⟨k, hk, -, hsub⟩ := exists_of_mem_dedent hl
    exact fun hm => (h k hk).1 (hsub _ hm)
  noMarker l hl := by
    obtain ⟨k, hk, htrim, -⟩ := exists_of_mem_dedent hl
    rw [Marker.ignoresBlanks_ofLine?.congr htrim]
    exact (h k hk).2
  last := getLast?_dedent_ne b

theorem Plain.indentBy {b : Block} (h : b.Plain) {indent : Text} (hblank : allBlank indent = true)
    (hnl : '\n' ∉ indent) : (b.indentBy indent).Plain where
  noFeed l hl := by
    obtain ⟨k, hk, rfl⟩ := List.mem_map.1 hl
    split
    · exact List.not_mem_nil
    · rw [List.mem_append, not_or]
      exact ⟨hnl, h.noFeed k hk⟩
  noMarker l hl := by
    obtain ⟨k, hk, rfl⟩ := List.mem_map.1 hl
    split
    · rfl
    · rw [Marker.ignoresBlanks_ofLine?.before _ _ hblank]
      exact h.noMarker k hk
  last := by
    rw [Block.indentBy, List.getLast?_map]
    intro hnil
    obtain ⟨k, hk, heq⟩ := Option.map_eq_some_iff.1 hnil
    split at heq
    next hempty => exact h.last (by rw [hk, List.isEmpty_iff.1 hempty])
    next hempty =>
      obtain ⟨-, rfl⟩ := List.append_eq_nil_iff.1 heq
      exact hempty rfl

/-- The text of a marker that can ask for a snippet is no line of one. -/
theorem Plain.collapse_notMem {b : Block} (h : b.Plain) {line key : Text} {p : Position}
    (hline : Marker.ofLine? line = some (.add key p)) (hkey : allBlank key = false) :
    Text.collapse line ∉ normalized b := by
  intro hm
  obtain ⟨l, hl, -, heq⟩ := mem_normalized.1 hm
  exact Marker.collapse_ne_of_add hline hkey (h.noFeed l hl) (h.noMarker l hl) heq

end Block

/-! ## The snippets of a template -/

/-- A key as a START line can have it. -/
structure Key.Proper (key : Text) : Prop where
  ink : allBlank key = false
  noFeed : '\n' ∉ key

/-- Snippets as they come from a template. -/
def SnippetMap.Plain (m : SnippetMap) : Prop :=
  ∀ e ∈ m.entries, Key.Proper e.1 ∧ e.2.Plain

namespace Marker

theorem proper_of_blockKey? {rest key : Text} (h : blockKey? rest = some key) :
    Key.Proper key := by
  obtain ⟨hne, htrim, hnl, -⟩ := blockKey?_eq_some_iff.1 h
  refine ⟨?_, hnl⟩
  cases hblank : allBlank key with
  | false => rfl
  | true => exact absurd (htrim.symm.trans (Text.trim_eq_nil_iff.2 hblank)) hne

theorem exists_blockKey?_of_start {line key : Text} (h : ofLine? line = some (.start key)) :
    ∃ rest, blockKey? rest = some key := by
  have hblock := block?_of_ofLine? h (by simp)
  rw [block?_eq] at hblock
  obtain ⟨r, -, hr⟩ := Option.bind_eq_some_iff.1 hblock
  obtain ⟨rest, k, hk, ⟨-, heq⟩ | ⟨-, heq⟩⟩ := exists_of_blockTail? hr
  · obtain rfl : key = k := by simpa using heq
    exact ⟨rest, hk⟩
  · exact absurd heq (by simp)

theorem proper_of_start {line key : Text} (h : ofLine? line = some (.start key)) :
    Key.Proper key := by
  obtain ⟨rest, hrest⟩ := exists_blockKey?_of_start h
  exact proper_of_blockKey? hrest

end Marker

namespace SnippetMap

theorem plain_ofText (template : Text) : (ofText template).Plain := by
  intro e he
  obtain ⟨⟨line, -, hline⟩, body, hdedent, hrun⟩ := exists_source he
  refine ⟨Marker.proper_of_start hline, ?_⟩
  rw [hdedent]
  refine Block.plain_dedent ?_
  intro l hl
  obtain ⟨hmem, hplain⟩ := List.mem_filter.1 (hrun.subset hl)
  exact ⟨Text.not_mem_of_mem_lines hmem, by simpa [Marker.isMarker] using hplain⟩

/-! ## What a key means -/

theorem mem_of_firstLeast? {α : Type} {f : α → Nat} {l : List α} {a : α}
    (h : Key.firstLeast? f l = some a) : a ∈ l := by
  induction l generalizing a with
  | nil => exact absurd h (by simp [Key.firstLeast?])
  | cons b r ih =>
      rw [Key.firstLeast?] at h
      split at h
      next =>
        obtain rfl : b = a := by simpa using h
        exact List.mem_cons_self
      next c hc =>
        split at h
        · obtain rfl : c = a := by simpa using h
          exact List.mem_cons_of_mem _ (ih hc)
        · obtain rfl : b = a := by simpa using h
          exact List.mem_cons_self

theorem mem_of_resolve? {m : SnippetMap} {key : Text} {e : Text × Block}
    (h : m.resolve? key = some e) : e ∈ m.entries := by
  rw [resolve?] at h
  split at h
  next e' he =>
    obtain rfl : e' = e := by simpa using h
    exact List.mem_of_find?_eq_some he
  next =>
    simp only at h
    split at h
    next => exact absurd h (by simp)
    next =>
      rw [resolveNormal?] at h
      rcases Option.or_eq_some_iff.1 h with h | ⟨-, h⟩
      · exact (List.mem_filter.1 (List.mem_of_find?_eq_some h)).1
      · rcases Option.or_eq_some_iff.1 h with h | ⟨-, h⟩
        · exact (List.mem_filter.1 (List.mem_filter.1 (mem_of_firstLeast? h)).1).1
        · exact (List.mem_filter.1 (List.mem_of_find?_eq_some h)).1

theorem resolve?_of_mem {m : SnippetMap} (h : m.keys.Nodup) {e : Text × Block}
    (he : e ∈ m.entries) : m.resolve? e.1 = some e := by
  rw [resolve?, find?_of_mem h he]

theorem normalize_of_blank {key : Text} (h : allBlank key = true) : Key.normalize key = [] := by
  have hnone : key.filter Unicode.isAlphanumeric = [] := by
    rw [List.filter_eq_nil_iff]
    intro c hc
    rw [Unicode.isAlphanumeric_of_isBlank (Text.allBlank_iff.1 h c hc)]
    exact Bool.false_ne_true
  rw [Key.normalize, hnone]
  rfl

theorem Plain.of_resolve? {m : SnippetMap} (hm : m.Plain) {key : Text} {e : Text × Block}
    (h : m.resolve? key = some e) : e.2.Plain :=
  (hm e (mem_of_resolve? h)).2

theorem Plain.allBlank_of_resolve? {m : SnippetMap} (hm : m.Plain) {key : Text} {e : Text × Block}
    (h : m.resolve? key = some e) : allBlank key = false := by
  rw [resolve?] at h
  split at h
  next e' he =>
    have hkey : e'.1 = key := by simpa using List.find?_some he
    exact hkey ▸ (hm e' (List.mem_of_find?_eq_some he)).1.ink
  next =>
    cases hblank : allBlank key with
    | false => rfl
    | true =>
        rw [normalize_of_blank hblank] at h
        exact absurd h (by simp)

end SnippetMap

end Scaffold
