/-
# A seeded file needs no seeding

Every place that is chosen for a marker is a place of the file
(`slotFor_within`), so every marker comes into the file (`mem_weave`), and what
is written there can be read again as a marker.  A file is settled if it has a
marker or the template needs none; seeding makes a file settled and leaves a
settled file alone.
-/
import Scaffold.Seeding
import Scaffold.Proofs.PlainSnippets

namespace Scaffold.Seeding

open Text (allBlank)
open Marker (addsIn anyIn isMarker)

/-! ## Places -/

/-- A place among `n` lines, the first of which has this index. -/
def Slot.Within (index n : Nat) : Slot → Prop
  | .before i => index ≤ i ∧ i < index + n
  | .after i => index ≤ i ∧ i < index + n
  | .atEnd => True

/-- A place is before the first line, after it, or a place of the others. -/
theorem Slot.within_succ_iff {slot : Slot} {index n : Nat} :
    slot.Within index (n + 1) ↔
      slot = .before index ∨ slot = .after index ∨ slot.Within (index + 1) n := by
  cases slot with
  | atEnd => simp [Within]
  | before i =>
      simp only [Within, Slot.before.injEq, reduceCtorEq, false_or]
      omega
  | after i =>
      simp only [Within, Slot.after.injEq, reduceCtorEq, false_or]
      omega

theorem lastIndex?_lt {p : Text → Bool} {ls : List Text} {i : Nat}
    (h : lastIndex? p ls = some i) : i < ls.length := by
  induction ls generalizing i with
  | nil => exact absurd h (by simp [lastIndex?])
  | cons l r ih =>
      rw [lastIndex?] at h
      split at h
      next j hj =>
        obtain rfl : j + 1 = i := by simpa using h
        exact Nat.succ_lt_succ (ih hj)
      next =>
        split at h
        · obtain rfl : 0 = i := by simpa using h
          exact Nat.succ_pos _
        · exact absurd h (by simp)

theorem within_of_lt {i n : Nat} (h : i < n) : 0 ≤ i ∧ i < 0 + n :=
  ⟨Nat.zero_le i, by rwa [Nat.zero_add]⟩

theorem slotFor_within (ls : List Text) (key : Text) :
    (slotFor ls key).1.Within 0 ls.length := by
  have hexport : ∀ i, ls.findIdx? LineKind.isExportLike = some i → i < ls.length :=
    fun i hi => (List.findIdx?_eq_some_iff_getElem.1 hi).1
  rw [slotFor]
  split
  · split
    next i hi => exact within_of_lt (lastIndex?_lt hi)
    next =>
      split
      next => exact trivial
      next hne => exact within_of_lt (List.length_pos_iff.2 fun hnil => hne (by rw [hnil]; rfl))
  · split
    · split
      next i hi => exact within_of_lt (hexport i hi)
      next => exact trivial
    · split
      next i hi => exact within_of_lt (lastIndex?_lt hi)
      next i _ hi => exact within_of_lt (hexport i hi)
      next => exact trivial

theorem mem_atSlot {placed : List (Slot × Text)} {slot : Slot} {m : Text} :
    m ∈ atSlot placed slot ↔ (slot, m) ∈ placed := by
  simp [atSlot]

/-- Every marker of a place of the file comes into the file. -/
theorem mem_weave {placed : List (Slot × Text)} {slot : Slot} {m : Text} {index : Nat}
    {ls : List Text} (hm : (slot, m) ∈ placed) (hslot : slot.Within index ls.length) :
    m ∈ weave placed index ls := by
  induction ls generalizing index with
  | nil =>
      cases slot with
      | atEnd => exact mem_atSlot.2 hm
      | before i => exact absurd hslot.2 (Nat.not_lt.2 hslot.1)
      | after i => exact absurd hslot.2 (Nat.not_lt.2 hslot.1)
  | cons l r ih =>
      rw [weave, List.mem_append, List.mem_append, List.mem_cons]
      rcases Slot.within_succ_iff.1 hslot with rfl | rfl | hlater
      · exact .inl (.inl (mem_atSlot.2 hm))
      · exact .inl (.inr (.inr (mem_atSlot.2 hm)))
      · exact .inr (ih hlater)

theorem mem_of_mem_weave {placed : List (Slot × Text)} {index : Nat} {ls : List Text} {l : Text}
    (h : l ∈ weave placed index ls) :
    l ∈ ls ∨ ∃ slot, (slot, l) ∈ placed ∧ slot.Within index ls.length := by
  induction ls generalizing index with
  | nil => exact .inr ⟨_, mem_atSlot.1 h, trivial⟩
  | cons k r ih =>
      rw [weave, List.mem_append, List.mem_append, List.mem_cons] at h
      rcases h with (h | rfl | h) | h
      · exact .inr ⟨_, mem_atSlot.1 h, Slot.within_succ_iff.2 (.inl rfl)⟩
      · exact .inl List.mem_cons_self
      · exact .inr ⟨_, mem_atSlot.1 h, Slot.within_succ_iff.2 (.inr (.inl rfl))⟩
      · rcases ih h with hl | ⟨slot, hm, hslot⟩
        · exact .inl (List.mem_cons_of_mem k hl)
        · exact .inr ⟨slot, hm, Slot.within_succ_iff.2 (.inr (.inr hslot))⟩

/-! ## Keys -/

theorem mem_of_mem_distinct {seen ks : List Text} {k : Text} (h : k ∈ distinct seen ks) :
    k ∈ ks := by
  induction ks generalizing seen with
  | nil => exact h
  | cons a r ih =>
      rw [distinct] at h
      split at h
      · exact List.mem_cons_of_mem a (ih h)
      · rcases List.mem_cons.1 h with rfl | h
        · exact List.mem_cons_self
        · exact List.mem_cons_of_mem a (ih h)

/-- Every key that a template needs is read off one of its markers. -/
theorem exists_marker_of_mem_neededKeys {template key : Text} (h : key ∈ neededKeys template) :
    (∃ line, Marker.ofLine? line = some (.start key)) ∨
      ∃ line p, Marker.ofLine? line = some (.add key p) := by
  rw [neededKeys] at h
  split at h
  next =>
    obtain ⟨e, he, rfl⟩ := List.mem_map.1 h
    obtain ⟨⟨line, -, hline⟩, -⟩ := SnippetMap.exists_source he
    exact .inl ⟨line, hline⟩
  next =>
    obtain ⟨⟨k, p⟩, hadd, rfl⟩ := List.mem_map.1 (mem_of_mem_distinct h)
    obtain ⟨line, -, hline⟩ := List.mem_filterMap.1 hadd
    obtain ⟨m, hm, hpair⟩ := Option.bind_eq_some_iff.1 hline
    cases m with
    | start k' => exact absurd hpair (by simp [Marker.addPair?])
    | stop k' => exact absurd hpair (by simp [Marker.addPair?])
    | add k' p' =>
        obtain ⟨rfl, rfl⟩ : k' = k ∧ p' = p := by simpa [Marker.addPair?] using hpair
        exact .inr ⟨line, p', hm⟩

/-- Every key that a template needs can be written into a marker. -/
theorem writable_of_mem_neededKeys {template key : Text} (h : key ∈ neededKeys template) :
    key ≠ [] ∧ '\n' ∉ key := by
  rcases exists_marker_of_mem_neededKeys h with ⟨line, hline⟩ | ⟨line, p, hline⟩
  · have hproper := Marker.proper_of_start hline
    refine ⟨?_, hproper.noFeed⟩
    rintro rfl
    exact absurd hproper.ink (by decide)
  · obtain ⟨_, _, _, _, _, -, -, -, -, -, -, -, hkey, hnl, -⟩ := Marker.exists_parts_of_add hline
    exact ⟨hkey, hnl⟩

theorem neededKeys_of_addsIn {template : Text} (h : addsIn template = []) :
    neededKeys template = (SnippetMap.ofText template).keys := by
  rw [neededKeys, h]
  rfl

/-! ## Marker lines -/

theorem allBlank_slotIndent (ls : List Text) (slot : Slot) :
    allBlank (slotIndent ls slot) = true := by
  cases slot with
  | before i => exact Text.allBlank_indentation _
  | after i => exact Text.allBlank_indentation _
  | atEnd => rfl

theorem not_mem_slotIndent {ls : List Text} (h : ∀ l ∈ ls, '\n' ∉ l) (slot : Slot) :
    '\n' ∉ slotIndent ls slot := by
  have hline : ∀ i, '\n' ∉ Text.indentation (ls.getD i []) := by
    intro i hm
    have hm : '\n' ∈ ls.getD i [] := (List.takeWhile_prefix _).subset hm
    rw [List.getD_eq_getElem?_getD] at hm
    cases hi : ls[i]? with
    | none => rw [hi] at hm; exact absurd hm List.not_mem_nil
    | some l => rw [hi] at hm; exact h l (List.mem_of_getElem? hi) hm
  cases slot with
  | before i => exact hline i
  | after i => exact hline i
  | atEnd => exact List.not_mem_nil

theorem isMarker_markerFor (ls : List Text) {key : Text} (hkey : key ≠ [] ∧ '\n' ∉ key) :
    isMarker (markerFor ls key).2 = true := by
  obtain ⟨key', p', h⟩ := Marker.exists_add_of_addLine
    (allBlank_slotIndent ls (slotFor ls key).1) hkey.1 hkey.2 (slotFor ls key).2
  exact Marker.isMarker_of_ofLine? h

theorem not_mem_markerFor {ls : List Text} (h : ∀ l ∈ ls, '\n' ∉ l) {key : Text}
    (hkey : '\n' ∉ key) : '\n' ∉ (markerFor ls key).2 := by
  have hindent := not_mem_slotIndent h (slotFor ls key).1
  have hword : ∀ p : Position, '\n' ∉ p.word := by
    intro p
    cases p <;> decide
  simp only [markerFor, Marker.addLine, List.mem_append, not_or]
  exact ⟨⟨⟨⟨hindent, by decide⟩, hkey⟩, by decide⟩, hword _⟩

/-! ## Seeded files -/

/-- The lines of a file with a marker for every key that the template needs. -/
def seededLines (existing template : Text) : List Text :=
  weave ((neededKeys template).map (markerFor existing.lines)) 0 existing.lines

theorem mem_seededLines {existing template key : Text} (h : key ∈ neededKeys template) :
    (markerFor existing.lines key).2 ∈ seededLines existing template := by
  have hplaced : ((slotFor existing.lines key).1, (markerFor existing.lines key).2) ∈
      (neededKeys template).map (markerFor existing.lines) :=
    List.mem_map.2 ⟨key, h, rfl⟩
  exact mem_weave hplaced (slotFor_within existing.lines key)

theorem not_mem_of_mem_seededLines {existing template l : Text}
    (h : l ∈ seededLines existing template) : '\n' ∉ l := by
  have hfile : ∀ l ∈ existing.lines, '\n' ∉ l := fun _ => Text.not_mem_of_mem_lines
  rcases mem_of_mem_weave h with hl | ⟨slot, hslot, -⟩
  · exact hfile l hl
  · obtain ⟨k, hk, heq⟩ := List.mem_map.1 hslot
    obtain rfl : (markerFor existing.lines k).2 = l := congrArg Prod.snd heq
    exact not_mem_markerFor hfile (writable_of_mem_neededKeys hk).2

theorem seed_eq_edited {existing template : Text} (hnone : anyIn existing = false)
    (hneeded : neededKeys template ≠ []) :
    seed existing template =
      .edited ((Lines.ofText existing).render (seededLines existing template)) := by
  rw [seed, if_neg (by simp [hnone])]
  split
  next hkeys => exact absurd hkeys hneeded
  next => rfl

theorem written_lines_seed {existing template : Text} (hnone : anyIn existing = false)
    (hneeded : neededKeys template ≠ []) :
    Block.written (seed existing template).content.lines =
      Block.written (seededLines existing template) := by
  rw [seed_eq_edited hnone hneeded]
  exact Block.written_lines_render _ fun _ => not_mem_of_mem_seededLines

/-! ## Settled files -/

/-- The file has a marker, or the template needs none. -/
def Settled (template content : Text) : Prop :=
  anyIn content = true ∨ neededKeys template = []

theorem seed_of_settled {template content : Text} (h : Settled template content) :
    seed content template = .same content := by
  rw [seed]
  split
  next => rfl
  next hnone =>
    rw [h.resolve_left hnone]

/-- Seeding leaves a file alone or gives it a marker. -/
theorem seed_cases (existing template : Text) :
    (seed existing template = .same existing ∧ Settled template existing) ∨
      (anyIn existing = false ∧ neededKeys template ≠ [] ∧
        anyIn (seed existing template).content = true) := by
  cases hany : anyIn existing with
  | true => exact .inl ⟨seed_of_settled (.inl hany), .inl hany⟩
  | false =>
      by_cases hkeys : neededKeys template = []
      · exact .inl ⟨seed_of_settled (.inr hkeys), .inr hkeys⟩
      · obtain ⟨key, hkey⟩ := List.exists_mem_of_ne_nil _ hkeys
        refine .inr ⟨rfl, hkeys, ?_⟩
        refine (Marker.any_isMarker_congr (written_lines_seed hany hkeys)).trans ?_
        exact List.any_eq_true.2 ⟨_, mem_seededLines hkey,
          isMarker_markerFor existing.lines (writable_of_mem_neededKeys hkey)⟩

theorem settled_seed (existing template : Text) :
    Settled template (seed existing template).content := by
  rcases seed_cases existing template with ⟨hsame, hsettled⟩ | ⟨-, -, hany⟩
  · rw [hsame]
    exact hsettled
  · exact .inl hany

end Scaffold.Seeding
