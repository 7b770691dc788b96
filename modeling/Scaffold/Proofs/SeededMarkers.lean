/-
# What seeding adds to a file

Seeding gives a file without markers one ADD marker for every key that the
template needs, and does nothing else to it (`seed_adds_markers`).  Three things
are followed while the markers are woven into the lines:

    the lines     without the markers they are the file (`filter_weave`)
    the keys      those of one place come in the order in which the template
                  needs them (`keysAt_weave`)
    the order     a marker stands above every line that its place is above, and
                  below every other line (`pairwise_weave`)

That each key comes exactly once needs no count of its own: every key has one
place, and the keys of each place are known.
-/
import Scaffold.Proofs.MarkerForms
import Scaffold.Proofs.SeedingLaws

namespace Scaffold.Seeding

open Marker (addsIn addsOfLines anyIn isMarker)

variable {placed : List (Slot × Text)} {index : Nat} {ls : List Text}

/-! ## The lines of the file -/

theorem filter_weave (hplaced : ∀ m ∈ placed, isMarker m.2 = true)
    (hls : ∀ l ∈ ls, isMarker l = false) :
    (weave placed index ls).filter (fun l => !isMarker l) = ls := by
  have hslot : ∀ slot, (atSlot placed slot).filter (fun l => !isMarker l) = [] := by
    intro slot
    refine List.filter_eq_nil_iff.2 ?_
    intro m hm
    rw [hplaced _ (mem_atSlot.1 hm)]
    exact Bool.false_ne_true
  induction ls generalizing index with
  | nil => exact hslot .atEnd
  | cons l r ih =>
      have hl : (!isMarker l) = true := by rw [hls l List.mem_cons_self]; rfl
      rw [weave, List.filter_append, List.filter_append,
        List.filter_cons_of_pos (p := fun l => !isMarker l) hl, hslot, hslot,
        ih fun k hk => hls k (List.mem_cons_of_mem l hk)]
      rfl

/-- What is no marker and stands last stood last before. -/
theorem getLast?_weave_ne (hplaced : ∀ m ∈ placed, isMarker m.2 = true)
    (hls : ∀ l ∈ ls, isMarker l = false) (hlast : ls.getLast? ≠ some []) :
    (weave placed index ls).getLast? ≠ some [] := by
  intro h
  obtain ⟨init, hinit⟩ := List.getLast?_eq_some_iff.1 h
  refine hlast ?_
  have hempty : [[]].filter (fun l : Text => !isMarker l) = [[]] := rfl
  have hfile : (weave placed index ls).filter (fun l => !isMarker l) = ls :=
    filter_weave hplaced hls
  rw [← hfile, hinit, List.filter_append, hempty, List.getLast?_concat]

/-! ## The keys of a place -/

/-- The keys of the ADD markers among some lines, in order. -/
def keysOf (ls : List Text) : List Text :=
  (addsOfLines ls).map (·.1)

/-- Those of the keys that have their place here. -/
def keysAt (file keys : List Text) (slot : Slot) : List Text :=
  keys.filter fun k => (slotFor file k).1 == slot

theorem keysOf_append (a b : List Text) : keysOf (a ++ b) = keysOf a ++ keysOf b := by
  rw [keysOf, Marker.addsOfLines_append, List.map_append, keysOf, keysOf]

theorem keysAt_append (file a b : List Text) (slot : Slot) :
    keysAt file (a ++ b) slot = keysAt file a slot ++ keysAt file b slot :=
  List.filter_append ..

theorem keysAt_keysAt_self (file keys : List Text) (slot : Slot) :
    keysAt file (keysAt file keys slot) slot = keysAt file keys slot := by
  simp [keysAt]

theorem keysAt_keysAt_of_ne (file keys : List Text) {slot slot' : Slot} (h : slot ≠ slot') :
    keysAt file (keysAt file keys slot) slot' = [] := by
  refine List.filter_eq_nil_iff.2 ?_
  intro k hk
  have hslot : (slotFor file k).1 = slot := eq_of_beq (List.mem_filter.1 hk).2
  rw [hslot, beq_iff_eq]
  exact h

variable {file keys : List Text}

theorem ofLine?_markerFor {key : Text} (h : Marker.Legible key) :
    Marker.ofLine? (markerFor file key).2 = some (.add key (slotFor file key).2) :=
  Marker.ofLine?_addLine_of_legible (allBlank_slotIndent file _) h _

theorem keysOf_atSlot (hkeys : ∀ key ∈ keys, Marker.Legible key) (slot : Slot) :
    keysOf (atSlot (keys.map (markerFor file)) slot) = keysAt file keys slot := by
  induction keys with
  | nil => rfl
  | cons key r ih =>
      have hread : Marker.ofLine? (markerFor file key).2 = some (.add key (slotFor file key).2) :=
        ofLine?_markerFor (hkeys key List.mem_cons_self)
      have hrest := ih fun k hk => hkeys k (List.mem_cons_of_mem key hk)
      have hplace : (markerFor file key).1 = (slotFor file key).1 := rfl
      rw [keysAt, List.filter_cons, ← keysAt, ← hrest, atSlot, List.map_cons, List.filter_cons,
        hplace]
      cases h : (slotFor file key).1 == slot with
      | false => rfl
      | true =>
          rw [if_pos rfl, if_pos rfl, List.map_cons, keysOf, Marker.addsOfLines_cons_of_add hread,
            List.map_cons, ← keysOf, ← atSlot]

theorem keysOf_of_noMarker {ls : List Text} (h : ∀ l ∈ ls, isMarker l = false) :
    keysOf ls = [] := by
  rw [keysOf, Marker.addsOfLines_of_noMarker]
  · rfl
  · intro l hl
    simpa [isMarker] using h l hl

/-- The places among `n` lines, the first of which has this index, from top to
bottom. -/
def places (index : Nat) : Nat → List Slot
  | 0 => [.atEnd]
  | n + 1 => .before index :: .after index :: places (index + 1) n

theorem mem_places {slot : Slot} {index n : Nat} :
    slot ∈ places index n ↔ slot.Within index n := by
  induction n generalizing index with
  | zero =>
      cases slot with
      | atEnd => simp [places, Slot.Within]
      | before i => simp [places, Slot.Within]
      | after i => simp [places, Slot.Within]
  | succ n ih => rw [places, List.mem_cons, List.mem_cons, ih, Slot.within_succ_iff]

theorem nodup_places (index n : Nat) : (places index n).Nodup := by
  induction n generalizing index with
  | zero => exact List.nodup_singleton _
  | succ n ih =>
      simp only [places, List.nodup_cons, List.mem_cons, reduceCtorEq, false_or, mem_places]
      exact ⟨fun h => absurd h.1 (Nat.not_succ_le_self index),
        fun h => absurd h.1 (Nat.not_succ_le_self index), ih _⟩

/-- From top to bottom, the keys of a woven file are those of its places. -/
theorem keysOf_weave (hkeys : ∀ key ∈ keys, Marker.Legible key)
    (hls : ∀ l ∈ ls, isMarker l = false) :
    keysOf (weave (keys.map (markerFor file)) index ls) =
      (places index ls.length).flatMap (keysAt file keys) := by
  induction ls generalizing index with
  | nil => rw [weave, keysOf_atSlot hkeys, List.length_nil, places, List.flatMap_singleton]
  | cons l r ih =>
      have hl : keysOf [l] = [] := keysOf_of_noMarker fun k hk =>
        hls k (List.mem_singleton.1 hk ▸ List.mem_cons_self)
      rw [weave, keysOf_append, keysOf_append, ← List.singleton_append, keysOf_append, hl,
        keysOf_atSlot hkeys, keysOf_atSlot hkeys, ih fun k hk => hls k (List.mem_cons_of_mem l hk),
        List.length_cons, places, List.flatMap_cons, List.flatMap_cons, List.nil_append,
        List.append_assoc]

theorem keysAt_flatMap_of_not_mem {slots : List Slot} {slot : Slot} (h : slot ∉ slots) :
    keysAt file (slots.flatMap (keysAt file keys)) slot = [] := by
  induction slots with
  | nil => rfl
  | cons s r ih =>
      rw [List.mem_cons, not_or] at h
      rw [List.flatMap_cons, keysAt_append, keysAt_keysAt_of_ne file keys (Ne.symm h.1), ih h.2,
        List.append_nil]

theorem keysAt_flatMap_of_mem {slots : List Slot} (hnodup : slots.Nodup) {slot : Slot}
    (h : slot ∈ slots) :
    keysAt file (slots.flatMap (keysAt file keys)) slot = keysAt file keys slot := by
  induction slots with
  | nil => exact absurd h List.not_mem_nil
  | cons s r ih =>
      rw [List.nodup_cons] at hnodup
      rw [List.flatMap_cons, keysAt_append]
      rcases List.mem_cons.1 h with rfl | h
      · rw [keysAt_keysAt_self, keysAt_flatMap_of_not_mem hnodup.1, List.append_nil]
      · have hne : s ≠ slot := fun heq => hnodup.1 (heq ▸ h)
        rw [keysAt_keysAt_of_ne file keys hne, ih hnodup.2 h, List.nil_append]

/-- The keys of each place come in the order in which they are needed. -/
theorem keysAt_weave (hkeys : ∀ key ∈ keys, Marker.Legible key)
    (hfile : ∀ l ∈ file, isMarker l = false) (slot : Slot) :
    keysAt file (keysOf (weave (keys.map (markerFor file)) 0 file)) slot =
      keysAt file keys slot := by
  rw [keysOf_weave hkeys hfile]
  by_cases h : slot ∈ places 0 file.length
  · exact keysAt_flatMap_of_mem (nodup_places 0 _) h
  · -- no key has its place outside the file
    rw [keysAt_flatMap_of_not_mem h, keysAt, List.filter_eq_nil_iff.2]
    intro k _ hslot
    exact h (mem_places.2 (eq_of_beq hslot ▸ slotFor_within file k))

/-- Two lists with the same keys at each place have the same keys. -/
theorem perm_of_keysAt {a b : List Text} (h : ∀ slot, keysAt file a slot = keysAt file b slot) :
    a.Perm b := by
  rw [List.perm_iff_count]
  intro k
  have hcount := congrArg (List.count k) (h (slotFor file k).1)
  rwa [keysAt, keysAt, List.count_filter (by simp), List.count_filter (by simp)] at hcount

/-! ## Above and below a place -/

/-- The place is above the line with this index. -/
def Slot.Above (i : Nat) : Slot → Prop
  | .before j => j ≤ i
  | .after j => j < i
  | .atEnd => False

theorem Slot.not_above_of_within {slot : Slot} {index n : Nat} (h : slot.Within (index + 1) n) :
    ¬ slot.Above index := by
  cases slot with
  | before j => exact Nat.not_le.2 h.1
  | after j => exact Nat.not_lt.2 (Nat.le_of_succ_le h.1)
  | atEnd => exact id

/-- A relation between the upper and the lower of any two lines. -/
theorem pairwise_weave {R : Text → Text → Prop} (hlines : ls.Pairwise R)
    (hmarkers : ∀ m ∈ placed, ∀ m' ∈ placed, R m.2 m'.2)
    (habove : ∀ m ∈ placed, ∀ i l, ls[i]? = some l → m.1.Above (index + i) → R m.2 l)
    (hbelow : ∀ m ∈ placed, ∀ i l, ls[i]? = some l → ¬ m.1.Above (index + i) → R l m.2) :
    (weave placed index ls).Pairwise R := by
  have hslot : ∀ slot, (atSlot placed slot).Pairwise R := fun slot =>
    List.pairwise_of_forall_mem_list fun m hm m' hm' =>
      hmarkers _ (mem_atSlot.1 hm) _ (mem_atSlot.1 hm')
  induction ls generalizing index with
  | nil => exact hslot .atEnd
  | cons l r ih =>
      rw [List.pairwise_cons] at hlines
      have hnext : ∀ i, index + 1 + i = index + (i + 1) := fun i => by omega
      have hbefore : ∀ m ∈ atSlot placed (.before index), R m l := fun m hm =>
        habove _ (mem_atSlot.1 hm) 0 l rfl (Nat.le_refl index)
      have hafter : ∀ m ∈ atSlot placed (.after index), R l m := fun m hm =>
        hbelow _ (mem_atSlot.1 hm) 0 l rfl (Nat.lt_irrefl index)
      rw [weave, List.pairwise_append, List.pairwise_append, List.pairwise_cons]
      refine ⟨⟨hslot _, ⟨hafter, hslot _⟩, ?_⟩, ?_, ?_⟩
      · intro m hm k hk
        rcases List.mem_cons.1 hk with rfl | hk
        · exact hbefore m hm
        · exact hmarkers _ (mem_atSlot.1 hm) _ (mem_atSlot.1 hk)
      · refine ih hlines.2 ?_ ?_
        · intro m hm i k hk hplace
          exact habove m hm (i + 1) k hk (hnext i ▸ hplace)
        · intro m hm i k hk hplace
          exact hbelow m hm (i + 1) k hk (hnext i ▸ hplace)
      · -- what comes later is a line of the file or a marker with a later place
        have hlater : ∀ m ∈ placed, (∀ i, m.1.Above (index + (i + 1))) →
            ∀ k ∈ weave placed (index + 1) r, R m.2 k := by
          intro m hm hplace k hk
          rcases mem_of_mem_weave hk with hk | ⟨slot, hk, -⟩
          · obtain ⟨i, hi⟩ := List.mem_iff_getElem?.1 hk
            exact habove m hm (i + 1) k hi (hplace i)
          · exact hmarkers m hm _ hk
        intro k hk k' hk'
        rw [List.mem_append, List.mem_cons] at hk
        rcases hk with hk | rfl | hk
        · exact hlater _ (mem_atSlot.1 hk) (fun i => Nat.le_add_right index (i + 1)) k' hk'
        · rcases mem_of_mem_weave hk' with hk' | ⟨slot, hk', hplace⟩
          · exact hlines.1 k' hk'
          · exact hbelow _ hk' 0 k rfl (Slot.not_above_of_within hplace)
        · exact hlater _ (mem_atSlot.1 hk) (fun i => Nat.lt_add_of_pos_right (Nat.succ_pos i)) k' hk'

/-! ## Imports and exports -/

theorem lastIndex?_eq_none {p : Text → Bool} {ls : List Text} (h : lastIndex? p ls = none) :
    ∀ l ∈ ls, p l = false := by
  induction ls with
  | nil => exact fun l hl => absurd hl List.not_mem_nil
  | cons k r ih =>
      rw [lastIndex?] at h
      split at h
      next => exact absurd h (by simp)
      next hnone =>
        split at h
        next => exact absurd h (by simp)
        next hk =>
          intro l hl
          rcases List.mem_cons.1 hl with rfl | hl
          · exact Bool.not_eq_true _ ▸ hk
          · exact ih hnone l hl

theorem of_lastIndex?_lt {p : Text → Bool} {ls : List Text} {j i : Nat} {l : Text}
    (h : lastIndex? p ls = some j) (hji : j < i) (hl : ls[i]? = some l) : p l = false := by
  induction ls generalizing j i with
  | nil => exact absurd hl (by simp)
  | cons k r ih =>
      obtain ⟨i, rfl⟩ := Nat.exists_eq_succ_of_ne_zero (Nat.ne_zero_of_lt hji)
      rw [List.getElem?_cons_succ] at hl
      rw [lastIndex?] at h
      split at h
      next j' hj' =>
        obtain rfl : j' + 1 = j := by simpa using h
        exact ih hj' (Nat.lt_of_succ_lt_succ hji) hl
      next hnone => exact lastIndex?_eq_none hnone l (List.mem_of_getElem? hl)

/-- The place of an import key is below all imports. -/
theorem isImportLike_of_above {key l : Text} {i : Nat} (hkey : isImportKey key = true)
    (hplace : (slotFor file key).1.Above i) (hl : file[i]? = some l) :
    LineKind.isImportLike l = false := by
  rw [slotFor, if_pos hkey] at hplace
  split at hplace
  next j hj => exact of_lastIndex?_lt hj hplace hl
  next hnone => exact lastIndex?_eq_none hnone l (List.mem_of_getElem? hl)

/-- The place of an export key is above all exports. -/
theorem isExportLike_of_not_above {key l : Text} {i : Nat} (himport : isImportKey key = false)
    (hexport : isExportKey key = true) (hplace : ¬ (slotFor file key).1.Above i)
    (hl : file[i]? = some l) : LineKind.isExportLike l = false := by
  rw [slotFor, if_neg (by simp [himport]), if_pos hexport] at hplace
  split at hplace
  next j hj =>
    obtain ⟨hlt, rfl⟩ := List.getElem?_eq_some_iff.1 hl
    have := (List.findIdx?_eq_some_iff_getElem.1 hj).2.2 i (Nat.not_le.1 hplace)
    simpa using this
  next hnone =>
    rw [List.findIdx?_eq_none_iff] at hnone
    exact hnone l (List.mem_of_getElem? hl)

/-- Of two lines, the upper one is no import marker above an import, and the
lower one is no export marker below an export. -/
structure WellPlaced (above below : Text) : Prop where
  imports : ∀ key p, Marker.ofLine? above = some (.add key p) → isImportKey key = true →
    LineKind.isImportLike below = false
  exports : ∀ key p, Marker.ofLine? below = some (.add key p) → isImportKey key = false →
    isExportKey key = true → LineKind.isExportLike above = false

theorem wellPlaced_trim (above below : Text) :
    WellPlaced (Text.trim above) (Text.trim below) ↔ WellPlaced above below := by
  have himport := LineKind.ignoresBlanks_isImportLike.trim below
  have hexport := LineKind.ignoresBlanks_isExportLike.trim above
  constructor
  · rintro ⟨himports, hexports⟩
    simp only [Marker.ofLine?_trim, himport, hexport] at himports hexports
    exact ⟨himports, hexports⟩
  · rintro ⟨himports, hexports⟩
    refine ⟨?_, ?_⟩
    · simpa only [Marker.ofLine?_trim, himport] using himports
    · simpa only [Marker.ofLine?_trim, hexport] using hexports

theorem wellPlaced_weave (hkeys : ∀ key ∈ keys, Marker.Legible key)
    (hfile : ∀ l ∈ file, isMarker l = false) :
    (weave (keys.map (markerFor file)) 0 file).Pairwise WellPlaced := by
  have hline : ∀ l ∈ file, ∀ key p, Marker.ofLine? l ≠ some (.add key p) := by
    intro l hl key p hread
    have hmarker := Marker.isMarker_of_ofLine? hread
    rw [hfile l hl] at hmarker
    exact absurd hmarker Bool.false_ne_true
  have hplaced : ∀ m ∈ keys.map (markerFor file), ∃ key p, m.1 = (slotFor file key).1 ∧
      Marker.ofLine? m.2 = some (.add key p) := by
    intro m hm
    obtain ⟨key, hkey, rfl⟩ := List.mem_map.1 hm
    exact ⟨key, _, rfl, ofLine?_markerFor (hkeys key hkey)⟩
  refine pairwise_weave ?_ ?_ ?_ ?_
  · refine List.pairwise_of_forall_mem_list ?_
    intro l hl l' hl'
    exact ⟨fun key p hread => absurd hread (hline l hl key p),
      fun key p hread => absurd hread (hline l' hl' key p)⟩
  · intro m hm m' hm'
    obtain ⟨_, _, -, hread⟩ := hplaced m hm
    obtain ⟨_, _, -, hread'⟩ := hplaced m' hm'
    exact ⟨fun _ _ _ _ => LineKind.isImportLike_of_isMarker (Marker.isMarker_of_ofLine? hread'),
      fun _ _ _ _ _ => LineKind.isExportLike_of_isMarker (Marker.isMarker_of_ofLine? hread)⟩
  · intro m hm i l hl hplace
    obtain ⟨key, p, hslot, hread⟩ := hplaced m hm
    rw [hslot, Nat.zero_add] at hplace
    refine ⟨?_, fun k q hk => absurd hk (hline l (List.mem_of_getElem? hl) k q)⟩
    intro k q hk himport
    obtain ⟨rfl, -⟩ : key = k ∧ p = q := by simpa [hread] using hk
    exact isImportLike_of_above himport hplace hl
  · intro m hm i l hl hplace
    obtain ⟨key, p, hslot, hread⟩ := hplaced m hm
    rw [hslot, Nat.zero_add] at hplace
    refine ⟨fun k q hk => absurd hk (hline l (List.mem_of_getElem? hl) k q), ?_⟩
    intro k q hk himport hexport
    obtain ⟨rfl, -⟩ : key = k ∧ p = q := by simpa [hread] using hk
    exact isExportLike_of_not_above himport hexport hplace hl

/-! ## Seeded files -/

theorem nodup_distinct (seen ks : List Text) :
    (distinct seen ks).Nodup ∧ ∀ k ∈ distinct seen ks, k ∉ seen := by
  induction ks generalizing seen with
  | nil => exact ⟨List.nodup_nil, fun _ hk => absurd hk List.not_mem_nil⟩
  | cons a r ih =>
      rw [distinct]
      split
      next => exact ih seen
      next hnew =>
        obtain ⟨hnodup, hfresh⟩ := ih (a :: seen)
        refine ⟨List.nodup_cons.2 ⟨fun ha => hfresh a ha List.mem_cons_self, hnodup⟩, ?_⟩
        intro k hk hseen
        rcases List.mem_cons.1 hk with rfl | hk
        · exact hnew (List.contains_iff_mem.2 hseen)
        · exact hfresh k hk (List.mem_cons_of_mem a hseen)

theorem nodup_neededKeys (template : Text) : (neededKeys template).Nodup := by
  rw [neededKeys]
  split
  next => exact SnippetMap.nodup_keys_ofText template
  next => exact (nodup_distinct [] _).1

theorem legible_of_mem_neededKeys {template key : Text} (h : key ∈ neededKeys template) :
    Marker.Legible key := by
  rcases exists_marker_of_mem_neededKeys h with ⟨line, hline⟩ | ⟨line, p, hline⟩
  · exact Marker.legible_of_start hline
  · exact Marker.legible_of_add hline

section

variable {existing template : Text}

theorem isMarker_of_mem_lines (hnone : anyIn existing = false) :
    ∀ l ∈ existing.lines, isMarker l = false := by
  intro l hl
  simpa using List.any_eq_false.1 hnone l hl

theorem isMarker_placed (existing template : Text) :
    ∀ m ∈ (neededKeys template).map (markerFor existing.lines), isMarker m.2 = true := by
  intro m hm
  obtain ⟨key, hkey, rfl⟩ := List.mem_map.1 hm
  exact isMarker_markerFor existing.lines (writable_of_mem_neededKeys hkey)

theorem writable_seededLines (hnone : anyIn existing = false) :
    (Lines.ofText existing).Writable (seededLines existing template) where
  noFeed _ := not_mem_of_mem_seededLines
  last hended := getLast?_weave_ne (isMarker_placed existing template)
    (isMarker_of_mem_lines hnone) ((Lines.writable_ofText existing).last hended)

/-- The lines of a seeded file, up to blanks at their ends. -/
theorem map_trimRight_lines_seed (hnone : anyIn existing = false)
    (hneeded : neededKeys template ≠ []) :
    (seed existing template).content.lines.map Text.trimRight =
      (seededLines existing template).map Text.trimRight := by
  have hwritable : (Lines.ofText existing).Writable (seededLines existing template) :=
    writable_seededLines hnone
  rw [seed_eq_edited hnone hneeded]
  exact (Lines.map_trimRight_lines_render _ hwritable.noFeed).trans
    (by rw [Lines.reread_of_writable hwritable])

/-- A marker of a seeded file is one that was written for a needed key. -/
theorem exists_add_of_seed (hnone : anyIn existing = false) (hneeded : neededKeys template ≠ [])
    {l : Text} (hl : l ∈ (seed existing template).content.lines) {m : Marker}
    (hm : Marker.ofLine? l = some m) : ∃ key p, m = .add key p := by
  have hmem : Text.trimRight l ∈ (seededLines existing template).map Text.trimRight := by
    rw [← map_trimRight_lines_seed hnone hneeded]
    exact List.mem_map_of_mem hl
  obtain ⟨k, hk, htrim⟩ := List.mem_map.1 hmem
  have hread : Marker.ofLine? k = some m := by
    rw [← hm]
    exact Marker.ignoresBlanks_ofLine?.congr (Text.trim_of_trimRight htrim)
  rcases mem_of_mem_weave hk with hk | ⟨slot, hk, -⟩
  · have hmarker := Marker.isMarker_of_ofLine? hread
    rw [isMarker_of_mem_lines hnone k hk] at hmarker
    exact absurd hmarker Bool.false_ne_true
  · obtain ⟨key, hkey, heq⟩ := List.mem_map.1 hk
    obtain rfl : (markerFor existing.lines key).2 = k := congrArg Prod.snd heq
    rw [ofLine?_markerFor (legible_of_mem_neededKeys hkey)] at hread
    exact ⟨key, _, (Option.some.inj hread).symm⟩

end

/-- Seeding adds one ADD marker for each key that the template needs and leaves
all else as it was.  Markers with one place keep the order of the keys, those of
imports stand below all imports and those of exports above all exports.  A seeded
file is not seeded again. -/
theorem seed_adds_markers {existing template : Text} (hnone : anyIn existing = false)
    (hneeded : neededKeys template ≠ []) :
    let r := seed existing template
    let keys := (addsIn r.content).map (·.1)
    r.changed = true ∧
      keys.Perm (neededKeys template) ∧ keys.Nodup ∧
      (∀ l ∈ r.content.lines, ∀ m, Marker.ofLine? l = some m → ∃ key p, m = .add key p) ∧
      (r.content.lines.filter fun l => !isMarker l).map Text.trimRight =
        existing.lines.map Text.trimRight ∧
      (∀ slot, (keys.filter fun k => (slotFor existing.lines k).1 == slot) =
        (neededKeys template).filter fun k => (slotFor existing.lines k).1 == slot) ∧
      r.content.lines.Pairwise WellPlaced ∧
      ∀ template', seed r.content template' = .same r.content := by
  intro r keys
  have hkeys : ∀ key ∈ neededKeys template, Marker.Legible key := fun _ =>
    legible_of_mem_neededKeys
  have hfile := isMarker_of_mem_lines hnone
  have hlines := map_trimRight_lines_seed hnone hneeded
  have htrim : r.content.lines.map Text.trim =
      (seededLines existing template).map Text.trim := by
    have := congrArg (List.map Text.trim) hlines
    simpa [Function.comp_def, Text.trim_trimRight] using this
  have hread : keys = keysOf (seededLines existing template) :=
    congrArg (List.map (·.1)) (Marker.addsOfLines_congr (Block.written_congr htrim))
  have hslots : ∀ slot, keysAt existing.lines keys slot =
      keysAt existing.lines (neededKeys template) slot := by
    intro slot
    rw [hread]
    exact keysAt_weave hkeys hfile slot
  have hperm := perm_of_keysAt hslots
  refine ⟨by rw [show r = _ from seed_eq_edited hnone hneeded]; rfl, hperm,
    hperm.nodup_iff.2 (nodup_neededKeys template),
    fun l hl m hm => exists_add_of_seed hnone hneeded hl hm, ?_, hslots, ?_, ?_⟩
  · have hmarker : (fun l => !isMarker l) ∘ Text.trimRight = fun l => !isMarker l := by
      funext l
      rw [Function.comp_apply, ← Marker.isMarker_trim, Text.trim_trimRight, Marker.isMarker_trim]
    calc (r.content.lines.filter fun l => !isMarker l).map Text.trimRight
        = (r.content.lines.map Text.trimRight).filter fun l => !isMarker l := by
          rw [List.filter_map, hmarker]
      _ = ((seededLines existing template).map Text.trimRight).filter fun l => !isMarker l := by
          rw [hlines]
      _ = ((seededLines existing template).filter fun l => !isMarker l).map Text.trimRight := by
          rw [List.filter_map, hmarker]
      _ = existing.lines.map Text.trimRight := by
          rw [seededLines, filter_weave (isMarker_placed existing template) hfile]
  · have hwoven : ((seededLines existing template).map Text.trim).Pairwise WellPlaced :=
      List.pairwise_map.2 ((wellPlaced_weave hkeys hfile).imp (wellPlaced_trim _ _).2)
    rw [← htrim] at hwoven
    exact (List.pairwise_map.1 hwoven).imp (wellPlaced_trim _ _).1
  · intro template'
    refine seed_of_settled (.inl ?_)
    rcases seed_cases existing template with ⟨-, hany | hnil⟩ | ⟨-, -, hany⟩
    · exact absurd (hnone.symm.trans hany) Bool.false_ne_true
    · exact absurd hnil hneeded
    · exact hany

/-- Keys for all places, one of them a blank, in a file with imports on both sides
of its export. -/
theorem seed_adds_markers_of_all_places :
    let existing := "import a\nconst xs = [\n  a,\n]\nexport { xs }\n\timport b \nend".toList
    let template :=
      "// ADD VALUE ABOVE\n// ADD   BELOW\n// ADD Export ABOVE\n// ADD x IMPORT y BELOW\n".toList
    anyIn existing = false ∧ neededKeys template ≠ [] ∧
      ((addsIn (seed existing template).content).map (·.1)).Perm (neededKeys template) ∧
      (seed existing template).content.lines.Pairwise WellPlaced := by
  intro existing template
  have hnone : anyIn existing = false := by decide +kernel
  have hneeded : neededKeys template ≠ [] := by decide +kernel
  obtain ⟨-, hperm, -, -, -, -, hplaced, -⟩ := seed_adds_markers hnone hneeded
  exact ⟨hnone, hneeded, hperm, hplaced⟩

end Scaffold.Seeding
