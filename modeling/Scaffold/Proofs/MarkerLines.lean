/-
# The markers among some lines

A marker is read off a written line, so which markers a file has does not hang
on its layout (`addsOfLines_congr`, `any_isMarker_congr`).
-/
import Scaffold.Proofs.CodeLines
import Scaffold.Proofs.Layout

namespace Scaffold.Marker

open Text (allBlank)
open Block (written)

theorem isMarker_of_ofLine? {line : Text} {m : Marker} (h : ofLine? line = some m) :
    isMarker line = true := by
  rw [isMarker, h]
  rfl

theorem isMarker_trim (line : Text) : isMarker (Text.trim line) = isMarker line := by
  rw [isMarker, ofLine?_trim, isMarker]

theorem allBlank_of_isMarker {line : Text} (h : isMarker line = true) :
    allBlank line = false := by
  obtain ⟨r, hr⟩ := LineKind.trimLeft_of_isMarker h
  cases hblank : allBlank line with
  | false => rfl
  | true =>
      rw [Text.trimLeft_eq_nil_iff.2 hblank] at hr
      exact absurd hr (by simp)

theorem ofLine?_of_blank {line : Text} (h : allBlank line = true) : ofLine? line = none := by
  cases hm : ofLine? line with
  | none => rfl
  | some m =>
      rw [allBlank_of_isMarker (isMarker_of_ofLine? hm)] at h
      exact absurd h (by simp)

/-! ## All markers -/

theorem any_isMarker_written (ls : List Text) :
    (written ls).any isMarker = ls.any isMarker := by
  rw [Bool.eq_iff_iff, List.any_eq_true, List.any_eq_true]
  constructor
  · rintro ⟨t, ht, hmarker⟩
    obtain ⟨l, hl, -, rfl⟩ := Block.mem_written.1 ht
    exact ⟨l, hl, isMarker_trim l ▸ hmarker⟩
  · rintro ⟨l, hl, hmarker⟩
    exact ⟨Text.trim l, Block.mem_written.2 ⟨l, hl, allBlank_of_isMarker hmarker, rfl⟩,
      (isMarker_trim l).trans hmarker⟩

theorem any_isMarker_congr {ls ls' : List Text} (h : written ls = written ls') :
    ls.any isMarker = ls'.any isMarker := by
  rw [← any_isMarker_written ls, h, any_isMarker_written]

theorem any_isMarker_of_filter_eq {ls ls' : List Text}
    (h : ls.filter isMarker = ls'.filter isMarker) : ls.any isMarker = ls'.any isMarker := by
  have hread : ∀ ks : List Text, (ks.filter isMarker).any isMarker = ks.any isMarker := by
    intro ks
    rw [List.any_filter]
    simp only [Bool.and_self]
  rw [← hread ls, h, hread]

/-! ## ADD markers -/

theorem addsOfLines_append (a b : List Text) :
    addsOfLines (a ++ b) = addsOfLines a ++ addsOfLines b :=
  List.filterMap_append ..

theorem addsOfLines_cons_of_add {line key : Text} {p : Position}
    (h : ofLine? line = some (.add key p)) (ls : List Text) :
    addsOfLines (line :: ls) = (key, p) :: addsOfLines ls := by
  rw [addsOfLines, List.filterMap_cons_some (b := (key, p)) (by rw [h]; rfl), addsOfLines]

theorem addsOfLines_cons_of_other {line : Text} (h : ∀ key p, ofLine? line ≠ some (.add key p))
    (ls : List Text) : addsOfLines (line :: ls) = addsOfLines ls := by
  rw [addsOfLines, List.filterMap_cons_none ?_, addsOfLines]
  cases hm : ofLine? line with
  | none => rfl
  | some m =>
      cases m with
      | start key => rfl
      | stop key => rfl
      | add key p => exact absurd hm (h key p)

theorem addsOfLines_of_noMarker {ls : List Text} (h : ∀ l ∈ ls, ofLine? l = none) :
    addsOfLines ls = [] := by
  rw [addsOfLines, List.filterMap_eq_nil_iff]
  intro l hl
  rw [h l hl]
  rfl

theorem addsOfLines_written (ls : List Text) : addsOfLines (written ls) = addsOfLines ls := by
  induction ls with
  | nil => rfl
  | cons l r ih =>
      rw [Block.written_cons, addsOfLines_append, ih, ← List.singleton_append (l := r),
        addsOfLines_append]
      refine congrArg (· ++ addsOfLines r) ?_
      split
      next hblank =>
        have hnone : addsOfLines [l] = [] := by
          refine addsOfLines_of_noMarker ?_
          intro k hk
          obtain rfl := List.mem_singleton.1 hk
          exact ofLine?_of_blank hblank
        rw [hnone]
        rfl
      next => rw [addsOfLines, addsOfLines, List.filterMap_cons, ofLine?_trim, List.filterMap_cons]

theorem addsOfLines_congr {ls ls' : List Text} (h : written ls = written ls') :
    addsOfLines ls = addsOfLines ls' := by
  rw [← addsOfLines_written ls, h, addsOfLines_written]

/-- Lines that are no ADD markers can be left out. -/
theorem addsOfLines_filter_of_add {q : Text → Bool}
    (hq : ∀ {line key p}, ofLine? line = some (.add key p) → q line = true) (ls : List Text) :
    addsOfLines (ls.filter q) = addsOfLines ls := by
  induction ls with
  | nil => rfl
  | cons l r ih =>
      cases hl : q l with
      | true =>
          rw [List.filter_cons_of_pos hl, ← List.singleton_append, addsOfLines_append, ih,
            ← addsOfLines_append, List.singleton_append]
      | false =>
          rw [List.filter_cons_of_neg (by simp [hl]), ih, addsOfLines_cons_of_other]
          intro key p hm
          rw [hq hm] at hl
          exact absurd hl (by simp)

theorem addsOfLines_filter (ls : List Text) : addsOfLines (ls.filter isMarker) = addsOfLines ls :=
  addsOfLines_filter_of_add isMarker_of_ofLine? ls

theorem addsOfLines_of_filter_eq {ls ls' : List Text}
    (h : ls.filter isMarker = ls'.filter isMarker) : addsOfLines ls = addsOfLines ls' := by
  rw [← addsOfLines_filter ls, h, addsOfLines_filter]

theorem any_isMarker_of_addsOfLines_ne {ls : List Text} (h : addsOfLines ls ≠ []) :
    ls.any isMarker = true := by
  cases hany : ls.any isMarker with
  | true => rfl
  | false =>
      refine absurd (addsOfLines_of_noMarker fun l hl => ?_) h
      have := List.any_eq_false.1 hany l hl
      rwa [isMarker, Bool.not_eq_true, Option.isSome_eq_false_iff, Option.isNone_iff_eq_none] at this

end Scaffold.Marker
