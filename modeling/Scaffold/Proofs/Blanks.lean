/-
# Readings that blanks around a line do not change

What a line means here never hangs on its indentation or on blanks behind it:
markers, imports and entries are read alike with and without them.  That is
shown once for all readings.  A reading begins by trimming the left side, so
blanks in front are no question; behind, it is enough to know that the reading
refuses the empty text and takes no notice of blanks at the end, and this is
kept by everything that readings are put together from.

`IgnoresBlanks.congr` is what the rest of the theory uses: texts that agree
once they are trimmed are read alike.
-/
import Scaffold.Text.Basic
import Mathlib.Data.List.TakeWhile

namespace Scaffold.Text

/-! ## Trimming -/

theorem allBlank_iff {t : Text} : allBlank t = true ↔ ∀ c ∈ t, isBlank c = true := by
  simp [allBlank]

theorem allBlank_eq_false_iff {t : Text} :
    allBlank t = false ↔ ∃ c ∈ t, isBlank c = false := by
  simp [allBlank]

@[simp]
theorem allBlank_cons (c : Char) (t : Text) : allBlank (c :: t) = (isBlank c && allBlank t) := rfl

theorem allBlank_cons_iff {c : Char} {t : Text} :
    allBlank (c :: t) = true ↔ isBlank c = true ∧ allBlank t = true := by
  rw [allBlank_cons, Bool.and_eq_true]

@[simp]
theorem allBlank_append {a b : Text} :
    allBlank (a ++ b) = (allBlank a && allBlank b) := by
  simp [allBlank]

@[simp]
theorem allBlank_reverse {t : Text} : allBlank t.reverse = allBlank t := by
  simp [allBlank]

theorem trimLeft_eq_nil_iff {t : Text} : trimLeft t = [] ↔ allBlank t = true := by
  rw [trimLeft, List.dropWhile_eq_nil_iff, allBlank_iff]

theorem trimLeft_append_of_blank {w : Text} (hw : allBlank w = true) (t : Text) :
    trimLeft (w ++ t) = trimLeft t :=
  List.dropWhile_append_of_pos (allBlank_iff.1 hw)

theorem trimLeft_append_of_ink {t : Text} (ht : allBlank t = false) (w : Text) :
    trimLeft (t ++ w) = trimLeft t ++ w := by
  have hne : trimLeft t ≠ [] := by
    rw [ne_eq, trimLeft_eq_nil_iff, ht]
    exact Bool.false_ne_true
  rw [trimLeft] at hne
  simp only [trimLeft, List.dropWhile_append, List.isEmpty_iff, if_neg hne]

theorem trimRight_append_of_blank (t : Text) {w : Text} (hw : allBlank w = true) :
    trimRight (t ++ w) = trimRight t := by
  rw [trimRight, trimRight, List.reverse_append]
  congr 1
  exact trimLeft_append_of_blank (allBlank_reverse.trans hw) t.reverse

theorem trimRight_append_of_ink (a : Text) {t : Text} (ht : allBlank t = false) :
    trimRight (a ++ t) = a ++ trimRight t := by
  have hreverse : allBlank t.reverse = false := allBlank_reverse.trans ht
  rw [trimRight, List.reverse_append]
  have := trimLeft_append_of_ink hreverse a.reverse
  rw [trimLeft] at this
  rw [this, List.reverse_append, List.reverse_reverse, trimRight, trimLeft]

theorem trimRight_eq_nil_iff {t : Text} : trimRight t = [] ↔ allBlank t = true := by
  rw [trimRight, List.reverse_eq_nil_iff, ← allBlank_reverse]
  exact trimLeft_eq_nil_iff

/-- A text is what trimming leaves of it, with blanks behind. -/
theorem exists_trimRight_append (t : Text) :
    ∃ w, allBlank w = true ∧ t = trimRight t ++ w := by
  refine ⟨(t.reverse.takeWhile isBlank).reverse, ?_, ?_⟩
  · rw [allBlank_reverse, allBlank]
    exact List.all_takeWhile
  · rw [trimRight, ← List.reverse_append, List.takeWhile_append_dropWhile, List.reverse_reverse]

theorem trimRight_trimRight (t : Text) : trimRight (trimRight t) = trimRight t := by
  obtain ⟨w, hw, ht⟩ := exists_trimRight_append t
  conv => rhs; rw [ht, trimRight_append_of_blank _ hw]

theorem isBlank_of_getLast?_trimRight {t : Text} {c : Char} (h : (trimRight t).getLast? = some c) :
    isBlank c = false := by
  have hstop := List.head?_dropWhile_not isBlank t.reverse
  rw [trimRight, List.getLast?_reverse] at h
  rw [h] at hstop
  simpa using hstop

@[simp]
theorem allBlank_indentation (t : Text) : allBlank (indentation t) = true :=
  List.all_takeWhile

/-- A text is what trimming leaves of it, with blanks on both sides. -/
theorem exists_append_trim_append (t : Text) :
    ∃ w w', allBlank w = true ∧ allBlank w' = true ∧ t = w ++ (trim t ++ w') := by
  obtain ⟨w', hw', ht⟩ := exists_trimRight_append (trimLeft t)
  refine ⟨indentation t, w', allBlank_indentation t, hw', ?_⟩
  rw [trim, ← ht, indentation_append_trimLeft]

theorem trim_blank_append {w : Text} (hw : allBlank w = true) (t : Text) :
    trim (w ++ t) = trim t := by
  rw [trim, trimLeft_append_of_blank hw, trim]

theorem trim_append_blank (t : Text) {w : Text} (hw : allBlank w = true) :
    trim (t ++ w) = trim t := by
  cases ht : allBlank t with
  | true =>
      have htw : allBlank (t ++ w) = true := by rw [allBlank_append, ht, hw]; rfl
      rw [trim, trim, trimLeft_eq_nil_iff.2 ht, trimLeft_eq_nil_iff.2 htw]
  | false => rw [trim, trim, trimLeft_append_of_ink ht, trimRight_append_of_blank _ hw]

theorem trim_trimRight (t : Text) : trim (trimRight t) = trim t := by
  obtain ⟨w, hw, ht⟩ := exists_trimRight_append t
  conv => rhs; rw [ht]
  rw [trim_append_blank _ hw]

theorem trim_of_trimRight {t u : Text} (h : trimRight t = trimRight u) : trim t = trim u := by
  rw [← trim_trimRight t, h, trim_trimRight]

theorem map_trim_of_map_trimRight {ls ls' : List Text}
    (h : ls.map trimRight = ls'.map trimRight) : ls.map trim = ls'.map trim := by
  have htrim := congrArg (List.map trim) h
  simpa [Function.comp_def, trim_trimRight] using htrim

theorem trim_eq_nil_iff {t : Text} : trim t = [] ↔ allBlank t = true := by
  rw [trim, trimRight_eq_nil_iff]
  constructor
  · intro h
    rw [← indentation_append_trimLeft t, allBlank_append, allBlank_indentation, h]
    rfl
  · intro h
    rw [trimLeft_eq_nil_iff.2 h]
    rfl

/-! ## Readings -/

/-- A reading that blanks in front and behind do not change. -/
structure IgnoresBlanks {α : Type} (f : Text → α) : Prop where
  before : ∀ w t, allBlank w = true → f (w ++ t) = f t
  behind : ∀ t w, allBlank w = true → f (t ++ w) = f t

namespace IgnoresBlanks

variable {α : Type} {f : Text → α}

theorem trim (h : IgnoresBlanks f) (t : Text) : f (Text.trim t) = f t := by
  obtain ⟨w, w', hw, hw', ht⟩ := exists_append_trim_append t
  conv => rhs; rw [ht]
  rw [h.before _ _ hw, h.behind _ _ hw']

theorem congr (h : IgnoresBlanks f) {t u : Text} (htu : Text.trim t = Text.trim u) :
    f t = f u := by
  rw [← h.trim t, htu, h.trim u]

theorem comp {β : Type} (h : IgnoresBlanks f) (k : α → β) : IgnoresBlanks fun t => k (f t) where
  before w t hw := congrArg k (h.before w t hw)
  behind t w hw := congrArg k (h.behind t w hw)

end IgnoresBlanks

theorem ignoresBlanks_trim : IgnoresBlanks trim :=
  ⟨fun _ t hw => trim_blank_append hw t, fun t _ hw => trim_append_blank t hw⟩

theorem ignoresBlanks_allBlank : IgnoresBlanks allBlank where
  before w t hw := by rw [allBlank_append, hw, Bool.true_and]
  behind t w hw := by rw [allBlank_append, hw, Bool.and_true]

/-- A reading that refuses the empty text and takes no notice of blanks at the
end. -/
structure IgnoresEnd {α : Type} (f : Text → Option α) : Prop where
  nil : f [] = none
  behind : ∀ t w, allBlank w = true → f (t ++ w) = f t

namespace IgnoresEnd

variable {α β : Type} {f g : Text → Option α}

theorem of_blank (h : IgnoresEnd f) {w : Text} (hw : allBlank w = true) : f w = none := by
  rw [← List.nil_append w, h.behind [] w hw, h.nil]

/-- Trimming on the left first takes care of the other side too. -/
theorem ignoresBlanks (h : IgnoresEnd f) : IgnoresBlanks fun t => f (trimLeft t) where
  before w t hw := by simp only [trimLeft_append_of_blank hw]
  behind t w hw := by
    cases ht : allBlank t with
    | true => rw [trimLeft_append_of_blank ht, trimLeft_eq_nil_iff.2 ht, trimLeft_eq_nil_iff.2 hw]
    | false => rw [trimLeft_append_of_ink ht, h.behind _ _ hw]

theorem trimLeft (h : IgnoresEnd f) : IgnoresEnd fun t => f (Text.trimLeft t) :=
  ⟨h.nil, h.ignoresBlanks.behind⟩

theorem map (h : IgnoresEnd f) (k : α → β) : IgnoresEnd fun t => (f t).map k where
  nil := by simp only [h.nil, Option.map_none]
  behind t w hw := by simp only [h.behind t w hw]

theorem or (h : IgnoresEnd f) (h' : IgnoresEnd g) : IgnoresEnd fun t => (f t).or (g t) where
  nil := by simp only [h.nil, h'.nil, Option.or_none]
  behind t w hw := by simp only [h.behind t w hw, h'.behind t w hw]

end IgnoresEnd

/-- A fixed text that ends with no blank is found whether or not blanks follow
later on. -/
theorem after?_append_of_blank {lead : Text} (hlead : trimRight lead = lead) (t : Text)
    {w : Text} (hw : allBlank w = true) :
    after? lead (t ++ w) = (after? lead t).map (· ++ w) := by
  by_cases hp : lead <+: t
  · obtain ⟨r, rfl⟩ := hp
    rw [List.append_assoc, after?_append, after?_append]
    rfl
  · have hnot : ¬ lead <+: t ++ w := by
      intro h
      rcases List.prefix_or_prefix_of_prefix h (List.prefix_append t w) with h' | ⟨u, hu⟩
      · exact hp h'
      · -- the part of `lead` that lies in `w` is blank, so there is none
        have hblank : allBlank u = true := by
          obtain ⟨v, hv⟩ := (List.prefix_append_right_inj t).1 (hu ▸ h)
          rw [← hv, allBlank_append, Bool.and_eq_true] at hw
          exact hw.1
        rw [← hu, trimRight_append_of_blank t hblank] at hlead
        obtain ⟨s, -, hs⟩ := exists_trimRight_append t
        have hlen := congrArg List.length hs
        have hlen' := congrArg List.length hlead
        simp only [List.length_append] at hlen hlen'
        have hnil : u = [] := List.length_eq_zero_iff.1 (by omega)
        exact hp ⟨[], by rw [← hu, hnil, List.append_nil, List.append_nil]⟩
    rw [after?, after?, if_neg, if_neg]
    · rfl
    · simpa using hp
    · simpa using hnot

theorem IgnoresEnd.after {α : Type} {f : Text → Option α} (h : IgnoresEnd f) {lead : Text}
    (hlead : trimRight lead = lead) (hne : lead ≠ []) :
    IgnoresEnd fun t => (after? lead t).bind f where
  nil := by
    cases lead with
    | nil => exact absurd rfl hne
    | cons c r => rfl
  behind t w hw := by
    simp only [after?_append_of_blank hlead t hw]
    cases after? lead t with
    | none => rfl
    | some r => exact h.behind r w hw

/-! ## Trimmed texts -/

theorem trim_trim (t : Text) : trim (trim t) = trim t :=
  ignoresBlanks_trim.trim t

theorem length_trim_le (t : Text) : (trim t).length ≤ t.length := by
  obtain ⟨w, w', -, -, ht⟩ := exists_append_trim_append t
  have hlength := congrArg List.length ht
  simp only [List.length_append] at hlength
  omega

/-- A trimmed text does not end with blanks. -/
theorem allBlank_behind_of_trim {u v : Text} (h : trim (u ++ v) = u ++ v) (hv : v ≠ []) :
    allBlank v = false := by
  cases hblank : allBlank v with
  | false => rfl
  | true =>
      have hle := length_trim_le u
      have hpos := List.length_pos_iff.2 hv
      rw [trim_append_blank u hblank] at h
      rw [h, List.length_append] at hle
      omega

/-- A trimmed text does not start with blanks. -/
theorem allBlank_before_of_trim {u v : Text} (h : trim (u ++ v) = u ++ v) (hu : u ≠ []) :
    allBlank u = false := by
  cases hblank : allBlank u with
  | false => rfl
  | true =>
      have hle := length_trim_le v
      have hpos := List.length_pos_iff.2 hu
      rw [trim_blank_append hblank v] at h
      rw [h, List.length_append] at hle
      omega

end Scaffold.Text
