/-
# Where an anchor is

An anchor is the first or the last line that contains the target and is no
marker.  The search passes over lines on one side of it only, those before it
for the first place and those after it for the last (`Cut.passed`), and what it
passes over is no anchor (`anchor?_eq_some_iff`).

So which line is found does not hang on lines that are no anchors: the anchor
line may be written anew as long as it stays one (`anchorLine?_replace`), and a
line that is none may be left out (`anchorLine?_of_other`).

An edit of one kind is one function for both sides of the anchor; `linesAt`,
`inlineAt` and `markerAt` name the edits of a kind by their side.
-/
import Scaffold.Edit
import Scaffold.Proofs.MergeRun

namespace Scaffold

namespace Edit

/-! ## Cuts -/

/-- The list that was cut. -/
def Cut.lines (c : Cut) : List Text :=
  c.before ++ c.line :: c.after

/-- The lines that the search passed over. -/
def Cut.passed (c : Cut) : Occurrence → List Text
  | .first => c.before
  | .last => c.after

/-- The list is cut at the first or the last line with the property. -/
structure Cut.IsAt (c : Cut) (p : Text → Bool) (occurrence : Occurrence) (ls : List Text) :
    Prop where
  lines : c.lines = ls
  line : p c.line = true
  passed : ∀ l ∈ c.passed occurrence, p l = false

theorem Cut.IsAt.replace {c : Cut} {p : Text → Bool} {occurrence : Occurrence} {ls : List Text}
    (h : c.IsAt p occurrence ls) {line : Text} (hline : p line = true) :
    Cut.IsAt ⟨c.before, line, c.after⟩ p occurrence (c.before ++ line :: c.after) where
  lines := rfl
  line := hline
  passed := by
    have hpassed := h.passed
    cases occurrence with
    | first => exact hpassed
    | last => exact hpassed

section Cut

variable {p : Text → Bool} {ls : List Text} {c : Cut}

theorem cutFirst?_eq_none_iff : cutFirst? p ls = none ↔ ∀ l ∈ ls, p l = false := by
  induction ls with
  | nil => simp [cutFirst?]
  | cons l r ih =>
      rw [cutFirst?, List.forall_mem_cons, ← ih]
      cases p l <;> simp

theorem cutLast?_eq_none_iff : cutLast? p ls = none ↔ ∀ l ∈ ls, p l = false := by
  induction ls with
  | nil => simp [cutLast?]
  | cons l r ih =>
      rw [cutLast?, List.forall_mem_cons, ← ih]
      cases cutLast? p r <;> cases p l <;> simp

theorem cutFirst?_append {a : List Text} (ha : ∀ l ∈ a, p l = false) {line : Text}
    (hline : p line = true) (b : List Text) : cutFirst? p (a ++ line :: b) = some ⟨a, line, b⟩ := by
  induction a with
  | nil => rw [List.nil_append, cutFirst?, if_pos hline]
  | cons l r ih =>
      rw [List.forall_mem_cons] at ha
      rw [List.cons_append, cutFirst?, ih ha.2, ha.1]
      rfl

theorem cutLast?_append (a : List Text) {line : Text} (hline : p line = true) {b : List Text}
    (hb : ∀ l ∈ b, p l = false) : cutLast? p (a ++ line :: b) = some ⟨a, line, b⟩ := by
  induction a with
  | nil => rw [List.nil_append, cutLast?, cutLast?_eq_none_iff.2 hb, if_pos hline]
  | cons l r ih => rw [List.cons_append, cutLast?, ih]

theorem cutFirst?_eq_some_iff : cutFirst? p ls = some c ↔ c.IsAt p .first ls := by
  constructor
  · intro h
    induction ls generalizing c with
    | nil => exact absurd h (by simp [cutFirst?])
    | cons l r ih =>
        rw [cutFirst?] at h
        split at h
        next hl =>
          obtain rfl := Option.some.inj h
          exact ⟨rfl, hl, by simp [Cut.passed]⟩
        next hl =>
          obtain ⟨d, hd, rfl⟩ := Option.map_eq_some_iff.1 h
          obtain ⟨hlines, hline, hpassed⟩ := ih hd
          exact ⟨congrArg (l :: ·) hlines, hline,
            List.forall_mem_cons.2 ⟨Bool.eq_false_iff.2 hl, hpassed⟩⟩
  · rintro ⟨rfl, hline, hpassed⟩
    exact cutFirst?_append hpassed hline c.after

theorem cutLast?_eq_some_iff : cutLast? p ls = some c ↔ c.IsAt p .last ls := by
  constructor
  · intro h
    induction ls generalizing c with
    | nil => exact absurd h (by simp [cutLast?])
    | cons l r ih =>
        rw [cutLast?] at h
        split at h
        next d hd =>
          obtain rfl := Option.some.inj h
          obtain ⟨hlines, hline, hpassed⟩ := ih hd
          exact ⟨congrArg (l :: ·) hlines, hline, hpassed⟩
        next hnone =>
          split at h
          next hl =>
            obtain rfl := Option.some.inj h
            exact ⟨rfl, hl, cutLast?_eq_none_iff.1 hnone⟩
          next => exact absurd h (by simp)
  · rintro ⟨rfl, hline, hpassed⟩
    exact cutLast?_append c.before hline hpassed

theorem cutFirst?_append_right (h : cutFirst? p ls = some c) (b : List Text) :
    cutFirst? p (ls ++ b) = some { c with after := c.after ++ b } := by
  obtain ⟨rfl, hline, hpassed⟩ := cutFirst?_eq_some_iff.1 h
  rw [Cut.lines, List.append_assoc, List.cons_append]
  exact cutFirst?_append hpassed hline (c.after ++ b)

theorem cutFirst?_append_of_none {b : List Text} (h : ∀ l ∈ b, p l = false) (ls : List Text) :
    cutFirst? p (ls ++ b) = (cutFirst? p ls).map fun c => { c with after := c.after ++ b } := by
  cases hc : cutFirst? p ls with
  | some c => exact cutFirst?_append_right hc b
  | none =>
      refine cutFirst?_eq_none_iff.2 fun l hl => ?_
      rcases List.mem_append.1 hl with hl | hl
      · exact cutFirst?_eq_none_iff.1 hc l hl
      · exact h l hl

theorem map_line_cutFirst? : (cutFirst? p ls).map Cut.line = (ls.filter p).head? := by
  induction ls with
  | nil => rfl
  | cons l r ih =>
      rw [cutFirst?]
      cases hl : p l with
      | true => rw [if_pos rfl, List.filter_cons_of_pos hl]; rfl
      | false =>
          rw [if_neg Bool.false_ne_true, List.filter_cons_of_neg (by simp [hl]), ← ih,
            Option.map_map]
          rfl

theorem map_line_cutLast? : (cutLast? p ls).map Cut.line = (ls.filter p).getLast? := by
  induction ls with
  | nil => rfl
  | cons l r ih =>
      rw [cutLast?, List.filter_cons]
      cases hr : cutLast? p r with
      | some d =>
          rw [hr, Option.map_some] at ih
          cases p l with
          | true => simp [List.getLast?_cons, ← ih]
          | false => simp [← ih]
      | none =>
          rw [hr, Option.map_none] at ih
          cases p l with
          | true => simp [List.getLast?_cons, ← ih]
          | false => simp [← ih]

end Cut

/-! ## Anchors -/

section Anchor

variable {target : Text} {occurrence : Occurrence} {ls : List Text}

theorem isAnchor_iff {line : Text} :
    isAnchor target line = true ↔ target <:+: line ∧ Marker.isMarker line = false := by
  rw [isAnchor, Bool.and_eq_true, Text.hasRun_iff_infix, Bool.not_eq_true']

theorem anchor?_eq_some_iff {c : Cut} : anchor? target occurrence ls = some c ↔
    target ≠ [] ∧ c.IsAt (isAnchor target) occurrence ls := by
  unfold anchor?
  cases target with
  | nil => simp
  | cons t r =>
      cases occurrence with
      | first => simp [cutFirst?_eq_some_iff]
      | last => simp [cutLast?_eq_some_iff]

theorem anchor?_eq_none_iff : anchor? target occurrence ls = none ↔
    target = [] ∨ ∀ l ∈ ls, isAnchor target l = false := by
  unfold anchor?
  cases target with
  | nil => simp
  | cons t r =>
      cases occurrence with
      | first => simp [cutFirst?_eq_none_iff]
      | last => simp [cutLast?_eq_none_iff]

theorem isAnchor_nil (h : target ≠ []) : isAnchor target [] = false := by
  refine Bool.eq_false_iff.2 fun hnil => ?_
  exact h (List.eq_nil_of_infix_nil (isAnchor_iff.1 hnil).1)

/-- An anchor is found among more lines, if the search does not come by another
one first. -/
theorem anchor?_append {c : Cut} (h : anchor? target occurrence ls = some c) {a b : List Text}
    (hfirst : occurrence = .first → ∀ l ∈ a, isAnchor target l = false)
    (hlast : occurrence = .last → ∀ l ∈ b, isAnchor target l = false) :
    anchor? target occurrence (a ++ ls ++ b) = some ⟨a ++ c.before, c.line, c.after ++ b⟩ := by
  obtain ⟨htarget, hlines, hline, hpassed⟩ := anchor?_eq_some_iff.1 h
  refine anchor?_eq_some_iff.2 ⟨htarget, ?_, hline, ?_⟩
  · rw [← hlines]
    simp [Cut.lines]
  · cases occurrence with
    | first => exact List.forall_mem_append.2 ⟨hfirst rfl, hpassed⟩
    | last => exact List.forall_mem_append.2 ⟨hpassed, hlast rfl⟩

/-- An empty line at the end is no anchor. -/
theorem anchor?_append_nil (target : Text) (occurrence : Occurrence) (ls : List Text) :
    anchor? target occurrence (ls ++ [[]]) =
      (anchor? target occurrence ls).map fun c => { c with after := c.after ++ [[]] } := by
  by_cases htarget : target = []
  · rw [anchor?_eq_none_iff.2 (.inl htarget), anchor?_eq_none_iff.2 (.inl htarget)]
    rfl
  have hnil : ∀ l ∈ [([] : Text)], isAnchor target l = false := by
    intro l hl
    exact List.mem_singleton.1 hl ▸ isAnchor_nil htarget
  cases h : anchor? target occurrence ls with
  | some c =>
      exact anchor?_append (a := []) h (fun _ _ hl => absurd hl List.not_mem_nil) fun _ => hnil
  | none =>
      have hall := (anchor?_eq_none_iff.1 h).resolve_left htarget
      exact anchor?_eq_none_iff.2 (.inr (List.forall_mem_append.2 ⟨hall, hnil⟩))

/-- The line of the anchor. -/
def anchorLine? (target : Text) (occurrence : Occurrence) (ls : List Text) : Option Text :=
  (anchor? target occurrence ls).map Cut.line

theorem anchorLine?_replace {c : Cut} {line : Text} (h : anchor? target occurrence ls = some c)
    (hline : isAnchor target line = true) :
    anchorLine? target occurrence (c.before ++ line :: c.after) = some line := by
  obtain ⟨hne, hcut⟩ := anchor?_eq_some_iff.1 h
  rw [anchorLine?, anchor?_eq_some_iff.2 ⟨hne, hcut.replace hline⟩]
  rfl

/-- A line that is no anchor has no say in which line is one. -/
theorem anchorLine?_of_other {line : Text} (h : isAnchor target line = false)
    (a b : List Text) :
    anchorLine? target occurrence (a ++ line :: b) = anchorLine? target occurrence (a ++ b) := by
  have hfilter : (a ++ line :: b).filter (isAnchor target) = (a ++ b).filter (isAnchor target) := by
    rw [List.filter_append, List.filter_cons_of_neg (by simp [h]), ← List.filter_append]
  unfold anchorLine? anchor?
  split
  · rfl
  · cases occurrence with
    | first => simp only [map_line_cutFirst?, hfilter]
    | last => simp only [map_line_cutLast?, hfilter]

end Anchor

/-! ## Edits by their side -/

/-- The edit that inserts lines of its own. -/
def linesAt (a : Anchor) : Position → Edit
  | .above => .insertBeforeLine a
  | .below => .insertAfterLine a

/-- The edit that inserts within the anchor line. -/
def inlineAt (a : Anchor) : Position → Edit
  | .above => .insertBeforeInline a
  | .below => .insertAfterInline a

/-- The edit that adds a marker. -/
def markerAt (a : Anchor) : Position → Edit
  | .above => .addMarkerAboveTarget a
  | .below => .addMarkerBelowTarget a

section Apply

variable (content : Text) (S : SnippetMap) (a : Anchor) (side : Position)

theorem apply_linesAt : apply content S (linesAt a side) = insertLines content a S side := by
  cases side <;> rfl

theorem apply_inlineAt : apply content S (inlineAt a side) = insertInline content a S side := by
  cases side <;> rfl

theorem apply_markerAt : apply content S (markerAt a side) = addMarker content a side := by
  cases side <;> rfl

end Apply

/-! ## The anchor in its file -/

/-- Lines are put beside an anchor as a merge puts them beside a marker. -/
theorem Cut.insert_eq (c : Cut) (block : List Text) (side : Position) :
    c.insert block side = c.before ++ Merge.beside c.line block side ++ c.after := by
  cases side with
  | above => simp [Cut.insert, Merge.beside]
  | below => simp [Cut.insert, Merge.beside]

section File

variable {content target : Text} {occurrence : Occurrence} {c : Cut}

theorem exact_of_anchor? (h : anchor? target occurrence content.lines = some c) :
    (Lines.ofText content).Exact (c.before ++ c.line :: c.after) := by
  have hlines : c.before ++ c.line :: c.after = content.lines := (anchor?_eq_some_iff.1 h).2.lines
  rw [hlines]
  exact Lines.exact_ofText content

theorem feed_notMem_of_anchor? (h : anchor? target occurrence content.lines = some c) :
    '\n' ∉ c.line :=
  (exact_of_anchor? h).noFeed c.line (List.mem_append_right _ List.mem_cons_self)

theorem line_ne_nil_of_anchor? {ls : List Text} (h : anchor? target occurrence ls = some c) :
    c.line ≠ [] := by
  obtain ⟨hne, hcut⟩ := anchor?_eq_some_iff.1 h
  intro hnil
  have hrun := (isAnchor_iff.1 hcut.line).1
  rw [hnil] at hrun
  exact hne (List.eq_nil_of_infix_nil hrun)

/-- What is put beside an anchor can be written with the file. -/
theorem writable_of_anchor? (h : anchor? target occurrence content.lines = some c)
    {b : Block} (hfeed : ∀ l ∈ b, '\n' ∉ l) (hlast : b.getLast? ≠ some []) (side : Position) :
    (Lines.ofText content).Writable (c.before ++ Merge.beside c.line b side ++ c.after) :=
  Merge.writable_beside (exact_of_anchor? h).toWritable (line_ne_nil_of_anchor? h) hfeed hlast side

end File

end Edit

end Scaffold
