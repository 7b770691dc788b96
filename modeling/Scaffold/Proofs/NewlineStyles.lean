/-
# Files that come back as they were

A file is split into lines and put together again with one line ending for all of them.
What comes back is the same text exactly if the line feeds of the file stand the way its
ending writes them, all behind a carriage return or all behind none:

    a LF b LF          a LF b LF
    a CRLF b           a CRLF b
    a CR CRLF          a CR CRLF           the first CR belongs to the line
    a LF b CR          a LF b CR           so does one that no line feed follows
    a CRLF b LF        a CRLF b CRLF       the one kind of file that changes

Whatever comes back has the lines of the file and is a file with one kind of ending, so
nothing happens to it when it is split and put together again
(`toText_ofText_eq_self_iff`).
-/
import Scaffold.Proofs.LineEndings

namespace Scaffold

namespace Text

/-! ## Line feeds that stand one way -/

/-- Every line feed stands where this ending puts it: the two-character ending behind a
carriage return, the other one not. -/
def EndedAs (e : LineEnding) (t : Text) : Prop :=
  ∀ a b, t = a ++ '\n' :: b → (a.getLast? = some '\r' ↔ e = .crlf)

theorem endedAs_of_not_mem {t : Text} (h : '\n' ∉ t) (e : LineEnding) : EndedAs e t := by
  rintro a b rfl
  exact absurd (List.mem_append_right a List.mem_cons_self) h

theorem endedAs_append_feed {l : Text} (h : '\n' ∉ l) (e : LineEnding) (r : Text) :
    EndedAs e (l ++ '\n' :: r) ↔ (l.getLast? = some '\r' ↔ e = .crlf) ∧ EndedAs e r := by
  have hbehind : ∀ a : Text, (l ++ '\n' :: a).getLast? = some '\r' ↔ a.getLast? = some '\r' := by
    intro a
    cases a with
    | nil => simp
    | cons c s => simp [List.getLast?_append, List.getLast?_cons]
  constructor
  · intro hall
    refine ⟨hall l r rfl, ?_⟩
    rintro a b rfl
    rw [← hbehind a]
    exact hall (l ++ '\n' :: a) b (by simp)
  · rintro ⟨hfirst, hrest⟩ a b hsplit
    rcases List.append_eq_append_iff.1 hsplit with ⟨c, rfl, hc⟩ | ⟨c, rfl, hc⟩
    · cases c with
      | nil => simpa using hfirst
      | cons x s =>
          obtain ⟨rfl, rfl⟩ := List.cons.inj hc
          rw [hbehind s]
          exact hrest s b rfl
    · cases c with
      | nil => simpa using hfirst
      | cons x s =>
          obtain ⟨rfl, -⟩ := List.cons.inj hc
          exact absurd (List.mem_append_right a List.mem_cons_self) h

theorem endedAs_crlf_iff {t : Text} :
    EndedAs .crlf t ↔ ∀ a b, t = a ++ '\n' :: b → a.getLast? = some '\r' := by
  simp [EndedAs]

theorem endedAs_lf_iff {t : Text} : EndedAs .lf t ↔ ¬ ['\r', '\n'] <:+: t := by
  constructor
  · rintro hall ⟨a, b, rfl⟩
    have hreturn := hall (a ++ ['\r']) b (by simp)
    simp at hreturn
  · rintro hnone a b rfl
    refine iff_of_false ?_ (by simp)
    intro hreturn
    obtain ⟨s, rfl⟩ := List.getLast?_eq_some_iff.1 hreturn
    exact hnone ⟨s, b, by simp⟩

theorem hasCrlf_of_not_mem {t : Text} (h : '\n' ∉ t) : hasCrlf t = false := by
  induction t with
  | nil => rfl
  | cons c r ih =>
      rw [List.mem_cons, not_or] at h
      rw [hasCrlf, ih h.2]
      rintro s - rfl
      exact h.2 List.mem_cons_self

theorem hasCrlf_eq_false_iff {t : Text} : hasCrlf t = false ↔ EndedAs .lf t := by
  induction t using induction_on_lines with
  | nil => exact iff_of_true rfl (endedAs_of_not_mem List.not_mem_nil .lf)
  | last l hl _ => exact iff_of_true (hasCrlf_of_not_mem hl) (endedAs_of_not_mem hl .lf)
  | feed l r hl ih =>
      rw [hasCrlf_append_feed hl, endedAs_append_feed hl, Bool.or_eq_false_iff, ih]
      simp

end Text

namespace Lines

/-! ## Written files -/

theorem endedAs_append_ending {l : Text} (hfeed : '\n' ∉ l) {e : LineEnding}
    (hsettled : e.settled l = l) {r : Text} (hr : Text.EndedAs e r) :
    Text.EndedAs e (l ++ (e.text ++ r)) := by
  cases e with
  | lf =>
      refine (Text.endedAs_append_feed hfeed .lf r).2 ⟨?_, hr⟩
      exact iff_of_false (Text.dropReturn_eq_self_iff.1 hsettled) (by simp)
  | crlf =>
      have hfeed' : '\n' ∉ l ++ ['\r'] := by simpa using hfeed
      have hwritten := (Text.endedAs_append_feed hfeed' .crlf r).2 ⟨by simp, hr⟩
      rwa [List.append_assoc] at hwritten

/-- The line feeds of a file that is written stand as its ending puts them. -/
theorem endedAs_render {file : Lines} {ls : List Text} (hfeed : ∀ l ∈ ls, '\n' ∉ l)
    (hsettled : ∀ l ∈ file.endedLines ls, file.ending.settled l = l) :
    Text.EndedAs file.ending (file.render ls) := by
  induction ls with
  | nil => exact Text.endedAs_of_not_mem (by simp [render]) file.ending
  | cons l r ih =>
      have hl : '\n' ∉ l := hfeed l List.mem_cons_self
      cases r with
      | nil =>
          cases hended : file.ended with
          | true =>
              rw [render_singleton_of_ended hended]
              exact endedAs_append_ending hl (hsettled l (by simp [endedLines, hended]))
                (Text.endedAs_of_not_mem List.not_mem_nil file.ending)
          | false =>
              rw [render_singleton_of_open hended]
              exact Text.endedAs_of_not_mem hl file.ending
      | cons l' s =>
          rw [endedLines_cons_cons] at hsettled
          rw [render_cons_cons]
          refine endedAs_append_ending hl (hsettled l List.mem_cons_self) (ih ?_ ?_)
          · exact fun k hk => hfeed k (List.mem_cons_of_mem _ hk)
          · exact fun k hk => hsettled k (List.mem_cons_of_mem _ hk)

theorem dropReturn_append_ending {l : Text} {e : LineEnding}
    (h : l.getLast? = some '\r' ↔ e = .crlf) (r : Text) :
    Text.dropReturn l ++ (e.text ++ r) = l ++ '\n' :: r := by
  cases e with
  | lf =>
      have hkept : Text.dropReturn l = l := Text.dropReturn_eq_self_iff.2 (by simp [h])
      rw [hkept]
      rfl
  | crlf =>
      obtain ⟨s, rfl⟩ := List.getLast?_eq_some_iff.1 (h.2 rfl)
      rw [Text.dropReturn_concat]
      simp [LineEnding.text]

/-- A text whose line feeds stand one way is written again as it is. -/
theorem render_lines_of_endedAs {file : Lines} {t : Text} (h : Text.EndedAs file.ending t)
    (hended : file.ended = t.endsLine) : file.render t.lines = t := by
  induction t using Text.induction_on_lines with
  | nil => simp [Text.lines, render]
  | last l hl hne =>
      have hopen : file.ended = false := by
        rw [hended]
        exact beq_eq_false_iff_ne.2 fun hlast => hl (List.mem_of_getLast? hlast)
      rw [Text.lines_of_not_mem hl hne, render_singleton_of_open hopen]
  | feed l r hl ih =>
      obtain ⟨hfirst, hrest⟩ := (Text.endedAs_append_feed hl file.ending r).1 h
      have hback : file.render r.lines = r := by
        by_cases hr : r = []
        · subst hr
          simp [Text.lines, render]
        · refine ih hrest ?_
          rw [hended, List.append_cons, Text.endsLine_append _ hr]
      rw [render_lines_append_feed hl hended.trans, hback, dropReturn_append_ending hfirst]

/-! ## Files that are split and put together again -/

theorem endedAs_toText (t : Text) : Text.EndedAs (ofText t).ending (ofText t).toText :=
  endedAs_render (exact_ofText t).noFeed (exact_ofText t).settled

theorem toText_ofText_eq_iff {t : Text} :
    (ofText t).toText = t ↔ Text.EndedAs (ofText t).ending t := by
  constructor
  · intro hsame
    have hwritten := endedAs_toText t
    rwa [hsame] at hwritten
  · intro hended
    exact render_lines_of_endedAs hended rfl

theorem feed_mem_toText {t : Text} (h : '\n' ∈ t) : '\n' ∈ (ofText t).toText := by
  have hending : ∀ e : LineEnding, '\n' ∈ e.text := by
    intro e
    cases e with
    | lf => exact List.mem_cons_self
    | crlf => exact List.mem_cons_of_mem _ List.mem_cons_self
  obtain ⟨l, r, rfl, hl⟩ := List.eq_append_cons_of_mem h
  rw [toText, lines_ofText, render_lines_append_feed hl fun hended => hended]
  simp [hending]

theorem hasCrlf_toText {t : Text} (h : t.hasCrlf = true) : (ofText t).toText.hasCrlf = true := by
  have hmem : '\n' ∈ t := by
    by_contra hnone
    rw [Text.hasCrlf_of_not_mem hnone] at h
    exact absurd h Bool.false_ne_true
  have hcrlf : Text.EndedAs .crlf (ofText t).toText := by
    have hwritten := endedAs_toText t
    rwa [show (ofText t).ending = .crlf from if_pos h] at hwritten
  by_contra hnot
  have hlf := Text.hasCrlf_eq_false_iff.1 (Bool.eq_false_iff.2 hnot)
  obtain ⟨a, b, hsplit⟩ := List.append_of_mem (feed_mem_toText hmem)
  have hreturn : a.getLast? = some '\r' := (hcrlf a b hsplit).2 rfl
  exact absurd ((hlf a b hsplit).1 hreturn) (by decide)

/-- A file is read again as it was written. -/
theorem ofText_toText_ofText (t : Text) : ofText (ofText t).toText = ofText t := by
  cases hcrlf : t.hasCrlf with
  | false =>
      have hending : (ofText t).ending = .lf := by simp [ofText, hcrlf]
      have hended : Text.EndedAs (ofText t).ending t := by
        rw [hending]
        exact Text.hasCrlf_eq_false_iff.1 hcrlf
      rw [toText_ofText_eq_iff.2 hended]
  | true =>
      have hne : t.lines ≠ [] := by
        intro hnil
        rw [Text.lines_eq_nil_iff.1 hnil] at hcrlf
        exact absurd hcrlf Bool.false_ne_true
      have hlines : (ofText t).toText.lines = t.lines := lines_render_of_exact (exact_ofText t)
      have hended : (ofText t).toText.endsLine = t.endsLine :=
        endsLine_render (writable_ofText t) hne
      rw [ofText, hlines, hended, hasCrlf_toText hcrlf, ofText, hcrlf]

/-- A file comes back as it was exactly if it has no two-character line ending or no other
one, and whatever comes back has the same lines and comes back as it is. -/
theorem toText_ofText_eq_self_iff (t : Text) :
    let file := ofText t
    let again := ofText file.toText
    (file.toText = t ↔
        ¬ ['\r', '\n'] <:+: t ∨ ∀ a b, t = a ++ '\n' :: b → a.getLast? = some '\r') ∧
      again.lines = file.lines ∧ again.toText = file.toText := by
  intro file again
  have hagain : again = file := ofText_toText_ofText t
  refine ⟨?_, congrArg Lines.lines hagain, congrArg toText hagain⟩
  rw [toText_ofText_eq_iff, ← Text.endedAs_lf_iff, ← Text.endedAs_crlf_iff,
    ← Text.hasCrlf_eq_false_iff]
  cases hcrlf : t.hasCrlf with
  | false =>
      have hlf : Text.EndedAs .lf t := Text.hasCrlf_eq_false_iff.1 hcrlf
      refine iff_of_true ?_ (.inl rfl)
      rwa [show (ofText t).ending = .lf by simp [ofText, hcrlf]]
  | true => simp [ofText, hcrlf]

example : (ofText "a\r\nb\n".toList).toText = "a\r\nb\r\n".toList := by decide

end Lines

end Scaffold
