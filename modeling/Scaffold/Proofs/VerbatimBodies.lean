/-
# Bodies without markers

A new file is the body of its template without the marker lines.  Where there are no
such lines the body is still split into lines and put together again, always with line
feeds:

    body            new file
    a LF LF b       the same
    a LF LF         the same
    a CR LF b       a LF b
    CR LF           nothing
    LF              nothing

So a body is written as it is if it has no two-character line ending and is not a single
line feed, and only then (`strip_of_no_marker`).  In the last two rows a line is ended
by what `Text.unlinesEnded` takes for no text at all.
-/
import Scaffold.Proofs.StrippedBodies

namespace Scaffold

namespace Text

/-! ## Line feeds only -/

/-- The text with a line feed in place of each two-character line ending. -/
def feedsOnly : Text → Text
  | [] => []
  | '\r' :: '\n' :: r => '\n' :: feedsOnly r
  | c :: r => c :: feedsOnly r

theorem feedsOnly_cons_of_ne {c : Char} {t : Text}
    (h : ∀ r, c = '\r' → t = '\n' :: r → False) : feedsOnly (c :: t) = c :: feedsOnly t := by
  rw [feedsOnly]
  exact h

theorem feedsOnly_of_not_mem {t : Text} (h : '\n' ∉ t) : feedsOnly t = t := by
  induction t with
  | nil => rfl
  | cons c r ih =>
      rw [List.mem_cons, not_or] at h
      rw [feedsOnly_cons_of_ne, ih h.2]
      rintro s - rfl
      exact h.2 List.mem_cons_self

theorem feedsOnly_append_feed {l : Text} (h : '\n' ∉ l) (r : Text) :
    feedsOnly (l ++ '\n' :: r) = dropReturn l ++ '\n' :: feedsOnly r := by
  induction l with
  | nil => exact feedsOnly_cons_of_ne fun _ hc => absurd hc (by decide)
  | cons c s ih =>
      rw [List.mem_cons, not_or] at h
      cases s with
      | nil =>
          by_cases hret : c = '\r'
          · subst hret
            rfl
          · have hrest := ih h.2
            rw [List.singleton_append, feedsOnly_cons_of_ne fun _ hc => absurd hc hret]
            simpa [dropReturn, hret] using hrest
      | cons d u =>
          have hd : d ≠ '\n' := by
            rintro rfl
            exact h.2 List.mem_cons_self
          rw [List.cons_append, feedsOnly_cons_of_ne, ih h.2, dropReturn_cons_cons]
          · rfl
          · rintro v - hv
            exact hd (List.cons.inj hv).1

/-- A text stays as it is exactly if it has no two-character line ending. -/
theorem feedsOnly_eq_self_iff {t : Text} : feedsOnly t = t ↔ hasCrlf t = false := by
  fun_induction feedsOnly t with
  | case1 => exact iff_of_true rfl rfl
  | case2 r ih =>
      refine iff_of_false ?_ (by simp [hasCrlf])
      intro h
      exact absurd (List.cons.inj h).1 (by decide)
  | case3 c r hother ih =>
      rw [List.cons_inj_right, ih, hasCrlf]
      exact hother

/-! ## Lines put together again -/

theorem unlines_cons (l : Text) {ls : List Text} (h : ls ≠ []) :
    unlines (l :: ls) = l ++ '\n' :: unlines ls := by
  obtain ⟨l', r, rfl⟩ := List.exists_cons_of_ne_nil h
  simp [unlines, List.intercalate_cons_cons]

/-- A text is its lines with line feeds between them, and one more at the end where its
last line is ended. -/
theorem unlines_lines (t : Text) :
    unlines (lines t) ++ (if endsLine t then ['\n'] else []) = feedsOnly t := by
  induction t using induction_on_lines with
  | nil => rfl
  | last l hl hne =>
      have hended : endsLine l = false :=
        beq_eq_false_iff_ne.2 fun hlast => hl (List.mem_of_getLast? hlast)
      rw [lines_of_not_mem hl hne, feedsOnly_of_not_mem hl, hended]
      simp [unlines]
  | feed l r hl ih =>
      rw [lines_append_feed hl, feedsOnly_append_feed hl, ← ih]
      by_cases hr : r = []
      · subst hr
        simp [unlines, lines, endsLine]
      · have hended : endsLine (l ++ '\n' :: r) = endsLine r := by
          rw [List.append_cons, endsLine_append _ hr]
        rw [unlines_cons _ (mt lines_eq_nil_iff.1 hr), hended, List.append_assoc, List.cons_append]

theorem feedsOnly_eq_nil_iff {t : Text} : feedsOnly t = [] ↔ t = [] := by
  fun_cases feedsOnly t <;> simp

/-- The texts of which a single line feed is left. -/
theorem feedsOnly_eq_feed_iff {t : Text} :
    feedsOnly t = ['\n'] ↔ t = ['\n'] ∨ t = ['\r', '\n'] := by
  fun_cases feedsOnly t with
  | case1 => simp
  | case2 r => simp [feedsOnly_eq_nil_iff]
  | case3 c r hother =>
      rw [List.cons_eq_cons, feedsOnly_eq_nil_iff]
      constructor
      · rintro ⟨rfl, rfl⟩
        exact .inl rfl
      · rintro (h | h)
        · exact List.cons.inj h
        · exact absurd (List.cons.inj h).2 (hother [] (List.cons.inj h).1)

theorem unlinesEnded_lines (t : Text) :
    unlinesEnded (lines t) (endsLine t) = if feedsOnly t = ['\n'] then [] else feedsOnly t := by
  have hjoin := unlines_lines t
  rw [unlinesEnded]
  cases hended : endsLine t with
  | false =>
      rw [hended, if_neg Bool.false_ne_true, List.append_nil] at hjoin
      have hfeed : feedsOnly t ≠ ['\n'] := by
        intro h
        rcases feedsOnly_eq_feed_iff.1 h with rfl | rfl <;> exact absurd hended (by decide)
      rw [if_neg hfeed, hjoin]
      rfl
  | true =>
      rw [hended, if_pos rfl] at hjoin
      rw [← hjoin]
      cases unlines (lines t) <;> simp

end Text

/-! ## New files -/

namespace Marker

theorem filter_staysInNewFile_of_no_marker {ls : List Text} (h : ls.any isMarker = false)
    (keepAdds : Bool) : ls.filter (staysInNewFile keepAdds) = ls := by
  rw [List.filter_eq_self]
  intro l hl
  have hnone : ofLine? l = none := by
    simpa [isMarker] using List.any_eq_false.1 h l hl
  rw [staysInNewFile, hnone]

/-- A body without markers makes a new file with line feeds for its line endings, or an
empty one if it is a single line ending.  So it is written as it is exactly if it has no
two-character line ending and is not a single line feed. -/
theorem strip_of_no_marker {body : Text} (h : anyIn body = false) (keepAdds : Bool) :
    strip body keepAdds =
        (if body = ['\n'] ∨ body = ['\r', '\n'] then [] else Text.feedsOnly body) ∧
      (strip body keepAdds = body ↔ body.hasCrlf = false ∧ body ≠ ['\n']) := by
  have hstrip : strip body keepAdds =
      if body = ['\n'] ∨ body = ['\r', '\n'] then [] else Text.feedsOnly body := by
    rw [strip, filter_staysInNewFile_of_no_marker h, Text.unlinesEnded_lines]
    exact if_congr Text.feedsOnly_eq_feed_iff rfl rfl
  refine ⟨hstrip, ?_⟩
  rw [hstrip]
  split
  next hsingle =>
    rcases hsingle with rfl | rfl <;> decide
  next hother =>
    rw [Text.feedsOnly_eq_self_iff, and_iff_left fun hfeed => hother (.inl hfeed)]

/-- Empty lines in front and at the end, and a carriage return within a line. -/
theorem strip_of_empty_lines :
    let body := "\n a\r b\n\n\n".toList
    anyIn body = false ∧ strip body true = body := by
  intro body
  have h : anyIn body = false := by decide +kernel
  exact ⟨h, (strip_of_no_marker h true).2.2 (by decide +kernel)⟩

/-- Neither of these bodies has a marker, and neither is written as it is. -/
theorem strip_rewrites_plain_bodies :
    let two := "a\r\nb\r\n".toList
    let single := "\n".toList
    (anyIn two = false ∧ strip two false = "a\nb\n".toList ∧ strip two false ≠ two) ∧
      (anyIn single = false ∧ strip single true = [] ∧ strip single true ≠ single) := by
  decide +kernel

end Marker

end Scaffold
