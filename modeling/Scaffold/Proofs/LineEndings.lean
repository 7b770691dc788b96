/-
# Lines that are written and read again

A file that was changed is written with one line ending and read again by the
next run.  The two lists of lines need not be the same: a carriage return at
the end of a line, harmless as long as it ended the file, turns into a part of
the line ending once a line comes after it.  Nothing else is lost
(`map_trim_lines_render`), if no line holds a line feed and the last one is not
empty where the file does not end it.  Both hold of the lines of any text.
-/
import Scaffold.Text.Lines
import Scaffold.Proofs.Blanks

namespace Scaffold

namespace Text

/-! ## Reading lines -/

/-- A line without the carriage return at its end. -/
def dropReturn (l : Text) : Text :=
  if l.getLast? = some '\r' then l.dropLast else l

theorem dropReturn_cons_cons (c d : Char) (l : Text) :
    dropReturn (c :: d :: l) = c :: dropReturn (d :: l) := by
  simp only [dropReturn, List.getLast?_cons_cons, List.dropLast_cons_cons]
  split <;> rfl

theorem dropReturn_concat (l : Text) : dropReturn (l ++ ['\r']) = l := by
  simp [dropReturn]

theorem trimRight_dropReturn (l : Text) : trimRight (dropReturn l) = trimRight l := by
  rw [dropReturn]
  split
  next h =>
    obtain ⟨s, rfl⟩ : ∃ s, l = s ++ ['\r'] := List.getLast?_eq_some_iff.1 h
    rw [List.dropLast_concat, trimRight_append_of_blank s (by decide)]
  next => rfl

theorem lines_cons_of_ne {c : Char} (hc : c ≠ '\n') {t : Text}
    (hr : ∀ r, c = '\r' → t = '\n' :: r → False) :
    lines (c :: t) = pushFirst c (lines t) := by
  rw [lines]
  · intro h
    exact hc h
  · exact hr

/-- The first line of a text, up to its line feed. -/
theorem lines_append_feed {l : Text} (h : '\n' ∉ l) (r : Text) :
    lines (l ++ '\n' :: r) = dropReturn l :: lines r := by
  induction l with
  | nil => rfl
  | cons c s ih =>
      rw [List.mem_cons, not_or] at h
      have hc : c ≠ '\n' := by
        intro hn
        exact h.1 hn.symm
      cases s with
      | nil =>
          by_cases hret : c = '\r'
          · subst hret
            rfl
          · rw [List.singleton_append, lines_cons_of_ne hc fun _ hr => absurd hr hret]
            simp [dropReturn, lines, pushFirst, hret]
      | cons d u =>
          have hd : d ≠ '\n' := by
            intro hn
            exact h.2 (by simp [hn])
          rw [List.cons_append, lines_cons_of_ne hc, ih h.2, dropReturn_cons_cons]
          · rfl
          · intro v _ hv
            exact hd (List.cons.inj hv).1

/-- A text without line feeds is one line. -/
theorem lines_of_not_mem {l : Text} (h : '\n' ∉ l) (hne : l ≠ []) : lines l = [l] := by
  induction l with
  | nil => exact absurd rfl hne
  | cons c s ih =>
      rw [List.mem_cons, not_or] at h
      rw [lines_cons_of_ne fun hn => h.1 hn.symm]
      · cases s with
        | nil => rfl
        | cons d u =>
            rw [ih h.2 (List.cons_ne_nil d u)]
            rfl
      · rintro r - rfl
        exact h.2 List.mem_cons_self

/-- To prove something of all texts: of the empty one, of a last line without
its line feed, and of a line with its line feed before a text that has it. -/
theorem induction_on_lines {P : Text → Prop} (nil : P [])
    (last : ∀ l, '\n' ∉ l → l ≠ [] → P l)
    (feed : ∀ l r, '\n' ∉ l → P r → P (l ++ '\n' :: r)) (t : Text) : P t := by
  generalize hn : t.length = n
  induction n using Nat.strongRecOn generalizing t with
  | ind n ih =>
      by_cases hm : '\n' ∈ t
      · obtain ⟨l, r, rfl, hl⟩ := List.eq_append_cons_of_mem hm
        refine feed l r hl (ih r.length ?_ r rfl)
        rw [← hn, List.length_append, List.length_cons]
        omega
      · by_cases hne : t = []
        · exact hne ▸ nil
        · exact last t hm hne

theorem not_mem_of_mem_lines {t l : Text} (h : l ∈ lines t) : '\n' ∉ l := by
  induction t using induction_on_lines with
  | nil => exact absurd h List.not_mem_nil
  | last s hs hne =>
      rw [lines_of_not_mem hs hne, List.mem_singleton] at h
      exact h ▸ hs
  | feed s r hs ih =>
      rw [lines_append_feed hs] at h
      rcases List.mem_cons.1 h with rfl | h
      · intro hm
        rw [dropReturn] at hm
        split at hm
        · exact hs (List.dropLast_subset s hm)
        · exact hs hm
      · exact ih h

/-- The lines behind a line feed, whatever stands before it. -/
theorem lines_subset_append_feed (t r : Text) : lines r ⊆ lines (t ++ '\n' :: r) := by
  induction t using induction_on_lines with
  | nil => exact List.subset_cons_self _ _
  | last s hs _ =>
      rw [lines_append_feed hs]
      exact List.subset_cons_self _ _
  | feed s u hs ih =>
      rw [List.append_assoc, List.cons_append, lines_append_feed hs]
      exact List.Subset.trans ih (List.subset_cons_self _ _)

theorem hasCrlf_append_feed {l : Text} (h : '\n' ∉ l) (r : Text) :
    hasCrlf (l ++ '\n' :: r) = (l.getLast? == some '\r' || hasCrlf r) := by
  induction l with
  | nil => rfl
  | cons c s ih =>
      rw [List.mem_cons, not_or] at h
      cases s with
      | nil =>
          by_cases hret : c = '\r'
          · subst hret
            rfl
          · simp [hasCrlf, hret]
      | cons d u =>
          have hd : d ≠ '\n' := fun hn => h.2 (by simp [hn])
          rw [List.getLast?_cons_cons, ← ih h.2, List.cons_append, List.cons_append, hasCrlf]
          rintro v - hv
          exact hd (List.cons.inj hv).1

theorem lines_eq_nil_iff {t : Text} : lines t = [] ↔ t = [] := by
  constructor
  · intro h
    induction t using induction_on_lines with
    | nil => rfl
    | last s hs hne => exact absurd (h.symm.trans (lines_of_not_mem hs hne)) (by simp)
    | feed s r hs _ => exact absurd (h.symm.trans (lines_append_feed hs r)) (by simp)
  · intro h
    rw [h]
    rfl

/-- Only a line that is ended can be the last one and empty. -/
theorem getLast?_lines_ne {t : Text} (h : endsLine t = false) :
    (lines t).getLast? ≠ some [] := by
  induction t using induction_on_lines with
  | nil => simp [lines]
  | last s hs hne => simpa [lines_of_not_mem hs hne] using hne
  | feed s r hs ih =>
      cases r with
      | nil => simp [endsLine] at h
      | cons c u =>
          have hr : endsLine (c :: u) = false := by
            simpa [endsLine, List.getLast?_append] using h
          obtain ⟨x, xs, hx⟩ : ∃ x xs, lines (c :: u) = x :: xs :=
            List.exists_cons_of_ne_nil fun hnil => absurd (lines_eq_nil_iff.1 hnil) (by simp)
          rw [lines_append_feed hs, hx, List.getLast?_cons_cons, ← hx]
          exact ih hr

theorem endsLine_append (a : Text) {b : Text} (h : b ≠ []) :
    endsLine (a ++ b) = endsLine b := by
  rw [endsLine, List.getLast?_append, List.getLast?_eq_some_getLast h, Option.some_or, endsLine,
    List.getLast?_eq_some_getLast h]

theorem endsLine_append_of_ended (a : Text) {b : Text} (h : endsLine b = true) :
    endsLine (a ++ b) = true := by
  have hne : b ≠ [] := by
    rintro rfl
    exact absurd h Bool.false_ne_true
  rw [endsLine_append a hne, h]

theorem dropReturn_eq_self_iff {l : Text} : dropReturn l = l ↔ l.getLast? ≠ some '\r' := by
  rw [dropReturn]
  split
  next h =>
    obtain ⟨s, rfl⟩ := List.getLast?_eq_some_iff.1 h
    simp
  next h => simpa using h

/-- The lines of a text behind which a line feed stands. -/
def fedLines (t : Text) : List Text :=
  if endsLine t then lines t else (lines t).dropLast

theorem fedLines_append_feed {l : Text} (h : '\n' ∉ l) (r : Text) :
    fedLines (l ++ '\n' :: r) = dropReturn l :: fedLines r := by
  by_cases hr : r = []
  · subst hr
    rw [fedLines, lines_append_feed h, if_pos (by simp [endsLine])]
    rfl
  · obtain ⟨x, xs, hx⟩ : ∃ x xs, lines r = x :: xs :=
      List.exists_cons_of_ne_nil (mt lines_eq_nil_iff.1 hr)
    rw [fedLines, fedLines, List.append_cons, endsLine_append _ hr, ← List.append_cons,
      lines_append_feed h, hx, List.dropLast_cons_cons]
    split <;> rfl

/-- Without the two-character line ending no carriage return stands before a
line feed. -/
theorem dropReturn_of_mem_fedLines {t l : Text} (h : hasCrlf t = false) (hl : l ∈ fedLines t) :
    dropReturn l = l := by
  induction t using induction_on_lines with
  | nil => exact absurd hl (by simp [fedLines, lines])
  | last s hs hne =>
      have hended : endsLine s = false :=
        beq_eq_false_iff_ne.2 fun hlast => hs (List.mem_of_getLast? hlast)
      simp [fedLines, hended, lines_of_not_mem hs hne] at hl
  | feed s r hs ih =>
      rw [hasCrlf_append_feed hs, Bool.or_eq_false_iff, beq_eq_false_iff_ne] at h
      have hfirst : dropReturn s = s := dropReturn_eq_self_iff.2 h.1
      rw [fedLines_append_feed hs, hfirst] at hl
      rcases List.mem_cons.1 hl with rfl | hl
      · exact hfirst
      · exact ih h.2 hl

end Text

/-! ## Writing lines -/

/-- What is left of a line that was written with this ending and is read
again. -/
def LineEnding.settled : LineEnding → Text → Text
  | .lf, l => Text.dropReturn l
  | .crlf, l => l

theorem LineEnding.trimRight_settled (e : LineEnding) (l : Text) :
    Text.trimRight (e.settled l) = Text.trimRight l := by
  cases e with
  | lf => exact Text.trimRight_dropReturn l
  | crlf => rfl

theorem LineEnding.settled_of_no_return (e : LineEnding) {l : Text}
    (h : l.getLast? ≠ some '\r') : e.settled l = l := by
  cases e with
  | lf => exact Text.dropReturn_eq_self_iff.2 h
  | crlf => rfl

theorem LineEnding.settled_of (e : LineEnding) {l l' : Text} (h : e.settled l = l)
    (hreturn : l'.getLast? = some '\r' → l.getLast? = some '\r') : e.settled l' = l' := by
  cases e with
  | lf => exact Text.dropReturn_eq_self_iff.2 (mt hreturn (Text.dropReturn_eq_self_iff.1 h))
  | crlf => rfl

theorem Text.lines_append_ending {l : Text} (h : '\n' ∉ l) (e : LineEnding) (r : Text) :
    lines (l ++ (e.text ++ r)) = e.settled l :: lines r := by
  cases e with
  | lf => exact lines_append_feed h r
  | crlf =>
      have hret : '\n' ∉ l ++ ['\r'] := by simpa using h
      have := lines_append_feed hret r
      rw [dropReturn_concat, List.append_assoc] at this
      exact this

theorem Text.lines_subset_append_ending (t : Text) (e : LineEnding) (r : Text) :
    lines r ⊆ lines (t ++ (e.text ++ r)) := by
  cases e with
  | lf => exact lines_subset_append_feed t r
  | crlf =>
      have h := lines_subset_append_feed (t ++ ['\r']) r
      rwa [List.append_assoc] at h

namespace Lines

/-- Lines that can be written in the manner of a file and read again. -/
structure Writable (file : Lines) (ls : List Text) : Prop where
  noFeed : ∀ l ∈ ls, '\n' ∉ l
  last : file.ended = false → ls.getLast? ≠ some []

theorem lines_ofText (t : Text) : (ofText t).lines = t.lines := rfl

theorem writable_ofText (t : Text) : (ofText t).Writable t.lines where
  noFeed _ := Text.not_mem_of_mem_lines
  last := Text.getLast?_lines_ne

theorem render_cons_cons (file : Lines) (l l' : Text) (r : List Text) :
    file.render (l :: l' :: r) = l ++ (file.ending.text ++ file.render (l' :: r)) := by
  simp [render, List.intercalate_cons_cons]

theorem render_singleton_of_ended {file : Lines} (h : file.ended = true) (l : Text) :
    file.render [l] = l ++ (file.ending.text ++ []) := by
  simp [render, List.intercalate_singleton, h]

theorem render_singleton_of_open {file : Lines} (h : file.ended = false) (l : Text) :
    file.render [l] = l := by
  simp [render, List.intercalate_singleton, h]

/-- What is read again of lines that are written in the manner of a file: an
empty last line is lost if the last line is not ended. -/
def reread (file : Lines) (ls : List Text) : List Text :=
  if file.ended = false ∧ ls.getLast? = some [] then ls.dropLast else ls

theorem reread_cons_cons (file : Lines) (l l' : Text) (r : List Text) :
    file.reread (l :: l' :: r) = l :: file.reread (l' :: r) := by
  rw [reread, reread, List.getLast?_cons_cons]
  split <;> rfl

/-- The lines behind which a line ending is written. -/
def endedLines (file : Lines) (ls : List Text) : List Text :=
  if file.ended then ls else ls.dropLast

theorem endedLines_cons_cons (file : Lines) (l l' : Text) (r : List Text) :
    file.endedLines (l :: l' :: r) = l :: file.endedLines (l' :: r) := by
  rw [endedLines, endedLines]
  split <;> rfl

theorem mem_of_mem_endedLines {file : Lines} {ls : List Text} {l : Text}
    (h : l ∈ file.endedLines ls) : l ∈ ls := by
  rw [endedLines] at h
  split at h
  · exact h
  · exact List.dropLast_subset ls h

/-- The lines that are read again are those that were written, but for what no
`f` sees of a carriage return at the end of a line that is ended. -/
theorem map_lines_render (file : Lines) {f : Text → Text} {ls : List Text}
    (h : ∀ l ∈ ls, '\n' ∉ l) (hf : ∀ l ∈ file.endedLines ls, f (file.ending.settled l) = f l) :
    (file.render ls).lines.map f = (file.reread ls).map f := by
  induction ls with
  | nil => simp [reread, render, List.intercalate_nil, Text.lines]
  | cons l r ih =>
      have hl : '\n' ∉ l := h l List.mem_cons_self
      cases r with
      | nil =>
          cases hended : file.ended with
          | true =>
              have hsettled : f (file.ending.settled l) = f l :=
                hf l (by simp [endedLines, hended])
              rw [render_singleton_of_ended hended, Text.lines_append_ending hl, List.map_cons,
                hsettled, reread, if_neg (by simp [hended])]
              rfl
          | false =>
              rw [render_singleton_of_open hended]
              by_cases hne : l = []
              · rw [hne, reread, if_pos ⟨hended, rfl⟩]
                rfl
              · rw [Text.lines_of_not_mem hl hne, reread, if_neg (by simp [hne])]
      | cons l' s =>
          rw [endedLines_cons_cons] at hf
          rw [render_cons_cons, Text.lines_append_ending hl, List.map_cons,
            hf l List.mem_cons_self, ih (fun k hk => h k (List.mem_cons_of_mem _ hk))
              (fun k hk => hf k (List.mem_cons_of_mem _ hk)),
            reread_cons_cons, List.map_cons]

/-- A written line is among those that are read again, whatever the other lines
hold, be it line feeds. -/
theorem exists_mem_lines_render (file : Lines) {ls : List Text} {l : Text} (hl : l ∈ ls)
    (hfeed : '\n' ∉ l) (hne : l ≠ []) :
    ∃ l' ∈ (file.render ls).lines, l' = l ∨ l' = file.ending.settled l := by
  induction ls with
  | nil => exact absurd hl List.not_mem_nil
  | cons k r ih =>
      cases r with
      | nil =>
          obtain rfl := List.mem_singleton.1 hl
          cases hended : file.ended with
          | true =>
              rw [render_singleton_of_ended hended, Text.lines_append_ending hfeed]
              exact ⟨_, List.mem_cons_self, .inr rfl⟩
          | false =>
              rw [render_singleton_of_open hended, Text.lines_of_not_mem hfeed hne]
              exact ⟨l, List.mem_cons_self, .inl rfl⟩
      | cons k' s =>
          rw [render_cons_cons]
          rcases List.mem_cons.1 hl with rfl | hl
          · rw [Text.lines_append_ending hfeed]
            exact ⟨_, List.mem_cons_self, .inr rfl⟩
          · obtain ⟨l', hl', hread⟩ := ih hl
            exact ⟨l', Text.lines_subset_append_ending k file.ending _ hl', hread⟩

theorem map_trimRight_lines_render (file : Lines) {ls : List Text} (h : ∀ l ∈ ls, '\n' ∉ l) :
    (file.render ls).lines.map Text.trimRight = (file.reread ls).map Text.trimRight :=
  file.map_lines_render h fun l _ => file.ending.trimRight_settled l

theorem reread_of_writable {file : Lines} {ls : List Text} (h : file.Writable ls) :
    file.reread ls = ls :=
  if_neg fun hlost => h.last hlost.1 hlost.2

/-- The lines up to blanks around them. -/
theorem map_trim_lines_render_or (file : Lines) {ls : List Text} (h : ∀ l ∈ ls, '\n' ∉ l) :
    (file.render ls).lines.map Text.trim = ls.map Text.trim ∨
      (file.ended = false ∧ ls.getLast? = some [] ∧
        (file.render ls).lines.map Text.trim ++ [[]] = ls.map Text.trim) := by
  have htrim : (file.render ls).lines.map Text.trim = (file.reread ls).map Text.trim :=
    Text.map_trim_of_map_trimRight (map_trimRight_lines_render file h)
  rw [htrim, reread]
  split
  next hlost =>
    obtain ⟨init, rfl⟩ := List.getLast?_eq_some_iff.1 hlost.2
    refine .inr ⟨hlost.1, hlost.2, ?_⟩
    rw [List.dropLast_concat, List.map_append]
    rfl
  next => exact .inl rfl

theorem map_trim_lines_render {file : Lines} {ls : List Text} (h : file.Writable ls) :
    (file.render ls).lines.map Text.trim = ls.map Text.trim := by
  rcases map_trim_lines_render_or file h.noFeed with heq | ⟨hended, hlast, -⟩
  · exact heq
  · exact absurd hlast (h.last hended)

/-! ## Lines that come back as they are -/

/-- Lines that are the same when they are written in the manner of a file and
read again. -/
structure Exact (file : Lines) (ls : List Text) : Prop extends Writable file ls where
  settled : ∀ l ∈ file.endedLines ls, file.ending.settled l = l

theorem lines_render_of_exact {file : Lines} {ls : List Text} (h : file.Exact ls) :
    (file.render ls).lines = ls := by
  have hlines := file.map_lines_render (f := id) h.noFeed h.settled
  rwa [List.map_id, List.map_id, reread_of_writable h.toWritable] at hlines

theorem exact_ofText (t : Text) : (ofText t).Exact t.lines where
  toWritable := writable_ofText t
  settled l hl := by
    cases hcrlf : t.hasCrlf with
    | true => simp [ofText, hcrlf, LineEnding.settled]
    | false =>
        have hl : l ∈ t.fedLines := hl
        simpa [ofText, hcrlf, LineEnding.settled] using Text.dropReturn_of_mem_fedLines hcrlf hl

theorem endedLines_append_cons (file : Lines) (a : List Text) (l : Text) (b : List Text) :
    file.endedLines (a ++ l :: b) = a ++ file.endedLines (l :: b) := by
  rw [endedLines, endedLines]
  split
  · rfl
  · exact List.dropLast_append_cons

/-- One line may be written anew, if it does not come to end with a carriage
return. -/
theorem Exact.replace {file : Lines} {a b : List Text} {line line' : Text}
    (h : file.Exact (a ++ line :: b)) (hfeed : '\n' ∉ line') (hne : line' ≠ [])
    (hreturn : line'.getLast? = some '\r' → line.getLast? = some '\r') :
    file.Exact (a ++ line' :: b) where
  noFeed l hl := by
    rcases List.mem_append.1 hl with hl | hl
    · exact h.noFeed l (List.mem_append_left _ hl)
    · rcases List.mem_cons.1 hl with rfl | hl
      · exact hfeed
      · exact h.noFeed l (List.mem_append_right _ (List.mem_cons_of_mem _ hl))
  last hended := by
    have hlast := h.last hended
    cases b with
    | nil => simpa using hne
    | cons x r => simpa [List.getLast?_append, List.getLast?_cons] using hlast
  settled l hl := by
    have hold := h.settled
    rw [endedLines_append_cons] at hl hold
    rcases List.mem_append.1 hl with hl | hl
    · exact hold l (List.mem_append_left _ hl)
    · cases b with
      | nil =>
          obtain rfl : l = line' := List.mem_singleton.1 (mem_of_mem_endedLines hl)
          have hended : file.ended = true := by
            by_contra hended
            simp [endedLines, hended] at hl
          exact file.ending.settled_of (hold line (by simp [endedLines, hended])) hreturn
      | cons x r =>
          rw [endedLines_cons_cons] at hl hold
          rcases List.mem_cons.1 hl with rfl | hl
          · exact file.ending.settled_of (hold line (by simp)) hreturn
          · exact hold l (List.mem_append_right _ (List.mem_cons_of_mem _ hl))

/-- Some lines may be replaced by others that do not end with a carriage return.
All that can be lost is an empty last line. -/
theorem lines_render_of_splice {file : Lines} {a old b : List Text} (hold : old ≠ [])
    (h : file.Exact (a ++ old ++ b)) {new : List Text} (hfeed : ∀ l ∈ new, '\n' ∉ l)
    (hreturn : ∀ l ∈ new, l.getLast? ≠ some '\r') :
    (file.render (a ++ new ++ b)).lines = file.reread (a ++ new ++ b) := by
  have hbefore : ∀ l ∈ a ++ new, file.ending.settled l = l := by
    intro l hl
    rcases List.mem_append.1 hl with hl | hl
    · obtain ⟨x, r, rfl⟩ := List.exists_cons_of_ne_nil hold
      refine h.settled l ?_
      rw [List.append_assoc, List.cons_append, endedLines_append_cons]
      exact List.mem_append_left _ hl
    · exact file.ending.settled_of_no_return (hreturn l hl)
  have hall : ∀ l ∈ a ++ new ++ b, '\n' ∉ l := by
    intro l hl
    rcases List.mem_append.1 hl with hl | hl
    · rcases List.mem_append.1 hl with hl | hl
      · exact h.noFeed l (List.mem_append_left _ (List.mem_append_left _ hl))
      · exact hfeed l hl
    · exact h.noFeed l (List.mem_append_right _ hl)
  have hsettled : ∀ l ∈ file.endedLines (a ++ new ++ b), file.ending.settled l = l := by
    intro l hl
    cases b with
    | nil => exact hbefore l (List.append_nil (a ++ new) ▸ mem_of_mem_endedLines hl)
    | cons x r =>
        rw [endedLines_append_cons] at hl
        rcases List.mem_append.1 hl with hl | hl
        · exact hbefore l hl
        · refine h.settled l ?_
          rw [endedLines_append_cons]
          exact List.mem_append_right _ hl
  have hlines := file.map_lines_render (f := id) hall hsettled
  rwa [List.map_id, List.map_id] at hlines

/-- What is read again is the file as it was only if the lines were replaced by
themselves. -/
theorem eq_of_reread_splice {file : Lines} {a old b new : List Text}
    (h : file.Writable (a ++ old ++ b)) (hold : old ≠ []) (hnew : new.getLast? ≠ some [])
    (hread : file.reread (a ++ new ++ b) = a ++ old ++ b) : new = old := by
  have htail : ∀ {c d : List Text}, d ≠ [] → (c ++ d).getLast? = d.getLast? := by
    intro c d hne
    rw [List.getLast?_append, List.getLast?_eq_some_getLast hne, Option.some_or]
  rw [reread] at hread
  split at hread
  next hlost =>
    obtain ⟨hended, hlast⟩ := hlost
    cases b with
    | cons x r =>
        have hother := h.last hended
        rw [htail (List.cons_ne_nil x r)] at hlast hother
        exact absurd hlast hother
    | nil =>
        have hnil : new = [] := by
          by_contra hne
          rw [List.append_nil, htail hne] at hlast
          exact hnew hlast
        have hlength := congrArg List.length hread
        have hpos := List.length_pos_iff.2 hold
        simp only [hnil, List.append_nil, List.length_dropLast, List.length_append] at hlength
        omega
  next => exact List.append_cancel_left (List.append_cancel_right hread)

theorem length_lines_render_le (file : Lines) {ls : List Text} (h : ∀ l ∈ ls, '\n' ∉ l) :
    (file.render ls).lines.length ≤ ls.length := by
  have hlength := congrArg List.length (file.map_trimRight_lines_render h)
  rw [List.length_map, List.length_map] at hlength
  rw [hlength, reread]
  split
  · rw [List.length_dropLast]
    exact Nat.sub_le _ _
  · exact Nat.le_refl _

/-- The first line of a text is written in front of the other ones. -/
theorem render_lines_append_feed {file : Lines} {l r : Text} (hfeed : '\n' ∉ l)
    (hended : (l ++ '\n' :: r).endsLine = true → file.ended = true) :
    file.render (l ++ '\n' :: r).lines =
      Text.dropReturn l ++ (file.ending.text ++ file.render r.lines) := by
  rw [Text.lines_append_feed hfeed]
  by_cases hr : r = []
  · subst hr
    have hclosed : file.ended = true := hended (by simp [Text.endsLine])
    rw [Text.lines, render_singleton_of_ended hclosed]
    simp [render]
  · obtain ⟨l', s, hlines⟩ := List.exists_cons_of_ne_nil (mt Text.lines_eq_nil_iff.1 hr)
    rw [hlines, render_cons_cons]

/-! ## How long a file is -/

/-- A file that is written holds its lines and an ending for each of them, or for
each but the last. -/
theorem length_render (file : Lines) {ls : List Text} (h : ls ≠ []) :
    (file.render ls).length + (if file.ended then 0 else file.ending.text.length) =
      ls.flatten.length + ls.length * file.ending.text.length := by
  induction ls with
  | nil => exact absurd rfl h
  | cons l r ih =>
      cases r with
      | nil =>
          cases hended : file.ended with
          | true => simp [render_singleton_of_ended hended]
          | false => simp [render_singleton_of_open hended]
      | cons l' r =>
          have hrest := ih (List.cons_ne_nil l' r)
          rw [render_cons_cons, List.flatten_cons, List.length_cons, Nat.succ_mul]
          simp only [List.length_append] at hrest ⊢
          omega

/-- A line more makes a longer file. -/
theorem length_render_lt_insert (file : Lines) {a b : List Text} (h : a ++ b ≠ []) (l : Text) :
    (file.render (a ++ b)).length < (file.render (a ++ l :: b)).length := by
  have hending : 0 < file.ending.text.length := by
    cases file.ending with
    | lf => decide
    | crlf => decide
  have hcount : (a ++ l :: b).length = (a ++ b).length + 1 := by simp; omega
  have htext : (a ++ l :: b).flatten.length = (a ++ b).flatten.length + l.length := by
    simp only [List.flatten_append, List.flatten_cons, List.length_append]
    omega
  have hold := file.length_render h
  have hnew := file.length_render (List.append_ne_nil_of_right_ne_nil a (List.cons_ne_nil l b))
  rw [hcount, Nat.succ_mul, htext] at hnew
  omega

theorem length_le_length_render_of {file : Lines} {t : Text}
    (hcrlf : t.hasCrlf = true → file.ending = .crlf)
    (hended : t.endsLine = true → file.ended = true) :
    t.length ≤ (file.render t.lines).length := by
  induction t using Text.induction_on_lines with
  | nil => exact Nat.zero_le _
  | last l hfeed hne =>
      rw [Text.lines_of_not_mem hfeed hne]
      simp [render, List.intercalate_singleton]
  | feed l r hfeed ih =>
      have hline : l.length + 1 ≤ (Text.dropReturn l).length + file.ending.text.length := by
        rw [Text.hasCrlf_append_feed hfeed] at hcrlf
        rw [Text.dropReturn]
        split
        next hreturn =>
          rw [hcrlf (by simp [hreturn]), List.length_dropLast]
          simp only [LineEnding.text, List.length_cons, List.length_nil]
          omega
        next =>
          cases file.ending with
          | lf => exact Nat.le_refl _
          | crlf => exact Nat.le_succ _
      have hrest : r.length ≤ (file.render r.lines).length := by
        refine ih ?_ ?_
        · intro h
          exact hcrlf (by rw [Text.hasCrlf_append_feed hfeed, h, Bool.or_true])
        · intro h
          exact hended (by rw [List.append_cons, Text.endsLine_append_of_ended _ h])
      rw [render_lines_append_feed hfeed hended]
      simp only [List.length_append, List.length_cons]
      omega

/-- A file that is written anew loses no character; a line feed may become two. -/
theorem length_le_length_render (t : Text) : t.length ≤ ((ofText t).render t.lines).length :=
  length_le_length_render_of (fun h => if_pos h) fun h => h

/-! ## New texts -/

/-- A new text is written like a file whose last line is ended if there is any
text. -/
theorem unlinesEnded_eq_render (ls : List Text) (ended : Bool) :
    Text.unlinesEnded ls ended = render ⟨[], .lf, ended && !(Text.unlines ls).isEmpty⟩ ls := by
  have hunlines : Text.unlines ls = List.intercalate LineEnding.lf.text ls := rfl
  rw [Text.unlinesEnded, render, hunlines]
  split
  next hcond =>
    have hne : ls ≠ [] := by
      rintro rfl
      simp [List.intercalate_nil] at hcond
    rw [if_pos (by simp [hcond, hne])]
    rfl
  next hcond =>
    rw [if_neg, List.append_nil]
    intro hended
    exact hcond (Bool.and_eq_true_iff.1 hended).1

theorem unlines_eq_nil_iff {ls : List Text} : Text.unlines ls = [] ↔ ls = [] ∨ ls = [[]] := by
  cases ls with
  | nil => simp [Text.unlines]
  | cons l r =>
      cases r with
      | nil => simp [Text.unlines]
      | cons l' s => simp [Text.unlines, List.intercalate_cons_cons]

theorem trimRight_unlinesEnded (ls : List Text) (ended : Bool) :
    Text.trimRight (Text.unlinesEnded ls ended) = Text.trimRight (Text.unlines ls) := by
  rw [Text.unlinesEnded]
  split
  · exact Text.trimRight_append_of_blank _ (by decide)
  · rfl

/-- What is read again of a new text: an empty last line is lost if there is no
other line or the last line is not ended. -/
def rereadNew (ls : List Text) (ended : Bool) : List Text :=
  if ls.getLast? = some [] ∧ (ended = false ∨ ls = [[]]) then ls.dropLast else ls

theorem reread_eq_rereadNew (ls : List Text) (ended : Bool) :
    reread ⟨[], .lf, ended && !(Text.unlines ls).isEmpty⟩ ls = rereadNew ls ended := by
  rw [reread, rereadNew]
  refine if_congr ?_ rfl rfl
  rw [and_comm]
  refine and_congr_right ?_
  intro hlast
  have hne : ls ≠ [] := by
    rintro rfl
    exact absurd hlast (by simp)
  simp only [Bool.and_eq_false_iff, Bool.not_eq_false', List.isEmpty_iff, unlines_eq_nil_iff, hne,
    false_or]

theorem map_trimRight_lines_unlinesEnded {ls : List Text} (ended : Bool)
    (h : ∀ l ∈ ls, '\n' ∉ l) :
    (Text.unlinesEnded ls ended).lines.map Text.trimRight =
      (rereadNew ls ended).map Text.trimRight := by
  rw [unlinesEnded_eq_render, map_trimRight_lines_render _ h, reread_eq_rereadNew]

/-- Without a carriage return at the end of a line nothing else changes. -/
theorem lines_unlinesEnded {ls : List Text} (ended : Bool) (h : ∀ l ∈ ls, '\n' ∉ l)
    (hreturn : ∀ l ∈ ls, l.getLast? ≠ some '\r') :
    (Text.unlinesEnded ls ended).lines = rereadNew ls ended := by
  have hsettled : ∀ l ∈ ls, id (LineEnding.lf.settled l) = id l := by
    intro l hl
    exact if_neg (hreturn l hl)
  have := map_lines_render ⟨[], .lf, ended && !(Text.unlines ls).isEmpty⟩ h
    fun l hl => hsettled l (mem_of_mem_endedLines hl)
  rwa [List.map_id, List.map_id, reread_eq_rereadNew, ← unlinesEnded_eq_render] at this

/-! ## Whether the last line is ended -/

theorem exists_render_append (file : Lines) (a : List Text) {b : List Text} (h : b ≠ []) :
    ∃ before, file.render (a ++ b) = before ++ file.render b := by
  induction a with
  | nil => exact ⟨[], rfl⟩
  | cons k r ih =>
      obtain ⟨before, hbefore⟩ := ih
      obtain ⟨k', r', hr⟩ : ∃ k' r', r ++ b = k' :: r' :=
        List.exists_cons_of_ne_nil (List.append_ne_nil_of_right_ne_nil r h)
      refine ⟨k ++ (file.ending.text ++ before), ?_⟩
      rw [List.cons_append, hr, render_cons_cons, ← hr, hbefore, List.append_assoc,
        List.append_assoc]

theorem endsLine_append_ending (e : LineEnding) (t : Text) :
    (t ++ (e.text ++ [])).endsLine = true := by
  cases e with
  | lf => rw [Text.endsLine_append t (by decide)]; rfl
  | crlf => rw [Text.endsLine_append t (by decide)]; rfl

/-- A file that is written ends with a line feed exactly if it did before. -/
theorem endsLine_render {file : Lines} {ls : List Text} (h : file.Writable ls) (hne : ls ≠ []) :
    (file.render ls).endsLine = file.ended := by
  obtain ⟨init, l, rfl⟩ : ∃ init l, ls = init ++ [l] :=
    ⟨_, _, (List.dropLast_concat_getLast hne).symm⟩
  obtain ⟨before, hbefore⟩ := exists_render_append file init (List.cons_ne_nil l [])
  cases hended : file.ended with
  | true =>
      rw [hbefore, render_singleton_of_ended hended, ← List.append_assoc]
      exact endsLine_append_ending file.ending (before ++ l)
  | false =>
      have hl : l ≠ [] := by
        rintro rfl
        exact h.last hended List.getLast?_concat
      rw [hbefore, render_singleton_of_open hended, Text.endsLine_append before hl, Text.endsLine,
        beq_eq_false_iff_ne]
      intro hfeed
      exact h.noFeed l (List.mem_append_right _ List.mem_cons_self) (List.mem_of_getLast? hfeed)

end Lines

end Scaffold
