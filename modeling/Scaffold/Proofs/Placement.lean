/-
# Where a merge puts what it brings in

A merge leaves every line of a file where it is and puts blocks beside some of
the ADD markers.  `Laid S ls used out` says what that means: `out` are the lines
`ls` with the snippets `used` put in, the last one first, and

    each block stands on the side of its marker that the marker asks for, with
    the indentation of the marker,
    the marker is the first one of its key,
    no snippet is put in twice.

The relation is built up line by line, in the direction in which a merge goes
down a file, and `Tracked` ties it to the state of the merge.  That no snippet
comes twice is not checked anywhere: it holds because a snippet that was put in
stays in the file (`Pass.isPresent`), so that it is never owed again.
-/
import Scaffold.Proofs.MergeLaws

namespace Scaffold

open Marker (addsIn addsOfLines)

namespace Merge

/-! ## Lines with blocks beside them -/

/-- `out` are the lines `ls` with the snippets `used` beside markers of theirs. -/
inductive Laid (S : SnippetMap) : List Text → List (Text × Block) → List Text → Prop
  | nil : Laid S [] [] []
  | alone {ls used out} (h : Laid S ls used out) (line : Text) :
      Laid S (ls ++ [line]) used (out ++ [line])
  | served {ls used out} {line key : Text} {p : Position} {e : Text × Block}
      (h : Laid S ls used out) (hline : Marker.ofLine? line = some (.add key p))
      (hfirst : ∀ m ∈ addsOfLines ls, m.1 ≠ key) (he : S.resolve? key = some e)
      (hnew : e ∉ used) :
      Laid S (ls ++ [line]) (e :: used)
        (out ++ beside line (e.2.indentBy (Text.indentation line)) p)

variable {S : SnippetMap} {ls out : List Text} {used : List (Text × Block)}

theorem sublist_beside (line : Text) (b : Block) (p : Position) :
    [line].Sublist (beside line b p) := by
  cases p with
  | above => exact List.sublist_append_right b [line]
  | below => exact List.sublist_append_left [line] b

theorem Laid.sublist (h : Laid S ls used out) : ls.Sublist out := by
  induction h with
  | nil => exact List.Sublist.refl []
  | alone _ line ih => exact ih.append (List.Sublist.refl [line])
  | served _ _ _ _ _ ih => exact ih.append (sublist_beside _ _ _)

theorem Laid.nodup (h : Laid S ls used out) : used.Nodup := by
  induction h with
  | nil => exact List.nodup_nil
  | alone _ _ ih => exact ih
  | served _ _ _ _ hnew ih => exact List.nodup_cons.2 ⟨hnew, ih⟩

/-! ## The merge on its way -/

/-- A merge that has passed the lines `above` and has put the snippets `used`
beside them. -/
structure Tracked (S : SnippetMap) (above : List Text) (used : List (Text × Block)) (s : State)
    (rest : List Text) : Prop where
  laid : Laid S above used s.done
  passed : ∀ m ∈ addsOfLines above, m.1 ∈ s.handled
  held : ∀ e ∈ used, e.2.Plain ∧ isPresent (s.file rest) e.2 = true
  flag : s.changed = !used.isEmpty

variable {s s' : State} {above rest : List Text} {line : Text}

theorem Tracked.pass (hS : S.Plain) (h : Tracked S above used s (line :: rest))
    (hpass : Pass S s line rest s') : ∃ used', Tracked S (above ++ [line]) used' s' rest := by
  obtain ⟨hlaid, hpassed, hheld, hflag⟩ := h
  have hstays : ∀ e ∈ used, e.2.Plain ∧ isPresent (s'.file rest) e.2 = true := by
    intro e he
    exact ⟨(hheld e he).1, hpass.isPresent hS (hheld e he).1 (hheld e he).2⟩
  cases hpass with
  | plain hline =>
      refine ⟨used, hlaid.alone line, ?_, hstays, hflag⟩
      intro m hm
      rw [Marker.addsOfLines_append, Marker.addsOfLines_cons_of_other hline] at hm
      exact hpassed m ((List.mem_append.1 hm).resolve_right List.not_mem_nil)
  | again hline hold =>
      exact ⟨used, hlaid.alone line, mem_handled_of_passed hline hpassed hold, hstays, hflag⟩
  | content hline hpresent =>
      refine ⟨used, hlaid.alone line, ?_, hstays, hflag⟩
      exact mem_handled_of_passed hline (fun m hm => List.mem_cons_of_mem _ (hpassed m hm))
        List.mem_cons_self
  | @served key p e hline hnew he hmissing =>
      have hfirst : ∀ m ∈ addsOfLines above, m.1 ≠ key := by
        rintro m hm rfl
        exact hnew (hpassed m hm)
      -- what was put in before is in the file, and this snippet is not
      have hunused : e ∉ used := by
        intro hmem
        have hpresent := (hheld e hmem).2
        rw [State.file, hmissing] at hpresent
        exact absurd hpresent Bool.false_ne_true
      refine ⟨e :: used, hlaid.served hline hfirst he hunused, ?_, ?_, rfl⟩
      · exact mem_handled_of_passed hline (fun m hm => List.mem_cons_of_mem _ (hpassed m hm))
          List.mem_cons_self
      · intro e' he'
        rcases List.mem_cons.1 he' with rfl | he'
        · exact ⟨hS.of_resolve? he, isPresent_beside _ _ _ _ _⟩
        · exact hstays e' he'

theorem tracked_run (hS : S.Plain) (ls : List Text) :
    ∃ used, Tracked S ls used (State.initial.run S ls) [] := by
  let P : State → List Text → Prop := fun s rest =>
    ∃ above used, above ++ rest = ls ∧ Tracked S above used s rest
  have hP : P (State.initial.run S ls) [] := by
    refine State.run_invariant (P := P) ?_ ?_
    · rintro s s' line rest ⟨above, used, hls, h⟩ hpass
      obtain ⟨used', h'⟩ := h.pass hS hpass
      exact ⟨above ++ [line], used', by rw [← hls, ← List.append_cons], h'⟩
    · exact ⟨[], [], rfl, .nil, fun _ hm => absurd hm List.not_mem_nil,
        fun _ he => absurd he List.not_mem_nil, rfl⟩
  obtain ⟨above, used, hls, h⟩ := hP
  rw [List.append_nil] at hls
  exact ⟨used, hls ▸ h⟩

/-- Something was put in exactly if the merge says so, and then there are lines. -/
theorem Tracked.ne_nil (h : Tracked S ls used (State.initial.run S ls) []) (hused : used ≠ []) :
    (State.initial.run S ls).changed = true ∧ (State.initial.run S ls).done ≠ [] := by
  have hchanged : (State.initial.run S ls).changed = true := by
    rw [h.flag, Bool.not_eq_true', List.isEmpty_eq_false_iff]
    exact hused
  refine ⟨hchanged, ?_⟩
  rcases grown_run S ls with ⟨hsame, -⟩ | ⟨-, hlength⟩
  · rw [hsame] at hchanged
    exact absurd hchanged Bool.false_ne_true
  · rw [State.file, List.append_nil] at hlength
    exact List.ne_nil_of_length_pos (Nat.zero_lt_of_lt hlength)

end Merge

/-! ## Merging a file -/

/-- A merge only inserts, and only beside markers: the file is left as it is, or
its lines are written again with blocks beside some of them, in the manner of
the file.  The ADD markers are the ones that it had. -/
theorem mergeTemplate_inserts (existing template : Text) :
    let r := mergeTemplate existing template
    let ending : Text := if existing.hasCrlf then ['\r', '\n'] else ['\n']
    ∃ used out, Merge.Laid (SnippetMap.ofText template) existing.lines used out ∧
      used.Nodup ∧ existing.lines.Sublist out ∧
      r = (if used = [] then .same existing
        else .edited (List.intercalate ending out ++ if existing.endsLine then ending else [])) ∧
      r.content.endsLine = existing.endsLine ∧
      addsIn r.content = addsIn existing := by
  intro r ending
  have hS := SnippetMap.plain_ofText template
  obtain ⟨used, h⟩ := Merge.tracked_run hS existing.lines
  have hending : (Lines.ofText existing).ending.text = ending := by
    cases hcrlf : existing.hasCrlf <;> simp [Lines.ofText, LineEnding.text, ending, hcrlf]
  refine ⟨used, _, h.laid, h.laid.nodup, h.laid.sublist, ?_⟩
  by_cases hused : used = []
  · have hsame : r = .same existing := by
      refine if_neg ?_
      rw [Lines.ofText, h.flag, hused]
      exact Bool.false_ne_true
    rw [if_pos hused, hsame]
    exact ⟨rfl, rfl, rfl⟩
  · obtain ⟨hchanged, hne⟩ := h.ne_nil hused
    have hedited : r = .edited ((Lines.ofText existing).render
        (Merge.State.initial.run (SnippetMap.ofText template) existing.lines).done) :=
      if_pos hchanged
    have hwritable := (Merge.sound_run hS (Lines.writable_ofText existing)).writable
    rw [Merge.State.file, List.append_nil] at hwritable
    refine ⟨?_, ?_, addsIn_mergeSnippets hS existing⟩
    · rw [if_neg hused, hedited, Lines.render, hending]
      cases hended : existing.endsLine <;> simp [Lines.ofText, hended, hne]
    · rw [hedited]
      exact Lines.endsLine_render hwritable hne

end Scaffold
