/-
# Units that come in at one marker

A file with one ADD marker takes in a unit with each of several merges.  Every unit goes
right beside the marker, so the units lie between it and those that came before:

    unit 1                  // ADD K BELOW
    unit 2                  unit 3
    unit 3                  unit 2
    // ADD K ABOVE          unit 1

Each merge writes the file, and the next one reads it again.  What reading changes are
blanks behind a line at most, and they change neither the marker nor the indentation
that its units get; so all is said of lines up to blanks behind them (`units_stack`).
-/
import Scaffold.Proofs.MergeLaws

namespace Scaffold

open Marker (addsIn addsOfLines)
open Text (allBlank indentation trimRight)

/-! ## Blanks behind a line -/

theorem Text.indentation_trimRight {l : Text} (h : allBlank l = false) :
    indentation (trimRight l) = indentation l := by
  obtain ⟨w, hw, hl⟩ := exists_trimRight_append l
  have hink : (trimRight l).dropWhile isBlank ≠ [] := by
    intro hnil
    have hblank : allBlank (trimRight l) = true := trimLeft_eq_nil_iff.1 hnil
    rw [hl, allBlank_append, hblank, hw] at h
    exact absurd h (by decide)
  conv => rhs; rw [hl]
  exact (LineKind.takeWhile_append_of_stop hink w).symm

namespace Marker

variable {line line' key : Text} {p : Position}

/-- A line that differs from a marker in blanks behind it is that marker, and gives its
units the same indentation. -/
theorem ofLine?_of_trimRight (h : ofLine? line = some (.add key p))
    (hsame : trimRight line' = trimRight line) :
    ofLine? line' = some (.add key p) ∧ indentation line' = indentation line := by
  have hline' : ofLine? line' = some (.add key p) := by
    rw [ignoresBlanks_ofLine?.congr (Text.trim_of_trimRight hsame), h]
  refine ⟨hline', ?_⟩
  rw [← Text.indentation_trimRight (allBlank_of_isMarker (isMarker_of_ofLine? hline')), hsame,
    Text.indentation_trimRight (allBlank_of_isMarker (isMarker_of_ofLine? h))]

theorem addsOfLines_of_map_trimRight {ls ls' : List Text}
    (h : ls.map trimRight = ls'.map trimRight) : addsOfLines ls = addsOfLines ls' :=
  addsOfLines_congr (Block.written_congr (Text.map_trim_of_map_trimRight h))

theorem ofLine?_of_addPair? (h : (ofLine? line).bind addPair? = some (key, p)) :
    ofLine? line = some (.add key p) := by
  obtain ⟨m, hm, hpair⟩ := Option.bind_eq_some_iff.1 h
  cases m with
  | start k => exact absurd hpair (by simp [addPair?])
  | stop k => exact absurd hpair (by simp [addPair?])
  | add k q =>
      obtain ⟨rfl, rfl⟩ : k = key ∧ q = p := by simpa [addPair?] using hpair
      exact hm

/-- The lines around the only ADD marker. -/
theorem exists_around_of_addsOfLines {ls : List Text} (h : addsOfLines ls = [(key, p)]) :
    ∃ above marker below, ls = above ++ marker :: below ∧
      ofLine? marker = some (.add key p) ∧ addsOfLines above = [] ∧ addsOfLines below = [] := by
  obtain ⟨above, marker, below, hls, habove, hmarker, hbelow⟩ := List.filterMap_eq_cons_iff.1 h
  exact ⟨above, marker, below, hls, ofLine?_of_addPair? hmarker,
    List.filterMap_eq_nil_iff.2 habove, hbelow⟩

end Marker

/-! ## One merge -/

namespace Merge

variable {S : SnippetMap} {above below : List Text} {marker key : Text} {p : Position}

/-- Lines without ADD markers are passed as they are, whatever follows them. -/
theorem State.run_append_of_noAdds (h : addsOfLines above = []) (s : State) (rest : List Text) :
    s.run S (above ++ rest) = State.run S { s with done := s.done ++ above } rest := by
  induction above generalizing s with
  | nil => rw [List.append_nil, List.nil_append]
  | cons line r ih =>
      have hline : ∀ key p, Marker.ofLine? line ≠ some (.add key p) := by
        intro key p hadd
        rw [Marker.addsOfLines_cons_of_add hadd] at h
        exact absurd h (List.cons_ne_nil _ _)
      have hkeep : s.step S line (r ++ rest) = s.keep line := by
        rw [State.step]
        split
        next key p hadd => exact absurd hadd (hline key p)
        next => rfl
      rw [Marker.addsOfLines_cons_of_other hline] at h
      rw [List.cons_append, State.run, hkeep, ih h, State.keep]
      simp only [List.append_assoc, List.singleton_append]

theorem run_of_one_marker {e : Text × Block} (habove : addsOfLines above = [])
    (hmarker : Marker.ofLine? marker = some (.add key p)) (hbelow : addsOfLines below = [])
    (he : S.resolve? key = some e) (hmissing : isPresent (above ++ marker :: below) e.2 = false) :
    State.initial.run S (above ++ marker :: below) =
      ⟨above ++ beside marker (e.2.indentBy (indentation marker)) p ++ below, [key], true⟩ := by
  have hserved : State.step S ⟨above, [], false⟩ marker below =
      ⟨above ++ beside marker (e.2.indentBy (indentation marker)) p, [key], true⟩ :=
    State.step_of_missing hmarker List.not_mem_nil he hmissing
  rw [State.run_append_of_noAdds habove, State.run]
  have hrest := State.run_append_of_noAdds (S := S) hbelow
    ⟨above ++ beside marker (e.2.indentBy (indentation marker)) p, [key], true⟩ []
  rw [List.append_nil] at hrest
  rw [State.initial, List.nil_append, hserved, hrest, State.run]

end Merge

theorem map_trimRight_lines_mergeTemplate {existing template key : Text} {p : Position}
    {above below : List Text} {marker : Text} {e : Text × Block}
    (hlines : existing.lines = above ++ marker :: below) (habove : addsOfLines above = [])
    (hmarker : Marker.ofLine? marker = some (.add key p)) (hbelow : addsOfLines below = [])
    (he : (SnippetMap.ofText template).resolve? key = some e)
    (hmissing : isPresent existing.lines e.2 = false) :
    (mergeTemplate existing template).content.lines.map trimRight =
      (above ++ Merge.beside marker (e.2.indentBy (indentation marker)) p ++ below).map
        trimRight := by
  have hrun := Merge.run_of_one_marker habove hmarker hbelow he (hlines ▸ hmissing)
  have hwritable := (Merge.sound_run (SnippetMap.plain_ofText template)
    (Lines.writable_ofText existing)).writable
  have hmerge : mergeTemplate existing template = .edited ((Lines.ofText existing).render
      (above ++ Merge.beside marker (e.2.indentBy (indentation marker)) p ++ below)) := by
    rw [mergeTemplate, mergeSnippets, Lines.lines_ofText, hlines, hrun]
    rfl
  rw [hlines, hrun, Merge.State.file, List.append_nil] at hwritable
  rw [hmerge, Outcome.edited, Lines.map_trimRight_lines_render _ hwritable.noFeed,
    Lines.reread_of_writable hwritable]

/-! ## One merge after the other -/

/-- A marker with the blocks that came to it, one after the other. -/
def stacked (marker : Text) (blocks : List Block) : Position → List Text
  | .above => blocks.flatten ++ [marker]
  | .below => marker :: blocks.reverse.flatten

/-- Templates of which each brings a unit when its turn comes: what it has for the key is
not in the content that the merges before it have left. -/
inductive Arrive (key : Text) : Text → List Text → List (Text × Block) → Prop
  | done (content : Text) : Arrive key content [] []
  | next {content template : Text} {templates : List Text} {e : Text × Block}
      {units : List (Text × Block)} (he : (SnippetMap.ofText template).resolve? key = some e)
      (hmissing : isPresent content.lines e.2 = false)
      (hrest : Arrive key (mergeTemplate content template).content templates units) :
      Arrive key content (template :: templates) (e :: units)

/-- The content after all merges. -/
def mergeAll (existing : Text) (templates : List Text) : Text :=
  templates.foldl (fun content template => (mergeTemplate content template).content) existing

/-- The next blocks come between the marker and the first one, which is as if they came
to a marker that has the first block around it. -/
theorem exists_around_of_beside (above : List Text) (marker : Text) (b : Block) (below : List Text)
    (p : Position) :
    ∃ above' below', above ++ Merge.beside marker b p ++ below = above' ++ marker :: below' ∧
      addsOfLines above' ++ addsOfLines below' =
        addsOfLines above ++ addsOfLines b ++ addsOfLines below ∧
      ∀ blocks, above ++ stacked marker (b :: blocks) p ++ below =
        above' ++ stacked marker blocks p ++ below' := by
  cases p with
  | above =>
      refine ⟨above ++ b, below, by simp [Merge.beside], ?_, fun blocks => by simp [stacked]⟩
      rw [Marker.addsOfLines_append]
  | below =>
      refine ⟨above, b ++ below, by simp [Merge.beside], ?_, fun blocks => by simp [stacked]⟩
      rw [Marker.addsOfLines_append, List.append_assoc]

theorem map_trimRight_stacked {marker marker' : Text} (h : trimRight marker' = trimRight marker)
    (blocks : List Block) (p : Position) :
    (stacked marker' blocks p).map trimRight = (stacked marker blocks p).map trimRight := by
  cases p <;> simp [stacked, h]

theorem map_trimRight_lines_mergeAll {key : Text} {p : Position} {existing : Text}
    {templates : List Text} {units : List (Text × Block)}
    (harrive : Arrive key existing templates units) {above below : List Text} {marker : Text}
    (hlines : existing.lines = above ++ marker :: below) (habove : addsOfLines above = [])
    (hmarker : Marker.ofLine? marker = some (.add key p)) (hbelow : addsOfLines below = []) :
    (mergeAll existing templates).lines.map trimRight =
      (above ++ stacked marker (units.map fun e => e.2.indentBy (indentation marker)) p ++
        below).map trimRight := by
  induction harrive generalizing above marker below with
  | done content =>
      rw [mergeAll, List.foldl_nil, hlines]
      cases p <;> simp [stacked]
  | @next content template templates e units he hmissing hrest ih =>
      have hmerged := map_trimRight_lines_mergeTemplate hlines habove hmarker hbelow he hmissing
      obtain ⟨above', below', haround, hadds, hstacked⟩ := exists_around_of_beside above marker
        (e.2.indentBy (indentation marker)) below p
      have hplain := Merge.plain_served (SnippetMap.plain_ofText template) he
        (Text.not_mem_of_mem_lines (hlines ▸ List.mem_append_right above List.mem_cons_self))
      rw [habove, hbelow, Marker.addsOfLines_of_noMarker hplain.noMarker] at hadds
      obtain ⟨habove', hbelow'⟩ := List.append_eq_nil_iff.1 hadds
      -- the file that the next merge reads, line by line
      rw [haround, List.map_append, List.map_cons] at hmerged
      obtain ⟨above₂, tail₂, hlines₂, htop, htail⟩ := List.map_eq_append_iff.1 hmerged
      obtain ⟨marker₂, below₂, rfl, hsame, hbottom⟩ := List.map_eq_cons_iff.1 htail
      obtain ⟨hmarker₂, hindent⟩ := Marker.ofLine?_of_trimRight hmarker hsame
      have hrest' := ih hlines₂ ((Marker.addsOfLines_of_map_trimRight htop).trans habove')
        hmarker₂ ((Marker.addsOfLines_of_map_trimRight hbottom).trans hbelow')
      rw [mergeAll, List.foldl_cons, ← mergeAll, hrest', List.map_cons, hstacked, hindent]
      simp only [List.map_append, htop, hbottom, map_trimRight_stacked hsame]

/-- The units that come to the only marker of a file, one with each merge, stand beside it
with its indentation: in the order in which they came above it, and below it the last one
first. All other lines are the lines of the file. -/
theorem units_stack {existing key : Text} {p : Position} (hone : addsIn existing = [(key, p)])
    {templates : List Text} {units : List (Text × Block)}
    (harrive : Arrive key existing templates units) :
    ∃ above marker below, existing.lines = above ++ marker :: below ∧
      Marker.ofLine? marker = some (.add key p) ∧
      (mergeAll existing templates).lines.map trimRight =
        (above ++ stacked marker (units.map fun e => e.2.indentBy (indentation marker)) p ++
          below).map trimRight := by
  obtain ⟨above, marker, below, hlines, hmarker, habove, hbelow⟩ :=
    Marker.exists_around_of_addsOfLines hone
  exact ⟨above, marker, below, hlines, hmarker,
    map_trimRight_lines_mergeAll harrive hlines habove hmarker hbelow⟩

/-- Two units of one key, at a marker that ends the file without a line feed. -/
theorem units_stack_below_last_line :
    let existing : Text := "a\r\n  // ADD x BELOW".toList
    let first : Text := "// START OF X\none\n\n  more\n// END OF X".toList
    let second : Text := "// START OF X\ntwo\n// END OF X".toList
    addsIn existing = [("x".toList, .below)] ∧
      Arrive "x".toList existing [first, second]
        [("X".toList, ["one".toList, [], "  more".toList]), ("X".toList, ["two".toList])] ∧
      mergeAll existing [first, second] =
        "a\r\n  // ADD x BELOW\r\n  two\r\n  one\r\n\r\n    more".toList ∧
      ∃ above marker below, existing.lines = above ++ marker :: below ∧
        Marker.ofLine? marker = some (.add "x".toList .below) ∧
        (mergeAll existing [first, second]).lines.map trimRight =
          (above ++ stacked marker
            ([["one".toList, [], "  more".toList], ["two".toList]].map
              (Block.indentBy (indentation marker))) .below ++ below).map trimRight := by
  intro existing first second
  have hone : addsIn existing = [("x".toList, .below)] := by decide +kernel
  have harrive : Arrive "x".toList existing [first, second]
      [("X".toList, ["one".toList, [], "  more".toList]), ("X".toList, ["two".toList])] := by
    refine .next (by decide +kernel) (by decide +kernel) ?_
    exact .next (by decide +kernel) (by decide +kernel) (.done _)
  exact ⟨hone, harrive, by decide +kernel, units_stack hone harrive⟩

end Scaffold
