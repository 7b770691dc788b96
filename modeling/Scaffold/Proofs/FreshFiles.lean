/-
# Running a template over a file it has made

A new file is the template without its START and END lines, and for an indexer
with its ADD lines.  The lines of a block stay neighbours in it, so it holds
every snippet of the template (`isPresent_strip`).  Only an ADD line between two
lines of a block parts them: the snippet leaves it out, and the new file of an
indexer does not.

So the next run finds nothing to merge unless a block is parted; and then the file
may still hold the snippet by its first line, or deduping may take back what the
merge puts in.  The run may also find something to seed: an indexer without any ADD
marker gets one for each of its snippets.  `apply_strip_eq_same` says exactly when
the file stays as it is.
-/
import Scaffold.Proofs.Rerun
import Scaffold.Proofs.StrippedBodies

namespace Scaffold

open Block (written)
open Marker (addsIn addsOfLines isMarker staysInNewFile)
open Text (allBlank)

/-! ## What the snippets of a template stand for -/

namespace Extraction

/-- Up to the end of the open block there are only blank lines and ADD markers. -/
def drained : List Text → Bool
  | [] => true
  | line :: rest =>
    match Marker.ofLine? line with
    | some (.add _ _) => drained rest
    | some _ => true
    | none => allBlank line && drained rest

/-- The line is no ADD marker that parts two lines of a block: before it or
behind it the open block has only blank lines. -/
def partsNone (s : State) (line : Text) (rest : List Text) : Bool :=
  match Marker.ofLine? line with
  | some (.add _ _) => (s.open?.all fun e => e.2.all allBlank) || drained rest
  | _ => true

/-- No ADD marker stands between two lines of a block that are not blank. -/
def addsAside : State → List Text → Bool
  | _, [] => true
  | s, line :: rest => partsNone s line rest && addsAside (s.step line) rest

/-- The block stands among these lines, up to layout. -/
def Held (kept : List Text) (body : Block) : Prop :=
  ∃ b, written body = written b ∧ b <:+: kept

/-- A template is read up to some line: what its blocks hold are neighbours
among the lines that stay.  The open block stands at the end, or it gets no more
lines. -/
structure State.Within (s : State) (kept rest : List Text) : Prop where
  snippets : ∀ e ∈ s.snippets.entries, Held kept e.2
  opened : ∀ key body, s.open? = some (key, body) →
    (∃ b, written body = written b ∧ b <:+ kept) ∨ (Held kept body ∧ drained rest = true)

variable {s : State} {kept rest : List Text} {line : Text}

theorem Held.append {body : Block} (h : Held kept body) (more : List Text) :
    Held (kept ++ more) body := by
  obtain ⟨b, hb, hinfix⟩ := h
  exact ⟨b, hb, hinfix.trans (List.prefix_append kept more).isInfix⟩

theorem State.Within.held_open (h : s.Within kept rest) {key : Text} {body : Block}
    (hopen : s.open? = some (key, body)) : Held kept body := by
  rcases h.opened key body hopen with ⟨b, hb, hsuffix⟩ | ⟨hheld, -⟩
  · exact ⟨b, hb, hsuffix.isInfix⟩
  · exact hheld

theorem State.Within.held_close (h : s.Within kept rest) :
    ∀ e ∈ s.close.snippets.entries, Held kept e.2 := by
  rw [State.close]
  split
  next => exact h.snippets
  next key body hopen =>
    intro e he
    rcases SnippetMap.mem_insertNew he with he | rfl
    · exact h.snippets e he
    · obtain ⟨b, hb, hinfix⟩ := h.held_open hopen
      exact ⟨b, (Block.written_dedent body).trans hb, hinfix⟩

/-- An ADD marker that comes in an open block and parts no two of its lines. -/
theorem State.Within.opened_add (h : s.Within kept (line :: rest)) {mark : Text} {p : Position}
    (hm : Marker.ofLine? line = some (.add mark p)) (hparts : partsNone s line rest = true)
    (more : List Text) {key : Text} {body : Block} (hopen : s.open? = some (key, body)) :
    (∃ b, written body = written b ∧ b <:+ kept ++ more) ∨
      (Held (kept ++ more) body ∧ drained rest = true) := by
  have hheld := (h.held_open hopen).append more
  rcases h.opened key body hopen with - | ⟨-, hdrained⟩
  · simp only [partsNone, hm, hopen, Option.all_some, Bool.or_eq_true] at hparts
    rcases hparts with hblank | hdrained
    · refine .inl ⟨[], Block.written_of_blank ?_, List.nil_suffix⟩
      exact List.all_eq_true.1 hblank
    · exact .inr ⟨hheld, hdrained⟩
  · rw [drained, hm] at hdrained
    exact .inr ⟨hheld, hdrained⟩

/-- A line of code that comes in an open block. -/
theorem State.Within.opened_line (h : s.Within kept (line :: rest))
    (hm : Marker.ofLine? line = none) {key : Text} {body : Block}
    (hopen : s.open? = some (key, body)) :
    (∃ b, written (body ++ [line]) = written b ∧ b <:+ kept ++ [line]) ∨
      (Held (kept ++ [line]) (body ++ [line]) ∧ drained rest = true) := by
  rcases h.opened key body hopen with ⟨b, hb, front, hfront⟩ | ⟨hheld, hdrained⟩
  · refine .inl ⟨b ++ [line], ?_, front, ?_⟩
    · rw [Block.written_append, Block.written_append, hb]
    · rw [← hfront, List.append_assoc]
  · simp only [drained, hm, Bool.and_eq_true] at hdrained
    obtain ⟨hblank, hdrained⟩ := hdrained
    obtain ⟨b, hb, hinfix⟩ := hheld.append [line]
    refine .inr ⟨⟨b, ?_, hinfix⟩, hdrained⟩
    have hline : written [line] = [] := by
      refine Block.written_of_blank ?_
      intro l hl
      rw [List.mem_singleton.1 hl]
      exact hblank
    rw [Block.written_append, hline, List.append_nil, hb]

theorem State.Within.step (h : s.Within kept (line :: rest)) (keepAdds : Bool)
    (hparts : partsNone s line rest = true) :
    (s.step line).Within (kept ++ [line].filter (staysInNewFile keepAdds)) rest := by
  rw [State.step]
  split
  next key hm =>
    refine ⟨fun e he => (h.held_close e he).append _, ?_⟩
    intro k body hopen
    obtain ⟨-, rfl⟩ : key = k ∧ [] = body := by simpa using hopen
    exact .inl ⟨[], rfl, List.nil_suffix⟩
  next key hm =>
    refine ⟨fun e he => (h.held_close e he).append _, ?_⟩
    intro k body hopen
    rw [s.open?_close] at hopen
    exact absurd hopen (by simp)
  next key p hm =>
    refine ⟨fun e he => (h.snippets e he).append _, ?_⟩
    intro k body hopen
    exact h.opened_add hm hparts _ hopen
  next hm =>
    have hkeep : [line].filter (staysInNewFile keepAdds) = [line] := by simp [staysInNewFile, hm]
    rw [hkeep]
    split
    next key body hopen =>
      refine ⟨fun e he => (h.snippets e he).append _, ?_⟩
      intro k b hb
      obtain ⟨-, rfl⟩ : key = k ∧ body ++ [line] = b := by simpa using hb
      exact h.opened_line hm hopen
    next hopen =>
      refine ⟨fun e he => (h.snippets e he).append _, ?_⟩
      intro k b hb
      exact absurd hb (by simp [hopen])

theorem within_foldl {ls : List Text} (keepAdds : Bool) (h : s.Within kept ls)
    (hadds : addsAside s ls = true) :
    (ls.foldl State.step s).Within (kept ++ ls.filter (staysInNewFile keepAdds)) [] := by
  induction ls generalizing s kept with
  | nil => simpa using h
  | cons line rest ih =>
      rw [addsAside, Bool.and_eq_true] at hadds
      have := ih (h.step keepAdds hadds.1) hadds.2
      rwa [List.append_assoc, ← List.filter_append, List.singleton_append] at this

end Extraction

/-! ## New files -/

namespace Marker

/-- A new file has no markers but ADD markers of the template. -/
theorem anyIn_strip (t : Text) {keepAdds : Bool} (h : keepAdds = true → addsIn t = []) :
    anyIn (strip t keepAdds) = false := by
  refine List.any_eq_false.2 ?_
  intro l hl hmarker
  obtain ⟨m, hm⟩ := Option.isSome_iff_exists.1 hmarker
  have hstays := staysInNewFile_of_mem_strip hl
  rw [staysInNewFile, hm] at hstays
  cases m with
  | start key => exact Bool.false_ne_true hstays
  | stop key => exact Bool.false_ne_true hstays
  | add key p =>
      obtain rfl : keepAdds = true := hstays
      have hadd : (key, p) ∈ addsIn (strip t true) :=
        List.mem_filterMap.2 ⟨l, hl, by rw [hm]; rfl⟩
      rw [addsIn_strip, h rfl] at hadd
      exact absurd hadd List.not_mem_nil

theorem anyIn_strip_of_adds {t : Text} (h : addsIn t ≠ []) : anyIn (strip t true) = true := by
  rw [← addsIn_strip] at h
  exact any_isMarker_of_addsOfLines_ne h

end Marker

/-- A new file holds the snippets of its template. -/
theorem isPresent_strip {body : Text} {keepAdds : Bool}
    (h : Extraction.addsAside .initial body.lines = true) {e : Text × Block}
    (he : e ∈ (SnippetMap.ofText body).entries) :
    isPresent (Marker.strip body keepAdds).lines e.2 = true := by
  have hinitial : Extraction.State.initial.Within [] body.lines := by
    constructor
    · intro e he
      exact absurd he List.not_mem_nil
    · intro key block hopen
      exact absurd hopen (by simp [Extraction.State.initial])
  obtain ⟨b, hb, front, back, hkept⟩ :=
    (Extraction.within_foldl keepAdds hinitial h).held_close e he
  rw [List.nil_append] at hkept
  rw [isPresent_congr (Marker.written_lines_strip body keepAdds) rfl, ← hkept, List.append_assoc]
  exact isPresent_of_written hb.symm

theorem satisfied_strip {body : Text} {keepAdds : Bool}
    (h : Extraction.addsAside .initial body.lines = true) :
    (SnippetMap.ofText body).Satisfied (Marker.strip body keepAdds).lines :=
  fun _ _ _ he => isPresent_strip h (SnippetMap.mem_of_resolve? he)

/-- A file without markers asks for nothing. -/
theorem SnippetMap.satisfied_of_anyIn (S : SnippetMap) {content : Text}
    (h : Marker.anyIn content = false) : S.Satisfied content.lines := by
  intro m hm
  have hany := Marker.any_isMarker_of_addsOfLines_ne (List.ne_nil_of_mem hm)
  rw [Marker.anyIn, hany] at h
  exact absurd h (by simp)

namespace Update

variable {values : Placeholders} {options : MergeOptions} {node : Node}

/-- An indexer's new file has the ADD markers of the template, if there are any. -/
theorem settled_strip_of_adds {body : Text} (hindexer : node.isIndexer = true)
    (hadds : addsIn body ≠ []) :
    Settled options node body (Marker.strip body node.isIndexer) := by
  refine .inr (.inl ?_)
  rw [hindexer]
  exact Marker.anyIn_strip_of_adds hadds

/-- One whose template has none to give gets them later. -/
theorem settled_strip_iff_of_no_adds {body : Text} (hindexer : node.isIndexer = true)
    (hadds : addsIn body = []) :
    Settled options node body (Marker.strip body node.isIndexer) ↔
      options.seedIndexerMarkers = false ∨ (SnippetMap.ofText body).entries = [] := by
  have hnone := Marker.anyIn_strip body fun _ : node.isIndexer = true => hadds
  rw [Settled, Seeding.Settled, hnone, hindexer, Bool.true_and, Seeding.neededKeys_of_addsIn hadds,
    SnippetMap.keys, List.map_eq_nil_iff]
  exact or_congr_right (or_iff_right Bool.false_ne_true)

/-- Exactly when the next run leaves a new file alone.  It does if the file is not
to have ADD markers.  If it has those of its template, it must hold the snippets
they ask for, or deduping must take back what the merge puts in; it holds them if no
ADD marker stands between two lines of a block.  If its template has none to give,
there must be nothing to seed. -/
theorem apply_strip_eq_same (values : Placeholders) (options : MergeOptions) (node : Node)
    (hinsertions : node.insertions = []) (body : Text) :
    let f := Marker.strip body node.isIndexer
    let S := SnippetMap.ofText body
    (node.isIndexer = false → apply values options node f body = .same f) ∧
      (node.isIndexer = true → addsIn body ≠ [] →
        (apply values options node f body = .same f ↔
          S.Satisfied f.lines ∨
            (options.cleanup = true ∧ (Dedupe.all (mergeSnippets f S).content).content = f)) ∧
          (Extraction.addsAside .initial body.lines = true →
            apply values options node f body = .same f)) ∧
      (node.isIndexer = true → addsIn body = [] →
        (apply values options node f body = .same f ↔
          options.seedIndexerMarkers = false ∨ S.entries = [])) := by
  intro f S
  refine ⟨?_, ?_, ?_⟩
  · intro hplain
    have hnone : Marker.anyIn f = false := by
      refine Marker.anyIn_strip body ?_
      intro hindexer
      exact absurd (hplain.symm.trans hindexer) Bool.false_ne_true
    refine (apply_eq_same_iff hinsertions).2 ⟨.inl ?_, .inl (S.satisfied_of_anyIn hnone)⟩
    rw [hplain, Bool.false_and]
  · intro hindexer hadds
    have hsettled : Settled options node body f := settled_strip_of_adds hindexer hadds
    refine ⟨apply_eq_same_iff_of_settled hinsertions hsettled, ?_⟩
    intro haside
    exact (apply_eq_same_iff_of_settled hinsertions hsettled).2 (.inl (satisfied_strip haside))
  · intro hindexer hadds
    have hnone : Marker.anyIn f = false := Marker.anyIn_strip body fun _ => hadds
    rw [apply_eq_same_iff hinsertions, and_iff_left (.inl (S.satisfied_of_anyIn hnone))]
    exact settled_strip_iff_of_no_adds hindexer hadds

/-- A plain file; indexers with an ADD line behind the code of a block, with one
between two imports and with one in a list, whose entries deduping takes back; and
one that nothing is seeded into. -/
theorem apply_strip_of_kinds :
    let plain : Node := { name := "a.ts".toList }
    let indexer : Node := { name := "i.ts".toList, isIndexer := true }
    let stays := fun options node body =>
      apply .empty options node (Marker.strip body node.isIndexer) body =
        .same (Marker.strip body node.isIndexer)
    let block := "// START OF A\na\n// END OF A\n".toList
    let aside := "// START OF A\na\n// ADD A BELOW\n// END OF A\n".toList
    let imports := ("// START OF A\nimport a from 'a'\n// ADD A BELOW\nimport b from 'b'\n" ++
      "// END OF A\n").toList
    let list := ("export const schemaTypes = [\n// START OF A\na\n// ADD A BELOW\nb\n" ++
      "// END OF A\n]\n").toList
    stays {} plain block ∧ stays {} indexer aside ∧ stays {} indexer imports ∧
      stays {} indexer list ∧ ¬ stays { cleanup := false } indexer list ∧
      stays { seedIndexerMarkers := false } indexer block := by
  intro plain indexer stays block aside imports list
  have hplain := apply_strip_eq_same .empty {} plain rfl block
  have hindexer := fun options => apply_strip_eq_same .empty options indexer rfl
  refine ⟨hplain.1 rfl, ?_, ?_, ?_, ?_, ?_⟩
  · exact ((hindexer {} aside).2.1 rfl (by decide +kernel)).2 (by decide +kernel)
  · exact ((hindexer {} imports).2.1 rfl (by decide +kernel)).1.2 (.inl (by decide +kernel))
  · exact ((hindexer {} list).2.1 rfl (by decide +kernel)).1.2 (.inr (by decide +kernel))
  · intro hstays
    have hexactly := ((hindexer { cleanup := false } list).2.1 rfl (by decide +kernel)).1
    exact absurd (hexactly.1 hstays) (by decide +kernel)
  · have hexactly := (hindexer { seedIndexerMarkers := false } block).2.2 rfl (by decide +kernel)
    exact hexactly.2 (.inl rfl)

/-- An indexer gets the markers that its template has none of, and a snippet is
not found where the new file has an ADD line within it. -/
theorem apply_changes_strip :
    let indexer : Node := { name := "i.ts".toList, isIndexer := true }
    let block := "// START OF A\na\n// END OF A\n".toList
    let marked := "// START OF A\na\n// ADD A BELOW\nb\n// END OF A\n".toList
    Marker.strip block true = "a\n".toList ∧
      apply .empty {} indexer "a\n".toList block = .edited "a\n// ADD A BELOW\n".toList ∧
      Marker.strip marked true = "a\n// ADD A BELOW\nb\n".toList ∧
      apply .empty {} indexer "a\n// ADD A BELOW\nb\n".toList marked =
        .edited "a\n// ADD A BELOW\na\nb\nb\n".toList := by
  decide +kernel

end Update

end Scaffold
