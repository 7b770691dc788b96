/-
# The grammar of blocks

Where a line stands is told by the last START or END line before it: behind a
START line it stands in the block of that key, behind an END line, or where
there is none of either, outside all blocks.  ADD lines say nothing about it.

    START a     x, y in a
    x           z in b
    ADD k       w outside
    y
    START b
    z
    END a
    w

So the lines that are no markers are parted among the blocks and what is
outside, with nothing lost and nothing in two places, however the markers lie.
The reader of `Scaffold.Snippet` goes through the lines once, with a block that
is open or not, and finds the same: the residual is what stands outside, and
each key has the snippet of its first block (`Extraction.ofText_follows_blocks`).

The residual is put together as a text again by `Text.unlinesEnded`.  An empty last
line does not come back from it if it is not ended or is the only line, nor does a
carriage return at the end of a line (`Extraction.lines_residual_ne_outside`).
-/
import Mathlib.Data.List.Infix
import Scaffold.Proofs.LineEndings
import Scaffold.Proofs.SnippetSources

namespace Scaffold

open Marker (isMarker ofLine? unmarked)

namespace Extraction

/-! ## Where a line stands -/

/-- What a line says about the lines behind it: a START line opens the block of
its key, an END line closes whatever is open, any other line says nothing. -/
def boundary? (line : Text) : Option (Option Text) :=
  match ofLine? line with
  | some (.start key) => some (some key)
  | some (.stop _) => some none
  | _ => none

/-- The key of the block that is open behind these lines. -/
def openKey? (before : List Text) : Option Text :=
  ((before.filterMap boundary?).getLast?).join

/-- Each line together with those before it. -/
def withBefore (before : List Text) : List Text → List (List Text × Text)
  | [] => []
  | line :: rest => (before, line) :: withBefore (before ++ [line]) rest

/-- The lines that are no markers and stand in a block of this key, or outside
all blocks, if `before` stands before them. -/
def standingFrom (key? : Option Text) (before ls : List Text) : List Text :=
  ((withBefore before ls).filter fun p => !isMarker p.2 && openKey? p.1 == key?).map (·.2)

/-- The lines that are no markers and stand outside all blocks. -/
def outside (ls : List Text) : List Text :=
  standingFrom none [] ls

/-- The lines that are no markers and stand in a block of this key. -/
def inside (key : Text) (ls : List Text) : List Text :=
  standingFrom (some key) [] ls

/-! ## Blocks -/

/-- The key of a START line. -/
def startKey? (line : Text) : Option Text :=
  (boundary? line).join

/-- The lines that are no markers up to the next START or END line. -/
def bodyAhead (ls : List Text) : List Text :=
  unmarked (ls.takeWhile fun l => (boundary? l).isNone)

/-- The block that begins with the first of these lines. -/
def blockAt? : List Text → Option (Text × List Text)
  | [] => none
  | line :: rest => (startKey? line).map fun key => (key, bodyAhead rest)

/-- The blocks of a template, each with its key and its body, in order. -/
def blocks (ls : List Text) : List (Text × List Text) :=
  ls.tails.filterMap blockAt?

section Steps

variable {line key : Text} {before rest : List Text}

theorem boundary?_of_start (h : ofLine? line = some (.start key)) :
    boundary? line = some (some key) := by
  rw [boundary?, h]

theorem boundary?_of_stop (h : ofLine? line = some (.stop key)) : boundary? line = some none := by
  rw [boundary?, h]

theorem boundary?_of_add {p : Position} (h : ofLine? line = some (.add key p)) :
    boundary? line = none := by
  rw [boundary?, h]

theorem boundary?_of_none (h : ofLine? line = none) : boundary? line = none := by
  rw [boundary?, h]

theorem openKey?_concat (before : List Text) (line : Text) :
    openKey? (before ++ [line]) = (boundary? line).getD (openKey? before) := by
  cases h : boundary? line with
  | none => simp [openKey?, List.filterMap_append, h]
  | some k => simp [openKey?, List.filterMap_append, h]

theorem blocks_cons (line : Text) (rest : List Text) :
    blocks (line :: rest) =
      ((startKey? line).map fun key => (key, bodyAhead rest)).toList ++ blocks rest := by
  rw [blocks, List.tails_cons, List.filterMap_cons, blockAt?]
  cases startKey? line <;> rfl

theorem map_fst_blocks (ls : List Text) : (blocks ls).map (·.1) = ls.filterMap startKey? := by
  induction ls with
  | nil => rfl
  | cons line rest ih =>
      rw [blocks_cons, List.map_append, ih, List.filterMap_cons]
      cases startKey? line <;> rfl

theorem bodyAhead_cons_of_boundary {k : Option Text} (h : boundary? line = some k)
    (rest : List Text) : bodyAhead (line :: rest) = [] := by
  simp [bodyAhead, h, unmarked]

theorem bodyAhead_cons_of_add {p : Position} (h : ofLine? line = some (.add key p))
    (rest : List Text) : bodyAhead (line :: rest) = bodyAhead rest := by
  simp [bodyAhead, boundary?_of_add h, unmarked, isMarker, h]

theorem bodyAhead_cons_of_none (h : ofLine? line = none) (rest : List Text) :
    bodyAhead (line :: rest) = line :: bodyAhead rest := by
  simp [bodyAhead, boundary?_of_none h, unmarked, isMarker, h]

/-- Lines that are picked by what stands before them are picked one by one. -/
theorem map_filter_withBefore_cons (q : List Text × Text → Bool) (before : List Text)
    (line : Text) (rest : List Text) :
    ((withBefore before (line :: rest)).filter q).map (·.2) =
      (if q (before, line) then [line] else []) ++
        ((withBefore (before ++ [line]) rest).filter q).map (·.2) := by
  rw [withBefore, List.filter_cons]
  split <;> rfl

theorem standingFrom_cons (key? : Option Text) (before : List Text) (line : Text)
    (rest : List Text) :
    standingFrom key? before (line :: rest) =
      (if !isMarker line && openKey? before == key? then [line] else []) ++
        standingFrom key? (before ++ [line]) rest :=
  map_filter_withBefore_cons _ before line rest

theorem startKey?_of_start (h : ofLine? line = some (.start key)) : startKey? line = some key := by
  rw [startKey?, boundary?_of_start h]
  rfl

theorem blocks_cons_of_start (h : ofLine? line = some (.start key)) (rest : List Text) :
    blocks (line :: rest) = (key, bodyAhead rest) :: blocks rest := by
  rw [blocks_cons, startKey?_of_start h]
  rfl

theorem blocks_cons_of_stop (h : ofLine? line = some (.stop key)) (rest : List Text) :
    blocks (line :: rest) = blocks rest := by
  rw [blocks_cons, startKey?, boundary?_of_stop h]
  rfl

theorem blocks_cons_of_silent (h : boundary? line = none) (rest : List Text) :
    blocks (line :: rest) = blocks rest := by
  rw [blocks_cons, startKey?, h]
  rfl

end Steps

/-! ## What the reader finds -/

/-- The snippets of some blocks, put to those there are. -/
def collect (m : SnippetMap) (bs : List (Text × List Text)) : SnippetMap :=
  bs.foldl (fun m b => m.insertNew b.1 (Block.dedent b.2)) m

/-- The blocks that a reader comes by from here on, the open one first. -/
def State.blocksAhead (s : State) (ls : List Text) : List (Text × List Text) :=
  match s.open? with
  | none => blocks ls
  | some (key, body) => (key, body ++ bodyAhead ls) :: blocks ls

section Reader

variable {s : State} {line key : Text} {body before rest : List Text}

theorem State.blocksAhead_of_none (h : s.open? = none) (ls : List Text) :
    s.blocksAhead ls = blocks ls := by
  rw [State.blocksAhead, h]

theorem State.blocksAhead_of_some (h : s.open? = some (key, body)) (ls : List Text) :
    s.blocksAhead ls = (key, body ++ bodyAhead ls) :: blocks ls := by
  rw [State.blocksAhead, h]

/-- To close the open block is to take it in as it is. -/
theorem State.collect_close (s : State) (bs : List (Text × List Text)) :
    collect s.close.snippets bs = collect s.snippets (s.open?.toList ++ bs) := by
  rw [State.close]
  split
  next h => rw [h]; rfl
  next key body h => rw [h]; rfl

theorem State.blocksAhead_of_boundary {k : Option Text} (h : boundary? line = some k)
    (s : State) (rest : List Text) :
    s.blocksAhead (line :: rest) = s.open?.toList ++ blocks (line :: rest) := by
  rw [State.blocksAhead]
  split
  next hopen => rw [hopen]; rfl
  next key body hopen => rw [hopen, bodyAhead_cons_of_boundary h, List.append_nil]; rfl

/-- A line more or less makes no difference to what is taken in altogether. -/
theorem State.collect_step (s : State) (line : Text) (rest : List Text) :
    collect (s.step line).snippets ((s.step line).blocksAhead rest) =
      collect s.snippets (s.blocksAhead (line :: rest)) := by
  rw [State.step]
  split
  next key h =>
    rw [s.blocksAhead_of_boundary (boundary?_of_start h), blocks_cons_of_start h,
      ← s.collect_close]
    rfl
  next key h =>
    rw [s.blocksAhead_of_boundary (boundary?_of_stop h), blocks_cons_of_stop h,
      ← s.collect_close, State.blocksAhead_of_none s.open?_close]
  next key p h =>
    simp only [State.blocksAhead, bodyAhead_cons_of_add h,
      blocks_cons_of_silent (boundary?_of_add h)]
  next h =>
    split
    next key body hopen =>
      rw [State.blocksAhead_of_some rfl, State.blocksAhead_of_some hopen,
        bodyAhead_cons_of_none h, blocks_cons_of_silent (boundary?_of_none h), List.append_assoc,
        List.singleton_append]
    next hopen =>
      have hafter : ({ s with residual := s.residual ++ [line] } : State).open? = none := hopen
      rw [State.blocksAhead_of_none hafter, State.blocksAhead_of_none hopen,
        blocks_cons_of_silent (boundary?_of_none h)]

theorem State.blocksAhead_nil (s : State) : s.blocksAhead [] = s.open?.toList := by
  rw [State.blocksAhead]
  split
  next h => rw [h]; rfl
  next key body h => rw [h, bodyAhead, List.takeWhile_nil, unmarked, List.filter_nil,
    List.append_nil]; rfl

theorem snippets_foldl (s : State) (ls : List Text) :
    (ls.foldl State.step s).close.snippets = collect s.snippets (s.blocksAhead ls) := by
  induction ls generalizing s with
  | nil =>
      rw [List.foldl_nil, s.blocksAhead_nil, ← List.append_nil s.open?.toList, ← s.collect_close]
      rfl
  | cons line rest ih => rw [List.foldl_cons, ih, s.collect_step]

/-- A reader has a block open exactly if the lines before say so. -/
def State.Agrees (s : State) (before : List Text) : Prop :=
  s.open?.map (·.1) = openKey? before

theorem State.Agrees.step (h : s.Agrees before) (line : Text) :
    (s.step line).Agrees (before ++ [line]) := by
  rw [State.Agrees, openKey?_concat, State.step]
  split
  next key hline =>
    rw [boundary?_of_start hline]
    rfl
  next key hline =>
    rw [boundary?_of_stop hline, s.open?_close]
    rfl
  next key p hline =>
    rw [boundary?_of_add hline]
    exact h
  next hline =>
    rw [boundary?_of_none hline]
    split
    next key body hopen =>
      rw [State.Agrees, hopen] at h
      exact h
    next hopen => exact h

theorem State.residual_close (s : State) : s.close.residual = s.residual := by
  rw [State.close]
  split <;> rfl

/-- One more line goes to the residual exactly if it stands outside. -/
theorem State.Agrees.residual_step (h : s.Agrees before) (line : Text) :
    (s.step line).residual = s.residual ++
      (if !isMarker line && openKey? before == none then [line] else []) := by
  rw [State.step]
  split
  next key hline => simp [isMarker, hline, s.residual_close]
  next key hline => simp [isMarker, hline, s.residual_close]
  next key p hline => simp [isMarker, hline]
  next hline =>
    rw [State.Agrees] at h
    split
    next key body hopen => simp [← h, hopen]
    next hopen => simp [← h, hopen, isMarker, hline]

theorem residual_foldl (h : s.Agrees before) (ls : List Text) :
    (ls.foldl State.step s).close.residual = s.residual ++ standingFrom none before ls := by
  induction ls generalizing s before with
  | nil => simp [s.residual_close, standingFrom, withBefore]
  | cons line rest ih =>
      rw [List.foldl_cons, ih (h.step line), h.residual_step, standingFrom_cons, List.append_assoc]

end Reader

theorem snippets_scan (ls : List Text) : (scan ls).snippets = collect .empty (blocks ls) :=
  snippets_foldl .initial ls

theorem residual_scan (ls : List Text) : (scan ls).residual = outside ls := by
  have hinitial : State.initial.Agrees [] := rfl
  exact residual_foldl hinitial ls

/-! ## Keys and snippets -/

theorem removeAll_concat (ks keys : List Text) (key : Text) :
    ks.removeAll (keys ++ [key]) = (ks.removeAll keys).filter fun k => !k == key := by
  rw [List.removeAll, List.removeAll, List.filter_filter]
  refine List.filter_congr fun k _ => ?_
  by_cases hk : k = key <;> simp [hk]

theorem collect_cons (m : SnippetMap) (b : Text × List Text) (rest : List (Text × List Text)) :
    collect m (b :: rest) = collect (m.insertNew b.1 (Block.dedent b.2)) rest := rfl

theorem keys_collect (m : SnippetMap) (bs : List (Text × List Text)) :
    (collect m bs).keys = m.keys ++ ((bs.map (·.1)).removeAll m.keys).eraseDups := by
  induction bs generalizing m with
  | nil => simp [collect]
  | cons b rest ih =>
      rw [collect_cons, ih, SnippetMap.keys_insertNew, List.map_cons, List.cons_removeAll]
      by_cases hmem : b.1 ∈ m.keys
      · rw [if_pos hmem, if_neg (by simpa using hmem)]
      · rw [if_neg hmem, if_pos (by simpa using hmem), removeAll_concat, List.eraseDups_cons,
          List.append_assoc, List.singleton_append]

theorem get?_collect (m : SnippetMap) (bs : List (Text × List Text)) (key : Text) :
    (collect m bs).get? key = (m.get? key).or ((bs.lookup key).map Block.dedent) := by
  induction bs generalizing m with
  | nil => simp [collect]
  | cons b rest ih =>
      rw [collect_cons, ih, SnippetMap.get?_insertNew, Option.or_assoc, List.lookup_cons]
      cases key == b.1 <;> rfl

theorem keys_scan (ls : List Text) :
    (scan ls).snippets.keys = (ls.filterMap startKey?).eraseDups := by
  rw [snippets_scan, keys_collect, map_fst_blocks]
  simp [SnippetMap.keys, SnippetMap.empty]

theorem get?_scan (ls : List Text) (key : Text) :
    (scan ls).snippets.get? key = ((blocks ls).lookup key).map Block.dedent := by
  rw [snippets_scan, get?_collect]
  rfl

/-! ## Nothing lost and nothing twice -/

/-- The lines in the blocks of a key, the block that `before` has left open
among them. -/
theorem standingFrom_some (key : Text) (before ls : List Text) :
    standingFrom (some key) before ls =
      (if openKey? before = some key then bodyAhead ls else []) ++
        ((blocks ls).filter fun b => b.1 == key).flatMap (·.2) := by
  induction ls generalizing before with
  | nil => simp [standingFrom, withBefore, bodyAhead, unmarked, blocks, blockAt?]
  | cons line rest ih =>
      rw [standingFrom_cons, ih, openKey?_concat]
      cases hline : ofLine? line with
      | none =>
          rw [boundary?_of_none hline, bodyAhead_cons_of_none hline,
            blocks_cons_of_silent (boundary?_of_none hline)]
          by_cases hopen : openKey? before = some key <;> simp [hopen, isMarker, hline]
      | some m =>
          cases m with
          | start k =>
              rw [boundary?_of_start hline, blocks_cons_of_start hline,
                bodyAhead_cons_of_boundary (boundary?_of_start hline)]
              by_cases hk : k = key <;> simp [hk, isMarker, hline]
          | stop k =>
              rw [boundary?_of_stop hline, blocks_cons_of_stop hline,
                bodyAhead_cons_of_boundary (boundary?_of_stop hline)]
              simp [isMarker, hline]
          | add k p =>
              rw [boundary?_of_add hline, bodyAhead_cons_of_add hline,
                blocks_cons_of_silent (boundary?_of_add hline)]
              simp [isMarker, hline]

theorem inside_eq (key : Text) (ls : List Text) :
    inside key ls = ((blocks ls).filter fun b => b.1 == key).flatMap (·.2) :=
  standingFrom_some key [] ls

/-- The lines outside, those of the block that `before` has left open and those
of all other blocks are together the lines that are no markers. -/
theorem perm_standingFrom_none (before ls : List Text) :
    (standingFrom none before ls ++
      ((if openKey? before = none then [] else bodyAhead ls) ++ (blocks ls).flatMap (·.2))).Perm
        (unmarked ls) := by
  induction ls generalizing before with
  | nil => simp [standingFrom, withBefore, bodyAhead, unmarked, blocks, blockAt?]
  | cons line rest ih =>
      have hrest := ih (before ++ [line])
      rw [openKey?_concat] at hrest
      rw [standingFrom_cons]
      cases hline : ofLine? line with
      | none =>
          rw [boundary?_of_none hline, Option.getD_none] at hrest
          rw [bodyAhead_cons_of_none hline, blocks_cons_of_silent (boundary?_of_none hline)]
          have hplain : unmarked (line :: rest) = line :: unmarked rest := by
            simp [unmarked, isMarker, hline]
          rw [hplain]
          by_cases hopen : openKey? before = none
          · simpa [hopen, isMarker, hline] using hrest
          · have hinside : (openKey? before == none) = false := beq_eq_false_iff_ne.2 hopen
            rw [if_neg hopen] at hrest ⊢
            rw [hinside, Bool.and_false, if_neg Bool.false_ne_true, List.nil_append,
              List.cons_append]
            exact List.perm_middle.trans (hrest.cons line)
      | some m =>
          have hmarker : unmarked (line :: rest) = unmarked rest := by
            simp [unmarked, isMarker, hline]
          rw [hmarker]
          cases m with
          | start k =>
              rw [boundary?_of_start hline] at hrest
              rw [blocks_cons_of_start hline, bodyAhead_cons_of_boundary (boundary?_of_start hline)]
              simpa [isMarker, hline] using hrest
          | stop k =>
              rw [boundary?_of_stop hline] at hrest
              rw [blocks_cons_of_stop hline, bodyAhead_cons_of_boundary (boundary?_of_stop hline)]
              simpa [isMarker, hline] using hrest
          | add k p =>
              rw [boundary?_of_add hline] at hrest
              rw [bodyAhead_cons_of_add hline, blocks_cons_of_silent (boundary?_of_add hline)]
              simpa [isMarker, hline] using hrest

theorem perm_outside (ls : List Text) :
    (outside ls ++ (blocks ls).flatMap (·.2)).Perm (unmarked ls) :=
  perm_standingFrom_none [] ls

theorem mem_of_mem_withBefore {before ls : List Text} {p : List Text × Text}
    (h : p ∈ withBefore before ls) : p.2 ∈ ls := by
  induction ls generalizing before with
  | nil => exact absurd h List.not_mem_nil
  | cons line rest ih =>
      rcases List.mem_cons.1 h with rfl | h
      · exact List.mem_cons_self
      · exact List.mem_cons_of_mem _ (ih h)

theorem mem_of_mem_outside {ls : List Text} {l : Text} (h : l ∈ outside ls) : l ∈ ls := by
  obtain ⟨p, hp, rfl⟩ := List.mem_map.1 h
  exact mem_of_mem_withBefore (List.mem_filter.1 hp).1

/-! ## The whole template -/

/-- The residual holds the lines outside, in order, and is read again as these
lines; the keys are those of the START lines, each where it comes first; each
has the snippet of its first block; and the lines that are no markers are those
outside and those in the blocks, which are the lines that stand in a block of
the key. -/
theorem ofText_follows_blocks (template : Text) :
    let ls := template.lines
    let x := ofText template
    x.residual = Text.unlinesEnded (outside ls) template.endsLine ∧
      x.residual.lines.map Text.trimRight =
        (Lines.rereadNew (outside ls) template.endsLine).map Text.trimRight ∧
      ((∀ l ∈ outside ls, l.getLast? ≠ some '\r') →
        x.residual.lines = Lines.rereadNew (outside ls) template.endsLine) ∧
      x.snippets.keys = (ls.filterMap startKey?).eraseDups ∧
      (∀ key, x.snippets.get? key = ((blocks ls).lookup key).map Block.dedent) ∧
      (∀ key, inside key ls = ((blocks ls).filter fun b => b.1 == key).flatMap (·.2)) ∧
      (outside ls ++ (blocks ls).flatMap (·.2)).Perm (unmarked ls) := by
  intro ls x
  have hresidual : x.residual = Text.unlinesEnded (outside ls) template.endsLine := by
    rw [← residual_scan]
    rfl
  have hfeed : ∀ l ∈ outside ls, '\n' ∉ l := fun l hl =>
    Text.not_mem_of_mem_lines (mem_of_mem_outside hl)
  refine ⟨hresidual, ?_, ?_, keys_scan ls, get?_scan ls, fun key => inside_eq key ls,
    perm_outside ls⟩
  · rw [hresidual]
    exact Lines.map_trimRight_lines_unlinesEnded _ hfeed
  · intro hreturn
    rw [hresidual]
    exact Lines.lines_unlinesEnded _ hfeed hreturn

/-- An END line without a block, a block with an ADD line that is ended by the
START line of another, and that one by an END line of the first; the second
block of a key, never ended, has no snippet. -/
theorem ofText_follows_nested_blocks :
    let template : Text :=
      ("// END OF Z\nout\n// START OF A\n  x\n// ADD K BELOW\n  y\n// START OF B\nz\n" ++
        "// END OF A\nw\n// START OF A\nagain\n").toList
    (∀ l ∈ outside template.lines, l.getLast? ≠ some '\r') ∧
      (ofText template).residual.lines = ["out".toList, "w".toList] ∧
      (ofText template).snippets.keys = ["A".toList, "B".toList] ∧
      (ofText template).snippets.get? "A".toList = some ["x".toList, "y".toList] := by
  intro template
  obtain ⟨-, -, hlines, hkeys, hget, -⟩ := ofText_follows_blocks template
  have hreturn : ∀ l ∈ outside template.lines, l.getLast? ≠ some '\r' := by decide +kernel
  refine ⟨hreturn, (hlines hreturn).trans ?_, hkeys.trans ?_, (hget _).trans ?_⟩ <;>
    decide +kernel

/-- The residual loses an empty line that stands alone, or at the end of a template
that does not end its last line, and a carriage return at the end of a line, which is
taken for a part of the line ending. -/
theorem lines_residual_ne_outside :
    let lone : Text := "\n".toList
    let cut : Text := "a\n\n// START OF X".toList
    let returned : Text := "a\r\r\nb".toList
    (ofText lone).residual.lines ≠ outside lone.lines ∧
      (ofText cut).residual.lines ≠ outside cut.lines ∧
      (ofText returned).residual.lines ≠ outside returned.lines := by
  decide +kernel

end Extraction

end Scaffold
