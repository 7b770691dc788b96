/-
# When a marker that was added is recognized

A marker is added with the key as it is given, and it is looked for with the key
as it is read.  The two are the same for legible keys
(`Marker.ofLine?_addLine_of_legible`), and no other key is ever read
(`Marker.legible_of_add`).  So the file has the marker afterwards exactly if the
key is legible (`addMarker_recognized_iff`).

Where it is not, nothing keeps the next run from adding the marker again: the
anchor line is still there, be it that the key has parted the marker into
several lines.  Only a carriage return at its end may have been lost.
-/
import Scaffold.Proofs.AnchorLaws
import Scaffold.Proofs.MarkerForms

namespace Scaffold

open Marker (Legible hasAdd addLine addsOfLines isMarker)

namespace Marker

/-- What a file has markers for is legible. -/
theorem legible_of_hasAdd {t key : Text} (h : hasAdd t key = true) : Legible key := by
  obtain ⟨m, hm, hkey⟩ := List.any_eq_true.1 h
  obtain ⟨line, -, hline⟩ := List.mem_filterMap.1 hm
  obtain ⟨marker, hread, hpair⟩ := Option.bind_eq_some_iff.1 hline
  obtain rfl := eq_of_beq hkey
  cases marker with
  | add key p =>
      obtain rfl := Option.some.inj hpair
      exact legible_of_add hread
  | start key => exact absurd hpair (by simp [addPair?])
  | stop key => exact absurd hpair (by simp [addPair?])

theorem hasAdd_of_mem {t key line : Text} {p : Position} {ls : List Text}
    (h : t.lines.map Text.trim = ls.map Text.trim) (hmem : line ∈ ls)
    (hline : ofLine? line = some (.add key p)) : hasAdd t key = true := by
  have hadds : addsIn t = addsOfLines ls := addsOfLines_congr (Block.written_congr h)
  refine List.any_eq_true.2 ⟨(key, p), ?_, beq_self_eq_true key⟩
  rw [hadds]
  refine List.mem_filterMap.2 ⟨line, hmem, ?_⟩
  rw [hline]
  rfl

theorem feed_notMem_addLine {indent key : Text} (hindent : '\n' ∉ indent) (hkey : '\n' ∉ key)
    (p : Position) : '\n' ∉ addLine indent key p := by
  have hword : '\n' ∉ p.word := by cases p <;> decide
  simp [addLine, hindent, hkey, hword]

end Marker

namespace Edit

/-! ## One marker -/

/-- The file with the marker. -/
def withMarker (content : Text) (a : Anchor) (side : Position) (cut : Cut) : Text :=
  (Lines.ofText content).render (cut.before ++
    Merge.beside cut.line [addLine (Text.indentation cut.line) a.key side] side ++ cut.after)

/-- The ways adding a marker can go. -/
inductive MarkerGo (content : Text) (a : Anchor) (side : Position) : Outcome → Prop
  | kept (h : hasAdd content a.key = true ∨
      anchor? a.target a.occurrence content.lines = none) :
      MarkerGo content a side (.same content)
  | added {cut : Cut} (hnew : hasAdd content a.key = false)
      (hcut : anchor? a.target a.occurrence content.lines = some cut) :
      MarkerGo content a side (.edited (withMarker content a side cut))

theorem markerGo_addMarker (content : Text) (a : Anchor) (side : Position) :
    MarkerGo content a side (addMarker content a side) := by
  rw [addMarker, Lines.lines_ofText]
  split
  next hold => exact .kept (.inl hold)
  next hnew =>
    split
    next hcut => exact .kept (.inr hcut)
    next cut hcut =>
      simp only [Cut.insert_eq]
      exact .added (Bool.eq_false_iff.2 hnew) hcut

theorem addMarker_of_hasAdd {content : Text} {a : Anchor} (h : hasAdd content a.key = true)
    (side : Position) : addMarker content a side = .same content := by
  rw [addMarker, if_pos h]

theorem changed_addMarker_iff {content : Text} {a : Anchor} {side : Position} :
    (addMarker content a side).changed = true ↔
      hasAdd content a.key = false ∧ anchor? a.target a.occurrence content.lines ≠ none := by
  generalize hr : addMarker content a side = r
  cases hr ▸ markerGo_addMarker content a side with
  | kept h =>
      refine ⟨fun hchanged => absurd hchanged Bool.false_ne_true, fun ⟨hnew, hfound⟩ => ?_⟩
      rcases h with h | h
      · exact absurd (hnew.symm.trans h) Bool.false_ne_true
      · exact absurd h hfound
  | added hnew hcut => exact ⟨fun _ => ⟨hnew, by simp [hcut]⟩, fun _ => rfl⟩

/-! ## The file that was written -/

/-- A line without the carriage return at its end is an anchor still. -/
theorem isAnchor_settled {target line : Text} (h : isAnchor target line = true)
    (hreturn : '\r' ∉ target) (e : LineEnding) : isAnchor target (e.settled line) = true := by
  obtain ⟨hrun, hmarker⟩ := isAnchor_iff.1 h
  refine isAnchor_iff.2 ⟨?_, ?_⟩
  · cases e with
    | crlf => exact hrun
    | lf =>
        rw [LineEnding.settled, Text.dropReturn]
        split
        next hlast =>
          obtain ⟨s, rfl⟩ := List.getLast?_eq_some_iff.1 hlast
          rw [List.dropLast_concat]
          rcases infix_append_cons hreturn hrun with hrun | hrun
          · exact hrun
          · exact (List.eq_nil_of_infix_nil hrun) ▸ List.nil_infix
        next => exact hrun
  · rw [← Marker.isMarker_trim, ← Text.trim_trimRight, LineEnding.trimRight_settled,
      Text.trim_trimRight, Marker.isMarker_trim, hmarker]

section Written

variable {content : Text} {a : Anchor} {side : Position} {cut : Cut}

/-- A marker with a legible key is found again. -/
theorem hasAdd_withMarker (hcut : anchor? a.target a.occurrence content.lines = some cut)
    (h : Legible a.key) : hasAdd (withMarker content a side cut) a.key = true := by
  have hindent : '\n' ∉ Text.indentation cut.line := fun hm =>
    feed_notMem_of_anchor? hcut ((List.takeWhile_prefix _).subset hm)
  have hread := Lines.map_trim_lines_render (writable_of_anchor? hcut
    (b := [addLine (Text.indentation cut.line) a.key side])
    (by simpa using Marker.feed_notMem_addLine hindent h.noFeed side) (by simp [addLine]) side)
  refine Marker.hasAdd_of_mem hread ?_
    (Marker.ofLine?_addLine_of_legible (Text.allBlank_indentation cut.line) h side)
  exact List.mem_append_left _
    (List.mem_append_right _ (Merge.mem_beside.2 (.inr List.mem_cons_self)))

/-- The anchor is found again. -/
theorem anchor?_withMarker_ne (hcut : anchor? a.target a.occurrence content.lines = some cut)
    (hreturn : '\r' ∉ a.target) :
    anchor? a.target a.occurrence (withMarker content a side cut).lines ≠ none := by
  obtain ⟨htarget, hat⟩ := anchor?_eq_some_iff.1 hcut
  have hmem : cut.line ∈ cut.before ++
      Merge.beside cut.line [addLine (Text.indentation cut.line) a.key side] side ++ cut.after :=
    List.mem_append_left _ (List.mem_append_right _ (Merge.mem_beside.2 (.inl rfl)))
  obtain ⟨l, hl, hread⟩ := (Lines.ofText content).exists_mem_lines_render hmem
    (feed_notMem_of_anchor? hcut) (line_ne_nil_of_anchor? hcut)
  have hline : isAnchor a.target l = true := by
    rcases hread with rfl | rfl
    · exact hat.line
    · exact isAnchor_settled hat.line hreturn _
  intro hnone
  rcases anchor?_eq_none_iff.1 hnone with hnil | hall
  · exact htarget hnil
  · exact absurd ((hall l hl).symm.trans hline) (by simp)

end Written

/-- A marker that was added is recognized exactly if its key is legible, and then
it is not added again.  With any other key the next run adds it once more, unless
the target asks for a carriage return. -/
theorem addMarker_recognized_iff {content : Text} {S : SnippetMap} {a : Anchor} {side : Position}
    (hchanged : (apply content S (markerAt a side)).changed = true) :
    let r := (apply content S (markerAt a side)).content
    (hasAdd r a.key = true ↔ Legible a.key) ∧
      (Legible a.key → apply r S (markerAt a side) = .same r) ∧
      ('\r' ∉ a.target → ¬ Legible a.key → (apply r S (markerAt a side)).changed = true) := by
  simp only [apply_markerAt] at hchanged ⊢
  generalize ho : addMarker content a side = o at hchanged ⊢
  cases ho ▸ markerGo_addMarker content a side with
  | kept => exact absurd hchanged Bool.false_ne_true
  | @added cut hnew hcut =>
      refine ⟨⟨Marker.legible_of_hasAdd, hasAdd_withMarker hcut⟩, ?_, ?_⟩
      · exact fun hkey => addMarker_of_hasAdd (hasAdd_withMarker hcut hkey) side
      · intro hreturn hkey
        exact changed_addMarker_iff.2 ⟨Bool.eq_false_iff.2 (mt Marker.legible_of_hasAdd hkey),
          anchor?_withMarker_ne hcut hreturn⟩

/-- Keys with position words in them and a single blank are legible. -/
theorem addMarker_recognized_of_words :
    let a : Anchor := ⟨"x".toList, "ADD  BELOW k".toList, .last⟩
    let r := (apply "\tx;".toList .empty (markerAt a .below)).content
    r = "\tx;\n\t// ADD ADD  BELOW k BELOW".toList ∧ hasAdd r a.key = true ∧
      apply r .empty (markerAt a .below) = .same r := by
  intro a r
  have hchanged : (apply "\tx;".toList .empty (markerAt a .below)).changed = true := by
    decide +kernel
  obtain ⟨hfound, hkept, -⟩ := addMarker_recognized_iff hchanged
  have hkey : Legible a.key := ⟨by decide, .inl ⟨by decide, by decide⟩⟩
  exact ⟨by decide +kernel, hfound.2 hkey, hkept hkey⟩

/-- Without its key, or with blanks around it, a marker is added again and again. -/
theorem addMarker_repeats :
    let nameless := markerAt ⟨"a".toList, [], .first⟩ .above
    let padded := markerAt ⟨"a".toList, " X ".toList, .first⟩ .below
    apply "a\n".toList .empty nameless = .edited "// ADD  ABOVE\na\n".toList ∧
      hasAdd "// ADD  ABOVE\na\n".toList [] = false ∧
      apply "// ADD  ABOVE\na\n".toList .empty nameless =
        .edited "// ADD  ABOVE\n// ADD  ABOVE\na\n".toList ∧
      apply "a\n".toList .empty padded = .edited "a\n// ADD  X  BELOW\n".toList ∧
      hasAdd "a\n// ADD  X  BELOW\n".toList " X ".toList = false ∧
      apply "a\n// ADD  X  BELOW\n".toList .empty padded =
        .edited "a\n// ADD  X  BELOW\n// ADD  X  BELOW\n".toList := by
  decide +kernel

end Edit

end Scaffold
