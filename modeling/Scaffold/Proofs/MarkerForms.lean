/-
# The forms of a marker, written and read

`Spells line m` is the grammar of the three forms, part by part:

    blanks // blanks ADD gap KEY gap POSITION blanks
    blanks // blanks START OF gap KEY blanks
    blanks // blanks END OF gap KEY blanks

where a gap is one blank or more.  For a key that names something, one without
blanks around it, reading and the grammar are the same (`ofLine?_eq_some_iff_spells`):
what is spelled out is read with exactly its key, be there position words or
runs of blanks in it, and nothing else is read so.

The keys that are read name something, with one exception: where the key of an
ADD form is missing and its two gaps are one, wide enough to be shared out as
gap, key and gap, a single blank is taken for the key (`named_iff_not_gapped`).

Both sorts of keys are legible: an ADD marker that is written with one of them is
read with it (`ofLine?_addLine_of_legible`), and no other key is ever read off an
ADD marker (`legible_of_add`).
-/
import Scaffold.Proofs.MarkerKeys

namespace Scaffold.Marker

open Text (allBlank trimLeft after? words)

/-- What a marker names. -/
def key : Marker → Text
  | .start key => key
  | .stop key => key
  | .add key _ => key

/-- A key that names something: it is not empty and has no blanks around it. -/
structure Named (key : Text) : Prop where
  ne_nil : key ≠ []
  trimmed : Text.trim key = key

theorem Named.not_allBlank {key : Text} (h : Named key) : allBlank key = false := by
  cases hblank : allBlank key with
  | false => rfl
  | true => exact absurd (h.trimmed.symm.trans (Text.trim_eq_nil_iff.2 hblank)) h.ne_nil

/-! ## The grammar -/

/-- The line spells the marker out. -/
inductive Spells : Text → Marker → Prop
  | add {w0 w1 w2 key w3 w4 : Text} (p : Position) :
      allBlank w0 = true → allBlank w1 = true → allBlank w2 = true → w2 ≠ [] →
      allBlank w3 = true → w3 ≠ [] → allBlank w4 = true →
      Spells (w0 ++ "//".toList ++ w1 ++ "ADD".toList ++ w2 ++ key ++ w3 ++ p.word ++ w4)
        (.add key p)
  | start {w0 w1 w2 key w4 : Text} :
      allBlank w0 = true → allBlank w1 = true → allBlank w2 = true → w2 ≠ [] →
      allBlank w4 = true →
      Spells (w0 ++ "//".toList ++ w1 ++ "START OF".toList ++ w2 ++ key ++ w4) (.start key)
  | stop {w0 w1 w2 key w4 : Text} :
      allBlank w0 = true → allBlank w1 = true → allBlank w2 = true → w2 ≠ [] →
      allBlank w4 = true →
      Spells (w0 ++ "//".toList ++ w1 ++ "END OF".toList ++ w2 ++ key ++ w4) (.stop key)

/-! ## START and END lines -/

theorem blockTail?_start (rest : Text) :
    blockTail? ("START OF".toList ++ rest) = (blockKey? rest).map .start := by
  rw [blockTail?, Text.after?_append]

theorem blockTail?_stop (rest : Text) :
    blockTail? ("END OF".toList ++ rest) = (blockKey? rest).map .stop := by
  have hstart : after? "START OF".toList ("END OF".toList ++ rest) = none := rfl
  rw [blockTail?, hstart, Text.after?_append]
  rfl

theorem blockKey?_of_blank {rest : Text} (h : allBlank rest = true) : blockKey? rest = none :=
  ignoresEnd_blockKey?.of_blank h

/-- A comment whose body does not begin with `ADD` is read as a START or END
line. -/
theorem ofLine?_comment {w0 w1 : Text} (hw0 : allBlank w0 = true) (hw1 : allBlank w1 = true)
    {body : Text} (hbody : trimLeft body = body) (hadd : after? "ADD".toList body = none) :
    ofLine? (w0 ++ ("//".toList ++ (w1 ++ body))) = blockTail? body := by
  rw [ofLine?_eq, add?_eq, block?_eq, after?_slashes hw0, Option.bind_some, Option.bind_some,
    Text.trimLeft_append_of_blank hw1, hbody, hadd]
  rfl

theorem ofLine?_startLine {w0 w1 : Text} (hw0 : allBlank w0 = true) (hw1 : allBlank w1 = true)
    (rest : Text) :
    ofLine? (w0 ++ ("//".toList ++ (w1 ++ ("START OF".toList ++ rest)))) =
      (blockKey? rest).map .start := by
  rw [ofLine?_comment hw0 hw1 rfl rfl, blockTail?_start]

theorem ofLine?_stopLine {w0 w1 : Text} (hw0 : allBlank w0 = true) (hw1 : allBlank w1 = true)
    (rest : Text) :
    ofLine? (w0 ++ ("//".toList ++ (w1 ++ ("END OF".toList ++ rest)))) =
      (blockKey? rest).map .stop := by
  rw [ofLine?_comment hw0 hw1 rfl rfl, blockTail?_stop]

/-- What is read as a START or END line spells it out, with a key that names
something. -/
theorem spells_of_block {line : Text} {m : Marker} (h : block? line = some m) :
    Spells line m ∧ Named m.key := by
  rw [block?_eq] at h
  obtain ⟨r, hslash, htail⟩ := Option.bind_eq_some_iff.1 h
  obtain ⟨rest, key, hkey, hform⟩ := exists_of_blockTail? htail
  obtain ⟨hne, htrim, -, w2, w4, hw2, hne2, hw4, rfl⟩ := blockKey?_eq_some_iff.1 hkey
  have hline := eq_of_after?_slashes hslash
  have hw0 := Text.allBlank_indentation line
  have hw1 := Text.allBlank_indentation r
  rcases hform with ⟨hbody, rfl⟩ | ⟨hbody, rfl⟩
  · refine ⟨?_, hne, htrim⟩
    rw [hline, hbody]
    simpa only [List.append_assoc] using Spells.start hw0 hw1 hw2 hne2 hw4
  · refine ⟨?_, hne, htrim⟩
    rw [hline, hbody]
    simpa only [List.append_assoc] using Spells.stop hw0 hw1 hw2 hne2 hw4

/-! ## ADD lines -/

/-- A comment whose body begins with `ADD` is read as an ADD marker or not at
all. -/
theorem ofLine?_addComment {w0 w1 : Text} (hw0 : allBlank w0 = true) (hw1 : allBlank w1 = true)
    (rest : Text) :
    ofLine? (w0 ++ ("//".toList ++ (w1 ++ ("ADD".toList ++ rest)))) =
      (addTail? rest).map fun m => .add m.1 m.2 := by
  have hblock : blockTail? (trimLeft ("ADD".toList ++ rest)) = none := rfl
  rw [ofLine?_eq, add?_append hw0 hw1, block?_eq, after?_slashes hw0, Option.bind_some,
    Text.trimLeft_append_of_blank hw1, hblock, Option.or_none]

theorem spells_of_add {line key : Text} {p : Position} (h : ofLine? line = some (.add key p)) :
    Spells line (.add key p) := by
  obtain ⟨w0, w1, w2, w3, w4, hw0, hw1, hw2, hne2, hw3, hne3, hw4, -, -, rfl⟩ :=
    exists_parts_of_add h
  simpa only [List.append_assoc] using Spells.add p hw0 hw1 hw2 hne2 hw3 hne3 hw4

/-! ## Reading and spelling -/

/-- Every marker that is read was spelled out. -/
theorem spells_of_ofLine? {line : Text} {m : Marker} (h : ofLine? line = some m) :
    Spells line m := by
  cases m with
  | add key p => exact spells_of_add h
  | start key => exact (spells_of_block (block?_of_ofLine? h (by simp))).1
  | stop key => exact (spells_of_block (block?_of_ofLine? h (by simp))).1

/-- A marker that was spelled out is read, if its key names something. -/
theorem ofLine?_of_spells {line : Text} {m : Marker} (h : Spells line m) (hname : Named m.key)
    (hnl : '\n' ∉ m.key) : ofLine? line = some m := by
  cases h with
  | add p hw0 hw1 hw2 hne2 hw3 hne3 hw4 =>
      simp only [List.append_assoc]
      exact ofLine?_add_parts hw0 hw1 hw2 hne2 hname.ne_nil hname.trimmed hnl hw3 hne3 p hw4
  | @start w0 w1 w2 key w4 hw0 hw1 hw2 hne2 hw4 =>
      have hkey : blockKey? (w2 ++ (key ++ w4)) = some key := blockKey?_eq_some_iff.2
        ⟨hname.ne_nil, hname.trimmed, hnl, _, _, hw2, hne2, hw4, rfl⟩
      simp only [List.append_assoc]
      rw [ofLine?_startLine hw0 hw1, hkey]
      rfl
  | @stop w0 w1 w2 key w4 hw0 hw1 hw2 hne2 hw4 =>
      have hkey : blockKey? (w2 ++ (key ++ w4)) = some key := blockKey?_eq_some_iff.2
        ⟨hname.ne_nil, hname.trimmed, hnl, _, _, hw2, hne2, hw4, rfl⟩
      simp only [List.append_assoc]
      rw [ofLine?_stopLine hw0 hw1, hkey]
      rfl

/-- A marker whose key names something is read from the lines that spell it out
and from no others; one that was written is among them. -/
theorem ofLine?_eq_some_iff_spells {m : Marker} (hname : Named m.key) (hnl : '\n' ∉ m.key) :
    (∀ line, ofLine? line = some m ↔ Spells line m) ∧
      ∀ indent p, allBlank indent = true →
        ofLine? (addLine indent m.key p) = some (.add m.key p) := by
  refine ⟨fun line => ⟨spells_of_ofLine?, fun h => ofLine?_of_spells h hname hnl⟩, ?_⟩
  intro indent p hindent
  exact ofLine?_addLine hindent hname.ne_nil hname.trimmed hnl p

/-- A key may hold position words, runs of blanks and the other words of a
marker. -/
theorem ofLine?_of_key_with_position :
    let m : Marker := .add "ADD X  ABOVE OF".toList .below
    ofLine? "\t//ADD   ADD X  ABOVE OF BELOW ".toList = some m ∧
      ofLine? (addLine "  ".toList m.key .above) = some (.add m.key .above) := by
  intro m
  have h := ofLine?_eq_some_iff_spells (m := m) ⟨by decide, by decide⟩ (by decide)
  have hline : Spells ("\t".toList ++ "//".toList ++ [] ++ "ADD".toList ++ "   ".toList ++
      "ADD X  ABOVE OF".toList ++ " ".toList ++ Position.below.word ++ " ".toList) m :=
    .add .below (by decide) (by decide) (by decide) (by decide) (by decide) (by decide) (by decide)
  exact ⟨(h.1 _).2 hline, h.2 "  ".toList .above (by decide)⟩

/-! ## Keys that name nothing -/

/-- A line with all parts of a marker but the key. -/
inductive Keyless : Text → Prop
  | add {w0 w1 gap w4 : Text} (p : Position) :
      allBlank w0 = true → allBlank w1 = true → allBlank gap = true → allBlank w4 = true →
      Keyless (w0 ++ "//".toList ++ w1 ++ "ADD".toList ++ gap ++ p.word ++ w4)
  | start {w0 w1 gap : Text} :
      allBlank w0 = true → allBlank w1 = true → allBlank gap = true →
      Keyless (w0 ++ "//".toList ++ w1 ++ "START OF".toList ++ gap)
  | stop {w0 w1 gap : Text} :
      allBlank w0 = true → allBlank w1 = true → allBlank gap = true →
      Keyless (w0 ++ "//".toList ++ w1 ++ "END OF".toList ++ gap)

/-- A line of the ADD form without a key, its one gap so wide that a blank
within it can pass for the key. -/
def Gapped (line : Text) : Prop :=
  ∃ c p, Text.isBlank c = true ∧ c ≠ '\n' ∧ Spells line (.add [c] p)

/-- Where only blanks stand before the position word, no key but blanks is
found. -/
theorem allBlank_of_addTail? {gap w4 key : Text} {p q : Position} (hgap : allBlank gap = true)
    (hw4 : allBlank w4 = true) (h : addTail? (gap ++ (p.word ++ w4)) = some (key, q)) :
    allBlank key = true := by
  obtain ⟨u2, u3, u4, hu2, -, hu3, hne3, hu4, -, -, heq⟩ := exists_parts_of_addTail? h
  have hwords := congrArg words heq
  rw [Text.ignoresBlanks_words.before _ _ hgap, Text.ignoresBlanks_words.behind _ _ hw4,
    Text.words_of_isWord (isWord_word p), Text.ignoresBlanks_words.before _ _ hu2,
    Text.words_append_of_blank key hu3 hne3, Text.ignoresBlanks_words.behind _ _ hu4,
    Text.words_of_isWord (isWord_word q)] at hwords
  have hlength := congrArg List.length hwords
  rw [List.length_append] at hlength
  exact Text.words_eq_nil_iff.1 (List.length_eq_zero_iff.1 (Nat.succ.inj hlength).symm)

/-- A key that is blank is a single blank: it is the shortest that will do. -/
theorem exists_singleton_of_addTail? {rest key : Text} {p : Position}
    (h : addTail? rest = some (key, p)) (hblank : allBlank key = true) : ∃ c, key = [c] := by
  obtain ⟨w, r, -, -, -, hr⟩ := exists_append_of_behindBlanks h
  obtain ⟨tail, rfl, htail, hne, -⟩ := exists_append_of_shortestKey hr
  obtain ⟨w3, w4, hw3, hne3, hw4, rfl⟩ := exists_parts_of_positionTail? htail
  match key, hne with
  | [c], _ => exact ⟨c, rfl⟩
  | c :: d :: k, _ =>
      rw [Text.allBlank_cons_iff] at hblank
      have hgap : allBlank (d :: k ++ w3) = true := by
        rw [Text.allBlank_append, hblank.2, hw3]
        rfl
      have hpos := positionTail?_parts hgap (by simp) hw4 p
      rw [List.append_assoc] at hpos
      rw [List.cons_append, shortestKey, hpos] at hr
      split at hr <;> exact absurd hr (by simp)

/-- A marker that is read names something, or its line is gapped and its key a
single blank. -/
theorem named_or_gapped {line : Text} {m : Marker} (h : ofLine? line = some m) :
    Named m.key ∨ Gapped line ∧ ∃ c p, m = .add [c] p ∧ Text.isBlank c = true ∧ c ≠ '\n' := by
  cases m with
  | start key => exact .inl (spells_of_block (block?_of_ofLine? h (by simp))).2
  | stop key => exact .inl (spells_of_block (block?_of_ofLine? h (by simp))).2
  | add key p =>
      obtain ⟨_, _, rest, -, -, -, htail⟩ := exists_addTail_of_add h
      obtain ⟨_, _, _, -, -, -, -, -, hne, hnl, -⟩ := exists_parts_of_addTail? htail
      cases hblank : allBlank key with
      | false => exact .inl ⟨hne, trim_of_add h hblank⟩
      | true =>
          obtain ⟨c, rfl⟩ := exists_singleton_of_addTail? htail hblank
          have hc : Text.isBlank c = true := (Text.allBlank_cons_iff.1 hblank).1
          have hfeed : c ≠ '\n' := fun heq => hnl (heq ▸ List.mem_cons_self)
          exact .inr ⟨⟨c, p, hc, hfeed, spells_of_add h⟩, c, p, rfl, hc, hfeed⟩

/-- A gapped line is read with a blank for its key. -/
theorem exists_blank_key_of_gapped {line : Text} (h : Gapped line) :
    ∃ key p, ofLine? line = some (.add key p) ∧ allBlank key = true := by
  obtain ⟨c, p, hc, hfeed, hline⟩ := h
  cases hline with
  | @add w0 w1 w2 _ w3 w4 _ hw0 hw1 hw2 hne2 hw3 hne3 hw4 =>
      simp only [List.append_assoc]
      obtain ⟨key, q, hread⟩ := exists_add_of_parts hw0 hw1 hw2 hne2 (List.cons_ne_nil c [])
        (by simpa using hfeed.symm) hw3 hne3 p hw4
      refine ⟨key, q, hread, ?_⟩
      rw [ofLine?_addComment hw0 hw1] at hread
      obtain ⟨⟨k, r⟩, htail, heq⟩ := Option.map_eq_some_iff.1 hread
      obtain ⟨rfl, rfl⟩ : k = key ∧ r = q := by simpa using heq
      have hgap : allBlank (w2 ++ ([c] ++ w3)) = true := by simp [hw2, hc, hw3]
      exact allBlank_of_addTail? hgap hw4 (by simpa using htail)

theorem ofLine?_of_keyless {line : Text} (h : Keyless line) (hnot : ¬ Gapped line) :
    ofLine? line = none := by
  have hnamed : ∀ m, ofLine? line = some m → Named m.key := fun m hm =>
    (named_or_gapped hm).resolve_right fun hgapped => hnot hgapped.1
  cases h with
  | @add w0 w1 gap w4 p hw0 hw1 hgap hw4 =>
      simp only [List.append_assoc] at hnamed ⊢
      rw [ofLine?_addComment hw0 hw1] at hnamed ⊢
      cases htail : addTail? (gap ++ (p.word ++ w4)) with
      | none => rfl
      | some pair =>
          -- a key that was found would be blank and name something
          have hname := hnamed (.add pair.1 pair.2) (by rw [htail]; rfl)
          have hblank := allBlank_of_addTail? hgap hw4 htail
          exact absurd (hname.not_allBlank.symm.trans hblank) Bool.false_ne_true
  | start hw0 hw1 hgap =>
      simp only [List.append_assoc]
      rw [ofLine?_startLine hw0 hw1, blockKey?_of_blank hgap]
      rfl
  | stop hw0 hw1 hgap =>
      simp only [List.append_assoc]
      rw [ofLine?_stopLine hw0 hw1, blockKey?_of_blank hgap]
      rfl

/-- The markers that are read from a line name something exactly if the line is
not gapped; a line without a key is no marker then.  From a gapped line a
single blank is read for a key. -/
theorem named_iff_not_gapped (line : Text) :
    ((∀ m, ofLine? line = some m → Named m.key) ↔ ¬ Gapped line) ∧
      (Keyless line → ¬ Gapped line → ofLine? line = none) ∧
      (Gapped line → ∃ c p, ofLine? line = some (.add [c] p) ∧ Text.isBlank c = true) := by
  refine ⟨⟨?_, ?_⟩, ofLine?_of_keyless, ?_⟩
  · intro hnamed hgapped
    obtain ⟨key, p, hread, hblank⟩ := exists_blank_key_of_gapped hgapped
    exact absurd ((hnamed _ hread).not_allBlank.symm.trans hblank) Bool.false_ne_true
  · intro hnot m hm
    exact (named_or_gapped hm).resolve_right fun hgapped => hnot hgapped.1
  · intro hgapped
    obtain ⟨key, p, hread, hblank⟩ := exists_blank_key_of_gapped hgapped
    obtain ⟨c, q, heq, hc, -⟩ := ((named_or_gapped hread).resolve_left fun hname =>
      absurd (hname.not_allBlank.symm.trans hblank) Bool.false_ne_true).2
    exact ⟨c, q, heq ▸ hread, hc⟩

theorem ofLine?_of_two_blanks :
    let line := "// ADD  BELOW".toList
    ofLine? line = none ∧ ∀ m, ofLine? line = some m → Named m.key := by
  intro line
  have h := named_iff_not_gapped line
  have hkeyless : Keyless ([] ++ "//".toList ++ " ".toList ++ "ADD".toList ++ "  ".toList ++
      Position.below.word ++ []) :=
    .add .below (by decide) (by decide) (by decide) (by decide)
  have hnot : ¬ Gapped line := by
    intro hgapped
    obtain ⟨c, p, hread, -⟩ := h.2.2 hgapped
    have hnone : ofLine? line = none := by decide
    exact absurd (hnone.symm.trans hread) (by simp)
  exact ⟨h.2.1 hkeyless hnot, h.1.2 hnot⟩

/-- One blank more, and the one in the middle is taken for a key. -/
theorem ofLine?_of_three_blanks :
    ofLine? "// ADD   BELOW".toList = some (.add " ".toList .below) ∧ ¬ Named " ".toList :=
  ⟨by decide, fun h => absurd h.trimmed (by decide)⟩

/-! ## Keys that can be written -/

/-- A key that is read again as it was written: within one line, and naming
something or a single blank. -/
structure Legible (key : Text) : Prop where
  noFeed : '\n' ∉ key
  form : Named key ∨ ∃ c, key = [c] ∧ Text.isBlank c = true

/-- Only legible keys are read off ADD markers. -/
theorem legible_of_add {line key : Text} {p : Position} (h : ofLine? line = some (.add key p)) :
    Legible key := by
  obtain ⟨_, _, _, _, _, -, -, -, -, -, -, -, -, hnl, -⟩ := exists_parts_of_add h
  refine ⟨hnl, ?_⟩
  rcases named_or_gapped h with hname | ⟨-, c, q, heq, hc, -⟩
  · exact .inl hname
  · obtain ⟨rfl, rfl⟩ : key = [c] ∧ p = q := by simpa using heq
    exact .inr ⟨c, rfl, hc⟩

theorem legible_of_start {line key : Text} (h : ofLine? line = some (.start key)) :
    Legible key := by
  have hproper := proper_of_start h
  refine ⟨hproper.noFeed, .inl ⟨?_, trim_of_start h⟩⟩
  rintro rfl
  exact absurd hproper.ink (by decide)

/-- Three blanks in a row are a gap, a key and a gap. -/
theorem addTail?_of_blank {c : Char} (hc : Text.isBlank c = true) (hnl : c ≠ '\n') (p : Position) :
    addTail? (' ' :: c :: ' ' :: p.word) = some ([c], p) := by
  have hkey : shortestKey positionTail? (c :: ' ' :: p.word) = some ([c], p) := by
    have htail : positionTail? (' ' :: p.word) = some p := by cases p <;> decide
    rw [shortestKey, if_neg (by simpa using hnl), htail]
  -- with fewer blanks left, the position word itself would have to be the key
  have hfewer : behindBlanks (shortestKey positionTail?) (c :: ' ' :: p.word) = none := by
    have hlast : behindBlanks (shortestKey positionTail?) (' ' :: p.word) = none := by
      cases p <;> decide
    have hnext : shortestKey positionTail? (' ' :: p.word) = none := by cases p <;> decide
    rw [behindBlanks, if_pos hc, hlast, hnext]
  exact behindBlanks_append (w := [' ']) (by decide) (List.cons_ne_nil ' ' []) hfewer hkey

/-- A marker with a legible key is read with exactly this key. -/
theorem ofLine?_addLine_of_legible {indent key : Text} (hindent : allBlank indent = true)
    (h : Legible key) (p : Position) : ofLine? (addLine indent key p) = some (.add key p) := by
  rcases h.form with hname | ⟨c, rfl, hc⟩
  · exact ofLine?_addLine hindent hname.ne_nil hname.trimmed h.noFeed p
  · have hnl : c ≠ '\n' := fun heq => h.noFeed (heq ▸ List.mem_cons_self)
    have hspace : allBlank [' '] = true := by decide
    have hread := ofLine?_addComment hindent hspace (' ' :: c :: ' ' :: p.word)
    rw [addTail?_of_blank hc hnl] at hread
    simpa [addLine] using hread

end Scaffold.Marker
