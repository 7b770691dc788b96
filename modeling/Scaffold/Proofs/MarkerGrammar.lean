/-
# The grammar of marker lines

Three facts about `Marker.ofLine?` carry all that is proved about merging.

    blanks        blanks around a line do not change the marker on it
                  (`ignoresBlanks_ofLine?`)
    its parts     an ADD marker is blanks, the two slashes, `ADD`, blanks, the
                  key, blanks, the position word, blanks
                  (`exists_parts_of_add`); any text so put together is some
                  ADD marker (`exists_add_of_parts`)
    its words     a line that has the words of an ADD marker with a key that is
                  no blank is an ADD marker itself (`exists_add_of_words`)

The key has to be no blank: `// ADD` and three blanks and `BELOW` make a marker
whose key is a blank, and the line with the same words and single spaces is
none.  Such a key means no snippet, so nothing hangs on it.
-/
import Scaffold.Marker
import Scaffold.Proofs.Words

namespace Scaffold.Marker

open Text (allBlank trimLeft trimRight after? words IgnoresEnd IgnoresBlanks)

/-! ## The position word -/

theorem trimRight_word (p : Position) : trimRight p.word = p.word := by
  cases p <;> decide

theorem word_ne_nil (p : Position) : p.word ≠ [] := by
  intro h
  have hlength := congrArg List.length h
  cases p <;> exact absurd hlength (by decide)

theorem isWord_word (p : Position) : Text.IsWord p.word where
  ne_nil := word_ne_nil p
  ink c hc := by
    have hall : (p.word.all fun c => !Text.isBlank c) = true := by cases p <;> decide
    simpa using List.all_eq_true.1 hall c hc

theorem closingPosition?_eq_some_iff {t : Text} {p : Position} :
    closingPosition? t = some p ↔ trimRight t = p.word := by
  have habove : Position.above.word ≠ Position.below.word := by decide
  simp only [closingPosition?, beq_iff_eq]
  cases p with
  | above =>
      split
      · simpa
      · simp [*]
  | below =>
      split
      next h => simpa [h] using habove
      next => simp

theorem closingPosition?_append_of_blank (t : Text) {w : Text} (hw : allBlank w = true) :
    closingPosition? (t ++ w) = closingPosition? t := by
  simp only [closingPosition?, Text.trimRight_append_of_blank t hw]

theorem closingPosition?_nil : closingPosition? [] = none := by decide

theorem ignoresEnd_positionTail? : IgnoresEnd positionTail? where
  nil := rfl
  behind t w hw := by
    have hclose : IgnoresEnd fun t => closingPosition? (trimLeft t) :=
      IgnoresEnd.trimLeft ⟨closingPosition?_nil, fun t _ => closingPosition?_append_of_blank t⟩
    cases t with
    | nil =>
        cases w with
        | nil => rfl
        | cons c r =>
            rw [Text.allBlank_cons_iff] at hw
            show (if Text.isBlank c then closingPosition? (trimLeft r) else none) = none
            rw [if_pos hw.1]
            exact hclose.of_blank hw.2
    | cons c r =>
        show (if Text.isBlank c then closingPosition? (trimLeft (r ++ w)) else none) = _
        rw [hclose.behind r w hw, positionTail?]

/-- The tail of an ADD marker, from its parts. -/
theorem positionTail?_parts {w w' : Text} (hw : allBlank w = true) (hne : w ≠ [])
    (hw' : allBlank w' = true) (p : Position) :
    positionTail? (w ++ (p.word ++ w')) = some p := by
  cases w with
  | nil => exact absurd rfl hne
  | cons c r =>
      rw [Text.allBlank_cons_iff] at hw
      have hword : trimLeft p.word = p.word := by cases p <;> decide
      show (if Text.isBlank c then closingPosition? (trimLeft (r ++ (p.word ++ w'))) else none) = _
      rw [if_pos hw.1, Text.trimLeft_append_of_blank hw.2,
        Text.trimLeft_append_of_ink (isWord_word p).not_allBlank, hword,
        closingPosition?_eq_some_iff, Text.trimRight_append_of_blank _ hw', trimRight_word]

theorem exists_parts_of_positionTail? {t : Text} {p : Position} (h : positionTail? t = some p) :
    ∃ w w', allBlank w = true ∧ w ≠ [] ∧ allBlank w' = true ∧ t = w ++ (p.word ++ w') := by
  cases t with
  | nil => exact absurd h (by simp [positionTail?])
  | cons c r =>
      rw [positionTail?] at h
      split at h
      next hc =>
        obtain ⟨w', hw', ht⟩ := Text.exists_trimRight_append (trimLeft r)
        rw [closingPosition?_eq_some_iff.1 h] at ht
        refine ⟨c :: Text.indentation r, w', ?_, List.cons_ne_nil c _, hw', ?_⟩
        · rw [Text.allBlank_cons, hc, Bool.true_and]
          exact Text.allBlank_indentation r
        · rw [← ht, List.cons_append, Text.indentation_append_trimLeft]
      next => exact absurd h (by simp)

/-! ## Runs of blanks and shortest keys -/

section Search

variable {α : Type} {next : Text → Option α}

theorem ignoresEnd_behindBlanks (h : IgnoresEnd next) : IgnoresEnd (behindBlanks next) where
  nil := rfl
  behind t w hw := by
    have hblank : ∀ v, allBlank v = true → behindBlanks next v = none := by
      intro v hv
      induction v with
      | nil => rfl
      | cons c r ih =>
          rw [Text.allBlank_cons_iff] at hv
          rw [behindBlanks, if_pos hv.1, ih hv.2]
          exact h.of_blank hv.2
    induction t with
    | nil => exact hblank w hw
    | cons c r ih => rw [List.cons_append, behindBlanks, ih, h.behind r w hw, behindBlanks]

theorem ignoresEnd_shortestKey (h : IgnoresEnd next) : IgnoresEnd (shortestKey next) where
  nil := rfl
  behind t w hw := by
    have hblank : ∀ v, allBlank v = true → shortestKey next v = none := by
      intro v hv
      induction v with
      | nil => rfl
      | cons c r ih =>
          rw [Text.allBlank_cons_iff] at hv
          rw [shortestKey, h.of_blank hv.2, ih hv.2]
          split <;> rfl
    induction t with
    | nil => exact hblank w hw
    | cons c r ih => rw [List.cons_append, shortestKey, ih, h.behind r w hw, shortestKey]

theorem exists_append_of_behindBlanks {t : Text} {a : α} (h : behindBlanks next t = some a) :
    ∃ w r, allBlank w = true ∧ w ≠ [] ∧ t = w ++ r ∧ next r = some a := by
  induction t with
  | nil => exact absurd h (by simp [behindBlanks])
  | cons c r ih =>
      rw [behindBlanks] at h
      split at h
      next hc =>
        cases hr : behindBlanks next r with
        | some b =>
            rw [hr] at h ih
            obtain ⟨w, s, hw, -, rfl, hs⟩ := ih h
            refine ⟨c :: w, s, ?_, List.cons_ne_nil c w, rfl, hs⟩
            rw [Text.allBlank_cons, hc, Bool.true_and]
            exact hw
        | none =>
            rw [hr] at h
            exact ⟨[c], r, by simp [Text.allBlank, hc], List.cons_ne_nil c [], rfl, h⟩
      next => exact absurd h (by simp)

theorem behindBlanks_isSome {w r : Text} (hw : allBlank w = true) (hne : w ≠ [])
    (h : (next r).isSome) : (behindBlanks next (w ++ r)).isSome := by
  induction w with
  | nil => exact absurd rfl hne
  | cons c v ih =>
      rw [Text.allBlank_cons_iff] at hw
      rw [List.cons_append, behindBlanks, if_pos hw.1]
      split
      · rfl
      next hnone =>
        cases v with
        | nil => exact h
        | cons d u =>
            have := ih hw.2 (List.cons_ne_nil d u)
            rw [hnone] at this
            exact absurd this Bool.false_ne_true

theorem exists_append_of_shortestKey {t key : Text} {a : α}
    (h : shortestKey next t = some (key, a)) :
    ∃ r, t = key ++ r ∧ next r = some a ∧ key ≠ [] ∧ '\n' ∉ key := by
  induction t generalizing key with
  | nil => exact absurd h (by simp [shortestKey])
  | cons c r ih =>
      rw [shortestKey] at h
      split at h
      · exact absurd h (by simp)
      next hc =>
        have hc' : '\n' ≠ c := by
          intro hn
          exact hc (by rw [← hn]; decide)
        split at h
        next b hb =>
          obtain ⟨rfl, rfl⟩ : [c] = key ∧ b = a := by simpa using h
          exact ⟨r, rfl, hb, List.cons_ne_nil c [], by simpa using hc'⟩
        next =>
          obtain ⟨⟨k, b⟩, hk, heq⟩ := Option.map_eq_some_iff.1 h
          obtain ⟨rfl, rfl⟩ : c :: k = key ∧ b = a := by simpa using heq
          obtain ⟨s, rfl, hs, -, hnl⟩ := ih hk
          refine ⟨s, rfl, hs, List.cons_ne_nil c k, ?_⟩
          rw [List.mem_cons, not_or]
          exact ⟨hc', hnl⟩

theorem shortestKey_isSome {key r : Text} (hne : key ≠ []) (hnl : '\n' ∉ key)
    (h : (next r).isSome) : (shortestKey next (key ++ r)).isSome := by
  induction key with
  | nil => exact absurd rfl hne
  | cons c k ih =>
      rw [List.mem_cons, not_or] at hnl
      have hc : ¬ (c == '\n') = true := by
        intro hn
        exact hnl.1 (eq_of_beq hn).symm
      rw [List.cons_append, shortestKey, if_neg hc]
      split
      · rfl
      next hnone =>
        cases k with
        | nil =>
            rw [List.nil_append] at hnone
            rw [hnone] at h
            exact absurd h Bool.false_ne_true
        | cons d u => simpa using ih (List.cons_ne_nil d u) hnl.2

end Search

/-! ## The slashes -/

theorem after?_slashes {w : Text} (hw : allBlank w = true) (r : Text) :
    after? "//".toList (trimLeft (w ++ ("//".toList ++ r))) = some r := by
  have hink : trimLeft ("//".toList ++ r) = "//".toList ++ r :=
    Text.trimLeft_append_of_ink (t := "//".toList) (by decide) r
  rw [Text.trimLeft_append_of_blank hw, hink, Text.after?_append]

/-- A comment line, cut around its slashes and before its body. -/
theorem eq_of_after?_slashes {line r : Text} (h : after? "//".toList (trimLeft line) = some r) :
    line = Text.indentation line ++ ("//".toList ++ (Text.indentation r ++ trimLeft r)) := by
  rw [Text.indentation_append_trimLeft, ← Text.eq_of_after? h, Text.indentation_append_trimLeft]

/-! ## The ADD form and its parts -/

/-- The key and position behind the word `ADD`. -/
def addTail? : Text → Option (Text × Position) :=
  behindBlanks (shortestKey positionTail?)

theorem ignoresEnd_addTail? : IgnoresEnd addTail? :=
  ignoresEnd_behindBlanks (ignoresEnd_shortestKey ignoresEnd_positionTail?)

theorem add?_eq (line : Text) :
    add? line = (((after? "//".toList (trimLeft line)).bind fun r =>
      (after? "ADD".toList (trimLeft r)).bind addTail?).map fun m => .add m.1 m.2) := by
  simp only [add?, commentBody?, addTail?]
  cases after? "//".toList (trimLeft line) with
  | none => rfl
  | some r =>
      simp only [Option.map_some, Option.bind_some, Option.bind_eq_bind]
      cases after? "ADD".toList (trimLeft r) with
      | none => rfl
      | some rest =>
          simp only [Option.bind_some]
          cases behindBlanks (shortestKey positionTail?) rest <;> rfl

/-- The marker that a START or END line makes of what stands behind the
slashes. -/
def blockTail? (body : Text) : Option Marker :=
  match after? "START OF".toList body with
  | some rest => (blockKey? rest).map .start
  | none => (after? "END OF".toList body).bind fun rest => (blockKey? rest).map .stop

theorem block?_eq (line : Text) :
    block? line = (after? "//".toList (trimLeft line)).bind fun r => blockTail? (trimLeft r) := by
  simp only [block?, commentBody?, blockTail?]
  cases after? "//".toList (trimLeft line) with
  | none => rfl
  | some r =>
      simp only [Option.map_some, Option.bind_some]
      cases after? "START OF".toList (trimLeft r) with
      | some rest => rfl
      | none => cases after? "END OF".toList (trimLeft r) <;> rfl

theorem ignoresEnd_blockKey? : IgnoresEnd blockKey? where
  nil := rfl
  behind t w hw := by
    cases t with
    | nil =>
        cases w with
        | nil => rfl
        | cons c r =>
            rw [Text.allBlank_cons_iff] at hw
            have hr : Text.trim r = [] := Text.trim_eq_nil_iff.2 hw.2
            simp [blockKey?, hw.1, hr]
    | cons c r => simp only [List.cons_append, blockKey?, Text.trim_append_blank r hw]

/-- The key behind the words of a START or END line, from its parts. -/
theorem blockKey?_eq_some_iff {rest key : Text} :
    blockKey? rest = some key ↔ key ≠ [] ∧ Text.trim key = key ∧ '\n' ∉ key ∧
      ∃ w w', allBlank w = true ∧ w ≠ [] ∧ allBlank w' = true ∧ rest = w ++ (key ++ w') := by
  cases rest with
  | nil =>
      refine iff_of_false (by simp [blockKey?]) ?_
      rintro ⟨-, -, -, w, w', -, hne, -, hrest⟩
      exact hne (List.append_eq_nil_iff.1 hrest.symm).1
  | cons c r =>
      constructor
      · intro h
        rw [blockKey?] at h
        split at h
        next hc =>
          simp only at h
          split at h
          next => exact absurd h (by simp)
          next hkey =>
            obtain rfl : Text.trim r = key := by simpa using h
            rw [Bool.or_eq_true, not_or, List.isEmpty_iff, List.contains_iff_mem] at hkey
            obtain ⟨w, w', hw, hw', hr⟩ := Text.exists_append_trim_append r
            refine ⟨hkey.1, Text.trim_trim r, hkey.2, c :: w, w', ?_, List.cons_ne_nil c w, hw', ?_⟩
            · rw [Text.allBlank_cons_iff]
              exact ⟨hc, hw⟩
            · rw [List.cons_append, ← hr]
        next => exact absurd h (by simp)
      · rintro ⟨hne, htrim, hnl, w, w', hw, hwne, hw', hrest⟩
        obtain ⟨d, u, rfl⟩ := List.exists_cons_of_ne_nil hwne
        obtain ⟨rfl, hr⟩ : c = d ∧ r = u ++ (key ++ w') := by simpa using hrest
        rw [Text.allBlank_cons_iff] at hw
        have hkey : Text.trim r = key := by
          rw [hr, Text.trim_blank_append hw.2, Text.trim_append_blank _ hw', htrim]
        have hkept : ¬ (key.isEmpty || key.contains '\n') = true := by
          rw [Bool.or_eq_true, not_or, List.isEmpty_iff, List.contains_iff_mem]
          exact ⟨hne, hnl⟩
        simp only [blockKey?, if_pos hw.1, hkey, if_neg hkept]

theorem ignoresEnd_blockTail? : IgnoresEnd blockTail? where
  nil := rfl
  behind t w hw := by
    have hstart := Text.after?_append_of_blank
      (show Text.trimRight "START OF".toList = "START OF".toList by decide) t hw
    have hstop := Text.after?_append_of_blank
      (show Text.trimRight "END OF".toList = "END OF".toList by decide) t hw
    simp only [blockTail?, hstart, hstop]
    cases after? "START OF".toList t with
    | some rest => simp only [Option.map_some, ignoresEnd_blockKey?.behind rest w hw]
    | none =>
        cases after? "END OF".toList t with
        | some rest =>
            simp only [Option.map_none, Option.map_some, Option.bind_some,
              ignoresEnd_blockKey?.behind rest w hw]
        | none => rfl

theorem exists_of_blockTail? {body : Text} {m : Marker} (h : blockTail? body = some m) :
    ∃ rest key, blockKey? rest = some key ∧
      (body = "START OF".toList ++ rest ∧ m = .start key ∨
        body = "END OF".toList ++ rest ∧ m = .stop key) := by
  rw [blockTail?] at h
  split at h
  next rest hrest =>
    obtain ⟨key, hkey, rfl⟩ := Option.map_eq_some_iff.1 h
    exact ⟨rest, key, hkey, .inl ⟨Text.eq_of_after? hrest, rfl⟩⟩
  next =>
    obtain ⟨rest, hrest, h⟩ := Option.bind_eq_some_iff.1 h
    obtain ⟨key, hkey, rfl⟩ := Option.map_eq_some_iff.1 h
    exact ⟨rest, key, hkey, .inr ⟨Text.eq_of_after? hrest, rfl⟩⟩

theorem ofLine?_eq (line : Text) : ofLine? line = (add? line).or (block? line) := by
  rw [ofLine?]
  cases add? line <;> rfl

/-- Blanks around a line do not change the marker on it. -/
theorem ignoresBlanks_ofLine? : IgnoresBlanks ofLine? := by
  have hadd : IgnoresEnd fun t => (after? "//".toList t).bind fun r =>
      (after? "ADD".toList (trimLeft r)).bind addTail? :=
    ((ignoresEnd_addTail?.after (by decide) (by decide)).trimLeft).after (by decide) (by decide)
  have hblock : IgnoresEnd fun t => (after? "//".toList t).bind fun r => blockTail? (trimLeft r) :=
    ignoresEnd_blockTail?.trimLeft.after (by decide) (by decide)
  have h := ((hadd.map fun m => Marker.add m.1 m.2).or hblock).ignoresBlanks
  have heq : ofLine? = fun line => _ := funext fun line => by
    rw [ofLine?_eq, add?_eq, block?_eq]
  rw [heq]
  exact h

theorem ofLine?_trim (line : Text) : ofLine? (Text.trim line) = ofLine? line :=
  ignoresBlanks_ofLine?.trim line

theorem block?_ne_add (line : Text) (key : Text) (p : Position) :
    block? line ≠ some (.add key p) := by
  rw [block?_eq]
  intro h
  obtain ⟨r, -, h⟩ := Option.bind_eq_some_iff.1 h
  obtain ⟨_, _, -, ⟨-, hm⟩ | ⟨-, hm⟩⟩ := exists_of_blockTail? h
  · exact absurd hm (by simp)
  · exact absurd hm (by simp)

theorem ofLine?_eq_some_add_iff {line key : Text} {p : Position} :
    ofLine? line = some (.add key p) ↔ add? line = some (.add key p) := by
  rw [ofLine?_eq]
  constructor
  · intro h
    cases ha : add? line with
    | some m => rw [ha] at h; exact h
    | none => rw [ha] at h; exact absurd h (block?_ne_add line key p)
  · intro h
    rw [h]
    rfl

theorem block?_of_ofLine? {line : Text} {m : Marker} (h : ofLine? line = some m)
    (hm : ∀ key p, m ≠ .add key p) : block? line = some m := by
  rw [ofLine?_eq] at h
  rcases Option.or_eq_some_iff.1 h with h | ⟨-, h⟩
  · rw [add?_eq] at h
    obtain ⟨_, -, rfl⟩ := Option.map_eq_some_iff.1 h
    exact absurd rfl (hm _ _)
  · exact h

/-- An ADD marker cut behind the word `ADD`. -/
theorem exists_addTail_of_add {line key : Text} {p : Position}
    (h : ofLine? line = some (.add key p)) :
    ∃ w0 w1 rest, allBlank w0 = true ∧ allBlank w1 = true ∧
      line = w0 ++ ("//".toList ++ (w1 ++ ("ADD".toList ++ rest))) ∧
      addTail? rest = some (key, p) := by
  rw [ofLine?_eq_some_add_iff, add?_eq] at h
  obtain ⟨⟨k, q⟩, hbody, heq⟩ := Option.map_eq_some_iff.1 h
  obtain ⟨rfl, rfl⟩ : k = key ∧ q = p := by simpa using heq
  obtain ⟨r, hslash, hrest⟩ := Option.bind_eq_some_iff.1 hbody
  obtain ⟨rest, hadd, htail⟩ := Option.bind_eq_some_iff.1 hrest
  refine ⟨Text.indentation line, Text.indentation r, rest, Text.allBlank_indentation line,
    Text.allBlank_indentation r, ?_, htail⟩
  rw [← Text.eq_of_after? hadd]
  exact eq_of_after?_slashes hslash

/-- The parts of what stands behind the word `ADD`. -/
theorem exists_parts_of_addTail? {rest key : Text} {p : Position}
    (h : addTail? rest = some (key, p)) :
    ∃ w2 w3 w4, allBlank w2 = true ∧ w2 ≠ [] ∧ allBlank w3 = true ∧ w3 ≠ [] ∧
      allBlank w4 = true ∧ key ≠ [] ∧ '\n' ∉ key ∧
      rest = w2 ++ (key ++ (w3 ++ (p.word ++ w4))) := by
  obtain ⟨w2, s, hw2, hne2, rfl, hs⟩ := exists_append_of_behindBlanks h
  obtain ⟨tail, rfl, hpos, hkey, hnl⟩ := exists_append_of_shortestKey hs
  obtain ⟨w3, w4, hw3, hne3, hw4, rfl⟩ := exists_parts_of_positionTail? hpos
  exact ⟨w2, w3, w4, hw2, hne2, hw3, hne3, hw4, hkey, hnl, rfl⟩

/-- The parts of an ADD marker. -/
theorem exists_parts_of_add {line key : Text} {p : Position}
    (h : ofLine? line = some (.add key p)) :
    ∃ w0 w1 w2 w3 w4, allBlank w0 = true ∧ allBlank w1 = true ∧ allBlank w2 = true ∧ w2 ≠ [] ∧
      allBlank w3 = true ∧ w3 ≠ [] ∧ allBlank w4 = true ∧ key ≠ [] ∧ '\n' ∉ key ∧
      line = w0 ++ ("//".toList ++ (w1 ++ ("ADD".toList ++
        (w2 ++ (key ++ (w3 ++ (p.word ++ w4))))))) := by
  obtain ⟨w0, w1, rest, hw0, hw1, rfl, htail⟩ := exists_addTail_of_add h
  obtain ⟨w2, w3, w4, hw2, hne2, hw3, hne3, hw4, hkey, hnl, rfl⟩ := exists_parts_of_addTail? htail
  exact ⟨w0, w1, w2, w3, w4, hw0, hw1, hw2, hne2, hw3, hne3, hw4, hkey, hnl, rfl⟩

theorem add?_append {w0 w1 : Text} (hw0 : allBlank w0 = true) (hw1 : allBlank w1 = true)
    (r : Text) :
    add? (w0 ++ ("//".toList ++ (w1 ++ ("ADD".toList ++ r)))) =
      (addTail? r).map fun m => .add m.1 m.2 := by
  have hadd : ∀ t, trimLeft ("ADD".toList ++ t) = "ADD".toList ++ t :=
    fun t => Text.trimLeft_append_of_ink (t := "ADD".toList) (by decide) t
  rw [add?_eq, after?_slashes hw0, Option.bind_some, Text.trimLeft_append_of_blank hw1, hadd,
    Text.after?_append, Option.bind_some]

/-- A text put together from the parts of an ADD marker is some ADD marker,
though the key that is read may be another one. -/
theorem exists_add_of_parts {w0 w1 w2 key w3 w4 : Text} (hw0 : allBlank w0 = true)
    (hw1 : allBlank w1 = true) (hw2 : allBlank w2 = true) (hne2 : w2 ≠ [])
    (hkey : key ≠ []) (hnl : '\n' ∉ key) (hw3 : allBlank w3 = true) (hne3 : w3 ≠ [])
    (p : Position) (hw4 : allBlank w4 = true) :
    ∃ key' p', ofLine? (w0 ++ ("//".toList ++ (w1 ++ ("ADD".toList ++
      (w2 ++ (key ++ (w3 ++ (p.word ++ w4)))))))) = some (.add key' p') := by
  have htail : (addTail? (w2 ++ (key ++ (w3 ++ (p.word ++ w4))))).isSome := by
    refine behindBlanks_isSome hw2 hne2 (shortestKey_isSome hkey hnl ?_)
    rw [positionTail?_parts hw3 hne3 hw4]
    rfl
  obtain ⟨⟨key', p'⟩, hm⟩ := Option.isSome_iff_exists.1 htail
  refine ⟨key', p', ofLine?_eq_some_add_iff.2 ?_⟩
  rw [add?_append hw0 hw1, hm]
  rfl

/-! ## The words of an ADD marker -/

/-- The words of an ADD marker, with or without blanks behind the slashes, for
the words of a key. -/
def AddWords (ws : List Text) : Prop :=
  ∃ (ks : List Text) (p : Position), ks ≠ [] ∧
    (ws = "//ADD".toList :: (ks ++ [p.word]) ∨ ws = "//".toList :: "ADD".toList :: (ks ++ [p.word]))

theorem addWords_of_add {line key : Text} {p : Position}
    (h : ofLine? line = some (.add key p)) (hkey : allBlank key = false) :
    AddWords (words line) := by
  obtain ⟨w0, w1, w2, w3, w4, hw0, hw1, hw2, hne2, hw3, hne3, hw4, -, -, rfl⟩ :=
    exists_parts_of_add h
  have hkeys : words key ≠ [] := by
    rw [ne_eq, Text.words_eq_nil_iff, hkey]
    exact Bool.false_ne_true
  have hrest : words (key ++ (w3 ++ (p.word ++ w4))) = words key ++ [p.word] := by
    rw [Text.words_append_of_blank key hw3 hne3, Text.ignoresBlanks_words.behind _ _ hw4,
      Text.words_of_isWord (isWord_word p)]
  refine ⟨words key, p, hkeys, ?_⟩
  rw [Text.ignoresBlanks_words.before _ _ hw0]
  by_cases hne1 : w1 = []
  · left
    rw [hne1, List.nil_append, ← List.append_assoc, Text.words_append_of_blank _ hw2 hne2, hrest]
    rfl
  · right
    rw [Text.words_append_of_blank _ hw1 hne1, Text.words_append_of_blank _ hw2 hne2, hrest]
    rfl

/-- A text whose words begin with `w`, cut behind it. -/
theorem exists_append_of_words_cons {t w : Text} {ws : List Text} (h : words t = w :: ws) :
    ∃ b r, allBlank b = true ∧ t = b ++ (w ++ r) ∧ words r = ws ∧
      ∀ c s, r = c :: s → Text.isBlank c = true := by
  induction t generalizing w ws with
  | nil => exact absurd h (by simp [Text.words_nil])
  | cons c t ih =>
      cases hc : Text.isBlank c with
      | true =>
          rw [Text.words_cons_of_blank hc] at h
          obtain ⟨b, r, hb, rfl, hr, hhead⟩ := ih h
          refine ⟨c :: b, r, ?_, rfl, hr, hhead⟩
          rw [Text.allBlank_cons, hc, Bool.true_and]
          exact hb
      | false =>
          cases t with
          | nil =>
              rw [Text.words_singleton hc, List.cons.injEq] at h
              obtain ⟨rfl, rfl⟩ := h
              exact ⟨[], [], rfl, rfl, rfl, fun _ _ hr => absurd hr (by simp)⟩
          | cons d s =>
              cases hd : Text.isBlank d with
              | true =>
                  rw [Text.words_ink_blank hc hd, List.cons.injEq] at h
                  obtain ⟨rfl, rfl⟩ := h
                  refine ⟨[], d :: s, rfl, rfl, Text.words_cons_of_blank hd s, ?_⟩
                  rintro e u heq
                  obtain ⟨rfl, -⟩ := List.cons.inj heq
                  exact hd
              | false =>
                  rw [Text.words_ink_ink hc hd] at h
                  obtain ⟨v, vs, hvs⟩ :=
                    List.exists_cons_of_ne_nil (Text.words_cons_ne_nil hd s)
                  obtain ⟨b, r, hb, ht, hr, hhead⟩ := ih hvs
                  -- no blank stands before the word that goes on
                  have hbnil : b = [] := by
                    cases b with
                    | nil => rfl
                    | cons e u =>
                        obtain ⟨rfl, -⟩ := List.cons.inj ht
                        rw [Text.allBlank_cons, hd] at hb
                        exact absurd hb (by simp)
                  rw [hvs, Text.pushFirst, List.cons.injEq] at h
                  obtain ⟨rfl, rfl⟩ := h
                  refine ⟨[], r, rfl, ?_, hr, hhead⟩
                  rw [ht, hbnil]
                  rfl

/-- A text whose words end with `w`, cut before it. -/
theorem exists_append_of_words_concat {t w : Text} {ws : List Text} (h : words t = ws ++ [w]) :
    ∃ r b, allBlank b = true ∧ t = r ++ (w ++ b) ∧ words r = ws ∧
      ∀ s c, r = s ++ [c] → Text.isBlank c = true := by
  induction ws generalizing t with
  | nil =>
      obtain ⟨b, r, hb, rfl, hr, -⟩ := exists_append_of_words_cons h
      refine ⟨b, r, Text.words_eq_nil_iff.1 hr, rfl, Text.words_of_blank hb, ?_⟩
      rintro s c rfl
      exact Text.allBlank_iff.1 hb c (by simp)
  | cons v vs ih =>
      obtain ⟨b, r, hb, rfl, hr, hhead⟩ := exists_append_of_words_cons h
      obtain ⟨r', b', hb', rfl, hr', hlast⟩ := ih hr
      have hw : Text.IsWord w := Text.isWord_of_mem_words (t := r' ++ (w ++ b')) (by rw [hr]; simp)
      -- a blank parts the words, so what lies between them is not empty
      cases r' with
      | nil =>
          obtain ⟨c, s, rfl⟩ := List.exists_cons_of_ne_nil hw.ne_nil
          have := hhead c _ rfl
          rw [hw.ink c List.mem_cons_self] at this
          exact absurd this Bool.false_ne_true
      | cons c s =>
          have hc : Text.isBlank c = true := hhead c _ rfl
          refine ⟨b ++ (v ++ c :: s), b', hb', by simp, ?_, ?_⟩
          · have hv : Text.IsWord v := Text.isWord_of_mem_words
              (t := b ++ (v ++ (c :: s ++ (w ++ b')))) (by rw [h]; simp)
            rw [Text.ignoresBlanks_words.before _ _ hb, Text.words_append_blank_cons v hc,
              Text.words_of_isWord hv, ← Text.words_cons_of_blank hc, hr', List.singleton_append]
          · intro u d hu
            obtain ⟨u', d', hud⟩ : ∃ u' d', c :: s = u' ++ [d'] :=
              ⟨_, _, (List.dropLast_concat_getLast (List.cons_ne_nil c s)).symm⟩
            rw [hud, ← List.append_assoc, ← List.append_assoc] at hu
            obtain ⟨-, hd⟩ := List.append_inj' hu rfl
            obtain ⟨rfl, -⟩ := List.cons.inj hd
            exact hlast u' d' hud

/-- What stands behind the word `ADD` in a line with the words of a marker. -/
theorem exists_addTail_of_words {r : Text} {ks : List Text} {p : Position} (hks : ks ≠ [])
    (hr : words r = ks ++ [p.word]) (hhead : ∀ c s, r = c :: s → Text.isBlank c = true) :
    ∃ w2 key w3 w4, allBlank w2 = true ∧ w2 ≠ [] ∧ key ≠ [] ∧ allBlank w3 = true ∧ w3 ≠ [] ∧
      allBlank w4 = true ∧ r = w2 ++ (key ++ (w3 ++ (p.word ++ w4))) := by
  obtain ⟨r', w4, hw4, rfl, hr', hlast⟩ := exists_append_of_words_concat hr
  have hink : allBlank r' = false := by
    cases h : allBlank r' with
    | false => rfl
    | true => exact absurd (hr'.symm.trans (Text.words_of_blank h)) hks
  -- a blank at either end, and the key is what lies between the two
  cases r' with
  | nil => exact absurd hink (by decide)
  | cons c s =>
      have hc : Text.isBlank c = true := hhead c _ rfl
      have hs : s ≠ [] := by
        rintro rfl
        rw [Text.allBlank_cons, hc] at hink
        exact absurd hink (by decide)
      have hd : Text.isBlank (s.getLast hs) = true := by
        refine hlast (c :: s.dropLast) _ ?_
        rw [List.cons_append, List.dropLast_concat_getLast]
      have hkey : s.dropLast ≠ [] := by
        intro hnil
        have hsingle : s = [s.getLast hs] := by
          conv => lhs; rw [← List.dropLast_concat_getLast hs, hnil, List.nil_append]
        rw [hsingle, Text.allBlank_cons, Text.allBlank_cons, hc, hd] at hink
        exact absurd hink (by decide)
      refine ⟨[c], s.dropLast, [s.getLast hs], w4, by simp [Text.allBlank, hc],
        List.cons_ne_nil c [], hkey, by simp [Text.allBlank, hd], List.cons_ne_nil _ [], hw4, ?_⟩
      rw [List.singleton_append, List.cons_append, ← List.append_assoc s.dropLast,
        List.dropLast_concat_getLast]

theorem exists_add_of_tail_words {w0 w1 r : Text} {ks : List Text} {p : Position}
    (hw0 : allBlank w0 = true) (hw1 : allBlank w1 = true) (hnl : '\n' ∉ r) (hks : ks ≠ [])
    (hr : words r = ks ++ [p.word]) (hhead : ∀ c s, r = c :: s → Text.isBlank c = true) :
    ∃ key p', ofLine? (w0 ++ ("//".toList ++ (w1 ++ ("ADD".toList ++ r)))) =
      some (.add key p') := by
  obtain ⟨w2, key, w3, w4, hw2, hne2, hkey, hw3, hne3, hw4, rfl⟩ :=
    exists_addTail_of_words hks hr hhead
  have hnlkey : '\n' ∉ key := by
    intro hm
    exact hnl (by simp [hm])
  exact exists_add_of_parts hw0 hw1 hw2 hne2 hkey hnlkey hw3 hne3 p hw4

/-- A line with the words of an ADD marker is an ADD marker. -/
theorem exists_add_of_words {line : Text} (hnl : '\n' ∉ line) (h : AddWords (words line)) :
    ∃ key p, ofLine? line = some (.add key p) := by
  obtain ⟨ks, p, hks, h | h⟩ := h
  · obtain ⟨w0, r, hw0, rfl, hr, hhead⟩ := exists_append_of_words_cons h
    have hnlr : '\n' ∉ r := by
      intro hm
      exact hnl (by simp [hm])
    exact exists_add_of_tail_words hw0 (show allBlank [] = true from rfl) hnlr hks hr hhead
  · obtain ⟨w0, r1, hw0, rfl, hr1, -⟩ := exists_append_of_words_cons h
    obtain ⟨w1, r, hw1, rfl, hr, hhead⟩ := exists_append_of_words_cons hr1
    have hnlr : '\n' ∉ r := by
      intro hm
      exact hnl (by simp [hm])
    exact exists_add_of_tail_words hw0 hw1 hnlr hks hr hhead

/-- No line that is not a marker collapses to the same text as an ADD marker
with a key that is no blank. -/
theorem collapse_ne_of_add {line line' key : Text} {p : Position}
    (hline : ofLine? line = some (.add key p)) (hkey : allBlank key = false)
    (hnl : '\n' ∉ line') (hnone : ofLine? line' = none) :
    Text.collapse line' ≠ Text.collapse line := by
  intro heq
  have hwords : AddWords (words line') := by
    rw [Text.collapse_eq_iff.1 heq]
    exact addWords_of_add hline hkey
  obtain ⟨k, q, h⟩ := exists_add_of_words hnl hwords
  rw [hnone] at h
  exact absurd h (by simp)

/-- A marker that was written can be read. -/
theorem exists_add_of_addLine {indent key : Text} (hindent : allBlank indent = true)
    (hkey : key ≠ []) (hnl : '\n' ∉ key) (p : Position) :
    ∃ key' p', ofLine? (addLine indent key p) = some (.add key' p') := by
  have hspace : allBlank [' '] = true := by decide
  have hne : [' '] ≠ [] := List.cons_ne_nil ' ' []
  have h := exists_add_of_parts hindent hspace hspace hne hkey hnl hspace hne p
    (show allBlank [] = true from rfl)
  simpa [addLine] using h

end Scaffold.Marker
