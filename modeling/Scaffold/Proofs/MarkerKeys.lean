/-
# Keys are read as they were written

An ADD marker that is put together from its parts is read with exactly its key
if there are no blanks around the key (`ofLine?_add_parts`): all blanks in front
of the key are passed, and no shorter key will do, since what is left of the key
behind it would have to be blank.  So it does not matter what words the key
holds, be they position words.

A key that was read has no blanks around it (`trim_of_start`, `trim_of_add`),
unless it is the key of an ADD marker and nothing but blanks.
-/
import Scaffold.Proofs.PlainSnippets

namespace Scaffold

namespace Marker

open Text (allBlank trimLeft after? words)

/-! ## The search for a key -/

section Search

variable {α : Type} {next : Text → Option α} {a : α}

/-- The longest run of blanks is tried first. -/
theorem behindBlanks_append {w r : Text} (hw : allBlank w = true) (hne : w ≠ [])
    (hr : behindBlanks next r = none) (h : next r = some a) :
    behindBlanks next (w ++ r) = some a := by
  induction w with
  | nil => exact absurd rfl hne
  | cons c v ih =>
      rw [Text.allBlank_cons_iff] at hw
      rw [List.cons_append, behindBlanks, if_pos hw.1]
      cases v with
      | nil => rw [List.nil_append, hr, h]
      | cons d u => rw [ih hw.2 (List.cons_ne_nil d u)]

/-- The whole key is read if no shorter one will do. -/
theorem shortestKey_append {key tail : Text} (hne : key ≠ []) (hnl : '\n' ∉ key)
    (h : next tail = some a)
    (hshorter : ∀ u v, key = u ++ v → u ≠ [] → v ≠ [] → next (v ++ tail) = none) :
    shortestKey next (key ++ tail) = some (key, a) := by
  induction key with
  | nil => exact absurd rfl hne
  | cons c k ih =>
      rw [List.mem_cons, not_or] at hnl
      have hc : ¬ (c == '\n') = true := by
        intro hn
        exact hnl.1 (eq_of_beq hn).symm
      rw [List.cons_append, shortestKey, if_neg hc]
      cases k with
      | nil => rw [List.nil_append, h]
      | cons d s =>
          have hrest : shortestKey next (d :: s ++ tail) = some (d :: s, a) := by
            refine ih (List.cons_ne_nil d s) hnl.2 ?_
            intro u v hk _ hv
            exact hshorter (c :: u) v (by rw [hk]; rfl) (List.cons_ne_nil c u) hv
          rw [hshorter [c] (d :: s) rfl (List.cons_ne_nil c []) (List.cons_ne_nil d s), hrest]
          rfl

end Search

/-- What is not blank in front of a tail keeps it from being one. -/
theorem positionTail?_of_ink {v w3 w4 : Text} {p : Position} (hv : allBlank v = false)
    (hw3 : allBlank w3 = true) (hne3 : w3 ≠ []) (hw4 : allBlank w4 = true) :
    positionTail? (v ++ (w3 ++ (p.word ++ w4))) = none := by
  cases h : positionTail? (v ++ (w3 ++ (p.word ++ w4))) with
  | none => rfl
  | some q =>
      obtain ⟨w, w', hw, -, hw', heq⟩ := exists_parts_of_positionTail? h
      have hwords := congrArg words heq
      rw [Text.words_append_of_blank v hw3 hne3, Text.ignoresBlanks_words.behind _ _ hw4,
        Text.words_of_isWord (isWord_word p), Text.ignoresBlanks_words.before _ _ hw,
        Text.ignoresBlanks_words.behind _ _ hw', Text.words_of_isWord (isWord_word q)] at hwords
      have hnone : words v = [] := by
        have hlength := congrArg List.length hwords
        rw [List.length_append] at hlength
        exact List.length_eq_zero_iff.1 (Nat.succ.inj hlength)
      rw [Text.words_eq_nil_iff.1 hnone] at hv
      exact absurd hv (by simp)

/-! ## START lines -/

theorem trim_of_start {line key : Text} (h : ofLine? line = some (.start key)) :
    Text.trim key = key := by
  obtain ⟨rest, hrest⟩ := exists_blockKey?_of_start h
  exact (blockKey?_eq_some_iff.1 hrest).2.1

/-! ## ADD markers -/

/-- A text put together from the parts of an ADD marker, the key without blanks
around it, is the ADD marker with this key. -/
theorem ofLine?_add_parts {w0 w1 w2 key w3 w4 : Text} (hw0 : allBlank w0 = true)
    (hw1 : allBlank w1 = true) (hw2 : allBlank w2 = true) (hne2 : w2 ≠ [])
    (hkey : key ≠ []) (htrim : Text.trim key = key) (hnl : '\n' ∉ key)
    (hw3 : allBlank w3 = true) (hne3 : w3 ≠ []) (p : Position) (hw4 : allBlank w4 = true) :
    ofLine? (w0 ++ ("//".toList ++ (w1 ++ ("ADD".toList ++
      (w2 ++ (key ++ (w3 ++ (p.word ++ w4)))))))) = some (.add key p) := by
  have htail : addTail? (w2 ++ (key ++ (w3 ++ (p.word ++ w4)))) = some (key, p) := by
    refine behindBlanks_append hw2 hne2 ?_ (shortestKey_append hkey hnl ?_ ?_)
    · obtain ⟨c, k, rfl⟩ := List.exists_cons_of_ne_nil hkey
      have hc := Text.allBlank_before_of_trim (u := [c]) htrim (List.cons_ne_nil c [])
      rw [List.cons_append, behindBlanks, if_neg (by simpa [allBlank] using hc)]
    · exact positionTail?_parts hw3 hne3 hw4 p
    · rintro u v rfl - hv
      exact positionTail?_of_ink (Text.allBlank_behind_of_trim htrim hv) hw3 hne3 hw4
  rw [ofLine?_eq_some_add_iff, add?_append hw0 hw1, htail]
  rfl

/-- A marker that was written is read with its key. -/
theorem ofLine?_addLine {indent key : Text} (hindent : allBlank indent = true) (hkey : key ≠ [])
    (htrim : Text.trim key = key) (hnl : '\n' ∉ key) (p : Position) :
    ofLine? (addLine indent key p) = some (.add key p) := by
  have hspace : allBlank [' '] = true := by decide
  have hne : [' '] ≠ [] := List.cons_ne_nil ' ' []
  have h := ofLine?_add_parts hindent hspace hspace hne hkey htrim hnl hspace hne p
    (show allBlank [] = true from rfl)
  simpa [addLine] using h

/-- A key that was read has no blanks around it, unless it has nothing else. -/
theorem trim_of_add {line key : Text} {p : Position} (h : ofLine? line = some (.add key p))
    (hink : allBlank key = false) : Text.trim key = key := by
  obtain ⟨w0, w1, w2, w3, w4, hw0, hw1, hw2, hne2, hw3, hne3, hw4, -, hnl, rfl⟩ :=
    exists_parts_of_add h
  obtain ⟨b, b', hb, hb', hkey⟩ := Text.exists_append_trim_append key
  have hne : Text.trim key ≠ [] := by
    intro hnil
    rw [Text.trim_eq_nil_iff.1 hnil] at hink
    exact absurd hink (by simp)
  have hnl' : '\n' ∉ Text.trim key := by
    intro hm
    rw [hkey] at hnl
    exact hnl (by simp [hm])
  -- the blanks around the key could as well belong to the parts beside it
  have hread : ofLine? (w0 ++ ("//".toList ++ (w1 ++ ("ADD".toList ++
      ((w2 ++ b) ++ (Text.trim key ++ ((b' ++ w3) ++ (p.word ++ w4)))))))) =
        some (.add (Text.trim key) p) :=
    ofLine?_add_parts hw0 hw1 (by simp [hw2, hb]) (by simp [hne2]) hne (Text.trim_trim key) hnl'
      (by simp [hw3, hb']) (by simp [hne3]) p hw4
  have hsame : (w2 ++ b) ++ (Text.trim key ++ ((b' ++ w3) ++ (p.word ++ w4))) =
      w2 ++ (key ++ (w3 ++ (p.word ++ w4))) := by
    conv => rhs; rw [hkey]
    simp only [List.append_assoc]
  rw [hsame, h] at hread
  simpa using hread.symm

end Marker

end Scaffold
