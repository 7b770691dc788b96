/-
# Words and collapsed texts

Two lines are compared by their words.  A blank is where words end, so a text
cut at a blank has the words of its two sides (`words_append_blank_cons`); from
this follow the words of every spaced-out text.  Collapsing loses nothing but
spacing: it gives back the same words (`words_collapse`), so two texts collapse
to the same text exactly if their words are the same (`collapse_eq_iff`).
-/
import Scaffold.Proofs.Blanks

namespace Scaffold.Text

/-! ## Cutting at a blank -/

theorem words_nil : words [] = [] := rfl

theorem words_cons_of_blank {c : Char} (hc : isBlank c = true) (t : Text) :
    words (c :: t) = words t := by
  cases t with
  | nil => simp [words, runs, hc]
  | cons d r => simp [words, runs, hc]

theorem words_singleton {c : Char} (hc : isBlank c = false) : words [c] = [[c]] := by
  simp [words, runs, hc]

theorem words_ink_blank {c d : Char} (hc : isBlank c = false) (hd : isBlank d = true) (t : Text) :
    words (c :: d :: t) = [c] :: words t := by
  rw [← words_cons_of_blank hd t]
  simp [words, runs, hc, hd]

theorem words_ink_ink {c d : Char} (hc : isBlank c = false) (hd : isBlank d = false) (t : Text) :
    words (c :: d :: t) = pushFirst c (words (d :: t)) := by
  simp [words, runs, hc, hd]

theorem pushFirst_ne_nil (c : Char) (ws : List Text) : pushFirst c ws ≠ [] := by
  cases ws <;> simp [pushFirst]

theorem pushFirst_append (c : Char) {ws : List Text} (h : ws ≠ []) (vs : List Text) :
    pushFirst c (ws ++ vs) = pushFirst c ws ++ vs := by
  cases ws with
  | nil => exact absurd rfl h
  | cons w r => rfl

theorem words_cons_ne_nil {c : Char} (hc : isBlank c = false) (t : Text) :
    words (c :: t) ≠ [] := by
  cases t with
  | nil => simp [words_singleton hc]
  | cons d r =>
      cases hd : isBlank d with
      | true => simp [words_ink_blank hc hd]
      | false => rw [words_ink_ink hc hd]; exact pushFirst_ne_nil _ _

theorem words_append_blank_cons (a : Text) {c : Char} (hc : isBlank c = true) (b : Text) :
    words (a ++ c :: b) = words a ++ words b := by
  induction a with
  | nil => exact words_cons_of_blank hc b
  | cons x r ih =>
      cases hx : isBlank x with
      | true =>
          rw [List.cons_append, words_cons_of_blank hx, ih, words_cons_of_blank hx]
      | false =>
          cases r with
          | nil =>
              rw [List.cons_append, List.nil_append, words_ink_blank hx hc, words_singleton hx]
              rfl
          | cons y s =>
              simp only [List.cons_append] at ih ⊢
              cases hy : isBlank y with
              | true =>
                  rw [words_cons_of_blank hy, words_cons_of_blank hy] at ih
                  rw [words_ink_blank hx hy, words_ink_blank hx hy, ih, List.cons_append]
              | false =>
                  rw [words_ink_ink hx hy, words_ink_ink hx hy, ih,
                    pushFirst_append x (words_cons_ne_nil hy s)]

theorem words_of_blank {w : Text} (hw : allBlank w = true) : words w = [] := by
  induction w with
  | nil => rfl
  | cons c r ih =>
      rw [allBlank_cons_iff] at hw
      rw [words_cons_of_blank hw.1, ih hw.2]

theorem words_eq_nil_iff {t : Text} : words t = [] ↔ allBlank t = true := by
  refine ⟨?_, words_of_blank⟩
  intro h
  induction t with
  | nil => rfl
  | cons c r ih =>
      cases hc : isBlank c with
      | true =>
          rw [words_cons_of_blank hc] at h
          simpa [allBlank, hc] using ih h
      | false => exact absurd h (words_cons_ne_nil hc r)

theorem ignoresBlanks_words : IgnoresBlanks words where
  before w t hw := by
    induction w with
    | nil => rfl
    | cons c r ih =>
        rw [allBlank_cons_iff] at hw
        rw [List.cons_append, words_cons_of_blank hw.1, ih hw.2]
  behind t w hw := by
    cases w with
    | nil => rw [List.append_nil]
    | cons c r =>
        rw [allBlank_cons_iff] at hw
        rw [words_append_blank_cons t hw.1, words_of_blank hw.2, List.append_nil]

/-- Blanks between two texts part their words. -/
theorem words_append_of_blank (a : Text) {w : Text} (hw : allBlank w = true) (hne : w ≠ [])
    (b : Text) : words (a ++ (w ++ b)) = words a ++ words b := by
  cases w with
  | nil => exact absurd rfl hne
  | cons c r =>
      rw [allBlank_cons_iff] at hw
      rw [List.cons_append, words_append_blank_cons a hw.1, ignoresBlanks_words.before r b hw.2]

/-! ## Single words -/

/-- A text of one character or more and without blanks. -/
structure IsWord (w : Text) : Prop where
  ne_nil : w ≠ []
  ink : ∀ c ∈ w, isBlank c = false

theorem IsWord.not_allBlank {w : Text} (h : IsWord w) : allBlank w = false := by
  obtain ⟨c, r, rfl⟩ := List.exists_cons_of_ne_nil h.ne_nil
  exact allBlank_eq_false_iff.2 ⟨c, List.mem_cons_self, h.ink c List.mem_cons_self⟩

theorem IsWord.cons {c : Char} (hc : isBlank c = false) {w : Text}
    (h : ∀ d ∈ w, isBlank d = false) : IsWord (c :: w) where
  ne_nil := List.cons_ne_nil c w
  ink d hd := by
    rcases List.mem_cons.1 hd with rfl | hd
    · exact hc
    · exact h d hd

theorem words_of_isWord {w : Text} (h : IsWord w) : words w = [w] := by
  obtain ⟨hne, hink⟩ := h
  induction w with
  | nil => exact absurd rfl hne
  | cons c r ih =>
      have hc : isBlank c = false := hink c List.mem_cons_self
      cases r with
      | nil => exact words_singleton hc
      | cons d s =>
          have hr : ∀ e ∈ d :: s, isBlank e = false := by
            intro e he
            exact hink e (List.mem_cons_of_mem _ he)
          rw [words_ink_ink hc (hr d List.mem_cons_self), ih (List.cons_ne_nil d s) hr]
          rfl

theorem isWord_of_mem_words {t w : Text} (h : w ∈ words t) : IsWord w := by
  induction t generalizing w with
  | nil => exact absurd h List.not_mem_nil
  | cons c r ih =>
      cases hc : isBlank c with
      | true => rw [words_cons_of_blank hc] at h; exact ih h
      | false =>
          have hsingle : IsWord [c] := .cons hc (fun _ hd => absurd hd List.not_mem_nil)
          cases r with
          | nil =>
              rw [words_singleton hc, List.mem_singleton] at h
              exact h ▸ hsingle
          | cons d s =>
              cases hd : isBlank d with
              | true =>
                  rw [words_ink_blank hc hd] at h
                  rw [words_cons_of_blank hd] at ih
                  rcases List.mem_cons.1 h with rfl | h
                  · exact hsingle
                  · exact ih h
              | false =>
                  rw [words_ink_ink hc hd] at h
                  obtain ⟨v, vs, hvs⟩ := List.exists_cons_of_ne_nil (words_cons_ne_nil hd s)
                  rw [hvs] at h ih
                  rcases List.mem_cons.1 h with rfl | h
                  · exact .cons hc (ih List.mem_cons_self).ink
                  · exact ih (List.mem_cons_of_mem _ h)

/-! ## Collapsing -/

theorem words_intercalate_space {ws : List Text} (h : ∀ w ∈ ws, IsWord w) :
    words (List.intercalate [' '] ws) = ws := by
  induction ws with
  | nil => rfl
  | cons w r ih =>
      have hw : words w = [w] := words_of_isWord (h w List.mem_cons_self)
      have hr : ∀ v ∈ r, IsWord v := by
        intro v hv
        exact h v (List.mem_cons_of_mem _ hv)
      cases r with
      | nil => rw [List.intercalate_singleton, hw]
      | cons v s =>
          rw [List.intercalate_cons_cons, List.append_assoc, List.singleton_append,
            words_append_blank_cons w (by decide), hw, ih hr, List.singleton_append]

theorem mem_intercalate_space {ws : List Text} (h : ∀ w ∈ ws, IsWord w) {c : Char}
    (hc : c ∈ List.intercalate [' '] ws) : c = ' ' ∨ isBlank c = false := by
  induction ws with
  | nil => exact absurd hc List.not_mem_nil
  | cons w r ih =>
      rw [List.forall_mem_cons] at h
      cases r with
      | nil =>
          rw [List.intercalate_singleton] at hc
          exact .inr (h.1.ink c hc)
      | cons v s =>
          rw [List.intercalate_cons_cons, List.append_assoc, List.mem_append,
            List.singleton_append, List.mem_cons] at hc
          rcases hc with hc | rfl | hc
          · exact .inr (h.1.ink c hc)
          · exact .inl rfl
          · exact ih h.2 hc

theorem exists_concat_intercalate {ws : List Text} (h : ∀ w ∈ ws, IsWord w) (hne : ws ≠ []) :
    ∃ s c, List.intercalate [' '] ws = s ++ [c] ∧ isBlank c = false := by
  induction ws with
  | nil => exact absurd rfl hne
  | cons w r ih =>
      rw [List.forall_mem_cons] at h
      cases r with
      | nil =>
          obtain ⟨s, c, rfl⟩ := (List.eq_nil_or_concat w).resolve_left h.1.ne_nil
          exact ⟨s, c, by simp [List.intercalate_singleton], h.1.ink c (by simp)⟩
      | cons v r' =>
          obtain ⟨s, c, hs, hc⟩ := ih h.2 (List.cons_ne_nil v r')
          refine ⟨w ++ ' ' :: s, c, ?_, hc⟩
          rw [List.intercalate_cons_cons, hs]
          simp

theorem words_collapse (t : Text) : words (collapse t) = words t :=
  words_intercalate_space fun _ => isWord_of_mem_words

theorem collapse_eq_iff {t u : Text} : collapse t = collapse u ↔ words t = words u := by
  constructor
  · intro h
    rw [← words_collapse t, h, words_collapse]
  · intro h
    rw [collapse, h, collapse]

theorem ignoresBlanks_collapse : IgnoresBlanks collapse where
  before w t hw := collapse_eq_iff.2 (ignoresBlanks_words.before w t hw)
  behind t w hw := collapse_eq_iff.2 (ignoresBlanks_words.behind t w hw)

theorem collapse_eq_nil_iff {t : Text} : collapse t = [] ↔ allBlank t = true := by
  rw [← words_eq_nil_iff]
  constructor
  · intro h
    rw [← words_collapse, h, words_nil]
  · intro h
    rw [collapse, h]
    rfl

/-! ## What a collapsed text is made of -/

/-- The only blanks of a collapsed text are spaces. -/
theorem mem_collapse {t : Text} {c : Char} (h : c ∈ collapse t) : c = ' ' ∨ isBlank c = false :=
  mem_intercalate_space (fun _ => isWord_of_mem_words) h

theorem exists_cons_collapse {t : Text} (h : collapse t ≠ []) :
    ∃ c s, collapse t = c :: s ∧ isBlank c = false := by
  cases hwords : words t with
  | nil => exact absurd (by rw [collapse, hwords]; rfl) h
  | cons w r =>
      have hw : IsWord w := isWord_of_mem_words (hwords ▸ List.mem_cons_self)
      obtain ⟨c, v, rfl⟩ := List.exists_cons_of_ne_nil hw.ne_nil
      rw [collapse, hwords]
      cases r with
      | nil => exact ⟨c, v, List.intercalate_singleton, hw.ink c List.mem_cons_self⟩
      | cons w' s => exact ⟨c, _, List.intercalate_cons_cons, hw.ink c List.mem_cons_self⟩

theorem exists_concat_collapse {t : Text} (h : collapse t ≠ []) :
    ∃ s c, collapse t = s ++ [c] ∧ isBlank c = false := by
  refine exists_concat_intercalate (fun _ => isWord_of_mem_words) ?_
  intro hnil
  exact h (by rw [collapse, hnil]; rfl)

theorem trimRight_of_isWord {w : Text} (h : IsWord w) : trimRight w = w := by
  obtain ⟨s, c, rfl⟩ := (List.eq_nil_or_concat w).resolve_left h.ne_nil
  have hc : isBlank c = false := h.ink c (by simp)
  rw [List.concat_eq_append, trimRight_append_of_ink s (by simp [allBlank, hc])]
  simp [trimRight, hc]

theorem map_intercalate_space {f : Char → Char} (hf : f ' ' = ' ') (ws : List Text) :
    (List.intercalate [' '] ws).map f = List.intercalate [' '] (ws.map (List.map f)) := by
  induction ws with
  | nil => rfl
  | cons w r ih =>
      cases r with
      | nil => simp [List.intercalate_singleton]
      | cons v s =>
          rw [List.intercalate_cons_cons, List.map_append, List.map_append, ih, List.map_singleton, hf,
            List.map_cons, List.map_cons, List.map_cons, List.intercalate_cons_cons]

theorem collapse_of_prefix_word {w p : Text} (hw : IsWord w) (hp : p <+: w) :
    collapse p = trimRight p := by
  by_cases hnil : p = []
  · rw [hnil]
    rfl
  · have hword : IsWord p := ⟨hnil, fun c hc => hw.ink c (hp.subset hc)⟩
    rw [collapse, words_of_isWord hword, List.intercalate_singleton, trimRight_of_isWord hword]

/-- What a text of words begins with is collapsed already, up to a blank at its
end. -/
theorem collapse_of_prefix {ws : List Text} (h : ∀ w ∈ ws, IsWord w) {p : Text}
    (hp : p <+: List.intercalate [' '] ws) : collapse p = trimRight p := by
  induction ws generalizing p with
  | nil =>
      rw [List.prefix_nil.1 hp]
      rfl
  | cons w r ih =>
      rw [List.forall_mem_cons] at h
      cases r with
      | nil =>
          rw [List.intercalate_singleton] at hp
          exact collapse_of_prefix_word h.1 hp
      | cons v s =>
          rw [List.intercalate_cons_cons, List.append_assoc, List.singleton_append] at hp
          rcases List.prefix_or_prefix_of_prefix hp (List.prefix_append w _) with hpw | ⟨q, rfl⟩
          · exact collapse_of_prefix_word h.1 hpw
          · cases q with
            | nil => exact collapse_of_prefix_word h.1 (by simp)
            | cons d q =>
                obtain ⟨rfl, hq⟩ := List.cons_prefix_cons.1 ((List.prefix_append_right_inj w).1 hp)
                cases hblank : allBlank q with
                | true =>
                    have htail : allBlank (' ' :: q) = true := allBlank_cons_iff.2 ⟨rfl, hblank⟩
                    rw [ignoresBlanks_collapse.behind w _ htail, trimRight_append_of_blank w htail]
                    exact collapse_of_prefix_word h.1 (List.prefix_refl w)
                | false =>
                    have hrest : collapse q = trimRight q := ih h.2 hq
                    obtain ⟨u, us, hwords⟩ := List.exists_cons_of_ne_nil
                      (mt words_eq_nil_iff.1 (Bool.eq_false_iff.1 hblank))
                    rw [List.append_cons, trimRight_append_of_ink _ hblank, ← hrest,
                      ← List.append_cons, collapse, words_append_blank_cons w rfl,
                      words_of_isWord h.1, collapse, hwords]
                    simp [List.intercalate_cons_cons]

/-- What is left of a text without its blanks is what its words are made of. -/
theorem dropBlanks_eq_flatten_words (t : Text) : dropBlanks t = (words t).flatten := by
  induction t with
  | nil => rfl
  | cons c r ih =>
      cases hc : isBlank c with
      | true => rw [words_cons_of_blank hc, ← ih]; simp [dropBlanks, hc]
      | false =>
          have hdrop : dropBlanks (c :: r) = c :: dropBlanks r := by simp [dropBlanks, hc]
          rw [hdrop, ih]
          cases r with
          | nil => rw [words_singleton hc]; rfl
          | cons d s =>
              cases hd : isBlank d with
              | true => rw [words_ink_blank hc hd, words_cons_of_blank hd]; rfl
              | false =>
                  rw [words_ink_ink hc hd]
                  obtain ⟨v, vs, hvs⟩ := List.exists_cons_of_ne_nil (words_cons_ne_nil hd s)
                  rw [hvs]
                  rfl

theorem ignoresBlanks_dropBlanks : IgnoresBlanks dropBlanks where
  before w t hw := by
    rw [dropBlanks_eq_flatten_words, ignoresBlanks_words.before w t hw,
      dropBlanks_eq_flatten_words]
  behind t w hw := by
    rw [dropBlanks_eq_flatten_words, ignoresBlanks_words.behind t w hw,
      dropBlanks_eq_flatten_words]

end Scaffold.Text
