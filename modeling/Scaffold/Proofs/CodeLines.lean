/-
# Code lines do not hang on their layout

The module that a line imports is the same with blanks around the line
(`ignoresBlanks_importedModule?`), so is the name that stands alone on it
(`ignoresBlanks_loneName?`), and so is whether it looks like an import or an
export (`ignoresBlanks_isImportLike`, `ignoresBlanks_isExportLike`).

A marker is no code: it imports nothing and is no lone name, so that neither
presence nor the removal of duplicates ever takes a marker for one
(`importedModule?_of_isMarker`, `loneName?_of_isMarker`), and no marker is
placed by another one.
-/
import Mathlib.Data.List.DropRight
import Scaffold.LineKind
import Scaffold.Proofs.MarkerGrammar

namespace Scaffold

namespace Unicode

/-! ## Blanks are in no word -/

/-- The code points of the blank characters. -/
def blankPoints : List Nat :=
  [9, 10, 11, 12, 13, 0x20, 0x85, 0xA0, 0x1680, 0x2000, 0x2001, 0x2002, 0x2003, 0x2004, 0x2005,
    0x2006, 0x2007, 0x2008, 0x2009, 0x200A, 0x2028, 0x2029, 0x202F, 0x205F, 0x3000]

theorem toNat_mem_blankPoints {c : Char} (h : Text.isBlank c = true) :
    c.toNat ∈ blankPoints := by
  simp only [Text.isBlank, Bool.or_eq_true, Bool.and_eq_true, decide_eq_true_eq, beq_iff_eq] at h
  simp only [blankPoints, List.mem_cons, List.not_mem_nil, or_false]
  omega

theorem isAlphanumeric_of_isBlank {c : Char} (h : Text.isBlank c = true) :
    isAlphanumeric c = false := by
  have hall : ∀ n ∈ blankPoints, isAlphanumeric (Char.ofNat n) = false := by decide +kernel
  have := hall _ (toNat_mem_blankPoints h)
  rwa [Char.ofNat_toNat] at this

theorem isWord_of_isBlank {c : Char} (h : Text.isBlank c = true) : isWord c = false := by
  have hmark : Span.anyHolds markSpans c.toNat = false := by
    have hall : ∀ n ∈ blankPoints, Span.anyHolds markSpans n = false := by decide +kernel
    exact hall _ (toNat_mem_blankPoints h)
  have hline : (c == '_') = false := by
    rw [beq_eq_false_iff_ne]
    rintro rfl
    exact absurd h (by decide)
  have halnum := isAlphanumeric_of_isBlank h
  rw [isAlphanumeric] at halnum
  rw [isWord]
  split
  next hascii => rw [if_pos hascii] at halnum; rw [halnum, hline]; rfl
  next hascii => rw [if_neg hascii] at halnum; rw [halnum, hmark]; rfl

end Unicode

namespace LineKind

open Text (allBlank isBlank trimLeft after? IgnoresEnd IgnoresBlanks)

/-! ## Cutting at the first character of a kind -/

section Cut

variable {p : Char → Bool}

theorem dropWhile_append_of_stop {t : Text} (h : t.dropWhile p ≠ []) (w : Text) :
    (t ++ w).dropWhile p = t.dropWhile p ++ w := by
  simp only [List.dropWhile_append, List.isEmpty_iff, if_neg h]

theorem takeWhile_append_of_stop {t : Text} (h : t.dropWhile p ≠ []) (w : Text) :
    (t ++ w).takeWhile p = t.takeWhile p := by
  rw [List.takeWhile_append, if_neg]
  intro hlen
  refine h ?_
  have hcut := congrArg List.length (List.takeWhile_append_dropWhile (p := p) (l := t))
  rw [List.length_append] at hcut
  exact List.length_eq_zero_iff.1 (by omega)

theorem dropWhile_append_of_pass {t : Text} (h : t.dropWhile p = []) {w : Text}
    (hw : ∀ c ∈ w, p c = true) : (t ++ w).dropWhile p = [] := by
  rw [List.dropWhile_append_of_pos (List.dropWhile_eq_nil_iff.1 h)]
  exact List.dropWhile_eq_nil_iff.2 hw

theorem dropWhile_append_of_refused {w : Text} (hw : ∀ c ∈ w, p c = false) (t : Text) :
    (t ++ w).dropWhile p = t.dropWhile p ++ w := by
  by_cases h : t.dropWhile p = []
  · rw [List.dropWhile_append_of_pos (List.dropWhile_eq_nil_iff.1 h), h, List.nil_append]
    cases w with
    | nil => rfl
    | cons c r => rw [List.dropWhile_cons_of_neg (by simp [hw c List.mem_cons_self])]
  · exact dropWhile_append_of_stop h w

theorem takeWhile_append_of_refused {w : Text} (hw : ∀ c ∈ w, p c = false) (t : Text) :
    (t ++ w).takeWhile p = t.takeWhile p := by
  have hcut : (t ++ w).takeWhile p ++ (t ++ w).dropWhile p =
      t.takeWhile p ++ (t ++ w).dropWhile p := by
    rw [List.takeWhile_append_dropWhile, dropWhile_append_of_refused hw, ← List.append_assoc,
      List.takeWhile_append_dropWhile]
  exact List.append_cancel_right hcut

end Cut

theorem isBlank_ne_of_ink {c d : Char} (hc : isBlank c = true) (hd : isBlank d = false) :
    c ≠ d := by
  rintro rfl
  rw [hc] at hd
  exact absurd hd (by simp)

theorem bne_of_allBlank {w : Text} {d : Char} (hw : allBlank w = true) (hd : isBlank d = false) :
    ∀ c ∈ w, (c != d) = true := by
  intro c hc
  exact bne_iff_ne.2 (isBlank_ne_of_ink (Text.allBlank_iff.1 hw c hc) hd)

theorem not_isQuote_of_isBlank {c : Char} (hc : isBlank c = true) : isQuote c = false := by
  have h1 : c ≠ '\'' := isBlank_ne_of_ink hc (by decide)
  have h2 : c ≠ '"' := isBlank_ne_of_ink hc (by decide)
  simp [isQuote, h1, h2]

/-! ## The parts of an import -/

theorem ignoresEnd_wordEnd? {α : Type} {f : Text → Option α} (h : IgnoresEnd f) :
    IgnoresEnd fun t => (wordEnd? t).bind f where
  nil := h.nil
  behind t w hw := by
    cases t with
    | nil =>
        cases w with
        | nil => rfl
        | cons c r =>
            have hc : Unicode.isWord c = false :=
              Unicode.isWord_of_isBlank (Text.allBlank_iff.1 hw c List.mem_cons_self)
            simp only [List.nil_append, wordEnd?, hc, Option.bind_some]
            rw [if_neg Bool.false_ne_true, Option.bind_some, h.of_blank hw, h.nil]
    | cons c r =>
        simp only [List.cons_append, wordEnd?]
        split
        · rfl
        · rw [Option.bind_some, Option.bind_some, ← List.cons_append, h.behind _ w hw]

theorem IgnoresEnd.afterWord {α : Type} {f : Text → Option α} (h : IgnoresEnd f) {lead : Text}
    (hlead : Text.trimRight lead = lead) (hne : lead ≠ []) :
    IgnoresEnd fun t => (afterWord? lead t).bind f := by
  have := (ignoresEnd_wordEnd? h).after hlead hne
  simpa only [afterWord?, Option.bind_assoc] using this

theorem IgnoresEnd.afterBlanks {α : Type} {f : Text → Option α} (h : IgnoresEnd f) :
    IgnoresEnd fun t => (afterBlanks? t).bind f where
  nil := rfl
  behind t w hw := by
    cases t with
    | nil =>
        cases w with
        | nil => rfl
        | cons c r =>
            rw [Text.allBlank_cons_iff] at hw
            simp [afterBlanks?, hw.1, Text.trimLeft_eq_nil_iff.2 hw.2, h.nil]
    | cons c r =>
        simp only [List.cons_append, afterBlanks?]
        split
        · exact h.trimLeft.behind r w hw
        · rfl

theorem quotedPath?_append_of_blank (t : Text) {w : Text} (hw : allBlank w = true) :
    quotedPath? (t ++ w) = (quotedPath? t).map fun m => (m.1, m.2 ++ w) := by
  have hquote : ∀ c ∈ w, isQuote c = false :=
    fun c hc => not_isQuote_of_isBlank (Text.allBlank_iff.1 hw c hc)
  cases t with
  | nil =>
      cases w with
      | nil => rfl
      | cons c r => simp [quotedPath?, hquote c List.mem_cons_self]
  | cons q r =>
      simp only [List.cons_append, quotedPath?]
      cases hq : isQuote q with
      | false => simp
      | true =>
          simp only [if_true]
          by_cases hstop : r.dropWhile (fun c => !isQuote c) = []
          · have hpass := dropWhile_append_of_pass hstop (w := w) (by simpa using hquote)
            rw [hpass, hstop]
            simp
          · rw [dropWhile_append_of_stop hstop, takeWhile_append_of_stop hstop]
            obtain ⟨e, s, hs⟩ := List.exists_cons_of_ne_nil hstop
            rw [hs]
            cases r.takeWhile (fun c => !isQuote c) <;> rfl

/-- What is read from a quoted path alone ignores what comes later. -/
theorem ignoresEnd_quotedPath? {α : Type} {k : Text × Text → Option α}
    (hk : ∀ path rest w, allBlank w = true → k (path, rest ++ w) = k (path, rest)) :
    IgnoresEnd fun t => (quotedPath? t).bind k where
  nil := rfl
  behind t w hw := by
    simp only [quotedPath?_append_of_blank t hw]
    cases quotedPath? t with
    | none => rfl
    | some m => exact hk m.1 m.2 w hw

theorem ignoresEnd_firstQuotedPath? :
    IgnoresEnd fun t => (quotedPath? (t.dropWhile fun c => !isQuote c)).bind fun m => some m.1 where
  nil := rfl
  behind t w hw := by
    by_cases hstop : t.dropWhile (fun c => !isQuote c) = []
    · have hquote : ∀ c ∈ w, (!isQuote c) = true := by
        intro c hc
        simp [not_isQuote_of_isBlank (Text.allBlank_iff.1 hw c hc)]
      simp only [dropWhile_append_of_pass hstop hquote, hstop]
    · simp only [dropWhile_append_of_stop hstop]
      exact (ignoresEnd_quotedPath? fun _ _ _ _ => rfl).behind _ w hw

/-- A quoted path that a bracket closes. -/
def closedPath? (m : Text × Text) : Option Text :=
  match trimLeft m.2 with
  | ')' :: _ => some m.1
  | _ => none

theorem ignoresEnd_requireCall? : IgnoresEnd requireCall? := by
  have hclose : IgnoresEnd fun t => (quotedPath? t).bind closedPath? := by
    refine ignoresEnd_quotedPath? ?_
    intro path rest w hw
    cases hr : allBlank rest with
    | true =>
        simp only [closedPath?, Text.trimLeft_append_of_blank hr, Text.trimLeft_eq_nil_iff.2 hr,
          Text.trimLeft_eq_nil_iff.2 hw]
    | false =>
        have hne : trimLeft rest ≠ [] := by
          rw [ne_eq, Text.trimLeft_eq_nil_iff, hr]
          exact Bool.false_ne_true
        obtain ⟨c, s, hs⟩ := List.exists_cons_of_ne_nil hne
        simp only [closedPath?, Text.trimLeft_append_of_ink hr, hs, List.cons_append]
        by_cases hc : c = ')'
        · subst hc
          rfl
        · simp [hc]
  exact (hclose.trimLeft).after (by decide) (by decide)

/-- The text behind the `=` of a binding. -/
def afterEquals? (r : Text) : Option Text :=
  match r.takeWhile (fun c => c != '='), r.dropWhile fun c => c != '=' with
  | c :: _ :: _, _ :: rest => if isBlank c then some (trimLeft rest) else none
  | _, _ => none

theorem ignoresEnd_afterEquals? {α : Type} {f : Text → Option α} (h : IgnoresEnd f) :
    IgnoresEnd fun t => (afterEquals? t).bind f where
  nil := rfl
  behind t w hw := by
    by_cases hstop : t.dropWhile (fun c => c != '=') = []
    · have hequals : ∀ c ∈ w, (c != '=') = true := bne_of_allBlank hw (by decide)
      have hnone : ∀ u : Text, u.dropWhile (fun c => c != '=') = [] → afterEquals? u = none := by
        intro u hu
        rw [afterEquals?, hu]
        split
        next heq => exact absurd heq (by simp)
        next => rfl
      simp only [hnone _ (dropWhile_append_of_pass hstop hequals), hnone t hstop]
    · obtain ⟨e, s, hs⟩ := List.exists_cons_of_ne_nil hstop
      simp only [afterEquals?, dropWhile_append_of_stop hstop, takeWhile_append_of_stop hstop, hs,
        List.cons_append]
      cases t.takeWhile fun c => c != '=' with
      | nil => rfl
      | cons c u =>
          cases u with
          | nil => rfl
          | cons d v =>
              cases hc : isBlank c with
              | true => simpa [hc] using h.trimLeft.behind s w hw
              | false => simp [hc]

theorem afterBinding?_eq (t : Text) :
    afterBinding? t = (((after? "const".toList t).or
      ((after? "let".toList t).or (after? "var".toList t))).bind afterEquals?) := by
  simp only [afterBinding?]
  cases (after? "const".toList t).or ((after? "let".toList t).or (after? "var".toList t)) <;> rfl

theorem ignoresEnd_afterBinding? {α : Type} {f : Text → Option α} (h : IgnoresEnd f) :
    IgnoresEnd fun t => (afterBinding? t).bind f where
  nil := rfl
  behind t w hw := by
    have hlead : ∀ lead : Text, Text.trimRight lead = lead →
        after? lead (t ++ w) = (after? lead t).map (· ++ w) :=
      fun lead hlead => Text.after?_append_of_blank hlead t hw
    simp only [afterBinding?_eq, hlead _ (show Text.trimRight "const".toList = _ by decide),
      hlead _ (show Text.trimRight "let".toList = _ by decide),
      hlead _ (show Text.trimRight "var".toList = _ by decide), ← Option.map_or]
    cases (after? "const".toList t).or ((after? "let".toList t).or (after? "var".toList t)) with
    | none => rfl
    | some r => exact (ignoresEnd_afterEquals? h).behind r w hw

/-! ## The module of a line -/

/-- The module named by a line without blanks in front. -/
def moduleHere? (t : Text) : Option Text :=
  ((afterWord? "import".toList t).bind fun rest =>
    (quotedPath? (rest.dropWhile fun c => !isQuote c)).bind fun m => some m.1).or
    (((afterBinding? t).bind requireCall?).or (requireCall? t))

theorem importedModule?_eq (line : Text) : importedModule? line = moduleHere? (trimLeft line) :=
  rfl

theorem ignoresEnd_moduleHere? : IgnoresEnd moduleHere? :=
  (IgnoresEnd.afterWord ignoresEnd_firstQuotedPath? (by decide) (by decide)).or
    ((ignoresEnd_afterBinding? ignoresEnd_requireCall?).or ignoresEnd_requireCall?)

theorem ignoresBlanks_importedModule? : IgnoresBlanks importedModule? :=
  ignoresEnd_moduleHere?.ignoresBlanks

theorem importedModule?_of_blank {line : Text} (h : allBlank line = true) :
    importedModule? line = none := by
  rw [importedModule?_eq, Text.trimLeft_eq_nil_iff.2 h]
  rfl

/-! ## Lone names -/

theorem isNameStart_of_isBlank {c : Char} (h : isBlank c = true) : isNameStart c = false := by
  have hall : ∀ n ∈ Unicode.blankPoints, isNameStart (Char.ofNat n) = false := by decide +kernel
  have := hall _ (Unicode.toNat_mem_blankPoints h)
  rwa [Char.ofNat_toNat] at this

theorem isNamePart_of_isBlank {c : Char} (h : isBlank c = true) : isNamePart c = false := by
  have hdollar : c ≠ '$' := isBlank_ne_of_ink h (by decide)
  simp [isNamePart, Unicode.isWord_of_isBlank h, hdollar]

theorem name?_append_of_blank (t : Text) {w : Text} (hw : allBlank w = true) :
    name? (t ++ w) = (name? t).map fun m => (m.1, m.2 ++ w) := by
  have hpart : ∀ c ∈ w, isNamePart c = false :=
    fun c hc => isNamePart_of_isBlank (Text.allBlank_iff.1 hw c hc)
  cases t with
  | nil =>
      cases w with
      | nil => rfl
      | cons c r =>
          have hc := isNameStart_of_isBlank (Text.allBlank_iff.1 hw c List.mem_cons_self)
          simp [name?, hc]
  | cons c r =>
      simp only [List.cons_append, name?]
      split
      · rw [takeWhile_append_of_refused hpart, dropWhile_append_of_refused hpart]
        rfl
      · rfl

/-- The lone name of a line without blanks in front. -/
def loneNameHere? (t : Text) : Option Text :=
  (name? t).bind fun m => if allBlank m.2 || isLoneComma m.2 then some m.1 else none

theorem loneName?_eq (line : Text) : loneName? line = loneNameHere? (trimLeft line) := by
  rw [loneName?, loneNameHere?]
  cases name? (trimLeft line) <;> rfl

theorem ignoresEnd_loneNameHere? : IgnoresEnd loneNameHere? where
  nil := rfl
  behind t w hw := by
    rw [loneNameHere?, loneNameHere?, name?_append_of_blank t hw]
    cases name? t with
    | none => rfl
    | some m =>
        have hcomma : isLoneComma (m.2 ++ w) = isLoneComma m.2 := by
          rw [isLoneComma, Text.trim_append_blank _ hw, isLoneComma]
        rw [Option.map_some, Option.bind_some, Option.bind_some, hcomma,
          Text.ignoresBlanks_allBlank.behind _ _ hw]

theorem ignoresBlanks_loneName? : IgnoresBlanks loneName? := by
  have heq : loneName? = fun line => loneNameHere? (trimLeft line) := funext loneName?_eq
  rw [heq]
  exact ignoresEnd_loneNameHere?.ignoresBlanks

/-! ## Lines that look like imports or exports -/

/-- That something was found, whatever it was. -/
def found {α : Type} (m : Option α) : Option Unit :=
  m.map fun _ => ()

theorem isSome_found {α : Type} (m : Option α) : (found m).isSome = m.isSome :=
  Option.isSome_map

theorem ignoresEnd_found_after {lead : Text} (hlead : Text.trimRight lead = lead)
    (hne : lead ≠ []) : IgnoresEnd fun t => found (after? lead t) where
  nil := by
    obtain ⟨c, r, rfl⟩ := List.exists_cons_of_ne_nil hne
    rfl
  behind t w hw := by
    simp only [found, Text.after?_append_of_blank hlead t hw, Option.map_map]

theorem ignoresEnd_found_afterWord {lead : Text} (hlead : Text.trimRight lead = lead)
    (hne : lead ≠ []) : IgnoresEnd fun t => found (afterWord? lead t) where
  nil := by
    obtain ⟨c, r, rfl⟩ := List.exists_cons_of_ne_nil hne
    rfl
  behind t w hw := by
    have hend : ∀ r, found (wordEnd? (r ++ w)) = found (wordEnd? r) := by
      intro r
      cases r with
      | cons c s =>
          simp only [List.cons_append, wordEnd?]
          split <;> rfl
      | nil =>
          cases w with
          | nil => rfl
          | cons c s =>
              have hc : Unicode.isWord c = false :=
                Unicode.isWord_of_isBlank (Text.allBlank_iff.1 hw c List.mem_cons_self)
              simp [wordEnd?, hc, found]
    simp only [afterWord?, Text.after?_append_of_blank hlead t hw]
    cases after? lead t with
    | none => rfl
    | some r => exact hend r

/-- Whether there is any text. -/
def someText? (t : Text) : Option Unit :=
  if allBlank t then none else some ()

theorem ignoresEnd_someText? : IgnoresEnd someText? where
  nil := rfl
  behind t w hw := by simp only [someText?, Text.ignoresBlanks_allBlank.behind t w hw]

/-- What `isImportLike` looks for, in a line without blanks in front. -/
def importHere? (t : Text) : Option Unit :=
  (found (afterWord? "import".toList t)).or
    (((after? "from".toList t).bind fun r => (afterBlanks? r).bind fun u =>
      (afterBlanks? (u.dropWhile fun c => !isBlank c)).bind fun v =>
        found (afterWord? "import".toList v)).or
    (((after? "use".toList t).bind fun r => (afterBlanks? r).bind someText?).or
    ((found (afterWord? "#include".toList t)).or
    ((afterBinding? t).bind fun r => found (after? "require(".toList r)))))

theorem isSome_bind_found {α β : Type} (m : Option α) (f : α → Option β) :
    (m.bind fun a => found (f a)).isSome = (m.bind f).isSome := by
  cases m with
  | none => rfl
  | some a => exact isSome_found (f a)

theorem isSome_bind_someText? (m : Option Text) :
    ((m.bind afterBlanks?).bind someText?).isSome =
      match m.bind afterBlanks? with
      | some (_ :: _) => true
      | _ => false := by
  cases h : m.bind afterBlanks? with
  | none => rfl
  | some u =>
      -- what stands behind blanks begins with ink
      obtain ⟨r, hr⟩ : ∃ r, u = trimLeft r := by
        obtain ⟨t, -, ht⟩ := Option.bind_eq_some_iff.1 h
        cases t with
        | nil => exact absurd ht (by simp [afterBlanks?])
        | cons c s =>
            rw [afterBlanks?] at ht
            split at ht
            · exact ⟨s, (Option.some.inj ht).symm⟩
            · exact absurd ht (by simp)
      have hblank : allBlank u = u.isEmpty := by
        rw [Bool.eq_iff_iff, ← Text.trimLeft_eq_nil_iff, List.isEmpty_iff, hr]
        simp only [trimLeft, List.dropWhile_idempotent]
      rw [Option.bind_some, someText?, hblank]
      cases u <;> rfl

theorem isImportLike_eq (line : Text) :
    isImportLike line = (importHere? (trimLeft line)).isSome := by
  have hfrom : ∀ t, (do
      let r ← (after? "from".toList t).bind afterBlanks?
      let r ← if r.isEmpty then none else afterBlanks? (r.dropWhile fun c => !isBlank c)
      afterWord? "import".toList r).isSome =
        ((after? "from".toList t).bind fun r => (afterBlanks? r).bind fun u =>
          (afterBlanks? (u.dropWhile fun c => !isBlank c)).bind
            (afterWord? "import".toList)).isSome := by
    intro t
    rw [← Option.bind_assoc]
    cases (after? "from".toList t).bind afterBlanks? with
    | none => rfl
    | some r => cases r <;> rfl
  have hassoc : ∀ a b c d e : Bool, (a || b || c || d || e) = (a || (b || (c || (d || e)))) := by
    decide
  simp only [isImportLike, hfrom, importHere?, Option.isSome_or, isSome_found, isSome_bind_found,
    ← Option.bind_assoc, isSome_bind_someText?]
  exact hassoc _ _ _ _ _

theorem ignoresEnd_importHere? : IgnoresEnd importHere? := by
  have hword : IgnoresEnd fun t => found (afterWord? "import".toList t) :=
    ignoresEnd_found_afterWord (by decide) (by decide)
  have hfrom : IgnoresEnd fun u : Text => (afterBlanks? (u.dropWhile fun c => !isBlank c)).bind fun v =>
      found (afterWord? "import".toList v) := by
    refine ⟨rfl, ?_⟩
    intro t w hw
    have hstop : ∀ c ∈ w, (!isBlank c) = false := by
      intro c hc
      rw [Text.allBlank_iff.1 hw c hc]
      rfl
    simp only [dropWhile_append_of_refused hstop]
    exact (IgnoresEnd.afterBlanks hword).behind _ w hw
  refine hword.or (.or ?_ (.or ?_ (.or ?_ ?_)))
  · exact (IgnoresEnd.afterBlanks hfrom).after (by decide) (by decide)
  · exact (IgnoresEnd.afterBlanks ignoresEnd_someText?).after (by decide) (by decide)
  · exact ignoresEnd_found_afterWord (by decide) (by decide)
  · exact ignoresEnd_afterBinding? (ignoresEnd_found_after (by decide) (by decide))

theorem ignoresBlanks_isImportLike : IgnoresBlanks isImportLike := by
  have heq : isImportLike = fun line => (importHere? (trimLeft line)).isSome :=
    funext isImportLike_eq
  rw [heq]
  exact ignoresEnd_importHere?.ignoresBlanks.comp Option.isSome

/-- What `isExportLike` looks for, in a line without blanks in front. -/
def exportHere? (t : Text) : Option Unit :=
  (found (afterWord? "export".toList t)).or
    ((found (afterWord? "module.exports".toList t)).or (found (after? "exports.".toList t)))

theorem ignoresEnd_exportHere? : IgnoresEnd exportHere? :=
  (ignoresEnd_found_afterWord (by decide) (by decide)).or
    ((ignoresEnd_found_afterWord (by decide) (by decide)).or
      (ignoresEnd_found_after (by decide) (by decide)))

theorem ignoresBlanks_isExportLike : IgnoresBlanks isExportLike := by
  have heq : isExportLike = fun line => (exportHere? (trimLeft line)).isSome := by
    funext line
    simp only [isExportLike, exportHere?, Option.isSome_or, isSome_found, Bool.or_assoc]
  rw [heq]
  exact ignoresEnd_exportHere?.ignoresBlanks.comp Option.isSome

/-! ## Markers are no code -/

theorem trimLeft_of_isMarker {line : Text} (h : Marker.isMarker line = true) :
    ∃ r, trimLeft line = '/' :: '/' :: r := by
  obtain ⟨m, hm⟩ := Option.isSome_iff_exists.1 h
  have hslash : ∃ r, after? "//".toList (trimLeft line) = some r := by
    rw [Marker.ofLine?_eq, Marker.add?_eq, Marker.block?_eq] at hm
    cases hs : after? "//".toList (trimLeft line) with
    | some r => exact ⟨r, rfl⟩
    | none =>
        rw [hs] at hm
        exact absurd hm (by simp)
  obtain ⟨r, hr⟩ := hslash
  exact ⟨r, Text.eq_of_after? hr⟩

theorem importedModule?_of_isMarker {line : Text} (h : Marker.isMarker line = true) :
    importedModule? line = none := by
  obtain ⟨r, hr⟩ := trimLeft_of_isMarker h
  rw [importedModule?_eq, hr]
  rfl

theorem loneName?_of_isMarker {line : Text} (h : Marker.isMarker line = true) :
    loneName? line = none := by
  obtain ⟨r, hr⟩ := trimLeft_of_isMarker h
  rw [loneName?, hr]
  rfl

theorem isImportLike_of_isMarker {line : Text} (h : Marker.isMarker line = true) :
    isImportLike line = false := by
  obtain ⟨r, hr⟩ := trimLeft_of_isMarker h
  rw [isImportLike_eq, hr]
  rfl

theorem isExportLike_of_isMarker {line : Text} (h : Marker.isMarker line = true) :
    isExportLike line = false := by
  obtain ⟨r, hr⟩ := trimLeft_of_isMarker h
  rw [isExportLike, hr]
  rfl

end LineKind

end Scaffold
