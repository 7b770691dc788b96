/-
# Placeholders are filled in at their tokens

A token is a placeholder as it stands in a text:

    {{ blanks . NAME blanks }}

Braces stand at its two ends only, so no token begins within another one, and
none begins before another and reaches into it, however many braces pile up
around them.  A text is therefore filled in token by token: to either side of a
token it is as if the other side were not there (`fill_append_token`), and what
holds no token stays as it is (`fill_of_no_token`).  The value filled in is part
of the result and of no text that is still looked through.
-/
import Scaffold.Placeholder
import Scaffold.Proofs.PresenceLaws

namespace Scaffold.Placeholders

open Text (allBlank isBlank trimLeft after?)

/-! ## Tokens -/

/-- A name that a placeholder can have. -/
def IsName : Text → Prop
  | [] => False
  | c :: r => isNameStart c = true ∧ ∀ d ∈ r, isNamePart d = true

/-- A placeholder for the name, as it stands in a text. -/
inductive IsToken (name : Text) : Text → Prop
  | mk {w w' : Text} : IsName name → allBlank w = true → allBlank w' = true →
      IsToken name (['{', '{'] ++ w ++ ['.'] ++ name ++ w' ++ ['}', '}'])

theorem isNamePart_of_isBlank {c : Char} (h : isBlank c = true) : isNamePart c = false := by
  have hall : ∀ n ∈ Unicode.blankPoints, isNamePart (Char.ofNat n) = false := by decide +kernel
  have := hall _ (Unicode.toNat_mem_blankPoints h)
  rwa [Char.ofNat_toNat] at this

/-- Behind the characters of a name come blanks and a brace. -/
theorem span_name {r w : Text} (hr : ∀ d ∈ r, isNamePart d = true) (hw : allBlank w = true)
    (rest : Text) :
    (r ++ (w ++ '}' :: rest)).takeWhile isNamePart = r ∧
      (r ++ (w ++ '}' :: rest)).dropWhile isNamePart = w ++ '}' :: rest := by
  rw [List.takeWhile_append_of_pos hr, List.dropWhile_append_of_pos hr]
  cases w with
  | nil => exact ⟨by simp [isNamePart], by simp [isNamePart]⟩
  | cons c u =>
      have hc := isNamePart_of_isBlank (Text.allBlank_cons_iff.1 hw).1
      exact ⟨by simp [hc], by simp [hc]⟩

/-- The name behind the point of a placeholder, and what stands behind the
placeholder. -/
def nameTail? : Text → Option (Text × Text)
  | [] => none
  | c :: r =>
    if isNameStart c then
      (after? ['}', '}'] (trimLeft (r.dropWhile isNamePart))).map fun rest =>
        (c :: r.takeWhile isNamePart, rest)
    else none

theorem token?_eq (t : Text) :
    token? t = (after? ['{', '{'] t).bind fun r =>
      (after? ['.'] (trimLeft r)).bind nameTail? := by
  simp only [token?, Option.bind_eq_bind]
  congr 1
  funext r
  congr 1
  funext s
  cases s with
  | nil => rfl
  | cons c u =>
      simp only [nameTail?]
      split
      · cases after? ['}', '}'] (trimLeft (u.dropWhile isNamePart)) <;> rfl
      · rfl

theorem nameTail?_append {name w : Text} (hname : IsName name) (hw : allBlank w = true)
    (rest : Text) : nameTail? (name ++ (w ++ '}' :: '}' :: rest)) = some (name, rest) := by
  cases name with
  | nil => exact hname.elim
  | cons c r =>
      obtain ⟨htake, hdrop⟩ := span_name hname.2 hw ('}' :: rest)
      have hclose : trimLeft (w ++ '}' :: '}' :: rest) = ['}', '}'] ++ rest := by
        rw [Text.trimLeft_append_of_blank hw]
        rfl
      rw [List.cons_append, nameTail?, if_pos hname.1, hdrop, htake, hclose, Text.after?_append]
      rfl

theorem exists_of_nameTail? {r name rest : Text} (h : nameTail? r = some (name, rest)) :
    IsName name ∧ ∃ w, allBlank w = true ∧ r = name ++ (w ++ '}' :: '}' :: rest) := by
  cases r with
  | nil => exact absurd h (by simp [nameTail?])
  | cons c r =>
      rw [nameTail?] at h
      split at h
      next hc =>
        obtain ⟨rest', hclose, heq⟩ := Option.map_eq_some_iff.1 h
        obtain ⟨rfl, rfl⟩ : c :: r.takeWhile isNamePart = name ∧ rest' = rest := by simpa using heq
        refine ⟨⟨hc, fun d hd => List.mem_takeWhile_imp hd⟩,
          Text.indentation (r.dropWhile isNamePart), Text.allBlank_indentation _, ?_⟩
        have hcut : r.takeWhile isNamePart ++ (Text.indentation (r.dropWhile isNamePart) ++
            (['}', '}'] ++ rest')) = r := by
          rw [← Text.eq_of_after? hclose, Text.indentation_append_trimLeft,
            List.takeWhile_append_dropWhile]
        exact congrArg (c :: ·) hcut.symm
      next => exact absurd h (by simp)

/-- A token is found with its name, whatever stands behind it. -/
theorem token?_append {name tok : Text} (h : IsToken name tok) (rest : Text) :
    token? (tok ++ rest) = some (name, rest) := by
  obtain ⟨hname, hw, hw'⟩ := h
  have hpoint : ∀ t, trimLeft ('.' :: t) = ['.'] ++ t := fun _ => rfl
  simp only [List.append_assoc]
  rw [token?_eq, Text.after?_append, Option.bind_some, Text.trimLeft_append_of_blank hw,
    List.singleton_append, hpoint, Text.after?_append, Option.bind_some]
  exact nameTail?_append hname hw' rest

/-- What is found is a token, and the text goes on behind it. -/
theorem exists_token_of_token? {t name rest : Text} (h : token? t = some (name, rest)) :
    ∃ tok, IsToken name tok ∧ t = tok ++ rest := by
  rw [token?_eq] at h
  obtain ⟨r, hopen, h⟩ := Option.bind_eq_some_iff.1 h
  obtain ⟨s, hpoint, h⟩ := Option.bind_eq_some_iff.1 h
  obtain ⟨hname, w', hw', rfl⟩ := exists_of_nameTail? h
  have hr := Text.indentation_append_trimLeft r
  rw [Text.eq_of_after? hpoint] at hr
  refine ⟨_, .mk hname (Text.allBlank_indentation r) hw', ?_⟩
  rw [Text.eq_of_after? hopen]
  simpa using hr.symm

theorem token?_eq_none_iff {t : Text} :
    token? t = none ↔ ∀ name tok, IsToken name tok → ¬ tok <+: t := by
  constructor
  · rintro hnone name tok htok ⟨rest, rfl⟩
    rw [token?_append htok] at hnone
    exact absurd hnone (by simp)
  · intro h
    cases htoken : token? t with
    | none => rfl
    | some m =>
        obtain ⟨tok, htok, rfl⟩ := exists_token_of_token? htoken
        exact absurd (List.prefix_append tok m.2) (h m.1 tok htok)

/-! ## Where braces stand -/

/-- Opening braces are the first two characters of a token and no others. -/
theorem IsToken.exists_tail {name tok : Text} (h : IsToken name tok) :
    ∃ s, tok = '{' :: '{' :: s ∧ s ≠ [] ∧ '{' ∉ s := by
  obtain ⟨hname, hw, hw'⟩ := h
  rename_i w w'
  have hblank : ∀ {v}, allBlank v = true → '{' ∉ v := by
    intro v hv hmem
    exact absurd (Text.allBlank_iff.1 hv _ hmem) (by decide)
  have hnot : '{' ∉ name := by
    cases name with
    | nil => exact hname.elim
    | cons c r =>
        intro hmem
        rcases List.mem_cons.1 hmem with rfl | hmem
        · exact absurd hname.1 (by decide)
        · exact absurd (hname.2 _ hmem) (by decide)
  refine ⟨w ++ ['.'] ++ name ++ w' ++ ['}', '}'], rfl, by simp, ?_⟩
  simp [hblank hw, hblank hw', hnot]

theorem token?_eq_none_of_braces {t : Text} (h : ∀ s, t ≠ '{' :: '{' :: s) : token? t = none := by
  rw [token?_eq_none_iff]
  rintro name tok htok ⟨rest, rfl⟩
  obtain ⟨s, rfl, -, -⟩ := htok.exists_tail
  exact h (s ++ rest) rfl

/-- A token that begins before another one ends before it. -/
theorem eq_append_of_token {name name' tok tok' a b rest : Text} (h : IsToken name tok)
    (h' : IsToken name' tok') (ha : a ≠ []) (heq : a ++ (tok ++ b) = tok' ++ rest) :
    ∃ a', a = tok' ++ a' := by
  rcases List.append_eq_append_iff.1 heq with ⟨d, htok', hrest⟩ | ⟨a', ha', -⟩
  · obtain ⟨s, rfl, -, -⟩ := h.exists_tail
    obtain ⟨s', rfl, hne, hnot⟩ := h'.exists_tail
    obtain ⟨c, u, rfl⟩ := List.exists_cons_of_ne_nil ha
    cases d with
    | nil => exact ⟨[], by simpa using htok'.symm⟩
    | cons e v =>
        -- what reaches into the other token begins with two braces, as that does
        obtain ⟨rfl, hsecond⟩ : '{' = e ∧ '{' :: (s ++ b) = v ++ rest := by simpa using hrest
        cases u with
        | cons f u' =>
            obtain ⟨-, -, rfl⟩ : '{' = c ∧ '{' = f ∧ s' = u' ++ '{' :: v := by simpa using htok'
            exact absurd (by simp) hnot
        | nil =>
            obtain ⟨-, rfl⟩ : '{' = c ∧ s' = v := by simpa using htok'
            obtain ⟨f, v', rfl⟩ := List.exists_cons_of_ne_nil hne
            have hf : '{' = f := (List.cons.inj hsecond).1
            exact absurd (hf ▸ List.mem_cons_self) hnot
  · exact ⟨a', ha'⟩

/-! ## Filling in -/

variable (p : Placeholders)

/-- What is skipped leaves no trace. -/
theorem fill_length_append (u r : Text) : p.fill u.length (u ++ r) = p.fill 0 r := by
  induction u with
  | nil => rfl
  | cons c u ih => exact ih

theorem fill_cons_of_none {c : Char} {r : Text} (h : token? (c :: r) = none) :
    p.fill 0 (c :: r) = c :: p.fill 0 r := by
  simp only [fill, h]

theorem fill_cons_of_token {c : Char} {r name rest : Text}
    (h : token? (c :: r) = some (name, rest)) :
    p.fill 0 (c :: r) = match p.get? name with
      | some value => value ++ p.fill (r.length - rest.length) r
      | none => c :: p.fill 0 r := by
  cases hvalue : p.get? name with
  | some value => simp only [fill, h, hvalue]
  | none => simp only [fill, h, hvalue]

theorem fill_append_of_no_brace {s : Text} (h : '{' ∉ s) (r : Text) :
    p.fill 0 (s ++ r) = s ++ p.fill 0 r := by
  induction s with
  | nil => rfl
  | cons c s ih =>
      rw [List.mem_cons, not_or] at h
      have hnone : token? (c :: (s ++ r)) = none :=
        token?_eq_none_of_braces fun _ heq => h.1 (List.cons.inj heq).1.symm
      rw [List.cons_append, fill_cons_of_none p hnone, ih h.2, List.cons_append]

/-- At a token stands its value, or the token itself if there is none. -/
theorem fill_token_append {name tok : Text} (h : IsToken name tok) (r : Text) :
    p.fill 0 (tok ++ r) = (p.get? name).getD tok ++ p.fill 0 r := by
  have htoken := token?_append h r
  obtain ⟨s, rfl, hne, hnot⟩ := h.exists_tail
  simp only [List.cons_append] at htoken ⊢
  rw [fill_cons_of_token p htoken]
  cases p.get? name with
  | some value =>
      have hskip : ('{' :: (s ++ r)).length - r.length = ('{' :: s).length := by simp; omega
      have hrest := fill_length_append p ('{' :: s) r
      simp only [hskip, Option.getD_some]
      rw [← hrest, List.cons_append]
  | none =>
      -- no token begins at the second brace
      have hsecond : token? ('{' :: (s ++ r)) = none := by
        refine token?_eq_none_of_braces fun _ heq => hnot ?_
        obtain ⟨c, s', rfl⟩ := List.exists_cons_of_ne_nil hne
        have hc : c = '{' := (List.cons.inj (List.cons.inj heq).2).1
        exact hc ▸ List.mem_cons_self
      simp only [Option.getD_none]
      rw [fill_cons_of_none p hsecond, fill_append_of_no_brace p hnot]
      rfl

/-! ## Texts token by token -/

/-- A text is empty, or begins with a token, or with a character at which no
token begins. -/
theorem induction_on_tokens {motive : Text → Prop} (nil : motive [])
    (char : ∀ c r, token? (c :: r) = none → motive r → motive (c :: r))
    (token : ∀ name tok r, IsToken name tok → motive r → motive (tok ++ r)) (t : Text) :
    motive t := by
  induction hlength : t.length using Nat.strongRecOn generalizing t with
  | ind n ih =>
      cases t with
      | nil => exact nil
      | cons c r =>
          cases htoken : token? (c :: r) with
          | none => exact char c r htoken (ih r.length (by simp [← hlength]) r rfl)
          | some m =>
              obtain ⟨tok, htok, heq⟩ := exists_token_of_token? htoken
              obtain ⟨s, hs, -, -⟩ := htok.exists_tail
              have hshorter : m.2.length < n := by
                rw [← hlength, heq, hs, List.length_append]
                simp only [List.length_cons]
                omega
              exact heq ▸ token m.1 tok m.2 htok (ih _ hshorter m.2 rfl)

/-- Filling in to the left of a token takes no notice of the token, nor of what
stands behind it. -/
theorem fill_append_token {name tok : Text} (h : IsToken name tok) (a b : Text) :
    p.fill 0 (a ++ (tok ++ b)) = p.fill 0 a ++ p.fill 0 (tok ++ b) := by
  induction a using induction_on_tokens with
  | nil => rfl
  | char c r hnone ih =>
      have hstill : token? (c :: (r ++ (tok ++ b))) = none := by
        rw [token?_eq_none_iff] at hnone ⊢
        rintro name' tok' htok' ⟨rest, heq⟩
        obtain ⟨a', ha'⟩ := eq_append_of_token h htok' (List.cons_ne_nil c r) heq.symm
        exact hnone name' tok' htok' ⟨a', ha'.symm⟩
      rw [List.cons_append, fill_cons_of_none p hstill, ih, fill_cons_of_none p hnone,
        List.cons_append]
  | token name' tok' r htok' ih =>
      rw [List.append_assoc, fill_token_append p htok', ih, fill_token_append p htok',
        List.append_assoc]

theorem fill_of_no_token {t : Text} (h : ∀ name tok, IsToken name tok → ¬ tok <:+: t) :
    p.fill 0 t = t := by
  induction t with
  | nil => rfl
  | cons c r ih =>
      have hnone : token? (c :: r) = none :=
        token?_eq_none_iff.2 fun name tok htok hprefix => h name tok htok hprefix.isInfix
      have hrest : ∀ name tok, IsToken name tok → ¬ tok <:+: r := by
        intro name tok htok hin
        exact h name tok htok (hin.trans (List.suffix_cons c r).isInfix)
      rw [fill_cons_of_none p hnone, ih hrest]

/-- Every token is replaced by the value of its name, or stays as it is if there
is none, and to either side of it the text is filled in for itself; a text
without tokens stays as it is, in particular one without two opening braces in
a row. -/
theorem substitute_append_token :
    (∀ a tok b name, IsToken name tok →
        p.substitute (a ++ tok ++ b) =
          p.substitute a ++ (p.get? name).getD tok ++ p.substitute b) ∧
      (∀ t, (∀ name tok, IsToken name tok → ¬ tok <:+: t) → p.substitute t = t) ∧
      ∀ t, Text.hasRun ['{', '{'] t = false → p.substitute t = t := by
  refine ⟨?_, fun t h => fill_of_no_token p h, ?_⟩
  · intro a tok b name h
    simp only [substitute, List.append_assoc]
    rw [fill_append_token p h, fill_token_append p h]
  · intro t h
    refine fill_of_no_token p ?_
    intro name tok htok hin
    obtain ⟨s, rfl, -, -⟩ := htok.exists_tail
    have hbraces : ['{', '{'] <:+: t := (List.prefix_append ['{', '{'] s).isInfix.trans hin
    rw [Text.hasRun_iff_infix.2 hbraces] at h
    exact absurd h (by simp)

/-- Braces pile up around a token, and the value that is filled in looks like
another one. -/
theorem substitute_of_piled_braces :
    let p := (empty.insert "A".toList "\x7b\x7b.B\x7d\x7d".toList).insert "B".toList "b".toList
    p.substitute "\x7b\x7b.X\x7b\x7b .A \x7d\x7d\x7d".toList =
      "\x7b\x7b.X\x7b\x7b.B\x7d\x7d\x7d".toList := by
  intro p
  have htoken : IsToken "A".toList
      (['{', '{'] ++ " ".toList ++ ['.'] ++ "A".toList ++ " ".toList ++ ['}', '}']) :=
    .mk ⟨by decide, List.forall_mem_nil _⟩ (by decide) (by decide)
  have hleft : p.substitute "\x7b\x7b.X".toList = "\x7b\x7b.X".toList := by decide
  have hright : p.substitute "\x7d".toList = "\x7d".toList :=
    (substitute_append_token p).2.2 _ (by decide)
  have hvalue : p.get? "A".toList = some "\x7b\x7b.B\x7d\x7d".toList := by decide
  have h := (substitute_append_token p).1 "\x7b\x7b.X".toList _ "\x7d".toList _ htoken
  rw [hleft, hright, hvalue] at h
  exact h

end Scaffold.Placeholders
