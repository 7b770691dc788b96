/-
# Written values are read back

A value is *readable* if its text, with anything behind it, gives its draft and
leaves what is behind (`Readable`).  That is so of words and strings, and of
arrays and objects of readable values; hence of every value that is made up of
these, and a text that is such a value gives its draft and nothing more
(`readDocument_render`).

Integers are left out.  They are read back only as far as they fit into 64 bits
and where no digit follows, and nothing here writes one.

The reader is bounded by a number that falls with each call.  The length of the
text is enough, since each call is for a shorter text.
-/
import Mathlib.Tactic.SplitIfs
import Scaffold.Json.Draft

namespace Scaffold.Json

/-! ## Strings -/

theorem hexValue4?_control {n : Nat} (hn : n < 0x20) :
    hexValue4? '0' '0' (Text.hexDigit (n / 16)) (Text.hexDigit (n % 16)) = some n := by
  have hzero : Text.hexValue? '0' = some 0 := by decide
  have hhigh : Text.hexValue? (Text.hexDigit (n / 16)) = some (n / 16) :=
    Text.hexValue?_hexDigit (by omega)
  have hlow : Text.hexValue? (Text.hexDigit (n % 16)) = some (n % 16) :=
    Text.hexValue?_hexDigit (by omega)
  simp only [hexValue4?, hzero, hhigh, hlow, bind, Option.bind, pure]
  congr
  omega

theorem literal_control {c : Char} (hc : c.toNat < 0x20) (r : Text) :
    literal none (['\\', 'u', '0', '0'] ++ Text.hexPair c.toNat ++ r) =
      (literal none r).push c := by
  have hhigh : isHighSurrogate c.toNat = false := by simp [isHighSurrogate]; omega
  have hlow : isLowSurrogate c.toNat = false := by simp [isLowSurrogate]; omega
  simp only [Text.hexPair, List.cons_append, List.nil_append]
  rw [literal.eq_def]
  simp [hexValue4?_control hc, hhigh, hlow, Char.ofNat_toNat]

theorem literal_letter {c d : Char} (hc : c ≠ 'u') (hd : escaped? c = some d) (r : Text) :
    literal none ('\\' :: c :: r) = (literal none r).push d := by
  rw [literal.eq_7 none c r (fun _ _ _ _ _ h _ => hc h) hc, hd]

theorem literal_plain {c : Char} (hquote : c ≠ '"') (hslash : c ≠ '\\') (hc : ¬ c.toNat < 0x20)
    (r : Text) : literal none (c :: r) = (literal none r).push c := by
  rw [literal.eq_def]
  split <;> grind

theorem literal_escapeChar (c : Char) (r : Text) :
    literal none (escapeChar c ++ r) = (literal none r).push c := by
  rw [escapeChar]
  split_ifs with hquote hslash hn hr ht hb hf hcontrol
  -- the characters that have an escape of one letter
  iterate 7
    obtain rfl := eq_of_beq ‹(c == _) = true›
    exact literal_letter (by decide) (by decide) r
  · exact literal_control hcontrol r
  · rw [List.singleton_append]
    exact literal_plain (by simpa using hquote) (by simpa using hslash) hcontrol r

theorem literal_escaped (t r : Text) :
    literal none (t.flatMap escapeChar ++ '"' :: r) = ⟨.ok t, .ok r⟩ := by
  induction t with
  | nil => simp [literal]
  | cons c t ih =>
      rw [List.flatMap_cons, List.append_assoc, literal_escapeChar, ih]
      rfl

theorem split_literal_escaped (t r : Text) :
    (literal none (t.flatMap escapeChar ++ '"' :: r)).split = (.ok t, some r) := by
  rw [literal_escaped, Literal.split]

/-! ## Values -/

theorem skipSpace_cons {c : Char} (hc : isSpace c = false) (t : Text) :
    skipSpace (c :: t) = c :: t := by
  simp [skipSpace, hc]

/-- The text of a value can be told from the end of an array, and with anything
behind it gives the draft of the value. -/
structure Readable (v : Json) : Prop where
  start : ∃ c t, v.render = c :: t ∧ isSpace c = false ∧ c ≠ ']'
  read : ∀ n rest, v.render.length ≤ n → readValue n (v.render ++ rest) = (v.toDraft, some rest)

theorem exists_eq_add_one {t : Text} {n : Nat} (ht : t ≠ []) (hn : t.length ≤ n) :
    ∃ k, n = k + 1 := by
  have := List.length_pos_iff.2 ht
  exact ⟨n - 1, by omega⟩

theorem readable_null : Readable .null where
  start := ⟨'n', "ull".toList, rfl, rfl, by decide⟩
  read n rest hn := by
    obtain ⟨k, rfl⟩ := exists_eq_add_one (by simp [render]) hn
    simp [render, readValue, skipSpace_cons, word?, wordDraft, toDraft, isSpace]

theorem readable_bool (b : Bool) : Readable (.bool b) where
  start := by
    cases b with
    | false => exact ⟨'f', "alse".toList, rfl, rfl, by decide⟩
    | true => exact ⟨'t', "rue".toList, rfl, rfl, by decide⟩
  read n rest hn := by
    cases b with
    | false =>
        obtain ⟨k, rfl⟩ := exists_eq_add_one (by simp [render]) hn
        simp [render, readValue, skipSpace_cons, word?, wordDraft, toDraft, isSpace]
    | true =>
        obtain ⟨k, rfl⟩ := exists_eq_add_one (by simp [render]) hn
        simp [render, readValue, skipSpace_cons, word?, wordDraft, toDraft, isSpace]

theorem readable_text (t : Text) : Readable (.text t) where
  start := ⟨'"', t.flatMap escapeChar ++ ['"'], rfl, rfl, by decide⟩
  read n rest hn := by
    obtain ⟨k, rfl⟩ := exists_eq_add_one (by simp [render, renderText]) hn
    have hrender : (Json.text t).render ++ rest = '"' :: (t.flatMap escapeChar ++ '"' :: rest) := by
      simp [render, renderText]
    rw [hrender, readValue, skipSpace_cons (by decide)]
    simp only [split_literal_escaped]
    rfl

/-! ## Arrays -/

/-- What follows an item before these. -/
def itemsBehind : List Json → Text
  | [] => [']']
  | v :: r => ',' :: renderItems (v :: r)

theorem renderItems_cons (v : Json) (r : List Json) :
    renderItems (v :: r) = v.render ++ itemsBehind r := by
  cases r <;> rfl

theorem readItems_render {items : List Json} {n : Nat} (hitems : items ≠ [])
    (h : ∀ v ∈ items, Readable v) (hn : (renderItems items).length ≤ n) (rest : Text) :
    readItems n (renderItems items ++ rest) = (itemDrafts items, none, some rest) := by
  induction items generalizing n with
  | nil => exact absurd rfl hitems
  | cons v r ih =>
      rw [renderItems_cons] at hn ⊢
      obtain ⟨k, rfl⟩ := exists_eq_add_one (by cases r <;> simp [itemsBehind]) hn
      have hlength : v.render.length ≤ k := by
        cases r <;> simp [itemsBehind] at hn <;> omega
      have hv := (h v List.mem_cons_self).read k (itemsBehind r ++ rest) hlength
      rw [List.append_assoc, readItems, hv]
      cases r with
      | nil => simp [itemsBehind, skipSpace_cons, isSpace, itemDrafts]
      | cons w s =>
          have hrest : (renderItems (w :: s)).length ≤ k := by
            simp [itemsBehind] at hn
            omega
          have hread := ih (by simp) (fun u hu => h u (List.mem_cons_of_mem _ hu)) hrest
          simp only [itemsBehind, List.cons_append,
            skipSpace_cons (show isSpace ',' = false from rfl), hread]
          rfl

theorem readable_array {items : List Json} (h : ∀ v ∈ items, Readable v) :
    Readable (.array items) where
  start := ⟨'[', renderItems items, by rw [render], rfl, by decide⟩
  read n rest hn := by
    obtain ⟨k, rfl⟩ := exists_eq_add_one (by simp [render]) hn
    rw [render, List.cons_append, readValue, skipSpace_cons (by decide)]
    cases items with
    | nil => simp [renderItems, skipSpace_cons, isSpace, toDraft, itemDrafts]
    | cons v r =>
        obtain ⟨c, t, hrender, hspace, hend⟩ := (h v List.mem_cons_self).start
        have hlength : (renderItems (v :: r)).length ≤ k := by simpa [render] using hn
        have hread := readItems_render (by simp) h hlength rest
        have hstart : renderItems (v :: r) ++ rest = c :: (t ++ itemsBehind r ++ rest) := by
          rw [renderItems_cons, hrender, List.cons_append, List.cons_append]
        rw [hstart] at hread ⊢
        simp only [skipSpace_cons hspace]
        split
        next heq => cases heq
        next heq => exact absurd (List.cons.inj heq).1 hend
        next =>
          rw [hread]
          rfl

/-! ## Objects -/

/-- What follows a member before these. -/
def membersBehind : List (Text × Json) → Text
  | [] => ['\x7d']
  | m :: r => ',' :: renderMembers (m :: r)

theorem renderMembers_cons (k : Text) (v : Json) (r : List (Text × Json)) :
    renderMembers ((k, v) :: r) =
      '"' :: (k.flatMap escapeChar ++ '"' :: ':' :: (v.render ++ membersBehind r)) := by
  cases r <;> simp [renderMembers, renderText, membersBehind]

theorem readMembers_render {members : List (Text × Json)} {n : Nat} (hmembers : members ≠ [])
    (h : ∀ m ∈ members, Readable m.2) (hn : (renderMembers members).length ≤ n) (rest : Text) :
    readMembers n (renderMembers members ++ rest) = (memberDrafts members, none, some rest) := by
  induction members generalizing n with
  | nil => exact absurd rfl hmembers
  | cons m r ih =>
      obtain ⟨k, v⟩ := m
      rw [renderMembers_cons] at hn ⊢
      obtain ⟨n, rfl⟩ := exists_eq_add_one (by simp) hn
      have hlength : v.render.length ≤ n := by simp at hn; omega
      have hv := (h (k, v) List.mem_cons_self).read n (membersBehind r ++ rest) hlength
      have hquote : isSpace '"' = false := rfl
      have hcolon : isSpace ':' = false := rfl
      simp only [List.cons_append, List.append_assoc, readMembers, skipSpace_cons hquote,
        split_literal_escaped, Option.map_some, skipSpace_cons hcolon, hv]
      cases r with
      | nil => simp [membersBehind, skipSpace_cons, isSpace, memberDrafts]
      | cons w s =>
          have hrest : (renderMembers (w :: s)).length ≤ n := by
            simp [membersBehind] at hn
            omega
          have hread := ih (by simp) (fun u hu => h u (List.mem_cons_of_mem _ hu)) hrest
          simp only [membersBehind, List.cons_append,
            skipSpace_cons (show isSpace ',' = false from rfl), hread]
          rfl

theorem readable_object {members : List (Text × Json)} (h : ∀ m ∈ members, Readable m.2) :
    Readable (.object members) where
  start := ⟨'\x7b', renderMembers members, by rw [render], rfl, by decide⟩
  read n rest hn := by
    obtain ⟨n, rfl⟩ := exists_eq_add_one (by simp [render]) hn
    rw [render, List.cons_append, readValue, skipSpace_cons (by decide)]
    cases members with
    | nil => simp [renderMembers, skipSpace_cons, isSpace, toDraft, memberDrafts]
    | cons m r =>
        have hlength : (renderMembers (m :: r)).length ≤ n := by simpa [render] using hn
        have hread := readMembers_render (by simp) h hlength rest
        rw [renderMembers_cons, List.cons_append] at hread ⊢
        simp only [skipSpace_cons (show isSpace '"' = false from rfl)]
        split
        next heq => cases heq
        next heq => exact absurd (List.cons.inj heq).1 (by decide)
        next =>
          rw [hread]
          rfl

/-! ## Whole texts -/

/-- The text of a readable value is the value and nothing more. -/
theorem readDocument_render {v : Json} (hv : Readable v) :
    readDocument v.render = ⟨v.toDraft, false⟩ := by
  have hread := hv.read (2 * v.render.length + 2) [] (by omega)
  rw [List.append_nil] at hread
  rw [readDocument, hread]
  rfl

end Scaffold.Json
