/-
# Text as a list of characters

Everything this library edits is text, and every edit is made by line or by
run of characters, so text is a list of characters and the operations on it
are recursions over that list.  This file holds blank characters and trimming,
the search for one text inside another, and joining.
-/
namespace Scaffold

/-- A text. -/
abbrev Text := List Char

namespace Text

/-! ## Blank characters -/

/-- The characters with the Unicode property White_Space. -/
def isBlank (c : Char) : Bool :=
  let n := c.toNat
  (9 ≤ n && n ≤ 13) || n == 0x20 || n == 0x85 || n == 0xA0 || n == 0x1680
    || (0x2000 ≤ n && n ≤ 0x200A) || n == 0x2028 || n == 0x2029 || n == 0x202F
    || n == 0x205F || n == 0x3000

/-- Core's notion of white space lies inside this one. -/
theorem isBlank_of_isWhitespace {c : Char} (h : c.isWhitespace = true) :
    isBlank c = true := by
  simp only [Char.isWhitespace, Bool.or_eq_true, decide_eq_true_eq] at h
  rcases h with ((h | h) | h) | h <;> subst h <;> decide

/-- Whether a text holds nothing but blanks. -/
def allBlank (t : Text) : Bool :=
  t.all isBlank

def trimLeft (t : Text) : Text :=
  t.dropWhile isBlank

def trimRight (t : Text) : Text :=
  (t.reverse.dropWhile isBlank).reverse

def trim (t : Text) : Text :=
  trimRight (trimLeft t)

/-- The blanks a text starts with. -/
def indentation (t : Text) : Text :=
  t.takeWhile isBlank

theorem indentation_append_trimLeft (t : Text) : indentation t ++ trimLeft t = t :=
  List.takeWhile_append_dropWhile

/-- A text without any of its blanks. -/
def dropBlanks (t : Text) : Text :=
  t.filter fun c => !isBlank c

/-! ## Pieces -/

/-- Puts a character in front of the first piece. -/
def pushFirst (c : Char) : List Text → List Text
  | [] => [[c]]
  | piece :: rest => (c :: piece) :: rest

/-- The maximal runs of neighbouring characters with the property. -/
def runs (p : Char → Bool) : Text → List Text
  | [] => []
  | [c] => if p c then [[c]] else []
  | c :: d :: r =>
    if !p c then runs p (d :: r)
    else if p d then pushFirst c (runs p (d :: r))
    else [c] :: runs p (d :: r)

/-- The maximal runs of characters that are not blank. -/
def words (t : Text) : List Text :=
  runs (fun c => !isBlank c) t

/-- The words of a text with one space between them. -/
def collapse (t : Text) : Text :=
  List.intercalate [' '] (words t)

/-! ## One text inside another -/

/-- Whether `needle` is a run of neighbouring members of the list. -/
def hasRun {α : Type} [BEq α] (needle : List α) : List α → Bool
  | [] => needle.isEmpty
  | a :: r => needle.isPrefixOf (a :: r) || hasRun needle r

/-- What stands before and after the first place where `needle` occurs. -/
def splitFirst? (needle : Text) : Text → Option (Text × Text)
  | [] => if needle.isEmpty then some ([], []) else none
  | c :: r =>
    if needle.isPrefixOf (c :: r) then some ([], (c :: r).drop needle.length)
    else (splitFirst? needle r).map fun (before, after) => (c :: before, after)

/-- What stands before and after the last place where `needle` occurs. -/
def splitLast? (needle : Text) : Text → Option (Text × Text)
  | [] => if needle.isEmpty then some ([], []) else none
  | c :: r =>
    match splitLast? needle r with
    | some (before, after) => some (c :: before, after)
    | none =>
      if needle.isPrefixOf (c :: r) then some ([], (c :: r).drop needle.length)
      else none

/-- The two parts found put the text together again. -/
theorem eq_of_splitFirst? {needle t before after : Text}
    (h : splitFirst? needle t = some (before, after)) :
    t = before ++ needle ++ after := by
  induction t generalizing before with
  | nil =>
    simp only [splitFirst?] at h
    split at h <;> simp_all
  | cons c r ih =>
    simp only [splitFirst?] at h
    split at h
    case isTrue hp =>
      obtain ⟨rest, hrest⟩ := List.isPrefixOf_iff_prefix.1 hp
      obtain ⟨rfl, rfl⟩ := by simpa using h
      simp [← hrest]
    case isFalse =>
      obtain ⟨⟨b, a⟩, hs, heq⟩ := Option.map_eq_some_iff.1 h
      obtain ⟨rfl, rfl⟩ := by simpa using heq
      simp [ih hs]

theorem eq_of_splitLast? {needle t before after : Text}
    (h : splitLast? needle t = some (before, after)) :
    t = before ++ needle ++ after := by
  induction t generalizing before with
  | nil =>
    simp only [splitLast?] at h
    split at h <;> simp_all
  | cons c r ih =>
    simp only [splitLast?] at h
    split at h
    case h_1 b a hs =>
      obtain ⟨rfl, rfl⟩ := by simpa using h
      simp [ih hs]
    case h_2 =>
      split at h
      case isTrue hp =>
        obtain ⟨rest, hrest⟩ := List.isPrefixOf_iff_prefix.1 hp
        obtain ⟨rfl, rfl⟩ := by simpa using h
        simp [← hrest]
      case isFalse => simp at h

/-- The text after `lead`, if it starts so. -/
def after? (lead t : Text) : Option Text :=
  if lead.isPrefixOf t then some (t.drop lead.length) else none

theorem eq_of_after? {lead t rest : Text} (h : after? lead t = some rest) :
    t = lead ++ rest := by
  simp only [after?] at h
  split at h
  case isTrue hp =>
    obtain ⟨tail, rfl⟩ := List.isPrefixOf_iff_prefix.1 hp
    simpa using h
  case isFalse => simp at h

theorem after?_append (lead rest : Text) : after? lead (lead ++ rest) = some rest := by
  simp [after?, List.isPrefixOf_iff_prefix]

/-! ## Size in bytes -/

/-- How many bytes the text takes in UTF-8. -/
def byteSize : Text → Nat
  | [] => 0
  | c :: r => c.utf8Size + byteSize r

/-- What is left after `n` bytes; `none` if they end inside a character or
behind the end of the text. -/
def dropBytes? : Nat → Text → Option Text
  | 0, t => some t
  | _ + 1, [] => none
  | n + 1, c :: r => if c.utf8Size ≤ n + 1 then dropBytes? (n + 1 - c.utf8Size) r else none

end Text

end Scaffold
