/-
# A place in a YAML text

YAML is read with line and column in view: indentation is counted in columns,
and a simple key must end on its line.  A cursor is the text that is left,
together with where it starts.

Five things break a line: a carriage return with a line feed, each of the two
alone, U+0085, U+2028 and U+2029.  The end of the text counts as a break where
only a blank or a break may follow.
-/
import Scaffold.Text.Basic

namespace Scaffold

namespace Yaml

structure Cursor where
  rest : Text
  /-- How many bytes of UTF-8 stand before it. -/
  index : Nat
  line : Nat
  column : Nat

/-! ## Classes of characters -/

def isBlank (c : Char) : Bool :=
  c == ' ' || c == '\t'

def isBreak (c : Char) : Bool :=
  c == '\n' || c == '\r' || c == '\u0085' || c == '\u2028' || c == '\u2029'

def isBlankOrBreak (c : Char) : Bool :=
  isBlank c || isBreak c

/-- A character of a directive's name, an anchor or a tag handle. -/
def isWordChar (c : Char) : Bool :=
  c.isAlphanum || c == '-' || c == '_'

/-- The characters that a YAML text may hold. -/
def isAllowed (c : Char) : Bool :=
  let n := c.toNat
  n == 0x09 || n == 0x0A || n == 0x0D || (0x20 ≤ n && n ≤ 0x7E) || n == 0x85
    || (0xA0 ≤ n && n ≤ 0xD7FF) || (0xE000 ≤ n && n ≤ 0xFFFD) || 0x10000 ≤ n

/-- Whether a blank, a break or the end comes next. -/
def atBlankOrBreak (t : Text) : Bool :=
  match t with
  | [] => true
  | c :: _ => isBlankOrBreak c

/-- Whether a break or the end comes next. -/
def atBreak (t : Text) : Bool :=
  match t with
  | [] => true
  | c :: _ => isBreak c

/-- Whether a document mark, three dashes or three dots, comes next. -/
def atDocumentMark (t : Text) : Bool :=
  match t with
  | '-' :: '-' :: '-' :: r => atBlankOrBreak r
  | '.' :: '.' :: '.' :: r => atBlankOrBreak r
  | _ => false

/-- What a break at the start of a text stands for in a scalar: a line feed, or
itself if it separates lines or paragraphs. -/
def breakText : Text → Text
  | c :: _ => if c == '\u2028' || c == '\u2029' then [c] else if isBreak c then ['\n'] else []
  | [] => []

namespace Cursor

def start (t : Text) : Cursor := ⟨t, 0, 0, 0⟩

/-- Passes `n` characters of one line. -/
def pass (c : Cursor) (n : Nat) : Cursor :=
  { c with
    rest := c.rest.drop n
    index := c.index + Text.byteSize (c.rest.take n)
    column := c.column + n }

/-- Passes all characters with the property, which are none that break lines. -/
def passWhile (c : Cursor) (p : Char → Bool) : Cursor :=
  c.pass (c.rest.takeWhile p).length

/-- Passes a break, if one comes next. -/
def passBreak (c : Cursor) : Cursor :=
  match c.rest with
  | '\r' :: '\n' :: r => ⟨r, c.index + 2, c.line + 1, 0⟩
  | b :: r => if isBreak b then ⟨r, c.index + b.utf8Size, c.line + 1, 0⟩ else c
  | [] => c

/-- Passes a byte order mark at the start of a line; it takes a column. -/
def passOrderMark (c : Cursor) : Cursor :=
  if c.column == 0 && c.rest.head? == some '\ufeff' then c.pass 1 else c

/-- Passes the rest of the line. -/
def passLine (c : Cursor) : Cursor :=
  c.passWhile fun d => !isBreak d

/-- Whether a document mark stands here, at the start of a line. -/
def atMark (c : Cursor) : Bool :=
  c.column == 0 && atDocumentMark c.rest

end Cursor

end Yaml

end Scaffold
