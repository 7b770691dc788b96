/-
# Texts as bytes

UTF-8 spells a character in one to four bytes.  After the first byte the second
is held to a narrower range where the character would otherwise have a shorter
spelling, be half of a surrogate pair, or lie beyond the last code point:

    00–7F
    C2–DF  80–BF
    E0     A0–BF  80–BF
    E1–EC  80–BF  80–BF
    ED     80–9F  80–BF
    EE–EF  80–BF  80–BF
    F0     90–BF  80–BF  80–BF
    F1–F3  80–BF  80–BF  80–BF
    F4     80–8F  80–BF  80–BF

Bytes are read one at a time.  The first byte that fits nowhere ends the
reading; the bytes of its character before it are the ill-formed sequence, or
that byte alone if it starts none.
-/
import Scaffold.Text.Basic
import Scaffold.Decimal.Double

namespace Scaffold

abbrev Bytes := List UInt8

namespace Utf8

/-- Why bytes are not a text, and where the character begins that fails. -/
inductive Fault where
  | invalid (length index : Nat)
  | incomplete (index : Nat)
deriving DecidableEq, Repr

def Fault.message : Fault → Text
  | invalid length index =>
    "invalid utf-8 sequence of ".toList ++ Decimal.natText length ++
      " bytes from index ".toList ++ Decimal.natText index
  | incomplete index =>
    "incomplete utf-8 byte sequence from index ".toList ++ Decimal.natText index

/-! ## Reading -/

/-- A character of which some bytes are read. -/
structure Open where
  /-- Where it begins. -/
  index : Nat
  /-- How many bytes are read. -/
  read : Nat
  /-- The bits read so far. -/
  value : Nat
  /-- How many bytes are to come after the next one. -/
  pending : Nat
  /-- The least and the greatest next byte. -/
  low : Nat
  high : Nat

/-- The character opened by a first byte of two or more. -/
def open? (index b : Nat) : Option Open :=
  if 0xC2 ≤ b && b ≤ 0xDF then some ⟨index, 1, b - 0xC0, 0, 0x80, 0xBF⟩
  else if b == 0xE0 then some ⟨index, 1, 0, 1, 0xA0, 0xBF⟩
  else if b == 0xED then some ⟨index, 1, 0xD, 1, 0x80, 0x9F⟩
  else if 0xE1 ≤ b && b ≤ 0xEF then some ⟨index, 1, b - 0xE0, 1, 0x80, 0xBF⟩
  else if b == 0xF0 then some ⟨index, 1, 0, 2, 0x90, 0xBF⟩
  else if b == 0xF4 then some ⟨index, 1, 4, 2, 0x80, 0x8F⟩
  else if 0xF1 ≤ b && b ≤ 0xF3 then some ⟨index, 1, b - 0xF0, 2, 0x80, 0xBF⟩
  else none

/-- The character after one more byte. -/
def Open.extend (o : Open) (b : Nat) : Open :=
  ⟨o.index, o.read + 1, o.value * 64 + b % 64, o.pending - 1, 0x80, 0xBF⟩

/-- Reads the bytes from `index` on, perhaps within a character. -/
def decodeFrom (index : Nat) (current : Option Open) : Bytes → Except Fault Text
  | [] =>
    match current with
    | none => .ok []
    | some o => .error (.incomplete o.index)
  | b :: r =>
    let b := b.toNat
    match current with
    | none =>
      if b < 0x80 then (decodeFrom (index + 1) none r).map (Char.ofNat b :: ·)
      else
        match open? index b with
        | none => .error (.invalid 1 index)
        | some o => decodeFrom (index + 1) (some o) r
    | some o =>
      if o.low ≤ b && b ≤ o.high then
        let next := o.extend b
        if o.pending = 0 then
          (decodeFrom (index + 1) none r).map (Char.ofNat next.value :: ·)
        else decodeFrom (index + 1) (some next) r
      else .error (.invalid o.read o.index)

/-- The text that bytes spell. -/
def decode (bytes : Bytes) : Except Fault Text :=
  decodeFrom 0 none bytes

/-! ## Writing -/

/-- The bytes of a character. -/
def encodeChar (c : Char) : Bytes :=
  let n := c.toNat
  let tail := fun k => 0x80 + n / Nat.pow 64 k % 64
  List.map UInt8.ofNat <|
    if n < 0x80 then [n]
    else if n < 0x800 then [0xC0 + n / 64, tail 0]
    else if n < 0x10000 then [0xE0 + n / Nat.pow 64 2, tail 1, tail 0]
    else [0xF0 + n / Nat.pow 64 3, tail 2, tail 1, tail 0]

/-- The bytes of a text. -/
def encode (t : Text) : Bytes :=
  t.flatMap encodeChar

end Utf8

end Scaffold
