/-
# Reading JSON as far as it goes

A text is read into a *draft*: the values it holds up to the place where it
stops being JSON.  A draft keeps that place, and whether the text just ended
there or went wrong.  Whoever walks a draft from left to right therefore meets
the first error of any kind first, be it a value of an unwanted kind or the
place where the text breaks.

Some literals are wrong only for those who want their value: an escape for half
a surrogate pair, or a number beyond the doubles, can be passed over.  How deep
a text may nest is not decided here either; it depends on who asks.
-/
import Scaffold.Json.Value

namespace Scaffold

namespace Json

/-- How a text stops being JSON: it ends too early, or it holds something else. -/
inductive Fault where
  | ended
  | malformed
deriving DecidableEq, Repr

/-- A flaw in a literal: what befalls one who wants its value, and what befalls
one who passes over it, if anything does. -/
structure Flaw where
  wanted : Fault
  skipped : Option Fault
deriving DecidableEq, Repr

/-- A flaw that stops every reader. -/
def Flaw.fatal (f : Fault) : Flaw := ⟨f, some f⟩

/-- A number: an integer of 64 bits, with or without sign, or else a double. -/
inductive Numeral where
  | integer (i : Int)
  | double (bits : UInt64)
deriving DecidableEq, Repr

/-- A JSON text as far as it could be read.  Arrays and objects end with their
bracket or with the fault met in its place. -/
inductive Draft where
  | null
  | bool (b : Bool)
  | number (n : Numeral)
  | text (t : Text)
  | flawed (f : Flaw)
  | array (items : List Draft) (stop : Option Fault)
  | object (members : List (Except Flaw Text × Draft)) (stop : Option Fault)

/-! ## Blanks and words -/

def isSpace (c : Char) : Bool :=
  c == ' ' || c == '\n' || c == '\t' || c == '\r'

def skipSpace (t : Text) : Text :=
  t.dropWhile isSpace

/-- What stands behind the rest of a literal word. -/
def word? : Text → Text → Except Fault Text
  | [], t => .ok t
  | _ :: _, [] => .error .ended
  | c :: w, d :: t => if c == d then word? w t else .error .malformed

/-! ## Strings -/

/-- The value of four hexadecimal digits. -/
def hexValue4? (a b c d : Char) : Option Nat := do
  let a ← Text.hexValue? a
  let b ← Text.hexValue? b
  let c ← Text.hexValue? c
  let d ← Text.hexValue? d
  return ((a * 16 + b) * 16 + c) * 16 + d

/-- The character of an escape of one letter. -/
def escaped? (c : Char) : Option Char :=
  if c == '"' || c == '\\' || c == '/' then some c
  else if c == 'b' then some '\x08'
  else if c == 'f' then some '\x0c'
  else if c == 'n' then some '\n'
  else if c == 'r' then some '\r'
  else if c == 't' then some '\t'
  else none

def isHighSurrogate (n : Nat) : Bool :=
  0xD800 ≤ n && n ≤ 0xDBFF

def isLowSurrogate (n : Nat) : Bool :=
  0xDC00 ≤ n && n ≤ 0xDFFF

/-- The fault of an escape without four digits: too little text is left for
them, counted in bytes, or the text is something else. -/
def digitsFault (t : Text) : Fault :=
  if Text.byteSize t < 4 then .ended else .malformed

/-- The fault of what follows the first half of a surrogate pair, where it is
no second half. -/
def lowHalfFault : Text → Fault
  | [] => .ended
  | c :: r =>
    if c != '\\' then .malformed
    else
      match r with
      | [] => .ended
      | 'u' :: a :: b :: c :: d :: _ =>
        match hexValue4? a b c d with
        | some _ => .malformed
        | none => digitsFault [a, b, c, d]
      | 'u' :: r => digitsFault r
      | _ :: _ => .malformed

/-- A string being read: the text for those who want it, and what follows the
string for everyone. -/
structure Literal where
  text : Except Fault Text
  rest : Except Fault Text

namespace Literal

def failed (f : Fault) : Literal := ⟨.error f, .error f⟩

/-- The literal with one more character in front. -/
def push (c : Char) (l : Literal) : Literal :=
  { l with text := l.text.map (c :: ·) }

/-- The literal with a text that cannot be had. -/
def spoil (f : Fault) (l : Literal) : Literal :=
  { l with text := .error f }

end Literal

/-- The second half of a surrogate pair at the start of a text. -/
def lowHalf? : Text → Option Nat
  | '\\' :: 'u' :: a :: b :: c :: d :: _ => (hexValue4? a b c d).filter isLowSurrogate
  | _ => none

/-- The character of a surrogate pair. -/
def pairChar (high low : Nat) : Char :=
  Char.ofNat (0x10000 + (high - 0xD800) * 0x400 + (low - 0xDC00))

/-- Reads a string behind its opening quotation mark.  `high` is the first half
of a surrogate pair whose second half stands at the start of the text. -/
def literal (high : Option Nat) : Text → Literal
  | [] => .failed .ended
  | '"' :: r => ⟨.ok [], .ok r⟩
  | '\\' :: 'u' :: a :: b :: c :: d :: r =>
    match hexValue4? a b c d, high with
    | none, _ => .failed (digitsFault (a :: b :: c :: d :: r))
    | some low, some high => (literal none r).push (pairChar high low)
    | some n, none =>
      if isHighSurrogate n then
        match lowHalf? r with
        | some _ => literal (some n) r
        | none => (literal none r).spoil (lowHalfFault r)
      else if isLowSurrogate n then (literal none r).spoil .malformed
      else (literal none r).push (Char.ofNat n)
  | '\\' :: 'u' :: r => .failed (digitsFault r)
  | '\\' :: c :: r =>
    match escaped? c with
    | some d => (literal none r).push d
    | none => .failed .malformed
  | '\\' :: [] => .failed .ended
  | c :: r => if c.toNat < 0x20 then .failed .malformed else (literal none r).push c

/-- The text of a literal or its flaw, and what follows if reading can go on. -/
def Literal.split (l : Literal) : Except Flaw Text × Option Text :=
  match l.text, l.rest with
  | .ok t, .ok r => (.ok t, some r)
  | .ok _, .error f => (.error (.fatal f), none)
  | .error f, .ok r => (.error ⟨f, none⟩, some r)
  | .error f, .error g => (.error ⟨f, some g⟩, none)

/-! ## Numbers -/

def isDigit (c : Char) : Bool :=
  0x30 ≤ c.toNat && c.toNat ≤ 0x39

/-- The parts of a number as it is written. -/
structure Written where
  negative : Bool
  whole : Text
  fraction : Text
  /-- Sign and digits of the exponent, if there is one. -/
  exponent : Option (Bool × Text)

/-- The flaw of a number that lacks digits: at the end of the text only those
who want the number call it unfinished. -/
def missingDigits (t : Text) : Flaw :=
  if t.isEmpty then ⟨.ended, some .malformed⟩ else .fatal .malformed

/-- The digits a text starts with, of which there is at least one. -/
def digits1? (t : Text) : Except Flaw (Text × Text) :=
  match t.takeWhile isDigit with
  | [] => .error (missingDigits t)
  | ds => .ok (ds, t.dropWhile isDigit)

/-- A point with digits behind it, if there is a point. -/
def fraction? (t : Text) : Except Flaw (Text × Text) :=
  match t with
  | '.' :: r => digits1? r
  | _ => .ok ([], t)

/-- A sign; a missing one is a plus. -/
def exponentSign (t : Text) : Bool × Text :=
  match t with
  | '+' :: r => (false, r)
  | '-' :: r => (true, r)
  | _ => (false, t)

/-- An exponent, if there is one. -/
def exponent? (t : Text) : Except Flaw (Option (Bool × Text) × Text) :=
  match t with
  | c :: r =>
    if c == 'e' || c == 'E' then
      let (negative, r) := exponentSign r
      match digits1? r with
      | .error f => .error f
      | .ok (ds, rest) => .ok (some (negative, ds), rest)
    else .ok (none, t)
  | [] => .ok (none, t)

/-- The digits before the point, without needless zeros in front. -/
def whole? (t : Text) : Except Flaw (Text × Text) :=
  match digits1? t with
  | .error f => .error f
  | .ok (ds, rest) =>
    match ds with
    | '0' :: _ :: _ => .error (.fatal .malformed)
    | _ => .ok (ds, rest)

/-- Reads the parts of a number. -/
def written? (t : Text) : Except Flaw (Written × Text) := do
  let (negative, t) := match t with
    | '-' :: r => (true, r)
    | _ => (false, t)
  let (whole, t) ← whole? t
  let (fraction, t) ← fraction? t
  let (exponent, t) ← exponent? t
  return (⟨negative, whole, fraction, exponent⟩, t)

def digitsValue (ds : Text) : Nat :=
  ds.foldl (fun n d => n * 10 + (d.toNat - 0x30)) 0

/-- As many digits as fit into 64 bits, and how many were left over. -/
def significand : Nat → Text → Nat × Nat
  | n, [] => (n, 0)
  | n, d :: ds =>
    let m := n * 10 + (d.toNat - 0x30)
    if m < Nat.pow 2 64 then significand m ds else (n, (d :: ds).length)

/-- A double times a power of ten, rounded in one step for powers up to 308 and
in several beyond; `none` if it is out of range.  `steps` bounds their number. -/
def scale? : Nat → Float → Int → Option Float
  | 0, x, _ => some x
  | steps + 1, x, e =>
    if e.natAbs ≤ 308 then
      if 0 ≤ e then
        let y := x * Float.ofScientific 1 false e.natAbs
        if y.isInf then none else some y
      else some (x / Float.ofScientific 1 false e.natAbs)
    else if x == 0.0 then some x
    else if 0 ≤ e then none
    else scale? steps (x / 1e308) (e + 308)

/-- The power of ten of the last digit that counts; `none` if the exponent does
not fit into 32 bits. -/
def exponentValue? (w : Written) : Option Int :=
  match w.exponent with
  | none => some 0
  | some (negative, ds) =>
    let n := digitsValue ds
    if n < Nat.pow 2 31 then some (if negative then -n else n) else none

/-- The double that is written: the significant digits that fit into 64 bits,
scaled; `none` if it is out of range. -/
def Written.double? (w : Written) : Option Float :=
  let (m, wholeLeft) := significand 0 w.whole
  let (m, fractionLeft) := significand m w.fraction
  let signed := fun (x : Float) => if w.negative then -x else x
  match exponentValue? w with
  | none =>
    if m != 0 && (w.exponent.any fun e => !e.1) then none else some (signed 0.0)
  | some e =>
    let lastDigit : Int := wholeLeft - (w.fraction.length - fractionLeft)
    (scale? 2000 (Float.ofNat m) (lastDigit + e)).map signed

/-- The number that is written.  It is an integer if it has neither point nor
exponent and fits into 64 bits. -/
def Written.numeral? (w : Written) : Option Numeral :=
  let n := digitsValue w.whole
  let asDouble := w.double?.map fun x => Numeral.double x.toBits
  if w.fraction.isEmpty && w.exponent.isNone && n < Nat.pow 2 64 then
    if !w.negative then some (.integer n)
    else if n != 0 && n ≤ Nat.pow 2 63 then some (.integer (-n))
    else asDouble
  else asDouble

/-- Reads a number. -/
def numberDraft (t : Text) : Draft × Option Text :=
  match written? t with
  | .error f => (.flawed f, none)
  | .ok (w, rest) =>
    match w.numeral? with
    | some n => (.number n, some rest)
    | none => (.flawed ⟨.malformed, none⟩, some rest)

/-! ## Values -/

/-- A draft for a text that breaks off. -/
def broken (f : Fault) : Draft × Option Text :=
  (.flawed (.fatal f), none)

/-- A word with its value. -/
def wordDraft (value : Draft) (rest : Except Fault Text) : Draft × Option Text :=
  match rest with
  | .ok r => (value, some r)
  | .error f => broken f

mutual

/-- Reads a value and returns what follows it, if reading can go on.  The number
bounds the nesting of calls. -/
def readValue : Nat → Text → Draft × Option Text
  | 0, _ => broken .malformed
  | n + 1, t =>
    match skipSpace t with
    | [] => broken .ended
    | '[' :: r =>
      match skipSpace r with
      | [] => (.array [] (some .ended), none)
      | ']' :: s => (.array [] none, some s)
      | s =>
        let (items, stop, rest) := readItems n s
        (.array items stop, rest)
    | '{' :: r =>
      match skipSpace r with
      | [] => (.object [] (some .ended), none)
      | '}' :: s => (.object [] none, some s)
      | s =>
        let (members, stop, rest) := readMembers n s
        (.object members stop, rest)
    | '"' :: r =>
      match (literal none r).split with
      | (.ok t, rest) => (.text t, rest)
      | (.error f, rest) => (.flawed f, rest)
    | 'n' :: r => wordDraft .null (word? "ull".toList r)
    | 't' :: r => wordDraft (.bool true) (word? "rue".toList r)
    | 'f' :: r => wordDraft (.bool false) (word? "alse".toList r)
    | c :: r => if c == '-' || isDigit c then numberDraft (c :: r) else broken .malformed

/-- Reads the items of an array from the first one on. -/
def readItems : Nat → Text → List Draft × Option Fault × Option Text
  | 0, _ => ([], some .malformed, none)
  | n + 1, t =>
    let (v, rest) := readValue n t
    match rest with
    | none => ([v], some .malformed, none)
    | some r =>
      match skipSpace r with
      | [] => ([v], some .ended, none)
      | ']' :: s => ([v], none, some s)
      | ',' :: s =>
        let (vs, stop, rest) := readItems n s
        (v :: vs, stop, rest)
      | _ => ([v], some .malformed, none)

/-- Reads the members of an object from the first one on. -/
def readMembers : Nat → Text → List (Except Flaw Text × Draft) × Option Fault × Option Text
  | 0, _ => ([], some .malformed, none)
  | n + 1, t =>
    match skipSpace t with
    | [] => ([], some .ended, none)
    | '"' :: r =>
      let (key, rest) := (literal none r).split
      match rest.map skipSpace with
      | none => ([(key, .flawed (.fatal .malformed))], some .malformed, none)
      | some [] => ([(key, .flawed (.fatal .ended))], some .ended, none)
      | some (':' :: s) =>
        let (v, rest) := readValue n s
        match rest with
        | none => ([(key, v)], some .malformed, none)
        | some r =>
          match skipSpace r with
          | [] => ([(key, v)], some .ended, none)
          | '}' :: s => ([(key, v)], none, some s)
          | ',' :: s =>
            let (ms, stop, rest) := readMembers n s
            ((key, v) :: ms, stop, rest)
          | _ => ([(key, v)], some .malformed, none)
      | some _ => ([(key, .flawed (.fatal .malformed))], some .malformed, none)
    | _ => ([], some .malformed, none)

end

/-- A whole text: its value, and whether something else follows. -/
structure Document where
  value : Draft
  trailing : Bool

/-- Reads a whole text. -/
def readDocument (t : Text) : Document :=
  let (v, rest) := readValue (2 * t.length + 2) t
  ⟨v, rest.any fun r => !(skipSpace r).isEmpty⟩

mutual

/-- The draft of a value that is all there. -/
def toDraft : Json → Draft
  | null => .null
  | bool b => .bool b
  | int i => .number (.integer i)
  | text t => .text t
  | array items => .array (itemDrafts items) none
  | object members => .object (memberDrafts members) none

def itemDrafts : List Json → List Draft
  | [] => []
  | v :: r => toDraft v :: itemDrafts r

def memberDrafts : List (Text × Json) → List (Except Flaw Text × Draft)
  | [] => []
  | (k, v) :: r => (.ok k, toDraft v) :: memberDrafts r

end

end Json

end Scaffold
