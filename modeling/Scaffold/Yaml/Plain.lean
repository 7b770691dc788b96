/-
# What a plain scalar means

Where any kind of value may stand, a plain scalar is null, a truth value, a
number, or else text:

    null      ~  null  Null  NULL, or nothing
    truth     true  True  TRUE  false  False  FALSE
    integer   digits with a sign; 0x, 0o or 0b before digits of base 16, 8, 2
    double    a decimal with point or exponent; .inf and .nan in three spellings

Digits behind a needless zero are text, and so is a decimal beyond the doubles.
Integers beyond 64 bits but within 128 mean nothing.
-/
import Scaffold.Json.Shape

namespace Scaffold

namespace Yaml

def isNull (t : Text) : Bool :=
  t == "~".toList || t == "null".toList || t == "Null".toList || t == "NULL".toList

def truth? (t : Text) : Option Bool :=
  if t == "true".toList || t == "True".toList || t == "TRUE".toList then some true
  else if t == "false".toList || t == "False".toList || t == "FALSE".toList then some false
  else none

/-! ## Integers -/

/-- The value of one or more digits of a base. -/
def digitsIn? (base : Nat) (ds : Text) : Option Nat :=
  if ds.isEmpty then none
  else
    ds.foldl (fun acc d =>
      match acc, Text.hexValue? d with
      | some n, some k => if k < base then some (n * base + k) else none
      | _, _ => none) (some 0)

/-- Digits with a needless zero in front, perhaps with a sign. -/
def isPaddedNumber (t : Text) : Bool :=
  let digits := match t with
    | '-' :: r => r
    | '+' :: r => r
    | r => r
  match digits with
  | '0' :: r@(_ :: _) => r.all Char.isDigit
  | _ => false

/-- The value of digits with a mark of their base, if there is one. -/
def markedDigits? (t : Text) : Option Nat :=
  match t with
  | '0' :: 'x' :: ds => digitsIn? 16 ds
  | '0' :: 'o' :: ds => digitsIn? 8 ds
  | '0' :: 'b' :: ds => digitsIn? 2 ds
  | _ => none

/-- An integer as it is written: its sign and its size. -/
def integer? (t : Text) : Option (Bool × Nat) :=
  let magnitude? := fun (r : Text) =>
    (markedDigits? r).or (if isPaddedNumber t then none else digitsIn? 10 r)
  match t with
  | '-' :: r => (magnitude? r).map fun n => (true, n)
  | '+' :: r => (magnitude? r).map fun n => (false, n)
  | r => (magnitude? r).map fun n => (false, n)

/-! ## Doubles -/

/-- Whether m · 10^e rounds to a double that is not infinite. -/
def isFinite (m : Nat) (e : Int) : Bool :=
  let size : Int := (Nat.toDigits 10 m).length
  if m = 0 || size + e < -400 then true
  else if size + e > 400 then false
  else m * Nat.pow 10 e.toNat < (Nat.pow 2 1024 - Nat.pow 2 970) * Nat.pow 10 (-e).toNat

/-- The exponent at the end of a decimal; zero if there is none. -/
def decimalExponent? (t : Text) : Option Int :=
  match t with
  | [] => some 0
  | c :: r =>
    if c == 'e' || c == 'E' then
      match r with
      | '-' :: ds => (digitsIn? 10 ds).map fun n => -n
      | '+' :: ds => (digitsIn? 10 ds).map fun n => n
      | ds => (digitsIn? 10 ds).map fun n => n
    else none

/-- Whether the text without its sign is a decimal in the range of doubles. -/
def isDecimal (t : Text) : Bool :=
  let whole := t.takeWhile Char.isDigit
  let r := t.drop whole.length
  let (fraction, r) := match r with
    | '.' :: r => (r.takeWhile Char.isDigit, r.dropWhile Char.isDigit)
    | r => ([], r)
  match digitsIn? 10 (whole ++ fraction), decimalExponent? r with
  | some m, some e => isFinite m (e - fraction.length)
  | _, _ => false

def isDouble (t : Text) : Bool :=
  let named := fun (r : Text) =>
    r == ".inf".toList || r == ".Inf".toList || r == ".INF".toList
  let nan := t == ".nan".toList || t == ".NaN".toList || t == ".NAN".toList
  nan || match t with
    | '-' :: r => named r || isDecimal r
    | '+' :: r => named r || isDecimal r
    | r => named r || isDecimal r

/-! ## The meaning -/

/-- The value of an integer; minus zero is a double. -/
def integerValue? (negative : Bool) (n : Nat) (t : Text) : Option Json.Whole :=
  if negative && n = 0 then some (.number (.double 0))
  else if negative && n ≤ Nat.pow 2 63 then some (.number (.integer (-n)))
  else if !negative && n < Nat.pow 2 64 then some (.number (.integer n))
  else if n < Nat.pow 2 (if negative then 127 else 128) || (negative && n = Nat.pow 2 127) then none
  else if !isPaddedNumber t && isDouble t then some (.number (.double 0))
  else some (.text t)

/-- The value of a plain scalar. -/
def plainValue? (t : Text) : Option Json.Whole :=
  if t.isEmpty || isNull t then some .null
  else
    match truth? t with
    | some b => some (.bool b)
    | none =>
      match integer? t with
      | some (negative, n) => integerValue? negative n t
      | none =>
        if !isPaddedNumber t && isDouble t then some (.number (.double 0)) else some (.text t)

end Yaml

end Scaffold
