/-
# Text of a double

Doubles occur in this library only inside messages about values of the wrong
kind.  There a double is written with its shortest digits, in positional form
from 10^-5 up to 10^16 and with an exponent elsewhere.
-/
import Scaffold.Text.Basic
import Scaffold.Decimal.Shortest

namespace Scaffold.Decimal

/-- A double by its bits: whether it is negative, and the number itself if it is
neither zero nor infinite nor NaN. -/
def ofBits (bits : UInt64) : Bool × Option Shortest.Binary :=
  let n := bits.toNat
  let fraction : Nat := n % Nat.pow 2 52
  let e : Nat := n / Nat.pow 2 52 % Nat.pow 2 11
  let negative := n / Nat.pow 2 63 == 1
  if e = 2047 then (negative, none)
  else if e = 0 then
    (negative, if fraction = 0 then none else some ⟨fraction, -1074, false⟩)
  else
    (negative, some ⟨Nat.pow 2 52 + fraction, (e : Int) - 1075, fraction == 0 && e != 1⟩)

def digitChar (d : Nat) : Char :=
  Char.ofNat (0x30 + d)

/-- A natural number in decimal digits. -/
def natText (n : Nat) : Text :=
  (Nat.toDigits 10 n)

/-- An integer in decimal digits. -/
def intText (i : Int) : Text :=
  match i with
  | .ofNat n => natText n
  | .negSucc n => '-' :: natText (n + 1)

/-- Digits in positional form, with at least one digit on either side of the
point. -/
def positional (d : Digits) : Text :=
  let ds := d.digits.map digitChar
  match d.exponent with
  | .ofNat e =>
    let whole := ds.take (e + 1) ++ List.replicate (e + 1 - ds.length) '0'
    let rest := ds.drop (e + 1)
    whole ++ '.' :: (if rest.isEmpty then ['0'] else rest)
  | .negSucc e => '0' :: '.' :: List.replicate e '0' ++ ds

/-- Digits with an exponent, which always has its sign. -/
def scientific (d : Digits) : Text :=
  let ds := d.digits.map digitChar
  let mantissa :=
    match ds with
    | [] => []
    | [c] => [c]
    | c :: r => c :: '.' :: r
  mantissa ++ 'e' :: (if d.exponent < 0 then '-' else '+') :: natText d.exponent.natAbs

/-- A double as text. -/
def doubleText (bits : UInt64) : Text :=
  let (negative, number) := ofBits bits
  let body :=
    match number with
    | none => "0.0".toList
    | some x =>
      let d := shortest x
      if -5 ≤ d.exponent && d.exponent ≤ 15 then positional d else scientific d
  if negative then '-' :: body else body

end Scaffold.Decimal
