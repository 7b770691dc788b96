/-
# The fewest digits that read back

A floating-point number stands for the interval of reals that round to it.
Its shortest decimal is the one with the fewest digits inside that interval,
and the nearest to the number among those; of two equally near ones it is the
one with the even last digit.

The number is m · 2^q with m > 0.  The ends of the interval lie half a step
away; below a power of two the step, and so the distance, is half as large.
Both ends belong to the interval if m is even.  All is counted in quarters of
a step, so that the ends are whole, and compared as fractions of naturals.
-/
namespace Scaffold.Decimal

/-- A positive decimal: its digits, the first of them not zero, and the power
of ten of the first digit. -/
structure Digits where
  digits : List Nat
  exponent : Int
deriving DecidableEq, Repr

namespace Shortest

/-- A positive number m · 2^q, with `narrow` set if the step below it is half
the step above. -/
structure Binary where
  m : Nat
  q : Int
  narrow : Bool

/-- Compares `a · 2^p` with `b · 10^k`: is the first at most the second? -/
def le (a : Nat) (p : Int) (b : Nat) (k : Int) : Bool :=
  a * Nat.pow 2 p.toNat * Nat.pow 10 (-k).toNat ≤ b * Nat.pow 10 k.toNat * Nat.pow 2 (-p).toNat

/-- The same with the order turned round. -/
def ge (a : Nat) (p : Int) (b : Nat) (k : Int) : Bool :=
  b * Nat.pow 10 k.toNat * Nat.pow 2 (-p).toNat ≤ a * Nat.pow 2 p.toNat * Nat.pow 10 (-k).toNat

/-- Whether `b · 10^k` rounds to the number. -/
def readsBack (x : Binary) (b : Nat) (k : Int) : Bool :=
  let low := 4 * x.m - (if x.narrow then 1 else 2)
  let high := 4 * x.m + 2
  let p := x.q - 2
  if x.m % 2 = 0 then le low p b k && ge high p b k
  else !ge low p b k && !le high p b k

/-- The largest `b` with `b · 10^k` not above the number. -/
def floorOn (x : Binary) (k : Int) : Nat :=
  (x.m * Nat.pow 2 x.q.toNat * Nat.pow 10 (-k).toNat) /
    (Nat.pow 10 k.toNat * Nat.pow 2 (-x.q).toNat)

/-- Whether the point above goes before the point `b` below: it is nearer to the
number, or as near and even. -/
def prefersAbove (x : Binary) (b : Nat) (k : Int) : Bool :=
  !le (2 * x.m) x.q (2 * b + 1) k || (ge (2 * x.m) x.q (2 * b + 1) k && b % 2 == 1)

/-- The point of a grid to write the number with, if one reads back. -/
def onGrid? (x : Binary) (k : Int) : Option Nat :=
  let b := floorOn x k
  match readsBack x b k && b != 0, readsBack x (b + 1) k with
  | true, true => some (if prefersAbove x b k then b + 1 else b)
  | true, false => some b
  | false, true => some (b + 1)
  | false, false => none

/-- The power of ten of the first digit, looked for from `e` downwards. -/
def magnitude (x : Binary) : Nat → Int → Int
  | 0, e => e
  | n + 1, e => if ge x.m x.q 1 e then e else magnitude x n (e - 1)

/-- Tries the grids of ever more digits. -/
def search (x : Binary) (e : Int) : Nat → Nat → Nat × Int
  | 0, count => (floorOn x (e - count), e - count)
  | n + 1, count =>
    match onGrid? x (e - count) with
    | some b => (b, e - count)
    | none => search x e n (count + 1)

end Shortest

/-- The decimal digits of a natural number, at most `n` of them. -/
def digitsOf : Nat → Nat → List Nat
  | 0, _ => []
  | n + 1, b => if b < 10 then [b] else digitsOf n (b / 10) ++ [b % 10]

/-- Digits without zeros at the end. -/
def dropZeros (ds : List Nat) : List Nat :=
  (ds.reverse.dropWhile (· == 0)).reverse

/-- The shortest decimal of a positive number in the range of doubles. -/
def shortest (x : Shortest.Binary) : Digits :=
  let e := Shortest.magnitude x 640 309
  let (b, k) := Shortest.search x e 17 0
  let ds := digitsOf 20 b
  ⟨dropZeros ds, k + (ds.length - 1)⟩

end Scaffold.Decimal
