/-
# Tables of code points

A Unicode property is written down as a list of spans in ascending order.  A
span is a pair of its first and last code point; a stride is a span of which
every `step`-th member counts, for alphabets in which capitals and small
letters alternate.
-/
namespace Scaffold.Unicode

/-- First and last code point of a run. -/
abbrev Span := Nat × Nat

/-- First and last code point of a run, and the step between its members. -/
abbrev Stride := Nat × Nat × Nat

def Span.holds (s : Span) (n : Nat) : Bool :=
  s.1 ≤ n && n ≤ s.2

def Span.anyHolds (spans : List Span) (n : Nat) : Bool :=
  spans.any fun s => s.holds n

def Stride.holds (s : Stride) (n : Nat) : Bool :=
  s.1 ≤ n && n ≤ s.2.1 && (n - s.1) % s.2.2 == 0

def Stride.anyHolds (strides : List Stride) (n : Nat) : Bool :=
  strides.any fun s => s.holds n

theorem Span.anyHolds_eq_true {spans : List Span} {n : Nat} :
    anyHolds spans n = true ↔ ∃ s ∈ spans, s.1 ≤ n ∧ n ≤ s.2 := by
  simp [anyHolds, holds]

end Scaffold.Unicode
