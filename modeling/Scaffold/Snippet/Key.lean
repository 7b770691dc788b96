/-
# Which snippet a key means

A marker's key need not be spelled like the key of the snippet it means.  An
equal key wins.  Otherwise keys are compared in normal form, letters and
digits only and in capitals, and these count in turn:

    1. the first key that is equal to the wanted one,
    2. the shortest key that contains it, the first of several,
    3. the first key that it contains.

A key without letters and digits has an empty normal form and takes no part.
-/
import Scaffold.Snippet
import Scaffold.Unicode.Letter
import Scaffold.Unicode.Casing

namespace Scaffold

namespace Key

/-- Letters and digits of a key, in capitals. -/
def normalize (key : Text) : Text :=
  (key.filter Unicode.isAlphanumeric).flatMap Unicode.toUpper

/-- The first of the members with the least value of `f`. -/
def firstLeast? {α : Type} (f : α → Nat) : List α → Option α
  | [] => none
  | a :: r =>
    match firstLeast? f r with
    | none => some a
    | some b => if f b < f a then some b else some a

theorem firstLeast?_eq_none {α : Type} {f : α → Nat} {l : List α} :
    firstLeast? f l = none ↔ l = [] := by
  cases l with
  | nil => simp [firstLeast?]
  | cons a r =>
    simp only [firstLeast?, reduceCtorEq, iff_false]
    split
    · simp
    · split <;> simp

end Key

namespace SnippetMap

/-- The entry meant by a normal form that is not empty. -/
def resolveNormal? (m : SnippetMap) (target : Text) : Option (Text × Block) :=
  let candidates := m.entries.filter fun e => !(Key.normalize e.1).isEmpty
  let equal := candidates.find? fun e => Key.normalize e.1 == target
  let containing := Key.firstLeast? (fun e => Text.byteSize (Key.normalize e.1))
    (candidates.filter fun e => Text.hasRun target (Key.normalize e.1))
  let contained := candidates.find? fun e => Text.hasRun (Key.normalize e.1) target
  equal.or (containing.or contained)

/-- The entry that a key means. -/
def resolve? (m : SnippetMap) (key : Text) : Option (Text × Block) :=
  match m.find? key with
  | some e => some e
  | none =>
    let target := Key.normalize key
    if target.isEmpty then none else m.resolveNormal? target

end SnippetMap

end Scaffold
