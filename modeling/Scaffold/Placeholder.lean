/-
# Placeholders and their values

A template speaks of values by name, as in

    {{.Name}}      {{ .NameKebabCase }}

A value that is given for a name also gives values for the name with a suffix,
the same name in other spellings.  A value given for a name itself always wins
over a derived one, in whatever order they come.
-/
import Scaffold.Naming
import Scaffold.Naming.Uuid
import Scaffold.Table

namespace Scaffold

/-- Values by name. -/
structure Placeholders where
  /-- Every name that has a value, each one once. -/
  values : List (Text × Text)
  /-- The names whose value was given and not derived. -/
  given : List Text

namespace Placeholders

def empty : Placeholders := ⟨[], []⟩

/-- The suffixes of derived names, and how their values are derived. -/
def variants : List (Text × (Text → Text)) := [
  ("PascalCase".toList, Naming.pascalCase),
  ("CamelCase".toList, Naming.camelCase),
  ("KebabCase".toList, Naming.kebabCase),
  ("LowerCase".toList, Naming.lowerCase),
  ("SnakeCase".toList, Naming.snakeCase),
  ("ScreamingSnakeCase".toList, Naming.screamingSnakeCase),
  ("Uuid".toList, Uuid.ofName)]

def get? (p : Placeholders) (key : Text) : Option Text :=
  p.values.lookup key

def size (p : Placeholders) : Nat :=
  p.values.length

def isEmpty (p : Placeholders) : Bool :=
  p.values.isEmpty

/-- Sets one value, whatever there was. -/
def set (p : Placeholders) (key value : Text) : Placeholders :=
  { p with values := Table.put p.values key value }

/-- Gives a value for a name, without derived ones. -/
def insert (p : Placeholders) (key value : Text) : Placeholders :=
  { p.set key value with given := key :: p.given }

/-- Sets a derived value, unless one was given for its name. -/
def derive (p : Placeholders) (key value : Text) (variant : Text × (Text → Text)) :
    Placeholders :=
  let derived := key ++ variant.1
  if p.given.contains derived then p else p.set derived (variant.2 value)

/-- Gives a value for a name and derives its other spellings. -/
def insertWithVariants (p : Placeholders) (key value : Text) : Placeholders :=
  (variants.foldl (fun q v => q.derive key value v) p).insert key value

/-- Gives several values in turn, each with its other spellings. -/
def ofPrimary (pairs : List (Text × Text)) : Placeholders :=
  pairs.foldl (fun p e => p.insertWithVariants e.1 e.2) empty

/-! ## Filling in a text -/

def isNameStart (c : Char) : Bool :=
  (c.toNat < 0x80 && c.isAlpha) || c == '_'

def isNamePart (c : Char) : Bool :=
  (c.toNat < 0x80 && c.isAlphanum) || c == '_'

/-- The name in the placeholder that the text starts with, and what stands
behind the placeholder. -/
def token? (t : Text) : Option (Text × Text) := do
  let r ← Text.after? ['{', '{'] t
  let r ← Text.after? ['.'] (Text.trimLeft r)
  match r with
  | [] => none
  | c :: r =>
    if isNameStart c then
      let rest ← Text.after? ['}', '}'] (Text.trimLeft (r.dropWhile isNamePart))
      return (c :: r.takeWhile isNamePart, rest)
    else none

/-- Fills in the text behind its first `skip` characters.  A placeholder whose
name has a value is replaced by it, and its characters are skipped; all else
stays.  A value filled in is not looked through again. -/
def fill (p : Placeholders) (skip : Nat) : Text → Text
  | [] => []
  | c :: r =>
    match skip with
    | n + 1 => fill p n r
    | 0 =>
      match token? (c :: r) with
      | none => c :: fill p 0 r
      | some (name, rest) =>
        match p.get? name with
        | some value => value ++ fill p (r.length - rest.length) r
        | none => c :: fill p 0 r

/-- Replaces the placeholders of a text by their values.  One without a value
stays as it is. -/
def substitute (p : Placeholders) (t : Text) : Text :=
  p.fill 0 t

end Placeholders

end Scaffold
