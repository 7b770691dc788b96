/-
# Expecting a shape

A template is more than JSON: members have names and kinds.  The readers here
take a draft apart by what is expected and answer with the first thing wrong,
in the order of the text.  What is found in place of the expected is named by
its kind, with its value where that is short.

Arrays and objects whose members matter may nest in each other 127 times;
`level` counts down from 128.
-/
import Scaffold.Json.Draft
import Scaffold.Text.Quoted

namespace Scaffold

namespace Json

/-- What a value is, as far as a message tells. -/
inductive Found where
  | null
  | bool (b : Bool)
  | number (n : Numeral)
  | text (t : Text)
  | sequence
  | map
deriving DecidableEq, Repr

/-- A value that is not of the expected shape. -/
inductive Mismatch where
  | missingField (name : Text)
  | duplicateField (name : Text)
  | wrongKind (found : Found) (wanted : Text)
  | wrongValue (found : Found) (wanted : Text)
  | wrongLength (length : Nat) (wanted : Text)
  | unknownVariant (name : Text) (known : List Text)
deriving DecidableEq, Repr

/-- Why a text is not the JSON that is expected. -/
inductive Error where
  | fault (f : Fault)
  | mismatch (m : Mismatch)
deriving DecidableEq, Repr

/-! ## Messages -/

def Found.message : Found → Text
  | null => "null".toList
  | bool true => "boolean `true`".toList
  | bool false => "boolean `false`".toList
  | number (.integer i) => "integer `".toList ++ Decimal.intText i ++ ['`']
  | number (.double bits) => "floating point `".toList ++ Decimal.doubleText bits ++ ['`']
  | text t => "string ".toList ++ Text.quoted t
  | sequence => "sequence".toList
  | map => "map".toList

/-- A name between backquotes. -/
def ticked (t : Text) : Text :=
  '`' :: t ++ ['`']

/-- The possible names in words. -/
def choices : List Text → Text
  | [] => "there are no variants".toList
  | [a] => "expected ".toList ++ ticked a
  | [a, b] => "expected ".toList ++ ticked a ++ " or ".toList ++ ticked b
  | names => "expected one of ".toList ++ List.intercalate ", ".toList (names.map ticked)

def Mismatch.message : Mismatch → Text
  | missingField name => "missing field ".toList ++ ticked name
  | duplicateField name => "duplicate field ".toList ++ ticked name
  | wrongKind found wanted =>
    "invalid type: ".toList ++ found.message ++ ", expected ".toList ++ wanted
  | wrongValue found wanted =>
    "invalid value: ".toList ++ found.message ++ ", expected ".toList ++ wanted
  | wrongLength length wanted =>
    "invalid length ".toList ++ Decimal.natText length ++ ", expected ".toList ++ wanted
  | unknownVariant name known =>
    "unknown variant ".toList ++ ticked name ++ ", ".toList ++ choices known

def Fault.message : Fault → Text
  | ended => "the text ends too early".toList
  | malformed => "the text is not well formed".toList

def Error.message : Error → Text
  | fault f => f.message
  | mismatch m => m.message

/-! ## Simple shapes -/

def failWith {α : Type} (m : Mismatch) : Except Error α :=
  .error (.mismatch m)

def failAt {α : Type} (f : Fault) : Except Error α :=
  .error (.fault f)

/-- What a draft is, or the fault in its way. -/
def Draft.found : Draft → Except Error Found
  | .null => .ok .null
  | .bool b => .ok (.bool b)
  | .number n => .ok (.number n)
  | .text t => .ok (.text t)
  | .flawed f => failAt f.wanted
  | .array _ _ => .ok .sequence
  | .object _ _ => .ok .map

/-- The error of a draft that is of another kind. -/
def Draft.refuse {α : Type} (d : Draft) (wanted : Text) : Except Error α := do
  let found ← d.found
  failWith (.wrongKind found wanted)

def Draft.expectText (d : Draft) (wanted : Text) : Except Error Text :=
  match d with
  | .text t => .ok t
  | d => d.refuse wanted

def Draft.string (d : Draft) : Except Error Text :=
  d.expectText "a string".toList

def Draft.boolean (d : Draft) : Except Error Bool :=
  match d with
  | .bool b => .ok b
  | d => d.refuse "a boolean".toList

/-- The name of a member. -/
def memberName (key : Except Flaw Text) : Except Error Text :=
  match key with
  | .ok t => .ok t
  | .error f => failAt f.wanted

/-- The end of an array or object. -/
def close (stop : Option Fault) : Except Error Unit :=
  match stop with
  | none => .ok ()
  | some f => failAt f

/-- The level inside one more array or object. -/
def enter (level : Nat) : Except Error Nat :=
  if level ≤ 1 then failAt .malformed else .ok (level - 1)

/-- The end of an array of which all expected items are read. -/
def closeRow (rest : List Draft) (stop : Option Fault) : Except Error Unit :=
  match rest with
  | [] => close stop
  | _ :: _ => failAt .malformed

/-! ## Passing over a value -/

mutual

/-- Passes over a value that nobody asked for, however deep it nests. -/
def Draft.skip : Draft → Except Error Unit
  | .flawed f => close f.skipped
  | .array items stop => skipItems items stop
  | .object members stop => skipMembers members stop
  | _ => .ok ()

def skipItems : List Draft → Option Fault → Except Error Unit
  | [], stop => close stop
  | d :: r, stop => do
    d.skip
    skipItems r stop

def skipMembers : List (Except Flaw Text × Draft) → Option Fault → Except Error Unit
  | [], stop => close stop
  | (key, d) :: r, stop => do
    match key with
    | .ok _ => pure ()
    | .error f => close f.skipped
    d.skip
    skipMembers r stop

end

/-! ## Whole values -/

/-- A value of any kind, read to its end.  Names may be numbers in formats that
know more than strings as names. -/
inductive Whole where
  | null
  | bool (b : Bool)
  | number (n : Numeral)
  | text (t : Text)
  | sequence (items : List Whole)
  | map (members : List (Whole × Whole))

def Whole.found : Whole → Found
  | .null => .null
  | .bool b => .bool b
  | .number n => .number n
  | .text t => .text t
  | .sequence _ => .sequence
  | .map _ => .map

mutual

/-- Reads a value of any kind to its end. -/
def Draft.whole (level : Nat) : Draft → Except Error Whole
  | .null => .ok .null
  | .bool b => .ok (.bool b)
  | .number n => .ok (.number n)
  | .text t => .ok (.text t)
  | .flawed f => failAt f.wanted
  | .array items stop => do
    let level ← enter level
    return .sequence (← wholeItems level items stop)
  | .object members stop => do
    let level ← enter level
    return .map (← wholeMembers level members stop)

def wholeItems (level : Nat) : List Draft → Option Fault → Except Error (List Whole)
  | [], stop => do
    close stop
    return []
  | d :: r, stop => do
    let v ← d.whole level
    return v :: (← wholeItems level r stop)

def wholeMembers (level : Nat) :
    List (Except Flaw Text × Draft) → Option Fault → Except Error (List (Whole × Whole))
  | [], stop => do
    close stop
    return []
  | (key, d) :: r, stop => do
    let name ← memberName key
    let v ← d.whole level
    return (.text name, v) :: (← wholeMembers level r stop)

end

end Json

end Scaffold
