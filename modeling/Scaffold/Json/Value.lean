/-
# JSON values and their compact form

Members of an object keep their order.  In a written text a quotation mark, a
backslash and every control character is escaped, and nothing else is.
-/
import Scaffold.Text.Hex
import Scaffold.Decimal.Double

namespace Scaffold

/-- A JSON value whose numbers are integers. -/
inductive Json where
  | null
  | bool (b : Bool)
  | int (i : Int)
  | text (t : Text)
  | array (items : List Json)
  | object (members : List (Text × Json))

namespace Json

/-- One character inside a string. -/
def escapeChar (c : Char) : Text :=
  if c == '"' then ['\\', '"']
  else if c == '\\' then ['\\', '\\']
  else if c == '\n' then ['\\', 'n']
  else if c == '\r' then ['\\', 'r']
  else if c == '\t' then ['\\', 't']
  else if c == '\x08' then ['\\', 'b']
  else if c == '\x0c' then ['\\', 'f']
  else if c.toNat < 0x20 then
    ['\\', 'u', '0', '0'] ++ Text.hexPair c.toNat
  else [c]

/-- A string with its quotation marks. -/
def renderText (t : Text) : Text :=
  '"' :: t.flatMap escapeChar ++ ['"']

mutual

/-- A value in compact form. -/
def render : Json → Text
  | null => "null".toList
  | bool true => "true".toList
  | bool false => "false".toList
  | int i => Decimal.intText i
  | text t => renderText t
  | array items => '[' :: renderItems items
  | object members => '\x7b' :: renderMembers members

/-- Items behind the opening bracket. -/
def renderItems : List Json → Text
  | [] => [']']
  | [v] => render v ++ [']']
  | v :: w :: r => render v ++ ',' :: renderItems (w :: r)

/-- Members behind the opening brace. -/
def renderMembers : List (Text × Json) → Text
  | [] => ['\x7d']
  | [(k, v)] => renderText k ++ ':' :: render v ++ ['\x7d']
  | (k, v) :: m :: r => renderText k ++ ':' :: render v ++ ',' :: renderMembers (m :: r)

end

mutual

/-- How deep arrays and objects lie in each other. -/
def depth : Json → Nat
  | array items => depthItems items + 1
  | object members => depthMembers members + 1
  | _ => 0

def depthItems : List Json → Nat
  | [] => 0
  | v :: r => max (depth v) (depthItems r)

def depthMembers : List (Text × Json) → Nat
  | [] => 0
  | (_, v) :: r => max (depth v) (depthMembers r)

end

end Json

end Scaffold
