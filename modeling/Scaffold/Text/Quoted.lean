/-
# Texts quoted in messages

A message quotes a text between quotation marks and escapes what cannot be
shown: `\n`, `\t`, `\r` and `\0` for the best known, `\u` with the code point in
braces for the rest.  A path is quoted with its apostrophes escaped as well.
-/
import Scaffold.Text.Basic
import Scaffold.Unicode.Shown

namespace Scaffold.Text

/-- A code point in hexadecimal digits. -/
def hexText (n : Nat) : Text :=
  Nat.toDigits 16 n

/-- One character of a quoted text. -/
def quotedChar (c : Char) : Text :=
  if c == '\x00' then ['\\', '0']
  else if c == '\t' then ['\\', 't']
  else if c == '\r' then ['\\', 'r']
  else if c == '\n' then ['\\', 'n']
  else if c == '\\' then ['\\', '\\']
  else if c == '"' then ['\\', '"']
  else if Unicode.isShown c then [c]
  else ['\\', 'u', '\x7b'] ++ hexText c.toNat ++ ['\x7d']

/-- A text between quotation marks. -/
def quoted (t : Text) : Text :=
  '"' :: t.flatMap quotedChar ++ ['"']

/-- A path between quotation marks. -/
def quotedPath (t : Text) : Text :=
  '"' :: t.flatMap (fun c => if c == '\'' then ['\\', '\''] else quotedChar c) ++ ['"']

end Scaffold.Text
