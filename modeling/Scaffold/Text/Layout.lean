/-
# Blocks of lines and their layout

A snippet is stored without the indentation it had in its template and is
indented anew where it is placed.  Whether a file holds it already must not
hang on layout, so blocks are compared by their collapsed lines.
-/
import Scaffold.Text.Lines

namespace Scaffold

/-- A run of lines. -/
abbrev Block := List Text

namespace Block

/-- The block without the blank lines at its two ends. -/
def core (b : Block) : Block :=
  ((b.dropWhile Text.allBlank).reverse.dropWhile Text.allBlank).reverse

/-- The smallest indentation of a line that is not blank, in bytes. -/
def commonIndent (b : Block) : Nat :=
  ((b.filter fun l => !Text.allBlank l).map fun l => Text.byteSize (Text.indentation l)).min?.getD 0

/-- One line with `n` bytes of indentation taken away.  Where they end inside
a character, all of the indentation goes. -/
def outdentLine (n : Nat) (l : Text) : Text :=
  if Text.allBlank l then []
  else Text.trimRight ((Text.dropBytes? n l).getD (Text.trimLeft l))

/-- The block without the blank lines at its ends, without the indentation
that its lines share, and without blanks at the ends of lines. -/
def dedent (b : Block) : Block :=
  b.core.map (outdentLine b.core.commonIndent)

/-- Every line that is not empty behind `indent`. -/
def indentBy (indent : Text) (b : Block) : Block :=
  b.map fun l => if l.isEmpty then [] else indent ++ l

/-- The collapsed lines that are not blank. -/
def normalized (b : Block) : List Text :=
  (b.map Text.collapse).filter fun l => !l.isEmpty

/-- Whether two blocks agree line by line up to blanks around the lines. -/
def sameTrimmed (a b : Block) : Bool :=
  a.map Text.trim == b.map Text.trim

end Block

end Scaffold
