/-
# Files as lists of lines

A line feed ends a line, and so does a carriage return together with the line
feed after it; a carriage return elsewhere belongs to its line.  A file keeps
one line ending for all its lines: the two-character one as soon as it occurs
anywhere.  A file remembers whether its last line was ended, so a file with
one kind of line ending is put together again exactly as it was.
-/
import Scaffold.Text.Basic

namespace Scaffold

namespace Text

/-- The lines of a text, without what ends them. -/
def lines : Text → List Text
  | [] => []
  | '\n' :: r => [] :: lines r
  | '\r' :: '\n' :: r => [] :: lines r
  | c :: r => pushFirst c (lines r)

/-- Whether a carriage return stands right before a line feed. -/
def hasCrlf : Text → Bool
  | '\r' :: '\n' :: _ => true
  | _ :: r => hasCrlf r
  | [] => false

/-- Whether the text ends with a line feed. -/
def endsLine (t : Text) : Bool :=
  t.getLast? == some '\n'

/-- Lines with a line feed between any two of them. -/
def unlines (ls : List Text) : Text :=
  List.intercalate ['\n'] ls

/-- Lines with a line feed between any two of them, and one more at the end if
`ended` says so and there is any text. -/
def unlinesEnded (ls : List Text) (ended : Bool) : Text :=
  let t := unlines ls
  if ended && !t.isEmpty then t ++ ['\n'] else t

end Text

/-- What ends the lines of a file. -/
inductive LineEnding where
  | lf
  | crlf
deriving DecidableEq, Repr

def LineEnding.text : LineEnding → Text
  | .lf => ['\n']
  | .crlf => ['\r', '\n']

/-- A file split into its lines, and what is needed to join them again. -/
structure Lines where
  lines : List Text
  ending : LineEnding
  /-- Whether the last line is ended as well. -/
  ended : Bool
deriving DecidableEq, Repr

namespace Lines

def ofText (t : Text) : Lines where
  lines := t.lines
  ending := if t.hasCrlf then .crlf else .lf
  ended := t.endsLine

/-- Other lines in the manner of this file. -/
def render (file : Lines) (ls : List Text) : Text :=
  List.intercalate file.ending.text ls
    ++ (if file.ended && !ls.isEmpty then file.ending.text else [])

/-- The file as one text. -/
def toText (file : Lines) : Text :=
  file.render file.lines

end Lines

end Scaffold
