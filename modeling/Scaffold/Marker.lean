/-
# Marker comments

Three kinds of comment lines steer the merging of files:

    // START OF <key>      a snippet begins
    // END OF <key>        it ends
    // ADD <key> ABOVE     here snippets are added, above or below this line
    // ADD <key> BELOW

A marker takes a whole line.  Blanks may stand around each of its parts, and
the key is what is left between them: any text within one line, inner blanks
included.

The ADD form is read like this: after `ADD` go as many blanks as possible,
then the shortest key that leaves blanks and a position word up to the end.
Only if that fails may the key begin earlier, with one of the blanks.
-/
import Scaffold.Text.Lines

namespace Scaffold

/-- Where an ADD marker wants its snippet, seen from its own line. -/
inductive Position where
  | above
  | below
deriving DecidableEq, Repr

def Position.word : Position → Text
  | .above => "ABOVE".toList
  | .below => "BELOW".toList

inductive Marker where
  | start (key : Text)
  | stop (key : Text)
  | add (key : Text) (position : Position)
deriving DecidableEq, Repr

namespace Marker

/-! ## Reading a line -/

/-- Tries `next` behind a run of one or more blanks, the longest run first. -/
def behindBlanks {α : Type} (next : Text → Option α) : Text → Option α
  | [] => none
  | c :: r =>
    if Text.isBlank c then
      match behindBlanks next r with
      | some a => some a
      | none => next r
    else none

/-- The shortest key, of one character or more and within one line, behind
which `next` succeeds. -/
def shortestKey {α : Type} (next : Text → Option α) : Text → Option (Text × α)
  | [] => none
  | c :: r =>
    if c == '\n' then none
    else
      match next r with
      | some a => some ([c], a)
      | none => (shortestKey next r).map fun (key, a) => (c :: key, a)

/-- A position word and nothing but blanks behind it. -/
def closingPosition? (t : Text) : Option Position :=
  let word := Text.trimRight t
  if word == Position.above.word then some .above
  else if word == Position.below.word then some .below
  else none

/-- Blanks and a position word, up to the end of the text. -/
def positionTail? (t : Text) : Option Position :=
  match t with
  | [] => none
  | c :: r => if Text.isBlank c then closingPosition? (Text.trimLeft r) else none

/-- What stands behind the two slashes of a comment line. -/
def commentBody? (line : Text) : Option Text :=
  (Text.after? "//".toList (Text.trimLeft line)).map Text.trimLeft

/-- Reads the ADD form. -/
def add? (line : Text) : Option Marker := do
  let body ← commentBody? line
  let rest ← Text.after? "ADD".toList body
  let (key, position) ← behindBlanks (shortestKey positionTail?) rest
  return .add key position

/-- The key of a START or END line: everything up to the end without the
blanks around it.  It is not empty and lies within one line. -/
def blockKey? (rest : Text) : Option Text :=
  match rest with
  | [] => none
  | c :: r =>
    if Text.isBlank c then
      let key := Text.trim r
      if key.isEmpty || key.contains '\n' then none else some key
    else none

/-- Reads the START and END forms. -/
def block? (line : Text) : Option Marker :=
  match commentBody? line with
  | none => none
  | some body =>
    match Text.after? "START OF".toList body with
    | some rest => (blockKey? rest).map .start
    | none =>
      match Text.after? "END OF".toList body with
      | some rest => (blockKey? rest).map .stop
      | none => none

/-- The marker on a line, if the line is one. -/
def ofLine? (line : Text) : Option Marker :=
  match add? line with
  | some m => some m
  | none => block? line

/-- Whether a line is a marker. -/
def isMarker (line : Text) : Bool :=
  (ofLine? line).isSome

/-- The key and position of an ADD marker. -/
def addPair? : Marker → Option (Text × Position)
  | .add key position => some (key, position)
  | _ => none

/-! ## Markers of a file -/

/-- Whether any line of the text is a marker. -/
def anyIn (t : Text) : Bool :=
  t.lines.any isMarker

/-- The ADD markers among some lines, in order. -/
def addsOfLines (ls : List Text) : List (Text × Position) :=
  ls.filterMap fun l => (ofLine? l).bind addPair?

/-- The ADD markers of a text, in order. -/
def addsIn (t : Text) : List (Text × Position) :=
  addsOfLines t.lines

/-- Whether the text has an ADD marker with this key, in either position. -/
def hasAdd (t key : Text) : Bool :=
  (addsIn t).any fun m => m.1 == key

/-! ## Writing -/

/-- An ADD marker as a line of its own. -/
def addLine (indent key : Text) (position : Position) : Text :=
  indent ++ "// ADD ".toList ++ key ++ [' '] ++ position.word

/-- Whether a line stays in a new file: START and END lines never do, ADD lines
only on request. -/
def staysInNewFile (keepAdds : Bool) (line : Text) : Bool :=
  match ofLine? line with
  | some (.start _) => false
  | some (.stop _) => false
  | some (.add _ _) => keepAdds
  | none => true

/-- The body of a file that does not exist yet: the template's text without its
markers.  The code of the snippets stays where it is. -/
def strip (t : Text) (keepAdds : Bool) : Text :=
  Text.unlinesEnded (t.lines.filter (staysInNewFile keepAdds)) t.endsLine

end Marker

end Scaffold
