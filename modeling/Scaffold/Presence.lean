/-
# Whether a file holds a snippet already

Three signs count, each of them blind to layout:

    * the lines of the snippet stand in the file next to each other,
    * its first line imports a module that the file imports,
    * its first line is an entry with a comma that the file has.

A snippet without any text is always there.
-/
import Scaffold.Text.Layout
import Scaffold.LineKind

namespace Scaffold

namespace Presence

/-- Whether some line imports the module that `first` imports. -/
def importsSame (file : List Text) (first : Text) : Bool :=
  match LineKind.importedModule? first with
  | none => false
  | some m => file.any fun l => LineKind.importedModule? l == some m

/-- Whether `first` ends with a comma and some line is equal up to blanks. -/
def listsSame (file : List Text) (first : Text) : Bool :=
  first.getLast? == some ','
    && file.any fun l => Text.dropBlanks l == Text.dropBlanks first

end Presence

/-- Whether the snippet is in the file already. -/
def isPresent (file : List Text) (snippet : Block) : Bool :=
  match snippet.normalized with
  | [] => true
  | first :: more =>
    Text.hasRun (first :: more) (Block.normalized file)
      || Presence.importsSame file first
      || Presence.listsSame file first

end Scaffold
