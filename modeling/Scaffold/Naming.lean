/-
# Spellings of a name

A name given in any spelling is split into words and written anew in the usual
spellings for identifiers.  Words end at every character that is neither letter
nor digit, and inside a run of letters and digits

    * between a small letter and a capital          `fooBar`   foo | Bar
    * before the last of several capitals, if a
      small letter follows it                       `XMLHttp`  XML | Http

Characters without case do not count between the two letters of the first rule
(`a1B` is a1 | B); a run starts without a case.
-/
import Scaffold.Text.Basic
import Scaffold.Unicode.Letter
import Scaffold.Unicode.Casing

namespace Scaffold

namespace Naming

/-! ## Words -/

/-- The case of the last cased character of a word. -/
inductive LastCase where
  | none
  | small
  | capital
deriving DecidableEq, Repr

def LastCase.after (last : LastCase) (c : Char) : LastCase :=
  if Unicode.isLower c then .small
  else if Unicode.isUpper c then .capital
  else last

/-- Splits a run of letters and digits; `word` is the word begun. -/
def splitRun (last : LastCase) (word : Text) : Text → List Text
  | [] => []
  | [c] => [word ++ [c]]
  | c :: d :: r =>
    if last.after c = .small && Unicode.isUpper d then
      (word ++ [c]) :: splitRun .none [] (d :: r)
    else if last = .capital && Unicode.isUpper c && Unicode.isLower d then
      word :: splitRun .none [c] (d :: r)
    else
      splitRun (last.after c) (word ++ [c]) (d :: r)

/-- The words of a name. -/
def words (name : Text) : List Text :=
  (Text.runs Unicode.isAlphanumeric name).flatMap (splitRun .none [])

/-! ## Case of a word -/

/-- A word in small letters.  A sigma at its end takes the final form. -/
def lowerWord : Text → Text
  | [] => []
  | [c] => if c == 'Σ' then ['ς'] else Unicode.toLower c
  | c :: r => Unicode.toLower c ++ lowerWord r

/-- A word in capitals. -/
def upperWord (word : Text) : Text :=
  word.flatMap Unicode.toUpper

/-- A word with a capital first letter and small ones behind it. -/
def capitalizeWord : Text → Text
  | [] => []
  | c :: r => Unicode.toUpper c ++ lowerWord r

/-! ## Spellings -/

/-- `FooBar` -/
def pascalCase (name : Text) : Text :=
  (words name).flatMap capitalizeWord

/-- `fooBar` -/
def camelCase (name : Text) : Text :=
  match words name with
  | [] => []
  | w :: ws => lowerWord w ++ ws.flatMap capitalizeWord

/-- `foo-bar` -/
def kebabCase (name : Text) : Text :=
  List.intercalate ['-'] ((words name).map lowerWord)

/-- `foo_bar` -/
def snakeCase (name : Text) : Text :=
  List.intercalate ['_'] ((words name).map lowerWord)

/-- `FOO_BAR` -/
def screamingSnakeCase (name : Text) : Text :=
  List.intercalate ['_'] ((words name).map upperWord)

/-- `foobar`: all letters and digits, each for itself in small form. -/
def lowerCase (name : Text) : Text :=
  (name.filter Unicode.isAlphanumeric).flatMap Unicode.toLower

end Naming

end Scaffold
