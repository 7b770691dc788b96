/-
# A new project

The project file and the template that a new project starts with.  The template
has one file for each unit, and an index that lists all of them.
-/
import Scaffold.Text.Basic

namespace Scaffold

namespace CommandLine

/-- The name of the project file that is looked for if none is given. -/
def projectFileName : Text := "stitchgen.yaml".toList

/-- Lines, each with its end. -/
def linesText (ls : List String) : Text :=
  ls.flatMap fun l => l.toList ++ ['\n']

/-- The project file of a new project. -/
def starterProject : Text :=
  linesText [
    "output: \".\"",
    "",
    "placeholders:",
    "  Name: \"BlogPost\"",
    "",
    "merge:",
    "  cleanup: true",
    "  seed_indexer_markers: true",
    "",
    "templates:",
    "  - name: \"schema\"",
    "    path: \"templates/schema.json\"",
    "    output: \"schemas\"",
    "    enabled: true"]

/-- A placeholder. -/
def slot (name : String) : String :=
  "\x7b\x7b." ++ name ++ "\x7d\x7d"

/-- Lines of code as they stand in a JSON text. -/
def codeText (ls : List String) : String :=
  String.join (ls.map fun l => l ++ "\\n")

/-- The file of one unit. -/
def starterUnit : String :=
  codeText [
    "export const " ++ slot "NameCamelCase" ++ " = \x7b",
    "  name: '" ++ slot "NameCamelCase" ++ "',",
    "  id: '" ++ slot "NameUuid" ++ "',",
    "\x7d"]

/-- The file that lists all units. -/
def starterIndex : String :=
  codeText [
    "// START OF IMPORTS",
    "import \x7b " ++ slot "NameCamelCase" ++ " \x7d from './" ++ slot "NameKebabCase" ++ "'",
    "// END OF IMPORTS",
    "// ADD IMPORTS BELOW",
    "",
    "export const schemaTypes = [",
    "  // START OF VALUE",
    "  " ++ slot "NameCamelCase" ++ ",",
    "  // END OF VALUE",
    "  // ADD VALUE BELOW",
    "]"]

/-- The template of a new project. -/
def starterTemplate : Text :=
  linesText [
    "\x7b",
    "  \"filePaths\": [",
    "    \x7b",
    "      \"path\": \".\",",
    "      \"nodes\": [",
    "        \x7b",
    "          \"name\": \"" ++ slot "NameKebabCase" ++ ".ts\",",
    "          \"code\": \"" ++ starterUnit ++ "\"",
    "        \x7d,",
    "        \x7b",
    "          \"name\": \"index.ts\",",
    "          \"isIndexer\": true,",
    "          \"code\": \"" ++ starterIndex ++ "\"",
    "        \x7d",
    "      ]",
    "    \x7d",
    "  ]",
    "\x7d"]

end CommandLine

end Scaffold
