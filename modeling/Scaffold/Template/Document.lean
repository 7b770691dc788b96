/-
# Template documents

A template is written in JSON or in YAML.  Bytes of unknown format are read as
JSON, and as YAML if that fails; if both fail, the fault is the one of JSON.
-/
import Scaffold.Template.FromYaml
import Scaffold.Text.Utf8

namespace Scaffold

namespace Template

inductive Format where
  | json
  | yaml
deriving DecidableEq, Repr

/-- Why a document describes no template. -/
inductive Error where
  | encoding (f : Utf8.Fault)
  | json (e : Json.Error)
  | yaml
deriving DecidableEq, Repr

def Error.message : Error → Text
  | encoding f => "Template bytes are not valid UTF-8: ".toList ++ f.message
  | json e => "Failed to parse template JSON: ".toList ++ e.message
  | yaml => "Failed to parse template YAML".toList

/-- The template that a document of a known format describes. -/
def ofText (format : Format) (t : Text) : Except Error Template :=
  match format with
  | .json => (Template.fromJson t).mapError .json
  | .yaml =>
    match Template.fromYaml? t with
    | some template => .ok template
    | none => .error .yaml

/-- The template that a document of either format describes. -/
def ofBytes (bytes : Bytes) : Except Error Template :=
  match Utf8.decode bytes with
  | .error f => .error (.encoding f)
  | .ok t =>
    match Template.fromJson t with
    | .ok template => .ok template
    | .error e =>
      match Template.fromYaml? t with
      | some template => .ok template
      | none => .error (.json e)

end Template

end Scaffold
