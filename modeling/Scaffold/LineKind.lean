/-
# Kinds of code lines

Whether two files agree, and where a marker is best placed, is judged from
single lines: imports, exports, entries of a list, lone names.  A form is a
recogniser on the text; it returns what it does not consume, so that a form is
written down from left to right.

    (import)   blanks 'import' (no word character) … quote PATH quote
    (require)  blanks [(const|let|var) blank … '='] 'require(' quote PATH quote ')'
    (entry)    blanks (name [ '(' … ')' ] | quoted text) ',' blanks
    (name)     blanks name [','] blanks

Quotes are `'` or `"`; the two ends of a quoted path need not be the same.
-/
import Scaffold.Text.Lines
import Scaffold.Unicode.Letter

namespace Scaffold

namespace LineKind

open Text (isBlank trimLeft after?)

/-! ## Small forms -/

/-- The text itself, if no word goes on here. -/
def wordEnd? (t : Text) : Option Text :=
  match t with
  | [] => some []
  | c :: _ => if Unicode.isWord c then none else some t

/-- What stands behind a word and not within a longer one. -/
def afterWord? (word t : Text) : Option Text :=
  (after? word t).bind wordEnd?

/-- What stands behind one blank or more. -/
def afterBlanks? (t : Text) : Option Text :=
  match t with
  | [] => none
  | c :: r => if isBlank c then some (trimLeft r) else none

def isQuote (c : Char) : Bool :=
  c == '\'' || c == '"'

/-- A text between two quotes, and what stands behind them. -/
def quotedPath? (t : Text) : Option (Text × Text) :=
  match t with
  | [] => none
  | q :: r =>
    if isQuote q then
      match r.takeWhile (fun c => !isQuote c), r.dropWhile fun c => !isQuote c with
      | path@(_ :: _), _ :: rest => some (path, rest)
      | _, _ => none
    else none

/-- What stands behind a declaring word, a binding and its `=`. -/
def afterBinding? (t : Text) : Option Text :=
  let declared := (after? "const".toList t).or ((after? "let".toList t).or (after? "var".toList t))
  match declared with
  | none => none
  | some r =>
    match r.takeWhile (fun c => c != '='), r.dropWhile fun c => c != '=' with
    | c :: _ :: _, _ :: rest => if isBlank c then some (trimLeft rest) else none
    | _, _ => none

/-! ## Imports and exports -/

/-- The path that an `import` line names. -/
def importPath? (line : Text) : Option Text := do
  let rest ← afterWord? "import".toList (trimLeft line)
  let (path, _) ← quotedPath? (rest.dropWhile fun c => !isQuote c)
  return path

/-- The path of a `require` call at this place. -/
def requireCall? (t : Text) : Option Text := do
  let rest ← after? "require(".toList t
  let (path, rest) ← quotedPath? (trimLeft rest)
  match trimLeft rest with
  | ')' :: _ => return path
  | _ => none

/-- The path that a line holding a `require` call names. -/
def requirePath? (line : Text) : Option Text :=
  let t := trimLeft line
  ((afterBinding? t).bind requireCall?).or (requireCall? t)

/-- The module that a line imports on its own. -/
def importedModule? (line : Text) : Option Text :=
  (importPath? line).or (requirePath? line)

/-- Whether a line looks like an import in one of several languages. -/
def isImportLike (line : Text) : Bool :=
  let t := trimLeft line
  (afterWord? "import".toList t).isSome
    || (do
      let r ← (after? "from".toList t).bind afterBlanks?
      let r ← if r.isEmpty then none else afterBlanks? (r.dropWhile fun c => !isBlank c)
      afterWord? "import".toList r).isSome
    || (match (after? "use".toList t).bind afterBlanks? with
      | some (_ :: _) => true
      | _ => false)
    || (afterWord? "#include".toList t).isSome
    || ((afterBinding? t).bind (after? "require(".toList)).isSome

/-- Whether a line looks like an export. -/
def isExportLike (line : Text) : Bool :=
  let t := trimLeft line
  (afterWord? "export".toList t).isSome
    || (afterWord? "module.exports".toList t).isSome
    || (after? "exports.".toList t).isSome

/-! ## Entries and names -/

def isNameStart (c : Char) : Bool :=
  (c.toNat < 0x80 && c.isAlpha) || c == '_' || c == '$'

def isNamePart (c : Char) : Bool :=
  Unicode.isWord c || c == '$'

/-- A name and what stands behind it. -/
def name? (t : Text) : Option (Text × Text) :=
  match t with
  | [] => none
  | c :: r =>
    if isNameStart c then some (c :: r.takeWhile isNamePart, r.dropWhile isNamePart) else none

/-- A comma with nothing but blanks around it. -/
def isLoneComma (t : Text) : Bool :=
  Text.trim t == [',']

/-- A parenthesis on one line that closes right before the lone comma. -/
def closesBeforeComma : Text → Bool
  | [] => false
  | c :: r => c != '\n' && ((c == ')' && isLoneComma r) || closesBeforeComma r)

/-- A text between two quotes of the kind `q`, and what stands behind. -/
def afterQuoted? (q : Char) (t : Text) : Option Text :=
  match t with
  | [] => none
  | c :: r =>
    if c == q then
      match r.dropWhile fun d => d != q with
      | [] => none
      | _ :: rest => some rest
    else none

/-- Whether a line is an entry of a list: a dotted name, perhaps applied, or a
quoted text, with a comma. -/
def isListEntry (line : Text) : Bool :=
  match trimLeft line with
  | [] => false
  | c :: r =>
    if isNameStart c then
      let rest := r.dropWhile fun d => isNamePart d || d == '.'
      isLoneComma rest
        || (match rest with
          | '(' :: arguments => closesBeforeComma arguments
          | _ => false)
    else ((afterQuoted? '\'' (c :: r)).or (afterQuoted? '"' (c :: r))).any isLoneComma

/-- The name on a line that holds a name, perhaps a comma, and nothing else. -/
def loneName? (line : Text) : Option Text :=
  match name? (trimLeft line) with
  | none => none
  | some (name, rest) =>
    if Text.allBlank rest || isLoneComma rest then some name else none

end LineKind

end Scaffold
