/-
# Tokens of a YAML text

A text becomes a list of tokens.  Brackets, dashes and colons stand for
themselves; indentation is made explicit by start and end tokens for block
collections.

Whether something is a key turns out only at the colon behind it.  So the
scanner remembers, for every level of flow brackets, where a simple key may
have begun, and puts the key token in at that place when the colon comes.  Such
a key ends on its line and is at most 1024 bytes long.  In a block, a key at
the column of its collection must be followed by its colon.

Tags are bytes: escapes in them may spell what is not UTF-8.
-/
import Scaffold.Text.Utf8
import Scaffold.Yaml.Scalar

namespace Scaffold

namespace Yaml

/-- How a scalar is written. -/
inductive Style where
  | plain
  | quoted
  | literal
  | folded
deriving DecidableEq, Repr

inductive Token where
  | versionDirective (major minor : Nat)
  | tagDirective (handle : Text) (expansion : Bytes)
  | documentStart
  | documentEnd
  | blockSequenceStart
  | blockMappingStart
  | blockEnd
  | flowSequenceStart
  | flowSequenceEnd
  | flowMappingStart
  | flowMappingEnd
  | blockEntry
  | flowEntry
  | key
  | value
  | alias (name : Text)
  | anchor (name : Text)
  | tag (handle : Text) (suffix : Bytes)
  | scalar (text : Text) (style : Style)
deriving DecidableEq, Repr

/-- Where a simple key may have begun. -/
structure SimpleKey where
  /-- The number of the token that begins there. -/
  token : Nat
  index : Nat
  line : Nat
  column : Nat
  /-- Whether nothing but a key can stand there. -/
  required : Bool

/-- A scan on its way through a text. -/
structure Scan where
  here : Cursor
  tokens : Array Token
  /-- The column of the innermost block collection, or -1. -/
  indent : Int
  /-- The columns of those around it. -/
  indents : List Int
  /-- Whether a simple key may begin here. -/
  keyAllowed : Bool
  /-- The possible key of the innermost level. -/
  possible : Option SimpleKey
  /-- Those of the levels around it, one for each open flow bracket. -/
  outer : List (Option SimpleKey)

namespace Scan

def start (t : Text) : Scan :=
  ⟨.start t, #[], -1, [], true, none, []⟩

def inFlow (s : Scan) : Bool :=
  !s.outer.isEmpty

def emit (s : Scan) (t : Token) : Scan :=
  { s with tokens := s.tokens.push t }

/-- Passes `n` characters. -/
def pass (s : Scan) (n : Nat) : Scan :=
  { s with here := s.here.pass n }

/-! ## Simple keys -/

/-- Whether a key that began there can end here. -/
def inReach (s : Scan) (k : SimpleKey) : Bool :=
  k.line == s.here.line && s.here.index ≤ k.index + 1024

/-- Forgets one possible key that is out of reach; a required one must not be. -/
def reach (s : Scan) (k : Option SimpleKey) : Option (Option SimpleKey) :=
  match k with
  | none => some none
  | some k => if s.inReach k then some (some k) else if k.required then none else some none

/-- Forgets all possible keys that are out of reach. -/
def dropStale (s : Scan) : Option Scan := do
  let possible ← s.reach s.possible
  let outer ← s.outer.mapM s.reach
  return { s with possible := possible, outer := outer }

/-- Gives up the possible key of this level. -/
def dropKey (s : Scan) : Option Scan :=
  match s.possible with
  | some k => if k.required then none else some { s with possible := none }
  | none => some s

/-- Remembers that a simple key may begin here. -/
def saveKey (s : Scan) : Option Scan :=
  if s.keyAllowed then do
    let s ← s.dropKey
    let k : SimpleKey :=
      { token := s.tokens.size
        index := s.here.index
        line := s.here.line
        column := s.here.column
        required := !s.inFlow && s.indent == s.here.column }
    return { s with possible := some k }
  else some s

/-! ## Indentation -/

/-- Puts a token in at a place among those read. -/
def insertAt (s : Scan) (place : Nat) (t : Token) : Scan :=
  { s with tokens := s.tokens.take place ++ #[t] ++ s.tokens.drop place }

/-- Opens a block collection if the column lies further in; its start token
goes to the given place. -/
def openBlock (s : Scan) (column place : Nat) (t : Token) : Scan :=
  if !s.inFlow && s.indent < column then
    { s.insertAt place t with indent := column, indents := s.indent :: s.indents }
  else s

/-- Closes the block collections that lie further in than the column. -/
def closeFrom (column : Int) (s : Scan) : List Int → Scan
  | [] => s
  | i :: r =>
    if s.indent > column then
      closeFrom column { s.emit .blockEnd with indent := i, indents := r } r
    else s

def closeBlocks (s : Scan) (column : Int) : Scan :=
  if s.inFlow then s else s.closeFrom column s.indents

/-! ## Blanks and comments -/

/-- Passes to the next token.  A tab is a blank only where no key may begin, and
a byte order mark only at the start of a line. -/
def passBlanks (s : Scan) : Nat → Scan
  | 0 => s
  | n + 1 =>
    let tabs := s.inFlow || !s.keyAllowed
    let c := s.here.passOrderMark.passWhile fun d => d == ' ' || (tabs && d == '\t')
    let c := if c.rest.head? == some '#' then c.passLine else c
    if c.rest.head?.any isBreak then
      passBlanks
        { s with here := c.passBreak, keyAllowed := s.keyAllowed || !s.inFlow } n
    else { s with here := c }

/-! ## Tokens of one or a few characters -/

def flowStart (s : Scan) (t : Token) : Option Scan := do
  let s ← s.saveKey
  return { (s.pass 1).emit t with
    keyAllowed := true, possible := none, outer := s.possible :: s.outer }

def flowEnd (s : Scan) (t : Token) : Option Scan := do
  let s ← s.dropKey
  let s := { s with keyAllowed := false }
  let s := match s.outer with
    | [] => s
    | k :: r => { s with possible := k, outer := r }
  return (s.pass 1).emit t

def flowEntry (s : Scan) : Option Scan := do
  let s ← s.dropKey
  return ({ s with keyAllowed := true }.pass 1).emit .flowEntry

def blockEntry (s : Scan) : Option Scan := do
  if !s.inFlow && !s.keyAllowed then none
  let s := s.openBlock s.here.column s.tokens.size .blockSequenceStart
  let s ← s.dropKey
  return ({ s with keyAllowed := true }.pass 1).emit .blockEntry

def complexKey (s : Scan) : Option Scan := do
  if !s.inFlow && !s.keyAllowed then none
  let s := s.openBlock s.here.column s.tokens.size .blockMappingStart
  let s ← s.dropKey
  return ({ s with keyAllowed := !s.inFlow }.pass 1).emit .key

/-- A colon.  If a simple key may have begun, it has, and a mapping with it. -/
def valueMark (s : Scan) : Option Scan :=
  match s.possible with
  | some k =>
    let s := (s.insertAt k.token .key).openBlock k.column k.token .blockMappingStart
    some (({ s with possible := none, keyAllowed := false }.pass 1).emit .value)
  | none =>
    if s.inFlow then some (({ s with keyAllowed := false }.pass 1).emit .value)
    else if !s.keyAllowed then none
    else
      let s := s.openBlock s.here.column s.tokens.size .blockMappingStart
      some (({ s with keyAllowed := true }.pass 1).emit .value)

def documentMark (s : Scan) (t : Token) : Option Scan := do
  let s ← (s.closeBlocks (-1)).dropKey
  return ({ s with keyAllowed := false }.pass 3).emit t

/-! ## Anchors and aliases -/

/-- Whether an anchor's name may end here. -/
def endsName (t : Text) : Bool :=
  atBlankOrBreak t
    || t.head?.any fun c =>
      c == '?' || c == ':' || c == ',' || c == ']' || c == '}' || c == '%' || c == '@'
        || c == '`'

def anchor (s : Scan) (make : Text → Token) : Option Scan := do
  let s ← s.saveKey
  let s := { s with keyAllowed := false }.pass 1
  let name := s.here.rest.takeWhile isWordChar
  let s := s.pass name.length
  if name.isEmpty || !endsName s.here.rest then none
  return s.emit (make name)

/-! ## Tags -/

/-- The characters of a tag besides word characters. -/
def isTagChar (inBrackets : Bool) (c : Char) : Bool :=
  isWordChar c || c == ';' || c == '/' || c == '?' || c == ':' || c == '@' || c == '&'
    || c == '=' || c == '+' || c == '$' || c == '.' || c == '!' || c == '~' || c == '*'
    || c == '\'' || c == '(' || c == ')'
    || (inBrackets && (c == ',' || c == '[' || c == ']'))

/-- The byte of an escape of a percent sign and two digits. -/
def percentByte? (t : Text) : Option (Nat × Text) :=
  match t with
  | '%' :: a :: b :: r => (hexNumber? [a, b]).map fun n => (n, r)
  | _ => none

/-- The bytes behind the first of a character. -/
def percentTail? : Nat → Text → Option (Bytes × Text)
  | 0, t => some ([], t)
  | k + 1, t =>
    match percentByte? t with
    | none => none
    | some (b, r) =>
      if b / 64 = 2 then (percentTail? k r).map fun (more, r) => (UInt8.ofNat b :: more, r)
      else none

/-- The escaped bytes of a character.  Their number fits the first of them; that
they spell a character is not asked. -/
def percentChar? (t : Text) : Option (Bytes × Text) := do
  let (b, r) ← percentByte? t
  let tail ←
    if b < 0x80 then some 0
    else if b / 32 = 6 then some 1
    else if b / 16 = 14 then some 2
    else if b / 8 = 30 then some 3
    else none
  let (more, r) ← percentTail? tail r
  return (UInt8.ofNat b :: more, r)

/-- The bytes of a tag from here on, and how many characters they take. -/
def tagBytes? (inBrackets : Bool) : Nat → Text → Option (Bytes × Nat)
  | 0, _ => some ([], 0)
  | n + 1, t =>
    match t with
    | [] => some ([], 0)
    | c :: r =>
      if c == '%' then do
        let (bs, rest) ← percentChar? t
        let (more, k) ← tagBytes? inBrackets n rest
        return (bs ++ more, k + (t.length - rest.length))
      else if isTagChar inBrackets c then do
        let (more, k) ← tagBytes? inBrackets n r
        return (UInt8.ofNat c.toNat :: more, k + 1)
      else some ([], 0)

/-- The bytes of a tag up to the first that is zero, which ends them, and how
many characters all of them take. -/
def tagBytesOf (inBrackets : Bool) (t : Text) : Option (Bytes × Nat) :=
  (tagBytes? inBrackets (t.length + 1) t).map fun (bs, k) => (bs.takeWhile (· != 0), k)

/-- A handle at the start of a tag: an exclamation mark, word characters, and
perhaps another exclamation mark. -/
def handleText (t : Text) : Text :=
  match t with
  | '!' :: r =>
    let name := r.takeWhile isWordChar
    match r.drop name.length with
    | '!' :: _ => '!' :: name ++ ['!']
    | _ => '!' :: name
  | _ => []

/-- Handle and suffix of a tag and how many characters they take.  A tag without
a handle is given in full. -/
def tagParts? (t : Text) : Option (Text × Bytes × Nat) :=
  match t with
  | '!' :: '<' :: r => do
    let (suffix, k) ← tagBytesOf true r
    if k = 0 || (r.drop k).head? != some '>' then none
    return ([], suffix, k + 3)
  | t => do
    let handle := handleText t
    let (rest, k) ← tagBytesOf false (t.drop handle.length)
    if handle.length ≥ 2 && handle.getLast? == some '!' then
      if k = 0 then none
      return (handle, rest, handle.length + k)
    else
      let suffix := Utf8.encode (handle.drop 1) ++ rest
      if suffix.isEmpty then return ([], Utf8.encode ['!'], handle.length + k)
      else return (['!'], suffix, handle.length + k)

def tag (s : Scan) : Option Scan := do
  let s ← s.saveKey
  let s := { s with keyAllowed := false }
  let (handle, suffix, k) ← tagParts? s.here.rest
  let s := s.pass k
  if !atBlankOrBreak s.here.rest && !(s.inFlow && s.here.rest.head? == some ',') then none
  return s.emit (.tag handle suffix)

/-! ## Directives -/

/-- A number of at most nine digits. -/
def versionNumber? (c : Cursor) : Option (Nat × Cursor) :=
  let ds := c.rest.takeWhile Char.isDigit
  if ds.isEmpty || ds.length > 9 then none
  else some (ds.foldl (fun n d => n * 10 + (d.toNat - 0x30)) 0, c.pass ds.length)

def versionDirective? (c : Cursor) : Option (Token × Cursor) := do
  let (major, c) ← versionNumber? (c.passWhile isBlank)
  if c.rest.head? != some '.' then none
  let (minor, c) ← versionNumber? (c.pass 1)
  return (.versionDirective major minor, c)

def tagDirective? (c : Cursor) : Option (Token × Cursor) := do
  let c := c.passWhile isBlank
  let handle := handleText c.rest
  if handle.isEmpty || (handle.getLast? != some '!') then none
  let c := c.pass handle.length
  if !c.rest.head?.any isBlank then none
  let c := c.passWhile isBlank
  let (expansion, k) ← tagBytesOf true c.rest
  let c := c.pass k
  if k = 0 || !atBlankOrBreak c.rest then none
  return (.tagDirective handle expansion, c)

def directive (s : Scan) : Option Scan := do
  let s ← (s.closeBlocks (-1)).dropKey
  let c := s.here.pass 1
  let name := c.rest.takeWhile isWordChar
  let c := c.pass name.length
  if name.isEmpty || !atBlankOrBreak c.rest then none
  let (t, c) ←
    if name == "YAML".toList then versionDirective? c
    else if name == "TAG".toList then tagDirective? c
    else none
  let c := c.passWhile isBlank
  let c := if c.rest.head? == some '#' then c.passLine else c
  if !atBreak c.rest then none
  return { s with here := c.passBreak, keyAllowed := false }.emit t

/-! ## Scalars -/

def blockScalar (s : Scan) (literal : Bool) : Option Scan := do
  let s ← s.dropKey
  let (text, c) ← blockScalar? literal s.indent (s.here.pass 1)
  return { s with here := c, keyAllowed := true }.emit
    (.scalar text (if literal then .literal else .folded))

def quotedScalar (s : Scan) (single : Bool) : Option Scan := do
  let s ← s.saveKey
  let c := s.here.pass 1
  let (text, c) ← quotedFrom single (c.rest.length + 1) c []
  return { s with here := c, keyAllowed := false }.emit (.scalar text .quoted)

def plainScalar (s : Scan) : Option Scan := do
  let s ← s.saveKey
  let p ← plainFrom s.inFlow (s.indent + 1).toNat (s.here.rest.length + 1) s.here [] {}
  return { s with here := p.after, keyAllowed := p.newLine }.emit (.scalar p.text .plain)

/-- Whether a plain scalar may start here. -/
def startsPlain (s : Scan) : Bool :=
  match s.here.rest with
  | [] => false
  | c :: r =>
    if c == '-' then !atBlankOrBreak r
    else if c == '?' || c == ':' then !s.inFlow && !atBlankOrBreak r
    else
      !(isBlankOrBreak c || c == ',' || c == '[' || c == ']' || c == '{' || c == '}' || c == '#' || c == '&'
        || c == '*' || c == '!' || c == '|' || c == '>' || c == '\'' || c == '"' || c == '%'
        || c == '@' || c == '`')

/-! ## The next token -/

/-- Reads the token that starts here, behind blanks and comments. -/
def token (s : Scan) : Option Scan :=
  match s.here.rest with
  | [] => some s
  | c :: r =>
    if s.here.column == 0 && c == '%' then s.directive
    else if s.here.atMark then
      s.documentMark (if c == '-' then .documentStart else .documentEnd)
    else if c == '[' then s.flowStart .flowSequenceStart
    else if c == '{' then s.flowStart .flowMappingStart
    else if c == ']' then s.flowEnd .flowSequenceEnd
    else if c == '}' then s.flowEnd .flowMappingEnd
    else if c == ',' then s.flowEntry
    else if c == '-' && atBlankOrBreak r then s.blockEntry
    else if c == '?' && (s.inFlow || atBlankOrBreak r) then s.complexKey
    else if c == ':' && (s.inFlow || atBlankOrBreak r) then s.valueMark
    else if c == '*' then s.anchor .alias
    else if c == '&' then s.anchor .anchor
    else if c == '!' then s.tag
    else if c == '|' && !s.inFlow then s.blockScalar true
    else if c == '>' && !s.inFlow then s.blockScalar false
    else if c == '\'' then s.quotedScalar true
    else if c == '"' then s.quotedScalar false
    else if s.startsPlain then s.plainScalar
    else none

/-- Reads all tokens.  Each takes a character at least, so that the length of
the text bounds their number. -/
def run : Nat → Scan → Option (Array Token)
  | 0, _ => none
  | n + 1, s => do
    let s := s.passBlanks (s.here.rest.length + 1)
    let s ← s.dropStale
    let s := s.closeBlocks s.here.column
    if s.here.rest.isEmpty then
      let s ← (s.closeBlocks (-1)).dropKey
      return s.tokens
    else
      run n (← s.token)

end Scan

/-- The tokens of a text, if it is well formed so far. -/
def tokens? (t : Text) : Option (List Token) :=
  if t.all isAllowed then
    (Scan.run (t.length + 2) (.start t)).map Array.toList
  else none

end Yaml

end Scaffold
