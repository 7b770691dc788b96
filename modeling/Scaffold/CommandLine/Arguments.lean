/-
# The words of a command

    [OPTIONS] [init [PATH] | generate | preview]

Options may stand before the command and behind it:

    -c, --config FILE       the project file
    -t, --template FILE     a template; may come several times
    -s, --set KEY=VALUE     a value of a placeholder; may come several times
    -o, --output DIR        the directory for all output
        --dry-run           only look

The value of an option is the next word, or stands behind `=`, or right behind
the letter; the next word is none if it starts with a dash and goes on.  What is
said of an option behind the command replaces what is said before it.  After
`--` no word is an option.
-/
import Scaffold.Project

namespace Scaffold

namespace CommandLine

/-- What a command is asked to do. -/
inductive Command where
  | init (directory : Path)
  | generate
  | preview
deriving DecidableEq, Repr

structure Options where
  config : Option Path := none
  /-- Template documents in order; `-` is the input. -/
  templates : List Text := []
  assignments : List (Text × Text) := []
  output : Option Path := none
  dryRun : Bool := false
deriving DecidableEq, Repr

/-- The options behind a command together with those before it. -/
def Options.over (inner outer : Options) : Options where
  config := inner.config.or outer.config
  templates := if inner.templates.isEmpty then outer.templates else inner.templates
  assignments := if inner.assignments.isEmpty then outer.assignments else inner.assignments
  output := inner.output.or outer.output
  dryRun := inner.dryRun || outer.dryRun

/-- Why words make no command. -/
inductive UsageError where
  | unexpected (word : Text)
  | repeated (name : Text)
  | missingValue (name : Text)
  | emptyValue (name : Text)
  | invalidValue (name reason : Text)
deriving DecidableEq, Repr

def UsageError.message : UsageError → Text
  | unexpected word => "unexpected argument '".toList ++ word ++ "' found".toList
  | repeated name => name ++ " cannot be used multiple times".toList
  | missingValue name => "a value is required for ".toList ++ name
  | emptyValue name => "the value of ".toList ++ name ++ " is empty".toList
  | invalidValue name reason => "invalid value for ".toList ++ name ++ ": ".toList ++ reason

/-- Why there is nothing to run. -/
inductive Stop where
  | help
  | version
  | misuse (e : UsageError)
deriving DecidableEq, Repr

def misuse {α : Type} (e : UsageError) : Except Stop α :=
  .error (.misuse e)

/-! ## Options -/

/-- The options with a value. -/
inductive Setting where
  | config
  | template
  | set
  | output
deriving DecidableEq, Repr

def Setting.all : List Setting := [.config, .template, .set, .output]

def Setting.name : Setting → Text
  | config => "--config".toList
  | template => "--template".toList
  | set => "--set".toList
  | output => "--output".toList

def Setting.letter : Setting → Char
  | config => 'c'
  | template => 't'
  | set => 's'
  | output => 'o'

/-- A path that is given once and is not empty. -/
def takePath (name : Text) (known : Option Path) (value : Text) :
    Except UsageError (Option Path) :=
  if value.isEmpty then .error (.emptyValue name)
  else if known.isSome then .error (.repeated name)
  else .ok (some ⟨value⟩)

/-- Takes the value of an option. -/
def Options.take (o : Options) (s : Setting) (value : Text) : Except UsageError Options :=
  match s with
  | .config => (takePath s.name o.config value).map fun p => { o with config := p }
  | .output => (takePath s.name o.output value).map fun p => { o with output := p }
  | .template => .ok { o with templates := o.templates ++ [value] }
  | .set =>
    match parseAssignment? value with
    | some e => .ok { o with assignments := o.assignments ++ [e] }
    | none => .error (.invalidValue s.name (assignmentMessage value))

/-- A word taken as an option. -/
inductive Word where
  /-- An option, perhaps with its value in the same word. -/
  | setting (s : Setting) (value : Option Text)
  | dryRun
  | help
  | version
  /-- Two dashes alone. -/
  | rest
  | unknown
  /-- No option. -/
  | plain
deriving DecidableEq, Repr

/-- A word behind two dashes. -/
def longWord (t : Text) : Word :=
  let name := "--".toList ++ t.takeWhile (· != '=')
  let value := match t.dropWhile (· != '=') with
    | [] => none
    | _ :: r => some r
  match Setting.all.find? fun s => s.name == name with
  | some s => .setting s value
  | none =>
    if value.isSome then .unknown
    else if name == "--dry-run".toList then .dryRun
    else if name == "--help".toList then .help
    else if name == "--version".toList then .version
    else .unknown

/-- A word of one dash, a letter and perhaps more. -/
def shortWord (c : Char) (t : Text) : Word :=
  let value := match t with
    | [] => none
    | '=' :: r => some r
    | r => some r
  match Setting.all.find? fun s => s.letter == c with
  | some s => .setting s value
  | none => if c == 'h' then .help else if c == 'V' then .version else .unknown

def wordOf (t : Text) : Word :=
  match t with
  | ['-', '-'] => .rest
  | '-' :: '-' :: r => longWord r
  | '-' :: c :: r => shortWord c r
  | _ => .plain

/-! ## Commands -/

/-- Where a word stands: before the command, or behind it. -/
inductive Level where
  | outside
  | init (directory : Option Path)
  | generate
  | preview
deriving DecidableEq, Repr

/-- The command that is meant if no more words come. -/
def Level.command : Level → Command
  | outside => .generate
  | init directory => .init (directory.getD ⟨['.']⟩)
  | generate => .generate
  | preview => .preview

/-- The level behind a command. -/
def Level.inside? (word : Text) : Option Level :=
  if word == "init".toList then some (.init none)
  else if word == "generate".toList then some .generate
  else if word == "preview".toList then some .preview
  else none

/-- Takes a word that is no option and no command. -/
def Level.take (level : Level) (word : Text) : Except UsageError Level :=
  match level with
  | init none => (takePath "[PATH]".toList none word).map Level.init
  | _ => .error (.unexpected word)

/-- Takes words none of which is an option. -/
def Level.takeAll (level : Level) : List Text → Except UsageError Level
  | [] => .ok level
  | word :: r => do
    let level ← level.take word
    level.takeAll r

/-- The words behind a question for help. -/
def helpOn (words : List Text) : Stop :=
  match words with
  | [] => .help
  | [word] =>
    if (Level.inside? word).isSome || word == "help".toList then .help
    else .misuse (.unexpected word)
  | _ :: word :: _ => .misuse (.unexpected word)

/-- Takes one more word that is no option, or enters a command with it. -/
def enter (level : Level) (options : Options) (word : Text) (rest : List Text)
    (goOn : Level → Options → Except Stop (Command × Options)) :
    Except Stop (Command × Options) :=
  if level == .outside then
    match Level.inside? word with
    | some inside => (goOn inside {}).map fun r => (r.1, r.2.over options)
    | none =>
      if word == "help".toList then .error (helpOn rest) else misuse (.unexpected word)
  else
    match level.take word with
    | .ok level => goOn level options
    | .error e => misuse e

/-- Reads words, given what is known at this level. -/
def read (level : Level) (options : Options) : List Text → Except Stop (Command × Options)
  | [] => .ok (level.command, options)
  | word :: rest =>
    match wordOf word with
    | .plain => enter level options word rest fun level options => read level options rest
    | .rest => do
      let level ← (level.takeAll rest).mapError .misuse
      return (level.command, options)
    | .dryRun =>
      if options.dryRun then misuse (.repeated "--dry-run".toList)
      else read level { options with dryRun := true } rest
    | .help => .error .help
    | .version => if level == .outside then .error .version else misuse (.unexpected word)
    | .unknown => misuse (.unexpected word)
    | .setting s (some value) => do
      let options ← (options.take s value).mapError .misuse
      read level options rest
    | .setting s none =>
      match rest with
      | [] => misuse (.missingValue s.name)
      | value :: rest =>
        if wordOf value == .plain then do
          let options ← (options.take s value).mapError .misuse
          read level options rest
        else misuse (.missingValue s.name)

/-- The command and the options in the words of a command line. -/
def ofWords (words : List Text) : Except Stop (Command × Options) :=
  read .outside {} words

end CommandLine

end Scaffold
