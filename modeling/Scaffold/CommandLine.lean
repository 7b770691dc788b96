/-
# Commands

    init      makes a project file and a template to start with
    generate  generates the files of all templates and lists those it touched
    preview   draws the files that `generate` would touch

The project file and all templates are read before anything is written, so that
a fault in one of them leaves the disk as it was.  Paths in a project file are
seen from its directory, paths among the options from the current one.
-/
import Scaffold.CommandLine.Arguments
import Scaffold.CommandLine.Starter
import Scaffold.Generator
import Scaffold.Loading

namespace Scaffold

namespace CommandLine

/-- Why a command fails. -/
inductive Error where
  | project (e : Project.LoadError)
  /-- A template that the project names. -/
  | template (path : Path) (e : Template.LoadError)
  /-- A template that an option names. -/
  | argument (word : Text) (e : Template.LoadError)
  | input (e : Template.Error)
  | noTemplates
  | generation (root : Path) (f : Generator.Failure)
  | disk (f : Disk.Fault)
deriving DecidableEq, Repr

def Error.message : Error → Text
  | project _ => "Failed to load config".toList
  | template path _ => "Failed to load template ".toList ++ Text.quotedPath path.text
  | argument word _ => "Failed to load template ".toList ++ word
  | input _ => "Failed to parse template from stdin".toList
  | noTemplates =>
    "No templates to apply; pass --template or list templates in the config".toList
  | generation root _ =>
    "Failed to materialize templates under ".toList ++ Text.quotedPath root.text
  | disk f => f.message

/-- What the failure comes from, if that says more. -/
def Error.cause? : Error → Option Text
  | project e => some e.message
  | template _ e => some e.message
  | argument _ e => some e.message
  | input e => some e.message
  | noTemplates => none
  | generation _ f => some f.message
  | disk _ => none

variable {m : Type → Type} [Monad m] [Disk m]

/-- Does something that may fail, and says why it did. -/
def attempt {ε α : Type} (cause : ε → Error) (step : m (Except ε α)) : ExceptT Error m α :=
  ExceptT.mk do return (← step).mapError cause

/-! ## A new project -/

/-- Makes a new project in a directory. -/
def startProject (directory : Path) : ExceptT Error m Unit := do
  attempt .disk (Disk.makeAll (directory.join ⟨"templates".toList⟩))
  attempt .disk (Disk.write (directory.join ⟨projectFileName⟩) starterProject)
  attempt .disk (Disk.write (directory.join ⟨"templates/schema.json".toList⟩) starterTemplate)

/-! ## What is to be done -/

/-- The directory of a file, as paths inside it are seen from. -/
def directoryOf (file : Path) : Path :=
  match file.parent? with
  | some d => if d.text.isEmpty then ⟨['.']⟩ else d
  | none => ⟨['.']⟩

/-- The project file to read, if there is one. -/
def projectFile (options : Options) : m (Option Path) := do
  match options.config with
  | some p => return some p
  | none =>
    let p : Path := ⟨projectFileName⟩
    return if (← Disk.kind? p).isSome then some p else none

/-- The project and the directory that its paths are seen from. -/
def loadProject (options : Options) : ExceptT Error m (Project × Path) := do
  match ← ExceptT.lift (projectFile options) with
  | none => return ({}, ⟨['.']⟩)
  | some file => return (← attempt .project (Project.load file), directoryOf file)

/-- The directory for all output. -/
def outputRoot (options : Options) (project : Project) (base : Path) : Path :=
  match options.output, project.output with
  | some p, _ => p
  | none, some p => base.join ⟨p⟩
  | none, none => ⟨['.']⟩

/-- A template and the root of its output. -/
structure Job where
  template : Template
  root : Path

/-- The templates that a project names. -/
def loadEntries (root : Path) : List (Path × Option Path) → ExceptT Error m (List Job)
  | [] => return []
  | (path, output) :: rest => do
    let template ← attempt (.template path) (Template.load path)
    let job : Job := ⟨template, (output.map root.join).getD root⟩
    return job :: (← loadEntries root rest)

/-- The templates that options name.  The input can be read once; after that
nothing is left of it. -/
def loadArguments (root : Path) (input : Bytes) : List Text → ExceptT Error m (List Job)
  | [] => return []
  | word :: rest =>
    if word == ['-'] then do
      let template ← attempt .input (pure (Template.ofBytes input))
      return ⟨template, root⟩ :: (← loadArguments root [] rest)
    else do
      let template ← attempt (.argument word) (Template.load ⟨word⟩)
      return ⟨template, root⟩ :: (← loadArguments root input rest)

/-- All templates to apply, at least one.  Those among the options take the
place of those in the project. -/
def loadJobs (options : Options) (input : Bytes) (project : Project) (base root : Path) :
    ExceptT Error m (List Job) := do
  let jobs ←
    if options.templates.isEmpty then loadEntries root (project.enabledTemplates base)
    else loadArguments root input options.templates
  if jobs.isEmpty then throw .noTemplates else return jobs

/-! ## Doing it -/

/-- Runs all jobs and puts their reports together. -/
def runJobs (g : Generator) : List Job → ExceptT Error m Report
  | [] => return .empty
  | job :: rest => do
    let report ← attempt (.generation job.root) (g.run job.template job.root)
    return report.append (← runJobs g rest)

/-- The lines that name the files touched. -/
def listing (r : Report) : Text :=
  r.touched.flatMap fun c => c.path.text ++ ['\n']

/-- The drawing of the files touched, as seen from the output root. -/
def drawing (current root : Path) (r : Report) : Text :=
  let paths := r.touched.map fun c => c.path.relativeTo (current.join root)
  (Outline.ofPaths paths).render root.text

/-- Generates files, or only looks, and answers with what is to be shown. -/
def generate (options : Options) (input : Bytes) (preview : Bool) : ExceptT Error m Text := do
  let (project, base) ← loadProject options
  let root := outputRoot options project base
  let jobs ← loadJobs options input project base root
  let g : Generator :=
    { values := .ofPrimary (project.placeholders.putAll options.assignments)
      options := project.merge
      dryRun := options.dryRun || preview }
  let report ← runJobs g jobs
  if preview then return drawing (← ExceptT.lift Disk.current) root report
  else return listing report

/-- Carries out a command and answers with what is to be shown. -/
def execute (command : Command) (options : Options) (input : Bytes) : ExceptT Error m Text := do
  match command with
  | .init directory =>
    startProject directory
    return []
  | .generate => generate options input false
  | .preview => generate options input true

/-! ## From words to an exit code -/

/-- How a command ends: its exit code, what it shows and what it complains about. -/
structure Response where
  code : Nat
  output : Text := []
  complaint : Text := []
deriving DecidableEq, Repr

def versionText : Text :=
  linesText ["stitchgen 0.1.0"]

def helpText : Text :=
  linesText [
    "Usage: stitchgen [OPTIONS] [COMMAND]",
    "",
    "Commands:",
    "  init [PATH]  Initialize a new project",
    "  generate     Generate and merge files from templates (default command)",
    "  preview      Show the files a generate run would create or modify",
    "",
    "Options:",
    "  -c, --config <FILE>      Path to the YAML project file",
    "  -t, --template <FILE>    Template document to apply; `-` reads it from stdin",
    "  -s, --set <KEY=VALUE>    Placeholder value",
    "  -o, --output <DIR>       Output root",
    "      --dry-run            Do not write files",
    "  -h, --help               Print help",
    "  -V, --version            Print version"]

/-- A failed command complains with its error and what that comes from. -/
def complaint (e : Error) : Text :=
  "Error: ".toList ++ e.message ++ ['\n'] ++
    match e.cause? with
    | none => []
    | some t => "\nCaused by:\n    ".toList ++ t ++ ['\n']

/-- Carries out the command in the words of a command line. -/
def run (words : List Text) (input : Bytes) : m Response := do
  match ofWords words with
  | .error .help => return { code := 0, output := helpText }
  | .error .version => return { code := 0, output := versionText }
  | .error (.misuse e) =>
    return { code := 2, complaint := "error: ".toList ++ e.message ++ ['\n'] }
  | .ok (command, options) =>
    match ← (execute command options input).run with
    | .ok output => return { code := 0, output }
    | .error e => return { code := 1, complaint := complaint e }

end CommandLine

end Scaffold
