/-
# Faults in what a command reads

Before anything is written a command reads its project file and all its
templates.  Something can be wrong with each of them:

    project    the file that is named, or found, cannot be read or is no project
    templates  none is named, neither among the options nor in the project
    template   one of them cannot be read or parsed, be it a file or the input

`InputFault` says so of the tree as it is, of any template in any place.  Then
the command fails, tells of one such fault, and leaves the tree as it was; and
it fails in this way only then (`inputFault_iff_fails_untouched`).

The readers do nothing else (`Reads`), and all of them are done before the first
job is run.  The input is taken as it came; that nothing is left of it for a
second template is part of the account.
-/
import Scaffold.CommandLine
import Scaffold.Proofs.DryRun

namespace Scaffold.CommandLine

/-! ## What can be wrong -/

/-- No template can be had from the file at a path. -/
inductive NoTemplate (t : FileTree) (path : Path) : Prop
  | unreadable {f : Disk.Fault} (hread : t.read path = .error f)
  | invalid {text : Text} {e : Template.Error} (hread : t.read path = .ok text)
      (hparse : Template.ofText (Template.formatOf path) text = .error e)

/-- No project can be had from the file at a path. -/
inductive NoProject (t : FileTree) (path : Path) : Prop
  | unreadable {f : Disk.Fault} (hread : t.read path = .error f)
  | invalid {text : Text} (hread : t.read path = .ok text)
      (hparse : Project.fromYaml? text = none)

/-- The project file that options name, or the one that stands there. -/
def projectFileOn (t : FileTree) (options : Options) : Option Path :=
  options.config.or
    (if (t.kind? ⟨projectFileName⟩).isSome then some ⟨projectFileName⟩ else none)

/-- The project of a command, and the directory that its paths are seen from. -/
inductive ProjectOn (t : FileTree) (options : Options) : Project × Path → Prop
  | absent (hfile : projectFileOn t options = none) : ProjectOn t options ({}, ⟨['.']⟩)
  | loaded {file : Path} {text : Text} {project : Project}
      (hfile : projectFileOn t options = some file) (hread : t.read file = .ok text)
      (hparse : Project.fromYaml? text = some project) :
      ProjectOn t options (project, directoryOf file)

/-- What is left of the input behind these words. -/
def inputBehind (input : Bytes) (before : List Text) : Bytes :=
  if ['-'] ∈ before then [] else input

/-- No template can be had from what a word names. -/
inductive WordFault (t : FileTree) (input : Bytes) (word : Text) : Prop
  | file (hword : word ≠ ['-']) (hno : NoTemplate t ⟨word⟩)
  | input {e : Template.Error} (hword : word = ['-']) (hparse : Template.ofBytes input = .error e)

/-- Something is wrong with a template that the options name. -/
inductive ArgumentFault (t : FileTree) (input : Bytes) (words : List Text) : Prop
  | behind (before : List Text) {word : Text} {after : List Text}
      (hwords : words = before ++ word :: after)
      (hno : WordFault t (inputBehind input before) word)

/-- Something is wrong with what a command is to read. -/
inductive InputFault (t : FileTree) (options : Options) (input : Bytes) : Prop
  | project {file : Path} (hfile : projectFileOn t options = some file)
      (hno : NoProject t file)
  | noTemplates {project : Project} {base : Path} (hproject : ProjectOn t options (project, base))
      (hoptions : options.templates = []) (hnone : project.enabledTemplates base = [])
  | entry {project : Project} {base : Path} {entry : Path × Option Path}
      (hproject : ProjectOn t options (project, base)) (hoptions : options.templates = [])
      (hmem : entry ∈ project.enabledTemplates base) (hno : NoTemplate t entry.1)
  | argument (hno : ArgumentFault t input options.templates)

/-- The error tells of what was read, not of what was done. -/
def Error.OfInput : Error → Prop
  | project _ => True
  | template _ _ => True
  | argument _ _ => True
  | input _ => True
  | noTemplates => True
  | generation _ _ => False
  | disk _ => False

/-! ## Steps that only read -/

variable {α β ε : Type} {t : FileTree}

/-- A step that leaves the tree as it is, fails exactly if something is at
fault, and then tells of its input. -/
inductive Reads (step : ExceptT Error (StateM FileTree) α) (t : FileTree) (fault : Prop) : Prop
  | answers {a : α} (hrun : t.outcome step = (.ok a, t)) (hno : ¬ fault)
  | fails {e : Error} (hrun : t.outcome step = (.error e, t)) (he : e.OfInput) (hfault : fault)

variable {step : ExceptT Error (StateM FileTree) α} {p q : Prop}

theorem Reads.congr (h : Reads step t p) (hpq : p ↔ q) : Reads step t q := by
  cases h with
  | answers hrun hno => exact .answers hrun fun hq => hno (hpq.2 hq)
  | fails hrun he hfault => exact .fails hrun he (hpq.1 hfault)

theorem reads_pure (a : α) (hp : ¬ p) :
    Reads (pure a : ExceptT Error (StateM FileTree) α) t p :=
  .answers rfl hp

theorem reads_throw {e : Error} (he : e.OfInput) (hp : p) :
    Reads (throw e : ExceptT Error (StateM FileTree) α) t p :=
  .fails rfl he hp

theorem Reads.bind {next : α → ExceptT Error (StateM FileTree) β} (h : Reads step t p)
    (hfault : p → q) (hnext : ∀ a, t.outcome step = (.ok a, t) → ¬ p → Reads (next a) t q) :
    Reads (step >>= next) t q := by
  have hbind := FileTree.outcome_bind step next t
  cases h with
  | answers hrun hno =>
      rw [hrun] at hbind
      cases hnext _ hrun hno with
      | answers hrun' hno' => exact .answers (hbind.trans hrun') hno'
      | fails hrun' he hfault' => exact .fails (hbind.trans hrun') he hfault'
  | fails hrun he hp =>
      rw [hrun] at hbind
      exact .fails hbind he (hfault hp)

theorem outcome_attempt (cause : ε → Error) {step : StateM FileTree (Except ε α)}
    {answer : Except ε α} (h : step t = (answer, t)) :
    t.outcome (attempt cause step) = (answer.mapError cause, t) := by
  have hrun : t.outcome (attempt cause step) = ((step t).1.mapError cause, (step t).2) := rfl
  rw [hrun, h]

theorem outcome_lift (step : StateM FileTree α) (t : FileTree) :
    t.outcome (ExceptT.lift step : ExceptT Error (StateM FileTree) α) =
      (.ok (step t).1, (step t).2) := rfl

theorem read_apply (path : Path) (t : FileTree) :
    (Disk.read path : StateM FileTree _) t = (t.read path, t) := rfl

/-! ## Templates -/

section Template

variable {path : Path}

theorem load_of_error {f : Disk.Fault} (hread : t.read path = .error f) :
    (Template.load path : StateM FileTree _) t = (.error (.unreadable path f), t) := by
  rw [Template.load, FileTree.bind_apply, read_apply, hread]
  rfl

theorem load_of_text {text : Text} (hread : t.read path = .ok text) :
    (Template.load path : StateM FileTree _) t =
      ((Template.ofText (Template.formatOf path) text).mapError .invalid, t) := by
  rw [Template.load, FileTree.bind_apply, read_apply, hread]
  rfl

theorem reads_load {cause : Template.LoadError → Error} (hcause : ∀ e, (cause e).OfInput) :
    Reads (attempt cause (Template.load path)) t (NoTemplate t path) := by
  cases hread : t.read path with
  | error f =>
      have hrun := outcome_attempt cause (load_of_error hread)
      exact .fails hrun (hcause _) (.unreadable hread)
  | ok text =>
      have hrun := outcome_attempt cause (load_of_text hread)
      cases hparse : Template.ofText (Template.formatOf path) text with
      | error e =>
          rw [hparse] at hrun
          exact .fails hrun (hcause _) (.invalid hread hparse)
      | ok template =>
          rw [hparse] at hrun
          refine .answers hrun ?_
          intro h
          cases h with
          | unreadable h => exact absurd (hread.symm.trans h) (by simp)
          | invalid h h' =>
              obtain rfl := Except.ok.inj (hread.symm.trans h)
              exact absurd (hparse.symm.trans h') (by simp)

theorem reads_loadEntries (root : Path) (entries : List (Path × Option Path)) :
    Reads (loadEntries root entries) t (∃ entry ∈ entries, NoTemplate t entry.1) := by
  induction entries with
  | nil => exact reads_pure [] (by simp)
  | cons entry rest ih =>
      have hload : Reads (attempt (.template entry.1) (Template.load entry.1)) t _ :=
        reads_load fun _ => trivial
      refine hload.bind (fun h => ⟨entry, List.mem_cons_self, h⟩) ?_
      intro template _ hno
      refine Reads.bind (ih.congr ?_) id fun jobs _ hjobs => reads_pure _ hjobs
      simp [hno]

end Template

/-! ## Templates among the options -/

section Argument

variable {input : Bytes} {rest : List Text}

theorem inputBehind_cons (input : Bytes) (word : Text) (before : List Text) :
    inputBehind input (word :: before) = inputBehind (inputBehind input [word]) before := by
  by_cases hword : ['-'] = word <;> simp [inputBehind, hword]

theorem not_argumentFault_nil : ¬ ArgumentFault t input [] := by
  rintro ⟨before, hwords, -⟩
  simp at hwords

/-- A fault is one of the first word or, with the input that this leaves, one of
the others. -/
theorem argumentFault_cons_iff {word : Text} :
    ArgumentFault t input (word :: rest) ↔
      WordFault t input word ∨ ArgumentFault t (inputBehind input [word]) rest := by
  constructor
  · rintro ⟨before, hwords, hno⟩
    cases before with
    | nil =>
        obtain ⟨rfl, -⟩ := List.cons.inj hwords
        exact .inl hno
    | cons first before =>
        obtain ⟨rfl, hrest⟩ := List.cons.inj hwords
        rw [inputBehind_cons] at hno
        exact .inr (.behind before hrest hno)
  · rintro (hno | ⟨before, hrest, hno⟩)
    · exact .behind [] rfl hno
    · rw [← inputBehind_cons] at hno
      exact .behind (word :: before) (by rw [hrest, List.cons_append]) hno

theorem reads_ofBytes (input : Bytes) :
    Reads (attempt .input (pure (Template.ofBytes input))) t (WordFault t input ['-']) := by
  cases hparse : Template.ofBytes input with
  | error e => exact .fails (outcome_attempt _ rfl) trivial (.input rfl hparse)
  | ok template =>
      refine .answers (outcome_attempt _ rfl) ?_
      intro h
      cases h with
      | file hword => exact hword rfl
      | input _ hparse' => exact absurd (hparse.symm.trans hparse') (by simp)

theorem reads_word {word : Text} (hword : word ≠ ['-']) :
    Reads (attempt (.argument word) (Template.load ⟨word⟩)) t (WordFault t input word) := by
  have hload : Reads (attempt (.argument word) (Template.load ⟨word⟩)) t _ :=
    reads_load fun _ => trivial
  refine hload.congr ⟨.file hword, ?_⟩
  intro h
  cases h with
  | file _ hno => exact hno
  | input hinput => exact absurd hinput hword

theorem reads_loadArguments (root : Path) (input : Bytes) (words : List Text) :
    Reads (loadArguments root input words) t (ArgumentFault t input words) := by
  induction words generalizing input with
  | nil => exact reads_pure [] not_argumentFault_nil
  | cons word rest ih =>
      refine Reads.congr ?_ argumentFault_cons_iff.symm
      rw [loadArguments]
      split
      next hinput =>
        obtain rfl : word = ['-'] := by simpa using hinput
        have hleft : inputBehind input [['-']] = [] := by simp [inputBehind]
        rw [hleft]
        refine (reads_ofBytes input).bind .inl fun template _ hparses => ?_
        refine Reads.bind (ih []) .inr fun jobs _ hno => reads_pure _ ?_
        exact not_or.2 ⟨hparses, hno⟩
      next hfile =>
        have hword : word ≠ ['-'] := by simpa using hfile
        have hleft : inputBehind input [word] = input := by simp [inputBehind, hword.symm]
        rw [hleft]
        refine (reads_word hword).bind .inl fun template _ hloads => ?_
        refine Reads.bind (ih input) .inr fun jobs _ hno => reads_pure _ ?_
        exact not_or.2 ⟨hloads, hno⟩

end Argument

/-! ## The project -/

section Project

variable {options : Options} {input : Bytes} {project : Project} {base file : Path}

theorem projectFile_apply (options : Options) (t : FileTree) :
    (projectFile options : StateM FileTree _) t = (projectFileOn t options, t) := by
  rw [projectFile, projectFileOn]
  cases options.config with
  | some file => rfl
  | none => rfl

theorem projectLoad_of_error {f : Disk.Fault} (hread : t.read file = .error f) :
    (Project.load file : StateM FileTree _) t = (.error (.unreadable f), t) := by
  rw [Project.load, FileTree.bind_apply, read_apply, hread]
  rfl

theorem projectLoad_of_text {text : Text} (hread : t.read file = .ok text) :
    (Project.load file : StateM FileTree _) t =
      ((Project.fromYaml? text).elim (.error .invalid) .ok, t) := by
  rw [Project.load, FileTree.bind_apply, read_apply, hread]
  simp only
  cases Project.fromYaml? text <;> rfl

theorem ProjectOn.unique {r r' : Project × Path} (h : ProjectOn t options r)
    (h' : ProjectOn t options r') : r = r' := by
  cases h with
  | absent hfile =>
      cases h' with
      | absent _ => rfl
      | loaded hfile' _ _ => exact absurd (hfile.symm.trans hfile') (by simp)
  | loaded hfile hread hparse =>
      cases h' with
      | absent hfile' => exact absurd (hfile'.symm.trans hfile) (by simp)
      | loaded hfile' hread' hparse' =>
          obtain rfl := Option.some.inj (hfile.symm.trans hfile')
          obtain rfl := Except.ok.inj (hread.symm.trans hread')
          obtain rfl := Option.some.inj (hparse.symm.trans hparse')
          rfl

theorem ProjectOn.not_noProject {r : Project × Path} (h : ProjectOn t options r)
    (hfile : projectFileOn t options = some file) : ¬ NoProject t file := by
  intro hno
  cases h with
  | absent hfile' => exact absurd (hfile'.symm.trans hfile) (by simp)
  | loaded hfile' hread hparse =>
      obtain rfl := Option.some.inj (hfile.symm.trans hfile')
      cases hno with
      | unreadable hread' => exact absurd (hread.symm.trans hread') (by simp)
      | invalid hread' hparse' =>
          obtain rfl := Except.ok.inj (hread.symm.trans hread')
          exact absurd (hparse.symm.trans hparse') (by simp)

theorem outcome_loadProject_of_none (hfile : projectFileOn t options = none) :
    t.outcome (loadProject options) = (.ok ({}, ⟨['.']⟩), t) := by
  rw [loadProject, FileTree.outcome_bind, outcome_lift, projectFile_apply, hfile]
  rfl

theorem outcome_loadProject_of_some (hfile : projectFileOn t options = some file)
    {answer : Except Project.LoadError Project}
    (hload : (Project.load file : StateM FileTree _) t = (answer, t)) :
    t.outcome (loadProject options) =
      ((answer.mapError .project).map fun project => (project, directoryOf file), t) := by
  rw [loadProject, FileTree.outcome_bind, outcome_lift, projectFile_apply, hfile]
  simp only
  rw [FileTree.outcome_bind, outcome_attempt _ hload]
  cases answer <;> rfl

/-- The project is read, and it is the one of the tree. -/
theorem reads_loadProject (options : Options) (t : FileTree) :
    (∃ r, t.outcome (loadProject options) = (.ok r, t) ∧ ProjectOn t options r) ∨
      ∃ e file, t.outcome (loadProject options) = (.error e, t) ∧ e.OfInput ∧
        projectFileOn t options = some file ∧ NoProject t file := by
  cases hfile : projectFileOn t options with
  | none => exact .inl ⟨_, outcome_loadProject_of_none hfile, .absent hfile⟩
  | some file =>
      cases hread : t.read file with
      | error f =>
          have hrun := outcome_loadProject_of_some hfile (projectLoad_of_error hread)
          exact .inr ⟨_, file, hrun, trivial, rfl, .unreadable hread⟩
      | ok text =>
          have hrun := outcome_loadProject_of_some hfile (projectLoad_of_text hread)
          cases hparse : Project.fromYaml? text with
          | none =>
              rw [hparse] at hrun
              exact .inr ⟨_, file, hrun, trivial, rfl, .invalid hread hparse⟩
          | some project =>
              rw [hparse] at hrun
              exact .inl ⟨_, hrun, .loaded hfile hread hparse⟩

/-! ## All that is read -/

theorem length_loadEntries {root : Path} {entries : List (Path × Option Path)} {u : FileTree}
    {jobs : List Job} (h : t.outcome (loadEntries root entries) = (.ok jobs, u)) :
    jobs.length = entries.length := by
  induction entries generalizing t jobs with
  | nil =>
      cases h
      rfl
  | cons entry rest ih =>
      obtain ⟨template, v, -, hrest⟩ := FileTree.outcome_bind_eq_ok.1 h
      obtain ⟨jobs', w, hjobs, hpure⟩ := FileTree.outcome_bind_eq_ok.1 hrest
      cases hpure
      simp [ih hjobs]

theorem length_loadArguments {root : Path} {words : List Text} {u : FileTree}
    {jobs : List Job} (h : t.outcome (loadArguments root input words) = (.ok jobs, u)) :
    jobs.length = words.length := by
  induction words generalizing t input jobs with
  | nil =>
      cases h
      rfl
  | cons word rest ih =>
      rw [loadArguments] at h
      split at h
      all_goals
        obtain ⟨template, v, -, hrest⟩ := FileTree.outcome_bind_eq_ok.1 h
        obtain ⟨jobs', w, hjobs, hpure⟩ := FileTree.outcome_bind_eq_ok.1 hrest
        cases hpure
        simp [ih hjobs]

theorem reads_loadJobs (root : Path) (hproject : ProjectOn t options (project, base)) :
    Reads (loadJobs options input project base root) t (InputFault t options input) := by
  rw [loadJobs]
  split
  next htemplates =>
    have hoptions : options.templates = [] := by simpa using htemplates
    refine (reads_loadEntries root _).bind ?_ ?_
    · rintro ⟨entry, hmem, hno⟩
      exact .entry hproject hoptions hmem hno
    · intro jobs hjobs hload
      have hlength := length_loadEntries hjobs
      dsimp only
      split
      next hempty =>
        refine reads_throw trivial (.noTemplates hproject hoptions ?_)
        rw [List.isEmpty_iff.1 hempty, List.length_nil] at hlength
        exact List.length_eq_zero_iff.1 hlength.symm
      next hjobs =>
        refine reads_pure _ ?_
        intro h
        cases h with
        | project hfile hno => exact hproject.not_noProject hfile hno
        | noTemplates hproject' _ hnone =>
            cases hproject.unique hproject'
            rw [hnone] at hlength
            exact hjobs (List.isEmpty_iff.2 (List.length_eq_zero_iff.1 hlength))
        | entry hproject' _ hmem hno =>
            cases hproject.unique hproject'
            exact hload ⟨_, hmem, hno⟩
        | argument hno =>
            rw [hoptions] at hno
            exact not_argumentFault_nil hno
  next htemplates =>
    have hoptions : options.templates ≠ [] := by simpa using htemplates
    refine (reads_loadArguments root input _).bind .argument ?_
    intro jobs hjobs hload
    have hlength := length_loadArguments hjobs
    dsimp only
    split
    next hempty =>
      rw [List.isEmpty_iff.1 hempty, List.length_nil] at hlength
      exact absurd (List.length_eq_zero_iff.1 hlength.symm) hoptions
    next =>
      refine reads_pure _ ?_
      intro h
      cases h with
      | project hfile hno => exact hproject.not_noProject hfile hno
      | noTemplates _ hnone => exact hoptions hnone
      | entry _ hnone => exact hoptions hnone
      | argument hno => exact hload hno

/-- All that a command reads before it does anything: the project, the root of
the output and the jobs. -/
def loadAll (options : Options) (input : Bytes) :
    ExceptT Error (StateM FileTree) (Project × Path × List Job) := do
  let (project, base) ← loadProject options
  let root := outputRoot options project base
  return (project, root, ← loadJobs options input project base root)

theorem reads_loadAll (options : Options) (input : Bytes) (t : FileTree) :
    Reads (loadAll options input) t (InputFault t options input) := by
  rw [loadAll]
  obtain ⟨⟨project, base⟩, hrun, hproject⟩ | ⟨e, file, hrun, he, hfile, hno⟩ :=
    reads_loadProject options t
  · have hload : Reads (loadProject options) t False := .answers hrun id
    refine hload.bind False.elim ?_
    intro r hr _
    obtain rfl : (project, base) = r := by simpa [hrun] using hr
    refine (reads_loadJobs _ hproject).bind id ?_
    exact fun jobs _ hno => reads_pure _ hno
  · have hload : Reads (loadProject options) t True := .fails hrun he trivial
    refine hload.bind (fun _ => .project hfile hno) ?_
    exact fun _ _ hnot => absurd trivial hnot

end Project

/-! ## The whole command -/

/-- What a command does with all that it has read. -/
def carryOut (options : Options) (preview : Bool) :
    Project × Path × List Job → ExceptT Error (StateM FileTree) Text
  | (project, root, jobs) => do
    let g : Generator :=
      { values := .ofPrimary (project.placeholders.putAll options.assignments)
        options := project.merge
        dryRun := options.dryRun || preview }
    let report ← runJobs g jobs
    if preview then return drawing (← ExceptT.lift Disk.current) root report
    else return listing report

theorem generate_eq_bind (options : Options) (input : Bytes) (preview : Bool) :
    (generate options input preview : ExceptT Error (StateM FileTree) Text) =
      loadAll options input >>= carryOut options preview := by
  simp only [generate, loadAll, bind_assoc, pure_bind]
  rfl

theorem exists_of_outcome_attempt_error {cause : ε → Error}
    {step : StateM FileTree (Except ε α)} {u : FileTree} {e : Error}
    (h : t.outcome (attempt cause step) = (.error e, u)) : ∃ f, e = cause f := by
  have hanswer : (step t).1.mapError cause = .error e := congrArg Prod.fst h
  cases hstep : (step t).1 with
  | ok a => simp [hstep, Except.mapError] at hanswer
  | error f =>
      rw [hstep] at hanswer
      exact ⟨f, (Except.error.inj hanswer).symm⟩

theorem not_ofInput_of_runJobs {g : Generator} {jobs : List Job} {u : FileTree} {e : Error}
    (h : t.outcome (runJobs g jobs) = (.error e, u)) : ¬ e.OfInput := by
  induction jobs generalizing t with
  | nil => cases h
  | cons job rest ih =>
      rw [runJobs] at h
      rcases FileTree.outcome_bind_eq_error.1 h with hrun | ⟨report, v, -, hrest⟩
      · obtain ⟨f, rfl⟩ := exists_of_outcome_attempt_error hrun
        exact id
      · rcases FileTree.outcome_bind_eq_error.1 hrest with hrun | ⟨reports, w, -, hpure⟩
        · exact ih hrun
        · cases hpure

theorem not_ofInput_of_carryOut {options : Options} {preview : Bool}
    {r : Project × Path × List Job} {u : FileTree} {e : Error}
    (h : t.outcome (carryOut options preview r) = (.error e, u)) : ¬ e.OfInput := by
  rcases FileTree.outcome_bind_eq_error.1 h with hrun | ⟨report, v, -, hshow⟩
  · exact not_ofInput_of_runJobs hrun
  · cases preview <;> cases hshow

theorem inputFault_iff_generate (options : Options) (input : Bytes) (preview : Bool)
    (t : FileTree) :
    InputFault t options input ↔
      ∃ e, e.OfInput ∧ t.outcome (generate options input preview) = (.error e, t) := by
  have hbind := FileTree.outcome_bind (loadAll options input) (carryOut options preview) t
  rw [← generate_eq_bind] at hbind
  cases reads_loadAll options input t with
  | fails hrun he hfault =>
      rw [hrun] at hbind
      exact iff_of_true hfault ⟨_, he, hbind⟩
  | answers hrun hno =>
      rw [hrun] at hbind
      refine iff_of_false hno ?_
      rintro ⟨e, he, hgenerate⟩
      exact not_ofInput_of_carryOut (hbind.symm.trans hgenerate) he

theorem run_of_error {words : List Text} {command : Command} {options : Options} {input : Bytes}
    {e : Error} {u : FileTree} (hwords : ofWords words = .ok (command, options))
    (h : t.outcome (execute command options input) = (.error e, u)) :
    (run words input : StateM FileTree Response) t =
      ({ code := 1, complaint := complaint e }, u) := by
  rw [run, hwords]
  dsimp only
  rw [FileTree.bind_apply, ← FileTree.outcome, h]
  rfl

/-- Something is wrong with what a command is to read, the project or any of the
templates, if and only if the command fails with an error that tells so, and
then the tree is the one it was. -/
theorem inputFault_iff_fails_untouched {words : List Text} {command : Command}
    {options : Options} (hwords : ofWords words = .ok (command, options))
    (hcommand : command = .generate ∨ command = .preview) (input : Bytes) (t : FileTree) :
    InputFault t options input ↔
      ∃ e : Error, e.OfInput ∧
        t.outcome (execute command options input) = (.error e, t) ∧
        (run words input : StateM FileTree Response) t =
          ({ code := 1, complaint := complaint e }, t) := by
  have hfails : InputFault t options input ↔
      ∃ e : Error, e.OfInput ∧ t.outcome (execute command options input) = (.error e, t) := by
    rcases hcommand with rfl | rfl
    · exact inputFault_iff_generate options input false t
    · exact inputFault_iff_generate options input true t
  rw [hfails]
  constructor
  · rintro ⟨e, he, h⟩
    exact ⟨e, he, h, run_of_error hwords h⟩
  · rintro ⟨e, he, h, -⟩
    exact ⟨e, he, h⟩

/-- The second of two templates has a fault; the first one is not generated. -/
theorem fails_untouched_at_second_template :
    let t := (FileTree.startingAt []).put ["a.json".toList]
      (.file (.text "\x7b\"filePaths\":[\x7b\"path\":\"d\",\"nodes\":[]\x7d]\x7d".toList))
    let words := ["-t".toList, "a.json".toList, "--template".toList, "b.json".toList]
    ∃ e : Error, e.OfInput ∧
      (run words [] : StateM FileTree Response) t =
        ({ code := 1, complaint := complaint e }, t) := by
  intro t words
  let options : Options := { templates := ["a.json".toList, "b.json".toList] }
  have hwords : ofWords words = .ok (.generate, options) := by decide +kernel
  have hmissing : t.read ⟨"b.json".toList⟩ = .error .missing := by decide +kernel
  have hfault : InputFault t options [] :=
    .argument (.behind ["a.json".toList] rfl (.file (by decide) (.unreadable hmissing)))
  obtain ⟨e, he, -, hrun⟩ :=
    (inputFault_iff_fails_untouched hwords (.inl rfl) [] t).1 hfault
  exact ⟨e, he, hrun⟩

end Scaffold.CommandLine
