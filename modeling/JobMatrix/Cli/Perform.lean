import JobMatrix.Cli.Arguments
import JobMatrix.Cli.Console
import JobMatrix.Cli.Document
import JobMatrix.Workflow.Loading

/-!
The commands of the program: `validate` checks a declaration, `matrix` lists its jobs, and `run` runs them.
What the outside provides is a record: files, variables, the current directory, and a runner with its tasks.
-/
namespace JobMatrix.Cli
variable {α σ : Type}

/-- What the outside provides. The current directory may be one that cannot be told, for a reason that is reported;
the runner begins in a state. -/
structure Surroundings (σ : Type) where
  file : String → FileState
  lookUp? : String → Option String
  directory : Except String String
  runner : Runner σ
  state : σ
  tasks : Tasks

/-- What a command leaves: its exit code, what it printed, and the report of an error that it did not
print itself. -/
structure Finish where
  exitCode : Nat
  printed : List Printed
  report : Option String
  deriving DecidableEq

/-- How a command ends before its regular end, after what it printed so far. -/
abbrev Action (α : Type) := List Printed → Except Finish (α × List Printed)

namespace Action

def print (lines : List Printed) : Action Unit := fun printed => .ok ((), printed ++ lines)

def report (message : String) : Action α := fun printed => .error ⟨1, printed, some message⟩

def exit (code : Nat) : Action α := fun printed => .error ⟨code, printed, none⟩

end Action

instance : Monad Action where
  pure a := fun printed => .ok (a, printed)
  bind step next := fun printed =>
    match step printed with
    | .ok (a, printed) => next a printed
    | .error finish => .error finish

open Cli.Action

/-- A configuration error ends a command with exit code 2. -/
def refuse (message : String) : Action α := do
  print [.error message]
  exit 2

def theTrigger (i : Invoked) : Action Trigger :=
  match Trigger.parse ((i.value? .event).getD "manual") with
  | .ok trigger => pure trigger
  | .error message => report message

def theWorkflow (s : Surroundings σ) (path : String) : Action Workflow :=
  match s.file path with
  | .missing => report ("Workflow file not found: " ++ path)
  | state =>
    match Workflow.load state with
    | .ok w => pure w
    | .error (.unreadable (.notYaml problem)) => refuse ("Parse error: " ++ problem.message)
    | .error (.unreadable (.misshapen fault)) => refuse ("Parse error: " ++ fault.message)
    | .error e => report e.message

/-- A variable and its value on either side of the first equals sign. -/
def assignment? (text : String) : Option (String × String) :=
  (Text.cut? ['='] text.toList).map fun (name, value) => (String.ofList name, String.ofList value)

/-- Settings with variables laid over them, the later ones over the earlier ones. -/
def withAssignments (settings : Settings) : List String → Except String Settings
  | [] => .ok settings
  | text :: rest =>
    match assignment? text with
    | some (name, value) => withAssignments (settings.withVariable name value) rest
    | none => .error s!"Invalid environment format '{text}'. Expected NAME=VALUE"

def settingOf (s : Surroundings σ) (i : Invoked) (opt : Opt) (name : String) : Option String :=
  (i.value? opt).or (s.lookUp? name)

def directoryFor (s : Surroundings σ) (i : Invoked) : Except String String :=
  match i.value? .workingDir with
  | some directory => .ok directory
  | none => s.directory

def settingsFor (s : Surroundings σ) (i : Invoked) (w : Workflow) : Except String Settings := do
  let directory ← directoryFor s i
  let settings ← withAssignments (Settings.ofWorkflow w directory) (i.values .env)
  let settings := match settingOf s i .pinnedToolchain "MATRIX_PINNED_TOOLCHAIN" with
    | some toolchain => settings.withPinned toolchain
    | none => settings
  return match settingOf s i .token "MATRIX_ACCESS_TOKEN" with
    | some token => settings.withToken token
    | none => settings

def theSettings (s : Surroundings σ) (i : Invoked) (w : Workflow) : Action Settings :=
  match settingsFor s i w with
  | .ok settings => pure settings
  | .error message => report message

/-- A declaration error ends a command with exit code 2. -/
def accept (r : Except DeclarationError α) : Action α :=
  match r with
  | .ok a => pure a
  | .error e => refuse e.fullMessage

def validate (s : Surroundings σ) (i : Invoked) : Action Unit := do
  print [.status "Validating" i.path]
  let w ← theWorkflow s i.path
  print [.check "YAML syntax valid"]
  match w.check with
  | .ok () => pure ()
  | .error e =>
    print [.error e.message]
    match e.step? with
    | some step => print [.info ("  In step: " ++ step)]
    | none => pure ()
    exit 2
  match w.axes.bind fun axes => (jobCount axes).map fun jobs => (axes.length, jobs) with
  | .error e => report e.message
  | .ok (axes, jobs) =>
    let gated := (w.steps.filter (·.gate.isSome)).length
    let steps := w.steps.length
    print [.check s!"Matrix: {axes} axes, {jobs} jobs", .check s!"Steps: {steps} ({gated} gated)"]
  match w.toolchain with
  | some t => print [.check ("Toolchain axis: '" ++ t.axis ++ "'")]
  | none => print [.warning "No toolchain section: every job uses the stable toolchain"]
  print [.out "", .success (w.displayName ++ " is valid")]

def listedStep (step : Rehearsal) : List Printed :=
  match step.command, step.skipReason with
  | some command, _ => [.out ("    " ++ step.name), .dim ("      $ " ++ command)]
  | none, some reason => [.dim ("    " ++ step.name ++ " (skipped: " ++ reason ++ ")")]
  | none, none => []

def listedJob (job : Job) (steps : Option (List Rehearsal)) : List Printed :=
  .out (Printed.jobTag job.index ++ " " ++ job.name ++ " [" ++ job.toolchain.name ++ "]") ::
    (steps.getD []).flatMap listedStep

def matrix (s : Surroundings σ) (i : Invoked) : Action Unit := do
  let trigger ← theTrigger i
  let w ← theWorkflow s i.path
  let settings ← theSettings s i w
  let build ← accept (Build.ofWorkflow w settings)
  let jobs ← accept build.expand
  let planned := jobs.map fun job =>
    (job, if i.has .steps then some (build.rehearse job trigger) else none)
  if i.has .json then print [.out (JsonValue.ofJobs planned).pretty]
  else
    let count := planned.length
    print (.header (w.displayName ++ s!": {count} jobs") ::
      planned.flatMap fun (job, steps) => listedJob job steps)

/-- Everything printed about a run with these events: its progress, the closing list, and the document if it is
wanted. -/
def printedRun (flags : OutputFlags) (events : List RunEvent) (summary : Summary) : List Printed :=
  events.flatMap (Printed.ofRunEvent flags) ++
    .err "" :: summary.jobs.map Printed.closingLine ++
    (if flags.json then [.out (JsonValue.ofSummary summary).pretty] else [])

def conclude (flags : OutputFlags) (events : List RunEvent) (summary : Summary) : Action Unit := do
  print (printedRun flags events summary)
  if summary.success then pure () else exit 1

def Invoked.flags (i : Invoked) : OutputFlags := ⟨i.has .quiet, i.has .json⟩

def Invoked.bound? (i : Invoked) : Option Nat :=
  (i.value? .maxParallel).map fun text => (Text.naturalIn? 10 (text.toList.filter (· != '+'))).getD 0

/-- The whole run is a task, so a panic of the run itself is an error that is reported. -/
def runBuild (s : Surroundings σ) (i : Invoked) (trigger : Trigger) (build : Build) : Action Unit :=
  match build.run s.tasks trigger s.runner s.state with
  | .ok r => conclude i.flags r.events r.summary
  | .error e => refuse e.fullMessage
  | .panic announcement => do
    print (Printed.ofRunEvent i.flags announcement)
    report (s.tasks.joinError s.tasks.whole (some s.tasks.permitsMessage))

def run (s : Surroundings σ) (i : Invoked) : Action Unit := do
  let trigger ← theTrigger i
  print [.status "Parsing" i.path]
  let w ← theWorkflow s i.path
  let settings ← theSettings s i w
  let build ← accept (Build.ofWorkflow w settings)
  runBuild s i trigger (build.underBound i.bound?)

def execute (s : Surroundings σ) (i : Invoked) : Action Unit :=
  match i.command with
  | .validate => validate s i
  | .matrix => matrix s i
  | .run => run s i

/-- The lines that explain an error of the arguments by itself; the other errors are explained by the usage. -/
def ArgumentError.lines? : ArgumentError → Option (List String)
  | .noValue argument =>
    some [s!"error: a value is required for '{argument}' but none was supplied", "", moreHelp]
  | .badValue value argument problem =>
    some [s!"error: invalid value '{value}' for '{argument}': {problem}", "", moreHelp]
  | .usage | .help | .version => none
where
  moreHelp : String := "For more information, try '--help'."

/-- What a command leaves that has come to its regular end, or to another one before. -/
def Action.finish (x : Action Unit) (printed : List Printed) : Finish :=
  match x printed with
  | .ok ((), printed) => ⟨0, printed, none⟩
  | .error finish => finish

/-- The result of a command line; an error of the arguments themselves is the caller's to explain. -/
def perform (s : Surroundings σ) (arguments : List String) : Except ArgumentError Finish :=
  (readArguments arguments).map fun i => (execute s i).finish []

end JobMatrix.Cli
