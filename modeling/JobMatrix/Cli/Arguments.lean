import JobMatrix.Text.Digits
import JobMatrix.Text.Search

/-!
Command lines: a command, its options in any order, and the path of a file. Options have long names and
some have letters; letters may be put together, and a value may be attached to its option or follow it.
-/
namespace JobMatrix.Cli

inductive Command
  | run
  | matrix
  | validate
  deriving DecidableEq

def commandOf? : String → Option Command
  | "run" => some .run
  | "matrix" => some .matrix
  | "validate" => some .validate
  | _ => none

inductive Opt
  | event
  | maxParallel
  | quiet
  | json
  | steps
  | pinnedToolchain
  | token
  | env
  | workingDir
  | verbose
  | help
  deriving DecidableEq

/-- How an option is written and what it takes. `value` is the name of its value in messages, if it takes
one; an option that is not repeatable may be given once. -/
structure OptInfo where
  opt : Opt
  long : String
  letter : Option Char
  value : Option String
  repeatable : Bool

def configOptions : List OptInfo :=
  [⟨.pinnedToolchain, "pinned-toolchain", none, some "TOOLCHAIN", false⟩,
    ⟨.token, "token", none, some "TOKEN", false⟩,
    ⟨.env, "env", none, some "NAME=VALUE", true⟩,
    ⟨.workingDir, "working-dir", some 'w', some "DIR", false⟩]

def commonOptions : List OptInfo :=
  [⟨.verbose, "verbose", some 'v', none, true⟩, ⟨.help, "help", some 'h', none, false⟩]

def optionsOf : Command → List OptInfo
  | .run =>
    [⟨.event, "event", some 'e', some "EVENT", false⟩,
      ⟨.maxParallel, "max-parallel", some 'j', some "N", false⟩,
      ⟨.quiet, "quiet", some 'q', none, false⟩,
      ⟨.json, "json", none, none, false⟩] ++ configOptions ++ commonOptions
  | .matrix =>
    [⟨.steps, "steps", some 's', none, false⟩,
      ⟨.event, "event", some 'e', some "EVENT", false⟩,
      ⟨.json, "json", none, none, false⟩] ++ configOptions ++ commonOptions
  | .validate => commonOptions

/-- Why a command line is not taken. With `usage` the way to use the program is explained. -/
inductive ArgumentError
  | usage
  | noValue (argument : String)
  | badValue (value argument problem : String)
  | help
  | version
  deriving DecidableEq

inductive Given
  | flag (opt : Opt)
  | value (opt : Opt) (text : String)
  | path (text : String)
  deriving DecidableEq

def OptInfo.argument (info : OptInfo) : String :=
  "--" ++ info.long ++ match info.value with
    | some name => " <" ++ name ++ ">"
    | none => ""

def numberProblem? (text : String) : Option String :=
  let digits := match text.toList with
    | '+' :: rest => rest
    | chars => chars
  if text = "" then some "cannot parse integer from empty string"
  else match Text.naturalIn? 10 digits with
    | none => some "invalid digit found in string"
    | some n => if n < UInt64.size then none else some "number too large to fit in target type"

def checkValue (info : OptInfo) (text : String) : Except ArgumentError Unit :=
  match info.opt with
  | .maxParallel =>
    match numberProblem? text with
    | some problem => .error (.badValue text info.argument problem)
    | none => .ok ()
  | .workingDir => if text = "" then .error (.noValue info.argument) else .ok ()
  | _ => .ok ()

/-- What was read so far, the last first, and the option whose value was read last or is still to come. -/
structure Reader where
  given : List Given
  waiting : Option OptInfo
  unchecked : Option (OptInfo × String)

namespace Reader

def settle (r : Reader) : Except ArgumentError Reader :=
  match r.waiting, r.unchecked with
  | some info, _ => .error (.noValue info.argument)
  | none, some (info, text) => do
    checkValue info text
    return { r with unchecked := none }
  | none, none => .ok r

def has (r : Reader) (opt : Opt) : Bool :=
  r.given.any fun
    | .flag o | .value o _ => o == opt
    | .path _ => false

def once (r : Reader) (info : OptInfo) : Except ArgumentError Unit :=
  if !info.repeatable && r.has info.opt then .error .usage else .ok ()

def flag (r : Reader) (info : OptInfo) : Except ArgumentError Reader := do
  let r ← r.settle
  if info.opt = .help then throw .help
  r.once info
  return { r with given := .flag info.opt :: r.given }

/-- An option with its value, or with the value still to come. -/
def option (r : Reader) (info : OptInfo) (text : Option String) : Except ArgumentError Reader := do
  let r ← r.settle
  r.once info
  match text with
  | some text =>
    return { r with given := .value info.opt text :: r.given, unchecked := some (info, text) }
  | none => return { r with waiting := some info }

/-- An argument that is no option: the value waited for, or the path. -/
def plain (r : Reader) (text : String) : Except ArgumentError Reader :=
  match r.waiting with
  | some info =>
    .ok { r with given := .value info.opt text :: r.given, waiting := none, unchecked := some (info, text) }
  | none => do
    let r ← r.settle
    if r.given.any (fun | .path _ => true | _ => false) then throw .usage
    if text = "" then throw (.noValue "<WORKFLOW>")
    return { r with given := .path text :: r.given }

/-- An option by its long name, perhaps with a value after an equals sign. -/
def long (options : List OptInfo) (r : Reader) (s : List Char) : Except ArgumentError Reader :=
  let (name, value) := match Text.cut? ['='] s with
    | some (name, value) => (name, some (String.ofList value))
    | none => (s, none)
  match options.find? (·.long.toList == name) with
  | none => .error .usage
  | some info =>
    match info.value, value with
    | some _, value => r.option info value
    | none, none => r.flag info
    | none, some _ => .error .usage

/-- Options by their letters. What follows an option that takes a value is the value. -/
def letters (options : List OptInfo) (r : Reader) : List Char → Except ArgumentError Reader
  | [] => .ok r
  | c :: rest =>
    match options.find? (·.letter == some c) with
    | none => .error .usage
    | some info =>
      match info.value, rest with
      | none, '=' :: _ => .error .usage
      | none, _ => do letters options (← r.flag info) rest
      | some _, [] => r.option info none
      | some _, '=' :: value => r.option info (some (String.ofList value))
      | some _, value => r.option info (some (String.ofList value))

/-- All arguments; after two hyphens none is an option. -/
def read (options : List OptInfo) (r : Reader) : List String → Except ArgumentError Reader
  | [] => r.settle
  | argument :: rest =>
    match argument.toList with
    | ['-', '-'] =>
      if r.waiting.isSome then .error .usage else do (← rest.foldlM plain r).settle
    | '-' :: '-' :: s => do read options (← r.long options s) rest
    | '-' :: c :: s => do read options (← r.letters options (c :: s)) rest
    | _ => do read options (← r.plain argument) rest

end Reader

structure Invoked where
  command : Command
  path : String
  given : List Given
  deriving DecidableEq

def readCommand (command : Command) (arguments : List String) : Except ArgumentError Invoked := do
  let r ← Reader.read (optionsOf command) ⟨[], none, none⟩ arguments
  match r.given.findSome? (fun | .path text => some text | _ => none) with
  | some path => return ⟨command, path, r.given.reverse⟩
  | none => throw .usage

def leadingLetters : List Char → Except ArgumentError Unit
  | [] => .ok ()
  | 'v' :: rest => leadingLetters rest
  | 'h' :: _ => .error .help
  | 'V' :: _ => .error .version
  | _ => .error .usage

def readArguments : List String → Except ArgumentError Invoked
  | [] => .error .usage
  | argument :: rest =>
    match argument.toList with
    | '-' :: '-' :: name =>
      if name = "verbose".toList then readArguments rest
      else if name = "help".toList then .error .help
      else if name = "version".toList then .error .version
      else .error .usage
    | '-' :: c :: s => do
      leadingLetters (c :: s)
      readArguments rest
    | _ =>
      match commandOf? argument with
      | some command => readCommand command rest
      | none => .error (if argument = "help" then .help else .usage)

namespace Invoked

def has (i : Invoked) (opt : Opt) : Bool := i.given.any (· == .flag opt)

def values (i : Invoked) (opt : Opt) : List String :=
  i.given.filterMap fun
    | .value o text => if o = opt then some text else none
    | _ => none

def value? (i : Invoked) (opt : Opt) : Option String := (i.values opt).head?

end Invoked
end JobMatrix.Cli
