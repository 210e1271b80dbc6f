import JobMatrix.Script.Program.Dump
import JobMatrix.Script.Program.Files
import JobMatrix.Script.Program.Lines
import JobMatrix.Script.Program.Sed
import JobMatrix.Script.Subshell

/-!
Commands by their names: functions, parts of the shell, programs, and programs that run other commands.
-/
namespace JobMatrix.Script
open Eval

namespace Inner

/-- The paths under which programs are found. -/
def programName? (name : String) : Option String :=
  if !name.contains '/' then some name
  else ["/usr/local/bin/", "/usr/bin/", "/bin/"].findSome? fun folder =>
    if folder.toList.isPrefixOf name.toList then some (String.ofList (name.toList.drop folder.length)) else none

/-- The programs that run other commands. -/
def launchers : List String := ["env", "sh", "dash", "bash", "xargs", "timeout", "nice", "nohup", "setsid", "stdbuf"]

/-- The programs that run no other command. -/
def program? (name : String) : Option (List String → Eval Nat) :=
  match (Program.forLines ++ Program.forFiles ++ Program.forBytes).find? (·.name == name) with
  | some p => some p.start
  | none => (Program.forWords.find? (·.1 == name)).map (·.2)

def isProgram (name : String) : Bool :=
  match programName? name with
  | some program =>
    launchers.contains program || (program? program).isSome ||
      ["sed", "printf", "test", "[", "pwd", "kill", "which"].contains program
  | none => false

def unknownCommand (name : String) : Eval Nat := do
  let extended := (← dialect) == .bash
  if name = "" && !extended then
    complain ": Permission denied"
    return 127
  let entry := (← get).world.tree.find (← session).directory name
  if name.contains '/' then
    match entry with
    | .ok .directory =>
      complain (name ++ if extended then ": Is a directory" else ": Permission denied")
      return 126
    | .ok _ =>
      complain (name ++ ": Permission denied")
      return 126
    | .error problem =>
      complain (name ++ if extended then ": " ++ problem.message else ": not found")
      return 127
  complain (name ++ if extended then ": command not found" else ": not found")
  return 127

/-- What kind of command a name stands for. -/
def describe (name : String) (verbose : Bool) : Eval Nat := do
  let extended := (← dialect) == .bash
  let found := fun (short long : String) => do
    sayLine (if verbose then name ++ " is " ++ long else short)
    return 0
  if reservedWords.contains name then return ← found name "a shell keyword"
  if ((← session).functions.get? name).isSome then
    return ← found name (if extended then "a function" else "a shell function")
  if (← Builtin.find? name).isSome || ["eval", "exec", "command", "type", ".", "kill"].contains name then
    let isSpecial := !extended && Builtin.isSpecial name
    return ← found name (if isSpecial then "a special shell builtin" else "a shell builtin")
  if isProgram name then
    let path := if name.contains '/' then name else "/usr/bin/" ++ name
    return ← found path path
  if verbose then
    if extended then complain ("type: " ++ name ++ ": not found") else sayLine (name ++ ": not found")
  return if extended then 1 else 127

/-- The program that prints formats, whose rules are those of the extended dialect. -/
def printfProgram (arguments : List String) : Eval Nat := do
  match arguments with
  | format :: arguments =>
    let printed := Format.all true format.toList (arguments.length + 1) arguments
    Program.sayBytes printed.text
    return Program.statusOf printed.troubles.isEmpty
  | [] => Program.misused "printf" "missing operand" 1

mutual

def runProgram (i : Inner) : Nat → Bool → String → List String → Eval Nat
  | 0, _, _, _ => throw .exhausted
  | n + 1, isLast, name, arguments => do
    let program := (programName? name).getD name
    let again := fun (arguments : List String) => do
      match arguments with
      | name :: rest => runProgram i n isLast name rest
      | [] => return 0
    match program with
    | "sh" | "dash" => i.shellProgram .sh isLast name arguments
    | "bash" => i.shellProgram .bash isLast name arguments
    | "env" => runWithEnvironment i n isLast arguments
    | "timeout" =>
      match arguments with
      | limit :: rest => do
        let before := (← get).world.clock
        let status ← again rest
        let after := (← get).world.clock
        let late := (Program.duration? limit).any fun limit => limit > 0 && before + limit < after
        return if late then 124 else status
      | [] =>
        warn "Try 'timeout --help' for more information."
        return 125
    | "nice" | "nohup" | "setsid" => again (match arguments with
      | "-n" :: _ :: rest => rest
      | rest => rest)
    | "stdbuf" => again (arguments.dropWhile fun a => a.toList.head? = some '-')
    | "xargs" => do
      let (found, rest) := match arguments with
        | "-n" :: count :: rest => (count.toNat?, rest)
        | "-0" :: rest | "-r" :: rest => (none, rest)
        | rest => (none, rest)
      let words := (Filter.wordsOf (← readAll)).map String.ofList
      let command := if rest.isEmpty then ["echo"] else rest
      if !isProgram (command.headD "") then
        warn ("xargs: " ++ command.headD "" ++ ": No such file or directory")
        return 127
      match found with
      | none => again (command ++ words)
      | some count =>
        let mut status := 0
        for group in List.range ((words.length + count - 1) / max count 1) do
          let s ← again (command ++ (words.drop (group * count)).take count)
          if s ≠ 0 then status := 123
        return status
    | "sed" => Sed.run arguments
    | "printf" => printfProgram arguments
    | "test" | "[" => Test.run program arguments
    | "pwd" => Builtin.pwd ["-P"]
    | "which" => Program.which arguments isProgram
    | _ =>
      match (program? program).filter fun _ => isProgram name with
      | some run => run arguments
      | none => unknownCommand name

/-- A program in a changed environment, or the environment itself. -/
def runWithEnvironment (i : Inner) : Nat → Bool → List String → Eval Nat
  | 0, _, _ => throw .exhausted
  | n + 1, isLast, arguments => do
    match arguments with
    | "-i" :: rest | "-" :: rest => isolated do
      for (name, v) in (← session).bindings.entries do
        if v.exported then unsetVariable name
      runWithEnvironment i n isLast rest
    | "-u" :: name :: rest => isolated do
      unsetVariable name
      runWithEnvironment i n isLast rest
    | argument :: rest =>
      match Builtin.declared argument with
      | (name, some value, _) => isolated do
        let _ ← setValue name value
        exportVariable name
        runWithEnvironment i n isLast rest
      | _ => do
        if argument.toList.head? = some '-' then
          return ← Program.misused "env" ("invalid option -- '" ++
            String.ofList ((argument.toList.drop 1).take 1) ++ "'") 125
        if isProgram argument then runProgram i n isLast argument rest
        else
          warn ("env: '" ++ argument ++ "': No such file or directory")
          return 127
    | [] => Program.printenv []

end

/-- How the shell is told to send a signal: the signal, if it is known, its text, and the processes. -/
def killTask (arguments : List String) : Option (String × Nat) × String × List String :=
  match arguments with
  | "-s" :: name :: rest | "-n" :: name :: rest => (Builtin.signal? name, name, rest)
  | "--" :: rest => (some ("TERM", 15), "", rest)
  | first :: rest =>
    match first.toList with
    | '-' :: c :: name => (Builtin.signal? (String.ofList (c :: name)), String.ofList (c :: name), rest)
    | _ => (some ("TERM", 15), "", arguments)
  | [] => (some ("TERM", 15), "", [])

/-- The usage of the command that sends signals. -/
def killUsage : Eval Nat := do
  if (← dialect) = .bash then
    warn "kill: usage: kill [-s sigspec | -n signum | -sigspec] pid | jobspec ... or kill -l [sigspec]"
  else
    complain "kill: Usage: kill [-s sigspec | -signum | -sigspec] [pid | job]... or\nkill -l [exitstatus]"
  return 2

/-- The names of signals by their numbers. -/
def listSignals (arguments : List String) : Eval Nat := do
  match arguments.filterMap fun a => a.toNat? with
  | [] => sayLine (Text.joinWith "\n" ((Builtin.signals.drop 1).map Prod.fst))
  | numbers =>
    for n in numbers do
      sayLine ((Builtin.signal? (toString (n % 128))).map (·.1) |>.getD "")
  return 0

/-- A signal is sent to a process; the shell itself may have set what it does then. -/
def sendSignal (i : Inner) (name : String) (number process : Nat) : Eval Bool := do
  let s ← session
  let isOwn := process = s.process
  let isKnown := isOwn || (process < s.process && process ≥ 999)
  let missing := do
    complain ("kill: " ++ if s.dialect = .bash then "(" ++ toString process ++ ") - No such process"
      else "No such process\n")
    return false
  if !isKnown then missing
  else if number = 0 ∨ ["CHLD", "CONT"].contains name ∨ (s.dialect = .bash ∧ name = "QUIT") then return true
  else match s.traps.get? name with
    | some action =>
      if isOwn && action != "" then
        let _ ← i.runText .evaluated action
      return true
    | none => throw (.killed process number)

def kill (i : Inner) (arguments : List String) : Eval Nat := do
  if arguments.head? = some "-l" then return ← listSignals (arguments.drop 1)
  let extended := (← dialect) == .bash
  let (signal, text, processes) := killTask arguments
  if !extended && arguments.head? = some "-n" then
    complain "kill: Illegal option -n"
    throw (.exit 2)
  match signal with
  | none =>
    if extended then
      complain ("kill: " ++ text ++ ": invalid signal specification")
      return 1
    complain ("kill: Illegal option -" ++ String.ofList (text.toList.take 1))
    return 2
  | some (name, number) =>
    if processes.isEmpty then return ← killUsage
    let mut status := 0
    for text in processes do
      match text.toNat? with
      | some process => if !(← i.sendSignal name number process) then status := 1
      | none =>
        complain ("kill: " ++ if extended then text ++ ": arguments must be process or job IDs"
          else "Illegal number: " ++ text)
        status := if extended then 1 else 2
    return status

def runFunction (i : Inner) (body : Command) (arguments : List String) : Eval Nat := do
  let before := (← session).arguments
  let loops := (← session).loops
  changeSession fun s => { s with arguments := arguments, hidden := [] :: s.hidden, loops := 0 }
  let result ← observe (i.run body)
  let frame := (← session).hidden.headD []
  changeSession fun s => { s with arguments := before, hidden := s.hidden.drop 1, loops := loops }
  for (name, old) in frame do
    match old with
    | some v => putVariable name v
    | none => unsetVariable name
  match result with
  | .error (.returned status) => return status
  | other => resume other

/-- The lines of a file, run by this shell. -/
def source (i : Inner) (arguments : List String) : Eval Nat := do
  let path := arguments.headD ""
  let contents? := match (← get).world.tree.find (← session).directory path with
    | .ok (.file contents) => some contents
    | .ok .nullDevice => some ""
    | _ => none
  match contents? with
  | some contents =>
    changeSession fun s => { s with sources := s.sources + 1 }
    let result ← observe (i.runText .file contents)
    changeSession fun s => { s with sources := s.sources - 1 }
    match result with
    | .error (.returned status) => return status
    | other => resume other
  | none =>
    if (← dialect) = .bash then
      complain (path ++ ": No such file or directory")
      return 1
    complain (".: " ++
      if path.contains '/' then "cannot open " ++ path ++ ": No such file" else path ++ ": not found")
    throw (.exit 2)

def runNamed (i : Inner) (withFunctions isLast : Bool) : Nat → String → List String → Eval Nat
  | 0, _, _ => throw .exhausted
  | n + 1, name, arguments => do
    if withFunctions then
      if let some body := (← session).functions.get? name then return ← i.runFunction body arguments
    match name with
    | "eval" => i.runText .evaluated (Text.joinWith " " arguments)
    | "." => i.source arguments
    | "kill" => i.kill arguments
    | "command" =>
      match arguments with
      | "-v" :: name :: _ => describe name false
      | "-V" :: name :: _ => describe name true
      | "-p" :: name :: rest | name :: rest => runNamed i false isLast n name rest
      | [] => return 0
    | "builtin" =>
      match arguments with
      | name :: rest => runNamed i false isLast n name rest
      | [] => return 0
    | "type" => do
      let mut status := 0
      for name in arguments do
        let s ← describe name true
        if s ≠ 0 then status := s
      return status
    | "exec" =>
      match arguments with
      | [] => return 0
      | name :: rest => do
        if !isProgram name && !name.contains '/' then
          complain ("exec: " ++ name ++ ": not found")
          throw (.exit 127)
        changeSession fun s => { s with traps := without s.traps "EXIT" }
        throw (.exit (← i.runProgram i.limit true name rest))
    | _ =>
      if (← dialect) = .bash && name == "source" then i.source arguments
      else match ← Builtin.find? name with
        | some command => command arguments
        | none => i.runProgram i.limit isLast name arguments

end Inner
end JobMatrix.Script
