import JobMatrix.Script.Sourcing

/-!
Shells as programs: each runs a script of its own with the exported variables of the shell around it.
-/
namespace JobMatrix.Script
open Eval

namespace Inner

def hiddenVariable (value : String) : Variable := ⟨[(0, value)], false, false, false⟩

/-- The variables that a shell sets when it starts. -/
def initialVariables (d : Dialect) : List (String × String) :=
  [("IFS", " \t\n"), ("OPTIND", "1"), ("PPID", "999")] ++
    match d with
    | .sh => []
    | .bash => [("BASH_VERSION", "5.2.15(1)-release"), ("BASH", "/usr/bin/bash"), ("UID", "0"), ("EUID", "0")]

/-- The session of a new shell with the exported variables of another one. -/
def startSession (d : Dialect) (process : Nat) (name : String) (arguments : List String)
    (exported : Table Variable) (directory : String) (handles : List (Nat × Handle)) (flags : List Char) :
    Session where
  dialect := d
  name := name
  process := process
  bindings := (initialVariables d).foldl (fun t (n, value) => t.insert n (hiddenVariable value)) exported
  functions := Table.empty
  arguments := arguments
  status := 0
  directory := directory
  handles := handles
  flags := flags
  pipeStatus := false
  traps := Table.empty
  line := 1
  isWatched := false
  hidden := []
  loops := 0
  sources := 0
  ending := none
  substituted := none
  jobs := []
  isLast := false

/-- The message of a shell about a program that was killed. -/
def signalMessage (signal : Nat) : String :=
  match signal with
  | 1 => "Hangup"
  | 3 => "Quit"
  | 6 => "Aborted"
  | 9 => "Killed"
  | 11 => "Segmentation fault"
  | 14 => "Alarm clock"
  | 15 => "Terminated"
  | 10 => "User defined signal 1"
  | 12 => "User defined signal 2"
  | _ => ""

/-- What another shell runs: a text, a file, or its standard input; and the name and arguments it has then. -/
def shellTask (d : Dialect) (program : String) (hasText : Bool) (rest : List String) :
    Eval (Except (String × Nat) (Provenance × String × String × List String)) := do
  match hasText, rest with
  | true, text :: rest => return .ok (.argument, text, rest.headD program, rest.drop 1)
  | true, [] => return .error (program ++ ": -c: option requires an argument", 2)
  | false, path :: arguments =>
    match (← get).world.tree.find (← session).directory path with
    | .ok (.file contents) => return .ok (.file, contents, path, arguments)
    | .ok _ => return .ok (.file, "", path, arguments)
    | .error problem =>
      return .error (if d = .bash then (program ++ ": " ++ path ++ ": " ++ problem.message, 127)
        else (program ++ ": 0: cannot open " ++ path ++ ": No such file", 2))
  | false, [] => return .ok (.file, String.ofList (← readAll), program, [])

def shellProgram (i : Inner) (d : Dialect) (isLast : Bool) (program : String) (arguments : List String) :
    Eval Nat := do
  let flags := arguments.takeWhile fun a => a.toList.head? = some '-' && a.length > 1
  match ← shellTask d program (flags.any (·.contains 'c')) (arguments.drop flags.length) with
  | .error (message, status) =>
    warn message
    return status
  | .ok (provenance, text, name, arguments) =>
    let process := (← get).world.nextProcess
    changeWorld fun w => { w with nextProcess := process + 1 }
    let before ← session
    let letters := (flags.flatMap (·.toList)).filter fun c => c != '-' && c != 'c'
    let exported := Table.ofList ((before.bindings.entries.filter (·.2.exported)).map fun (n, v) =>
      (n, { v with constant := false }))
    changeSession fun s => startSession d process name arguments exported s.directory s.handles letters
    let result ← observe (i.runScript provenance text)
    changeSession fun _ => before
    match result with
    | .error (.killed p signal) =>
      if p != process || isLast then throw (.killed p signal)
      if (← dialect) = .sh && signal != 2 && signal != 13 then warn (signalMessage signal)
      return 128 + signal
    | other => resume other

end Inner
end JobMatrix.Script
