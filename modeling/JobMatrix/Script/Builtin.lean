import JobMatrix.Script.Builtin.Flags
import JobMatrix.Script.Builtin.Flow
import JobMatrix.Script.Builtin.Lines
import JobMatrix.Script.Test

/-!
The commands that are parts of the shell itself and run no other command, by their names.
-/
namespace JobMatrix.Script.Builtin
open Eval

/-- The commands that do nothing here. -/
def idle (_ : List String) : Eval Nat := return 0

def commands : List (String × (List String → Eval Nat)) :=
  [(":", idle), ("true", idle), ("false", fun _ => return 1), ("cd", cd), ("pwd", pwd), ("export", exportNames),
    ("readonly", readonly), ("unset", unset), ("set", set), ("exit", exit), ("return", returnFrom),
    ("break", breakLoops), ("continue", continueLoops), ("shift", shift), ("read", read), ("printf", printf),
    ("echo", echo), ("test", Test.run "test"), ("[", Test.run "["), ("local", localNames), ("trap", trap),
    ("wait", wait), ("umask", umask), ("hash", idle), ("alias", idle), ("unalias", idle), ("ulimit", idle),
    ("times", idle), ("jobs", idle), ("getopts", getopts)]

def extendedCommands : List (String × (List String → Eval Nat)) :=
  [("declare", declareNames), ("typeset", declareNames), ("let", letNumbers), ("mapfile", readLines),
    ("readarray", readLines), ("shopt", idle), ("enable", idle), ("disown", idle)]

/-- The commands before which an assignment stays in force. -/
def isSpecial (name : String) : Bool :=
  [":", ".", "break", "continue", "eval", "exec", "exit", "export", "readonly", "return", "set", "shift", "trap",
    "unset", "times"].contains name

def find? (name : String) : Eval (Option (List String → Eval Nat)) := do
  match commands.find? (·.1 == name) with
  | some (_, command) => return some command
  | none =>
    if ← isExtended then return (extendedCommands.find? (·.1 == name)).map (·.2)
    return none

end JobMatrix.Script.Builtin
