import JobMatrix.Script.Builtin.Names
import JobMatrix.Script.Test

/-!
The parts of the shell that stop what is around them, and what is done on a signal or at the end.
-/
namespace JobMatrix.Script.Builtin
open Eval Program

/-- A number that a command takes; another text is an error. -/
def numberArgument (name : String) (usual : Nat) (arguments : List String) : Eval Nat := do
  match arguments.filter (· != "--") with
  | [] => return usual
  | text :: _ =>
    match Test.integer? text with
    | some n =>
      if n < 0 && !(← isExtended) then
        complain (name ++ ": Illegal number: " ++ text)
        throw (.exit 2)
      return (n % UInt64.size).toNat
    | none =>
      if ← isExtended then
        complain (name ++ ": " ++ text ++ ": numeric argument required")
        throw (.exit 2)
      complain (name ++ ": Illegal number: " ++ text)
      throw (.exit 2)

/-- A complaint about a command that stands where it has no meaning; the standard dialect passes over it. -/
def misplaced (name meaning : String) (status : Nat) : Eval Nat := do
  if ← isExtended then
    complain (name ++ ": " ++ meaning)
    return status
  return 0

def exit (arguments : List String) : Eval Nat := do
  if arguments.length > 1 && (← isExtended) then return ← fail "exit" "too many arguments" 1
  let s ← session
  let status ← numberArgument "exit" (s.ending.getD s.status) arguments
  throw (.exit (status % 256))

def returnFrom (arguments : List String) : Eval Nat := do
  let s ← session
  if s.hidden.isEmpty && s.sources = 0 && (← isExtended) then
    return ← fail "return" "can only \x60return' from a function or sourced script" 2
  let status ← numberArgument "return" (← session).status arguments
  throw (.returned (status % 256))

def inLoops : String := "only meaningful in a \x60for', \x60while', or \x60until' loop"

def breakLoops (arguments : List String) : Eval Nat := do
  if (← session).loops = 0 then return ← misplaced "break" inLoops 0
  throw (.broken (← numberArgument "break" 1 arguments))

def continueLoops (arguments : List String) : Eval Nat := do
  if (← session).loops = 0 then return ← misplaced "continue" inLoops 0
  throw (.continued (← numberArgument "continue" 1 arguments))

def shift (arguments : List String) : Eval Nat := do
  let n ← numberArgument "shift" 1 arguments
  let s ← session
  if n > s.arguments.length then
    if ← isExtended then return 1
    complain "shift: can't shift that many"
    throw (.exit 2)
  changeSession fun s => { s with arguments := s.arguments.drop n }
  return 0

/-- The names of signals and their numbers. -/
def signals : List (String × Nat) :=
  [("EXIT", 0), ("HUP", 1), ("INT", 2), ("QUIT", 3), ("ILL", 4), ("TRAP", 5), ("ABRT", 6), ("BUS", 7), ("FPE", 8),
    ("KILL", 9), ("USR1", 10), ("SEGV", 11), ("USR2", 12), ("PIPE", 13), ("ALRM", 14), ("TERM", 15), ("CHLD", 17),
    ("CONT", 18), ("STOP", 19)]

/-- A signal by its number or by its name. -/
def signal? (text : String) : Option (String × Nat) :=
  match text.toNat? with
  | some n => signals.find? (·.2 == n)
  | none =>
    let name := String.ofList (text.toList.map Char.toUpper)
    let name := if "SIG".toList.isPrefixOf name.toList then String.ofList (name.toList.drop 3) else name
    signals.find? (·.1 == name)

def trap (arguments : List String) : Eval Nat := do
  match arguments.filter (· != "--") with
  | [] =>
    for (name, action) in (← session).traps.entries do
      sayLine ("trap -- " ++ singleQuoted action ++ " " ++ name)
    return 0
  | action :: names =>
    let (action, names) := if names.isEmpty then ("-", [action]) else (action, names)
    let mut good := true
    for text in names do
      let extended ← isExtended
      let name := if extended && ["ERR", "DEBUG", "RETURN"].contains text then some text
        else (signal? text).map (·.1)
      match name with
      | some name =>
        changeSession fun s => { s with
          traps := if action = "-" then without s.traps name else s.traps.insert name action }
      | none =>
        if extended then complain ("trap: " ++ text ++ ": invalid signal specification")
        else warn ("trap: " ++ text ++ ": bad trap")
        good := false
    return statusOf good

def wait (arguments : List String) : Eval Nat := do
  match arguments.getLast?.bind (·.toNat?) with
  | some process => return (((← session).jobs.find? (·.1 == process)).map (·.2)).getD 127
  | none => return 0

end JobMatrix.Script.Builtin
