import JobMatrix.Script.Field
import JobMatrix.Script.Program

/-!
The parts of the shell that change its directory and its variables.
-/
namespace JobMatrix.Script.Builtin
open Eval Program

/-- A complaint of a command and its status. -/
def fail (name message : String) (status : Nat) : Eval Nat := do
  complain (name ++ ": " ++ message)
  return status

def isExtended : Eval Bool := return (← dialect) == .bash

/-- Text for the standard output of a command; it is an error if the descriptor is closed. -/
def output (name : String) (text : List Char) : Eval Nat := do
  if text.isEmpty then return 0
  if ← write 1 (String.ofList text) then return 0
  fail name (if ← isExtended then "write error: Bad file descriptor" else name ++ ": I/O error") 1

/-- The path without its steps to the same directory and back. -/
def normalized (path : String) : String :=
  Tree.pathOf ((Tree.namesIn path).foldl
    (fun names name => if name = "." then names else if name = ".." then names.dropLast else names ++ [name]) [])

def cd (arguments : List String) : Eval Nat := do
  let arguments := arguments.filter fun a => !(["-L", "-P", "--"].contains a)
  if arguments.length > 1 && (← isExtended) then return ← fail "cd" "too many arguments" 1
  let before := (← session).directory
  let target ← match arguments with
    | [] => valueOf "HOME"
    | "-" :: _ => valueOf "OLDPWD"
    | path :: _ => pure path
  let path := normalized (joinPath before target)
  match (← get).world.tree.directory "/" path with
  | .ok _ =>
    changeSession fun s => { s with directory := path }
    let _ ← setValue "OLDPWD" before
    let _ ← setValue "PWD" path
    exportVariable "OLDPWD"
    if arguments.head? = some "-" then sayLine path
    return 0
  | .error problem =>
    if ← isExtended then fail "cd" (target ++ ": " ++ problem.message) 1
    else fail "cd" ("can't cd to " ++ target) 2

def pwd (arguments : List String) : Eval Nat := do
  let directory := (← session).directory
  let physical := ((← get).world.tree.directory "/" directory).toOption.getD directory
  output "pwd" ((if arguments.contains "-P" then physical else directory).toList ++ ['\n'])

/-- A name and perhaps a value after an equals sign, and whether the value is put behind the old one. -/
def declared (argument : String) : String × Option String × Bool :=
  let s := argument.toList
  let name := s.takeWhile (· != '=')
  if name.length = s.length then (argument, none, false)
  else
    let value := some (String.ofList (s.drop (name.length + 1)))
    let append := name.getLast? = some '+'
    (String.ofList (if append then name.dropLast else name), value, append)

/-- An error after which only the extended dialect goes on. -/
def refuse (message : String) : Eval (Option String) := do
  complain message
  if !(← isExtended) then throw (.exit 2)
  return none

/-- A value given to a name that must be one. -/
def declare (command argument : String) : Eval (Option String) := do
  let extended ← isExtended
  let (name, value, append) := declared argument
  if !isName name.toList then
    return ← refuse (command ++ ": " ++
      if extended then "\x60" ++ argument ++ "': not a valid identifier" else name ++ ": bad variable name")
  match value with
  | some value => do
    let before ← valueOf name
    if !(← setValue name (if append then before ++ value else value)) then
      return ← refuse
        (if extended then name ++ ": readonly variable" else command ++ ": " ++ name ++ ": is read only")
  | none => pure ()
  return some name

def singleQuoted (s : String) : String :=
  "'" ++ String.ofList (Text.replaceAll ['\''] "'\"'\"'".toList s.toList) ++ "'"

def exportNames (arguments : List String) : Eval Nat := do
  match arguments.filter fun a => a != "-p" && a != "--" with
  | [] =>
    for (name, v) in (← session).bindings.entries.mergeSort fun a b => a.1 ≤ b.1 do
      if v.exported then sayLine ("export " ++ name ++ "=" ++ singleQuoted ((v.items.head?.map (·.2)).getD ""))
    return 0
  | "-n" :: names =>
    for name in names do
      if let some v ← lookUp? name then putVariable name { v with exported := false }
    return 0
  | names =>
    let mut good := true
    for argument in names do
      match ← declare "export" argument with
      | some name => exportVariable name
      | none => good := false
    return statusOf good

def readonly (arguments : List String) : Eval Nat := do
  let mut good := true
  for argument in arguments do
    match ← declare "readonly" argument with
    | some name =>
      let old := (← lookUp? name).getD ⟨[], false, false, false⟩
      putVariable name { old with constant := true }
    | none => good := false
  return statusOf good

def unset (arguments : List String) : Eval Nat := do
  let functionsOnly := arguments.head? = some "-f"
  let mut good := true
  for name in arguments.filter fun a => a != "-f" && a != "-v" do
    let known := (← lookUp? name).isSome
    if functionsOnly || !known then
      changeSession fun s => { s with functions := without s.functions name }
    else if ((← lookUp? name).map (·.constant)).getD false then
      let _ ← if ← isExtended then fail "unset" (name ++ ": cannot unset: readonly variable") 1
        else fail "unset" (name ++ ": is read only") 2
      if !(← isExtended) then throw (.exit 2)
      good := false
    else unsetVariable name
  return statusOf good

/-- Variables that keep their outer values when the running function ends. -/
def hide (name : String) : Eval Unit := do
  let old ← lookUp? name
  changeSession fun s => { s with hidden := match s.hidden with
    | frame :: frames => (if frame.any (·.1 == name) then frame else (name, old) :: frame) :: frames
    | [] => [] }

def localNames (arguments : List String) : Eval Nat := do
  if (← session).hidden.isEmpty then
    if ← isExtended then return ← fail "local" "can only be used in a function" 1
    complain "local: not in a function"
    throw (.exit 2)
  let mut good := true
  for argument in arguments.filter fun a => a.toList.head? != some '-' do
    hide (declared argument).1
    if (declared argument).2.1.isNone && (← isExtended) then unsetVariable (declared argument).1
    if (← declare "local" argument).isNone then good := false
  return statusOf good

def declareNames (arguments : List String) : Eval Nat := do
  let (found, names) := options [] arguments
  let mut good := true
  for argument in names do
    let name := (declared argument).1
    if !hasOption found 'g' && !(← session).hidden.isEmpty then hide name
    if hasOption found 'p' then
      match ← value? name with
      | some value => sayLine ("declare -- " ++ name ++ "=\"" ++ value ++ "\"")
      | none =>
        let _ ← fail "declare" (name ++ ": not found") 1
        good := false
    else
      match ← declare "declare" argument with
      | some name =>
        if hasOption found 'x' then exportVariable name
        if hasOption found 'i' then
          let value ← calculated (← valueOf name)
          let _ ← setValue name (toString value)
        if hasOption found 'r' then
          let old := (← lookUp? name).getD ⟨[], false, false, false⟩
          putVariable name { old with constant := true }
      | none => good := false
  return statusOf good

def letNumbers (arguments : List String) : Eval Nat := do
  let mut last : Int := 0
  for a in arguments do
    last ← calculated a
  return statusOf (last != 0)

end JobMatrix.Script.Builtin
