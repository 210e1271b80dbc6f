import JobMatrix.Script.Builtin.Names
import JobMatrix.Script.Format
import JobMatrix.Script.Program.Words

/-!
The parts of the shell that read lines into variables, and those that write text.
-/
namespace JobMatrix.Script.Builtin
open Eval Program

/-- A line in which a backslash may protect characters and line ends. -/
def readLogicalLine (raw : Bool) (descriptor : Nat) : Nat → Eval (List Marked × Bool)
  | 0 => return ([], false)
  | n + 1 => do
    let (line, ended) ← readLine descriptor
    let line := line.filter (· != '\x00')
    if raw then return (line.map (·, false), ended)
    let (marked, isOpen) := protect line
    if isOpen && ended then
      let (more, ended) ← readLogicalLine raw descriptor n
      return (marked ++ more, ended)
    return (marked, ended)
where
  protect : List Char → List Marked × Bool
    | [] => ([], false)
    | ['\\'] => ([], true)
    | '\\' :: c :: rest =>
      let (more, isOpen) := protect rest
      ((c, true) :: more, isOpen)
    | c :: rest =>
      let (more, isOpen) := protect rest
      ((c, false) :: more, isOpen)

def isSeparator (separators : List Char) (c : Marked) : Bool := !c.2 && separators.contains c.1

def isBlankSeparator (separators : List Char) (c : Marked) : Bool := isSeparator separators c && isSpaceChar c.1

/-- The first field of a line, and what is left behind its separator. -/
def firstField (separators : List Char) (line : List Marked) : List Marked × List Marked :=
  let field := line.takeWhile fun c => !isSeparator separators c
  let rest := (line.drop field.length).dropWhile (isBlankSeparator separators)
  match rest with
  | c :: later =>
    if isSeparator separators c && !isSpaceChar c.1 then (field, later.dropWhile (isBlankSeparator separators))
    else (field, rest)
  | [] => (field, [])

/-- The values of names from a line; the last name takes all that is left. -/
def assignFields (separators : List Char) : List String → List Marked → Eval Unit
  | [], _ => return ()
  | [name], line => do
    let trimmed := (line.reverse.dropWhile (isBlankSeparator separators)).reverse
    let (field, rest) := firstField separators trimmed
    let _ ← setValue name (String.ofList ((if rest.isEmpty then field else trimmed).map Prod.fst))
  | name :: names, line => do
    let (field, rest) := firstField separators line
    let _ ← setValue name (String.ofList (field.map Prod.fst))
    assignFields separators names rest

def allFields (separators : List Char) : Nat → List Marked → List String
  | 0, _ | _, [] => []
  | n + 1, line =>
    let (field, rest) := firstField separators line
    String.ofList (field.map Prod.fst) :: allFields separators n rest

def read (arguments : List String) : Eval Nat := do
  let (found, names) := options ['p', 'a', 'n', 'N', 't', 'u', 'd', 'i'] arguments
  let separators ← separators
  let descriptor := ((optionValue? found 'u').bind (·.toNat?)).getD 0
  if let some count := ((optionValue? found 'n').or (optionValue? found 'N')).bind (·.toNat?) then
    let taken ← readBytes descriptor (some count)
    let _ ← setValue (names.headD "REPLY") (String.ofList taken)
    return statusOf (taken.length = count)
  let (line, ended) ← readLogicalLine (hasOption found 'r') descriptor 10000
  let trimmed := line.dropWhile (isBlankSeparator separators)
  match optionValue? found 'a' with
  | some name =>
    let fields := allFields separators (line.length + 1) trimmed
    putVariable name ⟨fields.zipIdx.map fun (s, i) => (i, s), true, false, false⟩
  | none =>
    match names with
    | [] =>
      if ← isExtended then
        let _ ← setValue "REPLY" (String.ofList (line.map Prod.fst))
      else
        complain "read: arg count"
        throw (.exit 2)
    | names => assignFields separators names trimmed
  return statusOf ended

/-- The message about something wrong in a format or with its arguments, and the status it leads to. -/
def troubleMessage (extended : Bool) : Format.Trouble → String × Nat
  | .noNumber argument => (argument ++ if extended then ": invalid number" else ": expected numeric value", 1)
  | .partNumber argument => (argument ++ if extended then ": invalid number" else ": not completely converted", 1)
  | .outOfRange argument =>
    ((if extended then "warning: " else "") ++ argument ++ ": Numerical result out of range",
      if extended then 0 else 1)
  | .unknownLetter directive letter =>
    if extended then ("\x60" ++ String.singleton letter ++ "': invalid format character", 1)
    else (directive ++ ": invalid directive", 2)
  | .noLetter => if extended then ("\x60%': missing format character", 1) else ("missing format character", 2)

def printf (arguments : List String) : Eval Nat := do
  let extended ← isExtended
  let (name, arguments) := match arguments with
    | "-v" :: name :: rest => if extended then (some name, rest) else (none, arguments)
    | "--" :: rest => (none, rest)
    | _ => (none, arguments)
  match arguments with
  | [] =>
    if extended then
      warn "printf: usage: printf [-v var] format [arguments]"
      return 2
    complain "printf: usage: printf format [arg ...]"
    throw (.exit 2)
  | format :: arguments =>
    if !extended && ['-', 'v'].isPrefixOf format.toList then
      complain "printf: Illegal option -v"
      throw (.exit 2)
    let printed := Format.all extended format.toList (arguments.length + 1) arguments
    let mut status ← match name with
      | some name => do
        let _ ← setValue name (String.ofList printed.text)
        pure 0
      | none => output "printf" printed.text
    for trouble in printed.troubles do
      let (message, weight) := troubleMessage extended trouble
      complain ("printf: " ++ message)
      status := max status weight
    if status = 2 && !extended then throw (.exit 2)
    return status

def echo (arguments : List String) : Eval Nat := do
  output "echo" (if ← isExtended then echoedExtended arguments else echoedStandard arguments)

def readLines (arguments : List String) : Eval Nat := do
  let (found, names) := options ['n', 'O', 's', 'u', 'd'] arguments
  let lines := Filter.linesOf (← readAll)
  let ending := if hasOption found 't' then [] else ['\n']
  let items := lines.zipIdx.map fun (line, i) => (i, String.ofList (line ++ ending))
  putVariable (names.headD "MAPFILE") ⟨items, true, false, false⟩
  return 0

end JobMatrix.Script.Builtin
