import JobMatrix.Script.Filter
import JobMatrix.Script.Machine

/-!
What the programs that scripts call have in common: options, files to read, and complaints. A program reads files
or the standard input, writes to the standard output, and gives its exit status.
-/
namespace JobMatrix.Script

/-- Options by their letters, with the values of those that take one. -/
abbrev Options := List (Char × String)

/-- A program with options: their letters, the letters of those that take a value, and the status for others. -/
structure Program where
  name : String
  letters : String
  valued : String
  failure : Nat
  run : Options → List String → Eval Nat

namespace Program
open Eval

/-- The options among arguments, and the other arguments. -/
def options (valued : List Char) : List String → Options × List String
  | [] => ([], [])
  | argument :: rest =>
    match argument.toList with
    | ['-', '-'] => ([], rest)
    | '-' :: c :: letters =>
      let (more, others) := options valued rest
      match letterOptions valued (c :: letters) with
      | (found, none) => (found ++ more, others)
      | (found, some open_) =>
        match rest with
        | value :: later =>
          let (more, others) := options valued later
          (found ++ (open_, value) :: more, others)
        | [] => (found ++ [(open_, "")], [])
    | _ =>
      let (more, others) := options valued rest
      (more, argument :: others)
where
  /-- The options of one argument, and the one whose value is the next argument. -/
  letterOptions (valued : List Char) : List Char → List (Char × String) × Option Char
    | [] => ([], none)
    | c :: rest =>
      if valued.contains c then
        if rest.isEmpty then ([], some c) else ([(c, String.ofList rest)], none)
      else
        let (more, open_) := letterOptions valued rest
        ((c, "") :: more, open_)

def hasOption (found : Options) (c : Char) : Bool := found.any (·.1 == c)

def optionValue? (found : Options) (c : Char) : Option String :=
  (found.reverse.find? (·.1 == c)).map (·.2)

/-- The contents of a file, or why it cannot be read. -/
def contentsOf (count : Option Nat) (path : String) : Eval (Except String (List Char)) := do
  if path = "-" then return .ok (← readBytes 0 count)
  match (← get).world.tree.find (← session).directory path with
  | .ok .directory => return .error "Is a directory"
  | .ok (.file contents) => return .ok contents.toList
  | .ok .nullDevice => return .ok []
  | .ok .zeroDevice => return .ok (List.replicate (count.getD endlessLength) '\x00')
  | .error problem => return .error problem.message

/-- The texts of files by their names, or of the standard input without a name. A file that cannot be read makes
the program fail in the end. -/
def inputs (complaint : String → String → String) (count : Option Nat) :
    List String → Eval (List (String × List Char) × Bool)
  | [] => return ([], true)
  | path :: rest => do
    match ← contentsOf count path with
    | .ok text =>
      let (more, good) ← inputs complaint count rest
      return ((path, text) :: more, good)
    | .error message =>
      warn (complaint path message)
      let (more, _) ← inputs complaint count rest
      return (more, false)

def orStandardInput (paths : List String) : List String := if paths.isEmpty then ["-"] else paths

def isDoubtful (name : String) : Bool :=
  let marks := " !\"$&()*;<=>[^\x60|'\\?".toList
  name = "" || name.toList.any (marks.contains ·) ||
    name.toList.head?.any (fun c => c == '#' || c == '~')

/-- A name as complaints show it: between quotes if it is doubtful. -/
def shownName (name : String) : String :=
  if !isDoubtful name then name
  else if name.toList.contains '\'' then "\"" ++ name ++ "\"" else "'" ++ name ++ "'"

def plainComplaint (program path message : String) : String :=
  program ++ ": " ++ shownName path ++ ": " ++ message

def wholeInput (program : String) (paths : List String) : Eval (List Char × Bool) := do
  let (texts, good) ← inputs (plainComplaint program) none (orStandardInput paths)
  return (texts.flatMap (·.2), good)

def statusOf (good : Bool) : Nat := if good then 0 else 1

def sayBytes (s : List Char) : Eval Unit := do if !s.isEmpty then say (String.ofList s)

/-- A complaint about arguments and the hint at the help. -/
def misused (program message : String) (status : Nat) : Eval Nat := do
  warn (program ++ ": " ++ message ++ "\nTry '" ++ program ++ " --help' for more information.")
  return status

/-- The hint of a program that was given an unknown option. -/
def rejects (p : Program) (c : Char) : Eval Nat := do
  let usage := if p.name = "grep" then "\nUsage: grep [OPTION]... PATTERNS [FILE]..." else ""
  misused p.name ("invalid option -- '" ++ String.singleton c ++ "'" ++ usage) p.failure

/-- Arguments in which a number after a hyphen is the number of lines. -/
def withLineOption (arguments : List String) : List String :=
  match arguments with
  | first :: rest =>
    match first.toList with
    | '-' :: c :: _ => if c.isDigit then "-n" :: String.ofList (first.toList.drop 1) :: rest else arguments
    | _ => arguments
  | [] => []

def start (p : Program) (arguments : List String) : Eval Nat := do
  let arguments := if p.name = "head" ∨ p.name = "tail" then withLineOption arguments else arguments
  let (found, others) := options p.valued.toList arguments
  match found.find? fun (c, _) => !(p.letters.contains c || p.valued.contains c) with
  | some (c, _) => p.rejects c
  | none => p.run found others

end Program
end JobMatrix.Script
