import JobMatrix.Script.Redirect

/-!
Running the text of a script: line after line, with messages about text that cannot be read, and what is done at
the end.
-/
namespace JobMatrix.Script
open Eval

namespace Inner

/-- The words that have a meaning where a command may start. -/
def reservedWords : List String :=
  ["if", "then", "else", "elif", "fi", "while", "until", "for", "do", "done", "case", "esac", "in", "\x7b", "\x7d",
    "!"]

def problemMessage (d : Dialect) (f : ReadFailure) : String :=
  let place := toString f.line ++ ": "
  let quoted := fun (token : String) =>
    if ["end of file", "newline"].contains token then token
    else match token.toList.head? with
      | some c =>
        if c = '<' ∨ c = '>' then "redirection"
        else if isMeta c ∨ reservedWords.contains token then "\"" ++ token ++ "\"" else "word"
      | none => "word"
  match d, f.problem with
  | .sh, .unexpected token expected =>
    place ++ "Syntax error: " ++ quoted token ++ " unexpected" ++
      match expected with
      | some e => " (expecting \"" ++ e ++ "\")"
      | none => ""
  | .sh, .unterminated '\x60' => place ++ "Syntax error: EOF in backquote substitution"
  | .sh, .unterminated '}' => place ++ "Syntax error: Missing '\x7d'"
  | .sh, .openSubstitution => place ++ "Syntax error: end of file unexpected (expecting \")\")"
  | .sh, .openArithmetic => place ++ "Syntax error: Missing '))'"
  | .sh, .unterminated _ => place ++ "Syntax error: Unterminated quoted string"
  | .sh, .badLoopVariable => place ++ "Syntax error: Bad for loop variable"
  | .sh, .badFunctionName => place ++ "Syntax error: Bad function name"
  | .bash, .unexpected "end of file" _ => s!"line {f.line + 1}: syntax error: unexpected end of file"
  | .bash, .unexpected token _ =>
    s!"line {f.line}: syntax error near unexpected token \x60{token}'"
  | .bash, .openSubstitution => s!"line {f.line + 1}: unexpected EOF while looking for matching \x60)'"
  | .bash, .openArithmetic => s!"line {f.line}: unexpected EOF while looking for matching \x60)'"
  | .bash, .unterminated quote =>
    s!"line {f.line}: unexpected EOF while looking for matching \x60{quote}'"
  | .bash, _ => s!"line {f.line}: syntax error"
  | .sh, .tooDeep => place ++ "Syntax error"

/-- Where the text of a script comes from: it is given to the shell, to a command, or stands in a file. -/
inductive Provenance
  | argument
  | evaluated
  | file
  deriving DecidableEq

/-- A problem is reported; the line with it is shown too where the dialect does so. -/
def reportProblem (provenance : Provenance) (source : List Char) (f : ReadFailure) : Eval Unit := do
  let s ← session
  let place := match s.dialect, provenance with
    | .bash, .argument => "-c: "
    | .bash, .evaluated => "eval: "
    | _, _ => ""
  let header := s.name ++ ": " ++ place
  let message := problemMessage s.dialect f
  if s.dialect = .sh && provenance == .evaluated then
    let number := toString f.line ++ ": "
    warn (header ++ number ++ "eval: " ++ String.ofList (message.toList.drop number.length))
  else warn (header ++ message)
  match s.dialect, f.problem with
  | .bash, .unexpected token _ =>
    if token != "end of file" then
      let line := ((Filter.linesOf source)[f.line - 1]?).getD []
      warn (header ++ s!"line {f.line}: \x60" ++ String.ofList line ++ "'")
  | _, _ => pure ()

/-- The last simple command of a line, run as the last thing that the shell does. -/
def runLine (i : Inner) (isEnd : Bool) : Command → Eval Nat
  | .sequence commands => do
    let mut status := (← session).status
    for (c, n) in commands.zipIdx 1 do
      if isEnd && n == commands.length && c matches .simple .. then
        changeSession fun s => { s with isLast := true }
      status ← i.run c
    return status
  | c => i.run c

/-- The lines of a script, read one by one. -/
def runLines (i : Inner) (provenance : Provenance) (whole : List Char) : Nat → Source → Nat → Eval Nat
  | 0, _, status => return status
  | n + 1, source, status => do
    match Read.nextLine.run source with
    | .error failure =>
      reportProblem provenance whole failure
      throw (.exit 2)
    | .ok (none, _) => return status
    | .ok (some line, rest) => do
      let nothingLeft := rest.rest.all fun c => c == '\n' || isBlankChar c
      let isEnd := provenance = .argument && rest.dialect == .bash && nothingLeft
      let status ← i.runLine isEnd line
      runLines i provenance whole n rest status

def runText (i : Inner) (provenance : Provenance) (text : String) : Eval Nat := do
  let source : Source := ⟨text.toList, 1, ← dialect⟩
  i.runLines provenance text.toList (text.length + 1) source 0

/-- What was set to be done at the end of the shell. -/
def finish (i : Inner) (status : Nat) : Eval Nat := do
  match (← session).traps.get? "EXIT" with
  | none => return status
  | some action =>
    changeSession fun s => { s with
      traps := without s.traps "EXIT", status := status, ending := some status, isWatched := false }
    let result ← observe (i.runText .evaluated action)
    match result with
    | .error (.exit other) => return other
    | .error (.killed p s) => throw (.killed p s)
    | _ => return status

/-- A whole script, to the end of the shell that runs it. -/
def runScript (i : Inner) (provenance : Provenance) (text : String) : Eval Nat := do
  let result ← observe (settle (i.runText provenance text))
  match result with
  | .ok status => i.finish status
  | .error (.killed process signal) =>
    let s ← session
    if s.dialect = .bash && process == s.process && signal != 9 then let _ ← i.finish (128 + signal)
    throw (.killed process signal)
  | .error other => throw other

/-- A failure that nothing looks at: what was set for it is done, and it ends the shell under the flag for it. -/
def checked (i : Inner) (status : Nat) : Eval Nat := do
  setStatus status
  let s ← session
  if status ≠ 0 ∧ !s.isWatched then
    if let some action := s.traps.get? "ERR" then
      changeSession fun s => { s with isWatched := true }
      let _ ← i.runText .evaluated action
      changeSession fun s => { s with isWatched := false, status := status }
    if s.flags.contains 'e' then throw (.exit status)
  return status

end Inner
end JobMatrix.Script
