import JobMatrix.Script.Brace
import JobMatrix.Script.WordReading

/-!
Reading simple commands: assignments, words and redirections. `commands` reads the commands inside a
substitution.
-/
namespace JobMatrix.Script

def documentBody (strip : Bool) (ending : List Char) : Nat → List Char → List Char × List Char
  | 0, s => (s, [])
  | _ + 1, [] => ([], [])
  | n + 1, s =>
    let line := s.takeWhile (· != '\n')
    let rest := (s.drop line.length).drop 1
    let line := if strip then line.dropWhile (· == '\t') else line
    if line = ending then ([], rest)
    else
      let (body, after) := documentBody strip ending n rest
      (line ++ '\n' :: body, after)

/-- The word without its quotes, and whether it had any. -/
def plainText (w : Word) : List Char × Bool :=
  (w.flatMap fun
    | .text s _ => s
    | .parameter name .. => '$' :: name.toList
    | _ => [],
  w.any fun
    | .text _ quoted => quoted
    | _ => false)

/-- Redirections without a descriptor in front, with the direction and the usual descriptor. -/
def redirectionSigns : List (String × Direction × Nat) :=
  [("<<", .document, 0), ("<&", .copy, 0), ("<>", .input, 0), ("<", .input, 0), (">>", .append, 1),
    (">&", .copy, 1), (">|", .output, 1), (">", .output, 1)]

namespace Read

def failHere (expected : Option String) : Read α := do
  fail (.unexpected (nextToken (← rest)) expected)

def nextIs (word : String) : Read Bool := return bareWord? (← rest) == some word

def acceptWord (word : String) : Read Bool := do
  if ← nextIs word then
    skip word.length
    skipBlanks
    return true
  return false

def acceptSign (sign : String) : Read Bool := do
  if sign.toList.isPrefixOf (← rest) then
    skip sign.length
    return true
  return false

/-- A reserved word that must come next. -/
def expectWord (word : String) : Read Unit := do
  skipLines
  if !(← acceptWord word) then failHere (some word)

def expectSign (sign : Char) : Read Unit := do
  skipLines
  if !(← accept sign) then failHere (some (String.singleton sign))

/-- A list of at least one command; `ending` is the word that ends it at the latest. -/
def someCommands (commands : Read Command) (ending : String) : Read Command := do
  match ← commands with
  | .sequence [] => failHere (if (← rest).isEmpty then some ending else none)
  | c => return c

/-- The word that must come next. -/
def expectSomeWord (commands : Read Command) : Read Word := do
  skipBlanks
  let w ← word commands
  if w.isEmpty then failHere none
  return w

/-- A document is taken out of the text behind the end of this line. -/
def document (commands : Read Command) : Read Word := do
  let strip ← accept '-'
  let (ending, quoted) := plainText (← expectSomeWord commands)
  let s ← rest
  let line := s.takeWhile (· != '\n')
  let (body, after) := documentBody strip ending (s.length + 1) ((s.drop line.length).drop 1)
  modify fun source => { source with rest := line ++ '\n' :: after }
  if quoted then return [.text body true]
  piecesOf (piecesUpTo commands (2 * body.length + 2)) body

/-- A redirection, if one comes next. -/
def redirection? (commands : Read Command) : Read (Option Redirection) := do
  let s ← rest
  let digits := s.takeWhile Char.isDigit
  let sign := s.drop digits.length
  if digits.isEmpty && (← isExtended) && "&>".toList.isPrefixOf s then
    skip 2
    let direction := if ← accept '>' then Direction.bothAppend else .both
    return some (.mk 1 direction (← expectSomeWord commands))
  match redirectionSigns.find? fun (text, _) => text.toList.isPrefixOf sign with
  | none => return none
  | some (text, direction, usual) =>
    let descriptor := (Text.naturalIn? 10 digits).getD usual
    skip (digits.length + text.length)
    if direction = .document then
      if ← acceptExtended '<' then
        let w ← expectSomeWord commands
        let quoted := w.map fun
          | .text s _ => .text s true
          | .parameter name index form _ => .parameter name index form true
          | .substitution body _ => .substitution body true
          | .arithmetic e _ => .arithmetic e true
        return some (.mk descriptor direction (quoted ++ [.text ['\n'] true]))
      return some (.mk descriptor direction (← document commands))
    return some (.mk descriptor direction (← expectSomeWord commands))

def redirectionsUpTo (commands : Read Command) : Nat → Read (List Redirection)
  | 0 => return []
  | n + 1 => do
    skipBlanks
    match ← redirection? commands with
    | some r => return r :: (← redirectionsUpTo commands n)
    | none => return []

def listedWords (commands : Read Command) : Nat → Read (List Word)
  | 0 => return []
  | n + 1 => do
    skipLines
    if ← accept ')' then return []
    let w ← expectSomeWord commands
    return bracedWords w ++ (← listedWords commands n)

/-- An assignment, if one comes next. -/
def assignment? (commands : Read Command) : Read (Option Assignment) := do
  let s ← rest
  let name := s.takeWhile isNameChar
  let extended ← isExtended
  if !isName name then return none
  let afterName := s.drop name.length
  let subscript := match afterName with
    | '[' :: inside => if extended then '[' :: inside.takeWhile (· != ']') ++ [']'] else []
    | _ => []
  let sign := afterName.drop subscript.length
  let append := extended && ['+', '='].isPrefixOf sign
  if !append && sign.head? != some '=' then return none
  let index ← match subscript with
    | _ :: inside => do
      let inside := inside.dropLast
      pure (some (← piecesOf (piecesUpTo commands (2 * inside.length + 2)) inside))
    | [] => pure none
  skip (name.length + subscript.length + (if append then 2 else 1))
  let name := String.ofList name
  if (← rest).head? = some '(' && extended && subscript.isEmpty then
    skip 1
    return some (.list name append (← listedWords commands ((← rest).length + 1)))
  return some (.scalar name index append (← word commands))

/-- The parts of a simple command that are left, up to its end. -/
def simpleUpTo (commands : Read Command) (line : Nat) :
    Nat → List Assignment → List Word → List Redirection → Read Command
  | 0, _, _, _ => fail .tooDeep
  | n + 1, assignments, words, redirections => do
    skipBlanks
    if let some r ← redirection? commands then
      return ← simpleUpTo commands line n assignments words (redirections ++ [r])
    if words.isEmpty then
      if let some a ← assignment? commands then
        return ← simpleUpTo commands line n (assignments ++ [a]) words redirections
    let w ← word commands
    if w.isEmpty then
      if assignments.isEmpty && words.isEmpty && redirections.isEmpty then failHere none
      return .simple line assignments words redirections
    let found := if (← isExtended) then bracedWords w else [w]
    simpleUpTo commands line n assignments (words ++ found) redirections

end Read
end JobMatrix.Script
