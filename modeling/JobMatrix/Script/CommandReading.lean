import JobMatrix.Script.ConditionReading

/-!
Reading commands. A script is read line by line, a line being as long as its compound commands make it.
-/
namespace JobMatrix.Script

def closingWords : List String := ["then", "else", "elif", "fi", "do", "done", "esac", "\x7d"]

def isListEnd (s : List Char) : Bool :=
  match s with
  | [] | ')' :: _ | ';' :: ';' :: _ | ';' :: '&' :: _ => true
  | _ => (bareWord? s).any (closingWords.contains ·)

namespace Read

/-- The branches of a conditional after its first word. -/
def branchesUpTo (commands : Read Command) : Nat → Read Command
  | 0 => fail .tooDeep
  | n + 1 => do
    let condition ← someCommands commands "then"
    expectWord "then"
    let body ← someCommands commands "fi"
    skipLines
    if ← acceptWord "elif" then return .branch condition body (← branchesUpTo commands n)
    if ← acceptWord "else" then
      let otherwise ← someCommands commands "fi"
      expectWord "fi"
      return .branch condition body otherwise
    expectWord "fi"
    return .branch condition body .nothing

def loopBody (commands : Read Command) : Read Command := do
  skipBlanks
  let _ ← accept ';'
  expectWord "do"
  let body ← someCommands commands "done"
  expectWord "done"
  return body

def wordsUpTo (commands : Read Command) : Nat → Read (List Word)
  | 0 => return []
  | n + 1 => do
    skipBlanks
    let w ← word commands
    if w.isEmpty then return []
    let found := if (← isExtended) then bracedWords w else [w]
    return found ++ (← wordsUpTo commands n)

def countingParts (commands : Read Command) (inside : List Char) : Read (Word × Word × Word) := do
  let part := fun (s : List Char) => piecesOf (piecesUpTo commands (2 * s.length + 2)) s
  let start := inside.takeWhile (· != ';')
  let after := (inside.drop start.length).drop 1
  let condition := after.takeWhile (· != ';')
  return (← part start, ← part condition, ← part ((after.drop condition.length).drop 1))

def iteration (commands : Read Command) : Read Command := do
  let extended ← isExtended
  match ← rest with
  | '(' :: '(' :: after =>
    match (arithmeticExtent? 0 after).filter fun _ => extended with
    | some (inside, _) => do
      skip (inside.length + 4)
      let (start, condition, next) ← countingParts commands inside
      return .counting start condition next (← loopBody commands)
    | none => fail .badLoopVariable
  | _ => do
    let name := (bareWord? (← rest)).getD ""
    if !isName name.toList then fail .badLoopVariable
    skip name.length
    skipLines
    if ← acceptWord "in" then
      let words ← wordsUpTo commands ((← rest).length + 1)
      skipBlanks
      if !(← accept ';') then
        if !(← accept '\n') then failHere none
      return .iteration name (some words) (← loopBody commands)
    return .iteration name none (← loopBody commands)

def patternsUpTo (commands : Read Command) : Nat → Read (List Word)
  | 0 => fail .tooDeep
  | n + 1 => do
    skipBlanks
    if (← rest).isEmpty then failHere (some ")")
    let w ← expectSomeWord commands
    if ← accept '|' then return w :: (← patternsUpTo commands n)
    if ← accept ')' then return [w]
    failHere (some ")")

def casesUpTo (commands : Read Command) : Nat → Read (List Branch)
  | 0 => fail .tooDeep
  | n + 1 => do
    skipLines
    if ← acceptWord "esac" then return []
    let _ ← accept '('
    let patterns ← patternsUpTo commands n
    let body ← commands
    skipLines
    let ending ←
      if ← acceptSign ";;&" then pure (some BranchEnd.nextTest)
      else if ← acceptSign ";;" then pure (some BranchEnd.done)
      else if ← acceptSign ";&" then pure (some BranchEnd.nextBody)
      else pure none
    match ending with
    | some ending => return .mk patterns body ending :: (← casesUpTo commands n)
    | none => do
      if !(← acceptWord "esac") then failHere (some ";;")
      return [.mk patterns body .done]

def choice (commands : Read Command) : Read Command := do
  let w ← expectSomeWord commands
  expectWord "in"
  return .choice w (← casesUpTo commands ((← rest).length + 2))

def line : Read Nat := return (← get).line

/-- A compound command without its redirections, if one comes next. -/
def compound? (commands : Read Command) : Read (Option Command) := do
  let s ← rest
  let extended ← isExtended
  if s.head? = some '(' then
    match (arithmeticExtent? 0 (s.drop 2)).filter fun _ => extended && (s.drop 1).head? == some '(' with
    | some (inside, _) => do
      let here ← line
      skip (inside.length + 4)
      return some (.calculation here (← piecesOf (piecesUpTo commands (2 * inside.length + 2)) inside))
    | none => do
      skip 1
      let body ← someCommands commands ")"
      expectSign ')'
      return some (.subshell body)
  if ← acceptWord "\x7b" then
    let body ← someCommands commands "\x7d"
    expectWord "\x7d"
    return some body
  if ← acceptWord "if" then return some (← branchesUpTo commands s.length)
  if ← acceptWord "while" then
    let condition ← someCommands commands "do"
    return some (.repetition false condition (← loopBody commands))
  if ← acceptWord "until" then
    let condition ← someCommands commands "do"
    return some (.repetition true condition (← loopBody commands))
  if ← acceptWord "for" then return some (← iteration commands)
  if ← acceptWord "case" then return some (← choice commands)
  if extended && (← nextIs "[[") then
    let here ← line
    skip 2
    let c ← conditionUpTo commands (3 * s.length + 3) 0
    expectWord "]]"
    return some (.test here c)
  return none

def redirectedCompound? (commands : Read Command) : Read (Option Command) := do
  match ← compound? commands with
  | none => return none
  | some body =>
    match ← redirectionsUpTo commands ((← rest).length + 1) with
    | [] => return some body
    | redirections => return some (.redirected body redirections)

def functionBody (commands : Read Command) (name : String) : Read Command := do
  skipLines
  match ← redirectedCompound? commands with
  | some body => return .definition name body
  | none => return .definition name (← simpleUpTo commands (← line) ((← rest).length + 1) [] [] [])

/-- Whether parentheses with nothing between them come next; they are passed over. -/
def emptyParentheses : Read Bool := do
  skipBlanks
  if ← accept '(' then
    skipBlanks
    if ← accept ')' then return true
    failHere (some ")")
  return false

/-- A command, which is neither a pipeline nor a list. -/
def command (commands : Read Command) : Read Command := do
  skipBlanks
  let s ← rest
  if let some c ← redirectedCompound? commands then return c
  if (← nextIs "function") && (← isExtended) then
    let _ ← acceptWord "function"
    let name := (bareWord? (← rest)).getD ""
    skip name.length
    let _ ← emptyParentheses
    return ← functionBody commands name
  match bareWord? s with
  | some name =>
    if closingWords.contains name then failHere none
    match if name.contains '=' then [] else (s.drop name.length).dropWhile isBlankChar with
    | '(' :: _ => do
      skip name.length
      if !isName name.toList && (← dialect) = .sh then
        skip 1
        fail .badFunctionName
      let _ ← emptyParentheses
      functionBody commands name
    | _ => simpleUpTo commands (← line) (s.length + 1) [] [] []
  | none => simpleUpTo commands (← line) (s.length + 1) [] [] []

def pipedUpTo (commands : Read Command) : Nat → Read (List Command)
  | 0 => return []
  | n + 1 => do
    let c ← command commands
    skipBlanks
    match ← rest with
    | '|' :: '|' :: _ => return [c]
    | '|' :: after => do
      skip 1
      let c := if after.head? = some '&' then Command.redirected c [.mk 2 .copy [.text ['1'] true]] else c
      if after.head? = some '&' then
        if ← isExtended then skip 1
        else failHere none
      skipLines
      return c :: (← pipedUpTo commands n)
    | _ => return [c]

def pipeline (commands : Read Command) : Read Command := do
  skipBlanks
  if ← acceptWord "!" then
    return .negation (ofList (← pipedUpTo commands ((← rest).length + 1)))
  return ofList (← pipedUpTo commands ((← rest).length + 1))
where
  ofList : List Command → Command
    | [c] => c
    | cs => .pipeline cs

/-- What follows the first pipeline of a list of conditional commands. -/
def chainUpTo (commands : Read Command) : Nat → Command → Read Command
  | 0, c => return c
  | n + 1, c => do
    skipBlanks
    if ← acceptSign "&&" then
      skipLines
      chainUpTo commands n (.conjunction c (← pipeline commands))
    else if ← acceptSign "||" then
      skipLines
      chainUpTo commands n (.disjunction c (← pipeline commands))
    else return c

def chain (commands : Read Command) : Read Command := do
  chainUpTo commands ((← rest).length + 1) (← pipeline commands)

/-- Whether a separator comes next; it is passed over. An ampersand sends the command to the background. -/
def separator (c : Command) : Read (Command × Bool) := do
  skipBlanks
  match ← rest with
  | ';' :: ';' :: _ | ';' :: '&' :: _ => return (c, false)
  | ';' :: _ => do
    skip 1
    return (c, true)
  | '&' :: _ => do
    skip 1
    return (.background c, true)
  | _ => return (c, false)

def itemsUpTo (commands : Read Command) : Nat → Read (List Command)
  | 0 => return []
  | n + 1 => do
    skipLines
    if isListEnd (← rest) then return []
    let (c, separated) ← separator (← chain commands)
    skipBlanks
    if separated || (← rest).head? = some '\n' then return c :: (← itemsUpTo commands n)
    return [c]

/-- A list of commands inside of a compound command; the limit is for their nesting. -/
def commandsUpTo : Nat → Read Command
  | 0 => fail .tooDeep
  | n + 1 => do
    return .sequence (← itemsUpTo (commandsUpTo n) ((← rest).length + 1))

def lineItemsUpTo (commands : Read Command) : Nat → Read (List Command)
  | 0 => return []
  | n + 1 => do
    let (c, separated) ← separator (← chain commands)
    skipBlanks
    match ← rest with
    | [] => return [c]
    | '\n' :: _ => do
      skip 1
      return [c]
    | _ => if separated then return c :: (← lineItemsUpTo commands n) else failHere none

def nextLine : Read (Option Command) := do
  skipLines
  if (← rest).isEmpty then return none
  let depth := (← rest).length + 1
  return some (.sequence (← lineItemsUpTo (commandsUpTo depth) depth))

end Read
end JobMatrix.Script
