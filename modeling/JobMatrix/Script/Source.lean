import JobMatrix.Script.Command

/-!
Scripts as they are read: the text that is left, the number of the line, and the ways in which reading
can fail.
-/
namespace JobMatrix.Script

/-- Why a script cannot be read. -/
inductive Problem
  | unexpected (token : String) (expected : Option String)
  | unterminated (quote : Char)
  | openSubstitution
  | openArithmetic
  | badLoopVariable
  | badFunctionName
  | tooDeep
  deriving DecidableEq

/-- A problem, the line on which it is found, and the text from the problem on. -/
structure ReadFailure where
  line : Nat
  problem : Problem
  rest : List Char
  deriving DecidableEq

structure Source where
  rest : List Char
  line : Nat
  dialect : Dialect

abbrev Read := StateT Source (Except ReadFailure)

namespace Read

def rest : Read (List Char) := return (← get).rest

def dialect : Read Dialect := return (← get).dialect

def isExtended : Read Bool := return (← dialect) == .bash

def fail (problem : Problem) : Read α := do
  let s ← get
  throw ⟨s.line, problem, s.rest⟩

def skip (count : Nat) : Read Unit :=
  modify fun s => { s with
    rest := s.rest.drop count
    line := s.line + (s.rest.take count).count '\n' }

def accept (c : Char) : Read Bool := do
  if (← rest).head? = some c then
    skip 1
    return true
  return false

/-- A character that is passed over if it comes next in the extended dialect. -/
def acceptExtended (c : Char) : Read Bool := do
  if ← isExtended then accept c else return false

/-- The characters from here on that have a property. -/
def takeWhile (p : Char → Bool) : Read (List Char) := do
  let found := (← rest).takeWhile p
  skip found.length
  return found

def quotation (quote : Char) : Read (List Char) := do
  let found := (← rest).takeWhile (· != quote)
  if found.length = (← rest).length then fail (.unterminated quote)
  skip (found.length + 1)
  return found

/-- The result of a reader on another text. The text is read from the line where it stands. -/
def within (text : List Char) (reader : Read α) : Read α := do
  let s ← get
  set { s with rest := text }
  let a ← reader
  set s
  return a

end Read

def isBlankChar (c : Char) : Bool := c == ' ' || c == '\t'

/-- The characters that end a word unless they are quoted. -/
def isMeta (c : Char) : Bool := isBlankChar c || ['\n', ';', '&', '|', '<', '>', '(', ')'].contains c

def isNameStart (c : Char) : Bool := c.isAlpha || c == '_'

def isNameChar (c : Char) : Bool := c.isAlphanum || c == '_'

def isName : List Char → Bool
  | [] => false
  | c :: s => isNameStart c && s.all isNameChar

/-- The parameters whose name is one sign. -/
def isSpecialParameter (c : Char) : Bool := ['@', '*', '#', '?', '-', '$', '!'].contains c

namespace Read

/-- Blanks, line continuations and comments are passed over; the limit is the length of the text. -/
def skipBlanksUpTo : Nat → Read Unit
  | 0 => return ()
  | n + 1 => do
    match ← rest with
    | '\\' :: '\n' :: _ =>
      skip 2
      skipBlanksUpTo n
    | '#' :: _ => do
      let _ ← takeWhile (· != '\n')
    | c :: _ =>
      if isBlankChar c then
        skip 1
        skipBlanksUpTo n
    | [] => return ()

def skipBlanks : Read Unit := do skipBlanksUpTo ((← rest).length + 1)

/-- Blanks, comments and line ends are passed over. -/
def skipLinesUpTo : Nat → Read Unit
  | 0 => return ()
  | n + 1 => do
    skipBlanks
    if ← accept '\n' then skipLinesUpTo n

def skipLines : Read Unit := do skipLinesUpTo ((← rest).length + 1)

end Read

/-- A word that is written without quotes and expansions, if one comes next. -/
def bareWord? (s : List Char) : Option String :=
  let word := s.takeWhile fun c => !isMeta c
  if word = [] ∨ word.any (['\\', '\'', '"', '$', '\x60'].contains ·) then none
  else some (String.ofList word)

/-- The signs that are made of more than one character, the longer ones first. -/
def longSigns : List String := ["&&", "||", ";;&", ";;", ";&", "<<-", "<<<", "<<", ">>", "<&", ">&", "<>", ">|"]

/-- What comes next, as it is named in messages. -/
def nextToken (s : List Char) : String :=
  match s with
  | [] => "end of file"
  | '\n' :: _ => "newline"
  | c :: _ =>
    match longSigns.find? fun sign => sign.toList.isPrefixOf s with
    | some sign => sign
    | none => if isMeta c then String.singleton c else String.ofList (s.takeWhile fun c => !isMeta c)

end JobMatrix.Script
