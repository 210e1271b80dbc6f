/-!
Shell scripts as trees. A word is a list of pieces; commands hold words, redirections and commands. In a
script a character stands for a byte.
-/
namespace JobMatrix.Script

/-- The dialects of the language: the standard one, and the extended one. -/
inductive Dialect
  | sh
  | bash
  deriving DecidableEq, Inhabited

/-- When the word of a fallback is taken, and what is done with it. -/
inductive Fallback
  | use
  | assign
  | refuse
  | replace
  deriving DecidableEq

/-- Where an occurrence of a pattern is looked for. -/
inductive Place
  | first
  | everywhere
  | atStart
  | atEnd
  deriving DecidableEq

/-- What a redirection does with its word. -/
inductive Direction
  | input
  | output
  | append
  | copy
  | document
  | both
  | bothAppend
  deriving DecidableEq

/-- What follows the words of a branch of a case. -/
inductive BranchEnd
  | done
  | nextBody
  | nextTest
  deriving DecidableEq

mutual

/-- A part of a word. What is quoted is not split and is no pattern. -/
inductive Piece
  | text (s : List Char) (quoted : Bool)
  | parameter (name : String) (index : Option (List Piece)) (form : Form) (quoted : Bool)
  | substitution (body : Command) (quoted : Bool)
  | arithmetic (expression : List Piece) (quoted : Bool)

/-- What is made of the value of a parameter. -/
inductive Form
  | value
  | length
  | indirect
  | fallback (kind : Fallback) (alsoEmpty : Bool) (word : List Piece)
  | trim (fromEnd longest : Bool) (pattern : List Piece)
  | slice (offset : List Piece) (count : Option (List Piece))
  | substitute (place : Place) (pattern replacement : List Piece)
  | convert (toUpper everywhere : Bool)
  | unknown (written : String)

inductive Redirection
  | mk (descriptor : Nat) (direction : Direction) (word : List Piece)

/-- An assignment of a word, or of the words of a list. -/
inductive Assignment
  | scalar (name : String) (index : Option (List Piece)) (append : Bool) (word : List Piece)
  | list (name : String) (append : Bool) (words : List (List Piece))

/-- A condition in double brackets. -/
inductive Condition
  | word (w : List Piece)
  | unary (operator : String) (w : List Piece)
  | binary (operator : String) (left right : List Piece)
  | negation (c : Condition)
  | conjunction (a b : Condition)
  | disjunction (a b : Condition)

inductive Branch
  | mk (patterns : List (List Piece)) (body : Command) (ending : BranchEnd)

inductive Command
  | simple (line : Nat) (assignments : List Assignment) (words : List (List Piece))
      (redirections : List Redirection)
  | redirected (body : Command) (redirections : List Redirection)
  | pipeline (commands : List Command)
  | negation (body : Command)
  | conjunction (a b : Command)
  | disjunction (a b : Command)
  | sequence (commands : List Command)
  | background (body : Command)
  | subshell (body : Command)
  | branch (condition body otherwise : Command)
  | repetition (isUntil : Bool) (condition body : Command)
  | iteration (name : String) (words : Option (List (List Piece))) (body : Command)
  | counting (start condition next : List Piece) (body : Command)
  | choice (word : List Piece) (branches : List Branch)
  | definition (name : String) (body : Command)
  | test (line : Nat) (condition : Condition)
  | calculation (line : Nat) (expression : List Piece)

end

abbrev Word := List Piece

def Command.nothing : Command := .sequence []

instance : Inhabited Command := ⟨.nothing⟩

end JobMatrix.Script
