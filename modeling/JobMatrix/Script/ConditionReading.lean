import JobMatrix.Script.SimpleReading

/-!
Reading the conditions between double brackets.
-/
namespace JobMatrix.Script

def isUnaryTest (s : String) : Bool :=
  ["-z", "-n", "-e", "-f", "-d", "-r", "-w", "-x", "-s", "-h", "-L", "-p", "-S", "-b", "-c", "-t", "-v",
    "-o"].contains s

def isBinaryTest (s : String) : Bool :=
  ["=", "==", "!=", "=~", "<", ">", "-eq", "-ne", "-lt", "-le", "-gt", "-ge", "-nt", "-ot", "-ef"].contains s

namespace Read

/-- The operator between two words of a condition, if one comes next. -/
def binaryTest? : Read (Option String) := do
  skipBlanks
  match ← rest with
  | '<' :: _ | '>' :: _ => do
    let found := String.ofList ((← rest).take 1)
    skip 1
    return some found
  | s =>
    match (bareWord? s).filter isBinaryTest with
    | some operator => do
      skip operator.length
      return some operator
    | none => return none

/-- A condition with one or two words. -/
def plainCondition (commands : Read Command) : Read Condition := do
  let operator := (bareWord? (← rest)).filter isUnaryTest
  let first ← expectSomeWord commands
  match ← binaryTest? with
  | some "=~" => do
    skipBlanks
    return .binary "=~" first (← piecesUpTo commands (2 * (← rest).length + 2) .plain isBlankChar)
  | some binary => return .binary binary first (← expectSomeWord commands)
  | none =>
    match operator with
    | some unary => return .unary unary (← expectSomeWord commands)
    | none => return .word first

/-- A condition; `level` tells the operators that may be in it outside of parentheses. -/
def conditionUpTo (commands : Read Command) : Nat → Nat → Read Condition
  | 0, _ => fail .tooDeep
  | n + 1, 0 => do
    let a ← conditionUpTo commands n 1
    skipLines
    if ← acceptSign "||" then return .disjunction a (← conditionUpTo commands n 0)
    return a
  | n + 1, 1 => do
    let a ← conditionUpTo commands n 2
    skipLines
    if ← acceptSign "&&" then return .conjunction a (← conditionUpTo commands n 1)
    return a
  | n + 1, _ => do
    skipLines
    if ← acceptWord "!" then return .negation (← conditionUpTo commands n 2)
    if ← accept '(' then
      let c ← conditionUpTo commands n 0
      expectSign ')'
      return c
    plainCondition commands

end Read
end JobMatrix.Script
