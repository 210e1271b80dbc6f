import JobMatrix.Script.CommandReading
import JobMatrix.Script.Field
import JobMatrix.Script.Regex

/-!
Conditions on texts, numbers and files, as arguments of a command and in double brackets.
-/
namespace JobMatrix.Script.Test
open Eval

def integer? (text : String) : Option Int :=
  let s := (trimLeft text.toList).reverse.dropWhile isSpaceChar |>.reverse
  match s with
  | '-' :: digits => (Text.naturalIn? 10 digits).map fun n => -(n : Int)
  | '+' :: digits => (Text.naturalIn? 10 digits).map Int.ofNat
  | digits => (Text.naturalIn? 10 digits).map Int.ofNat

abbrev Verdict := ExceptT String Eval Bool

def entryAt (path : String) : Eval (Option Entry) := do
  return ((← get).world.tree.find (← session).directory path).toOption

def unary (operator operand : String) : Verdict := do
  match operator with
  | "-n" => return operand != ""
  | "-z" => return operand == ""
  | "-t" => return false
  | "-v" => return (← (lookUp? operand : Eval _)).isSome
  | "-o" => return false
  | _ =>
    let entry ← (entryAt operand : Eval _)
    return match operator, entry with
      | _, none => false
      | "-d", some e => e == .directory
      | "-f", some (.file _) => true
      | "-f", some _ => false
      | "-s", some (.file contents) => contents != ""
      | "-s", some e => e == .directory
      | "-c", some e => e == .nullDevice || e == .zeroDevice
      | "-h", _ | "-L", _ | "-p", _ | "-S", _ | "-b", _ => false
      | _, some _ => true

/-- The comparison of numbers that an operator stands for. -/
def comparison? : String → Option (Int → Int → Bool)
  | "-eq" => some (· == ·)
  | "-ne" => some (· != ·)
  | "-lt" => some fun a b => a < b
  | "-le" => some fun a b => a ≤ b
  | "-gt" => some fun a b => a > b
  | "-ge" => some fun a b => a ≥ b
  | _ => none

def number (text : String) : ExceptT String Eval Int := do
  match integer? text with
  | some n => return n
  | none =>
    throw (if (← (dialect : Eval _)) = .bash then text ++ ": integer expression expected"
      else "Illegal number: " ++ text)

/-- Whether a text is an operator between two operands. -/
def isBinary (extended : Bool) (operator : String) : Bool :=
  ["=", "!=", "<", ">", "-nt", "-ot", "-ef"].contains operator || (extended && operator == "==") ||
    (comparison? operator).isSome

def binary (operator a b : String) : Verdict := do
  match comparison? operator with
  | some compare => return compare (← number a) (← number b)
  | none =>
    return match operator with
      | "=" | "==" => a == b
      | "!=" => a != b
      | "<" => decide (a < b)
      | ">" => decide (b < a)
      | "-ef" => a == b
      | _ => false

/-- The complaint about an operand that stands where an operator should stand. -/
def unexpected (word kind : String) : ExceptT String Eval α := do
  throw (if (← (dialect : Eval _)) = .bash then word ++ ": " ++ kind ++ " operator expected"
    else word ++ ": unexpected operator")

mutual

/-- Conditions of which one must hold, and the arguments behind them. -/
def disjunction (extended : Bool) : Nat → List String → ExceptT String Eval (Bool × List String)
  | 0, arguments => return (false, arguments)
  | n + 1, arguments => do
    let (a, rest) ← conjunction extended n arguments
    match rest with
    | "-o" :: rest => do
      let (b, rest) ← disjunction extended n rest
      return (a || b, rest)
    | _ => return (a, rest)

/-- Conditions that must all hold. -/
def conjunction (extended : Bool) : Nat → List String → ExceptT String Eval (Bool × List String)
  | 0, arguments => return (false, arguments)
  | n + 1, arguments => do
    let (a, rest) ← primary extended n arguments
    match rest with
    | "-a" :: rest => do
      let (b, rest) ← conjunction extended n rest
      return (a && b, rest)
    | _ => return (a, rest)

def primary (extended : Bool) : Nat → List String → ExceptT String Eval (Bool × List String)
  | 0, arguments => return (false, arguments)
  | n + 1, arguments => do
    match arguments with
    | a :: operator :: b :: rest =>
      if isBinary extended operator then return (← binary operator a b, rest)
      else first extended n arguments
    | _ => first extended n arguments

def first (extended : Bool) : Nat → List String → ExceptT String Eval (Bool × List String)
  | 0, arguments => return (false, arguments)
  | n + 1, arguments => do
    match arguments with
    | [] => throw "argument expected"
    | "!" :: rest => do
      let (a, rest) ← primary extended n rest
      return (!a, rest)
    | "(" :: rest => do
      let (a, rest) ← disjunction extended n rest
      match rest with
      | ")" :: rest => return (a, rest)
      | _ => throw (if extended then "\x60)' expected" else "closing paren expected")
    | a :: b :: rest =>
      if isUnaryTest a then return (← unary a b, rest)
      else return (a != "", b :: rest)
    | [a] => return (a != "", [])

end

def verdict (arguments : List String) : Verdict := do
  let extended := (← (dialect : Eval _)) == .bash
  match arguments with
  | [] => return false
  | [a] => return a != ""
  | ["!", a] => return a == ""
  | [a, b] =>
    if isUnaryTest a then unary a b
    else if isBinary extended b && !extended then throw (b ++ ": argument expected")
    else unexpected a "unary"
  | [a, operator, b] =>
    if isBinary extended operator then binary operator a b
    else if operator = "-a" then return a != "" && b != ""
    else if operator = "-o" then return a != "" || b != ""
    else if a = "!" then
      if isUnaryTest operator then return !(← unary operator b) else unexpected operator "unary"
    else if a = "(" ∧ b = ")" then return operator != ""
    else unexpected (if extended then operator else a) "binary"
  | _ =>
    let (holds, rest) ← disjunction extended (4 * arguments.length + 4) arguments
    match rest with
    | [] => return holds
    | word :: _ => if extended then throw "too many arguments" else throw (word ++ ": unexpected operator")

/-- The command under one of its two names, of which the second one is closed by a bracket. -/
def run (name : String) (arguments : List String) : Eval Nat := do
  let fail := fun (message : String) => do
    complain (name ++ ": " ++ message)
    return 2
  let go := fun (arguments : List String) => do
    match ← (verdict arguments).run with
    | .ok holds => return if holds then 0 else 1
    | .error message => fail message
  if name = "[" then
    if arguments.getLast? = some "]" then go arguments.dropLast
    else if (← dialect) = .bash then fail "missing \x60]'" else fail "missing ]"
  else go arguments

/-- Whether a condition in double brackets holds. -/
def holds (text : Word → Eval String) (pattern : Word → Eval (List Atom)) : Condition → Eval Bool
  | .word w => return (← text w) != ""
  | .unary operator w => do
    match ← (unary operator (← text w)).run with
    | .ok b => return b
    | .error _ => return false
  | .binary operator a b => do
    let left ← text a
    if operator = "=" ∨ operator = "==" then return matchesPattern (← pattern b) left.toList
    else if operator = "!=" then return !matchesPattern (← pattern b) left.toList
    else if operator = "=~" then
      let r := Regex.ofText true false (← text b).toList
      match r.find? 0 left.toList with
      | some (_, found, p) =>
        let count := (p.groups.map Prod.fst).foldl max 0
        let groups := (List.range count).map fun i =>
          String.ofList (((p.groups.find? (·.1 == i + 1)).map (·.2)).getD [])
        let items := (String.ofList found :: groups).zipIdx.map fun (s, i) => (i, s)
        putVariable "BASH_REMATCH" ⟨items, true, false, false⟩
        return true
      | none => return false
    else match comparison? operator with
      | some compare => return compare (← calculated left) (← calculated (← text b))
      | none =>
        match ← (binary operator left (← text b)).run with
        | .ok b => return b
        | .error _ => return false
  | .negation c => return !(← holds text pattern c)
  | .conjunction a b => do
    if ← holds text pattern a then holds text pattern b else return false
  | .disjunction a b => do
    if ← holds text pattern a then return true else holds text pattern b

end JobMatrix.Script.Test
