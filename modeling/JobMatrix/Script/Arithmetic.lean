import JobMatrix.Script.Machine
import JobMatrix.Script.Source

/-!
Arithmetic in scripts, on integers of 64 bits. An expression is read into a tree, and the tree is evaluated
from left to right.
-/
namespace JobMatrix.Script

inductive Operator
  | comma | disjunction | conjunction | bitOr | bitXor | bitAnd | equal | unequal
  | less | lessEqual | greater | greaterEqual | shiftLeft | shiftRight
  | plus | minus | times | divide | modulo | power
  deriving DecidableEq

inductive Expr
  | number (n : Int)
  | name (name : String) (index : Option Expr)
  | negate (e : Expr)
  | complement (e : Expr)
  | negation (e : Expr)
  | binary (operator : Operator) (a b : Expr)
  | choice (condition a b : Expr)
  | assign (name : String) (index : Option Expr) (operator : Option Operator) (e : Expr)
  | step (name : String) (index : Option Expr) (change : Int) (before : Bool)

inductive ArithmeticError
  | malformed (rest : String)
  | excess (rest : String)
  | divisionByZero (divisor : String)
  | illegalNumber (text : String)
  | badNumber (text : String)
  | badSign (rest : String)
  | constant (name : String)

/-- The signs of the operators with their levels, the ones that bind less first; a longer sign stands before
its beginnings. -/
def operatorSigns : List (String × Nat × Operator) :=
  [("||", 1, .disjunction), ("&&", 2, .conjunction), ("==", 6, .equal), ("!=", 6, .unequal),
    ("<<", 8, .shiftLeft), (">>", 8, .shiftRight), ("<=", 7, .lessEqual), (">=", 7, .greaterEqual),
    ("**", 11, .power), (",", 0, .comma), ("|", 3, .bitOr), ("^", 4, .bitXor), ("&", 5, .bitAnd), ("<", 7, .less),
    (">", 7, .greater), ("+", 9, .plus), ("-", 9, .minus), ("*", 10, .times), ("/", 10, .divide), ("%", 10, .modulo)]

def assignmentSigns : List (String × Option Operator) :=
  [("<<=", some .shiftLeft), (">>=", some .shiftRight), ("+=", some .plus), ("-=", some .minus), ("*=", some .times),
    ("/=", some .divide), ("%=", some .modulo), ("&=", some .bitAnd), ("^=", some .bitXor), ("|=", some .bitOr)]

def isSpaceChar (c : Char) : Bool := c == ' ' || c == '\t' || c == '\n'

def trimLeft (s : List Char) : List Char := s.dropWhile isSpaceChar

/-- A number in the notations of scripts, and what follows it. -/
def numberAt? (s : List Char) : Option (Int × List Char) :=
  let word := s.takeWhile fun c => c.isAlphanum || c == '#'
  let rest := s.drop word.length
  let value? := match word with
    | '0' :: 'x' :: digits | '0' :: 'X' :: digits => Text.naturalIn? 16 digits
    | '0' :: digit :: digits => Text.naturalIn? 8 (digit :: digits)
    | _ =>
      let base := word.takeWhile (· != '#')
      if base.length < word.length then do
        let base ← Text.naturalIn? 10 base
        Text.naturalIn? (min base 16) (word.drop ((toString base).length + 1))
      else Text.naturalIn? 10 word
  value?.map fun n => (n, rest)


def malformed (s : List Char) : Except ArithmeticError (Expr × List Char) := .error (.malformed (String.ofList s))

def assignmentAt? (s : List Char) : Option (Option Operator × List Char) :=
  match s with
  | '=' :: '=' :: _ => none
  | '=' :: rest => some (none, rest)
  | _ => (assignmentSigns.find? fun (sign, _) => sign.toList.isPrefixOf s).map fun (sign, operator) =>
    (operator, s.drop sign.length)

/-- The operator that comes next, if it is of a level or a higher one. -/
def operatorAt? (extended : Bool) (level : Nat) (s : List Char) : Option (Nat × Operator × List Char) :=
  if (assignmentAt? s).isSome then none
  else
    let known := fun (operator : Operator) => extended || (operator != .power && operator != .comma)
    let found := operatorSigns.find? fun (sign, _, operator) => sign.toList.isPrefixOf s && known operator
    (found.filter fun (_, l, _) => level ≤ l).map fun (sign, l, operator) => (l, operator, s.drop sign.length)

mutual

/-- An expression of operators of a level or higher ones. -/
def readExpr (extended : Bool) : Nat → Nat → List Char → Except ArithmeticError (Expr × List Char)
  | 0, _, s => malformed s
  | n + 1, level, s => do
    let (first, rest) ← readOperand extended n (trimLeft s)
    readRest extended n level first rest

/-- What follows the first operand of an expression. -/
def readRest (extended : Bool) : Nat → Nat → Expr → List Char → Except ArithmeticError (Expr × List Char)
  | 0, _, _, s => malformed s
  | n + 1, level, first, s => do
    let s := trimLeft s
    match s with
    | '?' :: rest =>
      if level ≤ 1 then
        let (a, rest) ← readExpr extended n 0 rest
        match trimLeft rest with
        | ':' :: rest => do
          let (b, rest) ← readExpr extended n 1 rest
          return (.choice first a b, rest)
        | other => malformed other
      else return (first, s)
    | _ =>
      match operatorAt? extended level s with
      | none => return (first, s)
      | some (l, operator, rest) => do
        let (second, rest) ← readExpr extended n (if operator = .power then l else l + 1) rest
        readRest extended n level (.binary operator first second) rest

def readOperand (extended : Bool) : Nat → List Char → Except ArithmeticError (Expr × List Char)
  | 0, s => malformed s
  | n + 1, s =>
    match s with
    | '(' :: rest => do
      let (e, rest) ← readExpr extended n 0 rest
      match trimLeft rest with
      | ')' :: rest => return (e, rest)
      | other => malformed other
    | '+' :: rest => readSigned extended n '+' rest
    | '-' :: rest => readSigned extended n '-' rest
    | '!' :: rest => do
      let (e, rest) ← readOperand extended n (trimLeft rest)
      return (.negation e, rest)
    | '~' :: rest => do
      let (e, rest) ← readOperand extended n (trimLeft rest)
      return (.complement e, rest)
    | c :: _ =>
      if isNameStart c then readNamed extended n s
      else match numberAt? s with
        | some (value, rest) => return (.number value, rest)
        | none =>
          if c.isDigit then .error (.badNumber (String.ofList (s.takeWhile isNameChar))) else malformed s
    | [] => malformed []

def readSigned (extended : Bool) : Nat → Char → List Char → Except ArithmeticError (Expr × List Char)
  | 0, _, s => malformed s
  | n + 1, sign, s => do
    let doubled := extended && s.head? = some sign
    let named := (trimLeft (s.drop 1)).head?.any isNameStart
    if doubled && named then
      let (e, rest) ← readOperand extended n (trimLeft (s.drop 1))
      match e with
      | .name name index => return (.step name index (if sign = '+' then 1 else -1) true, rest)
      | _ => malformed s
    else
      let (e, rest) ← readOperand extended n (trimLeft s)
      return (if sign = '-' then .negate e else e, rest)

def readNamed (extended : Bool) : Nat → List Char → Except ArithmeticError (Expr × List Char)
  | 0, s => malformed s
  | n + 1, s => do
    let word := s.takeWhile isNameChar
    let name := String.ofList word
    let rest := s.drop word.length
    let (index, rest) ← match rest with
      | '[' :: inside =>
        if extended then
          let (e, rest) ← readExpr extended n 0 inside
          match trimLeft rest with
          | ']' :: rest => pure (some e, rest)
          | other => throw (.malformed (String.ofList other))
        else pure (none, rest)
      | _ => pure (none, rest)
    let after := trimLeft rest
    match assignmentAt? after with
    | some (operator, rest) => do
      let (e, rest) ← readExpr extended n 1 rest
      return (.assign name index operator e, rest)
    | none =>
      match after with
      | '+' :: '+' :: rest =>
        return if extended then (.step name index 1 false, rest) else (.name name index, after)
      | '-' :: '-' :: rest =>
        return if extended then (.step name index (-1) false, rest) else (.name name index, after)
      | _ => return (.name name index, rest)

end

def exprOf (extended : Bool) (s : List Char) : Except ArithmeticError Expr := do
  let s := if extended then s.filter (· != '"') else s
  if (trimLeft s).isEmpty then if extended then return .number 0 else throw (.malformed "")
  let (e, rest) ← readExpr extended (8 * s.length + 8) 0 s
  match trimLeft rest with
  | [] => return e
  | '.' :: _ => throw (.badSign (String.ofList (trimLeft rest)))
  | rest => throw (.excess (String.ofList rest))

/-- How many integers of 64 bits are negative. -/
def wordHalf : Int := Int.pow 2 63

/-- An integer as far as 64 bits keep it. -/
def wrapped (n : Int) : Int := n.bmod UInt64.size

def truth (b : Bool) : Int := if b then 1 else 0

def bitwise (f : BitVec 64 → BitVec 64 → BitVec 64) (a b : Int) : Int :=
  (f (BitVec.ofInt 64 a) (BitVec.ofInt 64 b)).toInt

def applyOperator (operator : Operator) (a b : Int) : Except ArithmeticError Int :=
  match operator with
  | .comma => .ok b
  | .disjunction => .ok (truth (a != 0 || b != 0))
  | .conjunction => .ok (truth (a != 0 && b != 0))
  | .bitOr => .ok (bitwise (· ||| ·) a b)
  | .bitXor => .ok (bitwise (· ^^^ ·) a b)
  | .bitAnd => .ok (bitwise (· &&& ·) a b)
  | .equal => .ok (truth (a == b))
  | .unequal => .ok (truth (a != b))
  | .less => .ok (truth (a < b))
  | .lessEqual => .ok (truth (a ≤ b))
  | .greater => .ok (truth (a > b))
  | .greaterEqual => .ok (truth (a ≥ b))
  | .shiftLeft => .ok (wrapped (a * Int.pow 2 (b.toNat % 64)))
  | .shiftRight => .ok (a / Int.pow 2 (b.toNat % 64))
  | .plus => .ok (wrapped (a + b))
  | .minus => .ok (wrapped (a - b))
  | .times => .ok (wrapped (a * b))
  | .divide => if b = 0 then .error (.divisionByZero (toString b)) else .ok (wrapped (a.tdiv b))
  | .modulo => if b = 0 then .error (.divisionByZero (toString b)) else .ok (a.tmod b)
  | .power => .ok (wrapped (Int.pow a (min b.toNat 100000)))

abbrev Calculation := ExceptT ArithmeticError Eval

namespace Calculation

/-- The number that the text of a variable stands for. In the extended dialect the text is an expression, the
value of which is found by `inner`. -/
def numberOf (extended : Bool) (inner : Expr → Calculation Int) (text : String) : Calculation Int := do
  let s := (trimLeft text.toList).reverse.dropWhile isSpaceChar |>.reverse
  let (sign, digits) := match s with
    | '-' :: rest => (-1, rest)
    | '+' :: rest => (1, rest)
    | _ => (1, s)
  if s.isEmpty then return 0
  match numberAt? digits with
  | some (value, []) => return sign * value
  | _ =>
    if extended then
      match exprOf extended s with
      | .ok e => inner e
      | .error problem => throw problem
    else throw (.illegalNumber text)

def itemValue (extended : Bool) (inner : Expr → Calculation Int) (name : String) (index : Option Int) :
    Calculation Int := do
  let items := (((← (Eval.lookUp? name : Eval _)).map (·.items)).getD [])
  match items.find? (·.1 == (index.getD 0).toNat) with
  | some (_, text) => numberOf extended inner text
  | none => return 0

def setItem (name : String) (index : Option Int) (value : Int) : Calculation Unit := do
  let done ← (Eval.setItem name (index.map Int.toNat) (toString value) : Eval Bool)
  if !done then throw (.constant name)

/-- The value of an expression; `inner` finds the values of the expressions that variables hold. -/
def evaluate (extended : Bool) (inner : Expr → Calculation Int) : Expr → Calculation Int
  | .number n => return if extended then wrapped n else min n (wordHalf - 1)
  | .name name none => itemValue extended inner name none
  | .name name (some e) => do itemValue extended inner name (some (← evaluate extended inner e))
  | .negate e => return wrapped (-(← evaluate extended inner e))
  | .complement e => return -(← evaluate extended inner e) - 1
  | .negation e => return truth ((← evaluate extended inner e) == 0)
  | .binary operator a b => do
    let x ← evaluate extended inner a
    if operator = .disjunction ∧ x ≠ 0 then return 1
    if operator = .conjunction ∧ x = 0 then return 0
    let y ← evaluate extended inner b
    applyOperator operator x y
  | .choice condition a b => do
    if (← evaluate extended inner condition) ≠ 0 then evaluate extended inner a else evaluate extended inner b
  | .assign name index operator e => do
    let i ← match index with
      | some i => pure (some (← evaluate extended inner i))
      | none => pure none
    let old ← match operator with
      | some _ => itemValue extended inner name i
      | none => pure 0
    let y ← evaluate extended inner e
    let value ← match operator with
      | some operator => applyOperator operator old y
      | none => pure y
    setItem name i value
    return value
  | .step name index change before => do
    let i ← match index with
      | some i => pure (some (← evaluate extended inner i))
      | none => pure none
    let old ← itemValue extended inner name i
    setItem name i (wrapped (old + change))
    return if before then wrapped (old + change) else old

/-- The value of an expression, with expressions in variables up to a depth. -/
def evaluateUpTo (extended : Bool) : Nat → Expr → Calculation Int
  | 0, _ => return 0
  | n + 1, e => evaluate extended (evaluateUpTo extended n) e

end Calculation

def calculate (text : String) : Eval (Except ArithmeticError Int) := do
  let extended := (← Eval.dialect) == .bash
  match exprOf extended text.toList with
  | .ok e => (Calculation.evaluateUpTo extended 64 e).run
  | .error problem => return .error problem

end JobMatrix.Script
