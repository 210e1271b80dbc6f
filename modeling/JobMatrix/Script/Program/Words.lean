import JobMatrix.Script.Program

/-!
Programs that need their arguments alone: numbers, names of files, texts and expressions.
-/
namespace JobMatrix.Script.Program
open Eval Script.Filter

def zeroPadded (width : Nat) (n : Int) : String :=
  let digits := toString n.natAbs
  let sign := if n < 0 then "-" else ""
  sign ++ String.ofList (List.replicate (width - digits.length - sign.length) '0') ++ digits

/-- A decimal fraction as an integer and the number of its places. -/
def decimal? (text : String) : Option (Int × Nat) :=
  let (sign, s) := match text.toList with
    | '-' :: s => (-1, s)
    | '+' :: s => (1, s)
    | s => (1, s)
  match splitOn '.' s with
  | [whole] => (Text.naturalIn? 10 whole).map fun n => (sign * n, 0)
  | [whole, places] => (Text.naturalIn? 10 (whole ++ places)).map fun n => (sign * n, places.length)
  | _ => none

/-- A decimal fraction as an integer of units of a number of places. -/
def scaled (places : Nat) (n : Int × Nat) : Int := n.1 * Int.pow 10 (places - n.2)

/-- An integer of units of a number of places as a decimal fraction. -/
def fractionText (width places : Nat) (n : Int) : String :=
  if places = 0 then zeroPadded width n
  else
    let digits := zeroPadded (places + 1) n.natAbs
    let whole := digits.toList.take (digits.length - places)
    (if n < 0 then "-" else "") ++ String.ofList (whole ++ '.' :: digits.toList.drop whole.length)

def seq (arguments : List String) : Eval Nat := do
  let numerals := (arguments.reverse.takeWhile fun a => (decimal? a).isSome).reverse
  let (found, others) := options ['s', 'f'] (arguments.take (arguments.length - numerals.length))
  let separator := (optionValue? found 's').getD "\n"
  if let some bad := others.head? then
    return ← misused "seq" ("invalid floating point argument: '" ++ bad ++ "'") 1
  let numbers := numerals.filterMap decimal?
  let places := (numbers.map Prod.snd).foldl max 0
  let one : Int := Int.pow 10 places
  let bounds := match numbers.map (scaled places) with
    | [last] => some (one, one, last)
    | [first, last] => some (first, one, last)
    | [first, step, last] => some (first, step, last)
    | _ => none
  match bounds with
  | none => misused "seq" "missing operand" 1
  | some (first, step, last) =>
    let count :=
      if step > 0 then (last - first) / step + 1
      else if step < 0 then (first - last) / (-step) + 1 else 0
    let width := if hasOption found 'w' then max (toString first).length (toString last).length else 0
    let items := (List.range count.toNat).map fun (i : Nat) => fractionText width places (first + step * (i : Int))
    if !items.isEmpty then sayLine (String.join (items.intersperse separator))
    return 0

def withoutSlashes (s : List Char) : List Char := (s.reverse.dropWhile (· == '/')).reverse

def basename (arguments : List String) : Eval Nat := do
  match arguments with
  | path :: rest =>
    let trimmed := withoutSlashes path.toList
    let name := (trimmed.reverse.takeWhile (· != '/')).reverse
    let ending := (rest.headD "").toList
    let hasEnding := ending ≠ [] ∧ ending ≠ name ∧ ending.isSuffixOf name
    let name := if hasEnding then name.take (name.length - ending.length) else name
    sayLine (if trimmed.isEmpty ∧ path ≠ "" then "/" else String.ofList name)
    return 0
  | [] =>
    misused "basename" "missing operand" 1

def dirname (arguments : List String) : Eval Nat := do
  if arguments.isEmpty then return ← misused "dirname" "missing operand" 1
  for path in arguments do
    let trimmed := withoutSlashes path.toList
    let parent := withoutSlashes ((trimmed.reverse.dropWhile (· != '/')).reverse)
    sayLine (if parent.isEmpty then if path.toList.head? = some '/' then "/" else "." else String.ofList parent)
  return 0

def yes (arguments : List String) : Eval Nat := do
  let line := (if arguments.isEmpty then "y" else Text.joinWith " " arguments) ++ "\n"
  say (String.join (List.replicate (endlessLength / line.length) line))
  return 141

def printenv (arguments : List String) : Eval Nat := do
  let bindings ← environment
  match arguments with
  | [] =>
    for (name, value) in bindings do
      sayLine (name ++ "=" ++ value)
    return 0
  | names =>
    let mut good := true
    for name in names do
      match bindings.find? (·.1 == name) with
      | some (_, value) => sayLine value
      | none => good := false
    return statusOf good

def echoParts : Bool → Bool → List String → Bool × Bool × List String
  | newline, escapes, [] => (newline, escapes, [])
  | newline, escapes, argument :: rest =>
    match argument.toList with
    | '-' :: c :: letters =>
      if (c :: letters).all (['n', 'e', 'E'].contains ·) then
        let escapes := match (c :: letters).reverse.find? (· != 'n') with
          | some l => l == 'e'
          | none => escapes
        echoParts (newline && !(c :: letters).contains 'n') escapes rest
      else (newline, escapes, argument :: rest)
    | _ => (newline, escapes, argument :: rest)

def echoedExtended (arguments : List String) : List Char :=
  let (newline, escapes, words) := echoParts true false arguments
  let text := (Text.joinWith " " words).toList
  let (text, ended) := if escapes then unescape extendedText (text.length + 1) text else (text, false)
  text ++ if newline && !ended then ['\n'] else []

/-- What is echoed by the standard dialect, which reads escapes in every text. -/
def echoedStandard (arguments : List String) : List Char :=
  let (newline, words) := match arguments with
    | "-n" :: rest => (false, rest)
    | words => (true, words)
  let text := (Text.joinWith " " words).toList
  let (text, ended) := unescape standardText (text.length + 1) text
  text ++ if newline && !ended then ['\n'] else []

def echo (arguments : List String) : Eval Nat := do
  sayBytes (echoedExtended arguments)
  return 0

def exprOperator? (operator : String) (a b : String) : Option (Except String String) :=
  let numbers := do return (← a.toInt?, ← b.toInt?)
  let truth := fun (b : Bool) => Except.ok (if b then "1" else "0")
  let compare := fun (byNumber : Int → Int → Bool) (byText : String → String → Bool) =>
    match numbers with
    | some (x, y) => truth (byNumber x y)
    | none => truth (byText a b)
  let compute := fun (f : Int → Int → Except String Int) =>
    match numbers with
    | some (x, y) => (f x y).map toString
    | none => .error "non-integer argument"
  let divide := fun (f : Int → Int → Int) =>
    compute fun x y => if y = 0 then .error "division by zero" else .ok (f x y)
  match operator with
  | "+" => some (compute fun x y => .ok (x + y))
  | "-" => some (compute fun x y => .ok (x - y))
  | "*" => some (compute fun x y => .ok (x * y))
  | "/" => some (divide Int.tdiv)
  | "%" => some (divide Int.tmod)
  | "=" | "==" => some (compare (· == ·) (· == ·))
  | "!=" => some (compare (· != ·) (· != ·))
  | "<" => some (compare (fun x y => x < y) (fun x y => x < y))
  | "<=" => some (compare (fun x y => x ≤ y) (fun x y => x ≤ y))
  | ">" => some (compare (fun x y => x > y) (fun x y => x > y))
  | ">=" => some (compare (fun x y => x ≥ y) (fun x y => x ≥ y))
  | "|" => some (.ok (if a = "" ∨ a = "0" then (if b = "" then "0" else b) else a))
  | "&" => some (.ok (if a = "" ∨ a = "0" ∨ b = "" ∨ b = "0" then "0" else a))
  | ":" =>
    match (Regex.sequence .atStart (Regex.ofText false false b.toList)).find? 0 a.toList with
    | some (_, found, p) =>
      match p.groups.find? (·.1 == 1) with
      | some (_, text) => some (.ok (String.ofList text))
      | none => if (b.toList.zip (b.toList.drop 1)).contains ('\\', '(') then some (.ok "")
        else some (.ok (toString found.length))
    | none => some (.ok "0")
  | _ => none

def expr (arguments : List String) : Eval Nat := do
  let finish := fun (value : String) => do
    sayLine value
    return if value = "" ∨ value = "0" then 1 else 0
  let go := fun (value : Except String String) => do
    match value with
    | .ok value => finish value
    | .error message =>
      warn ("expr: " ++ message)
      return 2
  match arguments with
  | [] =>
    misused "expr" "missing operand" 2
  | ["length", s] => finish (toString s.length)
  | ["substr", s, start, count] =>
    let (start, count) := (start.toNat?.getD 0, count.toNat?.getD 0)
    finish (if start = 0 then "" else String.ofList ((s.toList.drop (start - 1)).take count))
  | ["index", s, set] =>
    finish (toString (((s.toList.zipIdx 1).find? fun (c, _) => set.toList.contains c).map (·.2) |>.getD 0))
  | [a] => finish a
  | [a, operator, b] =>
    match exprOperator? operator a b with
    | some value => go value
    | none =>
      warn s!"expr: syntax error: unexpected argument '{operator}'"
      return 2
  | [a, first, b, second, c] =>
    let value := do
      if ["*", "/", "%"].contains second && ["+", "-"].contains first then
        let inner ← (exprOperator? second b c).getD (.error "syntax error")
        (exprOperator? first a inner).getD (.error "syntax error")
      else
        let inner ← (exprOperator? first a b).getD (.error "syntax error")
        (exprOperator? second inner c).getD (.error "syntax error")
    go value
  | _ =>
    warn ("expr: syntax error: unexpected argument '" ++ arguments.getLastD "" ++ "'")
    return 2

/-- A duration in thousandths of a second. -/
def duration? (text : String) : Option Nat :=
  let (digits, factor) := match text.toList.getLast? with
    | some 's' => (text.toList.dropLast, 1)
    | some 'm' => (text.toList.dropLast, 60)
    | some 'h' => (text.toList.dropLast, 3600)
    | _ => (text.toList, 1)
  (decimal? (String.ofList digits)).bind fun (n, places) =>
    if n < 0 then none else some (n.toNat * 1000 * factor / Nat.pow 10 places)

/-- Time passes, in the world of the scripts alone. -/
def sleep (arguments : List String) : Eval Nat := do
  if arguments.isEmpty then return ← misused "sleep" "missing operand" 1
  match arguments.find? fun a => (duration? a).isNone with
  | some bad => misused "sleep" ("invalid time interval '" ++ bad ++ "'") 1
  | none =>
    let total := (arguments.filterMap duration?).foldl (· + ·) 0
    changeWorld fun w => { w with clock := w.clock + total }
    return 0

def which (arguments : List String) (known : String → Bool) : Eval Nat := do
  let mut good := true
  for name in arguments do
    if known name then sayLine ("/usr/bin/" ++ name) else good := false
  return statusOf good

/-- The programs that read all their arguments by themselves. -/
def forWords : List (String × (List String → Eval Nat)) :=
  [("true", fun _ => return 0), ("false", fun _ => return 1), ("seq", seq), ("basename", basename),
    ("dirname", dirname), ("yes", yes), ("printenv", printenv), ("echo", echo), ("expr", expr),
    ("sleep", sleep), ("sync", fun _ => return 0)]

end JobMatrix.Script.Program
