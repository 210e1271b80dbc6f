import JobMatrix.Script.Arithmetic
import JobMatrix.Script.NameMatch

/-!
What words stand for. The pieces of a word become marked characters; unquoted ones that come from an
expansion can be split into fields, and a field that is a pattern becomes the paths that it stands for.
-/
namespace JobMatrix.Script

/-- Where a character of a word comes from. -/
inductive Origin
  | literal
  | quoted
  | expanded
  deriving DecidableEq

/-- A character, a pair of quotes that keeps an empty field, or the end of one of several parameters. -/
inductive Mark
  | char (c : Char) (origin : Origin)
  | quotes
  | boundary
  deriving DecidableEq

def textOf (marks : List Mark) : String :=
  String.ofList (marks.filterMap fun
    | .char c _ => some c
    | .quotes => none
    | .boundary => some ' ')

/-- The characters of marks, those that were quoted being marked. -/
def markedOf (marks : List Mark) : List Marked :=
  marks.filterMap fun
    | .char c origin => some (c, origin == .quoted)
    | .quotes => none
    | .boundary => some (' ', true)

/-- The marks of a text; a quoted one keeps its field even if it is empty. -/
def marksFor (quoted : Bool) (s : List Char) : List Mark :=
  if quoted then .quotes :: s.map (.char · .quoted) else s.map (.char · .expanded)

def separated : List (List Mark) → List Mark
  | [] => []
  | [m] => m
  | m :: rest => m ++ .boundary :: separated rest

/-- The fields of marks. `current` holds the marks of the field that is being read, the last first, and
`afterBlank` tells that the last field was ended by a blank only. -/
def splitFrom (separators : List Char) : Option (List Mark) → Bool → List Mark → List (List Mark)
  | current, _, [] => (current.map List.reverse).toList
  | current, afterBlank, mark :: rest =>
    let ended := (current.map List.reverse).toList
    match mark with
    | .boundary => ended ++ splitFrom separators none false rest
    | .quotes => splitFrom separators (some (.quotes :: current.getD [])) false rest
    | .char c origin =>
      if origin = .expanded ∧ separators.contains c then
        if isSpaceChar c then
          ended ++ splitFrom separators none (afterBlank || current.isSome) rest
        else if current.isNone && !afterBlank then [] :: splitFrom separators none false rest
        else ended ++ splitFrom separators none false rest
      else splitFrom separators (some (mark :: current.getD [])) false rest

inductive Found
  | unset
  | single (value : String)
  | several (values : List String) (asOne : Bool)

def Found.isEmpty : Found → Bool
  | .unset => true
  | .single value => value == ""
  | .several values _ => values.all (· == "")

def Found.isUnset : Found → Bool
  | .unset => true
  | .single _ => false
  | .several values _ => values.isEmpty

namespace Eval

/-- The status with which the shell ends at an error in an expansion. -/
def refuse (message : String) (extendedStatus : Nat) : Eval α := do
  complain message
  throw (.exit (if (← dialect) = .bash then extendedStatus else 2))

def arithmeticMessage (extended : Bool) (text : String) (problem : ArithmeticError) : String :=
  let trimmed := String.ofList (trimLeft text.toList)
  let token := fun (s : String) => " (error token is \"" ++ s ++ "\")"
  let rejected := fun (reason : String) => "arithmetic expression: " ++ reason ++ ": \"" ++ text ++ "\""
  match problem with
  | .malformed rest =>
    let last := (trimmed.toList.getLast?.map String.singleton).getD ""
    if extended then trimmed ++ ": syntax error: operand expected" ++ token (if rest = "" then last else rest)
    else rejected "expecting primary"
  | .excess rest =>
    if extended then trimmed ++ ": syntax error in expression" ++ token rest else rejected "expecting EOF"
  | .divisionByZero divisor =>
    if extended then trimmed ++ ": division by 0" ++ token divisor else rejected "division by zero"
  | .illegalNumber number =>
    if extended then number ++ ": syntax error: invalid arithmetic operator" ++ token number
    else "Illegal number: " ++ number
  | .badNumber number =>
    if extended then number ++ ": value too great for base" ++ token number else rejected "expecting EOF"
  | .badSign rest =>
    if extended then trimmed ++ ": syntax error: invalid arithmetic operator" ++ token rest
    else rejected "expecting EOF"
  | .constant name => name ++ if extended then ": readonly variable" else ": is read only"

def arithmeticError (text : String) (problem : ArithmeticError) : Eval α := do
  refuse (arithmeticMessage ((← dialect) == .bash) text problem) 1

def calculated (text : String) : Eval Int := do
  match ← calculate text with
  | .ok n => return n
  | .error problem => arithmeticError text problem

def severalOf (values : List String) (sign : Char) : Found := .several values (sign == '*')

/-- The value of a parameter whose name is one sign. -/
def special? (c : Char) : Eval (Option Found) := do
  let s ← session
  match c with
  | '?' => return some (.single (toString s.status))
  | '#' => return some (.single (toString s.arguments.length))
  | '$' => return some (.single (toString s.process))
  | '-' => return some (.single (String.ofList s.flags ++ if s.dialect = .bash then "hBc" else ""))
  | '!' => return some (match s.jobs with
      | (process, _) :: _ => .single (toString process)
      | [] => .unset)
  | '@' | '*' => return some (severalOf s.arguments c)
  | '0' => return some (.single s.name)
  | _ => return none

def found (name : String) (index : Option String) : Eval Found := do
  if let [c] := name.toList then
    if let some found ← special? c then return found
  if let some n := Text.naturalIn? 10 name.toList then
    return match (← session).arguments[n - 1]? with
      | some value => .single value
      | none => .unset
  let items := ((← lookUp? name).map (·.items)).getD []
  match index with
  | some "@" => return severalOf (items.map (·.2)) '@'
  | some "*" => return severalOf (items.map (·.2)) '*'
  | some text =>
    let n ← calculated text
    let last := (items.getLast?.map (·.1)).getD 0
    let n := if n < 0 then last + 1 - n.natAbs else n.toNat
    return match items.find? (·.1 == n) with
      | some (_, value) => .single value
      | none => .unset
  | none =>
    match items.find? (·.1 == 0) with
    | some (_, value) => return .single value
    | none => return .unset

def separators : Eval (List Char) := return ((← value? "IFS").map String.toList).getD [' ', '\t', '\n']

def marksOfFound (quoted : Bool) : Found → Eval (List Mark)
  | .unset => return marksFor quoted []
  | .single value => return marksFor quoted value.toList
  | .several values asOne => do
    if quoted && asOne then
      let separator := ((← separators).head?.map String.singleton).getD ""
      return marksFor true (Text.joinWith separator values).toList
    return separated (values.map fun v => marksFor quoted v.toList)

def changed (f : List Char → List Char) : Found → Found
  | .unset => .unset
  | .single value => .single (String.ofList (f value.toList))
  | .several values asOne => .several (values.map fun v => String.ofList (f v.toList)) asOne

def lengthOf : Found → Nat
  | .unset => 0
  | .single value => value.length
  | .several values _ => values.length

/-- A change of case of the first character or of all. -/
def converted (toUpper everywhere : Bool) (s : List Char) : List Char :=
  let f := fun (c : Char) => if toUpper then c.toUpper else c.toLower
  if everywhere then s.map f
  else match s with
    | c :: rest => f c :: rest
    | [] => []

/-- A part of a text from an offset, both counted from the end if they are negative. -/
def sliced (offset : Int) (count : Option Int) (s : List α) : List α :=
  let start := if offset < 0 then s.length - offset.natAbs else offset.toNat
  let rest := s.drop start
  match count with
  | none => rest
  | some n => if n < 0 then rest.take (rest.length - n.natAbs) else rest.take n.toNat

def substituted (place : Place) (p : List Atom) (replacement s : List Char) : List Char :=
  match place with
  | .first => replaceMatches false p replacement s.length s
  | .everywhere => replaceMatches true p replacement s.length s
  | .atStart =>
    match longestMatch? p s with
    | some n => replacement ++ s.drop n
    | none => s
  | .atEnd =>
    let rest := trimEnd true p s
    if rest.length < s.length then rest ++ replacement else s

/-- An unset parameter is an error under the flag for it. -/
def checkSet (name : String) (found : Found) : Eval Unit := do
  if (← hasFlag 'u') && found matches .unset then
    refuse (if (← dialect) = .bash then name ++ ": unbound variable" else name ++ ": parameter not set") 127

def fallbackMarks (words : Word → Eval (List Mark)) (name : String) (index : Option String) (quoted : Bool)
    (found : Found) (kind : Fallback) (alsoEmpty : Bool) (word : Word) : Eval (List Mark) := do
  let isMissing := if alsoEmpty then found.isEmpty else found.isUnset
  match kind with
  | .use => if isMissing then words word else marksOfFound quoted found
  | .replace => if isMissing then return marksFor quoted [] else words word
  | .assign =>
    if isMissing then
      let text := textOf (← words word)
      let _ ← setItem name (index.bind String.toNat?) text
      return marksFor quoted text.toList
    marksOfFound quoted found
  | .refuse =>
    if isMissing then
      let text := textOf (← words word)
      let extended := (← dialect) == .bash
      let usual :=
        if !alsoEmpty then "parameter not set"
        else if extended then "parameter null or not set" else "parameter not set or null"
      refuse (name ++ ": " ++ if word.isEmpty then usual else text) 127
    marksOfFound quoted found

def parameterMarks (words : Word → Eval (List Mark)) (name : String) (index : Option Word) (form : Form)
    (quoted : Bool) : Eval (List Mark) := do
  let index ← match index with
    | some w => pure (some (textOf (← words w)))
    | none => pure none
  let value ← found name index
  let unsetMatters := match form with
    | .fallback .. => false
    | _ => true
  if unsetMatters then checkSet name value
  match form with
  | .value => marksOfFound quoted value
  | .length => return marksFor quoted (toString (lengthOf value)).toList
  | .indirect =>
    if index = some "@" ∨ index = some "*" then
      let items := ((← lookUp? name).map (·.items)).getD []
      return ← marksOfFound quoted (.several (items.map fun (n, _) => toString n) (index == some "*"))
    match value with
    | .single other => marksOfFound quoted (← found other none)
    | _ => return marksFor quoted []
  | .fallback kind alsoEmpty word => fallbackMarks words name index quoted value kind alsoEmpty word
  | .trim fromEnd longest pattern => do
    let p := patternOf (markedOf (← words pattern))
    marksOfFound quoted (changed (if fromEnd then trimEnd longest p else trimStart longest p) value)
  | .slice offset count => do
    let offset ← calculated (textOf (← words offset))
    let count ← match count with
      | some w => pure (some (← calculated (textOf (← words w))))
      | none => pure none
    match value with
    | .several values asOne =>
      let own := (← session).name
      let values := if name = "@" ∨ name = "*" then own :: values else values
      marksOfFound quoted (.several (sliced offset count values) asOne)
    | other => marksOfFound quoted (changed (sliced offset count) other)
  | .substitute place pattern replacement => do
    let p := patternOf (markedOf (← words pattern))
    let replacement := (textOf (← words replacement)).toList
    marksOfFound quoted (changed (substituted place p replacement) value)
  | .convert toUpper everywhere => marksOfFound quoted (changed (converted toUpper everywhere) value)
  | .unknown written => do
    let extended := (← dialect) == .bash
    refuse (if extended then "$\x7b" ++ written ++ ": bad substitution" else "Bad substitution") 1

/-- The output of a command without the line feeds at its end. -/
def outputOf (run : Command → Eval Nat) (body : Command) : Eval (List Char) := do
  let id ← newChannel [] none
  let status ← isolated do
    setHandle 1 (some (.channel id))
    run body
  changeSession fun s => { s with status := status, substituted := some status }
  let text := (← writtenTo id).toList.filter (· != '\x00')
  return (text.reverse.dropWhile (· == '\n')).reverse

def pieceMarks (run : Command → Eval Nat) (words : Word → Eval (List Mark)) : Piece → Eval (List Mark)
  | .text s quoted =>
    return if quoted then marksFor true s else s.map (.char · .literal)
  | .parameter name index form quoted => parameterMarks words name index form quoted
  | .substitution body quoted => return marksFor quoted (← outputOf run body)
  | .arithmetic expression quoted => do
    return marksFor quoted (toString (← calculated (textOf (← words expression)))).toList

/-- The marks of a word; the limit is for words inside of words. -/
def wordMarks (run : Command → Eval Nat) : Nat → Word → Eval (List Mark)
  | 0, _ => throw .exhausted
  | n + 1, w => return (← w.mapM (pieceMarks run (wordMarks run n))).flatten

/-- The directory that a tilde at the start of a word stands for. -/
def withHome (w : Word) : Eval Word := do
  match w with
  | .text ('~' :: rest) false :: later =>
    if rest.head?.all (· == '/') then
      return .text (← valueOf "HOME").toList true :: .text rest false :: later
    return w
  | _ => return w

def wordText (run : Command → Eval Nat) (n : Nat) (w : Word) : Eval String := do
  return textOf (← wordMarks run n (← withHome w))

/-- The fields of a word, paths in place of those that are patterns. -/
def wordFields (run : Command → Eval Nat) (n : Nat) (w : Word) : Eval (List String) := do
  let marks ← wordMarks run n (← withHome w)
  let fields := splitFrom (← separators) none false marks
  let s ← session
  if s.flags.contains 'f' then return fields.map textOf
  let tree := (← get).world.tree
  return fields.flatMap fun field => tree.pathsFor s.directory (markedOf field)

def fieldsOf (run : Command → Eval Nat) (n : Nat) (ws : List Word) : Eval (List String) := do
  return (← ws.mapM (wordFields run n)).flatten

def wordPattern (run : Command → Eval Nat) (n : Nat) (w : Word) : Eval (List Atom) := do
  return patternOf (markedOf (← wordMarks run n (← withHome w)))

end Eval
end JobMatrix.Script
