import JobMatrix.Script.Escape
import JobMatrix.Script.Source

/-!
Reading words: quotes, parameters, substitutions and arithmetic. A reader of commands is a parameter, as
words hold commands and commands hold words.
-/
namespace JobMatrix.Script

/-- How the characters of a word are protected: not at all, by double quotes, as in a document, or as the
word of a parameter in braces with or without double quotes around it. -/
inductive Mode
  | plain
  | double
  | document
  | braced (quoted : Bool)
  deriving DecidableEq

def Mode.isQuoted : Mode → Bool
  | plain | braced false => false
  | double | document | braced true => true

/-- The characters that have a meaning inside a word. -/
def isActive (mode : Mode) (c : Char) : Bool :=
  c == '\\' || c == '$' || c == '\x60' || (c == '\'' && !mode.isQuoted) || (c == '"' && mode != .document)

/-- Whether a backslash protects a character; a backslash before another one stands for itself. -/
def isProtected (mode : Mode) (c : Char) : Bool :=
  !mode.isQuoted || ['$', '\x60', '\\'].contains c || (c == '"' && mode != .document) ||
    (c == '}' && mode == .braced true)

/-- The text between double parentheses and what follows it; `depth` parentheses are open inside. -/
def arithmeticExtent? : Nat → List Char → Option (List Char × List Char)
  | _, [] => none
  | 0, ')' :: ')' :: rest => some ([], rest)
  | 0, ')' :: _ => none
  | depth + 1, ')' :: rest => (arithmeticExtent? depth rest).map fun (a, b) => (')' :: a, b)
  | depth, c :: rest =>
    (arithmeticExtent? (if c = '(' then depth + 1 else depth) rest).map fun (a, b) => (c :: a, b)

/-- Whether a text with double parentheses open goes on to its end. -/
def staysOpen : Nat → List Char → Bool
  | _, [] => true
  | 0, ')' :: _ => false
  | depth + 1, ')' :: rest => staysOpen depth rest
  | depth, c :: rest => staysOpen (if c = '(' then depth + 1 else depth) rest

/-- The command between back quotes, and what follows the closing one. -/
def backQuoted? (inQuotes : Bool) : List Char → Option (List Char × List Char)
  | [] => none
  | '\x60' :: rest => some ([], rest)
  | '\\' :: c :: rest =>
    (backQuoted? inQuotes rest).map fun (a, b) =>
      (if ['\\', '$', '\x60'].contains c || (inQuotes && c == '"') then (c :: a, b) else ('\\' :: c :: a, b))
  | c :: rest => (backQuoted? inQuotes rest).map fun (a, b) => (c :: a, b)

/-- A quoted text with escapes; the closing quote is passed over. -/
def escapedQuotation? : Nat → List Char → Option (List Char × List Char)
  | 0, _ | _, [] => none
  | _ + 1, '\'' :: rest => some ([], rest)
  | n + 1, '\\' :: rest =>
    match escapeAt? extendedArgument rest with
    | some (.bytes bs after) => (escapedQuotation? n after).map fun (a, b) => (bs ++ a, b)
    | _ => (escapedQuotation? n rest).map fun (a, b) => ('\\' :: a, b)
  | n + 1, c :: rest => (escapedQuotation? n rest).map fun (a, b) => (c :: a, b)

abbrev PieceReader := Mode → (Char → Bool) → Read Word

namespace Read

def piecesOf (pieces : PieceReader) (text : List Char) : Read Word :=
  within text (pieces .document fun _ => false)

def parameterName : Read String := do
  match ← rest with
  | c :: _ =>
    if isNameStart c then return String.ofList (← takeWhile isNameChar)
    else if c.isDigit then return String.ofList (← takeWhile Char.isDigit)
    else if isSpecialParameter c then
      skip 1
      return String.singleton c
    else return ""
  | [] => return ""

def bracedWord (pieces : PieceReader) (quoted : Bool) (stops : List Char) : Read Word :=
  pieces (.braced quoted) (stops.contains ·)

def subscript (pieces : PieceReader) : Read (Option Word) := do
  if ← acceptExtended '[' then
    let index ← pieces .document (· == ']')
    skip 1
    return some index
  return none

def fallbackOf? : Char → Option Fallback
  | '-' => some .use
  | '=' => some .assign
  | '?' => some .refuse
  | '+' => some .replace
  | _ => none

def fallback (pieces : PieceReader) (quoted : Bool) (kind : Fallback) (alsoEmpty : Bool) : Read Form := do
  skip 1
  return .fallback kind alsoEmpty (← bracedWord pieces quoted ['}'])

/-- A sign that may be doubled. -/
def doubled (c : Char) : Read Bool := do
  skip 1
  accept c

/-- A pattern that is replaced, and the replacement. -/
def substitution (pieces : PieceReader) (quoted : Bool) : Read Form := do
  skip 1
  let place ←
    if ← accept '/' then pure Place.everywhere
    else if ← accept '#' then pure Place.atStart
    else if ← accept '%' then pure Place.atEnd
    else pure Place.first
  let pattern ← bracedWord pieces false ['/', '}']
  if ← accept '/' then return .substitute place pattern (← bracedWord pieces quoted ['}'])
  return .substitute place pattern []

/-- Offset and count of a part of a value. -/
def slice (pieces : PieceReader) : Read Form := do
  let offset ← pieces .document fun c => c == ':' || c == '}'
  if ← accept ':' then return .slice offset (some (← pieces .document (· == '}')))
  return .slice offset none

/-- What follows the name of a parameter in braces, up to the closing brace. -/
def form (pieces : PieceReader) (quoted : Bool) : Read Form := do
  let extended ← isExtended
  match ← rest with
  | '}' :: _ => return .value
  | ':' :: c :: _ =>
    match fallbackOf? c with
    | some kind => do
      skip 1
      fallback pieces quoted kind true
    | none =>
      if extended then
        skip 1
        slice pieces
      else return .unknown ""
  | c :: _ =>
    match fallbackOf? c with
    | some kind => fallback pieces quoted kind false
    | none =>
      if c = '%' ∨ c = '#' then
        let longest ← doubled c
        return .trim (c = '%') longest (← bracedWord pieces false ['}'])
      else if c = '/' ∧ extended then substitution pieces quoted
      else if (c = '^' ∨ c = ',') ∧ extended then
        let everywhere ← doubled c
        let _ ← bracedWord pieces false ['}']
        return .convert (c = '^') everywhere
      else return .unknown ""
  | [] => return .unknown ""

def bracedParameter (pieces : PieceReader) (quoted : Bool) : Read Word := do
  let start ← rest
  let isLength ← match ← rest with
    | '#' :: '}' :: _ | '#' :: ':' :: _ | '#' :: '-' :: _ | '#' :: '=' :: _ | '#' :: '+' :: _ => pure false
    | '#' :: '?' :: c :: _ => pure (c == '}')
    | '#' :: '#' :: c :: _ => pure (c == '}')
    | '#' :: '%' :: _ => pure false
    | '#' :: _ => pure true
    | _ => pure false
  if isLength then skip 1
  let isIndirect ← match ← rest with
    | '!' :: c :: _ => pure ((← isExtended) && isNameStart c)
    | _ => pure false
  if isIndirect then skip 1
  let name ← parameterName
  let index ← subscript pieces
  let found ← form pieces quoted
  let found : Form := match found with
    | .value => if isLength then .length else if isIndirect then .indirect else .value
    | other => if isLength then .unknown "" else other
  let _ ← takeWhile (· != '}')
  let extended ← isExtended
  if !(← accept '}') then fail (.unterminated (if quoted && !extended then '"' else '}'))
  let written := String.ofList (start.take (start.length - (← rest).length))
  let found : Form := match found with
    | .unknown _ => .unknown written
    | other => if name = "" then .unknown written else other
  return [.parameter name index found quoted]

/-- What follows a dollar sign. -/
def dollar (commands : Read Command) (pieces : PieceReader) (quoted : Bool) : Read Word := do
  match ← rest with
  | '(' :: '(' :: after =>
    match arithmeticExtent? 0 after with
    | some (inside, _) => do
      skip (inside.length + 4)
      return [.arithmetic (← piecesOf pieces inside) quoted]
    | none =>
      if staysOpen 0 after || (← dialect) == .sh then fail .openArithmetic
      substituted
  | '(' :: _ => substituted
  | '{' :: _ => do
    skip 1
    bracedParameter pieces quoted
  | '\'' :: after =>
    if (← isExtended) && !quoted then
      match escapedQuotation? after.length after with
      | some (text, later) => do
        skip ((← rest).length - later.length)
        return [.text text true]
      | none => fail (.unterminated '\'')
    else return [.text ['$'] quoted]
  | '"' :: _ => if (← isExtended) && !quoted then return [] else return [.text ['$'] quoted]
  | c :: _ =>
    if isNameStart c then return [.parameter (String.ofList (← takeWhile isNameChar)) none .value quoted]
    else if c.isDigit || isSpecialParameter c then
      skip 1
      return [.parameter (String.singleton c) none .value quoted]
    else return [.text ['$'] quoted]
  | [] => return [.text ['$'] quoted]
where
  substituted : Read Word := do
    skip 1
    let body ← commands
    skipLines
    if ← accept ')' then return [.substitution body quoted]
    if (← rest).isEmpty then fail .openSubstitution
    fail (.unexpected (nextToken (← rest)) (some ")"))

/-- A piece or a few, the first of which is at hand. -/
def piece (commands : Read Command) (pieces : PieceReader) (mode : Mode) (stop : Char → Bool) : Read Word := do
  let quoted := mode.isQuoted
  match ← rest with
  | '\\' :: '\n' :: _ => do
    skip 2
    return []
  | '\\' :: c :: _ =>
    if isProtected mode c then
      skip 2
      return [.text [c] true]
    else
      skip 1
      return [.text ['\\'] true]
  | c :: _ =>
    if !isActive mode c then return [.text (← takeWhile fun c => !isActive mode c && !stop c) quoted]
    else do
      skip 1
      if c = '\'' then return [.text (← quotation '\'') true]
      else if c = '"' then
        let inside ← pieces .double (· == '"')
        if ← accept '"' then return if inside.isEmpty then [.text [] true] else inside
        fail (.unterminated '"')
      else if c = '$' then dollar commands pieces quoted
      else if c = '\x60' then
        match backQuoted? quoted (← rest) with
        | some (inside, later) => do
          let body ← within inside (commands <* skipLines)
          skip ((← rest).length - later.length)
          return [.substitution body quoted]
        | none => fail (.unterminated '\x60')
      else return [.text ['\\'] true]
  | [] => return []

/-- The pieces up to a character that ends them; the limit is the length of the text. -/
def piecesUpTo (commands : Read Command) : Nat → PieceReader
  | 0, _, _ => fail .tooDeep
  | n + 1, mode, stop => do
    match ← rest with
    | [] => return []
    | c :: _ =>
      if stop c then return []
      let first ← piece commands (piecesUpTo commands n) mode stop
      return first ++ (← piecesUpTo commands n mode stop)

/-- A word, which is empty if none comes next. -/
def word (commands : Read Command) : Read Word := do
  piecesUpTo commands (2 * (← rest).length + 2) .plain isMeta

end Read
end JobMatrix.Script
