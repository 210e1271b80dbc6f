import JobMatrix.Yaml.Tag

/-!
The tokens of a text, in order. Indentation opens and closes block collections. A token that may turn
out to be a key is remembered by its position; when the colon comes, the key mark is put in front of it,
and so is the start of a mapping if the key begins one.
-/
namespace JobMatrix.Yaml

/-- The tokens of a text up to its end or up to a problem. -/
structure TokenStream where
  tokens : List Token
  problem : Option Problem

/-- A token that is a key if a colon follows it on the line. -/
structure PendingKey where
  position : Nat
  required : Bool
  index : Nat
  line : Nat
  column : Nat

/-- The state between two tokens. `pending` has an entry for the block context and one for each open flow
collection, the innermost first; `indents` holds the columns outside the current one. -/
structure Scanner where
  cursor : Cursor
  tokens : Array Token
  indent : Int
  indents : List Int
  pending : List (Option PendingKey)
  keyAllowed : Bool

namespace Scanner

def start (text : List Char) : Scanner :=
  ⟨.start text, #[], -1, [], [none], true⟩

def inFlow (s : Scanner) : Bool := s.pending.length != 1

def add (s : Scanner) (token : Token) : Scanner :=
  { s with tokens := s.tokens.push token }

/-- The state with a token put before the one at a position. -/
def addAt (s : Scanner) (position : Nat) (token : Token) : Scanner :=
  { s with
    tokens := s.tokens.extract 0 position ++ #[token] ++ s.tokens.extract position s.tokens.size }

def take (s : Scanner) (n : Nat) (token : Token) : Scanner :=
  { s.add token with cursor := s.cursor.skip n }

/-- A pending key too far back to be one. -/
def isStale (c : Cursor) (key : PendingKey) : Bool :=
  key.line < c.line || key.index + 1024 < c.index

/-- Pending keys without those too far back; a required one must not be among them. -/
def dropStale (s : Scanner) : Except Problem Scanner :=
  let stale := isStale s.cursor
  if s.pending.any (·.any fun key => stale key && key.required) then .error .missingColon
  else .ok { s with pending := s.pending.map (·.filter (!stale ·)) }

def dropKey (s : Scanner) : Except Problem Scanner :=
  match s.pending with
  | some key :: rest =>
    if key.required then .error .missingColon else .ok { s with pending := none :: rest }
  | _ => .ok s

/-- The next token is remembered as a possible key. -/
def noteKey (s : Scanner) : Except Problem Scanner :=
  if !s.keyAllowed then .ok s
  else do
    let s ← s.dropKey
    let required := !s.inFlow && s.indent == (s.cursor.column : Int)
    let key : PendingKey :=
      ⟨s.tokens.size, required, s.cursor.index, s.cursor.line, s.cursor.column⟩
    return { s with pending := some key :: s.pending.drop 1 }

/-- Block collections indented deeper than a column are closed. -/
def closeTo (column : Int) (s : Scanner) : List Int → Scanner
  | [] => s
  | outer :: rest =>
    if column < s.indent then
      closeTo column { s.add .blockEnd with indent := outer, indents := rest } rest
    else s

/-- Block collections indented deeper than a column are closed, unless a flow collection is open. -/
def unroll (s : Scanner) (column : Int) : Scanner :=
  if s.inFlow then s else s.closeTo column s.indents

/-- A block collection is opened at a column deeper than the current one, its start put at a position. -/
def roll (s : Scanner) (column position : Nat) (token : Token) : Scanner :=
  if s.inFlow || (column : Int) ≤ s.indent then s
  else { s.addAt position token with indent := column, indents := s.indent :: s.indents }

/-- Past spacing, comments and breaks. Tabs count as spacing where no key may start or in a flow
collection; a break lets a key start in block context. -/
def toNextToken : Nat → Scanner → Scanner
  | 0, s => s
  | steps + 1, s =>
    let blank := fun (ch : Char) => ch == ' ' || (ch == '\t' && (s.inFlow || !s.keyAllowed))
    let c := (s.cursor.run blank).2
    let c := if c.rest.head? = some '#' then c.skipToBreak else c
    match c.lineBreak? with
    | some (_, next) =>
      toNextToken steps { s with cursor := next, keyAllowed := s.keyAllowed || !s.inFlow }
    | none => { s with cursor := c }

/-- A directive or document mark ends all block collections. -/
def atLineStart (s : Scanner) : Except Problem Scanner := do
  let s ← (s.unroll (-1)).dropKey
  return { s with keyAllowed := false }

def openFlow (s : Scanner) (token : Token) : Except Problem Scanner := do
  let s ← s.noteKey
  return { s.take 1 token with pending := none :: s.pending, keyAllowed := true }

def closeFlow (s : Scanner) (token : Token) : Except Problem Scanner := do
  let s ← s.dropKey
  let pending := if s.inFlow then s.pending.drop 1 else s.pending
  return { s.take 1 token with pending, keyAllowed := false }

def flowEntry (s : Scanner) : Except Problem Scanner := do
  let s ← s.dropKey
  return { s.take 1 .flowEntry with keyAllowed := true }

/-- An entry or key mark may open a block collection, and only where a key may start. -/
def openBlock (s : Scanner) (problem : Problem) (token : Token) : Except Problem Scanner :=
  if s.inFlow then .ok s
  else if !s.keyAllowed then .error problem
  else .ok (s.roll s.cursor.column s.tokens.size token)

def blockEntry (s : Scanner) : Except Problem Scanner := do
  let s ← (← s.openBlock .misplacedEntry .blockSequenceStart).dropKey
  return { s.take 1 .blockEntry with keyAllowed := true }

def keyMark (s : Scanner) : Except Problem Scanner := do
  let s ← (← s.openBlock .misplacedKey .blockMappingStart).dropKey
  return { s.take 1 .key with keyAllowed := !s.inFlow }

/-- A colon makes the pending key one; without a pending key the value stands for itself. -/
def valueMark (s : Scanner) : Except Problem Scanner :=
  match s.pending with
  | some key :: rest =>
    let s := (s.addAt key.position .key).roll key.column key.position .blockMappingStart
    .ok { s.take 1 .value with pending := none :: rest, keyAllowed := false }
  | _ => do
    let s ← s.openBlock .misplacedValue .blockMappingStart
    return { s.take 1 .value with keyAllowed := !s.inFlow }

def named (s : Scanner) (token : String → Token) : Except Problem Scanner := do
  let s ← s.noteKey
  let (name, c) ← anchorName s.cursor
  return { s.add (token name) with cursor := c, keyAllowed := false }

def tagged (s : Scanner) : Except Problem Scanner := do
  let s ← s.noteKey
  let (token, c) ← tagAt s.inFlow s.cursor
  return { s.add token with cursor := c, keyAllowed := false }

def block (s : Scanner) (style : Style) : Except Problem Scanner := do
  let s ← s.dropKey
  let (text, c) ← blockScalar (style == .literal) s.indent s.cursor
  return { s.add (.scalar (String.ofList text) style) with cursor := c, keyAllowed := true }

def quotedToken (s : Scanner) (style : Style) : Except Problem Scanner := do
  let s ← s.noteKey
  let (text, c) ← quotedScalar (style == .singleQuoted) s.cursor
  return { s.add (.scalar (String.ofList text) style) with cursor := c, keyAllowed := false }

/-- A plain scalar; one that ends with its line lets a key start. -/
def plainToken (s : Scanner) : Except Problem Scanner := do
  let s ← s.noteKey
  let read ← plainScalar s.inFlow (s.indent + 1).toNat s.cursor
  let passedLine := match read.gap with
    | .breaks .. => true
    | .spacing _ => false
  return { s.add (.scalar (String.ofList read.text) .plain) with
    cursor := read.after, keyAllowed := passedLine }

/-- Whether a plain scalar may start with a character, the rest of the text being given. -/
def startsPlain (flow : Bool) (ch : Char) (rest : List Char) : Bool :=
  let marks := ['-', '?', ':', ',', '[', ']', '\x7b', '\x7d', '#', '&', '*', '!', '|', '>', '\'', '"', '%',
    '@', '\x60']
  !(isSpacing ch || isBreak ch || ch ∈ marks) || (ch == '-' && !rest.head?.any isSpacing) ||
    (!flow && (ch == '?' || ch == ':') && !endsWord rest)

/-- The next token at a place where one starts. -/
def next (s : Scanner) : Except Problem Scanner :=
  let flow := s.inFlow
  let c := s.cursor
  match c.rest with
  | [] => .ok s
  | ch :: rest =>
    if c.column = 0 ∧ ch = '%' then do
      let s ← s.atLineStart
      let (token, c) ← directiveAt s.cursor
      return { s.add token with cursor := c }
    else if c.atMark ['-', '-', '-'] then do return (← s.atLineStart).take 3 .documentStart
    else if c.atMark ['.', '.', '.'] then do return (← s.atLineStart).take 3 .documentEnd
    else if ch = '[' then s.openFlow .flowSequenceStart
    else if ch = '\x7b' then s.openFlow .flowMappingStart
    else if ch = ']' then s.closeFlow .flowSequenceEnd
    else if ch = '\x7d' then s.closeFlow .flowMappingEnd
    else if ch = ',' then s.flowEntry
    else if ch = '-' ∧ endsWord rest then s.blockEntry
    else if ch = '?' ∧ (flow ∨ endsWord rest) then s.keyMark
    else if ch = ':' ∧ (flow ∨ endsWord rest) then s.valueMark
    else if ch = '*' then s.named .alias
    else if ch = '&' then s.named .anchor
    else if ch = '!' then s.tagged
    else if ch = '|' ∧ !flow then s.block .literal
    else if ch = '>' ∧ !flow then s.block .folded
    else if ch = '\'' then s.quotedToken .singleQuoted
    else if ch = '"' then s.quotedToken .doubleQuoted
    else if startsPlain flow ch rest then s.plainToken
    else .error .badTokenStart

/-- The tokens that no colon to come can put a key mark before. -/
def settled (s : Scanner) : List Token :=
  let waiting := s.pending.filterMap fun key => key.filter (!isStale s.cursor ·)
  (s.tokens.extract 0 (waiting.foldl (fun n key => min n key.position) s.tokens.size)).toList

/-- One token, or the end of the text: then the second component is true. -/
def advance (s : Scanner) : Except Problem (Scanner × Bool) := do
  let s ← (s.toNextToken (s.cursor.rest.length + 1)).dropStale
  let s := s.unroll s.cursor.column
  if s.cursor.atEnd then return (← (s.unroll (-1)).dropKey, true)
  return (← s.next, false)

def finish : Nat → Scanner → TokenStream
  | 0, s => ⟨s.settled, some .outOfSteps⟩
  | steps + 1, s =>
    match s.advance with
    | .ok (t, true) => ⟨t.tokens.toList, none⟩
    | .ok (t, false) => finish steps t
    | .error problem => ⟨s.settled, some problem⟩

end Scanner

/-- The tokens of a text, which may start with a byte-order mark. -/
def TokenStream.ofText (text : String) : TokenStream :=
  let chars := match text.toList with
    | c :: rest => if c.toNat = 0xFEFF then rest else c :: rest
    | [] => []
  if chars.all isAllowed then (Scanner.start chars).finish (chars.length + 1)
  else ⟨[], some .forbiddenCharacter⟩

end JobMatrix.Yaml
