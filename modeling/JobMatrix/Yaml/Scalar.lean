import JobMatrix.Text.Digits
import JobMatrix.Yaml.Cursor

/-!
Reading scalars: plain, quoted and block ones. Inside a scalar a single line break reads as a space and
further ones are kept; in a literal block every break is kept. Each function takes a bound on its steps,
which the length of the text provides.
-/
namespace JobMatrix.Yaml

/-- What lies between two words of a scalar: spacing within a line, or breaks. -/
inductive Gap
  | spacing (text : List Char)
  | breaks (first more : List Char)

/-- A gap as the scalar reads it. -/
def Gap.text : Gap → List Char
  | spacing text => text
  | breaks first more =>
    if first = ['\n'] then (if more = [] then [' '] else more) else first ++ more

/-- Extends a gap over spacing and breaks. `indent` is the column before which a tab is refused. -/
def readGap (indent : Nat) : Nat → Gap → Cursor → Except Problem (Gap × Cursor)
  | 0, _, _ => .error .outOfSteps
  | steps + 1, gap, c =>
    match c.rest with
    | [] => .ok (gap, c)
    | ch :: _ =>
      if isSpacing ch then
        match gap with
        | .spacing text => readGap indent steps (.spacing (text ++ [ch])) (c.skip 1)
        | .breaks .. =>
          if ch = '\t' ∧ c.column < indent then .error .tabIndentation
          else readGap indent steps gap (c.skip 1)
      else
        match c.lineBreak? with
        | none => .ok (gap, c)
        | some (text, next) =>
          match gap with
          | .spacing _ => readGap indent steps (.breaks text []) next
          | .breaks first more => readGap indent steps (.breaks first (more ++ text)) next

def gapAt (indent : Nat) (c : Cursor) : Except Problem (Gap × Cursor) :=
  readGap indent (c.rest.length + 1) (.spacing []) c

/-- The characters of a plain scalar up to spacing, a break or an indicator. -/
def plainWord (flow : Bool) : List Char → Except Problem (List Char)
  | [] => .ok []
  | c :: s =>
    let indicators := [',', '[', ']', '\x7b', '\x7d']
    if isSpacing c || isBreak c then .ok []
    else if flow && c == ':' && s.head?.any (fun d => d ∈ '?' :: indicators) then .error .strayColon
    else if (c == ':' && endsWord s) || (flow && c ∈ indicators) then .ok []
    else return c :: (← plainWord flow s)

/-- A plain scalar as far as it was read: its text, the gap after it, and the place after the gap. -/
structure PlainRead where
  text : List Char
  gap : Gap
  after : Cursor

/-- Words and the gaps between them, up to an indicator, a comment or a line indented less. -/
def readPlain (flow : Bool) (indent : Nat) : Nat → PlainRead → Except Problem PlainRead
  | 0, _ => .error .outOfSteps
  | steps + 1, read => do
    if read.after.atDocumentMark || read.after.rest.head? == some '#' then return read
    let word ← plainWord flow read.after.rest
    if word = [] then return read
    let text := read.text ++ read.gap.text ++ word
    let c := read.after.skip word.length
    if c.atEnd || !c.atWordEnd then return ⟨text, .spacing [], c⟩
    let (gap, c) ← gapAt indent c
    let read := ⟨text, gap, c⟩
    if !flow && c.column < indent then return read
    readPlain flow indent steps read

def plainScalar (flow : Bool) (indent : Nat) (c : Cursor) : Except Problem PlainRead :=
  readPlain flow indent (c.rest.length + 1) ⟨[], .spacing [], c⟩

def charOf? (n : Nat) : Option Char :=
  if (0xD800 ≤ n ∧ n ≤ 0xDFFF) ∨ 0x10FFFF < n then none else some (Char.ofNat n)

/-- The character for an escape letter that needs no digits. -/
def escaped? : Char → Option Char
  | '0' => some (Char.ofNat 0)
  | 'a' => some (Char.ofNat 7)
  | 'b' => some (Char.ofNat 8)
  | 't' | '\t' => some '\t'
  | 'n' => some '\n'
  | 'v' => some (Char.ofNat 11)
  | 'f' => some (Char.ofNat 12)
  | 'r' => some '\r'
  | 'e' => some (Char.ofNat 27)
  | ' ' => some ' '
  | '"' => some '"'
  | '/' => some '/'
  | '\\' => some '\\'
  | 'N' => some (Char.ofNat 0x85)
  | '_' => some (Char.ofNat 0xA0)
  | 'L' => some (Char.ofNat 0x2028)
  | 'P' => some (Char.ofNat 0x2029)
  | _ => none

/-- How many digits in base sixteen follow an escape letter. -/
def escapeDigits? : Char → Option Nat
  | 'x' => some 2
  | 'u' => some 4
  | 'U' => some 8
  | _ => none

/-- The character that an escape stands for, and the number of characters after the backslash. -/
def escape (s : List Char) : Except Problem (Char × Nat) :=
  match s with
  | [] => .error .malformedEscape
  | c :: rest =>
    match escaped? c, escapeDigits? c with
    | some e, _ => .ok (e, 1)
    | none, some n =>
      let digits := rest.take n
      if digits.length < n then .error .malformedEscape
      else match (Text.naturalIn? 16 digits).bind charOf? with
        | some e => .ok (e, n + 1)
        | none => .error .malformedEscape
    | none, none => .error .malformedEscape

/-- Characters between quotes up to spacing, a break or the closing quote; the last component says
whether an escaped break was passed. -/
def quotedWord (single : Bool) : Nat → List Char → Cursor → Except Problem (List Char × Cursor × Bool)
  | 0, _, _ => .error .outOfSteps
  | steps + 1, word, c =>
    match c.rest with
    | [] => .ok (word.reverse, c, false)
    | ch :: rest =>
      if isSpacing ch || isBreak ch then .ok (word.reverse, c, false)
      else if single && ch == '\'' then
        if rest.head? = some '\'' then quotedWord single steps ('\'' :: word) (c.skip 2)
        else .ok (word.reverse, c, false)
      else if !single && ch == '"' then .ok (word.reverse, c, false)
      else if !single && ch == '\\' then
        match (c.skip 1).lineBreak? with
        | some (_, next) => .ok (word.reverse, next, true)
        | none => do
          let (e, n) ← escape rest
          quotedWord single steps (e :: word) (c.skip (n + 1))
      else quotedWord single steps (ch :: word) (c.skip 1)

/-- The rest of a quoted scalar after some of its text. -/
def readQuoted (single : Bool) : Nat → List Char → Cursor → Except Problem (List Char × Cursor)
  | 0, _, _ => .error .outOfSteps
  | steps + 1, text, c => do
    if c.atDocumentMark then throw .markInsideQuote
    if c.atEnd then throw .unclosedQuote
    let (word, c, escapedBreak) ← quotedWord single (c.rest.length + 1) [] c
    if c.rest.head? = some (if single then '\'' else '"') then return (text ++ word, c.skip 1)
    let (gap, c) ← readGap 0 (c.rest.length + 1) (if escapedBreak then .breaks [] [] else .spacing []) c
    readQuoted single steps (text ++ word ++ gap.text) c

def quotedScalar (single : Bool) (c : Cursor) : Except Problem (List Char × Cursor) :=
  readQuoted single (c.rest.length + 1) [] (c.skip 1)

/-- What a block scalar keeps of the breaks at its end. -/
inductive Chomping
  | strip
  | clip
  | keep
  deriving DecidableEq

def chompingOf? : Char → Option Chomping
  | '-' => some .strip
  | '+' => some .keep
  | _ => none

def indentIndicator? (c : Cursor) : Except Problem (Option Nat × Cursor) :=
  match c.rest with
  | d :: _ =>
    if d = '0' then .error .malformedBlockHeader
    else if d.isDigit then .ok (some (d.toNat - 0x30), c.skip 1)
    else .ok (none, c)
  | [] => .ok (none, c)

/-- Chomping and indentation indicators in either order. -/
def blockHeader (c : Cursor) : Except Problem (Chomping × Option Nat × Cursor) := do
  match c.rest.head?.bind chompingOf? with
  | some chomping =>
    let (increment, c) ← indentIndicator? (c.skip 1)
    return (chomping, increment, c)
  | none =>
    let (increment, c) ← indentIndicator? c
    match increment, c.rest.head?.bind chompingOf? with
    | some _, some chomping => return (chomping, increment, c.skip 1)
    | _, _ => return (.clip, increment, c)

/-- Empty lines before a line of a block, the greatest column they reach, and the place after them.
Without a known indentation all spaces are passed. -/
def blockBreaks (indent : Option Nat) : Nat → List Char → Nat → Cursor →
    Except Problem (List Char × Nat × Cursor)
  | 0, _, _, _ => .error .outOfSteps
  | steps + 1, breaks, reach, c =>
    let spaces := (c.rest.takeWhile (· == ' ')).length
    let c := c.skip (match indent with | some n => min spaces (n - c.column) | none => spaces)
    let reach := max reach c.column
    if c.rest.head? = some '\t' ∧ indent.all (c.column < ·) then .error .tabIndentation
    else match c.lineBreak? with
      | some (text, next) => blockBreaks indent steps (breaks ++ text) reach next
      | none => .ok (breaks, reach, c)

/-- A block scalar as far as it was read: its text, the last line's break, and the empty lines after. -/
structure BlockRead where
  text : List Char
  lineBreak : List Char
  emptyLines : List Char
  startsBlank : Bool
  after : Cursor

/-- The lines of a block with a known indentation. In a folded block the break between two lines that
start with no spacing reads as a space, or as nothing before empty lines. -/
def readBlock (literal : Bool) (indent : Nat) : Nat → BlockRead → Except Problem BlockRead
  | 0, _ => .error .outOfSteps
  | steps + 1, read => do
    let c := read.after
    if c.column ≠ indent || c.atEnd then return read
    let blank := c.rest.head?.any isSpacing
    let joint :=
      if !literal && read.lineBreak == ['\n'] && !read.startsBlank && !blank then
        if read.emptyLines = [] then [' '] else []
      else read.lineBreak
    let (line, c) := c.run (!isBreak ·)
    let (lineBreak, c) := c.lineBreak?.getD ([], c)
    let (emptyLines, _, c) ← blockBreaks (some indent) (c.rest.length + 1) [] 0 c
    readBlock literal indent steps
      ⟨read.text ++ joint ++ read.emptyLines ++ line, lineBreak, emptyLines, blank, c⟩

/-- The block scalar whose indicator is at a place, inside a block indented by `outer`. -/
def blockScalar (literal : Bool) (outer : Int) (c : Cursor) : Except Problem (List Char × Cursor) := do
  let (chomping, increment, c) ← blockHeader (c.skip 1)
  let c ← endOfLine .malformedBlockHeader c
  let known := increment.map fun n => (max outer 0).toNat + n
  let (emptyLines, reach, c) ← blockBreaks known (c.rest.length + 1) [] 0 c
  let indent := known.getD (max (max reach (outer + 1).toNat) 1)
  let read ← readBlock literal indent (c.rest.length + 1) ⟨[], [], emptyLines, false, c⟩
  let text := match chomping with
    | .strip => read.text
    | .clip => read.text ++ read.lineBreak
    | .keep => read.text ++ read.lineBreak ++ read.emptyLines
  return (text, read.after)

end JobMatrix.Yaml
