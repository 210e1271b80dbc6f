import JobMatrix.Yaml.Problem

/-!
Places in a YAML text. A cursor holds what is still to be read, and counts characters, lines and columns.
-/
namespace JobMatrix.Yaml

def isSpacing (c : Char) : Bool := c == ' ' || c == '\t'

def isBreak (c : Char) : Bool :=
  c == '\n' || c == '\r' || c.toNat == 0x85 || c.toNat == 0x2028 || c.toNat == 0x2029

/-- A character of names: a letter or digit of ASCII, a hyphen or an underscore. -/
def isNameChar (c : Char) : Bool := c.isAlphanum || c == '-' || c == '_'

/-- A character that may occur in a text. -/
def isAllowed (c : Char) : Bool :=
  let n := c.toNat
  n == 0x09 || n == 0x0A || n == 0x0D || (0x20 ≤ n && n ≤ 0x7E) || n == 0x85 ||
    (0xA0 ≤ n && n ≤ 0xD7FF) || (0xE000 ≤ n && n ≤ 0xFFFD && n != 0xFEFF) ||
    (0x10000 ≤ n && n ≤ 0x10FFFF)

/-- Whether a word is over: at spacing, at a break and at the end of the text. -/
def endsWord : List Char → Bool
  | [] => true
  | c :: _ => isSpacing c || isBreak c

/-- A place in a text. -/
structure Cursor where
  rest : List Char
  index : Nat
  line : Nat
  column : Nat

namespace Cursor

def start (text : List Char) : Cursor := ⟨text, 0, 0, 0⟩

/-- Past `n` characters of the line. -/
def skip (c : Cursor) (n : Nat) : Cursor :=
  { c with rest := c.rest.drop n, index := c.index + n, column := c.column + n }

/-- The longest run of characters with a property, none of them a break, and the place after it. -/
def run (c : Cursor) (p : Char → Bool) : List Char × Cursor :=
  let s := c.rest.takeWhile p
  (s, c.skip s.length)

def skipSpacing (c : Cursor) : Cursor := (c.run isSpacing).2

/-- Past the rest of the line, up to its break. -/
def skipToBreak (c : Cursor) : Cursor := (c.run (!isBreak ·)).2

/-- The break at this place as text keeps it, and the start of the next line. A carriage return, alone
or with a line feed, and the next-line character are kept as a line feed. -/
def lineBreak? (c : Cursor) : Option (List Char × Cursor) :=
  let next := fun (n : Nat) (rest : List Char) => (⟨rest, c.index + n, c.line + 1, 0⟩ : Cursor)
  match c.rest with
  | '\r' :: '\n' :: rest => some (['\n'], next 2 rest)
  | ch :: rest =>
    if !isBreak ch then none
    else if ch.toNat = 0x2028 ∨ ch.toNat = 0x2029 then some ([ch], next 1 rest)
    else some (['\n'], next 1 rest)
  | [] => none

def skipBreak (c : Cursor) : Cursor :=
  match c.lineBreak? with
  | some (_, next) => next
  | none => c

/-- Whether the line starts here with three given characters that form a word. -/
def atMark (c : Cursor) (mark : List Char) : Bool :=
  c.column == 0 && mark.isPrefixOf c.rest && endsWord (c.rest.drop mark.length)

def atDocumentMark (c : Cursor) : Bool :=
  c.atMark ['-', '-', '-'] || c.atMark ['.', '.', '.']

def atEnd (c : Cursor) : Bool := c.rest.isEmpty

def atWordEnd (c : Cursor) : Bool := endsWord c.rest

def atLineEnd (c : Cursor) : Bool :=
  match c.rest with
  | [] => true
  | ch :: _ => isBreak ch

end Cursor

/-- Past spacing, a comment and the break of a line that must hold nothing else. -/
def endOfLine (problem : Problem) (c : Cursor) : Except Problem Cursor :=
  let c := c.skipSpacing
  let c := if c.rest.head? = some '#' then c.skipToBreak else c
  if c.atLineEnd then .ok c.skipBreak else .error problem

end JobMatrix.Yaml
