import JobMatrix.Yaml.Scalar
import JobMatrix.Yaml.Token

/-!
Reading directives, tags and the names of anchors.
-/
namespace JobMatrix.Yaml

/-- The marks that may occur in a tag beside letters, digits, hyphens and underscores. -/
def tagMarks : List Char :=
  [';', '/', '?', ':', '@', '&', '=', '+', '$', '.', '%', '!', '~', '*', '\'', '(', ')']

/-- The marks of collections, allowed in tags between angle brackets and in directives only. -/
def collectionMarks : List Char := [',', '[', ']']

/-- The number of bytes of the character that starts with a byte. -/
def encodedLength? (byte : Nat) : Option Nat :=
  if byte < 0x80 then some 1
  else if 0xC0 ≤ byte ∧ byte < 0xE0 then some 2
  else if 0xE0 ≤ byte ∧ byte < 0xF0 then some 3
  else if 0xF0 ≤ byte ∧ byte < 0xF8 then some 4
  else none

/-- The byte written by a percent sign and two digits in base sixteen. -/
def percentByte? : List Char → Option Nat
  | '%' :: a :: b :: _ => Text.naturalIn? 16 [a, b]
  | _ => none

/-- The following bytes of a character, each written with a percent sign. -/
def percentTail? : Nat → List Char → Option (List Nat)
  | 0, _ => some []
  | n + 1, s => do
    let byte ← percentByte? s
    if byte < 0x80 || 0xC0 ≤ byte then none
    return byte :: (← percentTail? n (s.drop 3))

/-- A character written byte by byte with percent signs, and the number of its bytes. -/
def percentChar? (s : List Char) : Option (Char × Nat) := do
  let lead ← percentByte? s
  let count ← encodedLength? lead
  let tail ← percentTail? (count - 1) (s.drop 3)
  let bytes := ByteArray.mk ((lead :: tail).map (·.toUInt8)).toArray
  let text ← String.fromUTF8? bytes
  let char ← text.toList.head?
  return (char, count)

def tagText (allowed : List Char) : Nat → List Char → Cursor → Except Problem (List Char × Cursor)
  | 0, _, _ => .error .outOfSteps
  | steps + 1, read, c =>
    match c.rest with
    | '%' :: _ =>
      match percentChar? c.rest with
      | some (char, count) => tagText allowed steps (char :: read) (c.skip (3 * count))
      | none => .error .malformedTag
    | ch :: _ =>
      if isNameChar ch || ch ∈ allowed then tagText allowed steps (ch :: read) (c.skip 1)
      else .ok (read.reverse, c)
    | [] => .ok (read.reverse, c)

def tagTextAt (allowed : List Char) (c : Cursor) : Except Problem (List Char × Cursor) :=
  tagText allowed (c.rest.length + 1) [] c

/-- An exclamation mark, and a name closed by a second one if it is there. -/
def tagHandle (c : Cursor) : Except Problem (List Char × Cursor) :=
  if c.rest.head? ≠ some '!' then .error .malformedTag
  else
    let (name, c) := (c.skip 1).run isNameChar
    if c.rest.head? = some '!' then .ok ('!' :: name ++ ['!'], c.skip 1) else .ok ('!' :: name, c)

/-- Whether a handle is one: a single mark, or a name between two. -/
def isHandle (handle : List Char) : Bool :=
  2 ≤ handle.length && handle.getLast? == some '!'

/-- The tag at a place, as a handle and the part after it. A tag between angle brackets and the tag that
is a single mark have no handle. -/
def tagAt (flow : Bool) (c : Cursor) : Except Problem (Token × Cursor) := do
  let (handle, suffix, c) ←
    if ['!', '<'].isPrefixOf c.rest then do
      let (text, c) ← tagTextAt (tagMarks ++ collectionMarks) (c.skip 2)
      if text = [] ∨ c.rest.head? ≠ some '>' then throw Problem.malformedTag
      pure ([], text, c.skip 1)
    else do
      let (handle, c) ← tagHandle c
      let (text, c) ← tagTextAt tagMarks c
      if isHandle handle then
        if text = [] then throw Problem.malformedTag
        pure (handle, text, c)
      else
        let text := handle.drop 1 ++ text
        pure (if text = [] then ([], ['!'], c) else (['!'], text, c))
  if c.atWordEnd || (flow && c.rest.head? == some ',') then
    return (.tag (String.ofList handle) (String.ofList suffix), c)
  throw .malformedTag

/-- The name of an anchor or alias after its mark. -/
def anchorName (c : Cursor) : Except Problem (String × Cursor) :=
  let (name, c) := (c.skip 1).run isNameChar
  let closers := ['?', ':', ',', ']', '\x7d', '%', '@', '\x60']
  if name ≠ [] ∧ (c.atWordEnd ∨ c.rest.head?.any (· ∈ closers)) then .ok (String.ofList name, c)
  else .error .malformedAnchor

def versionNumber (c : Cursor) : Except Problem (Nat × Cursor) :=
  let (digits, c) := c.run Char.isDigit
  if digits = [] ∨ 9 < digits.length then .error .malformedDirective
  else .ok (digits.foldl (fun n d => 10 * n + (d.toNat - 0x30)) 0, c)

/-- The directive at a place, to the end of its line. -/
def directiveAt (c : Cursor) : Except Problem (Token × Cursor) := do
  let (name, c) := (c.skip 1).run isNameChar
  if name = [] ∨ !c.atWordEnd then throw .malformedDirective
  let (token, c) ←
    if name = "YAML".toList then do
      let (major, c) ← versionNumber c.skipSpacing
      if c.rest.head? ≠ some '.' then throw Problem.malformedDirective
      let (minor, c) ← versionNumber (c.skip 1)
      pure (Token.versionDirective major minor, c)
    else if name = "TAG".toList then do
      let (handle, c) ← tagHandle c.skipSpacing
      if ¬ (isHandle handle ∨ handle = ['!']) ∨ !c.rest.head?.any isSpacing then
        throw Problem.malformedDirective
      let (stem, c) ← tagTextAt (tagMarks ++ collectionMarks) c.skipSpacing
      if stem = [] ∨ !c.atWordEnd then throw Problem.malformedDirective
      pure (Token.tagDirective (String.ofList handle) (String.ofList stem), c)
    else throw Problem.unknownDirective
  return (token, ← endOfLine .malformedDirective c)

end JobMatrix.Yaml
