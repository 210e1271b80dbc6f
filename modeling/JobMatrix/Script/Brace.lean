import JobMatrix.Script.Command
import JobMatrix.Text.Digits

/-!
Braces in words of the extended dialect: alternatives between commas, and sequences between two dots.
-/
namespace JobMatrix.Script
namespace Brace

/-- A character that may be part of a brace, or a piece that may not. -/
inductive Item
  | char (c : Char)
  | piece (p : Piece)

def Item.is (c : Char) : Item → Bool
  | char d => c == d
  | piece _ => false

def itemsOf (w : Word) : List Item :=
  w.flatMap fun
    | .text s false => s.map .char
    | p => [.piece p]

/-- The word of items, with neighbouring characters in one piece. -/
def wordOf : List Item → Word
  | [] => []
  | .piece p :: rest => p :: wordOf rest
  | .char c :: rest =>
    match wordOf rest with
    | .text s false :: later => .text (c :: s) false :: later
    | later => .text [c] false :: later

/-- What stands before the closing brace, cut at the commas outside of inner braces, and what follows it. -/
def partsOf? : Nat → List Item → Option (List (List Item) × List Item)
  | _, [] => none
  | depth, item :: rest =>
    if depth = 0 ∧ item.is '}' then some ([[]], rest)
    else if depth = 0 ∧ item.is ',' then (partsOf? 0 rest).map fun (parts, after) => ([] :: parts, after)
    else
      let depth := if item.is '{' then depth + 1 else if item.is '}' then depth - 1 else depth
      (partsOf? depth rest).map fun
        | (part :: parts, after) => ((item :: part) :: parts, after)
        | ([], after) => ([[item]], after)

def integer? : List Char → Option Int
  | '-' :: s => (Text.naturalIn? 10 s).map fun n => -(n : Int)
  | '+' :: s => (Text.naturalIn? 10 s).map Int.ofNat
  | s => (Text.naturalIn? 10 s).map Int.ofNat

/-- The numbers from one on in steps of a size, in the direction of the other end. -/
def stepped (start stop : Int) (step : Nat) : List Int :=
  let step := if step = 0 then 1 else step
  let count := (stop - start).natAbs / step + 1
  (List.range (min count 100000)).map fun i =>
    if start ≤ stop then start + (i * step : Nat) else start - (i * step : Nat)

def dotted : List Char → List (List Char)
  | [] => [[]]
  | '.' :: '.' :: rest => [] :: dotted rest
  | c :: rest =>
    match dotted rest with
    | part :: parts => (c :: part) :: parts
    | [] => [[c]]

def padded (width : Nat) (n : Int) : List Char :=
  let digits := (toString n.natAbs).toList
  let sign := if n < 0 then ['-'] else []
  sign ++ List.replicate (width - digits.length - sign.length) '0' ++ digits

def hasLeadingZero (s : List Char) : Bool :=
  match s.dropWhile (· == '-') with
  | '0' :: _ :: _ => true
  | _ => false

def sequence? (inside : List Char) : Option (List (List Char)) := do
  let (first, last, step) ← match dotted inside with
    | [a, b] => some (a, b, 1)
    | [a, b, c] => (integer? c).map fun n => (a, b, n.natAbs)
    | _ => none
  match first, last with
  | [a], [b] =>
    if a.isAlpha && b.isAlpha then
      return (stepped a.toNat b.toNat step).map fun n => [Char.ofNat n.toNat]
  | _, _ => pure ()
  let start ← integer? first
  let stop ← integer? last
  let width := if hasLeadingZero first || hasLeadingZero last then max first.length last.length else 0
  return (stepped start stop step).map (padded width)

def charsOf? (items : List Item) : Option (List Char) :=
  items.mapM fun
    | .char c => some c
    | .piece _ => none

/-- Every word that items with braces stand for; the limit is the number of items. -/
def expandUpTo : Nat → List Item → List (List Item)
  | 0, items => [items]
  | _ + 1, [] => [[]]
  | n + 1, item :: rest =>
    let plain := fun (_ : Unit) => (expandUpTo n rest).map (item :: ·)
    if !item.is '{' then plain ()
    else match partsOf? 0 rest with
      | none => plain ()
      | some (parts, after) =>
        let alternatives : Option (List (List Item)) := match parts with
          | [part] => ((charsOf? part).bind sequence?).map fun texts => texts.map fun s => s.map .char
          | _ => some (parts.flatMap (expandUpTo n))
        match alternatives with
        | none => plain ()
        | some alternatives =>
          let tails := expandUpTo n after
          alternatives.flatMap fun a => tails.map (a ++ ·)

end Brace

def bracedWords (w : Word) : List Word :=
  let items := Brace.itemsOf w
  (Brace.expandUpTo (items.length + 1) items).map Brace.wordOf

end JobMatrix.Script
