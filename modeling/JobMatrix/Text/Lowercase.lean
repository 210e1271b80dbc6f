import JobMatrix.Text.CaseTable

/-!
Texts in lower case. One letter depends on its neighbours: a capital sigma becomes the final form at
the end of a word, that is after a cased letter and before none.
-/
namespace JobMatrix.Text

def lowerLetter (c : Char) : List Char :=
  if c.toNat = 0x130 then ['i', Char.ofNat 0x307]
  else match caseRuns.find? (·.holds c.toNat) with
    | some run => [Char.ofNat (c.toNat + run.shift).toNat]
    | none => [c]

/-- Whether the nearest character that is not passed over is cased. -/
def meetsCased : List Char → Bool
  | [] => false
  | c :: s =>
    if covers passedOverRanges c.toNat then meetsCased s else covers casedRanges c.toNat

/-- Lower case for a text whose preceding part, reversed, is `before`. -/
def lowerFrom (before : List Char) : List Char → List Char
  | [] => []
  | c :: s =>
    let letter :=
      if c.toNat = 0x3A3 then
        if meetsCased before && !meetsCased s then [Char.ofNat 0x3C2] else [Char.ofNat 0x3C3]
      else lowerLetter c
    letter ++ lowerFrom (c :: before) s

def lowercase (s : String) : String :=
  String.ofList (lowerFrom [] s.toList)

end JobMatrix.Text
