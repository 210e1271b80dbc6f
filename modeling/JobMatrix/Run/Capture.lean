import JobMatrix.Text.Bytes

/-!
The output of a process as lines. A line ends at a line feed, or at the end of the output if anything is
left there; a carriage return before the line feed belongs to the line's end. A line that is no text ends
the reading.
-/
namespace JobMatrix.Capture

/-- The line that ends at a line feed, without a carriage return at its end. -/
def withoutReturn (line : List Char) : List Char :=
  if line.getLast? = some '\r' then line.dropLast else line

/-- The lines of an output as bytes, `line` being the bytes since the last line feed, the last first. -/
def rawLinesFrom : List Char → List Char → List (List Char)
  | [], [] => []
  | line@(_ :: _), [] => [line.reverse]
  | line, c :: rest =>
    if c = '\n' then withoutReturn line.reverse :: rawLinesFrom [] rest
    else rawLinesFrom (c :: line) rest

def textsOf : List (List Char) → List String
  | [] => []
  | line :: rest =>
    match Text.ofBytes? line with
    | some text => text :: textsOf rest
    | none => []

def linesOf (output : List Char) : List String := textsOf (rawLinesFrom [] output)

/-- A line put behind the text collected so far, after a line break unless nothing is collected. -/
def append (collected line : String) : String :=
  (if collected = "" then "" else collected ++ "\n") ++ line

def collect (lines : List String) : String := lines.foldl append ""

end JobMatrix.Capture
