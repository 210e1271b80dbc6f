import JobMatrix.Text.Search

/-!
JSON documents, and their layout over several lines with an indentation of two spaces.
-/
namespace JobMatrix

inductive JsonValue
  | null
  | bool (b : Bool)
  | number (n : Int)
  | string (s : String)
  | array (items : List JsonValue)
  | object (fields : List (String × JsonValue))

namespace JsonValue

def ofOption (f : α → JsonValue) : Option α → JsonValue
  | some a => f a
  | none => .null

/-- One character of a string. Control characters and the two marks of the notation are escaped. -/
def escapedChar (c : Char) : List Char :=
  match c with
  | '"' => ['\\', '"']
  | '\\' => ['\\', '\\']
  | '\n' => ['\\', 'n']
  | '\r' => ['\\', 'r']
  | '\t' => ['\\', 't']
  | _ =>
    let n := c.toNat
    if n = 8 then ['\\', 'b']
    else if n = 12 then ['\\', 'f']
    else if n < 32 then
      ['\\', 'u', '0', '0', Nat.digitChar (n / 16), Nat.digitChar (n % 16)]
    else [c]

def stringText (s : String) : String :=
  String.ofList ('"' :: s.toList.flatMap escapedChar ++ ['"'])

def lineStart (depth : Nat) : String := "\n" ++ String.ofList (List.replicate (2 * depth) ' ')

mutual

def layout (depth : Nat) : JsonValue → String
  | null => "null"
  | bool b => toString b
  | number n => toString n
  | string s => stringText s
  | array items =>
    match items with
    | [] => "[]"
    | _ :: _ => "[" ++ Text.joinWith "," (layoutItems (depth + 1) items) ++ lineStart depth ++ "]"
  | object fields =>
    match fields with
    | [] => "\x7b\x7d"
    | _ :: _ =>
      "\x7b" ++ Text.joinWith "," (layoutFields (depth + 1) fields) ++ lineStart depth ++ "\x7d"

def layoutItems (depth : Nat) : List JsonValue → List String
  | [] => []
  | v :: rest => (lineStart depth ++ layout depth v) :: layoutItems depth rest

def layoutFields (depth : Nat) : List (String × JsonValue) → List String
  | [] => []
  | (name, v) :: rest =>
    (lineStart depth ++ stringText name ++ ": " ++ layout depth v) :: layoutFields depth rest

end

def pretty (v : JsonValue) : String := v.layout 0

end JsonValue
end JobMatrix
