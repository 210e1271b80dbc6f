import JobMatrix.Text.PrintTable
import JobMatrix.Text.CaseTable

/-!
Texts between double quotes, with every character that cannot be read as it stands written by a
backslash and a letter or by its number in base sixteen.
-/
namespace JobMatrix.Text

def hexDigits (n : Nat) : List Char :=
  Nat.toDigits 16 n

def quotedChar (c : Char) : List Char :=
  match c with
  | '\t' => ['\\', 't']
  | '\r' => ['\\', 'r']
  | '\n' => ['\\', 'n']
  | '"' => ['\\', '"']
  | '\\' => ['\\', '\\']
  | _ =>
    if c.toNat = 0 then ['\\', '0']
    else if covers unprintableRanges c.toNat then
      ['\\', 'u', '\x7b'] ++ hexDigits c.toNat ++ ['\x7d']
    else [c]

def quoted (s : String) : String :=
  String.ofList ('"' :: s.toList.flatMap quotedChar ++ ['"'])

end JobMatrix.Text
