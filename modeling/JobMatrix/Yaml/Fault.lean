import JobMatrix.Text.Quoted
import JobMatrix.Text.Search
import JobMatrix.Yaml.Plain

/-!
Why a well-formed document does not have the expected shape.
-/
namespace JobMatrix.Yaml

inductive Found
  | plain (value : Plain)
  | sequence
  | map

def Found.message : Found → String
  | plain .null => "unit value"
  | plain (.bool b) => "boolean \x60" ++ toString b ++ "\x60"
  | plain (.int n) => "integer \x60" ++ toString n ++ "\x60"
  | plain (.wideInt n) => "integer \x60" ++ toString n ++ "\x60 as " ++ (if 0 ≤ n then "u128" else "i128")
  | plain (.float x) => "floating point \x60" ++ Decimal.messageText x ++ "\x60"
  | plain (.text s) => "string " ++ Text.quoted s
  | sequence => "sequence"
  | map => "map"

/-- The key of a repeated entry, as far as a message shows it. -/
inductive RepeatedKey
  | null
  | bool (b : Bool)
  | number (text : String)
  | string (s : String)
  | other

inductive Mismatch
  | wrongType (found : Found) (wanted : String)
  | wrongValue (text wanted : String)
  | missingField (name : String)
  | repeatedField (name : String)
  | unknownVariant (name : String) (known : List String)
  | repeatedEntry (key : RepeatedKey)

/-- Names a reader may choose from. -/
def knownNames (names : List String) : String :=
  let marked := names.map fun n => "\x60" ++ n ++ "\x60"
  match marked with
  | [a, b] => a ++ " or " ++ b
  | _ => "one of " ++ Text.joinWith ", " marked

def Mismatch.message : Mismatch → String
  | wrongType found wanted => "invalid type: " ++ found.message ++ ", expected " ++ wanted
  | wrongValue text wanted => "invalid value: string " ++ Text.quoted text ++ ", expected " ++ wanted
  | missingField name => "missing field \x60" ++ name ++ "\x60"
  | repeatedField name => "duplicate field \x60" ++ name ++ "\x60"
  | unknownVariant name known => "unknown variant \x60" ++ name ++ "\x60, expected " ++ knownNames known
  | repeatedEntry .null => "duplicate entry with null key"
  | repeatedEntry (.bool b) => "duplicate entry with key \x60" ++ toString b ++ "\x60"
  | repeatedEntry (.number text) => "duplicate entry with key " ++ text
  | repeatedEntry (.string s) => "duplicate entry with key " ++ Text.quoted s
  | repeatedEntry .other => "duplicate entry in YAML map"

/-- The way from the root of a document to a value. -/
inductive Path
  | root
  | item (parent : Path) (index : Nat)
  | field (parent : Path) (key : String)
  | unnamed (parent : Path)

namespace Path

def text : Path → String
  | root => "."
  | item parent index => parent.text ++ "[" ++ toString index ++ "]"
  | field parent key => (match parent with | root => "" | p => p.text ++ ".") ++ key
  | unnamed parent => (match parent with | root => "" | p => p.text ++ ".") ++ "?"

end Path

/-- Why decoding fails. A mismatch is reported at the innermost value that took it up. -/
inductive Fault
  | mismatch (cause : Mismatch) (path : Option Path)
  | recursionLimit
  | repetitionLimit
  | unknownAnchor
  | endOfDocument
  | severalDocuments

namespace Fault

def message : Fault → String
  | mismatch cause none => cause.message
  | mismatch cause (some path) =>
    if path.text = "." then cause.message else path.text ++ ": " ++ cause.message
  | recursionLimit => "recursion limit exceeded"
  | repetitionLimit => "repetition limit exceeded"
  | unknownAnchor => "unknown anchor"
  | endOfDocument => "EOF while parsing a value"
  | severalDocuments => "deserializing from YAML containing more than one document is not supported"

def placed (path : Path) : Fault → Fault
  | mismatch cause none => .mismatch cause (some path)
  | fault => fault

end Fault
end JobMatrix.Yaml
