import JobMatrix.Yaml.Decoder
import JobMatrix.Yaml.Value

/-!
Decoding a node of any shape.
-/
namespace JobMatrix.Yaml

/-- The value of a resolved scalar; integers beyond 64 bits are refused. -/
def Value.ofPlain : Plain → Except Mismatch Value
  | .null => .ok .null
  | .bool b => .ok (.bool b)
  | .int n => .ok (.int n)
  | .wideInt n => .error (.wrongType (.plain (.wideInt n)) "any YAML value")
  | .float x => .ok (.float x)
  | .text s => .ok (.string s)

/-- A key as the message about its repetition shows it. -/
def Value.repeated : Value → RepeatedKey
  | .null => .null
  | .bool b => .bool b
  | .int n => .number (toString n)
  | .float x => .number (Decimal.documentText x)
  | .string s => .string s
  | _ => .other

namespace Decoder

/-- An entry of a mapping with keys of any kind, none of which may be repeated. -/
def anyEntry (inner : Decoder Value) (entries : List (Value × Value)) (key : Value) :
    Decoder (List (Value × Value)) := fun place p =>
  if entries.any (·.1.same key) then .error (.mismatch (.repeatedEntry key.repeated) none)
  else map (fun value => entries ++ [(key, value)]) inner place p

/-- A node whose tag, if it is the document's own, has been taken; `inner` decodes what it holds. -/
def content (inner : Decoder Value) (item : Item) : Decoder Value := fun place p =>
  match item with
  | .scalar tag text style =>
    match (resolve (if place.tagTaken then none else tag) text style).bind Value.ofPlain with
    | .ok value => .ok (value, p.past)
    | .error mismatch => .error (.mismatch mismatch none)
  | .sequenceStart _ => map .sequence (nested (itemsFrom inner place.bound 0)) place p.past
  | .mappingStart _ => map .mapping (nested (entriesFrom inner (anyEntry inner) place.bound [])) place p.past
  | .void => .ok (.null, p.past)
  | _ => .error .endOfDocument

/-- A node of any shape, whose parts are decoded by `inner`. -/
def anyWith (inner : Decoder Value) : Decoder Value :=
  located <| withItem fun item place p =>
    match item.ownTag? with
    | some tag => map (.tagged tag) (content inner item) { place with tagTaken := true } p
    | none => content inner item place p

def anyTo : Nat → Decoder Value
  | 0 => anyWith fun _ _ => .error .recursionLimit
  | depth + 1 => anyWith (anyTo depth)

def any : Decoder Value := fun place p => anyTo place.depth place p

end Decoder
end JobMatrix.Yaml
