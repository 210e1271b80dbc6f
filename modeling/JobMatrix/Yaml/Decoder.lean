import JobMatrix.Table
import JobMatrix.Yaml.Document
import JobMatrix.Yaml.Fault

/-!
Decoders: functions from a place in a document to a value. A decoder takes the items of one node and
leaves the ones after it. Aliases are followed, within a limit on their number; collections nest within a
limit on their depth; a mismatch is reported at the node whose decoder found it.
-/
namespace JobMatrix.Yaml

/-- Where a node stands: its document, its path, how deep collections may still nest, and whether the
node's tag was taken already. -/
structure Place where
  document : Document
  path : Path
  depth : Nat
  tagTaken : Bool

/-- How far decoding has come. -/
structure Progress where
  position : Nat
  jumps : Nat

abbrev Decoder (α : Type) := Place → Progress → Except Fault (α × Progress)

/-- The greatest depth of collections. -/
def nestingLimit : Nat := 128

def Progress.past (p : Progress) : Progress := { p with position := p.position + 1 }

def Place.item (place : Place) (position : Nat) : Except Fault Item :=
  match place.document.items[position]? with
  | some item => .ok item
  | none => .error (if place.document.broken then .unknownAnchor else .endOfDocument)

/-- A bound on the number of nodes in a collection. -/
def Place.bound (place : Place) : Nat := place.document.items.size + 1

/-- What a tag and the form of a scalar make of its text. -/
def resolve (tag : Option String) (text : String) (style : Style) : Except Mismatch Plain :=
  let expected := fun (value? : Option Plain) (wanted : String) =>
    match value? with
    | some value => Except.ok value
    | none => .error (.wrongValue text wanted)
  match tag with
  | some "tag:yaml.org,2002:bool" => expected ((boolOf? text).map .bool) "a boolean"
  | some "tag:yaml.org,2002:int" => expected (integer? text.toList) "an integer"
  | some "tag:yaml.org,2002:float" => expected ((float? text).map .float) "a float"
  | some "tag:yaml.org,2002:null" => expected (if isNullText text then some .null else none) "null"
  | some name =>
    .ok (if name.toList.head? = some '!' ∧ style = .plain then .ofText text else .text text)
  | none => .ok (if style = .plain then .ofText text else .text text)

def Item.unwanted (item : Item) (wanted : String) : Fault :=
  match item with
  | .scalar tag text style =>
    match resolve tag text style with
    | .ok value => .mismatch (.wrongType (.plain value) wanted) none
    | .error mismatch => .mismatch mismatch none
  | .sequenceStart _ => .mismatch (.wrongType .sequence wanted) none
  | .mappingStart _ => .mismatch (.wrongType .map wanted) none
  | _ => .endOfDocument

def Item.isEmpty : Item → Bool
  | .void => true
  | .scalar _ text style => text == "" && style == .plain
  | _ => false

/-- The tag of an item if it is one of the document's own: one that starts with an exclamation mark,
given without it unless it is nothing else. -/
def Item.ownTag? (item : Item) : Option String :=
  let tag := match item with
    | .scalar tag _ _ | .sequenceStart tag | .mappingStart tag => tag
    | _ => none
  tag.bind fun name =>
    match name.toList with
    | ['!'] => some "!"
    | '!' :: rest => some (String.ofList rest)
    | _ => none

namespace Decoder
variable {α β κ σ : Type}

/-- A decoder that sees the node's first item, an alias being followed. -/
def withItem (f : Item → Decoder α) : Decoder α := fun place p => do
  match ← place.item p.position with
  | .alias target =>
    let jumps := p.jumps + 1
    if place.document.items.size * 100 < jumps then throw .repetitionLimit
    let item ← place.item target
    let (a, q) ← f item { place with tagTaken := false } ⟨target, jumps⟩
    return (a, ⟨p.position + 1, q.jumps⟩)
  | item => f item place p

/-- A decoder that reports mismatches at its own place. -/
def located (d : Decoder α) : Decoder α := fun place p =>
  match d place p with
  | .ok r => .ok r
  | .error fault => .error (fault.placed place.path)

/-- A decoder that reports mismatches found behind an alias at the alias. -/
def locatedAlias (d : Decoder α) : Decoder α := fun place p => do
  match ← place.item p.position with
  | .alias _ => located d place p
  | _ => d place p

/-- A decoder one collection further in. -/
def nested (d : Decoder α) : Decoder α := fun place p =>
  match place.depth with
  | 0 => .error .recursionLimit
  | depth + 1 => d { place with depth } p

def map (f : α → β) (d : Decoder α) : Decoder β := fun place p => do
  let (a, p) ← d place p
  return (f a, p)

/-- The nodes up to the end of a sequence. -/
def itemsFrom (d : Decoder α) : Nat → Nat → Decoder (List α)
  | 0, _ => fun _ _ => .error .endOfDocument
  | steps + 1, index => fun place p => do
    match ← place.item p.position with
    | .sequenceEnd | .void => return ([], p.past)
    | _ =>
      let (a, p) ← d { place with path := .item place.path index, tagTaken := false } p
      let (rest, p) ← itemsFrom d steps (index + 1) place p
      return (a :: rest, p)

/-- The entries up to the end of a mapping, taken up one after the other. -/
def entriesFrom (key : Decoder κ) (entry : σ → κ → Decoder σ) : Nat → σ → Decoder σ
  | 0, _ => fun _ _ => .error .endOfDocument
  | steps + 1, acc => fun place p => do
    match ← place.item p.position with
    | .mappingEnd | .void => return (acc, p.past)
    | item =>
      let (k, p) ← key { place with tagTaken := false } p
      let path := match item with
        | .scalar _ text _ => Path.field place.path text
        | _ => .unnamed place.path
      let (acc, p) ← entry acc k { place with path, tagTaken := false } p
      entriesFrom key entry steps acc place p

/-- A sequence; nothing at all stands for an empty one. -/
def sequence (d : Decoder α) : Decoder (List α) :=
  located <| withItem fun item place p =>
    match item with
    | .sequenceStart _ => nested (itemsFrom d place.bound 0) place p.past
    | _ => if item.isEmpty then .ok ([], p.past) else .error (item.unwanted "a sequence")

/-- A mapping; nothing at all stands for an empty one. -/
def mapping (wanted : String) (key : Decoder κ) (entry : σ → κ → Decoder σ) (start : σ) : Decoder σ :=
  withItem fun item place p =>
    match item with
    | .mappingStart _ => nested (entriesFrom key entry place.bound start) place p.past
    | _ => if item.isEmpty then .ok (start, p.past) else .error (item.unwanted wanted)

def textAs (wanted : String) : Decoder String :=
  located <| withItem fun item _ p =>
    match item with
    | .scalar _ text _ => .ok (text, p.past)
    | _ => .error (item.unwanted wanted)

def text : Decoder String := textAs "a string"

/-- A natural number of 64 bits, written as a plain scalar or as a literal block tagged as an integer. -/
def word : Decoder Nat :=
  located <| withItem fun item place p =>
    match item with
    | .scalar tag text style =>
      let plain := style == .plain ||
        (style == .literal && !place.tagTaken && tag == some "tag:yaml.org,2002:int")
      match if plain then natural? (UInt64.size - 1) text.toList else none with
      | some n => .ok (n, p.past)
      | none => .error (item.unwanted "usize")
    | _ => .error (item.unwanted "usize")

/-- A value that may be left out or null. -/
def optional (d : Decoder α) : Decoder (Option α) :=
  withItem fun item place p =>
    let absent := Except.ok (none, p.past)
    let present := map some d place p
    match item with
    | .void => absent
    | .scalar tag text style =>
      if style ≠ .plain then present
      else match if place.tagTaken then none else tag with
        | some "tag:yaml.org,2002:null" =>
          if isNullText text then absent else .error (.mismatch (.wrongValue text "null") none)
        | some _ => present
        | none => if text = "" ∨ isNullText text then absent else present
    | _ => present

/-- A null value, as the content of a tag. -/
def nothing : Decoder Unit :=
  located <| withItem fun item _ p =>
    match item with
    | .scalar _ text style =>
      if style = .plain ∧ (text = "" ∨ isNullText text) then .ok ((), p.past)
      else .error (.mismatch (.wrongValue text "null") none)
    | .void => .ok ((), p.past)
    | _ => .error (item.unwanted "unit")

def named (known : List (String × α)) (name : String) : Except Fault α :=
  match known.find? (·.1 == name) with
  | some (_, a) => .ok a
  | none => .error (.mismatch (.unknownVariant name (known.map (·.1))) none)

/-- A value given by its name as text or as the tag of nothing. -/
def variant (known : List (String × α)) : Decoder α :=
  locatedAlias <| withItem fun item place p =>
    match item.ownTag? with
    | some name => do
      let a ← named known name
      let (_, p) ← nothing { place with tagTaken := true } p
      return (a, p)
    | none =>
      let located := fun (r : Except Fault (α × Progress)) => r.mapError (·.placed place.path)
      located <| match item with
        | .scalar _ text _ => do return (← named known text, p.past)
        | _ => .error (item.unwanted "a YAML tag starting with '!'")

/-- The items of a node, passed over; `nesting` collections are open. -/
def skipFrom : Nat → Nat → Decoder Unit
  | 0, _ => fun _ _ => .error .endOfDocument
  | steps + 1, nesting => fun place p => do
    let nesting := match ← place.item p.position with
      | .sequenceStart _ | .mappingStart _ => nesting + 1
      | .sequenceEnd | .mappingEnd => nesting - 1
      | _ => nesting
    if nesting = 0 then return ((), p.past)
    skipFrom steps nesting place p.past

def ignored : Decoder Unit := fun place p => skipFrom place.bound 0 place p

/-- A mapping from texts; a repeated key keeps its place and takes the later value. -/
def table (d : Decoder α) : Decoder (Table α) :=
  located <| mapping "a map" text (fun t key => map (t.insert key) d) Table.empty

/-- A record: its fields are read by `entry`, which gets the draft so far and a name, and the draft is
completed by `finish`. -/
def record (wanted : String) (entry : σ → String → Decoder σ) (start : σ)
    (finish : σ → Except Mismatch α) : Decoder α :=
  located fun place p => do
    let (draft, p) ← mapping ("struct " ++ wanted) (textAs "field identifier") entry start place p
    match finish draft with
    | .ok a => return (a, p)
    | .error mismatch => throw (.mismatch mismatch none)

/-- A field of a record, refused a second time. -/
def once (name : String) (old : Option β) (d : Decoder β) (set : β → σ) : Decoder σ := fun place p =>
  if old.isSome then .error (.mismatch (.repeatedField name) none) else map set d place p

/-- A field that is not part of a record. -/
def skip (draft : σ) : Decoder σ := map (fun _ => draft) ignored

/-- The value of a document, which has to be the only one of its text. -/
def run (d : Decoder α) (document : Document) : Except Fault α := do
  let (a, _) ← d ⟨document, .root, nestingLimit, false⟩ ⟨0, 0⟩
  if document.broken then throw .unknownAnchor
  if document.several then throw .severalDocuments
  return a

end Decoder
end JobMatrix.Yaml
