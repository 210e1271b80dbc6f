import JobMatrix.Yaml.Event

/-!
A document ready to be decoded: its events in a row, every alias leading to the place of a node.
-/
namespace JobMatrix.Yaml

/-- An event with its alias resolved. `void` stands in a text without any document. -/
inductive Item
  | void
  | alias (place : Nat)
  | scalar (tag : Option String) (text : String) (style : Style)
  | sequenceStart (tag : Option String)
  | sequenceEnd
  | mappingStart (tag : Option String)
  | mappingEnd
  deriving DecidableEq

/-- The items of a document. It is `broken` if an alias without an anchor cut it short, and one of
`several` if more text follows it. -/
structure Document where
  items : Array Item
  broken : Bool
  several : Bool

/-- Anchors while a document is loaded. An anchor gets as its number how many names are known at that
moment, and a number stands for the last place it was given to. -/
structure Anchors where
  numbers : List (String × Nat)
  places : List (Nat × Nat)

namespace Anchors

def note (a : Anchors) (place : Nat) : Option String → Anchors
  | none => a
  | some name =>
    let number := a.numbers.length
    ⟨(name, number) :: a.numbers.filter (·.1 != name), (number, place) :: a.places⟩

end Anchors

namespace Document

/-- Items up to the first unknown alias, aliases leading to numbers; the last component says whether there
is such an alias. -/
def load (anchors : Anchors) (items : Array Item) : List Event → Anchors × Array Item × Bool
  | [] => (anchors, items, false)
  | event :: rest =>
    let go := fun (anchor : Option String) (item : Item) =>
      load (anchors.note items.size anchor) (items.push item) rest
    match event with
    | .alias name =>
      match anchors.numbers.find? (·.1 == name) with
      | some (_, number) => go none (.alias number)
      | none => (anchors, items, true)
    | .scalar anchor tag text style => go anchor (.scalar tag text style)
    | .sequenceStart anchor tag => go anchor (.sequenceStart tag)
    | .sequenceEnd => go none .sequenceEnd
    | .mappingStart anchor tag => go anchor (.mappingStart tag)
    | .mappingEnd => go none .mappingEnd

/-- The document of a stream of events, unless a problem cut it short. An unknown alias before the problem
is what counts. -/
def ofEvents (stream : EventStream) : Except Problem Document :=
  let (anchors, items, broken) := load ⟨[], []⟩ #[] stream.events
  let place := fun (number : Nat) => ((anchors.places.find? (·.1 == number)).map (·.2)).getD 0
  let items := items.map fun
    | .alias number => .alias (place number)
    | item => item
  match stream.problem with
  | some problem => if broken then .ok ⟨items, true, false⟩ else .error problem
  | none => .ok ⟨if items.isEmpty && !broken then #[.void] else items, broken, stream.several⟩

def ofText (text : String) : Except Problem Document :=
  ofEvents (EventStream.ofTokens (TokenStream.ofText text))

end Document
end JobMatrix.Yaml
