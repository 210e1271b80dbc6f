import JobMatrix.Yaml.TokenStream

/-!
The first document of a text as events: scalars, aliases, and the starts and ends of collections. A stack
of goals says what may come next; each step takes the topmost goal, reads tokens for it and puts further
goals in its place.
-/
namespace JobMatrix.Yaml

inductive Event
  | alias (name : String)
  | scalar (anchor tag : Option String) (text : String) (style : Style)
  | sequenceStart (anchor tag : Option String)
  | sequenceEnd
  | mappingStart (anchor tag : Option String)
  | mappingEnd
  deriving DecidableEq

/-- The scalar that stands where a node is left out. -/
def Event.absent : Event := .scalar none none "" .plain

/-- What is expected next. `first` marks a collection before its first entry; in a flow sequence a key
mark opens a mapping of one pair. -/
inductive Goal
  | documentStart
  | documentContent
  | documentEnd
  | node (block indentless : Bool)
  | blockEntry
  | indentlessEntry
  | blockKey
  | blockValue
  | flowEntry (first : Bool)
  | pairKey
  | pairValue
  | pairEnd
  | flowKey (first : Bool)
  | flowValue
  | flowNoValue

/-- Tokens to come, goals, tag handles, and the events so far. -/
structure Reading where
  tokens : List Token
  goals : List Goal
  handles : List (String × String)
  events : Array Event

/-- The tag handles that need no directive. -/
def standardHandles : List (String × String) :=
  [("!", "!"), ("!!", "tag:yaml.org,2002:")]

namespace Reading

def emit (r : Reading) (event : Event) (goals : List Goal) : Reading :=
  { r with events := r.events.push event, goals := goals ++ r.goals }

def expect (r : Reading) (goals : List Goal) : Reading :=
  { r with goals := goals ++ r.goals }

def tagName (r : Reading) (handle suffix : String) : Except Problem String :=
  if handle = "" then .ok suffix
  else match r.handles.find? (·.1 == handle) with
    | some (_, stem) => .ok (stem ++ suffix)
    | none => .error .unknownTagHandle

/-- An anchor and a tag in either order. -/
def properties (r : Reading) : Except Problem (Option String × Option String × List Token) :=
  match r.tokens with
  | .anchor name :: .tag handle suffix :: rest => do
    return (some name, some (← r.tagName handle suffix), rest)
  | .anchor name :: rest => .ok (some name, none, rest)
  | .tag handle suffix :: .anchor name :: rest => do
    return (some name, some (← r.tagName handle suffix), rest)
  | .tag handle suffix :: rest => do return (none, some (← r.tagName handle suffix), rest)
  | tokens => .ok (none, none, tokens)

/-- A node. With `block` it may be a block collection, with `indentless` a sequence at its key's column. -/
def node (r : Reading) (block indentless : Bool) : Except Problem Reading :=
  match r.tokens with
  | .alias name :: rest => .ok ({ r with tokens := rest }.emit (.alias name) [])
  | _ => do
    let (anchor, tag, tokens) ← r.properties
    match tokens with
    | .blockEntry :: _ =>
      if indentless then
        return { r with tokens }.emit (.sequenceStart anchor tag) [.indentlessEntry]
      else absent anchor tag tokens
    | .scalar text style :: rest => return { r with tokens := rest }.emit (.scalar anchor tag text style) []
    | .flowSequenceStart :: rest =>
      return { r with tokens := rest }.emit (.sequenceStart anchor tag) [.flowEntry true]
    | .flowMappingStart :: rest =>
      return { r with tokens := rest }.emit (.mappingStart anchor tag) [.flowKey true]
    | .blockSequenceStart :: rest =>
      if block then return { r with tokens := rest }.emit (.sequenceStart anchor tag) [.blockEntry]
      else absent anchor tag tokens
    | .blockMappingStart :: rest =>
      if block then return { r with tokens := rest }.emit (.mappingStart anchor tag) [.blockKey]
      else absent anchor tag tokens
    | _ => absent anchor tag tokens
where
  /-- A node of properties alone. -/
  absent (anchor tag : Option String) (tokens : List Token) : Except Problem Reading :=
    if anchor.isSome ∨ tag.isSome then
      .ok ({ r with tokens }.emit (.scalar anchor tag "" .plain) [])
    else .error .unexpectedToken

/-- The directives of a document; a version or a handle is given once. -/
def directives (version : Bool) (handles : List (String × String)) :
    List Token → Except Problem (List (String × String) × List Token)
  | .versionDirective major minor :: rest =>
    if version then .error .repeatedDirective
    else if major = 1 ∧ (minor = 1 ∨ minor = 2) then directives true handles rest
    else .error .unsupportedVersion
  | .tagDirective handle stem :: rest =>
    if handles.any (·.1 == handle) then .error .repeatedDirective
    else directives version (handles ++ [(handle, stem)]) rest
  | tokens => .ok (handles ++ standardHandles, tokens)

/-- The start of the first document, or the end of the text. The document needs no mark. -/
def documentStart (r : Reading) : Except Problem Reading := do
  if r.tokens = [] then return r
  let (handles, rest) ← directives false [] r.tokens
  match rest with
  | .documentStart :: rest =>
    return { r with tokens := rest, handles }.expect [.documentContent, .documentEnd]
  | _ =>
    if rest = r.tokens then return { r with handles }.expect [.node true false, .documentEnd]
    throw .missingDocumentStart

/-- A node unless one of some tokens is next, which leave it out. -/
def nodeUnless (r : Reading) (out : List Token) (block indentless : Bool) (goal : Goal) : Reading :=
  if r.tokens.head?.any (· ∈ out) then r.emit .absent [goal]
  else r.expect [.node block indentless, goal]

def step (r : Reading) : Goal → Except Problem Reading
  | .documentStart => r.documentStart
  | .documentContent =>
    match r.tokens with
    | [] | .versionDirective .. :: _ | .tagDirective .. :: _ | .documentStart :: _ | .documentEnd :: _ =>
      .ok (r.emit .absent [])
    | _ => .ok (r.expect [.node true false])
  | .documentEnd => .ok { r with tokens := r.tokens.dropWhile (· == .documentEnd) }
  | .node block indentless => r.node block indentless
  | .blockEntry =>
    match r.tokens with
    | .blockEntry :: rest =>
      .ok ({ r with tokens := rest }.nodeUnless
        [.blockEntry, .blockEnd] true false .blockEntry)
    | .blockEnd :: rest => .ok ({ r with tokens := rest }.emit .sequenceEnd [])
    | _ => .error .unexpectedToken
  | .indentlessEntry =>
    match r.tokens with
    | .blockEntry :: rest =>
      .ok ({ r with tokens := rest }.nodeUnless
        [.blockEntry, .key, .value, .blockEnd]
        true false .indentlessEntry)
    | _ => .ok (r.emit .sequenceEnd [])
  | .blockKey =>
    match r.tokens with
    | .key :: rest =>
      .ok ({ r with tokens := rest }.nodeUnless
        [.key, .value, .blockEnd] true true .blockValue)
    | .blockEnd :: rest => .ok ({ r with tokens := rest }.emit .mappingEnd [])
    | _ => .error .unexpectedToken
  | .blockValue =>
    match r.tokens with
    | .value :: rest =>
      .ok ({ r with tokens := rest }.nodeUnless
        [.key, .value, .blockEnd] true true .blockKey)
    | _ => .ok (r.emit .absent [.blockKey])
  | .flowEntry first => do
    let tokens ← match first, r.tokens with
      | true, tokens | false, tokens@(.flowSequenceEnd :: _) | false, .flowEntry :: tokens => pure tokens
      | false, _ => throw .unexpectedToken
    match tokens with
    | .flowSequenceEnd :: rest => return { r with tokens := rest }.emit .sequenceEnd []
    | .key :: rest =>
      return { r with tokens := rest }.emit (.mappingStart none none) [.pairKey, .flowEntry false]
    | _ => return { r with tokens }.expect [.node false false, .flowEntry false]
  | .pairKey =>
    match r.tokens with
    | .value :: rest | .flowEntry :: rest | .flowSequenceEnd :: rest =>
      .ok ({ r with tokens := rest }.emit .absent [.pairValue])
    | _ => .ok (r.expect [.node false false, .pairValue])
  | .pairValue =>
    match r.tokens with
    | .value :: rest =>
      .ok ({ r with tokens := rest }.nodeUnless
        [.flowEntry, .flowSequenceEnd] false false .pairEnd)
    | _ => .ok (r.emit .absent [.pairEnd])
  | .pairEnd => .ok (r.emit .mappingEnd [])
  | .flowKey first => do
    let tokens ← match first, r.tokens with
      | true, tokens | false, tokens@(.flowMappingEnd :: _) | false, .flowEntry :: tokens => pure tokens
      | false, _ => throw .unexpectedToken
    match tokens with
    | .flowMappingEnd :: rest => return { r with tokens := rest }.emit .mappingEnd []
    | .key :: rest =>
      return { r with tokens := rest }.nodeUnless
        [.value, .flowEntry, .flowMappingEnd] false false .flowValue
    | _ => return { r with tokens }.expect [.node false false, .flowNoValue]
  | .flowValue =>
    match r.tokens with
    | .value :: rest =>
      .ok ({ r with tokens := rest }.nodeUnless
        [.flowEntry, .flowMappingEnd] false false (.flowKey false))
    | _ => .ok (r.emit .absent [.flowKey false])
  | .flowNoValue => .ok (r.emit .absent [.flowKey false])

end Reading

/-- The events of the first document up to its end or up to a problem, and whether more text follows it. -/
structure EventStream where
  events : List Event
  problem : Option Problem
  several : Bool

/-- Steps until no goal is left or no token is to be had. -/
def Reading.finish (problem : Option Problem) : Nat → Reading → EventStream
  | 0, r => ⟨r.events.toList, some .outOfSteps, false⟩
  | steps + 1, r =>
    match r.goals, problem, r.tokens with
    | [], _, tokens => ⟨r.events.toList, none, problem.isSome || !tokens.isEmpty⟩
    | _ :: _, some problem, [] => ⟨r.events.toList, some problem, false⟩
    | goal :: goals, _, _ =>
      match { r with goals }.step goal with
      | .ok next => finish problem steps next
      | .error found => ⟨r.events.toList, some found, false⟩

def EventStream.ofTokens (stream : TokenStream) : EventStream :=
  Reading.finish stream.problem (8 * stream.tokens.length + 16)
    ⟨stream.tokens, [.documentStart], [], #[]⟩

end JobMatrix.Yaml
