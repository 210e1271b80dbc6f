/-!
What makes a text no YAML document.
-/
namespace JobMatrix.Yaml

inductive Problem
  | forbiddenCharacter
  | unknownDirective
  | malformedDirective
  | repeatedDirective
  | unsupportedVersion
  | malformedAnchor
  | malformedTag
  | unknownTagHandle
  | malformedBlockHeader
  | tabIndentation
  | unclosedQuote
  | markInsideQuote
  | malformedEscape
  | strayColon
  | missingColon
  | misplacedEntry
  | misplacedKey
  | misplacedValue
  | badTokenStart
  | missingDocumentStart
  | unexpectedToken
  | outOfSteps
  deriving DecidableEq

def Problem.message : Problem → String
  | forbiddenCharacter => "control characters are not allowed"
  | unknownDirective => "unknown directive"
  | malformedDirective => "malformed directive"
  | repeatedDirective => "directive given twice"
  | unsupportedVersion => "incompatible YAML version"
  | malformedAnchor => "an anchor or alias has no proper name"
  | malformedTag => "malformed tag"
  | unknownTagHandle => "undefined tag handle"
  | malformedBlockHeader => "malformed header of a block scalar"
  | tabIndentation => "a tab stands where indentation is expected"
  | unclosedQuote => "a quoted scalar is not closed"
  | markInsideQuote => "a document mark inside a quoted scalar"
  | malformedEscape => "malformed escape in a quoted scalar"
  | strayColon => "unexpected colon in a plain scalar"
  | missingColon => "expected a colon after a key"
  | misplacedEntry => "block sequence entries are not allowed here"
  | misplacedKey => "mapping keys are not allowed here"
  | misplacedValue => "mapping values are not allowed here"
  | badTokenStart => "a character that cannot start any token"
  | missingDocumentStart => "expected the start of a document"
  | unexpectedToken => "unexpected token"
  | outOfSteps => "text too long"

end JobMatrix.Yaml
