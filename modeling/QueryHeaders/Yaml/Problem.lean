/-!
What can be wrong with a YAML stream.

A problem met while the characters are read carries the line and column where it was met, counted
from zero; the others concern the document as a whole.
-/
namespace QueryHeaders.Yaml

inductive Problem where
  /- characters -/
  | forbiddenCharacter
  | unexpectedCharacter
  | tabIndentation
  /- structure seen while reading -/
  | entryNotAllowed
  | keyNotAllowed
  | valueNotAllowed
  | missingColon
  /- directives, properties and tags -/
  | unknownDirective
  | malformedDirective
  | malformedTag
  | malformedAnchor
  /- scalars -/
  | malformedBlockHeader
  | unclosedQuote
  | markerInQuote
  | unknownEscape
  | colonInPlain
  /- structure of a document -/
  | expectedDocumentStart
  | repeatedDirective
  | incompatibleVersion
  | undefinedHandle
  | expectedNode
  | expectedEntry
  | expectedKey
  | expectedSequenceEnd
  | expectedMappingEnd
  | nestedTooDeeply
  /- meaning of a document -/
  | unknownAnchor
  | tooManyAliases
  | duplicateKey
  | mismatchedTag
  | integerOutOfRange
  deriving DecidableEq, Repr

def Problem.message : Problem → String
  | .forbiddenCharacter => "control characters are not allowed"
  | .unexpectedCharacter => "found character that cannot start any token"
  | .tabIndentation => "found a tab character that violates indentation"
  | .entryNotAllowed => "block sequence entries are not allowed in this context"
  | .keyNotAllowed => "mapping keys are not allowed in this context"
  | .valueNotAllowed => "mapping values are not allowed in this context"
  | .missingColon => "could not find expected ':'"
  | .unknownDirective => "found unknown directive name"
  | .malformedDirective => "found malformed directive"
  | .malformedTag => "found malformed tag"
  | .malformedAnchor => "did not find expected alphabetic or numeric character"
  | .malformedBlockHeader => "found malformed block scalar header"
  | .unclosedQuote => "found unexpected end of stream"
  | .markerInQuote => "found unexpected document indicator"
  | .unknownEscape => "found unknown escape character"
  | .colonInPlain => "found unexpected ':'"
  | .expectedDocumentStart => "did not find expected <document start>"
  | .repeatedDirective => "found duplicate directive"
  | .incompatibleVersion => "found incompatible YAML document"
  | .undefinedHandle => "found undefined tag handle"
  | .expectedNode => "did not find expected node content"
  | .expectedEntry => "did not find expected '-' indicator"
  | .expectedKey => "did not find expected key"
  | .expectedSequenceEnd => "did not find expected ',' or ']'"
  | .expectedMappingEnd => "did not find expected ',' or '\x7d'"
  | .nestedTooDeeply => "recursion limit exceeded"
  | .unknownAnchor => "unknown anchor"
  | .tooManyAliases => "repetition limit exceeded"
  | .duplicateKey => "duplicate entry in mapping"
  | .mismatchedTag => "value does not fit its tag"
  | .integerOutOfRange => "integer out of range"

structure Error where
  problem : Problem
  place : Option (Nat × Nat) := none
  deriving DecidableEq, Repr

def Error.message (e : Error) : String :=
  match e.place with
  | none => e.problem.message
  | some (line, column) =>
      e.problem.message ++ " at line " ++ toString (line + 1) ++ " column " ++
        toString (column + 1)

end QueryHeaders.Yaml
