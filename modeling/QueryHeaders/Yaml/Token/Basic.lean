import QueryHeaders.Yaml.Problem

/-!
Tokens: the words of a YAML stream.

Indentation has become explicit: a block collection has a token where it starts and one where it
ends, and every key of a mapping has a token before it. A stream that cannot be read further ends
in a token that holds the error.
-/
namespace QueryHeaders.Yaml

inductive ScalarStyle where
  | plain
  | singleQuoted
  | doubleQuoted
  | literal
  | folded
  deriving DecidableEq, Repr

inductive Token where
  | versionDirective (major minor : Nat)
  | tagDirective (handle : String) (uri : List UInt8)
  | documentStart
  | documentEnd
  | blockSequenceStart
  | blockMappingStart
  | blockEnd
  | flowSequenceStart
  | flowSequenceEnd
  | flowMappingStart
  | flowMappingEnd
  | blockEntry
  | flowEntry
  | key
  | value
  | alias (name : String)
  | anchor (name : String)
  | tag (handle : String) (suffix : List UInt8)
  | scalar (text : String) (style : ScalarStyle)
  | streamEnd
  | broken (error : Error)
  deriving DecidableEq, Repr

end QueryHeaders.Yaml
