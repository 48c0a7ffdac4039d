import QueryHeaders.Schema.PatternText
import QueryHeaders.Schema.Basic

/-!
The schema of definitions documents.

A document is an object with a list of queries. A query has a name, a return type and parameters;
its other members are optional, and there are no further ones.
-/
namespace QueryHeaders.Schema

/-- An identifier, with blanks around it. -/
def identifierPattern : NamedPattern where
  text := "^\\s*[A-Za-z_][A-Za-z0-9_]*\\s*$"
  pattern :=
    let head : CharSet := .ofList [.range 'A' 'Z', .range 'a' 'z', .single '_']
    let tail : CharSet := .ofList [.range 'A' 'Z', .range 'a' 'z', .range '0' '9', .single '_']
    .andThen (.andThen (.andThen (.andThen (.andThen .atStart (.run .space)) (.one head))
      (.run tail)) (.run .space)) .atEnd

/-- Text without a line break. -/
def linePattern : NamedPattern where
  text := "^[^\\r\\n]*$"
  pattern :=
    .andThen (.andThen .atStart (.run (.complement (.ofList [.single '\r', .single '\n'])))) .atEnd

theorem ofText?_identifierPattern :
    Pattern.ofText? identifierPattern.text = some identifierPattern.pattern := by
  decide +kernel

theorem ofText?_linePattern : Pattern.ofText? linePattern.text = some linePattern.pattern := by
  decide +kernel

/-- Values of some types. -/
def typed (types : List TypeName) : Rule := .constraints types [] none none none none none

/-- Objects with these members. -/
def record (types : List TypeName) (required : List String) (properties : List (String × Rule))
    (additional : Option Rule) : Rule :=
  .constraints types required (some properties) additional none none none

def listOf (types : List TypeName) (item : Rule) : Rule :=
  .constraints types [] none none (some item) none none

def textLike (pattern : NamedPattern) (minLength : Option Nat) : Rule :=
  .constraints [.string] [] none none none (some pattern) minLength

def definition (name : String) : Rule := .reference ("/definitions/" ++ name) .everything

def parameterRule : Rule :=
  record [.object] ["type", "name"]
    [("description", typed [.string]),
     ("name", definition "identifier"),
     ("type", textLike linePattern (some 1))]
    (some .nothing)

def authenticationRule : Rule :=
  record [.null, .object] []
    [("env_var", typed [.string]),
     ("required", typed [.boolean]),
     ("type", typed [.string])]
    (some .nothing)

def metadataRule : Rule := record [.null, .object] [] [("category", typed [.string])] none

def queryRule : Rule :=
  record [.object] ["name", "return_type", "parameters"]
    [("authentication", definition "authentication"),
     ("description", typed [.string]),
     ("enabled", typed [.boolean]),
     ("metadata", metadataRule),
     ("name", definition "identifier"),
     ("parameters", listOf [.array, .null] (definition "parameter")),
     ("return_type", textLike linePattern none)]
    (some .nothing)

/-- The schema that is used unless another one is chosen. -/
def builtIn : Schema where
  root :=
    record [.object] ["queries"] [("queries", listOf [.array] (definition "query"))] none
  targets :=
    [("/definitions/parameter", parameterRule),
     ("/definitions/identifier", textLike identifierPattern none),
     ("/definitions/authentication", authenticationRule),
     ("/definitions/query", queryRule)]

end QueryHeaders.Schema
