import QueryHeaders.Query.Basic

/-!
What can be wrong with a definitions document, and where.

`Defect.message` and `Location.message` hold the wording; everything else works on the causes.
-/
namespace QueryHeaders

/-- What a field has to hold. -/
inductive Expected where
  | string
  | boolean
  | mapping
  | list
  deriving DecidableEq, Repr

def Expected.message : Expected → String
  | .string => "a string"
  | .boolean => "a boolean"
  | .mapping => "a mapping"
  | .list => "a list"

inductive Defect where
  | rootNotMapping
  | queriesNotList
  | entryNotMapping
  | missingName
  | invalidName (name : String)
  | invalidFieldType (field : String) (expected : Expected)
  | invalidCategory (category : String)
  | invalidParameter (position : Nat)
  | invalidParameterName (position : Nat) (name : String)
  | controlCharacter (field : String)
  | unsupportedAuthType (authType : String)
  | duplicateName (name : String) (firstIndex : Nat)
  | disabledButFlagged (feature : Feature)
  deriving DecidableEq, Repr

def Defect.message : Defect → String
  | .rootNotMapping => "YAML root must be a mapping"
  | .queriesNotList => "'queries' must be a list"
  | .entryNotMapping => "query entry must be a mapping"
  | .missingName => "query missing 'name' field"
  | .invalidName name => "'" ++ name ++ "' is not a valid identifier"
  | .invalidFieldType field expected => "field '" ++ field ++ "' must be " ++ expected.message
  | .invalidCategory category =>
      "invalid category '" ++ category ++ "'; must be 'standard', 'example', or 'template'"
  | .invalidParameter position => "parameter " ++ toString position ++ " missing type or name"
  | .invalidParameterName position name =>
      "parameter " ++ toString position ++ " name '" ++ name ++ "' is not a valid identifier"
  | .controlCharacter field => "field '" ++ field ++ "' contains a control character"
  | .unsupportedAuthType authType =>
      "unsupported authentication type '" ++ authType ++
        "'; only 'token' or 'none' are supported"
  | .duplicateName name firstIndex =>
      "duplicate query name '" ++ name ++ "' (first defined at index " ++
        toString firstIndex ++ ")"
  | .disabledButFlagged feature =>
      "query is disabled (enabled: false) but the " ++ feature.flag ++
        " flag is present; either remove the flag or enable the query"

/-- A place in a definitions document. -/
inductive Location where
  | document
  | entry (index : Nat) (name : Option String)
  deriving DecidableEq, Repr

def Location.message : Location → String
  | .document => "document root"
  | .entry index none => "query at index " ++ toString index
  | .entry index (some name) => "query at index " ++ toString index ++ " ('" ++ name ++ "')"

structure DefinitionError where
  location : Location
  defect : Defect
  deriving DecidableEq, Repr

def DefinitionError.message (e : DefinitionError) : String :=
  e.location.message ++ ": " ++ e.defect.message

end QueryHeaders
