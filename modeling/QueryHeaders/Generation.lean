import QueryHeaders.Artifact.Writing
import QueryHeaders.Query.Enablement
import QueryHeaders.Query.Normal
import QueryHeaders.Validation

/-!
Generation: from a definitions file to the artifacts.

The schema is chosen before the definitions are looked at. Nothing is written unless every step
before has succeeded, and nothing at all in a dry run.
-/
namespace QueryHeaders

/-- What one run is to do. -/
structure Settings where
  /-- The path of the definitions file. -/
  definitions : String
  outputDir : String
  /-- A schema that is used instead of the built-in one. -/
  schemaPath : Option String := none
  policy : SchemaPolicy := .bestEffort
  features : Features := {}
  dryRun : Bool := false
  deriving DecidableEq, Repr

/-- What one run did. -/
structure GenerationReport where
  /-- How many queries are defined. -/
  total : Nat
  /-- How many of them are included. -/
  enabled : Nat
  /-- How many of these get their token automatically. -/
  autoTokens : Nat
  artifacts : List Rendered
  /-- The paths that were written. -/
  written : List String
  deriving DecidableEq, Repr

namespace Generation

/-- The queries of a document; a validator looks at it first. -/
def queriesOf (validator : Option Validator) (source : String) (document : Json) :
    Except Failure (List Query) := do
  match validator with
  | some v => v.checkJson document source
  | none => pure ()
  match Query.ofDocument document with
  | .ok queries => return queries
  | .error e => throw (.definition e)

/-- The queries of the definitions file. -/
def queries (s : Settings) : Job (List Query) := do
  let validator ← Validator.resolve s.policy s.schemaPath
  let document ← Loading.ofFile s.definitions
  queriesOf validator s.definitions document

/-- The report on a list of queries, before anything is written. -/
def reportOn (features : Features) (all : List Query) : Except Failure GenerationReport :=
  match enabledQueries features all with
  | .error e => .error (.definition e)
  | .ok enabled => .ok {
      total := all.length
      enabled := enabled.length
      autoTokens := (enabled.filter Query.isAutoToken).length
      artifacts := renderAll enabled
      written := [] }

/-- Everything up to the artifacts' texts. -/
def render (s : Settings) : Job GenerationReport := do
  reportOn s.features (← queries s)

/-- A whole run. -/
def generate (s : Settings) : Job GenerationReport := do
  let report ← render s
  if s.dryRun then return report
  else return { report with written := ← Artifact.writeAll s.outputDir report.artifacts }

end Generation

end QueryHeaders
