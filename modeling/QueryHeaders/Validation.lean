import QueryHeaders.Json.Reading
import QueryHeaders.Loading
import QueryHeaders.Schema.BuiltIn
import QueryHeaders.Schema.Reading

/-!
Validation: checking documents against a schema.

A validator is a schema and where it came from. Documents from text, from files and in memory are
checked alike. In a batch every file is checked, whatever comes of the others.
-/
namespace QueryHeaders

inductive SchemaOrigin where
  | builtIn
  | file (path : String)
  deriving DecidableEq, Repr

def SchemaOrigin.name : SchemaOrigin → String
  | .builtIn => "<embedded query-schema.json>"
  | .file path => path

/-- How much a run insists on a schema. -/
inductive SchemaPolicy where
  | disabled
  /-- Validates if the schema can be loaded. -/
  | bestEffort
  | required
  deriving DecidableEq, Repr

structure Validator where
  origin : SchemaOrigin
  schema : Schema

/-- One file of a batch, and its name in the report. -/
structure BatchFile where
  path : String
  name : String
  deriving DecidableEq, Repr

/-- A file that failed, and where it stands in the batch. -/
structure BatchFailure where
  index : Nat
  file : BatchFile
  failure : Failure
  deriving DecidableEq, Repr

structure BatchReport where
  checked : Nat
  failures : List BatchFailure
  deriving DecidableEq, Repr

namespace BatchReport

def allValid (r : BatchReport) : Bool := r.failures.isEmpty

/-- The failure of the file at a position. -/
def failureAt? (r : BatchReport) (index : Nat) : Option BatchFailure :=
  r.failures.find? (·.index == index)

end BatchReport

namespace Validator

def builtIn : Validator := ⟨.builtIn, .builtIn⟩

/-! ## Schemas -/

/-- The validator of a schema that is given as JSON. -/
def ofJson (origin : SchemaOrigin) (document : Json) : Except Failure Validator :=
  match Schema.ofJson document with
  | .ok schema => .ok ⟨origin, schema⟩
  | .error defect => .error (.schemaUnavailable origin.name ("schema error: " ++ defect.message))

/-- How deep the collections of a schema file may be nested. -/
def nestingLimit : Nat := 127

/-- The validator of the text of a schema file. -/
def ofText (path content : String) : Except Failure Validator :=
  match Json.read nestingLimit content with
  | .ok document => ofJson (.file path) document
  | .error e => .error (.schemaUnavailable path ("invalid JSON in schema file: " ++ e.message))

/-- The validator of a schema file. -/
def ofFile (path : String) : Job Validator := do
  match ← ExceptT.lift (Program.kind path) with
  | none => throw (.schemaUnavailable path "schema file not found")
  | some _ =>
      let content ← Job.require (fun fault => .schemaUnavailable path fault.message)
        (Program.readText path)
      ofText path content

/-- The validator of a chosen schema file, or else of the built-in schema. -/
def choose : Option String → Job Validator
  | some path => ofFile path
  | none => return builtIn

/-- The validator of a run; none if it does not validate. -/
def resolve (policy : SchemaPolicy) (schemaPath : Option String) : Job (Option Validator) :=
  match policy with
  | .disabled => return none
  | .required => some <$> choose schemaPath
  | .bestEffort => tryCatch (some <$> choose schemaPath) fun _ => return none

/-! ## Documents -/

/-- A document must break nothing. -/
def checkJson (v : Validator) (document : Json) (source : String) : Except Failure Unit :=
  match v.schema.violations document with
  | [] => .ok ()
  | violations => .error (.schemaViolation source violations)

def checkText (v : Validator) (content source : String) : Except Failure Unit := do
  v.checkJson (← Loading.ofText content source) source

def checkFile (v : Validator) (path : String) : Job Unit := do
  v.checkJson (← Loading.ofFile path) path

/-- The failures of the files of a batch from a position on. -/
def failuresFrom (v : Validator) (index : Nat) : List BatchFile → Program (List BatchFailure)
  | [] => return []
  | file :: rest => do
      let checked ← (v.checkFile file.path).run
      let others ← v.failuresFrom (index + 1) rest
      return match checked with
        | .ok () => others
        | .error failure => ⟨index, file, failure⟩ :: others

def checkBatch (v : Validator) (files : List BatchFile) : Program BatchReport := do
  return ⟨files.length, ← v.failuresFrom 0 files⟩

end Validator

end QueryHeaders
