import QueryHeaders.Disk.Program
import QueryHeaders.Query.Defect
import QueryHeaders.Schema.Violation

/-!
Failures: why definitions cannot be loaded or generated from.
-/
namespace QueryHeaders

inductive Failure where
  | notFound (path : String)
  | unreadable (path : String) (fault : Fault)
  | malformed (source problem : String)
  | emptyInput (source : String)
  | severalDocuments (source : String) (count : Nat)
  | schemaViolation (source : String) (violations : List Violation)
  | schemaUnavailable (path reason : String)
  | definition (error : DefinitionError)
  | unwritable (path : String) (fault : Fault)
  deriving DecidableEq, Repr

namespace Failure

def summary : List Violation → String
  | [] => "no violations reported"
  | [v] => v.message
  | v :: rest => v.message ++ " (and " ++ toString rest.length ++ " more)"

def message : Failure → String
  | .notFound path => "file not found: " ++ path
  | .unreadable path fault => "failed to read '" ++ path ++ "': " ++ fault.message
  | .malformed source problem => "invalid YAML format in " ++ source ++ ": " ++ problem
  | .emptyInput source => source ++ " is empty"
  | .severalDocuments source count =>
      source ++ " contains " ++ toString count ++
        " documents; expected a single document with a 'queries' root"
  | .schemaViolation source violations =>
      "schema validation failed for " ++ source ++ ": " ++ summary violations
  | .schemaUnavailable path reason => "schema unavailable at '" ++ path ++ "': " ++ reason
  | .definition error => "query definition error: " ++ error.message
  | .unwritable path fault => "failed to write output file '" ++ path ++ "': " ++ fault.message

/-- What lies behind a failure, where its text says more than the failure's own. -/
def cause? : Failure → Option String
  | .unreadable _ fault | .unwritable _ fault => some fault.message
  | .definition error => some error.message
  | _ => none

/-- Whether the failure is that a file cannot be read. -/
def isUnreadable : Failure → Bool
  | .notFound _ | .unreadable _ _ => true
  | _ => false

end Failure

/-- A program that may fail. -/
abbrev Job := ExceptT Failure Program

namespace Job

/-- Runs a job on a tree. -/
def onTree {α : Type} (job : Job α) (t : FileTree) : Except Failure α × FileTree :=
  Program.run t (ExceptT.run job)

/-- Goes on if the disk did what it was asked for. -/
def require {α : Type} (failure : Fault → Failure) (p : Program (Except Fault α)) : Job α := do
  match ← ExceptT.lift p with
  | .ok a => return a
  | .error fault => throw (failure fault)

end Job

end QueryHeaders
