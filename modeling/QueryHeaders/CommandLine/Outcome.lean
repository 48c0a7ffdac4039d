import QueryHeaders.CommandLine.Arguments
import QueryHeaders.Diagnosis
import QueryHeaders.Discovery

/-!
Outcomes: what the commands print, and the status they exit with.

Status 0 means success, 1 a failure of the command, and 2 a command line that breaks the rules. The
standard error stream holds the reports of failures only: the log of a run, which goes to the same
stream and is the longer the higher the verbosity, is left out.
-/
namespace QueryHeaders

structure Outcome where
  status : Nat
  stdout : String
  /-- The reports of failures, without the lines of the log. -/
  stderr : String
  deriving DecidableEq, Repr

/-- Why a command fails. -/
inductive CommandFailure where
  | failure (f : Failure)
  | noDefinitionFiles (paths : List String)
  deriving DecidableEq, Repr

namespace CommandFailure

def message : CommandFailure → String
  | .failure f => f.message
  | .noDefinitionFiles paths => "no YAML files found in " ++ ", ".intercalate paths

def violations : CommandFailure → List Violation
  | .failure (.schemaViolation _ violations) => violations
  | _ => []

def cause? : CommandFailure → Option String
  | .failure f => f.cause?
  | .noDefinitionFiles _ => none

end CommandFailure

namespace Outcome

def indented (width : Nat) (text : String) : List String :=
  (Text.lines text).map (String.ofList (List.replicate width ' ') ++ ·)

/-- The line for a message of failure. -/
def errorLine (message : String) : String := "error: " ++ message

/-! ## Failure -/

def failureLines (verbosity : Nat) (f : CommandFailure) : List String :=
  errorLine f.message ::
    (f.violations.flatMap fun v => indented 2 v.display) ++
    if verbosity = 0 then [] else f.cause?.toList.map ("  caused by: " ++ ·)

def ofFailure (verbosity : Nat) (f : CommandFailure) : Outcome :=
  ⟨1, "", Text.ofLines (failureLines verbosity f)⟩

/-! ## Generation -/

def ofDryRun (artifacts : List Rendered) : Outcome :=
  ⟨0, String.join (artifacts.map fun r =>
    "// ==> " ++ r.artifact.fileName ++ " <==\n" ++ r.content ++ "\n"), ""⟩

def ofRun (outputDir : String) (r : GenerationReport) : Outcome :=
  ⟨0, Text.ofLines (r.written.map ("✓ Generated: " ++ ·) ++
    [toString r.enabled ++ " of " ++ toString r.total ++ " queries enabled, " ++
      toString r.written.length ++ " files written to " ++ outputDir]), ""⟩

def ofGeneration (s : Settings) (r : GenerationReport) : Outcome :=
  if s.dryRun then ofDryRun r.artifacts else ofRun s.outputDir r

/-! ## Validation -/

def violationLines (violations : List Violation) : List String :=
  violations.zipIdx.flatMap fun (v, i) =>
    ["", "  Violation " ++ toString (i + 1) ++ ":"] ++ indented 4 v.display

/-- The lines below the verdict on a file that failed. -/
def detailLines : Failure → List String
  | .schemaViolation _ violations => violationLines violations
  | f => ["    " ++ f.message]

/-- The lines on one file. -/
def fileLines (name : String) : Option Failure → List String
  | none => ["✓ " ++ name ++ ": validation passed"]
  | some f => ("✗ " ++ name ++ ": validation failed") :: detailLines f

def summaryLines (r : BatchReport) : List String :=
  if 1 < r.checked then
    ["", toString (r.checked - r.failures.length) ++ "/" ++ toString r.checked ++ " files valid"]
  else []

def batchLines (files : List BatchFile) (r : BatchReport) : List String :=
  (files.zipIdx.flatMap fun (file, i) =>
    fileLines file.name ((r.failureAt? i).map BatchFailure.failure)) ++ summaryLines r

def openingLines (verbosity : Nat) (v : Validator) (files : List BatchFile) : List String :=
  if verbosity = 0 then []
  else ["Schema: " ++ v.origin.name, "YAML files: " ++ toString files.length, Diagnosis.ruler 50]

/-- A file that cannot be read is always a failure, any other defect only under the strict rule. -/
def ofBatch (verbosity : Nat) (strict : Bool) (v : Validator) (files : List BatchFile)
    (r : BatchReport) : Outcome :=
  let failed := r.failures.any (·.failure.isUnreadable) || (strict && !r.allValid)
  ⟨if failed then 1 else 0,
    Text.ofLines (openingLines verbosity v files ++ batchLines files r), ""⟩

/-! ## Diagnosis -/

def ofDiagnosis : Except Failure Diagnosis → Outcome
  | .ok d => ⟨0, d.display, ""⟩
  | .error f => ⟨1, "", Text.ofLines [errorLine f.message]⟩

/-- Both outcomes, one after the other; the worse status counts. -/
def andThen (a b : Outcome) : Outcome :=
  ⟨max a.status b.status, a.stdout ++ b.stdout, a.stderr ++ b.stderr⟩

def none : Outcome := ⟨0, "", ""⟩

end Outcome

/-! ## Commands -/

namespace Command

/-- The outcome of a job, or of its failure. -/
def outcome (verbosity : Nat) (job : ExceptT CommandFailure Program Outcome) :
    Program Outcome := do
  match ← job.run with
  | .ok o => return o
  | .error f => return Outcome.ofFailure verbosity f

/-- A failing job makes a failing command. -/
def lift {α : Type} (job : Job α) : ExceptT CommandFailure Program α := do
  match ← ExceptT.lift job.run with
  | .ok a => return a
  | .error f => throw (.failure f)

def runGenerate (s : Settings) : ExceptT CommandFailure Program Outcome := do
  return Outcome.ofGeneration s (← lift (Generation.generate s))

/-- The paths to look at. -/
def pathsOf (s : ValidateSettings) : List String :=
  if s.paths.isEmpty then ["queries.yaml"] else s.paths

def diagnoseFiles : List String → Program Outcome
  | [] => return Outcome.none
  | path :: rest => do
      let first ← (Diagnosis.ofFile path).run
      return (Outcome.ofDiagnosis first).andThen (← diagnoseFiles rest)

def validateFiles (verbosity : Nat) (s : ValidateSettings) (files : List String) :
    ExceptT CommandFailure Program Outcome := do
  let validator ← lift (Validator.choose s.schemaPath)
  let batch := files.map fun path => (⟨path, path⟩ : BatchFile)
  let report ← ExceptT.lift (validator.checkBatch batch)
  return Outcome.ofBatch verbosity s.strict validator batch report

def runValidate (verbosity : Nat) (s : ValidateSettings) :
    ExceptT CommandFailure Program Outcome := do
  let files ← lift (Discovery.files (pathsOf s))
  if files.isEmpty then throw (.noDefinitionFiles (pathsOf s))
  else if s.diagnose then ExceptT.lift (diagnoseFiles files)
  else validateFiles verbosity s files

def run (verbosity : Nat) : Command → Program Outcome
  | .generate s => outcome verbosity (runGenerate s)
  | .validate s => outcome verbosity (runValidate verbosity s)

end Command

/-- The line that names the program and its version. -/
def versionLine : String := "caos-query 0.1.0"

def usageLine : String := "error: the arguments do not follow the rules"

/-- Carries out a command line. -/
def runArguments (arguments : List String) : Program Outcome :=
  match Invocation.ofArguments? arguments with
  | none => return ⟨2, "", Text.ofLines [usageLine]⟩
  | some .version => return ⟨0, Text.ofLines [versionLine], ""⟩
  | some (.command verbosity c) => c.run verbosity

end QueryHeaders
