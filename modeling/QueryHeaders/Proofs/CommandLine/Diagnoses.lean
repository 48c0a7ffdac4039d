import QueryHeaders.Proofs.CommandLine.Validation
import QueryHeaders.Proofs.Diagnosis
import QueryHeaders.Proofs.Text.Splicing

/-!
What the diagnosing command prints.

The files are taken one by one, and what is printed on a file depends on this file alone: a report if
it can be read, and an error if not. No file stops the command, and only a file that cannot be read
makes it fail.
-/
namespace QueryHeaders

/-! ## One report -/

namespace Diagnosis

/-- What there is to say of the documents of a text. -/
def findingOn (path content : String) : String :=
  match Loading.documents content path with
  | .ok vs => "Number of YAML documents found: " ++ toString vs.length
  | .error failure => "Error during diagnosis: " ++ failure.message

theorem verdictLine_ofText (path content : String) :
    (ofText path content).verdictLine = findingOn path content := by
  rw [verdictLine, findingOn]
  cases parsed : Loading.documents content path with
  | ok vs =>
      obtain ⟨shapes, silent⟩ := ofText_of_documents parsed
      simp only [shapes, silent, List.length_map]
  | error failure =>
      obtain ⟨_, told⟩ := ofText_of_documents_error parsed
      simp only [told]

theorem findingOn_mem_displayLines (path content : String) :
    findingOn path content ∈ (ofText path content).displayLines := by
  rw [← verdictLine_ofText, displayLines]
  simp

end Diagnosis

/-! ## All files -/

namespace Command

variable {t : FileTree} {c : ValidateSettings} {fs : List String}

/-- The report on a file that can be read. -/
def reportOn? (t : FileTree) (path : String) : Option String :=
  match t.readText path with
  | .ok content => some (Diagnosis.ofText path content).display
  | .error _ => none

/-- The line on a file that cannot be read. -/
def errorOn? (t : FileTree) (path : String) : Option String :=
  match t.readText path with
  | .ok _ => none
  | .error fault => some (Outcome.errorLine (Loading.readFailure path fault).message)

/-- What is printed on some files, and the status. -/
def diagnosed (t : FileTree) (fs : List String) : Outcome where
  status := if fs.any fun path => (errorOn? t path).isSome then 1 else 0
  stdout := String.join (fs.filterMap (reportOn? t))
  stderr := Text.ofLines (fs.filterMap (errorOn? t))

/-- What is printed on one more file stands before what is printed on the others. -/
theorem diagnosed_cons (t : FileTree) (path : String) (rest : List String) :
    diagnosed t (path :: rest) =
      (Outcome.ofDiagnosis ((Diagnosis.ofFile path).onTree t).1).andThen (diagnosed t rest) := by
  rw [Diagnosis.onTree_ofFile, diagnosed, diagnosed, List.any_cons, List.filterMap_cons,
    List.filterMap_cons, reportOn?, errorOn?]
  cases t.readText path with
  | ok content => simp [Except.mapError, Except.map, Outcome.ofDiagnosis, Outcome.andThen]
  | error fault =>
      simp only [Except.mapError, Except.map, Outcome.ofDiagnosis, Outcome.andThen,
        Option.isSome_some, Bool.true_or, if_true, String.empty_append,
        ← Text.ofLines_append, List.singleton_append]
      congr 1
      split <;> rfl

theorem run_diagnoseFiles (t : FileTree) (fs : List String) :
    (diagnoseFiles fs).run t = (diagnosed t fs, t) := by
  induction fs with
  | nil => rfl
  | cons path rest ih =>
      have first : Program.run t (Diagnosis.ofFile path).run =
          (((Diagnosis.ofFile path).onTree t).1, t) := by
        rw [← Job.onTree, Diagnosis.onTree_ofFile]
      rw [diagnosed_cons, diagnoseFiles, Program.run_bind, first, Program.run_bind, ih]
      rfl

theorem run_diagnose (verbosity : Nat) (diagnoses : c.diagnose = true)
    (found : (Discovery.files (pathsOf c)).onTree t = (.ok fs, t)) (given : fs ≠ []) :
    ((Command.validate c).run verbosity).run t = (diagnosed t fs, t) := by
  have some : fs.isEmpty = false := List.isEmpty_eq_false_iff.mpr given
  rw [run, run_outcome, runValidate, run_bind, run_lift, found]
  simp only [some, diagnoses, Bool.false_eq_true, if_false, if_true]
  rw [run_exceptLift, run_diagnoseFiles]

theorem diagnosed_status_ne_zero_iff :
    (diagnosed t fs).status ≠ 0 ↔ ∃ path ∈ fs, ∃ fault, t.readText path = .error fault := by
  have unreadable (path : String) :
      (errorOn? t path).isSome = true ↔ ∃ fault, t.readText path = .error fault := by
    rw [errorOn?]
    cases t.readText path <;> simp
  simp [diagnosed, unreadable]

/-- What is printed on a file depends on this file alone. -/
theorem reported_or_failed (t : FileTree) (path : String) :
    (∃ content lines, t.readText path = .ok content ∧ errorOn? t path = none ∧
      reportOn? t path = some (Text.ofLines lines) ∧ Diagnosis.findingOn path content ∈ lines) ∨
    ∃ fault, t.readText path = .error fault ∧ reportOn? t path = none ∧
      errorOn? t path = some ("error: " ++ (Loading.readFailure path fault).message) := by
  rw [reportOn?, errorOn?]
  cases t.readText path with
  | ok content =>
      exact .inl ⟨content, (Diagnosis.ofText path content).displayLines, rfl, rfl, rfl,
        Diagnosis.findingOn_mem_displayLines path content⟩
  | error fault => exact .inr ⟨fault, rfl, rfl, rfl⟩

/-- A diagnosis reports on every file that can be read and has an error for every other one, in the
order of the files; it fails exactly if there is one that cannot be read, whatever the schema, the
rule of strictness and the contents of the files. -/
theorem diagnose_reports_every_file (verbosity : Nat) (diagnoses : c.diagnose = true)
    (found : (Discovery.files (if c.paths = [] then ["queries.yaml"] else c.paths)).onTree t =
      (.ok fs, t)) (given : fs ≠ []) :
    let ran := ((Command.validate c).run verbosity).run t
    ran.2 = t ∧
    ran.1.stdout = String.join (fs.filterMap (reportOn? t)) ∧
    ran.1.stderr = Text.ofLines (fs.filterMap (errorOn? t)) ∧
    (∀ path ∈ fs,
      (∃ content lines, t.readText path = .ok content ∧ errorOn? t path = none ∧
        reportOn? t path = some (Text.ofLines lines) ∧
        Diagnosis.findingOn path content ∈ lines) ∨
      ∃ fault, t.readText path = .error fault ∧ reportOn? t path = none ∧
        errorOn? t path = some ("error: " ++ (Loading.readFailure path fault).message)) ∧
    (ran.1.status ≠ 0 ↔ ∃ path ∈ fs, ∃ fault, t.readText path = .error fault) ∧
    ∀ schemaPath strict other,
      ((Command.validate { c with schemaPath, strict }).run other).run t = ran := by
  intro ran
  rw [← pathsOf_eq] at found
  have printed : ran = (diagnosed t fs, t) := run_diagnose verbosity diagnoses found given
  rw [printed]
  refine ⟨rfl, rfl, rfl, fun path _ => reported_or_failed t path, diagnosed_status_ne_zero_iff, ?_⟩
  intro schemaPath strict other
  exact run_diagnose other diagnoses found given

/-- A tree with a file that is no YAML and a file of two documents. -/
def brokenTree : FileTree :=
  ((FileTree.empty.write "bad.yaml" (.text "a: [\n")).2.write "two.yaml"
    (.text "a: 1\n---\nb: 2\n")).2

/-- The files of the tree, with one between them that is not there, under a schema that is not there
either. -/
def brokenFiles : ValidateSettings where
  paths := ["bad.yaml", "gone.yaml", "two.yaml"]
  schemaPath := some "gone.json"
  strict := true
  diagnose := true

theorem diagnose_reports_every_file_brokenTree :
    let ran := (((Command.validate brokenFiles).run 0).run brokenTree).1
    ran.stdout = (Diagnosis.ofText "bad.yaml" "a: [\n").display ++
      (Diagnosis.ofText "two.yaml" "a: 1\n---\nb: 2\n").display ∧
    ran.stderr = "error: file not found: gone.yaml\n" ∧ ran.status ≠ 0 ∧
    Diagnosis.findingOn "two.yaml" "a: 1\n---\nb: 2\n" = "Number of YAML documents found: 2" ∧
    (Diagnosis.ofText "bad.yaml" "a: [\n").problem.isSome = true := by
  have found : (Discovery.files (if brokenFiles.paths = [] then ["queries.yaml"]
      else brokenFiles.paths)).onTree brokenTree =
        (.ok ["bad.yaml", "gone.yaml", "two.yaml"], brokenTree) := by
    rw [Discovery.onTree_files]
    have same : (if brokenFiles.paths = [] then ["queries.yaml"] else brokenFiles.paths).flatMap
        (Discovery.filesAt brokenTree) = ["bad.yaml", "gone.yaml", "two.yaml"] := by
      decide +kernel
    rw [same]
  obtain ⟨_, stdout, stderr, _, status, _⟩ :=
    diagnose_reports_every_file 0 rfl found (List.cons_ne_nil _ _)
  have bad : brokenTree.readText "bad.yaml" = .ok "a: [\n" := rfl
  have gone : brokenTree.readText "gone.yaml" = .error .notFound := rfl
  have two : brokenTree.readText "two.yaml" = .ok "a: 1\n---\nb: 2\n" := rfl
  refine ⟨?_, ?_, ?_, by decide +kernel, by decide +kernel⟩
  · rw [stdout]
    simp [reportOn?, bad, gone, two]
  · rw [stderr]
    simp only [errorOn?, bad, gone, two, List.filterMap_cons, List.filterMap_nil]
    decide +kernel
  · exact status.mpr ⟨"gone.yaml", by decide, .notFound, gone⟩

end Command

end QueryHeaders
