import Mathlib.Data.List.Basic
import QueryHeaders.Proofs.CommandLine.Validation

/-!
The verdict of a validation.

What is printed on each file, what is counted below the files and the status of the command all come
from a report on positions, and all of them say what the check of each file says on its own.
-/
namespace QueryHeaders

theorem Validator.Loads.unique {t : FileTree} {schemaPath : Option String} {v w : Validator}
    (hv : Loads t schemaPath v) (hw : Loads t schemaPath w) : v = w := by
  have same := (choose_eq_ok_iff.mpr hv).symm.trans (choose_eq_ok_iff.mpr hw)
  cases same
  rfl

theorem Failure.isUnreadable_iff {failure : Failure} :
    failure.isUnreadable = true ↔
      (∃ path, failure = .notFound path) ∨ ∃ path fault, failure = .unreadable path fault := by
  cases failure <;> simp [isUnreadable]

namespace Command

variable {t : FileTree} {v : Validator} {c : ValidateSettings} {fs : List String}

/-- The files of a batch, each under its own path. -/
def batchOf (fs : List String) : List BatchFile := fs.map fun path => ⟨path, path⟩

/-- The lines on a file, which its verdict opens. -/
def verdictLines (v : Validator) (t : FileTree) (path : String) : List String :=
  match ((v.checkFile path).onTree t).1 with
  | .ok () => ["✓ " ++ path ++ ": validation passed"]
  | .error failure => ("✗ " ++ path ++ ": validation failed") :: Outcome.detailLines failure

/-- How many files pass. -/
def passing (v : Validator) (t : FileTree) (fs : List String) : Nat :=
  fs.countP fun path => ((v.checkFile path).onTree t).1.isOk

def countLines (passing files : Nat) : List String :=
  if 2 ≤ files then ["", toString passing ++ "/" ++ toString files ++ " files valid"] else []

theorem fileLines_checkFailure? (v : Validator) (t : FileTree) (path : String) :
    Outcome.fileLines path (v.checkFailure? t path) = verdictLines v t path := by
  rw [verdictLines, Validator.checkFailure?]
  cases ((v.checkFile path).onTree t).1 <;> rfl

theorem length_failures_batchOf (v : Validator) (t : FileTree) (fs : List String) :
    ((v.checkBatch (batchOf fs)).run t).1.failures.length + passing v t fs = fs.length := by
  have counted := Validator.length_failures_checkBatch v t (batchOf fs)
  rw [batchOf, List.countP_map, List.length_map] at counted
  exact counted

theorem checked_checkBatch (v : Validator) (t : FileTree) (fs : List String) :
    ((v.checkBatch (batchOf fs)).run t).1.checked = fs.length := by
  rw [Validator.run_checkBatch, batchOf, List.length_map]

theorem summaryLines_checkBatch (v : Validator) (t : FileTree) (fs : List String) :
    Outcome.summaryLines ((v.checkBatch (batchOf fs)).run t).1 =
      countLines (passing v t fs) fs.length := by
  have counted := length_failures_batchOf v t fs
  have left : fs.length - ((v.checkBatch (batchOf fs)).run t).1.failures.length =
      passing v t fs := by omega
  rw [Outcome.summaryLines, checked_checkBatch, left]
  rfl

/-- The lines of a batch are the lines on its files one after the other, and a count. -/
theorem batchLines_checkBatch (v : Validator) (t : FileTree) (fs : List String) :
    Outcome.batchLines (batchOf fs) ((v.checkBatch (batchOf fs)).run t).1 =
      fs.flatMap (verdictLines v t) ++ countLines (passing v t fs) fs.length := by
  have each : ∀ placed ∈ (batchOf fs).zipIdx,
      Outcome.fileLines placed.1.name
        ((((v.checkBatch (batchOf fs)).run t).1.failureAt? placed.2).map BatchFailure.failure) =
        verdictLines v t placed.1.path := by
    rintro ⟨file, index⟩ placed
    obtain ⟨path, _, rfl⟩ := List.mem_map.mp (List.fst_mem_of_mem_zipIdx placed)
    rw [Validator.failureAt?_checkBatch placed, fileLines_checkFailure?]
  have positions : (batchOf fs).zipIdx.flatMap (fun placed => verdictLines v t placed.1.path) =
      fs.flatMap (verdictLines v t) := by
    rw [← List.flatMap_map Prod.fst fun file : BatchFile => verdictLines v t file.path,
      List.zipIdx_map_fst, batchOf, List.flatMap_map]
  rw [Outcome.batchLines, summaryLines_checkBatch, List.flatMap_congr each, positions]

/-- Both rules for a failing command ask for a file with a failure of some kind. -/
theorem ofBatch_status_ne_zero_iff {verbosity : Nat} {strict : Bool} :
    (Outcome.ofBatch verbosity strict v (batchOf fs)
        ((v.checkBatch (batchOf fs)).run t).1).status ≠ 0 ↔
      ∃ path ∈ fs, ∃ failure, ((v.checkFile path).onTree t).1 = .error failure ∧
        (failure.isUnreadable = true ∨ strict = true) := by
  have rules (r : BatchReport) :
      (r.failures.any (·.failure.isUnreadable) || (strict && !r.allValid)) =
        r.failures.any fun x => x.failure.isUnreadable || strict := by
    rw [BatchReport.allValid]
    cases strict <;> cases r.failures <;> simp
  have counts (b : Bool) : (if b then 1 else 0) ≠ 0 ↔ b = true := by
    cases b <;> simp
  rw [Outcome.ofBatch, rules, counts,
    Validator.any_checkBatch_iff (P := fun failure => failure.isUnreadable || strict), batchOf]
  simp only [List.mem_map, exists_exists_and_eq_and, Bool.or_eq_true]

/-- A validation fails if there is nothing to validate, if its schema cannot be loaded, or if there
is a file that cannot be read or, under the strict rule, any that does not pass. -/
theorem validate_verdict (c : ValidateSettings) (t : FileTree) (verbosity : Nat)
    (checks : c.diagnose = false) :
    let fs := filesOf t c
    let ran := ((Command.validate c).run verbosity).run t
    (Discovery.files (if c.paths = [] then ["queries.yaml"] else c.paths)).onTree t = (.ok fs, t) ∧
    ran.2 = t ∧
    (ran.1.status ≠ 0 ↔
      fs = [] ∨ (¬ ∃ v, (Validator.choose c.schemaPath).onTree t = (.ok v, t)) ∨
      ∃ v, (Validator.choose c.schemaPath).onTree t = (.ok v, t) ∧
        ∃ path ∈ fs, ∃ failure, ((v.checkFile path).onTree t).1 = .error failure ∧
          ((∃ path, failure = .notFound path) ∨ (∃ path fault, failure = .unreadable path fault) ∨
            c.strict = true)) ∧
    ∀ v, (Validator.choose c.schemaPath).onTree t = (.ok v, t) → fs ≠ [] →
      let report := ((v.checkBatch (batchOf fs)).run t).1
      report.checked = fs.length ∧ report.failures.length ≤ report.checked ∧
      report.checked - report.failures.length = passing v t fs ∧
      ran.1.stdout = Text.ofLines (Outcome.openingLines verbosity v (batchOf fs) ++
        (fs.flatMap (verdictLines v t) ++ countLines (passing v t fs) fs.length)) := by
  intro fs ran
  simp only [← pathsOf_eq, Validator.choose_eq_ok_iff]
  refine ⟨Discovery.onTree_files t _, ?_⟩
  by_cases missing : fs = []
  · have failed : ran = _ := run_validate_of_nil missing
    rw [failed]
    exact ⟨rfl, ⟨fun _ => .inl missing, fun _ => Nat.one_ne_zero⟩, fun v _ given =>
      absurd missing given⟩
  · by_cases available : ∃ v, Validator.Loads t c.schemaPath v
    · obtain ⟨v, loads⟩ := available
      have checked : ran = _ := run_validate_of_loads missing checks loads
      rw [checked]
      refine ⟨rfl, ⟨fun failed => ?_, ?_⟩, fun w others _ => ?_⟩
      · obtain ⟨path, member, failure, wrong, why⟩ := ofBatch_status_ne_zero_iff.mp failed
        rw [Failure.isUnreadable_iff, or_assoc] at why
        exact .inr (.inr ⟨v, loads, path, member, failure, wrong, why⟩)
      · rintro (none | unavailable | ⟨w, others, path, member, failure, wrong, why⟩)
        · exact absurd none missing
        · exact absurd ⟨v, loads⟩ unavailable
        · cases others.unique loads
          rw [← or_assoc, ← Failure.isUnreadable_iff] at why
          exact ofBatch_status_ne_zero_iff.mpr ⟨path, member, failure, wrong, why⟩
      · cases others.unique loads
        have counted := length_failures_batchOf v t fs
        rw [checked_checkBatch]
        refine ⟨rfl, by omega, by omega, ?_⟩
        rw [← batchLines_checkBatch]
        rfl
    · obtain ⟨failure, failed⟩ :=
        run_validate_of_not_loads verbosity missing checks available
      have failed : ran = _ := failed
      rw [failed]
      exact ⟨rfl, ⟨fun _ => .inr (.inl available), fun _ => Nat.one_ne_zero⟩, fun v loads =>
        absurd ⟨v, loads⟩ available⟩

/-- A tree with one definitions file. -/
def singleTree : FileTree := (FileTree.empty.write "a.yaml" (.text "queries: []\n")).2

/-- The file, one that is missing, and the file again. -/
def threePaths : ValidateSettings where
  paths := ["a.yaml", "b.yaml", "a.yaml"]

theorem validate_verdict_singleTree :
    (((Command.validate threePaths).run 0).run singleTree).1.status ≠ 0 ∧
    (((Command.validate threePaths).run 0).run singleTree).1.stdout = Text.ofLines [
      "✓ a.yaml: validation passed",
      "✗ b.yaml: validation failed",
      "    file not found: b.yaml",
      "✓ a.yaml: validation passed",
      "",
      "2/3 files valid"] := by
  obtain ⟨_, _, status, printed⟩ := validate_verdict threePaths singleTree 0 rfl
  have chosen : (Validator.choose threePaths.schemaPath).onTree singleTree =
      (.ok .builtIn, singleTree) := Validator.choose_eq_ok_iff.mpr .builtIn
  have found : filesOf singleTree threePaths = ["a.yaml", "b.yaml", "a.yaml"] := by decide +kernel
  have absent : Validator.builtIn.checkFailure? singleTree "b.yaml" = some (.notFound "b.yaml") := by
    decide +kernel
  have lines : ["a.yaml", "b.yaml", "a.yaml"].flatMap (verdictLines .builtIn singleTree) = [
      "✓ a.yaml: validation passed",
      "✗ b.yaml: validation failed",
      "    file not found: b.yaml",
      "✓ a.yaml: validation passed"] := by decide +kernel
  have counts : passing .builtIn singleTree ["a.yaml", "b.yaml", "a.yaml"] = 2 := by
    decide +kernel
  rw [found] at status printed
  obtain ⟨_, _, _, stdout⟩ := printed .builtIn chosen (List.cons_ne_nil _ _)
  have wrong := Validator.checkFailure?_eq_some_iff.mp absent
  constructor
  · rw [status]
    exact .inr (.inr ⟨.builtIn, chosen, "b.yaml", by decide, _, wrong, .inl ⟨"b.yaml", rfl⟩⟩)
  · have last : countLines 2 ["a.yaml", "b.yaml", "a.yaml"].length = ["", "2/3 files valid"] := by
      decide +kernel
    rw [stdout, lines, counts, last, Outcome.openingLines, if_pos rfl]
    rfl

end Command

end QueryHeaders
