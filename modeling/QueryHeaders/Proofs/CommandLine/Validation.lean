import QueryHeaders.CommandLine.Outcome
import QueryHeaders.Proofs.Batch
import QueryHeaders.Proofs.Disk.Listing
import QueryHeaders.Proofs.Selection

/-!
What the validating command has done when it succeeds: it has found its files, loaded its schema and,
under the strict rule, found nothing wrong with any of the files.
-/
namespace QueryHeaders

variable {t : FileTree} {path : String} {paths found : List String} {v : Validator}
  {c : ValidateSettings} {verbosity : Nat}

/-! ## Files -/

namespace Discovery

/-- The files that a path stands for on a tree. -/
def filesAt (t : FileTree) (path : String) : List String :=
  if t.kind? path = some .directory then
    definitionPaths path ((t.list path).toOption.getD [])
  else [path]

theorem onTree_expand (t : FileTree) (path : String) :
    (expand path).onTree t = (.ok (filesAt t path), t) := by
  rw [expand, filesAt, Job.onTree_bind, Job.onTree_lift, Program.run_kind]
  match h : t.kind? path with
  | some .directory =>
      obtain ⟨_, located, stands⟩ := FileTree.kind?_eq_directory_iff.mp h
      obtain ⟨entries, listed, _⟩ := FileTree.list_of_opens located stands
      have answered : (Program.list path).run t = (.ok entries, t) := Prod.ext listed rfl
      simp only [Job.onTree_bind, Job.onTree_require, answered, listed]
      rfl
  | some .file => rfl
  | none => rfl

/-- On a tree the files are always found, and nothing changes. -/
theorem onTree_files (t : FileTree) (paths : List String) :
    (files paths).onTree t = (.ok (paths.flatMap (filesAt t)), t) := by
  induction paths with
  | nil => rfl
  | cons path rest ih =>
      rw [files, Job.onTree_bind, onTree_expand]
      simp only [Job.onTree_bind, ih]
      rfl

theorem mem_files (h : (files paths).onTree t = (.ok found, t)) (member : path ∈ paths)
    (plain : t.kind? path ≠ some .directory) : path ∈ found := by
  rw [onTree_files] at h
  cases h
  refine List.mem_flatMap.mpr ⟨path, member, ?_⟩
  rw [filesAt, if_neg plain]
  exact List.mem_singleton_self path

end Discovery

/-! ## Commands -/

namespace Command

variable {α β : Type}

theorem run_bind (t : FileTree) (job : ExceptT CommandFailure Program α)
    (next : α → ExceptT CommandFailure Program β) :
    Program.run t (job >>= next).run =
      match Program.run t job.run with
      | (.ok a, u) => Program.run u (next a).run
      | (.error failure, u) => (.error failure, u) := by
  rw [ExceptT.run_bind, Program.run_bind]
  rcases Program.run t (ExceptT.run job) with ⟨_ | _, u⟩ <;> rfl

theorem run_exceptLift (t : FileTree) (p : Program α) :
    Program.run t (ExceptT.lift p : ExceptT CommandFailure Program α).run =
      (.ok (p.run t).1, (p.run t).2) :=
  Program.run_bind t p _

theorem run_lift (t : FileTree) (job : Job α) :
    Program.run t (lift job).run =
      match job.onTree t with
      | (.ok a, u) => (.ok a, u)
      | (.error failure, u) => (.error (.failure failure), u) := by
  rw [lift, run_bind, run_exceptLift, Job.onTree]
  rcases Program.run t (ExceptT.run job) with ⟨_ | _, u⟩ <;> rfl

theorem run_outcome (t : FileTree) (verbosity : Nat) (job : ExceptT CommandFailure Program Outcome) :
    Program.run t (outcome verbosity job) =
      match Program.run t job.run with
      | (.ok o, u) => (o, u)
      | (.error failure, u) => (Outcome.ofFailure verbosity failure, u) := by
  rw [outcome, Program.run_bind]
  rcases Program.run t (ExceptT.run job) with ⟨_ | _, u⟩ <;> rfl

/-- Under the strict rule a batch is a success exactly if nothing is wrong with it. -/
theorem ofBatch_strict_status {files : List BatchFile} {r : BatchReport} :
    (Outcome.ofBatch verbosity true v files r).status = 0 ↔ r.allValid = true := by
  rw [Outcome.ofBatch, BatchReport.allValid]
  cases r.failures <;> simp

theorem run_validateFiles (loads : Validator.Loads t c.schemaPath v) (found : List String) :
    Program.run t (validateFiles verbosity c found).run =
      (.ok (Outcome.ofBatch verbosity c.strict v (found.map fun path => ⟨path, path⟩)
        ((v.checkBatch (found.map fun path => ⟨path, path⟩)).run t).1), t) := by
  rw [validateFiles, run_bind, run_lift, Validator.choose_eq_ok_iff.mpr loads]
  simp only
  rw [run_bind, run_exceptLift, Validator.run_checkBatch]
  rfl

theorem pathsOf_eq (c : ValidateSettings) :
    pathsOf c = if c.paths = [] then ["queries.yaml"] else c.paths := by
  simp only [pathsOf, List.isEmpty_iff]

/-- The files that the command is about. -/
def filesOf (t : FileTree) (c : ValidateSettings) : List String :=
  (pathsOf c).flatMap (Discovery.filesAt t)

theorem run_validate_of_nil (missing : filesOf t c = []) :
    ((Command.validate c).run verbosity).run t =
      (Outcome.ofFailure verbosity (.noDefinitionFiles (pathsOf c)), t) := by
  rw [filesOf] at missing
  rw [run, run_outcome, runValidate, run_bind, run_lift, Discovery.onTree_files, missing]
  rfl

theorem run_validate_of_ne_nil (given : filesOf t c ≠ []) (checks : c.diagnose = false) :
    ((Command.validate c).run verbosity).run t =
      match Program.run t (validateFiles verbosity c (filesOf t c)).run with
      | (.ok o, u) => (o, u)
      | (.error failure, u) => (Outcome.ofFailure verbosity failure, u) := by
  have some : (filesOf t c).isEmpty = false := List.isEmpty_eq_false_iff.mpr given
  rw [filesOf] at some ⊢
  rw [run, run_outcome, runValidate, run_bind, run_lift, Discovery.onTree_files]
  simp only [some, checks, Bool.false_eq_true, if_false]

theorem run_validate_of_loads (given : filesOf t c ≠ []) (checks : c.diagnose = false)
    (loads : Validator.Loads t c.schemaPath v) :
    ((Command.validate c).run verbosity).run t =
      (Outcome.ofBatch verbosity c.strict v ((filesOf t c).map fun path => ⟨path, path⟩)
        ((v.checkBatch ((filesOf t c).map fun path => ⟨path, path⟩)).run t).1, t) := by
  rw [run_validate_of_ne_nil given checks, run_validateFiles loads]

theorem run_validate_of_not_loads (verbosity : Nat) (given : filesOf t c ≠ [])
    (checks : c.diagnose = false) (unavailable : ¬ ∃ v, Validator.Loads t c.schemaPath v) :
    ∃ failure, ((Command.validate c).run verbosity).run t =
      (Outcome.ofFailure verbosity (.failure failure), t) := by
  obtain ⟨path, reason, _, failed⟩ := Validator.choose_of_not unavailable
  refine ⟨.schemaUnavailable path reason, ?_⟩
  rw [run_validate_of_ne_nil given checks, validateFiles, run_bind, run_lift, failed]

/-- A strict validation that succeeds has found nothing wrong with any of its files. -/
theorem checkFile_of_validate (strict : c.strict = true) (checks : c.diagnose = false)
    (success : ((run verbosity (.validate c)).run t).1.status = 0) :
    ∃ found v, (Discovery.files (pathsOf c)).onTree t = (.ok found, t) ∧
      Validator.Loads t c.schemaPath v ∧
      ∀ path ∈ found, ((v.checkFile path).onTree t).1 = .ok () := by
  by_cases given : filesOf t c = []
  · rw [run_validate_of_nil given] at success
    exact absurd success Nat.one_ne_zero
  · by_cases available : ∃ v, Validator.Loads t c.schemaPath v
    · obtain ⟨v, loads⟩ := available
      rw [run_validate_of_loads given checks loads, strict] at success
      have valid := Validator.allValid_checkBatch_iff.mp (ofBatch_strict_status.mp success)
      exact ⟨filesOf t c, v, Discovery.onTree_files t _, loads, List.forall_mem_map.mp valid⟩
    · obtain ⟨failure, failed⟩ := run_validate_of_not_loads verbosity given checks available
      rw [failed] at success
      exact absurd success Nat.one_ne_zero

end Command

end QueryHeaders
