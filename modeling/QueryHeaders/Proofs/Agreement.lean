import QueryHeaders.Proofs.CommandLine.Validation
import QueryHeaders.Proofs.Loading
import QueryHeaders.Proofs.Report

/-!
Validation and generation agree.

With the same schema both load and check the same document, so that what validation reports is what
generation reports, and a file that passes can only fail later: as its queries are read, as they are
decided on, or as the artifacts are written.
-/
namespace QueryHeaders

variable {s : Settings} {t u : FileTree} {v : Validator} {document : Json} {source : String}
  {failure : Failure}

theorem Validator.onTree_checkFile (v : Validator) (t : FileTree) (path : String) :
    ((v.checkFile path).onTree t).1 =
      ((Loading.ofFile path).onTree t).1 >>= fun document => v.checkJson document path := by
  rw [checkFile, Job.onTree_bind]
  rcases (Loading.ofFile path).onTree t with ⟨_ | _, u⟩ <;> rfl

theorem Validator.checkJson_ne_definition (e : DefinitionError) :
    v.checkJson document source ≠ .error (.definition e) := by
  rw [checkJson]
  split <;> simp

namespace Generation

theorem onTree_queries (loads : Validator.Loads t s.schemaPath v) (insists : s.policy ≠ .disabled) :
    ((queries s).onTree t).1 =
      ((Loading.ofFile s.definitions).onTree t).1 >>= queriesOf (some v) s.definitions := by
  rw [queries, Job.onTree_bind, Validator.resolve_of_loads loads insists]
  simp only
  rw [Job.onTree_bind]
  rcases (Loading.ofFile s.definitions).onTree t with ⟨_ | _, u⟩ <;> rfl

/-- Queries that nothing checks fail as the definitions do. -/
theorem queriesOf_none_eq_error_iff :
    queriesOf none source document = .error failure ↔
      ∃ e, Query.ofDocument document = .error e ∧ failure = .definition e := by
  simp only [queriesOf]
  cases Query.ofDocument document with
  | error e => simp [throw, throwThe, MonadExceptOf.throw, eq_comm]
  | ok queries => simp [pure, Except.pure]

/-- A file fails validation exactly as the reading of its queries fails before any definition is
looked at. -/
theorem checkFile_eq_error_iff (loads : Validator.Loads t s.schemaPath v)
    (insists : s.policy ≠ .disabled) :
    ((v.checkFile s.definitions).onTree t).1 = .error failure ↔
      ((queries s).onTree t).1 = .error failure ∧ ∀ e, failure ≠ .definition e := by
  rw [Validator.onTree_checkFile, onTree_queries loads insists, bind_eq_error, bind_eq_error]
  constructor
  · rintro (absent | ⟨document, loaded, broken⟩)
    · refine ⟨.inl absent, ?_⟩
      rintro e rfl
      exact Loading.ofFile_ne_definition e absent
    · refine ⟨.inr ⟨document, loaded, ?_⟩, ?_⟩
      · rw [queriesOf_some, broken]
        rfl
      · rintro e rfl
        exact Validator.checkJson_ne_definition e broken
  · rintro ⟨absent | ⟨document, loaded, failed⟩, early⟩
    · exact .inl absent
    · rw [queriesOf_some, bind_eq_error] at failed
      obtain broken | ⟨_, _, failed⟩ := failed
      · exact .inr ⟨document, loaded, broken⟩
      · obtain ⟨e, _, rfl⟩ := queriesOf_none_eq_error_iff.mp failed
        exact absurd rfl (early e)

/-- A failure after the definitions file has been checked: its entries are no queries, the queries
contradict the features, or the artifacts cannot be written. -/
inductive FailsLater (s : Settings) (t u : FileTree) : Failure → Prop where
  | reading {document : Json} {e : DefinitionError}
      (loaded : (Loading.ofFile s.definitions).onTree t = (.ok document, t))
      (unread : Query.ofDocument document = .error e) : FailsLater s t u (.definition e)
  | deciding {all : List Query} {e : DefinitionError}
      (read : (queries s).onTree t = (.ok all, t))
      (contradicts : enabledQueries s.features all = .error e) : FailsLater s t u (.definition e)
  | writing {report : GenerationReport} {failure : Failure}
      (rendered : (render s).onTree t = (.ok report, t))
      (unwritten : (Artifact.writeAll s.outputDir report.artifacts).onTree t =
        (.error failure, u)) : FailsLater s t u failure

/-- The queries of a file that passes validation fail to be read only as definitions. -/
theorem queries_failed_of_checkFile (loads : Validator.Loads t s.schemaPath v)
    (insists : s.policy ≠ .disabled)
    (valid : ((v.checkFile s.definitions).onTree t).1 = .ok ())
    (failed : ((queries s).onTree t).1 = .error failure) :
    ∃ document e, (Loading.ofFile s.definitions).onTree t = (.ok document, t) ∧
      Query.ofDocument document = .error e ∧ failure = .definition e := by
  rw [Validator.onTree_checkFile, bind_eq_ok] at valid
  obtain ⟨document, loaded, checked⟩ := valid
  rw [onTree_queries loads insists, loaded] at failed
  change queriesOf (some v) s.definitions document = _ at failed
  rw [queriesOf_some, checked] at failed
  change queriesOf none s.definitions document = _ at failed
  obtain ⟨e, unread, rfl⟩ := queriesOf_none_eq_error_iff.mp failed
  exact ⟨document, e, (Loading.keepsTree_ofFile _).onTree_eq_of_fst loaded, unread, rfl⟩

theorem failsLater_of_checkFile (loads : Validator.Loads t s.schemaPath v)
    (insists : s.policy ≠ .disabled)
    (valid : ((v.checkFile s.definitions).onTree t).1 = .ok ())
    (failed : (generate s).onTree t = (.error failure, u)) : FailsLater s t u failure := by
  obtain early | ⟨report, w, rendered, late⟩ := Job.onTree_bind_failed failed
  · obtain unread | ⟨all, w, read, undecided⟩ := Job.onTree_bind_failed early
    · have unread : ((queries s).onTree t).1 = .error failure := by rw [unread]
      obtain ⟨document, e, loaded, broken, rfl⟩ :=
        queries_failed_of_checkFile loads insists valid unread
      exact .reading loaded broken
    · obtain ⟨rfl, _⟩ := queries_eq_ok_iff.mp read
      rw [Job.onTree_ofExcept, reportOn] at undecided
      split at undecided
      · next e contradicts =>
          cases undecided
          exact .deciding read contradicts
      · cases undecided
  · obtain ⟨rfl, _⟩ := render_eq_ok_iff.mp rendered
    refine .writing rendered ?_
    by_cases dry : s.dryRun = true
    · simp [dry, Job.onTree_pure] at late
    · rw [if_neg dry] at late
      obtain unwritten | ⟨paths, w, _, done⟩ := Job.onTree_bind_failed late
      · exact unwritten
      · cases done

/-- Validation and generation give the same verdict on a file, and report the same failure; a file
that the strict validation passes fails only later in a generation. -/
theorem checkFile_agrees_with_generate
    (chosen : (Validator.choose s.schemaPath).onTree t = (.ok v, t))
    (insists : s.policy ≠ .disabled) :
    (∀ failure, ((v.checkFile s.definitions).onTree t).1 = .error failure ↔
      ((queries s).onTree t).1 = .error failure ∧ ∀ e, failure ≠ .definition e) ∧
    ∀ (c : ValidateSettings) (verbosity : Nat), c.schemaPath = s.schemaPath → c.strict = true →
      c.diagnose = false → s.definitions ∈ Command.pathsOf c →
      t.kind? s.definitions ≠ some .directory →
      (((Command.validate c).run verbosity).run t).1.status = 0 →
      ∀ failure u, (generate s).onTree t = (.error failure, u) → FailsLater s t u failure := by
  have loads := Validator.choose_eq_ok_iff.mp chosen
  refine ⟨fun failure => checkFile_eq_error_iff loads insists, ?_⟩
  intro c verbosity same strict checks named plain success failure u failed
  obtain ⟨found, w, discovered, others, valid⟩ :=
    Command.checkFile_of_validate strict checks success
  have alike := chosen.symm.trans (Validator.choose_eq_ok_iff.mpr (same ▸ others))
  cases alike
  exact failsLater_of_checkFile loads insists
    (valid s.definitions (Discovery.mem_files discovered named plain)) failed

def strictSettings : Settings where
  definitions := "queries.yaml"
  outputDir := "out"

/-- A tree whose definitions file breaks the schema. -/
def numberedTree : FileTree :=
  (FileTree.empty.write "queries.yaml" (.text "queries: 7\n")).2

/-- A tree whose definitions file has one query twice, which no schema can see. -/
def repeatedTree : FileTree :=
  let entry := "- {name: IQuery_Run, return_type: int, parameters: []}\n"
  (FileTree.empty.write "queries.yaml" (.text ("queries:\n" ++ entry ++ entry))).2

theorem checkFile_agrees_with_generate_repeatedTree :
    (∃ failure, ((Validator.builtIn.checkFile "queries.yaml").onTree numberedTree).1 =
        .error failure ∧
      ((queries strictSettings).onTree numberedTree).1 = .error failure) ∧
    ((Command.run 0 (.validate { strict := true })).run repeatedTree).1.status = 0 ∧
    ∃ failure u, (generate strictSettings).onTree repeatedTree = (.error failure, u) ∧
      FailsLater strictSettings repeatedTree u failure := by
  constructor
  · have broken : ((Validator.builtIn.checkFile "queries.yaml").onTree numberedTree).1.isOk =
        false := by decide +kernel
    have agree := (checkFile_agrees_with_generate (s := strictSettings) (t := numberedTree)
      (v := .builtIn) rfl nofun).1
    cases outcome : ((Validator.builtIn.checkFile "queries.yaml").onTree numberedTree).1 with
    | ok _ =>
        rw [outcome] at broken
        cases broken
    | error failure => exact ⟨failure, rfl, ((agree failure).mp outcome).1⟩
  · have success : ((Command.run 0 (.validate { strict := true })).run repeatedTree).1.status =
        0 := by decide +kernel
    have broken : ((generate strictSettings).onTree repeatedTree).1.isOk = false := by
      decide +kernel
    refine ⟨success, ?_⟩
    rcases outcome : (generate strictSettings).onTree repeatedTree with ⟨failure | report, u⟩
    · have agree := (checkFile_agrees_with_generate (s := strictSettings) (t := repeatedTree)
        (v := .builtIn) rfl nofun).2
      exact ⟨failure, u, rfl, agree { strict := true } 0 rfl rfl rfl (List.mem_singleton_self _)
        (by decide +kernel) success failure u outcome⟩
    · rw [outcome] at broken
      cases broken

end Generation

end QueryHeaders
