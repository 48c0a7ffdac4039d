import QueryHeaders.Proofs.Agreement
import QueryHeaders.Proofs.CommandLine.Listing
import QueryHeaders.Proofs.Regeneration

/-!
Dry runs.

A dry run does what a run that writes does up to the writing, of which making the output directory is
the first step. So both fail alike where the one that writes does not come to writing; and where that
succeeds, the texts that it has written are those that the dry run lists.
-/
namespace QueryHeaders

variable {α β : Type} {s : Settings} {t u : FileTree} {report draft : GenerationReport}
  {failure : Failure} {path : String}

/-! ## Failures of writing -/

def Failure.isUnwritable : Failure → Bool
  | .unwritable _ _ => true
  | _ => false

/-- A job does not fail in writing. -/
def Job.FailsUnwritten (job : Job α) : Prop :=
  ∀ t failure, (job.onTree t).1 = .error failure → failure.isUnwritable = false

namespace Job.FailsUnwritten

theorem pure (a : α) : (Pure.pure a : Job α).FailsUnwritten := nofun

theorem ofExcept {result : Except Failure α}
    (h : ∀ failure, result = .error failure → failure.isUnwritable = false) :
    Job.FailsUnwritten (liftM result) :=
  fun _ => h

theorem bind {job : Job α} {next : α → Job β} (hjob : job.FailsUnwritten)
    (hnext : ∀ a, (next a).FailsUnwritten) : (job >>= next).FailsUnwritten := by
  intro t failure failed
  rw [onTree_bind] at failed
  rcases first : job.onTree t with ⟨e | a, u⟩ <;> rw [first] at failed
  · cases failed
    exact hjob t failure (by rw [first])
  · exact hnext a u failure failed

theorem require {reason : Fault → Failure} (h : ∀ fault, (reason fault).isUnwritable = false)
    (p : Program (Except Fault α)) : (Job.require reason p).FailsUnwritten := by
  intro t failure failed
  rw [onTree_require] at failed
  rcases answer : p.run t with ⟨fault | a, u⟩ <;> rw [answer] at failed
  · cases failed
    exact h fault
  · cases failed

theorem map (f : α → β) {job : Job α} (hjob : job.FailsUnwritten) :
    Job.FailsUnwritten (f <$> job) := by
  intro t failure failed
  rw [onTree_map] at failed
  cases first : (job.onTree t).1 with
  | error e =>
      rw [first] at failed
      cases failed
      exact hjob t failure first
  | ok a =>
      rw [first] at failed
      cases failed

end Job.FailsUnwritten

theorem Loading.failsUnwritten_ofFile (path : String) : (Loading.ofFile path).FailsUnwritten := by
  refine .bind (.require (fun fault => ?_) _) fun content => .ofExcept fun failure failed => ?_
  · cases fault <;> rfl
  · obtain ⟨problem, rfl⟩ | rfl | ⟨count, rfl⟩ := ofText_eq_error failed <;> rfl

namespace Validator

theorem failsUnwritten_choose (schemaPath : Option String) :
    (choose schemaPath).FailsUnwritten := by
  intro t failure failed
  by_cases available : ∃ v, Loads t schemaPath v
  · obtain ⟨v, loads⟩ := available
    rw [choose_eq_ok_iff.mpr loads] at failed
    cases failed
  · obtain ⟨path, reason, _, refused⟩ := choose_of_not available
    rw [refused] at failed
    cases failed
    rfl

theorem failsUnwritten_resolve (policy : SchemaPolicy) (schemaPath : Option String) :
    (resolve policy schemaPath).FailsUnwritten := by
  cases policy with
  | disabled => exact .pure none
  | required => exact .map some (failsUnwritten_choose schemaPath)
  | bestEffort =>
      intro t failure failed
      rw [resolve, Job.onTree_tryCatch] at failed
      rcases chosen : Job.onTree (some <$> choose schemaPath) t with ⟨e | v, u⟩ <;>
        rw [chosen] at failed <;> cases failed

theorem isUnwritable_of_checkJson {v : Validator} {document : Json} {source : String}
    (failed : v.checkJson document source = .error failure) : failure.isUnwritable = false := by
  rw [checkJson] at failed
  split at failed
  · cases failed
  · cases failed
    rfl

end Validator

namespace Generation

theorem isUnwritable_of_queriesOf {validator : Option Validator} {document : Json} {source : String}
    (failed : queriesOf validator source document = .error failure) :
    failure.isUnwritable = false := by
  have unchecked : queriesOf none source document = .error failure →
      failure.isUnwritable = false := by
    intro failed
    obtain ⟨e, _, rfl⟩ := queriesOf_none_eq_error_iff.mp failed
    rfl
  cases validator with
  | none => exact unchecked failed
  | some v =>
      rw [queriesOf_some, bind_eq_error] at failed
      obtain broken | ⟨_, _, failed⟩ := failed
      · exact Validator.isUnwritable_of_checkJson broken
      · exact unchecked failed

theorem failsUnwritten_render (s : Settings) : (render s).FailsUnwritten := by
  refine .bind ?_ fun all => .ofExcept fun failure failed => ?_
  · refine .bind (Validator.failsUnwritten_resolve s.policy s.schemaPath) fun _ => ?_
    refine .bind (Loading.failsUnwritten_ofFile s.definitions) fun _ => ?_
    exact .ofExcept fun _ => isUnwritable_of_queriesOf
  · rw [reportOn] at failed
    split at failed <;> cases failed
    rfl

end Generation

/-- Writing fails as nothing else. -/
theorem Artifact.isUnwritable_of_writeAll {directory : String} {rs : List Rendered}
    (failed : (writeAll directory rs).onTree t = (.error failure, u)) :
    failure.isUnwritable = true := by
  rcases made : t.makeDirectories directory with ⟨fault | _, v⟩
  · rw [writeAll_of_error made] at failed
    cases failed
    rfl
  · obtain ⟨d, opens⟩ := FileTree.opens_of_makeDirectories made
    obtain ⟨w, done, _⟩ | ⟨before, r, after, fault, w, _, _, stopped, _⟩ |
      ⟨before, r, after, fault, w, _, _, stopped, _⟩ := writeAll_of_ok made opens rs
    · rw [done] at failed
      cases failed
    · rw [stopped] at failed
      cases failed
      rfl
    · rw [stopped] at failed
      cases failed
      rfl

/-! ## Two runs of the same settings -/

/-- The settings of a dry run. -/
def Settings.dry (s : Settings) : Settings := { s with dryRun := true }

/-- The settings of a run that writes. -/
def Settings.writing (s : Settings) : Settings := { s with dryRun := false }

namespace Generation

theorem onTree_generate_dry (s : Settings) (t : FileTree) :
    (generate s.dry).onTree t = (render s).onTree t := by
  have rendered : render s.dry = render s := rfl
  have stops : s.dry.dryRun = true := rfl
  rw [generate, rendered, Job.onTree_bind, stops]
  rcases (render s).onTree t with ⟨_ | _, u⟩ <;> rfl

theorem generate_writing_eq_ok_iff :
    (generate s.writing).onTree t = (.ok report, u) ↔
      ∃ draft, (render s).onTree t = (.ok draft, t) ∧ ∃ paths,
        (Artifact.writeAll s.outputDir draft.artifacts).onTree t = (.ok paths, u) ∧
        report = { draft with written := paths } := by
  have rendered : render s.writing = render s := rfl
  have goesOn : s.writing.dryRun = false := rfl
  rw [generate_eq_ok_iff, rendered, goesOn]
  simp only [Bool.false_eq_true, false_and, false_or, true_and]
  rfl

/-- A run that writes fails as a dry run does, or in writing what a dry run gives. -/
theorem generate_writing_failed (failed : (generate s.writing).onTree t = (.error failure, u)) :
    (generate s.dry).onTree t = (.error failure, t) ∧ u = t ∧ failure.isUnwritable = false ∨
      ∃ draft, (generate s.dry).onTree t = (.ok draft, t) ∧
        (Artifact.writeAll s.outputDir draft.artifacts).onTree t = (.error failure, u) ∧
        failure.isUnwritable = true := by
  have goesOn : s.writing.dryRun = false := rfl
  rw [onTree_generate_dry]
  obtain early | ⟨draft, v, rendered, late⟩ := Job.onTree_bind_failed failed
  · change (render s).onTree t = _ at early
    have kept := keepsTree_render s t
    change ((render s).onTree t).2 = t at kept
    rw [early] at kept
    cases kept
    exact .inl ⟨early, rfl, failsUnwritten_render s u failure (by rw [early])⟩
  · change (render s).onTree t = _ at rendered
    obtain ⟨rfl, _⟩ := render_eq_ok_iff.mp rendered
    rw [goesOn, if_neg Bool.false_ne_true] at late
    obtain unwritten | ⟨paths, w, _, done⟩ := Job.onTree_bind_failed late
    · exact .inr ⟨draft, rendered, unwritten, Artifact.isUnwritable_of_writeAll unwritten⟩
    · cases done

end Generation

namespace Command

open Generation (render render_eq_ok_iff onTree_generate_dry generate_writing_eq_ok_iff
  generate_writing_failed nodup_artifacts_of_render)

theorem run_generate (verbosity : Nat) (s : Settings) (t : FileTree) :
    ((Command.generate s).run verbosity).run t =
      match (Generation.generate s).onTree t with
      | (.ok report, u) => (Outcome.ofGeneration s report, u)
      | (.error failure, u) => (Outcome.ofFailure verbosity (.failure failure), u) := by
  rw [run, run_outcome, runGenerate, run_bind, run_lift]
  rcases (Generation.generate s).onTree t with ⟨_ | _, u⟩ <;> rfl

theorem rendered_or_failed (s : Settings) (t : FileTree) :
    (∃ draft, (render s).onTree t = (.ok draft, t)) ∨
      ∃ failure, (render s).onTree t = (.error failure, t) := by
  rw [(Generation.keepsTree_render s).onTree_eq t]
  cases ((render s).onTree t).1 with
  | error failure => exact .inr ⟨failure, rfl⟩
  | ok draft => exact .inl ⟨draft, rfl⟩

theorem run_dry (rendered : (render s).onTree t = (.ok draft, t)) (verbosity : Nat) :
    ((Command.generate s.dry).run verbosity).run t = (Outcome.ofDryRun draft.artifacts, t) := by
  rw [run_generate, onTree_generate_dry, rendered]
  rfl

theorem artifacts_of_render (rendered : (render s).onTree t = (.ok draft, u)) :
    draft.artifacts.map Rendered.artifact = Artifact.all := by
  obtain ⟨_, _, _, _, kept, _, _, _, _, _, rfl⟩ := render_eq_ok_iff.mp rendered
  exact (List.map_map ..).trans (List.map_id _)

/-- The texts that a run has rendered are listed by a dry one. -/
theorem shows_of_render (rendered : (render s).onTree t = (.ok draft, u)) :
    (Outcome.ofDryRun draft.artifacts).Shows draft.artifacts := by
  obtain ⟨_, _, _, all, kept, _, _, _, read, enabled, rfl⟩ := render_eq_ok_iff.mp rendered
  exact Outcome.shows_renderAll fun q hq =>
    wellFormed_of_ofDocument read q (mem_of_mem_enabledQueries enabled hq)

/-- A dry run changes nothing, gives what rendering gives, and lists the texts. A run that writes
succeeds only with the same report, but for the paths, and with the listed text in each file; it
fails as the dry run does, or in writing what the dry run lists. -/
theorem dryRun_predicts_run (s : Settings) (t : FileTree) (verbosity : Nat) :
    let dry := ((Command.generate s.dry).run verbosity).run t
    let writing := ((Command.generate s.writing).run verbosity).run t
    (Generation.generate s.dry).onTree t = (render s).onTree t ∧ dry.2 = t ∧
    (dry.1.status = 0 ↔ ∃ draft, (render s).onTree t = (.ok draft, t)) ∧
    (∀ draft, (render s).onTree t = (.ok draft, t) →
      draft.artifacts.map Rendered.artifact = Artifact.all ∧ dry.1.Shows draft.artifacts) ∧
    (∀ report u, (Generation.generate s.writing).onTree t = (.ok report, u) →
      writing.1.status = 0 ∧ writing.2 = u ∧
      ∃ draft, (Generation.generate s.dry).onTree t = (.ok draft, t) ∧
        report = { draft with written := Artifact.all.map (Artifact.pathIn s.outputDir) } ∧
        ∀ a ∈ Artifact.all,
          u.readText (a.pathIn s.outputDir) = .ok (Outcome.shown a.fileName dry.1.stdout)) ∧
    ∀ failure u, (Generation.generate s.writing).onTree t = (.error failure, u) →
      writing.1.status ≠ 0 ∧ writing.2 = u ∧
      ((Generation.generate s.dry).onTree t = (.error failure, t) ∧ u = t ∧ dry.1 = writing.1 ∧
          failure.isUnwritable = false ∨
        ∃ draft, (Generation.generate s.dry).onTree t = (.ok draft, t) ∧
          (Artifact.writeAll s.outputDir draft.artifacts).onTree t = (.error failure, u) ∧
          failure.isUnwritable = true) := by
  refine ⟨onTree_generate_dry s t, ?_, ?_, fun draft rendered => ?_, fun report u ran => ?_,
    fun failure u ran => ?_⟩
  · rcases rendered_or_failed s t with ⟨draft, rendered⟩ | ⟨failure, failed⟩
    · rw [run_dry rendered]
    · rw [run_generate, onTree_generate_dry, failed]
  · rcases rendered_or_failed s t with ⟨draft, rendered⟩ | ⟨failure, failed⟩
    · rw [run_dry rendered, rendered]
      simp [Outcome.ofDryRun]
    · rw [run_generate, onTree_generate_dry, failed]
      simp [Outcome.ofFailure]
  · rw [run_dry rendered]
    exact ⟨artifacts_of_render rendered, shows_of_render rendered⟩
  · obtain ⟨draft, rendered, paths, wrote, rfl⟩ := generate_writing_eq_ok_iff.mp ran
    have distinct := nodup_artifacts_of_render rendered
    obtain ⟨rfl, written⟩ := (Artifact.write_succeeds_iff t s.outputDir distinct).2.1 _ _ wrote
    have named := artifacts_of_render rendered
    have shows := shows_of_render rendered
    rw [run_dry rendered, run_generate, ran, onTree_generate_dry]
    refine ⟨rfl, rfl, draft, rendered, ?_, fun a member => ?_⟩
    · rw [← named, List.map_map]
      rfl
    · rw [← named] at member
      obtain ⟨r, hr, rfl⟩ := List.mem_map.mp member
      rw [FileTree.readText_eq_ok_iff, written.home r hr, shows.shown r hr]
  · rw [run_generate, ran]
    refine ⟨Nat.one_ne_zero, rfl, ?_⟩
    rcases generate_writing_failed ran with ⟨failed, rfl, early⟩ | late
    · refine .inl ⟨failed, rfl, ?_, early⟩
      rw [run_generate, failed]
    · exact .inr late

/-- On a tree with definitions the dry run lists what the other run writes over the old text; on an
empty tree both fail alike. -/
theorem dryRun_predicts_run_oldOutputTree :
    let s := Generation.oldOutputSettings
    let dry t := (((Command.generate s.dry).run 0).run t).1
    let writing t := (((Command.generate s.writing).run 0).run t).1
    (∃ report u, (Generation.generate s.writing).onTree Generation.oldOutputTree = (.ok report, u) ∧
      u.readText "out/AuthConfig.hpp" =
        .ok (Outcome.shown "AuthConfig.hpp" (dry Generation.oldOutputTree).stdout)) ∧
    ∃ failure, (Generation.generate s.writing).onTree .empty = (.error failure, .empty) ∧
      dry .empty = writing .empty := by
  constructor
  · have succeeds : ((Generation.generate Generation.oldOutputSettings.writing).onTree
        Generation.oldOutputTree).1.isOk = true := by decide +kernel
    obtain ⟨report, ran⟩ := Job.onTree_eq_of_isOk succeeds
    obtain ⟨_, _, _, _, wrote, _⟩ :=
      dryRun_predicts_run Generation.oldOutputSettings Generation.oldOutputTree 0
    obtain ⟨_, _, _, _, _, files⟩ := wrote report _ ran
    exact ⟨report, _, ran, files .authentication (by decide)⟩
  · obtain ⟨_, _, _, _, _, failed⟩ := dryRun_predicts_run Generation.oldOutputSettings .empty 0
    obtain ⟨_, _, early | ⟨_, rendered, _⟩⟩ := failed _ _ rfl
    · exact ⟨_, rfl, early.2.2.1⟩
    · cases rendered

end Command

end QueryHeaders
