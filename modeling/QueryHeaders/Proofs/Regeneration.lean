import QueryHeaders.Proofs.Artifact.Completion
import QueryHeaders.Proofs.Report
import QueryHeaders.Proofs.Selection

/-!
A run that is repeated.

The report of a run depends on the definitions and the schema file only. If the run has not
overwritten one of these with its own artifacts, a second run renders the same texts, and finds
every one of them at its destination already.
-/
namespace QueryHeaders.Generation

variable {s : Settings} {t u : FileTree} {qs : List Query} {report draft : GenerationReport}

/-- The files that a run reads are the same in both trees, as far as they can be read. -/
structure SourcesAlike (s : Settings) (t u : FileTree) : Prop where
  definitions : t.ReadAlike u s.definitions
  schema : ∀ path, s.schemaPath = some path → t.ReadAlike u path

theorem render_of_sourcesAlike (alike : SourcesAlike s t u)
    (rendered : (render s).onTree t = (.ok report, t)) :
    (render s).onTree u = (.ok report, u) := by
  rw [render_eq_ok_iff] at rendered ⊢
  obtain ⟨_, validator, document, all, kept, resolved, loaded, rest⟩ := rendered
  refine ⟨rfl, validator, document, all, kept, ?_, ?_, rest⟩
  · exact Validator.resolve_of_readAlike alike.schema resolved
  · exact Loading.ofFile_of_readAlike alike.definitions loaded

theorem nodup_artifacts_renderAll (qs : List Query) :
    ((renderAll qs).map Rendered.artifact).Nodup := by
  have named : (renderAll qs).map Rendered.artifact = Artifact.all := by
    rw [renderAll, List.map_map]
    exact List.map_id _
  rw [named]
  decide

theorem nodup_artifacts_of_render (rendered : (render s).onTree t = (.ok draft, u)) :
    (draft.artifacts.map Rendered.artifact).Nodup := by
  obtain ⟨_, _, _, _, kept, _, _, _, _, _, rfl⟩ := render_eq_ok_iff.mp rendered
  exact nodup_artifacts_renderAll kept

/-- A run succeeds if its texts can be rendered, and written unless it is dry. -/
theorem generate_eq_ok_iff :
    (generate s).onTree t = (.ok report, u) ↔
      ∃ draft, (render s).onTree t = (.ok draft, t) ∧
        (s.dryRun = true ∧ report = draft ∧ u = t ∨
          s.dryRun = false ∧ ∃ paths,
            (Artifact.writeAll s.outputDir draft.artifacts).onTree t = (.ok paths, u) ∧
            report = { draft with written := paths }) := by
  rw [generate, Job.onTree_bind_eq_ok]
  constructor
  · intro ⟨draft, v, rendered, rest⟩
    obtain ⟨rfl, _⟩ := render_eq_ok_iff.mp rendered
    refine ⟨draft, rendered, ?_⟩
    by_cases dry : s.dryRun = true
    · rw [if_pos dry] at rest
      cases rest
      exact .inl ⟨dry, rfl, rfl⟩
    · rw [if_neg dry] at rest
      obtain ⟨paths, w, wrote, done⟩ := Job.onTree_bind_eq_ok.mp rest
      cases done
      exact .inr ⟨by simpa using dry, paths, wrote, rfl⟩
  · intro ⟨draft, rendered, rest⟩
    refine ⟨draft, t, rendered, ?_⟩
    rcases rest with dry | written
    · obtain ⟨dry, rfl, rfl⟩ := dry
      rw [if_pos dry]
      rfl
    · obtain ⟨wet, paths, wrote, rfl⟩ := written
      rw [if_neg (by simp [wet])]
      exact Job.onTree_bind_eq_ok.mpr ⟨paths, u, wrote, rfl⟩

/-- A run that has succeeded succeeds again with the same report, and leaves everything as it is. -/
theorem generate_again (ran : (generate s).onTree t = (.ok report, u))
    (alike : SourcesAlike s t u) :
    ∃ v, (generate s).onTree u = (.ok report, v) ∧ v.entry? = u.entry? := by
  obtain ⟨draft, rendered, dry | written⟩ := generate_eq_ok_iff.mp ran
  · obtain ⟨dry, rfl, rfl⟩ := dry
    exact ⟨u, ran, rfl⟩
  · obtain ⟨wet, paths, wrote, rfl⟩ := written
    have distinct := nodup_artifacts_of_render rendered
    obtain ⟨v, wroteAgain, same⟩ := Artifact.writeAll_again distinct wrote
    have renderedAgain := render_of_sourcesAlike alike rendered
    refine ⟨v, ?_, same⟩
    exact generate_eq_ok_iff.mpr ⟨draft, renderedAgain, .inr ⟨wet, paths, wroteAgain, rfl⟩⟩

/-- Definitions, a schema, and an old text at one destination. -/
def oldOutputTree : FileTree :=
  let definitions := "queries:\n- name: IQuery_Run\n  return_type: int\n  parameters: []\n"
  let defined := (FileTree.empty.write "all.yaml" (.text definitions)).2
  let described := (defined.write "any.json" (.text "true")).2
  let made := (described.makeDirectories "out").2
  (made.write "out/AuthConfig.hpp" (.text "old")).2

def oldOutputSettings : Settings where
  definitions := "all.yaml"
  outputDir := "out"
  schemaPath := some "any.json"
  policy := .required

theorem generate_again_oldOutputTree :
    ∃ report u v, (generate oldOutputSettings).onTree oldOutputTree = (.ok report, u) ∧
      SourcesAlike oldOutputSettings oldOutputTree u ∧
      (generate oldOutputSettings).onTree u = (.ok report, v) ∧ v.entry? = u.entry? := by
  obtain ⟨succeeds, definitions, schema⟩ :
      ((generate oldOutputSettings).onTree oldOutputTree).1.isOk = true ∧
        oldOutputTree.readText "all.yaml" =
          ((generate oldOutputSettings).onTree oldOutputTree).2.readText "all.yaml" ∧
        oldOutputTree.readText "any.json" =
          ((generate oldOutputSettings).onTree oldOutputTree).2.readText "any.json" := by
    decide +kernel
  obtain ⟨report, ran⟩ := Job.onTree_eq_of_isOk succeeds
  have alike : SourcesAlike oldOutputSettings oldOutputTree
      ((generate oldOutputSettings).onTree oldOutputTree).2 := by
    constructor
    · exact .of_eq definitions
    · intro path given
      obtain rfl : "any.json" = path := Option.some.inj given
      exact .of_eq schema
  obtain ⟨v, again, same⟩ := generate_again ran alike
  exact ⟨report, _, v, ran, alike, again, same⟩

end QueryHeaders.Generation
