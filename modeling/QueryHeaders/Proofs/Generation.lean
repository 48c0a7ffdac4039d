import QueryHeaders.Generation
import QueryHeaders.Proofs.Disk.Job

/-!
Which parts of a run touch the disk: everything up to the artifacts' texts only reads, so that a run
that fails has changed nothing or has failed in writing.
-/
namespace QueryHeaders

theorem Program.keepsTree_kind (path : String) : (Program.kind path).KeepsTree :=
  fun _ => rfl

theorem Program.keepsTree_readText (path : String) : (Program.readText path).KeepsTree :=
  fun _ => rfl

theorem Loading.keepsTree_ofFile (path : String) : (Loading.ofFile path).KeepsTree :=
  Job.KeepsTree.bind (.require _ (Program.keepsTree_readText path)) fun _ => .ofExcept _

namespace Validator

theorem keepsTree_ofFile (path : String) : (Validator.ofFile path).KeepsTree := by
  refine Job.KeepsTree.bind (.lift (Program.keepsTree_kind path)) fun kind => ?_
  cases kind with
  | none => exact fun _ => rfl
  | some k =>
      exact Job.KeepsTree.bind (.require _ (Program.keepsTree_readText path)) fun _ => .ofExcept _

theorem keepsTree_choose (schemaPath : Option String) : (choose schemaPath).KeepsTree := by
  cases schemaPath with
  | none => exact fun _ => rfl
  | some path => exact keepsTree_ofFile path

theorem keepsTree_resolve (policy : SchemaPolicy) (schemaPath : Option String) :
    (resolve policy schemaPath).KeepsTree := by
  cases policy with
  | disabled => exact fun _ => rfl
  | required => exact Job.KeepsTree.map some (keepsTree_choose schemaPath)
  | bestEffort =>
      exact Job.KeepsTree.tryCatch (Job.KeepsTree.map some (keepsTree_choose schemaPath))
        fun _ _ => rfl

end Validator

namespace Generation

theorem keepsTree_queries (s : Settings) : (queries s).KeepsTree :=
  Job.KeepsTree.bind (Validator.keepsTree_resolve s.policy s.schemaPath) fun _ =>
    Job.KeepsTree.bind (Loading.keepsTree_ofFile s.definitions) fun _ => .ofExcept _

theorem keepsTree_render (s : Settings) : (render s).KeepsTree :=
  Job.KeepsTree.bind (keepsTree_queries s) fun _ => .ofExcept _

/-- A run that fails has left the tree as it was, unless it has failed in writing. -/
theorem generate_failed {s : Settings} {t u : FileTree} {failure : Failure}
    (failed : (generate s).onTree t = (.error failure, u)) :
    u = t ∨ ∃ report, (render s).onTree t = (.ok report, t) ∧
      (Artifact.writeAll s.outputDir report.artifacts).onTree t = (.error failure, u) := by
  have kept := keepsTree_render s t
  change ((render s).onTree t).2 = t at kept
  obtain early | ⟨report, v, rendered, late⟩ := Job.onTree_bind_failed failed
  · rw [early] at kept
    exact .inl kept
  · rw [rendered] at kept
    change v = t at kept
    subst kept
    refine .inr ⟨report, rendered, ?_⟩
    by_cases dry : s.dryRun = true
    · simp [dry, Job.onTree_pure] at late
    · rw [if_neg dry] at late
      obtain unwritten | ⟨paths, w, _, done⟩ := Job.onTree_bind_failed late
      · exact unwritten
      · cases done

end Generation

end QueryHeaders
