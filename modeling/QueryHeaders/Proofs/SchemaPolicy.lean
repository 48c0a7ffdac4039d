import QueryHeaders.Proofs.Report
import QueryHeaders.Proofs.Selection

/-!
How the policies of a run differ.

They only choose the validator. A schema that can be loaded is used under all but the laxest policy;
where there is none, the strictest refuses to go on and the others do without. As a document is
accepted wherever nothing is asked of it, nothing is lost by being laxer.
-/
namespace QueryHeaders

/-- Where a policy comes among the policies, the laxest first. -/
def SchemaPolicy.strictness : SchemaPolicy → Nat
  | .disabled => 0
  | .bestEffort => 1
  | .required => 2

/-- The settings under another policy. -/
def Settings.under (s : Settings) (policy : SchemaPolicy) : Settings :=
  { s with policy := policy }

variable {s : Settings} {t u : FileTree} {policy strict lax : SchemaPolicy}
  {schemaPath : Option String} {chosen : Option Validator} {report : GenerationReport}
  {failure : Failure}

/-- A laxer policy chooses what a stricter one does, or no validator. -/
theorem Validator.resolve_of_laxer (laxer : lax.strictness ≤ strict.strictness)
    (resolved : (resolve strict schemaPath).onTree t = (.ok chosen, t)) :
    ∃ other, (resolve lax schemaPath).onTree t = (.ok other, t) ∧
      (other = none ∨ other = chosen) := by
  cases lax with
  | disabled => exact ⟨none, rfl, .inl rfl⟩
  | bestEffort =>
      by_cases available : ∃ v, Loads t schemaPath v
      · obtain ⟨v, loads⟩ := available
        have insists : strict ≠ .disabled := by
          intro disabled
          simp [disabled, SchemaPolicy.strictness] at laxer
        rw [resolve_of_loads loads insists] at resolved
        cases resolved
        exact ⟨some v, resolve_of_loads loads nofun, .inr rfl⟩
      · exact ⟨none, resolve_bestEffort_of_not available, .inl rfl⟩
  | required =>
      cases strict with
      | disabled | bestEffort => simp [SchemaPolicy.strictness] at laxer
      | required => exact ⟨chosen, resolved, .inr rfl⟩

namespace Generation

/-- Two policies that choose the same validator, or fail alike, make the same run. -/
theorem render_congr
    (same : (Validator.resolve strict s.schemaPath).onTree t =
      (Validator.resolve lax s.schemaPath).onTree t) :
    (render (s.under strict)).onTree t = (render (s.under lax)).onTree t := by
  have alike : (Validator.resolve (s.under strict).policy (s.under strict).schemaPath).onTree t =
      (Validator.resolve (s.under lax).policy (s.under lax).schemaPath).onTree t := same
  have queried : (queries (s.under strict)).onTree t = (queries (s.under lax)).onTree t := by
    rw [queries, queries, Job.onTree_bind, Job.onTree_bind, alike]
    rfl
  rw [render, render, Job.onTree_bind, Job.onTree_bind, queried]
  rfl

theorem render_of_unresolved
    (failed : (Validator.resolve s.policy s.schemaPath).onTree t = (.error failure, t)) :
    (render s).onTree t = (.error failure, t) := by
  rw [render, Job.onTree_bind, queries, Job.onTree_bind, failed]

theorem render_of_laxer (laxer : lax.strictness ≤ strict.strictness)
    (rendered : (render (s.under strict)).onTree t = (.ok report, u)) :
    (render (s.under lax)).onTree t = (.ok report, u) := by
  rw [render_eq_ok_iff] at rendered ⊢
  obtain ⟨rfl, validator, document, all, kept, resolved, loaded, accepts, rest⟩ := rendered
  obtain ⟨other, chosen, weaker⟩ := Validator.resolve_of_laxer laxer resolved
  refine ⟨rfl, other, document, all, kept, chosen, loaded, ?_, rest⟩
  intro v given
  rcases weaker with none | same
  · rw [none] at given
    cases given
  · exact accepts v (same ▸ given)

/-- Whether the schema can be loaded decides which two policies make the same run, and what the
strictest one reports; and a run that succeeds does so under every laxer policy. -/
theorem render_policies (s : Settings) (t : FileTree) :
    ((∃ v, Validator.Loads t s.schemaPath v) →
      (render (s.under .bestEffort)).onTree t = (render (s.under .required)).onTree t) ∧
    ((¬ ∃ v, Validator.Loads t s.schemaPath v) →
      (render (s.under .bestEffort)).onTree t = (render (s.under .disabled)).onTree t ∧
      ∃ path reason, s.schemaPath = some path ∧
        (render (s.under .required)).onTree t = (.error (.schemaUnavailable path reason), t)) ∧
    ∀ strict lax report u, lax.strictness ≤ strict.strictness →
      (render (s.under strict)).onTree t = (.ok report, u) →
      (render (s.under lax)).onTree t = (.ok report, u) := by
  refine ⟨?_, ?_, fun strict lax report u => render_of_laxer⟩
  · intro available
    obtain ⟨v, loads⟩ := available
    have best : (Validator.resolve .bestEffort s.schemaPath).onTree t = (.ok (some v), t) :=
      Validator.resolve_of_loads loads nofun
    have insisting : (Validator.resolve .required s.schemaPath).onTree t = (.ok (some v), t) :=
      Validator.resolve_of_loads loads nofun
    exact render_congr (best.trans insisting.symm)
  · intro unavailable
    constructor
    · apply render_congr
      exact Validator.resolve_bestEffort_of_not unavailable
    · obtain ⟨path, reason, given, failed⟩ := Validator.resolve_required_of_not unavailable
      exact ⟨path, reason, given, render_of_unresolved failed⟩

/-- Definitions, and a schema file that ends in the middle of a list. -/
def openSchemaTree : FileTree :=
  let definitions := "queries:\n- name: IQuery_Run\n  return_type: int\n  parameters: []\n"
  let defined := (FileTree.empty.write "all.yaml" (.text definitions)).2
  (defined.write "schema.json" (.text "[")).2

def absentSettings : Settings where
  definitions := "absent.yaml"
  outputDir := "out"
  schemaPath := some "schema.json"

def builtInSettings : Settings where
  definitions := "all.yaml"
  outputDir := "out"

theorem render_policies_openSchemaTree :
    (∃ reason, (render (absentSettings.under .required)).onTree openSchemaTree =
      (.error (.schemaUnavailable "schema.json" reason), openSchemaTree)) ∧
    (render (absentSettings.under .bestEffort)).onTree openSchemaTree =
      (.error (.notFound "absent.yaml"), openSchemaTree) ∧
    ∃ report u, (render (builtInSettings.under .required)).onTree openSchemaTree =
        (.ok report, u) ∧
      (render (builtInSettings.under .bestEffort)).onTree openSchemaTree = (.ok report, u) ∧
      (render (builtInSettings.under .disabled)).onTree openSchemaTree = (.ok report, u) := by
  have unavailable : ¬ ∃ v, Validator.Loads openSchemaTree (some "schema.json") v := by
    intro ⟨v, loads⟩
    cases loads with
    | file read parsed compiled =>
        cases read
        have failed : (Json.read Validator.nestingLimit "[").isOk = false := by decide +kernel
        rw [parsed] at failed
        cases failed
  obtain ⟨_, lacking, _⟩ := render_policies absentSettings openSchemaTree
  obtain ⟨same, path, reason, given, failed⟩ := lacking unavailable
  cases given
  obtain ⟨report, rendered⟩ := Job.onTree_eq_of_isOk (by decide +kernel :
    ((render (builtInSettings.under .required)).onTree openSchemaTree).1.isOk = true)
  obtain ⟨available, _, laxer⟩ := render_policies builtInSettings openSchemaTree
  have best := (available ⟨_, .builtIn⟩).trans rendered
  have least := laxer .required .disabled report _ (by decide) rendered
  exact ⟨⟨reason, failed⟩, same, report, _, rendered, best, least⟩

end Generation

end QueryHeaders
