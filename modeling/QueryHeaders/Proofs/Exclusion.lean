import QueryHeaders.Proofs.Json.Equality
import QueryHeaders.Proofs.Query.Deletion
import QueryHeaders.Proofs.Report

/-!
Queries that are left out leave no trace.

A run that uses no schema file can do without the queries it leaves out: with a definitions file
that lacks some of them, it includes the same queries and renders the same artifacts.
-/
namespace QueryHeaders

variable {s : Settings} {fs : Features} {policy : SchemaPolicy} {schemaPath : Option String}
  {document : Json} {deleted : Finset Nat} {validator : Option Validator} {all kept : List Query}

/-- The document has a query at the position, and it is left out. -/
def IsExcludedAt (fs : Features) (document : Json) (i : Nat) : Prop :=
  ∃ all q, Query.ofDocument document = .ok all ∧ all[i]? = some q ∧ q.IsExcluded fs

theorem IsExcludedAt.of_ofDocument {i : Nat} (h : IsExcludedAt fs document i)
    (read : Query.ofDocument document = .ok all) : ∃ q, all[i]? = some q ∧ q.IsExcluded fs := by
  obtain ⟨others, q, also, found, excluded⟩ := h
  rw [read] at also
  cases also
  exact ⟨q, found, excluded⟩

/-- Every deleted query is one of the document's. -/
theorem length_keptFrom_of_excluded (read : Query.ofDocument document = .ok all)
    (excluded : ∀ i ∈ deleted, IsExcludedAt fs document i) :
    (keptFrom deleted 0 all).length + deleted.card = all.length := by
  have inside : (deleted.filter fun i => 0 ≤ i ∧ i < 0 + all.length) = deleted := by
    refine Finset.filter_true_of_mem fun i member => ?_
    obtain ⟨q, found, _⟩ := (excluded i member).of_ofDocument read
    have bound := (List.getElem?_eq_some_iff.mp found).1
    omega
  have counted := length_keptFrom_add deleted 0 all
  rwa [inside] at counted

/-- Without a schema file the choice of a schema does not depend on the disk. -/
theorem Validator.resolve_of_noFile (noFile : policy = .disabled ∨ schemaPath = none) :
    ∃ validator, (validator = none ∨ validator = some builtIn) ∧
      ∀ t, (resolve policy schemaPath).onTree t = (.ok validator, t) := by
  obtain rfl | rfl := noFile
  · exact ⟨none, .inl rfl, fun _ => rfl⟩
  · cases policy with
    | disabled => exact ⟨none, .inl rfl, fun _ => rfl⟩
    | bestEffort | required => exact ⟨some builtIn, .inr rfl, fun _ => rfl⟩

namespace Generation

theorem Accepts.withoutQueries (accepts : Accepts validator document) (deleted : Finset Nat)
    (given : validator = none ∨ validator = some Validator.builtIn) :
    Accepts validator (document.withoutQueries deleted) := by
  intro v same
  obtain rfl | rfl := given
  · cases same
  · cases same
    exact violations_withoutQueries deleted (accepts Validator.builtIn rfl)

/-- Without a schema file, queries that are left out may be deleted from the definitions: the run
still succeeds, and only the number of all queries is another one. -/
theorem render_withoutQueries {t u v : FileTree} {path : String} {report : GenerationReport}
    (noFile : s.policy = .disabled ∨ s.schemaPath = none)
    (loaded : (Loading.ofFile s.definitions).onTree t = (.ok document, t))
    (rendered : (render s).onTree t = (.ok report, u))
    (excluded : ∀ i ∈ deleted, IsExcludedAt s.features document i)
    (shorter : (Loading.ofFile path).onTree v = (.ok (document.withoutQueries deleted), v)) :
    ∃ other, (render { s with definitions := path }).onTree v = (.ok other, v) ∧
      other.artifacts = report.artifacts ∧ other.enabled = report.enabled ∧
      other.autoTokens = report.autoTokens ∧ other.total + deleted.card = report.total := by
  obtain ⟨_, validator, whole, all, kept, resolved, also, accepts, read, enabled, rfl⟩ :=
    render_eq_ok_iff.mp rendered
  rw [loaded] at also
  cases also
  -- The other run chooses the same schema, although its tree may be another one.
  obtain ⟨chosen, given, resolves⟩ := Validator.resolve_of_noFile noFile
  rw [resolves] at resolved
  cases resolved
  have same : enabledQueries s.features (keptFrom deleted 0 all) = .ok kept := by
    refine enabledQueries_keptFrom enabled fun i member q found => ?_
    obtain ⟨r, foundAlso, left⟩ := (excluded i member).of_ofDocument read
    rw [found] at foundAlso
    cases foundAlso
    exact left
  refine ⟨reportOf (keptFrom deleted 0 all) kept, ?_, rfl, rfl, rfl,
    length_keptFrom_of_excluded read excluded⟩
  exact render_eq_ok_iff.mpr ⟨rfl, validator, _, _, kept, resolves v, shorter,
    accepts.withoutQueries deleted given, ofDocument_withoutQueries deleted read, same, rfl⟩

def exclusionQuery (name : String) (enabled : Bool) : Query where
  name := name
  returnType := "int"
  parameters := []
  category := .standard
  enabled := enabled

/-- Two queries, of which the first is disabled. -/
def exclusionDocument : Json :=
  .object [("queries", .array [
    .object [("enabled", .bool false), ("name", .string "IQuery_Old"), ("parameters", .array []),
      ("return_type", .string "int")],
    .object [("name", .string "IQuery_Run"), ("parameters", .array []),
      ("return_type", .string "int")]])]

/-- Two definitions files, of which the second lacks the disabled query. -/
def exclusionTree : FileTree :=
  let old := "- name: IQuery_Old\n  return_type: int\n  parameters: []\n  enabled: false\n"
  let run := "- name: IQuery_Run\n  return_type: int\n  parameters: []\n"
  let written := (FileTree.empty.write "all.yaml" (.text ("queries:\n" ++ old ++ run))).2
  (written.write "kept.yaml" (.text ("queries:\n" ++ run))).2

def exclusionSettings : Settings where
  definitions := "all.yaml"
  outputDir := "out"
  policy := .required

theorem render_withoutQueries_exclusionTree :
    ∃ report other, (render exclusionSettings).onTree exclusionTree = (.ok report, exclusionTree) ∧
      (render { exclusionSettings with definitions := "kept.yaml" }).onTree exclusionTree =
        (.ok other, exclusionTree) ∧
      other.artifacts = report.artifacts ∧ report.total = 2 ∧ other.total = 1 := by
  have loaded : (Loading.ofFile "all.yaml").onTree exclusionTree =
      (.ok exclusionDocument, exclusionTree) :=
    (Loading.keepsTree_ofFile _).onTree_eq_of_fst (by decide +kernel)
  have shorter : (Loading.ofFile "kept.yaml").onTree exclusionTree =
      (.ok (exclusionDocument.withoutQueries {0}), exclusionTree) :=
    (Loading.keepsTree_ofFile _).onTree_eq_of_fst (by decide +kernel)
  have read : Query.ofDocument exclusionDocument =
      .ok [exclusionQuery "IQuery_Old" false, exclusionQuery "IQuery_Run" true] := rfl
  have accepts : Accepts (some Validator.builtIn) exclusionDocument := by
    rintro v ⟨⟩
    decide +kernel
  have enabled : enabledQueries {} [exclusionQuery "IQuery_Old" false,
      exclusionQuery "IQuery_Run" true] = .ok [exclusionQuery "IQuery_Run" true] := rfl
  have resolved : (Validator.resolve .required none).onTree exclusionTree =
      (.ok (some Validator.builtIn), exclusionTree) := rfl
  have rendered : (render exclusionSettings).onTree exclusionTree = (.ok _, exclusionTree) :=
    render_eq_ok_iff.mpr ⟨rfl, _, _, _, _, resolved, loaded, accepts, read, enabled, rfl⟩
  have excluded : ∀ i ∈ ({0} : Finset Nat), IsExcludedAt {} exclusionDocument i := by
    intro i member
    cases Finset.mem_singleton.mp member
    exact ⟨_, _, read, rfl, .disabled, rfl, rfl⟩
  have noFile : exclusionSettings.policy = .disabled ∨ exclusionSettings.schemaPath = none :=
    .inr rfl
  obtain ⟨other, again, artifacts, _, _, total⟩ :=
    render_withoutQueries noFile loaded rendered excluded shorter
  exact ⟨_, other, rendered, again, artifacts, rfl, Nat.add_right_cancel total⟩

end Generation

end QueryHeaders
