import QueryHeaders.Proofs.Query.Entries
import QueryHeaders.Proofs.Report
import QueryHeaders.Proofs.Text.Identifier

/-!
What holds of every list of queries that has been read, and of every report.

The queries are well formed and have distinct names. No key of a query is provided automatically,
since no reading of a token says so, and therefore no report counts an automatic token.
-/
namespace QueryHeaders

variable {document : Json} {s : Settings} {t u : FileTree} {q : Query} {all kept : List Query}
  {report : GenerationReport}

theorem autoTokens_of_render (rendered : (Generation.render s).onTree t = (.ok report, u)) :
    report.autoTokens = 0 := by
  obtain ⟨_, _, document, all, kept, _, _, _, read, enabled, rfl⟩ :=
    Generation.render_eq_ok_iff.mp rendered
  have wf : ∀ q ∈ kept, q.WellFormed := fun q hq =>
    wellFormed_of_ofDocument read q (mem_of_mem_enabledQueries enabled hq)
  rw [Generation.reportOf, filter_isAutoToken wf, List.length_nil]

/-- Every list of queries that has been read has distinct names and well formed queries, and no
report counts an automatic token. -/
theorem invariant_of_ofDocument :
    (∀ document qs, Query.ofDocument document = .ok qs →
      (qs.map Query.name).Nodup ∧ ∀ q ∈ qs,
        (∃ first others, q.name.toList = first :: others ∧
          (first.isAlpha = true ∨ first = '_') ∧
            ∀ c ∈ others, c.isAlphanum = true ∨ c = '_') ∧
        Text.IsTrimmed q.returnType ∧ Text.hasControl q.returnType = false ∧
        (∀ p ∈ q.parameters, p.type ≠ "" ∧ Text.IsTrimmed p.type ∧
          Text.hasControl p.type = false ∧ Text.isIdentifier p.name = true) ∧
        q.fullParameters = ", ".intercalate (q.parameters.map fun p => p.type ++ " " ++ p.name) ∧
        q.callParameters = ", ".intercalate (q.parameters.map fun p => p.name) ∧
        ∀ a, q.authentication = some a → Text.IsTrimmed a.envVar ∧
          (a.keyBehavior = .required ∨ a.keyBehavior = .optional)) ∧
    ∀ s t u report, (Generation.render s).onTree t = (.ok report, u) → report.autoTokens = 0 := by
  refine ⟨fun document qs read => ⟨nodup_names_of_ofDocument read, fun q hq => ?_⟩,
    fun s t u report => autoTokens_of_render⟩
  have wf := wellFormed_of_ofDocument read q hq
  refine ⟨Text.isIdentifier_iff.mp wf.name_isIdentifier, wf.returnType_isTrimmed,
    wf.returnType_oneLine, fun p hp => ?_, rfl, rfl, fun a stated => ?_⟩
  · have parameter := wf.parameters p hp
    exact ⟨parameter.type_ne_empty, parameter.type_isTrimmed, parameter.type_oneLine,
      parameter.name_isIdentifier⟩
  · have authentication := wf.authentication a stated
    refine ⟨authentication.envVar_isTrimmed, ?_⟩
    cases behavior : a.keyBehavior with
    | required => exact .inl rfl
    | optional => exact .inr rfl
    | auto => exact absurd behavior authentication.keyBehavior_ne_auto

/-- A query with a parameter and a token, and blanks around its texts. -/
def tokenDocument : Json :=
  .object [("queries", .array [.object [
    ("authentication", .object [("env_var", .string " KEY "), ("type", .string "token")]),
    ("name", .string " IQuery_Run "),
    ("parameters", .array [.object [("name", .string "a"), ("type", .string " int ")]]),
    ("return_type", .string " bool ")]])]

def tokenQuery : Query where
  name := "IQuery_Run"
  returnType := "bool"
  parameters := [⟨"int", "a"⟩]
  category := .standard
  authentication := some ⟨"KEY", .required⟩

/-- A tree with a definitions file, and a run on it. -/
def tokenTree : FileTree :=
  (FileTree.empty.write "queries.yaml"
    (.text "queries: [{name: IQuery_Run, authentication: {type: token, env_var: KEY}}]")).2

def tokenSettings : Settings where
  definitions := "queries.yaml"
  outputDir := "out"
  policy := .disabled

theorem invariant_of_ofDocument_token :
    Query.ofDocument tokenDocument = .ok [tokenQuery] ∧
      Text.IsTrimmed "bool" ∧ tokenQuery.fullParameters = "int a" ∧
      ∃ report, (Generation.render tokenSettings).onTree tokenTree = (.ok report, tokenTree) ∧
        report.enabled = 1 ∧ report.autoTokens = 0 := by
  obtain ⟨documents, reports⟩ := invariant_of_ofDocument
  have read : Query.ofDocument tokenDocument = .ok [tokenQuery] := rfl
  obtain ⟨_, trimmed, _, _, full, _⟩ := (documents _ _ read).2 tokenQuery (by simp)
  have counted : (((Generation.render tokenSettings).onTree tokenTree).1.toOption.map
      GenerationReport.enabled) = some 1 := by
    decide +kernel
  have kept := (Generation.keepsTree_render tokenSettings).onTree_eq tokenTree
  cases outcome : ((Generation.render tokenSettings).onTree tokenTree).1 with
  | error failure =>
      rw [outcome] at counted
      cases counted
  | ok report =>
      rw [outcome] at counted kept
      refine ⟨read, trimmed, full.trans (by decide), report, kept, Option.some_inj.mp counted, ?_⟩
      exact reports _ _ _ _ kept

end QueryHeaders
