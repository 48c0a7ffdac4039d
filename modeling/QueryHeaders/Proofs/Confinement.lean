import QueryHeaders.Proofs.Inventory
import QueryHeaders.Proofs.Json.Equality
import QueryHeaders.Proofs.Query.Views

/-!
Changes that stay inside their artifacts.

An artifact that ignores a part of the queries has the same text whatever the part is, and so have
all counts and all complaints of a run that checks no schema. A change of authentication reaches
only the list of authentication, and a change of types and parameters only the headers that declare
and forward.
-/
namespace QueryHeaders

variable {view : Query → Query} {qs rs : List Query} {a : Artifact}

/-! ## Texts -/

/-- The text of the artifact is the same for all lists of queries with the same views. -/
def Artifact.ReadsOnly (view : Query → Query) (a : Artifact) : Prop :=
  ∀ qs, a.render (qs.map view) = a.render qs

theorem Artifact.ReadsOnly.render_eq (h : a.ReadsOnly view) (same : qs.map view = rs.map view) :
    a.render qs = a.render rs := by
  rw [← h qs, ← h rs, same]

theorem Declaration.render_withoutAuthentication (d : Declaration) (qs : List Query) :
    d.render (qs.map Query.withoutAuthentication) = d.render qs := by
  rw [render, render, List.map_map]
  rfl

theorem Wrapper.render_withoutAuthentication (w : Wrapper) (qs : List Query) :
    w.render (qs.map Query.withoutAuthentication) = w.render qs := by
  rw [render, render, List.flatMap_map]
  rfl

theorem BuildFlags.render_map (names : ∀ q, (view q).name = q.name) (qs : List Query) :
    render (qs.map view) = render qs := by
  have flags : ∀ q, flag (view q) = flag q := by
    intro q
    rw [flag, flag, names]
  simp only [render, lines, List.isEmpty_map, List.map_map, Function.comp_def, flags]

theorem AuthenticationTable.render_withoutSignature (qs : List Query) :
    render (qs.map Query.withoutSignature) = render qs := by
  have entries : (qs.map Query.withoutSignature).filterMap entry? = qs.filterMap entry? := by
    rw [List.filterMap_map]
    rfl
  have tokens : autoTokens (qs.map Query.withoutSignature) = autoTokens qs := by
    rw [autoTokens, autoTokens, List.filter_map, List.filterMap_map]
    rfl
  rw [render, render, List.isEmpty_map, tokens, mapLines, mapLines, entries]

theorem Artifact.readsOnly_withoutAuthentication (other : a ≠ .authentication) :
    a.ReadsOnly Query.withoutAuthentication := by
  intro qs
  cases a with
  | declarations d => exact d.render_withoutAuthentication qs
  | forwarding w => exact w.render_withoutAuthentication qs
  | authentication => exact absurd rfl other
  | cmake => exact BuildFlags.render_map keepsDecisions_withoutAuthentication.name qs

theorem Artifact.readsOnly_withoutSignature (h : a = .authentication ∨ a = .cmake) :
    a.ReadsOnly Query.withoutSignature := by
  intro qs
  obtain table | flags := h
  · rw [table]
    exact AuthenticationTable.render_withoutSignature qs
  · rw [flags]
    exact BuildFlags.render_map keepsDecisions_withoutSignature.name qs

/-! ## Reports -/

/-- The reports have the same numbers of queries and artifacts of the same kinds, and these artifacts
have the same texts. -/
structure GenerationReport.AgreesOn (among : Artifact → Prop) (r r' : GenerationReport) : Prop where
  total : r.total = r'.total
  enabled : r.enabled = r'.enabled
  written : r.written = r'.written
  artifacts : List.Forall₂
    (fun x y => x.artifact = y.artifact ∧ (among x.artifact → x.content = y.content))
    r.artifacts r'.artifacts

/-- Two runs fail with the same failure, or succeed with reports that are related. -/
inductive OutcomesAgree (Related : GenerationReport → GenerationReport → Prop) :
    Except Failure GenerationReport → Except Failure GenerationReport → Prop where
  | failed (failure : Failure) : OutcomesAgree Related (.error failure) (.error failure)
  | done {r r' : GenerationReport} (related : Related r r') : OutcomesAgree Related (.ok r) (.ok r')

namespace Generation

variable {Related : GenerationReport → GenerationReport → Prop} {fs : Features}
  {all all' kept kept' : List Query} {among : Artifact → Prop} {document document' : Json}

theorem agreesOn_reportOf (ignored : ∀ a, among a → a.ReadsOnly view)
    (same : all.map view = all'.map view) (sameKept : kept.map view = kept'.map view) :
    (reportOf all kept).AgreesOn among (reportOf all' kept') where
  total := by simpa [reportOf] using congrArg List.length same
  enabled := by simpa [reportOf] using congrArg List.length sameKept
  written := rfl
  artifacts := by
    simp only [reportOf, renderAll, List.forall₂_map_left_iff, List.forall₂_map_right_iff]
    apply List.forall₂_same.mpr
    intro a _
    exact ⟨rfl, fun member => (ignored a member).render_eq sameKept⟩

theorem autoTokens_reportOf_of_views (sees : ∀ q, (view q).isAutoToken = q.isAutoToken)
    (sameKept : kept.map view = kept'.map view) :
    (reportOf all kept).autoTokens = (reportOf all' kept').autoTokens := by
  have counted : ∀ qs : List Query, (qs.filter Query.isAutoToken).length =
      ((qs.map view).filter Query.isAutoToken).length := by
    intro qs
    have seen : Query.isAutoToken ∘ view = Query.isAutoToken := funext sees
    rw [List.filter_map, List.length_map, seen]
  rw [reportOf, reportOf, counted kept, counted kept', sameKept]

/-- Lists with the same views are reported on alike, whatever all reports on included queries with
the same views have in common. -/
theorem outcomesAgree_reportOn (keeps : KeepsDecisions view)
    (related : ∀ kept kept', kept.map view = kept'.map view →
      Related (reportOf all kept) (reportOf all' kept'))
    (same : all.map view = all'.map view) :
    OutcomesAgree Related (reportOn fs all) (reportOn fs all') := by
  have decided : (enabledQueries fs all).map (List.map view) =
      (enabledQueries fs all').map (List.map view) := enabledQueries_of_views keeps same
  rw [reportOn, reportOn]
  cases outcome : enabledQueries fs all with
  | error e =>
      cases other : enabledQueries fs all' with
      | error e' =>
          rw [outcome, other] at decided
          cases decided
          exact .failed _
      | ok kept' =>
          rw [outcome, other] at decided
          cases decided
  | ok kept =>
      cases other : enabledQueries fs all' with
      | error e' =>
          rw [outcome, other] at decided
          cases decided
      | ok kept' =>
          rw [outcome, other] at decided
          exact .done (related kept kept' (Except.ok.inj decided))

/-! ## Documents and runs -/

/-- Without a schema a run reports on the queries of its document. -/
theorem onTree_render_of_disabled {s : Settings} {t : FileTree} (unchecked : s.policy = .disabled)
    (loaded : (Loading.ofFile s.definitions).onTree t = (.ok document, t))
    (read : Query.ofDocument document = .ok all) :
    (render s).onTree t = (reportOn s.features all, t) := by
  have given : (queries s).onTree t = (.ok all, t) := by
    apply queries_eq_ok_iff.mpr
    refine ⟨rfl, none, document, ?_, loaded, nofun, read⟩
    rw [unchecked]
    rfl
  rw [render, Job.onTree_bind, given]
  rfl

/-- Whatever is permitted, the two documents lead to outcomes that agree: by themselves, and in runs
that load them and check no schema. -/
structure RenderedAlike (Related : GenerationReport → GenerationReport → Prop)
    (document document' : Json) : Prop where
  documents : ∀ fs source source', OutcomesAgree Related
    (queriesOf none source document >>= reportOn fs)
    (queriesOf none source' document' >>= reportOn fs)
  runs : ∀ (s s' : Settings) (t t' : FileTree), s.policy = .disabled → s'.policy = .disabled →
    s'.features = s.features →
    (Loading.ofFile s.definitions).onTree t = (.ok document, t) →
    (Loading.ofFile s'.definitions).onTree t' = (.ok document', t') →
    OutcomesAgree Related ((render s).onTree t).1 ((render s').onTree t').1

theorem renderedAlike_of_reportOn (read : Query.ofDocument document = .ok all)
    (read' : Query.ofDocument document' = .ok all')
    (agree : ∀ fs, OutcomesAgree Related (reportOn fs all) (reportOn fs all')) :
    RenderedAlike Related document document' where
  documents := by
    intro fs source source'
    rw [queriesOf_none_eq_ok_iff.mpr read, queriesOf_none_eq_ok_iff.mpr read']
    exact agree fs
  runs := by
    intro s s' t t' unchecked unchecked' features loaded loaded'
    rw [onTree_render_of_disabled unchecked loaded read,
      onTree_render_of_disabled unchecked' loaded' read', features]
    exact agree s.features

/-- Changes stay inside their artifacts. Documents that differ in the authentication of their
entries are rendered with the same counts and the same texts but for the list of authentication;
documents that differ in types and parameters, with the same counts, list of authentication and
build flags. Where one contradicts the features, so does the other, with the same error. -/
theorem renderedAlike_of_agreesOutside (read : Query.ofDocument document = .ok all)
    (read' : Query.ofDocument document' = .ok all') :
    (List.Forall₂ (Json.AgreesOutside ["authentication"])
        (definitionEntries document) (definitionEntries document') →
      RenderedAlike (GenerationReport.AgreesOn (· ≠ .authentication)) document document') ∧
    (List.Forall₂ (Json.AgreesOutside ["return_type", "parameters"])
        (definitionEntries document) (definitionEntries document') →
      RenderedAlike (fun r r' => r.autoTokens = r'.autoTokens ∧
          r.AgreesOn (fun a => a = .authentication ∨ a = .cmake) r') document document') := by
  have reads := forall₂_readsAs_of_ofDocument read
  have reads' := forall₂_readsAs_of_ofDocument read'
  constructor
  · intro agree
    have same := map_view_eq_of_forall₂
      (fun _ _ _ _ => withoutAuthentication_eq_of_readsAs) agree reads reads'
    apply renderedAlike_of_reportOn read read'
    intro fs
    apply outcomesAgree_reportOn keepsDecisions_withoutAuthentication _ same
    intro kept kept' sameKept
    exact agreesOn_reportOf (fun _ => Artifact.readsOnly_withoutAuthentication) same sameKept
  · intro agree
    have same := map_view_eq_of_forall₂
      (fun _ _ _ _ => withoutSignature_eq_of_readsAs) agree reads reads'
    apply renderedAlike_of_reportOn read read'
    intro fs
    apply outcomesAgree_reportOn keepsDecisions_withoutSignature _ same
    intro kept kept' sameKept
    have seen : ∀ q : Query, q.withoutSignature.isAutoToken = q.isAutoToken := fun _ => rfl
    exact ⟨autoTokens_reportOf_of_views seen sameKept,
      agreesOn_reportOf (fun _ => Artifact.readsOnly_withoutSignature) same sameKept⟩

/-- One query, of this return type and this type of authentication. -/
def changeableDocument (returnType scheme : String) : Json :=
  .object [("queries", .array [.object [
    ("authentication", .object [("env_var", .string "KEY"), ("type", .string scheme)]),
    ("name", .string "IQuery_Run"), ("return_type", .string returnType)]])]

/-- A definitions file, one that differs in its authentication and one that differs in its types. -/
def changedTree : FileTree :=
  let content := fun returnType scheme => Content.text
    ("queries:\n- name: IQuery_Run\n  return_type: " ++ returnType ++
      "\n  authentication: \x7btype: " ++ scheme ++ ", env_var: KEY\x7d\n")
  let plain := (FileTree.empty.write "queries.yaml" (content "int" "token")).2
  let opened := (plain.write "open.yaml" (content "int" "none")).2
  (opened.write "wide.yaml" (content "long" "token")).2

def settingsOf (path : String) : Settings where
  definitions := path
  outputDir := "out"
  policy := .disabled

theorem renderedAlike_of_agreesOutside_changedTree :
    let outcome := fun path => ((render (settingsOf path)).onTree changedTree).1
    OutcomesAgree (GenerationReport.AgreesOn (· ≠ .authentication))
      (outcome "queries.yaml") (outcome "open.yaml") ∧
    OutcomesAgree (fun r r' => r.autoTokens = r'.autoTokens ∧
        r.AgreesOn (fun a => a = .authentication ∨ a = .cmake) r')
      (outcome "queries.yaml") (outcome "wide.yaml") ∧
    (outcome "queries.yaml").isOk = true := by
  intro outcome
  have loads : ∀ path document, ((Loading.ofFile path).onTree changedTree).1 = .ok document →
      (Loading.ofFile path).onTree changedTree = (.ok document, changedTree) :=
    fun path _ => (Loading.keepsTree_ofFile path).onTree_eq_of_fst
  have plain := loads "queries.yaml" (changeableDocument "int" "token") (by decide +kernel)
  have opened := loads "open.yaml" (changeableDocument "int" "none") (by decide +kernel)
  have wide := loads "wide.yaml" (changeableDocument "long" "token") (by decide +kernel)
  have differsInScheme : List.Forall₂ (Json.AgreesOutside ["authentication"])
      (definitionEntries (changeableDocument "int" "token"))
      (definitionEntries (changeableDocument "int" "none")) := by
    refine .cons ?_ .nil
    intro name outside
    have other : (name == "authentication") = false := by simpa using outside
    simp only [Json.member?, List.lookup_cons, other]
  have differsInType : List.Forall₂ (Json.AgreesOutside ["return_type", "parameters"])
      (definitionEntries (changeableDocument "int" "token"))
      (definitionEntries (changeableDocument "long" "token")) := by
    refine .cons ?_ .nil
    intro name outside
    rw [List.mem_cons, not_or] at outside
    have other : (name == "return_type") = false := beq_eq_false_iff_ne.mpr outside.1
    simp only [Json.member?, List.lookup_cons, other]
  refine ⟨?_, ?_, by decide +kernel⟩
  · exact ((renderedAlike_of_agreesOutside rfl rfl).1 differsInScheme).runs _ _ _ _ rfl rfl rfl
      plain opened
  · exact ((renderedAlike_of_agreesOutside rfl rfl).2 differsInType).runs _ _ _ _ rfl rfl rfl
      plain wide

end Generation

end QueryHeaders
