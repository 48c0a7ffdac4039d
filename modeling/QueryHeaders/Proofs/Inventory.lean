import Mathlib.Data.List.Nodup
import QueryHeaders.Proofs.Artifact.Inventory
import QueryHeaders.Proofs.Query.Entries
import QueryHeaders.Proofs.Report

/-!
One list in six files.

The files of a run that succeeds list the same methods: those of the enabled entries of its
definitions file, in the order of the entries. What the two forwarding macros say of a method leaves
no doubt about its types, its name and its parameters.
-/
namespace QueryHeaders

/-! ## Methods that are told apart -/

/-- Where two texts part whatever character follows, they have parted before. -/
theorem eq_of_append_cons_eq {a a' b b' c c' : List Char} {x y : Char} (other : x ≠ y)
    (first : a ++ x :: b = a' ++ x :: b') (second : a ++ y :: c = a' ++ y :: c') : a = a' := by
  induction a generalizing a' with
  | nil =>
      cases a' with
      | nil => rfl
      | cons d a' =>
          obtain ⟨rfl, _⟩ := List.cons.inj first
          obtain ⟨same, _⟩ := List.cons.inj second
          exact absurd same.symm other
  | cons d a ih =>
      cases a' with
      | nil =>
          obtain ⟨rfl, _⟩ := List.cons.inj first
          obtain ⟨same, _⟩ := List.cons.inj second
          exact absurd same other
      | cons e a' =>
          obtain ⟨rfl, first'⟩ := List.cons.inj first
          obtain ⟨_, second'⟩ := List.cons.inj second
          rw [ih first' second']

namespace Method

variable {m m' : Method}

theorem name_eq_of_call (identifier : Text.isIdentifier m.name = true)
    (identifier' : Text.isIdentifier m'.name = true) (same : m.call = m'.call) :
    m.name = m'.name := by
  have split : ∀ n : Method, Text.isIdentifier n.name = true → ∃ others,
      Text.pieces '(' n.call.toList = n.name.toList :: others := by
    intro n identifier
    have whole : n.call.toList = n.name.toList ++ '(' :: (n.callParameters.toList ++ [')']) := by
      simp [call]
    rw [whole, Text.pieces_append,
      Text.pieces_of_notMem (Text.notMem_of_isIdentifier identifier rfl)]
    exact ⟨_, rfl⟩
  obtain ⟨others, given⟩ := split m identifier
  obtain ⟨others', given'⟩ := split m' identifier'
  rw [same, given'] at given
  exact (String.toList_inj.mp (List.cons.inj given).1).symm

theorem returnType_eq_of_signatures
    (same : ∀ w : Wrapper, m.signature w.scope = m'.signature w.scope) :
    m.returnType = m'.returnType := by
  have parts : ∀ (n : Method) (scope : String), (n.signature scope).toList =
      (n.returnType.toList ++ [' ']) ++
        (scope.toList ++ (n.name.toList ++ '(' :: (n.fullParameters.toList ++ [')']))) := by
    intro n scope
    simp [signature]
  have cache := congrArg String.toList (same .cache)
  have database := congrArg String.toList (same .database)
  rw [parts, parts] at cache database
  have spaced := eq_of_append_cons_eq (by decide : 'C' ≠ 'D') cache database
  exact String.toList_inj.mp (List.append_cancel_right spaced)

theorem eq_of_forwarded (identifier : Text.isIdentifier m.name = true)
    (identifier' : Text.isIdentifier m'.name = true)
    (signatures : ∀ w : Wrapper, m.signature w.scope = m'.signature w.scope)
    (calls : m.call = m'.call) : m = m' := by
  have returnType := returnType_eq_of_signatures signatures
  have name := name_eq_of_call identifier identifier' calls
  have signature := signatures .cache
  obtain ⟨_, _, full, callParameters⟩ := m
  obtain ⟨_, _, full', callParameters'⟩ := m'
  cases returnType
  cases name
  simp only [Method.signature, call, String.append_left_inj, String.append_right_inj] at signature calls
  rw [signature, calls]

end Method

/-- The items of both forwarding macros tell which methods they are of. -/
theorem eq_map_method {ms : List Method} {qs : List Query}
    (identifiers : ∀ m ∈ ms, Text.isIdentifier m.name = true) (wf : ∀ q ∈ qs, q.WellFormed)
    (same : ∀ w : Wrapper, ms.map (fun m => (m.signature w.scope, m.call)) =
      qs.map fun q => (q.method.signature w.scope, q.method.call)) :
    ms = qs.map Query.method := by
  induction ms generalizing qs with
  | nil =>
      cases qs with
      | nil => rfl
      | cons q qs => cases same .cache
  | cons m ms ih =>
      cases qs with
      | nil => cases same .cache
      | cons q qs =>
          obtain ⟨identifier, identifiers⟩ := List.forall_mem_cons.mp identifiers
          obtain ⟨wfFirst, wf⟩ := List.forall_mem_cons.mp wf
          have first : m = q.method := by
            refine Method.eq_of_forwarded identifier wfFirst.name_isIdentifier (fun w => ?_) ?_
            · exact (Prod.mk.inj (List.cons.inj (same w)).1).1
            · exact (Prod.mk.inj (List.cons.inj (same .cache)).1).2
          rw [first, ih identifiers wf fun w => (List.cons.inj (same w)).2]
          rfl

/-! ## Runs -/

/-- The elements of the list of queries; there may be none. -/
def definitionEntries : Json → List Json
  | .object members =>
      match field? members "queries" with
      | some (.array entries) => entries
      | _ => []
  | _ => []

theorem forall₂_readsAs_of_ofDocument {document : Json} {all : List Query}
    (h : Query.ofDocument document = .ok all) :
    List.Forall₂ ReadsAs (definitionEntries document) all := by
  obtain ⟨members, rfl, ⟨absent, rfl⟩ | ⟨entries, found, read⟩⟩ := ofDocument_eq_ok h
  · rw [definitionEntries, absent]
    exact .nil
  · rw [definitionEntries, found]
    exact (ofEntries_eq_ok_iff.mp read).1

namespace Generation

variable {s : Settings} {t u : FileTree} {report : GenerationReport}

/-- The six files of a run list the same methods, those of the enabled entries in their order, and
the forwarding macros leave no doubt about them. -/
theorem render_lists_enabled (h : (render s).onTree t = (.ok report, u)) :
    ∃ document all kept, (Loading.ofFile s.definitions).onTree t = (.ok document, t) ∧
      List.Forall₂ ReadsAs (definitionEntries document) all ∧
      kept = all.filter (·.isEnabled s.features) ∧
      report.enabled = kept.length ∧ report.total = (definitionEntries document).length ∧
      report.enabled ≤ report.total ∧
      report.artifacts.map Rendered.artifact = Artifact.all ∧
      (∀ r ∈ report.artifacts, r.artifact.Lists r.content kept) ∧
      (kept.map fun q => "QUERY_EXISTS_" ++ q.name).Nodup ∧
      ∀ ms : List Method, (∀ m ∈ ms, Text.isIdentifier m.name = true) →
        (∀ r ∈ report.artifacts, ∀ w, r.artifact = .forwarding w →
          w.forwarded? r.content = some (ms.map fun m => (m.signature w.scope, m.call))) →
        ms = kept.map Query.method := by
  obtain ⟨rfl, validator, document, all, kept, _, loaded, _, read, enabled, rfl⟩ :=
    render_eq_ok_iff.mp h
  have wf : ∀ q ∈ kept, q.WellFormed := fun q hq =>
    wellFormed_of_ofDocument read q (mem_of_mem_enabledQueries enabled hq)
  have entries := forall₂_readsAs_of_ofDocument read
  have filtered := (enabledQueries_eq_ok_iff.mp enabled).2
  have fewer : kept.length ≤ all.length := filtered ▸ List.length_filter_le _ _
  refine ⟨document, all, kept, loaded, entries, filtered, rfl, entries.length_eq.symm, fewer, ?_,
    ?_, ?_, ?_⟩
  · rw [reportOf, renderAll, List.map_map]
    rfl
  · intro r hr
    obtain ⟨a, _, rfl⟩ := List.mem_map.mp hr
    exact a.lists_render wf
  · have names : (kept.map Query.name).Nodup := by
      rw [filtered]
      exact (nodup_names_of_ofDocument read).sublist (List.filter_sublist.map _)
    have whole : (kept.map fun q => "QUERY_EXISTS_" ++ q.name) =
        (kept.map Query.name).map ("QUERY_EXISTS_" ++ ·) := by
      rw [List.map_map]
      rfl
    rw [whole]
    exact List.Nodup.map (fun _ _ same => (String.append_right_inj _).mp same) names
  · intro ms identifiers told
    refine eq_map_method identifiers wf fun w => ?_
    have written : ⟨.forwarding w, w.render kept⟩ ∈ renderAll kept :=
      List.mem_map.mpr ⟨.forwarding w, by cases w <;> decide, rfl⟩
    have read := told _ written w rfl
    rw [w.lists_render wf, Option.some_inj] at read
    exact read.symm

/-- A disabled query, and one with authentication. -/
def listedTree : FileTree :=
  let old := "- \x7bname: Old, enabled: false\x7d\n"
  let run := "- \x7bname: Run, authentication: \x7btype: token, env_var: KEY\x7d\x7d\n"
  (FileTree.empty.write "all.yaml" (.text ("queries:\n" ++ old ++ run))).2

def listedSettings : Settings where
  definitions := "all.yaml"
  outputDir := "out"
  policy := .disabled

theorem render_lists_enabled_listedTree :
    ∃ report kept, (render listedSettings).onTree listedTree = (.ok report, listedTree) ∧
      report.total = 2 ∧ kept.length = 1 ∧
      ∀ r ∈ report.artifacts, r.artifact.Lists r.content kept := by
  have counted : (((render listedSettings).onTree listedTree).1.toOption.map fun report =>
      (report.total, report.enabled)) = some (2, 1) := by decide +kernel
  rcases rendered : (render listedSettings).onTree listedTree with ⟨failure | report, u⟩
  · rw [rendered] at counted
    cases counted
  · obtain ⟨rfl, _⟩ := render_eq_ok_iff.mp rendered
    rw [rendered] at counted
    obtain ⟨total, one⟩ := Prod.mk.inj (Option.some_inj.mp counted)
    obtain ⟨_, _, kept, _, _, _, enabled, _, _, _, lists, _⟩ := render_lists_enabled rendered
    exact ⟨report, kept, rfl, total, enabled.symm.trans one, lists⟩

end Generation

end QueryHeaders
