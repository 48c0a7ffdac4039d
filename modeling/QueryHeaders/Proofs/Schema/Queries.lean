import QueryHeaders.Proofs.Schema.Trail
import QueryHeaders.Schema.BuiltIn

/-!
The built-in schema looks at the entries of a document one by one: a document is accepted exactly if
it has a list of queries, of which each is admitted, whatever its other members hold.
-/
namespace QueryHeaders.Schema

variable {targets : List (String × Rule)} {rule : Rule} {v : Json} {t : Trail}
  {members : List (String × Json)}

theorem checkItems_eq_nil_iff {index : Nat} {vs : List Json} :
    checkItems targets rule t index vs = [] ↔ ∀ v ∈ vs, Admits targets rule v := by
  constructor
  · exact admits_of_checkItems
  · intro h
    induction vs generalizing index with
    | nil => rfl
    | cons v rest ih =>
        obtain ⟨first, others⟩ := List.forall_mem_cons.mp h
        rw [checkItems, first.check_eq_nil, ih others]
        rfl

theorem checkMembers_eq_nil_iff {known : List (String × Rule)} :
    checkMembers targets known none t members = [] ↔
      ∀ name v rule, (name, v) ∈ members → known.lookup name = some rule →
        Admits targets rule v := by
  induction members with
  | nil => simp [checkMembers]
  | cons member rest ih =>
      obtain ⟨other, w⟩ := member
      unfold checkMembers
      rw [List.append_eq_nil_iff, ih]
      constructor
      · rintro ⟨here, later⟩ name v rule hv hRule
        obtain same | hv := List.mem_cons.mp hv
        · cases same
          rw [hRule] at here
          exact ⟨_, here⟩
        · exact later name v rule hv hRule
      · intro h
        refine ⟨?_, fun name v rule hv => h name v rule (List.mem_cons_of_mem _ hv)⟩
        cases hRule : known.lookup other with
        | none => rfl
        | some rule => exact (h other w rule List.mem_cons_self hRule).check_eq_nil _

/-- The rule for the member with the queries. -/
def queriesRule : Rule := listOf [.array] (definition "query")

theorem admits_queriesRule_iff :
    Admits builtIn.targets queriesRule v ↔
      ∃ entries, v = .array entries ∧
        ∀ entry ∈ entries, Admits builtIn.targets (definition "query") entry := by
  constructor
  · intro h
    have typed := h.any_type (by simp)
    cases v with
    | array entries => exact ⟨entries, rfl, h.item⟩
    | _ => cases typed
  · rintro ⟨entries, rfl, each⟩
    refine ⟨{}, ?_⟩
    rw [queriesRule, listOf, check]
    simp only [resolve, List.flatMap_cons, List.flatMap_nil, List.append_nil]
    rw [checkItems_eq_nil_iff.mpr each]
    rfl

theorem findings_object :
    builtIn.findings (.object members) =
      checkMembers builtIn.targets [("queries", queriesRule)] none {} members ++
        requiredFindings ["queries"] {} (.object members) := by
  have noLength : lengthFindings none {} (.object members) = [] := rfl
  have noPattern : patternFindings none {} (.object members) = [] := rfl
  have isObject : typeFindings [.object] {} (.object members) = [] := rfl
  rw [findings, builtIn, record, check]
  simp only [resolve, List.flatMap_cons, List.flatMap_nil, List.append_nil, Trail.intoRule_nil,
    isForbidden, Bool.not_false, ↓reduceIte, noLength, noPattern, isObject]
  rfl

theorem violations_eq_nil_iff :
    builtIn.violations (.object members) = [] ↔
      (members.lookup "queries").isSome = true ∧
        ∀ v, ("queries", v) ∈ members → Admits builtIn.targets queriesRule v := by
  have required : requiredFindings ["queries"] {} (.object members) = [] ↔
      (members.lookup "queries").isSome = true := by
    rw [requiredFindings, List.map_eq_nil_iff, List.filter_eq_nil_iff, List.forall_mem_singleton,
      Option.isNone_iff_eq_none, ← ne_eq, Option.ne_none_iff_isSome]
  rw [violations, List.map_eq_nil_iff, findings_object, List.append_eq_nil_iff, required, and_comm,
    checkMembers_eq_nil_iff]
  refine and_congr_right fun _ => ⟨fun h v hv => h "queries" v queriesRule hv rfl, ?_⟩
  intro h name v rule hv hRule
  rw [List.lookup_cons] at hRule
  split at hRule
  · next same =>
      cases hRule
      cases beq_iff_eq.mp same
      exact h v hv
  · cases hRule

end QueryHeaders.Schema
