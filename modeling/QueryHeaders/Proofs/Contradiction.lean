import QueryHeaders.Proofs.Agreement
import QueryHeaders.Proofs.Query.Causes
import QueryHeaders.Proofs.Query.Contradiction

/-!
Contradictions in a run.

Positions in the list of queries are positions among the entries of the document, because a document
that can be read gives one query for each entry. A run complains of a contradiction only after the
whole document has been read, and nothing else that it does complains of one.
-/
namespace QueryHeaders

variable {fs : Features} {entries : List Json} {i : Nat} {name : String} {f : Feature}
  {all : List Query} {q : Query}

/-! ## Entries -/

/-- Every entry can be read and no two have one name, and the entry at this position, under this
name, is the first that contradicts the features. -/
structure IsContradictingEntry (fs : Features) (entries : List Json) (i : Nat) (name : String)
    (f : Feature) : Prop where
  readable : ∀ j < entries.length, ∃ r, GivesAt entries j r
  distinct : ∀ j k q r, j < k → GivesAt entries j q → GivesAt entries k r → q.name ≠ r.name
  named : ∃ entry text, entries[i]? = some entry ∧ entry.member? "name" = some (.string text) ∧
    name = Text.trim text
  contradicts : ∃ q, GivesAt entries i q ∧ q.Contradicts fs f
  first : ∀ j < i, ∀ r, GivesAt entries j r → ∀ g, ¬ r.Contradicts fs g

/-- The query at a position is the one that the entry there gives. -/
theorem getElem?_eq_some_iff_givesAt (read : Query.ofEntries [] 0 entries = .ok all) :
    all[i]? = some q ↔ GivesAt entries i q := by
  obtain ⟨sameLength, pointwise⟩ := ofEntries_eq_ok read
  have gives : ∀ r, all[i]? = some r → GivesAt entries i r := by
    intro r found
    have inside : i < entries.length := by
      rw [← sameLength]
      exact (List.getElem?_eq_some_iff.mp found).1
    have present := List.getElem?_eq_getElem inside
    have reads := pointwise i entries[i] r present found
    rw [Nat.zero_add] at reads
    exact ⟨entries[i], present, reads⟩
  constructor
  · exact gives q
  · intro given
    have inside : i < all.length := by
      obtain ⟨entry, present, _⟩ := given
      rw [sameLength]
      exact (List.getElem?_eq_some_iff.mp present).1
    have found := List.getElem?_eq_getElem inside
    rw [found, (gives _ found).unique given]

theorem GivesAt.named (given : GivesAt entries i q) :
    ∃ entry text, entries[i]? = some entry ∧ entry.member? "name" = some (.string text) ∧
      q.name = Text.trim text := by
  obtain ⟨entry, present, read⟩ := given
  obtain ⟨members, rfl, described⟩ := readsAs_iff.mp ((ofEntry_eq_ok_iff i).mp read)
  obtain ⟨text, found, trimmed⟩ := described.name
  exact ⟨.object members, text, present, found, trimmed⟩

theorem isContradictingEntry_iff :
    IsContradictingEntry fs entries i name f ↔
      ∃ all q, Query.ofEntries [] 0 entries = .ok all ∧ IsFirstContradiction fs all i q f ∧
        name = q.name := by
  have reads : (∃ all, Query.ofEntries [] 0 entries = .ok all) ↔ _ :=
    ofEntries_isOk_iff.trans forall_not_offence_iff
  constructor
  · intro h
    obtain ⟨all, read⟩ := reads.mpr ⟨h.readable, h.distinct⟩
    obtain ⟨q, given, contradicts⟩ := h.contradicts
    refine ⟨all, q, read, ?_, ?_⟩
    · refine ⟨(getElem?_eq_some_iff_givesAt read).mpr given, contradicts, ?_⟩
      intro j before r found
      exact h.first j before r ((getElem?_eq_some_iff_givesAt read).mp found)
    · obtain ⟨entry, text, present, found, trimmed⟩ := h.named
      obtain ⟨other, written, also, foundOther, trimmedOther⟩ := given.named
      rw [present] at also
      cases also
      rw [found] at foundOther
      cases foundOther
      rw [trimmed, trimmedOther]
  · intro given
    obtain ⟨all, q, read, h, same⟩ := given
    obtain ⟨readable, distinct⟩ := reads.mp ⟨all, read⟩
    have given := (getElem?_eq_some_iff_givesAt read).mp h.present
    refine ⟨readable, distinct, ?_, ⟨q, given, h.contradicts⟩, ?_⟩
    · rw [same]
      exact given.named
    · intro j before r givenEarlier
      exact h.first j before r ((getElem?_eq_some_iff_givesAt read).mpr givenEarlier)

/-- The queries of a document contradict the features as its entries do. -/
theorem exists_enabledQueries_ofDocument_iff {document : Json} {e : DefinitionError} :
    (∃ all, Query.ofDocument document = .ok all ∧ enabledQueries fs all = .error e) ↔
      ∃ entries i name f, document.member? "queries" = some (.array entries) ∧
        IsContradictingEntry fs entries i name f ∧
        e = ⟨.entry i (some name), .disabledButFlagged f⟩ := by
  constructor
  · intro given
    obtain ⟨all, read, failed⟩ := given
    obtain ⟨i, q, f, h, named⟩ := enabledQueries_eq_error_iff.mp failed
    obtain ⟨members, rfl, ⟨_, rfl⟩ | ⟨entries, list, read⟩⟩ := ofDocument_eq_ok read
    · cases h.present
    · exact ⟨entries, i, q.name, f, lookup_of_field? list,
        isContradictingEntry_iff.mpr ⟨all, q, read, h, rfl⟩, named⟩
  · intro given
    obtain ⟨entries, i, name, f, list, h, named⟩ := given
    obtain ⟨all, q, read, first, rfl⟩ := isContradictingEntry_iff.mp h
    refine ⟨all, ?_, enabledQueries_eq_error_iff.mpr ⟨i, q, f, first, named⟩⟩
    cases document with
    | object members => rw [ofDocument_of_lookup list, read]
    | _ => cases list

/-! ## Runs -/

variable {s : Settings} {t u : FileTree} {location : Location}

theorem Validator.resolve_ne_definition {policy : SchemaPolicy} {schemaPath : Option String}
    (e : DefinitionError) : ((resolve policy schemaPath).onTree t).1 ≠ .error (.definition e) := by
  by_cases disabled : policy = .disabled
  · rw [disabled]
    nofun
  · by_cases available : ∃ v, Loads t schemaPath v
    · obtain ⟨v, loads⟩ := available
      rw [resolve_of_loads loads disabled]
      nofun
    · cases policy with
      | disabled => exact absurd rfl disabled
      | required =>
          obtain ⟨path, reason, _, failed⟩ := resolve_required_of_not available
          rw [failed]
          nofun
      | bestEffort =>
          rw [resolve_bestEffort_of_not available]
          nofun

namespace Generation

theorem queriesOf_eq_definition {validator : Option Validator} {source : String} {document : Json}
    {e : DefinitionError} (failed : queriesOf validator source document = .error (.definition e)) :
    Query.ofDocument document = .error e := by
  have unread : queriesOf none source document = .error (.definition e) →
      Query.ofDocument document = .error e := by
    intro failed
    obtain ⟨e, failed, named⟩ := queriesOf_none_eq_error_iff.mp failed
    cases named
    exact failed
  cases validator with
  | none => exact unread failed
  | some v =>
      rw [queriesOf_some, bind_eq_error] at failed
      obtain broken | ⟨_, _, failed⟩ := failed
      · exact absurd broken (Validator.checkJson_ne_definition e)
      · exact unread failed

/-- Of the steps up to the queries only the reading of the document fails with a definition error. -/
theorem queries_eq_definition {e : DefinitionError}
    (failed : (queries s).onTree t = (.error (.definition e), u)) :
    ∃ document, (Loading.ofFile s.definitions).onTree t = (.ok document, t) ∧
      Query.ofDocument document = .error e := by
  obtain unresolved | ⟨validator, v, resolved, failed⟩ := Job.onTree_bind_failed failed
  · exact absurd (congrArg Prod.fst unresolved) (Validator.resolve_ne_definition e)
  · rw [(Validator.keepsTree_resolve _ _).onTree_eq t] at resolved
    cases (Prod.mk.inj resolved).2
    obtain unloaded | ⟨document, w, loaded, failed⟩ := Job.onTree_bind_failed failed
    · exact absurd (congrArg Prod.fst unloaded) (Loading.ofFile_ne_definition e)
    · rw [Job.onTree_ofExcept] at failed
      exact ⟨document, (Loading.keepsTree_ofFile _).onTree_eq_of_fst (congrArg Prod.fst loaded),
        queriesOf_eq_definition (congrArg Prod.fst failed)⟩

theorem queries_ne_disabledButFlagged :
    (queries s).onTree t ≠ (.error (.definition ⟨location, .disabledButFlagged f⟩), u) := by
  intro failed
  obtain ⟨document, _, unread⟩ := queries_eq_definition failed
  exact ofDocument_ne_disabledButFlagged unread

/-- A run fails with a contradiction exactly if it has read queries that contradict the features. -/
theorem render_eq_disabledButFlagged_iff :
    (render s).onTree t = (.error (.definition ⟨location, .disabledButFlagged f⟩), u) ↔
      ∃ all, (queries s).onTree t = (.ok all, u) ∧
        enabledQueries s.features all = .error ⟨location, .disabledButFlagged f⟩ := by
  constructor
  · intro failed
    obtain unread | ⟨all, v, read, undecided⟩ := Job.onTree_bind_failed failed
    · exact absurd unread queries_ne_disabledButFlagged
    · rw [Job.onTree_ofExcept, reportOn] at undecided
      split at undecided
      · next e contradicts =>
          cases undecided
          exact ⟨all, read, contradicts⟩
      · cases undecided
  · intro given
    obtain ⟨all, read, contradicts⟩ := given
    rw [render, Job.onTree_bind, read]
    simp only
    rw [Job.onTree_ofExcept, reportOn, contradicts]

/-- Decisions fail exactly if some query is disabled while its feature is permitted, and then with
the first such query; otherwise they keep the enabled and permitted queries. A run that fails so
tells which entry of the document is the first such one, and every entry can be read. -/
theorem render_contradictions (fs : Features) (qs : List Query) (s : Settings) (t : FileTree) :
    ((∃ e, enabledQueries fs qs = .error e) ↔ ∃ q ∈ qs, ∃ f, q.Contradicts fs f) ∧
    (∀ e, enabledQueries fs qs = .error e ↔ ∃ i q f, IsFirstContradiction fs qs i q f ∧
      e = ⟨.entry i (some q.name), .disabledButFlagged f⟩) ∧
    (∀ kept, enabledQueries fs qs = .ok kept ↔ (∀ q ∈ qs, ∀ f, ¬ q.Contradicts fs f) ∧
      kept = qs.filter fun q => q.enabled && q.category.isPermitted fs) ∧
    ∀ location f u,
      (render s).onTree t = (.error (.definition ⟨location, .disabledButFlagged f⟩), u) ↔
        u = t ∧ ∃ validator document entries i name,
          (Validator.resolve s.policy s.schemaPath).onTree t = (.ok validator, t) ∧
          (Loading.ofFile s.definitions).onTree t = (.ok document, t) ∧
          Accepts validator document ∧ document.member? "queries" = some (.array entries) ∧
          IsContradictingEntry s.features entries i name f ∧ location = .entry i (some name) := by
  refine ⟨exists_enabledQueries_error_iff, ?_, ?_, ?_⟩
  · intro e
    exact enabledQueries_eq_error_iff
  · intro kept
    exact enabledQueries_eq_ok_iff_filter
  · intro location f u
    rw [render_eq_disabledButFlagged_iff]
    constructor
    · intro given
      obtain ⟨all, read, failed⟩ := given
      obtain ⟨rfl, validator, document, resolved, loaded, accepts, ofDocument⟩ :=
        queries_eq_ok_iff.mp read
      obtain ⟨entries, i, name, g, list, contradicting, named⟩ :=
        exists_enabledQueries_ofDocument_iff.mp ⟨all, ofDocument, failed⟩
      cases named
      exact ⟨rfl, validator, document, entries, i, name, resolved, loaded, accepts, list,
        contradicting, rfl⟩
    · intro given
      obtain ⟨same, validator, document, entries, i, name, resolved, loaded, accepts, list,
        contradicting, placed⟩ := given
      obtain ⟨all, ofDocument, failed⟩ := exists_enabledQueries_ofDocument_iff.mpr
        ⟨entries, i, name, f, list, contradicting, rfl⟩
      rw [placed]
      exact ⟨all, queries_eq_ok_iff.mpr
        ⟨same, validator, document, resolved, loaded, accepts, ofDocument⟩, failed⟩

/-- A tree whose second and third entries are disabled, an example and a template. -/
def disabledTree : FileTree :=
  let first := "- name: IQuery_Run\n"
  let second := "- name: \" IQuery_Example_Off \"\n  enabled: false\n"
  let third := "- name: IQuery_Template_Off\n  enabled: false\n"
  (FileTree.empty.write "queries.yaml" (.text ("queries:\n" ++ first ++ second ++ third))).2

def uncheckedSettings : Settings where
  definitions := "queries.yaml"
  outputDir := "out"
  policy := .disabled
  features := { sample := true, template := true }

theorem render_contradictions_disabledTree :
    (render uncheckedSettings).onTree disabledTree = (.error (.definition
      ⟨.entry 1 (some "IQuery_Example_Off"), .disabledButFlagged .sample⟩), disabledTree) ∧
    ∃ document entries, (Loading.ofFile "queries.yaml").onTree disabledTree =
        (.ok document, disabledTree) ∧
      document.member? "queries" = some (.array entries) ∧
      IsContradictingEntry uncheckedSettings.features entries 1 "IQuery_Example_Off" .sample := by
  have failed : (render uncheckedSettings).onTree disabledTree = (.error (.definition
      ⟨.entry 1 (some "IQuery_Example_Off"), .disabledButFlagged .sample⟩), disabledTree) := by
    refine (keepsTree_render _).onTree_eq_of_fst ?_
    decide +kernel
  obtain ⟨_, _, _, run⟩ := render_contradictions {} [] uncheckedSettings disabledTree
  obtain ⟨_, _, document, entries, i, name, _, loaded, _, list, contradicting, placed⟩ :=
    (run _ _ _).mp failed
  cases placed
  exact ⟨failed, document, entries, loaded, list, contradicting⟩

end Generation

end QueryHeaders
