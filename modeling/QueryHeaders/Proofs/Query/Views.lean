import QueryHeaders.Proofs.Query.Description
import QueryHeaders.Query.Enablement

/-!
Queries that differ in one part.

A view of a query leaves out a part of it, its authentication or its signature. Each part is read
from members of its own, and no decision looks at it. So entries that differ in these members alone
give queries with the same view, and lists with the same views are decided on alike.
-/
namespace QueryHeaders

variable {fs : Features} {view : Query → Query} {q r : Query} {qs rs : List Query}

def Query.withoutAuthentication (q : Query) : Query := { q with authentication := none }

def Query.withoutSignature (q : Query) : Query := { q with returnType := "", parameters := [] }

/-! ## Decisions -/

/-- The view leaves what decisions look at. -/
structure KeepsDecisions (view : Query → Query) : Prop where
  name : ∀ q, (view q).name = q.name
  category : ∀ q, (view q).category = q.category
  enabled : ∀ q, (view q).enabled = q.enabled

theorem keepsDecisions_withoutAuthentication : KeepsDecisions Query.withoutAuthentication where
  name := fun _ => rfl
  category := fun _ => rfl
  enabled := fun _ => rfl

theorem keepsDecisions_withoutSignature : KeepsDecisions Query.withoutSignature where
  name := fun _ => rfl
  category := fun _ => rfl
  enabled := fun _ => rfl

theorem KeepsDecisions.decide (keeps : KeepsDecisions view) (q : Query) :
    (view q).decide fs = q.decide fs := by
  rw [Query.decide, Query.decide, keeps.category, keeps.enabled]

/-- Views can be taken before or after the decisions. -/
theorem enabledFrom_map (keeps : KeepsDecisions view) {index : Nat} :
    enabledFrom fs index (qs.map view) = (enabledFrom fs index qs).map (List.map view) := by
  induction qs generalizing index with
  | nil => rfl
  | cons q rest ih =>
      rw [List.map_cons, enabledFrom, enabledFrom, keeps.decide, keeps.name, ih]
      cases q.decide fs with
      | error defect => rfl
      | ok decision =>
          dsimp only
          cases enabledFrom fs (index + 1) rest with
          | error e => rfl
          | ok others => cases decision.isIncluded <;> rfl

theorem enabledQueries_of_views (keeps : KeepsDecisions view) (same : qs.map view = rs.map view) :
    (enabledQueries fs qs).map (List.map view) = (enabledQueries fs rs).map (List.map view) := by
  rw [enabledQueries, enabledQueries, ← enabledFrom_map keeps, ← enabledFrom_map keeps, same]

/-! ## Entries -/

/-- The two have the same members, but for those of these names. -/
def Json.AgreesOutside (names : List String) (v w : Json) : Prop :=
  ∀ name, name ∉ names → v.member? name = w.member? name

variable {ms ns : Members} {name : String}

theorem Gives.of_lookup {α : Type} {Means : Json → α → Prop} {default a : α}
    (same : ms.lookup name = ns.lookup name) (h : Gives Means default ns name a) :
    Gives Means default ms name a := by
  cases h with
  | absent none => exact .absent (same.trans none)
  | null null => exact .null (same.trans null)
  | held found notNull means => exact .held (same.trans found) notNull means

theorem HasText.of_lookup {text : String} (same : ms.lookup name = ns.lookup name)
    (h : HasText ns name text) : HasText ms name text := by
  obtain ⟨s, found, trimmed⟩ := h
  exact ⟨s, same.trans found, trimmed⟩

theorem DescribesCategory.of_lookup {queryName : String} {category : Category}
    (same : ms.lookup "metadata" = ns.lookup "metadata")
    (h : DescribesCategory ns queryName category) : DescribesCategory ms queryName category := by
  obtain ⟨stated, given, means⟩ := h
  exact ⟨stated, given.of_lookup same, means⟩

theorem DescribesQuery.unique (hq : DescribesQuery ms q) (hr : DescribesQuery ms r) : q = r := by
  have first := (ofEntry_eq_ok_iff 0).mpr (readsAs_iff.mpr ⟨ms, rfl, hq⟩)
  have second := (ofEntry_eq_ok_iff 0).mpr (readsAs_iff.mpr ⟨ms, rfl, hr⟩)
  rw [first] at second
  exact Except.ok.inj second

/-- Of an entry that differs in its authentication, the query is the same but for it. -/
theorem withoutAuthentication_eq_of_readsAs {entry other : Json} (reads : ReadsAs entry q)
    (readsOther : ReadsAs other r) (agree : entry.AgreesOutside ["authentication"] other) :
    q.withoutAuthentication = r.withoutAuthentication := by
  obtain ⟨ms, rfl, described⟩ := readsAs_iff.mp reads
  obtain ⟨ns, rfl, describedOther⟩ := readsAs_iff.mp readsOther
  have same : ∀ name, name ∉ ["authentication"] → ms.lookup name = ns.lookup name := agree
  have mixed : DescribesQuery ms { r with authentication := q.authentication } := {
    name := describedOther.name.of_lookup (same _ (by decide))
    name_isIdentifier := describedOther.name_isIdentifier
    category := describedOther.category.of_lookup (same _ (by decide))
    enabled := describedOther.enabled.of_lookup (same _ (by decide))
    returnType := describedOther.returnType.of_lookup (same _ (by decide))
    returnType_oneLine := describedOther.returnType_oneLine
    parameters := describedOther.parameters.of_lookup (same _ (by decide))
    authentication := described.authentication }
  rw [described.unique mixed]
  rfl

/-- Of an entry that differs in its types and parameters, the query is the same but for them. -/
theorem withoutSignature_eq_of_readsAs {entry other : Json} (reads : ReadsAs entry q)
    (readsOther : ReadsAs other r)
    (agree : entry.AgreesOutside ["return_type", "parameters"] other) :
    q.withoutSignature = r.withoutSignature := by
  obtain ⟨ms, rfl, described⟩ := readsAs_iff.mp reads
  obtain ⟨ns, rfl, describedOther⟩ := readsAs_iff.mp readsOther
  have same : ∀ name, name ∉ ["return_type", "parameters"] → ms.lookup name = ns.lookup name :=
    agree
  have mixed : DescribesQuery ms
      { r with returnType := q.returnType, parameters := q.parameters } := {
    name := describedOther.name.of_lookup (same _ (by decide))
    name_isIdentifier := describedOther.name_isIdentifier
    category := describedOther.category.of_lookup (same _ (by decide))
    enabled := describedOther.enabled.of_lookup (same _ (by decide))
    returnType := described.returnType
    returnType_oneLine := described.returnType_oneLine
    parameters := described.parameters
    authentication := describedOther.authentication.of_lookup (same _ (by decide)) }
  rw [described.unique mixed]
  rfl

/-- Where the entries of two lists have the same views, so do the lists of their queries. -/
theorem map_view_eq_of_forall₂ {Agree : Json → Json → Prop} {entries others : List Json}
    (each : ∀ entry other q r, ReadsAs entry q → ReadsAs other r → Agree entry other →
      view q = view r)
    (agree : List.Forall₂ Agree entries others) (reads : List.Forall₂ ReadsAs entries qs)
    (readsOther : List.Forall₂ ReadsAs others rs) : qs.map view = rs.map view := by
  induction agree generalizing qs rs with
  | nil =>
      cases reads
      cases readsOther
      rfl
  | cons first _ ih =>
      cases reads with
      | cons readsFirst reads =>
          cases readsOther with
          | cons readsOtherFirst readsOther =>
              rw [List.map_cons, List.map_cons, each _ _ _ _ readsFirst readsOtherFirst first,
                ih reads readsOther]

end QueryHeaders
