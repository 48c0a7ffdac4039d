import QueryHeaders.Proofs.Query.Contradiction

/-!
More features, more queries.

To permit a feature leaves no query out, but it can turn a query that was left out in silence into a
contradiction. So with fewer features the decisions on a list succeed wherever they do with more,
and include the same queries less those of the features that are missing.
-/
namespace QueryHeaders

variable {fs gs : Features} {q : Query} {qs more : List Query} {f : Feature}

/-- The first permit nothing that the second do not. -/
structure Features.AtMost (fs gs : Features) : Prop where
  sample : fs.sample = true → gs.sample = true
  template : fs.template = true → gs.template = true

theorem Features.AtMost.permits (fewer : fs.AtMost gs) (permitted : fs.permits f = true) :
    gs.permits f = true := by
  cases f with
  | sample => exact fewer.sample permitted
  | template => exact fewer.template permitted

theorem Category.isPermitted_of_atMost {c : Category} (fewer : fs.AtMost gs)
    (permitted : c.isPermitted fs = true) : c.isPermitted gs = true := by
  cases c with
  | standard => rfl
  | special f => exact fewer.permits permitted

theorem Category.isPermitted_eq_false_iff {c : Category} :
    c.isPermitted fs = false ↔ ∃ f, c = .special f ∧ fs.permits f = false := by
  cases c with
  | standard => simp [Category.isPermitted]
  | special f => simp [Category.isPermitted]

/-! ## One query -/

theorem Query.Contradicts.of_atMost (fewer : fs.AtMost gs) (h : q.Contradicts fs f) :
    q.Contradicts gs f where
  disabled := h.disabled
  category := h.category
  permitted := fewer.permits h.permitted

/-- Of the queries that more features include, fewer include those whose category they permit. -/
theorem Query.isIncluded_of_atMost (fewer : fs.AtMost gs) (q : Query) :
    (q.category.isPermitted fs && (q.enabled && q.category.isPermitted gs)) =
      (q.enabled && q.category.isPermitted fs) := by
  cases permitted : q.category.isPermitted fs with
  | false => simp only [Bool.false_and, Bool.and_false]
  | true => simp only [Category.isPermitted_of_atMost fewer permitted, Bool.true_and]

/-! ## Lists of queries -/

/-- With fewer features the decisions on a list succeed wherever they do with more. What is included
only with more belongs to a feature that is missing, and the standard queries are the same. -/
theorem enabledQueries_of_atMost (fewer : fs.AtMost gs) (decided : enabledQueries gs qs = .ok more) :
    ∃ kept, enabledQueries fs qs = .ok kept ∧ kept.Sublist more ∧
      kept = more.filter (·.category.isPermitted fs) ∧
      (∀ q ∈ more, q ∉ kept →
        ∃ f, q.category = .special f ∧ gs.permits f = true ∧ fs.permits f = false) ∧
      kept.filter (·.category = .standard) = more.filter (·.category = .standard) := by
  obtain ⟨consistent, included⟩ := enabledQueries_eq_ok_iff_filter.mp decided
  refine ⟨more.filter (·.category.isPermitted fs), ?_, List.filter_sublist, rfl, ?_, ?_⟩
  · apply enabledQueries_eq_ok_iff_filter.mpr
    constructor
    · intro q hq f contradicts
      exact consistent q hq f (contradicts.of_atMost fewer)
    · rw [included, List.filter_filter]
      exact List.filter_congr fun q _ => Query.isIncluded_of_atMost fewer q
  · intro q hq missing
    have unpermitted : q.category.isPermitted fs = false := by
      rw [List.mem_filter, not_and] at missing
      exact Bool.eq_false_iff.mpr (missing hq)
    obtain ⟨f, special, without⟩ := Category.isPermitted_eq_false_iff.mp unpermitted
    rw [included, List.mem_filter, Bool.and_eq_true, special] at hq
    exact ⟨f, special, hq.2.2, without⟩
  · rw [List.filter_filter]
    apply List.filter_congr
    intro q _
    by_cases standard : q.category = .standard
    · simp [standard, Category.isPermitted]
    · simp [standard]

/-- A standard query, an example, and a template that is disabled. -/
def mixedQueries : List Query := [
  { name := "IQuery_Run", returnType := "int", parameters := [], category := .standard },
  { name := "IQuery_Example_Run", returnType := "int", parameters := [],
    category := .special .sample },
  { name := "IQuery_Template_Off", returnType := "int", parameters := [],
    category := .special .template, enabled := false }]

theorem enabledQueries_of_atMost_mixedQueries :
    enabledQueries { sample := true } mixedQueries = .ok (mixedQueries.take 2) ∧
    ∃ kept, enabledQueries {} mixedQueries = .ok kept ∧ kept.Sublist (mixedQueries.take 2) ∧
      kept = mixedQueries.take 1 := by
  have fewer : Features.AtMost {} { sample := true } := ⟨nofun, nofun⟩
  have decided : enabledQueries { sample := true } mixedQueries = .ok (mixedQueries.take 2) := by
    decide
  obtain ⟨kept, without, sublist, filtered, _⟩ := enabledQueries_of_atMost fewer decided
  refine ⟨decided, kept, without, sublist, ?_⟩
  rw [filtered]
  decide

end QueryHeaders
