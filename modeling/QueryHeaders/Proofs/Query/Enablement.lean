import QueryHeaders.Proofs.Query.Reading
import QueryHeaders.Query.Enablement

/-!
Which queries are included: those that are decided so, if no decision is a contradiction.
-/
namespace QueryHeaders

variable {fs : Features} {q : Query} {qs kept : List Query}

/-- The query is left out, and no contradiction is met in it. -/
def Query.IsExcluded (fs : Features) (q : Query) : Prop :=
  ∃ decision, q.decide fs = .ok decision ∧ decision.isIncluded = false

def Query.isEnabled (fs : Features) (q : Query) : Bool :=
  match q.decide fs with
  | .ok decision => decision.isIncluded
  | .error _ => false

theorem Query.IsExcluded.isEnabled (h : q.IsExcluded fs) : q.isEnabled fs = false := by
  obtain ⟨decision, decided, excluded⟩ := h
  rw [Query.isEnabled, decided]
  exact excluded

theorem enabledFrom_eq_ok_iff {index : Nat} :
    enabledFrom fs index qs = .ok kept ↔
      (∀ q ∈ qs, ∃ decision, q.decide fs = .ok decision) ∧ kept = qs.filter (·.isEnabled fs) := by
  induction qs generalizing index kept with
  | nil =>
      rw [enabledFrom, Except.ok.injEq]
      simp [eq_comm]
  | cons q rest ih =>
      rw [enabledFrom, List.forall_mem_cons, List.filter_cons, Query.isEnabled]
      cases decided : q.decide fs with
      | error defect => simp
      | ok decision =>
          dsimp only
          simp only [bind_eq_ok, ih, Except.ok.injEq, exists_eq', true_and]
          constructor
          · rintro ⟨others, ⟨decidable, rfl⟩, h⟩
            rw [pure_eq_ok] at h
            exact ⟨decidable, h.symm⟩
          · rintro ⟨decidable, rfl⟩
            exact ⟨_, ⟨decidable, rfl⟩, rfl⟩

theorem enabledQueries_eq_ok_iff :
    enabledQueries fs qs = .ok kept ↔
      (∀ q ∈ qs, ∃ decision, q.decide fs = .ok decision) ∧ kept = qs.filter (·.isEnabled fs) :=
  enabledFrom_eq_ok_iff

theorem mem_of_mem_enabledQueries (h : enabledQueries fs qs = .ok kept) (hq : q ∈ kept) :
    q ∈ qs := by
  rw [(enabledQueries_eq_ok_iff.mp h).2] at hq
  exact (List.mem_filter.mp hq).1

end QueryHeaders
