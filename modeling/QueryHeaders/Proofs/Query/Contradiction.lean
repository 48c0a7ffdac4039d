import QueryHeaders.Proofs.Query.Enablement
import QueryHeaders.Proofs.Query.FirstOffence

/-!
Contradictions between queries and the features of a run.

A query contradicts a feature if it is disabled while the feature of its category is permitted. The
decisions on a list of queries fail exactly if there is a contradiction, and then with the first
one; without any, the included queries are those that are enabled and permitted.
-/
namespace QueryHeaders

variable {fs : Features} {q r : Query} {qs kept : List Query} {f g : Feature} {i : Nat}

/-- The query is disabled, and the feature of its category is permitted. -/
structure Query.Contradicts (fs : Features) (q : Query) (f : Feature) : Prop where
  disabled : q.enabled = false
  category : q.category = .special f
  permitted : fs.permits f = true

/-- Standard queries need no permission. -/
def Category.isPermitted (fs : Features) : Category → Bool
  | .standard => true
  | .special f => fs.permits f

theorem Query.Contradicts.unique (hf : q.Contradicts fs f) (hg : q.Contradicts fs g) : f = g := by
  have same := hf.category.symm.trans hg.category
  cases same
  rfl

/-! ## One query -/

theorem decide_eq_error_iff {d : Defect} :
    q.decide fs = .error d ↔ ∃ f, q.Contradicts fs f ∧ d = .disabledButFlagged f := by
  constructor
  · intro failed
    unfold Query.decide at failed
    split at failed
    · cases failed
    · cases failed
    · cases failed
    · next f disabled special =>
        split at failed
        · next permitted =>
            cases failed
            exact ⟨f, ⟨disabled, special, permitted⟩, rfl⟩
        · cases failed
  · intro given
    obtain ⟨f, contradicts, named⟩ := given
    rw [Query.decide, contradicts.disabled, contradicts.category, named]
    simp only [contradicts.permitted, ↓reduceIte]

theorem decide_eq_ok_iff :
    (∃ decision, q.decide fs = .ok decision) ↔ ∀ f, ¬ q.Contradicts fs f := by
  constructor
  · intro given
    obtain ⟨decision, decided⟩ := given
    intro f contradicts
    rw [decide_eq_error_iff.mpr ⟨f, contradicts, rfl⟩] at decided
    cases decided
  · intro consistent
    cases decided : q.decide fs with
    | ok decision => exact ⟨decision, rfl⟩
    | error d =>
        obtain ⟨f, contradicts, _⟩ := decide_eq_error_iff.mp decided
        exact absurd contradicts (consistent f)

/-- An included query is enabled and permitted. -/
theorem isEnabled_eq : q.isEnabled fs = (q.enabled && q.category.isPermitted fs) := by
  rw [Query.isEnabled, Query.decide]
  cases q.enabled with
  | true =>
      cases q.category with
      | standard => rfl
      | special f => cases permitted : fs.permits f <;> simp [Category.isPermitted, permitted,
          Decision.isIncluded]
  | false =>
      cases q.category with
      | standard => rfl
      | special f => cases permitted : fs.permits f <;> simp [permitted, Decision.isIncluded]

/-! ## Lists of queries -/

structure IsFirstContradiction (fs : Features) (qs : List Query) (i : Nat) (q : Query)
    (f : Feature) : Prop where
  present : qs[i]? = some q
  contradicts : q.Contradicts fs f
  first : ∀ j < i, ∀ r, qs[j]? = some r → ∀ g, ¬ r.Contradicts fs g

theorem isFirstContradiction_head (h : q.Contradicts fs f) :
    IsFirstContradiction fs (q :: qs) 0 q f where
  present := rfl
  contradicts := h
  first := by simp

theorem isFirstContradiction_cons (consistent : ∀ g, ¬ r.Contradicts fs g) :
    IsFirstContradiction fs (r :: qs) (i + 1) q f ↔ IsFirstContradiction fs qs i q f := by
  constructor
  · intro h
    refine ⟨h.present, h.contradicts, ?_⟩
    intro j before other found
    exact h.first (j + 1) (Nat.succ_lt_succ before) other found
  · intro h
    refine ⟨h.present, h.contradicts, ?_⟩
    intro j before other found
    cases j with
    | zero =>
        cases found
        exact consistent
    | succ j => exact h.first j (Nat.lt_of_succ_lt_succ before) other found

/-- A contradiction ends the decisions. -/
theorem enabledFrom_cons_of_contradicts {index : Nat} (h : q.Contradicts fs f) :
    enabledFrom fs index (q :: qs) =
      .error ⟨.entry index (some q.name), .disabledButFlagged f⟩ := by
  rw [enabledFrom, decide_eq_error_iff.mpr ⟨f, h, rfl⟩]

/-- A query without a contradiction is passed: whatever is wrong is wrong with a later one. -/
theorem enabledFrom_cons_eq_error_iff {index : Nat} {e : DefinitionError}
    (consistent : ∀ g, ¬ q.Contradicts fs g) :
    enabledFrom fs index (q :: qs) = .error e ↔ enabledFrom fs (index + 1) qs = .error e := by
  obtain ⟨decision, decided⟩ := decide_eq_ok_iff.mpr consistent
  rw [enabledFrom, decided]
  dsimp only
  rw [bind_eq_error]
  constructor
  · intro failed
    obtain later | ⟨others, _, done⟩ := failed
    · exact later
    · cases done
  · intro later
    exact .inl later

theorem enabledFrom_eq_error_iff {index : Nat} {e : DefinitionError} :
    enabledFrom fs index qs = .error e ↔ ∃ i q f, IsFirstContradiction fs qs i q f ∧
      e = ⟨.entry (index + i) (some q.name), .disabledButFlagged f⟩ := by
  induction qs generalizing index with
  | nil =>
      constructor
      · intro failed
        cases failed
      · intro given
        obtain ⟨i, q, f, h, _⟩ := given
        cases h.present
  | cons r rest ih =>
      by_cases contradicts : ∃ g, r.Contradicts fs g
      · obtain ⟨g, contradicts⟩ := contradicts
        rw [enabledFrom_cons_of_contradicts contradicts]
        constructor
        · intro failed
          cases failed
          exact ⟨0, r, g, isFirstContradiction_head contradicts, rfl⟩
        · intro given
          obtain ⟨i, q, f, h, named⟩ := given
          cases i with
          | zero =>
              cases h.present
              cases contradicts.unique h.contradicts
              rw [named]
              rfl
          | succ i => exact absurd contradicts (h.first 0 (Nat.succ_pos i) r rfl g)
      · have consistent : ∀ g, ¬ r.Contradicts fs g := not_exists.mp contradicts
        have passed : ∀ i, index + 1 + i = index + (i + 1) := fun i => by omega
        rw [enabledFrom_cons_eq_error_iff consistent, ih]
        constructor
        · intro given
          obtain ⟨i, q, f, h, named⟩ := given
          rw [passed] at named
          exact ⟨i + 1, q, f, (isFirstContradiction_cons consistent).mpr h, named⟩
        · intro given
          obtain ⟨i, q, f, h, named⟩ := given
          cases i with
          | zero =>
              cases h.present
              exact absurd h.contradicts (consistent f)
          | succ i =>
              rw [← passed] at named
              exact ⟨i, q, f, (isFirstContradiction_cons consistent).mp h, named⟩

theorem enabledQueries_eq_error_iff {e : DefinitionError} :
    enabledQueries fs qs = .error e ↔ ∃ i q f, IsFirstContradiction fs qs i q f ∧
      e = ⟨.entry i (some q.name), .disabledButFlagged f⟩ := by
  rw [enabledQueries, enabledFrom_eq_error_iff]
  simp only [Nat.zero_add]

/-- Without a contradiction the enabled and permitted queries are included, in their order. -/
theorem enabledQueries_eq_ok_iff_filter :
    enabledQueries fs qs = .ok kept ↔ (∀ q ∈ qs, ∀ f, ¬ q.Contradicts fs f) ∧
      kept = qs.filter fun q => q.enabled && q.category.isPermitted fs := by
  have same : (fun q : Query => q.isEnabled fs) =
      fun q => q.enabled && q.category.isPermitted fs := by
    funext q
    exact isEnabled_eq
  rw [enabledQueries_eq_ok_iff, same]
  simp only [decide_eq_ok_iff]

theorem exists_enabledQueries_error_iff :
    (∃ e, enabledQueries fs qs = .error e) ↔ ∃ q ∈ qs, ∃ f, q.Contradicts fs f := by
  constructor
  · intro given
    obtain ⟨e, failed⟩ := given
    obtain ⟨i, q, f, h, _⟩ := enabledQueries_eq_error_iff.mp failed
    exact ⟨q, List.mem_of_getElem? h.present, f, h.contradicts⟩
  · intro given
    obtain ⟨q, hq, f, contradicts⟩ := given
    cases decided : enabledQueries fs qs with
    | error e => exact ⟨e, rfl⟩
    | ok kept =>
        have consistent := (enabledQueries_eq_ok_iff_filter.mp decided).1
        exact absurd contradicts (consistent q hq f)

end QueryHeaders
