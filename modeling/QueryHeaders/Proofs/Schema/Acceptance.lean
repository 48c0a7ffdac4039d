import QueryHeaders.Schema.Violation

/-!
What is known of a value in which a rule finds nothing.

The constraints of a rule add up their findings, so that each of them is met on its own; what is
found inside a value adds up too, so that members and items are admitted by their own rules. A
reference admits what its target admits.
-/
namespace QueryHeaders.Schema

variable {targets : List (String × Rule)} {rule : Rule} {v : Json} {t : Trail}

/-- A value in which a rule finds nothing, wherever the value stands. -/
def Admits (targets : List (String × Rule)) (rule : Rule) (v : Json) : Prop :=
  ∃ t, check targets rule t v = []

theorem admits_of_violations {s : Schema} (h : s.violations v = []) : Admits s.targets s.root v :=
  ⟨{}, List.map_eq_nil_iff.mp h⟩

@[simp]
theorem Trail.intoRule_nil : t.intoRule [] = t := by
  rw [intoRule, List.append_nil]

/-! ## Members and items -/

theorem admits_of_checkItems {index : Nat} {vs : List Json}
    (h : checkItems targets rule t index vs = []) : ∀ v ∈ vs, Admits targets rule v := by
  induction vs generalizing index with
  | nil => simp
  | cons v rest ih =>
      rw [checkItems, List.append_eq_nil_iff] at h
      exact List.forall_mem_cons.mpr ⟨⟨_, h.1⟩, ih h.2⟩

theorem admits_of_checkMembers {known : List (String × Rule)} {additional : Option Rule}
    {members : List (String × Json)} {name : String}
    (h : checkMembers targets known additional t members = [])
    (hRule : known.lookup name = some rule) (hMember : members.lookup name = some v) :
    Admits targets rule v := by
  induction members with
  | nil => cases hMember
  | cons member rest ih =>
      obtain ⟨other, w⟩ := member
      unfold checkMembers at h
      obtain ⟨here, others⟩ := List.append_eq_nil_iff.mp h
      rw [List.lookup_cons] at hMember
      split at hMember
      · next same =>
          cases hMember
          cases beq_iff_eq.mp same
          rw [hRule] at here
          exact ⟨_, here⟩
      · exact ih others hMember

/-! ## Rules -/

section

variable {types : List TypeName} {required : List String}
  {properties : Option (List (String × Rule))} {additional items : Option Rule}
  {pattern : Option NamedPattern} {least : Option Nat}

theorem check_constraints
    (h : check targets (.constraints types required properties additional items pattern least) t v
      = []) :
    (∀ members, v = .object members →
      checkMembers targets (properties.getD []) additional t members = []) ∧
    (∀ vs rule, v = .array vs → items = some rule →
      checkItems targets rule (t.intoRule ["items"]) 0 vs = []) ∧
    patternFindings pattern t v = [] ∧
    requiredFindings required t v = [] ∧ typeFindings types t v = [] := by
  rw [check] at h
  simp only [resolve, List.flatMap_cons, List.flatMap_nil, List.append_nil, Trail.intoRule_nil,
    List.append_eq_nil_iff] at h
  obtain ⟨⟨⟨⟨inside, _⟩, hPattern⟩, hRequired⟩, hTypes⟩ := h
  refine ⟨?_, ?_, hPattern, hRequired, hTypes⟩
  · rintro members rfl
    exact (List.append_eq_nil_iff.mp inside).1
  · rintro vs rule rfl rfl
    exact inside

namespace Admits

theorem any_type
    (h : Admits targets (.constraints types required properties additional items pattern least) v)
    (given : types ≠ []) : types.any (·.admits v) = true := by
  obtain ⟨t, h⟩ := h
  have found := (check_constraints h).2.2.2.2
  rw [typeFindings] at found
  split at found
  · next met => simpa [given] using met
  · cases found

theorem exists_required {members : List (String × Json)} {name : String}
    (h : Admits targets (.constraints types required properties additional items pattern least)
      (.object members)) (hName : name ∈ required) : ∃ v, members.lookup name = some v := by
  obtain ⟨t, h⟩ := h
  have found := (check_constraints h).2.2.2.1
  rw [requiredFindings, List.map_eq_nil_iff, List.filter_eq_nil_iff] at found
  cases present : members.lookup name with
  | none => exact absurd (by rw [present]; rfl) (found name hName)
  | some v => exact ⟨v, rfl⟩

theorem member {known : List (String × Rule)} {members : List (String × Json)} {name : String}
    (h : Admits targets (.constraints types required (some known) additional items pattern least)
      (.object members)) (hRule : known.lookup name = some rule)
    (hMember : members.lookup name = some v) : Admits targets rule v := by
  obtain ⟨t, h⟩ := h
  exact admits_of_checkMembers ((check_constraints h).1 members rfl) hRule hMember

theorem item {vs : List Json}
    (h : Admits targets
      (.constraints types required properties additional (some rule) pattern least) (.array vs)) :
    ∀ v ∈ vs, Admits targets rule v := by
  obtain ⟨t, h⟩ := h
  exact admits_of_checkItems ((check_constraints h).2.1 vs rule rfl rfl)

theorem isFoundIn {p : NamedPattern} {s : String}
    (h : Admits targets (.constraints types required properties additional items (some p) least)
      (.string s)) : p.pattern.isFoundIn s = true := by
  obtain ⟨t, h⟩ := h
  have found := (check_constraints h).2.2.1
  rw [patternFindings] at found
  split at found
  · assumption
  · cases found

/-- A reference that stands alone admits what the rule that it leads to admits. -/
theorem target {pointer : String}
    (h : Admits targets (.reference pointer .everything) v)
    (hTarget : targets.lookup pointer =
      some (.constraints types required properties additional items pattern least)) :
    Admits targets (.constraints types required properties additional items pattern least) v := by
  obtain ⟨t, h⟩ := h
  refine ⟨t.intoRule ["$ref"], ?_⟩
  obtain ⟨n, hLength⟩ : ∃ n, targets.length = n + 1 := by
    cases targets with
    | nil => cases hTarget
    | cons first rest => exact ⟨rest.length, rfl⟩
  rw [check] at h ⊢
  simp only [hLength, resolve, hTarget, Option.getD_some, List.map_cons, List.map_nil,
    List.cons_append, List.nil_append, List.flatMap_cons, List.flatMap_nil, List.append_nil,
    Trail.intoRule_nil] at h ⊢
  exact h

end Admits

end

end QueryHeaders.Schema
