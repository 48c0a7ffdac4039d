import Mathlib.Data.List.Forall2
import QueryHeaders.Proofs.Query.Reading

/-!
Entries read in a row.

Where an entry stands matters to the errors of a reading only, so that a list of queries is the
reading of a list of entries exactly if each query is the reading of its entry and no two queries
have one name.
-/
namespace QueryHeaders

variable {entry : Json} {q : Query}

/-- The entry of the query, wherever it stands. -/
def ReadsAs (entry : Json) (q : Query) : Prop :=
  ∃ members name, entry = .object members ∧ trimmedString members "name" = .ok name ∧
    Text.isIdentifier name = true ∧ Query.ofFields name members = .ok q

theorem ofEntry_eq_ok_iff (index : Nat) : Query.ofEntry index entry = .ok q ↔ ReadsAs entry q := by
  constructor
  · intro h
    unfold Query.ofEntry at h
    split at h
    · next members =>
        split at h
        · cases h
        · next name named =>
            split at h
            · cases h
            · split at h
              · cases h
              · next identifier =>
                  split at h
                  · cases h
                  · next read =>
                      cases h
                      exact ⟨members, name, rfl, named, by simpa using identifier, read⟩
    · cases h
  · rintro ⟨members, name, rfl, named, identifier, read⟩
    have given : name.isEmpty = false := by
      rw [← Bool.not_eq_true, String.isEmpty_iff]
      rintro rfl
      exact Text.ne_empty_of_isIdentifier identifier rfl
    rw [Query.ofEntry, named]
    simp only [given, identifier, read, Bool.false_eq_true, Bool.not_true, ↓reduceIte]

/-! ## Lists of entries -/

variable {seen : List (String × Nat)} {entries : List Json} {qs : List Query}

/-- What names a reading knows after an entry. -/
theorem lookup_cons_eq_none {name : String} {index : Nat} :
    ((q.name, index) :: seen).lookup name = none ↔ name ≠ q.name ∧ seen.lookup name = none := by
  by_cases same : name = q.name
  · simp [same]
  · have other : (name == q.name) = false := beq_eq_false_iff_ne.mpr same
    simp only [List.lookup_cons, other, ne_eq, same, not_false_eq_true, true_and]

theorem ofEntries_cons_repeated {index first : Nat} (rest : List Json)
    (reads : Query.ofEntry index entry = .ok q) (found : seen.lookup q.name = some first) :
    Query.ofEntries seen index (entry :: rest) =
      .error ⟨.entry index (some q.name), .duplicateName q.name first⟩ := by
  rw [Query.ofEntries, reads]
  simp only [Bind.bind, Except.bind, found]
  rfl

theorem ofEntries_cons_new {index : Nat} (rest : List Json)
    (reads : Query.ofEntry index entry = .ok q) (new : seen.lookup q.name = none) :
    Query.ofEntries seen index (entry :: rest) =
      (Query.ofEntries ((q.name, index) :: seen) (index + 1) rest).map (q :: ·) := by
  rw [Query.ofEntries, reads]
  simp only [Bind.bind, Except.bind, new]
  cases Query.ofEntries ((q.name, index) :: seen) (index + 1) rest <;> rfl

/-- A reading succeeds exactly if every entry can be read and every name is new. -/
theorem ofEntries_eq_ok_iff {index : Nat} :
    Query.ofEntries seen index entries = .ok qs ↔
      List.Forall₂ ReadsAs entries qs ∧ (qs.map Query.name).Nodup ∧
        ∀ q ∈ qs, seen.lookup q.name = none := by
  induction entries generalizing seen index qs with
  | nil => cases qs <;> simp [Query.ofEntries]
  | cons entry rest ih =>
      rw [Query.ofEntries, bind_eq_ok, List.forall₂_cons_left_iff]
      constructor
      · rintro ⟨q, first, h⟩
        split at h
        · cases h
        · next new =>
            obtain ⟨others, later, h⟩ := bind_eq_ok.mp h
            obtain ⟨each, distinct, unseen⟩ := ih.mp later
            rw [← pure_eq_ok.mp h, List.map_cons, List.nodup_cons, List.forall_mem_cons]
            refine ⟨⟨q, others, (ofEntry_eq_ok_iff index).mp first, each, rfl⟩,
              ⟨?_, distinct⟩, new, fun r hr => (lookup_cons_eq_none.mp (unseen r hr)).2⟩
            intro member
            obtain ⟨r, hr, same⟩ := List.mem_map.mp member
            exact (lookup_cons_eq_none.mp (unseen r hr)).1 same
      · rintro ⟨⟨q, others, first, each, rfl⟩, distinct, unseen⟩
        rw [List.map_cons, List.nodup_cons] at distinct
        rw [List.forall_mem_cons] at unseen
        have later : Query.ofEntries ((q.name, index) :: seen) (index + 1) rest = .ok others := by
          refine ih.mpr ⟨each, distinct.2, fun r hr => lookup_cons_eq_none.mpr ⟨?_, unseen.2 r hr⟩⟩
          intro same
          exact distinct.1 (List.mem_map.mpr ⟨r, hr, same⟩)
        rw [← bind_eq_ok, ← Query.ofEntries,
          ofEntries_cons_new rest ((ofEntry_eq_ok_iff index).mpr first) unseen.1, later]
        rfl

/-- The names of a document's queries are distinct. -/
theorem nodup_names_of_ofDocument {document : Json} (h : Query.ofDocument document = .ok qs) :
    (qs.map Query.name).Nodup := by
  obtain ⟨members, _, ⟨_, rfl⟩ | ⟨entries, _, read⟩⟩ := ofDocument_eq_ok h
  · exact List.nodup_nil
  · exact (ofEntries_eq_ok_iff.mp read).2.1

end QueryHeaders
