import Mathlib.Data.Finset.Card
import QueryHeaders.Proofs.Query.Enablement
import QueryHeaders.Proofs.Query.Entries
import QueryHeaders.Proofs.Schema.Queries

/-!
Deleting queries from a document.

The built-in schema and the reading look at each entry on its own, except that names are distinct.
A document without some of its entries is therefore accepted if the whole is, and gives the queries
of the other entries. Where only excluded queries are deleted, the same ones are included.
-/
namespace QueryHeaders

section

variable {α β : Type} {deleted : Finset Nat} {index : Nat} {l : List α}

/-- A list whose first item has a position, without the items at the deleted positions. -/
def keptFrom (deleted : Finset Nat) (index : Nat) : List α → List α
  | [] => []
  | a :: rest =>
      if index ∈ deleted then keptFrom deleted (index + 1) rest
      else a :: keptFrom deleted (index + 1) rest

theorem keptFrom_sublist (deleted : Finset Nat) (index : Nat) (l : List α) :
    (keptFrom deleted index l).Sublist l := by
  induction l generalizing index with
  | nil => exact List.Sublist.slnil
  | cons a rest ih =>
      rw [keptFrom]
      split
      · exact (ih (index + 1)).cons a
      · exact (ih (index + 1)).cons_cons a

theorem forall₂_keptFrom {R : α → β → Prop} {as : List α} {bs : List β}
    (h : List.Forall₂ R as bs) (deleted : Finset Nat) (index : Nat) :
    List.Forall₂ R (keptFrom deleted index as) (keptFrom deleted index bs) := by
  induction h generalizing index with
  | nil => exact List.Forall₂.nil
  | cons related _ ih =>
      rw [keptFrom, keptFrom]
      split
      · exact ih (index + 1)
      · exact List.Forall₂.cons related (ih (index + 1))

theorem filter_keptFrom {p : α → Bool}
    (h : ∀ (i : Nat) a, index + i ∈ deleted → l[i]? = some a → p a = false) :
    (keptFrom deleted index l).filter p = l.filter p := by
  induction l generalizing index with
  | nil => rfl
  | cons a rest ih =>
      have others : (keptFrom deleted (index + 1) rest).filter p = rest.filter p := by
        refine ih fun i b member found => h (i + 1) b ?_ found
        rwa [Nat.add_comm i, ← Nat.add_assoc]
      rw [keptFrom]
      split
      · next member => rw [others, List.filter_cons, h 0 a member rfl, if_neg Bool.false_ne_true]
      · rw [List.filter_cons, List.filter_cons, others]

theorem length_keptFrom_add (deleted : Finset Nat) (index : Nat) (l : List α) :
    (keptFrom deleted index l).length +
      (deleted.filter fun i => index ≤ i ∧ i < index + l.length).card = l.length := by
  induction l generalizing index with
  | nil =>
      have none : (deleted.filter fun i => index ≤ i ∧ i < index + 0) = ∅ := by
        rw [Finset.filter_eq_empty_iff]
        intro i _
        omega
      rw [keptFrom, List.length_nil, none, Finset.card_empty]
  | cons a rest ih =>
      -- The deleted positions from here on are this one, if it is deleted, and those behind it.
      have later := ih (index + 1)
      rw [keptFrom, List.length_cons]
      split
      · next member =>
          have first : (deleted.filter fun i => index ≤ i ∧ i < index + (rest.length + 1)) =
              insert index
                (deleted.filter fun i => index + 1 ≤ i ∧ i < index + 1 + rest.length) := by
            ext i
            rw [Finset.mem_filter, Finset.mem_insert, Finset.mem_filter]
            constructor
            · rintro ⟨hi, range⟩
              by_cases same : i = index
              · exact .inl same
              · exact .inr ⟨hi, by omega⟩
            · rintro (rfl | ⟨hi, range⟩)
              · exact ⟨member, by omega⟩
              · exact ⟨hi, by omega⟩
          rw [first, Finset.card_insert_of_notMem (by simp)]
          omega
      · next other =>
          have same : (deleted.filter fun i => index ≤ i ∧ i < index + (rest.length + 1)) =
              deleted.filter fun i => index + 1 ≤ i ∧ i < index + 1 + rest.length := by
            refine Finset.filter_congr fun i hi => ?_
            have away : i ≠ index := by
              rintro rfl
              exact other hi
            omega
          rw [same, List.length_cons]
          omega

end

/-! ## Documents -/

namespace Json

def withoutItems (deleted : Finset Nat) : Json → Json
  | .array items => .array (keptFrom deleted 0 items)
  | v => v

end Json

def Members.withoutQueries (deleted : Finset Nat) (members : Members) : Members :=
  members.map fun (name, v) => (name, if name = "queries" then v.withoutItems deleted else v)

/-- The document without the queries at the deleted positions. -/
def Json.withoutQueries (deleted : Finset Nat) : Json → Json
  | .object members => .object (Members.withoutQueries deleted members)
  | v => v

variable {deleted : Finset Nat} {fs : Features} {document : Json} {all kept : List Query}
  {members : Members}

theorem lookup_withoutQueries (deleted : Finset Nat) (members : Members) :
    (Members.withoutQueries deleted members).lookup "queries" =
      (members.lookup "queries").map (Json.withoutItems deleted) := by
  induction members with
  | nil => rfl
  | cons member rest ih =>
      obtain ⟨name, v⟩ := member
      rw [Members.withoutQueries, List.map_cons, List.lookup_cons, List.lookup_cons]
      split
      · next same =>
          cases beq_iff_eq.mp same
          rfl
      · exact ih

theorem field?_withoutQueries (deleted : Finset Nat) (members : Members) :
    field? (Members.withoutQueries deleted members) "queries" =
      (field? members "queries").map (Json.withoutItems deleted) := by
  rw [field?, field?, lookup_withoutQueries]
  cases members.lookup "queries" with
  | none => rfl
  | some v => cases v <;> rfl

/-- The queries of a document without some of its entries. -/
theorem ofDocument_withoutQueries (deleted : Finset Nat)
    (read : Query.ofDocument document = .ok all) :
    Query.ofDocument (document.withoutQueries deleted) = .ok (keptFrom deleted 0 all) := by
  obtain ⟨members, rfl, ⟨absent, rfl⟩ | ⟨entries, present, reads⟩⟩ := ofDocument_eq_ok read
  · rw [Json.withoutQueries, Query.ofDocument, field?_withoutQueries, absent]
    rfl
  · rw [Json.withoutQueries, Query.ofDocument, field?_withoutQueries, present]
    obtain ⟨each, distinct, _⟩ := ofEntries_eq_ok_iff.mp reads
    refine ofEntries_eq_ok_iff.mpr ⟨forall₂_keptFrom each deleted 0, ?_, fun _ _ => rfl⟩
    exact distinct.sublist ((keptFrom_sublist deleted 0 all).map Query.name)

/-- The built-in schema accepts a document without some of its entries if it accepts the whole. -/
theorem violations_withoutQueries (deleted : Finset Nat)
    (accepted : Schema.builtIn.violations document = []) :
    Schema.builtIn.violations (document.withoutQueries deleted) = [] := by
  cases document with
  | object members =>
      rw [Schema.violations_eq_nil_iff] at accepted
      obtain ⟨present, admitted⟩ := accepted
      rw [Json.withoutQueries, Schema.violations_eq_nil_iff, lookup_withoutQueries,
        Option.isSome_map]
      refine ⟨present, fun v hv => ?_⟩
      obtain ⟨⟨name, w⟩, hw, same⟩ := List.mem_map.mp hv
      obtain ⟨rfl, rfl⟩ := Prod.mk.inj same
      rw [if_pos rfl]
      obtain ⟨entries, rfl, each⟩ := Schema.admits_queriesRule_iff.mp (admitted w hw)
      refine Schema.admits_queriesRule_iff.mpr ⟨_, rfl, fun entry he => ?_⟩
      exact each entry ((keptFrom_sublist deleted 0 entries).subset he)
  | _ => exact accepted

/-- Excluded queries may be deleted before the decisions are made. -/
theorem enabledQueries_keptFrom (enabled : enabledQueries fs all = .ok kept)
    (excluded : ∀ i ∈ deleted, ∀ q, all[i]? = some q → q.IsExcluded fs) :
    enabledQueries fs (keptFrom deleted 0 all) = .ok kept := by
  obtain ⟨decided, rfl⟩ := enabledQueries_eq_ok_iff.mp enabled
  refine enabledQueries_eq_ok_iff.mpr ⟨fun q hq => ?_, ?_⟩
  · exact decided q ((keptFrom_sublist deleted 0 all).subset hq)
  · refine (filter_keptFrom fun i q member found => ?_).symm
    rw [Nat.zero_add] at member
    exact (excluded i member q found).isEnabled

end QueryHeaders
