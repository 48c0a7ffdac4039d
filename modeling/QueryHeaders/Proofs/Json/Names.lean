import QueryHeaders.Loading
import QueryHeaders.Proofs.Disk.Listing
import QueryHeaders.Proofs.Query.Reading

/-!
The names in a document are distinct.

The members of an object are put in their places by name, a later one over an earlier one of its
name. Every document that is loaded is built in this way, so that each name in it leads to one
value.
-/
namespace QueryHeaders

namespace Json

variable {name : String} {value : Json} {members sorted : List (String × Json)}

/-- In every object of the value each name stands once. -/
inductive HasDistinctNames : Json → Prop where
  | null : HasDistinctNames .null
  | bool (b : Bool) : HasDistinctNames (.bool b)
  | int (n : Int) : HasDistinctNames (.int n)
  | float (x : Binary64) : HasDistinctNames (.float x)
  | string (s : String) : HasDistinctNames (.string s)
  | array {items : List Json} (inside : ∀ v ∈ items, HasDistinctNames v) :
      HasDistinctNames (.array items)
  | object {members : List (String × Json)} (distinct : (members.map Prod.fst).Nodup)
      (inside : ∀ m ∈ members, HasDistinctNames m.2) : HasDistinctNames (.object members)

/-- Among distinct names each one leads to its own value. -/
theorem lookup_of_mem (distinct : (members.map Prod.fst).Nodup) (h : (name, value) ∈ members) :
    members.lookup name = some value := by
  obtain ⟨before, after, rfl⟩ := List.append_of_mem h
  refine List.lookup_eq_some_iff.mpr ⟨before, after, rfl, fun m earlier => ?_⟩
  rw [List.map_append, List.nodup_append] at distinct
  rw [bne_iff_ne]
  exact (distinct.2.2 m.1 (List.mem_map_of_mem earlier) name (by simp)).symm

/-- A member's name is put in its place like the name of a file in a directory. -/
theorem names_insertMember :
    (insertMember name value members).map Prod.fst =
      FileTree.insertName name (members.map Prod.fst) := by
  induction members with
  | nil => rfl
  | cons member rest ih =>
      obtain ⟨other, v⟩ := member
      rw [insertMember, List.map_cons, FileTree.insertName]
      split
      · rfl
      · split
        · next same => rw [List.map_cons, same]
        · rw [List.map_cons, ih]

theorem mem_insertMember {m : String × Json} (h : m ∈ insertMember name value members) :
    m = (name, value) ∨ m ∈ members := by
  induction members with
  | nil => exact .inl (List.mem_singleton.mp h)
  | cons member rest ih =>
      obtain ⟨other, v⟩ := member
      rw [insertMember] at h
      split at h
      · exact List.mem_cons.mp h
      · split at h
        · exact (List.mem_cons.mp h).imp_right (List.mem_cons_of_mem _)
        · obtain rfl | h := List.mem_cons.mp h
          · exact .inr List.mem_cons_self
          · exact (ih h).imp_right (List.mem_cons_of_mem _)

theorem forall_mem_foldl_insertMember (given : ∀ m ∈ members, m.2.HasDistinctNames)
    (inside : ∀ m ∈ sorted, m.2.HasDistinctNames) :
    ∀ m ∈ members.foldl (fun sorted (name, value) => insertMember name value sorted) sorted,
      m.2.HasDistinctNames := by
  induction members generalizing sorted with
  | nil => exact inside
  | cons member rest ih =>
      obtain ⟨here, later⟩ := List.forall_mem_cons.mp given
      refine ih later fun m h => ?_
      obtain rfl | h := mem_insertMember h
      · exact here
      · exact inside m h

theorem pairwise_foldl_insertMember (ordered : (sorted.map Prod.fst).Pairwise (· < ·)) :
    ((members.foldl (fun sorted (name, value) => insertMember name value sorted) sorted).map
      Prod.fst).Pairwise (· < ·) := by
  induction members generalizing sorted with
  | nil => exact ordered
  | cons member rest ih =>
      refine ih ?_
      rw [names_insertMember]
      exact FileTree.pairwise_insertName ordered

theorem HasDistinctNames.ofMembers (given : ∀ m ∈ members, m.2.HasDistinctNames) :
    (ofMembers members).HasDistinctNames :=
  .object ((pairwise_foldl_insertMember List.Pairwise.nil).imp ne_of_lt)
    (forall_mem_foldl_insertMember given (by simp))

end Json

namespace Yaml.Value

open Json (HasDistinctNames)

mutual

theorem hasDistinctNames_of_toJson : (v : Value) → {json : Json} → v.toJson = .ok json →
    json.HasDistinctNames
  | .null, _, h => by cases h; exact .null
  | .bool b, _, h => by cases h; exact .bool b
  | .int n, _, h => by cases h; exact .int n
  | .float x, _, h => by
      cases h
      split
      · exact .float x
      · exact .null
  | .string s, _, h => by cases h; exact .string s
  | .sequence items, _, h => by
      rw [toJson, bind_eq_ok] at h
      obtain ⟨values, read, h⟩ := h
      cases h
      exact .array (hasDistinctNames_of_itemsToJson items read)
  | .mapping pairs, _, h => by
      rw [toJson, bind_eq_ok] at h
      obtain ⟨members, read, h⟩ := h
      cases h
      exact .ofMembers (hasDistinctNames_of_pairsToJson pairs read)
  | .tagged tag v, _, h => by
      rw [toJson, bind_eq_ok] at h
      obtain ⟨value, read, h⟩ := h
      cases h
      exact .object (by simp) (by simpa using hasDistinctNames_of_toJson v read)

theorem hasDistinctNames_of_itemsToJson : (vs : List Value) → {items : List Json} →
    itemsToJson vs = .ok items → ∀ v ∈ items, v.HasDistinctNames
  | [], _, h => by cases h; simp
  | v :: rest, _, h => by
      rw [itemsToJson, bind_eq_ok] at h
      obtain ⟨value, read, h⟩ := h
      rw [bind_eq_ok] at h
      obtain ⟨others, readOthers, h⟩ := h
      cases h
      exact List.forall_mem_cons.mpr ⟨hasDistinctNames_of_toJson v read,
        hasDistinctNames_of_itemsToJson rest readOthers⟩

theorem hasDistinctNames_of_pairsToJson : (pairs : List (Value × Value)) →
    {members : List (String × Json)} → pairsToJson pairs = .ok members →
    ∀ m ∈ members, m.2.HasDistinctNames
  | [], _, h => by cases h; simp
  | (k, v) :: rest, _, h => by
      rw [pairsToJson, bind_eq_ok] at h
      obtain ⟨name, _, h⟩ := h
      rw [bind_eq_ok] at h
      obtain ⟨value, read, h⟩ := h
      rw [bind_eq_ok] at h
      obtain ⟨others, readOthers, h⟩ := h
      cases h
      exact List.forall_mem_cons.mpr ⟨hasDistinctNames_of_toJson v read,
        hasDistinctNames_of_pairsToJson rest readOthers⟩

end

end Yaml.Value

/-- In a document that has been loaded each name leads to one value. -/
theorem Loading.hasDistinctNames_of_ofText {content source : String} {document : Json}
    (loaded : ofText content source = .ok document) : document.HasDistinctNames := by
  rw [ofText, bind_eq_ok] at loaded
  obtain ⟨vs, _, loaded⟩ := loaded
  rw [bind_eq_ok] at loaded
  obtain ⟨v, _, loaded⟩ := loaded
  rw [Loading.document] at loaded
  split at loaded
  · next json converted =>
      cases loaded
      exact Yaml.Value.hasDistinctNames_of_toJson v converted
  · cases loaded

end QueryHeaders
