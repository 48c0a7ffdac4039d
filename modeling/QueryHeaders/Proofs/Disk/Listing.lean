import Mathlib.Data.String.Basic
import QueryHeaders.Proofs.Disk.Child

/-!
What a directory lists.

The names in a directory are listed in order and each once, whatever the order in which they were
made, and a name is listed exactly if something stands there; what stands there can be reached by
the path of the name in the directory.
-/
namespace QueryHeaders

theorem mem_of_lookup {α β : Type} [BEq α] [LawfulBEq α] {entries : List (α × β)} {key : α}
    {value : β} (h : entries.lookup key = some value) : (key, value) ∈ entries := by
  obtain ⟨before, after, rfl, _⟩ := List.lookup_eq_some_iff.mp h
  exact List.mem_append_right before List.mem_cons_self

namespace FileTree

variable {t : FileTree} {d p : Place} {n m directory : String} {ns : List String} {e : Entry}

/-! ## Names in order -/

theorem mem_insertName : n ∈ insertName m ns ↔ n = m ∨ n ∈ ns := by
  induction ns with
  | nil => simp [insertName]
  | cons other rest ih =>
      rw [insertName]
      split
      · exact List.mem_cons
      · split
        · next same =>
            subst same
            simp
        · rw [List.mem_cons, ih, List.mem_cons, or_left_comm]

theorem pairwise_insertName (ordered : ns.Pairwise (· < ·)) :
    (insertName m ns).Pairwise (· < ·) := by
  induction ns with
  | nil => exact List.pairwise_singleton _ _
  | cons other rest ih =>
      obtain ⟨least, later⟩ := List.pairwise_cons.mp ordered
      rw [insertName]
      split
      · next before =>
          refine List.pairwise_cons.mpr ⟨fun n member => ?_, ordered⟩
          obtain rfl | member := List.mem_cons.mp member
          · exact before
          · exact before.trans (least n member)
      · next notBefore =>
          split
          · exact ordered
          · next differs =>
              refine List.pairwise_cons.mpr ⟨fun n member => ?_, ih later⟩
              obtain rfl | member := mem_insertName.mp member
              · exact lt_of_le_of_ne (not_lt.mp notBefore) (Ne.symm differs)
              · exact least n member

theorem mem_foldl_insertName {ms : List String} :
    n ∈ ms.foldl (fun sorted m => insertName m sorted) ns ↔ n ∈ ms ∨ n ∈ ns := by
  induction ms generalizing ns with
  | nil => simp
  | cons m rest ih =>
      rw [List.foldl_cons, ih, mem_insertName, List.mem_cons, or_left_comm, or_assoc]

theorem pairwise_foldl_insertName {ms : List String} (ordered : ns.Pairwise (· < ·)) :
    (ms.foldl (fun sorted m => insertName m sorted) ns).Pairwise (· < ·) := by
  induction ms generalizing ns with
  | nil => exact ordered
  | cons m rest ih => exact ih (pairwise_insertName ordered)

theorem pairwise_names (t : FileTree) (d : Place) : (t.names d).Pairwise (· < ·) :=
  pairwise_foldl_insertName List.Pairwise.nil

theorem mem_names_of_stands (stands : t.entry? (d ++ [n]) = some e) : n ∈ t.names d := by
  rw [names, mem_foldl_insertName]
  rw [entry?_of_ne (by simp)] at stands
  exact .inl (List.mem_filterMap.mpr ⟨(d ++ [n], e), mem_of_lookup stands, by simp [nameIn?]⟩)

/-- What stands in a directory has a plain name. -/
theorem isPlainName_of_stands (stands : t.entry? (d ++ [n]) = some e) : isPlainName n = true := by
  have room := hasRoom_of_entry? stands (by simp)
  simp only [HasRoom, Bool.and_eq_true] at room
  simpa using room.1

/-! ## Listings -/

theorem kind?_eq_directory_iff :
    t.kind? directory = some .directory ↔
      ∃ d, t.locate directory = .ok d ∧ t.entry? d = some .directory := by
  have isDirectory (e : Entry) : e.kind = .directory ↔ e = .directory := by
    cases e <;> simp [Entry.kind]
  rw [kind?, find?, Option.map_eq_some_iff]
  cases t.locate directory <;> simp [isDirectory]

/-- A directory lists what stands in it, in the order of the names. -/
theorem list_of_opens (located : t.locate directory = .ok d)
    (stands : t.entry? d = some .directory) :
    ∃ entries, t.list directory = .ok entries ∧ (entries.map Prod.fst).Pairwise (· < ·) ∧
      ∀ n k, (n, k) ∈ entries ↔ ∃ e, t.entry? (d ++ [n]) = some e ∧ e.kind = k := by
  let entryOf (n : String) : Option (String × Kind) :=
    (t.entry? (d ++ [n])).map fun e => (n, e.kind)
  have named {n : String} {x : String × Kind} (given : entryOf n = some x) : x.1 = n := by
    obtain ⟨e, _, rfl⟩ := Option.map_eq_some_iff.mp given
    rfl
  refine ⟨(t.names d).filterMap entryOf, ?_, ?_, fun n k => ?_⟩
  · simp only [list, located, Bind.bind, Except.bind, stands]
    rfl
  · rw [List.pairwise_map]
    refine (pairwise_names t d).filterMap _ fun n m before x here y there => ?_
    rw [named here, named there]
    exact before
  · rw [List.mem_filterMap]
    constructor
    · rintro ⟨m, _, given⟩
      obtain ⟨e, stands, same⟩ := Option.map_eq_some_iff.mp given
      cases same
      exact ⟨e, stands, rfl⟩
    · rintro ⟨e, stands, rfl⟩
      exact ⟨n, mem_names_of_stands stands, by simp [entryOf, stands]⟩

theorem kind?_child (opens : t.Opens directory d) (stands : t.entry? (d ++ [n]) = some e) :
    t.kind? (Path.join directory n) = some e.kind := by
  rw [kind?, find?_of_locate (opens.locate n (isPlainName_of_stands stands)), stands]
  rfl

end FileTree

end QueryHeaders
