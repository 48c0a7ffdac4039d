import Mathlib.Logic.Function.Basic
import QueryHeaders.Disk.Tree

/-!
What stands where after a tree has changed.

A change is described by its effect on every place: putting an entry changes one place, and so does
removing a file, because nothing stands below a file.
-/
namespace QueryHeaders.FileTree

variable {t : FileTree} {p q : Place} {e : Entry}

theorem entryIn?_of_ne {entries : List (Place × Entry)} (hp : p ≠ []) :
    entryIn? entries p = entries.lookup p := by
  cases p with
  | nil => exact absurd rfl hp
  | cons n p => rfl

theorem entry?_of_ne (hp : p ≠ []) : t.entry? p = t.entries.lookup p :=
  entryIn?_of_ne hp

theorem Admits.ne_root (h : t.Admits p) : p ≠ [] :=
  getLast?_isSome_of_hasRoom h.1

theorem entry?_put (h : t.Admits p) :
    entry? (t.put p e h) = Function.update t.entry? p (some e) := by
  funext q
  by_cases hq : q = []
  · subst hq
    rw [Function.update_of_ne h.ne_root.symm]
    rfl
  · rw [entry?_of_ne hq]
    change (withEntry t.entries p e).lookup q = _
    rw [lookup_withEntry, Function.update_apply, entry?_of_ne hq]

/-! ## Above and below -/

theorem isWithin_iff : isWithin p q = true ↔ p <+: q := by
  rw [isWithin, beq_iff_eq, List.prefix_iff_eq_take]
  exact eq_comm

theorem hasRoom_of_entry? (h : t.entry? p = some e) (hp : p ≠ []) : HasRoom t.entries p :=
  t.rooted p e ((entry?_of_ne hp).symm.trans h)

/-- What stands anywhere stands in a directory. -/
theorem entry?_dropLast (h : t.entry? p = some e) (hp : p ≠ []) :
    t.entry? p.dropLast = some .directory := by
  have room := hasRoom_of_entry? h hp
  simp only [HasRoom, Bool.and_eq_true] at room
  obtain ⟨_, above⟩ := room
  change (t.entry? p.dropLast).any Entry.isDirectory = true at above
  cases hd : t.entry? p.dropLast with
  | none => simp [hd] at above
  | some f =>
      cases f with
      | file c => simp [hd, Entry.isDirectory] at above
      | directory => rfl

/-- Going up from a directory leads to a directory; going up from the root stays there. -/
theorem entry?_up (h : t.entry? p = some .directory) : t.entry? p.dropLast = some .directory := by
  by_cases root : p = []
  · subst root
    exact h
  · exact entry?_dropLast h root

/-- Every place above an entry is a directory. -/
theorem entry?_above (s : List String) (h : t.entry? (p ++ s) = some e) (hs : s ≠ []) :
    t.entry? p = some .directory := by
  induction s generalizing p with
  | nil => exact absurd rfl hs
  | cons n s ih =>
      have below : ∃ f, t.entry? (p ++ [n]) = some f := by
        cases s with
        | nil => exact ⟨e, h⟩
        | cons m s => exact ⟨.directory, ih (by simpa using h) (by simp)⟩
      obtain ⟨f, hf⟩ := below
      simpa using entry?_dropLast hf (by simp)

theorem entry?_remove (hp : p ≠ []) (q : Place) :
    entry? (t.remove p) q = if isWithin p q then none else t.entry? q := by
  by_cases hq : q = []
  · subst hq
    have outside : isWithin p [] = false := by
      rw [Bool.eq_false_iff, Ne, isWithin_iff, List.prefix_nil]
      exact hp
    rw [outside]
    rfl
  · rw [entry?_of_ne hq, entry?_of_ne hq]
    change (t.entries.filter fun x => !isWithin p x.1).lookup q = _
    rw [lookup_filter (!isWithin p ·)]
    cases isWithin p q <;> rfl

/-- Nothing stands below a file, so that only the file itself goes. -/
theorem entry?_remove_file {c : Content} (h : t.entry? p = some (.file c)) :
    entry? (t.remove p) = Function.update t.entry? p none := by
  have hp : p ≠ [] := by
    rintro rfl
    cases h
  funext q
  rw [entry?_remove hp, Function.update_apply]
  by_cases hq : q = p
  · subst hq
    simp [isWithin]
  · rw [if_neg hq]
    split
    · next within =>
        obtain ⟨s, rfl⟩ := isWithin_iff.mp within
        have hs : s ≠ [] := by
          rintro rfl
          simp at hq
        cases below : t.entry? (p ++ s) with
        | none => rfl
        | some e =>
            have := entry?_above s below hs
            rw [h] at this
            cases this
    · rfl

/-! ## Room -/

/-- There is room for a plain name in a directory. -/
theorem hasRoom_child {d : Place} {n : String} (hd : t.entry? d = some .directory)
    (hn : isPlainName n = true) : HasRoom t.entries (d ++ [n]) := by
  have above : entryIn? t.entries d = some .directory := hd
  simp [HasRoom, hn, above, Entry.isDirectory]

theorem admits_child {d : Place} {n : String} (hd : t.entry? d = some .directory)
    (hn : isPlainName n = true) (free : t.entry? (d ++ [n]) ≠ some .directory) :
    t.Admits (d ++ [n]) := by
  refine ⟨hasRoom_child hd hn, ?_⟩
  cases h : t.entry? (d ++ [n]) with
  | none => rfl
  | some e =>
      cases e with
      | file c => rfl
      | directory => exact absurd h free

end QueryHeaders.FileTree
