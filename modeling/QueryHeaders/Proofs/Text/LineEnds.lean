import QueryHeaders.Proofs.Text.Splicing

/-!
Lines under every convention for their ends: a line feed, a carriage return, or the two in a row.

In a text without carriage returns these are the lines that line feeds end. A carriage return within
a line ends it too, so that the line is no line any more.
-/
namespace QueryHeaders.Text

/-- Every line end as a line feed. -/
def unifyEnds (cs : List Char) : List Char :=
  (replacePair '\r' '\n' '\n' cs).map fun c => if c = '\r' then '\n' else c

/-- The lines of a text, whatever ends them. -/
def anyLines (text : String) : List String :=
  (pieces '\n' (unifyEnds text.toList)).map String.ofList

theorem replacePair_of_notMem {a b c : Char} {cs : List Char} (h : a ∉ cs) :
    replacePair a b c cs = cs := by
  fun_induction replacePair a b c cs with
  | case1 => rfl
  | case2 x => rfl
  | case3 x y rest same ih => exact absurd (by simp [same.1]) h
  | case4 x y rest other ih => rw [ih fun member => h (List.mem_cons_of_mem x member)]

theorem unifyEnds_of_notMem {cs : List Char} (h : '\r' ∉ cs) : unifyEnds cs = cs := by
  have stays : ∀ c ∈ cs, (if c = '\r' then '\n' else c) = c := by
    intro c hc
    apply if_neg
    rintro rfl
    exact h hc
  rw [unifyEnds, replacePair_of_notMem h, List.map_congr_left stays, List.map_id']

theorem notMem_unifyEnds (cs : List Char) : '\r' ∉ unifyEnds cs := by
  intro member
  obtain ⟨c, _, same⟩ := List.mem_map.mp member
  split at same
  · cases same
  · next other => exact other same

theorem mem_of_mem_pieces {sep : Char} {cs p : List Char} (h : p ∈ pieces sep cs) :
    ∀ c ∈ p, c ∈ cs := by
  intro c hc
  induction cs generalizing p with
  | nil =>
      cases List.mem_singleton.mp h
      cases hc
  | cons x rest ih =>
      rw [pieces] at h
      split at h
      · obtain rfl | later := List.mem_cons.mp h
        · cases hc
        · exact List.mem_cons_of_mem x (ih later hc)
      · split at h
        · next none => exact absurd none (pieces_ne_nil sep rest)
        · next first others whole =>
            rw [whole] at ih
            obtain rfl | later := List.mem_cons.mp h
            · obtain rfl | member := List.mem_cons.mp hc
              · exact List.mem_cons_self
              · exact List.mem_cons_of_mem x (ih List.mem_cons_self member)
            · exact List.mem_cons_of_mem x (ih (List.mem_cons_of_mem first later) hc)

theorem anyLines_eq_physicalLines {text : String} (h : '\r' ∉ text.toList) :
    anyLines text = physicalLines text := by
  rw [anyLines, unifyEnds_of_notMem h, physicalLines]

theorem notMem_of_mem_anyLines {text line : String} (h : line ∈ anyLines text) :
    '\r' ∉ line.toList := by
  obtain ⟨p, hp, rfl⟩ := List.mem_map.mp h
  rw [String.toList_ofList]
  exact fun member => notMem_unifyEnds _ (mem_of_mem_pieces hp _ member)

/-! ## Texts of lines -/

variable {ls : List String}

theorem mem_ofLines {c : Char} (h : c ≠ '\n') : c ∈ (ofLines ls).toList ↔ StandsIn c ls := by
  simp [toList_ofLines, h, StandsIn]

theorem physicalLines_ofLines (h : ¬ StandsIn '\n' ls) :
    physicalLines (ofLines ls) = ls ++ [""] := by
  rw [physicalLines, pieces_ofLines fun l hl member => h ⟨l, hl, member⟩]
  simp

theorem anyLines_ofLines_iff (h : ¬ StandsIn '\n' ls) :
    anyLines (ofLines ls) = ls ++ [""] ↔ ¬ StandsIn '\r' ls := by
  constructor
  · rintro same ⟨l, hl, member⟩
    have isLine : l ∈ anyLines (ofLines ls) := by
      rw [same]
      exact List.mem_append_left [""] hl
    exact notMem_of_mem_anyLines isLine member
  · intro clean
    rw [anyLines_eq_physicalLines, physicalLines_ofLines h]
    rwa [mem_ofLines (by decide)]

theorem physicalLines_of_notMem {text : String} (h : '\n' ∉ text.toList) :
    physicalLines text = [text] := by
  rw [physicalLines, pieces_of_notMem h]
  simp

/-- A text without line feeds is one line exactly if it holds no carriage return. -/
theorem anyLines_eq_singleton_iff {text : String} (h : '\n' ∉ text.toList) :
    anyLines text = [text] ↔ '\r' ∉ text.toList := by
  constructor
  · intro same
    apply notMem_of_mem_anyLines
    rw [same]
    exact List.mem_singleton_self text
  · intro clean
    rw [anyLines_eq_physicalLines clean, physicalLines_of_notMem h]

end QueryHeaders.Text
