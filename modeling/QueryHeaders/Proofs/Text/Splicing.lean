import QueryHeaders.Proofs.Text.Control
import QueryHeaders.Text.Lines

/-!
Physical and logical lines.

A compiler first deletes every backslash that ends a physical line together with the line end; what
it then reads are logical lines. Whole lines, which hold no line end and do not end in a backslash,
are logical lines as they stand.
-/
namespace QueryHeaders.Text

/-- Deletes every backslash that a line end follows, and that line end. -/
def splice : List Char → List Char
  | [] => []
  | '\\' :: '\n' :: rest => splice rest
  | c :: rest => c :: splice rest

def physicalLines (text : String) : List String := (pieces '\n' text.toList).map String.ofList

def logicalLines (text : String) : List String :=
  (pieces '\n' (splice text.toList)).map String.ofList

/-- A line that ends with the next line end, and not later. -/
structure IsWhole (line : String) : Prop where
  oneLine : '\n' ∉ line.toList
  notContinued : line.toList.getLast? ≠ some '\\'

theorem isWhole_append {s t : String} (h : hasControl (s ++ t) = false)
    (ends : t.toList ≠ [] ∧ t.toList.getLast? ≠ some '\\') : IsWhole (s ++ t) where
  oneLine := notMem_of_isControl h rfl
  notContinued := by
    rw [String.toList_append, List.getLast?_append]
    cases last : t.toList.getLast? with
    | none => exact absurd (List.getLast?_eq_none_iff.mp last) ends.1
    | some c => simpa [last] using ends.2

theorem isWhole_append_identifier {s t : String} (hs : hasControl s = false)
    (ht : isIdentifier t = true) : IsWhole (s ++ t) := by
  have named : t.toList ≠ [] := by
    simpa using ne_empty_of_isIdentifier ht
  refine isWhole_append ?_ ⟨named, fun last => ?_⟩
  · rw [hasControl_append, hs, hasControl_of_isIdentifier ht]
    rfl
  · exact notMem_of_isIdentifier ht rfl (List.mem_of_getLast? last)

/-! ## Splicing -/

theorem splice_cons {c : Char} {rest : List Char} (h : c ≠ '\\' ∨ rest.head? ≠ some '\n') :
    splice (c :: rest) = c :: splice rest := by
  rw [splice.eq_def]
  split
  · next empty => cases empty
  · next same =>
      cases same
      simp at h
  · next same =>
      cases same
      rfl

theorem splice_whole {line rest : List Char} (oneLine : '\n' ∉ line)
    (notContinued : line.getLast? ≠ some '\\') :
    splice (line ++ '\n' :: rest) = line ++ '\n' :: splice rest := by
  induction line with
  | nil => exact splice_cons (.inl (by decide))
  | cons c others ih =>
      obtain ⟨_, oneLine⟩ := List.ne_and_not_mem_of_not_mem_cons oneLine
      cases others with
      | nil =>
          have hc : c ≠ '\\' := fun same => notContinued (by rw [same]; rfl)
          rw [List.cons_append, splice_cons (.inl hc), List.nil_append,
            splice_cons (.inl (by decide))]
          rfl
      | cons d more =>
          have hd : d ≠ '\n' := fun same => oneLine (by simp [same])
          rw [List.getLast?_cons_cons] at notContinued
          rw [List.cons_append, splice_cons (.inr (by simpa using hd)), ih oneLine notContinued]
          rfl

theorem splice_continued {line : List Char} (oneLine : '\n' ∉ line) (rest : List Char) :
    splice (line ++ '\\' :: '\n' :: rest) = line ++ splice rest := by
  induction line with
  | nil => rfl
  | cons c others ih =>
      obtain ⟨_, oneLine⟩ := List.ne_and_not_mem_of_not_mem_cons oneLine
      have onward : (others ++ '\\' :: '\n' :: rest).head? ≠ some '\n' := by
        cases others with
        | nil => simp
        | cons d more => simpa using (List.ne_and_not_mem_of_not_mem_cons oneLine).1.symm
      rw [List.cons_append, splice_cons (.inr onward), ih oneLine]
      rfl

/-! ## Texts of lines -/

theorem toList_ofLines (ls : List String) :
    (ofLines ls).toList = ls.flatMap fun l => l.toList ++ ['\n'] := by
  induction ls with
  | nil => rfl
  | cons l ls ih =>
      rw [ofLines, List.map_cons, String.join_cons, String.toList_append, String.toList_append]
      rw [ofLines] at ih
      rw [ih]
      rfl

theorem ofLines_append (ls ms : List String) : ofLines (ls ++ ms) = ofLines ls ++ ofLines ms := by
  rw [← String.toList_inj, String.toList_append, toList_ofLines, toList_ofLines, toList_ofLines,
    List.flatMap_append]

theorem pieces_ofLines_append {ls : List String} (h : ∀ l ∈ ls, '\n' ∉ l.toList)
    (rest : List Char) :
    pieces '\n' ((ofLines ls).toList ++ rest) = ls.map String.toList ++ pieces '\n' rest := by
  rw [toList_ofLines]
  induction ls with
  | nil => rfl
  | cons l ls ih =>
      obtain ⟨oneLine, others⟩ := List.forall_mem_cons.mp h
      rw [List.flatMap_cons, List.append_assoc, List.append_assoc, List.singleton_append,
        pieces_append, ih others, pieces_of_notMem oneLine]
      rfl

theorem pieces_ofLines {ls : List String} (h : ∀ l ∈ ls, '\n' ∉ l.toList) :
    pieces '\n' (ofLines ls).toList = ls.map String.toList ++ [[]] := by
  have whole := pieces_ofLines_append h []
  rwa [List.append_nil] at whole

theorem splice_ofLines {ls : List String} (h : ∀ l ∈ ls, IsWhole l) (rest : List Char) :
    splice ((ofLines ls).toList ++ rest) = (ofLines ls).toList ++ splice rest := by
  rw [toList_ofLines]
  induction ls with
  | nil => rfl
  | cons l ls ih =>
      obtain ⟨whole, others⟩ := List.forall_mem_cons.mp h
      rw [List.flatMap_cons, List.append_assoc, List.append_assoc, List.singleton_append,
        splice_whole whole.oneLine whole.notContinued, ih others]
      simp

end QueryHeaders.Text
