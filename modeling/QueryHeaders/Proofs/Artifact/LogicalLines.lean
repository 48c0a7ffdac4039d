import QueryHeaders.Proofs.Artifact.Continuation
import QueryHeaders.Proofs.Artifact.MacroHeader

/-!
The lines of the headers that define a macro.

To a compiler such a header is its marker, the include guard and one directive, which has the items
of all queries in their order; without queries a comment stands above an empty macro. Every physical
line of the macro but the last is continued, and no other line is.
-/
namespace QueryHeaders.MacroHeader

variable {h : MacroHeader} {qs : List Query}

/-- The lines above the macro. -/
def above (h : MacroHeader) (qs : List Query) : List String := h.top ++ comment qs

/-- The lines of the macro, not yet continued. -/
def macroLines (h : MacroHeader) (qs : List Query) : List String :=
  h.opening :: qs.flatMap h.itemLines

/-- The directive of the macro, on one line. -/
def directive (h : MacroHeader) (qs : List Query) : String :=
  " ".intercalate (h.opening :: qs.map h.item)

theorem intercalate_flatMap_itemLines :
    " ".intercalate (qs.flatMap h.itemLines) = " ".intercalate (qs.map h.item) := by
  induction qs with
  | nil => rfl
  | cons q qs ih =>
      cases qs with
      | nil => simp [item]
      | cons r qs =>
          have others : (r :: qs).flatMap h.itemLines ≠ [] := by
            rw [List.flatMap_cons]
            exact List.append_ne_nil_of_left_ne_nil itemLines_ne_nil _
          rw [List.flatMap_cons, String.intercalate_append_of_ne_nil itemLines_ne_nil others, ih]
          simp [item]

theorem intercalate_macroLines : " ".intercalate (h.macroLines qs) = h.directive qs := by
  cases qs with
  | nil => rfl
  | cons q qs =>
      have items : (q :: qs).flatMap h.itemLines ≠ [] := by
        rw [List.flatMap_cons]
        exact List.append_ne_nil_of_left_ne_nil itemLines_ne_nil _
      rw [macroLines, directive, String.intercalate_cons_of_ne_nil items,
        String.intercalate_cons_of_ne_nil (by simp), intercalate_flatMap_itemLines]

theorem isWhole_above : ∀ l ∈ h.above qs, Text.IsWhole l :=
  List.forall_mem_append.mpr ⟨isWhole_top, isWhole_comment⟩

theorem isWhole_macroLines (wf : ∀ q ∈ qs, q.WellFormed) :
    ∀ l ∈ h.macroLines qs, Text.IsWhole l := by
  refine List.forall_mem_cons.mpr ⟨isWhole_opening, fun l hl => ?_⟩
  obtain ⟨q, hq, hl⟩ := List.mem_flatMap.mp hl
  exact isWhole_itemLines (wf q hq) l hl

/-- The text that a compiler reads. -/
theorem splice_render (wf : ∀ q ∈ qs, q.WellFormed) :
    Text.splice (h.artifact.render qs).toList =
      (Text.ofLines (h.above qs ++ [h.directive qs] ++ h.bottom)).toList := by
  have given : h.macroLines qs ≠ [] := List.cons_ne_nil _ _
  rw [render_eq, Text.ofLines_append, Text.ofLines_append, String.toList_append,
    String.toList_append, List.append_assoc, ← above, Text.splice_ofLines isWhole_above,
    ← macroLines, Header.splice_continued given (isWhole_macroLines wf)]
  have closing := Text.splice_ofLines (isWhole_bottom (h := h)) []
  rw [List.append_nil, Text.splice, List.append_nil] at closing
  rw [closing, intercalate_macroLines]
  simp only [Text.ofLines_append, String.toList_append, List.append_assoc]

theorem oneLine_directive (wf : ∀ q ∈ qs, q.WellFormed) : '\n' ∉ (h.directive qs).toList := by
  intro member
  rw [← intercalate_macroLines] at member
  have other : ∀ l ∈ h.macroLines qs, ∀ c ∈ l.toList, c ≠ '\n' := by
    intro l hl c hc same
    exact (isWhole_macroLines wf l hl).oneLine (same ▸ hc)
  exact Text.forall_mem_intercalate (by simp) other _ member rfl

theorem logicalLines_render (wf : ∀ q ∈ qs, q.WellFormed) :
    Text.logicalLines (h.artifact.render qs) =
      h.above qs ++ [h.directive qs] ++ h.bottom ++ [""] := by
  have oneLine : ∀ l ∈ h.above qs ++ [h.directive qs] ++ h.bottom, '\n' ∉ l.toList := by
    intro l hl
    simp only [List.mem_append, List.mem_singleton] at hl
    obtain (above | rfl) | bottom := hl
    · exact (isWhole_above l above).oneLine
    · exact oneLine_directive wf
    · exact (isWhole_bottom l bottom).oneLine
  rw [Text.logicalLines, splice_render wf, Text.pieces_ofLines oneLine]
  simp

theorem physicalLines_render (wf : ∀ q ∈ qs, q.WellFormed) :
    Text.physicalLines (h.artifact.render qs) =
      h.above qs ++ Header.continued (h.macroLines qs) ++ h.bottom ++ [""] := by
  have oneLine : ∀ l ∈ h.above qs ++ Header.continued (h.macroLines qs) ++ h.bottom,
      '\n' ∉ l.toList := by
    intro l hl
    obtain front | bottom := List.mem_append.mp hl
    · obtain above | continued := List.mem_append.mp front
      · exact (isWhole_above l above).oneLine
      · exact Header.oneLine_continued (isWhole_macroLines wf) l continued
    · exact (isWhole_bottom l bottom).oneLine
  rw [Text.physicalLines, render_eq, ← above, ← macroLines, Text.pieces_ofLines oneLine]
  simp

theorem directive_eq :
    h.directive qs =
      if qs = [] then h.opening else h.opening ++ " " ++ " ".intercalate (qs.map h.item) := by
  cases qs with
  | nil => rfl
  | cons q qs => rw [directive, String.intercalate_cons_of_ne_nil (by simp), if_neg (by simp)]

/-- The lines of a header of queries that have been read: as a compiler reads them, and as they
stand. -/
theorem lines_of_ofDocument {document : Json} (read : Query.ofDocument document = .ok qs)
    (h : MacroHeader) :
    Text.logicalLines (h.artifact.render qs) =
        [Header.marker, "#ifndef " ++ h.guard, "#define " ++ h.guard, ""] ++
          (if qs = [] then [Header.noQueries, "#define " ++ h.macroName ++ "()"]
            else ["#define " ++ h.macroName ++ "() " ++ " ".intercalate (qs.map h.item)]) ++
          ["", "#endif // " ++ h.guard, ""] ∧
      ∃ lines last,
        lines ++ [last] = ("#define " ++ h.macroName ++ "()") :: qs.flatMap h.itemLines ∧
        Text.physicalLines (h.artifact.render qs) =
          h.above qs ++ (lines.map (· ++ " \\") ++ [last]) ++ h.bottom ++ [""] ∧
        ∀ line ∈ h.above qs ++ [last] ++ h.bottom, line.toList.getLast? ≠ some '\\' := by
  have wf := wellFormed_of_ofDocument read
  constructor
  · rw [logicalLines_render wf, directive_eq]
    cases qs with
    | nil => rfl
    | cons q qs =>
        rw [if_neg (by simp), if_neg (by simp), opening]
        simp [above, top, guardLines, bottom, comment, ← String.toList_inj]
  · obtain none | ⟨lines, last, split⟩ := List.eq_nil_or_concat (h.macroLines qs)
    · cases none
    · rw [List.concat_eq_append] at split
      refine ⟨lines, last, split.symm, ?_, fun line hl => ?_⟩
      · rw [physicalLines_render wf, split, Header.continued_eq]
      · have whole : Text.IsWhole line := by
          obtain front | bottom := List.mem_append.mp hl
          · obtain above | same := List.mem_append.mp front
            · exact isWhole_above line above
            · have member : line ∈ h.macroLines qs := by
                rw [split]
                exact List.mem_append_right lines same
              exact isWhole_macroLines wf line member
          · exact isWhole_bottom line bottom
        exact whole.notContinued

/-- Two queries, one of a type that ends in a backslash. -/
def twoEntries : Json :=
  .object [("queries", .array [
    .object [("name", .string "IQuery_First"), ("return_type", .string "int \\")],
    .object [("name", .string "IQuery_Second"), ("return_type", .string "bool")]])]

def twoQueries : List Query :=
  [{ name := "IQuery_First", returnType := "int \\", parameters := [], category := .standard },
   { name := "IQuery_Second", returnType := "bool", parameters := [], category := .standard }]

theorem lines_of_ofDocument_twoEntries :
    Query.ofDocument twoEntries = .ok twoQueries ∧
      Text.logicalLines (Artifact.render (.declarations .pure) twoQueries) =
        ["// Auto-generated file - DO NOT EDIT MANUALLY", "#ifndef QUERY_DEFINITION_HPP",
          "#define QUERY_DEFINITION_HPP", "",
          "#define QUERY_DEFINITION()     virtual int \\ IQuery_First() = 0;     virtual bool " ++
            "IQuery_Second() = 0;",
          "", "#endif // QUERY_DEFINITION_HPP", ""] := by
  have read : Query.ofDocument twoEntries = .ok twoQueries := rfl
  have lines := (lines_of_ofDocument read (.declarations .pure)).1
  exact ⟨read, lines.trans (by decide +kernel)⟩

end QueryHeaders.MacroHeader
