import QueryHeaders.Proofs.Query.Reading
import QueryHeaders.Proofs.Text.Separator

/-!
The two texts of the parameters of a query.

The text of a call lists names only. These are identifiers, so that no separator begins within one
and the text gives its names back. The text of a declaration lists types as well, which may hold
separators of their own: it is the same list, with the type of each parameter before its name.
-/
namespace QueryHeaders

variable {q : Query}

theorem head?_separator : ", ".toList.head? = some ',' := rfl

theorem Query.WellFormed.comma_notMem_name (wf : q.WellFormed) :
    ∀ s ∈ q.parameters.map Parameter.name, ',' ∉ s.toList := by
  intro s hs
  obtain ⟨p, hp, rfl⟩ := List.mem_map.mp hs
  exact Text.notMem_of_isIdentifier (wf.parameters p hp).name_isIdentifier rfl

theorem Query.WellFormed.empty_notMem_names (wf : q.WellFormed) :
    "" ∉ q.parameters.map Parameter.name := by
  intro empty
  obtain ⟨p, hp, none⟩ := List.mem_map.mp empty
  exact Text.ne_empty_of_isIdentifier (wf.parameters p hp).name_isIdentifier none

theorem Query.WellFormed.piecesBetween_callParameters (wf : q.WellFormed) :
    Text.piecesBetween ", " q.callParameters =
      if q.parameters = [] then [""] else q.parameters.map Parameter.name := by
  rw [Query.callParameters, Text.piecesBetween_intercalate head?_separator wf.comma_notMem_name]
  simp only [List.map_eq_nil_iff]

theorem Query.WellFormed.names_eq_of_callParameters {r : Query} (wf : q.WellFormed)
    (wfToo : r.WellFormed) (same : q.callParameters = r.callParameters) :
    q.parameters.map Parameter.name = r.parameters.map Parameter.name :=
  Text.eq_of_intercalate_eq head?_separator wf.comma_notMem_name wfToo.comma_notMem_name
    wf.empty_notMem_names wfToo.empty_notMem_names same

theorem Query.WellFormed.callParameters_eq_empty_iff (wf : q.WellFormed) :
    q.callParameters = "" ↔ q.parameters = [] := by
  constructor
  · intro empty
    apply List.map_eq_nil_iff.mp
    exact Text.eq_of_intercalate_eq head?_separator wf.comma_notMem_name nofun
      wf.empty_notMem_names nofun empty
  · intro none
    rw [Query.callParameters, none]
    rfl

/-- The arguments of a call, each with the type of its parameter before it, are what is declared. -/
theorem Query.WellFormed.fullParameters_eq_zipWith (wf : q.WellFormed) :
    q.fullParameters = ", ".intercalate
      (List.zipWith (fun (p : Parameter) name => p.type ++ " " ++ name) q.parameters
        (Text.piecesBetween ", " q.callParameters)) := by
  rw [wf.piecesBetween_callParameters, Query.fullParameters]
  split
  · next none =>
      rw [none]
      rfl
  · rw [List.zipWith_map_right, List.zipWith_self]
    rfl

/-- The text of a call, split at its separators, gives the names of the parameters in order, and is
empty exactly if there are none. The text of a declaration lists the same names, each after its own
type and a blank. Queries of one call text have the same names, whatever their types are. -/
theorem parameterTexts_of_ofEntry {i : Nat} {entry : Json} (read : Query.ofEntry i entry = .ok q) :
    Text.piecesBetween ", " q.callParameters =
        (if q.parameters = [] then [""] else q.parameters.map Parameter.name) ∧
      (q.callParameters = "" ↔ q.parameters = []) ∧
      q.fullParameters = ", ".intercalate
        (List.zipWith (fun (p : Parameter) name => p.type ++ " " ++ name) q.parameters
          (Text.piecesBetween ", " q.callParameters)) ∧
      ∀ (j : Nat) (other : Json) (r : Query), Query.ofEntry j other = .ok r →
        q.callParameters = r.callParameters →
          q.parameters.map Parameter.name = r.parameters.map Parameter.name := by
  have wf := wellFormed_of_ofEntry read
  refine ⟨wf.piecesBetween_callParameters, wf.callParameters_eq_empty_iff,
    wf.fullParameters_eq_zipWith, ?_⟩
  intro j other r readToo
  exact wf.names_eq_of_callParameters (wellFormed_of_ofEntry readToo)

/-- An entry with two parameters of these types, and blanks around their names. -/
def typedEntry (first second : String) : Json :=
  .object [("name", .string "IQuery_Run"), ("parameters", .array [
    .object [("name", .string " a"), ("type", .string first)],
    .object [("name", .string "b "), ("type", .string second)]])]

def typedQuery (first second : String) : Query where
  name := "IQuery_Run"
  returnType := ""
  parameters := [⟨first, "a"⟩, ⟨second, "b"⟩]
  category := .standard

/-- Two entries that declare one text with different types. -/
theorem parameterTexts_of_ofEntry_commaTypes :
    Query.ofEntry 0 (typedEntry "int a, int" "bool") = .ok (typedQuery "int a, int" "bool") ∧
      Query.ofEntry 1 (typedEntry "int" "int a, bool") = .ok (typedQuery "int" "int a, bool") ∧
      (typedQuery "int a, int" "bool").fullParameters =
        (typedQuery "int" "int a, bool").fullParameters ∧
      Text.piecesBetween ", " (typedQuery "int a, int" "bool").callParameters = ["a", "b"] ∧
      (typedQuery "int a, int" "bool").parameters.map Parameter.name =
        (typedQuery "int" "int a, bool").parameters.map Parameter.name := by
  have read :
      Query.ofEntry 0 (typedEntry "int a, int" "bool") = .ok (typedQuery "int a, int" "bool") := by
    decide
  have readToo :
      Query.ofEntry 1 (typedEntry "int" "int a, bool") = .ok (typedQuery "int" "int a, bool") := by
    decide
  obtain ⟨pieces, _, _, names⟩ := parameterTexts_of_ofEntry read
  exact ⟨read, readToo, by decide, pieces, names 1 _ _ readToo rfl⟩

end QueryHeaders
