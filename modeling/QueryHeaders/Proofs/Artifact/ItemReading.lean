import QueryHeaders.Proofs.Artifact.MacroHeader
import QueryHeaders.Proofs.Text.Comments

/-!
What a reader of C++ makes of an item of a macro.

An item is the text before a query's name, the name and its parenthesis, the parameters, and the
text that closes the item; only the types of a query bring marks of comments into it. A reader that
is in code before the item of a query that closes its comments is in code at its name, at its ending
and after it.
-/
namespace QueryHeaders

open Text (Mode)

/-- A reader that is in code before a query's types is in code after them. -/
def Query.ClosesComments (q : Query) : Prop :=
  Mode.code.after (q.returnType ++ " ").toList = .code ∧
    Mode.code.after q.fullParameters.toList = .code

instance (q : Query) : Decidable q.ClosesComments :=
  inferInstanceAs (Decidable (_ ∧ _))

namespace MacroHeader

variable {h : MacroHeader} {q : Query}

/-- The text of an item before the name. -/
def lead (h : MacroHeader) (q : Query) : String :=
  match h with
  | .declarations _ => "    virtual " ++ (q.returnType ++ " ")
  | .forwarding wrapper => "    " ++ (q.returnType ++ " ") ++ (wrapper.className ++ "::")

/-- The text of an item after the parameters, but for its ending. -/
def rest (h : MacroHeader) (q : Query) : String :=
  match h with
  | .declarations _ => ") "
  | .forwarding wrapper =>
      ") \x7b" ++ " " ++ ("        return this->" ++ wrapper.member ++ "->" ++ q.name ++ "(" ++
        q.callParameters ++ ");") ++ " " ++ "    "

def ending : MacroHeader → String
  | .declarations kind => kind.specifier ++ ";"
  | .forwarding _ => "\x7d"

theorem item_eq :
    h.item q =
      h.lead q ++ (q.name ++ "(") ++ q.fullParameters ++ (h.rest q ++ h.ending) := by
  cases h with
  | declarations kind =>
      rw [item, itemLines, String.intercalate_singleton]
      delta Declaration.line
      simp only [lead, rest, ending, String.append_assoc]
  | forwarding wrapper =>
      have brace : "    \x7d" = "    " ++ "\x7d" := rfl
      simp only [item, itemLines, Wrapper.method, String.intercalate_cons_cons,
        String.intercalate_singleton, lead, rest, ending, String.append_assoc, brace]

/-! ## Readers of items -/

theorem notMem_slash_name (wf : q.WellFormed) : '/' ∉ (q.name ++ "(").toList := by
  have name := Text.notMem_of_isIdentifier wf.name_isIdentifier (c := '/') rfl
  simpa using name

theorem notMem_slash_rest (wf : q.WellFormed) : '/' ∉ (h.rest q ++ h.ending).toList := by
  have name := Text.notMem_of_isIdentifier wf.name_isIdentifier (c := '/') rfl
  have call : '/' ∉ q.callParameters.toList := by
    intro member
    have other : ∀ s ∈ q.parameters.map Parameter.name, ∀ c ∈ s.toList, c ≠ '/' := by
      rintro s hs c hc rfl
      obtain ⟨p, hp, rfl⟩ := List.mem_map.mp hs
      exact Text.notMem_of_isIdentifier (wf.parameters p hp).name_isIdentifier rfl hc
    exact Text.forall_mem_intercalate (by simp) other _ member rfl
  rcases h with ⟨_ | _⟩ | ⟨_ | _⟩ <;>
    simp [rest, ending, Declaration.specifier, Wrapper.member, name, call]

theorem after_lead :
    Mode.code.after (' ' :: (h.lead q).toList) = .code ↔
      Mode.code.after (q.returnType ++ " ").toList = .code := by
  cases h with
  | declarations kind =>
      rw [lead, String.toList_append, ← List.cons_append, Mode.after_append,
        Mode.after_of_notMem (a := ' ' :: "    virtual ".toList) (by decide)]
  | forwarding wrapper =>
      have plain : ∀ c ∈ (wrapper.className ++ "::").toList, c ≠ '/' ∧ c ≠ '*' ∧ c ≠ '\n' := by
        cases wrapper <;> simp [Wrapper.className]
      rw [lead, String.toList_append, ← List.cons_append, Mode.after_append, String.toList_append,
        ← List.cons_append, Mode.after_append,
        Mode.after_of_notMem (a := ' ' :: "    ".toList) (by decide),
        Mode.after_of_plain (Mode.after_blank _ _) plain]

theorem after_name (wf : q.WellFormed) :
    Mode.code.after ((q.name ++ "(").toList ++ q.fullParameters.toList) =
      Mode.code.after q.fullParameters.toList := by
  rw [Mode.after_append, Mode.after_of_notMem (notMem_slash_name wf)]

theorem after_item (wf : q.WellFormed) (closes : q.ClosesComments) :
    Mode.code.after (' ' :: (h.item q).toList) = .code := by
  rw [item_eq, String.toList_append, String.toList_append, String.toList_append,
    List.append_assoc, List.append_assoc, ← List.cons_append, Mode.after_append,
    after_lead.mpr closes.1, ← List.append_assoc, Mode.after_append, after_name wf, closes.2,
    Mode.after_of_notMem (notMem_slash_rest wf)]

/-- What is left of the item of a query that closes its comments. -/
theorem left_item (wf : q.WellFormed) (closes : q.ClosesComments) :
    Mode.code.left (' ' :: (h.item q).toList) =
      Mode.code.left (' ' :: (h.lead q).toList) ++ (q.name ++ "(").toList ++
        Mode.code.left q.fullParameters.toList ++ (h.rest q ++ h.ending).toList := by
  rw [item_eq, String.toList_append, String.toList_append, String.toList_append (t := _ ++ _),
    List.append_assoc, List.append_assoc, ← List.cons_append, Mode.left_append,
    after_lead.mpr closes.1, ← List.append_assoc, Mode.left_append, after_name wf, closes.2,
    Mode.left_append, Mode.after_of_notMem (notMem_slash_name wf),
    Mode.left_of_notMem (notMem_slash_name wf), Mode.left_of_notMem (notMem_slash_rest wf)]
  simp only [List.append_assoc]

end MacroHeader

end QueryHeaders
