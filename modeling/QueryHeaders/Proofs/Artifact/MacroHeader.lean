import QueryHeaders.Artifact.Basic
import QueryHeaders.Proofs.Query.Reading
import QueryHeaders.Proofs.Text.Splicing

/-!
The four headers that define a macro with an item for each query.

An item is one line or several, and each of them is a whole line whatever the fields of a well
formed query are, since no field ends a line and none stands at the end of one. A compiler therefore
reads the continued lines of a macro as one directive, and every other line as it stands.
-/
namespace QueryHeaders

namespace Query.WellFormed

variable {q : Query}

theorem hasControl_fullParameters (h : q.WellFormed) :
    Text.hasControl q.fullParameters = false := by
  refine Text.hasControl_intercalate rfl fun x hx => ?_
  obtain ⟨p, hp, rfl⟩ := List.mem_map.mp hx
  have wf := h.parameters p hp
  rw [Parameter.declaration, Text.hasControl_append, Text.hasControl_append, wf.type_oneLine,
    Text.hasControl_of_isIdentifier wf.name_isIdentifier]
  rfl

theorem hasControl_callParameters (h : q.WellFormed) :
    Text.hasControl q.callParameters = false := by
  refine Text.hasControl_intercalate rfl fun x hx => ?_
  obtain ⟨p, hp, rfl⟩ := List.mem_map.mp hx
  exact Text.hasControl_of_isIdentifier (h.parameters p hp).name_isIdentifier

end Query.WellFormed

/-- The headers that define a macro with an item for each query. -/
inductive MacroHeader where
  | declarations (kind : Declaration)
  | forwarding (wrapper : Wrapper)
  deriving DecidableEq, Repr

namespace MacroHeader

def artifact : MacroHeader → Artifact
  | .declarations kind => .declarations kind
  | .forwarding wrapper => .forwarding wrapper

def guard : MacroHeader → String
  | .declarations kind => kind.guard
  | .forwarding wrapper => wrapper.guard

def macroName : MacroHeader → String
  | .declarations kind => kind.macroName
  | .forwarding wrapper => wrapper.macroName

/-- The lines of a query's item. -/
def itemLines : MacroHeader → Query → List String
  | .declarations kind, q => [kind.line q]
  | .forwarding wrapper, q => wrapper.method q

/-- A query's item on one line. -/
def item (h : MacroHeader) (q : Query) : String := " ".intercalate (h.itemLines q)

/-- The beginning of the macro's directive. -/
def opening (h : MacroHeader) : String := "#define " ++ h.macroName ++ "()"

def guardLines (h : MacroHeader) : List String :=
  ["#ifndef " ++ h.guard, "#define " ++ h.guard, ""]

def top (h : MacroHeader) : List String := Header.marker :: h.guardLines

def bottom (h : MacroHeader) : List String := ["", "#endif // " ++ h.guard]

/-- The comment above an empty macro. -/
def comment (qs : List Query) : List String := if qs.isEmpty then [Header.noQueries] else []

variable {h : MacroHeader} {q : Query} {qs : List Query}

theorem itemLines_ne_nil : h.itemLines q ≠ [] := by
  cases h <;> exact List.cons_ne_nil _ _

theorem render_eq :
    h.artifact.render qs = Text.ofLines (h.top ++ comment qs ++
      Header.continued (h.opening :: qs.flatMap h.itemLines) ++ h.bottom) := by
  have guarded : h.artifact.render qs =
      Header.guarded h.guard (Header.macroLines h.macroName (qs.flatMap h.itemLines)) := by
    cases h with
    | declarations kind =>
        change Declaration.render kind qs = _
        rw [Declaration.render, List.map_eq_flatMap]
        rfl
    | forwarding wrapper => rfl
  rw [guarded, Header.guarded]
  cases qs with
  | nil => rfl
  | cons q qs =>
      have given : ((q :: qs).flatMap h.itemLines).isEmpty = false := by
        rw [List.flatMap_cons, List.isEmpty_eq_false_iff]
        exact List.append_ne_nil_of_left_ne_nil itemLines_ne_nil _
      rw [Header.macroLines, given]
      rfl

/-! ## Whole lines -/

theorem hasControl_line (wf : q.WellFormed) (kind : Declaration) :
    Text.hasControl (kind.line q) = false := by
  have specifier : Text.hasControl kind.specifier = false := by
    cases kind <;> rfl
  delta Declaration.line
  simp only [Text.hasControl_append, specifier, wf.returnType_oneLine,
    Text.hasControl_of_isIdentifier wf.name_isIdentifier, wf.hasControl_fullParameters]
  rfl

theorem hasControl_method (wf : q.WellFormed) (wrapper : Wrapper) :
    ∀ l ∈ wrapper.method q, Text.hasControl l = false := by
  have className : Text.hasControl wrapper.className = false := by
    cases wrapper <;> rfl
  have member : Text.hasControl wrapper.member = false := by
    cases wrapper <;> rfl
  have name := Text.hasControl_of_isIdentifier wf.name_isIdentifier
  rw [Wrapper.method, List.forall_mem_cons, List.forall_mem_cons, List.forall_mem_singleton]
  refine ⟨?_, ?_, by decide⟩
  · simp only [Text.hasControl_append, className, name, wf.returnType_oneLine,
      wf.hasControl_fullParameters]
    rfl
  · simp only [Text.hasControl_append, member, name, wf.hasControl_callParameters]
    rfl

theorem hasControl_itemLines (wf : q.WellFormed) :
    ∀ l ∈ h.itemLines q, Text.hasControl l = false := by
  cases h with
  | declarations kind => simpa [itemLines] using hasControl_line wf kind
  | forwarding wrapper => exact hasControl_method wf wrapper

theorem isWhole_line (wf : q.WellFormed) (kind : Declaration) : Text.IsWhole (kind.line q) := by
  refine Text.isWhole_append ?_ ⟨by decide, by decide⟩
  exact hasControl_line wf kind

theorem isWhole_method (wf : q.WellFormed) (wrapper : Wrapper) :
    ∀ l ∈ wrapper.method q, Text.IsWhole l := by
  have plain := hasControl_method wf wrapper
  rw [Wrapper.method, List.forall_mem_cons, List.forall_mem_cons, List.forall_mem_singleton]
    at plain ⊢
  exact ⟨Text.isWhole_append plain.1 ⟨by decide, by decide⟩,
    Text.isWhole_append plain.2.1 ⟨by decide, by decide⟩, by decide, by decide⟩

theorem isWhole_itemLines (wf : q.WellFormed) : ∀ l ∈ h.itemLines q, Text.IsWhole l := by
  cases h with
  | declarations kind => simpa [itemLines] using isWhole_line wf kind
  | forwarding wrapper => exact isWhole_method wf wrapper

theorem isIdentifier_guard : Text.isIdentifier h.guard = true := by
  cases h with
  | declarations kind => cases kind <;> decide
  | forwarding wrapper => cases wrapper <;> decide

theorem isIdentifier_macroName : Text.isIdentifier h.macroName = true := by
  cases h with
  | declarations kind => cases kind <;> decide
  | forwarding wrapper => cases wrapper <;> decide

theorem isWhole_empty : Text.IsWhole "" := ⟨by decide, by decide⟩

theorem isWhole_guardLines : ∀ l ∈ h.guardLines, Text.IsWhole l := by
  rw [guardLines, List.forall_mem_cons, List.forall_mem_cons, List.forall_mem_singleton]
  exact ⟨Text.isWhole_append_identifier rfl isIdentifier_guard,
    Text.isWhole_append_identifier rfl isIdentifier_guard, isWhole_empty⟩

theorem isWhole_top : ∀ l ∈ h.top, Text.IsWhole l := by
  rw [top, List.forall_mem_cons]
  exact ⟨⟨by decide, by decide⟩, isWhole_guardLines⟩

theorem isWhole_bottom : ∀ l ∈ h.bottom, Text.IsWhole l := by
  rw [bottom, List.forall_mem_cons, List.forall_mem_singleton]
  exact ⟨isWhole_empty, Text.isWhole_append_identifier rfl isIdentifier_guard⟩

theorem isWhole_opening : Text.IsWhole h.opening := by
  refine Text.isWhole_append ?_ ⟨by decide, by decide⟩
  rw [Text.hasControl_append, Text.hasControl_append,
    Text.hasControl_of_isIdentifier isIdentifier_macroName]
  rfl

theorem isWhole_comment : ∀ l ∈ comment qs, Text.IsWhole l := by
  intro l hl
  rw [comment] at hl
  split at hl
  · cases List.mem_singleton.mp hl
    exact ⟨by decide, by decide⟩
  · cases hl

end MacroHeader

end QueryHeaders
