import QueryHeaders.Text.Blank
import QueryHeaders.Text.Lines

/-!
Markers: three dashes at the start of a line.

Which characters end a line and which may follow the dashes differs between readers. A reader of
lines that line feeds end meets a marker as a line that starts with it.
-/
namespace QueryHeaders.Text

/-- The text starts with three dashes, and only what ends a word may follow them. -/
def OpensMarked (endsWord : Char → Bool) (cs : List Char) : Prop :=
  ∃ rest, cs = '-' :: '-' :: '-' :: rest ∧ rest.head?.all endsWord = true

/-- A marker follows one of the characters that end a line. -/
def MarkedAfter (endsLine endsWord : Char → Bool) (cs : List Char) : Prop :=
  ∃ before c after, cs = before ++ c :: after ∧ endsLine c = true ∧ OpensMarked endsWord after

variable {endsLine endsWord : Char → Bool} {c : Char} {cs rest : List Char}

theorem OpensMarked.mono {wider : Char → Bool} (h : OpensMarked endsWord cs)
    (imp : ∀ c, endsWord c = true → wider c = true) : OpensMarked wider cs := by
  obtain ⟨rest, rfl, ends⟩ := h
  refine ⟨rest, rfl, ?_⟩
  cases rest with
  | nil => rfl
  | cons c rest => exact imp c ends

theorem MarkedAfter.mono {wider : Char → Bool} (h : MarkedAfter endsLine endsWord cs)
    (imp : ∀ c, endsWord c = true → wider c = true) : MarkedAfter endsLine wider cs := by
  obtain ⟨before, c, after, whole, ends, opens⟩ := h
  exact ⟨before, c, after, whole, ends, opens.mono imp⟩

theorem MarkedAfter.any (h : MarkedAfter endsLine endsWord cs) : cs.any endsLine = true := by
  obtain ⟨before, c, after, rfl, ends, _⟩ := h
  rw [List.any_append, List.any_cons, ends, Bool.true_or, Bool.or_true]

theorem markedAfter_nil : ¬ MarkedAfter endsLine endsWord [] := by
  rintro ⟨before, c, after, whole, _⟩
  simp at whole

theorem markedAfter_cons :
    MarkedAfter endsLine endsWord (c :: rest) ↔
      endsLine c = true ∧ OpensMarked endsWord rest ∨ MarkedAfter endsLine endsWord rest := by
  constructor
  · rintro ⟨before, d, after, whole, ends, opens⟩
    cases before with
    | nil =>
        cases whole
        exact .inl ⟨ends, opens⟩
    | cons e before =>
        cases whole
        exact .inr ⟨before, d, after, rfl, ends, opens⟩
  · rintro (⟨ends, opens⟩ | ⟨before, d, after, rfl, ends, opens⟩)
    · exact ⟨[], c, rest, rfl, ends, opens⟩
    · exact ⟨c :: before, d, after, rfl, ends, opens⟩

/-! ## Lines -/

def isLineFeed (c : Char) : Bool := c == '\n'

def firstLine (cs : List Char) : List Char := (lineChars cs).headD []

/-- The lines that start after a line end. -/
def furtherLines (cs : List Char) : List (List Char) := (lineChars cs).tail

/-- A line end starts here. -/
def EndsHere : List Char → Prop
  | '\n' :: _ => True
  | '\r' :: '\n' :: _ => True
  | _ => False

theorem lineChars_cons (h : ¬ EndsHere (c :: rest)) :
    lineChars (c :: rest) = (c :: firstLine rest) :: furtherLines rest := by
  rw [lineChars]
  · rw [firstLine, furtherLines]
    cases lineChars rest <;> rfl
  · rintro rfl
    exact h trivial
  · rintro others rfl rfl
    exact h trivial

theorem firstLine_cons (h : ¬ EndsHere (c :: rest)) : firstLine (c :: rest) = c :: firstLine rest := by
  rw [firstLine, lineChars_cons h]
  rfl

theorem firstLine_of_endsHere (h : EndsHere cs) : firstLine cs = [] := by
  rw [EndsHere.eq_def] at h
  split at h
  · rfl
  · rfl
  · exact h.elim

/-- A line is closed by a blank, or with the text. -/
theorem head?_firstLine (cs : List Char) :
    (firstLine cs).head?.all isBlank = cs.head?.all isBlank := by
  by_cases ends : EndsHere cs
  · rw [firstLine_of_endsHere ends]
    rw [EndsHere.eq_def] at ends
    split at ends
    · rfl
    · rfl
    · exact ends.elim
  · cases cs with
    | nil => rfl
    | cons c rest =>
        rw [firstLine_cons ends]
        rfl

theorem exists_firstLine_eq_cons {P : List Char → Prop} :
    (∃ line, firstLine cs = '-' :: line ∧ P line) ↔
      ∃ rest, cs = '-' :: rest ∧ P (firstLine rest) := by
  constructor
  · rintro ⟨line, same, holds⟩
    cases cs with
    | nil => cases same
    | cons c rest =>
        have open' : ¬ EndsHere (c :: rest) := by
          intro ends
          rw [firstLine_of_endsHere ends] at same
          cases same
        rw [firstLine_cons open'] at same
        cases same
        exact ⟨rest, rfl, holds⟩
  · rintro ⟨rest, rfl, holds⟩
    exact ⟨firstLine rest, firstLine_cons (by simp [EndsHere]), holds⟩

theorem opensMarked_firstLine : OpensMarked isBlank (firstLine cs) ↔ OpensMarked isBlank cs := by
  have split : ∀ ds : List Char, OpensMarked isBlank ds ↔
      ∃ a, ds = '-' :: a ∧ ∃ b, a = '-' :: b ∧ ∃ rest, b = '-' :: rest ∧
        rest.head?.all isBlank = true := by
    intro ds
    constructor
    · rintro ⟨rest, rfl, ends⟩
      exact ⟨_, rfl, _, rfl, rest, rfl, ends⟩
    · rintro ⟨_, rfl, _, rfl, rest, rfl, ends⟩
      exact ⟨rest, rfl, ends⟩
  simp only [split, exists_firstLine_eq_cons, head?_firstLine]

theorem exists_mem_lineChars_iff {P : List Char → Prop} (none : ¬ P []) :
    (∃ line ∈ lineChars cs, P line) ↔ P (firstLine cs) ∨ ∃ line ∈ furtherLines cs, P line := by
  rw [firstLine, furtherLines]
  cases lineChars cs with
  | nil => simp [none]
  | cons line others => simp

theorem not_opensMarked_nil : ¬ OpensMarked endsWord [] := nofun

theorem furtherLines_cons (h : c ≠ '\n') : furtherLines (c :: rest) = furtherLines rest := by
  by_cases ends : EndsHere (c :: rest)
  · rw [EndsHere.eq_def] at ends
    split at ends
    · next same => exact absurd (List.cons.inj same).1 h
    · next same =>
        cases same
        rfl
    · exact ends.elim
  · rw [furtherLines, lineChars_cons ends]
    rfl

theorem exists_mem_furtherLines_opensMarked (cs : List Char) :
    (∃ line ∈ furtherLines cs, OpensMarked isBlank line) ↔ MarkedAfter isLineFeed isBlank cs := by
  induction cs with
  | nil => simp [furtherLines, lineChars, markedAfter_nil]
  | cons c rest ih =>
      rw [markedAfter_cons, ← ih]
      by_cases feed : c = '\n'
      · subst feed
        rw [show furtherLines ('\n' :: rest) = lineChars rest from rfl,
          exists_mem_lineChars_iff not_opensMarked_nil, opensMarked_firstLine]
        simp [isLineFeed]
      · rw [furtherLines_cons feed]
        simp [isLineFeed, feed]

/-- A line is marked exactly if a marker opens the text or follows a line feed. -/
theorem exists_mem_lineChars_opensMarked (cs : List Char) :
    (∃ line ∈ lineChars cs, OpensMarked isBlank line) ↔
      OpensMarked isBlank cs ∨ MarkedAfter isLineFeed isBlank cs := by
  rw [exists_mem_lineChars_iff not_opensMarked_nil, opensMarked_firstLine,
    exists_mem_furtherLines_opensMarked]

end QueryHeaders.Text
