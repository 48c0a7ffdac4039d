import QueryHeaders.Text.Identifier

/-!
Identifiers in terms of the character classes of ASCII: a letter or an underscore, then letters,
digits and underscores.
-/
namespace QueryHeaders.Text

theorem isLetter_eq_isAlpha (c : Char) : isLetter c = c.isAlpha := by
  delta isLetter Char.isAlpha Char.isUpper Char.isLower
  rw [Bool.or_comm, Bool.decide_and]
  rfl

theorem isDigit_eq_isDigit (c : Char) : isDigit c = c.isDigit := by
  rw [isDigit, Char.isDigit]
  rfl

theorem isIdentifierStart_iff {c : Char} :
    isIdentifierStart c = true ↔ c.isAlpha = true ∨ c = '_' := by
  rw [isIdentifierStart, isLetter_eq_isAlpha, Bool.or_eq_true, beq_iff_eq]

theorem isIdentifierPart_iff {c : Char} :
    isIdentifierPart c = true ↔ c.isAlphanum = true ∨ c = '_' := by
  rw [isIdentifierPart, isDigit_eq_isDigit, Bool.or_eq_true, isIdentifierStart_iff,
    Char.isAlphanum, Bool.or_eq_true, or_right_comm]

/-- Identifiers in the terms of ASCII character classes. -/
theorem isIdentifier_iff {text : String} :
    isIdentifier text = true ↔ ∃ first others, text.toList = first :: others ∧
      (first.isAlpha = true ∨ first = '_') ∧ ∀ c ∈ others, c.isAlphanum = true ∨ c = '_' := by
  rw [isIdentifier]
  cases text.toList with
  | nil => simp [isIdentifierChars]
  | cons first others =>
      rw [isIdentifierChars, Bool.and_eq_true, isIdentifierStart_iff, List.all_eq_true]
      simp only [isIdentifierPart_iff]
      constructor
      · rintro ⟨start, parts⟩
        exact ⟨first, others, rfl, start, parts⟩
      · rintro ⟨_, _, ⟨⟩, start, parts⟩
        exact ⟨start, parts⟩

theorem isDigit_of_mem_toString {n : Nat} {c : Char} (h : c ∈ (toString n).toList) :
    c.isDigit = true := by
  rw [Nat.toString_eq_repr, Nat.toList_repr] at h
  exact Nat.isDigit_of_mem_toDigits (b := 10) (by decide) (by decide) h

theorem isIdentifierPart_of_mem_toString {n : Nat} {c : Char} (h : c ∈ (toString n).toList) :
    isIdentifierPart c = true := by
  rw [isIdentifierPart, isDigit_eq_isDigit, isDigit_of_mem_toString h, Bool.or_true]

end QueryHeaders.Text
