import QueryHeaders.Schema.BuiltIn
import QueryHeaders.Text.Identifier

/-!
What a pattern that is found in a text says about the text.

A match ends at a place of the text that it starts in, and a run passes characters of its set only.
A text with the pattern of identifiers is an identifier between characters of the class `\s`.
-/
namespace QueryHeaders

theorem CharSet.contains_single {a c : Char} :
    (CharSet.single a).contains c = true ↔ c = a := by
  rw [single, contains, Bool.and_eq_true, decide_eq_true_eq, decide_eq_true_eq]
  constructor
  · intro ⟨least, most⟩
    exact Char.le_antisymm most least
  · rintro rfl
    exact ⟨Char.le_refl c, Char.le_refl c⟩

namespace Pattern

variable {set : CharSet} {c d : Cursor}

theorem mem_runEnds {cs : List Char} (whole : c.rest = cs) (h : d ∈ runEnds set c cs) :
    ∃ taken, cs = taken ++ d.rest ∧ ∀ x ∈ taken, set.contains x = true := by
  induction cs generalizing c with
  | nil =>
      rw [runEnds, List.mem_singleton] at h
      subst h
      exact ⟨[], by simp [whole], by simp⟩
  | cons x rest ih =>
      rw [runEnds] at h
      split at h
      · next member =>
          obtain rfl | h := List.mem_cons.mp h
          · exact ⟨[], by simp [whole], by simp⟩
          · obtain ⟨taken, same, members⟩ := ih rfl h
            refine ⟨x :: taken, by rw [same, List.cons_append], ?_⟩
            exact List.forall_mem_cons.mpr ⟨member, members⟩
      · rw [List.mem_singleton] at h
        subst h
        exact ⟨[], by simp [whole], by simp⟩

theorem mem_ends_run (h : d ∈ (run set).ends c) :
    ∃ taken, c.rest = taken ++ d.rest ∧ ∀ x ∈ taken, set.contains x = true :=
  mem_runEnds rfl h

theorem mem_ends_one (h : d ∈ (one set).ends c) :
    ∃ x, c.rest = x :: d.rest ∧ set.contains x = true := by
  rw [ends] at h
  split at h
  · cases h
  · next x rest whole =>
      split at h
      · next member =>
          rw [List.mem_singleton] at h
          subst h
          exact ⟨x, whole, member⟩
      · cases h

theorem mem_ends_andThen {p q : Pattern} (h : d ∈ (andThen p q).ends c) :
    ∃ e, e ∈ p.ends c ∧ d ∈ q.ends e := by
  rw [ends, List.mem_flatMap] at h
  exact h

theorem mem_ends_atStart (h : d ∈ atStart.ends c) : c.fresh = true ∧ d = c := by
  rw [ends] at h
  split at h
  · next fresh => exact ⟨fresh, List.mem_singleton.mp h⟩
  · cases h

theorem mem_ends_atEnd (h : d ∈ atEnd.ends c) : c.rest = [] := by
  rw [ends] at h
  split at h
  · next empty => exact List.isEmpty_iff.mp empty
  · cases h

theorem fresh_of_mem_later {cs : List Char} (h : c ∈ Cursor.later cs) : c.fresh = false := by
  induction cs with
  | nil => cases h
  | cons x rest ih =>
      obtain rfl | h := List.mem_cons.mp h
      · rfl
      · exact ih h

/-- A match that starts at the start of a text starts at its first place. -/
theorem exists_mem_ends_of_isFoundIn {p : Pattern} {s : String} (h : p.isFoundIn s = true)
    (anchored : ∀ c d, d ∈ p.ends c → c.fresh = true) :
    ∃ d, d ∈ p.ends (Cursor.start s.toList) := by
  simp only [isFoundIn, List.any_cons, Bool.or_eq_true, Bool.not_eq_true',
    List.isEmpty_eq_false_iff, List.any_eq_true] at h
  obtain first | ⟨c, member, found⟩ := h
  · exact List.exists_mem_of_ne_nil _ first
  · obtain ⟨d, hd⟩ := List.exists_mem_of_ne_nil _ found
    have fresh := anchored c d hd
    rw [fresh_of_mem_later member] at fresh
    cases fresh

end Pattern

namespace Schema

open Pattern

/-- A text with the pattern of identifiers. -/
theorem chars_of_isFoundIn_identifierPattern {s : String}
    (h : identifierPattern.pattern.isFoundIn s = true) :
    ∃ before head tail after, s.toList = before ++ head :: (tail ++ after) ∧
      (∀ c ∈ before, CharSet.space.contains c = true) ∧ Text.isIdentifierStart head = true ∧
      (∀ c ∈ tail, Text.isIdentifierPart c = true) ∧
      ∀ c ∈ after, CharSet.space.contains c = true := by
  -- Without the anchor the pattern would be searched for at later places too.
  have anchored : ∀ c d, d ∈ identifierPattern.pattern.ends c → c.fresh = true := by
    intro c d hd
    obtain ⟨_, hd, _⟩ := mem_ends_andThen hd
    obtain ⟨_, hd, _⟩ := mem_ends_andThen hd
    obtain ⟨_, hd, _⟩ := mem_ends_andThen hd
    obtain ⟨_, hd, _⟩ := mem_ends_andThen hd
    obtain ⟨_, hd, _⟩ := mem_ends_andThen hd
    exact (mem_ends_atStart hd).1
  obtain ⟨d, hd⟩ := exists_mem_ends_of_isFoundIn h anchored
  obtain ⟨e₅, hd, atEnd⟩ := mem_ends_andThen hd
  obtain ⟨e₄, hd, spaceAfter⟩ := mem_ends_andThen hd
  obtain ⟨e₃, hd, tailRun⟩ := mem_ends_andThen hd
  obtain ⟨e₂, hd, headOne⟩ := mem_ends_andThen hd
  obtain ⟨e₁, hd, spaceBefore⟩ := mem_ends_andThen hd
  obtain ⟨_, rfl⟩ := mem_ends_atStart hd
  obtain ⟨before, hBefore, blanksBefore⟩ := mem_ends_run spaceBefore
  obtain ⟨head, hHead, isHead⟩ := mem_ends_one headOne
  obtain ⟨tail, hTail, isTail⟩ := mem_ends_run tailRun
  obtain ⟨after, hAfter, blanksAfter⟩ := mem_ends_run spaceAfter
  rw [mem_ends_atEnd atEnd, List.append_nil] at hAfter
  refine ⟨before, head, tail, after, ?_, blanksBefore, ?_, fun c hc => ?_, blanksAfter⟩
  · rw [← hAfter, ← hTail, ← hHead, ← hBefore]
    rfl
  · simp only [CharSet.ofList, CharSet.contains, CharSet.contains_single, Bool.or_eq_true] at isHead
    simp only [Text.isIdentifierStart, Text.isLetter, Bool.or_eq_true, beq_iff_eq]
    obtain upper | lower | underscore := isHead
    · exact .inl (.inr upper)
    · exact .inl (.inl lower)
    · exact .inr underscore
  · have member := isTail c hc
    simp only [CharSet.ofList, CharSet.contains, CharSet.contains_single, Bool.or_eq_true] at member
    simp only [Text.isIdentifierPart, Text.isIdentifierStart, Text.isLetter, Text.isDigit,
      Bool.or_eq_true, beq_iff_eq]
    obtain upper | lower | digit | underscore := member
    · exact .inl (.inl (.inr upper))
    · exact .inl (.inl (.inl lower))
    · exact .inr digit
    · exact .inl (.inr underscore)

end Schema

end QueryHeaders
