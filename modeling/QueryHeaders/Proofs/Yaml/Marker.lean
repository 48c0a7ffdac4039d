import QueryHeaders.Proofs.Text.Markers
import QueryHeaders.Proofs.Yaml.Document
import QueryHeaders.Proofs.Yaml.Scanner

/-!
Markers in the text of a stream.

A glyph stands in the first column where the text starts or a line has ended. A line ends at a line
feed, a carriage return, the next-line character, and at the two separators.
-/
namespace QueryHeaders.Yaml

open Text (OpensMarked MarkedAfter markedAfter_nil markedAfter_cons)

def endsLine (c : Char) : Bool := c == '\r' || c == nextLine || isBreak c

/-- What ends a word before the end of the text. -/
def isSpace (c : Char) : Bool := isGap c || endsLine c

theorem isBlank_of_isSpace {c : Char} (h : isSpace c = true) : Text.isBlank c = true := by
  simp only [isSpace, isGap, endsLine, isBreak, Bool.or_eq_true, beq_iff_eq] at h
  obtain (rfl | rfl) | (rfl | rfl) | (rfl | rfl) | rfl := h <;> decide

variable {line column : Nat} {text : List Char}

theorem next_eq_dash (h : Glyph.next (glyphs line column text) = '-') :
    ∃ rest, text = '-' :: rest ∧
      glyphs line column text = ⟨'-', line, column⟩ :: glyphs line (column + 1) rest := by
  revert h
  fun_cases glyphs line column text with
  | case1 => nofun
  | case2 rest => nofun
  | case3 c rest pair feed => nofun
  | case4 c rest pair feed ends =>
      rintro rfl
      cases ends
  | case5 c rest pair feed ends =>
      rintro rfl
      exact ⟨rest, rfl, rfl⟩

theorem isAllowed_endChar : isAllowed endChar = false := by decide

/-- In a stream a word ends at a space or with the text. -/
theorem head?_all_isSpace (ends : endsWord (Glyph.next (glyphs line column text)) = true)
    (allowed : ∀ g ∈ glyphs line column text, isAllowed g.char = true) :
    text.head?.all isSpace = true := by
  revert ends allowed
  fun_cases glyphs line column text with
  | case1 => exact fun _ _ => rfl
  | case2 rest => exact fun _ _ => rfl
  | case3 c rest pair feed =>
      intro _ _
      show isSpace c = true
      simp only [Bool.or_eq_true, beq_iff_eq] at feed
      obtain (rfl | rfl) | rfl := feed <;> decide
  | case4 c rest pair feed ends =>
      intro _ _
      show isSpace c = true
      simp [isSpace, endsLine, ends]
  | case5 c rest pair feed ends =>
      intro ends allowed
      show isSpace c = true
      have inside : c ≠ endChar := by
        rintro rfl
        have first := allowed _ List.mem_cons_self
        rw [isAllowed_endChar] at first
        cases first
      have ends : endsWord c = true := ends
      simp only [endsWord, Bool.or_eq_true, beq_iff_eq, inside, or_false] at ends
      simp only [isSpace, endsLine, Bool.or_eq_true]
      exact ends.imp_right .inr

theorem opensMarked_of_startsMarkerOf
    (marker : Glyph.startsMarkerOf '-' (glyphs line column text) = true)
    (allowed : ∀ g ∈ glyphs line column text, isAllowed g.char = true) :
    OpensMarked isSpace text := by
  simp only [Glyph.startsMarkerOf, Bool.and_eq_true, beq_iff_eq] at marker
  obtain ⟨⟨⟨first, second⟩, third⟩, ends⟩ := marker
  obtain ⟨text, rfl, same⟩ := next_eq_dash first
  rw [same] at second third ends allowed
  obtain ⟨text, rfl, same⟩ := next_eq_dash second
  rw [same] at third ends allowed
  obtain ⟨text, rfl, same⟩ := next_eq_dash third
  rw [same] at ends allowed
  refine ⟨text, rfl, head?_all_isSpace ends fun g member => allowed g ?_⟩
  simp [member]

theorem char_of_startsMarkerOf {g : Glyph} {gs : List Glyph}
    (marker : Glyph.startsMarkerOf '-' (g :: gs) = true) : g.char = '-' := by
  simp only [Glyph.startsMarkerOf, Bool.and_eq_true, beq_iff_eq] at marker
  exact marker.1.1.1

theorem marked_cons {g : Glyph} {gs : List Glyph} (h : Scanner.Marked (g :: gs)) :
    g.column = 0 ∧ Glyph.startsMarkerOf '-' (g :: gs) = true ∨ Scanner.Marked gs := by
  obtain ⟨first, rest, left, lineStart, marker⟩ := h
  obtain same | later := List.suffix_cons_iff.mp left
  · cases same
    exact .inl ⟨lineStart, marker⟩
  · exact .inr ⟨first, rest, later, lineStart, marker⟩

theorem markedAfter_of_lineStart {c : Char} {rest : List Char} (ends : endsLine c = true)
    (h : 0 = 0 ∧ OpensMarked isSpace rest ∨ MarkedAfter endsLine isSpace rest) :
    MarkedAfter endsLine isSpace (c :: rest) :=
  markedAfter_cons.mpr (h.imp_left fun opens => ⟨ends, opens.2⟩)

theorem marked_glyphs (h : Scanner.Marked (glyphs line column text))
    (allowed : ∀ g ∈ glyphs line column text, isAllowed g.char = true) :
    column = 0 ∧ OpensMarked isSpace text ∨ MarkedAfter endsLine isSpace text := by
  fun_induction glyphs line column text with
  | case1 =>
      obtain ⟨g, rest, left, _⟩ := h
      simp at left
  | case2 line column rest ih =>
      obtain ⟨_, marker⟩ | later := marked_cons h
      · cases marker
      · have further := ih later (List.forall_mem_cons.mp allowed).2
        exact .inr (markedAfter_cons.mpr (.inr (markedAfter_of_lineStart rfl further)))
  | case3 line column c rest pair feed ih =>
      obtain ⟨_, marker⟩ | later := marked_cons h
      · cases marker
      · have ends : endsLine c = true := by
          simp only [Bool.or_eq_true, beq_iff_eq] at feed
          obtain (rfl | rfl) | rfl := feed <;> decide
        exact .inr (markedAfter_of_lineStart ends (ih later (List.forall_mem_cons.mp allowed).2))
  | case4 line column c rest pair feed ends ih =>
      obtain ⟨_, marker⟩ | later := marked_cons h
      · obtain rfl : c = '-' := char_of_startsMarkerOf marker
        cases ends
      · have ends : endsLine c = true := by simp [endsLine, ends]
        exact .inr (markedAfter_of_lineStart ends (ih later (List.forall_mem_cons.mp allowed).2))
  | case5 line column c rest pair feed ends ih =>
      obtain ⟨lineStart, marker⟩ | later := marked_cons h
      · have same : glyphs line column (c :: rest) =
            ⟨c, line, column⟩ :: glyphs line (column + 1) rest := by
          rw [glyphs, if_neg feed, if_neg ends]
          exact pair
        rw [← same] at marker allowed
        exact .inl ⟨lineStart, opensMarked_of_startsMarkerOf marker allowed⟩
      · obtain ⟨zero, _⟩ | further := ih later (List.forall_mem_cons.mp allowed).2
        · cases zero
        · exact .inr (markedAfter_cons.mpr (.inr further))

/-- A text of several documents is marked, at its start or after a line end. -/
theorem marked_of_documents {text : String} {vs : List Value} (h : documents text = .ok vs)
    (many : 2 ≤ vs.length) :
    OpensMarked isSpace text.toList ∨ MarkedAfter endsLine isSpace text.toList := by
  obtain ⟨allowed, marked⟩ := marked_of_documentStart_mem (documentStart_mem_tokens h many)
  exact (marked_glyphs marked allowed).imp_left And.right

end QueryHeaders.Yaml
