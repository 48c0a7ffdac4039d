import Mathlib.Data.List.TakeWhile
import QueryHeaders.Text.Blank
import QueryHeaders.Text.Identifier

/-!
Trimmed texts: trimming leaves no blank at either end, takes blanks put around a text away again,
and leaves a trimmed text as it is. An identifier has no blank anywhere.
-/
namespace QueryHeaders.Text

/-- No blank at either end. -/
def IsTrimmed (s : String) : Prop :=
  (∀ c ∈ s.toList.head?, isBlank c = false) ∧ ∀ c ∈ s.toList.getLast?, isBlank c = false

theorem not_isBlank_head?_dropWhile {cs : List Char} {c : Char}
    (h : (cs.dropWhile isBlank).head? = some c) : isBlank c = false := by
  have first := List.head?_dropWhile_not isBlank cs
  rw [h] at first
  simpa using first

theorem trimEndChars_prefix (cs : List Char) : trimEndChars cs <+: cs := by
  rw [trimEndChars, ← List.reverse_suffix, List.reverse_reverse]
  exact List.dropWhile_suffix isBlank

theorem isTrimmed_trim (s : String) : IsTrimmed (trim s) := by
  rw [IsTrimmed, trim, String.toList_ofList]
  refine ⟨fun c hc => ?_, fun c hc => ?_⟩
  · obtain ⟨rest, whole⟩ := trimEndChars_prefix (s.toList.dropWhile isBlank)
    refine not_isBlank_head?_dropWhile (?_ : (s.toList.dropWhile isBlank).head? = some c)
    rw [trimChars, Option.mem_def] at hc
    rw [← whole, List.head?_append, hc]
    rfl
  · rw [trimChars, trimEndChars, List.getLast?_reverse] at hc
    exact not_isBlank_head?_dropWhile hc

/-- What is not blank stays. -/
theorem mem_dropWhile {cs : List Char} {c : Char} (h : c ∈ cs) (hc : isBlank c = false) :
    c ∈ cs.dropWhile isBlank := by
  rw [← List.takeWhile_append_dropWhile (p := isBlank) (l := cs), List.mem_append] at h
  obtain before | after := h
  · have blank := List.mem_takeWhile_imp before
    rw [hc] at blank
    cases blank
  · exact after

theorem mem_trim {s : String} {c : Char} (h : c ∈ s.toList) (hc : isBlank c = false) :
    c ∈ (trim s).toList := by
  rw [trim, String.toList_ofList, trimChars, trimEndChars, List.mem_reverse]
  refine mem_dropWhile ?_ hc
  rw [List.mem_reverse]
  exact mem_dropWhile h hc

/-! ## Blanks around a text -/

variable {before after cs : List Char} {s t : String}

theorem trimEndChars_append_blanks (blanks : ∀ c ∈ after, isBlank c = true) (cs : List Char) :
    trimEndChars (cs ++ after) = trimEndChars cs := by
  have reversed : ∀ c ∈ after.reverse, isBlank c = true := by
    intro c hc
    exact blanks c (List.mem_reverse.mp hc)
  rw [trimEndChars, trimEndChars, List.reverse_append, List.dropWhile_append_of_pos reversed]

theorem trimChars_blanks_append (blanks : ∀ c ∈ before, isBlank c = true) (cs : List Char) :
    trimChars (before ++ cs) = trimChars cs := by
  rw [trimChars, trimChars, List.dropWhile_append_of_pos blanks]

theorem trimChars_append_blanks (blanks : ∀ c ∈ after, isBlank c = true) (cs : List Char) :
    trimChars (cs ++ after) = trimChars cs := by
  rw [trimChars, trimChars, List.dropWhile_append]
  split
  · next none =>
      -- Nothing is left of the text, nor of the blanks behind it.
      rw [List.isEmpty_iff.mp none, List.dropWhile_eq_nil_iff.mpr blanks]
  · exact trimEndChars_append_blanks blanks _

theorem trimChars_of_ends (first : ∀ c ∈ cs.head?, isBlank c = false)
    (last : ∀ c ∈ cs.getLast?, isBlank c = false) : trimChars cs = cs := by
  have kept : ∀ ds : List Char, (∀ c ∈ ds.head?, isBlank c = false) →
      ds.dropWhile isBlank = ds := by
    intro ds first
    cases ds with
    | nil => rfl
    | cons d ds => rw [List.dropWhile_cons, first d rfl, if_neg Bool.false_ne_true]
  rw [trimChars, trimEndChars, kept cs first, kept cs.reverse, List.reverse_reverse]
  intro c hc
  rw [List.head?_reverse] at hc
  exact last c hc

/-- The second text is the first with blanks around it. -/
def IsPadded (s t : String) : Prop :=
  ∃ before after, t.toList = before ++ (s.toList ++ after) ∧
    (∀ c ∈ before, isBlank c = true) ∧ ∀ c ∈ after, isBlank c = true

theorem IsPadded.trim_eq (h : IsPadded s t) : trim t = trim s := by
  obtain ⟨before, after, whole, blanksBefore, blanksAfter⟩ := h
  rw [trim, trim, whole, trimChars_blanks_append blanksBefore,
    trimChars_append_blanks blanksAfter]

theorem IsTrimmed.trim_eq (h : IsTrimmed s) : trim s = s := by
  rw [trim, trimChars_of_ends h.1 h.2, String.ofList_toList]

/-! ## Characters of identifiers -/

theorem isIdentifierPart_of_start {c : Char} (h : isIdentifierStart c = true) :
    isIdentifierPart c = true := by
  rw [isIdentifierPart, h, Bool.true_or]

theorem isIdentifierPart_of_mem {s : String} (h : isIdentifier s = true) {c : Char}
    (hc : c ∈ s.toList) : isIdentifierPart c = true := by
  rw [isIdentifier] at h
  cases hs : s.toList with
  | nil => simp [hs] at hc
  | cons first rest =>
      rw [hs, isIdentifierChars, Bool.and_eq_true, List.all_eq_true] at h
      rw [hs, List.mem_cons] at hc
      obtain rfl | member := hc
      · exact isIdentifierPart_of_start h.1
      · exact h.2 c member

theorem notMem_of_isIdentifier {s : String} {c : Char} (h : isIdentifier s = true)
    (hc : isIdentifierPart c = false) : c ∉ s.toList := by
  intro member
  rw [isIdentifierPart_of_mem h member] at hc
  cases hc

theorem ne_empty_of_isIdentifier (h : isIdentifier s = true) : s ≠ "" := by
  rintro rfl
  cases h

/-- The characters of identifiers are printable and in ASCII. -/
theorem toNat_of_isIdentifierPart {c : Char} (h : isIdentifierPart c = true) :
    0x30 ≤ c.toNat ∧ c.toNat ≤ 0x39 ∨ 0x41 ≤ c.toNat ∧ c.toNat ≤ 0x5A ∨ c.toNat = 0x5F ∨
      0x61 ≤ c.toNat ∧ c.toNat ≤ 0x7A := by
  simp only [isIdentifierPart, isIdentifierStart, isLetter, isDigit, Bool.or_eq_true,
    Bool.and_eq_true, decide_eq_true_eq, beq_iff_eq, Char.le_def, UInt32.le_iff_toNat_le] at h
  unfold Char.toNat
  obtain ((lower | upper) | rfl) | digit := h
  · change 0x61 ≤ c.val.toNat ∧ c.val.toNat ≤ 0x7A at lower
    omega
  · change 0x41 ≤ c.val.toNat ∧ c.val.toNat ≤ 0x5A at upper
    omega
  · decide
  · change 0x30 ≤ c.val.toNat ∧ c.val.toNat ≤ 0x39 at digit
    omega

theorem not_isBlank_of_isIdentifierPart {c : Char} (h : isIdentifierPart c = true) :
    isBlank c = false := by
  have range := toNat_of_isIdentifierPart h
  simp only [isBlank, Bool.or_eq_false_iff, Bool.and_eq_false_iff, decide_eq_false_iff_not,
    beq_eq_false_iff_ne]
  omega

theorem isTrimmed_of_isIdentifier (h : isIdentifier s = true) : IsTrimmed s := by
  constructor
  · intro c hc
    exact not_isBlank_of_isIdentifierPart (isIdentifierPart_of_mem h (List.mem_of_head? hc))
  · intro c hc
    exact not_isBlank_of_isIdentifierPart (isIdentifierPart_of_mem h (List.mem_of_getLast? hc))

end QueryHeaders.Text
