import QueryHeaders.Proofs.Text.Control
import QueryHeaders.Proofs.Text.Identifier
import QueryHeaders.Text.Case

/-!
Line breaks, as the line breaking algorithm of Unicode lists the mandatory ones.

Neither numerals nor identifiers hold one, and no mapping of the case tables leads to one or away
from one, so that a text has as many in lower or upper case as it has itself.
-/
namespace QueryHeaders.Text

/-- The line feed, the next three controls, the next line, and the two separators. -/
def isBreakCode (n : Nat) : Bool :=
  (10 ≤ n && n ≤ 13) || n == 0x85 || n == 0x2028 || n == 0x2029

def isLineBreak (c : Char) : Bool := isBreakCode c.toNat

def hasLineBreak (s : String) : Bool := s.toList.any isLineBreak

variable {s t : String} {c : Char}

@[simp]
theorem hasLineBreak_append : hasLineBreak (s ++ t) = (hasLineBreak s || hasLineBreak t) := by
  rw [hasLineBreak, String.toList_append, List.any_append]
  rfl

/-- A literal stands for the text of its characters, so that none has to be decoded. -/
theorem hasLineBreak_ofList {cs : List Char} (fixed : cs.any isLineBreak = false) :
    hasLineBreak (String.ofList cs) = false := by
  rw [hasLineBreak, String.toList_ofList, fixed]

theorem isLineBreak_of_isIdentifierPart (h : isIdentifierPart c = true) :
    isLineBreak c = false := by
  have range := toNat_of_isIdentifierPart h
  simp only [isLineBreak, isBreakCode, Bool.or_eq_false_iff, Bool.and_eq_false_iff,
    decide_eq_false_iff_not, beq_eq_false_iff_ne]
  omega

theorem hasLineBreak_eq_false (parts : ∀ c ∈ s.toList, isIdentifierPart c = true) :
    hasLineBreak s = false := by
  apply List.any_eq_false.mpr
  intro c hc
  rw [isLineBreak_of_isIdentifierPart (parts c hc)]
  exact Bool.false_ne_true

theorem hasLineBreak_of_isIdentifier (h : isIdentifier s = true) : hasLineBreak s = false :=
  hasLineBreak_eq_false fun _ => isIdentifierPart_of_mem h

@[simp]
theorem hasLineBreak_toString (n : Nat) : hasLineBreak (toString n) = false :=
  hasLineBreak_eq_false fun _ => isIdentifierPart_of_mem_toString

/-! ## The case tables -/

/-- No code from the first to the last breaks a line. -/
def IsClear (first last : Int) : Prop :=
  (last < 10 ∨ 13 < first) ∧ (last < 0x85 ∨ 0x85 < first) ∧ (last < 0x2028 ∨ 0x2029 < first)

instance (first last : Int) : Decidable (IsClear first last) :=
  inferInstanceAs (Decidable (_ ∧ _))

theorem isBreakCode_of_isClear {first last : Int} {n : Nat} (clear : IsClear first last)
    (above : first ≤ n) (below : n ≤ last) : isBreakCode n = false := by
  obtain ⟨controls, nextLine, separators⟩ := clear
  simp only [isBreakCode, Bool.or_eq_false_iff, Bool.and_eq_false_iff, decide_eq_false_iff_not,
    beq_eq_false_iff_ne]
  omega

/-- A run neither starts from line breaks nor leads to them. -/
def Shift.IsClear (r : Shift) : Prop :=
  Text.IsClear r.first r.last ∧ Text.IsClear (r.first + r.offset) (r.last + r.offset)

instance (r : Shift) : Decidable r.IsClear := inferInstanceAs (Decidable (_ ∧ _))

theorem isLineBreak_ofNat {n : Nat} (h : isBreakCode n = false) :
    isLineBreak (Char.ofNat n) = false := by
  by_cases valid : n.isValidChar
  · have code : (Char.ofNat n).toNat = n := by
      rw [Char.ofNat, dif_pos valid]
      rfl
    rw [isLineBreak, code, h]
  · -- A code that is none of a character gives the character zero.
    rw [Char.ofNat, dif_neg valid]
    rfl

theorem Shift.IsClear.shifted {r : Shift} (clear : r.IsClear) {n m : Nat}
    (shifted : r.shifted? n = some m) : isBreakCode n = false ∧ isBreakCode m = false := by
  unfold Shift.shifted? at shifted
  split at shifted
  · next inside =>
      cases shifted
      refine ⟨isBreakCode_of_isClear clear.1 (by omega) (by omega), ?_⟩
      -- A code below zero counts as zero, which breaks no line.
      by_cases negative : (n : Int) + r.offset < 0
      · rw [Int.toNat_of_nonpos (Int.le_of_lt negative)]
        rfl
      · exact isBreakCode_of_isClear clear.2 (by omega) (by omega)
  · cases shifted

/-- The long mappings neither start from line breaks nor lead to them. -/
def LongClear (long : List (Nat × List Nat)) : Prop :=
  ∀ entry ∈ long, isBreakCode entry.1 = false ∧ ∀ n ∈ entry.2, isBreakCode n = false

instance (long : List (Nat × List Nat)) : Decidable (LongClear long) :=
  inferInstanceAs (Decidable (∀ _ ∈ _, _))

theorem any_mapCase {long : List (Nat × List Nat)} {runs : List Shift} (longClear : LongClear long)
    (runsClear : ∀ r ∈ runs, r.IsClear) (c : Char) :
    (mapCase long runs c).any isLineBreak = isLineBreak c := by
  rw [mapCase]
  split
  · next ns found =>
      obtain ⟨before, after, whole, _⟩ := List.lookup_eq_some_iff.mp found
      obtain ⟨source, targets⟩ := longClear (c.toNat, ns) (by simp [whole])
      rw [isLineBreak, source, List.any_map, List.any_eq_false]
      intro n hn
      rw [Function.comp_apply, isLineBreak_ofNat (targets n hn)]
      exact Bool.false_ne_true
  · split
    · next m found =>
        obtain ⟨r, hr, shifted⟩ := List.exists_of_findSome?_eq_some found
        obtain ⟨source, target⟩ := (runsClear r hr).shifted shifted
        rw [List.any_cons, List.any_nil, Bool.or_false, isLineBreak_ofNat target, isLineBreak,
          source]
    · rw [List.any_cons, List.any_nil, Bool.or_false]

/-! ## Case mappings -/

theorem isLineBreak_ascii (small : c.toNat < 0x80) :
    isLineBreak c.toLower = isLineBreak c ∧ isLineBreak c.toUpper = isLineBreak c := by
  have all : ∀ n < 0x80, isLineBreak (Char.ofNat n).toLower = isLineBreak (Char.ofNat n) ∧
      isLineBreak (Char.ofNat n).toUpper = isLineBreak (Char.ofNat n) := by decide
  have here := all c.toNat small
  rwa [Char.ofNat_toNat] at here

theorem any_lowerChar (c : Char) : (lowerChar c).any isLineBreak = isLineBreak c := by
  rw [lowerChar]
  split
  · next small =>
      rw [List.any_cons, List.any_nil, Bool.or_false, (isLineBreak_ascii small).1]
  · exact any_mapCase (by decide +kernel) (by decide +kernel) c

theorem any_upperChar (c : Char) : (upperChar c).any isLineBreak = isLineBreak c := by
  rw [upperChar]
  split
  · next small =>
      rw [List.any_cons, List.any_nil, Bool.or_false, (isLineBreak_ascii small).2]
  · exact any_mapCase (by decide +kernel) (by decide +kernel) c

/-- The surroundings choose between two forms of one letter, of which neither breaks a line. -/
theorem any_lowerChars (before cs : List Char) :
    (lowerChars before cs).any isLineBreak = cs.any isLineBreak := by
  induction cs generalizing before with
  | nil => rfl
  | cons c rest ih =>
      rw [lowerChars, List.any_append, ih, List.any_cons]
      congr 1
      split
      · next sigma =>
          rw [sigma]
          split <;> rfl
      · exact any_lowerChar c

theorem hasLineBreak_lowercase (s : String) : hasLineBreak (lowercase s) = hasLineBreak s := by
  rw [hasLineBreak, lowercase, String.toList_ofList, any_lowerChars, hasLineBreak]

theorem hasLineBreak_uppercase (s : String) : hasLineBreak (uppercase s) = hasLineBreak s := by
  rw [hasLineBreak, uppercase, String.toList_ofList, List.any_flatMap, hasLineBreak]
  congr 1
  funext c
  exact any_upperChar c

end QueryHeaders.Text
