import QueryHeaders.Proofs.Text.Pieces
import QueryHeaders.Proofs.Text.Trim

/-!
Texts without control characters: putting such texts together gives such a text. A control character
that stands in one of several lines stands in one that is not such a text.
-/
namespace QueryHeaders.Text

variable {s t : String}

@[simp]
theorem hasControl_append : hasControl (s ++ t) = (hasControl s || hasControl t) := by
  rw [hasControl, String.toList_append, List.any_append]
  rfl

theorem hasControl_eq_false : hasControl s = false ↔ ∀ c ∈ s.toList, isControl c = false := by
  simp [hasControl]

theorem notMem_of_isControl {c : Char} (h : hasControl s = false) (hc : isControl c = true) :
    c ∉ s.toList := by
  intro member
  rw [hasControl_eq_false.mp h c member] at hc
  cases hc

theorem ne_of_isControl {c d : Char} (hc : isControl c = true) (hd : isControl d = false) :
    c ≠ d := by
  rintro rfl
  rw [hc] at hd
  cases hd

theorem hasControl_intercalate {ss : List String} (hSep : hasControl s = false)
    (h : ∀ x ∈ ss, hasControl x = false) : hasControl (s.intercalate ss) = false :=
  hasControl_eq_false.mpr (forall_mem_intercalate (hasControl_eq_false.mp hSep)
    fun x hx => hasControl_eq_false.mp (h x hx))

theorem hasControl_of_isIdentifier (h : isIdentifier s = true) : hasControl s = false := by
  rw [hasControl_eq_false]
  intro c hc
  have range := toNat_of_isIdentifierPart (isIdentifierPart_of_mem h hc)
  simp only [isControl, Bool.or_eq_false_iff, Bool.and_eq_false_iff, decide_eq_false_iff_not]
  omega

/-! ## Lines -/

variable {c : Char} {l : String} {ls ms : List String}

/-- The character stands in one of the lines. -/
def StandsIn (c : Char) (ls : List String) : Prop := ∃ l ∈ ls, c ∈ l.toList

@[simp]
theorem standsIn_nil : StandsIn c [] ↔ False := by
  simp [StandsIn]

@[simp]
theorem standsIn_cons : StandsIn c (l :: ls) ↔ c ∈ l.toList ∨ StandsIn c ls := by
  simp [StandsIn]

@[simp]
theorem standsIn_append : StandsIn c (ls ++ ms) ↔ StandsIn c ls ∨ StandsIn c ms := by
  simp [StandsIn, or_and_right, exists_or]

theorem not_standsIn_of_isControl (hc : isControl c = true)
    (plain : ∀ l ∈ ls, hasControl l = false) : ¬ StandsIn c ls := by
  rintro ⟨l, hl, member⟩
  exact notMem_of_isControl (plain l hl) hc member

end QueryHeaders.Text
