import QueryHeaders.Json.Pointer
import QueryHeaders.Proofs.Text.Pieces

/-!
Reading a written pointer gives the path back.

An escaped step holds no slash, so that the slashes of a pointer stand between its steps. In a step
the escapes of slashes are undone first; what is left of a tilde is its own escape, whatever follows
it.
-/
namespace QueryHeaders.Json.Pointer

open Text

/-! ## One step -/

/-- What is left of the escapes of a character when slashes are back. -/
def escapeTilde (c : Char) : List Char := if c = '~' then ['~', '0'] else [c]

theorem replacePair_slashes (cs : List Char) :
    replacePair '~' '1' '/' (cs.flatMap escapeChar) = cs.flatMap escapeTilde := by
  induction cs with
  | nil => rfl
  | cons c rest ih =>
      rw [List.flatMap_cons, List.flatMap_cons, escapeChar, escapeTilde]
      by_cases tilde : c = '~'
      · subst tilde
        rw [if_pos rfl, if_pos rfl, ← ih, List.cons_append, List.cons_append, List.nil_append,
          replacePair, if_neg (by decide), replacePair_cons_of_ne (by decide)]
        rfl
      · rw [if_neg tilde, if_neg tilde]
        by_cases slash : c = '/'
        · subst slash
          rw [if_pos rfl, ← ih]
          exact replacePair_pair '~' '1' '/' _
        · rw [if_neg slash, ← ih]
          exact replacePair_cons_of_ne tilde _

theorem replacePair_tildes (cs : List Char) :
    replacePair '~' '0' '~' (cs.flatMap escapeTilde) = cs := by
  induction cs with
  | nil => rfl
  | cons c rest ih =>
      rw [List.flatMap_cons, escapeTilde]
      by_cases tilde : c = '~'
      · subst tilde
        rw [if_pos rfl]
        exact (replacePair_pair '~' '0' '~' _).trans (congrArg _ ih)
      · rw [if_neg tilde]
        exact (replacePair_cons_of_ne tilde _).trans (congrArg _ ih)

theorem unescape_escaped (step : String) : unescape (step.toList.flatMap escapeChar) = step := by
  rw [unescape, replacePair_slashes, replacePair_tildes, String.ofList_toList]

theorem slash_notMem_escaped (cs : List Char) : '/' ∉ cs.flatMap escapeChar := by
  intro member
  obtain ⟨c, _, within⟩ := List.mem_flatMap.mp member
  rw [escapeChar] at within
  split at within
  · simp at within
  · split at within
    · simp at within
    · next slash => exact slash (List.mem_singleton.mp within).symm

/-! ## Whole pointers -/

/-- Every step is a piece of its own, after what stands before the first slash. -/
theorem pieces_flatMap_stepChars {first : List Char} (plain : '/' ∉ first) (path : List String) :
    pieces '/' (first ++ path.flatMap stepChars) =
      first :: path.map fun step => step.toList.flatMap escapeChar := by
  induction path generalizing first with
  | nil => simpa using Text.pieces_of_notMem plain
  | cons step rest ih =>
      rw [List.flatMap_cons, stepChars, List.cons_append, Text.pieces_append,
        Text.pieces_of_notMem plain, ih (slash_notMem_escaped _)]
      rfl

theorem steps_ofSteps (path : List String) : steps (ofSteps path) = path := by
  have plain : '/' ∉ ([] : List Char) := List.not_mem_nil
  have split := pieces_flatMap_stepChars plain path
  rw [List.nil_append] at split
  rw [steps, ofSteps, String.toList_ofList, split, List.drop_one, List.tail_cons, List.map_map]
  simp [Function.comp_def, unescape_escaped]

end QueryHeaders.Json.Pointer
