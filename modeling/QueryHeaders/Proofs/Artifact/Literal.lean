import QueryHeaders.Artifact.Header

/-!
Reading string literals.

A literal ends at the first quote that no backslash escapes; what was escaped is put back. So a text
is read back from its literal, whatever stands in it and whatever follows the literal.
-/
namespace QueryHeaders.Header

/-- The character that an escape stands for. -/
def escaped? (c : Char) : Option Char :=
  if c = 'n' then some '\n' else if c = '"' ∨ c = '\\' then some c else none

/-- The characters up to the closing quote, and those after it. -/
def readCharacters : List Char → Option (List Char × List Char)
  | [] => none
  | '"' :: rest => some ([], rest)
  | '\\' :: c :: rest => do
      let d ← escaped? c
      let (ds, after) ← readCharacters rest
      return (d :: ds, after)
  | c :: rest => do
      let (cs, after) ← readCharacters rest
      return (c :: cs, after)

/-- The text of the literal that starts here, and the characters after it. -/
def readLiteral : List Char → Option (String × List Char)
  | '"' :: rest => do
      let (cs, after) ← readCharacters rest
      return (String.ofList cs, after)
  | _ => none

variable {c : Char} {cs rest after : List Char}

theorem readCharacters_escapeChar (c : Char) (h : readCharacters rest = some (cs, after)) :
    readCharacters (escapeChar c ++ rest) = some (c :: cs, after) := by
  by_cases quote : c = '"'
  · subst quote
    simp [escapeChar, readCharacters, escaped?, h]
  · by_cases backslash : c = '\\'
    · subst backslash
      simp [escapeChar, readCharacters, escaped?, h]
    · by_cases feed : c = '\n'
      · subst feed
        simp [escapeChar, readCharacters, escaped?, h]
      · simp [escapeChar, readCharacters, quote, backslash, feed, h]

theorem readCharacters_escaped (cs rest : List Char) :
    readCharacters (cs.flatMap escapeChar ++ '"' :: rest) = some (cs, rest) := by
  induction cs with
  | nil => simp [readCharacters]
  | cons c cs ih =>
      rw [List.flatMap_cons, List.append_assoc]
      exact readCharacters_escapeChar c ih

theorem readLiteral_literal (s : String) (rest : List Char) :
    readLiteral ((literal s).toList ++ rest) = some (s, rest) := by
  simp [literal, readLiteral, readCharacters_escaped]

end QueryHeaders.Header
