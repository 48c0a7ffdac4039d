import QueryHeaders.Yaml.Glyph

/-!
Folding: what the blanks and line ends between two words of a scalar become.

Blanks within a line stay. A single line end becomes a space, a longer run of them loses its first
one; a separator is never turned into a space. Blanks around line ends are dropped.
-/
namespace QueryHeaders.Yaml

/-- What was met since the last word. -/
inductive Gap where
  /-- Blanks of one line. -/
  | blanks (chars : List Char)
  /-- Line ends; the first one is missing if it was escaped. -/
  | breaks (first : Option Char) (others : List Char)
  deriving Repr

namespace Gap

def empty : Gap := .blanks []

def isEmpty : Gap → Bool
  | .blanks [] => true
  | _ => false

def isBreaks : Gap → Bool
  | .blanks _ => false
  | .breaks .. => true

/-- Adds a blank or a line end. -/
def add (c : Char) : Gap → Gap
  | .blanks cs => if isBreak c then .breaks (some c) [] else .blanks (cs ++ [c])
  | .breaks first others => if isBreak c then .breaks first (others ++ [c]) else .breaks first others

/-- The characters that take the place of the gap. -/
def fold : Gap → List Char
  | .blanks cs => cs
  | .breaks none others => others
  | .breaks (some c) others =>
      if c = '\n' then if others.isEmpty then [' '] else others
      else c :: others

/-- Appends the folded gap to characters that stand last one first. -/
def joinTo (done : List Char) (gap : Gap) : List Char := gap.fold.reverse ++ done

end Gap

end QueryHeaders.Yaml
