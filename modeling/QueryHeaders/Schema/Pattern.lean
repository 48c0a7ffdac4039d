/-!
Patterns: regular expressions that are searched for in a text.

A cursor is a place in a text: what stands after it, and whether anything stands before it. `ends`
lists the places at which a match that starts at a cursor may end, and a pattern is found in a text
if it has a match from any place.
-/
namespace QueryHeaders

/-- A set of characters. -/
inductive CharSet where
  | range (first last : Char)
  | union (a b : CharSet)
  | complement (a : CharSet)
  | empty
  deriving DecidableEq, Repr

namespace CharSet

def contains : CharSet → Char → Bool
  | .range first last, c => first ≤ c && c ≤ last
  | .union a b, c => a.contains c || b.contains c
  | .complement a, c => !a.contains c
  | .empty, _ => false

def single (c : Char) : CharSet := .range c c

def ofList : List CharSet → CharSet
  | [] => .empty
  | [s] => s
  | s :: rest => .union s (ofList rest)

/-- The class `\d`. -/
def digit : CharSet := .range '0' '9'

/-- The class `\w`. -/
def word : CharSet := ofList [.range 'a' 'z', .range 'A' 'Z', digit, single '_']

/-- The class `\s`, which has some of the white space beyond ASCII, and a mark that is none. -/
def space : CharSet :=
  ofList [.range '\t' '\r', single ' ', single '\u00a0', single '\ufeff', single '\u2003',
    single '\u2029']

/-- Any character but a line feed. -/
def inLine : CharSet := .complement (single '\n')

end CharSet

inductive Pattern where
  | nothing
  | one (set : CharSet)
  /-- Any number of characters of a set. -/
  | run (set : CharSet)
  | andThen (a b : Pattern)
  | orElse (a b : Pattern)
  /-- Any number of matches in a row. -/
  | many (a : Pattern)
  | atStart
  | atEnd
  deriving DecidableEq, Repr

/-- A place in a text. -/
structure Cursor where
  fresh : Bool
  left : Nat
  rest : List Char
  deriving Repr

namespace Cursor

def start (cs : List Char) : Cursor := ⟨true, cs.length, cs⟩

/-- Whether two cursors of one text are the same place. -/
def same (c d : Cursor) : Bool := c.left == d.left

/-- The places after this one. -/
def later : List Char → List Cursor
  | [] => []
  | _ :: rest => ⟨false, rest.length, rest⟩ :: later rest

end Cursor

namespace Pattern

/-- The places after the characters of a set in a row, the nearest first. -/
def runEnds (set : CharSet) (c : Cursor) : List Char → List Cursor
  | [] => [c]
  | x :: rest =>
      if set.contains x then c :: runEnds set ⟨false, c.left - 1, rest⟩ rest else [c]

def addNew (seen : List Cursor) (c : Cursor) : List Cursor :=
  if seen.any c.same then seen else c :: seen

/-- The places that can be reached in steps from `frontier`, together with those already seen. -/
def reach (step : Cursor → List Cursor) : (fuel : Nat) → (seen frontier : List Cursor) →
    List Cursor
  | 0, seen, _ => seen
  | fuel + 1, seen, frontier =>
      let next := ((frontier.flatMap step).foldl addNew []).filter fun c => !seen.any c.same
      if next.isEmpty then seen else reach step fuel (next ++ seen) next

/-- Where a match from a place may end. -/
def ends : Pattern → Cursor → List Cursor
  | .nothing, c => [c]
  | .one set, c =>
      match c.rest with
      | [] => []
      | x :: rest => if set.contains x then [⟨false, c.left - 1, rest⟩] else []
  | .run set, c => runEnds set c c.rest
  | .andThen a b, c => (a.ends c).flatMap b.ends
  | .orElse a b, c => a.ends c ++ b.ends c
  | .many a, c => reach a.ends (c.left + 1) [c] [c]
  | .atStart, c => if c.fresh then [c] else []
  | .atEnd, c => if c.rest.isEmpty then [c] else []

/-- Whether the pattern is found anywhere in the text. -/
def isFoundIn (p : Pattern) (s : String) : Bool :=
  let cs := s.toList
  (Cursor.start cs :: Cursor.later cs).any fun c => !(p.ends c).isEmpty

/-- The pattern a number of times in a row. -/
def copies (p : Pattern) : Nat → Pattern
  | 0 => .nothing
  | 1 => p
  | n + 1 => .andThen p (copies p n)

def star : Pattern → Pattern
  | .one set => .run set
  | p => .many p

/-- The pattern at most a number of times in a row. -/
def upTo (p : Pattern) : Nat → Pattern
  | 0 => .nothing
  | n + 1 => .orElse (.andThen p (upTo p n)) .nothing

end Pattern

end QueryHeaders
