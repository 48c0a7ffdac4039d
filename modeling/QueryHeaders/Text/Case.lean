import QueryHeaders.Text.CaseTable
import QueryHeaders.Text.CasedTable

/-!
Full Unicode case mapping of texts.

A character may map to several. Lower-casing looks at the surroundings in one place only: a capital
sigma becomes the final form at the end of a word, that is after a cased letter and before none,
ignorable characters being looked through on both sides.
-/
namespace QueryHeaders.Text

def Shift.shifted? (s : Shift) (n : Nat) : Option Nat :=
  if s.first ≤ n ∧ n ≤ s.last ∧ (n - s.first) % s.step = 0 then
    some (Int.toNat (n + s.offset))
  else none

/-- The mapping of one character by a table of runs and a table of longer mappings. -/
def mapCase (long : List (Nat × List Nat)) (runs : List Shift) (c : Char) : List Char :=
  match long.lookup c.toNat with
  | some ns => ns.map Char.ofNat
  | none =>
      match runs.findSome? (·.shifted? c.toNat) with
      | some n => [Char.ofNat n]
      | none => [c]

def lowerChar (c : Char) : List Char :=
  if c.toNat < 0x80 then [c.toLower]
  else mapCase CaseTable.lowerLong CaseTable.lower c

def upperChar (c : Char) : List Char :=
  if c.toNat < 0x80 then [c.toUpper]
  else mapCase CaseTable.upperLong CaseTable.upper c

def inRanges (ranges : List (Nat × Nat)) (c : Char) : Bool :=
  ranges.any fun (first, last) => first ≤ c.toNat && c.toNat ≤ last

/-- Whether the first character that is not ignorable is a cased letter. -/
def startsCased (cs : List Char) : Bool :=
  match cs.dropWhile (inRanges CasedTable.ignorable) with
  | [] => false
  | c :: _ => inRanges CasedTable.cased c

/-- Lower-cases a text of which `before` is the part already passed, last character first. -/
def lowerChars (before : List Char) : List Char → List Char
  | [] => []
  | c :: rest =>
      let here :=
        if c = 'Σ' then
          if startsCased before && !startsCased rest then ['ς'] else ['σ']
        else lowerChar c
      here ++ lowerChars (c :: before) rest

def lowercase (s : String) : String :=
  String.ofList (lowerChars [] s.toList)

def uppercase (s : String) : String :=
  String.ofList (s.toList.flatMap upperChar)

end QueryHeaders.Text
