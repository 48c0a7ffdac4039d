import QueryHeaders.Json.Basic
import QueryHeaders.Text.Pieces

/-!
JSON pointers: the text of a path into a value.

Each step follows a slash. A tilde in a step is written `~0` and a slash `~1`; in reading, `~1` is
replaced before `~0`, so that a written tilde never makes an escape with what follows it.
-/
namespace QueryHeaders.Json.Pointer

def escapeChar (c : Char) : List Char :=
  if c = '~' then ['~', '0'] else if c = '/' then ['~', '1'] else [c]

def stepChars (step : String) : List Char := '/' :: step.toList.flatMap escapeChar

/-- The pointer of a path. -/
def ofSteps (steps : List String) : String := String.ofList (steps.flatMap stepChars)

def unescape (cs : List Char) : String :=
  String.ofList (Text.replacePair '~' '0' '~' (Text.replacePair '~' '1' '/' cs))

/-- The path of a pointer; what stands before the first slash is dropped. -/
def steps (pointer : String) : List String :=
  ((Text.pieces '/' pointer.toList).drop 1).map unescape

/-- What a path leads to: names in objects, decimal positions in arrays. -/
def lookup : List String → Json → Option Json
  | [], v => some v
  | step :: rest, v =>
      match v with
      | .object members => (members.lookup step).bind (lookup rest)
      | .array items =>
          let n := Nat.ofDigitChars 10 step.toList 0
          if toString n = step then items[n]?.bind (lookup rest) else none
      | _ => none

end QueryHeaders.Json.Pointer
