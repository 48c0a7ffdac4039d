import QueryHeaders.Schema.Check
import QueryHeaders.Text.Lines

/-!
Violations: broken constraints as they are reported.

A violation names the way to the value and to the constraint step by step, and shows the text of
the value, shortened where it is long.
-/
namespace QueryHeaders

structure Violation where
  message : String
  /-- The names and positions that lead to the value. -/
  instancePath : List String
  /-- The names that lead to the constraint. -/
  schemaPath : List String
  /-- The text of the value. -/
  value : String
  deriving DecidableEq, Repr

namespace Violation

/-- At most a hundred characters of a value are shown, the last three of them an ellipsis if it has
more. -/
def shownValue (v : Json) : String := Text.shorten 100 97 v.text

def ofFinding (f : Schema.Finding) : Violation where
  message := f.message
  instancePath := Json.Pointer.steps f.valuePointer
  schemaPath := Json.Pointer.steps f.rulePointer
  value := shownValue f.value

def pathText (steps : List String) : String := " -> ".intercalate steps

/-- The violation over some lines; an empty path has no line. -/
def display (v : Violation) : String :=
  "Error: " ++ v.message ++
    (if v.instancePath.isEmpty then "" else "\nPath: " ++ pathText v.instancePath) ++
    (if v.schemaPath.isEmpty then "" else "\nSchema constraint: " ++ pathText v.schemaPath) ++
    "\nInvalid value: " ++ v.value

end Violation

/-- What a value breaks, in the order of the schema. -/
def Schema.violations (s : Schema) (v : Json) : List Violation :=
  (s.findings v).map Violation.ofFinding

end QueryHeaders
