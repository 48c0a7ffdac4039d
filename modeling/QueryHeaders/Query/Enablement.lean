import QueryHeaders.Query.Defect

/-!
Enablement: which queries reach the generated files.

A standard query is always included, any other if the feature of its category is permitted. A
disabled query is left out; but to disable a query and to permit its feature is a contradiction.
-/
namespace QueryHeaders

/-- Why a query is included or left out. -/
inductive Decision where
  | alwaysIncluded
  | permitted (feature : Feature)
  | disabled
  | needs (feature : Feature)
  deriving DecidableEq, Repr

namespace Decision

def isIncluded : Decision → Bool
  | .alwaysIncluded | .permitted _ => true
  | .disabled | .needs _ => false

def reason (d : Decision) : String :=
  match d with
  | .alwaysIncluded => "standard query always enabled"
  | .permitted f => (Category.special f).name ++ " query enabled via flag"
  | .disabled => "query disabled"
  | .needs f => (Category.special f).name ++ " query requires " ++ f.flag

end Decision

/-- Decides on one query. -/
def Query.decide (fs : Features) (q : Query) : Except Defect Decision :=
  match q.enabled, q.category with
  | true, .standard => .ok .alwaysIncluded
  | true, .special f => .ok (if fs.permits f then .permitted f else .needs f)
  | false, .standard => .ok .disabled
  | false, .special f =>
      if fs.permits f then .error (.disabledButFlagged f) else .ok .disabled

def enabledFrom (fs : Features) (index : Nat) : List Query → Except DefinitionError (List Query)
  | [] => .ok []
  | q :: rest =>
      match q.decide fs with
      | .error defect => .error ⟨.entry index (some q.name), defect⟩
      | .ok decision => do
          let others ← enabledFrom fs (index + 1) rest
          return if decision.isIncluded then q :: others else others

/-- The included queries, in order; the first contradiction is an error. -/
def enabledQueries (fs : Features) (qs : List Query) : Except DefinitionError (List Query) :=
  enabledFrom fs 0 qs

end QueryHeaders
