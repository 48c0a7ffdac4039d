import QueryHeaders.Yaml.Value.Basic

/-!
Merge keys.

The value of a key `<<` is a mapping, or a list of mappings, whose pairs are added to the mapping
around unless it has their keys; of several mappings the earlier ones win. The last pair of the
mapping takes the place of the merge key. A merge key that is itself added by a merge stays a key.

A mapping is merged before the values in it are looked at, and these are looked at last to first.
-/
namespace QueryHeaders.Yaml

inductive MergeProblem where
  /-- The value is neither a mapping nor a list. -/
  | scalar
  /-- An item of the list is neither a mapping nor a list. -/
  | scalarItem
  /-- An item of the list is a list. -/
  | listItem
  /-- The value or an item is tagged. -/
  | tagged
  deriving DecidableEq, Repr

def MergeProblem.message : MergeProblem → String
  | .scalar => "expected a mapping or list of mappings for merging, but found scalar"
  | .scalarItem => "expected a mapping for merging, but found scalar"
  | .listItem => "expected a mapping for merging, but found sequence"
  | .tagged => "unexpected tagged value in merge"

namespace Value

abbrev Pairs := List (Value × Value)

def mergeKey : Value := .string "<<"

/-- Adds a pair at the end, unless its key is there. -/
def addMissing (pairs : Pairs) (p : Value × Value) : Pairs :=
  if hasKey pairs p.1 then pairs else pairs ++ [p]

/-- Takes a key out; the last pair moves to its place. -/
def takeOut? (key : Value) : Pairs → Option (Value × Pairs)
  | [] => none
  | (k, v) :: rest =>
      if k.same key then
        match rest.getLast? with
        | none => some (v, [])
        | some last => some (v, last :: rest.dropLast)
      else (takeOut? key rest).map fun (found, others) => (found, (k, v) :: others)

def mergeItems (pairs : Pairs) : List Value → Except MergeProblem Pairs
  | [] => .ok pairs
  | .mapping ps :: rest => mergeItems (ps.foldl addMissing pairs) rest
  | .sequence _ :: _ => .error .listItem
  | .tagged .. :: _ => .error .tagged
  | _ :: _ => .error .scalarItem

/-- Replaces the merge key of one mapping. -/
def mergeOnce (pairs : Pairs) : Except MergeProblem Pairs :=
  match takeOut? mergeKey pairs with
  | none => .ok pairs
  | some (.mapping ps, others) => .ok (ps.foldl addMissing others)
  | some (.sequence items, others) => mergeItems others items
  | some (.tagged .., _) => .error .tagged
  | some _ => .error .scalar

def mapItemsM (f : Value → Except MergeProblem Value) : List Value → Except MergeProblem (List Value)
  | [] => .ok []
  | v :: rest => do
      let rest ← mapItemsM f rest
      return (← f v) :: rest

def mapValuesM (f : Value → Except MergeProblem Value) : Pairs → Except MergeProblem Pairs
  | [] => .ok []
  | (k, v) :: rest => do
      let rest ← mapValuesM f rest
      return (k, ← f v) :: rest

/-- Replaces all merge keys of a value of at most this height. -/
def mergeWithin : (height : Nat) → Value → Except MergeProblem Value
  | 0, v => .ok v
  | h + 1, v =>
      match v with
      | .mapping pairs => do return .mapping (← mapValuesM (mergeWithin h) (← mergeOnce pairs))
      | .sequence items => do return .sequence (← mapItemsM (mergeWithin h) items)
      | .tagged tag v => do return .tagged tag (← mergeWithin h v)
      | v => .ok v

/-- Replaces all merge keys. -/
def merged (v : Value) : Except MergeProblem Value := mergeWithin v.height v

end Value

end QueryHeaders.Yaml
