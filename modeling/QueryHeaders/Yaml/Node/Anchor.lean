import QueryHeaders.Yaml.Node.Basic

/-!
Anchors: tying every alias to the node it stands for.

Anchors are numbered in the order of the document by the count of distinct names before them, and
an alias has the number that its name has at that point. The node of a number is the last one that
was given it. So a name that is used once means one node throughout; a name that is used again takes
the number of the next new name.
-/
namespace QueryHeaders.Yaml

/-- The names so far, the latest first, and the number of distinct ones. -/
structure AnchorNames where
  numbers : List (String × Nat) := []
  count : Nat := 0

namespace AnchorNames

/-- Gives the next number to a name. -/
def add (name : String) (a : AnchorNames) : Nat × AnchorNames :=
  (a.count,
    { numbers := (name, a.count) :: a.numbers
      count := if (a.numbers.lookup name).isSome then a.count else a.count + 1 })

def addOption (name : Option String) (a : AnchorNames) : Option Nat × AnchorNames :=
  match name with
  | none => (none, a)
  | some name =>
      let (n, a) := a.add name
      (some n, a)

end AnchorNames

namespace Node

mutual
/-- Numbers the anchors and aliases of a node. -/
def number (a : AnchorNames) : Node String → Except Error (Node Nat × AnchorNames)
  | .alias name =>
      match a.numbers.lookup name with
      | some n => .ok (.alias n, a)
      | none => .error ⟨.unknownAnchor, none⟩
  | .scalar anchor tag text style =>
      let (anchor, a) := a.addOption anchor
      .ok (.scalar anchor tag text style, a)
  | .sequence anchor tag items =>
      let (anchor, a) := a.addOption anchor
      match numberItems a items with
      | .error e => .error e
      | .ok (items, a) => .ok (.sequence anchor tag items, a)
  | .mapping anchor tag pairs =>
      let (anchor, a) := a.addOption anchor
      match numberPairs a pairs with
      | .error e => .error e
      | .ok (pairs, a) => .ok (.mapping anchor tag pairs, a)

def numberItems (a : AnchorNames) :
    List (Node String) → Except Error (List (Node Nat) × AnchorNames)
  | [] => .ok ([], a)
  | n :: rest => do
      let (n, a) ← n.number a
      let (rest, a) ← numberItems a rest
      return (n :: rest, a)

def numberPairs (a : AnchorNames) :
    List (Node String × Node String) → Except Error (List (Node Nat × Node Nat) × AnchorNames)
  | [] => .ok ([], a)
  | (k, v) :: rest => do
      let (k, a) ← k.number a
      let (v, a) ← v.number a
      let (rest, a) ← numberPairs a rest
      return ((k, v) :: rest, a)
end

mutual
/-- The anchored nodes with their numbers, in the order of the document. -/
def anchored : Node Nat → List (Nat × Node Nat)
  | .alias _ => []
  | .scalar anchor tag text style => anchor.toList.map fun n => (n, .scalar anchor tag text style)
  | .sequence anchor tag items =>
      anchor.toList.map (fun n => (n, .sequence anchor tag items)) ++ anchoredItems items
  | .mapping anchor tag pairs =>
      anchor.toList.map (fun n => (n, .mapping anchor tag pairs)) ++ anchoredPairs pairs

def anchoredItems : List (Node Nat) → List (Nat × Node Nat)
  | [] => []
  | n :: rest => n.anchored ++ anchoredItems rest

def anchoredPairs : List (Node Nat × Node Nat) → List (Nat × Node Nat)
  | [] => []
  | (k, v) :: rest => k.anchored ++ v.anchored ++ anchoredPairs rest
end

end Node

end QueryHeaders.Yaml
