import QueryHeaders.Yaml.Node.Anchor
import QueryHeaders.Yaml.Value.Plain

/-!
From nodes to values.

An alias stands for a copy of the value of its anchor. Collections count towards the depth limit
also where an alias brings them in, and the number of copies is limited by the size of the
document; so an alias within its own anchor is an error.
-/
namespace QueryHeaders.Yaml.Value

/-- The nodes that aliases stand for, and how many copies may still be made. -/
structure Copies where
  targets : List (Nat × Node Nat)
  left : Nat

/-- The node itself, or the one that it stands for, and the number of copies left. -/
def target (c : Copies) : Node Nat → Except Error (Node Nat × Copies)
  | .alias n =>
      match c.left, c.targets.lookup n with
      | left + 1, some node => .ok (node, { c with left })
      | 0, _ => .error ⟨.tooManyAliases, none⟩
      | _, none => .error ⟨.unknownAnchor, none⟩
  | node => .ok (node, c)

abbrev Reader (α : Type) := α → Copies → Except Error (Value × Copies)

/-- Reads the items of a sequence. -/
def ofItems (read : Reader (Node Nat)) :
    List (Node Nat) → Copies → Except Error (List Value × Copies)
  | [], c => .ok ([], c)
  | n :: rest, c => do
      let (v, c) ← read n c
      let (vs, c) ← ofItems read rest c
      return (v :: vs, c)

/-- Reads the pairs of a mapping; `before` are the pairs before them, the latest first. -/
def ofPairs (read : Reader (Node Nat)) (before : List (Value × Value)) :
    List (Node Nat × Node Nat) → Copies → Except Error (List (Value × Value) × Copies)
  | [], c => .ok (before.reverse, c)
  | (k, v) :: rest, c => do
      let (k, c) ← read k c
      if hasKey before k then throw ⟨.duplicateKey, none⟩
      let (v, c) ← read v c
      ofPairs read ((k, v) :: before) rest c

def ofTag (tag : Option Tag) (v : Value) : Value :=
  match Plain.ownTag? tag with
  | some name => .tagged name v
  | none => v

/-- The value of a node below which collections may be nested `depth` deep. -/
def ofNode (depth : Nat) (n : Node Nat) (c : Copies) : Except Error (Value × Copies) := do
  let (n, c) ← target c n
  match n with
  | .alias _ => throw ⟨.unknownAnchor, none⟩
  | .scalar _ tag text style =>
      let tag := if (Plain.ownTag? tag).isSome then (none, tag) else (tag, none)
      return (ofTag tag.2 (← Plain.scalarValue tag.1 text style), c)
  | .sequence _ tag items =>
      match depth with
      | 0 => throw ⟨.nestedTooDeeply, none⟩
      | depth + 1 =>
          let (vs, c) ← ofItems (ofNode depth) items c
          return (ofTag tag (.sequence vs), c)
  | .mapping _ tag pairs =>
      match depth with
      | 0 => throw ⟨.nestedTooDeeply, none⟩
      | depth + 1 =>
          let (ps, c) ← ofPairs (ofNode depth) [] pairs c
          return (ofTag tag (.mapping ps), c)

/-- The value of the root of a document. -/
def ofRoot (root : Node String) : Except Error Value := do
  let (root, _) ← root.number {}
  let (v, _) ← ofNode Node.maxDepth root ⟨root.anchored.reverse, root.events * 100⟩
  return v

end QueryHeaders.Yaml.Value
