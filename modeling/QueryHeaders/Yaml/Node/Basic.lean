import QueryHeaders.Yaml.Token.Basic

/-!
Nodes: the tree of a document before it is given a meaning.

`ρ` is how anchors and aliases are referred to: by name as they are written, by number once each
alias has been tied to its anchor.
-/
namespace QueryHeaders.Yaml

/-- A tag with its handle replaced. -/
abbrev Tag := List UInt8

inductive Node (ρ : Type) where
  | alias (target : ρ)
  | scalar (anchor : Option ρ) (tag : Option Tag) (text : String) (style : ScalarStyle)
  | sequence (anchor : Option ρ) (tag : Option Tag) (items : List (Node ρ))
  | mapping (anchor : Option ρ) (tag : Option Tag) (pairs : List (Node ρ × Node ρ))

namespace Node

variable {ρ : Type}

/-- The node where nothing is written. -/
def empty : Node ρ := .scalar none none "" .plain

mutual
/-- The number of events that announce a node: one for a leaf, and one for each end of a
collection. -/
def events : Node ρ → Nat
  | .alias _ => 1
  | .scalar .. => 1
  | .sequence _ _ items => itemEvents items + 2
  | .mapping _ _ pairs => pairEvents pairs + 2

def itemEvents : List (Node ρ) → Nat
  | [] => 0
  | n :: rest => n.events + itemEvents rest

def pairEvents : List (Node ρ × Node ρ) → Nat
  | [] => 0
  | (k, v) :: rest => k.events + v.events + pairEvents rest
end

/-- How deep collections may be nested. -/
def maxDepth : Nat := 128

end Node

end QueryHeaders.Yaml
