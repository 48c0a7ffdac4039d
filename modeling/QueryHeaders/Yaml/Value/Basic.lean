import QueryHeaders.Decimal.Binary64

/-!
Values: what a document means.

A mapping keeps the order of its document and holds each key once. Two keys are the same if they
mean the same value: text is compared by its characters, a whole number is never the same as a
floating point number, and mappings are compared without regard to order.
-/
namespace QueryHeaders.Yaml

inductive Value where
  | null
  | bool (b : Bool)
  | int (n : Int)
  | float (x : Binary64)
  | string (s : String)
  | sequence (items : List Value)
  | mapping (pairs : List (Value × Value))
  | tagged (tag : String) (value : Value)
  deriving Inhabited, Repr

namespace Value

mutual
/-- Whether two values are the same. -/
def same : Value → Value → Bool
  | .null, .null => true
  | .bool a, .bool b => a == b
  | .int a, .int b => a == b
  | .float a, .float b => a.same b
  | .string a, .string b => a == b
  | .sequence as, .sequence bs => sameItems as bs
  | .mapping as, .mapping bs => as.length == bs.length && samePairs as bs
  | .tagged t a, .tagged u b => t == u && a.same b
  | _, _ => false

def sameItems : List Value → List Value → Bool
  | [], [] => true
  | a :: as, b :: bs => a.same b && sameItems as bs
  | _, _ => false

/-- Whether each of the first pairs is among the second. -/
def samePairs : List (Value × Value) → List (Value × Value) → Bool
  | [], _ => true
  | (k, v) :: rest, bs => bs.any (fun (l, w) => k.same l && v.same w) && samePairs rest bs
end

/-- Whether a key stands among the pairs. -/
def hasKey (pairs : List (Value × Value)) (key : Value) : Bool :=
  pairs.any fun (k, _) => k.same key

mutual
/-- How deep values are nested in a value. -/
def height : Value → Nat
  | .sequence items => heightItems items + 1
  | .mapping pairs => heightPairs pairs + 1
  | .tagged _ v => v.height + 1
  | _ => 0

def heightItems : List Value → Nat
  | [] => 0
  | v :: rest => max v.height (heightItems rest)

def heightPairs : List (Value × Value) → Nat
  | [] => 0
  | (_, v) :: rest => max v.height (heightPairs rest)
end

end Value

end QueryHeaders.Yaml
