import QueryHeaders.Yaml.Node.Document
import QueryHeaders.Yaml.Token.Stream
import QueryHeaders.Yaml.Value.Merge
import QueryHeaders.Yaml.Value.OfNode

/-!
Streams: the documents of a text.

A document is read and its merge keys are replaced before the next one is looked at, so the first
thing that is wrong in the order of the documents is the error of the stream. A text without
documents counts as one that holds null.
-/
namespace QueryHeaders.Yaml

/-- Why a text has no documents. -/
inductive StreamProblem where
  | unreadable (error : Error)
  | merge (problem : MergeProblem)
  deriving DecidableEq, Repr

def StreamProblem.message : StreamProblem → String
  | .unreadable e => e.message
  | .merge p => p.message

def documentValue (root : NamedNode) : Except StreamProblem Value :=
  match Value.ofRoot root with
  | .error e => .error (.unreadable e)
  | .ok v =>
      match v.merged with
      | .error p => .error (.merge p)
      | .ok v => .ok v

/-- The documents of the tokens; the fuel bounds the number of documents. -/
def documentsFrom (first : Bool) : (fuel : Nat) → List Token → Except StreamProblem (List Value)
  | 0, _ => .ok []
  | fuel + 1, ts =>
      match readDocument first ts with
      | .error e => .error (.unreadable e)
      | .ok none => .ok []
      | .ok (some (root, rest)) => do
          let v ← documentValue root
          return v :: (← documentsFrom false fuel rest)

/-- The documents of a text. -/
def documents (text : String) : Except StreamProblem (List Value) := do
  let ts := tokens text.toList
  match ← documentsFrom true (ts.length + 1) ts with
  | [] => return [.null]
  | vs => return vs

end QueryHeaders.Yaml
