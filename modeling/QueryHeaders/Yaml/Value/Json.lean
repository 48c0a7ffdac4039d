import QueryHeaders.Json.Text
import QueryHeaders.Yaml.Value.Basic

/-!
Values as JSON.

Keys become names: text stays, truth values and numbers become their text, and there is no name for
anything else. Two keys of one name make one member, the later one. A number that is not finite
becomes null, and a tagged value an object with the tag as its only name.
-/
namespace QueryHeaders.Yaml

inductive KeyProblem where
  | notText
  | notFinite
  deriving DecidableEq, Repr

def KeyProblem.message : KeyProblem → String
  | .notText => "key must be a string"
  | .notFinite => "float key must be finite (got NaN or +/-inf)"

namespace Value

def keyName : Value → Except KeyProblem String
  | .string s => .ok s
  | .bool b => .ok (if b then "true" else "false")
  | .int n => .ok (toString n)
  | .float x =>
      if x.isFinite then .ok (String.ofList (Json.floatChars x)) else .error .notFinite
  | _ => .error .notText

/-- The text of a tag, with its mark. -/
def tagText (tag : String) : String := "!" ++ tag

mutual
def toJson : Value → Except KeyProblem Json
  | .null => .ok .null
  | .bool b => .ok (.bool b)
  | .int n => .ok (.int n)
  | .float x => .ok (if x.isFinite then .float x else .null)
  | .string s => .ok (.string s)
  | .sequence items => do return .array (← itemsToJson items)
  | .mapping pairs => do return Json.ofMembers (← pairsToJson pairs)
  | .tagged tag v => do return .object [(tagText tag, ← v.toJson)]

def itemsToJson : List Value → Except KeyProblem (List Json)
  | [] => .ok []
  | v :: rest => do
      let v ← v.toJson
      return v :: (← itemsToJson rest)

def pairsToJson : List (Value × Value) → Except KeyProblem (List (String × Json))
  | [] => .ok []
  | (k, v) :: rest => do
      let name ← k.keyName
      let v ← v.toJson
      return (name, v) :: (← pairsToJson rest)
end

end Value

end QueryHeaders.Yaml
