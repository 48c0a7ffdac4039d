import QueryHeaders.Decimal.Binary64

/-!
JSON values.

The members of an object stand in the order of their names, by code points, and each name stands
once: `ofMembers` builds such an object, the later of two members of one name winning. A whole
number keeps its exact value; every other number is a floating point number.
-/
namespace QueryHeaders

inductive Json where
  | null
  | bool (b : Bool)
  | int (n : Int)
  | float (x : Binary64)
  | string (s : String)
  | array (items : List Json)
  | object (members : List (String × Json))
  deriving Inhabited, Repr

namespace Json

/-- Puts a member in its place, over an earlier one of its name. -/
def insertMember (name : String) (value : Json) :
    List (String × Json) → List (String × Json)
  | [] => [(name, value)]
  | (other, v) :: rest =>
      if name < other then (name, value) :: (other, v) :: rest
      else if name = other then (name, value) :: rest
      else (other, v) :: insertMember name value rest

/-- The object of these members. -/
def ofMembers (members : List (String × Json)) : Json :=
  .object (members.foldl (fun sorted (name, value) => insertMember name value sorted) [])

/-- The member of a name. -/
def member? (name : String) : Json → Option Json
  | .object members => members.lookup name
  | _ => none

end Json

end QueryHeaders
