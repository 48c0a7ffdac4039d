import QueryHeaders.Json.Basic
import QueryHeaders.Schema.Pattern

/-!
JSON schemas.

A schema admits everything, admits nothing, refers to another one, or constrains values. Every
constraint concerns values of one type only and is met by all others. What a reference leads to is
kept in a list, by the pointer to it.
-/
namespace QueryHeaders.Schema

inductive TypeName where
  | array
  | boolean
  | integer
  | null
  | number
  | object
  | string
  deriving DecidableEq, Repr

namespace TypeName

/-- The types in the order of their names. -/
def all : List TypeName := [.array, .boolean, .integer, .null, .number, .object, .string]

def name : TypeName → String
  | .array => "array"
  | .boolean => "boolean"
  | .integer => "integer"
  | .null => "null"
  | .number => "number"
  | .object => "object"
  | .string => "string"

def ofName? (s : String) : Option TypeName := all.find? (·.name = s)

/-- Whether a value is of a type; a number without fractional part is an integer. -/
def admits : TypeName → Json → Bool
  | .null, .null => true
  | .boolean, .bool _ => true
  | .integer, .int _ => true
  | .integer, .float x => x.isIntegral
  | .number, .int _ => true
  | .number, .float _ => true
  | .string, .string _ => true
  | .array, .array _ => true
  | .object, .object _ => true
  | _, _ => false

end TypeName

/-- A pattern and the text that it was written as. -/
structure NamedPattern where
  text : String
  pattern : Pattern
  deriving Repr

inductive Rule where
  | everything
  | nothing
  /-- A value meets what the pointer leads to and what stands beside the reference. -/
  | reference (pointer : String) (beside : Rule)
  /-- `properties` are the rules of known names, `additional` the rule of all others. -/
  | constraints (types : List TypeName) (required : List String)
      (properties : Option (List (String × Rule))) (additional : Option Rule)
      (items : Option Rule) (pattern : Option NamedPattern) (minLength : Option Nat)
  deriving Inhabited, Repr

end QueryHeaders.Schema

namespace QueryHeaders

structure Schema where
  root : Schema.Rule
  /-- What the references of the schema lead to. -/
  targets : List (String × Schema.Rule) := []
  deriving Inhabited, Repr

end QueryHeaders
