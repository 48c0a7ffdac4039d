import QueryHeaders.Json.Pointer
import QueryHeaders.Json.Text
import QueryHeaders.Schema.Basic
import QueryHeaders.Schema.PatternText

/-!
Schemas from JSON.

A schema is a boolean or an object. The members of an object that name a constraint must have a
value that the constraint allows. A schema with a constraint that cannot be checked here is refused,
unless it stands beside a reference that makes up its whole object. All other members are ignored.
References are pointers into the schema's own document. What they lead to is read once for each
pointer, and so are the references found there.
-/
namespace QueryHeaders.Schema

/-- Why a JSON value is no schema. -/
inductive Defect where
  | notSchema (v : Json)
  | keyword (name : String) (v : Json)
  | unsupported (name : String)
  | pattern (text : String)
  | dialect (name : String)
  | danglingReference (pointer : String)
  | externalReference (reference : String)

namespace Defect

def message : Defect → String
  | .notSchema v => v.text ++ " is not a boolean or an object"
  | .keyword name v => v.text ++ " is not a valid value of " ++ Json.quote name
  | .unsupported name => "Constraint " ++ Json.quote name ++ " is not supported"
  | .pattern text => Json.quote text ++ " is not a pattern"
  | .dialect name => "Unknown specification: " ++ name
  | .danglingReference pointer => "Pointer '" ++ pointer ++ "' does not exist"
  | .externalReference reference => "Resource '" ++ reference ++ "' is not present"

end Defect

/-- Whether a reference stands for its whole object, or for one constraint among others. -/
inductive Dialect where
  | referenceAlone
  | referenceBeside
  deriving DecidableEq, Repr

/-- The names of the known dialects, in their pieces between slashes. -/
def dialects : List (List String × Dialect) :=
  let host := "json-schema.org"
  [(["http:", "", host, "draft-04", "schema"], .referenceAlone),
   (["http:", "", host, "draft-06", "schema"], .referenceAlone),
   (["http:", "", host, "draft-07", "schema"], .referenceAlone),
   (["https:", "", host, "draft", "2019-09", "schema"], .referenceBeside),
   (["https:", "", host, "draft", "2020-12", "schema"], .referenceBeside)]

/-- The dialect that a document names, an empty fragment at the end of the name not counted. A
document that names none takes a reference for one constraint among others. -/
def dialectOf (v : Json) : Except Defect Dialect :=
  match v.member? "$schema" with
  | some (.string name) =>
      let bare := (name.toList.reverse.dropWhile (· == '#')).reverse
      match dialects.lookup ((Text.pieces '/' bare).map String.ofList) with
      | some d => .ok d
      | none => .error (.dialect name)
  | _ => .ok .referenceBeside

/-- The names of the constraints that cannot be checked, in every dialect. -/
def unsupportedNames : List String :=
  ["$dynamicRef", "$recursiveRef", "additionalItems", "allOf", "anyOf", "const", "contains",
    "dependencies", "dependentRequired", "dependentSchemas", "enum", "exclusiveMaximum",
    "exclusiveMinimum", "if", "maxItems", "maxLength", "maxProperties", "maximum", "minItems",
    "minProperties", "minimum", "multipleOf", "not", "oneOf", "patternProperties", "prefixItems",
    "propertyNames", "unevaluatedItems", "unevaluatedProperties", "uniqueItems"]

/-- The names of those that inform about a value, without constraining it, in the later dialects. -/
def formatNames : List String := ["contentEncoding", "contentMediaType", "format"]

/-- Whether a name is that of a constraint that cannot be checked. -/
def isUnsupported (dialect : Dialect) (name : String) : Bool :=
  unsupportedNames.contains name || (dialect = .referenceAlone && formatNames.contains name)

/-- The constraints of one object. -/
structure Constraints where
  reference : Option String := none
  types : List TypeName := []
  required : List String := []
  properties : Option (List (String × Rule)) := none
  additional : Option Rule := none
  items : Option Rule := none
  pattern : Option NamedPattern := none
  minLength : Option Nat := none
  /-- The first constraint that cannot be checked. -/
  unsupported : Option String := none

namespace Constraints

def ownRule (c : Constraints) : Rule :=
  .constraints c.types c.required c.properties c.additional c.items c.pattern c.minLength

def rule (dialect : Dialect) (c : Constraints) : Except Defect Rule :=
  match c.reference, dialect, c.unsupported with
  | some pointer, .referenceAlone, _ => .ok (.reference pointer .everything)
  | _, _, some name => .error (.unsupported name)
  | none, _, none => .ok c.ownRule
  | some pointer, .referenceBeside, none => .ok (.reference pointer c.ownRule)

end Constraints

/-! ## Values of single constraints -/

/-- Strings, each of them once. -/
def distinctStrings? : List Json → Option (List String)
  | [] => some []
  | .string s :: rest => do
      let more ← distinctStrings? rest
      if more.contains s then none else some (s :: more)
  | _ => none

/-- One type or several; several are kept in the order of their names. -/
def types? : Json → Option (List TypeName)
  | .string s => (TypeName.ofName? s).map ([·])
  | .array vs => do
      let names ← distinctStrings? vs
      if names.isEmpty then none
      else do
        let types ← names.mapM TypeName.ofName?
        return TypeName.all.filter types.contains
  | _ => none

def names? : Json → Option (List String)
  | .array vs => distinctStrings? vs
  | _ => none

/-- A length; it may be written with an empty fraction. -/
def length? : Json → Option Nat
  | .int n => if 0 ≤ n then some n.toNat else none
  | .float x => x.toNat?
  | _ => none

def string? : Json → Option String
  | .string s => some s
  | _ => none

/-- Reads the value of a constraint, and names the constraint if the value does not fit it. -/
def valueOf {α : Type} (read : Json → Option α) (name : String) (v : Json) : Except Defect α :=
  match read v with
  | some a => .ok a
  | none => .error (.keyword name v)

def readPattern (v : Json) : Except Defect NamedPattern := do
  let text ← valueOf string? "pattern" v
  match Pattern.ofText? text with
  | some p => return ⟨text, p⟩
  | none => throw (.pattern text)

/-- A reference, less the mark of a fragment. -/
def readReference (v : Json) : Except Defect String := do
  let text ← valueOf string? "$ref" v
  match text.toList with
  | '#' :: rest => return String.ofList rest
  | _ => throw (.externalReference text)

/-- Takes up a constraint whose value holds no schema. -/
def takePlain (dialect : Dialect) (c : Constraints) (name : String) (v : Json) :
    Except Defect Constraints :=
  match name with
  | "$ref" => return { c with reference := some (← readReference v) }
  | "type" => return { c with types := ← valueOf types? name v }
  | "required" => return { c with required := ← valueOf names? name v }
  | "pattern" => return { c with pattern := some (← readPattern v) }
  | "minLength" => return { c with minLength := some (← valueOf length? name v) }
  | "$schema" | "$id" | "$comment" | "title" | "description" => do
      let _ ← valueOf string? name v
      return c
  | _ =>
      if isUnsupported dialect name then
        return { c with unsupported := c.unsupported <|> some name }
      else return c

/-! ## Rules -/

mutual
/-- The rule of a schema. -/
def readRule (dialect : Dialect) : Json → Except Defect Rule
  | .bool true => .ok .everything
  | .bool false => .ok .nothing
  | .object members => do
      let c ← readConstraints dialect {} members
      c.rule dialect
  | v => .error (.notSchema v)

/-- Takes up the members of an object, one after the other. -/
def readConstraints (dialect : Dialect) (c : Constraints) :
    List (String × Json) → Except Defect Constraints
  | [] => .ok c
  | (name, v) :: rest => do
      let c ←
        match name with
        | "properties" => do
            let rules ← readRules dialect name v
            pure { c with properties := some rules }
        | "definitions" | "$defs" => do
            let _ ← readRules dialect name v
            pure c
        | "additionalProperties" => do
            let rule ← readRule dialect v
            pure { c with additional := some rule }
        | "items" => do
            let rule ← readRule dialect v
            pure { c with items := some rule }
        | _ => takePlain dialect c name v
      readConstraints dialect c rest

/-- The rules of an object that names them. -/
def readRules (dialect : Dialect) (name : String) : Json → Except Defect (List (String × Rule))
  | .object members => readNamed dialect members
  | v => .error (.keyword name v)

def readNamed (dialect : Dialect) : List (String × Json) → Except Defect (List (String × Rule))
  | [] => .ok []
  | (name, v) :: rest => do
      let rule ← readRule dialect v
      let more ← readNamed dialect rest
      return (name, rule) :: more
end

/-! ## References -/

mutual
/-- The pointers of the references in a rule. -/
def pointers : Rule → List String
  | .everything | .nothing => []
  | .reference pointer beside => pointer :: pointers beside
  | .constraints _ _ properties additional items _ _ =>
      propertiesPointers properties ++ optionalPointers additional ++ optionalPointers items

def propertiesPointers : Option (List (String × Rule)) → List String
  | none => []
  | some rules => namedPointers rules

def namedPointers : List (String × Rule) → List String
  | [] => []
  | (_, rule) :: rest => pointers rule ++ namedPointers rest

def optionalPointers : Option Rule → List String
  | none => []
  | some rule => pointers rule
end

/-- Reads what the pending pointers lead to, and so on with the pointers found there, beside what
has been read. -/
def readTargets (document : Json) (dialect : Dialect) :
    (fuel : Nat) → (read : List (String × Rule)) → (pending : List String) →
    Except Defect (List (String × Rule))
  | 0, read, _ => .ok read
  | _ + 1, read, [] => .ok read
  | fuel + 1, read, pointer :: rest =>
      if (read.lookup pointer).isSome then readTargets document dialect fuel read rest
      else
        match Json.Pointer.lookup (Json.Pointer.steps pointer) document with
        | none => .error (.danglingReference pointer)
        | some v => do
            let rule ← readRule dialect v
            readTargets document dialect fuel ((pointer, rule) :: read) (pointers rule ++ rest)

end QueryHeaders.Schema

namespace QueryHeaders

/-- The schema that a JSON document describes. Its text is longer than the document has references,
and each of them is met at most once for the root and for each target. -/
def Schema.ofJson (document : Json) : Except Schema.Defect Schema := do
  let dialect ← Schema.dialectOf document
  let root ← Schema.readRule dialect document
  let length := document.text.length
  let targets ←
    Schema.readTargets document dialect ((length + 1) * (length + 1)) [] (Schema.pointers root)
  return ⟨root, targets⟩

end QueryHeaders
