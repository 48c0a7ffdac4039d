import QueryHeaders.Json.Basic
import QueryHeaders.Query.Defect
import QueryHeaders.Text.Blank
import QueryHeaders.Text.Case
import QueryHeaders.Text.Identifier

/-!
Normalization: from a definitions document to queries.

Every field is read on its own: an absent field and a null field are the same, text is trimmed, and
fields that are not read may hold anything. The first defect stops the reading of an entry, and the
first entry with a defect, its own or a name that an earlier entry has, stops the whole.
-/
namespace QueryHeaders

abbrev Members := List (String × Json)

/-- A field that holds something; a null field holds nothing. -/
def field? (members : Members) (name : String) : Option Json :=
  match members.lookup name with
  | some .null => none
  | found => found

def optionalString (members : Members) (name : String) : Except Defect (Option String) :=
  match field? members name with
  | none => .ok none
  | some (.string s) => .ok (some s)
  | some _ => .error (.invalidFieldType name .string)

def optionalBool (members : Members) (name : String) : Except Defect (Option Bool) :=
  match field? members name with
  | none => .ok none
  | some (.bool b) => .ok (some b)
  | some _ => .error (.invalidFieldType name .boolean)

/-- The trimmed text of a field, empty if there is none. -/
def trimmedString (members : Members) (name : String) : Except Defect String := do
  return Text.trim ((← optionalString members name).getD "")

/-- Text for one line of a generated file: it must hold no control character. -/
def requireOneLine (field value : String) : Except Defect Unit :=
  if Text.hasControl value then .error (.controlCharacter field) else .ok ()

/-! ## Fields of an entry -/

/-- The category that `metadata` states, in lower case; empty if it states none. -/
def statedCategory (members : Members) : Except Defect String :=
  match field? members "metadata" with
  | none => .ok ""
  | some (.object metadata) => do return Text.lowercase (← trimmedString metadata "category")
  | some _ => .error (.invalidFieldType "metadata" .mapping)

/-- The category of `metadata`, or else the one that the name suggests. -/
def categoryOf (members : Members) (queryName : String) : Except Defect Category := do
  let stated ← statedCategory members
  if stated.isEmpty then return .infer queryName
  else
    match Category.ofName? stated with
    | some category => return category
    | none => throw (.invalidCategory stated)

def parameterField (members : Members) (position : Nat) (name : String) :
    Except Defect String :=
  match trimmedString members name with
  | .ok s => .ok s
  | .error _ =>
      .error (.invalidFieldType ("parameters[" ++ toString position ++ "]." ++ name) .string)

def parameterOf (position : Nat) : Json → Except Defect Parameter
  | .object members => do
      let type ← parameterField members position "type"
      let name ← parameterField members position "name"
      if type.isEmpty || name.isEmpty then throw (.invalidParameter position)
      requireOneLine ("parameters[" ++ toString position ++ "].type") type
      if !Text.isIdentifier name then throw (.invalidParameterName position name)
      return { type, name }
  | _ => .error (.invalidParameter position)

/-- The parameters of a list whose first item has the given position. -/
def parametersFrom (position : Nat) : List Json → Except Defect (List Parameter)
  | [] => .ok []
  | item :: rest => do
      let p ← parameterOf position item
      return p :: (← parametersFrom (position + 1) rest)

def parametersOf (members : Members) : Except Defect (List Parameter) :=
  match field? members "parameters" with
  | none => .ok []
  | some (.array items) => parametersFrom 0 items
  | some _ => .error (.invalidFieldType "parameters" .list)

def tokenOf (members : Members) : Except Defect Authentication := do
  let envVar ← trimmedString members "env_var"
  let required := (← optionalBool members "required").getD true
  return { envVar, keyBehavior := if required then .required else .optional }

/-- No authentication is spelled by an absent type, an empty one, or `none`. -/
def authenticationOf (members : Members) : Except Defect (Option Authentication) :=
  match field? members "authentication" with
  | none => .ok none
  | some (.object auth) => do
      let type := Text.uppercase (← trimmedString auth "type")
      if type = "" ∨ type = "NONE" then return none
      else if type = "TOKEN" then return some (← tokenOf auth)
      else throw (.unsupportedAuthType type)
  | some _ => .error (.invalidFieldType "authentication" .mapping)

/-! ## Entries and documents -/

/-- The fields of an entry whose name is known. -/
def Query.ofFields (name : String) (members : Members) : Except Defect Query := do
  let category ← categoryOf members name
  let enabled := (← optionalBool members "enabled").getD true
  let returnType ← trimmedString members "return_type"
  requireOneLine "return_type" returnType
  let parameters ← parametersOf members
  let authentication ← authenticationOf members
  return { name, returnType, parameters, category, authentication, enabled }

/-- The query of the entry at a position of the list. -/
def Query.ofEntry (index : Nat) : Json → Except DefinitionError Query
  | .object members =>
      match trimmedString members "name" with
      | .error defect => .error ⟨.entry index none, defect⟩
      | .ok name =>
          if name.isEmpty then .error ⟨.entry index none, .missingName⟩
          else if !Text.isIdentifier name then
            .error ⟨.entry index (some name), .invalidName name⟩
          else
            match Query.ofFields name members with
            | .error defect => .error ⟨.entry index (some name), defect⟩
            | .ok query => .ok query
  | _ => .error ⟨.entry index none, .entryNotMapping⟩

/-- The queries of the entries from a position on; `seen` holds the earlier names and where they
stand. -/
def Query.ofEntries (seen : List (String × Nat)) (index : Nat) :
    List Json → Except DefinitionError (List Query)
  | [] => .ok []
  | entry :: rest => do
      let query ← Query.ofEntry index entry
      match seen.lookup query.name with
      | some first =>
          throw ⟨.entry index (some query.name), .duplicateName query.name first⟩
      | none => return query :: (← Query.ofEntries ((query.name, index) :: seen) (index + 1) rest)

/-- The queries of a definitions document. -/
def Query.ofDocument : Json → Except DefinitionError (List Query)
  | .object members =>
      match field? members "queries" with
      | none => .ok []
      | some (.array entries) => Query.ofEntries [] 0 entries
      | some _ => .error ⟨.document, .queriesNotList⟩
  | _ => .error ⟨.document, .rootNotMapping⟩

end QueryHeaders
