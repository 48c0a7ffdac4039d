import QueryHeaders.Json.Pointer
import QueryHeaders.Json.Text
import QueryHeaders.Schema.Basic

/-!
Checking a value against a schema.

A check finds every constraint that a value breaks, those of a value before those of what is inside
it only as the order of the keywords has it: the constraints of one schema come in the order of
their names, and what concerns the members of an object comes in the order of the members. Both
where the value stands and which constraint it breaks are given as pointers.
-/
namespace QueryHeaders.Schema

/-- One broken constraint. -/
structure Finding where
  message : String
  /-- The value that breaks it. -/
  value : Json
  /-- The pointer to the value. -/
  valuePointer : String
  /-- The pointer to the constraint, through references. -/
  rulePointer : String
  deriving Repr

/-- The paths walked so far, in the value and in the schema. -/
structure Trail where
  value : List String := []
  rule : List String := []

namespace Trail

def intoValue (step : String) (t : Trail) : Trail := { t with value := t.value ++ [step] }

def intoRule (steps : List String) (t : Trail) : Trail := { t with rule := t.rule ++ steps }

def finding (t : Trail) (keyword : List String) (v : Json) (message : String) : Finding where
  message := message
  value := v
  valuePointer := Json.Pointer.ofSteps t.value
  rulePointer := Json.Pointer.ofSteps (t.rule ++ keyword)

end Trail

/-- The rules that a rule comes to, each with the steps through its references. At most `fuel`
references in a row are followed; a longer row never ends and constrains nothing. -/
def resolve (targets : List (String × Rule)) : (fuel : Nat) → Rule → List (List String × Rule)
  | 0, _ => []
  | fuel + 1, .reference pointer beside =>
      ((resolve targets fuel ((targets.lookup pointer).getD .everything)).map fun (steps, rule) =>
        ("$ref" :: steps, rule)) ++ [([], beside)]
  | _ + 1, rule => [([], rule)]

/-! ## Messages -/

def typeMessage (types : List TypeName) (v : Json) : String :=
  match types with
  | [t] => v.text ++ " is not of type " ++ Json.quote t.name
  | ts => v.text ++ " is not of types " ++ ", ".intercalate (ts.map fun t => Json.quote t.name)

def additionalMessage (names : List String) : String :=
  "Additional properties are not allowed (" ++
    ", ".intercalate (names.map fun n => "'" ++ n ++ "'") ++
    (if names.length = 1 then " was unexpected)" else " were unexpected)")

def lengthMessage (least : Nat) (v : Json) : String :=
  v.text ++ " is shorter than " ++ toString least ++
    (if least = 1 then " character" else " characters")

def nothingMessage (v : Json) : String := "False schema does not allow " ++ v.text

/-! ## Constraints on the value itself -/

def typeFindings (types : List TypeName) (t : Trail) (v : Json) : List Finding :=
  if types.isEmpty || types.any (·.admits v) then []
  else [t.finding ["type"] v (typeMessage types v)]

def requiredFindings (names : List String) (t : Trail) (v : Json) : List Finding :=
  match v with
  | .object members =>
      (names.filter fun n => (members.lookup n).isNone).map fun n =>
        t.finding ["required"] v (Json.quote n ++ " is a required property")
  | _ => []

def lengthFindings (least : Option Nat) (t : Trail) (v : Json) : List Finding :=
  match least, v with
  | some n, .string s =>
      if s.length < n then [t.finding ["minLength"] v (lengthMessage n v)] else []
  | _, _ => []

def patternFindings (pattern : Option NamedPattern) (t : Trail) (v : Json) : List Finding :=
  match pattern, v with
  | some p, .string s =>
      if p.pattern.isFoundIn s then []
      else [t.finding ["pattern"] v (v.text ++ " does not match " ++ "\"" ++ p.text ++ "\"")]
  | _, _ => []

/-- The findings for a member that no rule allows, when there are no known names. -/
def strayFindings (members : List (String × Json)) (t : Trail) : List Finding :=
  match members with
  | [] => []
  | (_, v) :: _ => [t.finding ["additionalProperties"] v (nothingMessage v)]

/-- The finding for the members that no rule allows, beside known names. -/
def unknownFindings (known : List (String × Rule)) (members : List (String × Json)) (t : Trail)
    (v : Json) : List Finding :=
  match (members.map Prod.fst).filter fun n => (known.lookup n).isNone with
  | [] => []
  | names => [t.finding ["additionalProperties"] v (additionalMessage names)]

/-- Whether a rule for further members forbids all of them. -/
def isForbidden : Option Rule → Bool
  | some .nothing => true
  | _ => false

/-! ## All constraints -/

mutual
/-- The findings of a value. -/
def check (targets : List (String × Rule)) (rule : Rule) (t : Trail) (v : Json) :
    List Finding :=
  (resolve targets (targets.length + 1) rule).flatMap fun (steps, rule) =>
    let t := t.intoRule steps
    match rule with
    | .everything | .reference _ _ => []
    | .nothing => [t.finding [] v (nothingMessage v)]
    | .constraints types required properties additional items pattern minLength =>
        let known := properties.getD []
        let inside :=
          match v with
          | .object members =>
              checkMembers targets known additional t members ++
                (if !isForbidden additional then []
                  else if properties.isNone then strayFindings members t
                  else unknownFindings known members t v)
          | .array vs =>
              match items with
              | some rule => checkItems targets rule (t.intoRule ["items"]) 0 vs
              | none => []
          | _ => []
        inside ++ lengthFindings minLength t v ++ patternFindings pattern t v ++
          requiredFindings required t v ++ typeFindings types t v

/-- The findings of the items of an array, from a position on. -/
def checkItems (targets : List (String × Rule)) (rule : Rule) (t : Trail) (index : Nat) :
    List Json → List Finding
  | [] => []
  | v :: rest =>
      check targets rule (t.intoValue (toString index)) v ++
        checkItems targets rule t (index + 1) rest

/-- The findings of the members of an object: a known name has its own rule, any other the
additional one. -/
def checkMembers (targets : List (String × Rule)) (known : List (String × Rule))
    (additional : Option Rule) (t : Trail) : List (String × Json) → List Finding
  | [] => []
  | (name, v) :: rest =>
      let here :=
        match known.lookup name, additional with
        | some rule, _ => check targets rule ((t.intoValue name).intoRule ["properties", name]) v
        | none, none => []
        | none, some rule =>
            if isForbidden additional then []
            else check targets rule ((t.intoValue name).intoRule ["additionalProperties"]) v
      here ++ checkMembers targets known additional t rest
end

/-- Everything that a value breaks. -/
def findings (s : Schema) (v : Json) : List Finding :=
  check s.targets s.root {} v

end QueryHeaders.Schema
