import QueryHeaders.Proofs.Json.Equality
import QueryHeaders.Proofs.Json.Names
import QueryHeaders.Proofs.Json.Pointer
import QueryHeaders.Schema.BuiltIn
import QueryHeaders.Schema.Violation

/-!
Where the values stand that break a schema.

The path of a violation leads from the document to a value that a rule of the schema rejects for
what this value itself is, and the text of this value is shown. What is found inside a value is
found in one of its members or items, so that the paths grow by one step at a time.
-/
namespace QueryHeaders

theorem Text.shorten_of_lt {limit kept : Nat} {text : String} (long : limit < text.length)
    (fits : kept ≤ text.length) :
    ∃ start rest, text = start ++ rest ∧ start.length = kept ∧
      shorten limit kept text = start ++ "..." := by
  refine ⟨.ofList (text.toList.take kept), .ofList (text.toList.drop kept), ?_, ?_, ?_⟩
  · rw [← String.ofList_append, List.take_append_drop, String.ofList_toList]
  · rw [String.length_ofList, List.length_take, String.length_toList, min_eq_left fits]
  · rw [shorten, if_pos long]

namespace Schema

variable {s : Schema} {rule : Rule} {t : Trail} {v w : Json} {f : Finding} {above : List String}
  {name message : String} {members : List (String × Json)}

/-! ## The rules of a schema -/

/-- The rules for the members of an object. One that forbids all further members is none of them;
it belongs to the rule of the object. -/
def memberRules (known : List (String × Rule)) (additional : Option Rule) : List Rule :=
  known.map Prod.snd ++ if isForbidden additional then [] else additional.toList

/-- The rules that stand in a rule itself. -/
def Rule.inner : Rule → List Rule
  | .everything | .nothing => []
  | .reference _ beside => [beside]
  | .constraints _ _ properties additional items _ _ =>
      memberRules (properties.getD []) additional ++ items.toList

/-- The rules that a schema holds values to. -/
inductive HasRule (s : Schema) : Rule → Prop where
  | root : HasRule s s.root
  | target {pointer : String} {rule : Rule} (h : (pointer, rule) ∈ s.targets) : HasRule s rule
  | inner {rule part : Rule} (h : HasRule s rule) (member : part ∈ rule.inner) : HasRule s part

/-- A reference leads to rules of the schema, or to nothing that could reject a value. -/
theorem hasRule_of_mem_resolve {fuel : Nat} {steps : List String} {found : Rule}
    (has : s.HasRule rule ∨ rule = .everything)
    (h : (steps, found) ∈ resolve s.targets fuel rule) : s.HasRule found ∨ found = .everything := by
  induction fuel generalizing rule steps with
  | zero => simp [resolve] at h
  | succ fuel ih =>
      cases rule with
      | everything | nothing | constraints =>
          simp only [resolve, List.mem_singleton, Prod.mk.injEq] at h
          exact h.2 ▸ has
      | reference pointer beside =>
          rw [resolve, List.mem_append, List.mem_map, List.mem_singleton] at h
          obtain ⟨⟨more, target⟩, h, same⟩ | h := h
          · cases same
            refine ih ?_ h
            cases leads : s.targets.lookup pointer with
            | none => exact .inr rfl
            | some rule => exact .inl (.target (mem_of_lookup leads))
          · cases h
            obtain has | none := has
            · exact .inl (has.inner List.mem_cons_self)
            · cases none

/-! ## Rejected values -/

/-- A value breaks one of these constraints by what it is itself, and the message says which. -/
inductive Breaks (types : List TypeName) (required : List String)
    (properties : Option (List (String × Rule))) (additional : Option Rule)
    (pattern : Option NamedPattern) (least : Option Nat) : Json → String → Prop where
  | type {v : Json} (given : types ≠ []) (none : ∀ t ∈ types, t.admits v = false) :
      Breaks types required properties additional pattern least v (typeMessage types v)
  | required {members : List (String × Json)} {name : String} (needed : name ∈ required)
      (absent : members.lookup name = none) :
      Breaks types required properties additional pattern least (.object members)
        (Json.quote name ++ " is a required property")
  | additional {members : List (String × Json)} {known : List (String × Rule)}
      {names : List String} (forbidden : isForbidden additional = true)
      (given : properties = some known) (some : names ≠ [])
      (unknown : ∀ n ∈ names, n ∈ members.map Prod.fst ∧ known.lookup n = none) :
      Breaks types required properties additional pattern least (.object members)
        (additionalMessage names)
  | length {text : String} {n : Nat} (given : least = some n) (short : text.length < n) :
      Breaks types required properties additional pattern least (.string text)
        (lengthMessage n (.string text))
  | pattern {text : String} {p : NamedPattern} (given : pattern = some p)
      (unmatched : p.pattern.isFoundIn text = false) :
      Breaks types required properties additional pattern least (.string text)
        ((Json.string text).text ++ " does not match " ++ "\"" ++ p.text ++ "\"")

/-- A rule rejects a value for what the value itself is, and the message says so. -/
def Rule.Rejects : Rule → Json → String → Prop
  | .everything, _, _ | .reference _ _, _, _ => False
  | .nothing, v, message => message = nothingMessage v
  | .constraints types required properties additional _ pattern least, v, message =>
      Breaks types required properties additional pattern least v message

section

variable {types : List TypeName} {required : List String}
  {properties : Option (List (String × Rule))} {additional items : Option Rule}
  {pattern : Option NamedPattern} {least : Option Nat}

theorem breaks_of_typeFindings (h : f ∈ typeFindings types t v) :
    ∃ keyword message, f = t.finding keyword v message ∧
      Breaks types required properties additional pattern least v message := by
  unfold typeFindings at h
  split at h
  · cases h
  · next unmet =>
      rw [Bool.or_eq_true, not_or, List.isEmpty_iff] at unmet
      exact ⟨_, _, List.mem_singleton.mp h, .type unmet.1 (by simpa using unmet.2)⟩

theorem breaks_of_requiredFindings (h : f ∈ requiredFindings required t v) :
    ∃ keyword message, f = t.finding keyword v message ∧
      Breaks types required properties additional pattern least v message := by
  unfold requiredFindings at h
  split at h
  · obtain ⟨name, absent, rfl⟩ := List.mem_map.mp h
    rw [List.mem_filter, Option.isNone_iff_eq_none] at absent
    exact ⟨_, _, rfl, .required absent.1 absent.2⟩
  · cases h

theorem breaks_of_lengthFindings (h : f ∈ lengthFindings least t v) :
    ∃ keyword message, f = t.finding keyword v message ∧
      Breaks types required properties additional pattern least v message := by
  unfold lengthFindings at h
  split at h
  · split at h
    · next short => exact ⟨_, _, List.mem_singleton.mp h, .length rfl short⟩
    · cases h
  · cases h

theorem breaks_of_patternFindings (h : f ∈ patternFindings pattern t v) :
    ∃ keyword message, f = t.finding keyword v message ∧
      Breaks types required properties additional pattern least v message := by
  unfold patternFindings at h
  split at h
  · split at h
    · cases h
    · next unmatched =>
        exact ⟨_, _, List.mem_singleton.mp h, .pattern rfl (Bool.eq_false_iff.mpr unmatched)⟩
  · cases h

theorem breaks_of_unknownFindings {known : List (String × Rule)} (given : properties = some known)
    (forbidden : isForbidden additional = true)
    (h : f ∈ unknownFindings known members t (.object members)) :
    ∃ keyword message, f = t.finding keyword (.object members) message ∧
      Breaks types required properties additional pattern least (.object members) message := by
  unfold unknownFindings at h
  split at h
  · cases h
  · next names some =>
      refine ⟨_, _, List.mem_singleton.mp h, .additional forbidden given some fun n member => ?_⟩
      rwa [List.mem_filter, Option.isNone_iff_eq_none] at member

end

/-! ## One step -/

/-- A finding comes from a value itself, or from a member or an item of it. -/
inductive Finding.ComesFrom (s : Schema) (f : Finding) (above : List String) : Json → Prop where
  | here {v : Json} {rule : Rule} (has : s.HasRule rule) (rejected : rule.Rejects v f.message)
      (value : f.value = v) (pointer : f.valuePointer = Json.Pointer.ofSteps above) :
      ComesFrom s f above v
  | member {members : List (String × Json)} {name : String} {w : Json} {rule : Rule} {t : Trail}
      (standing : (name, w) ∈ members) (has : s.HasRule rule) (place : t.value = above ++ [name])
      (found : f ∈ check s.targets rule t w) : ComesFrom s f above (.object members)
  | item {items : List Json} {i : Nat} {w : Json} {rule : Rule} {t : Trail}
      (standing : items[i]? = some w) (has : s.HasRule rule)
      (place : t.value = above ++ [toString i]) (found : f ∈ check s.targets rule t w) :
      ComesFrom s f above (.array items)

theorem mem_checkItems {vs : List Json} {start : Nat}
    (h : f ∈ checkItems s.targets rule t start vs) :
    ∃ i w, vs[i]? = some w ∧ f ∈ check s.targets rule (t.intoValue (toString (start + i))) w := by
  induction vs generalizing start with
  | nil => cases h
  | cons v rest ih =>
      rw [checkItems, List.mem_append] at h
      obtain here | later := h
      · exact ⟨0, v, rfl, here⟩
      · obtain ⟨i, w, standing, found⟩ := ih later
        refine ⟨i + 1, w, standing, ?_⟩
        rwa [Nat.add_right_comm] at found

/-- A member is held to its own rule if it is known, and else to the additional one. -/
theorem mem_checkMembers {known : List (String × Rule)} {additional : Option Rule}
    (h : f ∈ checkMembers s.targets known additional t members) :
    ∃ name w rule u, (name, w) ∈ members ∧ rule ∈ memberRules known additional ∧
      u.value = t.value ++ [name] ∧ f ∈ check s.targets rule u w := by
  induction members with
  | nil => cases h
  | cons member rest ih =>
      obtain ⟨name, v⟩ := member
      unfold checkMembers at h
      obtain here | later := List.mem_append.mp h
      · split at here
        · next rule found =>
            have member : rule ∈ known.map Prod.snd := List.mem_map_of_mem (mem_of_lookup found)
            exact ⟨name, v, rule, _, List.mem_cons_self, List.mem_append_left _ member, rfl, here⟩
        · cases here
        · next rule _ =>
            split at here
            · cases here
            · next allowed =>
                refine ⟨name, v, rule, _, List.mem_cons_self, List.mem_append_right _ ?_, rfl, here⟩
                rw [if_neg allowed]
                exact List.mem_singleton_self rule
      · obtain ⟨name, w, rule, u, standing, more⟩ := ih later
        exact ⟨name, w, rule, u, List.mem_cons_of_mem _ standing, more⟩

/-- Known names are given where further members are forbidden; otherwise the finding about a
further member would point to the object. -/
def Rule.NamesMembers : Rule → Prop
  | .constraints _ _ properties additional _ _ _ =>
      isForbidden additional = true → ∃ known, properties = some known
  | _ => True

theorem Finding.ComesFrom.of_breaks {types : List TypeName} {required : List String}
    {properties : Option (List (String × Rule))} {additional items : Option Rule}
    {pattern : Option NamedPattern} {least : Option Nat}
    (has : s.HasRule (.constraints types required properties additional items pattern least))
    (h : ∃ keyword message, f = t.finding keyword v message ∧
      Breaks types required properties additional pattern least v message)
    (place : t.value = above) : f.ComesFrom s above v := by
  obtain ⟨keyword, message, rfl, broken⟩ := h
  exact .here has broken rfl (congrArg Json.Pointer.ofSteps place)

theorem comesFrom_of_check (named : ∀ rule, s.HasRule rule → rule.NamesMembers)
    (has : s.HasRule rule) (h : f ∈ check s.targets rule t v) : f.ComesFrom s t.value v := by
  rw [check, List.mem_flatMap] at h
  obtain ⟨⟨steps, rule⟩, resolved, h⟩ := h
  obtain has | rfl := hasRule_of_mem_resolve (.inl has) resolved
  · cases rule with
    | everything | reference => cases h
    | nothing =>
        obtain rfl := List.mem_singleton.mp h
        exact .here has rfl rfl rfl
    | constraints types required properties additional items pattern least =>
        simp only [List.mem_append] at h
        obtain (((inside | short) | unmatched) | missing) | type := h
        · cases v with
          | object members =>
              obtain within | further := List.mem_append.mp inside
              · obtain ⟨name, w, rule, u, standing, member, place, found⟩ := mem_checkMembers within
                exact .member standing (has.inner (List.mem_append_left _ member)) place found
              · split at further
                · cases further
                · next forbidden =>
                    -- Without known names the finding would be about a member, at the object.
                    rw [Bool.not_eq_true', Bool.not_eq_false] at forbidden
                    obtain ⟨known, rfl⟩ := named _ has forbidden
                    exact .of_breaks has (breaks_of_unknownFindings rfl forbidden further) rfl
          | array vs =>
              cases items with
              | none => cases inside
              | some rule =>
                  obtain ⟨i, w, standing, found⟩ := mem_checkItems inside
                  rw [Nat.zero_add] at found
                  have member : rule ∈ (some rule).toList := List.mem_singleton_self rule
                  exact .item standing (has.inner (List.mem_append_right _ member)) rfl found
          | null | bool | int | float | string => cases inside
        · exact .of_breaks has (breaks_of_lengthFindings short) rfl
        · exact .of_breaks has (breaks_of_patternFindings unmatched) rfl
        · exact .of_breaks has (breaks_of_requiredFindings missing) rfl
        · exact .of_breaks has (breaks_of_typeFindings type) rfl
  · cases h

/-! ## Whole ways -/

/-- A finding is about a value inside `v` that a rule of the schema rejects. It stands where the
pointer leads beyond what is above. -/
def Finding.PointsInto (s : Schema) (f : Finding) (above : List String) (v : Json) : Prop :=
  ∃ path rule, f.valuePointer = Json.Pointer.ofSteps (above ++ path) ∧
    Json.Pointer.lookup path v = some f.value ∧ s.HasRule rule ∧ rule.Rejects f.value f.message

theorem Finding.PointsInto.itself (has : s.HasRule rule) (rejected : rule.Rejects v f.message)
    (value : f.value = v) (pointer : f.valuePointer = Json.Pointer.ofSteps above) :
    f.PointsInto s above v := by
  subst value
  exact ⟨[], rule, by rw [pointer, List.append_nil], rfl, has, rejected⟩

theorem Finding.PointsInto.member (h : f.PointsInto s (above ++ [name]) w)
    (found : members.lookup name = some w) : f.PointsInto s above (.object members) := by
  obtain ⟨path, rule, pointer, leads, rejected⟩ := h
  refine ⟨name :: path, rule, by simpa using pointer, ?_, rejected⟩
  rw [Json.Pointer.lookup, found]
  exact leads

theorem Finding.PointsInto.item {items : List Json} {i : Nat}
    (h : f.PointsInto s (above ++ [toString i]) w) (found : items[i]? = some w) :
    f.PointsInto s above (.array items) := by
  obtain ⟨path, rule, pointer, leads, rejected⟩ := h
  refine ⟨toString i :: path, rule, by simpa using pointer, ?_, rejected⟩
  have position : Nat.ofDigitChars 10 (toString i).toList 0 = i := by
    rw [Nat.toString_eq_repr, Nat.toList_repr, Nat.ofDigitChars_ten_toDigits]
  simp only [Json.Pointer.lookup, position, if_true, found]
  exact leads

/-- By induction on the value: what is found in a member or an item points into it. -/
theorem pointsInto_of_check (named : ∀ rule, s.HasRule rule → rule.NamesMembers)
    (distinct : v.HasDistinctNames) (has : s.HasRule rule) (h : f ∈ check s.targets rule t v) :
    f.PointsInto s t.value v := by
  induction distinct generalizing rule t with
  | object distinct inside ih =>
      cases comesFrom_of_check named has h with
      | here has rejected value pointer => exact .itself has rejected value pointer
      | member standing has place found =>
          have deeper := ih _ standing has found
          rw [place] at deeper
          exact deeper.member (Json.lookup_of_mem distinct standing)
  | array inside ih =>
      cases comesFrom_of_check named has h with
      | here has rejected value pointer => exact .itself has rejected value pointer
      | item standing has place found =>
          have deeper := ih _ (List.mem_of_getElem? standing) has found
          rw [place] at deeper
          exact deeper.item standing
  | null | bool | int | float | string =>
      cases comesFrom_of_check named has h with
      | here has rejected value pointer => exact .itself has rejected value pointer

/-! ## The built-in schema -/

/-- Known names are given in a rule and in all rules inside it. -/
inductive Rule.NamesAll : Rule → Prop where
  | intro {rule : Rule} (named : rule.NamesMembers) (inside : ∀ part ∈ rule.inner, NamesAll part) :
      NamesAll rule

theorem HasRule.namesAll (root : s.root.NamesAll) (targets : ∀ x ∈ s.targets, x.2.NamesAll)
    (has : s.HasRule rule) : rule.NamesAll := by
  induction has with
  | root => exact root
  | target listed => exact targets _ listed
  | inner _ member ih =>
      obtain ⟨_, inside⟩ := ih
      exact inside _ member

theorem namesAll_of_inner_eq_nil (named : rule.NamesMembers) (bare : rule.inner = []) :
    rule.NamesAll :=
  .intro named (by simp [bare])

@[simp]
theorem namesAll_typed (types : List TypeName) : (typed types).NamesAll :=
  namesAll_of_inner_eq_nil nofun rfl

@[simp]
theorem namesAll_textLike (pattern : NamedPattern) (least : Option Nat) :
    (textLike pattern least).NamesAll :=
  namesAll_of_inner_eq_nil nofun rfl

@[simp]
theorem namesAll_definition (name : String) : (definition name).NamesAll :=
  have everything : Rule.everything.NamesAll := namesAll_of_inner_eq_nil trivial rfl
  .intro trivial (by simpa [definition, Rule.inner] using everything)

@[simp]
theorem namesAll_listOf {types : List TypeName} (item : rule.NamesAll) :
    (listOf types rule).NamesAll :=
  .intro nofun (by simpa [listOf, Rule.inner, memberRules, isForbidden] using item)

theorem namesAll_record {types : List TypeName} {required : List String}
    {properties : List (String × Rule)} {additional : Option Rule}
    (inside : ∀ part ∈ memberRules properties additional, part.NamesAll) :
    (record types required properties additional).NamesAll :=
  .intro (fun _ => ⟨properties, rfl⟩) (by simpa [record, Rule.inner] using inside)

theorem namesMembers_of_builtIn (has : builtIn.HasRule rule) : rule.NamesMembers := by
  have metadata : metadataRule.NamesAll := namesAll_record (by simp [memberRules, isForbidden])
  have query : queryRule.NamesAll :=
    namesAll_record (by simp [memberRules, isForbidden, metadata])
  have parameter : parameterRule.NamesAll :=
    namesAll_record (by simp [memberRules, isForbidden])
  have authentication : authenticationRule.NamesAll :=
    namesAll_record (by simp [memberRules, isForbidden])
  have root : builtIn.root.NamesAll := namesAll_record (by simp [memberRules, isForbidden])
  have targets : ∀ x ∈ builtIn.targets, x.2.NamesAll := by
    simp [builtIn, parameter, authentication, query]
  obtain ⟨named, _⟩ := has.namesAll root targets
  exact named

/-! ## Violations -/

/-- A violation leads, name by name and position by position, to a value that a rule of the schema
rejects, and shows the text of this value or its beginning. -/
def Locates (s : Schema) (document : Json) (violation : Violation) : Prop :=
  ∃ value rule, Json.Pointer.lookup violation.instancePath document = some value ∧
    s.HasRule rule ∧ rule.Rejects value violation.message ∧
    (value.text.length ≤ 100 → violation.value = value.text) ∧
    (100 < value.text.length → ∃ start rest, value.text = start ++ rest ∧ start.length = 97 ∧
      violation.value = start ++ "...")

/-- Whatever the names in a document are, its violations are where their paths lead; every path is
read back from its pointer. -/
theorem violations_locate (document : Json) (distinct : document.HasDistinctNames) :
    (∀ violation ∈ builtIn.violations document, builtIn.Locates document violation) ∧
      ∀ path, Json.Pointer.steps (Json.Pointer.ofSteps path) = path := by
  refine ⟨fun violation h => ?_, Json.Pointer.steps_ofSteps⟩
  obtain ⟨f, found, rfl⟩ := List.mem_map.mp h
  obtain ⟨path, rule, pointer, leads, has, rejected⟩ :=
    pointsInto_of_check (fun _ => namesMembers_of_builtIn) distinct .root found
  refine ⟨f.value, rule, ?_, has, rejected, fun short => ?_, fun long => ?_⟩
  · rwa [Violation.ofFinding, pointer, Json.Pointer.steps_ofSteps]
  · exact if_neg (by omega)
  · exact Text.shorten_of_lt long (by omega)

/-- An entry with a member of an odd name, whose flag is text and whose description is a list of a
text that takes more room in a document than it has characters. -/
def oddText : String :=
  "queries:\n- name: q\n  return_type: int\n  parameters: []\n  enabled: 'yes'\n" ++
    "  description: [\"" ++ String.join (List.replicate 17 "\\0") ++ "\"]\n  '~1/': 0\n"

def oddDocument : Json :=
  .object [("queries", .array [.object
    [("description", .array [.string (.ofList (List.replicate 17 '\x00'))]),
      ("enabled", .string "yes"), ("name", .string "q"), ("parameters", .array []),
      ("return_type", .string "int"), ("~1/", .int 0)]])]

theorem violations_locate_oddDocument :
    Loading.ofText oddText "odd.yaml" = .ok oddDocument ∧ oddDocument.HasDistinctNames ∧
      (∀ violation ∈ builtIn.violations oddDocument, builtIn.Locates oddDocument violation) ∧
      (builtIn.violations oddDocument).map Violation.instancePath =
        [["queries", "0", "description"], ["queries", "0", "enabled"], ["queries", "0"]] := by
  have loaded : Loading.ofText oddText "odd.yaml" = .ok oddDocument := by decide +kernel
  have distinct := Loading.hasDistinctNames_of_ofText loaded
  exact ⟨loaded, distinct, (violations_locate oddDocument distinct).1, by decide +kernel⟩

end Schema

end QueryHeaders
