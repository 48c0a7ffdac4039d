import QueryHeaders.Proofs.Schema.Acceptance
import QueryHeaders.Proofs.Schema.Pattern

/-!
The documents that the built-in schema accepts, member by member.

Each object of an accepted document has its required members, and what its known members hold is of
the type that the schema gives them. An optional object may be null.
-/
namespace QueryHeaders.Schema

/-- What a member holds, if it is there. -/
def Holds (P : Json → Prop) (members : List (String × Json)) (name : String) : Prop :=
  ∀ v, members.lookup name = some v → P v

def IsString (v : Json) : Prop := ∃ s, v = .string s

def IsBool (v : Json) : Prop := ∃ b, v = .bool b

/-- A text with the pattern of identifiers. -/
def IsName (v : Json) : Prop := ∃ s, v = .string s ∧ identifierPattern.pattern.isFoundIn s = true

structure IsParameter (members : List (String × Json)) : Prop where
  type : ∃ v, members.lookup "type" = some v ∧ IsString v
  name : ∃ v, members.lookup "name" = some v ∧ IsName v

structure IsAuthentication (members : List (String × Json)) : Prop where
  type : Holds IsString members "type"
  envVar : Holds IsString members "env_var"
  required : Holds IsBool members "required"

structure IsQuery (members : List (String × Json)) : Prop where
  name : ∃ v, members.lookup "name" = some v ∧ IsName v
  returnType : ∃ v, members.lookup "return_type" = some v ∧ IsString v
  parameters : Holds (fun v => v = .null ∨
    ∃ vs, v = .array vs ∧ ∀ p ∈ vs, ∃ ms, p = .object ms ∧ IsParameter ms) members "parameters"
  metadata : Holds (fun v => v = .null ∨
    ∃ ms, v = .object ms ∧ Holds IsString ms "category") members "metadata"
  enabled : Holds IsBool members "enabled"
  authentication : Holds (fun v => v = .null ∨
    ∃ ms, v = .object ms ∧ IsAuthentication ms) members "authentication"

/-! ## Types -/

namespace Admits

variable {targets : List (String × Rule)} {v : Json} {required : List String}
  {properties : Option (List (String × Rule))} {additional items : Option Rule}
  {pattern : Option NamedPattern} {least : Option Nat}

theorem isString
    (h : Admits targets
      (.constraints [.string] required properties additional items pattern least) v) :
    IsString v := by
  have admitted := h.any_type (by simp)
  cases v with
  | string s => exact ⟨s, rfl⟩
  | _ => cases admitted

theorem isBool
    (h : Admits targets
      (.constraints [.boolean] required properties additional items pattern least) v) :
    IsBool v := by
  have admitted := h.any_type (by simp)
  cases v with
  | bool b => exact ⟨b, rfl⟩
  | _ => cases admitted

theorem isObject
    (h : Admits targets
      (.constraints [.object] required properties additional items pattern least) v) :
    ∃ members, v = .object members := by
  have admitted := h.any_type (by simp)
  cases v with
  | object members => exact ⟨members, rfl⟩
  | _ => cases admitted

theorem isArray
    (h : Admits targets
      (.constraints [.array] required properties additional items pattern least) v) :
    ∃ vs, v = .array vs := by
  have admitted := h.any_type (by simp)
  cases v with
  | array vs => exact ⟨vs, rfl⟩
  | _ => cases admitted

theorem isObject_or_null
    (h : Admits targets
      (.constraints [.null, .object] required properties additional items pattern least) v) :
    v = .null ∨ ∃ members, v = .object members := by
  have admitted := h.any_type (by simp)
  cases v with
  | null => exact .inl rfl
  | object members => exact .inr ⟨members, rfl⟩
  | _ => cases admitted

theorem isArray_or_null
    (h : Admits targets
      (.constraints [.array, .null] required properties additional items pattern least) v) :
    v = .null ∨ ∃ vs, v = .array vs := by
  have admitted := h.any_type (by simp)
  cases v with
  | null => exact .inl rfl
  | array vs => exact .inr ⟨vs, rfl⟩
  | _ => cases admitted

end Admits

/-! ## Definitions of the built-in schema -/

variable {v : Json}

theorem isName_of_admits (h : Admits builtIn.targets (definition "identifier") v) : IsName v := by
  have text := h.target rfl
  obtain ⟨s, rfl⟩ := text.isString
  exact ⟨s, rfl, text.isFoundIn⟩

theorem isParameter_of_admits (h : Admits builtIn.targets (definition "parameter") v) :
    ∃ members, v = .object members ∧ IsParameter members := by
  have object := h.target rfl
  obtain ⟨members, rfl⟩ := object.isObject
  obtain ⟨type, hType⟩ := object.exists_required (show "type" ∈ _ by simp)
  obtain ⟨name, hName⟩ := object.exists_required (show "name" ∈ _ by simp)
  exact ⟨members, rfl, {
    type := ⟨type, hType, (object.member rfl hType).isString⟩
    name := ⟨name, hName, isName_of_admits (object.member rfl hName)⟩ }⟩

theorem isAuthentication_of_admits (h : Admits builtIn.targets (definition "authentication") v) :
    v = .null ∨ ∃ members, v = .object members ∧ IsAuthentication members := by
  have object := h.target rfl
  obtain rfl | ⟨members, rfl⟩ := object.isObject_or_null
  · exact .inl rfl
  · exact .inr ⟨members, rfl, {
      type := fun v hv => (object.member rfl hv).isString
      envVar := fun v hv => (object.member rfl hv).isString
      required := fun v hv => (object.member rfl hv).isBool }⟩

theorem isQuery_of_admits (h : Admits builtIn.targets (definition "query") v) :
    ∃ members, v = .object members ∧ IsQuery members := by
  have object := h.target rfl
  obtain ⟨members, rfl⟩ := object.isObject
  obtain ⟨name, hName⟩ := object.exists_required (show "name" ∈ _ by simp)
  obtain ⟨returnType, hReturn⟩ := object.exists_required (show "return_type" ∈ _ by simp)
  refine ⟨members, rfl, {
    name := ⟨name, hName, isName_of_admits (object.member rfl hName)⟩
    returnType := ⟨returnType, hReturn, (object.member rfl hReturn).isString⟩
    parameters := ?_
    metadata := ?_
    enabled := fun v hv => (object.member rfl hv).isBool
    authentication := fun v hv => isAuthentication_of_admits (object.member rfl hv) }⟩
  · intro v hv
    have list := object.member rfl hv
    obtain rfl | ⟨vs, rfl⟩ := list.isArray_or_null
    · exact .inl rfl
    · exact .inr ⟨vs, rfl, fun p hp => isParameter_of_admits (list.item p hp)⟩
  · intro v hv
    have metadata := object.member rfl hv
    obtain rfl | ⟨ms, rfl⟩ := metadata.isObject_or_null
    · exact .inl rfl
    · exact .inr ⟨ms, rfl, fun category hc => (metadata.member rfl hc).isString⟩

/-- An accepted document has a list of queries. -/
theorem isQuery_of_accepted (h : builtIn.violations v = []) :
    ∃ members entries, v = .object members ∧ members.lookup "queries" = some (.array entries) ∧
      ∀ entry ∈ entries, ∃ ms, entry = .object ms ∧ IsQuery ms := by
  have object := admits_of_violations h
  obtain ⟨members, rfl⟩ := object.isObject
  obtain ⟨queries, hQueries⟩ := object.exists_required (show "queries" ∈ _ by simp)
  have list := object.member rfl hQueries
  obtain ⟨entries, rfl⟩ := list.isArray
  exact ⟨members, entries, rfl, hQueries, fun entry he => isQuery_of_admits (list.item entry he)⟩

end QueryHeaders.Schema
