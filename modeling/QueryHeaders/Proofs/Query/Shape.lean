import QueryHeaders.Proofs.Query.Reading
import QueryHeaders.Proofs.Schema.Grammar

/-!
The schema and the reader agree on the shape of documents.

What the built-in schema admits as a member, the reader of that member takes: a value of another
type than the reader expects is never met, and every query has a name. What is left to go wrong is
what texts say: names, categories, kinds of authentication, control characters and blank types.
-/
namespace QueryHeaders

variable {α β ε : Type}

/-- The defects that are about the shape of a document. -/
def Defect.IsShape : Defect → Prop
  | .rootNotMapping | .queriesNotList | .entryNotMapping | .missingName
  | .invalidFieldType _ _ => True
  | _ => False

/-- The parameter at a position of a query's list has a type, and that is blank. -/
def HasBlankType (entry : Json) (position : Nat) : Prop :=
  ∃ ps p type, entry.member? "parameters" = some (.array ps) ∧ ps[position]? = some p ∧
    p.member? "type" = some (.string type) ∧ Text.trim type = ""

/-- What may still be wrong with an entry of an accepted document. -/
def Defect.IsTolerated (entry : Json) (d : Defect) : Prop :=
  ¬ d.IsShape ∧ ∀ position, d = .invalidParameter position → HasBlankType entry position

/-! ## Failures of readings -/

/-- Whatever a reading fails with is of a kind. -/
def FailsOnly (P : ε → Prop) (result : Except ε α) : Prop := ∀ e, result = .error e → P e

namespace FailsOnly

variable {P Q : ε → Prop}

theorem ok (a : α) : FailsOnly P (.ok a : Except ε α) := nofun

theorem error {e : ε} (h : P e) : FailsOnly P (.error e : Except ε α) := by
  intro f hf
  cases hf
  exact h

theorem bind {result : Except ε α} {next : α → Except ε β} (h : FailsOnly P result)
    (hNext : ∀ a, FailsOnly P (next a)) : FailsOnly P (result >>= next) := by
  intro e he
  obtain first | ⟨a, _, later⟩ := bind_eq_error.mp he
  · exact h e first
  · exact hNext a e later

theorem bind_ok {result : Except ε α} {next : α → Except ε β} {a : α} (h : result = .ok a)
    (hNext : FailsOnly P (next a)) : FailsOnly P (result >>= next) := by
  rw [h]
  exact hNext

theorem check {c : Prop} [Decidable c] {e : ε} {next : Unit → Except ε α} (h : c → P e)
    (hNext : FailsOnly P (next ())) :
    FailsOnly P (if c then throw e >>= next else next ()) := by
  intro f hf
  obtain ⟨broken, rfl⟩ | ⟨_, later⟩ := check_eq_error.mp hf
  · exact h broken
  · exact hNext f later

end FailsOnly

/-! ## Members that the schema admits -/

open Schema

variable {members : Members} {name : String}

/-- A member that is null or something counts as absent or is that something. -/
theorem field?_of_holds {P : Json → Prop} (h : Holds (fun v => v = .null ∨ P v) members name) :
    field? members name = none ∨
      ∃ v, members.lookup name = some v ∧ field? members name = some v ∧ P v := by
  rw [field?]
  cases present : members.lookup name with
  | none => exact .inl rfl
  | some v =>
      obtain rfl | held := h v present
      · exact .inl rfl
      · cases v with
        | null => exact .inl rfl
        | _ => exact .inr ⟨_, rfl, rfl, held⟩

theorem optionalString_of_holds (h : Holds IsString members name) :
    ∃ found, optionalString members name = .ok found := by
  rw [optionalString]
  obtain absent | ⟨_, _, present, s, rfl⟩ := field?_of_holds (fun v hv => .inr (h v hv))
  · exact ⟨none, by rw [absent]⟩
  · exact ⟨some s, by rw [present]⟩

theorem optionalBool_of_holds (h : Holds IsBool members name) :
    ∃ found, optionalBool members name = .ok found := by
  rw [optionalBool]
  obtain absent | ⟨_, _, present, b, rfl⟩ := field?_of_holds (fun v hv => .inr (h v hv))
  · exact ⟨none, by rw [absent]⟩
  · exact ⟨some b, by rw [present]⟩

theorem trimmedString_of_holds (h : Holds IsString members name) :
    ∃ s, trimmedString members name = .ok s := by
  obtain ⟨found, read⟩ := optionalString_of_holds h
  exact ⟨Text.trim (found.getD ""), by rw [trimmedString, read]; rfl⟩

theorem trimmedString_of_lookup {s : String} (h : members.lookup name = some (.string s)) :
    trimmedString members name = .ok (Text.trim s) := by
  rw [trimmedString, optionalString, field?, h]
  rfl

theorem parameterField_of_lookup {position : Nat} {s : String}
    (h : members.lookup name = some (.string s)) :
    parameterField members position name = .ok (Text.trim s) := by
  rw [parameterField, trimmedString_of_lookup h]

/-- A text with the pattern of identifiers is not blank. -/
theorem trim_ne_empty_of_isFoundIn {s : String}
    (h : identifierPattern.pattern.isFoundIn s = true) : Text.trim s ≠ "" := by
  obtain ⟨before, head, tail, after, whole, _, isHead, _⟩ :=
    chars_of_isFoundIn_identifierPattern h
  have member : head ∈ s.toList := by simp [whole]
  have kept := Text.mem_trim member
    (Text.not_isBlank_of_isIdentifierPart (Text.isIdentifierPart_of_start isHead))
  intro empty
  simp [empty] at kept

/-! ## Readers on what the schema admits -/

theorem failsOnly_requireOneLine {P : Defect → Prop} {field value : String}
    (h : P (.controlCharacter field)) : FailsOnly P (requireOneLine field value) := by
  unfold requireOneLine
  split
  · exact FailsOnly.error h
  · exact FailsOnly.ok ()

variable {entry : Json}

theorem statedCategory_of_holds
    (h : Holds (fun v => v = .null ∨ ∃ ms, v = .object ms ∧ Holds IsString ms "category") members
      "metadata") : ∃ stated, statedCategory members = .ok stated := by
  rw [statedCategory]
  obtain absent | ⟨_, _, present, ms, rfl, category⟩ := field?_of_holds h
  · exact ⟨"", by rw [absent]⟩
  · obtain ⟨s, read⟩ := trimmedString_of_holds category
    exact ⟨Text.lowercase s, by rw [present]; dsimp only; rw [read]; rfl⟩

theorem failsOnly_categoryOf {queryName : String}
    (h : Holds (fun v => v = .null ∨ ∃ ms, v = .object ms ∧ Holds IsString ms "category") members
      "metadata") :
    FailsOnly (Defect.IsTolerated entry) (categoryOf members queryName) := by
  obtain ⟨stated, read⟩ := statedCategory_of_holds h
  refine FailsOnly.bind_ok read ?_
  split
  · exact FailsOnly.ok _
  · split
    · exact FailsOnly.ok _
    · exact FailsOnly.error ⟨id, nofun⟩

theorem failsOnly_parameterOf {position : Nat} (h : IsParameter members) :
    FailsOnly (fun d => ¬ d.IsShape ∧ ∀ n, d = .invalidParameter n → n = position ∧
      ∃ type, members.lookup "type" = some (.string type) ∧ Text.trim type = "")
      (parameterOf position (.object members)) := by
  obtain ⟨_, hType, type, rfl⟩ := h.type
  obtain ⟨_, hName, pname, rfl, found⟩ := h.name
  rw [parameterOf]
  refine FailsOnly.bind_ok (parameterField_of_lookup hType) ?_
  refine FailsOnly.bind_ok (parameterField_of_lookup hName) ?_
  refine FailsOnly.check (fun empty => ⟨id, fun n hn => ?_⟩) ?_
  · cases hn
    refine ⟨rfl, type, hType, ?_⟩
    simpa [trim_ne_empty_of_isFoundIn found] using empty
  · refine FailsOnly.bind (failsOnly_requireOneLine ⟨id, nofun⟩) fun _ => ?_
    exact FailsOnly.check (fun _ => ⟨id, nofun⟩) (FailsOnly.ok _)

theorem failsOnly_parametersFrom {position : Nat} {items : List Json}
    (h : ∀ p ∈ items, ∃ ms, p = .object ms ∧ IsParameter ms) :
    FailsOnly (fun d => ¬ d.IsShape ∧ ∀ n, d = .invalidParameter n → ∃ i p type,
      n = position + i ∧ items[i]? = some p ∧ p.member? "type" = some (.string type) ∧
        Text.trim type = "") (parametersFrom position items) := by
  induction items generalizing position with
  | nil => exact FailsOnly.ok []
  | cons item rest ih =>
      obtain ⟨⟨ms, rfl, first⟩, others⟩ := List.forall_mem_cons.mp h
      rw [parametersFrom]
      refine FailsOnly.bind (fun d hd => ?_) fun p => ?_
      · obtain ⟨noShape, blank⟩ := failsOnly_parameterOf first d hd
        refine ⟨noShape, fun n hn => ?_⟩
        obtain ⟨rfl, type, hType, empty⟩ := blank n hn
        exact ⟨0, .object ms, type, rfl, rfl, hType, empty⟩
      · refine FailsOnly.bind (fun d hd => ?_) fun ps => FailsOnly.ok (p :: ps)
        obtain ⟨noShape, blank⟩ := ih others d hd
        refine ⟨noShape, fun n hn => ?_⟩
        obtain ⟨i, p, type, rfl, present, hType, empty⟩ := blank n hn
        exact ⟨i + 1, p, type, by rw [Nat.add_assoc, Nat.add_comm 1 i], present, hType, empty⟩

theorem failsOnly_parametersOf
    (h : Holds (fun v => v = .null ∨ ∃ vs, v = .array vs ∧
      ∀ p ∈ vs, ∃ ms, p = .object ms ∧ IsParameter ms) members "parameters") :
    FailsOnly (Defect.IsTolerated (.object members)) (parametersOf members) := by
  rw [parametersOf]
  obtain absent | ⟨_, whole, present, ps, rfl, parameters⟩ := field?_of_holds h
  · rw [absent]
    exact FailsOnly.ok []
  · rw [present]
    intro d hd
    obtain ⟨noShape, blank⟩ := failsOnly_parametersFrom parameters d hd
    refine ⟨noShape, fun n hn => ?_⟩
    obtain ⟨i, p, type, rfl, found, hType, empty⟩ := blank n hn
    rw [Nat.zero_add]
    exact ⟨ps, p, type, whole, found, hType, empty⟩

theorem failsOnly_tokenOf {P : Defect → Prop} (h : IsAuthentication members) :
    FailsOnly P (tokenOf members) := by
  obtain ⟨_, readVar⟩ := trimmedString_of_holds h.envVar
  obtain ⟨_, readRequired⟩ := optionalBool_of_holds h.required
  exact FailsOnly.bind_ok readVar (FailsOnly.bind_ok readRequired (FailsOnly.ok _))

theorem failsOnly_authenticationOf
    (h : Holds (fun v => v = .null ∨ ∃ ms, v = .object ms ∧ IsAuthentication ms) members
      "authentication") :
    FailsOnly (Defect.IsTolerated entry) (authenticationOf members) := by
  rw [authenticationOf]
  obtain absent | ⟨_, _, present, ms, rfl, authentication⟩ := field?_of_holds h
  · rw [absent]
    exact FailsOnly.ok none
  · rw [present]
    obtain ⟨_, read⟩ := trimmedString_of_holds authentication.type
    refine FailsOnly.bind_ok read ?_
    dsimp only
    split
    · exact FailsOnly.ok none
    · split
      · exact FailsOnly.bind (failsOnly_tokenOf authentication) fun _ => FailsOnly.ok _
      · exact FailsOnly.error ⟨id, nofun⟩

/-! ## Entries and documents -/

theorem failsOnly_ofFields (h : IsQuery members) :
    FailsOnly (Defect.IsTolerated (.object members)) (Query.ofFields name members) := by
  obtain ⟨_, readEnabled⟩ := optionalBool_of_holds h.enabled
  obtain ⟨_, hReturn, returnType, rfl⟩ := h.returnType
  rw [Query.ofFields]
  refine FailsOnly.bind (failsOnly_categoryOf h.metadata) fun category => ?_
  refine FailsOnly.bind_ok readEnabled ?_
  refine FailsOnly.bind_ok (trimmedString_of_lookup hReturn) ?_
  refine FailsOnly.bind (failsOnly_requireOneLine ⟨id, fun _ hn => by cases hn⟩) fun _ => ?_
  refine FailsOnly.bind (failsOnly_parametersOf h.parameters) fun parameters => ?_
  exact FailsOnly.bind (failsOnly_authenticationOf h.authentication) fun _ => FailsOnly.ok _

theorem failsOnly_ofEntry {index : Nat} (h : IsQuery members) :
    FailsOnly (fun e => Defect.IsTolerated (.object members) e.defect)
      (Query.ofEntry index (.object members)) := by
  obtain ⟨_, hName, name, rfl, found⟩ := h.name
  have named := trim_ne_empty_of_isFoundIn found
  rw [Query.ofEntry, trimmedString_of_lookup hName]
  dsimp only
  split
  · next empty => exact absurd (by simpa using empty) named
  · split
    · exact FailsOnly.error ⟨id, nofun⟩
    · split
      · next d failed => exact FailsOnly.error (failsOnly_ofFields h d failed)
      · exact FailsOnly.ok _

/-- On a document that the built-in schema accepts, the reader never fails because of a shape, and
it gives one query for each entry. A parameter without type or name has a blank type. -/
theorem ofDocument_of_accepted {document : Json}
    (accepted : Schema.builtIn.violations document = []) :
    ∃ entries, document.member? "queries" = some (.array entries) ∧
      (∀ (index : Nat) entry e, entries[index]? = some entry →
        Query.ofEntry index entry = .error e → e.defect.IsTolerated entry) ∧
      (∀ e, Query.ofDocument document = .error e → ¬ e.defect.IsShape ∧
        ∀ position, e.defect = .invalidParameter position → ∃ index name entry,
          e.location = .entry index name ∧ entries[index]? = some entry ∧
            HasBlankType entry position) ∧
      ∀ qs, Query.ofDocument document = .ok qs → qs.length = entries.length ∧
        ∀ (index : Nat) entry q, entries[index]? = some entry → qs[index]? = some q →
          Query.ofEntry index entry = .ok q := by
  obtain ⟨members, entries, rfl, present, queries⟩ := isQuery_of_accepted accepted
  have entryFails : ∀ (index : Nat) entry e, entries[index]? = some entry →
      Query.ofEntry index entry = .error e → e.defect.IsTolerated entry := by
    intro index entry e found failed
    obtain ⟨ms, rfl, query⟩ := queries entry (List.mem_of_getElem? found)
    exact failsOnly_ofEntry query e failed
  rw [ofDocument_of_lookup present]
  refine ⟨entries, present, entryFails, fun e failed => ?_, fun qs read => ?_⟩
  · obtain ⟨i, entry, found, own | ⟨name, first, rfl⟩⟩ := ofEntries_eq_error failed
    · rw [Nat.zero_add] at own
      obtain ⟨noShape, blank⟩ := entryFails i entry e found own
      obtain ⟨name, place⟩ := location_of_ofEntry own
      exact ⟨noShape, fun position same => ⟨i, name, entry, place, found, blank position same⟩⟩
    · exact ⟨id, nofun⟩
  · simpa using ofEntries_eq_ok read

/-- An entry whose only parameter has a blank type. -/
def blankTypeEntry : Json :=
  .object [("name", .string "IQuery_Run"),
    ("parameters", .array [.object [("name", .string "run"), ("type", .string " ")]]),
    ("return_type", .string "int")]

theorem ofDocument_of_accepted_blankType :
    Schema.builtIn.violations (.object [("queries", .array [blankTypeEntry])]) = [] ∧
      Query.ofDocument (.object [("queries", .array [blankTypeEntry])]) =
        .error ⟨.entry 0 (some "IQuery_Run"), .invalidParameter 0⟩ ∧
      HasBlankType blankTypeEntry 0 := by
  have accepted : Schema.builtIn.violations (.object [("queries", .array [blankTypeEntry])]) = [] :=
    by decide
  obtain ⟨entries, present, entryFails, _⟩ := ofDocument_of_accepted accepted
  cases present
  exact ⟨accepted, rfl, (entryFails 0 blankTypeEntry _ rfl rfl).2 0 rfl⟩

end QueryHeaders
