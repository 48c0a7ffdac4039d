import QueryHeaders.Query.Normal
import QueryHeaders.Proofs.Text.Trim

/-!
What a query that has been read is like.

Every field of a query comes through its own reader, so that the invariant of a query is the
conjunction of what its readers promise: names are identifiers, texts are trimmed, types stand on
one line. A document gives one query for each entry, each read at the position of its entry.
-/
namespace QueryHeaders

variable {α β ε : Type}

theorem bind_eq_ok {result : Except ε α} {next : α → Except ε β} {b : β} :
    (result >>= next) = .ok b ↔ ∃ a, result = .ok a ∧ next a = .ok b := by
  cases result <;> simp [Bind.bind, Except.bind]

theorem bind_eq_error {result : Except ε α} {next : α → Except ε β} {e : ε} :
    (result >>= next) = .error e ↔
      result = .error e ∨ ∃ a, result = .ok a ∧ next a = .error e := by
  cases result <;> simp [Bind.bind, Except.bind]

theorem pure_eq_ok {a b : α} : (pure a : Except ε α) = .ok b ↔ a = b := by
  simp [Pure.pure, Except.pure]

/-- A check in the middle of a reading. -/
theorem check_eq_ok {c : Prop} [Decidable c] {e : ε} {next : Unit → Except ε α} {a : α} :
    (if c then throw e >>= next else next ()) = .ok a ↔ ¬ c ∧ next () = .ok a := by
  split <;> simp_all [throw, throwThe, MonadExceptOf.throw, Bind.bind, Except.bind]

theorem check_eq_error {c : Prop} [Decidable c] {e f : ε} {next : Unit → Except ε α} :
    (if c then throw e >>= next else next ()) = .error f ↔
      c ∧ e = f ∨ ¬ c ∧ next () = .error f := by
  split <;> simp_all [throw, throwThe, MonadExceptOf.throw, Bind.bind, Except.bind]

/-! ## Invariants -/

structure Parameter.WellFormed (p : Parameter) : Prop where
  type_ne_empty : p.type ≠ ""
  type_isTrimmed : Text.IsTrimmed p.type
  type_oneLine : Text.hasControl p.type = false
  name_isIdentifier : Text.isIdentifier p.name = true

structure Authentication.WellFormed (a : Authentication) : Prop where
  envVar_isTrimmed : Text.IsTrimmed a.envVar
  keyBehavior_ne_auto : a.keyBehavior ≠ .auto

structure Query.WellFormed (q : Query) : Prop where
  name_isIdentifier : Text.isIdentifier q.name = true
  returnType_isTrimmed : Text.IsTrimmed q.returnType
  returnType_oneLine : Text.hasControl q.returnType = false
  parameters : ∀ p ∈ q.parameters, p.WellFormed
  authentication : ∀ a, q.authentication = some a → a.WellFormed

/-- No token of a well formed query is made automatically. -/
theorem Query.WellFormed.isAutoToken {q : Query} (wf : q.WellFormed) : q.isAutoToken = false := by
  rw [Query.isAutoToken]
  cases stated : q.authentication with
  | none => rfl
  | some a => exact decide_eq_false (wf.authentication a stated).keyBehavior_ne_auto

theorem filter_isAutoToken {qs : List Query} (wf : ∀ q ∈ qs, q.WellFormed) :
    qs.filter Query.isAutoToken = [] := by
  rw [List.filter_eq_nil_iff]
  intro q hq auto
  rw [(wf q hq).isAutoToken] at auto
  cases auto

/-! ## Readers of fields -/

variable {members : Members} {name s : String}

theorem trimmedString_eq_ok (h : trimmedString members name = .ok s) : Text.IsTrimmed s := by
  rw [trimmedString, bind_eq_ok] at h
  obtain ⟨found, _, h⟩ := h
  rw [← pure_eq_ok.mp h]
  exact Text.isTrimmed_trim _

theorem requireOneLine_eq_ok_iff {field : String} {done : Unit} :
    requireOneLine field s = .ok done ↔ Text.hasControl s = false := by
  rw [requireOneLine]
  cases Text.hasControl s <;> simp

theorem parameterField_eq_ok_iff {position : Nat} :
    parameterField members position name = .ok s ↔ trimmedString members name = .ok s := by
  rw [parameterField]
  cases trimmedString members name <;> simp

theorem wellFormed_of_parameterOf {position : Nat} {item : Json} {p : Parameter}
    (h : parameterOf position item = .ok p) : p.WellFormed := by
  unfold parameterOf at h
  split at h
  · obtain ⟨type, readType, h⟩ := bind_eq_ok.mp h
    obtain ⟨name, _, h⟩ := bind_eq_ok.mp h
    obtain ⟨given, h⟩ := check_eq_ok.mp h
    obtain ⟨⟨⟩, oneLine, h⟩ := bind_eq_ok.mp h
    obtain ⟨identifier, h⟩ := check_eq_ok.mp h
    have hType : type ≠ "" := by
      rintro rfl
      exact given (by simp)
    rw [← pure_eq_ok.mp h]
    exact {
      type_ne_empty := hType
      type_isTrimmed := trimmedString_eq_ok (parameterField_eq_ok_iff.mp readType)
      type_oneLine := requireOneLine_eq_ok_iff.mp oneLine
      name_isIdentifier := by simpa using identifier }
  · cases h

theorem wellFormed_of_parametersFrom {position : Nat} {items : List Json} {ps : List Parameter}
    (h : parametersFrom position items = .ok ps) : ∀ p ∈ ps, p.WellFormed := by
  induction items generalizing position ps with
  | nil =>
      cases h
      simp
  | cons item rest ih =>
      rw [parametersFrom] at h
      obtain ⟨p, readFirst, h⟩ := bind_eq_ok.mp h
      obtain ⟨others, readRest, h⟩ := bind_eq_ok.mp h
      rw [← pure_eq_ok.mp h, List.forall_mem_cons]
      exact ⟨wellFormed_of_parameterOf readFirst, ih readRest⟩

theorem wellFormed_of_parametersOf {ps : List Parameter} (h : parametersOf members = .ok ps) :
    ∀ p ∈ ps, p.WellFormed := by
  unfold parametersOf at h
  split at h
  · cases h
    simp
  · exact wellFormed_of_parametersFrom h
  · cases h

theorem wellFormed_of_tokenOf {a : Authentication} (h : tokenOf members = .ok a) :
    a.WellFormed := by
  rw [tokenOf] at h
  obtain ⟨envVar, readVar, h⟩ := bind_eq_ok.mp h
  obtain ⟨required, _, h⟩ := bind_eq_ok.mp h
  rw [← pure_eq_ok.mp h]
  refine ⟨trimmedString_eq_ok readVar, ?_⟩
  change (if required.getD true = true then KeyBehavior.required else .optional) ≠ .auto
  split <;> simp

theorem wellFormed_of_authenticationOf {found : Option Authentication}
    (h : authenticationOf members = .ok found) : ∀ a, found = some a → a.WellFormed := by
  rintro a rfl
  unfold authenticationOf at h
  split at h
  · cases h
  · obtain ⟨type, _, h⟩ := bind_eq_ok.mp h
    dsimp only at h
    split at h
    · cases h
    · split at h
      · obtain ⟨token, readToken, h⟩ := bind_eq_ok.mp h
        cases pure_eq_ok.mp h
        exact wellFormed_of_tokenOf readToken
      · cases h
  · cases h

/-! ## Readers of entries and documents -/

theorem wellFormed_of_ofFields {q : Query} (identifier : Text.isIdentifier name = true)
    (h : Query.ofFields name members = .ok q) : q.WellFormed := by
  rw [Query.ofFields] at h
  obtain ⟨category, _, h⟩ := bind_eq_ok.mp h
  obtain ⟨enabled, _, h⟩ := bind_eq_ok.mp h
  obtain ⟨returnType, readType, h⟩ := bind_eq_ok.mp h
  obtain ⟨⟨⟩, oneLine, h⟩ := bind_eq_ok.mp h
  obtain ⟨parameters, readParameters, h⟩ := bind_eq_ok.mp h
  obtain ⟨authentication, readAuthentication, h⟩ := bind_eq_ok.mp h
  rw [← pure_eq_ok.mp h]
  exact {
    name_isIdentifier := identifier
    returnType_isTrimmed := trimmedString_eq_ok readType
    returnType_oneLine := requireOneLine_eq_ok_iff.mp oneLine
    parameters := wellFormed_of_parametersOf readParameters
    authentication := wellFormed_of_authenticationOf readAuthentication }

theorem wellFormed_of_ofEntry {index : Nat} {entry : Json} {q : Query}
    (h : Query.ofEntry index entry = .ok q) : q.WellFormed := by
  unfold Query.ofEntry at h
  split at h
  · split at h
    · cases h
    · next name _ =>
        split at h
        · cases h
        · split at h
          · cases h
          · next identifier =>
              split at h
              · cases h
              · next readFields =>
                  cases h
                  exact wellFormed_of_ofFields (by simpa using identifier) readFields
  · cases h

/-- Each entry gives one query, read at the position of the entry. -/
theorem ofEntries_eq_ok {seen : List (String × Nat)} {index : Nat} {entries : List Json}
    {qs : List Query} (h : Query.ofEntries seen index entries = .ok qs) :
    qs.length = entries.length ∧ ∀ (i : Nat) entry q, entries[i]? = some entry →
      qs[i]? = some q → Query.ofEntry (index + i) entry = .ok q := by
  induction entries generalizing seen index qs with
  | nil =>
      cases h
      simp
  | cons first rest ih =>
      rw [Query.ofEntries] at h
      obtain ⟨q, readFirst, h⟩ := bind_eq_ok.mp h
      split at h
      · cases h
      · obtain ⟨others, readRest, h⟩ := bind_eq_ok.mp h
        obtain ⟨sameLength, pointwise⟩ := ih readRest
        rw [← pure_eq_ok.mp h]
        refine ⟨by simp [sameLength], fun i entry x hEntry hx => ?_⟩
        cases i with
        | zero =>
            cases hEntry
            cases hx
            exact readFirst
        | succ i =>
            have later := pointwise i entry x hEntry hx
            rwa [Nat.add_assoc, Nat.add_comm 1 i] at later

theorem location_of_ofEntry {index : Nat} {entry : Json} {e : DefinitionError}
    (h : Query.ofEntry index entry = .error e) : ∃ name, e.location = .entry index name := by
  unfold Query.ofEntry at h
  split at h
  · split at h
    · cases h
      exact ⟨none, rfl⟩
    · next name _ =>
        split at h
        · cases h
          exact ⟨none, rfl⟩
        · split at h
          · cases h
            exact ⟨some name, rfl⟩
          · split at h
            · cases h
              exact ⟨some name, rfl⟩
            · cases h
  · cases h
    exact ⟨none, rfl⟩

/-- A reading of entries fails at an entry: with the error of the entry, or because an earlier one
has its name. -/
theorem ofEntries_eq_error {seen : List (String × Nat)} {index : Nat} {entries : List Json}
    {e : DefinitionError} (h : Query.ofEntries seen index entries = .error e) :
    ∃ i entry, entries[i]? = some entry ∧ (Query.ofEntry (index + i) entry = .error e ∨
      ∃ name first, e = ⟨.entry (index + i) (some name), .duplicateName name first⟩) := by
  induction entries generalizing seen index with
  | nil => cases h
  | cons entry rest ih =>
      rw [Query.ofEntries] at h
      obtain first | ⟨q, _, h⟩ := bind_eq_error.mp h
      · exact ⟨0, entry, rfl, .inl first⟩
      · split at h
        · next first _ =>
            cases h
            exact ⟨0, entry, rfl, .inr ⟨q.name, first, rfl⟩⟩
        · obtain later | ⟨others, _, h⟩ := bind_eq_error.mp h
          · obtain ⟨i, other, present, found⟩ := ih later
            rw [Nat.add_assoc, Nat.add_comm 1 i] at found
            exact ⟨i + 1, other, present, found⟩
          · cases h

theorem ofDocument_of_lookup {entries : List Json}
    (h : members.lookup "queries" = some (.array entries)) :
    Query.ofDocument (.object members) = Query.ofEntries [] 0 entries := by
  rw [Query.ofDocument, field?, h]

/-- What a document is that has been read. -/
theorem ofDocument_eq_ok {document : Json} {qs : List Query}
    (h : Query.ofDocument document = .ok qs) :
    ∃ members, document = .object members ∧
      (field? members "queries" = none ∧ qs = [] ∨
        ∃ entries, field? members "queries" = some (.array entries) ∧
          Query.ofEntries [] 0 entries = .ok qs) := by
  unfold Query.ofDocument at h
  split at h
  · next members =>
      refine ⟨members, rfl, ?_⟩
      split at h
      · next absent =>
          cases h
          exact .inl ⟨absent, rfl⟩
      · next entries found => exact .inr ⟨entries, found, h⟩
      · cases h
  · cases h

theorem wellFormed_of_ofDocument {document : Json} {qs : List Query}
    (h : Query.ofDocument document = .ok qs) : ∀ q ∈ qs, q.WellFormed := by
  obtain ⟨members, _, ⟨_, rfl⟩ | ⟨entries, _, read⟩⟩ := ofDocument_eq_ok h
  · simp
  · intro q hq
    obtain ⟨i, hi⟩ := List.mem_iff_getElem?.mp hq
    obtain ⟨sameLength, pointwise⟩ := ofEntries_eq_ok read
    have bound : i < entries.length := by
      rw [← sameLength]
      exact (List.getElem?_eq_some_iff.mp hi).1
    exact wellFormed_of_ofEntry (pointwise i _ q (List.getElem?_eq_getElem bound) hi)

end QueryHeaders
