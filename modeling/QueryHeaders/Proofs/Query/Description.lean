import QueryHeaders.Proofs.Query.Entries

/-!
What an entry describes.

`DescribesQuery` relates the members of an entry to a query, field by field and without an order of
reading: each field gives a default or what its value means. The reader computes this relation.
-/
namespace QueryHeaders

variable {α : Type} {Means : Json → α → Prop} {default : α} {members : Members} {name : String}

/-! ## Optional fields -/

/-- What a field gives: a default where it is absent or null, and else what its value means. -/
inductive Gives (Means : Json → α → Prop) (default : α) (members : Members) (name : String) :
    α → Prop where
  | absent : members.lookup name = none → Gives Means default members name default
  | null : members.lookup name = some .null → Gives Means default members name default
  | held {v : Json} {a : α} : members.lookup name = some v → v ≠ .null → Means v a →
      Gives Means default members name a

theorem field?_of_lookup {v : Json} (h : members.lookup name = some v) (notNull : v ≠ .null) :
    field? members name = some v := by
  rw [field?, h]
  cases v with
  | null => exact absurd rfl notNull
  | _ => rfl

theorem gives_iff {a : α} : Gives Means default members name a ↔
    (field? members name).elim (a = default) (Means · a) := by
  constructor
  · rintro (h | h | ⟨h, notNull, means⟩)
    · rw [field?, h]
      rfl
    · rw [field?, h]
      rfl
    · rw [field?_of_lookup h notNull]
      exact means
  · intro h
    cases present : members.lookup name with
    | none =>
        rw [field?, present] at h
        cases h
        exact .absent present
    | some v =>
        by_cases isNull : v = .null
        · subst isNull
          rw [field?, present] at h
          cases h
          exact .null present
        · rw [field?_of_lookup present isNull] at h
          exact .held present isNull h

/-! ## Texts and flags -/

variable {text : String}

def MeansText (v : Json) (text : String) : Prop := ∃ s, v = .string s ∧ text = Text.trim s

def MeansFlag (v : Json) (flag : Bool) : Prop := v = .bool flag

/-- The field is there and holds a text, up to the blanks around it. -/
def HasText (members : Members) (name text : String) : Prop :=
  ∃ s, members.lookup name = some (.string s) ∧ text = Text.trim s

theorem trimmedString_eq_ok_iff :
    trimmedString members name = .ok text ↔ Gives MeansText "" members name text := by
  have blank : Text.trim "" = "" := rfl
  rw [gives_iff, trimmedString, optionalString]
  cases field? members name with
  | none => simp [blank, eq_comm]
  | some v => cases v <;> simp [MeansText, eq_comm]

/-- A text that is not empty is there. -/
theorem gives_text_iff (given : text ≠ "") :
    Gives MeansText "" members name text ↔ HasText members name text := by
  constructor
  · rintro (h | h | ⟨h, _, s, rfl, same⟩)
    · exact absurd rfl given
    · exact absurd rfl given
    · exact ⟨s, h, same⟩
  · rintro ⟨s, h, same⟩
    exact .held h nofun ⟨s, rfl, same⟩

theorem optionalBool_eq_ok_iff {flag : Bool} :
    (∃ found, optionalBool members name = .ok found ∧ found.getD true = flag) ↔
      Gives MeansFlag true members name flag := by
  rw [gives_iff, optionalBool]
  cases field? members name with
  | none => simp [eq_comm]
  | some v => cases v <;> simp [MeansFlag]

/-! ## Categories -/

def MeansMetadata (v : Json) (stated : String) : Prop :=
  ∃ metadata text, v = .object metadata ∧ Gives MeansText "" metadata "category" text ∧
    stated = Text.lowercase text

/-- The category that is stated, or else the one that the name suggests. -/
def DescribesCategory (members : Members) (queryName : String) (category : Category) : Prop :=
  ∃ stated, Gives MeansMetadata "" members "metadata" stated ∧
    (stated = "" ∧ category = .infer queryName ∨ stated = category.name)

theorem ofName?_eq_some_iff {category : Category} :
    Category.ofName? text = some category ↔ text = category.name := by
  constructor
  · intro found
    simpa [eq_comm] using List.find?_some found
  · rintro rfl
    rcases category with _ | (_ | _) <;> rfl

theorem statedCategory_eq_ok_iff {stated : String} :
    statedCategory members = .ok stated ↔ Gives MeansMetadata "" members "metadata" stated := by
  rw [gives_iff, statedCategory]
  cases field? members "metadata" with
  | none => simp [eq_comm]
  | some v =>
      cases v with
      | object metadata =>
          simp only [Option.elim_some, MeansMetadata, bind_eq_ok, trimmedString_eq_ok_iff,
            pure_eq_ok, Json.object.injEq, exists_and_left, exists_eq_left', @eq_comm _ stated]
      | _ => simp [MeansMetadata]

theorem name_ne_empty (category : Category) : category.name ≠ "" := by
  rcases category with _ | (_ | _) <;> decide

theorem categoryOf_eq_ok_iff {queryName : String} {category : Category} :
    categoryOf members queryName = .ok category ↔
      DescribesCategory members queryName category := by
  rw [categoryOf, bind_eq_ok]
  refine exists_congr fun stated => and_congr statedCategory_eq_ok_iff ?_
  split
  · next blank =>
      rw [String.isEmpty_iff] at blank
      subst blank
      rw [pure_eq_ok, eq_comm]
      simp only [true_and, (name_ne_empty category).symm, or_false]
  · next given =>
      rw [String.isEmpty_iff] at given
      simp only [given, false_and, false_or, ← ofName?_eq_some_iff]
      cases Category.ofName? stated with
      | none => simp [throw, throwThe, MonadExceptOf.throw]
      | some found => rw [pure_eq_ok, Option.some_inj]

/-! ## Parameters -/

structure DescribesParameter (members : Members) (p : Parameter) : Prop where
  type : HasText members "type" p.type
  type_ne_empty : p.type ≠ ""
  type_oneLine : Text.hasControl p.type = false
  name : HasText members "name" p.name
  name_isIdentifier : Text.isIdentifier p.name = true

def MeansParameter (item : Json) (p : Parameter) : Prop :=
  ∃ members, item = .object members ∧ DescribesParameter members p

def MeansParameters (v : Json) (ps : List Parameter) : Prop :=
  ∃ items, v = .array items ∧ List.Forall₂ MeansParameter items ps

theorem parameterOf_eq_ok_iff {position : Nat} {item : Json} {p : Parameter} :
    parameterOf position item = .ok p ↔ MeansParameter item p := by
  cases item with
  | object members =>
      simp only [MeansParameter, Json.object.injEq, exists_eq_left', parameterOf, bind_eq_ok,
        parameterField_eq_ok_iff, trimmedString_eq_ok_iff, check_eq_ok, requireOneLine_eq_ok_iff,
        exists_const, pure_eq_ok]
      constructor
      · rintro ⟨type, readType, name, readName, given, oneLine, identifier, rfl⟩
        simp only [Bool.or_eq_true, String.isEmpty_iff, not_or] at given
        exact {
          type := (gives_text_iff given.1).mp readType
          type_ne_empty := given.1
          type_oneLine := oneLine
          name := (gives_text_iff given.2).mp readName
          name_isIdentifier := by simpa using identifier }
      · intro described
        have named := Text.ne_empty_of_isIdentifier described.name_isIdentifier
        refine ⟨p.type, (gives_text_iff described.type_ne_empty).mpr described.type, p.name,
          (gives_text_iff named).mpr described.name, ?_, described.type_oneLine, ?_, rfl⟩
        · simp [described.type_ne_empty, named]
        · simp [described.name_isIdentifier]
  | _ => simp [MeansParameter, parameterOf]

/-- Where a parameter stands does not matter to what it means. -/
theorem parametersFrom_eq_ok_iff {position : Nat} {items : List Json} {ps : List Parameter} :
    parametersFrom position items = .ok ps ↔ List.Forall₂ MeansParameter items ps := by
  induction items generalizing position ps with
  | nil => cases ps <;> simp [parametersFrom]
  | cons item rest ih =>
      simp only [parametersFrom, bind_eq_ok, pure_eq_ok, parameterOf_eq_ok_iff, ih,
        List.forall₂_cons_left_iff, exists_and_left, @eq_comm _ ps]

theorem parametersOf_eq_ok_iff {ps : List Parameter} :
    parametersOf members = .ok ps ↔ Gives MeansParameters [] members "parameters" ps := by
  rw [gives_iff, parametersOf]
  cases field? members "parameters" with
  | none => simp [eq_comm]
  | some v =>
      cases v with
      | array items =>
          simp only [Option.elim_some, MeansParameters, Json.array.injEq, exists_eq_left',
            parametersFrom_eq_ok_iff]
      | _ => simp [MeansParameters]

/-! ## Authentication -/

structure DescribesToken (members : Members) (a : Authentication) : Prop where
  envVar : Gives MeansText "" members "env_var" a.envVar
  keyBehavior : ∃ required, Gives MeansFlag true members "required" required ∧
    a.keyBehavior = if required then .required else .optional

/-- What a type of authentication asks of the other members. -/
inductive MeansScheme (members : Members) : String → Option Authentication → Prop where
  | blank : MeansScheme members "" none
  | none : MeansScheme members "NONE" none
  | token {a : Authentication} : DescribesToken members a → MeansScheme members "TOKEN" (some a)

def MeansAuthentication (v : Json) (found : Option Authentication) : Prop :=
  ∃ members type, v = .object members ∧ Gives MeansText "" members "type" type ∧
    MeansScheme members (Text.uppercase type) found

theorem tokenOf_eq_ok_iff {a : Authentication} :
    tokenOf members = .ok a ↔ DescribesToken members a := by
  simp only [tokenOf, bind_eq_ok, trimmedString_eq_ok_iff, pure_eq_ok]
  constructor
  · rintro ⟨envVar, readVar, found, readRequired, rfl⟩
    exact ⟨readVar, found.getD true, optionalBool_eq_ok_iff.mp ⟨found, readRequired, rfl⟩, rfl⟩
  · rintro ⟨readVar, required, readRequired, behavior⟩
    obtain ⟨found, read, rfl⟩ := optionalBool_eq_ok_iff.mpr readRequired
    refine ⟨a.envVar, readVar, found, read, ?_⟩
    rw [← behavior]

/-- The branches of a reading that knows the type. -/
theorem meansScheme_iff {scheme : String} {found : Option Authentication} :
    MeansScheme members scheme found ↔
      (if scheme = "" ∨ scheme = "NONE" then pure none
        else if scheme = "TOKEN" then do return some (← tokenOf members)
        else throw (.unsupportedAuthType scheme) : Except Defect (Option Authentication)) =
          .ok found := by
  constructor
  · intro means
    cases means with
    | blank => rfl
    | none => rfl
    | token described => simp [tokenOf_eq_ok_iff.mpr described]
  · intro h
    split at h
    · next no =>
        cases pure_eq_ok.mp h
        obtain rfl | rfl := no
        · exact .blank
        · exact .none
    · split at h
      · next token =>
          obtain ⟨a, read, h⟩ := bind_eq_ok.mp h
          cases pure_eq_ok.mp h
          exact token ▸ .token (tokenOf_eq_ok_iff.mp read)
      · cases h

theorem authenticationOf_eq_ok_iff {found : Option Authentication} :
    authenticationOf members = .ok found ↔
      Gives MeansAuthentication none members "authentication" found := by
  rw [gives_iff, authenticationOf]
  cases field? members "authentication" with
  | none => simp [eq_comm]
  | some v =>
      cases v with
      | object auth =>
          simp only [Option.elim_some, MeansAuthentication, Json.object.injEq, bind_eq_ok,
            trimmedString_eq_ok_iff, exists_and_left, exists_eq_left']
          exact exists_congr fun type => and_congr_right fun _ => meansScheme_iff.symm
      | _ => simp [MeansAuthentication]

/-! ## Entries -/

structure DescribesQuery (members : Members) (q : Query) : Prop where
  name : HasText members "name" q.name
  name_isIdentifier : Text.isIdentifier q.name = true
  category : DescribesCategory members q.name q.category
  enabled : Gives MeansFlag true members "enabled" q.enabled
  returnType : Gives MeansText "" members "return_type" q.returnType
  returnType_oneLine : Text.hasControl q.returnType = false
  parameters : Gives MeansParameters [] members "parameters" q.parameters
  authentication : Gives MeansAuthentication none members "authentication" q.authentication

theorem readsAs_iff {entry : Json} {q : Query} :
    ReadsAs entry q ↔ ∃ members, entry = .object members ∧ DescribesQuery members q := by
  simp only [ReadsAs, Query.ofFields, bind_eq_ok, categoryOf_eq_ok_iff, trimmedString_eq_ok_iff,
    requireOneLine_eq_ok_iff, exists_const, parametersOf_eq_ok_iff, authenticationOf_eq_ok_iff,
    pure_eq_ok]
  constructor
  · rintro ⟨members, name, rfl, readName, identifier, category, readCategory, found, readEnabled,
      returnType, readType, oneLine, parameters, readParameters, authentication,
      readAuthentication, rfl⟩
    have named := Text.ne_empty_of_isIdentifier identifier
    exact ⟨members, rfl, {
      name := (gives_text_iff named).mp readName
      name_isIdentifier := identifier
      category := readCategory
      enabled := optionalBool_eq_ok_iff.mp ⟨found, readEnabled, rfl⟩
      returnType := readType
      returnType_oneLine := oneLine
      parameters := readParameters
      authentication := readAuthentication }⟩
  · rintro ⟨members, rfl, described⟩
    have named := Text.ne_empty_of_isIdentifier described.name_isIdentifier
    obtain ⟨found, readEnabled, enabled⟩ := optionalBool_eq_ok_iff.mpr described.enabled
    exact ⟨members, q.name, rfl, (gives_text_iff named).mpr described.name,
      described.name_isIdentifier, q.category, described.category, found, readEnabled,
      q.returnType, described.returnType, described.returnType_oneLine, q.parameters,
      described.parameters, q.authentication, described.authentication, by rw [enabled]⟩

end QueryHeaders
