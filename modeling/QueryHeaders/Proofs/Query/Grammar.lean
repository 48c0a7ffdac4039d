import QueryHeaders.Proofs.Query.Description
import QueryHeaders.Proofs.Schema.Grammar

/-!
The grammar of entries.

`EntryGrammar` says which members make an entry. What one field may hold depends on no other field,
so that members describe a query as soon as each field is of its kind, and these are the entries
that can be read.
-/
namespace QueryHeaders

open Schema (Holds IsString IsBool)

/-- The field is absent or null, or it holds something of a kind. -/
def Optionally (P : Json → Prop) (members : Members) (name : String) : Prop :=
  Holds (fun v => v = .null ∨ P v) members name

def CategoryGrammar (v : Json) : Prop :=
  ∃ s, v = .string s ∧
    Text.lowercase (Text.trim s) ∈ ["", "standard", "example", "template"]

def LineGrammar (v : Json) : Prop := ∃ s, v = .string s ∧ Text.hasControl (Text.trim s) = false

structure ParameterGrammar (members : Members) : Prop where
  type : ∃ s, members.lookup "type" = some (.string s) ∧ Text.trim s ≠ "" ∧
    Text.hasControl (Text.trim s) = false
  name : ∃ s, members.lookup "name" = some (.string s) ∧ Text.isIdentifier (Text.trim s) = true

structure TokenGrammar (members : Members) : Prop where
  envVar : Optionally IsString members "env_var"
  required : Optionally IsBool members "required"

/-- A type of authentication; only that of a token asks something of the other members. -/
def SchemeGrammar (members : Members) (v : Json) : Prop :=
  ∃ s, v = .string s ∧ (Text.uppercase (Text.trim s) ∈ ["", "NONE"] ∨
    Text.uppercase (Text.trim s) = "TOKEN" ∧ TokenGrammar members)

structure EntryGrammar (members : Members) : Prop where
  name : ∃ s, members.lookup "name" = some (.string s) ∧ Text.isIdentifier (Text.trim s) = true
  metadata : Optionally (fun v => ∃ metadata, v = .object metadata ∧
    Optionally CategoryGrammar metadata "category") members "metadata"
  enabled : Optionally IsBool members "enabled"
  returnType : Optionally LineGrammar members "return_type"
  parameters : Optionally (fun v => ∃ items, v = .array items ∧
    ∀ item ∈ items, ∃ parameter, item = .object parameter ∧ ParameterGrammar parameter)
      members "parameters"
  authentication : Optionally (fun v => ∃ auth, v = .object auth ∧
    Optionally (SchemeGrammar auth) auth "type") members "authentication"

/-! ## Optional fields -/

variable {α : Type} {Means : Json → α → Prop} {default : α} {members : Members} {name : String}

/-- A field gives something acceptable exactly if it is of the kind that means so; the default has
to be acceptable. -/
theorem exists_gives {Q : α → Prop} (acceptable : Q default) :
    (∃ a, Gives Means default members name a ∧ Q a) ↔
      Optionally (fun v => ∃ a, Means v a ∧ Q a) members name := by
  constructor
  · rintro ⟨a, h | h | ⟨h, _, means⟩, accepted⟩ v hv <;> rw [h] at hv <;> cases hv
    · exact .inl rfl
    · exact .inr ⟨a, means, accepted⟩
  · intro kind
    cases present : members.lookup name with
    | none => exact ⟨default, .absent present, acceptable⟩
    | some v =>
        by_cases isNull : v = .null
        · exact ⟨default, .null (isNull ▸ present), acceptable⟩
        · obtain ⟨a, means, accepted⟩ := (kind v present).resolve_left isNull
          exact ⟨a, .held present isNull means, accepted⟩

theorem exists_gives_any :
    (∃ a, Gives Means default members name a) ↔
      Optionally (fun v => ∃ a, Means v a) members name := by
  have any : (∃ a, Gives Means default members name a ∧ True) ↔ _ := exists_gives trivial
  simpa only [and_true] using any

theorem Optionally.congr {P Q : Json → Prop} (h : ∀ v, P v ↔ Q v) :
    Optionally P members name ↔ Optionally Q members name :=
  forall₂_congr fun v _ => or_congr_right (h v)

/-! ## Texts and flags -/

/-- A text field gives something acceptable exactly if what it holds is acceptable when trimmed. -/
theorem exists_gives_text {Q : String → Prop} (acceptable : Q "") :
    (∃ text, Gives MeansText "" members name text ∧ Q text) ↔
      Optionally (fun v => ∃ s, v = .string s ∧ Q (Text.trim s)) members name := by
  rw [exists_gives acceptable]
  refine Optionally.congr fun v => ⟨?_, ?_⟩
  · rintro ⟨_, ⟨s, rfl, rfl⟩, accepted⟩
    exact ⟨s, rfl, accepted⟩
  · rintro ⟨s, rfl, accepted⟩
    exact ⟨_, ⟨s, rfl, rfl⟩, accepted⟩

theorem exists_gives_isString :
    (∃ text, Gives MeansText "" members name text) ↔ Optionally IsString members name := by
  rw [exists_gives_any]
  refine Optionally.congr fun v => ⟨?_, ?_⟩
  · rintro ⟨_, s, isText, _⟩
    exact ⟨s, isText⟩
  · rintro ⟨s, isText⟩
    exact ⟨_, s, isText, rfl⟩

theorem exists_gives_line :
    (∃ text, Gives MeansText "" members name text ∧ Text.hasControl text = false) ↔
      Optionally LineGrammar members name :=
  exists_gives_text rfl

theorem exists_gives_flag :
    (∃ flag, Gives MeansFlag true members name flag) ↔ Optionally IsBool members name :=
  exists_gives_any

/-! ## Categories -/

/-- Every category has a name to be stated by, and an empty text leaves the category to be
suggested. -/
theorem exists_category {stated queryName : String} :
    (∃ category : Category, stated = "" ∧ category = .infer queryName ∨ stated = category.name) ↔
      stated ∈ ["", "standard", "example", "template"] := by
  simp only [List.mem_cons, List.not_mem_nil, or_false]
  constructor
  · rintro ⟨category, ⟨blank, _⟩ | rfl⟩
    · exact .inl blank
    · rcases category with _ | (_ | _) <;> decide
  · rintro (blank | rfl | rfl | rfl)
    · exact ⟨_, .inl ⟨blank, rfl⟩⟩
    · exact ⟨.standard, .inr rfl⟩
    · exact ⟨.special .sample, .inr rfl⟩
    · exact ⟨.special .template, .inr rfl⟩

theorem exists_meansMetadata {v : Json} :
    (∃ stated, MeansMetadata v stated ∧ stated ∈ ["", "standard", "example", "template"]) ↔
      ∃ metadata, v = .object metadata ∧ Optionally CategoryGrammar metadata "category" := by
  have category : ∀ metadata, (∃ text, Gives MeansText "" metadata "category" text ∧
      Text.lowercase text ∈ ["", "standard", "example", "template"]) ↔
        Optionally CategoryGrammar metadata "category" :=
    fun _ => exists_gives_text (by decide)
  simp only [← category]
  constructor
  · rintro ⟨_, ⟨metadata, text, rfl, gives, rfl⟩, accepted⟩
    exact ⟨metadata, rfl, text, gives, accepted⟩
  · rintro ⟨metadata, rfl, text, gives, accepted⟩
    exact ⟨_, ⟨metadata, text, rfl, gives, rfl⟩, accepted⟩

theorem exists_describesCategory (queryName : String) :
    (∃ category, DescribesCategory members queryName category) ↔
      Optionally (fun v => ∃ metadata, v = .object metadata ∧
        Optionally CategoryGrammar metadata "category") members "metadata" := by
  unfold DescribesCategory
  rw [exists_comm]
  simp only [exists_and_left, exists_category]
  rw [exists_gives (by decide)]
  exact Optionally.congr fun _ => exists_meansMetadata

/-! ## Parameters -/

theorem exists_describesParameter :
    (∃ p, DescribesParameter members p) ↔ ParameterGrammar members := by
  constructor
  · rintro ⟨⟨type, name⟩, described⟩
    obtain ⟨s, foundType, rfl⟩ := described.type
    obtain ⟨t, foundName, rfl⟩ := described.name
    exact ⟨⟨s, foundType, described.type_ne_empty, described.type_oneLine⟩,
      t, foundName, described.name_isIdentifier⟩
  · rintro ⟨⟨s, foundType, given, oneLine⟩, t, foundName, identifier⟩
    exact ⟨⟨Text.trim s, Text.trim t⟩,
      ⟨s, foundType, rfl⟩, given, oneLine, ⟨t, foundName, rfl⟩, identifier⟩

theorem exists_forall₂ {α β : Type} {R : α → β → Prop} {as : List α} :
    (∃ bs, List.Forall₂ R as bs) ↔ ∀ a ∈ as, ∃ b, R a b := by
  induction as with
  | nil => simp
  | cons a rest ih =>
      simp only [List.forall_mem_cons, ← ih, List.forall₂_cons_left_iff]
      constructor
      · rintro ⟨_, b, bs, first, others, rfl⟩
        exact ⟨⟨b, first⟩, bs, others⟩
      · rintro ⟨⟨b, first⟩, bs, others⟩
        exact ⟨_, b, bs, first, others, rfl⟩

theorem exists_meansParameters {v : Json} :
    (∃ ps, MeansParameters v ps) ↔ ∃ items, v = .array items ∧
      ∀ item ∈ items, ∃ parameter, item = .object parameter ∧ ParameterGrammar parameter := by
  have item : ∀ item, (∃ p, MeansParameter item p) ↔
      ∃ parameter, item = .object parameter ∧ ParameterGrammar parameter := by
    intro item
    simp only [MeansParameter, ← exists_describesParameter, ← exists_and_left]
    exact exists_comm
  simp only [MeansParameters, ← item, ← exists_forall₂, ← exists_and_left]
  exact exists_comm

theorem exists_gives_parameters :
    (∃ ps, Gives MeansParameters [] members name ps) ↔
      Optionally (fun v => ∃ items, v = .array items ∧
        ∀ item ∈ items, ∃ parameter, item = .object parameter ∧ ParameterGrammar parameter)
          members name :=
  exists_gives_any.trans (Optionally.congr fun _ => exists_meansParameters)

/-! ## Authentication -/

theorem exists_describesToken : (∃ a, DescribesToken members a) ↔ TokenGrammar members := by
  constructor
  · rintro ⟨a, gives, needed, givesFlag, _⟩
    exact ⟨exists_gives_isString.mp ⟨_, gives⟩, exists_gives_flag.mp ⟨_, givesFlag⟩⟩
  · rintro ⟨ofVar, ofFlag⟩
    obtain ⟨var, gives⟩ := exists_gives_isString.mpr ofVar
    obtain ⟨needed, givesFlag⟩ := exists_gives_flag.mpr ofFlag
    exact ⟨⟨var, if needed then .required else .optional⟩, gives, needed, givesFlag, rfl⟩

theorem exists_meansScheme {scheme : String} :
    (∃ found, MeansScheme members scheme found) ↔
      scheme ∈ ["", "NONE"] ∨ scheme = "TOKEN" ∧ TokenGrammar members := by
  rw [← exists_describesToken]
  simp only [List.mem_cons, List.not_mem_nil, or_false]
  constructor
  · rintro ⟨_, _ | _ | described⟩
    · exact .inl (.inl rfl)
    · exact .inl (.inr rfl)
    · exact .inr ⟨rfl, _, described⟩
  · rintro ((rfl | rfl) | ⟨rfl, a, described⟩)
    · exact ⟨none, .blank⟩
    · exact ⟨none, .none⟩
    · exact ⟨some a, .token described⟩

theorem exists_meansAuthentication {v : Json} :
    (∃ found, MeansAuthentication v found) ↔
      ∃ auth, v = .object auth ∧ Optionally (SchemeGrammar auth) auth "type" := by
  have scheme : ∀ auth, (∃ type, Gives MeansText "" auth "type" type ∧
      (Text.uppercase type ∈ ["", "NONE"] ∨ Text.uppercase type = "TOKEN" ∧ TokenGrammar auth)) ↔
        Optionally (SchemeGrammar auth) auth "type" :=
    fun _ => exists_gives_text (.inl (by decide))
  simp only [← scheme, ← exists_meansScheme]
  constructor
  · rintro ⟨found, auth, type, rfl, gives, means⟩
    exact ⟨auth, rfl, type, gives, found, means⟩
  · rintro ⟨auth, rfl, type, gives, found, means⟩
    exact ⟨found, auth, type, rfl, gives, means⟩

theorem exists_gives_authentication :
    (∃ found, Gives MeansAuthentication none members name found) ↔
      Optionally (fun v => ∃ auth, v = .object auth ∧
        Optionally (SchemeGrammar auth) auth "type") members name :=
  exists_gives_any.trans (Optionally.congr fun _ => exists_meansAuthentication)

/-! ## Entries -/

/-- Each field is described on its own, and together they describe a query. -/
theorem exists_describesQuery : (∃ q, DescribesQuery members q) ↔ EntryGrammar members := by
  constructor
  · rintro ⟨q, described⟩
    obtain ⟨s, found, named⟩ := described.name
    exact {
      name := ⟨s, found, named ▸ described.name_isIdentifier⟩
      metadata := (exists_describesCategory q.name).mp ⟨_, described.category⟩
      enabled := exists_gives_flag.mp ⟨_, described.enabled⟩
      returnType := exists_gives_line.mp ⟨_, described.returnType, described.returnType_oneLine⟩
      parameters := exists_gives_parameters.mp ⟨_, described.parameters⟩
      authentication := exists_gives_authentication.mp ⟨_, described.authentication⟩ }
  · intro grammar
    obtain ⟨s, found, identifier⟩ := grammar.name
    obtain ⟨category, ofMetadata⟩ := (exists_describesCategory (Text.trim s)).mpr grammar.metadata
    obtain ⟨enabled, ofFlag⟩ := exists_gives_flag.mpr grammar.enabled
    obtain ⟨returnType, ofLine, oneLine⟩ := exists_gives_line.mpr grammar.returnType
    obtain ⟨parameters, ofItems⟩ := exists_gives_parameters.mpr grammar.parameters
    obtain ⟨authentication, ofAuth⟩ := exists_gives_authentication.mpr grammar.authentication
    let name := Text.trim s
    refine ⟨{ name, returnType, parameters, category, authentication, enabled }, ?_⟩
    exact {
      name := ⟨s, found, rfl⟩
      name_isIdentifier := identifier
      category := ofMetadata
      enabled := ofFlag
      returnType := ofLine
      returnType_oneLine := oneLine
      parameters := ofItems
      authentication := ofAuth }

/-- The reader accepts exactly the entries of the grammar, wherever they stand, and gives the query
that the entry describes. -/
theorem ofEntry_exact (index : Nat) (entry : Json) :
    ((∃ q, Query.ofEntry index entry = .ok q) ↔
      ∃ members, entry = .object members ∧ EntryGrammar members) ∧
    ∀ q, Query.ofEntry index entry = .ok q ↔
      ∃ members, entry = .object members ∧ DescribesQuery members q := by
  simp only [ofEntry_eq_ok_iff, readsAs_iff, ← exists_describesQuery, ← exists_and_left,
    implies_true, and_true]
  exact exists_comm

/-- Blanks around a text and the case of a type do not count, and null is as good as absent. -/
example : Query.ofEntry 3 (.object [("name", .string " IQuery_Template_Run\n"),
    ("metadata", .object [("category", .string " ")]), ("enabled", .null),
    ("parameters", .array [.object [("type", .string "const int* "), ("name", .string "to")]]),
    ("authentication", .object [("type", .string " Token"), ("required", .bool false)])]) =
      .ok {
        name := "IQuery_Template_Run"
        returnType := ""
        parameters := [⟨"const int*", "to"⟩]
        category := .special .template
        authentication := some ⟨"", .optional⟩ } := by
  decide

end QueryHeaders
