import QueryHeaders.Proofs.Query.Description

/-!
Canonical entries.

A query can be written back as an entry that says everything outright: texts without blanks around
them, the category by its name, flags that are set, a token by its type. A query that has been read
is what its canonical entry is read as, wherever that entry stands, so that reading and writing
again changes no entry that is canonical.
-/
namespace QueryHeaders

def Parameter.entry (p : Parameter) : Json :=
  .object [("name", .string p.name), ("type", .string p.type)]

def Authentication.entry (a : Authentication) : Json :=
  .object [("env_var", .string a.envVar), ("required", .bool (a.keyBehavior = .required)),
    ("type", .string Authentication.typeName)]

def authenticationEntry : Option Authentication → Json
  | none => .null
  | some a => a.entry

def Query.canonicalMembers (q : Query) : Members :=
  [("authentication", authenticationEntry q.authentication),
   ("enabled", .bool q.enabled),
   ("metadata", .object [("category", .string q.category.name)]),
   ("name", .string q.name),
   ("parameters", .array (q.parameters.map Parameter.entry)),
   ("return_type", .string q.returnType)]

def Query.entry (q : Query) : Json := .object q.canonicalMembers

def canonicalDocument (qs : List Query) : Json :=
  .object [("queries", .array (qs.map Query.entry))]

/-! ## What canonical entries describe -/

variable {members : Members} {name text : String} {index : Nat} {q : Query} {qs : List Query}

theorem hasText_of_isTrimmed (held : members.lookup name = some (.string text))
    (trimmed : Text.IsTrimmed text) : HasText members name text :=
  ⟨text, held, trimmed.trim_eq.symm⟩

theorem gives_text_of_isTrimmed (held : members.lookup name = some (.string text))
    (trimmed : Text.IsTrimmed text) : Gives MeansText "" members name text :=
  .held held nofun ⟨text, rfl, trimmed.trim_eq.symm⟩

theorem gives_flag_of_bool {flag : Bool} (held : members.lookup name = some (.bool flag)) :
    Gives MeansFlag true members name flag :=
  .held held nofun rfl

/-- The name of a category is its own spelling in lower case, without blanks around it. -/
theorem category_name_canonical (category : Category) :
    Text.lowercase (Text.trim category.name) = category.name := by
  rcases category with _ | (_ | _) <;> decide

theorem describesCategory_canonical (q : Query) :
    DescribesCategory q.canonicalMembers q.name q.category := by
  refine ⟨q.category.name, .held rfl nofun ?_, .inr rfl⟩
  refine ⟨_, Text.trim q.category.name, rfl, .held rfl nofun ⟨_, rfl, rfl⟩, ?_⟩
  exact (category_name_canonical q.category).symm

theorem Parameter.WellFormed.means_entry {p : Parameter} (wf : p.WellFormed) :
    MeansParameter p.entry p := by
  have trimmed := Text.isTrimmed_of_isIdentifier wf.name_isIdentifier
  exact ⟨_, rfl, {
    type := hasText_of_isTrimmed rfl wf.type_isTrimmed
    type_ne_empty := wf.type_ne_empty
    type_oneLine := wf.type_oneLine
    name := hasText_of_isTrimmed rfl trimmed
    name_isIdentifier := wf.name_isIdentifier }⟩

theorem meansParameters_entries {ps : List Parameter} (wf : ∀ p ∈ ps, p.WellFormed) :
    MeansParameters (.array (ps.map Parameter.entry)) ps := by
  refine ⟨_, rfl, ?_⟩
  rw [List.forall₂_map_left_iff, List.forall₂_same]
  intro p hp
  exact (wf p hp).means_entry

theorem Authentication.WellFormed.means_entry {a : Authentication} (wf : a.WellFormed) :
    MeansAuthentication a.entry (some a) := by
  refine ⟨_, Authentication.typeName, rfl, gives_text_of_isTrimmed rfl ?_, .token ?_⟩
  · exact Text.isTrimmed_of_isIdentifier (by decide)
  · refine ⟨gives_text_of_isTrimmed rfl wf.envVar_isTrimmed, _, gives_flag_of_bool rfl, ?_⟩
    cases behavior : a.keyBehavior with
    | required => rfl
    | optional => rfl
    | auto => exact absurd behavior wf.keyBehavior_ne_auto

theorem gives_authentication_canonical
    (wf : ∀ a, q.authentication = some a → a.WellFormed) :
    Gives MeansAuthentication none q.canonicalMembers "authentication" q.authentication := by
  have written : q.canonicalMembers.lookup "authentication" =
      some (authenticationEntry q.authentication) := rfl
  cases stated : q.authentication with
  | none =>
      rw [stated] at written
      exact .null written
  | some a =>
      rw [stated] at written
      exact .held written nofun (wf a stated).means_entry

/-! ## Reading canonical entries -/

/-- The canonical entry of a well formed query describes the query. -/
theorem Query.WellFormed.describes (wf : q.WellFormed) : DescribesQuery q.canonicalMembers q where
  name := hasText_of_isTrimmed rfl (Text.isTrimmed_of_isIdentifier wf.name_isIdentifier)
  name_isIdentifier := wf.name_isIdentifier
  category := describesCategory_canonical q
  enabled := gives_flag_of_bool rfl
  returnType := gives_text_of_isTrimmed rfl wf.returnType_isTrimmed
  returnType_oneLine := wf.returnType_oneLine
  parameters := .held rfl nofun (meansParameters_entries wf.parameters)
  authentication := gives_authentication_canonical wf.authentication

theorem Query.WellFormed.readsAs_entry (wf : q.WellFormed) : ReadsAs q.entry q :=
  readsAs_iff.mpr ⟨q.canonicalMembers, rfl, wf.describes⟩

/-- Well formed queries are exactly those that some entry is read as. -/
theorem wellFormed_iff_exists_ofEntry :
    q.WellFormed ↔ ∃ index entry, Query.ofEntry index entry = .ok q := by
  constructor
  · intro wf
    exact ⟨0, q.entry, (ofEntry_eq_ok_iff 0).mpr wf.readsAs_entry⟩
  · rintro ⟨_, _, read⟩
    exact wellFormed_of_ofEntry read

theorem ofDocument_canonicalDocument (wf : ∀ q ∈ qs, q.WellFormed)
    (distinct : (qs.map Query.name).Nodup) :
    Query.ofDocument (canonicalDocument qs) = .ok qs := by
  rw [canonicalDocument, ofDocument_of_lookup rfl, ofEntries_eq_ok_iff,
    List.forall₂_map_left_iff, List.forall₂_same]
  refine ⟨fun q hq => (wf q hq).readsAs_entry, distinct, ?_⟩
  intro q _
  rfl

/-- A query that has been read is read again from its canonical entry, and a list of queries from
the document of their canonical entries. -/
theorem ofEntry_canonical :
    (∀ index entry q, Query.ofEntry index entry = .ok q →
      ∀ other, Query.ofEntry other q.entry = .ok q) ∧
    ∀ document qs, Query.ofDocument document = .ok qs →
      Query.ofDocument (canonicalDocument qs) = .ok qs := by
  constructor
  · intro index entry q read other
    exact (ofEntry_eq_ok_iff other).mpr (wellFormed_of_ofEntry read).readsAs_entry
  · intro document qs read
    exact ofDocument_canonicalDocument (wellFormed_of_ofDocument read)
      (nodup_names_of_ofDocument read)

/-- An entry whose name suggests another category than it states, with blanks around its texts. -/
def statedEntry : Json :=
  .object [
    ("authentication", .object [("env_var", .string " KEY"), ("required", .bool false),
      ("type", .string "Token ")]),
    ("metadata", .object [("category", .string " Template")]),
    ("name", .string " IQuery_Example_Run "),
    ("parameters", .array [.object [("name", .string "to "), ("type", .string " int, int")]])]

def statedQuery : Query where
  name := "IQuery_Example_Run"
  returnType := ""
  parameters := [⟨"int, int", "to"⟩]
  category := .special .template
  authentication := some ⟨"KEY", .optional⟩

theorem ofEntry_canonical_statedEntry :
    Query.ofEntry 3 statedEntry = .ok statedQuery ∧
      Query.ofEntry 0 statedQuery.entry = .ok statedQuery ∧
      Query.ofDocument (.object [("queries", .array [statedEntry])]) = .ok [statedQuery] ∧
      Query.ofDocument (canonicalDocument [statedQuery]) = .ok [statedQuery] := by
  have readEntry : Query.ofEntry 3 statedEntry = .ok statedQuery := by decide
  have readDocument : Query.ofDocument (.object [("queries", .array [statedEntry])]) =
      .ok [statedQuery] := by decide
  exact ⟨readEntry, ofEntry_canonical.1 _ _ _ readEntry 0, readDocument,
    ofEntry_canonical.2 _ _ readDocument⟩

end QueryHeaders
