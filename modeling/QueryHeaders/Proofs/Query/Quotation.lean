import QueryHeaders.Proofs.Query.Causes
import QueryHeaders.Proofs.Text.LineBreaks

/-!
What the errors of an entry quote.

Four defects quote a text of the entry: its name, the category and the type of authentication that
it states, and the name of a parameter. The text is quoted trimmed, a category in lower case and a
type in upper case. Whatever else a message says is fixed, a numeral or an identifier, so that it
breaks a line exactly if the quoted text does.
-/
namespace QueryHeaders

variable {α : Type} {members : Members} {name field text : String} {position : Nat}
  {entry : Json} {d : Defect}

/-- The defect quotes this text of the entry. -/
inductive Quotes (entry : Json) : Defect → String → Prop where
  | name {s : String} (found : entry.member? "name" = some (.string s)) :
      Quotes entry (.invalidName (Text.trim s)) (Text.trim s)
  | category {metadata : Json} {s : String} (stated : entry.member? "metadata" = some metadata)
      (found : metadata.member? "category" = some (.string s)) :
      Quotes entry (.invalidCategory (Text.lowercase (Text.trim s))) (Text.trim s)
  | scheme {authentication : Json} {s : String}
      (stated : entry.member? "authentication" = some authentication)
      (found : authentication.member? "type" = some (.string s)) :
      Quotes entry (.unsupportedAuthType (Text.uppercase (Text.trim s))) (Text.trim s)
  | parameter {items : List Json} {position : Nat} {item : Json} {s : String}
      (list : entry.member? "parameters" = some (.array items))
      (present : items[position]? = some item) (found : item.member? "name" = some (.string s)) :
      Quotes entry (.invalidParameterName position (Text.trim s)) (Text.trim s)

def Defect.IsOneLine (d : Defect) : Prop := Text.hasLineBreak d.message = false

/-! ## Messages -/

theorem hasLineBreak_framed {before after : String} (opening : Text.hasLineBreak before = false)
    (closing : Text.hasLineBreak after = false) (text : String) :
    Text.hasLineBreak (before ++ text ++ after) = Text.hasLineBreak text := by
  rw [Text.hasLineBreak_append, Text.hasLineBreak_append, opening, closing, Bool.false_or,
    Bool.or_false]

theorem isOneLine_invalidFieldType {expected : Expected} (fixed : Text.hasLineBreak field = false) :
    (Defect.invalidFieldType field expected).IsOneLine := by
  have meant : Text.hasLineBreak expected.message = false := by
    cases expected <;> exact Text.hasLineBreak_ofList rfl
  change Text.hasLineBreak ("field '" ++ field ++ "' must be " ++ expected.message) = false
  rw [Text.hasLineBreak_append, hasLineBreak_framed, fixed, meant]
  · rfl
  · exact Text.hasLineBreak_ofList rfl
  · exact Text.hasLineBreak_ofList rfl

theorem isOneLine_controlCharacter (fixed : Text.hasLineBreak field = false) :
    (Defect.controlCharacter field).IsOneLine := by
  refine (hasLineBreak_framed ?_ ?_ field).trans fixed
  · exact Text.hasLineBreak_ofList rfl
  · exact Text.hasLineBreak_ofList rfl

theorem isOneLine_invalidParameter : (Defect.invalidParameter position).IsOneLine := by
  refine (hasLineBreak_framed ?_ ?_ _).trans (Text.hasLineBreak_toString position)
  · exact Text.hasLineBreak_ofList rfl
  · exact Text.hasLineBreak_ofList rfl

theorem isOneLine_missingName : Defect.missingName.IsOneLine :=
  Text.hasLineBreak_ofList rfl

theorem isOneLine_entryNotMapping : Defect.entryNotMapping.IsOneLine :=
  Text.hasLineBreak_ofList rfl

theorem isOneLine_duplicateName (fixed : Text.hasLineBreak name = false) {first : Nat} :
    (Defect.duplicateName name first).IsOneLine := by
  change Text.hasLineBreak ("duplicate query name '" ++ name ++ "' (first defined at index " ++
    toString first ++ ")") = false
  rw [hasLineBreak_framed, Text.hasLineBreak_toString]
  · rw [hasLineBreak_framed, fixed]
    · exact Text.hasLineBreak_ofList rfl
    · exact Text.hasLineBreak_ofList rfl
  · exact Text.hasLineBreak_ofList rfl

theorem isOneLine_disabledButFlagged {feature : Feature} :
    (Defect.disabledButFlagged feature).IsOneLine := by
  have flag : Text.hasLineBreak feature.flag = false := by
    cases feature <;> exact Text.hasLineBreak_ofList rfl
  refine (hasLineBreak_framed ?_ ?_ feature.flag).trans flag
  · exact Text.hasLineBreak_ofList rfl
  · exact Text.hasLineBreak_ofList rfl

/-- The message breaks a line exactly if the quoted text does. -/
theorem Quotes.hasLineBreak_message (quotes : Quotes entry d text) :
    Text.hasLineBreak d.message = Text.hasLineBreak text := by
  cases quotes with
  | name found =>
      refine hasLineBreak_framed ?_ ?_ _
      · exact Text.hasLineBreak_ofList rfl
      · exact Text.hasLineBreak_ofList rfl
  | category stated found =>
      refine (hasLineBreak_framed ?_ ?_ _).trans (Text.hasLineBreak_lowercase _)
      · exact Text.hasLineBreak_ofList rfl
      · exact Text.hasLineBreak_ofList rfl
  | scheme stated found =>
      refine (hasLineBreak_framed ?_ ?_ _).trans (Text.hasLineBreak_uppercase _)
      · exact Text.hasLineBreak_ofList rfl
      · exact Text.hasLineBreak_ofList rfl
  | @parameter items position item s list present found =>
      change Text.hasLineBreak ("parameter " ++ toString position ++ " name '" ++ Text.trim s ++
        "' is not a valid identifier") = _
      rw [hasLineBreak_framed]
      · rw [hasLineBreak_framed, Text.hasLineBreak_toString]
        · exact Text.hasLineBreak_ofList rfl
        · exact Text.hasLineBreak_ofList rfl
      · exact Text.hasLineBreak_ofList rfl

/-! ## Readers of fields -/

/-- The defect is told on one line, or it quotes a text of the entry. -/
def Defect.IsTraced (entry : Json) (d : Defect) : Prop := d.IsOneLine ∨ ∃ text, Quotes entry d text

theorem failsOnly_trimmedString_isOneLine (fixed : Text.hasLineBreak name = false) :
    FailsOnly Defect.IsOneLine (trimmedString members name) := by
  apply FailsOnly.bind
  · rw [optionalString]
    split
    · exact FailsOnly.ok none
    · exact FailsOnly.ok (some _)
    · exact FailsOnly.error (isOneLine_invalidFieldType fixed)
  · intro found
    exact FailsOnly.ok _

theorem failsOnly_optionalBool_isOneLine (fixed : Text.hasLineBreak name = false) :
    FailsOnly Defect.IsOneLine (optionalBool members name) := by
  rw [optionalBool]
  split
  · exact FailsOnly.ok none
  · exact FailsOnly.ok (some _)
  · exact FailsOnly.error (isOneLine_invalidFieldType fixed)

/-- A category that is not blank is stated, and it is quoted. -/
theorem quotes_category {stated : String} (read : statedCategory members = .ok stated)
    (given : stated ≠ "") : ∃ text, Quotes (.object members) (.invalidCategory stated) text := by
  cases statedCategory_eq_ok_iff.mp read with
  | absent => exact absurd rfl given
  | null => exact absurd rfl given
  | held found _ means =>
      obtain ⟨metadata, text, rfl, category, rfl⟩ := means
      have notBlank : text ≠ "" := by
        intro blank
        rw [blank] at given
        exact given rfl
      obtain ⟨s, stated, rfl⟩ := (gives_text_iff notBlank).mp category
      exact ⟨_, .category found stated⟩

theorem failsOnly_categoryOf_isTraced :
    FailsOnly (Defect.IsTraced (.object members)) (categoryOf members name) := by
  intro d failed
  rw [categoryOf] at failed
  obtain unread | ⟨stated, read, failed⟩ := bind_eq_error.mp failed
  · left
    rw [statedCategory] at unread
    split at unread
    · cases unread
    · obtain noText | ⟨_, _, done⟩ := bind_eq_error.mp unread
      · exact failsOnly_trimmedString_isOneLine (by decide) d noText
      · cases done
    · cases unread
      exact isOneLine_invalidFieldType (by decide)
  · right
    split at failed
    · cases failed
    · next given =>
        split at failed
        · cases failed
        · cases failed
          exact quotes_category read (by simpa using given)

theorem failsOnly_tokenOf_isOneLine : FailsOnly Defect.IsOneLine (tokenOf members) := by
  refine FailsOnly.bind (failsOnly_trimmedString_isOneLine (by decide)) ?_
  intro envVar
  exact FailsOnly.bind (failsOnly_optionalBool_isOneLine (by decide)) fun _ => FailsOnly.ok _

theorem failsOnly_authenticationOf_isTraced :
    FailsOnly (Defect.IsTraced (.object members)) (authenticationOf members) := by
  intro d failed
  unfold authenticationOf at failed
  split at failed
  · cases failed
  · next auth found =>
      obtain noText | ⟨type, read, failed⟩ := bind_eq_error.mp failed
      · exact .inl (failsOnly_trimmedString_isOneLine (by decide) d noText)
      · dsimp only at failed
        split at failed
        · cases failed
        · next known =>
            split at failed
            · obtain noToken | ⟨_, _, done⟩ := bind_eq_error.mp failed
              · exact .inl (failsOnly_tokenOf_isOneLine d noToken)
              · cases done
            · cases failed
              have notBlank : type ≠ "" := by
                intro blank
                rw [blank] at known
                exact known (.inl rfl)
              obtain ⟨s, stated, rfl⟩ :=
                (gives_text_iff notBlank).mp (trimmedString_eq_ok_iff.mp read)
              exact .inr ⟨_, .scheme (lookup_of_field? found) stated⟩
  · cases failed
    exact .inl (isOneLine_invalidFieldType (by decide))

/-! ## Parameters -/

/-- The defect is told on one line, or it quotes the name of a parameter. -/
def Defect.IsOneLineOrName (d : Defect) : Prop :=
  d.IsOneLine ∨ ∃ position name, d = .invalidParameterName position name

theorem hasLineBreak_parameterField (fixed : Text.hasLineBreak name = false) :
    Text.hasLineBreak ("parameters[" ++ toString position ++ "]." ++ name) = false := by
  rw [Text.hasLineBreak_append, hasLineBreak_framed (by decide) (by decide),
    Text.hasLineBreak_toString, fixed]
  rfl

theorem failsOnly_parameterField_isOneLine (fixed : Text.hasLineBreak name = false) :
    FailsOnly Defect.IsOneLine (parameterField members position name) := by
  rw [parameterField]
  split
  · exact FailsOnly.ok _
  · exact FailsOnly.error (isOneLine_invalidFieldType (hasLineBreak_parameterField fixed))

theorem failsOnly_parameterOf_isOneLineOrName (item : Json) :
    FailsOnly Defect.IsOneLineOrName (parameterOf position item) := by
  cases item with
  | object members =>
      rw [parameterOf]
      refine FailsOnly.bind ((failsOnly_parameterField_isOneLine (by decide)).mono fun _ => .inl) ?_
      intro type
      refine FailsOnly.bind ((failsOnly_parameterField_isOneLine (by decide)).mono fun _ => .inl) ?_
      intro name
      refine FailsOnly.check (fun _ => .inl isOneLine_invalidParameter) ?_
      refine FailsOnly.bind (failsOnly_requireOneLine (.inl ?_)) ?_
      · apply isOneLine_controlCharacter
        rw [hasLineBreak_framed (by decide) (by decide), Text.hasLineBreak_toString]
      · intro oneLine
        exact FailsOnly.check (fun _ => .inr ⟨position, name, rfl⟩) (FailsOnly.ok _)
  | _ => exact FailsOnly.error (.inl isOneLine_invalidParameter)

theorem failsOnly_parametersFrom_isOneLineOrName (items : List Json) :
    FailsOnly Defect.IsOneLineOrName (parametersFrom position items) := by
  induction items generalizing position with
  | nil => exact FailsOnly.ok []
  | cons item rest ih =>
      refine FailsOnly.bind (failsOnly_parameterOf_isOneLineOrName item) ?_
      intro p
      exact FailsOnly.bind ih fun _ => FailsOnly.ok _

theorem failsOnly_parametersOf_isTraced :
    FailsOnly (Defect.IsTraced (.object members)) (parametersOf members) := by
  rw [parametersOf]
  split
  · exact FailsOnly.ok []
  · next items found =>
      intro d failed
      obtain oneLine | ⟨position, name, rfl⟩ :=
        failsOnly_parametersFrom_isOneLineOrName items d failed
      · exact .inl oneLine
      · obtain plain | ⟨i, name, named, item, present, ⟨s, given, rfl⟩, _⟩ :=
          failsOnly_parametersFrom_names items _ failed
        · cases plain
        · rw [Nat.zero_add] at named
          cases named
          exact .inr ⟨_, .parameter (lookup_of_field? found) present given⟩
  · exact FailsOnly.error (.inl (isOneLine_invalidFieldType (by decide)))

/-! ## Entries -/

theorem failsOnly_ofFields_isTraced :
    FailsOnly (Defect.IsTraced (.object members)) (Query.ofFields name members) := by
  have oneLine : ∀ d : Defect, d.IsOneLine → d.IsTraced (.object members) := fun _ => .inl
  rw [Query.ofFields]
  refine FailsOnly.bind failsOnly_categoryOf_isTraced fun category => ?_
  refine FailsOnly.bind ((failsOnly_optionalBool_isOneLine (by decide)).mono oneLine) ?_
  intro enabled
  refine FailsOnly.bind ((failsOnly_trimmedString_isOneLine (by decide)).mono oneLine) ?_
  intro returnType
  refine FailsOnly.bind (failsOnly_requireOneLine (oneLine _ ?_)) ?_
  · exact isOneLine_controlCharacter (by decide)
  · intro checked
    refine FailsOnly.bind failsOnly_parametersOf_isTraced fun parameters => ?_
    exact FailsOnly.bind failsOnly_authenticationOf_isTraced fun _ => FailsOnly.ok _

/-- A traced defect breaks a line exactly if a text that it quotes does. -/
theorem Defect.IsTraced.hasLineBreak_iff (traced : d.IsTraced entry) :
    Text.hasLineBreak d.message = true ↔
      ∃ text, Quotes entry d text ∧ Text.hasLineBreak text = true := by
  constructor
  · intro breaks
    obtain oneLine | ⟨text, quotes⟩ := traced
    · rw [oneLine] at breaks
      cases breaks
    · rw [quotes.hasLineBreak_message] at breaks
      exact ⟨text, quotes, breaks⟩
  · intro given
    obtain ⟨text, quotes, breaks⟩ := given
    rw [quotes.hasLineBreak_message, breaks]

/-! ## Errors -/

theorem hasLineBreak_location (index : Nat) (name : Option String) :
    Text.hasLineBreak (Location.entry index name).message = name.any Text.hasLineBreak := by
  cases name with
  | none =>
      change Text.hasLineBreak ("query at index " ++ toString index) = false
      rw [Text.hasLineBreak_append, Text.hasLineBreak_toString]
      decide
  | some name =>
      change Text.hasLineBreak ("query at index " ++ toString index ++ " ('" ++ name ++ "')") = _
      have opening : Text.hasLineBreak ("query at index " ++ toString index ++ " ('") = false := by
        rw [hasLineBreak_framed (by decide) (by decide), Text.hasLineBreak_toString]
      exact hasLineBreak_framed opening (by decide) name

theorem DefinitionError.hasLineBreak_message (e : DefinitionError) :
    Text.hasLineBreak e.message =
      (Text.hasLineBreak e.location.message || Text.hasLineBreak e.defect.message) := by
  change Text.hasLineBreak (e.location.message ++ ": " ++ e.defect.message) = _
  have colon : Text.hasLineBreak ": " = false := by decide
  rw [Text.hasLineBreak_append, Text.hasLineBreak_append, colon, Bool.or_false]

/-- The place of an error quotes a name too, but none that breaks a line where the defect does not. -/
theorem DefinitionError.hasLineBreak_message_of_location {e : DefinitionError}
    (implied : Text.hasLineBreak e.location.message = true →
      Text.hasLineBreak e.defect.message = true) :
    Text.hasLineBreak e.message = Text.hasLineBreak e.defect.message := by
  rw [e.hasLineBreak_message]
  cases placed : Text.hasLineBreak e.location.message with
  | false => rw [Bool.false_or]
  | true => rw [implied placed, Bool.or_self]

/-- The ways in which an entry cannot be read: it gives no name, its name is no identifier, or a
field is defective. -/
theorem ofEntry_eq_error {index : Nat} {e : DefinitionError}
    (failed : Query.ofEntry index entry = .error e) :
    (∃ d, d.IsOneLine ∧ e = ⟨.entry index none, d⟩) ∨
      ∃ members s, entry = .object members ∧ members.lookup "name" = some (.string s) ∧
        (e = ⟨.entry index (some (Text.trim s)), .invalidName (Text.trim s)⟩ ∨
          Text.isIdentifier (Text.trim s) = true ∧
            ∃ d, Query.ofFields (Text.trim s) members = .error d ∧
              e = ⟨.entry index (some (Text.trim s)), d⟩) := by
  unfold Query.ofEntry at failed
  split at failed
  · next members =>
      split at failed
      · next d noText =>
          cases failed
          exact .inl ⟨d, failsOnly_trimmedString_isOneLine (by decide) d noText, rfl⟩
      · next name read =>
          split at failed
          · cases failed
            exact .inl ⟨_, isOneLine_missingName, rfl⟩
          · next given =>
              have named := trimmedString_eq_ok_iff.mp read
              rw [gives_text_iff (by simpa using given)] at named
              obtain ⟨s, found, rfl⟩ := named
              refine .inr ⟨members, s, rfl, found, ?_⟩
              split at failed
              · cases failed
                exact .inl rfl
              · next identifier =>
                  split at failed
                  · next d broken =>
                      cases failed
                      exact .inr ⟨by simpa using identifier, d, broken, rfl⟩
                  · cases failed
  · cases failed
    exact .inl ⟨_, isOneLine_entryNotMapping, rfl⟩

/-- The error of an entry breaks a line exactly if a text of the entry that it quotes does. -/
theorem hasLineBreak_of_ofEntry {index : Nat} {e : DefinitionError}
    (failed : Query.ofEntry index entry = .error e) :
    Text.hasLineBreak e.message = true ↔
      ∃ text, Quotes entry e.defect text ∧ Text.hasLineBreak text = true := by
  have traced : e.defect.IsTraced entry ∧ (Text.hasLineBreak e.location.message = true →
      Text.hasLineBreak e.defect.message = true) := by
    obtain ⟨d, oneLine, rfl⟩ | ⟨members, s, rfl, found, rfl | ⟨identifier, d, broken, rfl⟩⟩ :=
      ofEntry_eq_error failed
    · refine ⟨.inl oneLine, ?_⟩
      rw [hasLineBreak_location]
      nofun
    · have quotes : Quotes (.object members) (.invalidName (Text.trim s)) (Text.trim s) :=
        .name found
      refine ⟨.inr ⟨_, quotes⟩, ?_⟩
      rw [hasLineBreak_location, Option.any_some, quotes.hasLineBreak_message]
      exact id
    · refine ⟨failsOnly_ofFields_isTraced d broken, ?_⟩
      rw [hasLineBreak_location, Option.any_some, Text.hasLineBreak_of_isIdentifier identifier]
      nofun
  rw [DefinitionError.hasLineBreak_message_of_location traced.2, traced.1.hasLineBreak_iff]

end QueryHeaders
