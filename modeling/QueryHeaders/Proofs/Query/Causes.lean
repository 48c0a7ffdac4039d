import QueryHeaders.Proofs.Query.Description
import QueryHeaders.Proofs.Query.Shape

/-!
Where the defects of an entry come from.

The readers of fields complain of what the fields hold. None of them complains of the name of the
entry, of another entry or of the features of a run, and the name that is called no identifier is
that of a parameter.
-/
namespace QueryHeaders

variable {α : Type} {members : Members} {name : String} {position : Nat}

/-- The defects of an entry that do not quote a name. -/
def Defect.IsPlain : Defect → Prop
  | .entryNotMapping | .missingName | .invalidFieldType _ _ | .invalidCategory _
  | .invalidParameter _ | .controlCharacter _ | .unsupportedAuthType _ => True
  | _ => False

def FailsPlainly (result : Except Defect α) : Prop := FailsOnly Defect.IsPlain result

theorem FailsOnly.mono {ε : Type} {P Q : ε → Prop} {result : Except ε α}
    (h : FailsOnly P result) (weaker : ∀ e, P e → Q e) : FailsOnly Q result := by
  intro e failed
  exact weaker e (h e failed)

/-! ## Fields without names -/

theorem failsPlainly_trimmedString : FailsPlainly (trimmedString members name) := by
  apply FailsOnly.bind
  · rw [optionalString]
    split
    · exact FailsOnly.ok none
    · exact FailsOnly.ok (some _)
    · exact FailsOnly.error trivial
  · intro found
    exact FailsOnly.ok _

theorem failsPlainly_optionalBool : FailsPlainly (optionalBool members name) := by
  rw [optionalBool]
  split
  · exact FailsOnly.ok none
  · exact FailsOnly.ok (some _)
  · exact FailsOnly.error trivial

theorem failsPlainly_categoryOf : FailsPlainly (categoryOf members name) := by
  apply FailsOnly.bind
  · rw [statedCategory]
    split
    · exact FailsOnly.ok ""
    · exact FailsOnly.bind failsPlainly_trimmedString fun _ => FailsOnly.ok _
    · exact FailsOnly.error trivial
  · intro stated
    split
    · exact FailsOnly.ok _
    · split
      · exact FailsOnly.ok _
      · exact FailsOnly.error trivial

theorem failsPlainly_tokenOf : FailsPlainly (tokenOf members) := by
  refine FailsOnly.bind failsPlainly_trimmedString ?_
  intro envVar
  exact FailsOnly.bind failsPlainly_optionalBool fun _ => FailsOnly.ok _

theorem failsPlainly_authenticationOf : FailsPlainly (authenticationOf members) := by
  rw [authenticationOf]
  split
  · exact FailsOnly.ok none
  · refine FailsOnly.bind failsPlainly_trimmedString ?_
    intro type
    dsimp only
    split
    · exact FailsOnly.ok none
    · split
      · exact FailsOnly.bind failsPlainly_tokenOf fun _ => FailsOnly.ok _
      · exact FailsOnly.error trivial
  · exact FailsOnly.error trivial

/-! ## Names of parameters -/

/-- The item at a position is an object whose name is no identifier. -/
def HasBadName (items : List Json) (position : Nat) (name : String) : Prop :=
  ∃ members, items[position]? = some (.object members) ∧ HasText members "name" name ∧
    Text.isIdentifier name = false

/-- A defect of parameters is a plain one or the name of a parameter, counted from the first. -/
def Defect.IsOfParameters (items : List Json) (first : Nat) (d : Defect) : Prop :=
  d.IsPlain ∨ ∃ i name, d = .invalidParameterName (first + i) name ∧ HasBadName items i name

theorem failsPlainly_parameterField : FailsPlainly (parameterField members position name) := by
  rw [parameterField]
  split
  · exact FailsOnly.ok _
  · exact FailsOnly.error trivial

theorem failsOnly_parameterOf_names (item : Json) :
    FailsOnly (Defect.IsOfParameters [item] position) (parameterOf position item) := by
  intro d failed
  cases item with
  | object members =>
      rw [parameterOf] at failed
      obtain noType | ⟨type, _, failed⟩ := bind_eq_error.mp failed
      · exact .inl (failsPlainly_parameterField d noType)
      · obtain noName | ⟨name, readName, failed⟩ := bind_eq_error.mp failed
        · exact .inl (failsPlainly_parameterField d noName)
        · obtain ⟨_, rfl⟩ | ⟨given, failed⟩ := check_eq_error.mp failed
          · exact .inl trivial
          · obtain several | ⟨_, _, failed⟩ := bind_eq_error.mp failed
            · exact .inl (failsOnly_requireOneLine trivial d several)
            · obtain ⟨bad, rfl⟩ | ⟨_, done⟩ := check_eq_error.mp failed
              · rw [parameterField_eq_ok_iff, trimmedString_eq_ok_iff] at readName
                simp only [Bool.or_eq_true, String.isEmpty_iff, not_or] at given
                refine .inr ⟨0, name, rfl, members, rfl, ?_, by simpa using bad⟩
                exact (gives_text_iff given.2).mp readName
              · cases done
  | _ =>
      cases failed
      exact .inl trivial

theorem Defect.IsOfParameters.of_head {item : Json} {rest : List Json} {d : Defect}
    (h : d.IsOfParameters [item] position) : d.IsOfParameters (item :: rest) position := by
  obtain plain | ⟨i, name, named, members, present, bad⟩ := h
  · exact .inl plain
  · cases i with
    | zero => exact .inr ⟨0, name, named, members, present, bad⟩
    | succ i => cases present

theorem Defect.IsOfParameters.of_tail {item : Json} {rest : List Json} {d : Defect}
    (h : d.IsOfParameters rest (position + 1)) : d.IsOfParameters (item :: rest) position := by
  obtain plain | ⟨i, name, named, members, present, bad⟩ := h
  · exact .inl plain
  · refine .inr ⟨i + 1, name, ?_, members, present, bad⟩
    rw [named, Nat.add_assoc, Nat.add_comm 1 i]

theorem failsOnly_parametersFrom_names (items : List Json) :
    FailsOnly (Defect.IsOfParameters items position) (parametersFrom position items) := by
  induction items generalizing position with
  | nil => exact FailsOnly.ok []
  | cons item rest ih =>
      rw [parametersFrom]
      refine FailsOnly.bind ((failsOnly_parameterOf_names item).mono ?_) ?_
      · intro d ofItem
        exact ofItem.of_head
      · intro p
        refine FailsOnly.bind (ih.mono ?_) fun _ => FailsOnly.ok _
        intro d ofRest
        exact ofRest.of_tail

/-! ## Entries -/

/-- Why an entry has a defect: a plain one, its own name, or the name of one of its parameters. -/
inductive Cause (entry : Json) : Defect → Prop where
  | plain {d : Defect} (plain : d.IsPlain) : Cause entry d
  | name {members : Members} {name : String} (object : entry = .object members)
      (named : HasText members "name" name) (bad : Text.isIdentifier name = false) :
      Cause entry (.invalidName name)
  | parameter {members : Members} {items : List Json} {position : Nat} {name : String}
      (object : entry = .object members) (list : members.lookup "parameters" = some (.array items))
      (bad : HasBadName items position name) : Cause entry (.invalidParameterName position name)

theorem lookup_of_field? {v : Json} (h : field? members name = some v) :
    members.lookup name = some v := by
  unfold field? at h
  split at h
  · cases h
  · exact h

theorem failsOnly_parametersOf_cause :
    FailsOnly (Cause (.object members)) (parametersOf members) := by
  rw [parametersOf]
  split
  · exact FailsOnly.ok []
  · next items found =>
      refine (failsOnly_parametersFrom_names items).mono ?_
      intro d ofParameters
      obtain plain | ⟨i, name, rfl, bad⟩ := ofParameters
      · exact .plain plain
      · rw [Nat.zero_add]
        exact .parameter rfl (lookup_of_field? found) bad
  · exact FailsOnly.error (.plain trivial)

theorem failsOnly_ofFields_cause :
    FailsOnly (Cause (.object members)) (Query.ofFields name members) := by
  have plain : ∀ d : Defect, d.IsPlain → Cause (.object members) d := fun _ => .plain
  rw [Query.ofFields]
  refine FailsOnly.bind (failsPlainly_categoryOf.mono plain) fun category => ?_
  refine FailsOnly.bind (failsPlainly_optionalBool.mono plain) fun enabled => ?_
  refine FailsOnly.bind (failsPlainly_trimmedString.mono plain) fun returnType => ?_
  refine FailsOnly.bind (failsOnly_requireOneLine (plain _ trivial)) fun oneLine => ?_
  refine FailsOnly.bind failsOnly_parametersOf_cause fun parameters => ?_
  exact FailsOnly.bind (failsPlainly_authenticationOf.mono plain) fun _ => FailsOnly.ok _

/-- The error of an entry tells of the entry. -/
theorem cause_of_ofEntry {index : Nat} {entry : Json} {e : DefinitionError}
    (failed : Query.ofEntry index entry = .error e) : Cause entry e.defect := by
  unfold Query.ofEntry at failed
  split at failed
  · next members =>
      split at failed
      · next d noText =>
          cases failed
          exact .plain (failsPlainly_trimmedString d noText)
      · next name read =>
          split at failed
          · cases failed
            exact .plain trivial
          · next given =>
              split at failed
              · next bad =>
                  cases failed
                  have named := trimmedString_eq_ok_iff.mp read
                  rw [gives_text_iff (by simpa using given)] at named
                  exact .name rfl named (by simpa using bad)
              · split at failed
                · next d broken =>
                    cases failed
                    exact failsOnly_ofFields_cause d broken
                · cases failed
  · cases failed
    exact .plain trivial

/-- What a run permits does not matter to a reading. -/
theorem ofDocument_ne_disabledButFlagged {document : Json} {location : Location}
    {feature : Feature} :
    Query.ofDocument document ≠ .error ⟨location, .disabledButFlagged feature⟩ := by
  intro failed
  unfold Query.ofDocument at failed
  split at failed
  · split at failed
    · cases failed
    · obtain ⟨i, entry, _, own | ⟨name, first, other⟩⟩ := ofEntries_eq_error failed
      · cases cause_of_ofEntry own with
        | plain plain => exact plain
      · cases other
    · cases failed
  · cases failed

end QueryHeaders
