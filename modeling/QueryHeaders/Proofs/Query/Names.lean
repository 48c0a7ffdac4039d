import QueryHeaders.Proofs.Query.Causes
import QueryHeaders.Proofs.Query.FirstOffence

/-!
Names that the built-in schema admits.

The schema allows for white space around a name, which the reader trims; but the class `\s` has the
byte order mark U+FEFF, which is no blank and is not trimmed. A name that the schema admits is an
identifier for the reader exactly if it is free of that mark, and every other character is judged
alike.
-/
namespace QueryHeaders

variable {s name : String} {entry document : Json} {members : Members} {index position : Nat}
  {d : Defect} {e : DefinitionError}

/-! ## Texts -/

theorem CharSet.isBlank_of_space {c : Char} (h : CharSet.space.contains c = true) :
    Text.isBlank c = true ∨ c = '\ufeff' := by
  simp only [space, ofList, contains, contains_single, Bool.or_eq_true, Bool.and_eq_true,
    decide_eq_true_eq, Char.le_def, UInt32.le_iff_toNat_le] at h
  obtain control | rfl | rfl | rfl | rfl | rfl := h
  · have least : 9 ≤ c.toNat := control.1
    have most : c.toNat ≤ 13 := control.2
    simp [Text.isBlank, least, most]
  · exact .inl rfl
  · exact .inl rfl
  · exact .inr rfl
  · exact .inl rfl
  · exact .inl rfl

theorem Text.isIdentifier_trim_of_marked (marked : '\ufeff' ∈ s.toList) :
    Text.isIdentifier (Text.trim s) = false := by
  rw [Bool.eq_false_iff]
  intro identifier
  have kept := mem_trim marked (show isBlank '\ufeff' = false by decide)
  exact notMem_of_isIdentifier identifier (show isIdentifierPart '\ufeff' = false by decide) kept

/-- Without the mark, what is around the identifier is trimmed. -/
theorem Schema.isIdentifier_trim_iff
    (found : identifierPattern.pattern.isFoundIn s = true) :
    Text.isIdentifier (Text.trim s) = true ↔ '\ufeff' ∉ s.toList := by
  constructor
  · intro identifier marked
    rw [Text.isIdentifier_trim_of_marked marked] at identifier
    cases identifier
  · intro unmarked
    obtain ⟨before, head, tail, after, whole, spacesBefore, isHead, isTail, spacesAfter⟩ :=
      chars_of_isFoundIn_identifierPattern found
    have blank : ∀ c ∈ s.toList, CharSet.space.contains c = true → Text.isBlank c = true := by
      intro c hc isSpace
      cases CharSet.isBlank_of_space isSpace with
      | inl blank => exact blank
      | inr mark =>
          rw [mark] at hc
          exact absurd hc unmarked
    have identifier : Text.isIdentifier (String.ofList (head :: tail)) = true := by
      rw [Text.isIdentifier, String.toList_ofList, Text.isIdentifierChars, isHead, Bool.true_and]
      exact List.all_eq_true.mpr isTail
    have padded : Text.IsPadded (String.ofList (head :: tail)) s := by
      refine ⟨before, after, ?_, ?_, ?_⟩
      · rw [whole, String.toList_ofList, List.cons_append]
      · intro c hc
        exact blank c (by simp [whole, hc]) (spacesBefore c hc)
      · intro c hc
        exact blank c (by simp [whole, hc]) (spacesAfter c hc)
    rw [padded.trim_eq, (Text.isTrimmed_of_isIdentifier identifier).trim_eq]
    exact identifier

/-! ## Entries -/

/-- The value has this name, up to blanks, and the mark is in it. -/
def HasMarkedName (v : Json) (name : String) : Prop :=
  ∃ text, v.member? "name" = some (.string text) ∧ name = Text.trim text ∧ '\ufeff' ∈ text.toList

def HasMarkedParameter (entry : Json) (position : Nat) (name : String) : Prop :=
  ∃ items item, entry.member? "parameters" = some (.array items) ∧
    items[position]? = some item ∧ HasMarkedName item name

/-- The defects that say that a name is no identifier, where the mark is in the name. -/
inductive IsMarked (entry : Json) : Defect → Prop where
  | name {name : String} (marked : HasMarkedName entry name) : IsMarked entry (.invalidName name)
  | parameter {position : Nat} {name : String} (marked : HasMarkedParameter entry position name) :
      IsMarked entry (.invalidParameterName position name)

/-- The name of an entry or of a parameter is no identifier. -/
def Defect.IsOfName : Defect → Prop
  | .invalidName _ | .invalidParameterName _ _ => True
  | _ => False

theorem Defect.IsPlain.not_isOfName (plain : d.IsPlain) : ¬ d.IsOfName := by
  intro ofName
  cases d with
  | invalidName _ | invalidParameterName _ _ => exact plain
  | _ => exact ofName

theorem hasMarkedName_of_bad
    (admitted : ∃ v, members.lookup "name" = some v ∧ Schema.IsName v)
    (named : HasText members "name" name) (bad : Text.isIdentifier name = false) :
    HasMarkedName (.object members) name := by
  obtain ⟨text, found, rfl⟩ := named
  obtain ⟨_, also, _, rfl, pattern⟩ := admitted
  rw [found] at also
  cases also
  refine ⟨text, found, rfl, ?_⟩
  apply by_contra
  intro unmarked
  rw [(Schema.isIdentifier_trim_iff pattern).mpr unmarked] at bad
  cases bad

/-- An admitted entry has a defect of a name only because of the mark. -/
theorem isMarked_of_ofEntry (query : Schema.IsQuery members)
    (failed : Query.ofEntry index (.object members) = .error e) (ofName : e.defect.IsOfName) :
    IsMarked (.object members) e.defect := by
  have cause := cause_of_ofEntry failed
  generalize e.defect = d at cause ofName ⊢
  cases cause with
  | plain plain => exact absurd ofName plain.not_isOfName
  | name object named bad =>
      cases object
      exact .name (hasMarkedName_of_bad query.name named bad)
  | parameter object list bad =>
      cases object
      obtain ⟨fields, present, named, bad⟩ := bad
      obtain none | ⟨items, same, admitted⟩ := query.parameters _ list
      · cases none
      · cases same
        obtain ⟨_, object, parameter⟩ := admitted _ (List.mem_of_getElem? present)
        cases object
        exact .parameter ⟨_, _, list, present, hasMarkedName_of_bad parameter.name named bad⟩

theorem HasMarkedName.not_isIdentifier (marked : HasMarkedName entry name) :
    Text.isIdentifier name = false := by
  obtain ⟨text, _, rfl, marked⟩ := marked
  exact Text.isIdentifier_trim_of_marked marked

theorem HasMarkedName.eq_of_hasText {other : String} (marked : HasMarkedName (.object members) name)
    (named : HasText members "name" other) : other = name := by
  obtain ⟨text, found, rfl, _⟩ := marked
  obtain ⟨_, also, rfl⟩ := named
  rw [Json.member?, also] at found
  cases found
  rfl

theorem ofEntry_of_hasMarkedName (marked : HasMarkedName entry name) :
    Query.ofEntry index entry = .error ⟨.entry index (some name), .invalidName name⟩ := by
  have bad := marked.not_isIdentifier
  obtain ⟨text, found, rfl, marked⟩ := marked
  cases entry with
  | object members =>
      have given : (Text.trim text).isEmpty = false := by
        rw [← Bool.not_eq_true, String.isEmpty_iff]
        intro empty
        have kept := Text.mem_trim marked (show Text.isBlank '\ufeff' = false by decide)
        rw [empty] at kept
        cases kept
      rw [Query.ofEntry, trimmedString_of_lookup found]
      simp only [given, bad, Bool.false_eq_true, Bool.not_false, ↓reduceIte]
  | _ => cases found

theorem not_meansParameter_of_hasMarkedName {item : Json} {p : Parameter}
    (marked : HasMarkedName item name) : ¬ MeansParameter item p := by
  intro means
  obtain ⟨members, rfl, described⟩ := means
  have identifier := described.name_isIdentifier
  rw [marked.eq_of_hasText described.name, marked.not_isIdentifier] at identifier
  cases identifier

/-- An entry with the mark in a name cannot be read. -/
theorem IsMarked.ofEntry_ne_ok {q : Query} (marked : IsMarked entry d) :
    Query.ofEntry index entry ≠ .ok q := by
  intro read
  cases marked with
  | name marked =>
      rw [ofEntry_of_hasMarkedName marked] at read
      cases read
  | @parameter position name marked =>
      obtain ⟨items, item, list, present, marked⟩ := marked
      obtain ⟨members, rfl, described⟩ := readsAs_iff.mp ((ofEntry_eq_ok_iff index).mp read)
      rw [Json.member?] at list
      have means : MeansParameters (.array items) q.parameters := by
        have given := gives_iff.mp described.parameters
        rw [field?_of_lookup list nofun] at given
        exact given
      obtain ⟨_, same, each⟩ := means
      cases same
      obtain ⟨sameLength, each⟩ := List.forall₂_iff_get.mp each
      obtain ⟨inside, found⟩ := List.getElem?_eq_some_iff.mp present
      have means := each position inside (sameLength ▸ inside)
      rw [List.get_eq_getElem, found] at means
      exact not_meansParameter_of_hasMarkedName marked means

/-! ## Documents -/

theorem ofEntries_ne_ok_of_isMarked {entries : List Json} {qs : List Query}
    (member : entry ∈ entries) (marked : IsMarked entry d) :
    Query.ofEntries [] 0 entries ≠ .ok qs := by
  intro read
  obtain ⟨i, present⟩ := List.mem_iff_getElem?.mp member
  obtain ⟨readable, _⟩ := (ofEntries_isOk_iff.trans forall_not_offence_iff).mp ⟨qs, read⟩
  obtain ⟨q, other, also, given⟩ := readable i (List.getElem?_eq_some_iff.mp present).1
  rw [present] at also
  cases also
  exact marked.ofEntry_ne_ok given

/-- A name that the schema admits trims to an identifier exactly if the mark U+FEFF is not in it. An
admitted document fails because of a name only where the mark is in that name, and with the mark in
a name it always fails. -/
theorem names_of_accepted (s : String) (document : Json) :
    (Schema.identifierPattern.pattern.isFoundIn s = true →
      (Text.isIdentifier (Text.trim s) = true ↔ '\ufeff' ∉ s.toList)) ∧
    (Schema.builtIn.violations document = [] →
      ∃ entries, document.member? "queries" = some (.array entries) ∧
        (∀ (i : Nat) entry, entries[i]? = some entry →
          (∀ e, Query.ofEntry i entry = .error e → e.defect.IsOfName → IsMarked entry e.defect) ∧
          (∀ name, HasMarkedName entry name →
            Query.ofEntry i entry = .error ⟨.entry i (some name), .invalidName name⟩) ∧
          ∀ d, IsMarked entry d → ∀ q, Query.ofEntry i entry ≠ .ok q) ∧
        (∀ e, Query.ofDocument document = .error e → e.defect.IsOfName →
          ∃ i name entry, e.location = .entry i name ∧ entries[i]? = some entry ∧
            IsMarked entry e.defect) ∧
        ∀ entry ∈ entries, ∀ d, IsMarked entry d → ∀ qs, Query.ofDocument document ≠ .ok qs) := by
  refine ⟨Schema.isIdentifier_trim_iff, ?_⟩
  intro accepted
  obtain ⟨members, entries, rfl, list, queries⟩ := Schema.isQuery_of_accepted accepted
  have ofName : ∀ (i : Nat) entry e, entries[i]? = some entry →
      Query.ofEntry i entry = .error e → e.defect.IsOfName → IsMarked entry e.defect := by
    intro i entry e present failed ofName
    obtain ⟨fields, rfl, query⟩ := queries entry (List.mem_of_getElem? present)
    exact isMarked_of_ofEntry query failed ofName
  refine ⟨entries, list, ?_, ?_, ?_⟩
  · intro i entry present
    refine ⟨?_, ?_, ?_⟩
    · intro e
      exact ofName i entry e present
    · intro name
      exact ofEntry_of_hasMarkedName
    · intro d marked q
      exact marked.ofEntry_ne_ok
  · intro e failed isOfName
    rw [ofDocument_of_lookup list] at failed
    obtain ⟨i, entry, present, own | ⟨name, first, other⟩⟩ := ofEntries_eq_error failed
    · rw [Nat.zero_add] at own
      obtain ⟨name, placed⟩ := location_of_ofEntry own
      exact ⟨i, name, entry, placed, present, ofName i entry e present own isOfName⟩
    · rw [other] at isOfName
      cases isOfName
  · intro entry member d marked qs read
    rw [ofDocument_of_lookup list] at read
    exact ofEntries_ne_ok_of_isMarked member marked read

/-- An entry whose only parameter has the mark behind its name. -/
def markedParameterEntry : Json :=
  .object [("name", .string "\u2003IQuery_Run\u00a0"),
    ("parameters", .array [.object [("name", .string "run\ufeff"), ("type", .string "int")]]),
    ("return_type", .string "int")]

theorem names_of_accepted_markedParameter :
    Text.isIdentifier (Text.trim "\u2003IQuery_Run\u00a0") = true ∧
    Schema.builtIn.violations (.object [("queries", .array [markedParameterEntry])]) = [] ∧
    Query.ofDocument (.object [("queries", .array [markedParameterEntry])]) =
      .error ⟨.entry 0 (some "IQuery_Run"), .invalidParameterName 0 "run\ufeff"⟩ ∧
    IsMarked markedParameterEntry (.invalidParameterName 0 "run\ufeff") := by
  have found : Schema.identifierPattern.pattern.isFoundIn "\u2003IQuery_Run\u00a0" = true := by
    decide
  have accepted :
      Schema.builtIn.violations (.object [("queries", .array [markedParameterEntry])]) = [] := by
    decide
  have failed : Query.ofDocument (.object [("queries", .array [markedParameterEntry])]) =
      .error ⟨.entry 0 (some "IQuery_Run"), .invalidParameterName 0 "run\ufeff"⟩ := by
    decide
  obtain ⟨text, documents⟩ := names_of_accepted "\u2003IQuery_Run\u00a0"
    (.object [("queries", .array [markedParameterEntry])])
  obtain ⟨entries, list, entryFails, _⟩ := documents accepted
  cases list
  obtain ⟨ofName, _, _⟩ := entryFails 0 markedParameterEntry rfl
  exact ⟨(text found).mpr (by decide), accepted, failed, ofName _ rfl trivial⟩

/-- An entry with the mark before its name. -/
def markedNameEntry : Json :=
  .object [("name", .string "\ufeffIQuery_Run"), ("parameters", .array []),
    ("return_type", .string "int")]

/-- The schema admits the name, and the reader then says that it is no identifier. -/
theorem byte_order_mark_is_admitted :
    Schema.identifierPattern.pattern.isFoundIn "\ufeffIQuery_Run" = true ∧
    Text.isIdentifier (Text.trim "\ufeffIQuery_Run") = false ∧
    Schema.builtIn.violations (.object [("queries", .array [markedNameEntry])]) = [] ∧
    Query.ofDocument (.object [("queries", .array [markedNameEntry])]) =
      .error ⟨.entry 0 (some "\ufeffIQuery_Run"), .invalidName "\ufeffIQuery_Run"⟩ := by
  decide

end QueryHeaders
