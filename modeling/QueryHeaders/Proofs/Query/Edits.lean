import Mathlib.Logic.Relation
import QueryHeaders.Proofs.Query.Description
import QueryHeaders.Proofs.Query.Shape

/-!
Edits of an entry that do not count.

A member that is null, a member that is not read and blanks around a text make no difference to an
entry. An entry and another one that comes of it by edits of these kinds are read as the same query,
or fail with the same error in the same place.
-/
namespace QueryHeaders

/-! ## Edits -/

/-- Nothing but the member of this name is another one. -/
def AgreeBut (name : String) (ms ns : Members) : Prop :=
  ∀ other, other ≠ name → ns.lookup other = ms.lookup other

/-- One member of an object is edited. The names in `reads` are read, and `Inside` relates what a
member of a name held to what it holds now. -/
inductive MemberEdit (reads : List String) (Inside : String → Json → Json → Prop)
    (ms ns : Members) : Prop where
  | addNull (name : String) (others : AgreeBut name ms ns) (absent : ms.lookup name = none)
      (null : ns.lookup name = some .null)
  | unread (name : String) (others : AgreeBut name ms ns) (unread : name ∉ reads)
  | inside (name : String) (v w : Json) (others : AgreeBut name ms ns)
      (before : ms.lookup name = some v) (after : ns.lookup name = some w) (edit : Inside name v w)

def ObjectEdit (reads : List String) (Inside : String → Json → Json → Prop) (v w : Json) : Prop :=
  ∃ ms ns, v = .object ms ∧ w = .object ns ∧ MemberEdit reads Inside ms ns

/-- Blanks are put around a text. -/
def PadsText (v w : Json) : Prop :=
  ∃ s t, v = .string s ∧ w = .string t ∧ Text.IsPadded s t

def PadsOneOf (texts : List String) (name : String) (v w : Json) : Prop :=
  name ∈ texts ∧ PadsText v w

/-- One item of a list is edited. -/
def ItemEdit (Edit : Json → Json → Prop) (v w : Json) : Prop :=
  ∃ before item edited after, v = .array (before ++ item :: after) ∧
    w = .array (before ++ edited :: after) ∧ Edit item edited

def MetadataEdit : Json → Json → Prop :=
  ObjectEdit ["category"] (PadsOneOf ["category"])

def ParameterEdit : Json → Json → Prop :=
  ObjectEdit ["type", "name"] (PadsOneOf ["type", "name"])

def AuthenticationEdit : Json → Json → Prop :=
  ObjectEdit ["type", "env_var", "required"] (PadsOneOf ["type", "env_var"])

/-- What may be edited inside the members of an entry. -/
def FieldEdit : String → Json → Json → Prop
  | "name" | "return_type" => PadsText
  | "metadata" => MetadataEdit
  | "parameters" => ItemEdit ParameterEdit
  | "authentication" => AuthenticationEdit
  | _ => fun _ _ => False

/-- The members of an entry that are read. -/
def entryNames : List String :=
  ["name", "metadata", "enabled", "return_type", "parameters", "authentication"]

def EntryEdit : Json → Json → Prop := ObjectEdit entryNames FieldEdit

/-- Edits that were made or undone, any number of them. -/
def DiffersByEdits : Json → Json → Prop := Relation.EqvGen EntryEdit

/-! ## Members of an edited object -/

variable {reads : List String} {Inside : String → Json → Json → Prop} {ms ns : Members}
  {name : String} {position : Nat}

/-- What is read of a member stays, or it is edited inside. -/
theorem MemberEdit.field (edit : MemberEdit reads Inside ms ns) (read : name ∈ reads) :
    field? ns name = field? ms name ∨
      ∃ v w, ms.lookup name = some v ∧ ns.lookup name = some w ∧ Inside name v w := by
  have elsewhere : ∀ edited, AgreeBut edited ms ns → name ≠ edited →
      field? ns name = field? ms name := by
    intro edited others away
    rw [field?, field?, others name away]
  cases edit with
  | addNull edited others absent null =>
      by_cases same : name = edited
      · subst same
        left
        rw [field?, field?, absent, null]
      · exact .inl (elsewhere edited others same)
  | unread edited others unread =>
      have away : name ≠ edited := by
        intro same
        subst same
        exact unread read
      exact .inl (elsewhere edited others away)
  | inside edited v w others before after edit =>
      by_cases same : name = edited
      · subst same
        exact .inr ⟨v, w, before, after, edit⟩
      · exact .inl (elsewhere edited others same)

/-- A text is read without the blanks around it. -/
theorem MemberEdit.trimmedString_eq (edit : MemberEdit reads Inside ms ns) (read : name ∈ reads)
    (pads : ∀ v w, Inside name v w → PadsText v w) :
    trimmedString ns name = trimmedString ms name := by
  obtain same | ⟨v, w, before, after, inside⟩ := edit.field read
  · rw [trimmedString, trimmedString, optionalString, optionalString, same]
  · obtain ⟨s, t, rfl, rfl, padded⟩ := pads v w inside
    rw [trimmedString_of_lookup before, trimmedString_of_lookup after, padded.trim_eq]

theorem MemberEdit.optionalBool_eq (edit : MemberEdit reads Inside ms ns) (read : name ∈ reads)
    (fixed : ∀ v w, ¬ Inside name v w) : optionalBool ns name = optionalBool ms name := by
  obtain same | ⟨v, w, _, _, inside⟩ := edit.field read
  · rw [optionalBool, optionalBool, same]
  · exact absurd inside (fixed v w)

/-! ## Edits of written members -/

section

variable {after : Members} {v w : Json} (before : Members)

theorem agreeBut_replace : AgreeBut name (before ++ (name, v) :: after)
    (before ++ (name, w) :: after) := by
  intro other away
  have skip : (other == name) = false := beq_eq_false_iff_ne.mpr away
  rw [List.lookup_append, List.lookup_append, List.lookup_cons, List.lookup_cons, skip]

theorem agreeBut_insert : AgreeBut name (before ++ after) (before ++ (name, v) :: after) := by
  intro other away
  have skip : (other == name) = false := beq_eq_false_iff_ne.mpr away
  rw [List.lookup_append, List.lookup_append, List.lookup_cons, skip]

variable {before} in
theorem lookup_append_cons_self (new : before.lookup name = none) :
    (before ++ (name, v) :: after).lookup name = some v := by
  rw [List.lookup_append, new, List.lookup_cons_self, Option.none_or]

theorem MemberEdit.replace (new : before.lookup name = none) (edit : Inside name v w) :
    MemberEdit reads Inside (before ++ (name, v) :: after) (before ++ (name, w) :: after) :=
  .inside name v w (agreeBut_replace before) (lookup_append_cons_self new)
    (lookup_append_cons_self new) edit

theorem MemberEdit.insertNull (absent : (before ++ after).lookup name = none) :
    MemberEdit reads Inside (before ++ after) (before ++ (name, .null) :: after) := by
  have new : before.lookup name = none := by
    rw [List.lookup_append, Option.or_eq_none_iff] at absent
    exact absent.1
  exact .addNull name (agreeBut_insert before) absent (lookup_append_cons_self new)

theorem MemberEdit.insertUnread (unread : name ∉ reads) :
    MemberEdit reads Inside (before ++ after) (before ++ (name, v) :: after) :=
  .unread name (agreeBut_insert before) unread

end

/-! ## Parameters -/

theorem parameterOf_of_edit {v w : Json} (edit : ParameterEdit v w) :
    parameterOf position w = parameterOf position v := by
  obtain ⟨ms, ns, rfl, rfl, edit⟩ := edit
  have text : ∀ name ∈ ["type", "name"],
      parameterField ns position name = parameterField ms position name := by
    intro name read
    rw [parameterField, parameterField, edit.trimmedString_eq read fun _ _ h => h.2]
  rw [parameterOf, parameterOf, text "type" (by simp), text "name" (by simp)]

theorem parametersFrom_of_edit {before after : List Json} {v w : Json}
    (edit : ParameterEdit v w) :
    parametersFrom position (before ++ w :: after) =
      parametersFrom position (before ++ v :: after) := by
  induction before generalizing position with
  | nil =>
      rw [List.nil_append, List.nil_append, parametersFrom, parametersFrom,
        parameterOf_of_edit edit]
  | cons item before ih =>
      rw [List.cons_append, List.cons_append, parametersFrom, parametersFrom, ih]

/-! ## Members of an edited entry -/

theorem statedCategory_of_edit (edit : MemberEdit entryNames FieldEdit ms ns) :
    statedCategory ns = statedCategory ms := by
  have read : "metadata" ∈ entryNames := by decide
  obtain same | ⟨v, w, before, after, inside⟩ := edit.field read
  · rw [statedCategory, statedCategory, same]
  · obtain ⟨ms', ns', rfl, rfl, deeper⟩ : MetadataEdit v w := inside
    rw [statedCategory, statedCategory, field?_of_lookup before (by simp),
      field?_of_lookup after (by simp)]
    dsimp only
    rw [deeper.trimmedString_eq (by simp) fun _ _ h => h.2]

theorem parametersOf_of_edit (edit : MemberEdit entryNames FieldEdit ms ns) :
    parametersOf ns = parametersOf ms := by
  have read : "parameters" ∈ entryNames := by decide
  obtain same | ⟨v, w, before, after, inside⟩ := edit.field read
  · rw [parametersOf, parametersOf, same]
  · obtain ⟨front, item, edited, back, rfl, rfl, deeper⟩ : ItemEdit ParameterEdit v w := inside
    rw [parametersOf, parametersOf, field?_of_lookup before (by simp), field?_of_lookup after (by simp)]
    exact parametersFrom_of_edit deeper

theorem authenticationOf_of_edit (edit : MemberEdit entryNames FieldEdit ms ns) :
    authenticationOf ns = authenticationOf ms := by
  have read : "authentication" ∈ entryNames := by decide
  obtain same | ⟨v, w, before, after, inside⟩ := edit.field read
  · rw [authenticationOf, authenticationOf, same]
  · obtain ⟨ms', ns', rfl, rfl, deeper⟩ : AuthenticationEdit v w := inside
    have type := deeper.trimmedString_eq (show "type" ∈ _ by simp) fun _ _ h => h.2
    have envVar := deeper.trimmedString_eq (show "env_var" ∈ _ by simp) fun _ _ h => h.2
    have required : optionalBool ns' "required" = optionalBool ms' "required" := by
      apply deeper.optionalBool_eq (by simp)
      intro v w inside
      exact absurd inside.1 (by simp)
    rw [authenticationOf, authenticationOf, field?_of_lookup before (by simp),
      field?_of_lookup after (by simp)]
    dsimp only
    rw [type, tokenOf, tokenOf, envVar, required]

theorem ofFields_of_edit (edit : MemberEdit entryNames FieldEdit ms ns) :
    Query.ofFields name ns = Query.ofFields name ms := by
  have category : categoryOf ns name = categoryOf ms name := by
    rw [categoryOf, categoryOf, statedCategory_of_edit edit]
  have enabled : optionalBool ns "enabled" = optionalBool ms "enabled" :=
    edit.optionalBool_eq (by decide) fun _ _ => id
  have returnType : trimmedString ns "return_type" = trimmedString ms "return_type" :=
    edit.trimmedString_eq (by decide) fun _ _ => id
  rw [Query.ofFields, Query.ofFields, category, enabled, returnType, parametersOf_of_edit edit,
    authenticationOf_of_edit edit]

/-! ## Edited entries -/

/-- One edit makes no difference to what an entry is read as. -/
theorem ofEntry_of_edit {index : Nat} {entry other : Json} (edit : EntryEdit entry other) :
    Query.ofEntry index other = Query.ofEntry index entry := by
  obtain ⟨ms, ns, rfl, rfl, edit⟩ := edit
  have named : trimmedString ns "name" = trimmedString ms "name" :=
    edit.trimmedString_eq (by decide) fun _ _ => id
  rw [Query.ofEntry, Query.ofEntry, named]
  simp only [ofFields_of_edit edit]

/-- Entries that differ by edits only are read as the same query, or fail with the same error. -/
theorem ofEntry_of_edits {entry other : Json} (edits : DiffersByEdits entry other) (index : Nat) :
    Query.ofEntry index entry = Query.ofEntry index other := by
  induction edits with
  | rel entry other edit => exact (ofEntry_of_edit edit).symm
  | refl entry => rfl
  | symm entry other _ ih => exact ih.symm
  | trans entry middle other _ _ first second => exact first.trans second

/-- An example that cannot be read: the type of its parameter has a tab within it. -/
def tabbedEntry (flags : Members) (category : String) (notes : Members) : Json :=
  .object (flags ++ [
    ("metadata", .object [("category", .string category)]),
    ("name", .string "IQuery_Run"),
    ("parameters", .array [.object (notes ++
      [("name", .string "to"), ("type", .string "in\tt")])])])

theorem ofEntry_of_edits_tabbedEntry :
    let plain := tabbedEntry [] "Example" []
    let edited := tabbedEntry [("enabled", .null)] "\u2003Example\n" [("note", .bool true)]
    DiffersByEdits plain edited ∧ Query.ofEntry 2 plain = Query.ofEntry 2 edited ∧
      Query.ofEntry 2 edited =
        .error ⟨.entry 2 (some "IQuery_Run"), .controlCharacter "parameters[0].type"⟩ := by
  intro plain edited
  let flagged := tabbedEntry [("enabled", .null)] "Example" []
  let padded := tabbedEntry [("enabled", .null)] "\u2003Example\n" []
  have pads : PadsText (.string "Example") (.string "\u2003Example\n") := by
    refine ⟨_, _, rfl, rfl, ['\u2003'], ['\n'], by decide, ?_, ?_⟩
    · exact List.forall_mem_singleton.mpr (by decide)
    · exact List.forall_mem_singleton.mpr (by decide)
  have addsFlag : EntryEdit plain flagged := ⟨_, _, rfl, rfl, .insertNull [] rfl⟩
  have padsCategory : EntryEdit flagged padded := by
    refine ⟨_, _, rfl, rfl, .replace [("enabled", .null)] rfl ?_⟩
    exact ⟨_, _, rfl, rfl, .replace [] rfl ⟨by decide, pads⟩⟩
  have addsNote : EntryEdit padded edited := by
    refine ⟨_, _, rfl, rfl, .replace [("enabled", .null),
      ("metadata", .object [("category", .string "\u2003Example\n")]),
      ("name", .string "IQuery_Run")] rfl ?_⟩
    exact ⟨[], _, _, [], rfl, rfl, _, _, rfl, rfl, .insertUnread [] (by decide)⟩
  have edits : DiffersByEdits plain edited :=
    ((Relation.EqvGen.rel _ _ addsFlag).trans _ _ _ (.rel _ _ padsCategory)).trans _ _ _
      (.rel _ _ addsNote)
  exact ⟨edits, ofEntry_of_edits edits 2, by decide⟩

end QueryHeaders
