import QueryHeaders.Proofs.Inventory
import QueryHeaders.Proofs.Query.Description

/-!
What the arguments of a forwarded call stand for.

A forwarding method passes on its parameters by their names, in their order. An argument stands for
the parameter of its name, and for that at its own position only if no other has the name. The
reader checks each name by itself, so that this is left to the definitions.
-/
namespace QueryHeaders

variable {ps : List Parameter} {qs all kept : List Query} {q : Query} {fs : Features}
  {document : Json}

/-! ## Lists of texts with commas between -/

namespace Text

/-- A blank before the first piece is lost in trimming. -/
theorem map_trim_pieces_cons_blank (cs : List Char) :
    (pieces ',' (' ' :: cs)).map (fun piece => trim (String.ofList piece)) =
      (pieces ',' cs).map fun piece => trim (String.ofList piece) := by
  have blank : ∀ piece, trim (String.ofList (' ' :: piece)) = trim (String.ofList piece) := by
    intro piece
    apply IsPadded.trim_eq
    exact ⟨[' '], [], by simp, List.forall_mem_singleton.mpr rfl, by simp⟩
  rw [pieces, if_neg (by decide)]
  cases split : pieces ',' cs with
  | nil => exact absurd split (pieces_ne_nil ',' cs)
  | cons piece others =>
      dsimp only
      rw [List.map_cons, List.map_cons, blank]

theorem map_trim_pieces_intercalate {ss : List String} (given : ss ≠ [])
    (clean : ∀ s ∈ ss, ',' ∉ s.toList) (trimmed : ∀ s ∈ ss, IsTrimmed s) :
    (pieces ',' (", ".intercalate ss).toList).map (fun piece => trim (String.ofList piece)) =
      ss := by
  induction ss with
  | nil => exact absurd rfl given
  | cons s rest ih =>
      obtain ⟨cleanFirst, clean⟩ := List.forall_mem_cons.mp clean
      obtain ⟨trimmedFirst, trimmed⟩ := List.forall_mem_cons.mp trimmed
      have first : trim (String.ofList s.toList) = s := by
        rw [String.ofList_toList, trimmedFirst.trim_eq]
      cases rest with
      | nil =>
          rw [String.intercalate_singleton, pieces_of_notMem cleanFirst, List.map_singleton, first]
      | cons t others =>
          have joined : (s ++ ", " ++ ", ".intercalate (t :: others)).toList =
              s.toList ++ ',' :: ' ' :: (", ".intercalate (t :: others)).toList := by
            simp
          rw [String.intercalate_cons_cons, joined, pieces_append, pieces_of_notMem cleanFirst,
            List.map_append, map_trim_pieces_cons_blank, ih (by simp) clean trimmed,
            List.map_singleton, first]
          rfl

end Text

/-! ## Calls -/

/-- The arguments of the text of a call. -/
def callArguments (call : String) : List String :=
  let inside := ((call.toList.dropWhile (· ≠ '(')).drop 1).takeWhile (· ≠ ')')
  if inside.isEmpty then []
  else (Text.pieces ',' inside).map fun piece => Text.trim (String.ofList piece)

theorem Query.ne_of_mem_callParameters (wf : ∀ p ∈ q.parameters, p.WellFormed) :
    ∀ c ∈ q.callParameters.toList, c ≠ ')' := by
  have separator : ∀ c ∈ ", ".toList, c ≠ ')' := by simp
  refine Text.forall_mem_intercalate separator ?_
  intro s hs c hc same
  obtain ⟨p, hp, rfl⟩ := List.mem_map.mp hs
  rw [same] at hc
  exact Text.notMem_of_isIdentifier (wf p hp).name_isIdentifier rfl hc

/-- A call passes on the names of the parameters, in their order. -/
theorem callArguments_call (wf : q.WellFormed) :
    callArguments q.method.call = q.parameters.map Parameter.name := by
  have identifiers : ∀ s ∈ q.parameters.map Parameter.name, Text.isIdentifier s = true := by
    intro s hs
    obtain ⟨p, hp, rfl⟩ := List.mem_map.mp hs
    exact (wf.parameters p hp).name_isIdentifier
  have whole : q.method.call.toList =
      q.name.toList ++ '(' :: (q.callParameters.toList ++ [')']) := by
    simp [Method.call, Query.method]
  have before : ∀ c ∈ q.name.toList, decide (c ≠ '(') = true := by
    intro c hc
    apply decide_eq_true
    intro same
    rw [same] at hc
    exact Text.notMem_of_isIdentifier wf.name_isIdentifier rfl hc
  have within : ∀ c ∈ q.callParameters.toList, decide (c ≠ ')') = true := by
    intro c hc
    exact decide_eq_true (Query.ne_of_mem_callParameters wf.parameters c hc)
  have inside : ((q.method.call.toList.dropWhile (· ≠ '(')).drop 1).takeWhile (· ≠ ')') =
      q.callParameters.toList := by
    rw [whole, List.dropWhile_append_of_pos before, List.dropWhile_cons_of_neg (by simp),
      List.drop_one, List.tail_cons, List.takeWhile_append_of_pos within,
      List.takeWhile_cons_of_neg (by simp), List.append_nil]
  rw [callArguments, inside]
  by_cases none : q.parameters = []
  · rw [Query.callParameters, none]
    rfl
  · have given : q.parameters.map Parameter.name ≠ [] := by simpa using none
    have pieces := Text.map_trim_pieces_intercalate given
      (fun s hs => Text.notMem_of_isIdentifier (identifiers s hs) rfl)
      (fun s hs => Text.isTrimmed_of_isIdentifier (identifiers s hs))
    -- A list of one blank text would be written in the same way, but no identifier is blank.
    have present : q.callParameters.toList.isEmpty = false := by
      apply Bool.eq_false_iff.mpr
      intro empty
      rw [← Query.callParameters, List.isEmpty_iff.mp empty] at pieces
      have blank : "" ∈ q.parameters.map Parameter.name := by
        rw [← pieces]
        exact List.mem_singleton_self _
      exact absurd (identifiers "" blank) (by decide)
    rw [present]
    exact pieces

/-! ## What arguments stand for -/

/-- The text of a method declares these parameters, a type and a name each. -/
def DeclaresParameters (signature : String) (ps : List Parameter) : Prop :=
  ∃ before, signature = before ++ "(" ++
    ", ".intercalate (ps.map fun p : Parameter => p.type ++ " " ++ p.name) ++ ")"

/-- There is an argument for each parameter, and it stands for the one at its own position and for no
other. -/
def BindsInOrder (ps : List Parameter) (arguments : List String) : Prop :=
  arguments.length = ps.length ∧ ∀ i argument, arguments[i]? = some argument →
    ∀ (j : Nat) (p : Parameter), ps[j]? = some p → (p.name = argument ↔ j = i)

/-- The names of parameters, as arguments, stand for the parameters in order exactly if no two are
the same. -/
theorem bindsInOrder_names_iff :
    BindsInOrder ps (ps.map Parameter.name) ↔ (ps.map Parameter.name).Nodup := by
  constructor
  · intro binds
    apply List.nodup_iff_getElem?_ne_getElem?.mpr
    intro i j before inside same
    have bound : j < ps.length := by simpa using inside
    have found : (ps.map Parameter.name)[j]? = some ps[j].name := by simp [bound]
    rw [found] at same
    have later := (binds.2 i ps[j].name same j ps[j] (List.getElem?_eq_getElem bound)).mp rfl
    omega
  · intro distinct
    refine ⟨List.length_map _, ?_⟩
    intro i argument given j p declared
    have named : (ps.map Parameter.name)[j]? = some p.name := by simp [declared]
    constructor
    · intro same
      rw [same, ← given] at named
      have bound : j < (ps.map Parameter.name).length := by
        rw [List.length_map]
        exact (List.getElem?_eq_some_iff.mp declared).1
      exact (List.getElem?_inj bound distinct).mp named
    · intro same
      rw [same, given] at named
      exact (Option.some_inj.mp named).symm

/-! ## Documents -/

def parameterName? (item : Json) : Option String :=
  match item.member? "name" with
  | some (.string s) => some (Text.trim s)
  | _ => none

/-- The names of the parameters of an entry, without the blanks around them. -/
def parameterNames (entry : Json) : List String :=
  match entry.member? "parameters" with
  | some (.array items) => items.filterMap parameterName?
  | _ => []

theorem filterMap_parameterName? {items : List Json} (means : List.Forall₂ MeansParameter items ps) :
    items.filterMap parameterName? = ps.map Parameter.name := by
  induction means with
  | nil => rfl
  | cons first _ ih =>
      obtain ⟨members, rfl, described⟩ := first
      obtain ⟨s, found, trimmed⟩ := described.name
      have named : parameterName? (.object members) = some (Text.trim s) := by
        rw [parameterName?, Json.member?, found]
      rw [List.filterMap_cons_some named, List.map_cons, ih, trimmed]

theorem parameterNames_of_readsAs {entry : Json} (reads : ReadsAs entry q) :
    parameterNames entry = q.parameters.map Parameter.name := by
  obtain ⟨members, rfl, described⟩ := readsAs_iff.mp reads
  have given := described.parameters
  generalize q.parameters = ps at given
  rw [parameterNames, Json.member?]
  cases given with
  | absent none =>
      rw [none]
      rfl
  | null null =>
      rw [null]
      rfl
  | held found _ means =>
      obtain ⟨items, rfl, each⟩ := means
      rw [found]
      exact filterMap_parameterName? each

theorem declaresParameters_signature (scope : String) (q : Query) :
    DeclaresParameters (q.method.signature scope) q.parameters :=
  ⟨q.returnType ++ " " ++ scope ++ q.name, rfl⟩

/-- What the headers say of the methods of a document. They declare the parameters of each entry,
and both calls pass on the names of these; the arguments stand for the parameters in order exactly
if the names of the entry are distinct. -/
theorem arguments_of_ofDocument (read : Query.ofDocument document = .ok all)
    (decided : enabledQueries fs all = .ok kept) :
    List.Forall₂ (fun entry q => parameterNames entry = q.parameters.map Parameter.name)
      (definitionEntries document) all ∧
    (∀ d : Declaration, ∃ signatures, d.declared? (d.render kept) = some signatures ∧
      List.Forall₂ (fun q signature => DeclaresParameters signature q.parameters)
        kept signatures) ∧
    ∀ w : Wrapper, ∃ methods, w.forwarded? (w.render kept) = some methods ∧
      List.Forall₂ (fun q method => DeclaresParameters method.1 q.parameters ∧
          callArguments method.2 = q.parameters.map Parameter.name ∧
          (BindsInOrder q.parameters (callArguments method.2) ↔
            (q.parameters.map Parameter.name).Nodup))
        kept methods := by
  have wf : ∀ q ∈ kept, q.WellFormed := fun q hq =>
    wellFormed_of_ofDocument read q (mem_of_mem_enabledQueries decided hq)
  refine ⟨?_, ?_, ?_⟩
  · exact (forall₂_readsAs_of_ofDocument read).imp fun _ _ => parameterNames_of_readsAs
  · intro d
    refine ⟨_, d.lists_render wf, ?_⟩
    apply List.forall₂_map_right_iff.mpr
    apply List.forall₂_same.mpr
    intro q _
    exact declaresParameters_signature "" q
  · intro w
    refine ⟨_, w.lists_render wf, ?_⟩
    apply List.forall₂_map_right_iff.mpr
    apply List.forall₂_same.mpr
    intro q hq
    have passed := callArguments_call (wf q hq)
    refine ⟨declaresParameters_signature w.scope q, passed, ?_⟩
    dsimp only
    rw [passed]
    exact bindsInOrder_names_iff

/-- A document of one query with two parameters of type `int`. -/
def pairDocument (first second : String) : Json :=
  let parameter := fun name => Json.object [("name", .string name), ("type", .string "int")]
  .object [("queries", .array [.object [("name", .string "IQuery_Add"),
    ("parameters", .array [parameter first, parameter second]), ("return_type", .string "int")]])]

def pairQuery (first second : String) : Query where
  name := "IQuery_Add"
  returnType := "int"
  parameters := [⟨"int", first⟩, ⟨"int", second⟩]
  category := .standard

theorem arguments_of_ofDocument_pairDocument :
    Query.ofDocument (pairDocument "x" " y ") = .ok [pairQuery "x" "y"] ∧
    ∀ w : Wrapper, ∃ signature call,
      w.forwarded? (w.render [pairQuery "x" "y"]) = some [(signature, call)] ∧
      BindsInOrder (pairQuery "x" "y").parameters (callArguments call) := by
  have read : Query.ofDocument (pairDocument "x" " y ") = .ok [pairQuery "x" "y"] := by decide
  have decided : enabledQueries {} [pairQuery "x" "y"] = .ok [pairQuery "x" "y"] := by decide
  refine ⟨read, ?_⟩
  intro w
  obtain ⟨_, _, forwarding⟩ := arguments_of_ofDocument read decided
  obtain ⟨methods, forwarded, each⟩ := forwarding w
  cases each with
  | cons first none =>
      cases none
      exact ⟨_, _, forwarded, first.2.2.mpr (by decide)⟩

/-- Names are compared by no one, so that two parameters may have one name and both calls pass it on
twice. -/
theorem repeated_parameter_is_admitted :
    Query.ofDocument (pairDocument "x" " x ") = .ok [pairQuery "x" "x"] ∧
    enabledQueries {} [pairQuery "x" "x"] = .ok [pairQuery "x" "x"] ∧
    ¬ ((pairQuery "x" "x").parameters.map Parameter.name).Nodup ∧
    Wrapper.cache.forwarded? (Wrapper.cache.render [pairQuery "x" "x"]) =
      some [("int Cache::IQuery_Add(int x, int x)", "IQuery_Add(x, x)")] ∧
    Wrapper.database.forwarded? (Wrapper.database.render [pairQuery "x" "x"]) =
      some [("int Database::IQuery_Add(int x, int x)", "IQuery_Add(x, x)")] ∧
    ¬ BindsInOrder (pairQuery "x" "x").parameters (callArguments "IQuery_Add(x, x)") := by
  have read : Query.ofDocument (pairDocument "x" " x ") = .ok [pairQuery "x" "x"] := by decide
  have wf := wellFormed_of_ofDocument read
  have repeats : ¬ ((pairQuery "x" "x").parameters.map Parameter.name).Nodup := by decide
  have passed : callArguments "IQuery_Add(x, x)" =
      (pairQuery "x" "x").parameters.map Parameter.name := by decide
  refine ⟨read, by decide, repeats, (Wrapper.cache.lists_render wf).trans (by decide),
    (Wrapper.database.lists_render wf).trans (by decide), ?_⟩
  rw [passed]
  intro binds
  exact repeats (bindsInOrder_names_iff.mp binds)

end QueryHeaders
