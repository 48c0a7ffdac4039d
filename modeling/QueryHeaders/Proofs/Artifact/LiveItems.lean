import QueryHeaders.Proofs.Artifact.ItemReading
import QueryHeaders.Proofs.Artifact.LogicalLines

/-!
Which items of a macro a compiler still sees once comments are removed.

If every query closes the comments that it begins, each item begins and ends in code, and all names
and endings are left in their order. If one does not, its own item is not whole any more.
-/
namespace QueryHeaders.MacroHeader

open Text (Mode)

variable {h : MacroHeader} {q : Query} {qs earlier : List Query}

/-! ## The lines above the macro -/

theorem after_commentLine {s : String} (oneLine : '\n' ∉ s.toList) :
    Mode.code.after (Text.ofLines ["//" ++ s]).toList = .code := by
  have whole : (Text.ofLines ["//" ++ s]).toList = '/' :: '/' :: (s.toList ++ ['\n']) := by
    simp [Text.toList_ofLines]
  rw [whole]
  exact Mode.after_line oneLine

theorem left_commentLine {s : String} (oneLine : '\n' ∉ s.toList) :
    Mode.code.left (Text.ofLines ["//" ++ s]).toList = (Text.ofLines [""]).toList := by
  have whole : (Text.ofLines ["//" ++ s]).toList = '/' :: '/' :: (s.toList ++ ['\n']) := by
    simp [Text.toList_ofLines]
  rw [whole]
  exact Mode.left_line oneLine

theorem marker_eq : Header.marker = "//" ++ " Auto-generated file - DO NOT EDIT MANUALLY" := rfl

theorem comment_nil : comment [] = ["//" ++ " No queries defined"] := rfl

theorem notMem_guardLines {c : Char} (hc : Text.isIdentifierPart c = false)
    (fixed : c ∉ "#ifndef #define \n".toList) : c ∉ (Text.ofLines h.guardLines).toList := by
  have guard := Text.notMem_of_isIdentifier (isIdentifier_guard (h := h)) hc
  simp only [guardLines, Text.toList_ofLines]
  simp at fixed
  simp [guard, fixed]

theorem notMem_opening : '/' ∉ h.opening.toList := by
  have name := Text.notMem_of_isIdentifier (isIdentifier_macroName (h := h)) (c := '/') rfl
  simp [opening, name]

/-- The lines above the macro without the comments among them. -/
def aboveCode (h : MacroHeader) (qs : List Query) : List String :=
  "" :: h.guardLines ++ (comment qs).map fun _ => ""

theorem above_eq : h.above qs = [Header.marker] ++ h.guardLines ++ comment qs := rfl

theorem after_comment : Mode.code.after (Text.ofLines (comment qs)).toList = .code := by
  cases qs with
  | nil =>
      rw [comment_nil]
      exact after_commentLine (by decide)
  | cons q qs => rfl

theorem left_comment :
    Mode.code.left (Text.ofLines (comment qs)).toList =
      (Text.ofLines ((comment qs).map fun _ => "")).toList := by
  cases qs with
  | nil =>
      rw [comment_nil]
      exact left_commentLine (by decide)
  | cons q qs => rfl

theorem after_above : Mode.code.after (Text.ofLines (h.above qs)).toList = .code := by
  rw [above_eq, Text.ofLines_append, Text.ofLines_append, String.toList_append,
    String.toList_append, Mode.after_append, Mode.after_append, marker_eq,
    after_commentLine (by decide), Mode.after_of_notMem (notMem_guardLines rfl (by decide)),
    after_comment]

theorem left_above :
    Mode.code.left (Text.ofLines (h.above qs)).toList =
      (Text.ofLines (h.aboveCode qs)).toList := by
  have noSlash := notMem_guardLines (h := h) (c := '/') rfl (by decide)
  rw [above_eq, Text.ofLines_append, Text.ofLines_append, String.toList_append,
    String.toList_append, Mode.left_append, Mode.left_append, Mode.after_append, marker_eq,
    after_commentLine (by decide), left_commentLine (by decide), Mode.left_of_notMem noSlash,
    Mode.after_of_notMem noSlash, left_comment]
  simp [aboveCode, Text.toList_ofLines]

theorem after_opening : Mode.code.after h.opening.toList = .code :=
  Mode.after_of_notMem notMem_opening

/-! ## Items in their header -/

/-- The items of queries as they stand in the directive. -/
def items (h : MacroHeader) (qs : List Query) : List Char :=
  qs.flatMap fun q => ' ' :: (h.item q).toList

/-- What a compiler reads before the name of a query that stands after `earlier`. -/
def beforeName (h : MacroHeader) (qs earlier : List Query) (q : Query) : List Char :=
  (Text.ofLines (h.above qs)).toList ++ h.opening.toList ++ h.items earlier ++
    ' ' :: (h.lead q).toList

/-- Both the name of a query and what closes its item stand in code. -/
structure IsLive (h : MacroHeader) (qs earlier : List Query) (q : Query) : Prop where
  name : Mode.code.after (h.beforeName qs earlier q) = .code
  ending :
    Mode.code.after (h.beforeName qs earlier q ++
      ((q.name ++ "(").toList ++ q.fullParameters.toList)) = .code

theorem items_cons : h.items (q :: qs) = (' ' :: (h.item q).toList) ++ h.items qs := rfl

theorem toList_directive : (h.directive qs).toList = h.opening.toList ++ h.items qs := by
  rw [directive, Text.toList_intercalate_cons, items, List.flatMap_map]

theorem splice_render_items (wf : ∀ q ∈ qs, q.WellFormed) :
    Text.splice (h.artifact.render qs).toList =
      (Text.ofLines (h.above qs)).toList ++ (h.opening.toList ++ h.items qs ++ '\n' ::
        (Text.ofLines h.bottom).toList) := by
  rw [splice_render wf, Text.ofLines_append, Text.ofLines_append, String.toList_append,
    String.toList_append, Text.toList_ofLines [_]]
  simp [toList_directive]

theorem splice_render_split {later : List Query} (wf : ∀ x ∈ earlier ++ q :: later, x.WellFormed) :
    ∃ after, Text.splice (h.artifact.render (earlier ++ q :: later)).toList =
      h.beforeName (earlier ++ q :: later) earlier q ++
        ((q.name ++ "(").toList ++ q.fullParameters.toList) ++
        (h.rest q ++ h.ending).toList ++ after := by
  refine ⟨h.items later ++ '\n' :: (Text.ofLines h.bottom).toList, ?_⟩
  rw [splice_render_items wf, items, List.flatMap_append, List.flatMap_cons, item_eq]
  simp only [beforeName, items, String.toList_append, List.append_assoc, List.cons_append]

theorem after_items (wf : ∀ q ∈ qs, q.WellFormed) (closes : ∀ q ∈ qs, q.ClosesComments) :
    Mode.code.after (h.items qs) = .code := by
  induction qs with
  | nil => rfl
  | cons q qs ih =>
      obtain ⟨wfFirst, wfRest⟩ := List.forall_mem_cons.mp wf
      obtain ⟨first, others⟩ := List.forall_mem_cons.mp closes
      rw [items_cons, Mode.after_append, after_item wfFirst first]
      exact ih wfRest others

/-- After queries that close their comments, a query is live if it closes its own. -/
theorem isLive_iff (wf : q.WellFormed) (wfEarlier : ∀ q ∈ earlier, q.WellFormed)
    (closes : ∀ q ∈ earlier, q.ClosesComments) : h.IsLive qs earlier q ↔ q.ClosesComments := by
  have start : Mode.code.after (h.beforeName qs earlier q) =
      Mode.code.after (' ' :: (h.lead q).toList) := by
    rw [beforeName, Mode.after_append, Mode.after_append, Mode.after_append, after_above,
      after_opening, after_items wfEarlier closes]
  constructor
  · intro live
    have named := live.name
    have ended := live.ending
    rw [Mode.after_append, named, after_name wf] at ended
    rw [start, after_lead] at named
    exact ⟨named, ended⟩
  · intro ⟨named, ended⟩
    rw [← after_lead, ← start] at named
    refine ⟨named, ?_⟩
    rw [Mode.after_append, named, after_name wf, ended]

theorem forall_isLive_iff (wf : ∀ q ∈ qs, q.WellFormed) :
    (∀ earlier q later, qs = earlier ++ q :: later → h.IsLive qs earlier q) ↔
      ∀ q ∈ qs, q.ClosesComments := by
  constructor
  · intro live
    -- Whatever stands before has closed its comments, so that being live says as much of the next.
    have onward : ∀ later earlier, qs = earlier ++ later → (∀ q ∈ earlier, q.ClosesComments) →
        ∀ q ∈ later, q.ClosesComments := by
      intro later
      induction later with
      | nil => simp
      | cons q later ih =>
          intro earlier split closes
          have wfEarlier : ∀ x ∈ earlier, x.WellFormed := fun x hx => wf x (by simp [split, hx])
          have first : q.ClosesComments :=
            (isLive_iff (wf q (by simp [split])) wfEarlier closes).mp (live earlier q later split)
          refine List.forall_mem_cons.mpr ⟨first, ih (earlier ++ [q]) (by simp [split]) ?_⟩
          exact List.forall_mem_append.mpr ⟨closes, by simpa using first⟩
    exact onward qs [] rfl (by simp)
  · rintro closes earlier q later rfl
    have wfEarlier : ∀ x ∈ earlier, x.WellFormed := fun x hx => wf x (by simp [hx])
    exact (isLive_iff (wf q (by simp)) wfEarlier fun x hx => closes x (by simp [hx])).mpr
      (closes q (by simp))

/-! ## What is left of the macro -/

theorem oneLine_aboveCode : ∀ l ∈ h.aboveCode qs, '\n' ∉ l.toList := by
  have blank : ∀ l ∈ (comment qs).map fun _ => "", '\n' ∉ l.toList := by
    intro l hl
    obtain ⟨_, _, rfl⟩ := List.mem_map.mp hl
    simp
  exact List.forall_mem_cons.mpr ⟨by simp, List.forall_mem_append.mpr
    ⟨fun l hl => (isWhole_guardLines l hl).oneLine, blank⟩⟩

/-- The macro's own directive is the first that defines its name with a parenthesis. -/
theorem not_isPrefixOf_aboveCode :
    ∀ l ∈ h.aboveCode qs, ¬ h.opening.toList.isPrefixOf l.toList = true := by
  intro l hl opened
  rw [List.isPrefixOf_iff_prefix] at opened
  have parenthesis : '(' ∈ l.toList := opened.subset (by simp [opening])
  have guard := Text.notMem_of_isIdentifier (isIdentifier_guard (h := h)) (c := '(') rfl
  simp only [aboveCode, guardLines, List.mem_cons, List.mem_append, List.mem_map] at hl
  obtain (rfl | rfl | rfl | rfl | none) | ⟨_, _, rfl⟩ := hl
  · simp at parenthesis
  · simp [guard] at parenthesis
  · simp [guard] at parenthesis
  · simp at parenthesis
  · cases none
  · simp at parenthesis

theorem replacement?_aboveCode {body tail : List Char}
    (oneLine : '\n' ∉ h.opening.toList ++ body) (ended : tail = [] ∨ tail.head? = some '\n') :
    Text.replacement? h.macroName
        ((Text.ofLines (h.aboveCode qs)).toList ++ (h.opening.toList ++ body ++ tail)) =
      some body := by
  have first : ∃ more, Text.pieces '\n' (h.opening.toList ++ body ++ tail) =
      (h.opening.toList ++ body) :: more := by
    cases tail with
    | nil => exact ⟨[], by rw [List.append_nil, Text.pieces_of_notMem oneLine]⟩
    | cons c rest =>
        obtain rfl : c = '\n' := by simpa using ended
        refine ⟨Text.pieces '\n' rest, ?_⟩
        rw [Text.pieces_append, Text.pieces_of_notMem oneLine]
        rfl
  have found : h.opening.toList.isPrefixOf (h.opening.toList ++ body) = true := by
    rw [List.isPrefixOf_iff_prefix]
    exact List.prefix_append _ _
  obtain ⟨more, first⟩ := first
  rw [Text.replacement?]
  change ((Text.pieces '\n' _).find? (h.opening.toList.isPrefixOf ·)).map
    (·.drop h.opening.toList.length) = _
  rw [Text.pieces_ofLines_append oneLine_aboveCode, first, List.find?_append,
    List.find?_eq_none.mpr, List.find?_cons_of_pos found, Option.none_or, Option.map_some,
    List.drop_left]
  simpa using not_isPrefixOf_aboveCode

/-- If all queries close their comments, the macro stands for what is left of the items. -/
theorem replacement?_render (wf : ∀ q ∈ qs, q.WellFormed) (closes : ∀ q ∈ qs, q.ClosesComments) :
    Text.replacement? h.macroName
        (Text.uncomment (Text.splice (h.artifact.render qs).toList)) =
      some (Mode.code.left (h.items qs)) := by
  have oneLine : '\n' ∉ h.opening.toList ++ Mode.code.left (h.items qs) := by
    have whole := oneLine_directive (h := h) wf
    rw [toList_directive, List.mem_append] at whole
    intro member
    obtain opening | items := List.mem_append.mp member
    · exact whole (.inl opening)
    · obtain item | slash := Mode.mem_left items
      · exact whole (.inr item)
      · cases slash
  have ended : Text.uncomment ('\n' :: (Text.ofLines h.bottom).toList) =
      '\n' :: Text.uncomment (Text.ofLines h.bottom).toList := rfl
  rw [splice_render_items wf, Text.uncomment_append after_above, left_above, Text.uncomment_append,
    ended, Mode.left_append, after_opening, Mode.left_of_notMem notMem_opening]
  · exact replacement?_aboveCode oneLine (.inr rfl)
  · rw [Mode.after_append, after_opening, after_items wf closes]

theorem inOrder_items (wf : ∀ q ∈ qs, q.WellFormed) (closes : ∀ q ∈ qs, q.ClosesComments) :
    Text.InOrder (qs.flatMap fun q => [q.name ++ "(", h.ending])
      (Mode.code.left (h.items qs)) := by
  induction qs with
  | nil => trivial
  | cons q qs ih =>
      obtain ⟨wfFirst, wfRest⟩ := List.forall_mem_cons.mp wf
      obtain ⟨first, others⟩ := List.forall_mem_cons.mp closes
      rw [items_cons, Mode.left_append, after_item wfFirst first, left_item wfFirst first,
        String.toList_append (s := h.rest q)]
      refine ⟨Mode.code.left (' ' :: (h.lead q).toList),
        Mode.code.left q.fullParameters.toList ++ (h.rest q).toList ++ h.ending.toList ++
          Mode.code.left (h.items qs), by simp only [List.append_assoc], ?_⟩
      exact ⟨Mode.code.left q.fullParameters.toList ++ (h.rest q).toList, _, rfl,
        ih wfRest others⟩

/-- All items of a macro are live exactly if every query closes its comments, and then the macro
stands for a text that has the names and the endings of all queries in their order. -/
theorem live_of_ofDocument {document : Json} (read : Query.ofDocument document = .ok qs)
    (h : MacroHeader) :
    (∀ earlier q later, qs = earlier ++ q :: later →
      ∃ after, Text.splice (h.artifact.render qs).toList =
        h.beforeName qs earlier q ++ ((q.name ++ "(").toList ++ q.fullParameters.toList) ++
          (h.rest q ++ h.ending).toList ++ after) ∧
    ((∀ earlier q later, qs = earlier ++ q :: later → h.IsLive qs earlier q) ↔
      ∀ q ∈ qs, q.ClosesComments) ∧
    ((∀ q ∈ qs, q.ClosesComments) → ∃ body,
      Text.replacement? h.macroName
          (Text.uncomment (Text.splice (h.artifact.render qs).toList)) = some body ∧
        Text.InOrder (qs.flatMap fun q => [q.name ++ "(", h.ending]) body) := by
  have wf := wellFormed_of_ofDocument read
  refine ⟨?_, forall_isLive_iff wf, fun closes => ?_⟩
  · rintro earlier q later rfl
    exact splice_render_split wf
  · exact ⟨_, replacement?_render wf closes, inOrder_items wf closes⟩

/-- Two entries, the first of a given return type. -/
def entriesOfType (returnType : String) : Json :=
  .object [("queries", .array [
    .object [("name", .string "IQuery_First"), ("return_type", .string returnType)],
    .object [("name", .string "IQuery_Second"), ("return_type", .string "bool")]])]

def queriesOfType (returnType : String) : List Query :=
  [{ name := "IQuery_First", returnType, parameters := [], category := .standard },
   { name := "IQuery_Second", returnType := "bool", parameters := [], category := .standard }]

theorem live_of_ofDocument_closed :
    Query.ofDocument (entriesOfType "int /* rows */") = .ok (queriesOfType "int /* rows */") ∧
      (∀ q ∈ queriesOfType "int /* rows */", q.ClosesComments) ∧
      ∃ body, Text.replacement? "QUERY_FORWARDING_CACHE" (Text.uncomment (Text.splice
          (Artifact.render (.forwarding .cache) (queriesOfType "int /* rows */")).toList)) =
            some body ∧
        Text.InOrder ["IQuery_First(", "\x7d", "IQuery_Second(", "\x7d"] body := by
  have read : Query.ofDocument (entriesOfType "int /* rows */") =
      .ok (queriesOfType "int /* rows */") := rfl
  have closes : ∀ q ∈ queriesOfType "int /* rows */", q.ClosesComments := by decide
  exact ⟨read, closes, (live_of_ofDocument read (.forwarding .cache)).2.2 closes⟩

/-- A comment that a type leaves open swallows the item of its own query and all later ones. -/
theorem open_comment_swallows :
    Query.ofDocument (entriesOfType "int /*") = .ok (queriesOfType "int /*") ∧
      ¬ ∃ body, Text.replacement? "QUERY_DEFINITION" (Text.uncomment (Text.splice
          (Artifact.render (.declarations .pure) (queriesOfType "int /*")).toList)) =
            some body ∧
        Text.InOrder ["IQuery_First(", "= 0;", "IQuery_Second(", "= 0;"] body := by
  have read : Query.ofDocument (entriesOfType "int /*") = .ok (queriesOfType "int /*") := rfl
  have swallowed : Text.uncomment ((opening (.declarations .pure)).toList ++
      items (.declarations .pure) (queriesOfType "int /*") ++
        '\n' :: (Text.ofLines (bottom (.declarations .pure))).toList) =
      (opening (.declarations .pure)).toList ++ "     virtual int ".toList ++ [] := by
    decide +kernel
  have left : Text.replacement? "QUERY_DEFINITION" (Text.uncomment (Text.splice
      (Artifact.render (.declarations .pure) (queriesOfType "int /*")).toList)) =
        some "     virtual int ".toList := by
    have whole := splice_render_items (h := .declarations .pure) (wellFormed_of_ofDocument read)
    change Text.splice (Artifact.render (.declarations .pure) _).toList = _ at whole
    rw [whole, Text.uncomment_append after_above, left_above, swallowed]
    exact replacement?_aboveCode (h := .declarations .pure) (by decide) (.inl rfl)
  refine ⟨read, ?_⟩
  rintro ⟨body, found, before, after, split, _⟩
  rw [left, Option.some_inj] at found
  have named : '(' ∈ body := by
    rw [split]
    simp
  rw [← found] at named
  exact absurd named (by decide)

end QueryHeaders.MacroHeader
