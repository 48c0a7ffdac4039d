import QueryHeaders.Proofs.Artifact.Continuation
import QueryHeaders.Proofs.Artifact.MacroHeader
import QueryHeaders.Proofs.Query.Enablement
import QueryHeaders.Proofs.Text.LineEnds

/-!
The lines of the generated files, and the control characters in them.

Whatever is written for a well formed query holds no control character, except for the variable of
its authentication, of which nothing but blanks at its ends has been removed. A literal escapes the
line feeds of the variable, and no other control character.
-/
namespace QueryHeaders

open Text (StandsIn)

variable {c : Char} {s : String} {ls : List String} {qs : List Query} {q : Query}

/-! ## Pieces of files -/

namespace Header

def guardedLines (guard : String) (body : List String) : List String :=
  [marker, "#ifndef " ++ guard, "#define " ++ guard, ""] ++ body ++ ["", "#endif // " ++ guard]

theorem standsIn_guardedLines {guard : String} (identifier : Text.isIdentifier guard = true)
    (hc : Text.isControl c = true) : StandsIn c (guardedLines guard ls) ↔ StandsIn c ls := by
  have named : c ∉ guard.toList :=
    Text.notMem_of_isControl (Text.hasControl_of_isIdentifier identifier) hc
  have fixed : ¬ StandsIn c [marker, "#ifndef ", "#define ", "", "#endif // "] :=
    Text.not_standsIn_of_isControl hc (by decide)
  simp only [Text.standsIn_cons, Text.standsIn_nil, not_or] at fixed
  rw [guardedLines]
  simp only [Text.standsIn_append, Text.standsIn_cons, Text.standsIn_nil, String.toList_append,
    List.mem_append, fixed, named, or_false, false_or]

theorem hasControl_macroLines {name : String} (identifier : Text.isIdentifier name = true)
    (plain : ∀ l ∈ ls, Text.hasControl l = false) :
    ∀ l ∈ macroLines name ls, Text.hasControl l = false := by
  have opening : Text.hasControl ("#define " ++ name ++ "()") = false := by
    rw [Text.hasControl_append, Text.hasControl_append, Text.hasControl_of_isIdentifier identifier]
    rfl
  rw [macroLines]
  split
  · exact List.forall_mem_cons.mpr ⟨rfl, List.forall_mem_singleton.mpr opening⟩
  · exact hasControl_continued (List.forall_mem_cons.mpr ⟨opening, plain⟩)

theorem mem_escapeChar {d : Char} (hc : Text.isControl c = true) :
    c ∈ escapeChar d ↔ c = d ∧ c ≠ '\n' := by
  have quote : c ≠ '"' := Text.ne_of_isControl hc rfl
  have backslash : c ≠ '\\' := Text.ne_of_isControl hc rfl
  have letter : c ≠ 'n' := Text.ne_of_isControl hc rfl
  rw [escapeChar]
  split
  · next same => simp [same, quote, backslash]
  · split
    · next same => simp [same, backslash]
    · split
      · next same => simp [same, backslash, letter]
      · next other =>
          rw [List.mem_singleton]
          constructor
          · rintro rfl
            exact ⟨rfl, other⟩
          · exact And.left

/-- The control characters of a literal are those of the text, but for line feeds. -/
theorem mem_literal (hc : Text.isControl c = true) :
    c ∈ (literal s).toList ↔ c ∈ s.toList ∧ c ≠ '\n' := by
  have quote : c ≠ '"' := Text.ne_of_isControl hc rfl
  rw [literal, String.toList_ofList, List.mem_cons, List.mem_append, List.mem_flatMap]
  simp only [mem_escapeChar hc, quote, List.mem_singleton, false_or, or_false]
  constructor
  · rintro ⟨d, hd, rfl, other⟩
    exact ⟨hd, other⟩
  · rintro ⟨member, other⟩
    exact ⟨c, member, rfl, other⟩

theorem standsIn_separated (hc : Text.isControl c = true) :
    StandsIn c (separated ls) ↔ StandsIn c ls := by
  have comma : c ≠ ',' := Text.ne_of_isControl hc rfl
  fun_induction separated ls with
  | case1 => rfl
  | case2 line => rfl
  | case3 line rest given ih => simp [ih, comma]

theorem standsIn_initialized {declaration : String} (plain : Text.hasControl declaration = false)
    (hc : Text.isControl c = true) :
    StandsIn c (initialized declaration ls) ↔ StandsIn c ls := by
  have declared : c ∉ declaration.toList := Text.notMem_of_isControl plain hc
  have fixed : ¬ StandsIn c [" = \x7b\x7d;", " = \x7b", "\x7d;"] :=
    Text.not_standsIn_of_isControl hc (by decide)
  simp only [Text.standsIn_cons, Text.standsIn_nil, not_or] at fixed
  rw [initialized]
  split
  · next none =>
      rw [List.isEmpty_iff] at none
      simp only [none, Text.standsIn_cons, Text.standsIn_nil, String.toList_append, List.mem_append,
        declared, fixed, or_false]
  · simp only [Text.standsIn_cons, Text.standsIn_append, Text.standsIn_nil, String.toList_append,
      List.mem_append, declared, fixed, standsIn_separated hc, or_false, false_or]

end Header

/-- The lines of a generated file. -/
def Artifact.lines (a : Artifact) (qs : List Query) : List String :=
  match a with
  | .declarations kind =>
      Header.guardedLines kind.guard (Header.macroLines kind.macroName (qs.map kind.line))
  | .forwarding wrapper =>
      Header.guardedLines wrapper.guard
        (Header.macroLines wrapper.macroName (qs.flatMap wrapper.method))
  | .authentication =>
      Header.guardedLines "AUTH_CONFIG_HPP"
        (AuthenticationTable.preamble ++ (if qs.isEmpty then [Header.noQueries] else []) ++
          AuthenticationTable.autoTokenLines (AuthenticationTable.autoTokens qs) ++ [""] ++
            AuthenticationTable.mapLines qs)
  | .cmake => BuildFlags.lines qs

theorem Artifact.render_eq_ofLines (a : Artifact) (qs : List Query) :
    a.render qs = Text.ofLines (a.lines qs) := by
  cases a <;> rfl

/-! ## Control characters in files -/

theorem MacroHeader.lines_artifact (h : MacroHeader) :
    h.artifact.lines qs =
      Header.guardedLines h.guard (Header.macroLines h.macroName (qs.flatMap h.itemLines)) := by
  cases h with
  | declarations kind =>
      change Header.guardedLines kind.guard
        (Header.macroLines kind.macroName (qs.map kind.line)) = _
      rw [List.map_eq_flatMap]
      rfl
  | forwarding wrapper => rfl

theorem MacroHeader.not_standsIn_lines (h : MacroHeader) (wf : ∀ q ∈ qs, q.WellFormed)
    (hc : Text.isControl c = true) : ¬ StandsIn c (h.artifact.lines qs) := by
  rw [h.lines_artifact, Header.standsIn_guardedLines isIdentifier_guard hc]
  apply Text.not_standsIn_of_isControl hc
  apply Header.hasControl_macroLines isIdentifier_macroName
  intro l hl
  obtain ⟨q, hq, hl⟩ := List.mem_flatMap.mp hl
  exact hasControl_itemLines (wf q hq) l hl

theorem BuildFlags.hasControl_flag (wf : q.WellFormed) : Text.hasControl (flag q) = false := by
  rw [flag, Text.hasControl_append, Text.hasControl_of_isIdentifier wf.name_isIdentifier]
  rfl

theorem BuildFlags.not_standsIn_lines (wf : ∀ q ∈ qs, q.WellFormed)
    (hc : Text.isControl c = true) : ¬ StandsIn c (lines qs) := by
  have defined : ¬ StandsIn c (qs.map fun q => "    " ++ flag q) := by
    refine Text.not_standsIn_of_isControl hc (List.forall_mem_map.mpr fun q hq => ?_)
    rw [Text.hasControl_append, hasControl_flag (wf q hq)]
    rfl
  have set : ¬ StandsIn c (qs.map fun q => "set(" ++ flag q ++ " TRUE)") := by
    refine Text.not_standsIn_of_isControl hc (List.forall_mem_map.mpr fun q hq => ?_)
    rw [Text.hasControl_append, Text.hasControl_append, hasControl_flag (wf q hq)]
    rfl
  have fixed : ∀ {ls : List String}, (∀ l ∈ ls, Text.hasControl l = false) → ¬ StandsIn c ls :=
    Text.not_standsIn_of_isControl hc
  rw [lines]
  split
  · exact fixed (by decide)
  · simp only [Text.standsIn_append, not_or]
    exact ⟨fixed (by decide), ⟨⟨fixed (by decide), defined⟩, fixed (by decide)⟩, set⟩

namespace AuthenticationTable

/-- The control characters of an entry are those of the variable, but for line feeds. -/
theorem mem_entry {entry : String} {a : Authentication} (wf : q.WellFormed)
    (hc : Text.isControl c = true) (stated : q.authentication = some a)
    (h : entry? q = some entry) : c ∈ entry.toList ↔ c ∈ a.envVar.toList ∧ c ≠ '\n' := by
  unfold entry? at h
  rw [stated, Option.map_some, Option.some_inj] at h
  subst h
  have name : c ∉ (Header.literal q.name).toList := by
    rw [Header.mem_literal hc]
    rintro ⟨member, _⟩
    exact Text.notMem_of_isControl (Text.hasControl_of_isIdentifier wf.name_isIdentifier) hc member
  have fixed : ¬ StandsIn c
      ["    \x7b", ", \x7bAuthType::", Authentication.typeName, ", ", "\x7d\x7d"] :=
    Text.not_standsIn_of_isControl hc (by decide)
  simp only [Text.standsIn_cons, Text.standsIn_nil, not_or] at fixed
  simp only [String.toList_append, List.mem_append, fixed, name, Header.mem_literal hc, or_false,
    false_or]

theorem exists_entry {a : Authentication} (stated : q.authentication = some a) :
    ∃ entry, entry? q = some entry := by
  unfold entry?
  rw [stated]
  exact ⟨_, rfl⟩

theorem standsIn_entries (wf : ∀ q ∈ qs, q.WellFormed) (hc : Text.isControl c = true) :
    StandsIn c (qs.filterMap entry?) ↔
      c ≠ '\n' ∧ ∃ q ∈ qs, ∃ a, q.authentication = some a ∧ c ∈ a.envVar.toList := by
  constructor
  · rintro ⟨entry, member, hc'⟩
    obtain ⟨q, hq, made⟩ := List.mem_filterMap.mp member
    obtain ⟨a, stated, _⟩ := Option.map_eq_some_iff.mp made
    obtain ⟨inside, other⟩ := (mem_entry (wf q hq) hc stated made).mp hc'
    exact ⟨other, q, hq, a, stated, inside⟩
  · rintro ⟨other, q, hq, a, stated, inside⟩
    obtain ⟨entry, made⟩ := exists_entry stated
    exact ⟨entry, List.mem_filterMap.mpr ⟨q, hq, made⟩,
      (mem_entry (wf q hq) hc stated made).mpr ⟨inside, other⟩⟩

theorem autoTokens_eq_nil (wf : ∀ q ∈ qs, q.WellFormed) : autoTokens qs = [] := by
  rw [autoTokens, filter_isAutoToken wf]
  rfl

theorem standsIn_lines (wf : ∀ q ∈ qs, q.WellFormed) (hc : Text.isControl c = true) :
    StandsIn c (Artifact.lines .authentication qs) ↔
      c ≠ '\n' ∧ ∃ q ∈ qs, ∃ a, q.authentication = some a ∧ c ∈ a.envVar.toList := by
  have fixed : ∀ {ls : List String}, (∀ l ∈ ls, Text.hasControl l = false) → ¬ StandsIn c ls :=
    Text.not_standsIn_of_isControl hc
  have preamble : ¬ StandsIn c preamble := fixed (by decide)
  have comment : ¬ StandsIn c (if qs.isEmpty then [Header.noQueries] else []) := by
    split
    · exact fixed (by decide)
    · exact fixed (by decide)
  have tokens : ¬ StandsIn c (autoTokenLines []) := fixed (by decide)
  have empty : ¬ StandsIn c [""] := fixed (by decide)
  rw [Artifact.lines, Header.standsIn_guardedLines (by decide) hc, autoTokens_eq_nil wf]
  simp only [Text.standsIn_append, preamble, comment, tokens, empty, false_or, mapLines]
  rw [Header.standsIn_initialized rfl hc, standsIn_entries wf hc]

end AuthenticationTable

/-- The control characters in the lines of the generated files are those of the variables, but for
line feeds, and these stand in the authentication header only. -/
theorem Artifact.standsIn_lines (a : Artifact) (wf : ∀ q ∈ qs, q.WellFormed)
    (hc : Text.isControl c = true) :
    StandsIn c (a.lines qs) ↔ a = .authentication ∧ c ≠ '\n' ∧
      ∃ q ∈ qs, ∃ auth, q.authentication = some auth ∧ c ∈ auth.envVar.toList := by
  cases a with
  | declarations kind =>
      have none := MacroHeader.not_standsIn_lines (.declarations kind) wf hc
      exact ⟨fun h => absurd h none, nofun⟩
  | forwarding wrapper =>
      have none := MacroHeader.not_standsIn_lines (.forwarding wrapper) wf hc
      exact ⟨fun h => absurd h none, nofun⟩
  | authentication => simpa using AuthenticationTable.standsIn_lines wf hc
  | cmake => exact ⟨fun h => absurd h (BuildFlags.not_standsIn_lines wf hc), nofun⟩

/-! ## Files of documents -/

/-- In the generated files of a document the line feeds end lines and nothing else. Whether there
are other control characters, and whether carriage returns leave the lines whole, is a matter of the
variables in the authentication header, each entry of which has one variable. -/
theorem control_iff_of_ofDocument {document : Json} {fs : Features} {all : List Query}
    (read : Query.ofDocument document = .ok all) (enabled : enabledQueries fs all = .ok qs) :
    (∀ r ∈ renderAll qs,
      Text.physicalLines r.content = r.artifact.lines qs ++ [""] ∧
      ((∀ c ∈ r.content.toList, Text.isControl c = true → c = '\n') ↔
        (r.artifact = .authentication → ∀ q ∈ qs, ∀ a, q.authentication = some a →
          ∀ c ∈ a.envVar.toList, Text.isControl c = true → c = '\n')) ∧
      (Text.anyLines r.content = r.artifact.lines qs ++ [""] ↔
        (r.artifact = .authentication → ∀ q ∈ qs, ∀ a, q.authentication = some a →
          '\r' ∉ a.envVar.toList))) ∧
    (∀ q ∈ qs, ∀ a, q.authentication = some a →
      ∃ entry, AuthenticationTable.entry? q = some entry ∧ Text.physicalLines entry = [entry] ∧
        (Text.anyLines entry = [entry] ↔ '\r' ∉ a.envVar.toList)) ∧
    AuthenticationTable.autoTokens qs = [] := by
  have wf : ∀ q ∈ qs, q.WellFormed := fun q hq =>
    wellFormed_of_ofDocument read q (mem_of_mem_enabledQueries enabled hq)
  refine ⟨fun r hr => ?_, fun q hq a stated => ?_, AuthenticationTable.autoTokens_eq_nil wf⟩
  · obtain ⟨a, _, rfl⟩ := List.mem_map.mp hr
    have noFeed : ¬ StandsIn '\n' (a.lines qs) := fun h => ((a.standsIn_lines wf rfl).mp h).2.1 rfl
    dsimp only
    rw [a.render_eq_ofLines, Text.physicalLines_ofLines noFeed, Text.anyLines_ofLines_iff noFeed,
      a.standsIn_lines wf rfl]
    -- A control character that is no line feed ends no line, so it stands within one.
    refine ⟨rfl, ⟨fun h same q hq auth stated c hc control => ?_, fun h c hc control => ?_⟩, ?_⟩
    · by_contra other
      refine other (h c ?_ control)
      rw [Text.mem_ofLines other]
      exact (a.standsIn_lines wf control).mpr ⟨same, other, q, hq, auth, stated, hc⟩
    · by_contra other
      rw [Text.mem_ofLines other] at hc
      obtain ⟨same, _, q, hq, auth, stated, inside⟩ := (a.standsIn_lines wf control).mp hc
      exact other (h same q hq auth stated c inside control)
    · constructor
      · intro none same q hq auth stated inside
        exact none ⟨same, by decide, q, hq, auth, stated, inside⟩
      · rintro none ⟨same, _, q, hq, auth, stated, inside⟩
        exact none same q hq auth stated inside
  · obtain ⟨entry, made⟩ := AuthenticationTable.exists_entry stated
    have noFeed : '\n' ∉ entry.toList := fun h =>
      ((AuthenticationTable.mem_entry (wf q hq) rfl stated made).mp h).2 rfl
    refine ⟨entry, made, Text.physicalLines_of_notMem noFeed, ?_⟩
    rw [Text.anyLines_eq_singleton_iff noFeed,
      AuthenticationTable.mem_entry (wf q hq) rfl stated made]
    simp

/-- A query that takes its token from this variable. -/
def variableDocument (envVar : String) : Json :=
  .object [("queries", .array [.object [
    ("authentication", .object [("env_var", .string envVar), ("type", .string "token")]),
    ("name", .string "IQuery_Run")]])]

def variableQuery (envVar : String) : Query where
  name := "IQuery_Run"
  returnType := ""
  parameters := []
  category := .standard
  authentication := some ⟨envVar, .required⟩

theorem control_iff_of_ofDocument_lineFeed :
    Query.ofDocument (variableDocument "API\nKEY") = .ok [variableQuery "API\nKEY"] ∧
      enabledQueries {} [variableQuery "API\nKEY"] = .ok [variableQuery "API\nKEY"] ∧
      ∀ r ∈ renderAll [variableQuery "API\nKEY"], ∀ c ∈ r.content.toList,
        Text.isControl c = true → c = '\n' := by
  have read : Query.ofDocument (variableDocument "API\nKEY") = .ok [variableQuery "API\nKEY"] := rfl
  have enabled : enabledQueries {} [variableQuery "API\nKEY"] = .ok [variableQuery "API\nKEY"] :=
    rfl
  refine ⟨read, enabled, fun r hr => ?_⟩
  obtain ⟨files, _, _⟩ := control_iff_of_ofDocument read enabled
  rw [(files r hr).2.1]
  intro _ q hq a stated c hc control
  cases List.mem_singleton.mp hq
  cases stated
  have each : ("API\nKEY".toList.all fun d => !Text.isControl d || d == '\n') = true := rfl
  simpa [control] using List.all_eq_true.mp each c hc

/-- A carriage return in a variable is written as it is, and ends the line of the entry. -/
theorem carriage_return_splits_entry :
    Query.ofDocument (variableDocument "API\rKEY") = .ok [variableQuery "API\rKEY"] ∧
      enabledQueries {} [variableQuery "API\rKEY"] = .ok [variableQuery "API\rKEY"] ∧
      (∃ r ∈ renderAll [variableQuery "API\rKEY"], '\r' ∈ r.content.toList) ∧
      ∃ entry, AuthenticationTable.entry? (variableQuery "API\rKEY") = some entry ∧
        Text.anyLines entry =
          ["    \x7b\"IQuery_Run\", \x7bAuthType::TOKEN, \"API", "KEY\"\x7d\x7d"] := by
  have read : Query.ofDocument (variableDocument "API\rKEY") = .ok [variableQuery "API\rKEY"] := rfl
  have stands : StandsIn '\r' (Artifact.lines .authentication [variableQuery "API\rKEY"]) := by
    rw [Artifact.standsIn_lines _ (wellFormed_of_ofDocument read) rfl]
    exact ⟨rfl, by decide, _, List.mem_singleton_self _, _, rfl, by decide⟩
  have written : '\r' ∈ (Artifact.render .authentication [variableQuery "API\rKEY"]).toList := by
    rw [Artifact.render_eq_ofLines, Text.mem_ofLines (by decide)]
    exact stands
  have rendered : ⟨.authentication, Artifact.render .authentication [variableQuery "API\rKEY"]⟩ ∈
      renderAll [variableQuery "API\rKEY"] :=
    List.mem_map.mpr ⟨.authentication, by decide, rfl⟩
  exact ⟨read, rfl, ⟨_, rendered, written⟩, _, rfl, by decide +kernel⟩

end QueryHeaders
