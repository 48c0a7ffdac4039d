import QueryHeaders.Proofs.Artifact.Lines
import QueryHeaders.Proofs.Artifact.Literal
import QueryHeaders.Proofs.Artifact.LogicalLines
import QueryHeaders.Proofs.Text.Reading

/-!
What the generated files list.

Each file is read line by line, without a look at the queries it was made of: the items of a macro,
the flags of the build file, the keys of the authentication table. The files that were made of one
list of well formed queries list the methods of these queries, in order and nothing else.
-/
namespace QueryHeaders

open Text (between? linesAfter linesBetween continuedLines)

variable {qs : List Query} {q : Query}

/-- What a file may tell of a method. -/
structure Method where
  returnType : String
  name : String
  fullParameters : String
  callParameters : String
  deriving DecidableEq, Repr

namespace Method

/-- The declaration of the method, its name qualified by a scope. -/
def signature (scope : String) (m : Method) : String :=
  m.returnType ++ " " ++ scope ++ m.name ++ "(" ++ m.fullParameters ++ ")"

/-- The call of the method with its parameters. -/
def call (m : Method) : String := m.name ++ "(" ++ m.callParameters ++ ")"

end Method

def Query.method (q : Query) : Method where
  returnType := q.returnType
  name := q.name
  fullParameters := q.fullParameters
  callParameters := q.callParameters

/-! ## Readers -/

/-- The lines of the replacement text of a macro. -/
def macroBody (name : String) (ls : List String) : List String :=
  continuedLines (linesAfter ("#define " ++ name ++ "() \\") ls)

/-- The signatures that the macro of a text declares. -/
def Declaration.declared? (d : Declaration) (text : String) : Option (List String) :=
  (macroBody d.macroName (Text.physicalLines text)).mapM
    (between? "    virtual " (" " ++ d.specifier ++ ";"))

namespace Wrapper

def scope (w : Wrapper) : String := w.className ++ "::"

/-- The signatures and calls of methods of three lines each. -/
def methods? (w : Wrapper) : List String → Option (List (String × String))
  | [] => some []
  | first :: second :: third :: rest => do
      let signature ← between? "    " " \x7b" first
      let call ← between? ("        return this->" ++ w.member ++ "->") ";" second
      if third = "    \x7d" then return (signature, call) :: (← methods? w rest)
      else none
  | _ => none

/-- The signatures and calls of the methods that the macro of a text defines. -/
def forwarded? (w : Wrapper) (text : String) : Option (List (String × String)) :=
  w.methods? (macroBody w.macroName (Text.physicalLines text))

end Wrapper

namespace AuthenticationTable

def key? (line : String) : Option String := do
  let rest ← line.toList.dropPrefix? "    \x7b".toList
  let (key, _) ← Header.readLiteral rest
  return key

def mapOpening : String :=
  "static std::unordered_map<std::string, AuthConfig> QUERY_AUTH_MAP" ++ " = \x7b"

/-- The keys of the table of a text. -/
def keys? (text : String) : Option (List String) :=
  (linesBetween mapOpening "\x7d;" (Text.physicalLines text)).mapM key?

end AuthenticationTable

namespace BuildFlags

/-- The compile definitions that a text adds. -/
def defined? (text : String) : Option (List String) :=
  (linesBetween "add_compile_definitions(" ")" (Text.physicalLines text)).mapM (between? "    " "")

/-- The flags that a text sets. -/
def set (text : String) : List String :=
  (Text.physicalLines text).filterMap (between? "set(" " TRUE)")

end BuildFlags

/-- What is read from the text is what these queries say, one item for each. -/
def Artifact.Lists (a : Artifact) (text : String) (qs : List Query) : Prop :=
  match a with
  | .declarations d => d.declared? text = some (qs.map fun q => q.method.signature "")
  | .forwarding w =>
      w.forwarded? text = some (qs.map fun q => (q.method.signature w.scope, q.method.call))
  | .authentication =>
      AuthenticationTable.keys? text =
        some ((qs.filter fun q => q.authentication.isSome).map Query.name)
  | .cmake =>
      BuildFlags.defined? text = some (qs.map fun q => "QUERY_EXISTS_" ++ q.name) ∧
        BuildFlags.set text = qs.map fun q => "QUERY_EXISTS_" ++ q.name

/-! ## Macros -/

namespace MacroHeader

variable {h : MacroHeader}

theorem notMem_of_isWhole {ls : List String} (whole : ∀ l ∈ ls, Text.IsWhole l) (s : String) :
    s ++ " \\" ∉ ls := by
  intro member
  apply (whole _ member).notContinued
  rw [String.toList_append, List.getLast?_append]
  rfl

theorem macroBody_render (wf : ∀ q ∈ qs, q.WellFormed) :
    macroBody h.macroName (Text.physicalLines (h.artifact.render qs)) = qs.flatMap h.itemLines := by
  have directive : "#define " ++ h.macroName ++ "() \\" = h.opening ++ " \\" := by
    have closing : "() \\" = "()" ++ " \\" := rfl
    rw [opening, closing, ← String.append_assoc]
  have body : ∀ l ∈ qs.flatMap h.itemLines, Text.IsWhole l := fun l hl =>
    isWhole_macroLines wf l (List.mem_cons_of_mem _ hl)
  rw [physicalLines_render wf, macroBody, macroLines, directive]
  obtain none | ⟨init, last, split⟩ := List.eq_nil_or_concat (qs.flatMap h.itemLines)
  · have whole : ∀ l ∈ h.above qs ++ [h.opening] ++ h.bottom ++ [""], Text.IsWhole l := by
      simp only [List.forall_mem_append, List.forall_mem_singleton]
      exact ⟨⟨⟨isWhole_above, isWhole_opening⟩, isWhole_bottom⟩, isWhole_empty⟩
    rw [none, Header.continued, Text.linesAfter_of_notMem (notMem_of_isWhole whole _)]
    rfl
  · rw [List.concat_eq_append] at split
    rw [split] at body ⊢
    have last : Text.IsWhole last := body last (by simp)
    rw [← List.cons_append, Header.continued_eq, List.map_cons]
    simp only [List.append_assoc, List.cons_append]
    rw [Text.linesAfter_append (notMem_of_isWhole isWhole_above _)]
    exact Text.continuedLines_append last

end MacroHeader

theorem Declaration.line_eq (d : Declaration) (q : Query) :
    d.line q = "    virtual " ++ q.method.signature "" ++ (" " ++ d.specifier ++ ";") := by
  have closing : ") " = ")" ++ " " := rfl
  delta Declaration.line
  simp only [Method.signature, Query.method, closing, String.append_assoc, String.empty_append]

theorem Declaration.lists_render (d : Declaration) (wf : ∀ q ∈ qs, q.WellFormed) :
    d.declared? (d.render qs) = some (qs.map fun q => q.method.signature "") := by
  have body := MacroHeader.macroBody_render (h := .declarations d) wf
  change macroBody d.macroName (Text.physicalLines (d.render qs)) =
    qs.flatMap fun q => [d.line q] at body
  rw [declared?, body, ← List.map_eq_flatMap]
  refine Text.mapM_map_of_forall fun q _ => ?_
  rw [d.line_eq, Text.between?_append]

namespace Wrapper

theorem method_eq (w : Wrapper) (q : Query) :
    w.method q =
      ["    " ++ q.method.signature w.scope ++ " \x7b",
        "        return this->" ++ w.member ++ "->" ++ q.method.call ++ ";", "    \x7d"] := by
  have opening : ") \x7b" = ")" ++ " \x7b" := rfl
  have closing : ");" = ")" ++ ";" := rfl
  simp only [method, Method.signature, Method.call, Query.method, scope, opening, closing,
    String.append_assoc]

theorem methods?_flatMap (w : Wrapper) (qs : List Query) :
    w.methods? (qs.flatMap w.method) =
      some (qs.map fun q => (q.method.signature w.scope, q.method.call)) := by
  induction qs with
  | nil => rfl
  | cons q qs ih =>
      rw [List.flatMap_cons, method_eq, List.cons_append, List.cons_append, List.cons_append,
        List.nil_append, methods?, Text.between?_append, Text.between?_append, ih]
      rfl

theorem lists_render (w : Wrapper) (wf : ∀ q ∈ qs, q.WellFormed) :
    w.forwarded? (w.render qs) =
      some (qs.map fun q => (q.method.signature w.scope, q.method.call)) := by
  have body := MacroHeader.macroBody_render (h := .forwarding w) wf
  change macroBody w.macroName (Text.physicalLines (w.render qs)) = qs.flatMap w.method at body
  rw [forwarded?, body, methods?_flatMap]

end Wrapper

/-! ## The authentication table -/

theorem Artifact.physicalLines_render (a : Artifact) (wf : ∀ q ∈ qs, q.WellFormed) :
    Text.physicalLines (a.render qs) = a.lines qs ++ [""] := by
  have noFeed : ¬ Text.StandsIn '\n' (a.lines qs) := fun h =>
    ((a.standsIn_lines wf rfl).mp h).2.1 rfl
  rw [a.render_eq_ofLines, Text.physicalLines_ofLines noFeed]

theorem Header.exists_of_mem_separated {ls : List String} {l : String}
    (h : l ∈ Header.separated ls) : ∃ line ∈ ls, ∃ rest, l = line ++ rest := by
  fun_induction Header.separated ls with
  | case1 => cases h
  | case2 line => exact ⟨line, List.mem_singleton_self line, "", by simpa using h⟩
  | case3 line others given ih =>
      obtain rfl | later := List.mem_cons.mp h
      · exact ⟨line, List.mem_cons_self, ",", rfl⟩
      · obtain ⟨other, member, rest, same⟩ := ih later
        exact ⟨other, List.mem_cons_of_mem line member, rest, same⟩

def Header.guardTop (guard : String) : List String :=
  [Header.marker, "#ifndef " ++ guard, "#define " ++ guard, ""]

def Header.guardBottom (guard : String) : List String := ["", "#endif // " ++ guard, ""]

theorem Header.guardedLines_append (guard : String) (before after : List String) :
    Header.guardedLines guard (before ++ after) ++ [""] =
      Header.guardTop guard ++ before ++ (after ++ Header.guardBottom guard) := by
  simp [Header.guardedLines, Header.guardTop, Header.guardBottom]

/-- The entries of an initializer, with the commas after them. -/
theorem Header.linesBetween_initialized {declaration : String} {before entries after : List String}
    (first : declaration ++ " = \x7b" ∉ before ++ after)
    (last : "\x7d;" ∉ Header.separated entries) :
    linesBetween (declaration ++ " = \x7b") "\x7d;"
      (before ++ (Header.initialized declaration entries ++ after)) = Header.separated entries := by
  rw [List.mem_append, not_or] at first
  rw [Header.initialized]
  split
  · next none =>
      have other : declaration ++ " = \x7b" ≠ declaration ++ " = \x7b\x7d;" := by
        rw [Ne, String.append_right_inj]
        decide
      have absent : declaration ++ " = \x7b" ∉ before ++ ([declaration ++ " = \x7b\x7d;"] ++ after) := by
        simp only [List.mem_append, List.mem_singleton, first, other, or_false, not_false_eq_true]
      rw [linesBetween, Text.linesAfter_of_notMem absent, List.isEmpty_iff.mp none]
      rfl
  · rw [List.cons_append, List.append_assoc, List.singleton_append,
      Text.linesBetween_append first.1 last]

namespace AuthenticationTable

theorem key?_literal (name rest : String) :
    key? ("    \x7b" ++ (Header.literal name ++ rest)) = some name := by
  rw [key?, String.toList_append, List.dropPrefix?_append_of_beq _ (by simp), String.toList_append]
  simp [Header.readLiteral_literal]

/-- An entry is read whatever follows it. -/
theorem key?_entry {entry : String} (h : entry? q = some entry) (rest : String) :
    key? (entry ++ rest) = some q.name := by
  obtain ⟨a, _, rfl⟩ := Option.map_eq_some_iff.mp h
  simp only [String.append_assoc]
  exact key?_literal _ _

theorem mapM_key?_separated {ls : List String} (h : ∀ l ∈ ls, key? (l ++ ",") = key? l) :
    (Header.separated ls).mapM key? = ls.mapM key? := by
  fun_induction Header.separated ls with
  | case1 => rfl
  | case2 line => rfl
  | case3 line rest given ih =>
      obtain ⟨first, others⟩ := List.forall_mem_cons.mp h
      rw [List.mapM_cons, List.mapM_cons, first, ih others]

theorem mapM_key?_entries (qs : List Query) :
    (qs.filterMap entry?).mapM key? =
      some ((qs.filter fun q => q.authentication.isSome).map Query.name) := by
  induction qs with
  | nil => rfl
  | cons q qs ih =>
      cases stated : q.authentication with
      | none =>
          have left : entry? q = none := by
            unfold entry?
            rw [stated]
            rfl
          rw [List.filterMap_cons_none left, ih, List.filter_cons_of_neg (by simp [stated])]
      | some a =>
          obtain ⟨entry, made⟩ := exists_entry stated
          have key : key? entry = some q.name := by simpa using key?_entry made ""
          rw [List.filterMap_cons_some made, List.mapM_cons, key, ih,
            List.filter_cons_of_pos (by simp [stated])]
          rfl

theorem closing_notMem_entries : "\x7d;" ∉ Header.separated (qs.filterMap entry?) := by
  intro member
  obtain ⟨entry, made, rest, same⟩ := Header.exists_of_mem_separated member
  obtain ⟨q, _, made⟩ := List.mem_filterMap.mp made
  have key := key?_entry made rest
  rw [← same] at key
  cases key

/-- The lines above the table, where no token is made automatically. -/
def above (qs : List Query) : List String :=
  Header.guardTop "AUTH_CONFIG_HPP" ++
    (preamble ++ (if qs.isEmpty then [Header.noQueries] else []) ++ autoTokenLines [] ++ [""])

theorem mapOpening_notMem (qs : List Query) :
    mapOpening ∉ above qs ++ Header.guardBottom "AUTH_CONFIG_HPP" := by
  rw [above]
  cases qs.isEmpty <;> decide +kernel

theorem lines_eq (wf : ∀ q ∈ qs, q.WellFormed) :
    Artifact.lines .authentication qs ++ [""] =
      above qs ++ (mapLines qs ++ Header.guardBottom "AUTH_CONFIG_HPP") := by
  rw [Artifact.lines, autoTokens_eq_nil wf, Header.guardedLines_append, above]

theorem lists_render (wf : ∀ q ∈ qs, q.WellFormed) :
    keys? (render qs) = some ((qs.filter fun q => q.authentication.isSome).map Query.name) := by
  have lines : Text.physicalLines (render qs) = Artifact.lines .authentication qs ++ [""] :=
    Artifact.physicalLines_render .authentication wf
  have each : ∀ l ∈ qs.filterMap entry?, key? (l ++ ",") = key? l := by
    intro l hl
    obtain ⟨q, _, made⟩ := List.mem_filterMap.mp hl
    have key : key? (l ++ "") = some q.name := key?_entry made ""
    rw [key?_entry made ","]
    simpa using key.symm
  have entries : linesBetween mapOpening "\x7d;"
      (above qs ++ (mapLines qs ++ Header.guardBottom "AUTH_CONFIG_HPP")) =
        Header.separated (qs.filterMap entry?) :=
    Header.linesBetween_initialized (mapOpening_notMem qs) closing_notMem_entries
  rw [keys?, lines, lines_eq wf, entries, mapM_key?_separated each, mapM_key?_entries]

end AuthenticationTable

/-! ## Build flags -/

namespace BuildFlags

/-- The lines up to those that set flags. -/
def front (qs : List Query) : List String :=
  [marker, "", "# Query definitions found"] ++
    "add_compile_definitions(" :: (qs.map (fun q => "    " ++ flag q) ++
      ")" :: ["", "# Set individual query flags"])

theorem lines_of_ne_nil (given : qs.isEmpty = false) :
    lines qs = front qs ++ qs.map fun q => "set(" ++ flag q ++ " TRUE)" := by
  simp [lines, front, given]

theorem closing_notMem_flagLines : ")" ∉ qs.map fun q => "    " ++ flag q := by
  intro member
  obtain ⟨q, _, same⟩ := List.mem_map.mp member
  rw [← String.toList_inj, String.toList_append] at same
  cases same

theorem linesBetween_lines (rest : List String) :
    linesBetween "add_compile_definitions(" ")" (front qs ++ rest) =
      qs.map fun q => "    " ++ flag q := by
  have whole : front qs ++ rest =
      [marker, "", "# Query definitions found"] ++
        "add_compile_definitions(" :: (qs.map (fun q => "    " ++ flag q) ++
          ")" :: (["", "# Set individual query flags"] ++ rest)) := by
    simp [front]
  rw [whole, Text.linesBetween_append (by decide) closing_notMem_flagLines]

theorem between?_flagLine (q : Query) : between? "set(" " TRUE)" ("    " ++ flag q) = none := by
  apply Text.between?_eq_none
  rw [String.toList_append]
  rfl

theorem filterMap_front : (front qs).filterMap (between? "set(" " TRUE)") = [] := by
  rw [List.filterMap_eq_nil_iff, front]
  simp only [List.forall_mem_append, List.forall_mem_cons, List.forall_mem_map]
  exact ⟨by decide +kernel, by decide +kernel, fun q _ => between?_flagLine q, by decide +kernel⟩

theorem filterMap_setLines (qs : List Query) :
    (qs.map fun q => "set(" ++ flag q ++ " TRUE)").filterMap (between? "set(" " TRUE)") =
      qs.map flag := by
  rw [List.filterMap_map, ← List.filterMap_eq_map]
  exact List.filterMap_congr fun q _ => Text.between?_append _ _ _

theorem lists_render (wf : ∀ q ∈ qs, q.WellFormed) :
    defined? (render qs) = some (qs.map flag) ∧ set (render qs) = qs.map flag := by
  have written : Text.physicalLines (render qs) = lines qs ++ [""] :=
    Artifact.physicalLines_render .cmake wf
  rw [defined?, set, written]
  cases given : qs.isEmpty with
  | true =>
      rw [List.isEmpty_iff.mp given]
      exact ⟨by decide +kernel, by decide +kernel⟩
  | false =>
      have last : [""].filterMap (between? "set(" " TRUE)") = [] := by decide +kernel
      rw [lines_of_ne_nil given, List.append_assoc, linesBetween_lines, List.filterMap_append,
        List.filterMap_append, filterMap_front, filterMap_setLines, last, List.append_nil]
      refine ⟨Text.mapM_map_of_forall fun q _ => ?_, rfl⟩
      rw [Text.between?_eq_some_iff, String.append_empty]

end BuildFlags

theorem Artifact.lists_render (a : Artifact) (wf : ∀ q ∈ qs, q.WellFormed) :
    a.Lists (a.render qs) qs := by
  cases a with
  | declarations d => exact d.lists_render wf
  | forwarding w => exact w.lists_render wf
  | authentication => exact AuthenticationTable.lists_render wf
  | cmake => exact BuildFlags.lists_render wf

end QueryHeaders
