import QueryHeaders.Proofs.Artifact.Declarations
import QueryHeaders.Proofs.Artifact.Lines
import QueryHeaders.Proofs.Text.Identifier
import QueryHeaders.Proofs.Text.Reading

/-!
The authentication header, read back.

A reader takes the header apart into tokens and reads the declarations of its two symbols. It knows
nothing of queries, and gives back their names and variables, whatever characters stand in them.
-/
namespace QueryHeaders

open Lexer

namespace AuthenticationTable

def pair? : List Token → Option (String × String)
  | [.mark '\x7b', .literal name, .mark ',', .mark '\x7b', .word "AuthType", .mark ':', .mark ':',
      .word "TOKEN", .mark ',', .literal envVar, .mark '\x7d', .mark '\x7d'] => some (name, envVar)
  | _ => none

/-- The numeral for the size in the type of an array of texts. -/
def size? (type : List Token) : Option String := do
  match ← type.dropPrefix? (lexed "static constexpr std::array<const char*, ") with
  | [.word numeral, .mark '>'] => some numeral
  | _ => none

/-- The pairs that the table in a text holds. -/
def pairs? (text : String) : Option (List (String × String)) := do
  let (type, items) ← declaration? "QUERY_AUTH_MAP" (← tokens? text)
  if type = lexed "static std::unordered_map<std::string, AuthConfig> " then items.mapM pair?
  else none

/-- The size and the texts of the array in a text. -/
def array? (text : String) : Option (String × List String) := do
  let (type, items) ← declaration? "AutoToken" (← tokens? text)
  return (← size? type, ← items.mapM text?)

/-- How often a word stands in the code of a text. -/
def occurrences? (name text : String) : Option Nat :=
  (tokens? text).map (List.count (.word name))

/-! ## Tokens of the header -/

/-- The lines above the array, but for a comment. -/
def front : List String :=
  [Header.marker, "#ifndef " ++ "AUTH_CONFIG_HPP", "#define " ++ "AUTH_CONFIG_HPP", ""] ++ preamble

def frontTokens : List Token := Mode.code.out (front.flatMap fun l => l.toList ++ ['\n'])

def arrayType (size : Nat) : List Token :=
  lexed "static constexpr std::array<const char*, " ++ [.word (toString size), .mark '>']

def mapType : List Token := lexed "static std::unordered_map<std::string, AuthConfig> "

/-- The tokens of an entry of the table. -/
def pairTokens (p : String × String) : List Token :=
  [.mark '\x7b', .literal p.1, .mark ',', .mark '\x7b', .word "AuthType", .mark ':', .mark ':',
    .word "TOKEN", .mark ',', .literal p.2, .mark '\x7d', .mark '\x7d']

def pairLine (p : String × String) : String :=
  "    \x7b" ++ Header.literal p.1 ++ ", \x7bAuthType::" ++ Authentication.typeName ++ ", " ++
    Header.literal p.2 ++ "\x7d\x7d"

/-- The names of the queries that need authentication, with their variables. -/
def pairsOf (qs : List Query) : List (String × String) :=
  qs.filterMap fun q => q.authentication.map fun a => (q.name, a.envVar)

theorem lexes_lexed (text : String) (ends : Mode.code.after text.toList = .code) :
    Lexes text.toList (lexed text) := by
  rw [lexed, tokens?, if_pos ends]
  exact ⟨ends, rfl⟩

theorem lexes_front : Lexes (Text.ofLines front).toList frontTokens := by
  rw [Text.toList_ofLines]
  exact ⟨by decide +kernel, rfl⟩

theorem lexes_comment (empty : Bool) :
    Lexes (Text.ofLines (if empty then [Header.noQueries] else [])).toList [] := by
  cases empty <;> exact ⟨by decide +kernel, by decide +kernel⟩

theorem lexes_array (size : Nat) :
    Lexes ("static constexpr std::array<const char*, " ++ toString size ++ "> AutoToken" ++
      " = ").toList (arrayType size ++ [.word "AutoToken", .mark '=']) := by
  have before := lexes_lexed "static constexpr std::array<const char*, " (by decide +kernel)
  have closing : Lexes ('>' :: " AutoToken = ".toList)
      [.mark '>', .word "AutoToken", .mark '='] := ⟨rfl, rfl⟩
  have given : (toString size).toList ≠ [] := by
    rw [Nat.toString_eq_repr, Nat.toList_repr]
    exact Nat.toDigits_ne_nil
  have word := lexes_word given (fun _ => Text.isIdentifierPart_of_mem_toString) rfl (by decide) closing
  rw [String.ofList_toList] at word
  have all := before.append word
  have text : ("static constexpr std::array<const char*, " ++ toString size ++ "> AutoToken" ++
      " = ").toList = "static constexpr std::array<const char*, ".toList ++
        ((toString size).toList ++ '>' :: " AutoToken = ".toList) := by
    simp
  rw [text, arrayType, List.append_assoc]
  exact all

theorem lexes_map :
    Lexes ("static std::unordered_map<std::string, AuthConfig> QUERY_AUTH_MAP" ++ " = ").toList
      (mapType ++ [.word "QUERY_AUTH_MAP", .mark '=']) := by
  have type := lexes_lexed "static std::unordered_map<std::string, AuthConfig> " (by decide +kernel)
  have rest : Lexes "QUERY_AUTH_MAP = ".toList [.word "QUERY_AUTH_MAP", .mark '='] := ⟨rfl, rfl⟩
  have text : "static std::unordered_map<std::string, AuthConfig> QUERY_AUTH_MAP" ++ " = " =
      "static std::unordered_map<std::string, AuthConfig> " ++ "QUERY_AUTH_MAP = " := rfl
  rw [text]
  exact lexes_append type rest

theorem lexes_pairLine (p : String × String) : Lexes (pairLine p).toList (pairTokens p) := by
  have opening : Lexes "    \x7b".toList [.mark '\x7b'] := ⟨rfl, rfl⟩
  have middle : Lexes (", \x7bAuthType::" ++ Authentication.typeName ++ ", ").toList
      [.mark ',', .mark '\x7b', .word "AuthType", .mark ':', .mark ':', .word "TOKEN",
        .mark ','] := ⟨by decide +kernel, by decide +kernel⟩
  have closing : Lexes "\x7d\x7d".toList [.mark '\x7d', .mark '\x7d'] := ⟨rfl, rfl⟩
  have all := lexes_append (lexes_append (lexes_append (lexes_append opening (lexes_literal p.1))
    middle) (lexes_literal p.2)) closing
  rw [← String.append_assoc, ← String.append_assoc] at all
  exact all

theorem lexes_token (v : String) : Lexes ("    " ++ Header.literal v).toList [.literal v] := by
  have blanks : Lexes "    ".toList [] := ⟨rfl, rfl⟩
  exact lexes_append blanks (lexes_literal v)

theorem filterMap_entry? (qs : List Query) : qs.filterMap entry? = (pairsOf qs).map pairLine := by
  rw [pairsOf, List.map_filterMap]
  simp only [Option.map_map]
  rfl

/-- The tokens of the header. -/
def tokensOf (qs : List Query) : List Token :=
  frontTokens ++
    (arrayType (autoTokens qs).length ++ [.word "AutoToken", .mark '='] ++
      bracedTokens ((autoTokens qs).map fun v => [.literal v])) ++
    (mapType ++ [.word "QUERY_AUTH_MAP", .mark '='] ++ bracedTokens ((pairsOf qs).map pairTokens)) ++
    [.mark '#', .word "endif"]

theorem lexes_render (qs : List Query) : Lexes (render qs).toList (tokensOf qs) := by
  have array : Lexes (Text.ofLines (autoTokenLines (autoTokens qs))).toList
      (arrayType (autoTokens qs).length ++ [.word "AutoToken", .mark '='] ++
        bracedTokens ((autoTokens qs).map fun v => [.literal v])) :=
    lexes_initialized (lexes_array _) fun v _ => lexes_token v
  have table : Lexes (Text.ofLines (mapLines qs)).toList
      (mapType ++ [.word "QUERY_AUTH_MAP", .mark '='] ++
        bracedTokens ((pairsOf qs).map pairTokens)) := by
    rw [mapLines, filterMap_entry?]
    exact lexes_initialized lexes_map fun p _ => lexes_pairLine p
  have blank : Lexes (Text.ofLines [""]).toList [] := ⟨rfl, rfl⟩
  have bottom : Lexes (Text.ofLines ["", "#endif // " ++ "AUTH_CONFIG_HPP"]).toList
      [.mark '#', .word "endif"] := ⟨by decide +kernel, by decide +kernel⟩
  have above := lexes_ofLines_append lexes_front (lexes_comment qs.isEmpty)
  have symbols := lexes_ofLines_append (lexes_ofLines_append (lexes_ofLines_append above array) blank)
    table
  have all := lexes_ofLines_append symbols bottom
  rw [List.append_nil, List.append_nil] at all
  have lines : Artifact.lines .authentication qs =
      front ++ (if qs.isEmpty then [Header.noQueries] else []) ++
        autoTokenLines (autoTokens qs) ++ [""] ++ mapLines qs ++
          ["", "#endif // " ++ "AUTH_CONFIG_HPP"] := by
    simp only [Artifact.lines, Header.guardedLines, front, List.append_assoc]
  have text : render qs = Text.ofLines (Artifact.lines .authentication qs) :=
    Artifact.render_eq_ofLines .authentication qs
  rw [text, lines]
  exact all

/-! ## Declarations -/

theorem isItem_token (v : String) : IsItem [.literal v] where
  opens := by simp
  given := List.cons_ne_nil _ _
  passes before rest := by simp [items?]

theorem isItem_pairTokens (p : String × String) : IsItem (pairTokens p) where
  opens := by simp [pairTokens]
  given := List.cons_ne_nil _ _
  passes before rest := by simp [pairTokens, items?]

theorem word_notMem_arrayType {name : String} (size : Nat)
    (fixed : .word name ∉ lexed "static constexpr std::array<const char*, ")
    (letter : ∃ c ∈ name.toList, c.isDigit = false) : .word name ∉ arrayType size := by
  rw [arrayType, List.mem_append, not_or]
  refine ⟨fixed, fun member => ?_⟩
  obtain ⟨c, hc, other⟩ := letter
  simp only [List.mem_cons, Token.word.injEq, reduceCtorEq, List.not_mem_nil, or_false] at member
  rw [member] at hc
  rw [Text.isDigit_of_mem_toString hc] at other
  cases other

/-- The size of the array is a number, and so no symbol. -/
theorem symbols_notMem_arrayType (size : Nat) :
    .word "AutoToken" ∉ arrayType size ∧ .word "QUERY_AUTH_MAP" ∉ arrayType size := by
  have fixed : .word "AutoToken" ∉ lexed "static constexpr std::array<const char*, " ∧
      .word "QUERY_AUTH_MAP" ∉ lexed "static constexpr std::array<const char*, " := by
    decide +kernel
  exact ⟨word_notMem_arrayType size fixed.1 ⟨'A', by simp, rfl⟩,
    word_notMem_arrayType size fixed.2 ⟨'Q', by simp, rfl⟩⟩

theorem symbols_notMem_mapType :
    .word "AutoToken" ∉ mapType ∧ .word "QUERY_AUTH_MAP" ∉ mapType := by
  decide +kernel

theorem word_notMem_bracedTokens {name : String} {tss : List (List Token)}
    (each : ∀ item ∈ tss, .word name ∉ item) : .word name ∉ bracedTokens tss := by
  have items : .word name ∉ itemTokens tss := by
    intro member
    obtain comma | ⟨item, hitem, inside⟩ := mem_itemTokens member
    · cases comma
    · exact each item hitem inside
  simp [bracedTokens, items]

theorem word_notMem_tokens (name : String) (vs : List String) :
    .word name ∉ bracedTokens (vs.map fun v => [.literal v]) :=
  word_notMem_bracedTokens (List.forall_mem_map.mpr fun v _ => by simp)

/-- A semicolon ends what stands above the array, where no symbol is mentioned. -/
theorem frontTokens_closed :
    .mark ';' ∈ frontTokens.getLast? ∧ .word "AutoToken" ∉ frontTokens ∧
      .word "QUERY_AUTH_MAP" ∉ frontTokens := by
  decide +kernel

theorem word_notMem_pairTokens (name : String) (type : name ≠ "AuthType") (enumerator : name ≠ "TOKEN")
    (ps : List (String × String)) : .word name ∉ bracedTokens (ps.map pairTokens) :=
  word_notMem_bracedTokens (List.forall_mem_map.mpr fun p _ => by
    simp [pairTokens, type, enumerator])

theorem declaration?_array (qs : List Query) :
    declaration? "AutoToken" (tokensOf qs) =
      some (arrayType (autoTokens qs).length, (autoTokens qs).map fun v => [.literal v]) := by
  have closed := List.dropLast_append_getLast? _ frontTokens_closed.1
  have fresh : .word "AutoToken" ∉ frontTokens.dropLast := fun member =>
    frontTokens_closed.2.1 ((List.dropLast_sublist _).subset member)
  have apart := (symbols_notMem_arrayType (autoTokens qs).length).1
  have single : .mark ';' ∉ arrayType (autoTokens qs).length := by
    have fixed : .mark ';' ∉ lexed "static constexpr std::array<const char*, " := by decide +kernel
    simp [arrayType, fixed]
  have items : ∀ item ∈ (autoTokens qs).map fun v => [Token.literal v], IsItem item :=
    List.forall_mem_map.mpr fun v _ => isItem_token v
  have all := declaration?_append frontTokens.dropLast fresh apart single items
    (mapType ++ [.word "QUERY_AUTH_MAP", .mark '='] ++ bracedTokens ((pairsOf qs).map pairTokens) ++
      [.mark '#', .word "endif"])
  rw [tokensOf, ← closed]
  simpa using all

theorem declaration?_map (qs : List Query) :
    declaration? "QUERY_AUTH_MAP" (tokensOf qs) = some (mapType, (pairsOf qs).map pairTokens) := by
  have fresh : .word "QUERY_AUTH_MAP" ∉ frontTokens ++
      (arrayType (autoTokens qs).length ++ [.word "AutoToken", .mark '='] ++
        .mark '\x7b' :: (itemTokens ((autoTokens qs).map fun v => [.literal v]) ++
          [.mark '\x7d'])) := by
    have tokens := word_notMem_tokens "QUERY_AUTH_MAP" (autoTokens qs)
    have array := (symbols_notMem_arrayType (autoTokens qs).length).2
    simp only [bracedTokens, List.mem_cons, List.mem_append, not_or] at tokens
    simp [frontTokens_closed.2.2, array, tokens]
  have single : .mark ';' ∉ mapType := by decide +kernel
  have items : ∀ item ∈ (pairsOf qs).map pairTokens, IsItem item :=
    List.forall_mem_map.mpr fun p _ => isItem_pairTokens p
  have all := declaration?_append _ fresh symbols_notMem_mapType.2 single items
    [.mark '#', .word "endif"]
  rw [tokensOf]
  simpa [bracedTokens] using all

theorem count_tokensOf (qs : List Query) :
    (tokensOf qs).count (.word "AutoToken") = 1 ∧
      (tokensOf qs).count (.word "QUERY_AUTH_MAP") = 1 := by
  have absent {name : String} {ts : List Token} (h : .word name ∉ ts) : ts.count (.word name) = 0 :=
    List.count_eq_zero.mpr h
  obtain ⟨_, front⟩ := frontTokens_closed
  have array := symbols_notMem_arrayType (autoTokens qs).length
  have tokens (name : String) := absent (word_notMem_tokens name (autoTokens qs))
  have pairs (name : String) (type : name ≠ "AuthType") (enumerator : name ≠ "TOKEN") :=
    absent (word_notMem_pairTokens name type enumerator (pairsOf qs))
  constructor
  · simp only [tokensOf, List.count_append, absent front.1, absent array.1, tokens,
      absent symbols_notMem_mapType.1, pairs "AutoToken" (by decide) (by decide)]
    decide
  · simp only [tokensOf, List.count_append, absent front.2, absent array.2, tokens,
      absent symbols_notMem_mapType.2, pairs "QUERY_AUTH_MAP" (by decide) (by decide)]
    decide

theorem pair?_pairTokens (p : String × String) : pair? (pairTokens p) = some p := rfl

theorem text?_literal (v : String) : text? [.literal v] = some v := rfl

theorem size?_arrayType (size : Nat) : size? (arrayType size) = some (toString size) := by
  rw [size?, arrayType, List.dropPrefix?_append_of_beq _ (by simp)]
  rfl

theorem autoTokens_eq (qs : List Query) :
    autoTokens qs = ((qs.filterMap Query.authentication).filter fun a =>
      a.keyBehavior = .auto).map Authentication.envVar := by
  induction qs with
  | nil => rfl
  | cons q others ih =>
      rw [autoTokens] at ih ⊢
      cases stated : q.authentication with
      | none => simp [Query.isAutoToken, stated, ih]
      | some a =>
          by_cases auto : a.keyBehavior = .auto
          · simp [Query.isAutoToken, stated, auto, ih]
          · simp [Query.isAutoToken, stated, auto, ih]

/-- The table and the array are read back from the header, and each is declared once. The size of
the array is the number of its texts. -/
theorem read_render (qs : List Query) :
    let automatic := ((qs.filterMap Query.authentication).filter fun a =>
      a.keyBehavior = .auto).map Authentication.envVar
    pairs? (render qs) =
        some (qs.filterMap fun q => q.authentication.map fun a => (q.name, a.envVar)) ∧
      array? (render qs) = some (toString automatic.length, automatic) ∧
      occurrences? "AutoToken" (render qs) = some 1 ∧
      occurrences? "QUERY_AUTH_MAP" (render qs) = some 1 := by
  have tokens := (lexes_render qs).tokens?
  have pairs : ((pairsOf qs).map pairTokens).mapM pair? = some (pairsOf qs) := by
    simpa using Text.mapM_map_of_forall (k := id) fun p (_ : p ∈ pairsOf qs) => pair?_pairTokens p
  have texts : ((autoTokens qs).map fun v => [Token.literal v]).mapM text? =
      some (autoTokens qs) := by
    simpa using Text.mapM_map_of_forall (k := id) fun v (_ : v ∈ autoTokens qs) => text?_literal v
  simp only [← autoTokens_eq]
  refine ⟨?_, ?_, ?_, ?_⟩
  · rw [pairs?, tokens, Option.bind_eq_bind, Option.bind_some, declaration?_map]
    change (if mapType = mapType then ((pairsOf qs).map pairTokens).mapM pair? else none) = _
    rw [if_pos rfl, pairs, pairsOf]
  · rw [array?, tokens, Option.bind_eq_bind, Option.bind_some, declaration?_array]
    simp [size?_arrayType, texts]
  · rw [occurrences?, tokens, Option.map_some, (count_tokensOf qs).1]
  · rw [occurrences?, tokens, Option.map_some, (count_tokensOf qs).2]

end AuthenticationTable

end QueryHeaders
