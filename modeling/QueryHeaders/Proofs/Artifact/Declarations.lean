import Mathlib.Data.List.Basic
import QueryHeaders.Artifact.Header
import QueryHeaders.Proofs.Artifact.Tokens

/-!
Declarations with initializers, read from tokens.

A reader finds a name and splits what it is initialized with at the commas. It gives back the items
of any list that is written line by line with a comma after every line but the last, whatever stands
in the literals of the items.
-/
namespace QueryHeaders.Lexer

/-! ## Readers -/

/-- The items of a braced list up to the closing brace and a semicolon. Each holds something, with
one comma between two; `depth` is the number of braces that are open in the item so far. -/
def items? (depth : Nat) (item : List Token) : List Token → Option (List (List Token))
  | [] => none
  | t :: rest =>
      if depth = 0 ∧ t = .mark ',' then
        if item = [] then none else (items? 0 [] rest).map (item :: ·)
      else if depth = 0 ∧ t = .mark '\x7d' then
        if item ≠ [] ∧ rest.head? = some (.mark ';') then some [item] else none
      else
        let deeper :=
          if t = .mark '\x7b' then depth + 1 else if t = .mark '\x7d' then depth - 1 else depth
        items? deeper (item ++ [t]) rest

def braced? : List Token → Option (List (List Token))
  | .mark '\x7b' :: .mark '\x7d' :: .mark ';' :: _ => some []
  | .mark '\x7b' :: rest => items? 0 [] rest
  | _ => none

/-- What stands since the last semicolon before the first occurrence of a name, and the items that
the name is initialized with. -/
def declaration? (name : String) (ts : List Token) : Option (List Token × List (List Token)) :=
  match ts.dropWhile (· ≠ .word name) with
  | _ :: .mark '=' :: rest =>
      let before := ts.takeWhile (· ≠ .word name)
      (braced? rest).map ((before.reverse.takeWhile (· ≠ .mark ';')).reverse, ·)
  | _ => none

def text? : List Token → Option String
  | [.literal s] => some s
  | _ => none

def lexed (text : String) : List Token := (tokens? text).getD []

/-! ## Items -/

variable {item rest before type : List Token} {tss : List (List Token)} {name : String}

/-- The tokens of an item: they hold no comma and no closing brace of the list that they stand in. -/
structure IsItem (item : List Token) : Prop where
  opens : item.head? ≠ some (.mark '\x7d')
  given : item ≠ []
  passes : ∀ before rest, items? 0 before (item ++ rest) = items? 0 (before ++ item) rest

def itemTokens (tss : List (List Token)) : List Token := [Token.mark ','].intercalate tss

/-- A braced list of items and the semicolon after it. -/
def bracedTokens (tss : List (List Token)) : List Token :=
  .mark '\x7b' :: (itemTokens tss ++ [.mark '\x7d', .mark ';'])

theorem items?_itemTokens (some : tss ≠ []) (each : ∀ item ∈ tss, IsItem item) :
    items? 0 [] (itemTokens tss ++ .mark '\x7d' :: .mark ';' :: rest) = .some tss := by
  induction tss with
  | nil => exact absurd rfl some
  | cons item others ih =>
      obtain ⟨h, each⟩ := List.forall_mem_cons.mp each
      cases others with
      | nil =>
          rw [itemTokens, List.intercalate_singleton, h.passes]
          simp [items?, h.given]
      | cons second others =>
          rw [itemTokens, List.intercalate_cons_cons, ← itemTokens, List.append_assoc,
            List.append_assoc, h.passes, List.nil_append, List.singleton_append, items?,
            if_pos ⟨rfl, rfl⟩, if_neg h.given, ih (List.cons_ne_nil _ _) each]
          rfl

theorem head?_itemTokens (given : item ≠ []) (tss : List (List Token)) (rest : List Token) :
    (itemTokens (item :: tss) ++ rest).head? = item.head? := by
  obtain ⟨t, more, rfl⟩ := List.exists_cons_of_ne_nil given
  cases tss with
  | nil => rw [itemTokens, List.intercalate_singleton]; rfl
  | cons second others => rw [itemTokens, List.intercalate_cons_cons]; rfl

theorem braced?_bracedTokens (each : ∀ item ∈ tss, IsItem item) (rest : List Token) :
    braced? (bracedTokens tss ++ rest) = some tss := by
  cases tss with
  | nil => rfl
  | cons item others =>
      have h := each item List.mem_cons_self
      have first := head?_itemTokens h.given others (.mark '\x7d' :: .mark ';' :: rest)
      have split : bracedTokens (item :: others) ++ rest =
          .mark '\x7b' :: (itemTokens (item :: others) ++ .mark '\x7d' :: .mark ';' :: rest) := by
        simp [bracedTokens]
      rw [split, braced?, items?_itemTokens (List.cons_ne_nil _ _) each]
      intro tail same
      rw [same] at first
      exact h.opens first.symm

/-- The declaration of a name that has not occurred before. -/
theorem declaration?_append (before : List Token) (fresh : .word name ∉ before)
    (apart : .word name ∉ type) (single : .mark ';' ∉ type) (each : ∀ item ∈ tss, IsItem item)
    (rest : List Token) :
    declaration? name
        (before ++ .mark ';' :: (type ++ .word name :: .mark '=' :: (bracedTokens tss ++ rest))) =
      some (type, tss) := by
  have skipped : ∀ t ∈ before ++ .mark ';' :: type, decide (t ≠ .word name) = true := by
    intro t ht
    refine decide_eq_true fun same => ?_
    subst same
    simp [fresh, apart] at ht
  have inside : ∀ t ∈ type.reverse, decide (t ≠ .mark ';') = true := by
    intro t ht
    refine decide_eq_true fun same => ?_
    subst same
    exact single (List.mem_reverse.mp ht)
  have since : ((before ++ .mark ';' :: type).reverse.takeWhile (· ≠ .mark ';')).reverse = type := by
    rw [List.reverse_append, List.reverse_cons, List.append_assoc,
      List.takeWhile_append_of_pos inside, List.singleton_append,
      List.takeWhile_cons_of_neg (by simp), List.append_nil, List.reverse_reverse]
  rw [← List.cons_append, ← List.append_assoc, declaration?, List.dropWhile_append_of_pos skipped,
    List.takeWhile_append_of_pos skipped, List.dropWhile_cons_of_neg (by simp),
    List.takeWhile_cons_of_neg (by simp), List.append_nil]
  simp only [since, braced?_bracedTokens each, Option.map_some]

theorem mem_itemTokens {t : Token} (h : t ∈ itemTokens tss) :
    t = .mark ',' ∨ ∃ item ∈ tss, t ∈ item := by
  induction tss with
  | nil => cases h
  | cons item others ih =>
      cases others with
      | nil =>
          rw [itemTokens, List.intercalate_singleton] at h
          exact .inr ⟨item, List.mem_cons_self, h⟩
      | cons second others =>
          rw [itemTokens, List.intercalate_cons_cons, ← itemTokens, List.append_assoc,
            List.mem_append, List.mem_append, List.mem_singleton] at h
          obtain here | comma | later := h
          · exact .inr ⟨item, List.mem_cons_self, here⟩
          · exact .inl comma
          · exact (ih later).imp_right fun ⟨other, member, inside⟩ =>
              ⟨other, List.mem_cons_of_mem item member, inside⟩

/-! ## Lists of lines -/

variable {α : Type} {line : α → String} {toks : α → List Token} {xs : List α} {a : String}
  {ts us : List Token}

theorem lexes_ofLines_singleton (h : Lexes a.toList ts) : Lexes (Text.ofLines [a]).toList ts := by
  have ended : Lexes ['\n'] [] := ⟨rfl, rfl⟩
  have all := h.append ended
  rwa [List.append_nil, ← List.flatMap_singleton (fun l : String => l.toList ++ ['\n']) a,
    ← Text.toList_ofLines] at all

theorem lexes_ofLines_append {ls ms : List String} (hl : Lexes (Text.ofLines ls).toList ts)
    (hm : Lexes (Text.ofLines ms).toList us) : Lexes (Text.ofLines (ls ++ ms)).toList (ts ++ us) := by
  rw [Text.ofLines_append, String.toList_append]
  exact hl.append hm

theorem lexes_append {b : String} (ha : Lexes a.toList ts) (hb : Lexes b.toList us) :
    Lexes (a ++ b).toList (ts ++ us) := by
  rw [String.toList_append]
  exact ha.append hb

/-- One comma after every item but the last. -/
theorem lexes_separated (each : ∀ x ∈ xs, Lexes (line x).toList (toks x)) :
    Lexes (Text.ofLines (Header.separated (xs.map line))).toList (itemTokens (xs.map toks)) := by
  induction xs with
  | nil => exact .nil
  | cons x others ih =>
      obtain ⟨h, each⟩ := List.forall_mem_cons.mp each
      cases others with
      | nil =>
          rw [List.map_singleton, List.map_singleton, itemTokens, List.intercalate_singleton]
          exact lexes_ofLines_singleton h
      | cons y others =>
          have comma : Lexes ",".toList [.mark ','] := ⟨rfl, rfl⟩
          have lines : Header.separated ((x :: y :: others).map line) =
              [line x ++ ","] ++ Header.separated ((y :: others).map line) := rfl
          have items : itemTokens ((x :: y :: others).map toks) =
              toks x ++ [.mark ','] ++ itemTokens ((y :: others).map toks) :=
            List.intercalate_cons_cons
          rw [lines, items]
          exact lexes_ofLines_append (lexes_ofLines_singleton (lexes_append h comma)) (ih each)

theorem lexes_initialized {declaration : String}
    (declared : Lexes (declaration ++ " = ").toList ts)
    (each : ∀ x ∈ xs, Lexes (line x).toList (toks x)) :
    Lexes (Text.ofLines (Header.initialized declaration (xs.map line))).toList
      (ts ++ bracedTokens (xs.map toks)) := by
  cases xs with
  | nil =>
      have braces : Lexes "\x7b\x7d;".toList [.mark '\x7b', .mark '\x7d', .mark ';'] := ⟨rfl, rfl⟩
      have all := lexes_ofLines_singleton (lexes_append declared braces)
      rwa [String.append_assoc] at all
  | cons x others =>
      have brace : Lexes "\x7b".toList [.mark '\x7b'] := ⟨rfl, rfl⟩
      have closing : Lexes (Text.ofLines ["\x7d;"]).toList [.mark '\x7d', .mark ';'] := ⟨rfl, rfl⟩
      have opening := lexes_ofLines_singleton (lexes_append declared brace)
      have all := lexes_ofLines_append opening (lexes_ofLines_append (lexes_separated each) closing)
      rw [String.append_assoc, List.append_assoc] at all
      exact all

end QueryHeaders.Lexer
