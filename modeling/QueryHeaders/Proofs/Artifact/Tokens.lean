import QueryHeaders.Proofs.Artifact.Literal
import QueryHeaders.Proofs.Text.Splicing
import QueryHeaders.Text.Identifier

/-!
The tokens of a C++ text.

A lexer goes through the text character by character. Words, string literals and single marks are
tokens, blanks and comments are none. What it would have to know more about ends it: a backslash or
an apostrophe in code, a line end in a literal, a word that is the prefix of a literal. So what it
reads is read the same whether or not backslashes at line ends are removed before.
-/
namespace QueryHeaders.Lexer

inductive Token where
  | word (text : String)
  | literal (text : String)
  | mark (c : Char)
  deriving DecidableEq, Repr

/-- Where a lexer is, with the characters of an unfinished token, last one first. `slash` is after
a slash in code, `star` after a star in a comment. -/
inductive Mode where
  | code
  | word (before : List Char)
  | literal (before : List Char)
  | escape (before : List Char)
  | slash
  | comment
  | block
  | star
  | broken
  deriving DecidableEq, Repr

namespace Mode

/-- A step from between two tokens. -/
def start (c : Char) : Mode × List Token :=
  if c = ' ' ∨ c = '\t' ∨ c = '\n' then (code, [])
  else if c = '"' then (literal [], [])
  else if c = '/' then (slash, [])
  else if c = '\\' ∨ c = '\'' then (broken, [])
  else if Text.isIdentifierPart c then (word [c], [])
  else (code, [.mark c])

/-- Where a step leads, and the tokens that it finishes. -/
def step : Mode → Char → Mode × List Token
  | code, c => start c
  | word before, c =>
      if Text.isIdentifierPart c then (word (c :: before), [])
      else if c = '"' then (broken, [])
      else ((start c).1, .word (String.ofList before.reverse) :: (start c).2)
  | literal before, c =>
      if c = '"' then (code, [.literal (String.ofList before.reverse)])
      else if c = '\\' then (escape before, [])
      else if c = '\n' then (broken, [])
      else (literal (c :: before), [])
  | escape before, c =>
      match Header.escaped? c with
      | some d => (literal (d :: before), [])
      | none => (broken, [])
  | slash, c =>
      if c = '/' then (comment, [])
      else if c = '*' then (block, [])
      else ((start c).1, .mark '/' :: (start c).2)
  | comment, c => (if c = '\n' then code else if c = '\\' then broken else comment, [])
  | block, c => (if c = '*' then star else block, [])
  | star, c => (if c = '/' then code else if c = '*' then star else block, [])
  | broken, _ => (broken, [])

/-- Where a lexer is after a text. -/
def after (m : Mode) (cs : List Char) : Mode := cs.foldl (fun m c => (m.step c).1) m

/-- The tokens that the steps through a text finish. -/
def out : Mode → List Char → List Token
  | _, [] => []
  | m, c :: rest => (m.step c).2 ++ (m.step c).1.out rest

end Mode

/-- The tokens of a text that ends between two tokens. -/
def tokens? (text : String) : Option (List Token) :=
  if Mode.code.after text.toList = .code then some (Mode.code.out text.toList) else none

variable {m n k : Mode} {a b : List Char} {ts us : List Token} {s : String} {c : Char}

/-- A text leads from one mode to another and finishes these tokens. -/
structure Runs (m : Mode) (a : List Char) (n : Mode) (ts : List Token) : Prop where
  after : m.after a = n
  out : m.out a = ts

/-- A text that starts and ends between two tokens, and its tokens. -/
abbrev Lexes (a : List Char) (ts : List Token) : Prop := Runs .code a .code ts

namespace Runs

theorem nil : Runs m [] m [] := ⟨rfl, rfl⟩

theorem step (h : m.step c = (n, ts)) : Runs m [c] n ts :=
  ⟨congrArg Prod.fst h, (List.append_nil _).trans (congrArg Prod.snd h)⟩

theorem append (ha : Runs m a n ts) (hb : Runs n b k us) : Runs m (a ++ b) k (ts ++ us) := by
  constructor
  · rw [Mode.after, List.foldl_append]
    exact (congrArg (Mode.after · b) ha.after).trans hb.after
  · obtain ⟨rfl, rfl⟩ := ha
    rw [← hb.out]
    clear hb
    induction a generalizing m with
    | nil => rfl
    | cons c rest ih =>
        rw [List.cons_append, Mode.out, Mode.out, List.append_assoc, ih]
        rfl

theorem tokens? (h : Lexes s.toList ts) : tokens? s = some ts := by
  rw [Lexer.tokens?, if_pos h.after, h.out]

end Runs

/-! ## Literals -/

theorem runs_escapeChar (before : List Char) (c : Char) :
    Runs (.literal before) (Header.escapeChar c) (.literal (c :: before)) [] := by
  by_cases quote : c = '"'
  · subst quote
    exact ⟨rfl, rfl⟩
  · by_cases backslash : c = '\\'
    · subst backslash
      exact ⟨rfl, rfl⟩
    · by_cases feed : c = '\n'
      · subst feed
        exact ⟨rfl, rfl⟩
      · rw [Header.escapeChar, if_neg quote, if_neg backslash, if_neg feed]
        exact .step (by simp [Mode.step, quote, backslash, feed])

theorem runs_escaped (before cs : List Char) :
    Runs (.literal before) (cs.flatMap Header.escapeChar) (.literal (cs.reverse ++ before)) [] := by
  induction cs generalizing before with
  | nil => exact .nil
  | cons c rest ih =>
      have all := (runs_escapeChar before c).append (ih (c :: before))
      rwa [← List.flatMap_cons, List.append_cons, ← List.reverse_cons] at all

/-- A text is read back from its literal, whatever stands in it. -/
theorem lexes_literal (s : String) : Lexes (Header.literal s).toList [.literal s] := by
  have opens : Runs .code ['"'] (.literal []) [] := .step rfl
  have closes : Runs (.literal (s.toList.reverse ++ [])) ['"'] .code [.literal s] :=
    .step (by simp [Mode.step])
  have all := opens.append ((runs_escaped [] s.toList).append closes)
  rwa [Header.literal, String.toList_ofList]

/-! ## Words -/

theorem step_word_part (before : List Char) (part : Text.isIdentifierPart c = true) :
    (Mode.word before).step c = (.word (c :: before), []) := by
  simp [Mode.step, part]

theorem start_part (part : Text.isIdentifierPart c = true) : Mode.start c = (.word [c], []) := by
  have other : ∀ d, Text.isIdentifierPart d = false → c ≠ d := by
    rintro d hd rfl
    rw [hd] at part
    cases part
  simp [Mode.start, part, other ' ' rfl, other '\t' rfl, other '\n' rfl, other '"' rfl, other '/' rfl,
    other '\\' rfl, other '\'' rfl]

theorem runs_parts {w : List Char} (before : List Char)
    (parts : ∀ c ∈ w, Text.isIdentifierPart c = true) :
    Runs (.word before) w (.word (w.reverse ++ before)) [] := by
  induction w generalizing before with
  | nil => exact .nil
  | cons c rest ih =>
      obtain ⟨part, parts⟩ := List.forall_mem_cons.mp parts
      have all := (Runs.step (step_word_part before part)).append (ih (c :: before) parts)
      rwa [List.singleton_append, List.append_cons, ← List.reverse_cons] at all

/-- A word ends where something else begins that is not a literal. -/
theorem lexes_word {w rest : List Char} (given : w ≠ [])
    (parts : ∀ c ∈ w, Text.isIdentifierPart c = true)
    (ends : Text.isIdentifierPart c = false) (other : c ≠ '"') (h : Lexes (c :: rest) ts) :
    Lexes (w ++ c :: rest) (.word (String.ofList w) :: ts) := by
  cases w with
  | nil => exact absurd rfl given
  | cons d w =>
      obtain ⟨part, parts⟩ := List.forall_mem_cons.mp parts
      have begins : Runs .code [d] (.word [d]) [] := .step (start_part part)
      have word := begins.append (runs_parts [d] parts)
      have closing : Runs (.word (w.reverse ++ [d])) (c :: rest) .code
          (.word (String.ofList (d :: w)) :: ts) := by
        have steps : (Mode.word (w.reverse ++ [d])).step c =
            ((Mode.start c).1, .word (String.ofList (d :: w)) :: (Mode.start c).2) := by
          simp [Mode.step, ends, other]
        constructor
        · rw [Mode.after, List.foldl_cons, steps]
          exact h.after
        · rw [Mode.out, steps, ← h.out]
          rfl
      exact word.append closing

end QueryHeaders.Lexer
