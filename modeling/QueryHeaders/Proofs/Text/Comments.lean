import QueryHeaders.Proofs.Text.Pieces

/-!
Comments of C++.

A reader goes through a text character by character and knows whether it is in code or in a comment.
A comment after two slashes lasts to the line end, which is no part of it; a comment after a slash
and a star lasts to the next star and slash. What is read in code is left when comments are removed,
so that a text without slashes is left whole wherever it stands in code.
-/
namespace QueryHeaders.Text

/-- Where a reader is: `slash` is after a slash in code, `star` after a star in a comment. -/
inductive Mode where
  | code
  | slash
  | line
  | block
  | star
  deriving DecidableEq, Repr

namespace Mode

def next : Mode → Char → Mode
  | .code, c => if c = '/' then .slash else .code
  | .slash, c => if c = '/' then .line else if c = '*' then .block else .code
  | .line, c => if c = '\n' then .code else .line
  | .block, c => if c = '*' then .star else .block
  | .star, c => if c = '/' then .code else if c = '*' then .star else .block

/-- What a step adds to the text without comments. A slash is added with the character after it,
once that shows that no comment begins. -/
def leaves : Mode → Char → List Char
  | .code, c => if c = '/' then [] else [c]
  | .slash, c => if c = '/' ∨ c = '*' then [] else ['/', c]
  | .line, c => if c = '\n' then [c] else []
  | .block, _ | .star, _ => []

/-- What is still to be added at the end of a text. -/
def pending : Mode → List Char
  | .slash => ['/']
  | _ => []

/-- Where a reader is after a text. -/
def after (m : Mode) (cs : List Char) : Mode := cs.foldl next m

/-- What the steps through a text add. -/
def left : Mode → List Char → List Char
  | _, [] => []
  | m, c :: rest => m.leaves c ++ (m.next c).left rest

variable {m : Mode} {a b : List Char}

theorem after_append : m.after (a ++ b) = (m.after a).after b := List.foldl_append

theorem left_append : m.left (a ++ b) = m.left a ++ (m.after a).left b := by
  induction a generalizing m with
  | nil => rfl
  | cons c rest ih =>
      rw [List.cons_append, left, left, ih, List.append_assoc]
      rfl

theorem after_of_notMem (h : '/' ∉ a) : code.after a = code := by
  induction a with
  | nil => rfl
  | cons c rest ih =>
      obtain ⟨hc, others⟩ := List.ne_and_not_mem_of_not_mem_cons h
      rw [after, List.foldl_cons, next, if_neg hc.symm]
      exact ih others

theorem left_of_notMem (h : '/' ∉ a) : code.left a = a := by
  induction a with
  | nil => rfl
  | cons c rest ih =>
      obtain ⟨hc, others⟩ := List.ne_and_not_mem_of_not_mem_cons h
      rw [left, leaves, next, if_neg hc.symm, if_neg hc.symm, ih others]
      rfl

/-- A comment up to the line end is left out, and the line end is left. -/
theorem after_line (h : '\n' ∉ a) : line.after (a ++ ['\n']) = code := by
  induction a with
  | nil => rfl
  | cons c rest ih =>
      obtain ⟨hc, others⟩ := List.ne_and_not_mem_of_not_mem_cons h
      rw [List.cons_append, after, List.foldl_cons, next, if_neg hc.symm]
      exact ih others

theorem left_line (h : '\n' ∉ a) : line.left (a ++ ['\n']) = ['\n'] := by
  induction a with
  | nil => rfl
  | cons c rest ih =>
      obtain ⟨hc, others⟩ := List.ne_and_not_mem_of_not_mem_cons h
      rw [List.cons_append, left, leaves, next, if_neg hc.symm, if_neg hc.symm, ih others]
      rfl

theorem mem_leaves {c x : Char} (h : c ∈ m.leaves x) : c = x ∨ c = '/' := by
  cases m with
  | code | line =>
      rw [leaves] at h
      split at h <;> simp_all
  | slash =>
      rw [leaves] at h
      split at h <;> simp_all [or_comm]
  | block | star => cases h

/-- Nothing but characters of the text is left of it. -/
theorem mem_left {c : Char} (h : c ∈ m.left a) : c ∈ a ∨ c = '/' := by
  induction a generalizing m with
  | nil => cases h
  | cons x rest ih =>
      rw [left] at h
      obtain here | later := List.mem_append.mp h
      · obtain rfl | slash := mem_leaves here
        · exact .inl List.mem_cons_self
        · exact .inr slash
      · exact (ih later).imp_left (List.mem_cons_of_mem x)

/-- After a blank a reader is in code or within a comment. -/
theorem after_blank (m : Mode) (s : String) :
    m.after (s ++ " ").toList = code ∨ m.after (s ++ " ").toList = line ∨
      m.after (s ++ " ").toList = block := by
  rw [String.toList_append, after_append]
  cases m.after s.toList <;> decide

/-- A text without marks of comments and without line ends changes nothing for a reader that is in
code or within a comment. -/
theorem after_of_plain (hm : m = code ∨ m = line ∨ m = block)
    (h : ∀ c ∈ a, c ≠ '/' ∧ c ≠ '*' ∧ c ≠ '\n') : m.after a = m := by
  induction a with
  | nil => rfl
  | cons c rest ih =>
      obtain ⟨⟨noSlash, noStar, noEnd⟩, others⟩ := List.forall_mem_cons.mp h
      have stays : m.next c = m := by
        obtain rfl | rfl | rfl := hm
        · exact if_neg noSlash
        · exact if_neg noEnd
        · exact if_neg noStar
      rw [after, List.foldl_cons, stays]
      exact ih others

end Mode

/-- The text without its comments. -/
def uncomment (cs : List Char) : List Char :=
  Mode.code.left cs ++ (Mode.code.after cs).pending

variable {a b : List Char}

theorem uncomment_append (h : Mode.code.after a = .code) :
    uncomment (a ++ b) = Mode.code.left a ++ uncomment b := by
  rw [uncomment, Mode.left_append, Mode.after_append, h, List.append_assoc]
  rfl

/-- The text that a macro without parameters stands for, in a text without comments. -/
def replacement? (name : String) (cs : List Char) : Option (List Char) :=
  let opening := ("#define " ++ name ++ "()").toList
  ((pieces '\n' cs).find? (opening.isPrefixOf ·)).map (·.drop opening.length)

/-- The pieces stand in the text one after the other. -/
def InOrder : List String → List Char → Prop
  | [], _ => True
  | p :: ps, cs => ∃ before after, cs = before ++ p.toList ++ after ∧ InOrder ps after

end QueryHeaders.Text
