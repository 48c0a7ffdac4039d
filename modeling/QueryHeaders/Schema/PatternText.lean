import QueryHeaders.Schema.Pattern
import QueryHeaders.Text.Digit

/-!
The text of a pattern.

Alternatives stand between bars, and `*`, `+`, `?` and counts in braces repeat what they follow.
Groups, sets in brackets, the classes `\d`, `\w`, `\s` and their complements, `.`, `^` and `$` are
understood; a mark of the notation stands for itself after a backslash.
-/
namespace QueryHeaders.Pattern

def escapedChars : List (Char × Char) :=
  [('n', '\n'), ('r', '\r'), ('t', '\t'), ('f', '\x0c'), ('v', '\x0b')]

def classOf? : Char → Option CharSet
  | 'd' => some .digit
  | 'D' => some (.complement .digit)
  | 'w' => some .word
  | 'W' => some (.complement .word)
  | 's' => some .space
  | 'S' => some (.complement .space)
  | _ => none

def isMark (c : Char) : Bool :=
  let n := c.toNat
  (0x21 ≤ n && n ≤ 0x2F) || (0x3A ≤ n && n ≤ 0x40) || (0x5B ≤ n && n ≤ 0x60) ||
    (0x7B ≤ n && n ≤ 0x7E)

/-- The character of this many hexadecimal digits. -/
def hexChar? (length : Nat) (cs : List Char) : Option Char :=
  let digits := cs.take length
  if digits.length = length then do
    let n ← Text.hexadecimal? digits
    if n.isValidChar then some (Char.ofNat n) else none
  else none

/-- The set that an escape stands for, after the backslash. -/
def readEscape : List Char → Option (CharSet × List Char)
  | [] => none
  | 'x' :: rest => (hexChar? 2 rest).map fun c => (.single c, rest.drop 2)
  | 'u' :: rest => (hexChar? 4 rest).map fun c => (.single c, rest.drop 4)
  | c :: rest =>
      match classOf? c, escapedChars.lookup c with
      | some set, _ => some (set, rest)
      | none, some e => some (.single e, rest)
      | none, none => if isMark c then some (.single c, rest) else none

/-- A member of a set in brackets. -/
def readMember : List Char → Option (CharSet × List Char)
  | '\\' :: rest => readEscape rest
  | '[' :: _ => none
  | c :: rest => some (.single c, rest)
  | [] => none

def rangeOf? : CharSet → CharSet → Option CharSet
  | .range a b, .range c d => if a = b ∧ c = d ∧ a ≤ c then some (.range a c) else none
  | _, _ => none

/-- The members of a set up to its bracket; a bracket that comes first is a member. -/
def readMembers : (fuel : Nat) → (first : Bool) → List Char → Option (List CharSet × List Char)
  | 0, _, _ => none
  | fuel + 1, first, cs =>
      match cs with
      | ']' :: rest =>
          if first then (readMembers fuel false rest).map fun (sets, rest) => (.single ']' :: sets, rest)
          else some ([], rest)
      | cs => do
          let (low, rest) ← readMember cs
          match rest with
          | '-' :: ']' :: rest => return ([low, .single '-'], rest)
          | '-' :: rest =>
              let (high, rest) ← readMember rest
              let set ← rangeOf? low high
              let (sets, rest) ← readMembers fuel false rest
              return (set :: sets, rest)
          | rest =>
              let (sets, rest) ← readMembers fuel false rest
              return (low :: sets, rest)

def readSet (cs : List Char) : Option (CharSet × List Char) :=
  match cs with
  | '^' :: rest =>
      (readMembers (rest.length + 1) true rest).map fun (sets, rest) =>
        (.complement (.ofList sets), rest)
  | rest => (readMembers (rest.length + 1) true rest).map fun (sets, rest) => (.ofList sets, rest)

def readNumber? (cs : List Char) : Option (Nat × List Char) :=
  let digits := cs.takeWhile Text.isDigit
  if digits.isEmpty || 4 < digits.length then none
  else some (Nat.ofDigitChars 10 digits 0, cs.dropWhile Text.isDigit)

/-- A count in braces, after the opening one: the least number and, unless there is none, the
greatest. -/
def readCount? (cs : List Char) : Option ((Nat × Option Nat) × List Char) := do
  let (low, rest) ← readNumber? cs
  match rest with
  | '\x7d' :: rest => return ((low, some low), rest)
  | ',' :: '\x7d' :: rest => return ((low, none), rest)
  | ',' :: rest =>
      let (high, rest) ← readNumber? rest
      match rest with
      | '\x7d' :: rest => if low ≤ high then return ((low, some high), rest) else none
      | _ => none
  | _ => none

def repeated (p : Pattern) (low : Nat) : Option Nat → Pattern
  | none => .andThen (p.copies low) p.star
  | some high => .andThen (p.copies low) (p.upTo (high - low))

/-- Applies the repetitions that stand here; a question mark after one changes no match's
existence. -/
def readRepetitions : (fuel : Nat) → Pattern → List Char → Option (Pattern × List Char)
  | 0, p, cs => some (p, cs)
  | fuel + 1, p, cs =>
      let lazily (rest : List Char) : List Char := match rest with
        | '?' :: rest => rest
        | rest => rest
      match cs with
      | '*' :: rest => readRepetitions fuel p.star (lazily rest)
      | '+' :: rest => readRepetitions fuel (.andThen p p.star) (lazily rest)
      | '?' :: rest => readRepetitions fuel (.orElse p .nothing) (lazily rest)
      | '\x7b' :: rest => do
          let ((low, high), rest) ← readCount? rest
          readRepetitions fuel (repeated p low high) (lazily rest)
      | cs => some (p, cs)

/-- Skips the name of a group and the mark that the group is not remembered. -/
def skipGroupName? : List Char → Option (List Char)
  | '?' :: ':' :: rest => some rest
  | '?' :: 'P' :: '<' :: rest | '?' :: '<' :: rest =>
      match rest.dropWhile fun c => c.isAlphanum || c == '_' with
      | '>' :: more => if more.length + 1 = rest.length then none else some more
      | _ => none
  | '?' :: _ => none
  | rest => some rest

mutual
/-- Alternatives, up to a bar that is not theirs, a closing parenthesis or the end. -/
def readAlternatives : (fuel : Nat) → List Char → Option (Pattern × List Char)
  | 0, _ => none
  | fuel + 1, cs => do
      let (p, rest) ← readSequence fuel .nothing cs
      match rest with
      | '|' :: rest =>
          let (q, rest) ← readAlternatives fuel rest
          return (.orElse p q, rest)
      | rest => return (p, rest)

/-- Repeated items in a row, after those already read. -/
def readSequence : (fuel : Nat) → (before : Pattern) → List Char → Option (Pattern × List Char)
  | 0, _, _ => none
  | fuel + 1, before, cs =>
      match cs with
      | [] => some (before, [])
      | '|' :: _ | ')' :: _ => some (before, cs)
      | cs => do
          let (item, rest) ← readItem fuel cs
          let (item, rest) ← readRepetitions (rest.length + 1) item rest
          readSequence fuel (if before = .nothing then item else .andThen before item) rest

def readItem : (fuel : Nat) → List Char → Option (Pattern × List Char)
  | 0, _ => none
  | fuel + 1, cs =>
      match cs with
      | '(' :: rest => do
          let (p, rest) ← readAlternatives fuel (← skipGroupName? rest)
          match rest with
          | ')' :: rest => return (p, rest)
          | _ => none
      | '[' :: rest => (readSet rest).map fun (set, rest) => (.one set, rest)
      | '\\' :: rest => (readEscape rest).map fun (set, rest) => (.one set, rest)
      | '.' :: rest => some (.one .inLine, rest)
      | '^' :: rest => some (.atStart, rest)
      | '$' :: rest => some (.atEnd, rest)
      | c :: rest =>
          if c == '*' || c == '+' || c == '?' || c == '\x7b' then none
          else some (.one (.single c), rest)
      | [] => none
end

/-- The pattern of a text, if it is one. -/
def ofText? (s : String) : Option Pattern :=
  let cs := s.toList
  match readAlternatives (3 * cs.length + 3) cs with
  | some (p, []) => some p
  | _ => none

end QueryHeaders.Pattern
