import QueryHeaders.Yaml.Value.Plain
import QueryHeaders.Decimal.Numeral

/-!
How scalars are written.

Text stays plain if it is plain YAML and would read back as the same text. Text with line feeds is
a literal block. Other text is put in single quotes, and in double quotes where these cannot hold
it: when characters need an escape, or blanks stand around line ends.
-/
namespace QueryHeaders.Yaml.Written

/-- Floating point numbers have bare exponents. -/
def numeralStyle : NumeralStyle := ⟨false, 1⟩

def floatChars : Binary64 → List Char
  | .finite negative m e => Binary64.finiteChars numeralStyle negative m e
  | .infinite negative => if negative then "-.inf".toList else ".inf".toList
  | .nan => ".nan".toList

/-! ## What a text allows -/

def isPrintable (c : Char) : Bool :=
  let n := c.toNat
  n == 0x0A || (0x20 ≤ n && n ≤ 0x7E) || (0xA0 ≤ n && n ≤ 0xFFFD && n != 0xFEFF) || 0x10000 ≤ n

/-- Line ends as they are written; a carriage return and the next-line character are among them. -/
def isLineEnd (c : Char) : Bool := c == '\r' || c == nextLine || isBreak c

def isWordEnd (c : Option Char) : Bool :=
  match c with
  | none => true
  | some c => isGap c || isLineEnd c || c == endChar

def leadingIndicators : List Char :=
  ['#', ',', '[', ']', '\x7b', '\x7d', '&', '*', '!', '|', '>', '\'', '"', '%', '@', '\x60']

/-- Whether the first character makes plain text something else. -/
def startsSpecially : List Char → Bool
  | [] => false
  | c :: rest =>
      leadingIndicators.contains c || ((c == '?' || c == ':' || c == '-') && isWordEnd rest.head?)

/-- Whether a later colon or number sign does. -/
def hasIndicator : (before : Char) → List Char → Bool
  | _, [] => false
  | before, c :: rest =>
      (c == ':' && isWordEnd rest.head?) || (c == '#' && isWordEnd (some before)) ||
        hasIndicator c rest

def hasMarker (cs : List Char) : Bool :=
  ['-', '-', '-'].isPrefixOf cs || ['.', '.', '.'].isPrefixOf cs

/-- Whether two characters of these kinds stand side by side. -/
def hasPair (p q : Char → Bool) : List Char → Bool
  | c :: d :: rest => (p c && q d) || hasPair p q (d :: rest)
  | _ => false

def isSpace (c : Char) : Bool := c == ' '

/-- Whether blanks or line ends stand at the start or at the end. -/
def isPadded (cs : List Char) : Bool :=
  let outer (c : Option Char) : Bool := c.any fun c => isSpace c || isLineEnd c
  outer cs.head? || outer cs.getLast?

def needsEscape (cs : List Char) : Bool :=
  cs.any (fun c => !isPrintable c) || hasPair isSpace isLineEnd cs

def allowsSingle (cs : List Char) : Bool :=
  !needsEscape cs && !hasPair isLineEnd isSpace cs

/-- Whether nothing in the text makes plain text something else. -/
def hasNoIndicator : List Char → Bool
  | [] => true
  | c :: rest => !startsSpecially (c :: rest) && !hasIndicator c rest

def allowsPlain (cs : List Char) : Bool :=
  allowsSingle cs && !isPadded cs && !cs.any isLineEnd && !hasMarker cs && hasNoIndicator cs

def allowsBlock (cs : List Char) : Bool :=
  !cs.isEmpty && !needsEscape cs && !(cs.getLast?.any isSpace)

/-- Whether plain text would mean something else, or look as if it did. -/
def isAmbiguous (s : String) : Bool :=
  Plain.isZeroPadded s.toList ||
    match Plain.value s with
    | .ok (.string _) => false
    | .ok _ => true
    | .error _ => true

inductive Style where
  | plain
  | single
  | double
  | literal
  deriving DecidableEq, Repr

/-- The style of a text. -/
def styleOf (s : String) : Style :=
  let cs := s.toList
  if cs.contains '\n' then
    if allowsBlock cs then .literal else .double
  else if isAmbiguous s || !allowsPlain cs then
    if allowsSingle cs then .single else .double
  else .plain

/-! ## The text of each style -/

def spaces (n : Nat) : List Char := List.replicate n ' '

def upperHex (width n : Nat) : List Char :=
  let digits := (Nat.toDigits 16 n).map Char.toUpper
  List.replicate (width - digits.length) '0' ++ digits

def escapes : List (Char × Char) := [
  ('\x00', '0'), ('\x07', 'a'), ('\x08', 'b'), ('\t', 't'), ('\n', 'n'), ('\x0b', 'v'),
  ('\x0c', 'f'), ('\r', 'r'), ('\x1b', 'e'), ('"', '"'), ('\\', '\\'), (nextLine, 'N'),
  ('\u00a0', '_'), (lineSeparator, 'L'), (paragraphSeparator, 'P')]

def doubleChar (c : Char) : List Char :=
  if isPrintable c && !isLineEnd c && c != '"' && c != '\\' then [c]
  else
    match escapes.lookup c with
    | some e => ['\\', e]
    | none =>
        let n := c.toNat
        if n ≤ 0xFF then '\\' :: 'x' :: upperHex 2 n
        else if n ≤ 0xFFFF then '\\' :: 'u' :: upperHex 4 n
        else '\\' :: 'U' :: upperHex 8 n

/-- The characters between single quotes; after a line end the text goes on at an indentation. -/
def singleChars (indent : Nat) : (afterBreak : Bool) → List Char → List Char
  | afterBreak, [] => if afterBreak then spaces indent else []
  | afterBreak, c :: rest =>
      if isLineEnd c then c :: singleChars indent true rest
      else
        (if afterBreak then spaces indent else []) ++
          (if c == '\'' then ['\'', '\''] else [c]) ++ singleChars indent false rest

/-- The mark of a literal block: an indentation if it cannot be seen, and what becomes of the line
ends at the end. -/
def literalHeader (cs : List Char) : List Char :=
  let hint := if cs.head?.any (fun c => isSpace c || isLineEnd c) then ['2'] else []
  let chomp := match cs.reverse with
    | [] => ['-']
    | [c] => if isLineEnd c then ['+'] else ['-']
    | c :: d :: _ => if !isLineEnd c then ['-'] else if isLineEnd d then ['+'] else []
  '|' :: hint ++ chomp

def literalChars (indent : Nat) : (lineStart : Bool) → List Char → List Char
  | _, [] => []
  | lineStart, c :: rest =>
      if isLineEnd c then c :: literalChars indent true rest
      else (if lineStart then spaces indent else []) ++ c :: literalChars indent false rest

/-- A text whose further lines stand at an indentation. -/
def textChars (indent : Nat) (s : String) : List Char :=
  let cs := s.toList
  match styleOf s with
  | .plain => cs
  | .single => '\'' :: (singleChars indent false cs ++ ['\''])
  | .double => '"' :: (cs.flatMap doubleChar ++ ['"'])
  | .literal => literalHeader cs ++ '\n' :: literalChars indent true cs

end QueryHeaders.Yaml.Written
