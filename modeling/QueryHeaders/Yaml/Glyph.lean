import QueryHeaders.Text.Digit
import QueryHeaders.Yaml.Problem

/-!
Glyphs: the characters of a YAML stream with the places where they stand.

Line ends are reduced while the places are counted: a carriage return, a line feed, both in this
order and the next-line character are one line feed each. The line and paragraph separators end a
line too, and stay what they are. The null character is in no stream and stands for its end.
-/
namespace QueryHeaders.Yaml

structure Glyph where
  char : Char
  line : Nat
  column : Nat
  deriving Repr, Inhabited

/-- The characters that a stream may hold. -/
def isAllowed (c : Char) : Bool :=
  let n := c.toNat
  n == 0x09 || n == 0x0A || n == 0x0D || (0x20 ≤ n && n ≤ 0x7E) || n == 0x85 ||
    (0xA0 ≤ n && n ≤ 0xFFFD) || 0x10000 ≤ n

def lineSeparator : Char := '\u2028'

def paragraphSeparator : Char := '\u2029'

def nextLine : Char := '\u0085'

def byteOrderMark : Char := '\ufeff'

/-- The end of the stream. -/
def endChar : Char := '\x00'

def isBreak (c : Char) : Bool :=
  c == '\n' || c == lineSeparator || c == paragraphSeparator

def isGap (c : Char) : Bool := c == ' ' || c == '\t'

/-- A blank, a line end or the end of the stream. -/
def endsWord (c : Char) : Bool :=
  isGap c || isBreak c || c == endChar

/-- The glyphs of a text that starts at a place. -/
def glyphs (line column : Nat) : List Char → List Glyph
  | [] => []
  | '\r' :: '\n' :: rest => ⟨'\n', line, column⟩ :: glyphs (line + 1) 0 rest
  | c :: rest =>
      if c == '\r' || c == '\n' || c == nextLine then
        ⟨'\n', line, column⟩ :: glyphs (line + 1) 0 rest
      else if isBreak c then ⟨c, line, column⟩ :: glyphs (line + 1) 0 rest
      else ⟨c, line, column⟩ :: glyphs line (column + 1) rest

namespace Glyph

/-- The character `n` places ahead. -/
def ahead (n : Nat) (gs : List Glyph) : Char :=
  match gs[n]? with
  | some g => g.char
  | none => endChar

def next (gs : List Glyph) : Char := ahead 0 gs

/-- An error at the first of the glyphs. -/
def error {α : Type} (p : Problem) (gs : List Glyph) : Except Error α :=
  .error ⟨p, gs.head?.map fun g => (g.line, g.column)⟩

/-- Three equal marks that end a word: the marker of a document's start or end. -/
def startsMarkerOf (mark : Char) (gs : List Glyph) : Bool :=
  next gs == mark && ahead 1 gs == mark && ahead 2 gs == mark && endsWord (ahead 3 gs)

/-- Whether a document marker stands here, at the start of a line. -/
def startsMarker (gs : List Glyph) : Bool :=
  match gs with
  | [] => false
  | g :: _ => g.column == 0 && (startsMarkerOf '-' gs || startsMarkerOf '.' gs)

def skipGap (gs : List Glyph) : List Glyph := gs.dropWhile fun g => isGap g.char

/-- Skips a comment, if one starts here, up to the end of its line. -/
def skipComment (gs : List Glyph) : List Glyph :=
  if next gs == '#' then gs.dropWhile fun g => !isBreak g.char else gs

/-- Skips blanks and a comment to the end of the line, and the line end. -/
def skipLineEnd? (gs : List Glyph) : Option (List Glyph) :=
  match skipComment (skipGap gs) with
  | [] => some []
  | g :: rest => if isBreak g.char then some rest else none

end Glyph

/-- A letter, a digit, a hyphen or an underscore, in ASCII. -/
def isWordChar (c : Char) : Bool :=
  c.isAlphanum || c == '_' || c == '-'

end QueryHeaders.Yaml
