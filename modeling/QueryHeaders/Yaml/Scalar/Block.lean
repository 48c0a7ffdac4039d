import QueryHeaders.Yaml.Glyph

/-!
Block scalars: literal and folded texts of indented lines.

The indentation is that of the first line with a word, unless the header gives it; it is always
deeper than the collection around the scalar. A folded text joins lines that start with a word by
a space. The header also says what becomes of the line ends at the end: they are cut to one,
removed or kept.
-/
namespace QueryHeaders.Yaml

inductive Chomping where
  | strip
  | clip
  | keep
  deriving DecidableEq, Repr

structure BlockHeader where
  chomping : Chomping
  /-- The indentation that the header asks for, beyond that around the scalar. -/
  increment : Option Nat
  deriving Repr

namespace BlockHeader

def chomping? (c : Char) : Option Chomping :=
  if c == '+' then some .keep else if c == '-' then some .strip else none

def increment? (c : Char) : Option Nat :=
  if Text.isDigit c then some (Text.digitValue c) else none

/-- The header that starts here and the number of its characters; its parts come in any order. -/
def parts (gs : List Glyph) : BlockHeader × Nat :=
  let a := Glyph.next gs
  let b := Glyph.ahead 1 gs
  match chomping? a, increment? a with
  | some c, _ => (⟨c, increment? b⟩, if (increment? b).isSome then 2 else 1)
  | none, some n => (⟨(chomping? b).getD .clip, some n⟩, if (chomping? b).isSome then 2 else 1)
  | none, none => (⟨.clip, none⟩, 0)

/-- Reads a header and the rest of its line. -/
def scan (gs : List Glyph) : Except Error (BlockHeader × List Glyph) :=
  let (header, taken) := parts gs
  if header.increment = some 0 then Glyph.error .malformedBlockHeader gs
  else
    match Glyph.skipLineEnd? (gs.drop taken) with
    | some rest => .ok (header, rest)
    | none => Glyph.error .malformedBlockHeader (gs.drop taken)

end BlockHeader

/-- Skips indentation and lines without words. The indentation 0 stands for one that is not known
yet: then all blanks are skipped, and the widest line counts. Gives that width, the line ends met,
last one first, and the glyphs that follow. -/
def scanIndentation (indent : Nat) (widest : Nat) (breaks : List Char) :
    List Glyph → Except Error (Nat × List Char × List Glyph)
  | [] => .ok (widest, breaks, [])
  | g :: rest =>
      let outside := indent == 0 || g.column < indent
      if g.char == ' ' && outside then scanIndentation indent (max widest (g.column + 1)) breaks rest
      else if g.char == '\t' && outside then Glyph.error .tabIndentation (g :: rest)
      else if isBreak g.char then scanIndentation indent widest (g.char :: breaks) rest
      else .ok (widest, breaks, g :: rest)

/-- What has been read of a block scalar: the text, last character first, the end of the last
line, the line ends after it, and whether the last line started with a blank. -/
structure BlockText where
  done : List Char
  lineEnd : Option Char
  breaks : List Char
  indented : Bool

namespace BlockText

/-- The text with the last line end and the empty lines joined, before a line that starts with a
blank or not. -/
def joined (folded startsBlank : Bool) (t : BlockText) : List Char :=
  let ends :=
    if folded && t.lineEnd == some '\n' && !t.indented && !startsBlank then
      if t.breaks.isEmpty then [' '] else []
    else t.lineEnd.toList
  t.breaks ++ ends ++ t.done

/-- The whole text after its end has been chomped. -/
def chomp (c : Chomping) (t : BlockText) : List Char :=
  match c with
  | .strip => t.done.reverse
  | .clip => (t.lineEnd.toList ++ t.done).reverse
  | .keep => (t.breaks ++ t.lineEnd.toList ++ t.done).reverse

end BlockText

/-- Reads the lines at an indentation. -/
def scanBlockLines (folded : Bool) (indent : Nat) : (fuel : Nat) → BlockText → List Glyph →
    Except Error (BlockText × List Glyph)
  | 0, text, gs => .ok (text, gs)
  | _ + 1, text, [] => .ok (text, [])
  | fuel + 1, text, g :: rest =>
      if g.column ≠ indent then .ok (text, g :: rest)
      else
        let blank := isGap g.char
        let line := (g :: rest).takeWhile fun g => !isBreak g.char
        let rest := (g :: rest).dropWhile fun g => !isBreak g.char
        let done := (line.map Glyph.char).reverse ++ text.joined folded blank
        match scanIndentation indent 0 [] (rest.drop 1) with
        | .error e => .error e
        | .ok (_, breaks, after) =>
            scanBlockLines folded indent fuel
              ⟨done, rest.head?.map Glyph.char, breaks, blank⟩ after

/-- Reads a block scalar after its mark; `outer` is the least indentation it may have. -/
def scanBlock (folded : Bool) (outer : Nat) (gs : List Glyph) :
    Except Error (List Char × List Glyph) := do
  let (header, gs) ← BlockHeader.scan gs
  let given := match header.increment with
    | none => 0
    | some n => if outer = 0 then n else outer - 1 + n
  let (widest, breaks, gs) ← scanIndentation given 0 [] gs
  let indent := if given = 0 then max widest (max outer 1) else given
  let (text, gs) ← scanBlockLines folded indent (gs.length + 1) ⟨[], none, breaks, false⟩ gs
  return (text.chomp header.chomping, gs)

end QueryHeaders.Yaml
