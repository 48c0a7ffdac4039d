import QueryHeaders.Yaml.Scalar.Fold

/-!
Quoted scalars.

Within single quotes a quote is written twice and nothing else is special. Within double quotes a
backslash starts an escape; before a line end it removes the line end.
-/
namespace QueryHeaders.Yaml

/-- The escapes of one letter. -/
def simpleEscape? (c : Char) : Option Char :=
  [('0', '\x00'), ('a', '\x07'), ('b', '\x08'), ('t', '\t'), ('\t', '\t'), ('n', '\n'),
    ('v', '\x0b'), ('f', '\x0c'), ('r', '\r'), ('e', '\x1b'), (' ', ' '), ('"', '"'), ('/', '/'),
    ('\\', '\\'), ('N', nextLine), ('_', '\u00a0'), ('L', lineSeparator),
    ('P', paragraphSeparator)].lookup c

/-- The number of hexadecimal digits after an escape letter. -/
def hexLength? (c : Char) : Option Nat :=
  [('x', 2), ('u', 4), ('U', 8)].lookup c

/-- The character of an escape, after the backslash, and the glyphs that follow it. -/
def scanEscape (gs : List Glyph) : Except Error (Char × List Glyph) :=
  let letter := Glyph.next gs
  match simpleEscape? letter with
  | some c => .ok (c, gs.drop 1)
  | none =>
      match hexLength? letter with
      | none => Glyph.error .unknownEscape gs
      | some length =>
          let digits := (gs.drop 1).take length
          let number? := Text.hexadecimal? (digits.map Glyph.char)
          match if digits.length = length then number? else none with
          | none => Glyph.error .unknownEscape gs
          | some n =>
              if n.isValidChar then .ok (Char.ofNat n, gs.drop (1 + length))
              else Glyph.error .unknownEscape gs

/-- The characters up to the closing quote and the glyphs after it. -/
def scanQuoted (single : Bool) : (fuel : Nat) → (done : List Char) → (gap : Gap) →
    List Glyph → Except Error (List Char × List Glyph)
  | 0, _, _, gs => Glyph.error .unclosedQuote gs
  | _ + 1, _, _, [] => Glyph.error .unclosedQuote []
  | fuel + 1, done, gap, g :: rest =>
      if Glyph.startsMarker (g :: rest) then Glyph.error .markerInQuote (g :: rest)
      else if isGap g.char || isBreak g.char then
        scanQuoted single fuel done (gap.add g.char) rest
      else
        let joined := gap.joinTo done
        if g.char == (if single then '\'' else '"') then
          if single && Glyph.next rest == '\'' then
            scanQuoted single fuel ('\'' :: joined) .empty (rest.drop 1)
          else .ok (joined.reverse, rest)
        else if !single && g.char == '\\' then
          if isBreak (Glyph.next rest) then
            scanQuoted single fuel joined (.breaks none []) (rest.drop 1)
          else
            match scanEscape rest with
            | .error e => .error e
            | .ok (c, rest) => scanQuoted single fuel (c :: joined) .empty rest
        else scanQuoted single fuel (g.char :: joined) .empty rest

end QueryHeaders.Yaml
