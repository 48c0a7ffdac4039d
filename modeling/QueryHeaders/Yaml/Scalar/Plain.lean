import QueryHeaders.Yaml.Scalar.Fold

/-!
Plain scalars.

A plain scalar ends at a comment, a document marker, a colon that ends a word, in a flow collection
at any of its marks, and in a block collection before a line that is not indented deeper than the
collection.
-/
namespace QueryHeaders.Yaml

def isFlowMark (c : Char) : Bool :=
  c == ',' || c == '[' || c == ']' || c == '{' || c == '}'

/-- Whether a colon here makes a plain scalar of a flow collection ambiguous. -/
def isStrayColon (gs : List Glyph) : Bool :=
  Glyph.next gs == ':' && (isFlowMark (Glyph.ahead 1 gs) || Glyph.ahead 1 gs == '?')

/-- Whether no word of the scalar starts here, after a gap. -/
def endsAfterGap (flow : Bool) (indent : Nat) (gs : List Glyph) : Bool :=
  match gs with
  | [] => true
  | g :: _ => Glyph.startsMarker gs || g.char == '#' || (!flow && g.column < indent)

/-- Whether the scalar ends here, within a word or before one. -/
def endsPlain (flow : Bool) (gs : List Glyph) : Bool :=
  (Glyph.next gs == ':' && endsWord (Glyph.ahead 1 gs)) || (flow && isFlowMark (Glyph.next gs))

/-- The characters of a scalar, whether a line end stands after it, and the glyphs that follow. -/
def scanPlain (flow : Bool) (indent : Nat) (done : List Char) (gap : Gap) :
    List Glyph → Except Error (List Char × Bool × List Glyph)
  | [] => .ok (done.reverse, gap.isBreaks, [])
  | g :: rest =>
      let here := g :: rest
      if isGap g.char || isBreak g.char then
        if g.char == '\t' && gap.isBreaks && g.column < indent then
          Glyph.error .tabIndentation here
        else scanPlain flow indent done (gap.add g.char) rest
      else if !gap.isEmpty && endsAfterGap flow indent here then
        .ok (done.reverse, gap.isBreaks, here)
      else if flow && isStrayColon here then Glyph.error .colonInPlain here
      else if endsPlain flow here then .ok (done.reverse, gap.isBreaks, here)
      else scanPlain flow indent (g.char :: gap.joinTo done) .empty rest

end QueryHeaders.Yaml
