import QueryHeaders.Yaml.Glyph
import QueryHeaders.Yaml.Token.Basic

/-!
Directives, anchors and tags.

A tag is a handle, which a directive may have given a meaning, and a suffix; verbatim tags have no
handle. Suffixes are bytes, since they may be escaped byte by byte. A byte zero ends a suffix.
-/
namespace QueryHeaders.Yaml

def charsOf (gs : List Glyph) : List Char := gs.map Glyph.char

/-- The word characters that start here, and the glyphs after them. -/
def scanWord (gs : List Glyph) : List Char × List Glyph :=
  (charsOf (gs.takeWhile fun g => isWordChar g.char), gs.dropWhile fun g => isWordChar g.char)

/-! ## Anchors -/

def endsAnchor (c : Char) : Bool :=
  endsWord c || ['?', ':', ',', ']', '}', '%', '@', '\x60'].contains c

/-- The name of an anchor or an alias, after its mark. -/
def scanAnchor (gs : List Glyph) : Except Error (String × List Glyph) :=
  let (name, rest) := scanWord gs
  if name.isEmpty || !endsAnchor (Glyph.next rest) then Glyph.error .malformedAnchor rest
  else .ok (String.ofList name, rest)

/-! ## Tags -/

def isUriChar (verbatim : Bool) (c : Char) : Bool :=
  isWordChar c ||
    [';', '/', '?', ':', '@', '&', '=', '+', '$', '.', '%', '!', '~', '*', '\'', '(', ')'].contains c ||
    (verbatim && (c == ',' || c == '[' || c == ']'))

/-- The byte of a percent sign and two digits. -/
def escapedByte? (gs : List Glyph) : Option Nat :=
  if Glyph.next gs == '%' then
    match Text.hexValue? (Glyph.ahead 1 gs), Text.hexValue? (Glyph.ahead 2 gs) with
    | some a, some b => some (a * 16 + b)
    | _, _ => none
  else none

/-- The number of bytes of a character that starts with this one. -/
def sequenceLength? (b : Nat) : Option Nat :=
  if b < 0x80 then some 1
  else if 0xC0 ≤ b ∧ b < 0xE0 then some 2
  else if 0xE0 ≤ b ∧ b < 0xF0 then some 3
  else if 0xF0 ≤ b ∧ b < 0xF8 then some 4
  else none

def scanTrailBytes : (count : Nat) → List Glyph → Except Error (List UInt8 × List Glyph)
  | 0, gs => .ok ([], gs)
  | count + 1, gs =>
      match escapedByte? gs with
      | some b =>
          if 0x80 ≤ b ∧ b < 0xC0 then do
            let (bytes, rest) ← scanTrailBytes count (gs.drop 3)
            return (b.toUInt8 :: bytes, rest)
          else Glyph.error .malformedTag gs
      | none => Glyph.error .malformedTag gs

/-- The bytes of one escaped character. -/
def scanEscapedChar (gs : List Glyph) : Except Error (List UInt8 × List Glyph) :=
  match escapedByte? gs with
  | none => Glyph.error .malformedTag gs
  | some b =>
      match sequenceLength? b with
      | none => Glyph.error .malformedTag gs
      | some length => do
          let (bytes, rest) ← scanTrailBytes (length - 1) (gs.drop 3)
          return (b.toUInt8 :: bytes, rest)

/-- The bytes of a URI; there may be none. -/
def scanUri (verbatim : Bool) : (fuel : Nat) → List Glyph →
    Except Error (List UInt8 × List Glyph)
  | 0, gs => .ok ([], gs)
  | fuel + 1, gs =>
      let c := Glyph.next gs
      if !isUriChar verbatim c then .ok ([], gs)
      else do
        let (first, rest) ← if c == '%' then scanEscapedChar gs
          else .ok ([c.toNat.toUInt8], gs.drop 1)
        let (others, rest) ← scanUri verbatim fuel rest
        return (first ++ others, rest)

/-- The bytes of a URI that is not empty and starts with `before`. -/
def scanSuffix (verbatim : Bool) (before : List Char) (mayBeEmpty : Bool) (gs : List Glyph) :
    Except Error (List UInt8 × List Glyph) := do
  let (bytes, rest) ← scanUri verbatim (gs.length + 1) gs
  if bytes.isEmpty && before.isEmpty && !mayBeEmpty then Glyph.error .malformedTag gs
  else return ((before.map (·.toNat.toUInt8) ++ bytes).takeWhile (· ≠ 0), rest)

/-- The text of a tag that has no name of its own. -/
def plainTag : List UInt8 := [33]

/-- The handle and the suffix of a tag, after its mark. -/
def scanTagParts (gs : List Glyph) : Except Error ((String × List UInt8) × List Glyph) :=
  if Glyph.next gs == '<' then do
    let (suffix, rest) ← scanSuffix true [] false (gs.drop 1)
    if Glyph.next rest == '>' then return (("", suffix), rest.drop 1)
    else Glyph.error .malformedTag rest
  else do
    let (name, rest) := scanWord gs
    if Glyph.next rest == '!' then
      let (suffix, rest) ← scanSuffix false [] false (rest.drop 1)
      return ((String.ofList ('!' :: name ++ ['!']), suffix), rest)
    else
      let (suffix, rest) ← scanSuffix false name true rest
      if suffix.isEmpty then return (("", plainTag), rest)
      else return (("!", suffix), rest)

/-- A tag and what has to end it. -/
def scanTag (flow : Bool) (gs : List Glyph) : Except Error (Token × List Glyph) := do
  let ((handle, suffix), rest) ← scanTagParts gs
  let c := Glyph.next rest
  if endsWord c || (flow && c == ',') then return (.tag handle suffix, rest)
  else Glyph.error .malformedTag rest

/-! ## Directives -/

def scanVersionNumber (gs : List Glyph) : Except Error (Nat × List Glyph) :=
  let digits := gs.takeWhile fun g => Text.isDigit g.char
  if digits.isEmpty || 9 < digits.length then Glyph.error .malformedDirective gs
  else .ok (Nat.ofDigitChars 10 (digits.map Glyph.char) 0, gs.drop digits.length)

def scanVersion (gs : List Glyph) : Except Error (Token × List Glyph) := do
  let (major, rest) ← scanVersionNumber (Glyph.skipGap gs)
  if Glyph.next rest == '.' then
    let (minor, rest) ← scanVersionNumber (rest.drop 1)
    return (.versionDirective major minor, rest)
  else Glyph.error .malformedDirective rest

/-- A handle is one mark, two, or a name between two. -/
def scanHandle (gs : List Glyph) : Except Error (List Char × List Glyph) :=
  if Glyph.next gs == '!' then
    let (name, rest) := scanWord (gs.drop 1)
    if Glyph.next rest == '!' then .ok ('!' :: name ++ ['!'], rest.drop 1)
    else if name.isEmpty then .ok (['!'], rest)
    else Glyph.error .malformedDirective rest
  else Glyph.error .malformedDirective gs

def scanTagDirective (gs : List Glyph) : Except Error (Token × List Glyph) := do
  let (handle, rest) ← scanHandle (Glyph.skipGap gs)
  if !isGap (Glyph.next rest) then Glyph.error .malformedDirective rest
  else
    let (uri, rest) ← scanSuffix true [] false (Glyph.skipGap rest)
    if endsWord (Glyph.next rest) then return (.tagDirective (String.ofList handle) uri, rest)
    else Glyph.error .malformedDirective rest

/-- A directive after its mark, with the line end after it. -/
def scanDirective (gs : List Glyph) : Except Error (Token × List Glyph) := do
  let (name, rest) := scanWord gs
  if name.isEmpty || !endsWord (Glyph.next rest) then Glyph.error .malformedDirective rest
  else
    let (token, rest) ←
      if name = ['Y', 'A', 'M', 'L'] then scanVersion rest
      else if name = ['T', 'A', 'G'] then scanTagDirective rest
      else Glyph.error .unknownDirective gs
    match Glyph.skipLineEnd? rest with
    | some rest => return (token, rest)
    | none => Glyph.error .malformedDirective rest

end QueryHeaders.Yaml
