import QueryHeaders.Yaml.Scalar.Block
import QueryHeaders.Yaml.Scalar.Plain
import QueryHeaders.Yaml.Scalar.Quoted
import QueryHeaders.Yaml.Token.Property

/-!
The tokens of a stream.

Whether a word is a key shows only at the colon after it. So wherever a key may start the output
gets an empty slot, which the colon fills with the tokens that belong before the key; a slot that
is never filled leaves nothing. A key must be on one line and within 1024 characters of its colon,
and a word at the indentation of a block mapping cannot be anything but a key.
-/
namespace QueryHeaders.Yaml

/-- A place where a key may have started. -/
structure PendingKey where
  slot : Nat
  line : Nat
  column : Nat
  /-- Whether nothing but a key may stand there. -/
  required : Bool
  deriving Repr

/-- How far a stream has been read. -/
structure Scanner where
  rest : List Glyph
  /-- The tokens of each slot so far, the latest slot first. -/
  output : List (List Token)
  /-- The number of slots. -/
  slots : Nat
  /-- The number of flow collections around. -/
  flowDepth : Nat
  /-- The indentation of the block collection around, and of those around it. -/
  indent : Option Nat
  outer : List (Option Nat)
  /-- Whether a key may start here. -/
  keyAllowed : Bool
  /-- The pending key of this collection, and of each flow collection around. -/
  pending : Option PendingKey
  pendingOuter : List (Option PendingKey)

namespace Scanner

def start (gs : List Glyph) : Scanner where
  rest := gs
  output := []
  slots := 0
  flowDepth := 0
  indent := none
  outer := []
  keyAllowed := true
  pending := none
  pendingOuter := []

def inFlow (s : Scanner) : Bool := 0 < s.flowDepth

/-- The least indentation of what is inside the block collection around. -/
def innerIndent (s : Scanner) : Nat :=
  match s.indent with
  | none => 0
  | some n => n + 1

/-- Opens a slot with these tokens. -/
def addSlot (ts : List Token) (s : Scanner) : Scanner :=
  { s with output := ts :: s.output, slots := s.slots + 1 }

/-- Puts other tokens into a slot; a pending key keeps its slot close to the latest one. -/
def fillSlot (slot : Nat) (ts : List Token) (s : Scanner) : Scanner :=
  { s with output := s.output.set (s.slots - 1 - slot) ts }

def emit (t : Token) (s : Scanner) : Scanner := s.addSlot [t]

def fail {α : Type} (p : Problem) (s : Scanner) : Except Error α := Glyph.error p s.rest

/-- Where the next glyph stands; at the end of the stream at the start of a line of its own. -/
def place (s : Scanner) : Nat × Nat :=
  match s.rest with
  | [] => (0, 0)
  | g :: _ => (g.line, g.column)

/-! ## Keys -/

/-- Gives up the pending key of this collection. -/
def dropKey (s : Scanner) : Except Error Scanner :=
  match s.pending with
  | some k => if k.required then s.fail .missingColon else .ok { s with pending := none }
  | none => .ok s

/-- Notes that a key may start here. -/
def markKey (s : Scanner) : Except Error Scanner :=
  if !s.keyAllowed then .ok s
  else do
    let s ← s.dropKey
    let (line, column) := s.place
    let required := !s.inFlow && s.indent == some column
    return { s.addSlot [] with pending := some ⟨s.slots, line, column, required⟩ }

/-- Whether a key can no longer be one, seen from a place after it. -/
def PendingKey.isStale (k : PendingKey) (line column : Nat) : Bool :=
  k.line < line || k.column + 1024 < column

def checkStale (s : Scanner) (k : Option PendingKey) : Except Error (Option PendingKey) :=
  match k with
  | none => .ok none
  | some k =>
      let (line, column) := s.place
      if s.rest.isEmpty || PendingKey.isStale k line column then
        if k.required then s.fail .missingColon else .ok none
      else .ok (some k)

/-- Gives up the pending keys that are too far back. -/
def dropStaleKeys (s : Scanner) : Except Error Scanner := do
  let pending ← s.checkStale s.pending
  let pendingOuter ← s.pendingOuter.mapM s.checkStale
  return { s with pending, pendingOuter }

/-! ## Indentation -/

/-- Opens a block collection at a column that is deeper than the one around. -/
def openBlock (column : Nat) (first : Token) (s : Scanner) : Scanner × List Token :=
  if !s.inFlow && s.innerIndent ≤ column then
    ({ s with indent := some column, outer := s.indent :: s.outer }, [first])
  else (s, [])

def openBlockHere (first : Token) (s : Scanner) : Scanner :=
  let (s, tokens) := s.openBlock s.place.2 first
  s.addSlot tokens

/-- Closes block collections, the innermost first, as long as one is deeper than `column`;
without a column all are closed. -/
def closeDeeper (column : Option Nat) : List (Option Nat) → Scanner → Scanner
  | outer, s =>
      match s.indent with
      | none => s
      | some n =>
          if column.any (n ≤ ·) then s
          else
            match outer with
            | [] => s
            | o :: others =>
                closeDeeper column others
                  ({ s with indent := o, outer := others }.emit .blockEnd)

def closeBlocks (column : Option Nat) (s : Scanner) : Scanner :=
  if s.inFlow then s else closeDeeper column s.outer s

/-! ## Gaps -/

/-- Skips blanks, comments and line ends. Tabs are blanks only where they cannot be mistaken for
indentation; after a line end in a block collection a key may start. -/
def skipGaps (flow : Bool) : (comment keyAllowed : Bool) → List Glyph → Bool × List Glyph
  | _, keyAllowed, [] => (keyAllowed, [])
  | comment, keyAllowed, g :: rest =>
      if isBreak g.char then skipGaps flow false (keyAllowed || !flow) rest
      else if comment || g.char == '#' then skipGaps flow true keyAllowed rest
      else if g.char == ' ' || (g.char == '\t' && (flow || !keyAllowed)) ||
          (g.char == byteOrderMark && g.column == 0) then
        skipGaps flow false keyAllowed rest
      else (keyAllowed, g :: rest)

/-! ## Single tokens -/

/-- Takes `n` glyphs for a token. -/
def take (n : Nat) (t : Token) (s : Scanner) : Scanner :=
  { s.emit t with rest := s.rest.drop n }

def allowKey (b : Bool) (s : Scanner) : Scanner := { s with keyAllowed := b }

/-- Ends all block collections, before a directive or a document marker. -/
def leaveDocument (s : Scanner) : Except Error Scanner := do
  return (← (s.closeBlocks none).dropKey).allowKey false

def enterFlow (t : Token) (s : Scanner) : Except Error Scanner := do
  let s ← s.markKey
  return { (s.take 1 t).allowKey true with
    flowDepth := s.flowDepth + 1
    pending := none
    pendingOuter := s.pending :: s.pendingOuter }

def leaveFlow (t : Token) (s : Scanner) : Except Error Scanner := do
  let s := (← s.dropKey).allowKey false
  let s := s.take 1 t
  match s.pendingOuter with
  | [] => return s
  | k :: others =>
      return { s with flowDepth := s.flowDepth - 1, pending := k, pendingOuter := others }

def flowEntry (s : Scanner) : Except Error Scanner := do
  return ((← s.dropKey).allowKey true).take 1 .flowEntry

def blockEntry (s : Scanner) : Except Error Scanner :=
  if !s.inFlow && !s.keyAllowed then s.fail .entryNotAllowed
  else do
    return ((← (s.openBlockHere .blockSequenceStart).dropKey).allowKey true).take 1 .blockEntry

def explicitKey (s : Scanner) : Except Error Scanner :=
  if !s.inFlow && !s.keyAllowed then s.fail .keyNotAllowed
  else do
    return ((← (s.openBlockHere .blockMappingStart).dropKey).allowKey (!s.inFlow)).take 1 .key

def valueMark (s : Scanner) : Except Error Scanner :=
  match s.pending with
  | some k =>
      let (opened, tokens) := s.openBlock k.column .blockMappingStart
      let filled := { opened.fillSlot k.slot (tokens ++ [.key]) with pending := none }
      .ok ((filled.allowKey false).take 1 .value)
  | none =>
      if !s.inFlow && !s.keyAllowed then s.fail .valueNotAllowed
      else .ok (((s.openBlockHere .blockMappingStart).allowKey (!s.inFlow)).take 1 .value)

/-- A token with a reader of its own. -/
def property (s : Scanner) (read : List Glyph → Except Error (Token × List Glyph)) :
    Except Error Scanner := do
  let s := (← s.markKey).allowKey false
  let (token, rest) ← read (s.rest.drop 1)
  return { s.emit token with rest }

def quoted (single : Bool) (s : Scanner) : Except Error Scanner :=
  s.property fun gs => do
    let (chars, rest) ← scanQuoted single (gs.length + 1) [] .empty gs
    return (.scalar (String.ofList chars) (if single then .singleQuoted else .doubleQuoted), rest)

def block (folded : Bool) (s : Scanner) : Except Error Scanner := do
  let s := (← s.dropKey).allowKey true
  let (chars, rest) ← scanBlock folded s.innerIndent (s.rest.drop 1)
  return { s.emit (.scalar (String.ofList chars) (if folded then .folded else .literal)) with rest }

def plain (s : Scanner) : Except Error Scanner := do
  let s := (← s.markKey).allowKey false
  let (chars, newLine, rest) ← scanPlain s.inFlow s.innerIndent [] .empty s.rest
  return { s.emit (.scalar (String.ofList chars) .plain) with
    rest, keyAllowed := s.keyAllowed || newLine }

/-- Whether a plain scalar may start here. -/
def startsPlain (s : Scanner) : Bool :=
  let c := Glyph.next s.rest
  let after := Glyph.ahead 1 s.rest
  if c == '-' then !isGap after
  else if c == '?' || c == ':' then !s.inFlow && !endsWord after
  else !(endsWord c || isFlowMark c ||
    ['#', '&', '*', '!', '|', '>', '\'', '"', '%', '@', '\x60'].contains c)

/-- Reads the token that starts here. -/
def token (s : Scanner) : Except Error Scanner :=
  let c := Glyph.next s.rest
  let marks := s.inFlow || endsWord (Glyph.ahead 1 s.rest)
  let lineStart := s.place.2 == 0
  if lineStart && c == '%' then do
    let s ← s.leaveDocument
    let (token, rest) ← scanDirective (s.rest.drop 1)
    return { s.emit token with rest }
  else if lineStart && Glyph.startsMarkerOf '-' s.rest then do
    return (← s.leaveDocument).take 3 .documentStart
  else if lineStart && Glyph.startsMarkerOf '.' s.rest then do
    return (← s.leaveDocument).take 3 .documentEnd
  else if c == '[' then s.enterFlow .flowSequenceStart
  else if c == '{' then s.enterFlow .flowMappingStart
  else if c == ']' then s.leaveFlow .flowSequenceEnd
  else if c == '}' then s.leaveFlow .flowMappingEnd
  else if c == ',' then s.flowEntry
  else if c == '-' && endsWord (Glyph.ahead 1 s.rest) then s.blockEntry
  else if c == '?' && marks then s.explicitKey
  else if c == ':' && marks then s.valueMark
  else if c == '*' then
    s.property fun gs => do
      let (name, rest) ← scanAnchor gs
      return (.alias name, rest)
  else if c == '&' then
    s.property fun gs => do
      let (name, rest) ← scanAnchor gs
      return (.anchor name, rest)
  else if c == '!' then s.property (scanTag s.inFlow)
  else if c == '|' && !s.inFlow then s.block false
  else if c == '>' && !s.inFlow then s.block true
  else if c == '\'' then s.quoted true
  else if c == '"' then s.quoted false
  else if s.startsPlain then s.plain
  else s.fail .unexpectedCharacter

/-- Skips to the next token and settles what the place says about indentation and keys. -/
def advance (s : Scanner) : Except Error Scanner := do
  let (keyAllowed, rest) := skipGaps s.inFlow false s.keyAllowed s.rest
  let s ← { s with keyAllowed, rest }.dropStaleKeys
  return if s.rest.isEmpty then s else s.closeBlocks (some s.place.2)

/-- Reads to the end; the fuel bounds the number of tokens. -/
def run : (fuel : Nat) → Scanner → List (List Token)
  | 0, s => s.output
  | fuel + 1, s =>
      match s.advance with
      | .error e => [.broken e] :: s.output
      | .ok s =>
          if s.rest.isEmpty then ((s.closeBlocks none).emit .streamEnd).output
          else
            match s.token with
            | .error e => [.broken e] :: s.output
            | .ok s => run fuel s

end Scanner

/-- The tokens of a text; the last one is the end of the stream or an error. -/
def tokens (text : List Char) : List Token :=
  match (glyphs 0 0 text).find? fun g => !isAllowed g.char with
  | some g => [.broken ⟨.forbiddenCharacter, some (g.line, g.column)⟩]
  | none =>
      let gs := glyphs 0 0 text
      ((Scanner.start gs).run (gs.length + 1)).reverse.flatten

end QueryHeaders.Yaml
