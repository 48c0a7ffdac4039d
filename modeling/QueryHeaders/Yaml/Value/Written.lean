import QueryHeaders.Yaml.Value.Scalar

/-!
How values are written, in block style.

An entry of a sequence follows a hyphen, also where it is itself a collection; a sequence below a
key stands at the column of the key, a mapping two columns deeper. A key that is a collection, has
line ends or is long follows a question mark. A tag stands before its value, a collection on the
lines after it.
-/
namespace QueryHeaders.Yaml.Written

/-- The text of a leaf: a scalar or an empty collection. -/
def leaf? (indent : Nat) : Value → Option (List Char)
  | .null => some "null".toList
  | .bool b => some (if b then "true" else "false").toList
  | .int n => some (toString n).toList
  | .float x => some (floatChars x)
  | .string s => some (textChars indent s)
  | .sequence [] => some ['[', ']']
  | .mapping [] => some ['\x7b', '\x7d']
  | _ => none

/-- Characters of a tag that need no escape. -/
def isTagChar (c : Char) : Bool :=
  isWordChar c ||
    [';', '/', '?', ':', '@', '&', '=', '+', '$', ',', '.', '!', '~', '*', '\'', '(', ')', '[',
      ']'].contains c

def tagChars (tag : String) : List Char :=
  '!' :: tag.toList.flatMap fun c =>
    if isTagChar c then [c]
    else (String.utf8EncodeChar c).flatMap fun b => '%' :: upperHex 2 b.toNat

/-- The length of the longest text that is written as a key without a question mark. -/
def maxKeyBytes : Nat := 128

def byteLength (cs : List Char) : Nat := (String.ofList cs).utf8ByteSize

/-- Whether a value may be a key without a question mark; `tagged` counts the bytes of its tag. -/
def isShortKey (tagBytes : Nat) : Value → Bool
  | .sequence items => items.isEmpty
  | .mapping pairs => pairs.isEmpty
  | .tagged tag v => isShortKey (tagBytes + (tagChars tag).length) v
  | .string s => !s.toList.any isLineEnd && tagBytes + s.utf8ByteSize ≤ maxKeyBytes
  | v => tagBytes + byteLength ((leaf? 0 v).getD []) ≤ maxKeyBytes

/-- A new line at a column. -/
def newLine (column : Nat) : List Char := '\n' :: spaces column

/-- Parts with a new line at a column between them. -/
def stacked (column : Nat) : List (List Char) → List Char
  | [] => []
  | [p] => p
  | p :: rest => p ++ newLine column ++ stacked column rest

/-- Where a collection stands: it may start in the line that it is announced in, or below it. -/
inductive Announcement where
  /-- After a hyphen, a question mark or a colon of its own, two columns on. -/
  | inline
  /-- After a key in the same line. -/
  | belowKey
  /-- At the start of the document. -/
  | atStart
  deriving DecidableEq

namespace Announcement

/-- The column of a sequence that is announced at a column. -/
def itemColumn (column : Nat) : Announcement → Nat
  | .inline => column + 2
  | .belowKey | .atStart => column

def pairColumn (column : Nat) : Announcement → Nat
  | .inline | .belowKey => column + 2
  | .atStart => column

end Announcement

/-- A text at the end of a line ends the line itself if its last character is a line feed. -/
def trimBreak (cs : List Char) : List Char :=
  match cs.reverse with
  | '\n' :: rest => rest.reverse
  | _ => cs

mutual
/-- The text of a value after its announcement, with the gap between the two. -/
def valueChars (column : Nat) (a : Announcement) : Value → List Char
  | .sequence (i :: items) =>
      let start := a.itemColumn column
      (if a = .belowKey then newLine start else if a = .inline then [' '] else []) ++
        stacked start (itemsChars start (i :: items))
  | .mapping (p :: pairs) =>
      let start := a.pairColumn column
      (if a = .belowKey then newLine start else if a = .inline then [' '] else []) ++
        stacked start (pairsChars start (p :: pairs))
  | .tagged tag v =>
      (if a = .atStart then [] else [' ']) ++ tagChars tag ++ taggedChars column a v
  | v =>
      (if a = .atStart then [] else [' ']) ++ trimBreak ((leaf? (column + 2) v).getD [])

/-- The text of a value after its tag. -/
def taggedChars (column : Nat) (a : Announcement) : Value → List Char
  | .sequence (i :: items) =>
      let start := a.itemColumn column
      newLine start ++ stacked start (itemsChars start (i :: items))
  | .mapping (p :: pairs) =>
      let start := a.pairColumn column
      newLine start ++ stacked start (pairsChars start (p :: pairs))
  | .tagged tag v => ' ' :: tagChars tag ++ taggedChars column a v
  | v => ' ' :: trimBreak ((leaf? (column + 2) v).getD [])

/-- The entries of a sequence at a column. -/
def itemsChars (column : Nat) : List Value → List (List Char)
  | [] => []
  | v :: rest => ('-' :: valueChars column .inline v) :: itemsChars column rest

/-- The entries of a mapping at a column. -/
def pairsChars (column : Nat) : List (Value × Value) → List (List Char)
  | [] => []
  | (k, v) :: rest =>
      let entry :=
        if isShortKey 0 k then shortKeyChars k ++ ':' :: valueChars column .belowKey v
        else
          '?' :: valueChars column .inline k ++ newLine column ++
            ':' :: valueChars column .inline v
      entry :: pairsChars column rest

/-- The text of a short key. -/
def shortKeyChars : Value → List Char
  | .tagged tag v => tagChars tag ++ ' ' :: shortKeyChars v
  | v => (leaf? 0 v).getD []
end

end QueryHeaders.Yaml.Written

namespace QueryHeaders.Yaml.Value

/-- The value as a document, without a line end at its end. -/
def written (v : Value) : String :=
  String.ofList (Written.valueChars 0 .atStart v)

end QueryHeaders.Yaml.Value
