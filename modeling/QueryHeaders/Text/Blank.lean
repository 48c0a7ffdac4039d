/-!
White space and control characters, as the Unicode character database lists them, and trimming.

`isBlank` is the property `White_Space` and `isControl` the general category `Cc`; neither is the
ASCII class of the same name. Trimming removes blanks from both ends and nothing from within.
-/
namespace QueryHeaders.Text

/-- The property `White_Space`. -/
def isBlank (c : Char) : Bool :=
  let n := c.toNat
  (9 ≤ n && n ≤ 13) || n == 0x20 || n == 0x85 || n == 0xA0 || n == 0x1680 ||
    (0x2000 ≤ n && n ≤ 0x200A) || n == 0x2028 || n == 0x2029 || n == 0x202F ||
    n == 0x205F || n == 0x3000

/-- The general category `Cc`: the two blocks of control codes and the delete character. -/
def isControl (c : Char) : Bool :=
  let n := c.toNat
  n < 0x20 || (0x7F ≤ n && n ≤ 0x9F)

/-- Removes the blanks at the end. -/
def trimEndChars (cs : List Char) : List Char :=
  (cs.reverse.dropWhile isBlank).reverse

/-- Removes the blanks at both ends. -/
def trimChars (cs : List Char) : List Char :=
  trimEndChars (cs.dropWhile isBlank)

def trimEnd (s : String) : String :=
  String.ofList (trimEndChars s.toList)

def trim (s : String) : String :=
  String.ofList (trimChars s.toList)

/-- Whether a control character stands anywhere in the text. -/
def hasControl (s : String) : Bool :=
  s.toList.any isControl

end QueryHeaders.Text
