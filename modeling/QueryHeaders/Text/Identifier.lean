import QueryHeaders.Text.Digit

/-!
Identifiers: an ASCII letter or an underscore, then ASCII letters, digits and underscores.
-/
namespace QueryHeaders.Text

def isLetter (c : Char) : Bool :=
  ('a' ≤ c && c ≤ 'z') || ('A' ≤ c && c ≤ 'Z')

def isIdentifierStart (c : Char) : Bool :=
  isLetter c || c == '_'

def isIdentifierPart (c : Char) : Bool :=
  isIdentifierStart c || isDigit c

def isIdentifierChars : List Char → Bool
  | [] => false
  | c :: rest => isIdentifierStart c && rest.all isIdentifierPart

def isIdentifier (s : String) : Bool :=
  isIdentifierChars s.toList

end QueryHeaders.Text
