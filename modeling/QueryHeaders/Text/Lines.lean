/-!
Texts as lists of lines.

A line feed ends a line, one carriage return before it belongs to the line end, and a line end
that closes the text opens no further line. A carriage return anywhere else is a character of its
line.
-/
namespace QueryHeaders.Text

def lineChars : List Char → List (List Char)
  | [] => []
  | '\n' :: rest => [] :: lineChars rest
  | '\r' :: '\n' :: rest => [] :: lineChars rest
  | c :: rest =>
      match lineChars rest with
      | [] => [[c]]
      | line :: others => (c :: line) :: others

/-- The lines of a text, without their ends. -/
def lines (s : String) : List String :=
  (lineChars s.toList).map String.ofList

/-- The text of lines that a line feed ends each. -/
def ofLines (ls : List String) : String :=
  String.join (ls.map (· ++ "\n"))

/-- The number in decimal, with blanks before it up to the width. -/
def padLeft (width : Nat) (s : String) : String :=
  String.ofList (List.replicate (width - s.length) ' ') ++ s

/-- At most `limit` characters of the text; a longer one keeps its first `kept` and an ellipsis. -/
def shorten (limit kept : Nat) (s : String) : String :=
  if limit < s.length then String.ofList (s.toList.take kept) ++ "..." else s

end QueryHeaders.Text
