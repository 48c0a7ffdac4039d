import QueryHeaders.Text.Lines

/-!
Pieces of generated C++ headers: include guards, macros and string literals.

A header is a list of lines. A macro that spans several lines ends each of them but the last in a
backslash, so that a compiler joins them into one.
-/
namespace QueryHeaders.Header

/-- The first line of every generated header. -/
def marker : String := "// Auto-generated file - DO NOT EDIT MANUALLY"

/-- What stands in place of a body when there are no queries. -/
def noQueries : String := "// No queries defined"

/-- A header whose body is wrapped in an include guard. -/
def guarded (guard : String) (body : List String) : String :=
  Text.ofLines ([marker, "#ifndef " ++ guard, "#define " ++ guard, ""] ++ body ++
    ["", "#endif // " ++ guard])

/-- Joins lines into one logical line by a backslash at the end of all but the last. -/
def continued : List String → List String
  | [] => []
  | [line] => [line]
  | line :: rest => (line ++ " \\") :: continued rest

/-- The lines of a macro without parameters; without a body it is empty, below a comment. -/
def macroLines (name : String) (body : List String) : List String :=
  let opening := "#define " ++ name ++ "()"
  if body.isEmpty then [noQueries, opening] else continued (opening :: body)

def escapeChar (c : Char) : List Char :=
  if c = '"' then ['\\', '"']
  else if c = '\\' then ['\\', '\\']
  else if c = '\n' then ['\\', 'n']
  else [c]

/-- The string literal of a text. -/
def literal (s : String) : String :=
  String.ofList ('"' :: (s.toList.flatMap escapeChar ++ ['"']))

/-- Puts a comma after every line but the last. -/
def separated : List String → List String
  | [] => []
  | [line] => [line]
  | line :: rest => (line ++ ",") :: separated rest

/-- A declaration with an initializer, one entry a line. -/
def initialized (declaration : String) (entries : List String) : List String :=
  if entries.isEmpty then [declaration ++ " = \x7b\x7d;"]
  else (declaration ++ " = \x7b") :: (separated entries ++ ["\x7d;"])

end QueryHeaders.Header
