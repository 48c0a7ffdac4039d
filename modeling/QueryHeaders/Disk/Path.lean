import QueryHeaders.Text.Pieces

/-!
Paths as they are written.

A path is a text of steps between slashes. It is kept as written, so that messages and results show
it the way it was given, and it is only taken apart to be walked. A path that opens with a slash has
an empty first step.
-/
namespace QueryHeaders.Path

/-- The steps of a path; an empty one and a dot stay where they are, two dots lead back. -/
def steps (path : String) : List String :=
  (Text.pieces '/' path.toList).map String.ofList

/-- Whether steps stay where they are and one of them is a dot. -/
def endsInDot (steps : List String) : Bool :=
  steps.all (fun step => step = "" ∨ step = ".") && steps.contains "."

/-- The path of a name in a directory. -/
def join (directory name : String) : String :=
  if directory = "" then name
  else if directory.toList.getLast? = some '/' then directory ++ name
  else directory ++ "/" ++ name

/-- The path without its last step and the slashes before it; empty if there is only one. -/
def parent (path : String) : String :=
  let isSlash := (· == '/')
  let named := path.toList.reverse.dropWhile isSlash
  String.ofList ((named.dropWhile fun c => !isSlash c).dropWhile isSlash).reverse

/-- What stands after the last dot of a name; a dot that opens the name does not count. -/
def extension? (name : String) : Option String :=
  let (after, before) := name.toList.reverse.span (· != '.')
  match before with
  | [] | [_] => none
  | _ => if name = ".." then none else some (String.ofList after.reverse)

/-- Whether a file of this name holds definitions. -/
def isDefinitionsName (name : String) : Bool :=
  extension? name == some "yaml" || extension? name == some "yml"

end QueryHeaders.Path
