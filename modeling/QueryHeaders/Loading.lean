import QueryHeaders.Failure
import QueryHeaders.Yaml.Stream
import QueryHeaders.Yaml.Value.Json

/-!
Loading: from a YAML text to one JSON document.

The text must hold exactly one document, and that must not be null. A source is the name of the
text in messages.
-/
namespace QueryHeaders.Loading

/-- The documents of a text. -/
def documents (content source : String) : Except Failure (List Yaml.Value) :=
  match Yaml.documents content with
  | .ok vs => .ok vs
  | .error problem => .error (.malformed source problem.message)

/-- The only document, unless it is null. -/
def single (source : String) : List Yaml.Value → Except Failure Yaml.Value
  | [] | [.null] => .error (.emptyInput source)
  | [v] => .ok v
  | vs => .error (.severalDocuments source vs.length)

def document (source : String) (v : Yaml.Value) : Except Failure Json :=
  match v.toJson with
  | .ok json => .ok json
  | .error problem => .error (.malformed source problem.message)

/-- The document of a text. -/
def ofText (content source : String) : Except Failure Json := do
  let vs ← documents content source
  document source (← single source vs)

/-- What it means that a source cannot be read. -/
def readFailure (path : String) : Fault → Failure
  | .notFound => .notFound path
  | fault => .unreadable path fault

/-- The text of a source file. -/
def sourceText (path : String) : Job String :=
  Job.require (readFailure path) (Program.readText path)

/-- The document of a file. -/
def ofFile (path : String) : Job Json := do
  let content ← sourceText path
  ofText content path

end QueryHeaders.Loading
