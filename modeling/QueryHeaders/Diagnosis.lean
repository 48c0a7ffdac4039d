import QueryHeaders.Loading
import QueryHeaders.Text.Blank
import QueryHeaders.Text.Lines
import QueryHeaders.Yaml.Value.Written

/-!
Diagnosis: the layout of a YAML file, to explain why it does not load.

Several documents and texts that are no YAML are what a diagnosis is there to show, so only a file
that cannot be read has none.
-/
namespace QueryHeaders

/-- The shape of a document. -/
inductive DocumentShape where
  | empty
  /-- The keys, each with what it holds. -/
  | mapping (entries : List (String × String))
  | other (kind preview : String)
  deriving DecidableEq, Repr

structure Diagnosis where
  path : String
  /-- The first lines. -/
  head : List String
  /-- None if the text is no YAML. -/
  documents : List DocumentShape
  hasSeparators : Bool
  /-- Why the text is no YAML. -/
  problem : Option String
  deriving DecidableEq, Repr

namespace Diagnosis

/-! ## Shapes -/

def kindName : Yaml.Value → String
  | .null => "null"
  | .bool _ => "bool"
  | .int _ | .float _ => "number"
  | .string _ => "string"
  | .sequence _ => "list"
  | .mapping _ => "mapping"
  | .tagged _ _ => "tagged"

/-- The written value, at most a hundred characters of it and an ellipsis. -/
def preview (v : Yaml.Value) : String := Text.shorten 100 100 (Text.trimEnd v.written)

def keyText : Yaml.Value → String
  | .string s => s
  | v => preview v

def description : Yaml.Value → String
  | .sequence items => "list with " ++ toString items.length ++ " items"
  | v => kindName v

def shape : Yaml.Value → DocumentShape
  | .null => .empty
  | .mapping pairs => .mapping (pairs.map fun (k, v) => (keyText k, description v))
  | v => .other (kindName v) (preview v)

/-! ## Reports -/

/-- How many lines are shown. -/
def headLength : Nat := 10

/-- Three dashes that nothing but white space follows directly. -/
def isSeparator (line : String) : Bool :=
  match line.toList with
  | '-' :: '-' :: '-' :: rest => rest.head?.all Text.isBlank
  | _ => false

/-- The diagnosis of a text. -/
def ofText (path content : String) : Diagnosis :=
  let lines := Text.lines content
  let (documents, problem) :=
    match Loading.documents content path with
    | .ok vs => (vs.map shape, none)
    | .error failure => ([], some failure.message)
  { path, documents, problem,
    head := lines.take headLength,
    hasSeparators := lines.any isSeparator }

/-- The diagnosis of a file. -/
def ofFile (path : String) : Job Diagnosis := do
  return ofText path (← Loading.sourceText path)

/-! ## Display -/

def shapeLines : DocumentShape → List String
  | .empty => ["  (empty document)"]
  | .mapping entries =>
      ("  Type: mapping with keys: " ++ ", ".intercalate (entries.map Prod.fst)) ::
        entries.map fun (key, description) => "  - " ++ key ++ ": " ++ description
  | .other kind preview => ["  Type: " ++ kind, "  Content: " ++ preview]

def ruler (width : Nat) : String := String.ofList (List.replicate width '─')

def headLines (head : List String) : List String :=
  head.zipIdx.map fun (line, i) => "  " ++ Text.padLeft 3 (toString (i + 1)) ++ ": " ++ line

def documentLines (documents : List DocumentShape) : List String :=
  documents.zipIdx.flatMap fun (shape, i) =>
    ["", "Document " ++ toString (i + 1) ++ ":"] ++ shapeLines shape

def separatorLines : List String := [
  "",
  "Found '---' document separators in YAML",
  "   The schema expects a single document with 'queries' root.",
  "   Remove '---' separators or combine documents."]

def verdictLine (d : Diagnosis) : String :=
  match d.problem with
  | some problem => "Error during diagnosis: " ++ problem
  | none => "Number of YAML documents found: " ++ toString d.documents.length

def displayLines (d : Diagnosis) : List String :=
  ["Diagnosing YAML structure: " ++ d.path,
    ruler 60,
    "First " ++ toString headLength ++ " lines:"] ++
    headLines d.head ++ ["", ruler 60, verdictLine d] ++ documentLines d.documents ++
    if d.hasSeparators then separatorLines else []

/-- The report over some lines. -/
def display (d : Diagnosis) : String := Text.ofLines d.displayLines

end Diagnosis

end QueryHeaders
