import QueryHeaders.Failure

/-!
Discovery: the definitions files that paths name.

A directory stands for the definitions files directly in it, in the order of their names. Any other
path stands for itself, so that a missing file is noticed where it is read.
-/
namespace QueryHeaders.Discovery

/-- The paths of the definitions files among the entries of a directory. -/
def definitionPaths (directory : String) (entries : List (String × Kind)) : List String :=
  (entries.filter fun (name, kind) => kind == .file && Path.isDefinitionsName name).map
    fun (name, _) => Path.join directory name

/-- The files that one path stands for. -/
def expand (path : String) : Job (List String) := do
  match ← ExceptT.lift (Program.kind path) with
  | some .directory =>
      return definitionPaths path (← Job.require (.unreadable path) (Program.list path))
  | _ => return [path]

/-- The files that some paths stand for. -/
def files : List String → Job (List String)
  | [] => return []
  | path :: rest => do
      let found ← expand path
      return found ++ (← files rest)

end QueryHeaders.Discovery
