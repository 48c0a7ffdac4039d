import QueryHeaders.CommandLine.Outcome

/-!
The program itself: it performs a command line on the real disk.
-/
namespace QueryHeaders

def faultOf : IO.Error → Fault
  | .noFileOrDirectory .. => .notFound
  | .alreadyExists .. => .exists
  | e => .other (toString e)

/-- What an action on the disk gives, or how it fails. -/
def attempt {α : Type} (action : IO α) : IO (Except Fault α) := do
  try return .ok (← action)
  catch e => return .error (faultOf e)

def kindOf : IO.FS.FileType → Option Kind
  | .dir => some .directory
  | .file => some .file
  | _ => none

def readTextFile (path : String) : IO (Except Fault String) := do
  match ← attempt (IO.FS.readBinFile path) with
  | .error fault => return .error fault
  | .ok bytes =>
      match String.fromUTF8? bytes with
      | some s => return .ok s
      | none => return .error .notText

def listDirectory (path : String) : IO (List (String × Kind)) := do
  let directory := (← IO.currentDir) / path
  let found ← (← directory.readDir).toList.filterMapM fun entry => do
    return (kindOf (← entry.path.metadata).type).map fun kind => (entry.fileName, kind)
  return found.mergeSort fun a b => a.1 ≤ b.1

def kindAt (path : String) : IO (Option Kind) := do
  if path = "" then return none
  match ← attempt ((← IO.currentDir) / path).metadata with
  | .ok data => return some ((kindOf data.type).getD .file)
  | .error _ => return none

def answerOnDisk : (r : Request) → IO r.Answer
  | .kind path => kindAt path
  | .readText path => readTextFile path
  | .list path => attempt (listDirectory path)
  | .makeDirectories path => attempt (if path = "" then pure () else IO.FS.createDirAll path)
  | .write path text => attempt (IO.FS.writeFile path text)
  | .replace source target => attempt (IO.FS.rename source target)
  | .removeFile path => attempt (IO.FS.removeFile path)

def Program.perform {α : Type} : Program α → IO α
  | .done a => return a
  | .ask r next => do perform (next (← answerOnDisk r))

end QueryHeaders

def main (arguments : List String) : IO UInt32 := do
  let outcome ← (QueryHeaders.runArguments arguments).perform
  IO.print outcome.stdout
  IO.eprint outcome.stderr
  return outcome.status.toUInt32
