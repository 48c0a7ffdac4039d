import QueryHeaders.Artifact.Basic
import QueryHeaders.Failure

/-!
Writing artifacts into a directory.

Every artifact is first written beside its destination, and only when all of them are there are
they moved into place. A failure removes what is still beside a destination.
-/
namespace QueryHeaders.Artifact

/-- Where a file is written first, and where it belongs. -/
structure Staged where
  temporary : String
  destination : String
  deriving DecidableEq, Repr

/-- The path of an artifact. -/
def pathIn (directory : String) (a : Artifact) : String := Path.join directory a.fileName

def stagingPath (path : String) : String := path ++ ".tmp"

def stagedIn (directory : String) (a : Artifact) : Staged :=
  ⟨stagingPath (a.pathIn directory), a.pathIn directory⟩

/-- Removes staged files, as far as it can be done. -/
def discard : List Staged → Program Unit
  | [] => return ()
  | s :: rest => do
      let _ ← Program.removeFile s.temporary
      discard rest

/-- Stages texts, after those already staged. -/
def stage (directory : String) (staged : List Staged) : List Rendered → Job (List Staged)
  | [] => return staged
  | r :: rest => do
      let s := r.artifact.stagedIn directory
      match ← ExceptT.lift (Program.write s.temporary r.content) with
      | .ok () => stage directory (staged ++ [s]) rest
      | .error fault =>
          ExceptT.lift (discard staged)
          throw (.unwritable s.temporary fault)

/-- Moves staged files into place, and gives their paths. -/
def install : List Staged → Job (List String)
  | [] => return []
  | s :: rest => do
      match ← ExceptT.lift (Program.replace s.temporary s.destination) with
      | .ok () => return s.destination :: (← install rest)
      | .error fault =>
          ExceptT.lift (discard (s :: rest))
          throw (.unwritable s.destination fault)

/-- Writes artifacts, and gives their paths in order. -/
def writeAll (directory : String) (artifacts : List Rendered) : Job (List String) := do
  Job.require (.unwritable directory) (Program.makeDirectories directory)
  install (← stage directory [] artifacts)

end QueryHeaders.Artifact
