import QueryHeaders.Disk.Tree

/-!
Reading and changing a tree by paths.

A path is walked from the root, which is the working directory too, step by step: every step leaves
a directory, an empty one and a dot stay in it, and two dots go up, except from the root, where they
stay. Every operation that may fail says why, and gives the tree as it is afterwards.
-/
namespace QueryHeaders.FileTree

/-! ## Walking -/

/-- The place that steps lead to; nothing needs to stand there. -/
def walk (t : FileTree) (here : Place) : List String → Except Fault Place
  | [] => .ok here
  | step :: rest =>
      match t.entry? here with
      | none => .error .notFound
      | some (.file _) => .error .notDirectory
      | some .directory =>
          if step = "" ∨ step = "." then t.walk here rest
          else if step = ".." then t.walk here.dropLast rest
          else t.walk (here ++ [step]) rest

def locate (t : FileTree) (path : String) : Except Fault Place :=
  if path = "" then .error .notFound else t.walk [] (Path.steps path)

/-- What stands at a path. -/
def find? (t : FileTree) (path : String) : Option Entry :=
  match t.locate path with
  | .ok p => t.entry? p
  | .error _ => none

def kind? (t : FileTree) (path : String) : Option Kind := (t.find? path).map Entry.kind

/-! ## Reading -/

/-- The text of a file. -/
def readText (t : FileTree) (path : String) : Except Fault String := do
  match t.entry? (← t.locate path) with
  | none => throw .notFound
  | some .directory => throw .isDirectory
  | some (.file (.binary _)) => throw .notText
  | some (.file (.text s)) => return s

/-- Puts a name in its place, unless it is there. -/
def insertName (name : String) : List String → List String
  | [] => [name]
  | other :: rest =>
      if name < other then name :: other :: rest
      else if name = other then other :: rest
      else other :: insertName name rest

/-- The name of a place in a directory. -/
def nameIn? (directory p : Place) : Option String :=
  if p.dropLast = directory then p.getLast? else none

/-- The names in a directory, in order. -/
def names (t : FileTree) (directory : Place) : List String :=
  (t.entries.filterMap fun x => nameIn? directory x.1).foldl (fun sorted n => insertName n sorted) []

/-- The names in the directory at a path, in order, each with its kind. -/
def list (t : FileTree) (path : String) : Except Fault (List (String × Kind)) := do
  let p ← t.locate path
  match t.entry? p with
  | none => throw .notFound
  | some (.file _) => throw .notDirectory
  | some .directory =>
      return (t.names p).filterMap fun n => (t.entry? (p ++ [n])).map fun e => (n, e.kind)

/-! ## Changing -/

/-- The fault of a file where a directory is to be made. The whole path is tried first, and only then
each part of it that ends in a name; what is tried finds a file by its last name, and any other is in
its way. -/
def faultAtFile (begun : Bool) (rest : List String) : Fault :=
  let byName := if begun then !Path.endsInDot rest else rest.all (· = "")
  if byName then .exists else .notDirectory

/-- Makes the directories that steps lead through; `begun` tells whether one has been made before.
The last one is not made if its name is closed by a dot. -/
def makeAlong (t : FileTree) (begun : Bool) (here : Place) :
    List String → Except Fault Unit × FileTree
  | [] => (.ok (), t)
  | step :: rest =>
      if step = "" ∨ step = "." then t.makeAlong begun here rest
      else if step = ".." then t.makeAlong begun here.dropLast rest
      else
        let next := here ++ [step]
        match t.entry? next with
        | some .directory => t.makeAlong begun next rest
        | some (.file _) => (.error (faultAtFile begun rest), t)
        | none =>
            if h : t.Admits next ∧ Path.endsInDot rest = false then
              (t.put next .directory h.1).makeAlong true next rest
            else (.error .notFound, t)

/-- Makes a directory and those above it, where they do not stand yet. -/
def makeDirectories (t : FileTree) (path : String) : Except Fault Unit × FileTree :=
  t.makeAlong false [] (Path.steps path)

/-- Writes a file, over an earlier one. -/
def write (t : FileTree) (path : String) (c : Content) : Except Fault Unit × FileTree :=
  match t.locate path with
  | .error f => (.error f, t)
  | .ok p =>
      if h : t.Admits p then (.ok (), t.put p (.file c) h)
      else if (t.entry? p).any Entry.isDirectory then (.error .isDirectory, t)
      else (.error .notFound, t)

/-- Moves a file, over another one. -/
def replace (t : FileTree) (source target : String) : Except Fault Unit × FileTree :=
  match t.locate source, t.locate target with
  | .error f, _ | .ok _, .error f => (.error f, t)
  | .ok p, .ok q =>
      match t.entry? p with
      | none => (.error .notFound, t)
      | some .directory => (.error .isDirectory, t)
      | some (.file c) =>
          if h : (t.remove p).Admits q then (.ok (), (t.remove p).put q (.file c) h)
          else if (t.entry? q).any Entry.isDirectory then (.error .isDirectory, t)
          else (.error .notFound, t)

/-- Removes a file. -/
def removeFile (t : FileTree) (path : String) : Except Fault Unit × FileTree :=
  match t.locate path with
  | .error f => (.error f, t)
  | .ok p =>
      match t.entry? p with
      | none => (.error .notFound, t)
      | some .directory => (.error .isDirectory, t)
      | some (.file _) => (.ok (), t.remove p)

/-- Removes what stands at a path, with everything in it. -/
def removeAll (t : FileTree) (path : String) : FileTree :=
  match t.locate path with
  | .error _ => t
  | .ok p => t.remove p

/-- Every entry below a place, a directory before what it holds; at most `fuel` levels are
listed. -/
def below (t : FileTree) : (fuel : Nat) → Place → List (Place × Entry)
  | 0, _ => []
  | fuel + 1, p =>
      (t.names p).flatMap fun n =>
        let q := p ++ [n]
        match t.entry? q with
        | none => []
        | some e => (q, e) :: (if e.isDirectory then t.below fuel q else [])

/-- Every entry of the tree. -/
def all (t : FileTree) : List (Place × Entry) := t.below (t.entries.length + 1) []

end QueryHeaders.FileTree
