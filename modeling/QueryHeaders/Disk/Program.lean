import QueryHeaders.Disk.Access

/-!
Programs that use a disk.

A program is done, or asks something of the disk and goes on with the answer. It can be run on a
tree, which answers every request, and performed where there is a real disk.
-/
namespace QueryHeaders

inductive Request where
  | kind (path : String)
  | readText (path : String)
  | list (path : String)
  | makeDirectories (path : String)
  | write (path text : String)
  | replace (source target : String)
  | removeFile (path : String)

namespace Request

def Answer : Request → Type
  | .kind _ => Option Kind
  | .readText _ => Except Fault String
  | .list _ => Except Fault (List (String × Kind))
  | .makeDirectories _ | .write _ _ | .replace _ _ | .removeFile _ => Except Fault Unit

/-- What a tree answers, and the tree afterwards. -/
def answer (t : FileTree) : (r : Request) → r.Answer × FileTree
  | .kind path => (t.kind? path, t)
  | .readText path => (t.readText path, t)
  | .list path => (t.list path, t)
  | .makeDirectories path => t.makeDirectories path
  | .write path text => t.write path (.text text)
  | .replace source target => t.replace source target
  | .removeFile path => t.removeFile path

end Request

inductive Program (α : Type) where
  | done (a : α)
  | ask (r : Request) (next : r.Answer → Program α)

namespace Program

def bind {α β : Type} (next : α → Program β) : Program α → Program β
  | .done a => next a
  | .ask r rest => .ask r fun a => bind next (rest a)

instance : Monad Program where
  pure := .done
  bind p next := p.bind next

/-- The program that passes on the answer to a request. -/
def send (r : Request) : Program r.Answer := .ask r .done

/-- Runs a program on a tree. -/
def run {α : Type} (t : FileTree) : Program α → α × FileTree
  | .done a => (a, t)
  | .ask r next => let (a, t) := r.answer t; (next a).run t

theorem run_pure {α : Type} (t : FileTree) (a : α) : (pure a : Program α).run t = (a, t) := rfl

theorem run_bind {α β : Type} (t : FileTree) (p : Program α) (next : α → Program β) :
    (p >>= next).run t = (next (p.run t).1).run (p.run t).2 := by
  show (p.bind next).run t = _
  induction p generalizing t with
  | done a => rfl
  | ask r rest ih => exact ih _ _

theorem run_send (t : FileTree) (r : Request) : (send r).run t = r.answer t := rfl

def kind (path : String) : Program (Option Kind) := send (.kind path)

def readText (path : String) : Program (Except Fault String) := send (.readText path)

def list (path : String) : Program (Except Fault (List (String × Kind))) := send (.list path)

def makeDirectories (path : String) : Program (Except Fault Unit) :=
  send (.makeDirectories path)

def write (path text : String) : Program (Except Fault Unit) := send (.write path text)

def replace (source target : String) : Program (Except Fault Unit) :=
  send (.replace source target)

def removeFile (path : String) : Program (Except Fault Unit) := send (.removeFile path)

end Program

end QueryHeaders
